import Mathlib.Algebra.Order.Ring.Rat

/-! Python values as `json.loads` returns them, and the dict operations the registry
loop applies to them. -/
namespace ActorRegistry

/-- A value `json.loads` returns. A number is kept as the exact value it denotes, where Python
gives an `int` or a rounded `float`; the literals `NaN` and `Infinity` are not modelled. An
object is the list of its entries, keys distinct as in the dict Python builds. -/
inductive Json
  | null
  | bool (b : Bool)
  | num (q : ℚ)
  | str (s : String)
  | arr (xs : List Json)
  | obj (kvs : List (String × Json))

/-- A hashable value as a dict key. Python's `True == 1 == 1.0` make a bool and the number
it equals one key, so a bool is stored as that number. -/
inductive Key
  | none
  | num (q : ℚ)
  | str (s : String)
  deriving DecidableEq, Repr

/-- The exceptions the body of `run_registry`'s loop can raise, besides `zmq.ZMQError`. -/
inductive PyExc
  | unicodeDecodeError
  | jsonDecodeError
  | attributeError
  | keyError (key : Key)
  | typeError
  deriving DecidableEq, Repr

section Except
variable {ε α β : Type} (a : α) (e : ε) (f : α → Except ε β) (g : α → β)

@[simp] theorem except_pure : (pure a : Except ε α) = .ok a := rfl
@[simp] theorem except_ok_bind : (Except.ok a >>= f) = f a := rfl
@[simp] theorem except_error_bind : (Except.error e >>= f) = .error e := rfl
@[simp] theorem except_map_ok : (g <$> (Except.ok a : Except ε α)) = .ok (g a) := rfl
@[simp] theorem except_map_error : (g <$> (Except.error e : Except ε α)) = .error e := rfl

theorem except_bind_eq_ok {x : Except ε α} {k : α → Except ε β} {b : β} :
    (x >>= k) = .ok b ↔ ∃ a, x = .ok a ∧ k a = .ok b := by
  cases x <;> simp [except_ok_bind, except_error_bind]

end Except

/-- `hash(v)`, taken when `v` is looked up in or stored into a dict: lists and dicts are
unhashable. -/
def Json.key : Json → Except PyExc Key
  | .null => .ok .none
  | .bool b => .ok (.num (if b then 1 else 0))
  | .num q => .ok (.num q)
  | .str s => .ok (.str s)
  | .arr _ | .obj _ => .error .typeError

def Key.toJson : Key → Json
  | .none => .null
  | .num q => .num q
  | .str s => .str s

@[simp] theorem Key.toJson_key (k : Key) : k.toJson.key = .ok k := by
  cases k <;> rfl

/-- `msg_json.get(k)`: `None` when the key is absent; only a dict has `get`. -/
def Json.get (j : Json) (k : String) : Except PyExc Json :=
  match j with
  | .obj kvs => .ok ((kvs.lookup k).getD .null)
  | _ => .error .attributeError

/-- `msg_json[k]`: `KeyError` when the key is absent; only a dict is subscripted by a
string here. -/
def Json.getItem (j : Json) (k : String) : Except PyExc Json :=
  match j with
  | .obj kvs => match kvs.lookup k with
    | some v => .ok v
    | none => .error (.keyError (.str k))
  | _ => .error .typeError

theorem lookup_cons_ite {α β : Type} [DecidableEq α] (k k' : α) (v : β) (l : List (α × β)) :
    ((k', v) :: l).lookup k = if k = k' then some v else l.lookup k := by
  rw [List.lookup_cons]; split <;> simp_all

@[simp] theorem Json.get_obj (kvs : List (String × Json)) (k : String) :
    (Json.obj kvs).get k = .ok ((kvs.lookup k).getD .null) := rfl

theorem Json.getItem_obj_eq_ok {kvs : List (String × Json)} {k : String} {v : Json} :
    (Json.obj kvs).getItem k = .ok v ↔ kvs.lookup k = some v := by
  cases h : kvs.lookup k <;> simp [Json.getItem, h]

end ActorRegistry
