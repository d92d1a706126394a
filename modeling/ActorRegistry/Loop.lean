import ActorRegistry.Run

/-! `run_registry`, the standalone server: one pass of its loop body, from the decoded request
to the reply it sends. -/
namespace ActorRegistry

open GlobalRegistry

/-- `reply` in `run_registry`'s loop body: a reply message, or the error dict
`{'error': f'Unknown message type: {msg_type}'}`, kept as the value it formats. -/
inductive LoopReply
  | message (r : Reply Json Json)
  | unknownType (msgType : Json)

variable {T : Type} [LinearOrderedCommRing T] {s : GlobalRegistry Key Json T} {now : T}

/-- One pass of `run_registry`'s loop on `loaded`, the result of
`json.loads(msg_bytes.decode('utf-8'))`. `.error` is an exception that `except zmq.ZMQError`
does not catch, which ends `run_registry`. -/
def runRegistryIteration (s : GlobalRegistry Key Json T) (now : T) (loaded : Except PyExc Json) :
    Except PyExc (GlobalRegistry Key Json T × LoopReply) := do
  let msgJson ← loaded
  let msgType ← msgJson.get "message_type"
  match msgType with
  | .str "RegisterActor" =>
    let managerId ← msgJson.getItem "manager_id"
    let actorName ← msgJson.getItem "actor_name"
    let actorEndpoint ← msgJson.getItem "actor_endpoint"
    let n ← actorName.key
    if n ∈ s.registry then
      pure (s, .message (.registrationFailed actorName "Name already registered"))
    else
      let m ← managerId.key
      pure (s.addActor now m n actorEndpoint, .message (.registrationOk actorName))
  | .str "UnregisterActor" =>
    let actorName ← msgJson.getItem "actor_name"
    let n ← actorName.key
    pure (s.popActor n, .message (.registrationOk actorName))
  | .str "LookupActor" =>
    let actorName ← msgJson.getItem "actor_name"
    let n ← actorName.key
    match s.registry.lookup n with
    | some entry =>
      pure (s, .message (.lookupResult actorName (some entry.endpoint)
        (s.isManagerOnline now entry.managerId)))
    | none => pure (s, .message (.lookupResult actorName none false))
  | .str "Heartbeat" =>
    let managerId ← msgJson.getItem "manager_id"
    let m ← managerId.key
    pure (s.beat now m, .message .heartbeatAck)
  | _ => pure (s, .unknownType msgType)

@[simp] def Request.toKeyed (r : Request String String) : Request Key Json := r.map Key.str Json.str

/-- The replies an `_on_*` handler sends through `ctx.reply`, as the messages `run_registry`
would send. -/
def handlerReplies (s : GlobalRegistry Key Json T) (now : T) (r : Request String String) :
    List LoopReply :=
  (s.handle now r.toKeyed).2.map fun rep => .message (rep.map Key.toJson)

theorem Request.toDict_toKeyed (r : Request String String) :
    r.toKeyed.toDict Key.toJson id = r.toDict Json.str Json.str := by
  cases r <;> rfl

theorem handlerReplies_eq (r : Request String String) :
    handlerReplies s now r = ((s.handle now r.toKeyed).2.map (Reply.map Key.toJson)).map .message := by
  rw [List.map_map]; rfl

theorem runRegistryIteration_handle (r : Request Key Json) :
    ∃ reply, runRegistryIteration s now (.ok (r.toDict Key.toJson id)) =
        .ok ((s.handle now r).1, .message reply) ∧
      ((s.handle now r).2.map (Reply.map Key.toJson) = [reply] ∨
        ∃ n, r = .unregisterActor n ∧ (s.handle now r).2 = [] ∧ reply = .registrationOk n.toJson) := by
  cases r <;> simp only [runRegistryIteration, Request.toDict, Json.get_obj, Json.getItem,
    lookup_cons_ite, String.reduceEq, if_true, if_false, Option.getD_some, id_eq, Key.toJson_key,
    except_ok_bind, handle]
  case registerActor m n e =>
    by_cases hn : n ∈ s.registry
    · rw [onRegister_of_mem hn]; exact ⟨_, by rw [if_pos hn]; rfl, .inl rfl⟩
    · rw [onRegister_of_not_mem hn]; exact ⟨_, by rw [if_neg hn]; rfl, .inl rfl⟩
  case unregisterActor n =>
    rw [onUnregister_eq]; exact ⟨_, rfl, .inr ⟨n, rfl, rfl, rfl⟩⟩
  case lookupActor n =>
    unfold onLookup
    cases s.registry.lookup n <;> exact ⟨_, rfl, .inl rfl⟩
  case heartbeat m ts => exact ⟨_, rfl, .inl rfl⟩

/-- The two forms of the server agree on every typed request: the same state, and the same
single reply, except that `_on_unregister` sends none where `run_registry` answers
`RegistrationOk`. -/
theorem runRegistryIteration_agrees (r : Request String String) :
    ∃ reply, runRegistryIteration s now (.ok (r.toDict Json.str Json.str)) =
        .ok ((s.handle now r.toKeyed).1, reply) ∧
      (handlerReplies s now r = [reply] ∨ ∃ n, r = .unregisterActor n ∧
        handlerReplies s now r = [] ∧ reply = .message (.registrationOk (.str n))) := by
  obtain ⟨reply, hit, hrep⟩ := @runRegistryIteration_handle T _ s now r.toKeyed
  rw [Request.toDict_toKeyed] at hit
  refine ⟨_, hit, ?_⟩
  rw [handlerReplies_eq]
  rcases hrep with h | ⟨n, hn, h, rfl⟩
  · exact .inl (by rw [h]; rfl)
  · cases r <;> simp only [Request.toKeyed, Request.map, Request.unregisterActor.injEq,
      reduceCtorEq] at hn
    subst hn
    exact .inr ⟨_, rfl, by rw [h]; rfl, rfl⟩

/-- `_on_unregister` never answers: for every state and name, the handler sends no reply,
while `run_registry` leaves the same state and answers `RegistrationOk`. -/
theorem onUnregister_sends_no_reply (n : String) :
    handlerReplies s now (.unregisterActor n) = [] ∧
      runRegistryIteration s now (.ok ((Request.unregisterActor n).toDict Json.str Json.str)) =
        .ok ((s.handle now (Request.unregisterActor n).toKeyed).1, .message (.registrationOk (.str n))) := by
  obtain ⟨reply, hit, h | ⟨_, hn, h, rfl⟩⟩ := @runRegistryIteration_handle T _ s now (.unregisterActor (.str n))
  · simp [handle, onUnregister_eq] at h
  · rw [Request.unregisterActor.injEq] at hn
    subst hn
    rw [handlerReplies_eq]
    exact ⟨by rw [Request.toKeyed, Request.map, h]; rfl, hit⟩

/-! ### Every input, classified -/

def knownTypes : List String := ["RegisterActor", "UnregisterActor", "LookupActor", "Heartbeat"]

def UnknownType (kvs : List (String × Json)) : Prop :=
  ∀ τ ∈ knownTypes, kvs.lookup "message_type" ≠ some (.str τ)

def NameField (kvs : List (String × Json)) (k : String) (key : Key) : Prop :=
  ∃ v, kvs.lookup k = some v ∧ v.key = .ok key

/-- The dict reads as request `r`: its `message_type`, and each field the branch reads present
and hashable. A `Heartbeat`'s `timestamp_ms` is never read. -/
def Describes (kvs : List (String × Json)) : Request Key Json → Prop
  | .registerActor m n e => kvs.lookup "message_type" = some (.str "RegisterActor") ∧
      NameField kvs "manager_id" m ∧ NameField kvs "actor_name" n ∧
      kvs.lookup "actor_endpoint" = some e
  | .unregisterActor n =>
      kvs.lookup "message_type" = some (.str "UnregisterActor") ∧ NameField kvs "actor_name" n
  | .lookupActor n =>
      kvs.lookup "message_type" = some (.str "LookupActor") ∧ NameField kvs "actor_name" n
  | .heartbeat m _ =>
      kvs.lookup "message_type" = some (.str "Heartbeat") ∧ NameField kvs "manager_id" m

/-- A `RegisterActor` with its three fields and a registered `actor_name`; its `manager_id` is
then never hashed, and may be any value. -/
def RefusedName (s : GlobalRegistry Key Json T) (kvs : List (String × Json)) : Prop :=
  kvs.lookup "message_type" = some (.str "RegisterActor") ∧ (∃ m, kvs.lookup "manager_id" = some m) ∧
    (∃ n ∈ s.registry, NameField kvs "actor_name" n) ∧ ∃ e, kvs.lookup "actor_endpoint" = some e

theorem messageType_of_getD {kvs : List (String × Json)} {τ : String}
    (h : (kvs.lookup "message_type").getD .null = .str τ) :
    kvs.lookup "message_type" = some (.str τ) :=
  (Option.getD_eq_iff.mp h).resolve_right fun ⟨_, h⟩ => nomatch h

/-- What an answered pass read: a dict of unknown type, one describing a request, whose state
is then the handler's, or a `RegisterActor` refused by name. -/
theorem runRegistryIteration_eq_ok {loaded : Except PyExc Json} {s' : GlobalRegistry Key Json T}
    {rep : LoopReply} (h : runRegistryIteration s now loaded = .ok (s', rep)) :
    ∃ kvs, loaded = .ok (.obj kvs) ∧
      ((UnknownType kvs ∧ s' = s ∧ rep = .unknownType ((kvs.lookup "message_type").getD .null)) ∨
        (∃ r, Describes kvs r ∧ s' = (s.handle now r).1 ∧ ∃ rep', rep = .message rep') ∨
        (RefusedName s kvs ∧ s' = s ∧ ∃ a, rep = .message (.registrationFailed a "Name already registered"))) := by
  unfold runRegistryIteration at h
  obtain ⟨j, rfl, h⟩ := except_bind_eq_ok.mp h
  cases j with
  | obj kvs =>
    refine ⟨kvs, rfl, ?_⟩
    simp only [Json.get_obj, except_ok_bind] at h
    split at h <;> simp only [except_bind_eq_ok, Json.getItem_obj_eq_ok, except_pure,
      Except.ok.injEq, Prod.mk.injEq] at h
    case h_1 htype =>
      obtain ⟨mv, hmv, av, hav, ev, hev, n, hn, h⟩ := h
      split_ifs at h with hr
      · obtain ⟨rfl, rfl⟩ := h
        exact .inr (.inr ⟨⟨messageType_of_getD htype, ⟨mv, hmv⟩, ⟨n, hr, av, hav, hn⟩, ev, hev⟩,
          rfl, av, rfl⟩)
      · obtain ⟨m, hm, h⟩ := except_bind_eq_ok.mp h
        obtain ⟨rfl, rfl⟩ := Prod.mk.inj (Except.ok.inj h)
        exact .inr (.inl ⟨.registerActor m n ev, ⟨messageType_of_getD htype, ⟨mv, hmv, hm⟩,
          ⟨av, hav, hn⟩, hev⟩, by rw [handle, onRegister_of_not_mem hr], _, rfl⟩)
    case h_2 htype =>
      obtain ⟨av, hav, n, hn, rfl, rfl⟩ := h
      exact .inr (.inl ⟨.unregisterActor n, ⟨messageType_of_getD htype, av, hav, hn⟩,
        by rw [handle, onUnregister_eq], _, rfl⟩)
    case h_3 htype =>
      obtain ⟨av, hav, n, hn, h⟩ := h
      have hd : Describes kvs (.lookupActor n) := ⟨messageType_of_getD htype, av, hav, hn⟩
      split at h <;> obtain ⟨rfl, rfl⟩ := Prod.mk.inj (Except.ok.inj h) <;>
        exact .inr (.inl ⟨_, hd, by rw [handle, onLookup_fst], _, rfl⟩)
    case h_4 htype =>
      obtain ⟨mv, hmv, m, hm, rfl, rfl⟩ := h
      exact .inr (.inl ⟨.heartbeat m 0, ⟨messageType_of_getD htype, mv, hmv, hm⟩, rfl, _, rfl⟩)
    case h_5 hτ₁ hτ₂ hτ₃ hτ₄ =>
      obtain ⟨rfl, rfl⟩ := h
      refine .inl ⟨?_, rfl, rfl⟩
      intro τ hτ h
      simp only [knownTypes, List.mem_cons, List.not_mem_nil, or_false] at hτ
      rcases hτ with rfl | rfl | rfl | rfl <;> simp_all
  | _ => cases h

end ActorRegistry
