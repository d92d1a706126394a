import ActorRegistry.Json
import Mathlib.Logic.Function.Basic

/-! `RegistryClient._send_recv`: threads sharing one ZeroMQ REQ socket under `_socket_lock`.
A REQ socket alternates strictly: `send` is refused (`EFSM`) until the reply to the previous
request has been received, and `recv` gives up after `RCVTIMEO` with `zmq.Again`, leaving the
socket still waiting for that reply. The lock keeps the calls apart, and each reply a thread
receives answers its own request; but one receive timeout leaves the socket waiting for good,
and every later call, the heartbeat thread's included, fails at `send`. -/
namespace ActorRegistry

/-- The client's socket: `_socket is None`, a REQ socket that may send, or one that waits for
the reply to `req`. -/
inductive Sock
  | closed
  | ready
  | awaiting (req : Json)

/-- What `_send_recv` ended with: the reply it returned, `zmq.Again` from `recv_json`, or the
`zmq.ZMQError` (`EFSM`) that `send_json` raises on a socket still waiting for a reply. -/
inductive Outcome
  | reply (j : Json)
  | again
  | efsm

/-- Where a thread is: outside `_send_recv`, holding the lock before `send_json(msg)`, or in
`recv_json()` after it. -/
inductive Pc
  | idle
  | locked (msg : Json)
  | sent (msg : Json)

def Pc.isIdle : Pc → Bool
  | .idle => true
  | _ => false

def Pc.isSent : Pc → Bool
  | .sent _ => true
  | _ => false

theorem Pc.isSent_of_isIdle {p : Pc} (h : p.isIdle = true) : p.isSent = false := by
  cases p <;> first | rfl | cases h

/-- A `RegistryClient` shared by threads `Th` (the heartbeat thread and callers), with two ghost
records: the requests that reached the wire, and each finished `_send_recv` with its thread,
request and outcome. -/
structure ClientState (Th : Type) where
  socket : Sock
  holder : Option Th
  pc : Th → Pc
  wire : List Json
  log : List (Th × Json × Outcome)

/-- One atomic step of a thread: taking the lock to send `msg`, `send_json`, `recv_json` (`none`
when `RCVTIMEO` runs out), or the socket part of `close()`. -/
inductive ClientAction (Th : Type)
  | call (th : Th) (msg : Json)
  | send (th : Th)
  | recv (th : Th) (reply : Option Json)
  | close

namespace ClientState
variable {Th : Type} {c d e : ClientState Th} {th th' : Th} {msg req : Json}

def initial : ClientState Th := ⟨.closed, none, fun _ => .idle, [], []⟩

/-- The invariant of every run: a thread is inside `_send_recv` exactly when it holds the lock;
a thread in `recv_json()` waits for the reply to its own request; and until a receive has timed
out, the socket waits only for a request whose sender is in `recv_json()`. -/
structure Inv (c : ClientState Th) : Prop where
  exclusive : ∀ th, (c.pc th).isIdle = false ↔ c.holder = some th
  pairing : ∀ th msg, c.pc th = .sent msg → c.socket = .awaiting msg
  clean : (∀ x ∈ c.log, x.2.2 ≠ .again) → ∀ req, c.socket = .awaiting req →
    ∃ th, c.pc th = .sent req

theorem Inv.initial : (initial : ClientState Th).Inv where
  exclusive th := by simp [ClientState.initial, Pc.isIdle]
  pairing th msg h := by cases h
  clean _ req h := by cases h

theorem Inv.idle_of_ne (h : c.Inv) (hheld : c.holder = some th) (hne : th' ≠ th) :
    (c.pc th').isIdle = true := by
  by_contra hc
  exact hne (Option.some.inj (((h.exclusive th').mp (by simpa using hc)).symm.trans hheld))

variable [DecidableEq Th]

def step (c : ClientState Th) : ClientAction Th → Option (ClientState Th)
  | .call th msg =>
    if c.holder.isNone && (c.pc th).isIdle then
      some { c with holder := some th, pc := Function.update c.pc th (.locked msg) }
    else none
  | .send th => match c.pc th with
    | .locked msg => match c.socket with
      | .awaiting _ => some { c with
          holder := none
          pc := Function.update c.pc th .idle
          log := c.log ++ [(th, msg, .efsm)] }
      | _ => some { c with
          socket := .awaiting msg
          pc := Function.update c.pc th (.sent msg)
          wire := c.wire ++ [msg] }
    | _ => none
  | .recv th reply => match c.pc th with
    | .sent msg => match reply with
      | some j => some { c with
          socket := .ready
          holder := none
          pc := Function.update c.pc th .idle
          log := c.log ++ [(th, msg, .reply j)] }
      | none => some { c with
          holder := none
          pc := Function.update c.pc th .idle
          log := c.log ++ [(th, msg, .again)] }
    | _ => none
  | .close => if c.holder.isNone then some { c with socket := .closed } else none

/-- A run; `none` when some step is not enabled. Every interleaving of the threads and every
pattern of timeouts is some list of actions. -/
def exec (c : ClientState Th) : List (ClientAction Th) → Option (ClientState Th)
  | [] => some c
  | a :: as => (c.step a).bind fun d => d.exec as

theorem exec_cons {a : ClientAction Th} {as : List (ClientAction Th)} :
    c.exec (a :: as) = some e ↔ ∃ d, c.step a = some d ∧ d.exec as = some e :=
  Option.bind_eq_some

/-! ### What each step does -/

theorem step_call_eq (hs : c.step (.call th msg) = some d) :
    c.holder = none ∧ d = { c with
      holder := some th
      pc := Function.update c.pc th (.locked msg) } := by
  simp only [step, Bool.and_eq_true, Option.isNone_iff_eq_none, Option.ite_none_right_eq_some,
    Option.some.injEq] at hs
  exact ⟨hs.1.1, hs.2.symm⟩

theorem step_send_eq (hs : c.step (.send th) = some d) : ∃ msg, c.pc th = .locked msg ∧
    ((∃ req, c.socket = .awaiting req ∧ d = { c with
        holder := none
        pc := Function.update c.pc th .idle
        log := c.log ++ [(th, msg, .efsm)] }) ∨
      ((∀ req, c.socket ≠ .awaiting req) ∧ d = { c with
        socket := .awaiting msg
        pc := Function.update c.pc th (.sent msg)
        wire := c.wire ++ [msg] })) := by
  cases hpc : c.pc th <;> simp only [step, hpc, reduceCtorEq] at hs
  rename_i msg
  refine ⟨msg, rfl, ?_⟩
  split at hs <;> cases hs
  · exact .inl ⟨_, ‹_›, rfl⟩
  · exact .inr ⟨‹_›, rfl⟩

theorem step_recv_some_eq {j : Json} (hs : c.step (.recv th (some j)) = some d) :
    ∃ msg, c.pc th = .sent msg ∧ d = { c with
      socket := .ready
      holder := none
      pc := Function.update c.pc th .idle
      log := c.log ++ [(th, msg, .reply j)] } := by
  cases hpc : c.pc th <;> simp only [step, hpc, reduceCtorEq, Option.some.injEq] at hs
  exact ⟨_, rfl, hs.symm⟩

theorem step_recv_none_eq (hs : c.step (.recv th none) = some d) :
    ∃ msg, c.pc th = .sent msg ∧ d = { c with
      holder := none
      pc := Function.update c.pc th .idle
      log := c.log ++ [(th, msg, .again)] } := by
  cases hpc : c.pc th <;> simp only [step, hpc, reduceCtorEq, Option.some.injEq] at hs
  exact ⟨_, rfl, hs.symm⟩

theorem step_close_eq (hs : c.step .close = some d) :
    c.holder = none ∧ d = { c with socket := .closed } := by
  simp only [step, Option.isNone_iff_eq_none, Option.ite_none_right_eq_some, Option.some.injEq] at hs
  exact ⟨hs.1, hs.2.symm⟩

/-! ### The lock and the pairing of requests and replies -/

theorem idle_update (h : c.Inv) (hheld : c.holder = some th) (th' : Th) :
    (Function.update c.pc th .idle th').isIdle = true := by
  by_cases he : th' = th
  · subst he; simp [Pc.isIdle]
  · rw [Function.update_noteq he]; exact h.idle_of_ne hheld he

theorem Inv.release {lg : List (Th × Json × Outcome)} {sock : Sock} (h : c.Inv)
    (hheld : c.holder = some th) (hlg : (∀ x ∈ lg, x.2.2 ≠ .again) → ∀ req, sock = .awaiting req →
      ∃ th', Function.update c.pc th .idle th' = .sent req) :
    Inv ⟨sock, none, Function.update c.pc th .idle, c.wire, lg⟩ := by
  refine ⟨fun th' => by simp [idle_update h hheld th'], fun th' msg' hp => ?_, hlg⟩
  have := idle_update h hheld th'
  simp only at hp; rw [hp] at this; cases this

theorem Inv.call (h : c.Inv) (hs : c.step (.call th msg) = some d) : d.Inv := by
  simp only [step, Bool.and_eq_true, Option.isNone_iff_eq_none, Option.ite_none_right_eq_some,
    Option.some.injEq] at hs
  obtain ⟨⟨hfree, hidle⟩, rfl⟩ := hs
  refine ⟨fun th' => ?_, fun th' msg' hp => ?_, fun hl req hr => ?_⟩ <;> dsimp only at *
  · by_cases he : th' = th
    · subst he; simp [Pc.isIdle]
    · rw [Function.update_noteq he, h.exclusive, hfree]
      simp [Ne.symm he]
  · by_cases he : th' = th
    · subst he; simp at hp
    · rw [Function.update_noteq he] at hp
      exact h.pairing th' msg' hp
  · obtain ⟨th', hth'⟩ := h.clean hl req hr
    have hne : th' ≠ th := by rintro rfl; rw [hth'] at hidle; cases hidle
    exact ⟨th', by rw [Function.update_noteq hne]; exact hth'⟩

theorem Inv.send (h : c.Inv) (hs : c.step (.send th) = some d) : d.Inv := by
  cases hpc : c.pc th with
  | idle | sent _ => simp [step, hpc] at hs
  | locked msg =>
    have hheld : c.holder = some th := (h.exclusive th).mp (by rw [hpc]; rfl)
    simp only [step, hpc] at hs
    split at hs <;> cases hs
    case h_1.refl req hsock =>
      refine h.release hheld fun hl req' _ => ?_
      obtain ⟨th', hth'⟩ := h.clean (fun x hx => hl x (List.mem_append_left _ hx)) req hsock
      have hne : th' ≠ th := by rintro rfl; rw [hpc] at hth'; cases hth'
      have := h.idle_of_ne hheld hne; rw [hth'] at this; cases this
    case h_2.refl =>
      refine ⟨fun th' => ?_, fun th' msg' hp => ?_, fun _ req hr => ⟨th, ?_⟩⟩ <;> dsimp only at *
      · by_cases he : th' = th
        · subst he; simpa [Pc.isIdle] using hheld
        · rw [Function.update_noteq he]; exact h.exclusive th'
      · by_cases he : th' = th
        · subst he; simpa using hp
        · rw [Function.update_noteq he] at hp
          have := h.idle_of_ne hheld he; rw [hp] at this; cases this
      · cases hr; exact Function.update_same _ _ _

theorem Inv.recv {reply : Option Json} (h : c.Inv) (hs : c.step (.recv th reply) = some d) :
    d.Inv := by
  cases hpc : c.pc th with
  | idle | locked _ => simp [step, hpc] at hs
  | sent msg =>
    have hheld : c.holder = some th := (h.exclusive th).mp (by rw [hpc]; rfl)
    cases reply <;> simp only [step, hpc, Option.some.injEq] at hs <;> subst hs
    · exact h.release hheld fun hl =>
        absurd rfl (hl _ (List.mem_append_right _ (List.mem_singleton_self _)))
    · exact h.release hheld fun _ req hr => by cases hr

theorem Inv.close (h : c.Inv) (hs : c.step .close = some d) : d.Inv := by
  simp only [step, Option.isNone_iff_eq_none, Option.ite_none_right_eq_some,
    Option.some.injEq] at hs
  obtain ⟨hfree, rfl⟩ := hs
  refine ⟨h.exclusive, fun th' msg' hp => ?_, fun _ req hr => by cases hr⟩
  have := (h.exclusive th').mp (by simp only at hp; rw [hp]; rfl)
  rw [hfree] at this; cases this

theorem Inv.step {a : ClientAction Th} (h : c.Inv) (hs : c.step a = some d) : d.Inv := by
  cases a with
  | call th msg => exact h.call hs
  | send th => exact h.send hs
  | recv th reply => exact h.recv hs
  | close => exact h.close hs

theorem Inv.exec {acts : List (ClientAction Th)} (h : c.Inv) (he : c.exec acts = some e) :
    e.Inv := by
  induction acts generalizing c with
  | nil => cases he; exact h
  | cons a acts ih =>
    obtain ⟨d, hd, he⟩ := exec_cons.mp he
    exact ih (h.step hd) he

/-- In every run: at most one thread is inside `_send_recv`, a thread in `recv_json()` waits for
the reply to its own request, and, until a receive times out, a thread holding the lock sends. -/
theorem send_recv_paired {acts : List (ClientAction Th)} (hc : initial.exec acts = some c) :
    (∀ th th', (c.pc th).isIdle = false → (c.pc th').isIdle = false → th = th') ∧
    (∀ th msg, c.pc th = .sent msg → c.socket = .awaiting msg) ∧
    ((∀ x ∈ c.log, x.2.2 ≠ .again) → ∀ th msg, c.pc th = .locked msg →
      ∃ d, c.step (.send th) = some d ∧ d.wire = c.wire ++ [msg]) := by
  have h := Inv.initial.exec hc
  refine ⟨fun th th' h1 h2 => Option.some.inj (((h.exclusive th).mp h1).symm.trans
    ((h.exclusive th').mp h2)), h.pairing, fun hl th msg hpc => ?_⟩
  simp only [step, hpc]
  split
  case h_1 req hr =>
    obtain ⟨th', hth'⟩ := h.clean hl req hr
    have h1 := (h.exclusive th).mp (by rw [hpc]; rfl)
    have h2 := (h.exclusive th').mp (by rw [hth']; rfl)
    cases Option.some.inj (h1.symm.trans h2)
    rw [hpc] at hth'; cases hth'
  all_goals exact ⟨_, rfl, rfl⟩

theorem send_recv_paired_lookup :
    let msg : Json := .obj [("message_type", .str "LookupActor"), ("actor_name", .str "a")]
    ∃ c : ClientState String, initial.exec [.call "caller" msg, .send "caller"] = some c ∧
      c.socket = .awaiting msg := by
  intro msg
  have hc : (initial : ClientState String).exec [.call "caller" msg, .send "caller"] = some _ := rfl
  exact ⟨_, hc, (send_recv_paired hc).2.1 "caller" msg rfl⟩

/-! ### One receive timeout wedges the socket -/

/-- The socket waits for the reply to `req` and no thread is in `recv_json()` to take it. -/
def Wedged (req : Json) (c : ClientState Th) : Prop :=
  c.socket = .awaiting req ∧ ∀ th, (c.pc th).isSent = false

/-- A wedged socket stays wedged under every step but `close`: nothing reaches the wire, and
a step either leaves the log alone or records a `_send_recv` that failed with `EFSM`. -/
theorem wedged_step {a : ClientAction Th} (hw : Wedged req c) (ha : a ≠ .close)
    (hs : c.step a = some d) :
    Wedged req d ∧ d.wire = c.wire ∧ (d.log = c.log ∨ ∃ th msg, d.log = c.log ++ [(th, msg, .efsm)]) := by
  obtain ⟨hsock, hsent⟩ := hw
  cases a with
  | call th msg =>
    simp only [step, Option.ite_none_right_eq_some, Option.some.injEq] at hs
    obtain ⟨-, rfl⟩ := hs
    refine ⟨⟨hsock, fun th' => ?_⟩, rfl, .inl rfl⟩
    by_cases he : th' = th
    · subst he; simp [Pc.isSent]
    · simp only [Function.update_noteq he]; exact hsent th'
  | send th =>
    cases hpc : c.pc th <;> simp only [step, hpc, hsock, Option.some.injEq, reduceCtorEq] at hs
    subst hs
    refine ⟨⟨rfl, fun th' => ?_⟩, rfl, .inr ⟨th, _, rfl⟩⟩
    by_cases he : th' = th
    · subst he; simp [Pc.isSent]
    · simp only [Function.update_noteq he]; exact hsent th'
  | recv th reply =>
    cases hpc : c.pc th with
    | sent msg => have := hsent th; rw [hpc] at this; cases this
    | _ => simp [step, hpc] at hs
  | close => exact absurd rfl ha

theorem wedged_exec {acts : List (ClientAction Th)} (hw : Wedged req c)
    (hclose : ∀ a ∈ acts, a ≠ .close) (he : c.exec acts = some e) :
    Wedged req e ∧ e.wire = c.wire ∧ ∃ tail, e.log = c.log ++ tail ∧ ∀ x ∈ tail, x.2.2 = .efsm := by
  induction acts generalizing c with
  | nil => cases he; exact ⟨hw, rfl, [], (List.append_nil _).symm, fun _ h => absurd h (List.not_mem_nil _)⟩
  | cons a acts ih =>
    obtain ⟨d, hd, he⟩ := exec_cons.mp he
    obtain ⟨hw', hwire, hlog⟩ := wedged_step hw (hclose a (List.mem_cons_self _ _)) hd
    obtain ⟨hwe, hwire', tail, htail, hefsm⟩ :=
      ih hw' (fun a' ha' => hclose a' (List.mem_cons_of_mem _ ha')) he
    refine ⟨hwe, hwire'.trans hwire, ?_⟩
    rcases hlog with hl | ⟨th, msg, hl⟩
    · exact ⟨tail, by rw [htail, hl], hefsm⟩
    · exact ⟨(th, msg, .efsm) :: tail, by rw [htail, hl, List.append_assoc]; rfl,
        List.forall_mem_cons.mpr ⟨rfl, hefsm⟩⟩

/-- Once a `recv_json()` raises `zmq.Again`, until `close()` and under every later interleaving,
no request reaches the registry and every `send_json` fails with `EFSM`. -/
theorem recv_timeout_wedges_socket {acts₀ acts : List (ClientAction Th)}
    (hc : initial.exec acts₀ = some c) (ht : c.step (.recv th none) = some d)
    (hclose : ∀ a ∈ acts, a ≠ .close) (he : d.exec acts = some e) :
    (∃ req, d.socket = .awaiting req ∧ e.socket = .awaiting req) ∧ e.wire = d.wire ∧
      ∃ tail, e.log = d.log ++ tail ∧ ∀ x ∈ tail, x.2.2 = .efsm := by
  have h := Inv.initial.exec hc
  cases hpc : c.pc th with
  | idle | locked _ => simp [step, hpc] at ht
  | sent msg =>
    have hheld : c.holder = some th := (h.exclusive th).mp (by rw [hpc]; rfl)
    simp only [step, hpc, Option.some.injEq] at ht
    subst ht
    have hw : Wedged msg ⟨c.socket, none, Function.update c.pc th .idle, c.wire,
        c.log ++ [(th, msg, .again)]⟩ :=
      ⟨h.pairing th msg hpc, fun th' => Pc.isSent_of_isIdle (idle_update h hheld th')⟩
    obtain ⟨⟨hwe, -⟩, hwire, hlog⟩ := wedged_exec hw hclose he
    exact ⟨⟨msg, hw.1, hwe⟩, hwire, hlog⟩

/-- A caller's lookup times out; the heartbeat thread then takes the lock and its `send_json`
raises `EFSM`: the heartbeat never leaves the client. -/
theorem recv_timeout_heartbeat_refused :
    let lookupMsg : Json := .obj [("message_type", .str "LookupActor"), ("actor_name", .str "a")]
    let heartbeatMsg : Json := .obj [("message_type", .str "Heartbeat"), ("manager_id", .str "m"),
      ("timestamp_ms", .num 1000)]
    let c : ClientState String := (initial.exec [.call "caller" lookupMsg, .send "caller"]).getD initial
    let d := (c.step (.recv "caller" none)).getD c
    let e := (d.exec [.call "heartbeat" heartbeatMsg, .send "heartbeat"]).getD d
    initial.exec [.call "caller" lookupMsg, .send "caller"] = some c ∧
      c.step (.recv "caller" none) = some d ∧
      d.exec [.call "heartbeat" heartbeatMsg, .send "heartbeat"] = some e ∧
      e.wire = [lookupMsg] ∧ e.log = [("caller", lookupMsg, .again), ("heartbeat", heartbeatMsg, .efsm)] := by
  intro lookupMsg heartbeatMsg c d e
  have hc : initial.exec [.call "caller" lookupMsg, .send "caller"] = some c := rfl
  have ht : c.step (.recv "caller" none) = some d := rfl
  have he : d.exec [.call "heartbeat" heartbeatMsg, .send "heartbeat"] = some e := rfl
  exact ⟨hc, ht, he, (recv_timeout_wedges_socket hc ht (by simp) he).2.1, rfl⟩

end ClientState

end ActorRegistry
