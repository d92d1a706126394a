import ActorRegistry.State
import Mathlib.Algebra.Order.Ring.Int

/-! The request handlers of `GlobalRegistry` (`_on_register` and the others) and the liveness
test `is_manager_online`. Clock readings are taken from any linearly ordered ring, with exact
differences. Python rounds `time.monotonic() - t`: the float readings 0.1 and 6.1 differ by a
little less than 6 exactly but by 6.0 in floats, so near the timeout the two can disagree. -/
namespace ActorRegistry

namespace GlobalRegistry
variable {K E T : Type} [DecidableEq K] {s : GlobalRegistry K E T} {m n : K} {e : E} {now : T}

/-- `_on_register`, with the replies it sends through `ctx.reply`. -/
def onRegister (s : GlobalRegistry K E T) (now : T) (managerId actorName : K)
    (actorEndpoint : E) : GlobalRegistry K E T × List (Reply K E) :=
  if actorName ∈ s.registry then (s, [.registrationFailed actorName "Name already registered"])
  else (s.addActor now managerId actorName actorEndpoint, [.registrationOk actorName])

/-- `_on_unregister`. It returns without a reply when the name is absent, and sends none when
it is present either. -/
def onUnregister (s : GlobalRegistry K E T) (actorName : K) :
    GlobalRegistry K E T × List (Reply K E) :=
  match s.registry.lookup actorName with
  | none => (s, [])
  | some entry => (s.dropActor actorName entry, [])

def onHeartbeat (s : GlobalRegistry K E T) (now : T) (managerId : K) :
    GlobalRegistry K E T × List (Reply K E) :=
  (s.beat now managerId, [.heartbeatAck])

theorem onRegister_of_mem (h : n ∈ s.registry) :
    s.onRegister now m n e = (s, [.registrationFailed n "Name already registered"]) := if_pos h

theorem onRegister_of_not_mem (h : n ∉ s.registry) :
    s.onRegister now m n e = (s.addActor now m n e, [.registrationOk n]) := if_neg h

/-- The state `_on_unregister` leaves: the entry `pop` returned, dropped. -/
def popActor (s : GlobalRegistry K E T) (actorName : K) : GlobalRegistry K E T :=
  match s.registry.lookup actorName with
  | none => s
  | some entry => s.dropActor actorName entry

theorem onUnregister_eq : s.onUnregister n = (s.popActor n, []) := by
  unfold onUnregister popActor; split <;> rfl

theorem registry_popActor_of_ne {n' : K} (hne : n ≠ n') :
    (s.popActor n').registry.lookup n = s.registry.lookup n := by
  unfold popActor
  split
  · rfl
  · exact AList.lookup_erase_ne hne

theorem lookup_popActor_eq_some {n' : K} {entry : ActorEntry K E}
    (he : (s.popActor n').registry.lookup n = some entry) : s.registry.lookup n = some entry := by
  by_cases hne : n = n'
  · subst hne
    unfold popActor at he
    split at he
    · exact he
    · simp [dropActor] at he
  · rwa [registry_popActor_of_ne hne] at he

theorem not_mem_popActor : n ∉ (s.popActor n).registry := by
  unfold popActor
  split
  · exact AList.lookup_eq_none.mp ‹_›
  · exact fun h => (AList.mem_erase.mp h).1 rfl

theorem heartbeats_popActor {n' : K} : (s.popActor n').heartbeats = s.heartbeats := by
  unfold popActor; split <;> rfl

theorem Consistent.popActor (h : Consistent s) : (s.popActor n).Consistent := by
  unfold GlobalRegistry.popActor
  split
  · exact h
  · exact h.dropActor ‹_›

/-- `lookup`, the synchronous form: `_registry.get(actor_name)`, always truthy when found (an
`ActorEntry` defines no `__bool__`), read as its endpoint. -/
def lookup (s : GlobalRegistry K E T) (actorName : K) : Option E :=
  (s.registry.lookup actorName).map ActorEntry.endpoint

/-- `get_all_actors`, as the names it lists: Python lists them in insertion order, `AList` newest
first. -/
def getAllActors (s : GlobalRegistry K E T) : List K := s.registry.keys

/-- `get_all_managers`, as the managers it lists; the order differs as for `getAllActors`. -/
def getAllManagers (s : GlobalRegistry K E T) : List K := s.managerActors.keys

variable [LinearOrderedCommRing T]

/-- `HEARTBEAT_TIMEOUT_S`: three missed heartbeats of two seconds. -/
def heartbeatTimeoutS : T := 6

/-- `is_manager_online`: the manager's last heartbeat is less than the timeout old. -/
def isManagerOnline (s : GlobalRegistry K E T) (now : T) (managerId : K) : Bool :=
  match s.heartbeats.lookup managerId with
  | none => false
  | some t => decide (now - t < heartbeatTimeoutS)

def onLookup (s : GlobalRegistry K E T) (now : T) (actorName : K) :
    GlobalRegistry K E T × List (Reply K E) :=
  match s.registry.lookup actorName with
  | none => (s, [.lookupResult actorName none false])
  | some entry =>
    (s, [.lookupResult actorName (some entry.endpoint) (s.isManagerOnline now entry.managerId)])

/-- The handler the actor dispatches a request to, at clock reading `now`. -/
def handle (s : GlobalRegistry K E T) (now : T) :
    Request K E → GlobalRegistry K E T × List (Reply K E)
  | .registerActor m n e => s.onRegister now m n e
  | .unregisterActor n => s.onUnregister n
  | .lookupActor n => s.onLookup now n
  | .heartbeat m _ => s.onHeartbeat now m

theorem isManagerOnline_iff :
    s.isManagerOnline now m = true ↔ ∃ t, s.heartbeats.lookup m = some t ∧ now - t < 6 := by
  unfold isManagerOnline heartbeatTimeoutS
  split <;> simp_all

theorem onLookup_fst : (s.onLookup now n).1 = s := by
  unfold onLookup; split <;> rfl

theorem Consistent.handle (h : Consistent s) (r : Request K E) : (s.handle now r).1.Consistent := by
  cases r with
  | registerActor m n e =>
    by_cases hn : n ∈ s.registry
    · rwa [GlobalRegistry.handle, onRegister_of_mem hn]
    · rw [GlobalRegistry.handle, onRegister_of_not_mem hn]; exact h.addActor hn e
  | unregisterActor n => rw [GlobalRegistry.handle, onUnregister_eq]; exact h.popActor
  | lookupActor n => rwa [GlobalRegistry.handle, onLookup_fst]
  | heartbeat m _ => exact h.beat

theorem lookup_handle_eq_some {entry : ActorEntry K E} (r : Request K E)
    (he : (s.handle now r).1.registry.lookup n = some entry) :
    s.registry.lookup n = some entry ∨ r = .registerActor entry.managerId n entry.endpoint := by
  cases r with
  | registerActor m' n' e' =>
    by_cases hn' : n' ∈ s.registry
    · rw [GlobalRegistry.handle, onRegister_of_mem hn'] at he; exact .inl he
    · rw [GlobalRegistry.handle, onRegister_of_not_mem hn'] at he
      simp only [addActor, lookup_insert_eq_ite] at he
      split_ifs at he with h
      · cases he; exact .inr (by rw [h])
      · exact .inl he
  | unregisterActor n' =>
    rw [GlobalRegistry.handle, onUnregister_eq] at he; exact .inl (lookup_popActor_eq_some he)
  | lookupActor n' => rw [GlobalRegistry.handle, onLookup_fst] at he; exact .inl he
  | heartbeat m' _ => exact .inl he

/-- Of all requests, only `UnregisterActor(n)` takes a present `n` out of `_registry`. -/
theorem mem_handle_registry_iff (hn : n ∈ s.registry) (r : Request K E) :
    n ∈ (s.handle now r).1.registry ↔ r ≠ .unregisterActor n := by
  cases r with
  | registerActor m' n' e' =>
    by_cases hn' : n' ∈ s.registry
    · simpa [GlobalRegistry.handle, onRegister_of_mem hn'] using hn
    · simpa [GlobalRegistry.handle, onRegister_of_not_mem hn', addActor, AList.mem_insert] using .inr hn
  | unregisterActor n' =>
    rw [GlobalRegistry.handle, onUnregister_eq]
    by_cases he : n = n'
    · subst he; simpa using not_mem_popActor
    · rw [← AList.lookup_isSome, registry_popActor_of_ne he, AList.lookup_isSome]
      simpa [Ne.symm he] using hn
  | lookupActor n' => simpa [GlobalRegistry.handle, onLookup_fst] using hn
  | heartbeat m' _ => simpa [GlobalRegistry.handle, onHeartbeat, beat] using hn

end GlobalRegistry

end ActorRegistry
