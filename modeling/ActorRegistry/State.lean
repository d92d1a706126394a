import ActorRegistry.Messages
import Mathlib.Data.List.AList
import Mathlib.Data.Finset.Basic

/-! The state of `GlobalRegistry`: its three dicts, the writes its handlers make to them, and
the invariant that ties them together. -/
namespace ActorRegistry

/-- `ActorEntry`: where a registered actor is reached, and the manager that registered it. -/
structure ActorEntry (K E : Type) where
  endpoint : E
  managerId : K
  deriving DecidableEq

/-- The three dicts `_registry`, `_heartbeats` and `_manager_actors`, as `AList`s. `AList.insert`
puts a new key first where a dict appends it; only the sweep iterates a dict, and its result
does not depend on the order. -/
structure GlobalRegistry (K E T : Type) where
  registry : AList (fun _ : K => ActorEntry K E)
  heartbeats : AList (fun _ : K => T)
  managerActors : AList (fun _ : K => Finset K)

section Dict
variable {K β γ : Type} [DecidableEq K] (l : AList (fun _ : K => β)) (a a' : K) (b d : β)

theorem lookup_insert_eq_ite :
    (l.insert a b).lookup a' = if a' = a then some b else l.lookup a' := by
  split_ifs with h
  · subst h; exact AList.lookup_insert l
  · exact AList.lookup_insert_ne h

theorem lookup_erase_eq_ite : (l.erase a).lookup a' = if a' = a then none else l.lookup a' := by
  split_ifs with h
  · subst h; exact AList.lookup_erase a' l
  · exact AList.lookup_erase_ne h

theorem getD_lookup_insert :
    ((l.insert a b).lookup a').getD d = if a' = a then b else (l.lookup a').getD d := by
  rw [lookup_insert_eq_ite]; split_ifs <;> rfl

theorem getD_lookup_erase :
    ((l.erase a).lookup a').getD d = if a' = a then d else (l.lookup a').getD d := by
  rw [lookup_erase_eq_ite]; split_ifs <;> rfl

theorem map_lookup_insert (f : β → γ) :
    ((l.insert a b).lookup a').map f = if a' = a then some (f b) else (l.lookup a').map f := by
  rw [lookup_insert_eq_ite]; split_ifs <;> rfl

theorem map_lookup_erase (f : β → γ) :
    ((l.erase a).lookup a').map f = if a' = a then none else (l.lookup a').map f := by
  rw [lookup_erase_eq_ite]; split_ifs <;> rfl

end Dict

namespace GlobalRegistry
variable {K E T : Type} [DecidableEq K] {s : GlobalRegistry K E T} {m m' n n' : K} {now : T}

def empty : GlobalRegistry K E T := ⟨∅, ∅, ∅⟩

/-- `_manager_actors.get(m, set())`. -/
def actorsOf (s : GlobalRegistry K E T) (m : K) : Finset K := (s.managerActors.lookup m).getD ∅

def ownerOf (s : GlobalRegistry K E T) (n : K) : Option K :=
  (s.registry.lookup n).map ActorEntry.managerId

/-- The writes of a successful registration, the same in `_on_register` and in
`run_registry`: the entry, the name added to its manager's set (created if missing), and the
registration counted as a heartbeat. -/
def addActor (s : GlobalRegistry K E T) (now : T) (managerId actorName : K) (actorEndpoint : E) :
    GlobalRegistry K E T where
  registry := s.registry.insert actorName ⟨actorEndpoint, managerId⟩
  heartbeats := s.heartbeats.insert managerId now
  managerActors := s.managerActors.insert managerId (insert actorName (s.actorsOf managerId))

/-- The writes of an unregistration once `_registry.pop` has returned `entry`: the name is
discarded from its manager's set when that manager still has one. -/
def dropActor (s : GlobalRegistry K E T) (actorName : K) (entry : ActorEntry K E) :
    GlobalRegistry K E T where
  registry := s.registry.erase actorName
  heartbeats := s.heartbeats
  managerActors :=
    if entry.managerId ∈ s.managerActors then
      s.managerActors.insert entry.managerId ((s.actorsOf entry.managerId).erase actorName)
    else s.managerActors

/-- `_heartbeats[manager_id] = time.monotonic()`. -/
def beat (s : GlobalRegistry K E T) (now : T) (managerId : K) : GlobalRegistry K E T :=
  { s with heartbeats := s.heartbeats.insert managerId now }

theorem ownerOf_eq_none : s.ownerOf n = none ↔ n ∉ s.registry := by
  simp [ownerOf, AList.lookup_eq_none]

theorem actorsOf_addActor {e : E} :
    (s.addActor now m n e).actorsOf m' = if m' = m then insert n (s.actorsOf m) else s.actorsOf m' :=
  getD_lookup_insert _ _ _ _ _

theorem ownerOf_addActor {e : E} :
    (s.addActor now m n e).ownerOf n' = if n' = n then some m else s.ownerOf n' :=
  map_lookup_insert _ _ _ _ _

theorem heartbeats_addActor {e : E} :
    (s.addActor now m n e).heartbeats.lookup m' = if m' = m then some now else s.heartbeats.lookup m' :=
  lookup_insert_eq_ite _ _ _ _

theorem actorsOf_dropActor {entry : ActorEntry K E} :
    (s.dropActor n entry).actorsOf m' =
      if m' = entry.managerId then (s.actorsOf entry.managerId).erase n else s.actorsOf m' := by
  unfold dropActor actorsOf
  split_ifs with hm hm' hm'
  · rw [getD_lookup_insert, if_pos hm']
  · rw [getD_lookup_insert, if_neg hm']
  · subst hm'; simp [AList.lookup_eq_none.mpr hm]
  · rfl

theorem ownerOf_dropActor {entry : ActorEntry K E} :
    (s.dropActor n entry).ownerOf n' = if n' = n then none else s.ownerOf n' :=
  map_lookup_erase _ _ _ _

theorem mem_managerActors_of_mem_actorsOf (h : n ∈ s.actorsOf m) : m ∈ s.managerActors := by
  rw [← AList.lookup_isSome]
  unfold actorsOf at h
  cases hl : s.managerActors.lookup m <;> simp_all

/-- The three dicts agree: a name is in a manager's set exactly when it is registered to that
manager, and every manager with a set has a heartbeat record. -/
structure Consistent (s : GlobalRegistry K E T) : Prop where
  actors_iff : ∀ m n, n ∈ s.actorsOf m ↔ s.ownerOf n = some m
  tracked : ∀ m, m ∈ s.managerActors → m ∈ s.heartbeats

namespace Consistent

theorem empty : (empty : GlobalRegistry K E T).Consistent where
  actors_iff m n := by simp [actorsOf, ownerOf, GlobalRegistry.empty]
  tracked m h := by simp [GlobalRegistry.empty] at h

theorem addActor (h : Consistent s) (hn : n ∉ s.registry) (e : E) :
    (s.addActor now m n e).Consistent where
  actors_iff m' n' := by
    have hown := ownerOf_eq_none.mpr hn
    rw [actorsOf_addActor, ownerOf_addActor]
    by_cases hm : m' = m <;> by_cases hn' : n' = n <;>
      simp [hm, hn', h.actors_iff, hown]; exact fun e => hm e.symm
  tracked m' hm := by
    simp only [GlobalRegistry.addActor, AList.mem_insert] at hm ⊢
    exact hm.imp_right (h.tracked m')

theorem dropActor (h : Consistent s) {entry : ActorEntry K E}
    (he : s.registry.lookup n = some entry) : (s.dropActor n entry).Consistent where
  actors_iff m' n' := by
    have hown : s.ownerOf n = some entry.managerId := by simp [ownerOf, he]
    rw [actorsOf_dropActor, ownerOf_dropActor]
    by_cases hm : m' = entry.managerId <;> by_cases hn' : n' = n <;>
      simp [hm, hn', h.actors_iff, hown]; exact fun e => hm e.symm
  tracked m' hm := by
    refine h.tracked m' ?_
    simp only [GlobalRegistry.dropActor] at hm
    split_ifs at hm with hin
    · rcases AList.mem_insert _ |>.mp hm with rfl | hm
      exacts [hin, hm]
    · exact hm

theorem beat (h : Consistent s) : (s.beat now m).Consistent where
  actors_iff := h.actors_iff
  tracked m' hm := by
    simp only [GlobalRegistry.beat, AList.mem_insert]
    exact .inr (h.tracked m' hm)

theorem heartbeat_of_owner (h : s.Consistent) {e' : ActorEntry K E}
    (hn : s.registry.lookup n = some e') :
    ∃ t, s.heartbeats.lookup e'.managerId = some t := by
  have hown : n ∈ s.actorsOf e'.managerId := (h.actors_iff _ _).mpr (by simp [ownerOf, hn])
  have hhb := h.tracked _ (mem_managerActors_of_mem_actorsOf hown)
  exact Option.isSome_iff_exists.mp (AList.lookup_isSome.mpr hhb)

end Consistent

end GlobalRegistry

end ActorRegistry
