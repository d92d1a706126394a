import ActorRegistry.Handlers

/-! The heartbeat sweep: `_check_heartbeats` and `_unregister_manager`, run atomically. What
one sweep does to the three dicts, and that it keeps them consistent. -/
namespace ActorRegistry

namespace GlobalRegistry
variable {K E T : Type} [DecidableEq K] {s : GlobalRegistry K E T} {m m' n : K}

/-- One pass of `_unregister_manager`'s name loop: `del self._registry[actor_name]` under its
`in` guard. -/
def delActor (actorName : K) (registry : AList (fun _ : K => ActorEntry K E)) :
    AList (fun _ : K => ActorEntry K E) :=
  registry.erase actorName

instance : LeftCommutative (delActor : K → AList (fun _ : K => ActorEntry K E) → _) :=
  ⟨fun a b r => AList.erase_erase b a r⟩

/-- `_unregister_manager`: pop the manager's set, delete each of its names (a Python set is
iterated in no fixed order; the deletions commute), and pop its heartbeat record. -/
def unregisterManager (s : GlobalRegistry K E T) (managerId : K) : GlobalRegistry K E T where
  registry := (s.actorsOf managerId).val.foldr delActor s.registry
  heartbeats := s.heartbeats.erase managerId
  managerActors := s.managerActors.erase managerId

theorem lookup_foldr_delActor (M : Multiset K) (r : AList (fun _ : K => ActorEntry K E)) :
    (M.foldr delActor r).lookup n = if n ∈ M then none else r.lookup n := by
  induction M using Multiset.induction with
  | empty => simp
  | cons a M ih =>
    rw [Multiset.foldr_cons, delActor, lookup_erase_eq_ite, ih]
    by_cases ha : n = a <;> simp [ha]

theorem registry_unregisterManager :
    (s.unregisterManager m).registry.lookup n =
      if n ∈ s.actorsOf m then none else s.registry.lookup n :=
  lookup_foldr_delActor _ _

theorem actorsOf_unregisterManager :
    (s.unregisterManager m).actorsOf m' = if m' = m then ∅ else s.actorsOf m' :=
  getD_lookup_erase _ _ _ _

theorem ownerOf_unregisterManager :
    (s.unregisterManager m).ownerOf n = if n ∈ s.actorsOf m then none else s.ownerOf n := by
  unfold ownerOf; rw [registry_unregisterManager]; split_ifs <;> rfl

theorem Consistent.unregisterManager (h : s.Consistent) (m : K) :
    (s.unregisterManager m).Consistent where
  actors_iff m' n := by
    rw [actorsOf_unregisterManager, ownerOf_unregisterManager]
    split_ifs with hmm hn hn
    · simp
    · subst hmm; simpa [h.actors_iff] using hn
    · rw [h.actors_iff] at hn ⊢
      simpa using fun ho => hmm (Option.some.inj (ho.symm.trans hn))
    · exact h.actors_iff m' n
  tracked m' hm' := by
    obtain ⟨hne, hm'⟩ := AList.mem_erase.mp hm'
    exact AList.mem_erase.mpr ⟨hne, h.tracked m' hm'⟩

section Sweep
variable (L : List K)

theorem Consistent.foldl_unregisterManager (h : s.Consistent) :
    (L.foldl GlobalRegistry.unregisterManager s).Consistent := by
  induction L generalizing s with
  | nil => exact h
  | cons m L ih => exact ih (h.unregisterManager m)


/-- The sweep's loop over its snapshot of managers, each unregistered in turn. A manager
listed twice finds its set already popped the second time. -/
theorem registry_foldl_unregisterManager :
    (L.foldl unregisterManager s).registry.lookup n =
      if ∃ m ∈ L, n ∈ s.actorsOf m then none else s.registry.lookup n := by
  induction L generalizing s with
  | nil => simp
  | cons m L ih =>
    rw [List.foldl_cons, ih, registry_unregisterManager]
    simp only [actorsOf_unregisterManager, List.mem_cons, exists_eq_or_imp]
    by_cases hm : n ∈ s.actorsOf m
    · simp [hm]
    · have hiff : (∃ a ∈ L, ¬a = m ∧ n ∈ s.actorsOf a) ↔ ∃ a ∈ L, n ∈ s.actorsOf a :=
        ⟨fun ⟨a, ha, _, h⟩ => ⟨a, ha, h⟩, fun ⟨a, ha, h⟩ => ⟨a, ha, fun e => hm (e ▸ h), h⟩⟩
      simp [hm, apply_ite (n ∈ ·), hiff]

theorem lookup_foldl_unregisterManager {β : Type} (f : GlobalRegistry K E T → AList fun _ : K => β)
    (hf : ∀ s m, f (s.unregisterManager m) = (f s).erase m) :
    (f (L.foldl unregisterManager s)).lookup m = if m ∈ L then none else (f s).lookup m := by
  induction L generalizing s with
  | nil => simp
  | cons a L ih =>
    rw [List.foldl_cons, ih, hf, lookup_erase_eq_ite]
    by_cases h : m = a <;> simp [h]

theorem heartbeats_foldl_unregisterManager :
    (L.foldl unregisterManager s).heartbeats.lookup m =
      if m ∈ L then none else s.heartbeats.lookup m :=
  lookup_foldl_unregisterManager L heartbeats fun _ _ => rfl

theorem managerActors_foldl_unregisterManager :
    (L.foldl unregisterManager s).managerActors.lookup m =
      if m ∈ L then none else s.managerActors.lookup m :=
  lookup_foldl_unregisterManager L managerActors fun _ _ => rfl

end Sweep

variable [LinearOrderedCommRing T] {now : T}

/-- The managers `_check_heartbeats` collects from `_heartbeats.items()`: those whose last
heartbeat is more than the timeout old at `now`. -/
def staleManagers (s : GlobalRegistry K E T) (now : T) : List K :=
  (s.heartbeats.entries.filter fun hb => heartbeatTimeoutS < now - hb.2).map Sigma.fst

/-- `_check_heartbeats` at clock reading `now`, with no request handled while it runs. -/
def checkHeartbeats (s : GlobalRegistry K E T) (now : T) : GlobalRegistry K E T :=
  (s.staleManagers now).foldl unregisterManager s

def isStale (s : GlobalRegistry K E T) (now : T) (m : K) : Bool :=
  (s.heartbeats.lookup m).any fun t => heartbeatTimeoutS < now - t

theorem isStale_iff : s.isStale now m ↔ ∃ t, s.heartbeats.lookup m = some t ∧ 6 < now - t := by
  unfold isStale heartbeatTimeoutS
  cases s.heartbeats.lookup m <;> simp

theorem mem_staleManagers : m ∈ s.staleManagers now ↔ s.isStale now m := by
  simp only [staleManagers, List.mem_map, List.mem_filter, isStale_iff]
  constructor
  · rintro ⟨⟨a, t⟩, ⟨hmem, ht⟩, rfl⟩
    exact ⟨t, AList.mem_lookup_iff.mpr hmem, by simpa [heartbeatTimeoutS] using ht⟩
  · rintro ⟨t, hl, ht⟩
    exact ⟨⟨m, t⟩, ⟨AList.mem_lookup_iff.mp hl, by simpa [heartbeatTimeoutS] using ht⟩, rfl⟩

theorem staleManagers_eq_filter : s.staleManagers now = s.heartbeats.keys.filter (s.isStale now) := by
  rw [staleManagers, AList.keys, List.keys, List.filter_map]
  congr 1
  refine List.filter_congr fun ⟨k, t⟩ hkt => ?_
  simp only [Function.comp, isStale, Option.mem_def.mp (AList.mem_lookup_iff.mpr hkt), Option.any_some]

theorem heartbeats_checkHeartbeats :
    (s.checkHeartbeats now).heartbeats.lookup m =
      if s.isStale now m then none else s.heartbeats.lookup m := by
  simp only [checkHeartbeats, heartbeats_foldl_unregisterManager, mem_staleManagers]

theorem managerActors_checkHeartbeats :
    (s.checkHeartbeats now).managerActors.lookup m =
      if s.isStale now m then none else s.managerActors.lookup m := by
  simp only [checkHeartbeats, managerActors_foldl_unregisterManager, mem_staleManagers]

theorem registry_checkHeartbeats (h : s.Consistent) :
    (s.checkHeartbeats now).registry.lookup n =
      match s.registry.lookup n with
      | some e => if s.isStale now e.managerId then none else some e
      | none => none := by
  rw [checkHeartbeats, registry_foldl_unregisterManager]
  cases hn : s.registry.lookup n with
  | none => simp
  | some e =>
    have hiff : (∃ m ∈ s.staleManagers now, n ∈ s.actorsOf m) ↔ s.isStale now e.managerId := by
      simp [mem_staleManagers, h.actors_iff, ownerOf, hn]
    simp only [hiff]

theorem Consistent.checkHeartbeats (h : s.Consistent) : (s.checkHeartbeats now).Consistent :=
  h.foldl_unregisterManager _

/-- What one sweep does to a consistent registry: the stale managers lose their heartbeat
record and their set, exactly the names they own leave `_registry`, every other entry stays
as it was, and a removed name can be registered again at once. -/
theorem checkHeartbeats_cascade (h : s.Consistent) (now : T) :
    (∀ m, (s.checkHeartbeats now).heartbeats.lookup m =
      if s.isStale now m then none else s.heartbeats.lookup m) ∧
    (∀ m, (s.checkHeartbeats now).managerActors.lookup m =
      if s.isStale now m then none else s.managerActors.lookup m) ∧
    (∀ n, (s.checkHeartbeats now).registry.lookup n =
      match s.registry.lookup n with
      | some e => if s.isStale now e.managerId then none else some e
      | none => none) ∧
    (∀ n e, s.registry.lookup n = some e → s.isStale now e.managerId →
      ∀ t m' (e' : E), ((s.checkHeartbeats now).onRegister t m' n e').2 = [.registrationOk n]) := by
  refine ⟨fun _ => heartbeats_checkHeartbeats, fun _ => managerActors_checkHeartbeats,
    fun _ => registry_checkHeartbeats h, fun n e he hs t m' e' => ?_⟩
  have hgone : (s.checkHeartbeats now).registry.lookup n = none := by
    rw [registry_checkHeartbeats h, he]; simp [hs]
  rw [onRegister_of_not_mem (AList.lookup_eq_none.mp hgone)]

/-- `m` registers `a` and `b` at 0, `b` is unregistered at 1 and registered again by `m2` at
8. The sweep at 10 removes `m` and `a`, and keeps `m2` and `b`. -/
theorem checkHeartbeats_cascade_silent :
    let s : GlobalRegistry String String ℤ :=
      ((((empty.handle 0 (.registerActor "m" "a" "tcp://h:6000")).1.handle 0
        (.registerActor "m" "b" "tcp://h:6001")).1.handle 1 (.unregisterActor "b")).1.handle 8
        (.registerActor "m2" "b" "tcp://h:6002")).1
    s.Consistent ∧ (s.checkHeartbeats 10).registry.lookup "a" = none ∧
      (s.checkHeartbeats 10).registry.lookup "b" = some ⟨"tcp://h:6002", "m2"⟩ ∧
      (s.checkHeartbeats 10).heartbeats.lookup "m" = none ∧
      (s.checkHeartbeats 10).heartbeats.lookup "m2" = some 8 := by
  intro s
  have h : s.Consistent := (((Consistent.empty.handle _).handle _).handle _).handle _
  obtain ⟨hb, -, hr, -⟩ := checkHeartbeats_cascade h 10
  refine ⟨h, ?_, ?_, ?_, ?_⟩
  · rw [hr]; decide
  · rw [hr]; decide
  · rw [hb]; decide
  · rw [hb]; decide

end GlobalRegistry

end ActorRegistry
