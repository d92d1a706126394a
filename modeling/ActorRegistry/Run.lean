import ActorRegistry.Sweep
import Mathlib.Tactic.Linarith

/-! Runs of the registry: requests and atomic sweeps in any order, each at its own clock
reading. The invariant holds along every run, a registration holds until it is removed, and
a heartbeat record is the time of the manager's last heartbeat or registration. -/
namespace ActorRegistry

namespace GlobalRegistry
variable {K E T : Type} [DecidableEq K] {s : GlobalRegistry K E T} {m n : K} {e : E}
  {now t t0 t1 : T}

/-- One thing the registry does: handle a request, or sweep, at a clock reading. -/
inductive Event (K E T : Type)
  | request (r : Request K E) (now : T)
  | sweep (now : T)

def Event.time : Event K E T → T
  | .request _ now => now
  | .sweep now => now

def Registers (n : K) : Event K E T → Prop
  | .request (.registerActor _ n' _) _ => n' = n
  | _ => False

def Unregisters (n : K) : Event K E T → Prop
  | .request (.unregisterActor n') _ => n' = n
  | _ => False

/-- The clock reading at which the event refreshes `m`'s heartbeat: a `Heartbeat(m)`, or a
successful `RegisterActor(m, ·, ·)`. -/
def beatOf (m : K) (s : GlobalRegistry K E T) : Event K E T → Option T
  | .request (.heartbeat m' _) now => if m' = m then some now else none
  | .request (.registerActor m' n _) now => if m' = m ∧ n ∉ s.registry then some now else none
  | _ => none

theorem beatOf_time {ev : Event K E T} (h : beatOf m s ev = some t) : t = ev.time := by
  rcases ev with ⟨_ | _ | _ | _, now⟩ | now <;> simp only [beatOf] at h <;>
    (try split_ifs at h) <;> simp_all [Event.time]

variable [LinearOrderedCommRing T]

/-- One event, with the replies it sends. -/
def step (s : GlobalRegistry K E T) : Event K E T → GlobalRegistry K E T × List (Reply K E)
  | .request r now => s.handle now r
  | .sweep now => (s.checkHeartbeats now, [])

def run (s : GlobalRegistry K E T) (evs : List (Event K E T)) : GlobalRegistry K E T :=
  evs.foldl (fun s ev => (s.step ev).1) s

@[simp] theorem run_nil : s.run [] = s := rfl

@[simp] theorem run_cons (ev : Event K E T) (evs : List (Event K E T)) :
    s.run (ev :: evs) = (s.step ev).1.run evs := rfl

theorem run_append (evs evs' : List (Event K E T)) : s.run (evs ++ evs') = (s.run evs).run evs' :=
  List.foldl_append _ _ _ _

theorem Consistent.step (h : s.Consistent) (ev : Event K E T) : (s.step ev).1.Consistent := by
  cases ev with
  | request r now => exact h.handle r
  | sweep now => exact h.checkHeartbeats

theorem Consistent.run (h : s.Consistent) (evs : List (Event K E T)) : (s.run evs).Consistent := by
  induction evs generalizing s with
  | nil => exact h
  | cons ev evs ih => exact ih (h.step ev)

/-! ### A registration holds until it is removed -/

/-- The event removes name `n` of manager `m`: an `UnregisterActor(n)`, or a sweep that finds
`m` stale. -/
def Removes (n m : K) (s : GlobalRegistry K E T) : Event K E T → Prop
  | .request (.unregisterActor n') _ => n' = n
  | .sweep now => s.isStale now m
  | _ => False

/-- No event of the run removes `n` of `m`, each judged in the state it meets. -/
def Keeps (n m : K) : GlobalRegistry K E T → List (Event K E T) → Prop
  | _, [] => True
  | s, ev :: evs => ¬ Removes n m s ev ∧ Keeps n m (s.step ev).1 evs

theorem registry_step_of_keeps (h : s.Consistent) (hn : s.registry.lookup n = some ⟨e, m⟩)
    {ev : Event K E T} (hr : ¬ Removes n m s ev) : (s.step ev).1.registry.lookup n = some ⟨e, m⟩ := by
  have hmem : n ∈ s.registry := AList.lookup_isSome.mp (by simp [hn])
  cases ev with
  | request r now =>
    cases r with
    | registerActor m' n' e' =>
      by_cases h' : n' ∈ s.registry
      · rw [step, handle, onRegister_of_mem h']; exact hn
      · have hne : n ≠ n' := fun he => h' (he ▸ hmem)
        rw [step, handle, onRegister_of_not_mem h']
        exact (AList.lookup_insert_ne hne).trans hn
    | unregisterActor n' =>
      rw [step, handle, onUnregister_eq]
      exact (registry_popActor_of_ne fun he => hr he.symm).trans hn
    | lookupActor n' => rw [step, handle, onLookup_fst]; exact hn
    | heartbeat m' _ => exact hn
  | sweep now =>
    rw [step, registry_checkHeartbeats h, hn]
    simp only [Removes] at hr
    simp [hr]

theorem registry_run_of_keeps (h : s.Consistent) (hn : s.registry.lookup n = some ⟨e, m⟩)
    {evs : List (Event K E T)} (hk : Keeps n m s evs) :
    (s.run evs).registry.lookup n = some ⟨e, m⟩ := by
  induction evs generalizing s with
  | nil => exact hn
  | cons ev evs ih => exact ih (h.step ev) (registry_step_of_keeps h hn hk.1) hk.2

theorem registry_step_of_removes (h : s.Consistent) (hn : s.registry.lookup n = some ⟨e, m⟩)
    {ev : Event K E T} (hr : Removes n m s ev) : (s.step ev).1.registry.lookup n = none := by
  cases ev with
  | request r now =>
    cases r with
    | unregisterActor n' =>
      simp only [Removes] at hr
      subst hr
      rw [step, handle, onUnregister_eq, popActor, hn]
      exact AList.lookup_erase _ _
    | _ => exact hr.elim
  | sweep now =>
    rw [step, registry_checkHeartbeats h, hn]
    simp only [Removes] at hr
    simp [hr]

theorem registry_step_of_absent (hn : s.registry.lookup n = none) {ev : Event K E T}
    (hr : ¬ Registers n ev) : (s.step ev).1.registry.lookup n = none := by
  cases ev with
  | request r now =>
    cases r with
    | registerActor m' n' e' =>
      have hne : n ≠ n' := fun he => hr he.symm
      by_cases h' : n' ∈ s.registry
      · rw [step, handle, onRegister_of_mem h']; exact hn
      · rw [step, handle, onRegister_of_not_mem h']
        exact (AList.lookup_insert_ne hne).trans hn
    | unregisterActor n' =>
      rw [step, handle, onUnregister_eq]
      unfold popActor
      split
      · exact hn
      · rw [dropActor, lookup_erase_eq_ite]; split_ifs <;> simp [hn]
    | lookupActor n' => rw [step, handle, onLookup_fst]; exact hn
    | heartbeat m' _ => exact hn
  | sweep now =>
    show (s.checkHeartbeats now).registry.lookup n = none
    rw [checkHeartbeats, registry_foldl_unregisterManager, hn]; simp

theorem registry_run_of_absent (hn : s.registry.lookup n = none) {evs : List (Event K E T)}
    (hr : ∀ ev ∈ evs, ¬ Registers n ev) : (s.run evs).registry.lookup n = none := by
  induction evs generalizing s with
  | nil => exact hn
  | cons ev evs ih =>
    exact ih (registry_step_of_absent hn (hr ev (.head _))) fun ev' h' => hr ev' (.tail _ h')

/-! ### Heartbeat records and the online bit -/

/-- The clock reading of the most recent `Heartbeat(m)` or successful
`RegisterActor(m, ·, ·)` of a run. -/
def lastBeat (m : K) : GlobalRegistry K E T → List (Event K E T) → Option T
  | _, [] => none
  | s, ev :: evs => (lastBeat m (s.step ev).1 evs).or (beatOf m s ev)

theorem heartbeats_step_request (r : Request K E) :
    (s.step (.request r now)).1.heartbeats.lookup m =
      (beatOf m s (.request r now)).or (s.heartbeats.lookup m) := by
  cases r with
  | registerActor m' n e =>
    by_cases hn : n ∈ s.registry
    · simp [step, handle, onRegister_of_mem hn, beatOf, hn]
    · rw [step, handle, onRegister_of_not_mem hn, heartbeats_addActor]
      rcases eq_or_ne m m' with rfl | hm
      · simp [beatOf, hn]
      · simp [beatOf, hn, hm, hm.symm]
  | unregisterActor n => simp [step, handle, onUnregister_eq, heartbeats_popActor, beatOf]
  | lookupActor n => simp [step, handle, onLookup_fst, beatOf]
  | heartbeat m' _ =>
    simp only [step, handle, onHeartbeat, beat, lookup_insert_eq_ite, beatOf]
    rcases eq_or_ne m m' with rfl | hm
    · simp
    · simp [hm, hm.symm]

theorem heartbeats_step_sweep :
    (s.step (.sweep now)).1.heartbeats.lookup m =
      if s.isStale now m then none else s.heartbeats.lookup m :=
  heartbeats_checkHeartbeats

theorem heartbeats_run {evs : List (Event K E T)} (h : (s.run evs).heartbeats.lookup m = some t) :
    (lastBeat m s evs).or (s.heartbeats.lookup m) = some t := by
  induction evs generalizing s with
  | nil => simpa [lastBeat] using h
  | cons ev evs ih =>
    have hs := ih h
    rw [lastBeat, Option.or_assoc]
    cases hl : lastBeat m (s.step ev).1 evs with
    | some t' => simpa [hl] using hs
    | none =>
      simp only [hl, Option.none_or] at hs ⊢
      cases ev with
      | request r now => rwa [heartbeats_step_request] at hs
      | sweep now =>
        rw [heartbeats_step_sweep] at hs
        split_ifs at hs
        simpa [beatOf] using hs

/-- After any run from the empty registry, a registered name's manager is online exactly when
its last heartbeat or registration is less than the timeout old. -/
theorem isManagerOnline_run {evs : List (Event K E T)} {e' : ActorEntry K E}
    (hn : (empty.run evs).registry.lookup n = some e') :
    (empty.run evs).isManagerOnline t e'.managerId = true ↔
      ∃ t0, lastBeat e'.managerId empty evs = some t0 ∧ t - t0 < 6 := by
  obtain ⟨t1, ht1⟩ := (Consistent.empty.run evs).heartbeat_of_owner hn
  have hl := heartbeats_run ht1
  rw [show (empty : GlobalRegistry K E T).heartbeats.lookup e'.managerId = none from
    AList.lookup_empty _, Option.or_none] at hl
  rw [isManagerOnline_iff, ht1, hl]

theorem onLookup_of_absent (hn : s.registry.lookup n = none) :
    (s.onLookup now n).2 = [.lookupResult n none false] := by
  simp [onLookup, hn]

theorem onLookup_of_present {e' : ActorEntry K E} (hn : s.registry.lookup n = some e') :
    (s.onLookup now n).2 = [.lookupResult n (some e'.endpoint) (s.isManagerOnline now e'.managerId)] := by
  simp [onLookup, hn]

theorem fresh_step (h : s.Consistent) (hn : s.registry.lookup n = some ⟨e, m⟩)
    (ht1 : s.heartbeats.lookup m = some t1) (h01 : t0 ≤ t1) {ev : Event K E T}
    (hlo : t0 ≤ ev.time) (hhi : ev.time < t0 + 6) (hu : ¬ Unregisters n ev) :
    (s.step ev).1.registry.lookup n = some ⟨e, m⟩ ∧
      ∃ t1', t0 ≤ t1' ∧ (s.step ev).1.heartbeats.lookup m = some t1' := by
  have hfresh : ¬ s.isStale ev.time m := by
    rw [isStale_iff, ht1]
    rintro ⟨t', ht', hgt⟩
    cases ht'
    linarith
  have hr : ¬ Removes n m s ev := by
    cases ev with
    | request r now => cases r <;> first | exact id | exact hu
    | sweep now => exact hfresh
  refine ⟨registry_step_of_keeps h hn hr, ?_⟩
  cases ev with
  | request r now =>
    rw [heartbeats_step_request]
    cases hb : beatOf m s (.request r now) with
    | none => exact ⟨t1, h01, by simp [ht1]⟩
    | some τ => exact ⟨τ, (beatOf_time hb).symm ▸ hlo, rfl⟩
  | sweep now =>
    rw [heartbeats_step_sweep, if_neg (show ¬ s.isStale now m from hfresh)]
    exact ⟨t1, h01, ht1⟩

theorem fresh_run (h : s.Consistent) (hn : s.registry.lookup n = some ⟨e, m⟩)
    (ht1 : s.heartbeats.lookup m = some t1) (h01 : t0 ≤ t1) {evs : List (Event K E T)}
    (hclock : ∀ ev ∈ evs, t0 ≤ ev.time ∧ ev.time < t0 + 6) (hu : ∀ ev ∈ evs, ¬ Unregisters n ev) :
    (s.run evs).registry.lookup n = some ⟨e, m⟩ ∧
      ∃ t1', t0 ≤ t1' ∧ (s.run evs).heartbeats.lookup m = some t1' := by
  induction evs generalizing s t1 with
  | nil => exact ⟨hn, t1, h01, ht1⟩
  | cons ev evs ih =>
    have hc := hclock ev (.head _)
    obtain ⟨hn', t1', h01', ht1'⟩ := fresh_step h hn ht1 h01 hc.1 hc.2 (hu ev (.head _))
    exact ih (h.step ev) hn' ht1' h01' (fun ev' h' => hclock ev' (.tail _ h'))
      (fun ev' h' => hu ev' (.tail _ h'))

/-- A name registered at `t0` and not unregistered since is reported online, with its
endpoint, by every lookup before `t0 + 6`, whatever heartbeats and sweeps came between. -/
theorem onLookup_after_register (h : s.Consistent) (hn : n ∉ s.registry)
    (evs : List (Event K E T)) (hclock : ∀ ev ∈ evs, t0 ≤ ev.time ∧ ev.time ≤ t)
    (hu : ∀ ev ∈ evs, ¬ Unregisters n ev) (ht : t < t0 + 6) :
    (((s.step (.request (.registerActor m n e) t0)).1.run evs).onLookup t n).2 =
      [.lookupResult n (some e) true] := by
  have h1 : (s.step (.request (.registerActor m n e) t0)).1 = s.addActor t0 m n e :=
    congrArg Prod.fst (onRegister_of_not_mem hn)
  have hreg : (s.addActor t0 m n e).registry.lookup n = some ⟨e, m⟩ := AList.lookup_insert _
  have hhb : (s.addActor t0 m n e).heartbeats.lookup m = some t0 := AList.lookup_insert _
  obtain ⟨hn', t1, h01, ht1⟩ := fresh_run (h.addActor hn e) hreg hhb le_rfl
    (fun ev hev => ⟨(hclock ev hev).1, lt_of_le_of_lt (hclock ev hev).2 ht⟩) hu
  rw [h1, onLookup_of_present hn']
  have hon : ((s.addActor t0 m n e).run evs).isManagerOnline t m = true :=
    isManagerOnline_iff.mpr ⟨t1, ht1, by linarith⟩
  simp only [hon]

end GlobalRegistry

end ActorRegistry
