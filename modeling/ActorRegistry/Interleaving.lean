import ActorRegistry.Run

/-! The heartbeat-monitor thread against the main loop. `registry.init()` starts
`_heartbeat_monitor` and `run_registry` then handles requests with no lock, so
`_check_heartbeats` runs as the separate dict operations it performs, and a request can land
between any two of them. A sweep into which no request that writes the dicts lands behaves as
the atomic sweep of `Sweep`, taken at its snapshot; one into which a registration lands can
leave the dicts inconsistent. -/
namespace ActorRegistry

open GlobalRegistry

/-- Where the heartbeat-monitor thread is: asleep, scanning `_heartbeats.items()`, in the loop
over `stale_managers`, inside `_unregister_manager`, or ended by the `KeyError` of `del`. -/
inductive Monitor (K T : Type)
  | idle
  | scanning (now : T) (todo found : List K) (size : Nat)
  | stale (now : T) (managers : List K)
  | names (now : T) (managerId : K) (actorNames : Finset K) (managers : List K)
  | found (now : T) (managerId actorName : K) (actorNames : Finset K) (managers : List K)
  | crashed

def Monitor.isIdle {K T : Type} : Monitor K T → Bool
  | .idle => true
  | _ => false

def Monitor.between {K T : Type} : Monitor K T → Bool
  | .idle | .scanning .. | .stale _ _ => true
  | _ => false

/-- The state both threads share: the three dicts, the monitor's place and the clock, with two
ghost records: when each manager last sent a heartbeat or registered an actor, and the requests
handled and sweeps begun so far, as events of the atomic model. -/
structure System (K E T : Type) where
  reg : GlobalRegistry K E T
  monitor : Monitor K T
  clock : T
  lastBeat : AList (fun _ : K => T)
  history : List (Event K E T)

/-- One atomic step: a request, the clock moving on, or one line of the sweep: the snapshot,
one scan step and the scan's end (both raise `RuntimeError` if `_heartbeats` changed size),
the two `pop`s, the `in` test, the `del`, and the end of the loop over `stale_managers`. -/
inductive Action (K E T : Type)
  | request (r : Request K E)
  | tick (t : T)
  | snapshot
  | scan
  | scanEnd
  | popActors
  | check (actorName : K)
  | del
  | popHeartbeat
  | finish

def Action.writes {K E T : Type} : Action K E T → Bool
  | .request (.lookupActor _) => false
  | .request _ => true
  | _ => false

namespace System
variable {K E T : Type} [DecidableEq K] [LinearOrderedCommRing T]
  {x y : System K E T} {a : Action K E T} {m n : K} {ns : Finset K}

def recordBeat (s : GlobalRegistry K E T) (now : T) (lastBeat : AList (fun _ : K => T)) :
    Request K E → AList (fun _ : K => T)
  | .registerActor m n _ => if n ∈ s.registry then lastBeat else lastBeat.insert m now
  | .heartbeat m _ => lastBeat.insert m now
  | _ => lastBeat

def initial (t : T) : System K E T := ⟨empty, .idle, t, ∅, []⟩

def step (x : System K E T) : Action K E T → Option (System K E T)
  | .request r => some { x with
      reg := (x.reg.handle x.clock r).1
      lastBeat := recordBeat x.reg x.clock x.lastBeat r
      history := x.history ++ [.request r x.clock] }
  | .tick t => if x.clock ≤ t then some { x with clock := t } else none
  | .snapshot => match x.monitor with
    | .idle => some { x with
        monitor := .scanning x.clock x.reg.heartbeats.keys [] x.reg.heartbeats.entries.length
        history := x.history ++ [.sweep x.clock] }
    | _ => none
  | .scan => match x.monitor with
    | .scanning now (m :: todo) found size =>
      if x.reg.heartbeats.entries.length = size then some { x with
        monitor := .scanning now todo (if x.reg.isStale now m then found ++ [m] else found) size }
      else some { x with monitor := .crashed }
    | _ => none
  | .scanEnd => match x.monitor with
    | .scanning now [] found size =>
      if x.reg.heartbeats.entries.length = size then some { x with monitor := .stale now found }
      else some { x with monitor := .crashed }
    | _ => none
  | .popActors => match x.monitor with
    | .stale now (m :: ms) => some { x with
        reg := { x.reg with managerActors := x.reg.managerActors.erase m }
        monitor := .names now m (x.reg.actorsOf m) ms }
    | _ => none
  | .check n => match x.monitor with
    | .names now m ns ms =>
      if n ∈ ns then
        if n ∈ x.reg.registry then some { x with monitor := .found now m n (ns.erase n) ms }
        else some { x with monitor := .names now m (ns.erase n) ms }
      else none
    | _ => none
  | .del => match x.monitor with
    | .found now m n ns ms =>
      if n ∈ x.reg.registry then some { x with
        reg := { x.reg with registry := x.reg.registry.erase n }
        monitor := .names now m ns ms }
      else some { x with monitor := .crashed }
    | _ => none
  | .popHeartbeat => match x.monitor with
    | .names now m ns ms =>
      if ns = ∅ then some { x with
        reg := { x.reg with heartbeats := x.reg.heartbeats.erase m }
        monitor := .stale now ms }
      else none
    | _ => none
  | .finish => match x.monitor with
    | .stale _ [] => some { x with monitor := .idle }
    | _ => none

/-- A run under a scheduler that lets a step go only when `ok` allows it; `none` when a step
is refused or not enabled. -/
def exec (x : System K E T) (ok : System K E T → Action K E T → Bool) :
    List (Action K E T) → Option (System K E T)
  | [] => some x
  | a :: as => if ok x a then (x.step a).bind fun y => y.exec ok as else none

/-- The schedule of the amended law: a request that writes the dicts is handled only while the
monitor sleeps. Lookups may land anywhere. -/
def calm (x : System K E T) (a : Action K E T) : Bool := !a.writes || x.monitor.isIdle

/-- The manager whose data the step deletes: the set `pop` takes from `_manager_actors`, the
owner of the `_registry` row `del` removes, or the heartbeat record `pop` takes. -/
def victim (x : System K E T) : Action K E T → Option K
  | .popActors => match x.monitor with
    | .stale _ (m :: _) => if m ∈ x.reg.managerActors then some m else none
    | _ => none
  | .del => match x.monitor with
    | .found _ _ n _ _ => (x.reg.registry.lookup n).map ActorEntry.managerId
    | _ => none
  | .popHeartbeat => match x.monitor with
    | .names _ m ns _ => if ns = ∅ ∧ m ∈ x.reg.heartbeats then some m else none
    | _ => none
  | _ => none

def Fresh (x : System K E T) (m : K) : Prop :=
  ∃ t0, x.lastBeat.lookup m = some t0 ∧ x.clock - t0 < heartbeatTimeoutS

/-! ### The monitor's deletions commute with what is left of its loop -/

theorem foldr_delActor_erase (M : Multiset K) (r : AList (fun _ : K => ActorEntry K E)) :
    M.foldr delActor (r.erase n) = (M.foldr delActor r).erase n := by
  induction M using Multiset.induction with
  | empty => rfl
  | cons a M ih => rw [Multiset.foldr_cons, Multiset.foldr_cons, ih]; exact AList.erase_erase _ _ _

theorem foldr_delActor_of_mem (hn : n ∈ ns) (r : AList (fun _ : K => ActorEntry K E)) :
    ns.val.foldr delActor r = (ns.erase n).val.foldr delActor (r.erase n) := by
  conv_lhs => rw [← Finset.insert_erase hn]
  rw [Finset.insert_val_of_not_mem (Finset.not_mem_erase n ns), Multiset.foldr_cons,
    foldr_delActor_erase]; rfl

theorem foldr_delActor_of_not_mem {r : AList (fun _ : K => ActorEntry K E)} (hn : n ∉ r) :
    (ns.erase n).val.foldr delActor r = ns.val.foldr delActor r := by
  by_cases h : n ∈ ns
  · have he : r.erase n = r := AList.ext (List.kerase_of_not_mem_keys hn)
    rw [foldr_delActor_of_mem h, he]
  · rw [Finset.erase_eq_of_not_mem h]

/-! ### The invariant of calm runs -/

/-- The dicts as they will be once the monitor finishes the manager in hand: what the atomic
`_unregister_manager` would have left. -/
def pending (x : System K E T) : GlobalRegistry K E T :=
  match x.monitor with
  | .names _ m ns _ => { x.reg with
      registry := ns.val.foldr delActor x.reg.registry
      heartbeats := x.reg.heartbeats.erase m }
  | .found _ m n ns _ => { x.reg with
      registry := ns.val.foldr delActor (x.reg.registry.erase n)
      heartbeats := x.reg.heartbeats.erase m }
  | _ => x.reg

def completion (x : System K E T) : GlobalRegistry K E T :=
  match x.monitor with
  | .scanning now todo found _ => (found ++ todo.filter (x.reg.isStale now)).foldl unregisterManager x.pending
  | .stale _ ms | .names _ _ _ ms | .found _ _ _ _ ms => ms.foldl unregisterManager x.pending
  | _ => x.pending

def Old (x : System K E T) (now : T) (m : K) : Prop :=
  ∀ t0, x.lastBeat.lookup m = some t0 → heartbeatTimeoutS < now - t0

def Owned (x : System K E T) (m : K) (ns : Finset K) : Prop :=
  ∀ n ∈ ns, ∀ e, x.reg.registry.lookup n = some e → e.managerId = m

def MonitorInv (x : System K E T) : Prop :=
  match x.monitor with
  | .idle => True
  | .scanning now todo found size => now ≤ x.clock ∧ (∀ m ∈ found, x.Old now m) ∧
    found ++ todo.filter (x.reg.isStale now) = x.reg.staleManagers now ∧
    size = x.reg.heartbeats.entries.length
  | .stale now ms => now ≤ x.clock ∧ ∀ m ∈ ms, x.Old now m
  | .names now m ns ms => now ≤ x.clock ∧ (∀ m' ∈ m :: ms, x.Old now m') ∧ x.Owned m ns
  | .found now m n ns ms =>
    now ≤ x.clock ∧ (∀ m' ∈ m :: ms, x.Old now m') ∧ x.Owned m (insert n ns) ∧ n ∈ x.reg.registry
  | .crashed => False

/-- The invariant of calm runs: the dicts are consistent once the manager in hand is finished,
every heartbeat record is the manager's last beat, the monitor's place holds, and finishing the
sweep gives what the atomic model reaches on the history. -/
structure Inv (x : System K E T) : Prop where
  pending : x.pending.Consistent
  beats : ∀ m t, x.reg.heartbeats.lookup m = some t → x.lastBeat.lookup m = some t
  monitor : x.MonitorInv
  atomic : x.completion = empty.run x.history

theorem Inv.initial (t : T) : (initial t : System K E T).Inv where
  pending := Consistent.empty
  beats m t h := by simp [System.initial, GlobalRegistry.empty] at h
  monitor := trivial
  atomic := rfl

theorem not_fresh_of_old {now : T} (ho : x.Old now m) (hle : now ≤ x.clock) : ¬ x.Fresh m := by
  rintro ⟨t0, hl, ht⟩
  have := ho t0 hl
  unfold heartbeatTimeoutS at this ht
  linarith

theorem beats_handle {s : GlobalRegistry K E T} {now : T} {lb : AList (fun _ : K => T)}
    (hb : ∀ m t, s.heartbeats.lookup m = some t → lb.lookup m = some t) (r : Request K E) :
    ∀ m t, (s.handle now r).1.heartbeats.lookup m = some t →
      (recordBeat s now lb r).lookup m = some t := by
  intro m t
  cases r with
  | registerActor m' n e =>
    by_cases hn : n ∈ s.registry
    · simpa [handle, onRegister_of_mem hn, recordBeat, hn] using hb m t
    · simp only [handle, onRegister_of_not_mem hn, recordBeat, hn, if_false, heartbeats_addActor,
        lookup_insert_eq_ite]
      split_ifs
      · exact id
      · exact hb m t
  | unregisterActor n => simpa [handle, onUnregister_eq, heartbeats_popActor, recordBeat] using hb m t
  | lookupActor n => simpa [handle, onLookup_fst, recordBeat] using hb m t
  | heartbeat m' ts =>
    simp only [handle, onHeartbeat, beat, recordBeat, lookup_insert_eq_ite]
    split_ifs
    · exact id
    · exact hb m t

theorem Inv.request (h : x.Inv) (hc : calm x (.request r) = true) (hs : x.step (.request r) = some y) :
    y.Inv := by
  obtain ⟨reg, mon, clock, lb, hist⟩ := x
  cases hs
  cases r with
  | lookupActor n =>
    have hl : (reg.handle clock (.lookupActor n)).1 = reg := onLookup_fst
    refine ⟨?_, ?_, ?_, ?_⟩ <;> rw [hl]
    exacts [h.pending, h.beats, h.monitor, by rw [run_append, ← h.atomic]; exact onLookup_fst.symm]
  | _ =>
    cases mon <;> simp [calm, Action.writes, Monitor.isIdle] at hc
    exact ⟨h.pending.handle _, beats_handle h.beats _, trivial, by rw [run_append, ← h.atomic]; rfl⟩

theorem Inv.tick {t : T} (h : x.Inv) (hs : x.step (.tick t) = some y) : y.Inv := by
  obtain ⟨reg, mon, clock, lb, hist⟩ := x
  simp only [step, Option.ite_none_right_eq_some, Option.some.injEq] at hs
  obtain ⟨hle, rfl⟩ := hs
  obtain ⟨hp, hb, hm, ha⟩ := h
  refine ⟨hp, hb, ?_, ha⟩
  cases mon with
  | idle => trivial
  | scanning now todo found size => exact ⟨hm.1.trans hle, hm.2⟩
  | stale now ms => exact ⟨hm.1.trans hle, hm.2⟩
  | names now m ns ms => exact ⟨hm.1.trans hle, hm.2⟩
  | found now m n ns ms => exact ⟨hm.1.trans hle, hm.2⟩
  | crashed => exact hm

theorem old_of_isStale {now : T}
    (hb : ∀ m t, x.reg.heartbeats.lookup m = some t → x.lastBeat.lookup m = some t)
    (hs : x.reg.isStale now m = true) : x.Old now m := by
  intro t0 ht0
  obtain ⟨t, hl, ht⟩ := isStale_iff.mp hs
  cases (hb m t hl).symm.trans ht0
  exact ht

theorem Inv.snapshot (h : x.Inv) (hs : x.step .snapshot = some y) : y.Inv := by
  obtain ⟨reg, mon, clock, lb, hist⟩ := x
  cases mon <;> simp only [step, reduceCtorEq, Option.some.injEq] at hs
  subst hs
  have hsm : [] ++ reg.heartbeats.keys.filter (reg.isStale clock) = reg.staleManagers clock := by
    rw [List.nil_append, staleManagers_eq_filter]
  refine ⟨h.pending, h.beats, ⟨le_rfl, fun _ h => absurd h (List.not_mem_nil _), hsm, rfl⟩, ?_⟩
  exact (congrArg (List.foldl unregisterManager reg) hsm).trans (by rw [run_append, ← h.atomic]; rfl)

theorem Inv.scan (h : x.Inv) (hs : x.step .scan = some y) : y.Inv := by
  obtain ⟨reg, mon, clock, lb, hist⟩ := x
  rcases mon with _ | ⟨now, _ | ⟨m, todo⟩, found, size⟩ <;> simp only [step, reduceCtorEq] at hs
  obtain ⟨hp, hb, ⟨hle, hold, hfound, hsize⟩, ha⟩ := h
  simp only [← hsize, if_true, Option.some.injEq] at hs
  subst hs
  have hf : (if reg.isStale now m then found ++ [m] else found) ++ todo.filter (reg.isStale now) =
      found ++ (m :: todo).filter (reg.isStale now) := by
    rw [List.filter_cons]; split_ifs <;> simp
  refine ⟨hp, hb, ⟨hle, fun m' hm' => ?_, hf.trans hfound, hsize⟩,
    (congrArg (List.foldl unregisterManager reg) hf).trans ha⟩
  split_ifs at hm' with hst
  · rcases List.mem_append.mp hm' with hm' | hm'
    · exact hold m' hm'
    · rw [List.mem_singleton.mp hm']; exact old_of_isStale hb hst
  · exact hold m' hm'

theorem Inv.scanEnd (h : x.Inv) (hs : x.step .scanEnd = some y) : y.Inv := by
  obtain ⟨reg, mon, clock, lb, hist⟩ := x
  rcases mon with _ | ⟨now, _ | ⟨m, todo⟩, found, size⟩ <;> simp only [step, reduceCtorEq] at hs
  obtain ⟨hp, hb, ⟨hle, hold, -, hsize⟩, ha⟩ := h
  simp only [← hsize, if_true, Option.some.injEq] at hs
  subst hs
  exact ⟨hp, hb, ⟨hle, hold⟩, (congrArg (List.foldl unregisterManager reg) (List.append_nil found)).symm.trans ha⟩

theorem Inv.popActors (h : x.Inv) (hs : x.step .popActors = some y) : y.Inv := by
  obtain ⟨reg, mon, clock, lb, hist⟩ := x
  rcases mon with _ | _ | ⟨now, _ | ⟨m, ms⟩⟩ <;> simp only [step, reduceCtorEq, Option.some.injEq] at hs
  subst hs
  obtain ⟨hp, hb, ⟨hle, hold⟩, ha⟩ := h
  have hp : reg.Consistent := hp
  refine ⟨hp.unregisterManager m, hb, ⟨hle, hold, fun n hn e he => ?_⟩, ha⟩
  have := (hp.actors_iff m n).mp hn
  simpa [ownerOf, he] using this

theorem Inv.check (h : x.Inv) (hs : x.step (.check n) = some y) : y.Inv := by
  obtain ⟨reg, mon, clock, lb, hist⟩ := x
  cases mon <;> simp only [step, reduceCtorEq] at hs
  rename_i now m ns ms
  obtain ⟨hp, hb, ⟨hle, hold, hown⟩, ha⟩ := h
  by_cases hns : n ∈ ns <;> simp only [hns, if_true, if_false, reduceCtorEq] at hs
  by_cases hr : n ∈ reg.registry <;> simp only [hr, if_true, if_false, Option.some.injEq] at hs <;>
    subst hs
  · have he := foldr_delActor_of_mem hns reg.registry
    refine ⟨?_, hb, ⟨hle, hold, by rwa [Finset.insert_erase hns], hr⟩, ?_⟩
    · show GlobalRegistry.Consistent { reg with
        registry := (ns.erase n).val.foldr delActor (reg.registry.erase n)
        heartbeats := reg.heartbeats.erase m }
      rw [← he]; exact hp
    · show ms.foldl unregisterManager { reg with
        registry := (ns.erase n).val.foldr delActor (reg.registry.erase n)
        heartbeats := reg.heartbeats.erase m } = _
      rw [← he]; exact ha
  · have he : (ns.erase n).val.foldr delActor reg.registry = ns.val.foldr delActor reg.registry :=
      foldr_delActor_of_not_mem hr
    refine ⟨?_, hb, ⟨hle, hold, fun n' hn' => hown n' (Finset.mem_of_mem_erase hn')⟩, ?_⟩
    · show GlobalRegistry.Consistent { reg with
        registry := (ns.erase n).val.foldr delActor reg.registry
        heartbeats := reg.heartbeats.erase m }
      rw [he]; exact hp
    · show ms.foldl unregisterManager { reg with
        registry := (ns.erase n).val.foldr delActor reg.registry
        heartbeats := reg.heartbeats.erase m } = _
      rw [he]; exact ha

theorem Inv.del (h : x.Inv) (hs : x.step .del = some y) : y.Inv := by
  obtain ⟨reg, mon, clock, lb, hist⟩ := x
  cases mon <;> simp only [step, reduceCtorEq] at hs
  rename_i now m n ns ms
  obtain ⟨hp, hb, ⟨hle, hold, hown, hn⟩, ha⟩ := h
  simp only [hn, if_true, Option.some.injEq] at hs
  subst hs
  refine ⟨hp, hb, ⟨hle, hold, fun n' hn' e he => hown n' (Finset.mem_insert_of_mem hn') e ?_⟩, ha⟩
  by_cases hne : n' = n
  · subst hne; simp at he
  · rwa [AList.lookup_erase_ne hne] at he

theorem Inv.popHeartbeat (h : x.Inv) (hs : x.step .popHeartbeat = some y) : y.Inv := by
  obtain ⟨reg, mon, clock, lb, hist⟩ := x
  cases mon <;> simp only [step, reduceCtorEq] at hs
  rename_i now m ns ms
  obtain ⟨hp, hb, ⟨hle, hold, -⟩, ha⟩ := h
  by_cases hns : ns = ∅ <;> simp only [hns, if_true, if_false, reduceCtorEq, Option.some.injEq] at hs
  subst hs hns
  refine ⟨hp, fun m' t ht => hb m' t ?_, ⟨hle, fun m' hm' => hold m' (List.mem_cons_of_mem m hm')⟩, ha⟩
  by_cases hne : m' = m
  · subst hne; simp at ht
  · rwa [AList.lookup_erase_ne hne] at ht

theorem Inv.finish (h : x.Inv) (hs : x.step .finish = some y) : y.Inv := by
  obtain ⟨reg, mon, clock, lb, hist⟩ := x
  rcases mon with _ | _ | ⟨now, _ | ⟨m, ms⟩⟩ <;> simp only [step, reduceCtorEq, Option.some.injEq] at hs
  subst hs
  exact ⟨h.pending, h.beats, trivial, h.atomic⟩

theorem Inv.step (h : x.Inv) (hc : calm x a = true) (hs : x.step a = some y) : y.Inv := by
  cases a with
  | request r => exact h.request hc hs
  | tick t => exact h.tick hs
  | snapshot => exact h.snapshot hs
  | scan => exact h.scan hs
  | scanEnd => exact h.scanEnd hs
  | popActors => exact h.popActors hs
  | check n => exact h.check hs
  | del => exact h.del hs
  | popHeartbeat => exact h.popHeartbeat hs
  | finish => exact h.finish hs

theorem Inv.exec (h : x.Inv) {acts : List (Action K E T)} (hy : x.exec calm acts = some y) :
    y.Inv := by
  induction acts generalizing x with
  | nil => cases hy; exact h
  | cons a acts ih =>
    simp only [System.exec] at hy
    split_ifs at hy with hc
    obtain ⟨z, hz, hy⟩ := Option.bind_eq_some.mp hy
    exact ih (h.step hc hz) hy

theorem Inv.not_fresh (h : x.Inv) (hv : x.victim a = some m) : ¬ x.Fresh m := by
  obtain ⟨reg, mon, clock, lb, hist⟩ := x
  obtain ⟨-, -, hm, -⟩ := h
  cases a <;> simp only [victim, reduceCtorEq] at hv
  · rcases mon with _ | _ | ⟨now, _ | ⟨m', ms⟩⟩ <;> simp only [reduceCtorEq] at hv
    split_ifs at hv
    cases hv
    exact not_fresh_of_old (hm.2 _ (List.mem_cons_self _ _)) hm.1
  · cases mon <;> simp only [reduceCtorEq] at hv
    rename_i now m' n ns ms
    obtain ⟨e, he, rfl⟩ := Option.map_eq_some'.mp hv
    rw [hm.2.2.1 n (Finset.mem_insert_self n ns) e he]
    exact not_fresh_of_old (hm.2.1 _ (List.mem_cons_self _ _)) hm.1
  · cases mon <;> simp only [reduceCtorEq] at hv
    split_ifs at hv
    cases hv
    exact not_fresh_of_old (hm.2.1 _ (List.mem_cons_self _ _)) hm.1

/-- In every run where writing requests are handled only while the monitor sleeps, the dicts
stay consistent between managers, no fresh manager loses data, `del` never raises, and each
sweep is the atomic one taken at its snapshot. -/
theorem calm_sweep_safe (t0 : T) (acts : List (Action K E T))
    (hx : (initial t0).exec calm acts = some x) :
    (x.monitor.between = true → x.reg.Consistent) ∧ (∀ a m, x.victim a = some m → ¬ x.Fresh m) ∧
      x.monitor ≠ .crashed ∧ (x.monitor.isIdle = true → x.reg = empty.run x.history) := by
  have h := (Inv.initial t0).exec hx
  obtain ⟨reg, mon, clock, lb, hist⟩ := x
  refine ⟨fun hb => ?_, fun a m => h.not_fresh, fun hc => ?_, fun hi => ?_⟩
  · cases mon <;> simp only [Monitor.between, reduceCtorEq] at hb <;> exact h.pending
  · simp only at hc
    subst hc
    exact h.monitor
  · cases mon <;> simp only [Monitor.isIdle, reduceCtorEq] at hi
    exact h.atomic

/-- A calm run: `m` registers `a` at 0, a sweep at 10 unregisters `m` while a lookup of `a`
lands in the middle of it. -/
theorem calm_sweep_lookup :
    let acts : List (Action String String ℤ) :=
      [.request (.registerActor "m" "a" "tcp://h:6000"), .tick 10, .snapshot, .scan, .scanEnd,
       .popActors, .request (.lookupActor "a"), .check "a", .del, .popHeartbeat, .finish]
    ∃ x, (initial 0).exec calm acts = some x ∧ x.reg.Consistent ∧
      x.reg.registry.lookup "a" = none := by
  intro acts
  have hx : (initial 0).exec calm acts = some _ := rfl
  exact ⟨_, hx, (calm_sweep_safe 0 acts hx).1 rfl, by decide⟩

/-- A registration by `m` inside the sweep that finds `m` stale: afterwards `_manager_actors`
lists `m` with no heartbeat record. -/
theorem sweep_race_register :
    ∃ x y : System String String ℤ,
      (initial 0).exec (fun _ _ => true)
        [.request (.registerActor "m" "a" "tcp://h:6000"), .tick 10, .snapshot, .scan, .scanEnd,
         .popActors, .request (.registerActor "m" "b" "tcp://h:6001"), .check "a", .del] = some x ∧
      x.victim .popHeartbeat = some "m" ∧ x.Fresh "m" ∧
      x.exec (fun _ _ => true) [.popHeartbeat, .finish] = some y ∧ y.monitor.isIdle ∧
      ¬ y.reg.Consistent :=
  ⟨_, _, rfl, by decide, ⟨10, rfl, by decide⟩, rfl, rfl,
    fun h => absurd (AList.lookup_isSome.mpr (h.tracked "m" (by decide))) (by decide)⟩

/-! ### A request between the test and the `del` ends the monitor -/

theorem step_crashed (hx : x.monitor = .crashed) (hs : x.step a = some y) :
    y.monitor = .crashed := by
  obtain ⟨reg, mon, clock, lb, hist⟩ := x
  simp only at hx
  subst hx
  cases a <;> simp only [step, reduceCtorEq, Option.ite_none_right_eq_some, Option.some.injEq] at hs
  all_goals first | (cases hs; rfl) | (obtain ⟨-, rfl⟩ := hs; rfl)

theorem exec_crashed {ok : System K E T → Action K E T → Bool} {acts : List (Action K E T)}
    (hx : x.monitor = .crashed) (hy : x.exec ok acts = some y) : y.monitor = .crashed := by
  induction acts generalizing x with
  | nil => cases hy; exact hx
  | cons a acts ih =>
    simp only [System.exec] at hy
    split_ifs at hy
    obtain ⟨z, hz, hy⟩ := Option.bind_eq_some.mp hy
    exact ih (step_crashed hx hz) hy

/-- Between the monitor's `in` test and its `del`, exactly an `UnregisterActor` of the name in hand
makes `del` raise `KeyError`, which ends the monitor for good. -/
theorem unregister_before_del_kills_monitor {now : T} {ms : List K} {r : Request K E}
    {z : System K E T} (hmon : x.monitor = .found now m n ns ms) (hn : n ∈ x.reg.registry)
    (hs : x.step (.request r) = some y) (hz : y.step .del = some z) :
    (z.monitor = .crashed ↔ r = .unregisterActor n) ∧
      (r = .unregisterActor n → ∀ ok acts w, z.exec ok acts = some w → w.monitor = .crashed) := by
  simp only [step, Option.some.injEq] at hs
  subst hs
  have hdel : n ∈ (x.reg.handle x.clock r).1.registry ↔ r ≠ .unregisterActor n :=
    mem_handle_registry_iff hn r
  simp only [step, hmon] at hz
  split_ifs at hz with hin <;> cases hz
  · exact ⟨iff_of_false (by simp) (hdel.mp hin), fun h => absurd h (hdel.mp hin)⟩
  · have hr : r = .unregisterActor n := not_not.mp (mt hdel.mpr hin)
    exact ⟨iff_of_true rfl hr, fun _ _ _ _ => exec_crashed rfl⟩

/-- `m` registers `a` at 0; at 10 the monitor finds `m` stale, pops its set and finds `a` in
`_registry`; `UnregisterActor(a)` lands before the `del`, which raises `KeyError` and ends the
monitor thread. -/
theorem unregister_before_del_raises :
    let x : System String String ℤ := ((initial 0).exec (fun _ _ => true)
      [.request (.registerActor "m" "a" "tcp://h:6000"), .tick 10, .snapshot, .scan, .scanEnd,
        .popActors, .check "a"]).getD (initial 0)
    let y := (x.step (.request (.unregisterActor "a"))).getD x
    let z := (y.step .del).getD y
    x.monitor = .found 10 "m" "a" ∅ [] ∧ "a" ∈ x.reg.registry ∧
      x.step (.request (.unregisterActor "a")) = some y ∧ y.step .del = some z ∧
      z.monitor = .crashed ∧ ∀ ok acts w, z.exec ok acts = some w → w.monitor = .crashed := by
  intro x y z
  have hmon : x.monitor = .found 10 "m" "a" ∅ [] := rfl
  have hn : "a" ∈ x.reg.registry := by decide
  have hs : x.step (.request (.unregisterActor "a")) = some y := rfl
  have hz : y.step .del = some z := rfl
  have h := unregister_before_del_kills_monitor hmon hn hs hz
  exact ⟨hmon, hn, hs, hz, h.1.mpr rfl, h.2 rfl⟩

/-! ### A new manager during the scan ends the monitor -/

/-- A first heartbeat or registration of a manager during the scan of `_heartbeats` grows the dict:
the next scan step raises `RuntimeError` and the monitor never sweeps again. -/
theorem scan_raises_on_new_manager {now : T} {todo found : List K} {r : Request K E} {z : System K E T}
    (hmon : x.monitor = .scanning now todo found x.reg.heartbeats.entries.length)
    (hm : m ∉ x.reg.heartbeats)
    (hr : (∃ ts, r = .heartbeat m ts) ∨ ∃ n e, r = .registerActor m n e ∧ n ∉ x.reg.registry)
    (hs : x.step (.request r) = some y) (ha : a = .scan ∨ a = .scanEnd) (hz : y.step a = some z) :
    z.monitor = .crashed ∧ ∀ ok acts w, z.exec ok acts = some w → w.monitor = .crashed := by
  have hgrow : (x.reg.handle x.clock r).1.heartbeats = x.reg.heartbeats.insert m x.clock := by
    rcases hr with ⟨ts, rfl⟩ | ⟨n, e, rfl, hn⟩
    · rfl
    · rw [handle, onRegister_of_not_mem hn]; rfl
  have hlen : (x.reg.handle x.clock r).1.heartbeats.entries.length ≠
      x.reg.heartbeats.entries.length := by
    rw [hgrow, AList.insert_entries_of_neg hm]; exact Nat.succ_ne_self _
  simp only [step, Option.some.injEq] at hs
  subst hs
  have hz' : z.monitor = .crashed := by
    rcases ha with rfl | rfl <;> cases todo <;>
      simp only [step, hmon, hlen, if_false, reduceCtorEq, Option.some.injEq] at hz <;>
      (subst hz; rfl)
  exact ⟨hz', fun _ _ _ => exec_crashed hz'⟩

/-- `m` registers `a` at 0 and falls silent; at 10 the monitor begins its scan, and a heartbeat
from a second manager `m2` lands before the iterator yields `m`'s entry. -/
theorem scan_raises_heartbeat :
    let x : System String String ℤ :=
      ((initial 0).exec (fun _ _ => true)
        [.request (.registerActor "m" "a" "tcp://h:6000"), .tick 10, .snapshot]).getD (initial 0)
    let y := (x.step (.request (.heartbeat "m2" 0))).getD x
    let z := (y.step .scan).getD y
    x.monitor = .scanning 10 ["m"] [] x.reg.heartbeats.entries.length ∧ "m2" ∉ x.reg.heartbeats ∧
      x.step (.request (.heartbeat "m2" 0)) = some y ∧ y.step .scan = some z ∧
      z.monitor = .crashed ∧ ∀ ok acts w, z.exec ok acts = some w → w.monitor = .crashed := by
  intro x y z
  have hmon : x.monitor = .scanning 10 ["m"] [] x.reg.heartbeats.entries.length := rfl
  have hm : "m2" ∉ x.reg.heartbeats := by decide
  have hs : x.step (.request (.heartbeat "m2" 0)) = some y := rfl
  have hz : y.step .scan = some z := rfl
  exact ⟨hmon, hm, hs, hz, scan_raises_on_new_manager hmon hm (.inl ⟨0, rfl⟩) hs (.inl rfl) hz⟩

end System

end ActorRegistry
