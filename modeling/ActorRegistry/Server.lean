import ActorRegistry.Loop
import Mathlib.Data.List.Chain

/-! The registry as the repository runs it: each request handled either by the
`GlobalRegistry` actor's `_on_*` handlers or by `run_registry`, with sweeps in between, at any
clock readings. -/
namespace ActorRegistry

open GlobalRegistry

/-- The code that handles a request: the actor's handlers, or `run_registry`'s loop. -/
inductive Impl
  | handlers
  | runRegistry

/-- A request handled by one of the two forms, or a sweep, at a clock reading. Requests carry
`str` fields, as the dataclasses declare them. -/
inductive ServerEvent (T : Type)
  | request (impl : Impl) (r : Request String String) (now : T)
  | sweep (now : T)

variable {T : Type}

def ServerEvent.toEvent : ServerEvent T → Event Key Json T
  | .request _ r now => .request r.toKeyed now
  | .sweep now => .sweep now

def ServerEvent.time : ServerEvent T → T
  | .request _ _ now => now
  | .sweep now => now

@[simp] theorem ServerEvent.toEvent_time (ev : ServerEvent T) : ev.toEvent.time = ev.time := by
  cases ev <;> rfl

variable [LinearOrderedCommRing T] {s : GlobalRegistry Key Json T} {now t : T}

/-- One event, and the messages it sends. -/
def serverStep (s : GlobalRegistry Key Json T) : ServerEvent T → GlobalRegistry Key Json T × List LoopReply
  | .request .handlers r now => ((s.handle now r.toKeyed).1, handlerReplies s now r)
  | .request .runRegistry r now =>
    match runRegistryIteration s now (.ok (r.toDict Json.str Json.str)) with
    | .ok (s', reply) => (s', [reply])
    | .error _ => (s, [])
  | .sweep now => (s.checkHeartbeats now, [])

def serverRun (s : GlobalRegistry Key Json T) (evs : List (ServerEvent T)) : GlobalRegistry Key Json T :=
  evs.foldl (fun s ev => (serverStep s ev).1) s

theorem serverStep_fst (ev : ServerEvent T) : (serverStep s ev).1 = (s.step ev.toEvent).1 := by
  rcases ev with ⟨_ | _, r, now⟩ | now
  · rfl
  · obtain ⟨reply, he, -⟩ := @runRegistryIteration_handle T _ s now r.toKeyed
    rw [Request.toDict_toKeyed] at he
    simp only [serverStep, he]; rfl
  · rfl

theorem serverRun_eq (evs : List (ServerEvent T)) : serverRun s evs = s.run (evs.map ServerEvent.toEvent) := by
  induction evs generalizing s with
  | nil => rfl
  | cons ev evs ih => simp only [serverRun, List.foldl_cons, List.map_cons, run_cons, ← serverStep_fst]; exact ih

theorem serverRun_append (evs evs' : List (ServerEvent T)) :
    serverRun s (evs ++ evs') = serverRun (serverRun s evs) evs' :=
  List.foldl_append _ _ _ _

theorem serverStep_replies (impl : Impl) (r : Request String String) (hr : ∀ n, r ≠ .unregisterActor n) :
    (serverStep s (.request impl r now)).2 = handlerReplies s now r := by
  cases impl with
  | handlers => rfl
  | runRegistry =>
    obtain ⟨reply, he, hrep | ⟨n, hn, -⟩⟩ := @runRegistryIteration_handle T _ s now r.toKeyed
    · rw [Request.toDict_toKeyed] at he
      simp only [serverStep, he, handlerReplies_eq, hrep]; rfl
    · cases r with
      | unregisterActor n' => exact absurd rfl (hr n')
      | _ => simp at hn

theorem serverStep_register_of_mem {m n e : String} (impl : Impl) (h : Key.str n ∈ s.registry) :
    serverStep s (.request impl (.registerActor m n e) now) =
      (s, [.message (.registrationFailed (.str n) "Name already registered")]) := by
  have hf : (serverStep s (.request impl (.registerActor m n e) now)).1 = s := by
    rw [serverStep_fst]; exact congrArg Prod.fst (onRegister_of_mem h)
  refine Prod.ext hf ?_
  rw [serverStep_replies impl _ (by simp)]
  simp [handlerReplies, handle, Request.toKeyed, Request.map, onRegister_of_mem h, Reply.map, Key.toJson]

theorem serverStep_register_of_not_mem {m n e : String} (impl : Impl) (h : Key.str n ∉ s.registry) :
    serverStep s (.request impl (.registerActor m n e) now) =
      (s.addActor now (.str m) (.str n) (.str e), [.message (.registrationOk (.str n))]) := by
  have hf : (serverStep s (.request impl (.registerActor m n e) now)).1 =
      s.addActor now (.str m) (.str n) (.str e) := by
    rw [serverStep_fst]; exact congrArg Prod.fst (onRegister_of_not_mem h)
  refine Prod.ext hf ?_
  rw [serverStep_replies impl _ (by simp)]
  simp [handlerReplies, handle, Request.toKeyed, Request.map, onRegister_of_not_mem h, Reply.map, Key.toJson]

theorem serverStep_lookup {n : String} (impl : Impl) :
    (serverStep s (.request impl (.lookupActor n) now)).2 =
      (s.onLookup now (.str n)).2.map fun rep => .message (rep.map Key.toJson) := by
  rw [serverStep_replies impl _ (by simp)]; rfl

theorem GlobalRegistry.Consistent.serverRun (h : s.Consistent) (evs : List (ServerEvent T)) :
    (serverRun s evs).Consistent := by
  rw [serverRun_eq]; exact h.run _

/-- From the empty registry, every run of requests, each handled by either form, and sweeps at
any clock readings keeps the three dicts consistent. -/
theorem serverRun_consistent (evs : List (ServerEvent T)) : (serverRun empty evs).Consistent :=
  Consistent.empty.serverRun evs

theorem not_mem_of_registrationOk {impl : Impl} {m n e : String}
    (h : (serverStep s (.request impl (.registerActor m n e) now)).2 =
      [.message (.registrationOk (.str n))]) : Key.str n ∉ s.registry := by
  intro hn
  rw [serverStep_register_of_mem impl hn] at h
  simp at h

theorem serverStep_lookup_of_present {n : String} {entry : ActorEntry Key Json} (impl : Impl)
    (h : s.registry.lookup (.str n) = some entry) :
    (serverStep s (.request impl (.lookupActor n) now)).2 =
      [.message (.lookupResult (.str n) (some entry.endpoint) (s.isManagerOnline now entry.managerId))] := by
  rw [serverStep_lookup, onLookup_of_present h]; rfl

/-- After `RegistrationOk` for `RegisterActor(m, n, e)` and until `UnregisterActor(n)` or a sweep
finding `m` stale, `n` stays `(e, m)` and rival registrations are refused; after either, `n` is
absent and can be registered again. -/
theorem registration_holds_until_removed (pre : List (ServerEvent T)) (impl : Impl)
    (m n e : String) (t0 : T)
    (hok : (serverStep (serverRun empty pre) (.request impl (.registerActor m n e) t0)).2 =
      [.message (.registrationOk (.str n))])
    (evs : List (ServerEvent T))
    (hkeep : Keeps (.str n) (.str m) (serverRun empty (pre ++ [.request impl (.registerActor m n e) t0]))
      (evs.map ServerEvent.toEvent)) :
    let s := serverRun empty (pre ++ .request impl (.registerActor m n e) t0 :: evs)
    s.registry.lookup (.str n) = some ⟨.str e, .str m⟩ ∧
    (∀ impl' m' e' t, serverStep s (.request impl' (.registerActor m' n e') t) =
      (s, [.message (.registrationFailed (.str n) "Name already registered")])) ∧
    (∀ impl' t, ∃ online, (serverStep s (.request impl' (.lookupActor n) t)).2 =
      [.message (.lookupResult (.str n) (some (.str e)) online)]) ∧
    (∀ ev, Removes (.str n) (.str m) s ev.toEvent →
      (serverStep s ev).1.registry.lookup (.str n) = none ∧
      ∀ post, (∀ ev' ∈ post, ¬ Registers (.str n) ev'.toEvent) → ∀ impl' m' e' t,
        (serverStep (serverRun (serverStep s ev).1 post) (.request impl' (.registerActor m' n e') t)).2 =
          [.message (.registrationOk (.str n))]) := by
  intro s
  have h0 := (Consistent.empty (T := T)).serverRun pre
  have hn0 := not_mem_of_registrationOk hok
  have h1 : serverRun empty (pre ++ [.request impl (.registerActor m n e) t0]) =
      (serverRun empty pre).addActor t0 (.str m) (.str n) (.str e) := by
    rw [serverRun_append]; exact congrArg Prod.fst (serverStep_register_of_not_mem impl hn0)
  have hs : s = serverRun (serverRun empty (pre ++ [.request impl (.registerActor m n e) t0])) evs := by
    show serverRun empty (pre ++ _ :: evs) = _
    rw [serverRun_append, serverRun_append]; rfl
  rw [h1] at hkeep hs
  have hc : s.Consistent := hs ▸ serverRun_eq (T := T) _ ▸ (h0.addActor hn0 _).run _
  have hreg : s.registry.lookup (.str n) = some ⟨.str e, .str m⟩ := by
    rw [hs, serverRun_eq]
    exact registry_run_of_keeps (h0.addActor hn0 _) (AList.lookup_insert _) hkeep
  have hmem : Key.str n ∈ s.registry := AList.lookup_isSome.mp (by simp [hreg])
  refine ⟨hreg, fun impl' m' e' t => serverStep_register_of_mem impl' hmem,
    fun impl' t => ⟨_, serverStep_lookup_of_present impl' hreg⟩, fun ev hr => ?_⟩
  have hgone : (serverStep s ev).1.registry.lookup (.str n) = none := by
    rw [serverStep_fst]; exact registry_step_of_removes hc hreg hr
  refine ⟨hgone, fun post hpost impl' m' e' t => ?_⟩
  have habs : (serverRun (serverStep s ev).1 post).registry.lookup (.str n) = none := by
    rw [serverRun_eq]
    exact registry_run_of_absent hgone (by simpa using hpost)
  rw [serverStep_register_of_not_mem impl' (AList.lookup_eq_none.mp habs)]

/-- `m` registers `a` at 0; a rival registration of `a` at 1 and a sweep at 3 leave `a` with
`m`'s endpoint. -/
theorem registration_holds_rival :
    (serverRun (empty : GlobalRegistry Key Json ℤ)
      [.request .handlers (.registerActor "m" "a" "tcp://h:6000") 0,
       .request .runRegistry (.registerActor "m2" "a" "tcp://h:7000") 1, .sweep 3]).registry.lookup
      (.str "a") = some ⟨.str "tcp://h:6000", .str "m"⟩ :=
  (registration_holds_until_removed [] .handlers "m" "a" "tcp://h:6000" 0 rfl
    [.request .runRegistry (.registerActor "m2" "a" "tcp://h:7000") 1, .sweep 3]
    ⟨id, show ¬ (_ = true) by decide, trivial⟩).1

theorem times_after {pre post : List T} {t0 t : T} (h : (pre ++ t0 :: post ++ [t]).Chain' (· ≤ ·)) :
    ∀ x ∈ post, t0 ≤ x ∧ x ≤ t := by
  rw [List.chain'_iff_pairwise] at h
  have hs := List.pairwise_append.mp h
  exact fun x hx => ⟨List.rel_of_pairwise_cons (List.pairwise_append.mp hs.1).2.1 hx,
    hs.2.2 x (by simp [hx]) t (List.mem_singleton_self t)⟩

/-- A lookup finds exactly the registered names, online exactly when the owner's last beat is
under six seconds old; a name registered at `t0` and kept is found online before `t0 + 6`. -/
theorem lookup_online_iff_recent_beat (evs : List (ServerEvent T)) (impl : Impl) (n : String)
    (t : T) (hclock : (evs.map ServerEvent.time ++ [t]).Chain' (· ≤ ·)) :
    let s := serverRun empty evs
    ((serverStep s (.request impl (.lookupActor n) t)).2 =
        [.message (.lookupResult (.str n) none false)] ↔ s.registry.lookup (.str n) = none) ∧
    (∀ entry, s.registry.lookup (.str n) = some entry → ∃ online,
      (serverStep s (.request impl (.lookupActor n) t)).2 =
        [.message (.lookupResult (.str n) (some entry.endpoint) online)] ∧
      (online = true ↔ ∃ t0, lastBeat entry.managerId empty (evs.map ServerEvent.toEvent) = some t0 ∧
        t - t0 < 6)) ∧
    (∀ pre post impl' m e t0, evs = pre ++ .request impl' (.registerActor m n e) t0 :: post →
      (serverStep (serverRun empty pre) (.request impl' (.registerActor m n e) t0)).2 =
        [.message (.registrationOk (.str n))] →
      (∀ ev ∈ post, ¬ Unregisters (.str n) ev.toEvent) → t < t0 + 6 →
      (serverStep s (.request impl (.lookupActor n) t)).2 =
        [.message (.lookupResult (.str n) (some (.str e)) true)]) := by
  intro s
  refine ⟨?_, fun entry he => ⟨_, serverStep_lookup_of_present impl he, ?_⟩, ?_⟩
  · rw [serverStep_lookup]
    cases h : s.registry.lookup (.str n) with
    | none => simp [onLookup_of_absent h, Reply.map, Key.toJson]
    | some entry => simp [onLookup_of_present h, Reply.map]
  · rw [show s = empty.run (evs.map ServerEvent.toEvent) from serverRun_eq _] at he ⊢
    exact isManagerOnline_run he
  · rintro pre post impl' m e t0 rfl hok hu ht
    have hn0 := not_mem_of_registrationOk hok
    have hpost : ∀ x ∈ post.map ServerEvent.time, t0 ≤ x ∧ x ≤ t :=
      times_after (by simpa [ServerEvent.time] using hclock)
    have hrun : s = ((serverRun empty pre).step (.request (Request.registerActor m n e).toKeyed t0)).1.run
        (post.map ServerEvent.toEvent) := by
      show serverRun empty (pre ++ _ :: post) = _
      rw [serverRun_append, serverRun_eq]; rfl
    rw [serverStep_lookup, hrun, Request.toKeyed, Request.map]
    rw [onLookup_after_register (Consistent.empty.serverRun pre) hn0 (post.map ServerEvent.toEvent)
      (by simpa using fun (ev : ServerEvent T) hev => hpost ev.time (List.mem_map_of_mem _ hev))
      (by simpa using hu) ht]
    rfl

theorem lookup_online_within_window :
    (serverStep (serverRun (empty : GlobalRegistry Key Json ℤ)
      [.request .handlers (.registerActor "m" "a" "tcp://h:6000") 0, .sweep 3])
      (.request .runRegistry (.lookupActor "a") 5)).2 =
      [.message (.lookupResult (.str "a") (some (.str "tcp://h:6000")) true)] :=
  (lookup_online_iff_recent_beat _ .runRegistry "a" 5 (by simp [ServerEvent.time])).2.2 [] [.sweep 3]
    .handlers "m" "tcp://h:6000" 0 rfl rfl (by simp [ServerEvent.toEvent, Unregisters]) (by decide)

end ActorRegistry
