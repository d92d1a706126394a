import ActorRegistry.Server
import ActorRegistry.ClientSocket

/-! `RegistryClient.register`, `lookup` and `lookup_allow_offline`: what each makes of the
outcome of its `_send_recv`, and, composed with `run_registry` over every state its requests
reach, what each reports about the registry. -/
namespace ActorRegistry

open GlobalRegistry

/-- An exception a `RegistryClient` method raises: the errors of `registry_client.py` (with the
values `RegistrationFailedError` and `RegistryError` format), the `zmq.ZMQError` of `send_json` on
a socket still awaiting a reply, and `AttributeError` for a reply that is not a dict. -/
inductive ClientError
  | actorNotFound (actorName : String)
  | actorOffline (actorName : String)
  | registrationFailed (actorName reason : Json)
  | timeout (message : String)
  | unexpected (reply : Json)
  | zmqError
  | attributeError

def Json.isStr (j : Json) (s : String) : Bool :=
  match j with
  | .str s' => s' == s
  | _ => false

def Json.isNull : Json → Bool
  | .null => true
  | _ => false

theorem Json.isNull_iff {j : Json} : j.isNull = true ↔ j = .null := by
  cases j <;> simp [Json.isNull]

/-- Python's truth value of a decoded JSON value. -/
def Json.truthy : Json → Bool
  | .null => false
  | .bool b => b
  | .num q => q != 0
  | .str s => !s.isEmpty
  | .arr xs => !xs.isEmpty
  | .obj kvs => !kvs.isEmpty

def dictGet (d : List (String × Json)) (key : String) (fallback : Json) : Json :=
  (d.lookup key).getD fallback

/-- `reply = self._send_recv(...)` under `except zmq.Again: raise TimeoutError(message)`, with
the reply a dict, as `reply.get` needs it to be. -/
def received (message : String) : Outcome → Except ClientError (List (String × Json))
  | .reply (.obj reply) => .ok reply
  | .reply _ => .error .attributeError
  | .again => .error (.timeout message)
  | .efsm => .error .zmqError

namespace RegistryClient

/-- `RegistryClient.register`, from the outcome of its `_send_recv`. -/
def register (actorName : String) (out : Outcome) : Except ClientError Unit := do
  let reply ← received "No response from registry for registration" out
  if (dictGet reply "message_type" .null).isStr "RegistrationOk" then pure ()
  else if (dictGet reply "message_type" .null).isStr "RegistrationFailed" then
    .error (.registrationFailed (dictGet reply "actor_name" (.str actorName))
      (dictGet reply "reason" (.str "Unknown")))
  else .error (.unexpected (.obj reply))

/-- `RegistryClient.lookup`, from the outcome of its `_send_recv`. -/
def lookup (actorName : String) (out : Outcome) : Except ClientError Json := do
  let reply ← received "No response from registry for lookup" out
  if (dictGet reply "message_type" .null).isStr "LookupResult" then
    let endpoint := dictGet reply "endpoint" .null
    let online := dictGet reply "online" (.bool false)
    if endpoint.isNull then .error (.actorNotFound actorName)
    else if !online.truthy then .error (.actorOffline actorName)
    else pure endpoint
  else .error (.unexpected (.obj reply))

/-- `RegistryClient.lookup_allow_offline`, from the outcome of its `_send_recv`. -/
def lookupAllowOffline (actorName : String) (out : Outcome) : Except ClientError (Json × Json) := do
  let reply ← received "No response from registry for lookup" out
  if (dictGet reply "message_type" .null).isStr "LookupResult" then
    let endpoint := dictGet reply "endpoint" .null
    let online := dictGet reply "online" (.bool false)
    if endpoint.isNull then .error (.actorNotFound actorName)
    else pure (endpoint, online)
  else .error (.unexpected (.obj reply))

end RegistryClient

/-- The reply as the client's `recv_json()` decodes it: `json.dumps(reply.to_dict())` read back. -/
def Reply.toJson (r : Reply Json Json) : Json := r.toDict id id

section Classify
variable (n : String)

theorem lookup_lookupResult (ep : Option Json) (o : Bool) :
    RegistryClient.lookup n (.reply (Reply.lookupResult (.str n) ep o).toJson) =
      match ep with
      | some e => if e.isNull then .error (.actorNotFound n)
        else if o then .ok e else .error (.actorOffline n)
      | none => .error (.actorNotFound n) := by
  cases ep <;> cases o <;> simp [RegistryClient.lookup, received, Reply.toJson, Reply.toDict,
    dictGet, lookup_cons_ite, Json.isStr, Json.isNull, Json.truthy]

theorem lookupAllowOffline_lookupResult (ep : Option Json) (o : Bool) :
    RegistryClient.lookupAllowOffline n (.reply (Reply.lookupResult (.str n) ep o).toJson) =
      match ep with
      | some e => if e.isNull then .error (.actorNotFound n) else .ok (e, .bool o)
      | none => .error (.actorNotFound n) := by
  cases ep <;> simp [RegistryClient.lookupAllowOffline, received, Reply.toJson, Reply.toDict,
    dictGet, lookup_cons_ite, Json.isStr, Json.isNull]

theorem register_registrationOk :
    RegistryClient.register n (.reply (Reply.registrationOk (.str n) : Reply Json Json).toJson) =
      .ok () := by
  simp [RegistryClient.register, received, Reply.toJson, Reply.toDict, dictGet, lookup_cons_ite,
    Json.isStr]

theorem register_registrationFailed (reason : String) :
    RegistryClient.register n
        (.reply (Reply.registrationFailed (.str n) reason : Reply Json Json).toJson) =
      .error (.registrationFailed (.str n) (.str reason)) := by
  simp [RegistryClient.register, received, Reply.toJson, Reply.toDict, dictGet, lookup_cons_ite,
    Json.isStr]

end Classify

/-! ### The states `run_registry` reaches -/

/-- What `run_registry` does, seen from the wire: handle a decoded request, or sweep. -/
inductive WireEvent (T : Type)
  | request (msg : Json) (now : T)
  | sweep (now : T)

/-- A `RegisterActor` whose `actor_endpoint` is JSON `null`. -/
def WireEvent.SetsNullEndpoint {T : Type} : WireEvent T → Prop
  | .request (.obj kvs) _ => kvs.lookup "message_type" = some (.str "RegisterActor") ∧
      kvs.lookup "actor_endpoint" = some .null
  | _ => False

variable {T : Type} [LinearOrderedCommRing T] {s s' : GlobalRegistry Key Json T} {now : T}

def wireStep (s : GlobalRegistry Key Json T) : WireEvent T → Option (GlobalRegistry Key Json T)
  | .request msg now => match runRegistryIteration s now (.ok msg) with
    | .ok (s', _) => some s'
    | .error _ => none
  | .sweep now => some (s.checkHeartbeats now)

/-- A run of requests `run_registry` accepts, and sweeps; `none` when a request raises. -/
def wireRun (s : GlobalRegistry Key Json T) : List (WireEvent T) → Option (GlobalRegistry Key Json T)
  | [] => some s
  | ev :: evs => (wireStep s ev).bind fun s' => wireRun s' evs

theorem registry_runRegistryIteration {msg : Json} {rep : LoopReply}
    (h : runRegistryIteration s now (.ok msg) = .ok (s', rep)) {n : Key} {e : ActorEntry Key Json}
    (he : s'.registry.lookup n = some e) :
    s.registry.lookup n = some e ∨ ∃ kvs, msg = .obj kvs ∧
      kvs.lookup "message_type" = some (.str "RegisterActor") ∧
      kvs.lookup "actor_endpoint" = some e.endpoint := by
  obtain ⟨kvs, hmsg, ⟨-, rfl, -⟩ | ⟨r, hr, rfl, -⟩ | ⟨-, rfl, -⟩⟩ := runRegistryIteration_eq_ok h
  · exact .inl he
  · rcases lookup_handle_eq_some r he with he | rfl
    · exact .inl he
    · exact .inr ⟨kvs, Except.ok.inj hmsg, hr.1, hr.2.2.2⟩
  · exact .inl he

theorem endpoint_wireRun {evs : List (WireEvent T)} (hrun : wireRun s evs = some s')
    (hs : ∀ n e, s.registry.lookup n = some e → e.endpoint.isNull = false)
    (hnull : ∀ ev ∈ evs, ¬ ev.SetsNullEndpoint) :
    ∀ n e, s'.registry.lookup n = some e → e.endpoint.isNull = false := by
  induction evs generalizing s with
  | nil => cases hrun; exact hs
  | cons ev evs ih =>
    obtain ⟨s₁, h₁, hrun⟩ := Option.bind_eq_some.mp hrun
    refine ih hrun (fun n e he => ?_) (fun ev' h' => hnull ev' (List.mem_cons_of_mem _ h'))
    cases ev with
    | request msg now =>
      simp only [wireStep] at h₁
      split at h₁ <;> simp only [Option.some.injEq, reduceCtorEq] at h₁
      subst h₁
      rcases registry_runRegistryIteration ‹_› he with he | ⟨kvs, rfl, htype, hep⟩
      · exact hs n e he
      · cases hnull' : e.endpoint.isNull
        · rfl
        · rw [Json.isNull_iff.mp hnull'] at hep
          exact absurd ⟨htype, hep⟩ (hnull _ (List.mem_cons_self _ _))
    | sweep now =>
      cases h₁
      rw [checkHeartbeats, registry_foldl_unregisterManager] at he
      split_ifs at he
      exact hs n e he

/-! ### The client's reports against the registry -/

/-- Over the states `run_registry` reaches from empty dicts by accepted requests and sweeps,
none registering a null `actor_endpoint`: the client's `lookup`, `lookup_allow_offline` and
`register` report exactly what `_registry` and `is_manager_online` hold. -/
theorem registryClient_reports {evs : List (WireEvent T)} (hrun : wireRun empty evs = some s)
    (hnull : ∀ ev ∈ evs, ¬ ev.SetsNullEndpoint) (now : T) (n : String) :
    (∃ rep, (serverStep s (.request .runRegistry (.lookupActor n) now)).2 = [.message rep] ∧
      (∀ e, RegistryClient.lookup n (.reply rep.toJson) = .ok e ↔
        ∃ m, s.registry.lookup (.str n) = some ⟨e, m⟩ ∧ s.isManagerOnline now m = true) ∧
      (RegistryClient.lookup n (.reply rep.toJson) = .error (.actorNotFound n) ↔
        s.registry.lookup (.str n) = none) ∧
      (RegistryClient.lookup n (.reply rep.toJson) = .error (.actorOffline n) ↔
        ∃ e m, s.registry.lookup (.str n) = some ⟨e, m⟩ ∧ s.isManagerOnline now m = false) ∧
      (∀ e o, RegistryClient.lookupAllowOffline n (.reply rep.toJson) = .ok (e, .bool o) ↔
        ∃ m, s.registry.lookup (.str n) = some ⟨e, m⟩ ∧ s.isManagerOnline now m = o) ∧
      (RegistryClient.lookupAllowOffline n (.reply rep.toJson) = .error (.actorNotFound n) ↔
        s.registry.lookup (.str n) = none)) ∧
    ∀ mgr e, ∃ rep,
      (serverStep s (.request .runRegistry (.registerActor mgr n e) now)).2 = [.message rep] ∧
      (RegistryClient.register n (.reply rep.toJson) = .ok () ↔ Key.str n ∉ s.registry) ∧
      (RegistryClient.register n (.reply rep.toJson) = .ok () →
        (serverStep s (.request .runRegistry (.registerActor mgr n e) now)).1.registry.lookup
          (.str n) = some ⟨.str e, .str mgr⟩) ∧
      (RegistryClient.register n (.reply rep.toJson) =
          .error (.registrationFailed (.str n) (.str "Name already registered")) ↔
        Key.str n ∈ s.registry) ∧
      (Key.str n ∈ s.registry →
        (serverStep s (.request .runRegistry (.registerActor mgr n e) now)).1 = s) := by
  have hnn := endpoint_wireRun hrun (fun n e h => by simp [GlobalRegistry.empty] at h) hnull
  refine ⟨?_, fun mgr e => ?_⟩
  · cases h : s.registry.lookup (.str n) with
    | none =>
      refine ⟨.lookupResult (.str n) none false,
        by rw [serverStep_lookup, onLookup_of_absent h]; rfl, ?_⟩
      simp [lookup_lookupResult, lookupAllowOffline_lookupResult]
    | some entry =>
      obtain ⟨ep, m⟩ := entry
      have hep : ep.isNull = false := hnn _ _ h
      refine ⟨.lookupResult (.str n) (some ep) (s.isManagerOnline now m),
        by rw [serverStep_lookup, onLookup_of_present h]; rfl, ?_⟩
      cases ho : s.isManagerOnline now m <;>
        simp [lookup_lookupResult, lookupAllowOffline_lookupResult, hep, ho, and_assoc]
  · by_cases hn : Key.str n ∈ s.registry
    · refine ⟨.registrationFailed (.str n) "Name already registered",
        by rw [serverStep_register_of_mem .runRegistry hn], ?_⟩
      rw [register_registrationFailed, serverStep_register_of_mem .runRegistry hn]
      simp [hn]
    · refine ⟨.registrationOk (.str n), by rw [serverStep_register_of_not_mem .runRegistry hn], ?_⟩
      rw [register_registrationOk, serverStep_register_of_not_mem .runRegistry hn]
      simp [hn, addActor]

theorem registryClient_reports_online :
    let evs : List (WireEvent ℤ) :=
      [.request ((Request.registerActor "m" "a" "tcp://h:6000").toDict Json.str Json.str) 0]
    let s : GlobalRegistry Key Json ℤ := (wireRun empty evs).getD empty
    wireRun empty evs = some s ∧ ∃ rep,
      (serverStep s (.request .runRegistry (.lookupActor "a") 1)).2 = [.message rep] ∧
      RegistryClient.lookup "a" (.reply rep.toJson) = .ok (.str "tcp://h:6000") := by
  intro evs s
  have hrun : wireRun empty evs = some s := rfl
  have hnull : ∀ ev ∈ evs, ¬ ev.SetsNullEndpoint := by
    simp [evs, WireEvent.SetsNullEndpoint, Request.toDict, lookup_cons_ite]
  obtain ⟨rep, hrep, hok, -⟩ := (registryClient_reports hrun hnull 1 "a").1
  exact ⟨hrun, rep, hrep, (hok _).mpr ⟨.str "m", rfl, by decide⟩⟩

/-- A `RegisterActor` dict, as any client may send it, whose `actor_endpoint` is `null`. -/
def nullRegistration (managerId actorName : String) : Json :=
  .obj [("message_type", .str "RegisterActor"), ("manager_id", .str managerId),
    ("actor_name", .str actorName), ("actor_endpoint", .null)]

/-- `run_registry` never checks `actor_endpoint`: it registers every free name with a null one,
storing `(None, m)`, and from every state holding such an entry a lookup of the name answers
`endpoint: None`, which `lookup` and `lookup_allow_offline` report as `ActorNotFoundError`. -/
theorem null_endpoint_reads_not_found :
    (∀ (s : GlobalRegistry Key Json T) (now : T) (m a : String), Key.str a ∉ s.registry →
      runRegistryIteration s now (.ok (nullRegistration m a)) =
        .ok (s.addActor now (.str m) (.str a) .null, .message (.registrationOk (.str a))) ∧
      (s.addActor now (.str m) (.str a) .null).registry.lookup (.str a) = some ⟨.null, .str m⟩) ∧
    (∀ (s : GlobalRegistry Key Json T) (now : T) (a : String) (m : Key),
      s.registry.lookup (.str a) = some ⟨.null, m⟩ →
      ∃ rep, (serverStep s (.request .runRegistry (.lookupActor a) now)).2 = [.message rep] ∧
        RegistryClient.lookup a (.reply rep.toJson) = .error (.actorNotFound a) ∧
        RegistryClient.lookupAllowOffline a (.reply rep.toJson) = .error (.actorNotFound a)) := by
  refine ⟨fun s now m a ha => ⟨?_, AList.lookup_insert _⟩, fun s now a m h =>
    ⟨_, serverStep_lookup_of_present .runRegistry h, ?_⟩⟩
  · show (if Key.str a ∈ s.registry then _ else _) = _
    rw [if_neg ha]; rfl
  · rw [lookup_lookupResult, lookupAllowOffline_lookupResult]; exact ⟨rfl, rfl⟩

/-- From empty dicts: `a` registered with a null endpoint at 0, looked up at 1 with its manager
online, is reported not found. -/
theorem registryClient_null_endpoint :
    let s : GlobalRegistry Key Json ℤ := empty.addActor 0 (.str "m") (.str "a") .null
    runRegistryIteration empty 0 (.ok (nullRegistration "m" "a")) =
        .ok (s, .message (.registrationOk (.str "a"))) ∧
      s.isManagerOnline 1 (.str "m") = true ∧
      ∃ rep, (serverStep s (.request .runRegistry (.lookupActor "a") 1)).2 = [.message rep] ∧
        RegistryClient.lookup "a" (.reply rep.toJson) = .error (.actorNotFound "a") ∧
        RegistryClient.lookupAllowOffline "a" (.reply rep.toJson) = .error (.actorNotFound "a") :=
  have hreg := null_endpoint_reads_not_found.1 (empty : GlobalRegistry Key Json ℤ) 0 "m" "a"
    (by simp [empty])
  ⟨hreg.1, by decide, null_endpoint_reads_not_found.2 _ 1 "a" _ hreg.2⟩

end ActorRegistry
