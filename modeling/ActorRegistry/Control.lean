import ActorRegistry.State

/-! Process control: `_load_config` building `_hosts` and `_manager_to_host` from the decoded
host file, `_systemctl_command`, and the three handlers that reply with its `ManagerStatus`.
The SSH call is an input: what the `try` block around it ends with. -/
namespace ActorRegistry

/-- `d.get(key, default)`; only a dict has `get`. -/
def Json.getOr (j : Json) (key : String) (default : Json) : Except PyExc Json :=
  match j with
  | .obj kvs => .ok ((kvs.lookup key).getD default)
  | _ => .error .attributeError

def Json.items : Json → Except PyExc (List (String × Json))
  | .obj kvs => .ok kvs
  | _ => .error .attributeError

/-- `HostConfig(ssh=..., managers=...)` as `_load_config` builds it. `managers` is the dict
whose keys the loader has just iterated over. -/
structure HostConfig where
  ssh : Json
  managers : List (String × Json)

structure ProcessConfig where
  hosts : AList (fun _ : String => HostConfig)
  managerToHost : AList (fun _ : String => String)

namespace ProcessConfig

def empty : ProcessConfig := ⟨∅, ∅⟩

/-- The inner loop: `self._manager_to_host[manager_id] = host_id` for each key of `managers`. -/
def mapManagers (hostId : String) (managers : List (String × Json))
    (managerToHost : AList (fun _ : String => String)) : AList (fun _ : String => String) :=
  managers.foldl (fun acc entry => acc.insert entry.1 hostId) managerToHost

/-- One pass of `_load_config`'s loop over `config.get("hosts", {}).items()`. -/
def loadHost (c : ProcessConfig) (entry : String × Json) : Except PyExc ProcessConfig := do
  let ssh ← entry.2.getOr "ssh" (.str "")
  let managers ← entry.2.getOr "managers" (.obj [])
  let managerIds ← managers.items
  pure ⟨c.hosts.insert entry.1 ⟨ssh, managerIds⟩, mapManagers entry.1 managerIds c.managerToHost⟩

end ProcessConfig

/-- What `subprocess.run` in the `try` block of `_systemctl_command` ends with: it returned, it
raised `TimeoutExpired`, or it raised another exception, kept as `str(e)`. -/
inductive SshOutcome
  | completed (returncode : ℤ) (stderr : String)
  | timeoutExpired
  | raised (message : String)

/-- The argv `["ssh", host.ssh, f"sudo systemctl {action} {service_name}"]`, as the values it
is formatted from. -/
structure SshCommand where
  ssh : String
  action : String
  serviceName : Json

/-- `ManagerStatus` as `_systemctl_command` builds it; it never sets `pid`. -/
structure ManagerStatus where
  managerId : String
  running : Bool
  error : Option String

def unknownManager (managerId : String) : ManagerStatus :=
  ⟨managerId, false, some ("Unknown manager: " ++ managerId)⟩

/-- `type(v).__name__` of a decoded value. A number is kept as its value only, so a whole one
is named `int`, though `json.load` reads `5.0` as a `float`. -/
def Json.typeName : Json → String
  | .null => "NoneType"
  | .bool _ => "bool"
  | .num q => if q.den = 1 then "int" else "float"
  | .str _ => "str"
  | .arr _ => "list"
  | .obj _ => "dict"

/-- The status for the `TypeError` that `' '.join(ssh_cmd)` raises inside the `try` block, before
`subprocess.run`, when `host.ssh` is not a string. -/
def joinTypeError (managerId : String) (ssh : Json) : ManagerStatus :=
  ⟨managerId, false, some ("sequence item 1: expected str instance, " ++ ssh.typeName ++ " found")⟩

/-- The status the `try` block returns once `subprocess.run` has run. -/
def sshStatus (managerId action : String) : SshOutcome → ManagerStatus
  | .completed returncode stderr =>
    if returncode = 0 then ⟨managerId, action != "stop", none⟩ else ⟨managerId, false, some stderr⟩
  | .timeoutExpired => ⟨managerId, false, some "SSH timeout"⟩
  | .raised message => ⟨managerId, false, some message⟩

/-- `_systemctl_command(manager_id, action)`: the command it runs, if any, and the status it
returns. `manager_config.get(...)` stands before the `try`, so a manager entry that is not a
dict raises out of it. -/
def systemctlCommand (c : ProcessConfig) (managerId action : String) (outcome : SshOutcome) :
    Except PyExc (Option SshCommand × ManagerStatus) :=
  match c.managerToHost.lookup managerId with
  | none => .ok (none, unknownManager managerId)
  | some hostId =>
    if hostId = "" then .ok (none, unknownManager managerId)
    else match c.hosts.lookup hostId with
      | none => .ok (none, unknownManager managerId)
      | some host => do
        let managerConfig := (host.managers.lookup managerId).getD (.obj [])
        let serviceName ← managerConfig.getOr "service" (.str managerId)
        match host.ssh with
        | .str ssh => pure (some ⟨ssh, action, serviceName⟩, sshStatus managerId action outcome)
        | ssh => pure (none, joinTypeError managerId ssh)

/-- `_on_start_manager`, `_on_stop_manager` and `_on_restart_manager`:
`ctx.reply(self._systemctl_command(msg.manager_id, action))`, with the replies it records. -/
def onManagerCommand (action : String) (c : ProcessConfig) (managerId : String)
    (outcome : SshOutcome) : Except PyExc (List ManagerStatus) :=
  (systemctlCommand c managerId action outcome).map fun r => [r.2]

def onStartManager : ProcessConfig → String → SshOutcome → Except PyExc (List ManagerStatus) :=
  onManagerCommand "start"

def onStopManager : ProcessConfig → String → SshOutcome → Except PyExc (List ManagerStatus) :=
  onManagerCommand "stop"

def onRestartManager : ProcessConfig → String → SshOutcome → Except PyExc (List ManagerStatus) :=
  onManagerCommand "restart"

namespace ProcessConfig

/-! ### What `_load_config` builds -/

/-- Every manager `_manager_to_host` maps has its host in `_hosts`, listing it, and every
manager a loaded host lists is mapped. -/
structure Wf (c : ProcessConfig) : Prop where
  mapped_listed : ∀ m h, c.managerToHost.lookup m = some h →
    ∃ host, c.hosts.lookup h = some host ∧ m ∈ host.managers.map Prod.fst
  listed_mapped : ∀ h host m, c.hosts.lookup h = some host → m ∈ host.managers.map Prod.fst →
    m ∈ c.managerToHost

theorem Wf.empty : empty.Wf where
  mapped_listed _ _ h := by cases h
  listed_mapped _ _ _ h := by cases h

theorem lookup_mapManagers (hostId m : String) (managers : List (String × Json))
    (acc : AList (fun _ : String => String)) :
    (mapManagers hostId managers acc).lookup m =
      if m ∈ managers.map Prod.fst then some hostId else acc.lookup m := by
  induction managers generalizing acc with
  | nil => simp [mapManagers]
  | cons entry managers ih =>
    rw [mapManagers, List.foldl_cons, ← mapManagers, ih, lookup_insert_eq_ite]
    by_cases h : m = entry.1
    · simp [h]
    · rw [if_neg h]; simp only [List.map_cons, List.mem_cons, h, false_or]

theorem loadHost_eq_ok {c c' : ProcessConfig} {entry : String × Json}
    (h : c.loadHost entry = .ok c') :
    ∃ ssh managers, entry.2.getOr "managers" (.obj []) = .ok (.obj managers) ∧
      c' = ⟨c.hosts.insert entry.1 ⟨ssh, managers⟩, mapManagers entry.1 managers c.managerToHost⟩ := by
  obtain ⟨ssh, -, h⟩ := except_bind_eq_ok.mp h
  obtain ⟨mv, hmv, h⟩ := except_bind_eq_ok.mp h
  obtain ⟨managers, hm, h⟩ := except_bind_eq_ok.mp h
  cases mv <;> simp only [Json.items, reduceCtorEq, Except.ok.injEq] at hm
  subst hm
  exact ⟨ssh, _, hmv, (Except.ok.inj h).symm⟩

theorem Wf.loadHost {c c' : ProcessConfig} {entry : String × Json} (hc : c.Wf)
    (hfresh : entry.1 ∉ c.hosts) (h : c.loadHost entry = .ok c') : c'.Wf := by
  obtain ⟨ssh, managers, -, rfl⟩ := loadHost_eq_ok h
  constructor
  · intro m h' hm
    simp only [lookup_mapManagers] at hm
    split_ifs at hm with hin
    · cases hm
      exact ⟨_, AList.lookup_insert _, hin⟩
    · obtain ⟨host, hh, hl⟩ := hc.mapped_listed m h' hm
      have hne : h' ≠ entry.1 := by rintro rfl; exact hfresh (AList.lookup_isSome.mp (by simp [hh]))
      exact ⟨host, by rw [AList.lookup_insert_ne hne]; exact hh, hl⟩
  · intro h' host m hh hl
    rw [← AList.lookup_isSome, lookup_mapManagers]
    split_ifs with hin
    · rfl
    · by_cases hne : h' = entry.1
      · subst hne
        rw [AList.lookup_insert, Option.some.injEq] at hh
        subst hh
        exact absurd hl hin
      · rw [AList.lookup_insert_ne hne] at hh
        exact AList.lookup_isSome.mpr (hc.listed_mapped h' host m hh hl)

end ProcessConfig

namespace ProcessConfig

end ProcessConfig

end ActorRegistry
