import ActorRegistry.Json

/-! The registry protocol messages of `registry_messages.py` and their `to_dict()`. The
process-control messages (`StartManager` and the others) reach their handlers in `Control` as
the manager id they carry; their `to_dict()` is not modelled. -/
namespace ActorRegistry

/-- The four requests a registry handles. Names and manager ids have type `K`, endpoints
type `E`. -/
inductive Request (K E : Type)
  | registerActor (managerId actorName : K) (actorEndpoint : E)
  | unregisterActor (actorName : K)
  | lookupActor (actorName : K)
  | heartbeat (managerId : K) (timestampMs : ℤ)

/-- The four replies. `lookupResult` carries `none` as its endpoint when the name is not
registered. -/
inductive Reply (K E : Type)
  | registrationOk (actorName : K)
  | registrationFailed (actorName : K) (reason : String)
  | lookupResult (actorName : K) (endpoint : Option E) (online : Bool)
  | heartbeatAck

variable {K K' E E' : Type}

/-- `to_dict()` of a request; `name` and `endpoint` give the JSON value of a field. -/
def Request.toDict (name : K → Json) (endpoint : E → Json) : Request K E → Json
  | .registerActor m n e =>
    .obj [("message_type", .str "RegisterActor"), ("manager_id", name m), ("actor_name", name n),
      ("actor_endpoint", endpoint e)]
  | .unregisterActor n => .obj [("message_type", .str "UnregisterActor"), ("actor_name", name n)]
  | .lookupActor n => .obj [("message_type", .str "LookupActor"), ("actor_name", name n)]
  | .heartbeat m ts =>
    .obj [("message_type", .str "Heartbeat"), ("manager_id", name m), ("timestamp_ms", .num ts)]

def Reply.toDict (name : K → Json) (endpoint : E → Json) : Reply K E → Json
  | .registrationOk n => .obj [("message_type", .str "RegistrationOk"), ("actor_name", name n)]
  | .registrationFailed n r =>
    .obj [("message_type", .str "RegistrationFailed"), ("actor_name", name n), ("reason", .str r)]
  | .lookupResult n e o =>
    .obj [("message_type", .str "LookupResult"), ("actor_name", name n),
      ("endpoint", (e.map endpoint).getD .null), ("online", .bool o)]
  | .heartbeatAck => .obj [("message_type", .str "HeartbeatAck")]

@[simp] def Request.map (f : K → K') (g : E → E') : Request K E → Request K' E'
  | .registerActor m n e => .registerActor (f m) (f n) (g e)
  | .unregisterActor n => .unregisterActor (f n)
  | .lookupActor n => .lookupActor (f n)
  | .heartbeat m ts => .heartbeat (f m) ts

def Reply.map (f : K → K') : Reply K E → Reply K' E
  | .registrationOk n => .registrationOk (f n)
  | .registrationFailed n r => .registrationFailed (f n) r
  | .lookupResult n e o => .lookupResult (f n) e o
  | .heartbeatAck => .heartbeatAck

end ActorRegistry
