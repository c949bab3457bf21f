/-
**Dialing tasks and where they dial.**

A sink pulls from a hub; an external replication pushes to a database.  Both reach their
destination through a connection string.

Main definitions:

* `ReplicationConnectionString` — a named pointer at a remote database;
* `SinkDefinition`, `ExternalReplicationDefinition` — the dialing tasks;
* `OngoingTask` — any task of a database.
-/

import HubReplication.Definition.Hub

set_option relaxedAutoImplicit false
set_option autoImplicit false

namespace HubReplication

/-- A named pointer at a remote database. -/
structure ReplicationConnectionString where
  name : String
  database : String
  /-- Endpoints of the destination, the preferred one first. -/
  discoveryUrls : List String
deriving DecidableEq

namespace ReplicationConnectionString

/-- A connection string has a name, a database and a URL. -/
def validate (c : ReplicationConnectionString) : Outcome Unit :=
  match validateTaskName "connection string" c.name with
  | .error e => .error e
  | .ok () =>
    if Text.isBlankText c.database then
      .error (.invalidConfiguration ("connection string '" ++ c.name ++ "' must name a database"))
    else if c.discoveryUrls.all Text.isBlankText then
      .error (.invalidConfiguration
        ("connection string '" ++ c.name ++ "' must list at least one url"))
    else .ok ()

/-- The connection string as a value. -/
def toJson (c : ReplicationConnectionString) : Json :=
  .object [
    ("Name", .string c.name),
    ("Database", .string c.database),
    ("TopologyDiscoveryUrls", .array (c.discoveryUrls.map .string))]

/-- The connection string of a value. -/
def ofJson? (j : Json) : Option ReplicationConnectionString := do
  match ← j.record? ["Name", "Database", "TopologyDiscoveryUrls"] with
  | [name, database, urls] =>
    return {
      name := ← Json.required Json.asText name
      database := ← Json.required Json.asText database
      discoveryUrls := ← Json.required (Json.asListOf Json.asText) urls }
  | _ => none

instance : Json.Writable ReplicationConnectionString := ⟨toJson⟩

instance : Json.Readable ReplicationConnectionString := ⟨ofJson?⟩

end ReplicationConnectionString

/-- The sink side of a hub and a sink. -/
structure SinkDefinition where
  name : String
  connectionStringName : String
  hubName : String
  /-- The certificate bundle presented to the hub. -/
  bundle : Option String
  mode : Mode
  /-- Where the sink last streamed from; nothing depends on it. -/
  url : Option String
  taskId : TaskId
  disabled : Bool
  mentorNode : Option NodeTag
deriving DecidableEq

namespace SinkDefinition

/-- The rules on a sink under the security of the server. -/
def validate (s : SinkDefinition) (security : ServerSecurity) : Outcome Unit :=
  match validateTaskName "sink" s.name with
  | .error e => .error e
  | .ok () =>
    match validateTaskName "hub" s.hubName with
    | .error e => .error e
    | .ok () =>
      if s.mode.isEmpty then
        .error (.invalidConfiguration
          ("sink '" ++ s.name ++ "' must replicate in at least one direction"))
      else if security.isSecured && s.bundle.isNone then
        .error (.invalidConfiguration
          ("sink '" ++ s.name ++
            "' needs a certificate with a private key on a secured server"))
      else if !security.isSecured && s.mode.contains .sinkToHub then
        .error (.invalidConfiguration
          ("sink '" ++ s.name ++ "' pushes to its hub, which requires a secured server"))
      else .ok ()

/-- The sink as a value. -/
def toJson (s : SinkDefinition) : Json :=
  .object [
    ("Name", .string s.name),
    ("ConnectionStringName", .string s.connectionStringName),
    ("HubName", .string s.hubName),
    ("CertificateWithPrivateKey", Json.optString s.bundle),
    ("Mode", s.mode.toJson),
    ("Url", Json.optString s.url),
    ("TaskId", s.taskId.toJson),
    ("Disabled", .bool s.disabled),
    ("MentorNode", NodeTag.optToJson s.mentorNode)]

/-- The sink of a value. -/
def ofJson? (j : Json) : Option SinkDefinition := do
  match ← j.record? ["Name", "ConnectionStringName", "HubName", "CertificateWithPrivateKey", "Mode",
      "Url", "TaskId", "Disabled", "MentorNode"] with
  | [name, connection, hub, bundle, mode, url, taskId, disabled, mentor] =>
    return {
      name := ← Json.required Json.asText name
      connectionStringName := ← Json.required Json.asText connection
      hubName := ← Json.required Json.asText hub
      bundle := ← Json.nullable Json.asText bundle
      mode := ← Json.defaulted Mode.ofJson? .hubToSink mode
      url := ← Json.nullable Json.asText url
      taskId := ← Json.defaulted TaskId.ofJson? ⟨0⟩ taskId
      disabled := ← Json.defaulted Json.asBool false disabled
      mentorNode := ← Json.nullable NodeTag.ofJson? mentor }
  | _ => none

instance : Json.Writable SinkDefinition := ⟨toJson⟩

instance : Json.Readable SinkDefinition := ⟨ofJson?⟩

end SinkDefinition

/-- A push of a database to the destination of a connection string. -/
structure ExternalReplicationDefinition where
  name : String
  connectionStringName : String
  /-- The destination database, taken from the connection string. -/
  database : String
  /-- How old an item must be before it is sent, in milliseconds. -/
  delay : Nat
  taskId : TaskId
  disabled : Bool
  mentorNode : Option NodeTag
deriving DecidableEq

namespace ExternalReplicationDefinition

/-- The rules on an external replication. -/
def validate (e : ExternalReplicationDefinition) : Outcome Unit :=
  match validateTaskName "external replication" e.name with
  | .error err => .error err
  | .ok () => validateTaskName "connection string" e.connectionStringName

/-- The external replication as a value. -/
def toJson (e : ExternalReplicationDefinition) : Json :=
  .object [
    ("Name", .string e.name),
    ("ConnectionStringName", .string e.connectionStringName),
    ("Database", .string e.database),
    ("DelayReplicationFor", Json.nat e.delay),
    ("TaskId", e.taskId.toJson),
    ("Disabled", .bool e.disabled),
    ("MentorNode", NodeTag.optToJson e.mentorNode)]

/-- The external replication of a value. -/
def ofJson? (j : Json) : Option ExternalReplicationDefinition := do
  match ← j.record? ["Name", "ConnectionStringName", "Database", "DelayReplicationFor", "TaskId",
      "Disabled", "MentorNode"] with
  | [name, connection, database, delay, taskId, disabled, mentor] =>
    return {
      name := ← Json.required Json.asText name
      connectionStringName := ← Json.required Json.asText connection
      database := ← Json.defaulted Json.asText "" database
      delay := ← Json.defaulted Json.asWord 0 delay
      taskId := ← Json.defaulted TaskId.ofJson? ⟨0⟩ taskId
      disabled := ← Json.defaulted Json.asBool false disabled
      mentorNode := ← Json.nullable NodeTag.ofJson? mentor }
  | _ => none

instance : Json.Writable ExternalReplicationDefinition := ⟨toJson⟩

instance : Json.Readable ExternalReplicationDefinition := ⟨ofJson?⟩

end ExternalReplicationDefinition

/-- Any task that a database owns. -/
inductive OngoingTask where
  | hub (definition : HubDefinition)
  | sink (definition : SinkDefinition)
  | external (definition : ExternalReplicationDefinition)
deriving DecidableEq

namespace OngoingTask

/-- The identity of a task. -/
def taskId : OngoingTask → TaskId
  | .hub d => d.taskId
  | .sink d => d.taskId
  | .external d => d.taskId

/-- The name of a task. -/
def name : OngoingTask → String
  | .hub d => d.name
  | .sink d => d.name
  | .external d => d.name

/-- Whether a task is switched off. -/
def disabled : OngoingTask → Bool
  | .hub d => d.disabled
  | .sink d => d.disabled
  | .external d => d.disabled

/-- The node that a task is meant to run on. -/
def mentorNode : OngoingTask → Option NodeTag
  | .hub d => d.mentorNode
  | .sink d => d.mentorNode
  | .external d => d.mentorNode

/-- The name of the kind of a task. -/
def typeName : OngoingTask → String
  | .hub _ => "PullReplicationAsHub"
  | .sink _ => "PullReplicationAsSink"
  | .external _ => "Replication"

/-- The connection string that a task dials. -/
def connectionStringName : OngoingTask → Option String
  | .hub _ => none
  | .sink d => some d.connectionStringName
  | .external d => some d.connectionStringName

/-- Whether a task opens connections. -/
def isDialer : OngoingTask → Bool
  | .hub _ => false
  | .sink _ => true
  | .external _ => true

/-- What is told of a task in a list of tasks. -/
def summary (t : OngoingTask) : Json :=
  .object [
    ("id", t.taskId.toJson),
    ("name", .string t.name),
    ("disabled", .bool t.disabled),
    ("mentor", NodeTag.optToJson t.mentorNode),
    ("type", .string t.typeName),
    ("connection_string", Json.optString t.connectionStringName),
    ("dialer", .bool t.isDialer)]

end OngoingTask

end HubReplication
