/-
**Commands.**

Every change of configuration is a command; it takes effect when the cluster applies it.

Main definitions:

* `ClusterCommand` — the changes there are;
* `ClusterCommand.database` — the database a command is for;
* `ClusterChange` — what is told of a command that took effect.
-/

import HubReplication.Cluster.Record

set_option relaxedAutoImplicit false
set_option autoImplicit false

namespace HubReplication

/-- A change of configuration. -/
inductive ClusterCommand where
  | putClusterTopology (topology : ClusterTopology)
  | setNodeAlive (node : NodeTag) (alive : Bool)
  | putDatabase (database : String) (topology : DatabaseTopology)
  | deleteDatabase (database : String)
  | defineHub (database : String) (definition : HubDefinition)
  | registerAccess (database : String) (grant : HubAccessGrant)
  | unregisterAccess (database hub thumbprint : String)
  | defineSink (database : String) (definition : SinkDefinition)
  | defineExternal (database : String) (definition : ExternalReplicationDefinition)
  | putConnectionString (database : String) (connection : ReplicationConnectionString)
  | toggleTask (database : String) (task : TaskId) (disabled : Bool)
  | deleteTask (database : String) (task : TaskId)
deriving DecidableEq

namespace ClusterCommand

/-- The database a command is for. -/
def database : ClusterCommand → Option String
  | .putClusterTopology _ => none
  | .setNodeAlive _ _ => none
  | .putDatabase db _ => some db
  | .deleteDatabase db => some db
  | .defineHub db _ => some db
  | .registerAccess db _ => some db
  | .unregisterAccess db _ _ => some db
  | .defineSink db _ => some db
  | .defineExternal db _ => some db
  | .putConnectionString db _ => some db
  | .toggleTask db _ _ => some db
  | .deleteTask db _ => some db

/-- The name of a command. -/
def name : ClusterCommand → String
  | .putClusterTopology _ => "PutClusterTopology"
  | .setNodeAlive _ _ => "SetNodeAlive"
  | .putDatabase _ _ => "PutDatabase"
  | .deleteDatabase _ => "DeleteDatabase"
  | .defineHub _ _ => "DefineHub"
  | .registerAccess _ _ => "RegisterAccess"
  | .unregisterAccess _ _ _ => "UnregisterAccess"
  | .defineSink _ _ => "DefineSink"
  | .defineExternal _ _ => "DefineExternalReplication"
  | .putConnectionString _ _ => "PutConnectionString"
  | .toggleTask _ _ _ => "ToggleTask"
  | .deleteTask _ _ => "DeleteTask"

/-- The data of a command as members. -/
def members : ClusterCommand → List (String × Json)
  | .putClusterTopology topology => [("topology", topology.toJson)]
  | .setNodeAlive node alive => [("node", node.toJson), ("alive", .bool alive)]
  | .putDatabase db topology => [("database", .string db), ("topology", topology.toJson)]
  | .deleteDatabase db => [("database", .string db)]
  | .defineHub db definition => [("database", .string db), ("definition", definition.toJson)]
  | .registerAccess db grant => [("database", .string db), ("grant", grant.toJson)]
  | .unregisterAccess db hub thumbprint =>
    [("database", .string db), ("hub", .string hub), ("thumbprint", .string thumbprint)]
  | .defineSink db definition => [("database", .string db), ("definition", definition.toJson)]
  | .defineExternal db definition => [("database", .string db), ("definition", definition.toJson)]
  | .putConnectionString db connection =>
    [("database", .string db), ("connection_string", connection.toJson)]
  | .toggleTask db task disabled =>
    [("database", .string db), ("task_id", task.toJson), ("disabled", .bool disabled)]
  | .deleteTask db task => [("database", .string db), ("task_id", task.toJson)]

/-- The names of commands. -/
def names : List String :=
  ["PutClusterTopology", "SetNodeAlive", "PutDatabase", "DeleteDatabase", "DefineHub",
    "RegisterAccess", "UnregisterAccess", "DefineSink", "DefineExternalReplication",
    "PutConnectionString", "ToggleTask", "DeleteTask"]

/-- The command as a value. -/
def toJson (c : ClusterCommand) : Json := .object (("Type", .string c.name) :: c.members)

/-- The data of a command about a database and one more thing. -/
def pair? {α β : Type} (field : String) (read : Json → Option α) (make : String → α → β)
    (j : Json) : Option β := do
  match ← j.record? ["database", field] with
  | [database, value] =>
    return make (← Json.required Json.asText database) (← Json.required read value)
  | _ => none

/-- The command of a value. -/
def ofJson? (j : Json) : Option ClusterCommand := do
  let (name, data) ← j.tagged? .direct "Type" names
  match name with
  | "PutClusterTopology" =>
    match ← data.record? ["topology"] with
    | [topology] => return .putClusterTopology (← Json.required ClusterTopology.ofJson? topology)
    | _ => none
  | "SetNodeAlive" =>
    match ← data.record? ["node", "alive"] with
    | [node, alive] =>
      return .setNodeAlive (← Json.required NodeTag.ofJson? node)
        (← Json.required Json.asBool alive)
    | _ => none
  | "PutDatabase" => pair? "topology" DatabaseTopology.ofJson? .putDatabase data
  | "DeleteDatabase" =>
    match ← data.record? ["database"] with
    | [database] => return .deleteDatabase (← Json.required Json.asText database)
    | _ => none
  | "DefineHub" => pair? "definition" HubDefinition.ofJson? .defineHub data
  | "RegisterAccess" => pair? "grant" HubAccessGrant.ofJson? .registerAccess data
  | "UnregisterAccess" =>
    match ← data.record? ["database", "hub", "thumbprint"] with
    | [database, hub, thumbprint] =>
      return .unregisterAccess (← Json.required Json.asText database)
        (← Json.required Json.asText hub) (← Json.required Json.asText thumbprint)
    | _ => none
  | "DefineSink" => pair? "definition" SinkDefinition.ofJson? .defineSink data
  | "DefineExternalReplication" =>
    pair? "definition" ExternalReplicationDefinition.ofJson? .defineExternal data
  | "PutConnectionString" =>
    pair? "connection_string" ReplicationConnectionString.ofJson? .putConnectionString data
  | "ToggleTask" =>
    match ← data.record? ["database", "task_id", "disabled"] with
    | [database, task, disabled] =>
      return .toggleTask (← Json.required Json.asText database)
        (← Json.required TaskId.ofJson? task) (← Json.required Json.asBool disabled)
    | _ => none
  | "DeleteTask" => pair? "task_id" TaskId.ofJson? .deleteTask data
  | _ => none

instance : Json.Writable ClusterCommand := ⟨toJson⟩

instance : Json.Readable ClusterCommand := ⟨ofJson?⟩

end ClusterCommand

/-- What is told of a command that took effect. -/
structure ClusterChange where
  index : Nat
  /-- The database whose record changed; none for a change of the cluster topology. -/
  database : Option String
  command : String
deriving DecidableEq

namespace ClusterChange

/-- Whether the cluster topology changed. -/
def isTopologyChange (c : ClusterChange) : Bool := c.database.isNone

end ClusterChange

end HubReplication
