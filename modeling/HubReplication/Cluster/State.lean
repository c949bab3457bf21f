/-
**The state of the cluster.**

Every node comes to the same state by applying the same commands in the same order.

Main definitions:

* `ClusterState` — the topology and the record of every database;
* `ClusterState.apply` — the outcome of a command, and the state afterwards;
* `ClusterState.hosts` — whether a node holds a database.
-/

import HubReplication.Cluster.Command

set_option relaxedAutoImplicit false
set_option autoImplicit false

namespace HubReplication

/-- The state that commands lead to. -/
structure ClusterState where
  /-- The index of the last command. -/
  lastIndex : Nat
  topology : ClusterTopology
  databases : SortedMap String DatabaseRecord
deriving DecidableEq

namespace ClusterState

/-- The state before the first command. -/
def empty : ClusterState := ⟨0, .empty, .empty⟩

instance : Inhabited ClusterState := ⟨empty⟩

/-- The record of a database. -/
def database? (s : ClusterState) (name : String) : Option DatabaseRecord := s.databases.get? name

/-- Whether a node holds a database. -/
def hosts (s : ClusterState) (node : NodeTag) (database : String) : Bool :=
  match s.database? database with
  | some r => r.topology.contains node
  | none => false

/-- A database that the state does not have. -/
def missingDatabase (name : String) : ReplicationError :=
  .notFound ("database '" ++ name ++ "' does not exist")

/-- Put a record in the place of the one of its database. -/
def putRecord (s : ClusterState) (name : String) (r : DatabaseRecord) : ClusterState :=
  { s with databases := s.databases.insert name r }

/-- Change the record of a database: the outcome, and the state afterwards. -/
def withRecord {α : Type} (s : ClusterState) (name : String)
    (change : DatabaseRecord → Outcome α × DatabaseRecord) : Outcome α × ClusterState :=
  match s.database? name with
  | none => (.error (missingDatabase name), s)
  | some r =>
    match change r with
    | (outcome, r') => (outcome, s.putRecord name r')

/-- An operation that changes nothing when it fails, as a change of a record. -/
def orUnchanged {α : Type} (operation : DatabaseRecord → Outcome (α × DatabaseRecord))
    (r : DatabaseRecord) : Outcome α × DatabaseRecord :=
  match operation r with
  | .ok (a, r') => (.ok a, r')
  | .error e => (.error e, r)

/-- An operation without an answer, as one that answers a value. -/
def answering {α : Type} (a : α) (o : Outcome DatabaseRecord) : Outcome (α × DatabaseRecord) :=
  match o with
  | .ok r => .ok (a, r)
  | .error e => .error e

/-- Create a database, or change where it lives. -/
def putDatabase (s : ClusterState) (name : String) (topology : DatabaseTopology) :
    Outcome (Option TaskId) × ClusterState :=
  if topology.members.isEmpty then
    (.error (.invalidConfiguration ("database '" ++ name ++ "' needs at least one member")), s)
  else
    match topology.members.find? fun tag => (s.topology.node? tag).isNone with
    | some unknown =>
      (.error (.invalidConfiguration ("node " ++ unknown.text ++ " is not a cluster member")), s)
    | none =>
      let r := (s.database? name).getD (.new name topology)
      (.ok none, s.putRecord name { r with topology })

/-- What a command does by itself: the task it concerns, and the state afterwards. -/
def run (s : ClusterState) (index : Nat) : ClusterCommand → Outcome (Option TaskId) × ClusterState
  | .putClusterTopology topology =>
    match topology.validate with
    | .error e => (.error e, s)
    | .ok () => (.ok none, { s with topology })
  | .setNodeAlive node alive =>
    match s.topology.setAlive? node alive with
    | none => (.error (.notFound ("node " ++ node.text ++ " is not a cluster member")), s)
    | some topology => (.ok none, { s with topology })
  | .putDatabase name topology => s.putDatabase name topology
  | .deleteDatabase name =>
    if (s.database? name).isNone then (.error (missingDatabase name), s)
    else (.ok none, { s with databases := s.databases.erase name })
  | .defineHub name definition =>
    s.withRecord name (orUnchanged fun r =>
      (r.putHub definition index).map fun (id, r) => (some id, r))
  | .registerAccess name grant =>
    s.withRecord name (orUnchanged fun r => answering none (r.addGrant grant))
  | .unregisterAccess name hub thumbprint =>
    s.withRecord name fun r =>
      match r.removeGrant hub thumbprint with
      | (outcome, r') => (outcome.map fun _ => none, r')
  | .defineSink name definition =>
    s.withRecord name (orUnchanged fun r =>
      (r.putSink definition index).map fun (id, r) => (some id, r))
  | .defineExternal name definition =>
    s.withRecord name (orUnchanged fun r =>
      (r.putExternal definition index).map fun (id, r) => (some id, r))
  | .putConnectionString name connection =>
    s.withRecord name (orUnchanged fun r => answering none (r.putConnectionString connection))
  | .toggleTask name id disabled =>
    s.withRecord name (orUnchanged fun r => answering (some id) (r.toggleTask id disabled))
  | .deleteTask name id =>
    s.withRecord name (orUnchanged fun r => (r.deleteTask id).map fun (_, r) => (some id, r))

/-- Mark the record of a database as changed by the command of an index. -/
def stamp (s : ClusterState) (index : Nat) : Option String → ClusterState
  | none => { s with lastIndex := index }
  | some name =>
    { s with
      lastIndex := index
      databases := s.databases.adjust name fun r => { r with etag := index } }

/-- Apply a command at an index: the task it concerns or its failure, and the state afterwards. -/
def apply (s : ClusterState) (index : Nat) (command : ClusterCommand) :
    Outcome (Option TaskId) × ClusterState :=
  match s.run index command with
  | (.error e, s') => (.error e, s')
  | (.ok task, s') => (.ok task, s'.stamp index command.database)

/-- The state as a value. -/
def toJson (s : ClusterState) : Json :=
  .object [
    ("LastIndex", Json.nat s.lastIndex),
    ("Topology", s.topology.toJson),
    ("Databases", .object (s.databases.toList.map fun b => (b.1, b.2.toJson)))]

/-- The state of a value. -/
def ofJson? (j : Json) : Option ClusterState := do
  match ← j.record? ["LastIndex", "Topology", "Databases"] with
  | [index, topology, databases] =>
    return {
      lastIndex := ← Json.required Json.asWord index
      topology := ← Json.required ClusterTopology.ofJson? topology
      databases := ← Json.required (Json.asMapOf DatabaseRecord.ofJson?) databases }
  | _ => none

instance : Json.Writable ClusterState := ⟨toJson⟩

instance : Json.Readable ClusterState := ⟨ofJson?⟩

end ClusterState

end HubReplication
