/-
**Database records.**

The record of a database is its replicated configuration: where it lives, its tasks, the grants on
its hubs and its connection strings.  Records change only by the operations below; each checks its
rules against the record it is applied to.  A failed operation changes nothing, but for the removal
of a grant, which lists the hub among the grants before it looks for the certificate.

Main definitions:

* `DatabaseRecord` — the record;
* `DatabaseRecord.putHub`, `putSink`, `putExternal`, `putConnectionString` — create or replace;
* `DatabaseRecord.addGrant`, `removeGrant` — grants;
* `DatabaseRecord.toggleTask`, `deleteTask` — any task.
-/

import HubReplication.Cluster.Topology
import HubReplication.Definition.Dialer

set_option relaxedAutoImplicit false
set_option autoImplicit false

namespace HubReplication

/-- The replicated configuration of a database. -/
structure DatabaseRecord where
  name : String
  topology : DatabaseTopology
  hubs : List HubDefinition
  /-- The grants of each hub, under its name in small letters. -/
  hubGrants : SortedMap String (List HubAccessGrant)
  sinks : List SinkDefinition
  externals : List ExternalReplicationDefinition
  connectionStrings : SortedMap String ReplicationConnectionString
  /-- The index of the last command that changed the record. -/
  etag : Nat
deriving DecidableEq

namespace DatabaseRecord

/-- A record without tasks. -/
def new (name : String) (topology : DatabaseTopology) : DatabaseRecord :=
  { name, topology, hubs := [], hubGrants := .empty, sinks := [], externals := [],
    connectionStrings := .empty, etag := 0 }

/-- The key of a hub among the grants. -/
def grantKey (hub : String) : String := Text.asciiLower hub

/-! ### Looking up -/

/-- The hub of a name, case aside. -/
def hub? (r : DatabaseRecord) (name : String) : Option HubDefinition :=
  r.hubs.find? fun h => Text.sameName h.name name

/-- The grants on a hub. -/
def grants (r : DatabaseRecord) (hub : String) : List HubAccessGrant :=
  (r.hubGrants.get? (grantKey hub)).getD []

/-- The grant of a certificate on a hub. -/
def grant? (r : DatabaseRecord) (hub thumbprint : String) : Option HubAccessGrant :=
  (r.grants hub).find? fun g => sameThumbprint g.certificateThumbprint thumbprint

/-- The connection string of a name. -/
def connectionString? (r : DatabaseRecord) (name : String) : Option ReplicationConnectionString :=
  r.connectionStrings.get? name

/-- Every task, hubs first. -/
def ongoingTasks (r : DatabaseRecord) : List OngoingTask :=
  r.hubs.map .hub ++ r.sinks.map .sink ++ r.externals.map .external

/-- The task of an identity. -/
def task? (r : DatabaseRecord) (id : TaskId) : Option OngoingTask :=
  r.ongoingTasks.find? (·.taskId == id)

/-! ### Failures -/

/-- A hub that the record does not have. -/
def missingHub (r : DatabaseRecord) (hub : String) : ReplicationError :=
  .notFound ("hub '" ++ hub ++ "' does not exist on database '" ++ r.name ++ "'")

/-- A task that the record does not have. -/
def missingTask (r : DatabaseRecord) (kind : String) (id : TaskId) : ReplicationError :=
  .notFound (kind ++ " " ++ toString id.value ++ " does not exist on database '" ++ r.name ++ "'")

/-- A connection string that the record does not have. -/
def missingConnectionString (name : String) : ReplicationError :=
  .invalidConfiguration ("connection string '" ++ name ++ "' does not exist")

/-- A name that is taken. -/
def nameTaken (kind name : String) : ReplicationError :=
  .invalidConfiguration (kind ++ " named '" ++ name ++ "' already exists")

/-! ### Hubs -/

/-- The first grant that does not fit a new definition of its hub. -/
def checkGrants (current definition : HubDefinition) : List HubAccessGrant → Outcome Unit
  | [] => .ok ()
  | g :: rest =>
    match g.validate definition with
    | .error e =>
      .error (.invalidConfiguration
        ("grant '" ++ g.grantName ++ "' on hub '" ++ current.name ++
          "' does not fit the new definition: " ++ e.message))
    | .ok () => checkGrants current definition rest

/-- Whether the grants of the hub that a definition replaces still fit it. -/
def checkHubUpdate (r : DatabaseRecord) (definition : HubDefinition) : Outcome Unit :=
  if !definition.taskId.isAssigned then .ok ()
  else
    match r.hubs.find? (·.taskId == definition.taskId) with
    | none => .ok ()
    | some current => checkGrants current definition (r.grants current.name)

/-- Move the grants of a hub under its new name. -/
def renameGrants (grants : SortedMap String (List HubAccessGrant)) (previous name : String) :
    SortedMap String (List HubAccessGrant) :=
  if Text.sameName previous name then grants
  else
    match grants.get? (grantKey previous) with
    | none => grants
    | some moved =>
      (grants.erase (grantKey previous)).insert (grantKey name)
        (moved.map fun g => { g with hubName := name })

/-- Replace the hub at a position by a new definition, its grants going with it. -/
def replaceHub (r : DatabaseRecord) (definition : HubDefinition) (position : Nat)
    (previous : HubDefinition) : DatabaseRecord :=
  { r with
    hubs := r.hubs.set position definition
    hubGrants := renameGrants r.hubGrants previous.name definition.name }

/-- Create a hub under a new identity, or replace the hub of the identity it carries. -/
def putHub (r : DatabaseRecord) (definition : HubDefinition) (index : Nat) :
    Outcome (TaskId × DatabaseRecord) :=
  match definition.validateShape with
  | .error e => .error e
  | .ok () =>
    let clash := r.hubs.findIdx? fun h => Text.sameName h.name definition.name
    if definition.taskId.isAssigned then
      match r.hubs.findIdx? (·.taskId == definition.taskId) with
      | none => .error (r.missingTask "hub task" definition.taskId)
      | some position =>
        if clash.any (· != position) then .error (nameTaken "a hub" definition.name)
        else
          match r.checkHubUpdate definition with
          | .error e => .error e
          | .ok () =>
            match r.hubs[position]? with
            | none => .error (r.missingTask "hub task" definition.taskId)
            | some previous =>
              .ok (definition.taskId, r.replaceHub definition position previous)
    else if clash.isSome then .error (nameTaken "a hub" definition.name)
    else
      .ok (⟨index⟩, { r with hubs := r.hubs ++ [{ definition with taskId := ⟨index⟩ }] })

/-! ### Grants -/

/-- Register a grant on its hub. -/
def addGrant (r : DatabaseRecord) (g : HubAccessGrant) : Outcome DatabaseRecord :=
  match r.hub? g.hubName with
  | none => .error (r.missingHub g.hubName)
  | some hub =>
    if hub.hasLegacyCertificates then
      .error (.invalidConfiguration
        ("hub '" ++ hub.name ++ "' still carries inline certificates; " ++
          "remove them before registering access grants"))
    else
      match g.validate hub with
      | .error e => .error e
      | .ok () =>
        if (r.grant? g.hubName g.certificateThumbprint).isSome then
          .error (.duplicateGrant g.hubName g.certificateThumbprint)
        else
          .ok { r with
            hubGrants := r.hubGrants.insert (grantKey g.hubName) (r.grants g.hubName ++ [g]) }

/-- Replace the grants of a hub. -/
def withGrants (r : DatabaseRecord) (hub : String) (grants : List HubAccessGrant) :
    DatabaseRecord :=
  { r with hubGrants := r.hubGrants.insert (grantKey hub) grants }

/-- Remove the grant of a certificate from a hub and answer it, with the record afterwards.  The hub
is listed among the grants from then on, even when it has no such grant. -/
def removeGrant (r : DatabaseRecord) (hub thumbprint : String) :
    Outcome HubAccessGrant × DatabaseRecord :=
  if (r.hub? hub).isNone then (.error (r.missingHub hub), r)
  else
    match r.grant? hub thumbprint with
    | none =>
      (.error (.notFound
        ("hub '" ++ hub ++ "' has no access grant for certificate " ++ thumbprint)),
        r.withGrants hub (r.grants hub))
    | some g =>
      (.ok g, r.withGrants hub
        ((r.grants hub).eraseP fun g => sameThumbprint g.certificateThumbprint thumbprint))

/-! ### Dialing tasks -/

/-- Create or replace a sink; the URL it carries is dropped. -/
def putSink (r : DatabaseRecord) (definition : SinkDefinition) (index : Nat) :
    Outcome (TaskId × DatabaseRecord) :=
  if (r.connectionString? definition.connectionStringName).isNone then
    .error (missingConnectionString definition.connectionStringName)
  else
    let definition := { definition with url := none }
    let clash := r.sinks.findIdx? fun s => Text.sameName s.name definition.name
    if definition.taskId.isAssigned then
      match r.sinks.findIdx? (·.taskId == definition.taskId) with
      | none => .error (r.missingTask "sink task" definition.taskId)
      | some position =>
        if clash.any (· != position) then .error (nameTaken "a sink" definition.name)
        else .ok (definition.taskId, { r with sinks := r.sinks.set position definition })
    else if clash.isSome then .error (nameTaken "a sink" definition.name)
    else
      .ok (⟨index⟩, { r with sinks := r.sinks ++ [{ definition with taskId := ⟨index⟩ }] })

/-- Create or replace an external replication; its database is that of the connection string. -/
def putExternal (r : DatabaseRecord) (definition : ExternalReplicationDefinition) (index : Nat) :
    Outcome (TaskId × DatabaseRecord) :=
  match r.connectionString? definition.connectionStringName with
  | none => .error (missingConnectionString definition.connectionStringName)
  | some connection =>
    let definition := { definition with database := connection.database }
    let clash := r.externals.findIdx? fun e => Text.sameName e.name definition.name
    if definition.taskId.isAssigned then
      match r.externals.findIdx? (·.taskId == definition.taskId) with
      | none => .error (r.missingTask "external replication task" definition.taskId)
      | some position =>
        if clash.any (· != position) then
          .error (nameTaken "an external replication" definition.name)
        else .ok (definition.taskId, { r with externals := r.externals.set position definition })
    else if clash.isSome then .error (nameTaken "an external replication" definition.name)
    else
      .ok (⟨index⟩, { r with externals := r.externals ++ [{ definition with taskId := ⟨index⟩ }] })

/-- Create or replace a connection string; external replications through it follow its database. -/
def putConnectionString (r : DatabaseRecord) (c : ReplicationConnectionString) :
    Outcome DatabaseRecord :=
  match c.validate with
  | .error e => .error e
  | .ok () =>
    .ok { r with
      externals := r.externals.map fun e =>
        if e.connectionStringName = c.name then { e with database := c.database } else e
      connectionStrings := r.connectionStrings.insert c.name c }

/-! ### Any task -/

/-- Change the first element that passes a test; `none` when no element does. -/
def changeFirst {α : Type} (p : α → Bool) (f : α → α) : List α → Option (List α)
  | [] => none
  | a :: rest => if p a then some (f a :: rest) else (changeFirst p f rest).map (a :: ·)

/-- Switch a task on or off. -/
def toggleTask (r : DatabaseRecord) (id : TaskId) (disabled : Bool) : Outcome DatabaseRecord :=
  match changeFirst (·.taskId == id) (fun h : HubDefinition => { h with disabled }) r.hubs with
  | some hubs => .ok { r with hubs }
  | none =>
    match changeFirst (·.taskId == id) (fun s : SinkDefinition => { s with disabled }) r.sinks with
    | some sinks => .ok { r with sinks }
    | none =>
      match changeFirst (·.taskId == id)
          (fun e : ExternalReplicationDefinition => { e with disabled }) r.externals with
      | some externals => .ok { r with externals }
      | none => .error (r.missingTask "task" id)

/-- Delete a task and answer it; the grants of a hub go with it. -/
def deleteTask (r : DatabaseRecord) (id : TaskId) : Outcome (OngoingTask × DatabaseRecord) :=
  match r.hubs.find? (·.taskId == id) with
  | some h =>
    .ok (.hub h, { r with
      hubs := r.hubs.eraseP (·.taskId == id)
      hubGrants := r.hubGrants.erase (grantKey h.name) })
  | none =>
    match r.sinks.find? (·.taskId == id) with
    | some s => .ok (.sink s, { r with sinks := r.sinks.eraseP (·.taskId == id) })
    | none =>
      match r.externals.find? (·.taskId == id) with
      | some e => .ok (.external e, { r with externals := r.externals.eraseP (·.taskId == id) })
      | none => .error (r.missingTask "task" id)

/-! ### Values -/

/-- The record as a value. -/
def toJson (r : DatabaseRecord) : Json :=
  .object [
    ("Name", .string r.name),
    ("Topology", r.topology.toJson),
    ("Hubs", .array (r.hubs.map (·.toJson))),
    ("HubGrants", .object (r.hubGrants.toList.map fun b => (b.1, .array (b.2.map (·.toJson))))),
    ("Sinks", .array (r.sinks.map (·.toJson))),
    ("ExternalReplications", .array (r.externals.map (·.toJson))),
    ("ConnectionStrings", .object (r.connectionStrings.toList.map fun b => (b.1, b.2.toJson))),
    ("Etag", Json.nat r.etag)]

/-- The record of a value. -/
def ofJson? (j : Json) : Option DatabaseRecord := do
  match ← j.record? ["Name", "Topology", "Hubs", "HubGrants", "Sinks", "ExternalReplications",
      "ConnectionStrings", "Etag"] with
  | [name, topology, hubs, grants, sinks, externals, connections, etag] =>
    return {
      name := ← Json.required Json.asText name
      topology := ← Json.required DatabaseTopology.ofJson? topology
      hubs := ← Json.defaulted (Json.asListOf HubDefinition.ofJson?) [] hubs
      hubGrants := ← Json.defaulted (Json.asMapOf (Json.asListOf HubAccessGrant.ofJson?)) .empty
        grants
      sinks := ← Json.defaulted (Json.asListOf SinkDefinition.ofJson?) [] sinks
      externals := ← Json.defaulted (Json.asListOf ExternalReplicationDefinition.ofJson?) []
        externals
      connectionStrings :=
        ← Json.defaulted (Json.asMapOf ReplicationConnectionString.ofJson?) .empty connections
      etag := ← Json.defaulted Json.asWord 0 etag }
  | _ => none

instance : Json.Writable DatabaseRecord := ⟨toJson⟩

end DatabaseRecord

end HubReplication
