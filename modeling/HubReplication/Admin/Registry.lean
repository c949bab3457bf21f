/-
**Changing the configuration.**

Administrators define hubs, sinks, external replications and connection strings, and grant access to
hubs.  A request is checked against the state as it is, so that a mistake is told at once and takes
no index, and is then proposed to the log, which checks it again.  Rules about the security of the
server are checked here only, because the log does not know it.

Main definitions:

* `AccessRequest`, `AccessListing`, `TaskCommitted` — what is asked and answered;
* `Registry` — the log and the security of the server that changes it;
* `Registry.defineHub`, `registerAccess`, `unregisterAccess`, `defineSink`, `defineExternal`,
  `putConnectionString`, `toggleTask`, `deleteTask` — the changes;
* `Registry.listAccess` — the grants on a hub, a page at a time.
-/

import HubReplication.Cluster.Consensus
import HubReplication.Destination
import HubReplication.Text.Lowercase

set_option relaxedAutoImplicit false
set_option autoImplicit false

namespace HubReplication

/-- A grant as an administrator asks for it. -/
structure AccessRequest where
  name : String
  /-- The public certificate of the sink. -/
  certificate : String
  hubToSinkPaths : TextSet
  sinkToHubPaths : TextSet
deriving DecidableEq

namespace AccessRequest

/-- The request as a value. -/
def toJson (r : AccessRequest) : Json :=
  .object [
    ("Name", .string r.name),
    ("Certificate", .string r.certificate),
    ("AllowedHubToSinkPaths", r.hubToSinkPaths.toJson),
    ("AllowedSinkToHubPaths", r.sinkToHubPaths.toJson)]

/-- The request of a value. -/
def ofJson? (j : Json) : Option AccessRequest := do
  match ← j.record? ["Name", "Certificate", "AllowedHubToSinkPaths", "AllowedSinkToHubPaths"] with
  | [name, certificate, hubToSink, sinkToHub] =>
    return {
      name := ← Json.required Json.asText name
      certificate := ← Json.required Json.asText certificate
      hubToSinkPaths := ← Json.defaulted TextSet.ofJson? .empty hubToSink
      sinkToHubPaths := ← Json.defaulted TextSet.ofJson? .empty sinkToHub }
  | _ => none

instance : Json.Writable AccessRequest := ⟨toJson⟩

instance : Json.Readable AccessRequest := ⟨ofJson?⟩

end AccessRequest

/-- A page of grants, and how many there are on all pages. -/
structure AccessListing where
  results : List HubAccessGrant
  total : Nat

/-- The page as a value. -/
def AccessListing.toJson (l : AccessListing) : Json :=
  .object [("Results", .array (l.results.map (·.toJson))), ("TotalResults", Json.nat l.total)]

instance : Json.Writable AccessListing := ⟨AccessListing.toJson⟩

/-- A task that was committed. -/
structure TaskCommitted where
  index : Nat
  taskId : TaskId
  /-- The node that runs the task, when a live member exists. -/
  responsibleNode : Option NodeTag

/-- The committed task as a value. -/
def TaskCommitted.toJson (t : TaskCommitted) : Json :=
  .object [
    ("RaftCommandIndex", Json.nat t.index),
    ("TaskId", t.taskId.toJson),
    ("ResponsibleNode", NodeTag.optToJson t.responsibleNode)]

instance : Json.Writable TaskCommitted := ⟨TaskCommitted.toJson⟩

/-- The log as a server changes it, which knows its own security. -/
structure Registry where
  log : Consensus
  security : ServerSecurity

/-- The outcome of a change, the log after it, and what was logged. -/
structure Changed (α : Type) where
  outcome : Outcome α
  log : Consensus
  entries : List LogEntry

namespace Registry

/-- The record of a database. -/
def record (r : Registry) (database : String) : Outcome DatabaseRecord :=
  match r.log.state.database? database with
  | some record => .ok record
  | none => .error (.notFound ("database '" ++ database ++ "' does not exist"))

/-- The hub of a record. -/
def hub (record : DatabaseRecord) (name : String) : Outcome HubDefinition :=
  match record.hub? name with
  | some hub => .ok hub
  | none => .error (record.missingHub name)

/-- A request that is refused before it is proposed. -/
def rejected {α : Type} (r : Registry) (e : ReplicationError) : Changed α :=
  ⟨.error e, r.log, [.plain .warn .adminRequestRejected]⟩

/-- Propose a command, and log an event once it is committed. -/
def commit (r : Registry) (requestId : String) (command : ClusterCommand) (event : Event) :
    Changed Nat :=
  match r.log.propose requestId command with
  | (proposed, log) =>
    match proposed.outcome with
    | .ok index => ⟨.ok index, log, proposed.entries ++ [.plain .info event]⟩
    | .error e => ⟨.error e, log, proposed.entries⟩

/-- The task that a command committed, as the state has it afterwards. -/
def committedTask (state : ClusterState) (database : String) (index : Nat)
    (find : DatabaseRecord → Option TaskId) : Outcome TaskCommitted :=
  match state.database? database with
  | none => .error (.notFound ("database '" ++ database ++ "' does not exist"))
  | some record =>
    match find record with
    | none =>
      .error (.notFound ("task committed at index " ++ toString index ++ " no longer exists"))
    | some taskId =>
      .ok {
        index, taskId
        responsibleNode := (record.task? taskId).bind fun task =>
          Destination.responsibleNode task record.topology state.topology }

/-- Propose the definition of a task, find the task, and log an event once it is found. -/
def commitTask (r : Registry) (database requestId : String) (command : ClusterCommand)
    (event : Event) (find : DatabaseRecord → Option TaskId) : Changed TaskCommitted :=
  match r.log.propose requestId command with
  | (proposed, log) =>
    match proposed.outcome with
    | .error e => ⟨.error e, log, proposed.entries⟩
    | .ok index =>
      match committedTask log.state database index find with
      | .error e => ⟨.error e, log, proposed.entries⟩
      | .ok task => ⟨.ok task, log, proposed.entries ++ [.plain .info event]⟩

/-! ### Hubs and grants -/

/-- What is checked before a hub is defined. -/
def checkHub (r : Registry) (database : String) (definition : HubDefinition) : Outcome Unit := do
  definition.validate r.security
  let record ← r.record database
  record.checkHubUpdate definition

/-- Create or change a hub. -/
def defineHub (r : Registry) (database requestId : String) (definition : HubDefinition) :
    Changed TaskCommitted :=
  match r.checkHub database definition with
  | .error e => r.rejected e
  | .ok () =>
    r.commitTask database requestId (.defineHub database definition) .hubDefined fun record =>
      (record.hub? definition.name).map (·.taskId)

/-- The grant that a request asks for, when the hub can take it. -/
def grantOf (r : Registry) (database hubName : String) (request : AccessRequest) :
    Outcome HubAccessGrant := do
  let certificate ← Certificate.parse request.certificate
  let record ← r.record database
  let hub ← hub record hubName
  if hub.hasLegacyCertificates then
    throw (.invalidConfiguration
      ("hub '" ++ hub.name ++ "' still carries legacy inline certificates; " ++
        "migrate them before registering access"))
  let grant : HubAccessGrant := {
    hubName := hub.name
    grantName := request.name
    certificateThumbprint := certificate.info.thumbprint
    certificateInfo := certificate.info
    hubToSinkPaths := request.hubToSinkPaths
    sinkToHubPaths := request.sinkToHubPaths }
  grant.validate hub
  if (record.grant? hub.name grant.certificateThumbprint).isSome then
    throw (.duplicateGrant hub.name grant.certificateThumbprint)
  return grant

/-- Grant the holder of a certificate access to a hub. -/
def registerAccess (r : Registry) (database hubName requestId : String) (request : AccessRequest) :
    Changed Nat :=
  match r.grantOf database hubName request with
  | .error e => r.rejected e
  | .ok grant => r.commit requestId (.registerAccess database grant) .accessRegistered

/-- What is checked before a grant is removed. -/
def checkGrant (r : Registry) (database hubName thumbprint : String) : Outcome Unit := do
  let record ← r.record database
  let hub ← hub record hubName
  if (record.grant? hub.name thumbprint).isNone then
    throw (.notFound
      ("hub '" ++ hub.name ++ "' has no grant for certificate " ++ thumbprint))

/-- Remove a grant; connections under it close when the change is applied. -/
def unregisterAccess (r : Registry) (database hubName thumbprint requestId : String) :
    Changed Nat :=
  match r.checkGrant database hubName thumbprint with
  | .error e => r.rejected e
  | .ok () =>
    r.commit requestId (.unregisterAccess database hubName thumbprint) .accessUnregistered

/-- How many grants a page has when nobody says. -/
def defaultPageSize : Nat := 25

/-- Whether a text is part of another. -/
def isPartOf (needle : List Char) : List Char → Bool
  | [] => needle.isEmpty
  | c :: rest => needle.isPrefixOf (c :: rest) || isPartOf needle rest

/-- Whether a grant matches a filter: its name, its subject or its thumbprint holds the text, case
aside. -/
def matchesFilter (needle : List Char) (g : HubAccessGrant) : Bool :=
  [g.grantName, g.certificateInfo.subject, g.certificateThumbprint].any fun text =>
    isPartOf needle (Text.lowercase text).toList

/-- A page of the grants on a hub; a filter that is blank lets all through, and a page of no size
has the default size. -/
def listAccess (r : Registry) (database hubName : String) (filter : Option String)
    (start pageSize : Nat) : Outcome AccessListing := do
  let record ← r.record database
  let hub ← hub record hubName
  let needle := (Text.lowercase (Text.trim (filter.getD ""))).toList
  let found := (record.grants hub.name).filter (matchesFilter needle)
  return {
    results := (found.drop start).take (if pageSize = 0 then defaultPageSize else pageSize)
    total := found.length }

/-! ### Dialing tasks -/

/-- Refuse a task whose connection string is not there. -/
def checkConnectionString (record : DatabaseRecord) (name : String) : Outcome Unit :=
  match record.connectionString? name with
  | some _ => .ok ()
  | none => .error (DatabaseRecord.missingConnectionString name)

/-- Refuse a bundle that does not parse. -/
def checkBundle : Option String → Outcome Unit
  | none => .ok ()
  | some bundle => (CertificateBundle.parse bundle).map fun _ => ()

/-- What is checked before a sink is defined. -/
def checkSink (r : Registry) (database : String) (definition : SinkDefinition) : Outcome Unit := do
  definition.validate r.security
  checkBundle definition.bundle
  let record ← r.record database
  checkConnectionString record definition.connectionStringName

/-- Create or change a sink. -/
def defineSink (r : Registry) (database requestId : String) (definition : SinkDefinition) :
    Changed TaskCommitted :=
  match r.checkSink database definition with
  | .error e => r.rejected e
  | .ok () =>
    r.commitTask database requestId (.defineSink database definition) .sinkDefined fun record =>
      (record.sinks.find? fun s => Text.sameName s.name definition.name).map (·.taskId)

/-- What is checked before an external replication is defined. -/
def checkExternal (r : Registry) (database : String) (definition : ExternalReplicationDefinition) :
    Outcome Unit := do
  definition.validate
  let record ← r.record database
  checkConnectionString record definition.connectionStringName

/-- Create or change an external replication. -/
def defineExternal (r : Registry) (database requestId : String)
    (definition : ExternalReplicationDefinition) : Changed TaskCommitted :=
  match r.checkExternal database definition with
  | .error e => r.rejected e
  | .ok () =>
    r.commitTask database requestId (.defineExternal database definition)
      .externalReplicationDefined fun record =>
        (record.externals.find? fun e => Text.sameName e.name definition.name).map (·.taskId)

/-- What is checked before a connection string is put. -/
def checkConnection (r : Registry) (database : String) (connection : ReplicationConnectionString) :
    Outcome Unit := do
  connection.validate
  let _ ← r.record database

/-- Create or replace a connection string. -/
def putConnectionString (r : Registry) (database requestId : String)
    (connection : ReplicationConnectionString) : Changed Nat :=
  match r.checkConnection database connection with
  | .error e => r.rejected e
  | .ok () =>
    r.commit requestId (.putConnectionString database connection) .connectionStringDefined

/-! ### Any task -/

/-- Refuse a task that is not there. -/
def requireTask (r : Registry) (database : String) (task : TaskId) : Outcome Unit := do
  let record ← r.record database
  if (record.task? task).isNone then
    throw (.notFound ("task " ++ toString task.value ++ " does not exist"))

/-- Switch a task on or off. -/
def toggleTask (r : Registry) (database requestId : String) (task : TaskId) (disabled : Bool) :
    Changed Nat :=
  match r.requireTask database task with
  | .error e => r.rejected e
  | .ok () => r.commit requestId (.toggleTask database task disabled) .taskToggled

/-- Delete a task; the grants on a hub go with it. -/
def deleteTask (r : Registry) (database requestId : String) (task : TaskId) : Changed Nat :=
  match r.requireTask database task with
  | .error e => r.rejected e
  | .ok () => r.commit requestId (.deleteTask database task) .taskDeleted

end Registry

end HubReplication
