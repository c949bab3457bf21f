/-
**Administration by requests.**

Administrators ask the nodes of a fleet by requests.  A request that no operation answers gets an
empty answer with a status that says why.

Main definitions:

* `AdminM` — what a node does for a request, which may fail;
* `AdminCall` — a request that an operation answers;
* `Fleet.perform` — what an operation does;
* `AdminResponse`, `Fleet.respond` — the answer to a request.

Main results:

* `Fleet.respond_options` — a request for options changes nothing.
-/

import HubReplication.Admin.Operation
import HubReplication.Fleet.Registry

set_option relaxedAutoImplicit false
set_option autoImplicit false

namespace HubReplication

/-- What a node does for a request. -/
abbrev AdminM := ExceptT AdminError FleetM

/-- A request that an operation answers. -/
structure AdminCall where
  member : Nat
  database : String
  query : AdminQuery
  request : AdminRequest

namespace AdminCall

/-- Go on with the outcome of what the fleet did. -/
def obtain {α : Type} (m : FleetM (Outcome α)) : AdminM α := do
  match ← (m : ExceptT AdminError FleetM (Outcome α)) with
  | .ok a => return a
  | .error e => throw (.failed e)

/-- Change the log by way of the registry. -/
def change {α : Type} (c : AdminCall) (g : Registry → Changed α) : AdminM α :=
  obtain (Fleet.administer c.member g)

/-- What the body describes. -/
def described {α : Type} (c : AdminCall) (read : Json → Option α) : AdminM α :=
  match c.request.value? read with
  | some a => pure a
  | none => throw (.invalidRequest "the body does not describe what is defined")

/-! ### Hubs and grants -/

/-- Define a hub. -/
def defineHub (c : AdminCall) : AdminM AdminReply := do
  let definition ← c.described HubDefinition.ofJson?
  let id ← c.query.requestId
  return .defined (← c.change (·.defineHub c.database id definition))

/-- Grant access to a hub. -/
def registerAccess (c : AdminCall) : AdminM AdminReply := do
  let request ← c.described AccessRequest.ofJson?
  let hub ← c.query.hubName
  let id ← c.query.requestId
  return .changed (← c.change (·.registerAccess c.database hub id request))

/-- Take access to a hub away. -/
def unregisterAccess (c : AdminCall) : AdminM AdminReply := do
  let thumbprint ← c.query.thumbprint
  let hub ← c.query.hubName
  let id ← c.query.requestId
  return .changed (← c.change (·.unregisterAccess c.database hub thumbprint id))

/-- A page of the grants on a hub. -/
def listAccess (c : AdminCall) : AdminM AdminReply := do
  let hub ← c.query.hubName
  let start := c.query.start?.getD 0
  let size := c.query.pageSize?.getD Registry.defaultPageSize
  return .grants (← obtain (Fleet.consult c.member fun registry =>
    registry.listAccess c.database hub c.query.filter? start size))

/-! ### Dialing tasks -/

/-- Define a sink. -/
def defineSink (c : AdminCall) : AdminM AdminReply := do
  let definition ← c.described SinkDefinition.ofJson?
  let id ← c.query.requestId
  return .created (← c.change (·.defineSink c.database id definition))

/-- Define an external replication. -/
def defineExternal (c : AdminCall) : AdminM AdminReply := do
  let definition ← c.described ExternalReplicationDefinition.ofJson?
  let id ← c.query.requestId
  return .created (← c.change (·.defineExternal c.database id definition))

/-- Put a connection string. -/
def putConnectionString (c : AdminCall) : AdminM AdminReply := do
  let connection ← c.described ReplicationConnectionString.ofJson?
  let id ← c.query.requestId
  return .changed (← c.change (·.putConnectionString c.database id connection))

/-! ### Any task -/

/-- Switch a task on or off. -/
def toggleTask (c : AdminCall) : AdminM AdminReply := do
  let disable ← c.query.disable
  let id ← c.query.requestId
  let task ← c.query.taskId
  return .changed (← c.change (·.toggleTask c.database id task disable))

/-- Delete a task. -/
def deleteTask (c : AdminCall) : AdminM AdminReply := do
  let id ← c.query.requestId
  let task ← c.query.taskId
  return .changed (← c.change (·.deleteTask c.database id task))

/-! ### Certificates -/

/-- The subject of a certificate when nobody names one. -/
def defaultSubject : String := "pull-replication-sink"

/-- How long a certificate for a sink is valid. -/
def certificateValidity : Span := ⟨365 * 86400 * 1000000000⟩

/-- Make a certificate for a sink. -/
def generateCertificate (c : AdminCall) (entropy : GeneratedCertificate.Entropy) :
    AdminM AdminReply := do
  let subject := c.query.subject?.getD defaultSubject
  match GeneratedCertificate.generate subject certificateValidity (← get).wall entropy with
  | .ok generated => return .certificate generated
  | .error (.refused e) => throw (.failed e)
  | .error .beyondCalendar => throw (.invalidRequest "the calendar ends too soon")

end AdminCall

/-- The answer to a request: a status, what is answered if anything, and who may read it. -/
structure AdminResponse where
  status : Nat
  reply : Option AdminReply
  reader : Option String

namespace Fleet

/-- What an operation does once its parameters were read. -/
def performCall (c : AdminCall) (entropy : GeneratedCertificate.Entropy) :
    AdminOperation → AdminM AdminReply
  | .defineHub => c.defineHub
  | .registerAccess => c.registerAccess
  | .unregisterAccess => c.unregisterAccess
  | .listAccess => c.listAccess
  | .defineSink => c.defineSink
  | .defineExternal => c.defineExternal
  | .putConnectionString => c.putConnectionString
  | .toggleTask => c.toggleTask
  | .deleteTask => c.deleteTask
  | .generateCertificate => c.generateCertificate entropy
  | .replicationStatus => do
    return .progress (← AdminCall.obtain (progress c.member c.database))
  | .health => do
    match (← get).members.get? c.member with
    | some m => return .health m.node.tag
    | none => throw (.failed absent)
  | .metrics => do
    match (← get).members.get? c.member with
    | some m => return .metrics m.node.metrics
    | none => throw (.failed absent)

/-- Whether an operation reads its parameters, and so fails when they do not parse. -/
def readsQuery : AdminOperation → Bool
  | .health | .metrics | .replicationStatus => false
  | _ => true

/-- What an operation does. -/
def perform (member : Nat) (database : String) (request : AdminRequest)
    (entropy : GeneratedCertificate.Entropy) (operation : AdminOperation) : AdminM AdminReply :=
  let query := if readsQuery operation then request.target.query else ""
  match AdminQuery.parse? query with
  | some query => performCall ⟨member, database, query, request⟩ entropy operation
  | none => throw (.invalidRequest "the query does not parse")

/-- The answer of a node to a request, for its reader. -/
def answer (member : Nat) (request : AdminRequest) (entropy : GeneratedCertificate.Entropy)
    (reader : Option String) : FleetM AdminResponse := do
  if request.method = .options then return ⟨200, none, reader⟩
  match Resource.ofPath? request.target.path with
  | none => return ⟨404, none, reader⟩
  | some resource =>
    match resource.operation? request.method, Text.pathText? resource.database with
    | none, _ => return ⟨405, none, reader⟩
    | some _, none => return ⟨400, none, reader⟩
    | some operation, some database =>
      let reply ← (perform member database request entropy operation).run
      let reply := match reply with
        | .ok reply => reply
        | .error e => .refused e
      return ⟨reply.status, if request.method = .head then none else some reply, reader⟩

/-- The answer of a node to a request; none when its list of origins is no list of origins. -/
def respond (member : Nat) (request : AdminRequest) (entropy : GeneratedCertificate.Entropy) :
    FleetM (Option AdminResponse) := do
  match (← get).members.get? member with
  | none => return none
  | some m =>
    match OriginPolicy.ofOrigins? m.origins with
    | none => return none
    | some policy =>
      return some (← answer member request entropy (policy.reader? (request.header? "origin")))

theorem respond_options {member : Nat} {request : AdminRequest}
    (entropy : GeneratedCertificate.Entropy) (reader : Option String) (f : Fleet)
    (h : request.method = .options) :
    (answer member request entropy reader).run f = (⟨200, none, reader⟩, f) := by
  simp only [answer, h, if_pos]
  rfl

end Fleet

end HubReplication
