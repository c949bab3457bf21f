/-
**Administrative operations.**

Every operation is reached at one path with one method.  The name of a database is a part of the
path; it is read only after path and method were found to agree.

Main definitions:

* `AdminOperation` — what administrators can ask for;
* `Resource`, `Resource.ofPath?` — what a path stands for;
* `Resource.operation?` — what a method asks of it;
* `AdminReply`, `AdminReply.status`, `AdminReply.toJson` — answers.
-/

import HubReplication.Admin.Query
import HubReplication.Admin.Registry
import HubReplication.Admin.Request
import HubReplication.Observe.Metrics

set_option relaxedAutoImplicit false
set_option autoImplicit false

namespace HubReplication

/-- What administrators can ask for. -/
inductive AdminOperation where
  | health
  | metrics
  | defineHub
  | registerAccess
  | unregisterAccess
  | listAccess
  | defineSink
  | defineExternal
  | putConnectionString
  | toggleTask
  | deleteTask
  | replicationStatus
  | generateCertificate
deriving DecidableEq, Repr

/-! ### Paths -/

/-- What a path stands for: its operations by method, and the part that names a database. -/
structure Resource where
  operations : List (Method × AdminOperation)
  database : List Char
deriving DecidableEq, Repr

namespace Resource

/-- What is found below a database. -/
def ofDatabasePath? : List String → Option (List (Method × AdminOperation))
  | ["tasks", "pull-replication", "hub"] => some [(.put, .defineHub)]
  | ["tasks", "pull-replication", "hub", "access"] =>
    some [(.put, .registerAccess), (.delete, .unregisterAccess), (.get, .listAccess)]
  | ["tasks", "replication", "status"] => some [(.get, .replicationStatus)]
  | ["admin", "tasks", "sink-pull-replication"] => some [(.post, .defineSink)]
  | ["admin", "tasks", "external-replication"] => some [(.post, .defineExternal)]
  | ["admin", "tasks", "state"] => some [(.post, .toggleTask)]
  | ["admin", "tasks"] => some [(.delete, .deleteTask)]
  | ["admin", "connection-strings"] => some [(.put, .putConnectionString)]
  | _ => none

/-- What a path stands for. -/
def ofPath? (path : String) : Option Resource :=
  match path with
  | "/health" | "/observability/health" => some ⟨[(.get, .health)], []⟩
  | "/observability/metrics" => some ⟨[(.get, .metrics)], []⟩
  | "/admin/pull-replication/generate-certificate" => some ⟨[(.post, .generateCertificate)], []⟩
  | _ =>
    match Text.splitAt '/' path.toList with
    | start :: databases :: database :: rest =>
      if start = [] ∧ databases = "databases".toList then
        (ofDatabasePath? (rest.map String.ofList)).map fun operations => ⟨operations, database⟩
      else none
    | _ => none

/-- What a method asks of a resource; the head of an answer is asked for like the answer. -/
def operation? (r : Resource) (m : Method) : Option AdminOperation :=
  r.operations.lookup (if m = .head then .get else m)

end Resource

/-! ### Answers -/

/-- The answer to an operation. -/
inductive AdminReply where
  | health (node : NodeTag)
  | metrics (counters : Metrics)
  /-- A hub was defined. -/
  | defined (task : TaskCommitted)
  /-- A dialing task was defined. -/
  | created (task : TaskCommitted)
  /-- A change took an index. -/
  | changed (index : Nat)
  | grants (page : AccessListing)
  /-- The progress of the connections of a database. -/
  | progress (status : Json)
  | certificate (generated : GeneratedCertificate)
  | refused (error : AdminError)

namespace AdminReply

/-- The version of the program. -/
def version : String := "0.1.0"

/-- The status of an answer. -/
def status : AdminReply → Nat
  | .created _ => 201
  | .refused e => e.status
  | _ => 200

/-- The body of an answer. -/
def toJson : AdminReply → Json
  | .health node =>
    .object [("status", .string "ok"), ("version", .string version), ("node", .string node.text)]
  | .metrics counters => counters.toJson
  | .defined task | .created task => task.toJson
  | .changed index => .object [("RaftCommandIndex", Json.nat index)]
  | .grants page => page.toJson
  | .progress status => status
  | .certificate generated => generated.toJson
  | .refused e => e.toJson

end AdminReply

end HubReplication
