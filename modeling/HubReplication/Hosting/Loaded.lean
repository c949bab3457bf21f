/-
**Loaded databases.**

A loaded database owns its connections: the dialers of its tasks, at most one for each task, and the
incoming connections that were let in.  When the configuration changes, what no longer agrees with
it is stopped and what is missing is started; doing that twice changes nothing more.

Main definitions:

* `RunningTask`, `IncomingConnection`, `LoadedDatabase` — what a loaded database owns;
* `desiredTasks`, `LoadedDatabase.stale`, `LoadedDatabase.missing` — what has to stop and to start;
* `LoadedDatabase.register`, `recheck`, `revoke` — incoming connections;
* `LoadedDatabase.status` — the progress of every connection.

Main results:

* `LoadedDatabase.isCancelled_of_disposed` — no connection outlives its database.
-/

import HubReplication.Connection.Admission
import HubReplication.Connection.Failures
import HubReplication.Connection.Runtime
import HubReplication.Observe.Event

set_option relaxedAutoImplicit false
set_option autoImplicit false

namespace HubReplication

/-- A task and the connection string it dials through. -/
structure DialingTask where
  task : OngoingTask
  connection : ReplicationConnectionString
deriving DecidableEq

/-- A task that a dialer works on. -/
structure RunningTask where
  work : DialingTask
  /-- The number of the dialer. -/
  dialer : Nat

/-- A connection that was let in. -/
structure IncomingConnection where
  terms : IncomingTerms
  source : String
  /-- Whether the connection lost its place. -/
  revoked : Bool

/-- A loaded database. -/
structure LoadedDatabase where
  name : String
  failures : FailureLogs
  /-- The running tasks by the number of the task. -/
  outgoing : SortedMap Nat RunningTask
  /-- Whether somebody is changing which tasks run. -/
  busy : Bool
  /-- The incoming connections by the number of the acceptor. -/
  incoming : SortedMap Nat IncomingConnection
  /-- Whether the database was given up. -/
  disposed : Bool

/-- Whether a node runs a dialing task. -/
def runsOn (state : ClusterState) (record : DatabaseRecord) (node : NodeTag) (task : OngoingTask) :
    Bool :=
  task.isDialer && !task.disabled &&
    Destination.responsibleNode task record.topology state.topology == some node

/-- The dialing tasks that a node should run for a database, by number; one whose connection string
is missing is left out. -/
def desiredTasks (state : ClusterState) (record : DatabaseRecord) (node : NodeTag) :
    SortedMap Nat DialingTask :=
  SortedMap.ofList <| (record.ongoingTasks.filter (runsOn state record node)).filterMap fun task =>
    (task.connectionStringName.bind record.connectionString?).map fun connection =>
      (task.taskId.value, { task, connection })

namespace LoadedDatabase

/-- A database that was loaded just now. -/
def new (name : String) (history : Nat) : LoadedDatabase :=
  { name, failures := .empty history, outgoing := .empty, busy := false, incoming := .empty
    disposed := false }

/-! ### Dialing tasks -/

/-- The numbers of the tasks that run otherwise than they should, or should not run at all. -/
def stale (d : LoadedDatabase) (desired : SortedMap Nat DialingTask) : List Nat :=
  (d.outgoing.toList.filter fun (id, running) => desired.get? id != some running.work).map (·.1)

/-- The tasks that should run and do not. -/
def missing (d : LoadedDatabase) (desired : SortedMap Nat DialingTask) : List DialingTask :=
  (desired.toList.filter fun (id, _) => !d.outgoing.contains id).map (·.2)

/-- A dialer works on a task from now on. -/
def start (d : LoadedDatabase) (work : DialingTask) (dialer : Nat) : LoadedDatabase :=
  { d with outgoing := d.outgoing.insert work.task.taskId.value ⟨work, dialer⟩ }

/-- The numbers of the running tasks. -/
def running (d : LoadedDatabase) : List TaskId := d.outgoing.keys.map TaskId.mk

/-! ### Incoming connections -/

/-- Whether a connection has to close. -/
def isCancelled (d : LoadedDatabase) (id : Nat) : Bool :=
  d.disposed ||
    match d.incoming.get? id with
    | some c => c.revoked
    | none => false

/-- Take in a connection. -/
def register (d : LoadedDatabase) (id : Nat) (terms : IncomingTerms) (source : String) :
    LoadedDatabase :=
  { d with incoming := d.incoming.insert id ⟨terms, source, false⟩ }

/-- Give a connection up. -/
def unregister (d : LoadedDatabase) (id : Nat) : LoadedDatabase :=
  { d with incoming := d.incoming.erase id }

/-- What is logged of a connection that loses its place. -/
def revocationEntry (reason : String) : LogEntry := ⟨.info, .incomingRevoked, some reason⟩

/-- Let a connection lose its place if there is a reason. -/
def revokeFor (d : LoadedDatabase) (id : Nat) (reason : Option String) :
    LoadedDatabase × List LogEntry :=
  match reason with
  | none => (d, [])
  | some reason =>
    ({ d with incoming := d.incoming.adjust id fun c => { c with revoked := true } },
      [revocationEntry reason])

/-- Look again at a connection that was just taken in: the configuration may have changed since it
was let in. -/
def recheck (d : LoadedDatabase) (id : Nat) (record : Option DatabaseRecord) :
    LoadedDatabase × List LogEntry :=
  match d.incoming.get? id, record with
  | none, _ => (d, [])
  | some _, none => d.revokeFor id (some "database deleted")
  | some c, some record => d.revokeFor id (c.terms.revocation? record)

/-- Let every connection lose its place that the record no longer lets in. -/
def revoke (d : LoadedDatabase) (record : DatabaseRecord) : LoadedDatabase × List LogEntry :=
  ({ d with incoming := d.incoming.mapValues fun c =>
      { c with revoked := c.revoked || (c.terms.revocation? record).isSome } },
    d.incoming.values.filterMap fun c => (c.terms.revocation? record).map revocationEntry)

/-- How many connections were let in under a hub. -/
def incomingForHub (d : LoadedDatabase) (hub : String) : Nat :=
  (d.incoming.values.filter fun c => c.terms.hub.any fun h => Text.sameName h hub).length

/-- Whether a connection was let in under a grant. -/
def hasIncomingFor (d : LoadedDatabase) (hub thumbprint : String) : Bool :=
  d.incoming.values.any fun c =>
    (c.terms.hub.any fun h => Text.sameName h hub) &&
      c.terms.thumbprint.any fun t => sameThumbprint t thumbprint

theorem isCancelled_of_disposed {d : LoadedDatabase} (h : d.disposed = true) (id : Nat) :
    d.isCancelled id = true := by
  simp [isCancelled, h]

/-! ### Status -/

/-- The progress of a task as a value. -/
def taskStatus (runtime : ConnectionRuntime) (running : RunningTask) : Json :=
  .object [
    ("TaskId", running.work.task.taskId.toJson),
    ("TaskName", .string running.work.task.name),
    ("TaskType", .string running.work.task.typeName),
    ("Runtime", runtime.toJson)]

/-- The progress of an incoming connection as a value. -/
def incomingStatus (id : Nat) (runtime : ConnectionRuntime) (c : IncomingConnection) : Json :=
  .object [
    ("Id", Json.nat id),
    ("HubName", Json.optString c.terms.hub),
    ("Source", .string c.source),
    ("Runtime", runtime.toJson)]

/-- The progress of every connection as a value: tasks by number, incoming connections by source. -/
def status (d : LoadedDatabase) (runtimeOf : Nat → ConnectionRuntime) : Json :=
  let bySource := d.incoming.toList.mergeSort fun a b => decide (a.2.source ≤ b.2.source)
  .object [
    ("Database", .string d.name),
    ("Outgoing", .array (d.outgoing.values.map fun r => taskStatus (runtimeOf r.dialer) r)),
    ("Incoming", .array (bySource.map fun (id, c) => incomingStatus id (runtimeOf id) c)),
    ("Failures", d.failures.toJson)]

end LoadedDatabase

end HubReplication
