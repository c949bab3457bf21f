/-
**Failure logs.**

A database keeps the latest failures of each destination it dials and the latest handshakes refused
from each source.  The logs are for people; nothing is decided by them.

Main definitions:

* `FailureRecord`, `OutgoingFailures`, `IncomingRejections` — the logs;
* `FailureLogs` — the logs of a database;
* `FailureLogs.recordOutgoing`, `recordOutgoingSuccess`, `recordRejection` — what is written to
  them.
-/

import HubReplication.Error
import HubReplication.Instant.Text
import HubReplication.Json.Basic

set_option relaxedAutoImplicit false
set_option autoImplicit false

namespace HubReplication

/-- A failure and when it happened. -/
structure FailureRecord where
  at' : Instant
  error : ReplicationError

/-- The failures of one destination. -/
structure OutgoingFailures where
  /-- How many came since the last connection. -/
  consecutive : Nat
  errors : List FailureRecord

/-- The handshakes refused from one source. -/
structure IncomingRejections where
  total : Nat
  rejections : List FailureRecord

/-- The failure logs of a database. -/
structure FailureLogs where
  /-- How many entries each log keeps. -/
  capacity : Nat
  outgoing : SortedMap String OutgoingFailures
  incoming : SortedMap String IncomingRejections

namespace FailureLogs

/-- Empty logs, of at least one entry each. -/
def empty (capacity : Nat) : FailureLogs := ⟨max capacity 1, .empty, .empty⟩

/-- A log with a new entry; the oldest give way. -/
def push (capacity : Nat) (log : List FailureRecord) (entry : FailureRecord) :
    List FailureRecord :=
  let longer := log ++ [entry]
  longer.drop (longer.length - capacity)

/-- Record a failed attempt at a destination. -/
def recordOutgoing (l : FailureLogs) (destination : String) (e : ReplicationError) (now : Instant) :
    FailureLogs :=
  let before := (l.outgoing.get? destination).getD ⟨0, []⟩
  { l with
    outgoing := l.outgoing.insert destination
      { consecutive := min (before.consecutive + 1) (UInt32.size - 1)
        errors := push l.capacity before.errors ⟨now, e⟩ } }

/-- How many attempts at a destination failed in a row. -/
def consecutive (l : FailureLogs) (destination : String) : Nat :=
  match l.outgoing.get? destination with
  | some log => log.consecutive
  | none => 0

/-- Record a connection to a destination. -/
def recordOutgoingSuccess (l : FailureLogs) (destination : String) : FailureLogs :=
  { l with outgoing := l.outgoing.adjust destination fun log => { log with consecutive := 0 } }

/-- Record a refused handshake. -/
def recordRejection (l : FailureLogs) (source : String) (e : ReplicationError) (now : Instant) :
    FailureLogs :=
  let before := (l.incoming.get? source).getD ⟨0, []⟩
  { l with
    incoming := l.incoming.insert source
      { total := min (before.total + 1) (UInt64.size - 1)
        rejections := push l.capacity before.rejections ⟨now, e⟩ } }

/-- An entry as a value. -/
def recordToJson (entry : FailureRecord) : Json :=
  .object [
    ("At", .string entry.at'.text),
    ("Code", .string entry.error.kind.code),
    ("Message", .string entry.error.message)]

/-- The log of a destination as a value. -/
def outgoingToJson (destination : String) (log : OutgoingFailures) : Json :=
  .object [
    ("Destination", .string destination),
    ("ConsecutiveFailures", Json.nat log.consecutive),
    ("Errors", .array (log.errors.map recordToJson))]

/-- The log of a source as a value. -/
def incomingToJson (source : String) (log : IncomingRejections) : Json :=
  .object [
    ("Source", .string source),
    ("TotalRejections", Json.nat log.total),
    ("Rejections", .array (log.rejections.map recordToJson))]

/-- The logs as a value, in the order of their keys. -/
def toJson (l : FailureLogs) : Json :=
  .object [
    ("Outgoing", .array (l.outgoing.toList.map fun b => outgoingToJson b.1 b.2)),
    ("Incoming", .array (l.incoming.toList.map fun b => incomingToJson b.1 b.2))]

theorem length_push (capacity : Nat) (log : List FailureRecord) (entry : FailureRecord)
    (h : log.length ≤ capacity) : (push capacity log entry).length ≤ capacity := by
  simp only [push, List.length_drop, List.length_append, List.length_cons, List.length_nil]
  omega

end FailureLogs

end HubReplication
