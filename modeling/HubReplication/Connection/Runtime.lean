/-
**What is known of a running connection.**

A worker keeps the state of its connection where status queries read it: the state, the endpoint,
the last failure, how far data went in either direction, and the next retry.

Main definitions:

* `ConnectionRuntime` — the record;
* `ConnectionRuntime.take` — a move of the connection;
* the updates of the other fields.
-/

import HubReplication.ChangeVector.Text
import HubReplication.Connection.Status
import HubReplication.Destination
import HubReplication.Instant.Text

set_option relaxedAutoImplicit false
set_option autoImplicit false

namespace HubReplication

/-- The state of a running connection. -/
structure ConnectionRuntime where
  status : ConnectionStatus
  destination : Option ConnectionEndpoint
  lastError : Option ReplicationError
  /-- What the peer acknowledged of the data sent. -/
  lastSent : ChangeVector
  /-- What the database had seen after the last batch from the peer. -/
  lastAccepted : ChangeVector
  retryCount : Nat
  nextRetryAt : Option Instant
  connectedSince : Option Instant

namespace ConnectionRuntime

/-- A connection that nothing happened to yet. -/
def initial : ConnectionRuntime :=
  { status := .idle, destination := none, lastError := none, lastSent := .empty,
    lastAccepted := .empty, retryCount := 0, nextRetryAt := none, connectedSince := none }

instance : Inhabited ConnectionRuntime := ⟨initial⟩

/-- The record in a new state: streaming starts a connection and ends the wait for a retry;
connecting and backing off end the connection. -/
def enter (r : ConnectionRuntime) (status : ConnectionStatus) (now : Instant) : ConnectionRuntime :=
  match status with
  | .streaming => { r with status, connectedSince := some now, nextRetryAt := none }
  | .connecting | .backingOff => { r with status, connectedSince := none }
  | _ => { r with status }

/-- Make a move. -/
def take (r : ConnectionRuntime) (step : ConnectionStep) (now : Instant) :
    Outcome ConnectionRuntime :=
  (r.status.take step).map fun status => r.enter status now

/-- Make a move if it is allowed. -/
def tryTake (r : ConnectionRuntime) (step : ConnectionStep) (now : Instant) : ConnectionRuntime :=
  match r.take step now with
  | .ok r' => r'
  | .error _ => r

/-- Remember a failure. -/
def recordError (r : ConnectionRuntime) (e : ReplicationError) : ConnectionRuntime :=
  { r with lastError := some e }

/-- Tell of the next retry. -/
def scheduleRetry (r : ConnectionRuntime) (count : Nat) (at' : Instant) : ConnectionRuntime :=
  { r with retryCount := count, nextRetryAt := some at' }

/-- Forget the retries. -/
def resetRetries (r : ConnectionRuntime) : ConnectionRuntime :=
  { r with retryCount := 0, nextRetryAt := none }

/-- A time that may be missing, as a value. -/
def optInstant : Option Instant → Json
  | some t => .string t.text
  | none => .null

/-- The record as a value. -/
def toJson (r : ConnectionRuntime) : Json :=
  .object [
    ("Status", .string r.status.name),
    ("Destination", match r.destination with
      | some e => e.toJson
      | none => .null),
    ("LastError", Json.optString (r.lastError.map (·.message))),
    ("LastErrorCode", Json.optString (r.lastError.map (·.kind.code))),
    ("LastSentChangeVector", r.lastSent.toJson),
    ("LastAcceptedChangeVector", r.lastAccepted.toJson),
    ("RetryCount", Json.nat r.retryCount),
    ("NextRetryAt", optInstant r.nextRetryAt),
    ("ConnectedSince", optInstant r.connectedSince)]

end ConnectionRuntime

end HubReplication
