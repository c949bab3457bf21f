/-
**Settings of replication.**

One section of the configuration of a node tunes its connections.  Every setting has a default, so
that an empty section is sound.

Main definitions:

* `ReplicationSettings` — the section, with `ReplicationSettings.default` and, for short runs,
  `ReplicationSettings.fast`;
* `ReplicationSettings.validate` — its rules;
* `ReplicationSettings.retryPolicy` — the backoff that it asks for.
-/

import HubReplication.Error
import HubReplication.Json.Decode
import HubReplication.Retry

set_option relaxedAutoImplicit false
set_option autoImplicit false

namespace HubReplication

/-- The settings of replication; times are in milliseconds. -/
structure ReplicationSettings where
  initialBackoff : Nat
  maxBackoff : Nat
  /-- How many items a batch holds at most. -/
  maxBatchSize : Nat
  /-- Whether compression is offered. -/
  compression : Bool
  /-- Frames of at least so many bytes are compressed where both sides agreed to it. -/
  compressionThreshold : Nat
  heartbeatInterval : Nat
  connectTimeout : Nat
  handshakeTimeout : Nat
  /-- How long an incoming handshake waits for its database to load. -/
  databaseLoadTimeout : Nat
  /-- How long a database must be idle before it is unloaded. -/
  idleUnloadAfter : Nat
  /-- How many entries a failure log keeps. -/
  failureHistory : Nat
deriving DecidableEq, Repr

namespace ReplicationSettings

/-- The settings of an empty section. -/
def default : ReplicationSettings where
  initialBackoff := 500
  maxBackoff := 30000
  maxBatchSize := 1024
  compression := true
  compressionThreshold := 4096
  heartbeatInterval := 5000
  connectTimeout := 5000
  handshakeTimeout := 10000
  databaseLoadTimeout := 5000
  idleUnloadAfter := 300000
  failureHistory := 16

/-- Settings with short waits. -/
def fast : ReplicationSettings :=
  { default with
    initialBackoff := 50
    maxBackoff := 400
    heartbeatInterval := 200
    connectTimeout := 500
    handshakeTimeout := 1000
    databaseLoadTimeout := 500 }

/-- Waits and sizes are positive, and the cap of the backoff is not below its first wait. -/
def validate (s : ReplicationSettings) : Outcome Unit :=
  if s.initialBackoff = 0 then
    .error (.invalidConfiguration "replication.initial_backoff_ms must be positive")
  else if s.maxBackoff < s.initialBackoff then
    .error (.invalidConfiguration
      "replication.max_backoff_ms must not be below initial_backoff_ms")
  else if s.maxBatchSize = 0 then
    .error (.invalidConfiguration "replication.max_batch_size must be positive")
  else if s.heartbeatInterval = 0 then
    .error (.invalidConfiguration "replication.heartbeat_interval_ms must be positive")
  else if s.connectTimeout = 0 ∨ s.handshakeTimeout = 0 ∨ s.databaseLoadTimeout = 0 then
    .error (.invalidConfiguration "replication timeouts must be positive")
  else if s.failureHistory = 0 then
    .error (.invalidConfiguration "replication.failure_history must be positive")
  else .ok ()

/-- The backoff between rounds: a fifth of a wait may be taken off. -/
def retryPolicy (s : ReplicationSettings) : RetryPolicy :=
  ((RetryPolicy.exponential s.initialBackoff).withCap s.maxBackoff).withJitter 200

/-- The section as a value. -/
def toJson (s : ReplicationSettings) : Json :=
  .object [
    ("initial_backoff_ms", Json.nat s.initialBackoff),
    ("max_backoff_ms", Json.nat s.maxBackoff),
    ("max_batch_size", Json.nat s.maxBatchSize),
    ("compression", .bool s.compression),
    ("compression_threshold_bytes", Json.nat s.compressionThreshold),
    ("heartbeat_interval_ms", Json.nat s.heartbeatInterval),
    ("connect_timeout_ms", Json.nat s.connectTimeout),
    ("handshake_timeout_ms", Json.nat s.handshakeTimeout),
    ("database_load_timeout_ms", Json.nat s.databaseLoadTimeout),
    ("idle_unload_after_ms", Json.nat s.idleUnloadAfter),
    ("failure_history", Json.nat s.failureHistory)]

/-- The names of the settings. -/
def fieldNames : List String :=
  ["initial_backoff_ms", "max_backoff_ms", "max_batch_size", "compression",
    "compression_threshold_bytes", "heartbeat_interval_ms", "connect_timeout_ms",
    "handshake_timeout_ms", "database_load_timeout_ms", "idle_unload_after_ms", "failure_history"]

/-- The section of a value; a setting that is missing is that of a base. -/
def ofJsonOver? (base : ReplicationSettings) (j : Json) : Option ReplicationSettings := do
  match ← j.record? fieldNames with
  | [initial, longest, batch, compression, threshold, heartbeat, connect, handshake, load, idle,
      history] =>
    return {
      initialBackoff := ← Json.defaulted Json.asWord base.initialBackoff initial
      maxBackoff := ← Json.defaulted Json.asWord base.maxBackoff longest
      maxBatchSize := ← Json.defaulted Json.asWord base.maxBatchSize batch
      compression := ← Json.defaulted Json.asBool base.compression compression
      compressionThreshold := ← Json.defaulted Json.asWord base.compressionThreshold threshold
      heartbeatInterval := ← Json.defaulted Json.asWord base.heartbeatInterval heartbeat
      connectTimeout := ← Json.defaulted Json.asWord base.connectTimeout connect
      handshakeTimeout := ← Json.defaulted Json.asWord base.handshakeTimeout handshake
      databaseLoadTimeout := ← Json.defaulted Json.asWord base.databaseLoadTimeout load
      idleUnloadAfter := ← Json.defaulted Json.asWord base.idleUnloadAfter idle
      failureHistory := ← Json.defaulted Json.asWord base.failureHistory history }
  | _ => none

/-- The section of a value; a setting that is missing keeps its default. -/
def ofJson? (j : Json) : Option ReplicationSettings := ofJsonOver? default j

theorem validate_default : default.validate = .ok () := rfl

theorem validate_fast : fast.validate = .ok () := rfl

instance : Json.Writable ReplicationSettings := ⟨toJson⟩

instance : Json.Readable ReplicationSettings := ⟨ofJson?⟩

end ReplicationSettings

end HubReplication
