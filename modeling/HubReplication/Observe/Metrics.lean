/-
**Counters of a node.**

A node counts what its connections do.  Counters only grow and wrap at 64 bits.

Main definitions:

* `Metrics` — the counters, with one operation for each thing counted.
-/

import HubReplication.Json.Basic

set_option relaxedAutoImplicit false
set_option autoImplicit false

namespace HubReplication

/-- The counters of a node. -/
structure Metrics where
  connectionAttempts : UInt64
  connectionFailures : UInt64
  handshakesAccepted : UInt64
  handshakesRejected : UInt64
  retries : UInt64
  batchesSent : UInt64
  itemsSent : UInt64
  batchesReceived : UInt64
  itemsReceived : UInt64
  bytesSent : UInt64
  databasesLoaded : UInt64
  databasesUnloaded : UInt64
deriving DecidableEq, Repr, Inhabited

namespace Metrics

/-- Nothing counted yet. -/
def zero : Metrics := ⟨0, 0, 0, 0, 0, 0, 0, 0, 0, 0, 0, 0⟩

/-- A candidate was dialed. -/
def connectionAttempt (m : Metrics) : Metrics :=
  { m with connectionAttempts := m.connectionAttempts + 1 }

/-- A candidate failed. -/
def connectionFailure (m : Metrics) : Metrics :=
  { m with connectionFailures := m.connectionFailures + 1 }

/-- A handshake was admitted. -/
def handshakeAccepted (m : Metrics) : Metrics :=
  { m with handshakesAccepted := m.handshakesAccepted + 1 }

/-- A handshake was refused. -/
def handshakeRejected (m : Metrics) : Metrics :=
  { m with handshakesRejected := m.handshakesRejected + 1 }

/-- A round failed. -/
def retry (m : Metrics) : Metrics := { m with retries := m.retries + 1 }

/-- A batch went out, of so many items in so many bytes. -/
def batchSent (m : Metrics) (items bytes : Nat) : Metrics :=
  { m with
    batchesSent := m.batchesSent + 1
    itemsSent := m.itemsSent + UInt64.ofNat items
    bytesSent := m.bytesSent + UInt64.ofNat bytes }

/-- A batch of so many items was applied. -/
def batchReceived (m : Metrics) (items : Nat) : Metrics :=
  { m with
    batchesReceived := m.batchesReceived + 1
    itemsReceived := m.itemsReceived + UInt64.ofNat items }

/-- A database was loaded. -/
def databaseLoaded (m : Metrics) : Metrics :=
  { m with databasesLoaded := m.databasesLoaded + 1 }

/-- A database was unloaded. -/
def databaseUnloaded (m : Metrics) : Metrics :=
  { m with databasesUnloaded := m.databasesUnloaded + 1 }

/-- The counters as a value. -/
def toJson (m : Metrics) : Json :=
  .object [
    ("connection_attempts", Json.nat m.connectionAttempts.toNat),
    ("connection_failures", Json.nat m.connectionFailures.toNat),
    ("handshakes_accepted", Json.nat m.handshakesAccepted.toNat),
    ("handshakes_rejected", Json.nat m.handshakesRejected.toNat),
    ("retries", Json.nat m.retries.toNat),
    ("batches_sent", Json.nat m.batchesSent.toNat),
    ("items_sent", Json.nat m.itemsSent.toNat),
    ("batches_received", Json.nat m.batchesReceived.toNat),
    ("items_received", Json.nat m.itemsReceived.toNat),
    ("bytes_sent", Json.nat m.bytesSent.toNat),
    ("databases_loaded", Json.nat m.databasesLoaded.toNat),
    ("databases_unloaded", Json.nat m.databasesUnloaded.toNat)]

instance : Json.Writable Metrics := ⟨toJson⟩

end Metrics

end HubReplication
