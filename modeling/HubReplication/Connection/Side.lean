/-
**This side of a connection.**

A connection works on what all connections of its database share: the store, the failure logs, and
the counters, the activity and the log of the node.  It keeps a runtime record of its own, and it
writes frames, as long as the peer is there to take them.

Main definitions:

* `Site` — what the connections of a database share;
* `WrittenFrame`, `LocalSide` — one side of a connection and what it wrote;
* `LocalSide.write` — write a frame.

Main results:

* `LocalSide.write_eq_ok` — what a successful write changes.
-/

import HubReplication.Connection.Activity
import HubReplication.Connection.Failures
import HubReplication.Connection.Runtime
import HubReplication.Frame.Wire
import HubReplication.Observe.Event
import HubReplication.Observe.Metrics
import HubReplication.Store.Basic

set_option relaxedAutoImplicit false
set_option autoImplicit false

namespace HubReplication

/-- What the connections of a database share. -/
structure Site where
  store : Store
  failures : FailureLogs
  activity : Activity
  metrics : Metrics
  /-- The share of the jitter that a wait which starts now takes off, in thousandths.  Chance decides
  it. -/
  share : Nat
  /-- What was logged, in order. -/
  entries : List LogEntry

/-- A frame and the bytes it was written as. -/
structure WrittenFrame where
  frame : Frame
  bytes : List UInt8

/-- One side of a connection. -/
structure LocalSide where
  site : Site
  runtime : ConnectionRuntime
  /-- Whether the peer is there to take what is written. -/
  reachable : Bool
  /-- What was written, in order. -/
  sent : List WrittenFrame

namespace LocalSide

/-- Change what the connections of the database share. -/
def onSite (side : LocalSide) (f : Site → Site) : LocalSide := { side with site := f side.site }

/-- Change the runtime record. -/
def onRuntime (side : LocalSide) (f : ConnectionRuntime → ConnectionRuntime) : LocalSide :=
  { side with runtime := f side.runtime }

/-- Log an event. -/
def log (side : LocalSide) (entry : LogEntry) : LocalSide :=
  side.onSite fun s => { s with entries := s.entries ++ [entry] }

/-- Count something. -/
def count (side : LocalSide) (f : Metrics → Metrics) : LocalSide :=
  side.onSite fun s => { s with metrics := f s.metrics }

/-- Record something in the failure logs. -/
def onFailures (side : LocalSide) (f : FailureLogs → FailureLogs) : LocalSide :=
  side.onSite fun s => { s with failures := f s.failures }

/-- The failure of writing to a peer that is gone. -/
def gone : ReplicationError := .transient "broken pipe"

/-- Write a frame: how many bytes that took, and the side afterwards. -/
def write (side : LocalSide) (frame : Frame) (compression : FrameCompression) :
    Outcome (Nat × LocalSide) :=
  match frame.write compression with
  | .error e => .error e
  | .ok bytes =>
    if side.reachable then .ok (bytes.length, { side with sent := side.sent ++ [⟨frame, bytes⟩] })
    else .error gone

theorem write_eq_ok {side side' : LocalSide} {frame : Frame} {compression : FrameCompression}
    {n : Nat} (h : side.write frame compression = .ok (n, side')) :
    ∃ bytes, n = bytes.length ∧ side' = { side with sent := side.sent ++ [⟨frame, bytes⟩] } := by
  unfold write at h
  split at h
  · cases h
  · split at h
    · cases h
      exact ⟨_, rfl, rfl⟩
    · cases h

end LocalSide

end HubReplication
