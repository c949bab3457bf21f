/-
**Peers outside a fleet.**

Somebody outside may dial into the network of a fleet, listen on it, and write and read frames.
What is looked for is there at once, or once everybody did what can be done, or a millisecond later,
or it does not come.

Main definitions:

* `Fleet.onNetwork`, `Fleet.sendBytes` — a change of the network;
* `Fleet.soon` — look for something a millisecond long;
* `Fleet.acceptSoon`, `Fleet.receiveAll` — a connection, and all frames that come.
-/

import HubReplication.Fleet.Clock

set_option relaxedAutoImplicit false
set_option autoImplicit false

namespace HubReplication.Fleet

/-- Change the network. -/
def onNetwork {α : Type} (g : Network → α × Network) : FleetM α :=
  modifyGet fun f =>
    match g f.network with
    | (a, network) => (a, { f with network })

/-- Change the network if that is possible. -/
def tryNetwork {α : Type} (g : Network → Outcome (α × Network)) : FleetM (Outcome α) :=
  onNetwork fun n =>
    match g n with
    | .ok (a, n) => (.ok a, n)
    | .error e => (.error e, n)

/-- Write bytes; none at all are written on any line. -/
def sendBytes (e : LineEnd) (bytes : List UInt8) : FleetM (Outcome Unit) :=
  if bytes.isEmpty then return .ok ()
  else tryNetwork fun n => (n.write e bytes).map fun n => ((), n)

/-- Look for something now, after everybody worked, and after a millisecond. -/
def soon {α : Type} (look : FleetM (Option α)) : FleetM (Option α) := do
  match ← look with
  | some a => return some a
  | none =>
    settle
    match ← look with
    | some a => return some a
    | none =>
      sleep 1
      look

/-- What a listener gets within a millisecond. -/
def acceptSoon (listener : Nat) : FleetM Accepted := do
  let accepted ← soon (onNetwork fun n =>
    match n.accept listener with
    | (.nothing, n) => (none, n)
    | (other, n) => (some other, n))
  return accepted.getD .nothing

/-- What comes next at an end of a line within a millisecond. -/
def receiveSoon (e : LineEnd) : FleetM Received := do
  let received ← soon (do
    match (← get).receive e with
    | .pending => return none
    | other => return some other)
  return received.getD .pending

/-- Frames that come at an end of a line, at most so many, and what comes after them.  Part of a
frame is lost when the rest does not come in time. -/
def receiveFrames (e : LineEnd) : Nat → FleetM (List Frame × Received)
  | 0 => return ([], .pending)
  | fuel + 1 => do
    let received ← receiveSoon e
    consume e received
    match received with
    | .frame f _ =>
      let (frames, last) ← receiveFrames e fuel
      return (f :: frames, last)
    | .pending =>
      onNetwork fun n => ((), n.leave e [])
      return ([], .pending)
    | last => return ([], last)

/-- How many frames are looked for at once. -/
def frameLimit : Nat := 100000

/-- All frames that come at an end of a line, and what comes after them; whoever writes there does
not have to wait meanwhile. -/
def receiveAll (e : LineEnd) : FleetM (List Frame × Received) := do
  readAhead e true
  let received ← receiveFrames e frameLimit
  readAhead e false
  return received

end HubReplication.Fleet
