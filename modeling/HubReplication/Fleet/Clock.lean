/-
**Time in a fleet.**

The processes of a fleet take turns until none of them can do a step.  Only then does time pass, and
it passes at once to the next moment that a process waits for.

Main definitions:

* `Fleet.run`, `Fleet.settle` — a step of a process, and steps of all of them while there are any;
* `Fleet.nextDeadline?` — the next moment that a process waits for;
* `Fleet.sleep` — let time pass;
* `Fleet.complete` — let time pass until a job is done;
* `Fleet.start`, `Fleet.serve` — set a node to work.

Main results:

* `Fleet.sleep_zero` — no time is no change.
-/

import HubReplication.Fleet.Jobs

set_option relaxedAutoImplicit false
set_option autoImplicit false

namespace HubReplication.Fleet

/-! ### Turns -/

/-- A step of a process; false when it cannot do one. -/
def run (id : Nat) : FleetM Bool := do
  match (← get).processes.get? id with
  | none => return false
  | some (.dialer p) => runDialer id p
  | some (.acceptor p) => runAcceptor id p
  | some (.straggler line) => runStraggler id line
  | some (.gate g) => runGate id g
  | some (.follower w) => runFollower id w
  | some (.sweeper s) => runSweeper id s
  | some (.job j) => runJob id j

/-- Steps of a process while it can do one. -/
def runOut (id : Nat) : Nat → FleetM Bool
  | 0 => return false
  | fuel + 1 => do
    if ← run id then
      let _ ← runOut id fuel
      return true
    else return false

/-- How many steps a process does in one turn. -/
def turnLength : Nat := 10000

/-- One turn of each of some processes; whether any of them did a step. -/
def turns : List Nat → FleetM Bool
  | [] => return false
  | id :: rest => do
    let now ← runOut id turnLength
    let later ← turns rest
    return now || later

/-- Turns of all processes while any of them does a step. -/
def rounds : Nat → FleetM Unit
  | 0 => return ()
  | fuel + 1 => do
    if ← turns (← get).processes.keys then rounds fuel

/-- How many rounds there are without time passing. -/
def roundLimit : Nat := 10000

/-- Let everybody do what can be done now. -/
def settle : FleetM Unit := rounds roundLimit

/-! ### Moments -/

/-- When a process stops waiting, if nothing else happens. -/
def deadline? : Process → Option Nat
  | .dialer p => p.dialer.deadline?
  | .acceptor p => p.acceptor.deadline?
  | .sweeper s => if s.job.isNone then some s.next else none
  | .straggler _ | .gate _ | .follower _ | .job _ => none

/-- The earliest moment after a time. -/
def earliestAfter (now : Nat) : List (Option Nat) → Option Nat
  | [] => none
  | moment :: rest =>
    match moment.filter (now < ·), earliestAfter now rest with
    | some a, some b => some (min a b)
    | some a, none => some a
    | none, later => later

/-- The next moment that a process waits for. -/
def nextDeadline? (f : Fleet) : Option Nat :=
  earliestAfter f.clock (f.processes.values.map deadline?)

/-- Move the clock. -/
def setClock (now : Nat) : FleetM Unit := modify fun f => { f with clock := now }

/-- Let everybody work and time pass until a moment, by way of every moment before it that a process
waits for. -/
def sleepUntil (moment : Nat) : Nat → FleetM Unit
  | 0 => setClock moment
  | fuel + 1 => do
    settle
    match (← get).nextDeadline? with
    | some next =>
      if next < moment then
        setClock next
        sleepUntil moment fuel
      else setClock moment
    | none => setClock moment

/-- Let some milliseconds pass. -/
def sleep (ms : Nat) : FleetM Unit := do
  if 0 < ms then
    let f ← get
    sleepUntil (f.clock + ms) ms

theorem sleep_zero (f : Fleet) : (sleep 0).run f = ((), f) := rfl

/-! ### Waiting for a job -/

/-- Let time pass until something holds, from moment to moment. -/
def passUntil (holds : Fleet → Bool) : Nat → FleetM Unit
  | 0 => return ()
  | fuel + 1 => do
    if !(holds (← get)) then
      settle
      let f ← get
      if !(holds f) then
        match f.nextDeadline? with
        | some next =>
          setClock next
          passUntil holds fuel
        | none => return ()

/-- How many moments are waited for. -/
def momentLimit : Nat := 1000000

/-- Do a job on a node, letting as much time pass as it takes: the databases that it unloaded. -/
def complete (member : Nat) (chores : List Chore) : FleetM (List String) := do
  let id ← startJob member chores
  let _ ← runOut id turnLength
  passUntil (fun f => f.isJobDone id) momentLimit
  match (← get).processes.get? id with
  | some (.job j) =>
    remove id
    return j.unloaded
  | _ => return []

/-- Wait until nobody changes the tasks of a database. -/
def awaitVacant (member serial : Nat) : FleetM Unit :=
  passUntil
    (fun f =>
      match f.database? member serial with
      | some d => !d.busy
      | none => true)
    momentLimit

/-! ### Nodes at work -/

/-- The shortest time between two sweeps, in milliseconds. -/
def shortestSweep : Nat := 50

/-- Start the loops of a node. -/
def start (member : Nat) : FleetM Unit := do
  let f ← get
  match f.members.get? member with
  | none => return ()
  | some m =>
    let _ ← spawn (.follower ⟨member, none, none⟩)
    let every := max (m.node.settings.idleUnloadAfter / 4) shortestSweep
    let _ ← spawn (.sweeper ⟨member, every, f.clock, none⟩)
    log (.plain .info .bootComplete)

/-- Accept connections at a URL for a node; loads come to what is foretold. -/
def serve (member : Nat) (url : String) (tied : Bool) (omens : List LoadOmen) : FleetM Unit := do
  let f ← get
  match f.network.bind url with
  | (listener, network) =>
    set { f with network }
    if tied then log (.plain .info .replicationListening)
    let _ ← spawn (.gate ⟨member, listener, tied, omens, true⟩)

/-- The chores that shut a node down. -/
def shutdownChores : List Chore := [.announceShutdown, .awaitLoops, .releaseAll, .confirmShutdown]

end HubReplication.Fleet
