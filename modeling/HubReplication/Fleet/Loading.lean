/-
**Loading databases.**

A database is loaded by taking it in, starting the tasks it should run, and keeping it under its
name.

Main definitions:

* `Fleet.startTask` — a dialer for a task;
* `Fleet.startMissing` — dialers for the tasks that should run and do not;
* `Fleet.load` — the number under which a database is loaded, loading it if needed.
-/

import HubReplication.Fleet.Basic

set_option relaxedAutoImplicit false
set_option autoImplicit false

namespace HubReplication.Fleet

/-- Start a dialer for a task. -/
def startTask (member serial : Nat) (node : Node) (name : String) (work : DialingTask) :
    FleetM Unit := do
  log (.plain .info .taskStarted)
  let assignment : Assignment :=
    { node := node.tag, security := node.security, settings := node.settings, database := name
      task := work.task, connection := work.connection }
  let id ← spawn (.dialer ⟨member, serial, .new assignment, .initial, false, []⟩)
  onDatabase member serial fun d => d.start work id

/-- Start dialers for the tasks of a database that should run and do not. -/
def startMissing (member serial : Nat) (record : DatabaseRecord) (state : ClusterState) :
    FleetM Unit := do
  let f ← get
  match f.members.get? member, f.database? member serial with
  | some m, some d =>
    for work in d.missing (desiredTasks state record m.node.tag) do
      startTask member serial m.node d.name work
  | _, _ => pure ()

/-- Load a database that is not loaded. -/
def install (member : Nat) (name : String) (record : DatabaseRecord) (state : ClusterState) :
    FleetM Nat := do
  let serial ← fresh
  onNode member fun n => n.install name serial
  startMissing member serial record state
  let uptime := (← get).uptime
  onNode member fun n => n.lease name serial uptime
  log (.plain .info .databaseLoaded)
  return serial

/-- The number under which a database is loaded; it is loaded if it is not. -/
def load (member : Nat) (name : String) : FleetM (Outcome Nat) := do
  let f ← get
  match f.members.get? member with
  | none => return .error (.databaseMissing name)
  | some m =>
    let state := f.stateOf m
    match m.node.checkHosted state name, state.database? name with
    | .error e, _ => return .error e
    | .ok (), none => return .error (.databaseMissing name)
    | .ok (), some record =>
      match m.node.leased? name with
      | some serial =>
        onNode member fun n => n.touch name f.uptime
        return .ok serial
      | none => return .ok (← install member name record state)

end HubReplication.Fleet
