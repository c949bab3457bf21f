/-
**The log as the nodes of a fleet change it.**

Every node changes the log it follows by way of its registry, and tells the progress of its
connections.

Main definitions:

* `Fleet.registryOf?` — the registry of a node;
* `Fleet.consult`, `Fleet.administer` — questions to it, and changes;
* `Fleet.propose` — a command that is not looked at first;
* `Fleet.awaitIndex` — wait until a command was applied;
* `Fleet.progress` — the progress of the connections of a database.
-/

import HubReplication.Admin.Registry
import HubReplication.Fleet.Clock
import HubReplication.Text.Duration

set_option relaxedAutoImplicit false
set_option autoImplicit false

namespace HubReplication.Fleet

/-- The registry of a node. -/
def registryOf? (f : Fleet) (member : Nat) : Option Registry := do
  let m ← f.members.get? member
  return ⟨← f.logs.get? m.log, m.node.security⟩

/-- The failure of asking a node that is not there. -/
def absent : ReplicationError := .cancelled "no such node"

/-- Ask the registry of a node. -/
def consult {α : Type} (member : Nat) (g : Registry → Outcome α) : FleetM (Outcome α) := do
  match (← get).registryOf? member with
  | some registry => return g registry
  | none => return .error absent

/-- Put the log that a node follows. -/
def putLog (member : Nat) (log : Consensus) : FleetM Unit :=
  modify fun f =>
    match f.members.get? member with
    | some m => { f with logs := f.logs.insert m.log log }
    | none => f

/-- Change the log by way of the registry of a node. -/
def administer {α : Type} (member : Nat) (g : Registry → Changed α) : FleetM (Outcome α) := do
  match (← get).registryOf? member with
  | none => return .error absent
  | some registry =>
    let changed := g registry
    putLog member changed.log
    logAll changed.entries
    return changed.outcome

/-- Propose a command to the log that a node follows. -/
def propose (member : Nat) (id : String) (command : ClusterCommand) : FleetM (Outcome Nat) :=
  administer member fun registry =>
    match registry.log.propose id command with
    | (proposed, log) => ⟨proposed.outcome, log, proposed.entries⟩

/-- The index of the last command that the log of a node applied. -/
def applied (f : Fleet) (member : Nat) : Nat :=
  match f.registryOf? member with
  | some registry => registry.log.state.lastIndex
  | none => 0

/-- Wait until a command was applied, but no longer than some milliseconds. -/
def awaitIndex (member index ms : Nat) : FleetM (Outcome Unit) := do
  if index ≤ (← get).applied member then return .ok ()
  sleep ms
  if index ≤ (← get).applied member then return .ok ()
  return .error (.consensusCommit
    ("index " ++ toString index ++ " was not applied within " ++ Text.durationText ms))

/-- The progress of the connections of a database, which is loaded for that. -/
def progress (member : Nat) (database : String) : FleetM (Outcome Json) := do
  match ← load member database with
  | .error e => return .error e
  | .ok serial =>
    awaitVacant member serial
    let f ← get
    match f.database? member serial with
    | some d => return .ok (d.status f.runtimeOf)
    | none => return .error (.databaseMissing database)

end HubReplication.Fleet
