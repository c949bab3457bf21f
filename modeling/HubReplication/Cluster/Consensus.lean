/-
**The replicated log.**

Commands are proposed under a request id.  The log applies each at the next index and publishes the
state it leads to; a command that is refused takes its index but changes nothing else.  The outcome
of each of the last 4096 requests is remembered, and answers the request when it is repeated.

Main definitions:

* `Consensus` — the log;
* `Consensus.propose`, `Consensus.proposeAll` — propose a command, or several;
* `Proposed` — what became of a proposal.
-/

import HubReplication.Cluster.State
import HubReplication.Observe.Event

set_option relaxedAutoImplicit false
set_option autoImplicit false

namespace HubReplication

/-- A log of commands with the state they lead to. -/
structure Consensus where
  state : ClusterState
  /-- What came of each request remembered: the index of its command, or why it was refused. -/
  requests : SortedMap String (Outcome Nat)
  /-- The requests remembered, the oldest first. -/
  requestOrder : List String
  /-- How many of the next proposals fail as if leadership was lost. -/
  failNext : Nat
  /-- The changes told so far, the latest first. -/
  changes : List ClusterChange

/-- What became of a proposal. -/
inductive Proposed where
  /-- No request id was given. -/
  | blank
  /-- The command was not committed. -/
  | lost
  /-- The request was answered before. -/
  | repeated (outcome : Outcome Nat)
  /-- The command was applied. -/
  | applied (index : Nat)
  /-- The command took an index and was refused. -/
  | refused (error : ReplicationError)

/-- The answer to a proposal. -/
def Proposed.outcome : Proposed → Outcome Nat
  | .blank =>
    .error (.invalidConfiguration "a request id is required for configuration changes")
  | .lost => .error (.consensusCommit "leader changed before the command was committed")
  | .repeated outcome => outcome
  | .applied index => .ok index
  | .refused e => .error e

/-- What is logged of a proposal. -/
def Proposed.entries : Proposed → List LogEntry
  | .blank => []
  | .lost => [.plain .warn .consensusCommitFailed]
  | .repeated _ => [.plain .debug .consensusDuplicateRequest]
  | .applied _ => [.plain .info .consensusApplied]
  | .refused _ => [.plain .warn .consensusApplyRejected]

namespace Consensus

/-- A log without commands. -/
def empty : Consensus := ⟨.empty, .empty, [], 0, []⟩

instance : Inhabited Consensus := ⟨empty⟩

/-- How many requests are remembered. -/
def requestHistory : Nat := 4096

/-- The outcome remembered for a request. -/
def recorded? (c : Consensus) (id : String) : Option (Outcome Nat) := c.requests.get? id

/-- Forget the oldest requests for as long as there are too many. -/
def forgetOldest (requests : SortedMap String (Outcome Nat)) :
    List String → SortedMap String (Outcome Nat) × List String
  | [] => (requests, [])
  | oldest :: order =>
    if requestHistory < (oldest :: order).length then
      forgetOldest (requests.erase oldest) order
    else (requests, oldest :: order)

/-- Remember the outcome of a request, forgetting the oldest when there are too many. -/
def remember (c : Consensus) (id : String) (outcome : Outcome Nat) : Consensus :=
  let remembered := forgetOldest (c.requests.insert id outcome) (c.requestOrder ++ [id])
  { c with requests := remembered.1, requestOrder := remembered.2 }

/-- How many changes are told of at most to somebody who has not listened for a while. -/
def changeHistory : Nat := 1024

/-- The changes after so many of them, the earliest first. -/
def changesAfter (c : Consensus) (seen : Nat) : List ClusterChange :=
  ((c.changes.take (c.changes.length - seen)).take changeHistory).reverse

/-- Let the next proposals fail. -/
def failNextProposals (c : Consensus) (count : Nat) : Consensus := { c with failNext := count }

/-- Apply a command at the next index. -/
def commit (c : Consensus) (command : ClusterCommand) : Proposed × Consensus :=
  let index := c.state.lastIndex + 1
  match c.state.apply index command with
  | (.ok _, next) =>
    (.applied index,
      { c with
        state := next
        changes := ⟨index, command.database, command.name⟩ :: c.changes })
  | (.error e, _) => (.refused e, { c with state := { c.state with lastIndex := index } })

/-- Propose a command under a request id. -/
def propose (c : Consensus) (id : String) (command : ClusterCommand) : Proposed × Consensus :=
  if Text.isBlankText id then (.blank, c)
  else if 0 < c.failNext then (.lost, { c with failNext := c.failNext - 1 })
  else
    match c.recorded? id with
    | some outcome => (.repeated outcome, c)
    | none =>
      match c.commit command with
      | (proposed, c') => (proposed, c'.remember id proposed.outcome)

/-- Propose commands under their request ids, one after another up to the first that fails. -/
def proposeAll (c : Consensus) : List (String × ClusterCommand) →
    Outcome Unit × Consensus × List LogEntry
  | [] => (.ok (), c, [])
  | (id, command) :: rest =>
    match c.propose id command with
    | (proposed, c) =>
      match proposed.outcome with
      | .error e => (.error e, c, proposed.entries)
      | .ok _ =>
        match c.proposeAll rest with
        | (outcome, c, entries) => (outcome, c, proposed.entries ++ entries)

end Consensus

end HubReplication
