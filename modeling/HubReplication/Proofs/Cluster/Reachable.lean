/-
**The states there are.**

The state of a cluster starts out empty and is changed by commands alone: each is applied at an
index above those so far, and one that is refused may take its index but changes nothing else.  A
log comes to such states whatever is proposed to it and however often leadership is lost.

A request that was accepted is remembered.  Asked again, whatever for, it is answered as before, and
the log stays as it is.

Main definitions:

* `ClusterState.Reachable`, `Consensus.Reachable` — the states and the logs there are.

Main results:

* `ClusterState.Reachable.wellFormed` — every state there is is well-formed;
* `ClusterState.reachable_replay` — what commands lead to is a state there is;
* `Consensus.Reachable.state` — and so is the state of a log;
* `Consensus.propose_again` — an accepted request that is repeated.
-/

import HubReplication.Proofs.Cluster.Replay
import HubReplication.Proofs.Cluster.Requests

set_option relaxedAutoImplicit false
set_option autoImplicit false

namespace HubReplication

namespace ClusterState

/-- The states that commands lead to, each at an index above those before it. -/
inductive Reachable : ClusterState → Prop
  | empty : Reachable empty
  | applied {s s' : ClusterState} {index : Nat} {command : ClusterCommand} {task : Option TaskId}
      (h : Reachable s) (hlt : s.lastIndex < index)
      (happly : s.apply index command = (.ok task, s')) : Reachable s'
  /-- A command that is refused takes its index. -/
  | refused {s : ClusterState} {index : Nat} (h : Reachable s) (hle : s.lastIndex ≤ index) :
      Reachable { s with lastIndex := index }

theorem Reachable.wellFormed {s : ClusterState} (h : Reachable s) : s.WellFormed := by
  induction h with
  | empty => exact wellFormed_empty
  | applied _ hlt happly ih => exact ih.change hlt (change_of_apply happly)
  | refused _ hle ih => exact ih.mono hle

theorem Reachable.advance {s : ClusterState} {index : Nat} (h : Reachable s)
    (hlt : s.lastIndex < index) (command : ClusterCommand) :
    Reachable (s.advance index command) := by
  unfold ClusterState.advance
  split
  · rename_i task next happly
    exact h.applied hlt happly
  · exact h

/-- Commands at ever higher indexes lead to a state there is, whichever of them fail. -/
theorem reachable_replay {commands : List (Nat × ClusterCommand)}
    (hpos : ∀ c ∈ commands, 1 ≤ c.1) (hsorted : commands.Pairwise fun a b => a.1 < b.1) :
    Reachable (replay commands) :=
  foldl_advance_induction (fun h hlt command => h.advance hlt command) .empty hpos hsorted

end ClusterState

namespace Consensus

/-- The logs that proposals and losses of leadership lead to. -/
inductive Reachable : Consensus → Prop
  | empty : Reachable empty
  | proposed {c : Consensus} (h : Reachable c) (id : String) (command : ClusterCommand) :
      Reachable (c.propose id command).2
  | failing {c : Consensus} (h : Reachable c) (count : Nat) :
      Reachable (c.failNextProposals count)

theorem reachable_commit {c : Consensus} (h : c.state.Reachable) (command : ClusterCommand) :
    (c.commit command).2.state.Reachable := by
  simp only [commit]
  split
  · rename_i next happly
    exact h.applied (Nat.lt_succ_self _) happly
  · exact h.refused (Nat.le_succ _)

/-- A log publishes no state but those that commands lead to. -/
theorem Reachable.state {c : Consensus} (h : Reachable c) : c.state.Reachable := by
  induction h with
  | empty => exact .empty
  | proposed _ id command ih =>
      unfold propose
      split
      · exact ih
      · split
        · exact ih
        · split
          · exact ih
          · exact reachable_commit ih command
  | failing _ _ ih => exact ih

/-- The requests that a log remembers are in step with the order they came in. -/
theorem Reachable.inStep {c : Consensus} (h : c.Reachable) : c.InStep := by
  induction h with
  | empty => exact inStep_empty
  | proposed _ id command ih => exact ih.propose id command
  | failing _ _ ih => exact ih.of_eq rfl rfl

/-! ### Requests -/

variable {c : Consensus} {id : String} {command : ClusterCommand} {i : Nat}

/-- A command that is accepted was so before under its request, or is applied now. -/
theorem propose_eq_ok (hc : c.InStep) (h : (c.propose id command).1.outcome = .ok i) :
    Text.isBlankText id = false ∧ c.failNext = 0 ∧
      ((c.recorded? id = some (.ok i) ∧ (c.propose id command).2 = c) ∨
        c.recorded? id = none ∧ i = c.state.lastIndex + 1 ∧
          (c.propose id command).2.recorded? id = some (.ok i) ∧
          (c.propose id command).2.failNext = 0 ∧
          ∃ task, c.state.apply i command = (.ok task, (c.propose id command).2.state)) := by
  unfold propose at h ⊢
  split at h
  · cases h
  · rename_i hnamed
    split at h
    · cases h
    · rename_i hready
      have hready : c.failNext = 0 := by omega
      refine ⟨by simpa using hnamed, hready, ?_⟩
      rw [if_neg hnamed, if_neg (by omega)]
      split at h
      · rename_i outcome hrecorded
        obtain rfl : outcome = .ok i := h
        exact .inl ⟨hrecorded, rfl⟩
      · rename_i hfresh
        refine .inr ⟨hfresh, ?_⟩
        cases happly : c.state.apply (c.state.lastIndex + 1) command with
        | mk outcome next =>
            cases outcome with
            | error e =>
                simp only [commit, happly] at h
                cases h
            | ok task =>
                simp only [commit, happly] at h ⊢
                cases h
                exact ⟨rfl, (hc.of_eq rfl rfl).recorded?_remember hfresh _, hready, task, happly⟩

theorem propose_recorded {outcome : Outcome Nat} (hid : Text.isBlankText id = false)
    (hready : c.failNext = 0) (hrecorded : c.recorded? id = some outcome)
    (command : ClusterCommand) : c.propose id command = (.repeated outcome, c) := by
  unfold propose
  rw [if_neg (by simp [hid]), if_neg (by omega), hrecorded]

/-- A request that was accepted is answered as before, whatever is asked for, and the log stays as
it is. -/
theorem propose_again (hc : c.InStep) (h : (c.propose id command).1.outcome = .ok i)
    (again : ClusterCommand) :
    (c.propose id command).2.propose id again =
      (.repeated (.ok i), (c.propose id command).2) := by
  obtain ⟨hid, hready, ⟨hrecorded, hsame⟩ | ⟨-, -, hrecorded, hready', -⟩⟩ :=
    propose_eq_ok hc h
  · rw [hsame]
    exact propose_recorded hid hready hrecorded again
  · exact propose_recorded hid hready' hrecorded again

end Consensus

end HubReplication
