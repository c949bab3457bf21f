/-
**The log as a sequence of entries.**

What a log publishes is what its entries say and nothing else.  A proposal that is neither blank,
nor lost, nor repeated becomes an entry and takes the next index.  The entries that were accepted,
applied in order at their own indexes, lead from the empty state to the published one; those that
were refused leave nothing behind but the index they took.  The requests of the last 4096 entries
are the ones remembered, and they answer their repetitions.

Main definitions:

* `Consensus.Entry` — a proposal that reached the log;
* `Consensus.History` — a log with all its entries, `Consensus.History.after` — after some steps;
* `ClusterState.applyAll` — commands applied one after another, none of which may fail;
* `Consensus.History.Replicates` — the log publishes what its entries say;
* `Consensus.History.Answers` — what becomes of the next proposal.

Main results:

* `Consensus.History.Replicates.step` — a step of the log keeps it so;
* `Consensus.History.replicates_after` — so it is after any steps;
* `Consensus.History.replicates_and_answers` — and every proposal is then answered by the entries.
-/

import HubReplication.Proofs.Cluster.Reachable

set_option relaxedAutoImplicit false
set_option autoImplicit false

namespace HubReplication

/-! ### Commands and the index they start from -/

namespace ClusterState

variable {s s' : ClusterState} {index : Nat} {command : ClusterCommand} {task : Option TaskId}

/-- Apply commands at their indexes, one after another; none of them may fail. -/
def applyAll (s : ClusterState) : List (Nat × ClusterCommand) → Outcome ClusterState
  | [] => .ok s
  | (index, command) :: rest =>
    match s.apply index command with
    | (.ok _, next) => next.applyAll rest
    | (.error e, _) => .error e

theorem applyAll_append_ok {commands : List (Nat × ClusterCommand)} {t t' : ClusterState}
    (hall : t.applyAll commands = .ok s) (h : s.apply index command = (.ok task, t')) :
    t.applyAll (commands ++ [(index, command)]) = .ok t' := by
  induction commands generalizing t with
  | nil =>
      obtain rfl : t = s := by simpa [applyAll] using hall
      simp [applyAll, h]
  | cons first rest ih =>
      obtain ⟨i, c⟩ := first
      rw [applyAll] at hall
      rw [List.cons_append, applyAll]
      split at hall
      · exact ih hall
      · cases hall

theorem withRecord_lastIndex {α : Type} (s : ClusterState) (last : Nat) (name : String)
    (change : DatabaseRecord → Outcome α × DatabaseRecord) :
    { s with lastIndex := last }.withRecord name change =
      ((s.withRecord name change).1, { (s.withRecord name change).2 with lastIndex := last }) := by
  unfold withRecord database?
  simp only
  split <;> rfl

/-- A command does the same from whatever index the state is at. -/
theorem run_lastIndex (s : ClusterState) (last index : Nat) (command : ClusterCommand) :
    { s with lastIndex := last }.run index command =
      ((s.run index command).1, { (s.run index command).2 with lastIndex := last }) := by
  cases command with
  | putClusterTopology topology =>
      simp only [run]
      split <;> rfl
  | setNodeAlive node alive =>
      simp only [run]
      split <;> rfl
  | putDatabase name topology =>
      simp only [run, putDatabase, database?]
      split
      · rfl
      · split <;> rfl
  | deleteDatabase name =>
      by_cases hnone : (s.database? name).isNone = true
      · simp [run, database?, show (s.databases.get? name).isNone = true from hnone]
      · simp [run, database?, show ¬(s.databases.get? name).isNone = true from hnone]
  | defineHub | registerAccess | unregisterAccess | defineSink | defineExternal
  | putConnectionString | toggleTask | deleteTask => simp only [run, withRecord_lastIndex]

/-- A command that is accepted leads to the same state from whatever index. -/
theorem apply_lastIndex (h : s.apply index command = (.ok task, s')) (last : Nat) :
    { s with lastIndex := last }.apply index command = (.ok task, s') := by
  obtain ⟨s'', hrun, rfl⟩ := apply_eq_ok h
  simp only [apply, run_lastIndex, hrun]
  cases command.database <;> rfl

end ClusterState

namespace Consensus

variable {c : Consensus} {index : Nat} {command : ClusterCommand} {next : ClusterState}

theorem commit_of_ok {task : Option TaskId} (hindex : c.state.lastIndex + 1 = index)
    (h : c.state.apply index command = (.ok task, next)) :
    c.commit command =
      (.applied index,
        { c with
          state := next
          changes := ⟨index, command.database, command.name⟩ :: c.changes }) := by
  simp only [commit, hindex, h]

theorem commit_of_error {e : ReplicationError} (hindex : c.state.lastIndex + 1 = index)
    (h : c.state.apply index command = (.error e, next)) :
    c.commit command = (.refused e, { c with state := { c.state with lastIndex := index } }) := by
  simp only [commit, hindex, h]

end Consensus

/-! ### Entries -/

/-- A proposal that reached the log. -/
structure Consensus.Entry where
  request : String
  command : ClusterCommand
  /-- The index of the command, or why it was refused. -/
  outcome : Outcome Nat

/-- The command of an entry under its index, if it was accepted. -/
def Consensus.Entry.accepted? (e : Consensus.Entry) : Option (Nat × ClusterCommand) :=
  match e.outcome with
  | .ok index => some (index, e.command)
  | .error _ => none

/-- The entry that a proposal becomes, if it reaches the log. -/
def Proposed.entry? (request : String) (command : ClusterCommand) :
    Proposed → Option Consensus.Entry
  | .applied index => some ⟨request, command, .ok index⟩
  | .refused e => some ⟨request, command, .error e⟩
  | .blank | .lost | .repeated _ => none

/-- What may happen to a log. -/
inductive Consensus.Step where
  | propose (id : String) (command : ClusterCommand)
  /-- The next proposals are to fail. -/
  | failNext (count : Nat)

/-- A log, and all the proposals that reached it. -/
structure Consensus.History where
  log : Consensus
  /-- The entries, the earliest first. -/
  entries : List Entry

namespace Consensus.History

def step (h : History) : Step → History
  | .propose id command =>
    match h.log.propose id command with
    | (proposed, log) => ⟨log, h.entries ++ (proposed.entry? id command).toList⟩
  | .failNext count => ⟨h.log.failNextProposals count, h.entries⟩

/-- An empty log after some steps. -/
def after (steps : List Step) : History := steps.foldl step ⟨.empty, []⟩

/-- The commands that were accepted, under their indexes. -/
def accepted (h : History) : List (Nat × ClusterCommand) := h.entries.filterMap Entry.accepted?

/-- The entries whose requests are remembered. -/
def recent (h : History) : List Entry :=
  h.entries.drop (h.entries.length - Consensus.requestHistory)

/-- A log publishes what its entries say, and remembers the requests of the last of them. -/
structure Replicates (h : History) : Prop where
  named : ∀ e ∈ h.entries, Text.isBlankText e.request = false
  /-- An entry that was accepted has the index that its place gives it. -/
  indexed : ∀ {place : Nat} {e : Entry} {index : Nat}, h.entries[place]? = some e →
    e.outcome = .ok index → index = place + 1
  /-- The accepted commands lead to the published state, and every entry has taken an index. -/
  published : ∃ s, ClusterState.empty.applyAll h.accepted = .ok s ∧
    h.log.state = { s with lastIndex := h.entries.length }
  /-- The order is that of the last entries. -/
  order : h.log.requestOrder = h.recent.map (·.request)
  outcomes : ∀ e ∈ h.recent, h.log.requests.get? e.request = some e.outcome
  /-- The outcomes and the order are of the same requests, none of them twice and not too many. -/
  inStep : h.log.InStep

/-- What becomes of the next proposal. -/
structure Answers (h : History) (id : String) (command : ClusterCommand) : Prop where
  blank : Text.isBlankText id = true → h.log.propose id command = (.blank, h.log)
  lost : Text.isBlankText id = false → 0 < h.log.failNext →
    h.log.propose id command = (.lost, { h.log with failNext := h.log.failNext - 1 })
  repeated : h.log.failNext = 0 → ∀ e ∈ h.recent, e.request = id →
    h.log.propose id command = (.repeated e.outcome, h.log)
  accepted : Text.isBlankText id = false → h.log.failNext = 0 → (∀ e ∈ h.recent, e.request ≠ id) →
    ∀ {task next}, h.log.state.apply (h.entries.length + 1) command = (.ok task, next) →
      (h.log.propose id command).1 = .applied (h.entries.length + 1) ∧
      (h.log.propose id command).2.state = next ∧ next.lastIndex = h.entries.length + 1
  /-- Whatever a refused command did to its copy of the state is dropped. -/
  refused : Text.isBlankText id = false → h.log.failNext = 0 → (∀ e ∈ h.recent, e.request ≠ id) →
    ∀ {e copy}, h.log.state.apply (h.entries.length + 1) command = (.error e, copy) →
      (h.log.propose id command).1 = .refused e ∧
      (h.log.propose id command).2.state =
        { h.log.state with lastIndex := h.entries.length + 1 } ∧
      (h.log.propose id command).2.changes = h.log.changes

/-! ### One step -/

variable {h : History} {id : String} {command : ClusterCommand}

theorem replicates_empty : (⟨.empty, []⟩ : History).Replicates where
  named := by simp
  indexed hplace := by simp at hplace
  published := ⟨.empty, rfl, rfl⟩
  order := rfl
  outcomes := by simp [recent]
  inStep := Consensus.inStep_empty

/-- Each new entry drops one of those remembered when there are too many. -/
theorem recent_append (h : History) (log : Consensus) (e : Entry) :
    (⟨log, h.entries ++ [e]⟩ : History).recent =
      (h.recent ++ [e]).drop ((h.recent ++ [e]).length - Consensus.requestHistory) := by
  simp only [recent, List.length_append, List.length_singleton, List.length_drop]
  generalize Consensus.requestHistory = limit
  rw [← List.drop_append_of_le_length (Nat.sub_le _ _), List.drop_drop]
  congr 1
  omega

theorem Replicates.lastIndex (hr : h.Replicates) : h.log.state.lastIndex = h.entries.length := by
  obtain ⟨s, -, hstate⟩ := hr.published
  rw [hstate]

theorem Replicates.recorded?_eq_none_iff (hr : h.Replicates) :
    h.log.recorded? id = none ↔ ∀ e ∈ h.recent, e.request ≠ id := by
  rw [← Option.not_isSome_iff_eq_none, Consensus.recorded?, ← hr.inStep.mem_iff, hr.order]
  simp

/-- A new entry is remembered, and its outcome is the one its command comes to. -/
theorem Replicates.append (hr : h.Replicates) {log : Consensus} {outcome : Outcome Nat}
    (hid : Text.isBlankText id = false) (hfresh : h.log.recorded? id = none)
    (hrequests : log.requests = h.log.requests) (horder : log.requestOrder = h.log.requestOrder)
    (hindex : ∀ {index}, outcome = .ok index → index = h.entries.length + 1)
    (hpublished : ∃ s,
      ClusterState.empty.applyAll
        (h.accepted ++ (Entry.accepted? ⟨id, command, outcome⟩).toList) = .ok s ∧
      log.state = { s with lastIndex := h.entries.length + 1 }) :
    (⟨log.remember id outcome, h.entries ++ [⟨id, command, outcome⟩]⟩ :
      History).Replicates := by
  have hsame : log.InStep := hr.inStep.of_eq hrequests horder
  have hfresh' : log.recorded? id = none := by rwa [Consensus.recorded?, hrequests]
  have horder' : (log.remember id outcome).requestOrder =
      (⟨log.remember id outcome, h.entries ++ [⟨id, command, outcome⟩]⟩ :
        History).recent.map (·.request) := by
    rw [recent_append, Consensus.requestOrder_remember, horder, hr.order]
    simp [List.map_drop]
  refine ⟨?_, fun {place e index} hplace hok => ?_, ?_, horder', fun e he => ?_,
    hsame.remember hfresh' outcome⟩
  · intro e he
    rcases List.mem_append.1 he with hold | hnew
    · exact hr.named e hold
    · obtain rfl := List.mem_singleton.1 hnew
      exact hid
  · rw [List.getElem?_append] at hplace
    split at hplace
    · exact hr.indexed hplace hok
    · rename_i hlast
      rw [List.getElem?_singleton] at hplace
      split at hplace
      · cases hplace
        rw [hindex hok]
        omega
      · cases hplace
  · obtain ⟨s, hall, hstate⟩ := hpublished
    refine ⟨s, ?_, hstate.trans (by simp)⟩
    rw [← hall, accepted, accepted, List.filterMap_append]
    cases hentry : Entry.accepted? ⟨id, command, outcome⟩ <;> simp [hentry]
  · have hkeeps : e.request ∈ (log.remember id outcome).requestOrder := by
      rw [horder']
      exact List.mem_map_of_mem he
    rw [show (log.remember id outcome).requests.get? e.request =
      (log.remember id outcome).recorded? e.request from rfl,
      hsame.recorded?_remember_eq hfresh', if_pos hkeeps]
    rw [recent_append] at he
    rcases List.mem_append.1 (List.mem_of_mem_drop he) with hold | hnew
    · -- An entry from before has another request, since this one was not remembered.
      rw [if_neg (hr.recorded?_eq_none_iff.1 hfresh e hold), Consensus.recorded?, hrequests]
      exact hr.outcomes e hold
    · obtain rfl := List.mem_singleton.1 hnew
      exact if_pos rfl

theorem Replicates.propose (hr : h.Replicates) (id : String) (command : ClusterCommand) :
    (h.step (.propose id command)).Replicates := by
  simp only [step, Consensus.propose]
  split
  · simpa [Proposed.entry?] using hr
  · rename_i hid
    have hid : Text.isBlankText id = false := by simpa using hid
    split
    · refine ⟨?_, ?_, ?_, ?_, ?_, hr.inStep.of_eq rfl rfl⟩
      all_goals simp only [Proposed.entry?, Option.toList_none, List.append_nil]
      · exact hr.named
      · exact hr.indexed
      · exact hr.published
      · exact hr.order
      · exact hr.outcomes
    · split
      · simpa [Proposed.entry?] using hr
      · rename_i hfresh
        obtain ⟨s, hall, hstate⟩ := hr.published
        have hindex : h.log.state.lastIndex + 1 = h.entries.length + 1 := by rw [hr.lastIndex]
        cases happly : h.log.state.apply (h.entries.length + 1) command with
        | mk outcome next =>
            cases outcome with
            | ok task =>
                simp only [Consensus.commit_of_ok hindex happly, Proposed.entry?,
                  Proposed.outcome, Option.toList_some]
                refine hr.append hid hfresh rfl rfl (by rintro _ ⟨⟩; rfl) ⟨next, ?_, ?_⟩
                · have hs : s.apply (h.entries.length + 1) command = (.ok task, next) := by
                    have := ClusterState.apply_lastIndex happly s.lastIndex
                    rwa [hstate] at this
                  exact ClusterState.applyAll_append_ok hall hs
                · have hnext := ClusterState.lastIndex_of_change
                    (ClusterState.change_of_apply happly)
                  simp [← hnext]
            | error e =>
                simp only [Consensus.commit_of_error hindex happly, Proposed.entry?,
                  Proposed.outcome, Option.toList_some]
                refine hr.append hid hfresh rfl rfl (by rintro _ ⟨⟩) ⟨s, ?_, ?_⟩
                · simpa [Entry.accepted?] using hall
                · simp [hstate]

/-- A step of a log keeps it at what its entries say. -/
theorem Replicates.step (hr : h.Replicates) (s : Step) : (h.step s).Replicates := by
  cases s with
  | propose id command => exact hr.propose id command
  | failNext count =>
      exact ⟨hr.named, hr.indexed, hr.published, hr.order, hr.outcomes, hr.inStep.of_eq rfl rfl⟩

theorem replicates_after (steps : List Step) : (after steps).Replicates := by
  suffices h : ∀ {start : History}, start.Replicates →
      (steps.foldl History.step start).Replicates from h replicates_empty
  induction steps with
  | nil => exact id
  | cons s rest ih => exact fun hstart => ih (hstart.step s)

/-! ### Answers -/

/-- A request that is not remembered is decided by its command. -/
theorem Replicates.propose_fresh (hr : h.Replicates) (hid : Text.isBlankText id = false)
    (hready : h.log.failNext = 0) (hfresh : ∀ e ∈ h.recent, e.request ≠ id) :
    h.log.propose id command =
      ((h.log.commit command).1,
        (h.log.commit command).2.remember id (h.log.commit command).1.outcome) := by
  unfold Consensus.propose
  rw [if_neg (by simp [hid]), if_neg (by omega), hr.recorded?_eq_none_iff.2 hfresh]

theorem Replicates.answers (hr : h.Replicates) (id : String) (command : ClusterCommand) :
    h.Answers id command where
  blank hblank := by simp [Consensus.propose, hblank]
  lost hid hlost := by simp [Consensus.propose, hid, hlost]
  repeated hready e he hrequest := by
    subst hrequest
    exact Consensus.propose_recorded (hr.named e (List.mem_of_mem_drop he)) hready
      (hr.outcomes e he) command
  accepted hid hready hfresh := by
    intro task next happly
    have hnext := ClusterState.lastIndex_of_change (ClusterState.change_of_apply happly)
    rw [hr.propose_fresh hid hready hfresh, Consensus.commit_of_ok (by rw [hr.lastIndex]) happly]
    exact ⟨rfl, rfl, hnext⟩
  refused hid hready hfresh := by
    intro e copy happly
    rw [hr.propose_fresh hid hready hfresh, Consensus.commit_of_error (by rw [hr.lastIndex]) happly]
    exact ⟨rfl, rfl, rfl⟩

/-- After any proposals, under any request ids, and any losses of leadership, a log publishes what
its entries say, and its entries decide what becomes of the next proposal. -/
theorem replicates_and_answers (steps : List Step) :
    (after steps).Replicates ∧ ∀ id command, (after steps).Answers id command :=
  ⟨replicates_after steps, (replicates_after steps).answers⟩

end Consensus.History

end HubReplication
