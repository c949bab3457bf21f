/-
**Replayed commands.**

A state is what commands lead to, each applied at an index above those before it.  Whatever the
commands are, the records of the state are sound, and no two tasks of any databases share an
identity: a new task has the index of its command, and that is above the identities there are.

Main definitions:

* `ClusterState.RecordSound` — what holds of every record;
* `ClusterState.WellFormed` — what holds of a state;
* `ClusterState.Change` — what a successful command does to a state;
* `ClusterState.replay` — the state that commands lead to.

Main results:

* `ClusterState.change_of_apply` — every command does one of these;
* `ClusterState.WellFormed.change` — and keeps a state well-formed;
* `ClusterState.wellFormed_replay` — so every state is;
* `Consensus.wellFormed_proposeAll` — the log keeps its state so as well.
-/

import HubReplication.Cluster.Consensus
import HubReplication.Proofs.Cluster.Record

set_option relaxedAutoImplicit false
set_option autoImplicit false

namespace HubReplication

namespace ClusterState

/-- What holds of the record of a database once the commands up to an index were applied. -/
structure RecordSound (lastIndex : Nat) (name : String) (r : DatabaseRecord) : Prop where
  name_eq : r.name = name
  etag_le : r.etag ≤ lastIndex
  hubs : HubsSound r.hubs r.hubGrants
  dialers : DialersSound r.sinks r.externals r.connectionStrings
  ids_nodup : r.taskIds.Nodup
  ids_range : ∀ {id}, id ∈ r.taskIds → 0 < id.value ∧ id.value ≤ lastIndex

/-- Every record is sound, and the identities of tasks differ across databases too. -/
structure WellFormed (s : ClusterState) : Prop where
  record : ∀ {name r}, s.database? name = some r → RecordSound s.lastIndex name r
  ids_apart : ∀ {name other r q id}, name ≠ other → s.database? name = some r →
    s.database? other = some q → id ∈ r.taskIds → id ∉ q.taskIds

/-- What a successful command at an index does to a state. -/
inductive Change (s : ClusterState) (index : Nat) : ClusterState → Prop
  | topology (topology : ClusterTopology) : Change s index { s with topology, lastIndex := index }
  | created {name : String} (topology : DatabaseTopology) (hnone : s.database? name = none) :
      Change s index ((s.putRecord name (.new name topology)).stamp index (some name))
  | removed (name : String) :
      Change s index
        ({ s with databases := s.databases.erase name }.stamp index (some name))
  | changed {name : String} {r r' : DatabaseRecord} (hr : s.database? name = some r)
      (hkeeps : r.Keeps index r') :
      Change s index ((s.putRecord name r').stamp index (some name))

variable {s s' : ClusterState} {index : Nat} {name : String} {r r' : DatabaseRecord}

/-! ### What a command does -/

theorem withRecord_eq_ok {α : Type} {a : α} {change : DatabaseRecord → Outcome α × DatabaseRecord}
    (h : s.withRecord name change = (.ok a, s')) :
    ∃ r r', s.database? name = some r ∧ change r = (.ok a, r') ∧ s' = s.putRecord name r' := by
  unfold withRecord at h
  split at h
  · cases h
  · rename_i r hr
    cases hchange : change r with
    | mk outcome r' =>
        rw [hchange] at h
        cases h
        exact ⟨r, r', hr, hchange, rfl⟩

theorem orUnchanged_eq_ok {α : Type} {a : α}
    {operation : DatabaseRecord → Outcome (α × DatabaseRecord)}
    (h : orUnchanged operation r = (.ok a, r')) : operation r = .ok (a, r') := by
  unfold orUnchanged at h
  split at h
  · rename_i hoperation
    cases h
    exact hoperation
  · cases h

theorem answering_eq_ok {α : Type} {a b : α} {o : Outcome DatabaseRecord}
    (h : answering a o = .ok (b, r')) : o = .ok r' := by
  unfold answering at h
  split at h
  · cases h
    rfl
  · cases h

theorem map_eq_ok {α β : Type} {f : α → β} {o : Outcome α} {b : β} (h : o.map f = .ok b) :
    ∃ a, o = .ok a ∧ f a = b := by
  cases o with
  | error e => cases h
  | ok a =>
      cases h
      exact ⟨a, rfl, rfl⟩

/-- What is made of the answer of an operation is nothing to the record. -/
theorem of_map_answer {α β : Type} {f : α × DatabaseRecord → β × DatabaseRecord}
    {o : Outcome (α × DatabaseRecord)} {b : β} (h : o.map f = .ok (b, r'))
    (hf : ∀ p, (f p).2 = p.2) : ∃ a, o = .ok (a, r') := by
  obtain ⟨p, rfl, heq⟩ := map_eq_ok h
  have hr' : p.2 = r' := by rw [← hf p, heq]
  exact ⟨p.1, by rw [← hr']⟩

/-- A command that succeeds does what it does by itself, and marks the record of its database. -/
theorem apply_eq_ok {command : ClusterCommand} {task : Option TaskId}
    (h : s.apply index command = (.ok task, s')) :
    ∃ s'', s.run index command = (.ok task, s'') ∧ s' = s''.stamp index command.database := by
  unfold apply at h
  split at h
  · cases h
  · rename_i hrun
    cases h
    exact ⟨_, hrun, rfl⟩

/-- The removal of a grant that was there. -/
theorem removal_of_run {hub thumbprint : String} {task : Option TaskId}
    (h : s.run index (.unregisterAccess name hub thumbprint) = (.ok task, s')) :
    ∃ r r' g, s.database? name = some r ∧ r.removeGrant hub thumbprint = (.ok g, r') ∧
      s' = s.putRecord name r' := by
  -- A removal gives a record whatever comes of it, so the record is named first.
  simp only [run] at h
  obtain ⟨r, r', hr, hchange, rfl⟩ := withRecord_eq_ok h
  cases hremove : r.removeGrant hub thumbprint with
  | mk outcome r'' =>
      rw [hremove] at hchange
      obtain ⟨houtcome, rfl⟩ := Prod.mk.inj hchange
      obtain ⟨g, rfl, -⟩ := map_eq_ok houtcome
      exact ⟨r, r'', g, hr, hremove, rfl⟩

/-- An operation that keeps records sound, on the record of a database. -/
theorem change_of_withRecord {α : Type} {a : α}
    {operation : DatabaseRecord → Outcome (α × DatabaseRecord)}
    (hkeeps : ∀ {r a r'}, operation r = .ok (a, r') → r.Keeps index r')
    (h : s.withRecord name (orUnchanged operation) = (.ok a, s')) :
    Change s index (s'.stamp index (some name)) := by
  obtain ⟨r, r', hr, hchange, rfl⟩ := withRecord_eq_ok h
  exact .changed hr (hkeeps (orUnchanged_eq_ok hchange))

theorem change_of_putDatabase {topology : DatabaseTopology} {task : Option TaskId}
    (h : s.putDatabase name topology = (.ok task, s')) :
    Change s index (s'.stamp index (some name)) := by
  unfold putDatabase at h
  split at h
  · cases h
  · split at h
    · cases h
    · cases h
      cases hr : s.database? name with
      | none => exact .created topology hr
      | some r => exact .changed hr ⟨rfl, rfl, .of_eq rfl, fun h => h, fun h => h⟩

/-- Every command that succeeds changes the topology of the cluster, creates or removes a database,
or does to a record what keeps it sound. -/
theorem change_of_apply {command : ClusterCommand} {task : Option TaskId}
    (h : s.apply index command = (.ok task, s')) : Change s index s' := by
  obtain ⟨s'', hrun, rfl⟩ := apply_eq_ok h
  cases command with
  | putClusterTopology topology =>
      simp only [run] at hrun
      split at hrun <;> cases hrun
      exact .topology topology
  | setNodeAlive node alive =>
      simp only [run] at hrun
      split at hrun <;> cases hrun
      exact .topology _
  | putDatabase name topology => exact change_of_putDatabase hrun
  | deleteDatabase name =>
      simp only [run] at hrun
      split at hrun <;> cases hrun
      exact .removed name
  | defineHub name definition =>
      refine change_of_withRecord (fun hop => ?_) hrun
      obtain ⟨_, hput⟩ := of_map_answer hop fun _ => rfl
      exact DatabaseRecord.keeps_putHub hput
  | registerAccess name grant =>
      exact change_of_withRecord
        (fun hop => DatabaseRecord.keeps_addGrant (answering_eq_ok hop)) hrun
  | unregisterAccess name hub thumbprint =>
      obtain ⟨r, r', g, hr, hremove, rfl⟩ := removal_of_run hrun
      exact .changed hr (DatabaseRecord.keeps_removeGrant hremove)
  | defineSink name definition =>
      refine change_of_withRecord (fun hop => ?_) hrun
      obtain ⟨_, hput⟩ := of_map_answer hop fun _ => rfl
      exact DatabaseRecord.keeps_putSink hput
  | defineExternal name definition =>
      refine change_of_withRecord (fun hop => ?_) hrun
      obtain ⟨_, hput⟩ := of_map_answer hop fun _ => rfl
      exact DatabaseRecord.keeps_putExternal hput
  | putConnectionString name connection =>
      exact change_of_withRecord
        (fun hop => DatabaseRecord.keeps_putConnectionString (answering_eq_ok hop)) hrun
  | toggleTask name id disabled =>
      exact change_of_withRecord
        (fun hop => DatabaseRecord.keeps_toggleTask (answering_eq_ok hop)) hrun
  | deleteTask name id =>
      refine change_of_withRecord (fun hop => ?_) hrun
      obtain ⟨_, hdelete⟩ := of_map_answer hop fun _ => rfl
      exact DatabaseRecord.keeps_deleteTask hdelete

/-! ### Well-formed states -/

theorem wellFormed_empty : empty.WellFormed where
  record h := by cases h
  ids_apart _ h := by cases h

theorem RecordSound.mono {last : Nat} (h : RecordSound last name r) (hle : last ≤ index) :
    RecordSound index name r :=
  ⟨h.name_eq, Nat.le_trans h.etag_le hle, h.hubs, h.dialers, h.ids_nodup,
    fun hid => ⟨(h.ids_range hid).1, Nat.le_trans (h.ids_range hid).2 hle⟩⟩

/-- An index above those so far is the identity of no task. -/
theorem RecordSound.not_mem_taskIds {last : Nat} (h : RecordSound last name r)
    (hlt : last < index) : ⟨index⟩ ∉ r.taskIds := by
  intro hmem
  have hle := (h.ids_range hmem).2
  exact absurd hle (Nat.not_le.2 hlt)

/-- A record stays sound under an operation that keeps it so, stamped with its index. -/
theorem RecordSound.keeps {last : Nat} (h : RecordSound last name r) (hlt : last < index)
    (hkeeps : r.Keeps index r') : RecordSound index name { r' with etag := index } := by
  refine ⟨hkeeps.name_eq.trans h.name_eq, Nat.le_refl _, hkeeps.hubs h.hubs,
    hkeeps.dialers h.dialers, hkeeps.ids.nodup h.ids_nodup (h.not_mem_taskIds hlt), ?_⟩
  intro id hid
  rcases hkeeps.ids.mem hid with hold | rfl
  · exact (h.mono (Nat.le_of_lt hlt)).ids_range hold
  · exact ⟨Nat.zero_lt_of_lt hlt, Nat.le_refl _⟩

theorem recordSound_new (topology : DatabaseTopology) (etag : Nat) :
    RecordSound etag name { DatabaseRecord.new name topology with etag } where
  name_eq := rfl
  etag_le := Nat.le_refl _
  hubs := {
    names := namesApart_nil
    shape := fun h => by cases h
    grants_fit := fun _ _ h => by cases h }
  dialers := {
    sink_names := namesApart_nil
    external_names := namesApart_nil
    sink_connection := fun h => by cases h
    external_connection := fun h => by cases h
    connection_name := fun h => by cases h }
  ids_nodup := List.nodup_nil
  ids_range h := by cases h

theorem WellFormed.mono (h : s.WellFormed) (hle : s.lastIndex ≤ index) :
    { s with lastIndex := index }.WellFormed :=
  ⟨fun hr => (h.record hr).mono hle, h.ids_apart⟩

theorem database?_stamp_putRecord (other : String) :
    ((s.putRecord name r).stamp index (some name)).database? other =
      if other = name then some { r with etag := index } else s.database? other := by
  simp only [database?, stamp, putRecord, SortedMap.get?_adjust, SortedMap.get?_insert_self]
  split
  · rfl
  · rename_i hne
    exact SortedMap.get?_insert_of_ne _ _ hne

/-- A sound record whose identities are in no other database takes its place. -/
theorem WellFormed.put (h : s.WellFormed) (hlt : s.lastIndex < index)
    (hsound : RecordSound index name { r with etag := index })
    (hfresh : ∀ {other q id}, other ≠ name → s.database? other = some q → id ∈ r.taskIds →
      id ∉ q.taskIds) :
    ((s.putRecord name r).stamp index (some name)).WellFormed := by
  constructor
  case record =>
    intro other q hq
    rw [database?_stamp_putRecord] at hq
    split at hq
    · rename_i hother
      cases hq
      exact hother ▸ hsound
    · exact (h.record hq).mono (Nat.le_of_lt hlt)
  case ids_apart =>
    intro first other q p id hne hq hp hid
    rw [database?_stamp_putRecord] at hq hp
    split at hq
    · rename_i hfirst
      cases hq
      rw [if_neg (hfirst ▸ hne.symm)] at hp
      exact hfresh (hfirst ▸ hne.symm) hp hid
    · split at hp
      · rename_i hfirst _
        cases hp
        exact fun hid' => hfresh hfirst hq hid' hid
      · exact h.ids_apart hne hq hp hid

theorem database?_of_removed {other : String} {q : DatabaseRecord}
    (hq : ({ s with databases := s.databases.erase name }.stamp index (some name)).database? other =
      some q) : s.database? other = some q := by
  simp only [database?, stamp, SortedMap.get?_adjust, SortedMap.get?_erase_self] at hq
  split at hq
  · cases hq
  · rename_i hne
    rw [SortedMap.get?_erase_of_ne _ hne] at hq
    exact hq

theorem WellFormed.remove (h : s.WellFormed) (hlt : s.lastIndex < index) :
    ({ s with databases := s.databases.erase name }.stamp index (some name)).WellFormed :=
  ⟨fun hq => (h.record (database?_of_removed hq)).mono (Nat.le_of_lt hlt),
    fun hne hq hp => h.ids_apart hne (database?_of_removed hq) (database?_of_removed hp)⟩

/-- A command at an index above those so far keeps a state well-formed. -/
theorem WellFormed.change (h : s.WellFormed) (hlt : s.lastIndex < index)
    (hchange : Change s index s') : s'.WellFormed := by
  cases hchange with
  | topology topology => exact ⟨fun hr => (h.record hr).mono (Nat.le_of_lt hlt), h.ids_apart⟩
  | created topology hnone =>
      exact h.put hlt (recordSound_new topology index) fun _ _ hid => by cases hid
  | removed name => exact h.remove hlt
  | changed hr hkeeps =>
      refine h.put hlt ((h.record hr).keeps hlt hkeeps) fun hne hq hid hid' => ?_
      rcases hkeeps.ids.mem hid with hold | rfl
      · exact h.ids_apart hne.symm hr hq hold hid'
      · exact (h.record hq).not_mem_taskIds hlt hid'

theorem lastIndex_of_change (h : Change s index s') : s'.lastIndex = index := by
  cases h <;> rfl

/-! ### Replay -/

/-- The state after a command, which is dropped when it fails. -/
def advance (s : ClusterState) (index : Nat) (command : ClusterCommand) : ClusterState :=
  match s.apply index command with
  | (.ok _, next) => next
  | (.error _, _) => s

/-- The state that commands lead to, each at its index. -/
def replay (commands : List (Nat × ClusterCommand)) : ClusterState :=
  commands.foldl (fun s c => s.advance c.1 c.2) empty

theorem lastIndex_advance_le (hlt : s.lastIndex < index) (command : ClusterCommand) :
    (s.advance index command).lastIndex ≤ index := by
  unfold ClusterState.advance
  split
  · rename_i task next happly
    exact Nat.le_of_eq (lastIndex_of_change (change_of_apply happly))
  · exact Nat.le_of_lt hlt

theorem WellFormed.advance (h : s.WellFormed) (hlt : s.lastIndex < index)
    (command : ClusterCommand) : (s.advance index command).WellFormed := by
  unfold ClusterState.advance
  split
  · rename_i task next happly
    exact h.change hlt (change_of_apply happly)
  · exact h

/-- What a command at an index above those so far keeps, commands keep one after another, each at
an index above the ones before it. -/
theorem foldl_advance_induction {P : ClusterState → Prop}
    (hadvance : ∀ {s : ClusterState} {index : Nat}, P s → s.lastIndex < index →
      ∀ command, P (s.advance index command))
    {commands : List (Nat × ClusterCommand)} (h : P s) (hlt : ∀ c ∈ commands, s.lastIndex < c.1)
    (hsorted : commands.Pairwise fun a b => a.1 < b.1) :
    P (commands.foldl (fun s c => s.advance c.1 c.2) s) := by
  induction commands generalizing s with
  | nil => exact h
  | cons c rest ih =>
      -- A refused command leaves the last index behind, so it is at most the index of the command.
      rw [List.pairwise_cons] at hsorted
      have hfirst := hlt c List.mem_cons_self
      have hle := lastIndex_advance_le hfirst c.2
      refine ih (hadvance h hfirst c.2) (fun d hd => ?_) hsorted.2
      exact Nat.lt_of_le_of_lt hle (hsorted.1 d hd)

theorem WellFormed.foldl_advance {commands : List (Nat × ClusterCommand)} (h : s.WellFormed)
    (hlt : ∀ c ∈ commands, s.lastIndex < c.1) (hsorted : commands.Pairwise fun a b => a.1 < b.1) :
    (commands.foldl (fun s c => s.advance c.1 c.2) s).WellFormed :=
  foldl_advance_induction (fun h hlt command => h.advance hlt command) h hlt hsorted

/-- In every state that commands at ever higher indexes lead to, whatever they are and whichever of
them fail, every record is sound and no two tasks share an identity. -/
theorem wellFormed_replay (commands : List (Nat × ClusterCommand))
    (hpos : ∀ c ∈ commands, 1 ≤ c.1) (hsorted : commands.Pairwise fun a b => a.1 < b.1) :
    (replay commands).WellFormed :=
  wellFormed_empty.foldl_advance hpos hsorted

/-- A hub with a grant and a replication of the database elsewhere; then a second hub of the name is
refused, and the first one is renamed. -/
def renamedHub : List (Nat × ClusterCommand) :=
  [(1, .putClusterTopology ⟨[⟨⟨"A"⟩, "mem://a", true⟩]⟩),
    (2, .putDatabase "orders" ⟨[⟨"A"⟩]⟩),
    (3, .defineHub "orders" (.new "feed" .hubToSink)),
    (4, .registerAccess "orders"
      ⟨"Feed", "reader", "AB12", ⟨"sink", "AB12", ⟨0, 0⟩, ⟨1, 0⟩, "key"⟩, .empty, .empty⟩),
    (5, .putConnectionString "orders" ⟨"to-archive", "archive", ["mem://b"]⟩),
    (7, .defineExternal "orders" ⟨"backup", "to-archive", "", 0, ⟨0⟩, false, none⟩),
    (8, .defineHub "orders" (.new "FEED" .hubToSink)),
    (9, .defineHub "orders" { HubDefinition.new "news" .hubToSink with taskId := ⟨3⟩ })]

theorem wellFormed_replay_renamedHub :
    (replay renamedHub).WellFormed ∧
      ((replay renamedHub).database? "orders").map (fun r =>
        (r.hubs.map (·.name), (r.grants "NEWS").map (·.hubName), r.taskIds, r.etag)) =
        some (["news"], ["news"], [⟨3⟩, ⟨7⟩], 9) :=
  ⟨wellFormed_replay renamedHub (by decide) (by decide), by decide +kernel⟩

end ClusterState

/-! ### The log -/

namespace Consensus

variable {c : Consensus}

theorem wellFormed_commit (h : c.state.WellFormed) (command : ClusterCommand) :
    (c.commit command).2.state.WellFormed := by
  simp only [commit]
  split
  · rename_i next happly
    exact h.change (Nat.lt_succ_self _) (ClusterState.change_of_apply happly)
  · exact h.mono (Nat.le_succ _)

theorem wellFormed_propose (h : c.state.WellFormed) (id : String) (command : ClusterCommand) :
    (c.propose id command).2.state.WellFormed := by
  unfold propose
  split
  · exact h
  · split
    · exact h
    · split
      · exact h
      · exact wellFormed_commit h command

/-- Proposals keep the state of the log well-formed, whichever of them are refused. -/
theorem wellFormed_proposeAll (h : c.state.WellFormed) (proposals : List (String × ClusterCommand)) :
    (c.proposeAll proposals).2.1.state.WellFormed := by
  induction proposals generalizing c with
  | nil => exact h
  | cons proposal rest ih =>
      obtain ⟨id, command⟩ := proposal
      have hnext := wellFormed_propose h id command
      rw [proposeAll]
      split
      rename_i proposed c' hpropose
      rw [hpropose] at hnext
      split
      · exact hnext
      · exact ih hnext

end Consensus

end HubReplication
