/-
**Commands for different databases.**

A command for a database looks at the record of that database and at the topology of the cluster,
and changes nothing but that record.  Two commands for two databases may therefore be applied in
either order: each of them comes to what it comes to alone, and the states they lead to differ in
the last index at most.  That holds whether a command that fails leaves its mark on the state or is
dropped with the copy it was applied to.  So a database has a history of its own, which the commands
for other databases have no part in.

Main definitions:

* `ClusterState.Confined` — a step that is about the record of one database;
* `ClusterState.onCopy` — a step that is dropped when it fails;
* `ClusterState.Commute` — two steps that may be made in either order;
* `ClusterState.AgreeOn` — states that are the same for one database.

Main results:

* `ClusterState.confined_apply` — a command is about the record of its database;
* `ClusterState.Confined.commute` — steps about two databases may be made in either order;
* `ClusterState.commute_of_database_ne` — and so may commands for two databases;
* `ClusterState.database?_replay_filter` — a record is what the commands for its database and those
  for the cluster lead to, whatever other commands come in between.
-/

import HubReplication.Proofs.Cluster.Reachable

set_option relaxedAutoImplicit false
set_option autoImplicit false

namespace HubReplication

namespace ClusterState

variable {α β : Type} {name other : String}

/-- A step that looks at nothing but the record of one database and the topology of the cluster, and
changes nothing but that record. -/
structure Confined (name : String) (step : ClusterState → Outcome α × ClusterState) : Prop where
  topology : ∀ s, (step s).2.topology = s.topology
  others : ∀ s {other}, other ≠ name → (step s).2.database? other = s.database? other
  /-- States that agree on the record and on the topology agree on the outcome, and on the record
  afterwards. -/
  agree : ∀ {s s'}, s.topology = s'.topology → s.database? name = s'.database? name →
    (step s).1 = (step s').1 ∧ (step s).2.database? name = (step s').2.database? name

/-- A step on a copy of the state, which is dropped when the step fails. -/
def onCopy (step : ClusterState → Outcome α × ClusterState) (s : ClusterState) :
    Outcome α × ClusterState :=
  match step s with
  | (.ok a, next) => (.ok a, next)
  | (.error e, _) => (.error e, s)

/-- Two steps that may be made in either order: each comes to the same, and the states they lead to
have the same topology and the same records. -/
structure Commute (first : ClusterState → Outcome α × ClusterState)
    (second : ClusterState → Outcome β × ClusterState) (s : ClusterState) : Prop where
  first_outcome : (first s).1 = (first (second s).2).1
  second_outcome : (second (first s).2).1 = (second s).1
  topology : (second (first s).2).2.topology = (first (second s).2).2.topology
  databases : (second (first s).2).2.databases = (first (second s).2).2.databases

/-! ### Steps about one database -/

/-- States with the same record of every database have the same records. -/
theorem databases_ext {s s' : ClusterState} (h : ∀ name, s.database? name = s'.database? name) :
    s.databases = s'.databases :=
  SortedMap.ext_get? h

theorem Confined.commute {first : ClusterState → Outcome α × ClusterState}
    {second : ClusterState → Outcome β × ClusterState} (hfirst : Confined name first)
    (hsecond : Confined other second) (hne : name ≠ other) (s : ClusterState) :
    Commute first second s := by
  -- Neither step changes what the other one looks at.
  have hafter := hfirst.agree (hsecond.topology s) (hsecond.others s hne)
  have hbefore := hsecond.agree (hfirst.topology s) (hfirst.others s hne.symm)
  refine ⟨hafter.1.symm, hbefore.1, ?_, databases_ext fun asked => ?_⟩
  · rw [hsecond.topology, hfirst.topology, hfirst.topology, hsecond.topology]
  · by_cases hname : asked = name
    · rw [hname, hsecond.others _ hne, hafter.2]
    · rw [hfirst.others _ hname]
      by_cases hother : asked = other
      · rw [hother, hbefore.2]
      · rw [hsecond.others _ hother, hfirst.others _ hname, hsecond.others _ hother]

theorem Confined.onCopy {step : ClusterState → Outcome α × ClusterState}
    (h : Confined name step) : Confined name (onCopy step) where
  topology s := by
    have htopology := h.topology s
    unfold ClusterState.onCopy
    split
    · rename_i hstep
      rw [hstep] at htopology
      exact htopology
    · rfl
  others s other hne := by
    have hothers := h.others s hne
    unfold ClusterState.onCopy
    split
    · rename_i hstep
      rw [hstep] at hothers
      exact hothers
    · rfl
  agree {s s'} htopology hrecord := by
    obtain ⟨houtcome, hafter⟩ := h.agree htopology hrecord
    unfold ClusterState.onCopy
    cases hs : step s with
    | mk outcome next =>
        cases hs' : step s' with
        | mk outcome' next' =>
            rw [hs, hs'] at houtcome hafter
            obtain rfl : outcome = outcome' := houtcome
            cases outcome with
            | ok a => exact ⟨rfl, hafter⟩
            | error e => exact ⟨rfl, hrecord⟩

/-! ### Commands -/

theorem database?_putRecord (s : ClusterState) (name : String) (r : DatabaseRecord)
    (other : String) :
    (s.putRecord name r).database? other = if other = name then some r else s.database? other := by
  split
  · rename_i hother
    rw [hother]
    exact SortedMap.get?_insert_self _ _ _
  · rename_i hother
    exact SortedMap.get?_insert_of_ne _ _ hother

theorem database?_stamp (s : ClusterState) (index : Nat) (name other : String) :
    (s.stamp index (some name)).database? other =
      if other = name then (s.database? name).map fun r => { r with etag := index }
      else s.database? other :=
  SortedMap.get?_adjust _ _ _ _

/-- Whatever is done to the record of a database is about that record. -/
theorem confined_withRecord (change : DatabaseRecord → Outcome α × DatabaseRecord) :
    Confined name (·.withRecord name change) where
  topology s := by
    unfold withRecord
    split <;> rfl
  others s other hne := by
    unfold withRecord
    split
    · rfl
    · exact (database?_putRecord _ _ _ _).trans (if_neg hne)
  agree {s s'} _ hrecord := by
    unfold withRecord
    rw [hrecord]
    split
    · exact ⟨rfl, hrecord⟩
    · exact ⟨rfl, by simp only [database?_putRecord, if_true]⟩

theorem confined_putDatabase (topology : DatabaseTopology) :
    Confined name (·.putDatabase name topology) where
  topology s := by
    unfold putDatabase
    split
    · rfl
    · split <;> rfl
  others s other hne := by
    unfold putDatabase
    split
    · rfl
    · split
      · rfl
      · exact (database?_putRecord _ _ _ _).trans (if_neg hne)
  agree {s s'} htopology hrecord := by
    -- The members are looked up in the topology of the cluster.
    unfold putDatabase
    rw [htopology, hrecord]
    split
    · exact ⟨rfl, hrecord⟩
    · split
      · exact ⟨rfl, hrecord⟩
      · exact ⟨rfl, by simp only [database?_putRecord, if_true]⟩

theorem confined_deleteDatabase (index : Nat) :
    Confined name (·.run index (.deleteDatabase name)) where
  topology s := by
    simp only [run]
    split <;> rfl
  others s other hne := by
    simp only [run]
    split
    · rfl
    · exact SortedMap.get?_erase_of_ne _ hne
  agree {s s'} _ hrecord := by
    simp only [run]
    rw [hrecord]
    split
    · exact ⟨rfl, hrecord⟩
    · refine ⟨rfl, ?_⟩
      simp only [database?, SortedMap.get?_erase_self]

variable {command : ClusterCommand}

theorem confined_run (h : command.database = some name) (index : Nat) :
    Confined name (·.run index command) := by
  cases command with
  | putClusterTopology | setNodeAlive => cases h
  | putDatabase db topology =>
      cases h
      exact confined_putDatabase topology
  | deleteDatabase db =>
      cases h
      exact confined_deleteDatabase index
  | defineHub | registerAccess | unregisterAccess | defineSink | defineExternal
  | putConnectionString | toggleTask | deleteTask =>
      cases h
      simp only [run]
      exact confined_withRecord _

/-- A command is about the record of its database, which it marks when it succeeds. -/
theorem confined_apply (h : command.database = some name) (index : Nat) :
    Confined name (·.apply index command) := by
  have hrun := confined_run h index
  refine ⟨fun s => ?_, fun s other hne => ?_, fun {s s'} htopology hrecord => ?_⟩
  · have htopology := hrun.topology s
    unfold apply
    split
    all_goals
      rename_i hcommand
      rw [hcommand] at htopology
    · exact htopology
    · rw [h]
      exact htopology
  · have hothers := hrun.others s hne
    unfold apply
    split
    all_goals
      rename_i hcommand
      rw [hcommand] at hothers
    · exact hothers
    · rw [h, database?_stamp, if_neg hne]
      exact hothers
  · obtain ⟨houtcome, hafter⟩ := hrun.agree htopology hrecord
    unfold apply
    cases hs : s.run index command with
    | mk outcome next =>
        cases hs' : s'.run index command with
        | mk outcome' next' =>
            rw [hs, hs'] at houtcome hafter
            obtain rfl : outcome = outcome' := houtcome
            cases outcome with
            | error e => exact ⟨rfl, hafter⟩
            | ok task =>
                refine ⟨rfl, ?_⟩
                simp only [h, database?_stamp, if_true]
                rw [hafter]

/-- Commands for two databases may be applied in either order, in every state and at any indexes:
each comes to the same outcome or failure, and the states agree on the topology of the cluster and
on all records.  A command that is about a database changes no other record and no topology. -/
theorem commute_of_database_ne {first second : ClusterCommand}
    (hfirst : first.database = some name) (hsecond : second.database = some other)
    (hne : name ≠ other) (s : ClusterState) (i j : Nat) :
    Commute (·.apply i first) (·.apply j second) s ∧
      Commute (onCopy (·.apply i first)) (onCopy (·.apply j second)) s ∧
      Confined name (·.apply i first) := by
  have hi := confined_apply hfirst i
  have hj := confined_apply hsecond j
  exact ⟨hi.commute hj hne s, hi.onCopy.commute hj.onCopy hne s, hi⟩

/-- Two databases on one node, one of them with a hub that nobody was granted access to. -/
def twoDatabases : ClusterState :=
  replay (renamedHub.take 3 ++ [(4, .putDatabase "users" ⟨[⟨"A"⟩]⟩)])

/-- The removal of a grant that nobody holds. -/
def dropNobody : ClusterCommand := .unregisterAccess "orders" "feed" "AB12"

/-- A hub of the other database. -/
def newFeed : ClusterCommand := .defineHub "users" (.new "feed" .hubToSink)

/-- The removal fails, though not without a trace, and the hub is created, in either order. -/
theorem commute_of_database_ne_twoDatabases :
    dropNobody.database = some "orders" ∧ newFeed.database = some "users" ∧ "orders" ≠ "users" ∧
      Commute (·.apply 5 dropNobody) (·.apply 6 newFeed) twoDatabases ∧
      Commute (onCopy (·.apply 5 dropNobody)) (onCopy (·.apply 6 newFeed)) twoDatabases ∧
      Confined "orders" (·.apply 5 dropNobody) ∧
      (twoDatabases.apply 5 dropNobody).1 =
        .error (.notFound "hub 'feed' has no access grant for certificate AB12") ∧
      (twoDatabases.apply 5 dropNobody).2 ≠ twoDatabases ∧
      ((twoDatabases.apply 5 dropNobody).2.apply 6 newFeed).1 = .ok (some ⟨6⟩) := by
  have hremoval : dropNobody.database = some "orders" := rfl
  have hhub : newFeed.database = some "users" := rfl
  have hne : "orders" ≠ "users" := by decide
  obtain ⟨hcommute, hcopies, hconfined⟩ :=
    commute_of_database_ne hremoval hhub hne twoDatabases 5 6
  exact ⟨hremoval, hhub, hne, hcommute, hcopies, hconfined, by decide +kernel, by decide +kernel,
    by decide +kernel⟩

/-! ### The history of one database -/

/-- Whether a command is for a database, or for the whole cluster. -/
def mattersTo (name : String) (command : ClusterCommand) : Bool :=
  command.database.all (· == name)

/-- States that are the same for one database: in its record, and in the topology of the cluster. -/
structure AgreeOn (name : String) (s s' : ClusterState) : Prop where
  topology : s.topology = s'.topology
  record : s.database? name = s'.database? name

variable {s s' : ClusterState}

theorem advance_eq_onCopy (s : ClusterState) (index : Nat) (command : ClusterCommand) :
    s.advance index command = (onCopy (·.apply index command) s).2 := by
  unfold ClusterState.advance onCopy
  split <;> simp [*]

/-- A command for the cluster looks at its topology only, and changes no record. -/
theorem AgreeOn.advance_of_none (h : AgreeOn name s s') (hnone : command.database = none)
    (index : Nat) : AgreeOn name (s.advance index command) (s'.advance index command) := by
  cases command with
  | putClusterTopology topology =>
      simp only [ClusterState.advance, apply, run]
      cases topology.validate with
      | error e => exact h
      | ok _ => exact ⟨rfl, h.record⟩
  | setNodeAlive node alive =>
      simp only [ClusterState.advance, apply, run]
      rw [h.topology]
      cases s'.topology.setAlive? node alive with
      | none => exact h
      | some topology => exact ⟨rfl, h.record⟩
  | _ => cases hnone

theorem AgreeOn.advance (h : AgreeOn name s s') (hmatters : mattersTo name command = true)
    (index : Nat) : AgreeOn name (s.advance index command) (s'.advance index command) := by
  cases hdatabase : command.database with
  | none => exact h.advance_of_none hdatabase index
  | some other =>
      obtain rfl : other = name := by simpa [mattersTo, hdatabase] using hmatters
      have hconfined := (confined_apply hdatabase index).onCopy
      rw [advance_eq_onCopy, advance_eq_onCopy]
      refine ⟨?_, (hconfined.agree h.topology h.record).2⟩
      rw [hconfined.topology, hconfined.topology, h.topology]

/-- A command for another database may be left out. -/
theorem AgreeOn.advance_left (h : AgreeOn name s s') (hother : mattersTo name command = false)
    (index : Nat) : AgreeOn name s (s'.advance index command) := by
  cases hdatabase : command.database with
  | none => simp [mattersTo, hdatabase] at hother
  | some other =>
      have hne : name ≠ other := by
        rintro rfl
        simp [mattersTo, hdatabase] at hother
      have hconfined := (confined_apply hdatabase index).onCopy
      rw [advance_eq_onCopy]
      refine ⟨?_, ?_⟩
      · rw [hconfined.topology, h.topology]
      · rw [hconfined.others _ hne, h.record]

/-- The record of a database is what the commands for it and those for the cluster lead to, whatever
other commands come in between. -/
theorem database?_replay_filter (commands : List (Nat × ClusterCommand)) (name : String) :
    (replay (commands.filter fun c => mattersTo name c.2)).database? name =
      (replay commands).database? name := by
  suffices hagree : ∀ {s s' : ClusterState}, AgreeOn name s s' →
      AgreeOn name
        ((commands.filter fun c => mattersTo name c.2).foldl (fun s c => s.advance c.1 c.2) s)
        (commands.foldl (fun s c => s.advance c.1 c.2) s') from (hagree ⟨rfl, rfl⟩).record
  induction commands with
  | nil => exact fun h => h
  | cons c rest ih =>
      intro s s' h
      cases hmatters : mattersTo name c.2 with
      | true =>
          rw [List.filter_cons, if_pos hmatters]
          exact ih (h.advance hmatters c.1)
      | false =>
          rw [List.filter_cons, if_neg (by simp [hmatters])]
          exact ih (h.advance_left hmatters c.1)

end ClusterState

end HubReplication
