/-
**Changes that administrators ask for.**

Whatever the change, it is made in three steps: it is checked against the state as it is, the
command for it is proposed under the request id, and the answer is read off the state that comes of
it.  A change that its check refuses proposes nothing.

Main definitions:

* `Mutation`, `Mutation.run` — the changes there are, and making one;
* `Mutation.command` — the check: the command of a change, when it may be proposed;
* `Mutation.answer` — the answer to a change whose command has an index;
* `MadeBy` — a change made in the three steps.

Main results:

* `Mutation.madeBy_run` — every change is made so;
* `Registry.checkHub_eq_ok_iff`, `checkGrant_eq_ok_iff`, `checkSink_eq_ok_iff`,
  `checkExternal_eq_ok_iff`, `checkConnection_eq_ok_iff`, `requireTask_eq_ok_iff` and
  `Registry.grantOf_eq_ok` — what the checks ask for.
-/

import HubReplication.Admin.Registry
import HubReplication.Proofs.Cluster.Lookup
import HubReplication.Proofs.Cluster.Replay

set_option relaxedAutoImplicit false
set_option autoImplicit false

namespace HubReplication

/-! ### Outcomes -/

section

variable {α β : Type} {o : Outcome α}

theorem bind_eq_ok_iff {f : α → Outcome β} {b : β} :
    (o >>= f) = .ok b ↔ ∃ a, o = .ok a ∧ f a = .ok b := by
  cases o <;> simp [bind, Except.bind]

theorem check_bind_eq_ok_iff {o : Outcome Unit} {f : Unit → Outcome β} {b : β} :
    (o >>= f) = .ok b ↔ o = .ok () ∧ f () = .ok b := by
  cases o <;> simp [bind, Except.bind]

theorem refuse_eq_ok_iff {b : Bool} {e : ReplicationError} :
    (if b then throw e else pure () : Outcome Unit) = .ok () ↔ b = false := by
  cases b <;> simp [throw, throwThe, MonadExceptOf.throw, pure, Except.pure]

theorem error_of_map {f : α → β} {e : ReplicationError} (h : o.map f = .error e) :
    o = .error e := by
  cases o with
  | error e' =>
      cases h
      rfl
  | ok a => cases h

theorem exists_map_eq_ok_iff {f : α → β} : (∃ b, o.map f = .ok b) ↔ ∃ a, o = .ok a := by
  cases o <;> simp [Except.map]

end

/-! ### Changes -/

/-- A change that an administrator asks for. -/
inductive Mutation where
  | defineHub (database : String) (definition : HubDefinition)
  | registerAccess (database hub : String) (request : AccessRequest)
  | unregisterAccess (database hub thumbprint : String)
  | defineSink (database : String) (definition : SinkDefinition)
  | defineExternal (database : String) (definition : ExternalReplicationDefinition)
  | putConnectionString (database : String) (connection : ReplicationConnectionString)
  | toggleTask (database : String) (task : TaskId) (disabled : Bool)
  | deleteTask (database : String) (task : TaskId)

/-- A change that committed a task, as a change that took an index. -/
def Changed.byIndex (c : Changed TaskCommitted) : Changed Nat :=
  ⟨c.outcome.map (·.index), c.log, c.entries⟩

namespace Mutation

/-- Make a change under a request id. -/
def run (m : Mutation) (r : Registry) (id : String) : Changed Nat :=
  match m with
  | .defineHub database definition => (r.defineHub database id definition).byIndex
  | .registerAccess database hub request => r.registerAccess database hub id request
  | .unregisterAccess database hub thumbprint => r.unregisterAccess database hub thumbprint id
  | .defineSink database definition => (r.defineSink database id definition).byIndex
  | .defineExternal database definition => (r.defineExternal database id definition).byIndex
  | .putConnectionString database connection => r.putConnectionString database id connection
  | .toggleTask database task disabled => r.toggleTask database id task disabled
  | .deleteTask database task => r.deleteTask database id task

/-- The command of a change, when its check lets it be proposed. -/
def command (m : Mutation) (r : Registry) : Outcome ClusterCommand :=
  match m with
  | .defineHub database definition =>
    (r.checkHub database definition).map fun _ => .defineHub database definition
  | .registerAccess database hub request =>
    (r.grantOf database hub request).map (.registerAccess database)
  | .unregisterAccess database hub thumbprint =>
    (r.checkGrant database hub thumbprint).map fun _ => .unregisterAccess database hub thumbprint
  | .defineSink database definition =>
    (r.checkSink database definition).map fun _ => .defineSink database definition
  | .defineExternal database definition =>
    (r.checkExternal database definition).map fun _ => .defineExternal database definition
  | .putConnectionString database connection =>
    (r.checkConnection database connection).map fun _ => .putConnectionString database connection
  | .toggleTask database task disabled =>
    (r.requireTask database task).map fun _ => .toggleTask database task disabled
  | .deleteTask database task =>
    (r.requireTask database task).map fun _ => .deleteTask database task

/-- The task that a change defines, as a record has it. -/
def defined? (m : Mutation) : Option (String × (DatabaseRecord → Option TaskId)) :=
  match m with
  | .defineHub database definition =>
    some (database, fun record => (record.hub? definition.name).map (·.taskId))
  | .defineSink database definition =>
    some (database, fun record =>
      (record.sinks.find? fun s => Text.sameName s.name definition.name).map (·.taskId))
  | .defineExternal database definition =>
    some (database, fun record =>
      (record.externals.find? fun e => Text.sameName e.name definition.name).map (·.taskId))
  | _ => none

/-- The answer to a change whose command has an index: the index, once the task that the change
defines was found in the state. -/
def answer (m : Mutation) (state : ClusterState) (index : Nat) : Outcome Nat :=
  match m.defined? with
  | some (database, find) => (Registry.committedTask state database index find).map (·.index)
  | none => .ok index

/-- The answer, if there is one, is the index. -/
theorem eq_of_answer {m : Mutation} {state : ClusterState} {index i : Nat}
    (h : m.answer state index = .ok i) : i = index := by
  unfold answer at h
  split at h
  · unfold Registry.committedTask at h
    split at h
    · cases h
    · split at h <;> cases h
      rfl
  · cases h
    rfl

end Mutation

/-! ### Check, proposal, answer -/

/-- A change is made in three steps: a check that gives its command, the proposal of the command,
and an answer out of the state afterwards. -/
structure MadeBy (r : Registry) (id : String) (check : Outcome ClusterCommand)
    (answer : ClusterState → Nat → Outcome Nat) (change : Changed Nat) : Prop where
  refused : ∀ {e}, check = .error e → change.log = r.log ∧ change.outcome = .error e
  proposed : ∀ {command}, check = .ok command →
    change.log = (r.log.propose id command).2 ∧
      change.outcome =
        (r.log.propose id command).1.outcome.bind (answer (r.log.propose id command).2.state)

section

variable {α : Type} {r : Registry} {id database : String} {command : ClusterCommand} {event : Event}
  {find : DatabaseRecord → Option TaskId}

theorem commit_eq :
    (r.commit id command event).log = (r.log.propose id command).2 ∧
      (r.commit id command event).outcome = (r.log.propose id command).1.outcome.bind .ok := by
  unfold Registry.commit
  split
  rename_i proposed log hpropose
  rw [hpropose]
  split
  · rename_i index hok
    exact ⟨rfl, by rw [hok]; rfl⟩
  · rename_i e herror
    exact ⟨rfl, by rw [herror]; rfl⟩

theorem commitTask_eq :
    (r.commitTask database id command event find).log = (r.log.propose id command).2 ∧
      (r.commitTask database id command event find).outcome =
        (r.log.propose id command).1.outcome.bind fun index =>
          Registry.committedTask (r.log.propose id command).2.state database index find := by
  unfold Registry.commitTask
  split
  rename_i proposed log hpropose
  rw [hpropose]
  split
  · rename_i e herror
    exact ⟨rfl, by rw [herror]; rfl⟩
  · rename_i index hok
    rw [hok]
    split
    · rename_i hcommitted
      exact ⟨rfl, hcommitted.symm⟩
    · rename_i hcommitted
      exact ⟨rfl, hcommitted.symm⟩

/-- A change whose answer is the index of its command. -/
theorem madeBy_commit {check : Outcome α} {command : α → ClusterCommand} {change : Changed Nat}
    (event : Event)
    (hrefused : ∀ e, check = .error e → change = r.rejected e)
    (hproposed : ∀ a, check = .ok a → change = r.commit id (command a) event) :
    MadeBy r id (check.map command) (fun _ => .ok) change := by
  refine ⟨fun h => ?_, fun h => ?_⟩
  · rw [hrefused _ (error_of_map h)]
    exact ⟨rfl, rfl⟩
  · obtain ⟨a, hcheck, rfl⟩ := ClusterState.map_eq_ok h
    rw [hproposed a hcheck]
    exact commit_eq

/-- A change that defines a task, and finds it in the state afterwards. -/
theorem madeBy_commitTask {check : Outcome α} {change : Changed TaskCommitted} (event : Event)
    (hrefused : ∀ e, check = .error e → change = r.rejected e)
    (hproposed : ∀ a, check = .ok a →
      change = r.commitTask database id command event find) :
    MadeBy r id (check.map fun _ => command)
      (fun state index => (Registry.committedTask state database index find).map (·.index))
      change.byIndex := by
  refine ⟨fun h => ?_, fun h => ?_⟩
  · rw [hrefused _ (error_of_map h)]
    exact ⟨rfl, rfl⟩
  · obtain ⟨a, hcheck, rfl⟩ := ClusterState.map_eq_ok h
    rw [hproposed a hcheck]
    refine ⟨commitTask_eq.1, ?_⟩
    simp only [Changed.byIndex, commitTask_eq.2]
    cases (r.log.propose id command).1.outcome <;> rfl

end

/-- Every change is made in the three steps. -/
theorem Mutation.madeBy_run (m : Mutation) (r : Registry) (id : String) :
    MadeBy r id (m.command r) m.answer (m.run r id) := by
  cases m with
  | defineHub database definition =>
      refine madeBy_commitTask .hubDefined (fun _ h => ?_) (fun _ h => ?_) <;>
        simp only [Registry.defineHub, h]
  | registerAccess database hub request =>
      rw [command]
      refine madeBy_commit .accessRegistered (fun _ h => ?_) (fun _ h => ?_) <;>
        simp only [run, Registry.registerAccess, h]
  | unregisterAccess database hub thumbprint =>
      refine madeBy_commit .accessUnregistered (fun _ h => ?_) (fun _ h => ?_) <;>
        simp only [run, Registry.unregisterAccess, h]
  | defineSink database definition =>
      refine madeBy_commitTask .sinkDefined (fun _ h => ?_) (fun _ h => ?_) <;>
        simp only [Registry.defineSink, h]
  | defineExternal database definition =>
      refine madeBy_commitTask .externalReplicationDefined (fun _ h => ?_) (fun _ h => ?_) <;>
        simp only [Registry.defineExternal, h]
  | putConnectionString database connection =>
      refine madeBy_commit .connectionStringDefined (fun _ h => ?_) (fun _ h => ?_) <;>
        simp only [run, Registry.putConnectionString, h]
  | toggleTask database task disabled =>
      refine madeBy_commit .taskToggled (fun _ h => ?_) (fun _ h => ?_) <;>
        simp only [run, Registry.toggleTask, h]
  | deleteTask database task =>
      refine madeBy_commit .taskDeleted (fun _ h => ?_) (fun _ h => ?_) <;>
        simp only [run, Registry.deleteTask, h]

/-! ### Checks -/

namespace Registry

variable {r : Registry} {database : String} {record : DatabaseRecord}

theorem record_eq_ok_iff :
    r.record database = .ok record ↔ r.log.state.database? database = some record := by
  unfold Registry.record
  cases r.log.state.database? database <;> simp

theorem hub_eq_ok_iff {name : String} {found : HubDefinition} :
    hub record name = .ok found ↔ record.hub? name = some found := by
  unfold hub
  cases record.hub? name <;> simp

theorem checkConnectionString_eq_ok_iff {name : String} :
    checkConnectionString record name = .ok () ↔ ∃ c, record.connectionString? name = some c := by
  unfold checkConnectionString
  cases record.connectionString? name <;> simp

/-- A hub is sound for the security of the server, and fits the grants of the one it replaces. -/
theorem checkHub_eq_ok_iff {definition : HubDefinition} :
    r.checkHub database definition = .ok () ↔
      definition.validate r.security = .ok () ∧
        ∃ record, r.log.state.database? database = some record ∧
          record.checkHubUpdate definition = .ok () := by
  rw [checkHub, check_bind_eq_ok_iff]
  simp only [bind_eq_ok_iff, record_eq_ok_iff]

/-- A grant to be removed is there. -/
theorem checkGrant_eq_ok_iff {name thumbprint : String} :
    r.checkGrant database name thumbprint = .ok () ↔
      ∃ record hub, r.log.state.database? database = some record ∧
        record.hub? name = some hub ∧ (record.grant? hub.name thumbprint).isSome = true := by
  simp only [checkGrant, bind_eq_ok_iff, record_eq_ok_iff, hub_eq_ok_iff, refuse_eq_ok_iff,
    exists_and_left, Option.isNone_eq_false_iff]

/-- A sink is sound for the security of the server, its bundle parses, and its connection string is
there. -/
theorem checkSink_eq_ok_iff {definition : SinkDefinition} :
    r.checkSink database definition = .ok () ↔
      definition.validate r.security = .ok () ∧ checkBundle definition.bundle = .ok () ∧
        ∃ record, r.log.state.database? database = some record ∧
          ∃ c, record.connectionString? definition.connectionStringName = some c := by
  rw [checkSink, check_bind_eq_ok_iff, check_bind_eq_ok_iff]
  simp only [bind_eq_ok_iff, record_eq_ok_iff, checkConnectionString_eq_ok_iff]

/-- An external replication is sound, and its connection string is there. -/
theorem checkExternal_eq_ok_iff {definition : ExternalReplicationDefinition} :
    r.checkExternal database definition = .ok () ↔
      definition.validate = .ok () ∧
        ∃ record, r.log.state.database? database = some record ∧
          ∃ c, record.connectionString? definition.connectionStringName = some c := by
  rw [checkExternal, check_bind_eq_ok_iff]
  simp only [bind_eq_ok_iff, record_eq_ok_iff, checkConnectionString_eq_ok_iff]

/-- A connection string is sound, and its database is there. -/
theorem checkConnection_eq_ok_iff {connection : ReplicationConnectionString} :
    r.checkConnection database connection = .ok () ↔
      connection.validate = .ok () ∧ ∃ record, r.log.state.database? database = some record := by
  rw [checkConnection, check_bind_eq_ok_iff]
  simp [bind_eq_ok_iff, record_eq_ok_iff, pure, Except.pure]

/-- A task is there. -/
theorem requireTask_eq_ok_iff {task : TaskId} :
    r.requireTask database task = .ok () ↔
      ∃ record, r.log.state.database? database = some record ∧ task ∈ record.taskIds := by
  simp only [requireTask, bind_eq_ok_iff, record_eq_ok_iff, refuse_eq_ok_iff,
    Option.isNone_eq_false_iff, DatabaseRecord.isSome_task?_iff]

/-- A grant that may be proposed is for a hub there is and for the certificate of the request, which
has no grant on the hub yet. -/
theorem grantOf_eq_ok {name : String} {request : AccessRequest} {grant : HubAccessGrant}
    (h : r.grantOf database name request = .ok grant) :
    ∃ certificate record hub, Certificate.parse request.certificate = .ok certificate ∧
      r.log.state.database? database = some record ∧ record.hub? name = some hub ∧
      grant.hubName = hub.name ∧ grant.certificateThumbprint = certificate.info.thumbprint ∧
      record.grant? hub.name certificate.info.thumbprint = none := by
  -- Three look-ups come first, then three refusals.
  simp only [grantOf, bind_eq_ok_iff, record_eq_ok_iff, hub_eq_ok_iff] at h
  obtain ⟨certificate, hparse, record, hrecord, hub, hhub, h⟩ := h
  refine ⟨certificate, record, hub, hparse, hrecord, hhub, ?_⟩
  split at h
  · cases h
  · rw [check_bind_eq_ok_iff] at h
    obtain ⟨-, h⟩ := h
    split at h
    · cases h
    · rename_i hfree
      cases h
      exact ⟨rfl, rfl, by simpa using hfree⟩

end Registry

end HubReplication
