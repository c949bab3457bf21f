/-
**Repeated changes.**

An administrator who does not know what came of a change asks for it again under the same request
id.  The log remembers the request and would answer as before; but a change is checked before it is
proposed, and the state that it is checked against is the one that it led to.  Most checks pass
again.  Three do not: a certificate that was granted access has a grant, a grant that was removed is
gone, and so is a task that was deleted.

Main definitions:

* `Mutation.failsOnceMade` — the changes that fail their own check once they are made.

Main results:

* `Mutation.command_again_iff` — whether a change passes its check once it is made;
* `Mutation.retry_iff` — which repeated changes are answered as before.
-/

import HubReplication.Proofs.Admin.Changes
import HubReplication.Proofs.Cluster.Reachable

set_option relaxedAutoImplicit false
set_option autoImplicit false

namespace HubReplication

/-! ### The record of a database after a command -/

namespace ClusterState

variable {s s' : ClusterState} {index : Nat} {command : ClusterCommand} {name : String}
  {task : Option TaskId}

/-- A command that is an operation on a record: what it was applied to, and what is there
afterwards. -/
theorem operation_of_apply
    {operation : DatabaseRecord → Outcome (Option TaskId × DatabaseRecord)}
    (hrun : s.run index command = s.withRecord name (orUnchanged operation))
    (hdatabase : command.database = some name) (h : s.apply index command = (.ok task, s')) :
    ∃ r r', s.database? name = some r ∧ operation r = .ok (task, r') ∧
      s'.database? name = some { r' with etag := index } := by
  obtain ⟨s'', hwith, rfl⟩ := apply_eq_ok h
  rw [hrun] at hwith
  obtain ⟨r, r', hr, hchange, rfl⟩ := withRecord_eq_ok hwith
  refine ⟨r, r', hr, orUnchanged_eq_ok hchange, ?_⟩
  rw [hdatabase, database?_stamp_putRecord, if_pos rfl]

end ClusterState

/-! ### Checks once a change is made -/

namespace Registry

open ClusterState

variable {c c' : Consensus} {security : ServerSecurity} {index : Nat} {task : Option TaskId}
  {database : String}

/-- A hub that was defined may be defined again. -/
theorem checkHub_again {definition : HubDefinition} (hs : c'.state.WellFormed)
    (hcheck : checkHub ⟨c, security⟩ database definition = .ok ())
    (happly : c.state.apply index (.defineHub database definition) = (.ok task, c'.state)) :
    checkHub ⟨c', security⟩ database definition = .ok () := by
  obtain ⟨r, r', -, hanswer, hr'⟩ := operation_of_apply rfl rfl happly
  obtain ⟨_, hput⟩ := of_map_answer hanswer fun _ => rfl
  have hsound := hs.record hr'
  have hupdate := DatabaseRecord.checkHubUpdate_of_putHub hput hsound.ids_nodup hsound.hubs
  exact checkHub_eq_ok_iff.2 ⟨(checkHub_eq_ok_iff.1 hcheck).1, _, hr', hupdate⟩

/-- A sink that was defined may be defined again. -/
theorem checkSink_again {definition : SinkDefinition}
    (hcheck : checkSink ⟨c, security⟩ database definition = .ok ())
    (happly : c.state.apply index (.defineSink database definition) = (.ok task, c'.state)) :
    checkSink ⟨c', security⟩ database definition = .ok () := by
  obtain ⟨r, r', -, hanswer, hr'⟩ := operation_of_apply rfl rfl happly
  obtain ⟨_, hput⟩ := of_map_answer hanswer fun _ => rfl
  obtain ⟨hvalid, hbundle, -⟩ := checkSink_eq_ok_iff.1 hcheck
  -- Wherever the sink went, the connection strings are as they were.
  obtain ⟨hconnection, ⟨-, rfl⟩ | ⟨position, previous, -, -, -, rfl⟩⟩ :=
    DatabaseRecord.putSink_eq_ok hput
  all_goals exact checkSink_eq_ok_iff.2 ⟨hvalid, hbundle, _, hr', hconnection⟩

/-- An external replication that was defined may be defined again. -/
theorem checkExternal_again {definition : ExternalReplicationDefinition}
    (hcheck : checkExternal ⟨c, security⟩ database definition = .ok ())
    (happly : c.state.apply index (.defineExternal database definition) = (.ok task, c'.state)) :
    checkExternal ⟨c', security⟩ database definition = .ok () := by
  obtain ⟨r, r', -, hanswer, hr'⟩ := operation_of_apply rfl rfl happly
  obtain ⟨_, hput⟩ := of_map_answer hanswer fun _ => rfl
  have hvalid := (checkExternal_eq_ok_iff.1 hcheck).1
  obtain ⟨connection, hconnection, ⟨-, rfl⟩ | ⟨position, previous, -, -, -, rfl⟩⟩ :=
    DatabaseRecord.putExternal_eq_ok hput
  all_goals exact checkExternal_eq_ok_iff.2 ⟨hvalid, _, hr', connection, hconnection⟩

/-- A connection string that was put may be put again. -/
theorem checkConnection_again {connection : ReplicationConnectionString}
    (hcheck : checkConnection ⟨c, security⟩ database connection = .ok ())
    (happly : c.state.apply index (.putConnectionString database connection) =
      (.ok task, c'.state)) :
    checkConnection ⟨c', security⟩ database connection = .ok () := by
  obtain ⟨r, r', -, -, hr'⟩ := operation_of_apply rfl rfl happly
  exact checkConnection_eq_ok_iff.2 ⟨(checkConnection_eq_ok_iff.1 hcheck).1, _, hr'⟩

/-- A task that was switched is still there. -/
theorem requireTask_after_toggleTask {id : TaskId} {disabled : Bool}
    (hcheck : requireTask ⟨c, security⟩ database id = .ok ())
    (happly : c.state.apply index (.toggleTask database id disabled) = (.ok task, c'.state)) :
    requireTask ⟨c', security⟩ database id = .ok () := by
  obtain ⟨r, r', hr, htoggle, hr'⟩ := operation_of_apply rfl rfl happly
  obtain ⟨record, hrecord, hmem⟩ := requireTask_eq_ok_iff.1 hcheck
  obtain rfl : r = record := Option.some.inj (hr.symm.trans hrecord)
  rw [← DatabaseRecord.taskIds_toggleTask (answering_eq_ok htoggle)] at hmem
  exact requireTask_eq_ok_iff.2 ⟨_, hr', hmem⟩

/-- A task that was deleted is there no more. -/
theorem requireTask_after_deleteTask {id : TaskId} (hs : c.state.WellFormed)
    (happly : c.state.apply index (.deleteTask database id) = (.ok task, c'.state)) :
    requireTask ⟨c', security⟩ database id ≠ .ok () := by
  intro hcheck
  obtain ⟨r, r', hr, hanswer, hr'⟩ := operation_of_apply rfl rfl happly
  obtain ⟨_, hdelete⟩ := of_map_answer hanswer fun _ => rfl
  obtain ⟨record, hrecord, hmem⟩ := requireTask_eq_ok_iff.1 hcheck
  obtain rfl := Option.some.inj (hr'.symm.trans hrecord)
  -- No other task had the identity.
  have hnodup := (DatabaseRecord.taskIds_deleteTask hdelete).nodup_iff.1 (hs.record hr).ids_nodup
  exact (List.nodup_cons.1 hnodup).1 hmem

/-- A certificate that was granted access holds a grant, and is not granted another. -/
theorem grantOf_after_registerAccess {name : String} {request : AccessRequest}
    {grant again : HubAccessGrant}
    (hgrant : grantOf ⟨c, security⟩ database name request = .ok grant)
    (happly : c.state.apply index (.registerAccess database grant) = (.ok task, c'.state)) :
    grantOf ⟨c', security⟩ database name request ≠ .ok again := by
  intro hagain
  obtain ⟨r, r', hr, hadd, hr'⟩ := operation_of_apply rfl rfl happly
  replace hadd := answering_eq_ok hadd
  obtain ⟨certificate, record, hub, hparse, hrecord, hhub, hname, hthumbprint, -⟩ :=
    grantOf_eq_ok hgrant
  obtain ⟨certificate', record', hub', hparse', hrecord', hhub', -, -, hfree⟩ :=
    grantOf_eq_ok hagain
  -- The second look finds the certificate and the hub that the first one found.
  obtain rfl : certificate = certificate' := Except.ok.inj (hparse.symm.trans hparse')
  obtain rfl := Option.some.inj (hr'.symm.trans hrecord')
  obtain rfl := Option.some.inj (hr.symm.trans hrecord)
  have hfound := DatabaseRecord.grant?_addGrant hadd
  obtain ⟨-, -, rfl⟩ := addGrant_eq_ok hadd
  obtain rfl : hub = hub' := Option.some.inj (hhub.symm.trans hhub')
  rw [← hname, ← hthumbprint] at hfree
  exact Option.isSome_iff_ne_none.1 hfound hfree

/-- A grant that was removed is gone. -/
theorem checkGrant_after_unregisterAccess {name thumbprint : String} (hs : c.state.WellFormed)
    (happly : c.state.apply index (.unregisterAccess database name thumbprint) =
      (.ok task, c'.state)) :
    checkGrant ⟨c', security⟩ database name thumbprint ≠ .ok () := by
  intro hcheck
  obtain ⟨s'', hrun, hs'⟩ := apply_eq_ok happly
  obtain ⟨r, r', g, hr, hremove, rfl⟩ := removal_of_run hrun
  obtain ⟨record, hub, hrecord, hhub, hsome⟩ := checkGrant_eq_ok_iff.1 hcheck
  obtain rfl : { r' with etag := index } = record := by
    rw [hs', ClusterCommand.database, database?_stamp_putRecord, if_pos rfl] at hrecord
    exact Option.some.inj hrecord
  -- The grant was removed under the name that was asked for, and is looked up under that of the hub.
  have hname : Text.sameName name hub.name = true := by
    rw [Text.sameName_comm]
    exact (mem_of_hub? hhub).2
  have hgone := DatabaseRecord.grant?_removeGrant (hs.record hr).hubs hremove hname
  exact Option.isSome_iff_ne_none.1 hsome hgone

end Registry

/-! ### Repetition -/

namespace Mutation

/-- The changes that fail their own check once they are made. -/
def failsOnceMade : Mutation → Bool
  | .registerAccess _ _ _ | .unregisterAccess _ _ _ | .deleteTask _ _ => true
  | _ => false

variable {c c' : Consensus} {security : ServerSecurity} {m : Mutation} {command : ClusterCommand}
  {index : Nat} {task : Option TaskId}

/-- A change that was made passes its check again, unless it is one of those that do not. -/
theorem command_again_iff (hs : c.state.WellFormed) (hlt : c.state.lastIndex < index)
    (hcommand : m.command ⟨c, security⟩ = .ok command)
    (happly : c.state.apply index command = (.ok task, c'.state)) :
    (∃ again, m.command ⟨c', security⟩ = .ok again) ↔ m.failsOnceMade = false := by
  have hs' : c'.state.WellFormed := hs.change hlt (ClusterState.change_of_apply happly)
  cases m with
  | defineHub database definition =>
      obtain ⟨_, hcheck, rfl⟩ := ClusterState.map_eq_ok hcommand
      exact iff_of_true
        (exists_map_eq_ok_iff.2 ⟨_, Registry.checkHub_again hs' hcheck happly⟩) rfl
  | defineSink database definition =>
      obtain ⟨_, hcheck, rfl⟩ := ClusterState.map_eq_ok hcommand
      exact iff_of_true
        (exists_map_eq_ok_iff.2 ⟨_, Registry.checkSink_again hcheck happly⟩) rfl
  | defineExternal database definition =>
      obtain ⟨_, hcheck, rfl⟩ := ClusterState.map_eq_ok hcommand
      exact iff_of_true
        (exists_map_eq_ok_iff.2 ⟨_, Registry.checkExternal_again hcheck happly⟩) rfl
  | putConnectionString database connection =>
      obtain ⟨_, hcheck, rfl⟩ := ClusterState.map_eq_ok hcommand
      exact iff_of_true
        (exists_map_eq_ok_iff.2 ⟨_, Registry.checkConnection_again hcheck happly⟩) rfl
  | toggleTask database id disabled =>
      obtain ⟨_, hcheck, rfl⟩ := ClusterState.map_eq_ok hcommand
      exact iff_of_true
        (exists_map_eq_ok_iff.2 ⟨_, Registry.requireTask_after_toggleTask hcheck happly⟩) rfl
  | registerAccess database hub request =>
      rw [Mutation.command] at hcommand ⊢
      obtain ⟨grant, hgrant, rfl⟩ := ClusterState.map_eq_ok hcommand
      refine iff_of_false (fun h => ?_) (by simp [failsOnceMade])
      obtain ⟨again, hagain⟩ := exists_map_eq_ok_iff.1 h
      exact Registry.grantOf_after_registerAccess hgrant happly hagain
  | unregisterAccess database hub thumbprint =>
      obtain ⟨_, -, rfl⟩ := ClusterState.map_eq_ok hcommand
      refine iff_of_false (fun h => ?_) (by simp [failsOnceMade])
      obtain ⟨_, hagain⟩ := exists_map_eq_ok_iff.1 h
      exact Registry.checkGrant_after_unregisterAccess hs happly hagain
  | deleteTask database id =>
      obtain ⟨_, -, rfl⟩ := ClusterState.map_eq_ok hcommand
      refine iff_of_false (fun h => ?_) (by simp [failsOnceMade])
      obtain ⟨_, hagain⟩ := exists_map_eq_ok_iff.1 h
      exact Registry.requireTask_after_deleteTask hs happly hagain

/-- A change that is asked for again, under a request that was accepted, leaves the log as it is,
and is answered as before if it passes its check. -/
theorem again_of_proposed {id : String} {proposed : ClusterCommand} {i : Nat} (hc : c.InStep)
    (hproposed : (c.propose id proposed).1.outcome = .ok i)
    (hanswer : m.answer (c.propose id proposed).2.state i = .ok i) :
    (m.run ⟨(c.propose id proposed).2, security⟩ id).log = (c.propose id proposed).2 ∧
      ((m.run ⟨(c.propose id proposed).2, security⟩ id).outcome = .ok i ↔
        ∃ command, m.command ⟨(c.propose id proposed).2, security⟩ = .ok command) := by
  have hmade := m.madeBy_run ⟨(c.propose id proposed).2, security⟩ id
  cases hcommand : m.command ⟨(c.propose id proposed).2, security⟩ with
  | error e =>
      obtain ⟨hlog, houtcome⟩ := hmade.refused hcommand
      exact ⟨hlog, by simp [houtcome]⟩
  | ok command =>
      obtain ⟨hlog, houtcome⟩ := hmade.proposed hcommand
      -- The log answers from its requests, whatever the command is this time.
      rw [Consensus.propose_again hc hproposed command] at hlog houtcome
      exact ⟨hlog, by simp [houtcome, Proposed.outcome, Except.bind, hanswer]⟩

/-- A change that was accepted and is asked for again, under the same request id, leaves the log as
it is.  It is answered as before, unless it was made just then and fails its check once made. -/
theorem retry_iff {c : Consensus} (hc : c.Reachable) (security : ServerSecurity) (m : Mutation)
    (id : String) {i : Nat} (hfirst : (m.run ⟨c, security⟩ id).outcome = .ok i) :
    (m.run ⟨(m.run ⟨c, security⟩ id).log, security⟩ id).log = (m.run ⟨c, security⟩ id).log ∧
      ((m.run ⟨(m.run ⟨c, security⟩ id).log, security⟩ id).outcome = .ok i ↔
        m.failsOnceMade = false ∨ (c.recorded? id).isSome = true) := by
  have hmade := m.madeBy_run ⟨c, security⟩ id
  cases hcommand : m.command ⟨c, security⟩ with
  | error e =>
      -- What is refused before it is proposed is not accepted.
      rw [(hmade.refused hcommand).2] at hfirst
      cases hfirst
  | ok command =>
      obtain ⟨hlog, houtcome⟩ := hmade.proposed hcommand
      rw [houtcome] at hfirst
      obtain ⟨index, hproposed, hanswer⟩ := bind_eq_ok_iff.1 hfirst
      obtain rfl := eq_of_answer hanswer
      rw [hlog]
      obtain ⟨hsame, hagain⟩ := again_of_proposed hc.inStep hproposed hanswer
      refine ⟨hsame, hagain.trans ?_⟩
      obtain ⟨-, -, ⟨hrecorded, hlog⟩ | ⟨hfresh, hindex, -, -, task, happly⟩⟩ :=
        Consensus.propose_eq_ok hc.inStep hproposed
      · -- The request was answered before, so the first call was checked as the second one is.
        simp [hlog, hcommand, hrecorded]
      · -- The first call made the change, so the second one is checked against what came of it.
        have hlt : c.state.lastIndex < i := hindex ▸ Nat.lt_succ_self _
        rw [command_again_iff hc.state.wellFormed hlt hcommand happly]
        simp [hfresh]

/-- A log with a database. -/
def ordersLog : Consensus :=
  ((Consensus.empty.propose "r1" (.putClusterTopology ⟨[⟨⟨"A"⟩, "mem://a", true⟩]⟩)).2.propose "r2"
    (.putDatabase "orders" ⟨[⟨"A"⟩]⟩)).2

theorem ordersLog_reachable : ordersLog.Reachable :=
  (Consensus.Reachable.empty.proposed _ _).proposed _ _

/-- A hub is defined on the database. -/
def defineFeed (log : Consensus) : Changed Nat :=
  (defineHub "orders" (.new "feed" .hubToSink)).run ⟨log, .unsecured⟩ "r3"

/-- The hub is deleted. -/
def deleteFeed (log : Consensus) : Changed Nat :=
  (deleteTask "orders" ⟨3⟩).run ⟨log, .unsecured⟩ "r4"

theorem defineFeed_reachable : (defineFeed ordersLog).log.Reachable :=
  ordersLog_reachable.proposed "r3" (.defineHub "orders" (.new "feed" .hubToSink))

/-- The definition is answered as before when it is repeated; the deletion is not. -/
theorem retry_iff_feed :
    ((defineFeed ordersLog).outcome = .ok 3 ∧
      (defineFeed (defineFeed ordersLog).log).outcome = .ok 3) ∧
    (deleteFeed (defineFeed ordersLog).log).outcome = .ok 4 ∧
      (deleteFeed (deleteFeed (defineFeed ordersLog).log).log).outcome ≠ .ok 4 := by
  have hdefine : (defineFeed ordersLog).outcome = .ok 3 := rfl
  have hdelete : (deleteFeed (defineFeed ordersLog).log).outcome = .ok 4 := rfl
  obtain ⟨-, hdefined⟩ := retry_iff ordersLog_reachable .unsecured
    (.defineHub "orders" (.new "feed" .hubToSink)) "r3" hdefine
  obtain ⟨-, hdeleted⟩ := retry_iff defineFeed_reachable .unsecured
    (.deleteTask "orders" ⟨3⟩) "r4" hdelete
  refine ⟨⟨hdefine, hdefined.2 (.inl rfl)⟩, hdelete, fun hagain => ?_⟩
  rcases hdeleted.1 hagain with h | h <;> cases h

end Mutation

end HubReplication
