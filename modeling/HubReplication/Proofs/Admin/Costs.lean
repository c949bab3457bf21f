/-
**What a mistake costs.**

A change is checked against the state before it is proposed, so that a mistake of the administrator
takes no index of the log.  The check and the command ask for the same things, with one exception:
where a definition may be placed among the tasks of its kind is asked by the command alone.  A
definition under the identity of a task that is not there, or under the name of another task, passes
the check, is proposed, and takes an index before it is refused.

Main definitions:

* `ErrorKind.isMistake` — the failures that tell an administrator of a mistake;
* `Misplaced`, `Mutation.Misplaced` — a definition that has no place among the tasks of its kind;
* `RefusedIf` — an outcome that is a mistake just where something holds.

Main results:

* `RefusedIf.place` — placing a definition, whatever the kind of the task;
* `Mutation.refusedIf_apply` — what passes its check is refused by its command where it is
  misplaced, and nowhere else;
* `Mutation.answer_of_apply` — what its command accepts is found in the state afterwards;
* `Mutation.mistakes_free_iff` — which mistakes leave the state of the log as it is.
-/

import HubReplication.Proofs.Admin.Changes
import HubReplication.Proofs.Admin.Retries
import HubReplication.Proofs.Cluster.Log

set_option relaxedAutoImplicit false
set_option autoImplicit false

namespace HubReplication

/-- The kinds of failure that tell an administrator of a mistake. -/
def ErrorKind.isMistake : ErrorKind → Bool
  | .invalidConfiguration | .notFound | .duplicateGrant => true
  | _ => false

/-- An outcome that is a mistake where something holds, and a success where it does not. -/
structure RefusedIf {α : Type} (p : Prop) (o : Outcome α) : Prop where
  refused : p → ∃ e, o = .error e ∧ e.kind.isMistake = true
  accepted : ¬p → ∃ a, o = .ok a

namespace RefusedIf

variable {α β : Type} {p : Prop} {o : Outcome α}

theorem of_ok (h : ∃ a, o = .ok a) : RefusedIf False o := ⟨False.elim, fun _ => h⟩

theorem of_error {e : ReplicationError} (hp : p) (he : e.kind.isMistake = true) :
    RefusedIf p (.error e : Outcome α) :=
  ⟨fun _ => ⟨e, rfl, he⟩, fun h => absurd hp h⟩

theorem ite {c : Prop} [Decidable c] {e : ReplicationError} (hp : p ↔ c)
    (he : e.kind.isMistake = true) (ho : ¬c → ∃ a, o = .ok a) :
    RefusedIf p (if c then .error e else o) := by
  split
  · rename_i hc
    exact of_error (hp.2 hc) he
  · rename_i hc
    exact ⟨fun h => absurd (hp.1 h) hc, fun _ => ho hc⟩

theorem map (h : RefusedIf p o) (f : α → β) : RefusedIf p (o.map f) := by
  constructor
  · intro hp
    obtain ⟨e, rfl, he⟩ := h.refused hp
    exact ⟨e, rfl, he⟩
  · intro hp
    obtain ⟨a, rfl⟩ := h.accepted hp
    exact ⟨f a, rfl⟩

end RefusedIf

/-! ### Places -/

section Places

variable {α β : Type} {name : α → String} {id : α → TaskId} {l : List α} {a : α}

/-- A definition that has no place among the tasks of its kind: none of them has the identity it
carries, or another one has its name, case aside. -/
def Misplaced (name : α → String) (id : α → TaskId) (l : List α) (a : α) : Prop :=
  ((id a).isAssigned = true ∧ ∀ b ∈ l, id b ≠ id a) ∨
    ∃ b ∈ l, Text.sameName (name b) (name a) = true ∧ id b ≠ id a

/-- The name of the definition stands at another position just where another task has it. -/
theorem clash_iff (hnames : NamesApart name l) (hids : (l.map id).Nodup) {position : Nat}
    (hposition : l.findIdx? (id · == id a) = some position) :
    (l.findIdx? fun b => Text.sameName (name b) (name a)).any (· != position) = true ↔
      ∃ b ∈ l, Text.sameName (name b) (name a) = true ∧ id b ≠ id a := by
  obtain ⟨hlt, hid, -⟩ := List.findIdx?_eq_some_iff_getElem.1 hposition
  have hid : id l[position] = id a := by simpa using hid
  constructor
  · intro hclash
    obtain ⟨other, hother, hne⟩ := (Option.any_eq_true _ _).1 hclash
    obtain ⟨hlt', hsame, -⟩ := List.findIdx?_eq_some_iff_getElem.1 hother
    refine ⟨l[other], List.getElem_mem hlt', hsame, fun heq => ?_⟩
    -- Two positions of one identity are one position.
    have hmap : (l.map id).get ⟨other, by simpa using hlt'⟩ =
        (l.map id).get ⟨position, by simpa using hlt⟩ := by
      simp [heq, hid]
    have hposition : other = position := by simpa using (List.Nodup.get_inj_iff hids).1 hmap
    simp [hposition] at hne
  · rintro ⟨b, hb, hsame, hne⟩
    cases hclash : l.findIdx? fun b => Text.sameName (name b) (name a) with
    | none => simp [List.findIdx?_eq_none_iff.1 hclash b hb] at hsame
    | some other =>
        obtain ⟨hlt', hsame', -⟩ := List.findIdx?_eq_some_iff_getElem.1 hclash
        obtain rfl : l[other] = b := hnames.eq_of_sameName (List.getElem_mem hlt') hb
          (Text.sameName_trans hsame' (Text.sameName_comm _ _ ▸ hsame))
        simp only [Option.any_some, bne_iff_ne, ne_eq]
        rintro rfl
        exact hne hid

/-- Placing a definition among the tasks of its kind: in the place of the one of its identity, or
as a new one. -/
theorem RefusedIf.place (hnames : NamesApart name l) (hids : (l.map id).Nodup)
    (hassigned : ∀ b ∈ l, (id b).isAssigned = true) {missing taken : ReplicationError}
    (hmissing : missing.kind.isMistake = true) (htaken : taken.kind.isMistake = true)
    {replace : Nat → Outcome β} {added : β}
    (hreplace : ∀ position, l.findIdx? (id · == id a) = some position →
      ∃ b, replace position = .ok b) :
    RefusedIf (Misplaced name id l a)
      (if (id a).isAssigned then
        match l.findIdx? (id · == id a) with
        | none => .error missing
        | some position =>
          if (l.findIdx? fun b => Text.sameName (name b) (name a)).any (· != position) then
            .error taken
          else replace position
      else if (l.findIdx? fun b => Text.sameName (name b) (name a)).isSome then .error taken
      else .ok added) := by
  by_cases hid : (id a).isAssigned = true
  · rw [if_pos hid]
    cases hposition : l.findIdx? (id · == id a) with
    | none =>
        have habsent : ∀ b ∈ l, id b ≠ id a := by
          simpa using List.findIdx?_eq_none_iff.1 hposition
        exact .of_error (.inl ⟨hid, habsent⟩) hmissing
    | some position =>
        obtain ⟨hlt, hfound, -⟩ := List.findIdx?_eq_some_iff_getElem.1 hposition
        have hthere : ¬∀ b ∈ l, id b ≠ id a := fun h =>
          h _ (List.getElem_mem hlt) (by simpa using hfound)
        exact .ite ((or_iff_right fun h => hthere h.2).trans (clash_iff hnames hids hposition).symm)
          htaken fun _ => hreplace position hposition
  · rw [if_neg hid]
    refine .ite ((or_iff_right fun h => hid h.1).trans ?_) htaken fun _ => ⟨added, rfl⟩
    -- A task has an identity, so it is never that of a definition without one.
    rw [List.findIdx?_isSome, List.any_eq_true]
    exact exists_congr fun b => and_congr_right fun hb =>
      and_iff_left fun heq => hid (heq ▸ hassigned b hb)

end Places

/-! ### What a record refuses -/

namespace ClusterState.RecordSound

variable {r : DatabaseRecord} {last : Nat} {database : String}

/-- The tasks of one kind, of a sound record: no two have one identity, and all have one. -/
theorem ids_of_subset (hr : RecordSound last database r) {α : Type} {id : α → TaskId} {l : List α}
    (hl : (l.map id).Sublist r.taskIds) :
    (l.map id).Nodup ∧ ∀ b ∈ l, (id b).isAssigned = true := by
  refine ⟨hr.ids_nodup.sublist hl, fun b hb => ?_⟩
  have hpos := (hr.ids_range (hl.subset (List.mem_map_of_mem hb))).1
  simpa [TaskId.isAssigned] using Nat.ne_of_gt hpos

theorem hub_ids (hr : RecordSound last database r) :
    (r.hubs.map (·.taskId)).Nodup ∧ ∀ h ∈ r.hubs, h.taskId.isAssigned = true := by
  refine hr.ids_of_subset ?_
  rw [DatabaseRecord.taskIds_eq, List.append_assoc]
  exact List.sublist_append_left _ _

theorem sink_ids (hr : RecordSound last database r) :
    (r.sinks.map (·.taskId)).Nodup ∧ ∀ s ∈ r.sinks, s.taskId.isAssigned = true := by
  refine hr.ids_of_subset ?_
  rw [DatabaseRecord.taskIds_eq]
  exact (List.sublist_append_right _ _).trans (List.sublist_append_left _ _)

theorem external_ids (hr : RecordSound last database r) :
    (r.externals.map (·.taskId)).Nodup ∧ ∀ e ∈ r.externals, e.taskId.isAssigned = true := by
  refine hr.ids_of_subset ?_
  rw [DatabaseRecord.taskIds_eq]
  exact List.sublist_append_right _ _

end ClusterState.RecordSound

namespace DatabaseRecord

variable {r : DatabaseRecord} {last index : Nat} {database : String} {id : TaskId}

theorem putHub_refusedIf (hr : ClusterState.RecordSound last database r)
    {definition : HubDefinition} (hshape : definition.validateShape = .ok ())
    (hupdate : r.checkHubUpdate definition = .ok ()) :
    RefusedIf (Misplaced (·.name) (·.taskId) r.hubs definition) (r.putHub definition index) := by
  rw [putHub, hshape, hupdate]
  exact .place hr.hubs.names hr.hub_ids.1 hr.hub_ids.2 rfl rfl fun position hposition => by
    obtain ⟨previous, hprevious, -⟩ := getElem?_of_findIdx? hposition
    exact ⟨_, by rw [hprevious]⟩

theorem putSink_refusedIf (hr : ClusterState.RecordSound last database r)
    {definition : SinkDefinition} {c : ReplicationConnectionString}
    (hconnection : r.connectionString? definition.connectionStringName = some c) :
    RefusedIf (Misplaced (·.name) (·.taskId) r.sinks definition) (r.putSink definition index) := by
  rw [putSink, hconnection]
  refine RefusedIf.place (a := { definition with url := none }) hr.dialers.sink_names
    hr.sink_ids.1 hr.sink_ids.2 ?_ ?_ fun position _ => ⟨_, rfl⟩
  · rfl
  · rfl

theorem putExternal_refusedIf (hr : ClusterState.RecordSound last database r)
    {definition : ExternalReplicationDefinition} {c : ReplicationConnectionString}
    (hconnection : r.connectionString? definition.connectionStringName = some c) :
    RefusedIf (Misplaced (·.name) (·.taskId) r.externals definition)
      (r.putExternal definition index) := by
  rw [putExternal, hconnection]
  refine RefusedIf.place (a := { definition with database := c.database })
    hr.dialers.external_names hr.external_ids.1 hr.external_ids.2 ?_ ?_ fun position _ => ⟨_, rfl⟩
  · rfl
  · rfl

theorem exists_mem_of_putHub {d : HubDefinition} {r' : DatabaseRecord}
    (h : r.putHub d index = .ok (id, r')) : ∃ hub ∈ r'.hubs, hub.name = d.name := by
  obtain ⟨-, ⟨-, -, rfl⟩ | ⟨-, position, previous, hget, -, -, -, rfl⟩⟩ := putHub_eq_ok h
  · exact ⟨_, List.mem_append_right _ List.mem_cons_self, rfl⟩
  · exact ⟨d, List.mem_set (List.getElem?_eq_some_iff.1 hget).1 _, rfl⟩

theorem exists_mem_of_putSink {d : SinkDefinition} {r' : DatabaseRecord}
    (h : r.putSink d index = .ok (id, r')) : ∃ s ∈ r'.sinks, s.name = d.name := by
  obtain ⟨-, ⟨-, rfl⟩ | ⟨position, previous, hget, -, -, rfl⟩⟩ := putSink_eq_ok h
  · exact ⟨_, List.mem_append_right _ List.mem_cons_self, rfl⟩
  · exact ⟨_, List.mem_set (List.getElem?_eq_some_iff.1 hget).1 _, rfl⟩

theorem exists_mem_of_putExternal {d : ExternalReplicationDefinition} {r' : DatabaseRecord}
    (h : r.putExternal d index = .ok (id, r')) : ∃ e ∈ r'.externals, e.name = d.name := by
  obtain ⟨c, -, ⟨-, rfl⟩ | ⟨position, previous, hget, -, -, rfl⟩⟩ := putExternal_eq_ok h
  · exact ⟨_, List.mem_append_right _ List.mem_cons_self, rfl⟩
  · exact ⟨_, List.mem_set (List.getElem?_eq_some_iff.1 hget).1 _, rfl⟩

/-- A grant fits a hub there is, and its certificate has none on it. -/
theorem exists_addGrant {g : HubAccessGrant} {hub : HubDefinition}
    (hhub : r.hub? g.hubName = some hub) (hlegacy : hub.hasLegacyCertificates = false)
    (hvalid : g.validate hub = .ok ()) (hfree : r.grant? g.hubName g.certificateThumbprint = none) :
    ∃ r', r.addGrant g = .ok r' := by
  simp [addGrant, hhub, hlegacy, hvalid, hfree]

theorem exists_removeGrant {name thumbprint : String} {hub : HubDefinition}
    (hhub : r.hub? name = some hub) (hfound : (r.grant? hub.name thumbprint).isSome = true) :
    ∃ g, (r.removeGrant name thumbprint).1 = .ok g := by
  obtain ⟨g, hg⟩ := Option.isSome_iff_exists.1 hfound
  have hasked : r.grant? name thumbprint = some g := by
    rw [grant?, grants, ← grantKey_eq_iff.2 (mem_of_hub? hhub).2]
    exact hg
  exact ⟨g, by simp [removeGrant, hhub, hasked]⟩

theorem changeFirst_eq_none_iff {α : Type} {p : α → Bool} {f : α → α} {l : List α} :
    changeFirst p f l = none ↔ ∀ a ∈ l, p a = false := by
  induction l with
  | nil => simp [changeFirst]
  | cons a rest ih =>
      rw [changeFirst]
      cases ha : p a <;> simp [ha, ih]

theorem not_mem_taskIds (hhubs : ∀ h ∈ r.hubs, h.taskId ≠ id) (hsinks : ∀ s ∈ r.sinks, s.taskId ≠ id)
    (hexternals : ∀ e ∈ r.externals, e.taskId ≠ id) : id ∉ r.taskIds := by
  simp only [taskIds_eq, List.mem_append, List.mem_map, not_or]
  exact ⟨⟨fun ⟨h, hmem, heq⟩ => hhubs h hmem heq, fun ⟨s, hmem, heq⟩ => hsinks s hmem heq⟩,
    fun ⟨e, hmem, heq⟩ => hexternals e hmem heq⟩

theorem exists_toggleTask (hid : id ∈ r.taskIds) (disabled : Bool) :
    ∃ r', r.toggleTask id disabled = .ok r' := by
  unfold toggleTask
  split
  · exact ⟨_, rfl⟩
  · rename_i hhubs
    split
    · exact ⟨_, rfl⟩
    · rename_i hsinks
      split
      · exact ⟨_, rfl⟩
      · rename_i hexternals
        simp only [changeFirst_eq_none_iff, beq_eq_false_iff_ne] at hhubs hsinks hexternals
        exact absurd hid (not_mem_taskIds hhubs hsinks hexternals)

theorem exists_deleteTask (hid : id ∈ r.taskIds) : ∃ p, r.deleteTask id = .ok p := by
  unfold deleteTask
  split
  · exact ⟨_, rfl⟩
  · rename_i hhubs
    split
    · exact ⟨_, rfl⟩
    · rename_i hsinks
      split
      · exact ⟨_, rfl⟩
      · rename_i hexternals
        simp only [List.find?_eq_none, beq_iff_eq] at hhubs hsinks hexternals
        exact absurd hid (not_mem_taskIds hhubs hsinks hexternals)

end DatabaseRecord

/-! ### Checks and commands -/

theorem HubDefinition.validateShape_of_validate {h : HubDefinition} {security : ServerSecurity}
    (hvalid : h.validate security = .ok ()) : h.validateShape = .ok () := by
  unfold validate at hvalid
  split at hvalid
  · cases hvalid
  · rename_i hshape
    exact hshape

namespace Registry

variable {r : Registry} {database : String}

/-- A grant that may be proposed is one that the hub takes. -/
theorem exists_addGrant_of_grantOf (hs : r.log.state.WellFormed) {name : String}
    {request : AccessRequest} {grant : HubAccessGrant}
    (h : r.grantOf database name request = .ok grant) :
    ∃ record, r.log.state.database? database = some record ∧
      ∃ record', record.addGrant grant = .ok record' := by
  simp only [grantOf, bind_eq_ok_iff, record_eq_ok_iff, hub_eq_ok_iff] at h
  obtain ⟨certificate, -, record, hrecord, hub, hhub, h⟩ := h
  -- The hub is looked up by the name that was asked for, and then by its own.
  have hown : record.hub? hub.name = some hub :=
    (hs.record hrecord).hubs.hub?_eq_some_iff.2 ⟨(mem_of_hub? hhub).1, Text.sameName_self _⟩
  refine ⟨record, hrecord, ?_⟩
  split at h
  · cases h
  · rename_i hlegacy
    rw [check_bind_eq_ok_iff] at h
    obtain ⟨hvalid, h⟩ := h
    split at h
    · cases h
    · rename_i hfree
      cases h
      exact DatabaseRecord.exists_addGrant hown (by simpa using hlegacy) hvalid (by simpa using hfree)

end Registry

namespace ClusterState

variable {s : ClusterState} {index : Nat} {command : ClusterCommand} {name : String}
  {r : DatabaseRecord} {p : Prop}

theorem RefusedIf.apply (h : RefusedIf p (s.run index command).1) :
    RefusedIf p (s.apply index command).1 := by
  unfold ClusterState.apply
  constructor
  · intro hp
    obtain ⟨e, he, hkind⟩ := h.refused hp
    split
    · rename_i hrun
      rw [hrun] at he
      exact ⟨e, he, hkind⟩
    · rename_i hrun
      rw [hrun] at he
      cases he
  · intro hp
    obtain ⟨task, htask⟩ := h.accepted hp
    split
    · rename_i hrun
      rw [hrun] at htask
      cases htask
    · exact ⟨_, rfl⟩

/-- An operation on the record of a database, as a command. -/
theorem refusedIf_withRecord {operation : DatabaseRecord → Outcome (Option TaskId × DatabaseRecord)}
    (hrun : s.run index command = s.withRecord name (orUnchanged operation))
    (hr : s.database? name = some r) (h : RefusedIf p (operation r)) :
    RefusedIf p (s.apply index command).1 := by
  refine RefusedIf.apply ?_
  have houtcome : (s.run index command).1 = (operation r).map (·.1) := by
    simp only [hrun, withRecord, hr, orUnchanged]
    cases operation r <;> rfl
  rw [houtcome]
  exact h.map _

end ClusterState

namespace Mutation

/-- A change that defines a task where it has no place. -/
def Misplaced (m : Mutation) (s : ClusterState) : Prop :=
  match m with
  | .defineHub database definition =>
    ∃ r, s.database? database = some r ∧
      HubReplication.Misplaced (·.name) (·.taskId) r.hubs definition
  | .defineSink database definition =>
    ∃ r, s.database? database = some r ∧
      HubReplication.Misplaced (·.name) (·.taskId) r.sinks definition
  | .defineExternal database definition =>
    ∃ r, s.database? database = some r ∧
      HubReplication.Misplaced (·.name) (·.taskId) r.externals definition
  | _ => False

variable {c : Consensus} {security : ServerSecurity} {m : Mutation} {command : ClusterCommand}

theorem misplaced_iff {database : String} {r : DatabaseRecord} {p : DatabaseRecord → Prop}
    {s : ClusterState} (hr : s.database? database = some r) :
    (∃ r, s.database? database = some r ∧ p r) ↔ p r := by
  rw [hr]
  simp

/-- What passes its check is refused by its command where it is misplaced, and nowhere else. -/
theorem refusedIf_apply (hs : c.state.WellFormed)
    (hcommand : m.command ⟨c, security⟩ = .ok command) (index : Nat) :
    RefusedIf (m.Misplaced c.state) (c.state.apply index command).1 := by
  cases m with
  | defineHub database definition =>
      obtain ⟨_, hcheck, rfl⟩ := ClusterState.map_eq_ok hcommand
      obtain ⟨hvalid, r, hr, hupdate⟩ := Registry.checkHub_eq_ok_iff.1 hcheck
      rw [Misplaced, misplaced_iff hr]
      have hshape := HubDefinition.validateShape_of_validate hvalid
      exact ClusterState.refusedIf_withRecord rfl hr
        ((DatabaseRecord.putHub_refusedIf (hs.record hr) hshape hupdate).map _)
  | defineSink database definition =>
      obtain ⟨_, hcheck, rfl⟩ := ClusterState.map_eq_ok hcommand
      obtain ⟨-, -, r, hr, connection, hconnection⟩ := Registry.checkSink_eq_ok_iff.1 hcheck
      rw [Misplaced, misplaced_iff hr]
      exact ClusterState.refusedIf_withRecord rfl hr
        ((DatabaseRecord.putSink_refusedIf (hs.record hr) hconnection).map _)
  | defineExternal database definition =>
      obtain ⟨_, hcheck, rfl⟩ := ClusterState.map_eq_ok hcommand
      obtain ⟨-, r, hr, connection, hconnection⟩ := Registry.checkExternal_eq_ok_iff.1 hcheck
      rw [Misplaced, misplaced_iff hr]
      exact ClusterState.refusedIf_withRecord rfl hr
        ((DatabaseRecord.putExternal_refusedIf (hs.record hr) hconnection).map _)
  | registerAccess database hub request =>
      rw [Mutation.command] at hcommand
      obtain ⟨grant, hgrant, rfl⟩ := ClusterState.map_eq_ok hcommand
      obtain ⟨r, hr, r', hadd⟩ := Registry.exists_addGrant_of_grantOf hs hgrant
      refine ClusterState.refusedIf_withRecord rfl hr (.of_ok ⟨(none, r'), ?_⟩)
      rw [hadd]
      rfl
  | unregisterAccess database hub thumbprint =>
      obtain ⟨_, hcheck, rfl⟩ := ClusterState.map_eq_ok hcommand
      obtain ⟨r, definition, hr, hhub, hfound⟩ := Registry.checkGrant_eq_ok_iff.1 hcheck
      obtain ⟨g, hg⟩ := DatabaseRecord.exists_removeGrant hhub hfound
      refine ClusterState.RefusedIf.apply (.of_ok ⟨none, ?_⟩)
      simp only [ClusterState.run, ClusterState.withRecord, hr, hg]
      rfl
  | putConnectionString database connection =>
      obtain ⟨_, hcheck, rfl⟩ := ClusterState.map_eq_ok hcommand
      obtain ⟨hvalid, r, hr⟩ := Registry.checkConnection_eq_ok_iff.1 hcheck
      refine ClusterState.refusedIf_withRecord rfl hr (.of_ok ?_)
      rw [DatabaseRecord.putConnectionString, hvalid]
      exact ⟨_, rfl⟩
  | toggleTask database id disabled =>
      obtain ⟨_, hcheck, rfl⟩ := ClusterState.map_eq_ok hcommand
      obtain ⟨r, hr, hid⟩ := Registry.requireTask_eq_ok_iff.1 hcheck
      obtain ⟨r', htoggle⟩ := DatabaseRecord.exists_toggleTask hid disabled
      refine ClusterState.refusedIf_withRecord rfl hr (.of_ok ⟨(some id, r'), ?_⟩)
      rw [htoggle]
      rfl
  | deleteTask database id =>
      obtain ⟨_, hcheck, rfl⟩ := ClusterState.map_eq_ok hcommand
      obtain ⟨r, hr, hid⟩ := Registry.requireTask_eq_ok_iff.1 hcheck
      obtain ⟨⟨task, r'⟩, hdelete⟩ := DatabaseRecord.exists_deleteTask hid
      refine ClusterState.refusedIf_withRecord rfl hr (.of_ok ⟨(some id, r'), ?_⟩)
      rw [hdelete]
      rfl

/-! ### Answers -/

/-- A definition that is in the record under its name is found there. -/
theorem answer_of_mem {α : Type} {name : α → String} {taskId : α → TaskId}
    {tasks : DatabaseRecord → List α} {s : ClusterState} {index : Nat} {database asked : String}
    {r : DatabaseRecord}
    (hdefined : m.defined? = some (database, fun r =>
      ((tasks r).find? fun a => Text.sameName (name a) asked).map taskId))
    (hr : s.database? database = some r) (hmem : ∃ a ∈ tasks r, name a = asked) :
    m.answer s index = .ok index := by
  have hfound : (((tasks r).find? fun a => Text.sameName (name a) asked).map taskId).isSome =
      true := by
    obtain ⟨a, ha, rfl⟩ := hmem
    rw [Option.isSome_map, List.find?_isSome]
    exact ⟨a, ha, Text.sameName_self _⟩
  obtain ⟨id, hid⟩ := Option.isSome_iff_exists.1 hfound
  simp only [answer, hdefined, Registry.committedTask, hr, hid]
  rfl

/-- What its command accepts is found in the state afterwards. -/
theorem answer_of_apply {index : Nat} {task : Option TaskId} {s' : ClusterState}
    (hcommand : m.command ⟨c, security⟩ = .ok command)
    (happly : c.state.apply index command = (.ok task, s')) : m.answer s' index = .ok index := by
  cases m with
  | defineHub database definition =>
      obtain ⟨_, -, rfl⟩ := ClusterState.map_eq_ok hcommand
      obtain ⟨r, r', -, hanswer, hr'⟩ := ClusterState.operation_of_apply rfl rfl happly
      obtain ⟨_, hput⟩ := ClusterState.of_map_answer hanswer fun _ => rfl
      have hmem := DatabaseRecord.exists_mem_of_putHub hput
      exact answer_of_mem rfl hr' hmem
  | defineSink database definition =>
      obtain ⟨_, -, rfl⟩ := ClusterState.map_eq_ok hcommand
      obtain ⟨r, r', -, hanswer, hr'⟩ := ClusterState.operation_of_apply rfl rfl happly
      obtain ⟨_, hput⟩ := ClusterState.of_map_answer hanswer fun _ => rfl
      have hmem := DatabaseRecord.exists_mem_of_putSink hput
      exact answer_of_mem rfl hr' hmem
  | defineExternal database definition =>
      obtain ⟨_, -, rfl⟩ := ClusterState.map_eq_ok hcommand
      obtain ⟨r, r', -, hanswer, hr'⟩ := ClusterState.operation_of_apply rfl rfl happly
      obtain ⟨_, hput⟩ := ClusterState.of_map_answer hanswer fun _ => rfl
      have hmem := DatabaseRecord.exists_mem_of_putExternal hput
      exact answer_of_mem rfl hr' hmem
  | registerAccess | unregisterAccess | putConnectionString | toggleTask | deleteTask => rfl

end Mutation

/-! ### Costs -/

namespace Consensus

variable {c : Consensus} {id : String}

theorem propose_of_lost (hid : Text.isBlankText id = false) (hlost : c.failNext ≠ 0)
    (command : ClusterCommand) :
    c.propose id command = (.lost, { c with failNext := c.failNext - 1 }) := by
  rw [propose, if_neg (by simp [hid]), if_pos (Nat.pos_of_ne_zero hlost)]

/-- A new request, while there is a leader, is one for the next index. -/
theorem propose_of_fresh (hid : Text.isBlankText id = false) (hready : c.failNext = 0)
    (hfresh : c.recorded? id = none) (command : ClusterCommand) :
    (c.propose id command).1 = (c.commit command).1 ∧
      (c.propose id command).2.state = (c.commit command).2.state := by
  rw [propose, if_neg (by simp [hid]), if_neg (by omega), hfresh]
  exact ⟨rfl, rfl⟩

end Consensus

namespace Mutation

variable {c : Consensus} {security : ServerSecurity} {m : Mutation} {command : ClusterCommand}
  {id : String}

/-- A misplaced definition that passes its check takes an index, and that is all it changes. -/
theorem run_of_misplaced (hc : c.Reachable) (hid : Text.isBlankText id = false)
    (hfresh : c.recorded? id = none) (hready : c.failNext = 0)
    (hcommand : m.command ⟨c, security⟩ = .ok command) (hmisplaced : m.Misplaced c.state) :
    (m.run ⟨c, security⟩ id).log.state = { c.state with lastIndex := c.state.lastIndex + 1 } ∧
      ∃ e, (m.run ⟨c, security⟩ id).outcome = .error e ∧ e.kind.isMistake = true := by
  obtain ⟨hlog, houtcome⟩ := (m.madeBy_run ⟨c, security⟩ id).proposed hcommand
  obtain ⟨hproposed, hstate⟩ := Consensus.propose_of_fresh hid hready hfresh command
  obtain ⟨e, he, hkind⟩ :=
    (refusedIf_apply hc.state.wellFormed hcommand (c.state.lastIndex + 1)).refused hmisplaced
  have happly : c.state.apply (c.state.lastIndex + 1) command =
      (.error e, (c.state.apply (c.state.lastIndex + 1) command).2) := Prod.ext he rfl
  rw [Consensus.commit_of_error rfl happly] at hproposed hstate
  rw [hlog, houtcome, hproposed]
  exact ⟨hstate, e, rfl, hkind⟩

/-- Any other change that passes its check is no mistake. -/
theorem run_of_placed (hc : c.Reachable) (hid : Text.isBlankText id = false)
    (hfresh : c.recorded? id = none) (hcommand : m.command ⟨c, security⟩ = .ok command)
    (hplaced : c.failNext = 0 → ¬m.Misplaced c.state) {e : ReplicationError}
    (he : (m.run ⟨c, security⟩ id).outcome = .error e) : e.kind.isMistake = false := by
  obtain ⟨-, houtcome⟩ := (m.madeBy_run ⟨c, security⟩ id).proposed hcommand
  rw [houtcome] at he
  by_cases hready : c.failNext = 0
  · obtain ⟨hproposed, hstate⟩ := Consensus.propose_of_fresh hid hready hfresh command
    obtain ⟨task, htask⟩ := (refusedIf_apply hc.state.wellFormed hcommand
      (c.state.lastIndex + 1)).accepted (hplaced hready)
    have happly : c.state.apply (c.state.lastIndex + 1) command =
        (.ok task, (c.state.apply (c.state.lastIndex + 1) command).2) := Prod.ext htask rfl
    rw [Consensus.commit_of_ok rfl happly] at hproposed hstate
    -- What is accepted is answered with its index.
    rw [hproposed, hstate] at he
    simp only [Proposed.outcome, Except.bind, answer_of_apply hcommand happly] at he
    cases he
  · rw [Consensus.propose_of_lost hid hready] at he
    cases he
    rfl

/-- Mistakes in a new request leave the state of the log as it is, with one exception: a misplaced
definition that passes its check, while there is a leader. -/
theorem mistakes_free_iff (hc : c.Reachable) (security : ServerSecurity) (m : Mutation)
    (hid : Text.isBlankText id = false) (hfresh : c.recorded? id = none) :
    (∀ e, (m.run ⟨c, security⟩ id).outcome = .error e → e.kind.isMistake = true →
        (m.run ⟨c, security⟩ id).log.state = c.state) ↔
      ¬(c.failNext = 0 ∧ (∃ command, m.command ⟨c, security⟩ = .ok command) ∧
        m.Misplaced c.state) := by
  constructor
  · rintro hfree ⟨hready, ⟨command, hcommand⟩, hmisplaced⟩
    obtain ⟨hstate, e, he, hkind⟩ := run_of_misplaced hc hid hfresh hready hcommand hmisplaced
    have hsame := congrArg ClusterState.lastIndex (hfree e he hkind)
    rw [hstate] at hsame
    exact absurd hsame (Nat.succ_ne_self _)
  · intro hplaced e he hkind
    cases hcommand : m.command ⟨c, security⟩ with
    | error e' => rw [((m.madeBy_run ⟨c, security⟩ id).refused hcommand).1]
    | ok command =>
        have hother := run_of_placed hc hid hfresh hcommand
          (fun hready hmisplaced => hplaced ⟨hready, ⟨command, hcommand⟩, hmisplaced⟩) he
        rw [hother] at hkind
        cases hkind

/-- A second hub under the name of the first is refused, and takes an index. -/
theorem mistakes_not_free_secondFeed :
    (defineFeed ordersLog).log.state.lastIndex = 3 ∧
      ¬∀ e, ((defineHub "orders" (.new "Feed" .hubToSink)).run
          ⟨(defineFeed ordersLog).log, .unsecured⟩ "r4").outcome = .error e →
        e.kind.isMistake = true →
          ((defineHub "orders" (.new "Feed" .hubToSink)).run
            ⟨(defineFeed ordersLog).log, .unsecured⟩ "r4").log.state =
              (defineFeed ordersLog).log.state := by
  refine ⟨by decide +kernel, fun hfree => ?_⟩
  have hmisplaced : (defineHub "orders" (.new "Feed" .hubToSink)).Misplaced
      (defineFeed ordersLog).log.state :=
    ⟨_, rfl, .inr ⟨_, List.mem_cons_self, by decide, by decide⟩⟩
  exact (mistakes_free_iff defineFeed_reachable .unsecured _ (by decide) (by decide +kernel)).1 hfree
    ⟨by decide +kernel, ⟨_, rfl⟩, hmisplaced⟩

end Mutation

end HubReplication
