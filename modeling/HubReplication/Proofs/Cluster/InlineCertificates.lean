/-
**Hubs that list certificates themselves.**

A hub from before there were grants lists the certificates that it admits.  Such a hub takes no
grants until they are removed from it, so that a hub has one or the other.  But the new definition
of a hub that has grants is compared with each of them, and not with there being any: it may list
certificates.  That is the only way to a hub with both, and each time it is taken leads to one.

Main definitions:

* `DatabaseRecord.Unmixed`, `ClusterState.Unmixed` — no hub has both;
* `ClusterState.Mixes` — a new definition that lists certificates, for a hub that has grants.

Main results:

* `DatabaseRecord.unmixed_replaceHub_iff` — what a new definition makes of a hub;
* `ClusterState.Unmixed.advance_iff` — what a command makes of a state without such hubs;
* `ClusterState.unmixed_throughout_iff` — there is never such a hub exactly if no command mixes.
-/

import Mathlib.Data.List.Induction
import HubReplication.Proofs.Cluster.Holdings

set_option relaxedAutoImplicit false
set_option autoImplicit false

namespace HubReplication

/-! ### Records -/

namespace DatabaseRecord

/-- No hub lists certificates itself and has grants as well. -/
def Unmixed (r : DatabaseRecord) : Prop :=
  ∀ hub ∈ r.hubs, hub.hasLegacyCertificates = true → r.grants hub.name = []

variable {r r' : DatabaseRecord}

theorem held_eq_nil_iff {name : String} : r.held name = [] ↔ r.grants name = [] :=
  List.map_eq_nil_iff

/-- Every hub that lists certificates did so before, and has grants only if it had some. -/
theorem Unmixed.of_forebears (h : r.Unmixed)
    (hforebears : ∀ hub ∈ r'.hubs, hub.hasLegacyCertificates = true →
      ∃ old ∈ r.hubs, old.hasLegacyCertificates = true ∧
        (r.grants old.name = [] → r'.grants hub.name = [])) : r'.Unmixed := by
  intro hub hhub hlegacy
  obtain ⟨old, hold, hlegacy', hgrants⟩ := hforebears hub hhub hlegacy
  exact hgrants (h old hold hlegacy')

/-- Other grants under a name, none of them if a hub of the name lists certificates. -/
theorem Unmixed.withGrants (h : r.Unmixed) {name : String} {gs : List HubAccessGrant}
    (hname : ∀ hub ∈ r.hubs, hub.hasLegacyCertificates = true →
      Text.sameName hub.name name = true → gs = []) : (r.withGrants name gs).Unmixed := by
  intro hub hhub hlegacy
  rw [← held_eq_nil_iff, held_withGrants]
  split
  · rename_i hsame
    rw [hname hub hhub hlegacy hsame]
    rfl
  · exact held_eq_nil_iff.2 (h hub hhub hlegacy)

theorem Unmixed.addGrant (h : r.Unmixed) (hr : HubsSound r.hubs r.hubGrants) {g : HubAccessGrant}
    (hadd : r.addGrant g = .ok r') : r'.Unmixed := by
  obtain ⟨⟨granted, hgranted, hplain, -⟩, -, rfl⟩ := addGrant_eq_ok hadd
  refine h.withGrants fun hub hhub hlegacy hsame => ?_
  -- The hub of the name is the one that was looked at, and that one lists none.
  rw [hr.hub?_eq_some_iff.2 ⟨hhub, hsame⟩] at hgranted
  cases hgranted
  rw [hplain] at hlegacy
  cases hlegacy

theorem Unmixed.removeGrant (h : r.Unmixed) {hub thumbprint : String} {g : HubAccessGrant}
    (hremove : r.removeGrant hub thumbprint = (.ok g, r')) : r'.Unmixed := by
  obtain ⟨-, rfl⟩ := removeGrant_eq_ok hremove
  refine h.withGrants fun definition hdefinition hlegacy hsame => ?_
  have hnone : r.grants hub = [] := by
    rw [← held_eq_nil_iff, ← held_of_sameName hsame, held_eq_nil_iff]
    exact h definition hdefinition hlegacy
  rw [hnone]
  rfl

/-- Whether a task is disabled is nothing to the certificates of hubs and to their grants. -/
theorem Unmixed.toggleTask (h : r.Unmixed) {id : TaskId} {disabled : Bool}
    (htoggle : r.toggleTask id disabled = .ok r') : r'.Unmixed := by
  unfold DatabaseRecord.toggleTask at htoggle
  split at htoggle
  · rename_i hubs hchange
    cases htoggle
    refine h.of_forebears fun hub hhub hlegacy => ?_
    rcases mem_changeFirst hchange hhub with hold | ⟨old, hold, rfl⟩
    · exact ⟨hub, hold, hlegacy, fun hnone => hnone⟩
    · exact ⟨old, hold, hlegacy, fun hnone => hnone⟩
  · split at htoggle
    · cases htoggle
      exact h
    · split at htoggle <;> cases htoggle
      exact h

theorem Unmixed.deleteTask (h : r.Unmixed) {id : TaskId} {task : OngoingTask}
    (hdelete : r.deleteTask id = .ok (task, r')) : r'.Unmixed := by
  unfold DatabaseRecord.deleteTask at hdelete
  split at hdelete
  · cases hdelete
    refine h.of_forebears fun hub hhub hlegacy =>
      ⟨hub, List.mem_of_mem_eraseP hhub, hlegacy, fun hnone => ?_⟩
    rw [grants, SortedMap.get?_erase]
    split
    · rfl
    · exact hnone
  · split at hdelete
    · cases hdelete
      exact h
    · split at hdelete <;> cases hdelete
      exact h

/-- A hub that is created has no grants yet, whatever it lists. -/
theorem Unmixed.append (h : r.Unmixed) (hr : HubsSound r.hubs r.hubGrants) {d : HubDefinition}
    (hfree : (r.hubs.findIdx? fun b => Text.sameName b.name d.name) = none) (id : TaskId) :
    DatabaseRecord.Unmixed { r with hubs := r.hubs ++ [{ d with taskId := id }] } := by
  intro hub hhub hlegacy
  rcases List.mem_append.1 hhub with hold | hnew
  · exact h hub hold hlegacy
  · rw [List.mem_singleton.1 hnew]
    exact held_eq_nil_iff.1 (held_eq_nil hr (List.findIdx?_eq_none_iff.1 hfree))

/-- A new definition of a hub may list certificates exactly if the hub has no grants. -/
theorem unmixed_replaceHub_iff (h : r.Unmixed) (hr : HubsSound r.hubs r.hubGrants)
    {definition previous : HubDefinition} {position : Nat}
    (hget : r.hubs[position]? = some previous)
    (hclash : (r.hubs.findIdx? fun b => Text.sameName b.name definition.name).any
      (· != position) = false) :
    (r.replaceHub definition position previous).Unmixed ↔
      (definition.hasLegacyCertificates = true → r.grants previous.name = []) := by
  have hgrants := held_replaceHub hr hget hclash
  obtain ⟨hlt, -⟩ := List.getElem?_eq_some_iff.1 hget
  constructor
  · intro hunmixed hlegacy
    rw [← held_eq_nil_iff, ← hgrants, held_eq_nil_iff]
    exact hunmixed definition (List.mem_set hlt definition) hlegacy
  · intro hdefinition hub hhub hlegacy
    obtain ⟨i, hi⟩ := List.getElem?_of_mem hhub
    rw [← held_eq_nil_iff]
    by_cases hposition : i = position
    · subst hposition
      obtain rfl : definition = hub := by
        simpa [replaceHub, List.getElem?_set_self hlt] using hi
      rw [hgrants, held_eq_nil_iff]
      exact hdefinition hlegacy
    · have hold : r.hubs[i]? = some hub := by
        simpa [replaceHub, List.getElem?_set_ne (Ne.symm hposition)] using hi
      have hmem := List.mem_of_getElem? hold
      have hne := ne_previous hr hget hold hposition
      rw [held_replaceHub_of_ne hr hget hclash hmem hne, held_eq_nil_iff]
      exact h hub hmem hlegacy

end DatabaseRecord

/-! ### States -/

namespace ClusterState

variable {s s' : ClusterState} {index : Nat} {name : String} {r r' : DatabaseRecord}
  {command : ClusterCommand} {task : Option TaskId}

/-- The hubs of every database agree with their grants, whatever the indexes of the commands. -/
def HubsAgree (s : ClusterState) : Prop :=
  ∀ ⦃name r⦄, s.database? name = some r → HubsSound r.hubs r.hubGrants

/-- No hub of any database lists certificates itself and has grants as well. -/
def Unmixed (s : ClusterState) : Prop := ∀ ⦃name r⦄, s.database? name = some r → r.Unmixed

/-- A new definition that lists certificates is accepted for a hub that has grants. -/
structure Mixes (s : ClusterState) (index : Nat) (name : String) (definition : HubDefinition) :
    Prop where
  lists : definition.hasLegacyCertificates = true
  granted : ∃ r previous, s.database? name = some r ∧ definition.taskId.isAssigned = true ∧
    r.hubs.find? (·.taskId == definition.taskId) = some previous ∧ r.grants previous.name ≠ []
  accepted : ∃ task next, s.apply index (.defineHub name definition) = (.ok task, next)

theorem HubsAgree.change (h : s.HubsAgree) (hchange : Change s index s') : s'.HubsAgree := by
  intro other q hq
  cases hchange with
  | topology topology => exact h hq
  | removed name => exact h (database?_of_removed hq)
  | created topology hnone =>
      rw [database?_stamp_putRecord] at hq
      split at hq
      · cases hq
        exact (recordSound_new topology index).hubs
      · exact h hq
  | changed hr hkeeps =>
      rw [database?_stamp_putRecord] at hq
      split at hq
      · cases hq
        exact hkeeps.hubs (h hr)
      · exact h hq

/-- The record of a database is replaced by another one. -/
theorem Unmixed.put_iff (h : s.Unmixed) :
    ((s.putRecord name r').stamp index (some name)).Unmixed ↔ r'.Unmixed := by
  constructor
  · intro hunmixed
    have hafter : DatabaseRecord.Unmixed { r' with etag := index } :=
      hunmixed ((database?_stamp_putRecord name).trans (if_pos rfl))
    exact hafter
  · intro hunmixed other q hq
    rw [database?_stamp_putRecord] at hq
    split at hq
    · cases hq
      exact hunmixed
    · exact h hq

theorem Unmixed.of_withRecord (h : s.Unmixed) {α : Type} {a : α}
    {operation : DatabaseRecord → Outcome (α × DatabaseRecord)}
    (hkeeps : ∀ {r a r'}, s.database? name = some r → operation r = .ok (a, r') → r.Unmixed →
      r'.Unmixed)
    (hrun : s.withRecord name (orUnchanged operation) = (.ok a, s')) :
    (s'.stamp index (some name)).Unmixed := by
  obtain ⟨r, r', hr, hop, rfl⟩ := operation_eq_ok hrun
  exact h.put_iff.2 (hkeeps hr hop (h hr))

theorem Unmixed.putDatabase (h : s.Unmixed) {topology : DatabaseTopology}
    (hrun : s.putDatabase name topology = (.ok task, s')) :
    (s'.stamp index (some name)).Unmixed := by
  unfold ClusterState.putDatabase at hrun
  split at hrun
  · cases hrun
  · split at hrun
    · cases hrun
    · cases hrun
      refine h.put_iff.2 ?_
      cases hr : s.database? name with
      | none => exact fun hub hhub => by cases hhub
      | some r =>
          have hold : r.Unmixed := h hr
          exact hold

/-- A hub that is defined has both from then on exactly if its definition mixes them. -/
theorem Unmixed.defineHub_iff (h : s.Unmixed) (hagree : s.HubsAgree) {definition : HubDefinition}
    (happly : s.apply index (.defineHub name definition) = (.ok task, s')) :
    s'.Unmixed ↔ ¬s.Mixes index name definition := by
  obtain ⟨s'', hrun, rfl⟩ := apply_eq_ok happly
  obtain ⟨r, r', hr, hop, rfl⟩ := operation_eq_ok hrun
  obtain ⟨_, hput⟩ := of_map_answer hop fun _ => rfl
  obtain ⟨-, ⟨hunassigned, hfree, rfl⟩ |
    ⟨hassigned, position, previous, hget, hfind, hclash, -, rfl⟩⟩ := DatabaseRecord.putHub_eq_ok hput
  · refine iff_of_true (h.put_iff.2 ((h hr).append (hagree hr) hfree _)) fun hmixes => ?_
    obtain ⟨-, -, -, hassigned, -⟩ := hmixes.granted
    rw [hunassigned] at hassigned
    cases hassigned
  · refine h.put_iff.trans
      ((DatabaseRecord.unmixed_replaceHub_iff (h hr) (hagree hr) hget hclash).trans ?_)
    constructor
    · intro hnone hmixes
      obtain ⟨q, other, hq, -, hother, hgranted⟩ := hmixes.granted
      obtain rfl : r = q := Option.some.inj (hr.symm.trans hq)
      obtain rfl : previous = other := Option.some.inj (hfind.symm.trans hother)
      exact hgranted (hnone hmixes.lists)
    · intro hmixes hlists
      by_contra hgranted
      exact hmixes ⟨hlists, ⟨r, previous, hr, hassigned, hfind, hgranted⟩, task, _, happly⟩

/-- No command but the definition of a hub leads to a hub with both. -/
theorem Unmixed.apply_of_ne (h : s.Unmixed) (hagree : s.HubsAgree)
    (hne : ∀ name definition, command ≠ .defineHub name definition)
    (happly : s.apply index command = (.ok task, s')) : s'.Unmixed := by
  obtain ⟨s'', hrun, rfl⟩ := apply_eq_ok happly
  cases command with
  | putClusterTopology topology =>
      simp only [run] at hrun
      split at hrun <;> cases hrun
      exact h
  | setNodeAlive node alive =>
      simp only [run] at hrun
      split at hrun <;> cases hrun
      exact h
  | putDatabase name topology => exact h.putDatabase hrun
  | deleteDatabase name =>
      simp only [run] at hrun
      split at hrun <;> cases hrun
      exact fun _ _ hq => h (database?_of_removed hq)
  | defineHub name definition => exact absurd rfl (hne name definition)
  | registerAccess name grant =>
      exact h.of_withRecord
        (fun hr hop hold => hold.addGrant (hagree hr) (answering_eq_ok hop)) hrun
  | unregisterAccess name hub thumbprint =>
      obtain ⟨r, r', g, hr, hremove, rfl⟩ := removal_of_run hrun
      exact h.put_iff.2 ((h hr).removeGrant hremove)
  | defineSink name definition =>
      refine h.of_withRecord (fun _ hop hold => ?_) hrun
      obtain ⟨_, hput⟩ := of_map_answer hop fun _ => rfl
      obtain ⟨-, ⟨-, rfl⟩ | ⟨_, _, -, -, -, rfl⟩⟩ := DatabaseRecord.putSink_eq_ok hput <;>
        exact hold
  | defineExternal name definition =>
      refine h.of_withRecord (fun _ hop hold => ?_) hrun
      obtain ⟨_, hput⟩ := of_map_answer hop fun _ => rfl
      obtain ⟨_, -, ⟨-, rfl⟩ | ⟨_, _, -, -, -, rfl⟩⟩ := DatabaseRecord.putExternal_eq_ok hput <;>
        exact hold
  | putConnectionString name connection =>
      refine h.of_withRecord (fun _ hop hold => ?_) hrun
      have hput := answering_eq_ok hop
      unfold DatabaseRecord.putConnectionString at hput
      split at hput <;> cases hput
      exact hold
  | toggleTask name id disabled =>
      exact h.of_withRecord (fun _ hop hold => hold.toggleTask (answering_eq_ok hop)) hrun
  | deleteTask name id =>
      refine h.of_withRecord (fun _ hop hold => ?_) hrun
      obtain ⟨_, hdelete⟩ := of_map_answer hop fun _ => rfl
      exact hold.deleteTask hdelete

/-- A command leads to a hub with both exactly if it mixes them; one that fails is dropped. -/
theorem Unmixed.advance_iff (h : s.Unmixed) (hagree : s.HubsAgree) :
    (s.advance index command).Unmixed ↔
      ∀ {name definition}, command = .defineHub name definition →
        ¬s.Mixes index name definition := by
  cases happly : s.apply index command with
  | mk outcome next =>
      simp only [ClusterState.advance, happly]
      cases outcome with
      | error e =>
          refine iff_of_true h fun heq hmixes => ?_
          obtain ⟨task, next', haccepted⟩ := hmixes.accepted
          rw [← heq, happly] at haccepted
          cases haccepted
      | ok task =>
          by_cases hdefine : ∃ name definition, command = .defineHub name definition
          · obtain ⟨name, definition, rfl⟩ := hdefine
            refine (h.defineHub_iff hagree happly).trans ⟨fun hmixes _ _ heq => ?_, fun hmixes =>
              hmixes rfl⟩
            cases heq
            exact hmixes
          · have hne : ∀ name definition, command ≠ .defineHub name definition :=
              fun name definition heq => hdefine ⟨name, definition, heq⟩
            exact iff_of_true (h.apply_of_ne hagree hne happly) fun heq => absurd heq (hne _ _)

/-! ### Runs -/

theorem replay_concat (commands : List (Nat × ClusterCommand)) (index : Nat)
    (command : ClusterCommand) :
    replay (commands ++ [(index, command)]) = (replay commands).advance index command := by
  simp [replay]

/-- Hubs agree with their grants after any commands, at whatever indexes. -/
theorem hubsAgree_replay (commands : List (Nat × ClusterCommand)) :
    (replay commands).HubsAgree := by
  induction commands using List.reverseRecOn with
  | nil => exact fun _ _ h => by cases h
  | append_singleton front command ih =>
      rw [replay_concat, ClusterState.advance]
      split
      · rename_i happly
        exact ih.change (change_of_apply happly)
      · exact ih

/-- Commands never lead to a hub that lists certificates and has grants exactly if none of them
gives a hub that has grants a definition that lists certificates. -/
theorem unmixed_throughout_iff (commands : List (Nat × ClusterCommand)) :
    (∀ front, front <+: commands → (replay front).Unmixed) ↔
      ∀ front index name definition,
        front ++ [(index, .defineHub name definition)] <+: commands →
          ¬(replay front).Mixes index name definition := by
  constructor
  · intro hunmixed front index name definition hprefix
    have hbefore := hunmixed front ((List.prefix_append _ _).trans hprefix)
    have hafter := hunmixed _ hprefix
    rw [replay_concat, hbefore.advance_iff (hubsAgree_replay front)] at hafter
    exact hafter rfl
  · intro hmixes front
    induction front using List.reverseRecOn with
    | nil => exact fun _ _ _ h => by cases h
    | append_singleton front command ih =>
        intro hprefix
        have hbefore := ih ((List.prefix_append _ _).trans hprefix)
        rw [replay_concat, hbefore.advance_iff (hubsAgree_replay front)]
        rintro name definition heq
        refine hmixes front _ _ _ ?_
        rw [← heq]
        exact hprefix

/-- The hub that has a grant lists another certificate itself. -/
def listingFeed : HubDefinition :=
  { HubDefinition.new "feed" .hubToSink with taskId := ⟨3⟩, legacyCertificates := ["MIIB"] }

/-- The definition is accepted, and from then on the hub has both. -/
theorem not_unmixed_listingFeed :
    (replay (renamedHub.take 4)).Mixes 5 "orders" listingFeed ∧
      ¬(∀ front, front <+: renamedHub.take 4 ++ [(5, .defineHub "orders" listingFeed)] →
        (replay front).Unmixed) ∧
      ((replay (renamedHub.take 4 ++ [(5, .defineHub "orders" listingFeed)])).database?
        "orders").map (fun r => r.hubs.map fun hub =>
          (hub.legacyCertificates, (r.grants hub.name).map (·.grantName))) =
            some [(["MIIB"], ["reader"])] := by
  have hgranted : ((replay (renamedHub.take 4)).database? "orders").bind (fun r =>
      (r.hubs.find? (·.taskId == ⟨3⟩)).map fun hub => (r.grants hub.name).isEmpty) = some false := by
    decide +kernel
  obtain ⟨r, hr, hfound⟩ := Option.bind_eq_some_iff.1 hgranted
  obtain ⟨previous, hprevious, hgrants⟩ := Option.map_eq_some_iff.1 hfound
  have hmixes : (replay (renamedHub.take 4)).Mixes 5 "orders" listingFeed :=
    ⟨by decide, ⟨r, previous, hr, by decide, hprevious, by simpa using hgrants⟩,
      some ⟨3⟩, _, Prod.ext (by decide +kernel) rfl⟩
  refine ⟨hmixes, fun hunmixed => ?_, by decide +kernel⟩
  exact (unmixed_throughout_iff _).1 hunmixed _ _ _ _ (List.prefix_refl _) hmixes

end ClusterState

end HubReplication
