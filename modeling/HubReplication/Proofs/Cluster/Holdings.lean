/-
**What each hub holds.**

Grants are kept under the names of hubs, in small letters, while a hub goes by its identity and may
change its name.  So the grants of a hub are looked at here by the identity of the hub, and without
the name that each of them repeats.  A table of them over all databases then says what a command
does: it leaves the table as it is, or changes the line of one hub, or drops the lines of a database.

Main definitions:

* `DatabaseRecord.holdings`, `ClusterState.holdings` — the grants of every hub, by its identity;
* `ClusterState.grantsOf?` — the grants of a hub;
* `ClusterState.HoldingsAfter` — what a command that succeeds does to the grants of the hubs.

Main results:

* `DatabaseRecord.holdings_replaceHub` — a new definition of a hub, under whatever name;
* `DatabaseRecord.mem_holdings_withGrants`, `DatabaseRecord.mem_holdings_deleteTask` — one line of
  the table is another, or goes;
* `ClusterState.grants_stay` — so every command leaves all grants with their hubs, but for those it
  is about.
-/

import Mathlib.Logic.Function.Basic
import HubReplication.Proofs.Cluster.Lookup
import HubReplication.Proofs.Cluster.Reachable

set_option relaxedAutoImplicit false
set_option autoImplicit false

namespace HubReplication

/-- A grant without the name of its hub. -/
def HubAccessGrant.unlabelled (g : HubAccessGrant) : HubAccessGrant := { g with hubName := "" }

/-! ### The table of a record -/

namespace DatabaseRecord

/-- The grants of a name, without the name. -/
def held (r : DatabaseRecord) (hub : String) : List HubAccessGrant :=
  (r.grants hub).map (·.unlabelled)

/-- The grants of every hub, by its identity. -/
def holdings (r : DatabaseRecord) : List (TaskId × List HubAccessGrant) :=
  r.hubs.map fun hub => (hub.taskId, r.held hub.name)

variable {r r' : DatabaseRecord} {id : TaskId} {gs : List HubAccessGrant}

theorem mem_holdings_iff :
    (id, gs) ∈ r.holdings ↔ ∃ hub ∈ r.hubs, hub.taskId = id ∧ gs = r.held hub.name := by
  simp [holdings, eq_comm]

theorem held_of_sameName {a b : String} (h : Text.sameName a b = true) : r.held a = r.held b := by
  rw [held, held, grants, grants, grantKey_eq_iff.2 h]

theorem held_withGrants (name other : String) :
    (r.withGrants name gs).held other =
      if Text.sameName other name = true then gs.map (·.unlabelled) else r.held other := by
  split
  · rename_i hsame
    rw [held, grants_withGrants (Text.sameName_comm _ _ ▸ hsame)]
  · rename_i hother
    rw [held, held, grants, grants, withGrants,
      SortedMap.get?_insert_of_ne _ _ fun hkey => hother (grantKey_eq_iff.1 hkey)]

/-- Listing a hub among the grants changes nothing. -/
theorem holdings_withGrants_self (name : String) :
    (r.withGrants name (r.grants name)).holdings = r.holdings := by
  refine List.map_congr_left fun hub _ => ?_
  rw [held_withGrants]
  split
  · rename_i hsame
    rw [held_of_sameName hsame]
    rfl
  · rfl

theorem mem_hubIds_iff : id ∈ r.hubs.map (·.taskId) ↔ ∃ gs, (id, gs) ∈ r.holdings := by
  simp [mem_holdings_iff]

theorem mem_taskIds_of_mem_holdings (h : (id, gs) ∈ r.holdings) : id ∈ r.taskIds := by
  rw [taskIds_eq, List.append_assoc]
  exact List.mem_append_left _ (mem_hubIds_iff.2 ⟨gs, h⟩)

/-- Nothing is held under a name that no hub has. -/
theorem held_eq_nil (hr : HubsSound r.hubs r.hubGrants) {name : String}
    (hfree : ∀ hub ∈ r.hubs, Text.sameName hub.name name = false) : r.held name = [] := by
  rw [held, grants]
  cases hget : r.hubGrants.get? (grantKey name) with
  | none => rfl
  | some gs =>
      by_cases hempty : gs = []
      · rw [hempty]
        rfl
      · obtain ⟨hub, hhub, hkey, -⟩ := hr.grants_fit hget hempty
        have hsame := grantKey_eq_iff.1 hkey.symm
        rw [hfree hub hhub] at hsame
        cases hsame

/-- The identities of hubs differ. -/
theorem eq_of_taskId (hids : r.taskIds.Nodup) {a b : HubDefinition} (ha : a ∈ r.hubs)
    (hb : b ∈ r.hubs) (h : a.taskId = b.taskId) : a = b := by
  rw [taskIds_eq, List.append_assoc] at hids
  exact eq_of_pairwise_not (R := fun a b => a.taskId = b.taskId) (fun _ _ h => h.symm)
    (List.pairwise_map.1 (List.nodup_append.1 hids).1) ha hb h

/-- Other grants for a hub are its line of the table, and the other lines stay. -/
theorem mem_holdings_withGrants (hids : r.taskIds.Nodup) (hr : HubsSound r.hubs r.hubGrants)
    {hub : HubDefinition} {name : String} (hhub : r.hub? name = some hub)
    (grants : List HubAccessGrant) :
    (id, gs) ∈ (r.withGrants name grants).holdings ↔
      if id = hub.taskId then grants.map (·.unlabelled) = gs else (id, gs) ∈ r.holdings := by
  obtain ⟨hmem, hname⟩ := hr.hub?_eq_some_iff.1 hhub
  simp only [mem_holdings_iff, held_withGrants]
  constructor
  · rintro ⟨other, hother, rfl, rfl⟩
    split
    · rename_i hid
      obtain rfl := eq_of_taskId hids hother hmem hid
      rw [if_pos hname]
    · rename_i hid
      refine ⟨other, hother, rfl, if_neg fun hsame => hid ?_⟩
      rw [hr.hub?_eq_some_iff.2 ⟨hother, hsame⟩] at hhub
      cases hhub
      rfl
  · split
    · rintro rfl
      rename_i hid
      exact ⟨hub, hmem, hid.symm, by rw [if_pos hname]⟩
    · rename_i hid
      rintro ⟨other, hother, rfl, rfl⟩
      refine ⟨other, hother, rfl, (if_neg fun hsame => hid ?_).symm⟩
      rw [hr.hub?_eq_some_iff.2 ⟨hother, hsame⟩] at hhub
      cases hhub
      rfl

/-- The grant that is removed is the one that is found. -/
theorem grant?_of_removeGrant {hub thumbprint : String} {g : HubAccessGrant}
    (h : r.removeGrant hub thumbprint = (.ok g, r')) : r.grant? hub thumbprint = some g := by
  unfold removeGrant at h
  split at h
  · cases h
  · split at h
    · cases h
    · rename_i hfound
      cases h
      exact hfound

/-- A removal that fails leaves the table as it is, even where it lists the hub. -/
theorem holdings_of_removeGrant_error {hub thumbprint : String} {e : ReplicationError}
    (h : r.removeGrant hub thumbprint = (.error e, r')) : r'.holdings = r.holdings := by
  unfold removeGrant at h
  split at h
  · cases h
    rfl
  · split at h
    · cases h
      exact holdings_withGrants_self hub
    · cases h

/-! ### A new definition -/

/-- Moving the grants of a hub under its new name leaves those under any third name alone. -/
theorem get?_renameGrants_of_ne {grants : SortedMap String (List HubAccessGrant)}
    {previous name k : String} (hname : k ≠ grantKey name) (hprevious : k ≠ grantKey previous) :
    (renameGrants grants previous name).get? k = grants.get? k := by
  unfold renameGrants
  split
  · rfl
  · split
    · rfl
    · rw [SortedMap.get?_insert_of_ne _ _ hname, SortedMap.get?_erase_of_ne _ hprevious]

section Replace

variable {definition previous : HubDefinition} {position : Nat}

/-- No hub but the one that is replaced has the name of the new definition. -/
theorem sameName_previous (hr : HubsSound r.hubs r.hubGrants)
    (hget : r.hubs[position]? = some previous)
    (hclash : (r.hubs.findIdx? fun b => Text.sameName b.name definition.name).any
      (· != position) = false) {hub : HubDefinition} (hhub : hub ∈ r.hubs)
    (hsame : Text.sameName hub.name definition.name = true) : hub = previous := by
  obtain ⟨hlt, rfl⟩ := List.getElem?_eq_some_iff.1 hget
  obtain ⟨i, hi, rfl⟩ := List.getElem_of_mem hhub
  by_cases hne : i = position
  · simp [hne]
  · rw [hr.names.free_of_clash hclash hi hne] at hsame
    cases hsame

/-- A hub at another position is not the one that is replaced. -/
theorem ne_previous (hr : HubsSound r.hubs r.hubGrants) (hget : r.hubs[position]? = some previous)
    {hub : HubDefinition} {i : Nat} (hhub : r.hubs[i]? = some hub) (hi : i ≠ position) :
    hub ≠ previous := by
  obtain ⟨hlt, -⟩ := List.getElem?_eq_some_iff.1 hget
  rintro rfl
  exact hi ((List.getElem?_inj hlt hr.names.nodup).1 (hget.trans hhub.symm)).symm

/-- The grants of the hub that is replaced are those of its new definition. -/
theorem held_replaceHub (hr : HubsSound r.hubs r.hubGrants)
    (hget : r.hubs[position]? = some previous)
    (hclash : (r.hubs.findIdx? fun b => Text.sameName b.name definition.name).any
      (· != position) = false) :
    (r.replaceHub definition position previous).held definition.name = r.held previous.name := by
  cases hsame : Text.sameName previous.name definition.name with
  | true =>
      rw [held_of_sameName hsame, held, held, grants, grants, replaceHub, renameGrants, if_pos hsame]
  | false =>
      simp only [held, grants, replaceHub, renameGrants, hsame]
      split
      · rename_i habsurd
        cases habsurd
      · split
        · rename_i hnone
          rw [hnone]
          -- The hub has no grants, and no other hub can have left any under the new name.
          refine held_eq_nil hr fun hub hhub => Bool.eq_false_iff.2 fun hname => ?_
          rw [sameName_previous hr hget hclash hhub hname, hsame] at hname
          cases hname
        · rename_i moved hmoved
          rw [hmoved, SortedMap.get?_insert_self]
          simp [HubAccessGrant.unlabelled]

/-- The grants of any other hub stay. -/
theorem held_replaceHub_of_ne (hr : HubsSound r.hubs r.hubGrants)
    (hget : r.hubs[position]? = some previous)
    (hclash : (r.hubs.findIdx? fun b => Text.sameName b.name definition.name).any
      (· != position) = false) {hub : HubDefinition} (hhub : hub ∈ r.hubs) (hne : hub ≠ previous) :
    (r.replaceHub definition position previous).held hub.name = r.held hub.name := by
  have hprevious : previous ∈ r.hubs := List.mem_of_getElem? hget
  have hname : grantKey hub.name ≠ grantKey definition.name := fun hkey =>
    hne (sameName_previous hr hget hclash hhub (grantKey_eq_iff.1 hkey))
  have hold : grantKey hub.name ≠ grantKey previous.name := fun hkey =>
    hne (hr.names.eq_of_sameName hhub hprevious (grantKey_eq_iff.1 hkey))
  simp only [held, grants, replaceHub, get?_renameGrants_of_ne hname hold]

/-- A new definition of a hub, under whatever name, changes no line of the table. -/
theorem holdings_replaceHub (hr : HubsSound r.hubs r.hubGrants)
    (hget : r.hubs[position]? = some previous) (hid : previous.taskId = definition.taskId)
    (hclash : (r.hubs.findIdx? fun b => Text.sameName b.name definition.name).any
      (· != position) = false) :
    (r.replaceHub definition position previous).holdings = r.holdings := by
  obtain ⟨hlt, hposition⟩ := List.getElem?_eq_some_iff.1 hget
  refine List.ext_getElem? fun i => ?_
  simp only [holdings, List.getElem?_map]
  have hhubs : (r.replaceHub definition position previous).hubs = r.hubs.set position definition :=
    rfl
  rw [hhubs]
  by_cases hi : i = position
  · subst hi
    rw [List.getElem?_set_self hlt, hget, Option.map_some, Option.map_some,
      held_replaceHub hr hget hclash, hid]
  · rw [List.getElem?_set_ne (Ne.symm hi)]
    cases hhub : r.hubs[i]? with
    | none => rfl
    | some hub =>
        rw [Option.map_some, Option.map_some,
          held_replaceHub_of_ne hr hget hclash (List.mem_of_getElem? hhub)
            (ne_previous hr hget hhub hi)]

end Replace

/-! ### Operations that leave the table alone, or change one line -/

theorem holdings_toggleTask {disabled : Bool} (h : r.toggleTask id disabled = .ok r') :
    r'.holdings = r.holdings := by
  unfold toggleTask at h
  split at h
  · rename_i hubs hchange
    cases h
    exact map_changeFirst hchange fun _ => rfl
  · split at h
    · cases h
      rfl
    · split at h <;> cases h
      rfl

/-- A hub that is created holds nothing, and the other lines stay. -/
theorem mem_holdings_putHub {d : HubDefinition} {last index : Nat} {name : String} {task : TaskId}
    (hr : ClusterState.RecordSound last name r) (hlt : last < index)
    (hassigned : d.taskId.isAssigned = false) (h : r.putHub d index = .ok (task, r')) :
    (id, gs) ∈ r'.holdings ↔ if id = ⟨index⟩ then [] = gs else (id, gs) ∈ r.holdings := by
  obtain ⟨-, ⟨-, hfree, rfl⟩ | ⟨hpresent, -⟩⟩ := putHub_eq_ok h
  · have hnothing : r.held d.name = [] :=
      held_eq_nil hr.hubs (List.findIdx?_eq_none_iff.1 hfree)
    have hholdings : DatabaseRecord.holdings
        { r with hubs := r.hubs ++ [{ d with taskId := ⟨index⟩ }] } =
          r.holdings ++ [(⟨index⟩, [])] := by
      rw [← hnothing]
      simp [holdings, held, grants]
    rw [hholdings, List.mem_append, List.mem_singleton, Prod.mk.injEq]
    split
    · rename_i hid
      subst hid
      have hnone : (⟨index⟩, gs) ∉ r.holdings := fun hold =>
        hr.not_mem_taskIds hlt (mem_taskIds_of_mem_holdings hold)
      simp [hnone, eq_comm]
    · rename_i hid
      simp [hid]
  · rw [hassigned] at hpresent
    cases hpresent

/-- The line of a hub that is deleted goes, and the other lines stay. -/
theorem mem_holdings_deleteTask (hids : r.taskIds.Nodup) (hr : HubsSound r.hubs r.hubGrants)
    {deleted : TaskId} {task : OngoingTask} (h : r.deleteTask deleted = .ok (task, r')) :
    (id, gs) ∈ r'.holdings ↔ id ≠ deleted ∧ (id, gs) ∈ r.holdings := by
  -- A sink or an external replication that is deleted has no line.
  have hdialer : (∀ hub ∈ r.hubs, ¬hub.taskId = deleted) →
      ((id, gs) ∈ r.holdings ↔ id ≠ deleted ∧ (id, gs) ∈ r.holdings) := fun hnone => by
    refine ⟨fun hold => ⟨?_, hold⟩, fun hold => hold.2⟩
    obtain ⟨hub, hhub, rfl, -⟩ := mem_holdings_iff.1 hold
    exact hnone hub hhub
  unfold deleteTask at h
  split at h
  · rename_i hub hfind
    cases h
    have hhub := List.mem_of_find?_eq_some hfind
    have hid : hub.taskId = deleted := by simpa using List.find?_some hfind
    have hkept : ∀ other ∈ r.hubs, other.taskId ≠ deleted →
        held { r with
          hubs := r.hubs.eraseP (·.taskId == deleted)
          hubGrants := r.hubGrants.erase (grantKey hub.name) } other.name = r.held other.name := by
      intro other hother hne
      have hkey : grantKey other.name ≠ grantKey hub.name := fun hkey => by
        rw [hr.names.eq_of_sameName hother hhub (grantKey_eq_iff.1 hkey)] at hne
        exact hne hid
      simp only [held, grants, SortedMap.get?_erase_of_ne _ hkey]
    have hgone : ∀ other ∈ r.hubs.eraseP (·.taskId == deleted), other.taskId ≠ deleted := by
      have hperm := perm_map_eraseP (f := (·.taskId)) hfind fun a ha => by simpa using ha
      rw [taskIds_eq, List.append_assoc] at hids
      have hnodup := List.nodup_cons.1 (hperm.nodup_iff.1 (List.nodup_append.1 hids).1)
      intro other hother heq
      exact hnodup.1 (List.mem_map.2 ⟨other, hother, heq⟩)
    rw [mem_holdings_iff, mem_holdings_iff]
    constructor
    · rintro ⟨other, hother, rfl, rfl⟩
      have hmem := List.mem_of_mem_eraseP hother
      exact ⟨hgone other hother, other, hmem, rfl, hkept other hmem (hgone other hother)⟩
    · rintro ⟨hne, other, hother, rfl, rfl⟩
      refine ⟨other, ?_, rfl, (hkept other hother hne).symm⟩
      exact (List.mem_eraseP_of_neg (by simpa using hne)).2 hother
  · rename_i hnone
    have hnone : ∀ hub ∈ r.hubs, ¬hub.taskId = deleted := by simpa using hnone
    split at h
    · cases h
      exact hdialer hnone
    · split at h <;> cases h
      exact hdialer hnone

end DatabaseRecord

/-! ### The table of a state -/

namespace ClusterState

variable {s s' : ClusterState} {index : Nat} {name : String} {r r' : DatabaseRecord} {id : TaskId}
  {gs : List HubAccessGrant} {command : ClusterCommand} {task : Option TaskId}

/-- The grants of every hub of a database. -/
def holdingsIn (s : ClusterState) (name : String) : List (TaskId × List HubAccessGrant) :=
  ((s.database? name).map (·.holdings)).getD []

/-- The grants of every hub. -/
def holdings (s : ClusterState) : List (TaskId × List HubAccessGrant) :=
  s.databases.toList.flatMap fun b => b.2.holdings

/-- The grants of a hub. -/
def grantsOf? (s : ClusterState) (id : TaskId) : Option (List HubAccessGrant) :=
  (s.holdings.find? (·.1 == id)).map (·.2)

/-- Whether a database has a hub. -/
def HasHub (s : ClusterState) (name : String) (id : TaskId) : Prop :=
  ∃ r, s.database? name = some r ∧ id ∈ r.hubs.map (·.taskId)

/-- The hub that a name stands for on a database. -/
def HubNamed (s : ClusterState) (name hub : String) (id : TaskId) : Prop :=
  ∃ r definition, s.database? name = some r ∧ r.hub? hub = some definition ∧
    definition.taskId = id

/-- What a command that succeeds does to the grants of the hubs. -/
def HoldingsAfter (s s' : ClusterState) (index : Nat) : ClusterCommand → Prop
  | .defineHub _ definition =>
    if definition.taskId.isAssigned then s'.grantsOf? = s.grantsOf?
    else
      s.grantsOf? ⟨index⟩ = none ∧ s'.grantsOf? = Function.update s.grantsOf? ⟨index⟩ (some [])
  | .registerAccess name grant =>
    ∃ id gs, s.HubNamed name grant.hubName id ∧ s.grantsOf? id = some gs ∧
      s'.grantsOf? = Function.update s.grantsOf? id (some (gs ++ [grant.unlabelled]))
  | .unregisterAccess name hub thumbprint =>
    ∃ id front grant back, s.HubNamed name hub id ∧
      sameThumbprint grant.certificateThumbprint thumbprint = true ∧
      s.grantsOf? id = some (front ++ grant :: back) ∧
      s'.grantsOf? = Function.update s.grantsOf? id (some (front ++ back))
  | .deleteTask name id =>
    (s.HasHub name id → s'.grantsOf? = Function.update s.grantsOf? id none) ∧
      (¬s.HasHub name id → s'.grantsOf? = s.grantsOf?)
  | .deleteDatabase name =>
    ∀ id, (s.HasHub name id → s'.grantsOf? id = none) ∧
      (¬s.HasHub name id → s'.grantsOf? id = s.grantsOf? id)
  | .putClusterTopology _ | .setNodeAlive _ _ | .putDatabase _ _ | .defineSink _ _
  | .defineExternal _ _ | .putConnectionString _ _ | .toggleTask _ _ _ =>
    s'.grantsOf? = s.grantsOf?

theorem holdingsIn_eq (hr : s.database? name = some r) : s.holdingsIn name = r.holdings := by
  rw [holdingsIn, hr]
  rfl

theorem mem_holdingsIn_iff :
    (id, gs) ∈ s.holdingsIn name ↔ ∃ r, s.database? name = some r ∧ (id, gs) ∈ r.holdings := by
  cases hr : s.database? name with
  | none => simp [holdingsIn, hr]
  | some r => simp [holdingsIn_eq hr]

theorem mem_holdings_iff : (id, gs) ∈ s.holdings ↔ ∃ name, (id, gs) ∈ s.holdingsIn name := by
  simp only [holdings, List.mem_flatMap, mem_holdingsIn_iff, database?,
    SortedMap.get?_eq_some_iff, Prod.exists]

theorem hasHub_iff : s.HasHub name id ↔ ∃ gs, (id, gs) ∈ s.holdingsIn name := by
  simp only [HasHub, mem_holdingsIn_iff, DatabaseRecord.mem_hubIds_iff]
  exact ⟨fun ⟨r, hr, gs, hmem⟩ => ⟨gs, r, hr, hmem⟩, fun ⟨gs, r, hr, hmem⟩ => ⟨r, hr, gs, hmem⟩⟩

/-- A table that has one line at most for a hub gives the grants of the hub. -/
theorem grantsOf?_eq_of_forall {v : Option (List HubAccessGrant)}
    (h : ∀ gs, (id, gs) ∈ s.holdings ↔ v = some gs) : s.grantsOf? id = v := by
  cases hfind : s.holdings.find? (·.1 == id) with
  | none =>
      rw [grantsOf?, hfind]
      cases v with
      | none => rfl
      | some gs =>
          have hmem := List.find?_eq_none.1 hfind _ ((h gs).2 rfl)
          simp at hmem
  | some line =>
      obtain ⟨i, gs⟩ := line
      obtain rfl : i = id := by simpa using List.find?_some hfind
      rw [grantsOf?, hfind, (h gs).1 (List.mem_of_find?_eq_some hfind)]
      rfl

/-! ### Hubs of well-formed states -/

theorem WellFormed.eq_of_mem_holdingsIn (h : s.WellFormed) {other : String}
    {gs' : List HubAccessGrant} (hmem : (id, gs) ∈ s.holdingsIn name)
    (hmem' : (id, gs') ∈ s.holdingsIn other) : name = other := by
  obtain ⟨r, hr, hmem⟩ := mem_holdingsIn_iff.1 hmem
  obtain ⟨q, hq, hmem'⟩ := mem_holdingsIn_iff.1 hmem'
  by_contra hne
  exact h.ids_apart hne hr hq (DatabaseRecord.mem_taskIds_of_mem_holdings hmem)
    (DatabaseRecord.mem_taskIds_of_mem_holdings hmem')

/-- A hub has one line in the table. -/
theorem WellFormed.holdings_unique (h : s.WellFormed) {gs' : List HubAccessGrant}
    (hmem : (id, gs) ∈ s.holdings) (hmem' : (id, gs') ∈ s.holdings) : gs = gs' := by
  obtain ⟨name, hmem⟩ := mem_holdings_iff.1 hmem
  obtain ⟨other, hmem'⟩ := mem_holdings_iff.1 hmem'
  obtain rfl := h.eq_of_mem_holdingsIn hmem hmem'
  obtain ⟨r, hr, hmem⟩ := mem_holdingsIn_iff.1 hmem
  rw [holdingsIn_eq hr] at hmem'
  obtain ⟨hub, hhub, rfl, rfl⟩ := DatabaseRecord.mem_holdings_iff.1 hmem
  obtain ⟨hub', hhub', hid, rfl⟩ := DatabaseRecord.mem_holdings_iff.1 hmem'
  rw [DatabaseRecord.eq_of_taskId (h.record hr).ids_nodup hhub hhub' hid.symm]

theorem WellFormed.grantsOf?_eq_some_iff (h : s.WellFormed) :
    s.grantsOf? id = some gs ↔ (id, gs) ∈ s.holdings := by
  constructor
  · intro hgrants
    obtain ⟨⟨i, gs'⟩, hfind, rfl⟩ := Option.map_eq_some_iff.1 hgrants
    obtain rfl : i = id := by simpa using List.find?_some hfind
    exact List.mem_of_find?_eq_some hfind
  · intro hmem
    refine grantsOf?_eq_of_forall fun gs' => ⟨fun hmem' => ?_, fun heq => ?_⟩
    · rw [h.holdings_unique hmem hmem']
    · cases heq
      exact hmem

/-- The hubs that there are, and no others, have grants to look at. -/
theorem WellFormed.isSome_grantsOf?_iff (h : s.WellFormed) :
    (s.grantsOf? id).isSome = true ↔ ∃ name, s.HasHub name id := by
  simp only [Option.isSome_iff_exists, h.grantsOf?_eq_some_iff, mem_holdings_iff, hasHub_iff]
  exact exists_comm

/-! ### The table after a command -/

theorem holdingsIn_putRecord (other : String) :
    (s.putRecord name r').holdingsIn other =
      if other = name then r'.holdings else s.holdingsIn other := by
  split
  · rename_i hother
    have hget : (s.putRecord name r').database? name = some r' := SortedMap.get?_insert_self _ _ _
    rw [hother, holdingsIn_eq hget]
  · rename_i hother
    rw [holdingsIn, database?, putRecord, SortedMap.get?_insert_of_ne _ _ hother]
    rfl

/-- The mark of a command on a record is nothing to the grants. -/
theorem holdingsIn_stamp (database : Option String) (other : String) :
    (s.stamp index database).holdingsIn other = s.holdingsIn other := by
  cases database with
  | none => rfl
  | some name =>
      simp only [holdingsIn, database?, stamp, SortedMap.get?_adjust]
      split
      · rename_i hother
        rw [hother]
        cases s.databases.get? name <;> rfl
      · rfl

theorem WellFormed.grantsOf?_congr (h : s.WellFormed)
    (hsame : ∀ other, s'.holdingsIn other = s.holdingsIn other) : s'.grantsOf? = s.grantsOf? := by
  funext id
  refine grantsOf?_eq_of_forall fun gs => ?_
  rw [h.grantsOf?_eq_some_iff, mem_holdings_iff, mem_holdings_iff]
  simp only [hsame]

/-- A command that changes the line of one hub of a database. -/
theorem WellFormed.grantsOf?_update (h : s.WellFormed) {v : Option (List HubAccessGrant)}
    (hr : s.database? name = some r)
    (hline : ∀ i gs, (i, gs) ∈ r'.holdings ↔ if i = id then v = some gs else (i, gs) ∈ r.holdings)
    (hother : ∀ {other q}, other ≠ name → s.database? other = some q → id ∉ q.taskIds) :
    ((s.putRecord name r').stamp index (some name)).grantsOf? =
      Function.update s.grantsOf? id v := by
  funext i
  refine grantsOf?_eq_of_forall fun gs => ?_
  simp only [mem_holdings_iff, holdingsIn_stamp, holdingsIn_putRecord]
  by_cases hi : i = id
  · subst hi
    rw [Function.update_self]
    constructor
    · rintro ⟨other, hmem⟩
      split at hmem
      · simpa using (hline i gs).1 hmem
      · rename_i hne
        obtain ⟨q, hq, hmem⟩ := mem_holdingsIn_iff.1 hmem
        exact absurd (DatabaseRecord.mem_taskIds_of_mem_holdings hmem) (hother hne hq)
    · rintro hv
      exact ⟨name, by rw [if_pos rfl, hline, if_pos rfl, hv]⟩
  · rw [Function.update_of_ne hi, h.grantsOf?_eq_some_iff, mem_holdings_iff]
    refine exists_congr fun other => ?_
    split
    · rename_i hname
      rw [hname, hline, if_neg hi, holdingsIn_eq hr]
    · rfl

/-! ### Commands -/

theorem operation_eq_ok {α : Type} {a : α}
    {operation : DatabaseRecord → Outcome (α × DatabaseRecord)}
    (hrun : s.withRecord name (orUnchanged operation) = (.ok a, s')) :
    ∃ r r', s.database? name = some r ∧ operation r = .ok (a, r') ∧ s' = s.putRecord name r' := by
  obtain ⟨r, r', hr, hchange, rfl⟩ := withRecord_eq_ok hrun
  exact ⟨r, r', hr, orUnchanged_eq_ok hchange, rfl⟩

/-- A command that leaves alone what the hubs of a database hold. -/
theorem WellFormed.grantsOf?_of_withRecord (h : s.WellFormed) {α : Type} {a : α}
    {operation : DatabaseRecord → Outcome (α × DatabaseRecord)}
    (hsame : ∀ {r a r'}, s.database? name = some r → operation r = .ok (a, r') →
      r'.holdings = r.holdings)
    (hrun : s.withRecord name (orUnchanged operation) = (.ok a, s')) :
    (s'.stamp index (some name)).grantsOf? = s.grantsOf? := by
  obtain ⟨r, r', hr, hop, rfl⟩ := operation_eq_ok hrun
  refine h.grantsOf?_congr fun other => ?_
  rw [holdingsIn_stamp, holdingsIn_putRecord]
  split
  · rename_i hother
    rw [hother, holdingsIn_eq hr, hsame hr hop]
  · rfl

theorem WellFormed.holdingsAfter_defineHub (h : s.WellFormed) (hlt : s.lastIndex < index)
    {definition : HubDefinition}
    (hrun : s.run index (.defineHub name definition) = (.ok task, s')) :
    s.HoldingsAfter (s'.stamp index (some name)) index (.defineHub name definition) := by
  simp only [HoldingsAfter]
  split
  · rename_i hassigned
    refine h.grantsOf?_of_withRecord (fun {r a r'} hr hop => ?_) hrun
    obtain ⟨id, hop⟩ := of_map_answer hop fun _ => rfl
    obtain ⟨-, ⟨hunassigned, -, -⟩ | ⟨-, position, previous, hget, hfind, hclash, -, rfl⟩⟩ :=
      DatabaseRecord.putHub_eq_ok hop
    · rw [hassigned] at hunassigned
      cases hunassigned
    · have hid : previous.taskId = definition.taskId := by simpa using List.find?_some hfind
      exact DatabaseRecord.holdings_replaceHub (h.record hr).hubs hget hid hclash
  · rename_i hunassigned
    obtain ⟨r, r', hr, hop, rfl⟩ := operation_eq_ok hrun
    obtain ⟨id, hop⟩ := of_map_answer hop fun _ => rfl
    refine ⟨?_, ?_⟩
    · -- The identity is that of no task so far.
      rw [← Option.not_isSome_iff_eq_none, h.isSome_grantsOf?_iff]
      rintro ⟨other, q, hq, hmem⟩
      obtain ⟨gs, hmem⟩ := DatabaseRecord.mem_hubIds_iff.1 hmem
      exact (h.record hq).not_mem_taskIds hlt (DatabaseRecord.mem_taskIds_of_mem_holdings hmem)
    · refine h.grantsOf?_update hr (fun i gs => ?_) fun _ hq => (h.record hq).not_mem_taskIds hlt
      rw [DatabaseRecord.mem_holdings_putHub (h.record hr) hlt (by simpa using hunassigned) hop,
        Option.some.injEq]

/-- The line of the hub that a name stands for, once it is given other grants. -/
theorem WellFormed.grantsOf?_withGrants (h : s.WellFormed) (hr : s.database? name = some r)
    {hub : String} {definition : HubDefinition} (hhub : r.hub? hub = some definition)
    (grants : List HubAccessGrant) (index : Nat) :
    s.grantsOf? definition.taskId = some (r.held hub) ∧
      ((s.putRecord name (r.withGrants hub grants)).stamp index (some name)).grantsOf? =
        Function.update s.grantsOf? definition.taskId (some (grants.map (·.unlabelled))) := by
  have hsound := (h.record hr).hubs
  obtain ⟨hmem, hname⟩ := hsound.hub?_eq_some_iff.1 hhub
  have hline : (definition.taskId, r.held hub) ∈ r.holdings :=
    DatabaseRecord.mem_holdings_iff.2
      ⟨definition, hmem, rfl, (DatabaseRecord.held_of_sameName hname).symm⟩
  refine ⟨?_, h.grantsOf?_update hr (fun i gs => ?_) fun hne hq hid => ?_⟩
  · rw [h.grantsOf?_eq_some_iff, mem_holdings_iff]
    exact ⟨name, holdingsIn_eq hr ▸ hline⟩
  · rw [DatabaseRecord.mem_holdings_withGrants (h.record hr).ids_nodup hsound hhub,
      Option.some.injEq]
  · exact h.ids_apart hne hq hr hid (DatabaseRecord.mem_taskIds_of_mem_holdings hline)

theorem WellFormed.holdingsAfter_registerAccess (h : s.WellFormed) {grant : HubAccessGrant}
    (hrun : s.run index (.registerAccess name grant) = (.ok task, s')) :
    s.HoldingsAfter (s'.stamp index (some name)) index (.registerAccess name grant) := by
  obtain ⟨r, r', hr, hop, rfl⟩ := operation_eq_ok hrun
  obtain ⟨⟨definition, hhub, -⟩, -, rfl⟩ := addGrant_eq_ok (answering_eq_ok hop)
  obtain ⟨hbefore, hafter⟩ := h.grantsOf?_withGrants hr hhub (r.grants grant.hubName ++ [grant]) index
  refine ⟨definition.taskId, r.held grant.hubName, ⟨r, definition, hr, hhub, rfl⟩, hbefore, ?_⟩
  rw [hafter, List.map_append]
  rfl

theorem WellFormed.holdingsAfter_unregisterAccess (h : s.WellFormed) {hub thumbprint : String}
    (hrun : s.run index (.unregisterAccess name hub thumbprint) = (.ok task, s')) :
    s.HoldingsAfter (s'.stamp index (some name)) index (.unregisterAccess name hub thumbprint) := by
  obtain ⟨r, r', g, hr, hremove, rfl⟩ := removal_of_run hrun
  have hfound := DatabaseRecord.grant?_of_removeGrant hremove
  obtain ⟨⟨definition, hhub⟩, rfl⟩ := removeGrant_eq_ok hremove
  -- The grant that goes is the first of the certificate, and the only one.
  obtain ⟨grant, front, back, -, hsame, hgrants, herase⟩ :=
    List.exists_of_eraseP (List.mem_of_find?_eq_some hfound) (List.find?_some hfound)
  obtain ⟨hbefore, hafter⟩ := h.grantsOf?_withGrants hr hhub (front ++ back) index
  refine ⟨definition.taskId, front.map (·.unlabelled), grant.unlabelled,
    back.map (·.unlabelled), ⟨r, definition, hr, hhub, rfl⟩, hsame, ?_, ?_⟩
  · rw [hbefore, DatabaseRecord.held, hgrants, List.map_append, List.map_cons]
  · rw [herase, hafter, List.map_append]

theorem WellFormed.holdingsAfter_deleteTask (h : s.WellFormed) {id : TaskId}
    (hrun : s.run index (.deleteTask name id) = (.ok task, s')) :
    s.HoldingsAfter (s'.stamp index (some name)) index (.deleteTask name id) := by
  obtain ⟨r, r', hr, hop, rfl⟩ := operation_eq_ok hrun
  obtain ⟨deleted, hdelete⟩ := of_map_answer hop fun _ => rfl
  have hid : id ∈ r.taskIds := (DatabaseRecord.taskIds_deleteTask hdelete).mem_iff.2
    List.mem_cons_self
  have hafter : ((s.putRecord name r').stamp index (some name)).grantsOf? =
      Function.update s.grantsOf? id none := by
    refine h.grantsOf?_update hr (fun i gs => ?_) fun hne hq => h.ids_apart hne.symm hr hq hid
    rw [DatabaseRecord.mem_holdings_deleteTask (h.record hr).ids_nodup (h.record hr).hubs hdelete]
    by_cases hi : i = id <;> simp [hi]
  refine ⟨fun _ => hafter, fun hnone => ?_⟩
  -- A task of the database is no hub of another one.
  have hnothing : s.grantsOf? id = none := by
    rw [← Option.not_isSome_iff_eq_none, h.isSome_grantsOf?_iff]
    rintro ⟨other, q, hq, hmem⟩
    by_cases hother : other = name
    · exact hnone (hother ▸ ⟨q, hq, hmem⟩)
    · obtain ⟨gs, hmem⟩ := DatabaseRecord.mem_hubIds_iff.1 hmem
      exact h.ids_apart hother hq hr (DatabaseRecord.mem_taskIds_of_mem_holdings hmem) hid
  rw [hafter, ← hnothing, Function.update_eq_self]

theorem WellFormed.holdingsAfter_deleteDatabase (h : s.WellFormed) :
    s.HoldingsAfter ({ s with databases := s.databases.erase name }.stamp index (some name)) index
      (.deleteDatabase name) := by
  have hin : ∀ other,
      ({ s with databases := s.databases.erase name }.stamp index (some name)).holdingsIn other =
        if other = name then [] else s.holdingsIn other := fun other => by
    rw [holdingsIn_stamp, holdingsIn, database?]
    split
    · rename_i hother
      rw [hother, SortedMap.get?_erase_self]
      rfl
    · rename_i hother
      rw [SortedMap.get?_erase_of_ne _ hother]
      rfl
  intro id
  rw [hasHub_iff]
  constructor
  · rintro ⟨gs, hmem⟩
    refine grantsOf?_eq_of_forall fun gs' => ?_
    rw [mem_holdings_iff]
    refine iff_of_false ?_ (by simp)
    rintro ⟨other, hmem'⟩
    rw [hin] at hmem'
    split at hmem'
    · cases hmem'
    · rename_i hother
      exact hother (h.eq_of_mem_holdingsIn hmem' hmem)
  · intro hnone
    refine grantsOf?_eq_of_forall fun gs => ?_
    rw [h.grantsOf?_eq_some_iff, mem_holdings_iff, mem_holdings_iff]
    refine exists_congr fun other => ?_
    rw [hin]
    split
    · rename_i hother
      subst hother
      exact iff_of_false List.not_mem_nil fun hmem => hnone ⟨gs, hmem⟩
    · rfl

theorem WellFormed.grantsOf?_putDatabase (h : s.WellFormed) {topology : DatabaseTopology}
    (hrun : s.putDatabase name topology = (.ok task, s')) :
    (s'.stamp index (some name)).grantsOf? = s.grantsOf? := by
  unfold putDatabase at hrun
  split at hrun
  · cases hrun
  · split at hrun
    · cases hrun
    · cases hrun
      refine h.grantsOf?_congr fun other => ?_
      rw [holdingsIn_stamp, holdingsIn_putRecord]
      split
      · rename_i hother
        rw [hother, holdingsIn]
        cases s.database? name <;> rfl
      · rfl

/-- A command that succeeds leaves the grants with their hubs, but for those it is about. -/
theorem WellFormed.holdingsAfter_of_apply (h : s.WellFormed) (hlt : s.lastIndex < index)
    (happly : s.apply index command = (.ok task, s')) : s.HoldingsAfter s' index command := by
  obtain ⟨s'', hrun, rfl⟩ := apply_eq_ok happly
  cases command with
  | putClusterTopology topology =>
      simp only [run] at hrun
      split at hrun <;> cases hrun
      rfl
  | setNodeAlive node alive =>
      simp only [run] at hrun
      split at hrun <;> cases hrun
      rfl
  | putDatabase name topology => exact h.grantsOf?_putDatabase hrun
  | deleteDatabase name =>
      simp only [run] at hrun
      split at hrun <;> cases hrun
      exact h.holdingsAfter_deleteDatabase
  | defineHub name definition => exact h.holdingsAfter_defineHub hlt hrun
  | registerAccess name grant => exact h.holdingsAfter_registerAccess hrun
  | unregisterAccess name hub thumbprint => exact h.holdingsAfter_unregisterAccess hrun
  | defineSink name definition =>
      refine h.grantsOf?_of_withRecord (fun _ hop => ?_) hrun
      obtain ⟨_, hput⟩ := of_map_answer hop fun _ => rfl
      obtain ⟨-, ⟨-, rfl⟩ | ⟨_, _, -, -, -, rfl⟩⟩ := DatabaseRecord.putSink_eq_ok hput <;> rfl
  | defineExternal name definition =>
      refine h.grantsOf?_of_withRecord (fun _ hop => ?_) hrun
      obtain ⟨_, hput⟩ := of_map_answer hop fun _ => rfl
      obtain ⟨_, -, ⟨-, rfl⟩ | ⟨_, _, -, -, -, rfl⟩⟩ := DatabaseRecord.putExternal_eq_ok hput <;>
        rfl
  | putConnectionString name connection =>
      refine h.grantsOf?_of_withRecord (fun _ hop => ?_) hrun
      have hput := answering_eq_ok hop
      unfold DatabaseRecord.putConnectionString at hput
      split at hput <;> cases hput
      rfl
  | toggleTask name id disabled =>
      exact h.grantsOf?_of_withRecord
        (fun _ hop => DatabaseRecord.holdings_toggleTask (answering_eq_ok hop)) hrun
  | deleteTask name id => exact h.holdingsAfter_deleteTask hrun

/-! ### Commands that fail -/

theorem withRecord_eq_error {α : Type} {e : ReplicationError}
    {change : DatabaseRecord → Outcome α × DatabaseRecord}
    (h : s.withRecord name change = (.error e, s')) :
    s' = s ∨ ∃ r r', s.database? name = some r ∧ change r = (.error e, r') ∧
      s' = s.putRecord name r' := by
  unfold withRecord at h
  split at h
  · cases h
    exact .inl rfl
  · rename_i r hr
    cases hchange : change r with
    | mk outcome r' =>
        rw [hchange] at h
        cases h
        exact .inr ⟨r, r', hr, hchange, rfl⟩

theorem holdingsIn_of_withRecord_error {α : Type} {e : ReplicationError}
    {change : DatabaseRecord → Outcome α × DatabaseRecord}
    (hsame : ∀ {r r'}, change r = (.error e, r') → r'.holdings = r.holdings)
    (h : s.withRecord name change = (.error e, s')) (other : String) :
    s'.holdingsIn other = s.holdingsIn other := by
  rcases withRecord_eq_error h with rfl | ⟨r, r', hr, hchange, rfl⟩
  · rfl
  · rw [holdingsIn_putRecord]
    split
    · rename_i hother
      rw [hother, holdingsIn_eq hr, hsame hchange]
    · rfl

theorem holdings_of_orUnchanged_error {α : Type} {e : ReplicationError}
    {operation : DatabaseRecord → Outcome (α × DatabaseRecord)}
    (h : orUnchanged operation r = (.error e, r')) : r'.holdings = r.holdings := by
  unfold orUnchanged at h
  split at h <;> cases h
  rfl

/-- A command that fails leaves all grants with their hubs, whatever it did to its copy. -/
theorem WellFormed.grantsOf?_of_apply_error (h : s.WellFormed) {e : ReplicationError}
    (happly : s.apply index command = (.error e, s')) : s'.grantsOf? = s.grantsOf? := by
  have hrun : s.run index command = (.error e, s') := by
    unfold apply at happly
    split at happly
    · rename_i hrun
      cases happly
      exact hrun
    · cases happly
  refine h.grantsOf?_congr fun other => ?_
  cases command with
  | putClusterTopology topology =>
      simp only [run] at hrun
      split at hrun <;> cases hrun
      rfl
  | setNodeAlive node alive =>
      simp only [run] at hrun
      split at hrun <;> cases hrun
      rfl
  | putDatabase name topology =>
      simp only [run, putDatabase] at hrun
      split at hrun
      · cases hrun
        rfl
      · split at hrun <;> cases hrun
        rfl
  | deleteDatabase name =>
      simp only [run] at hrun
      split at hrun <;> cases hrun
      rfl
  | unregisterAccess name hub thumbprint =>
      simp only [run] at hrun
      refine holdingsIn_of_withRecord_error (fun {r r'} hchange => ?_) hrun other
      cases hremove : r.removeGrant hub thumbprint with
      | mk outcome r'' =>
          simp only [hremove, Prod.mk.injEq] at hchange
          obtain ⟨houtcome, rfl⟩ := hchange
          cases outcome with
          | ok g => cases houtcome
          | error e' => exact DatabaseRecord.holdings_of_removeGrant_error hremove
  | defineHub | registerAccess | defineSink | defineExternal | putConnectionString | toggleTask
  | deleteTask =>
      simp only [run] at hrun
      exact holdingsIn_of_withRecord_error (fun hchange => holdings_of_orUnchanged_error hchange)
        hrun other

/-- Grants stay with their hub.  A command that fails leaves all of them as they are; one that
succeeds changes those it is about and no others. -/
theorem grants_stay (hs : s.Reachable) (hlt : s.lastIndex < index) (command : ClusterCommand) :
    match s.apply index command with
    | (.ok _, s') => s.HoldingsAfter s' index command
    | (.error _, s') => s'.grantsOf? = s.grantsOf? := by
  split
  · rename_i happly
    exact hs.wellFormed.holdingsAfter_of_apply hlt happly
  · rename_i happly
    exact hs.wellFormed.grantsOf?_of_apply_error happly

/-- A database with a hub that one certificate has a grant on. -/
def sharedFeed : ClusterState := replay (renamedHub.take 4)

/-- The hub is given another name. -/
def renameFeed : ClusterCommand :=
  .defineHub "orders" { HubDefinition.new "news" .hubToSink with taskId := ⟨3⟩ }

/-- The hub keeps its one grant under its new name. -/
theorem grants_stay_renameFeed :
    sharedFeed.lastIndex < 9 ∧
      (sharedFeed.apply 9 renameFeed).2.grantsOf? = sharedFeed.grantsOf? ∧
      ((sharedFeed.apply 9 renameFeed).2.grantsOf? ⟨3⟩).map
        (·.map (·.certificateThumbprint)) = some ["AB12"] ∧
      ((sharedFeed.apply 9 renameFeed).2.database? "orders").map
        (fun r => r.hubs.map fun hub => (hub.name, (r.grants hub.name).map (·.hubName))) =
          some [("news", ["news"])] := by
  have hlt : sharedFeed.lastIndex < 9 := by decide +kernel
  have hok : (sharedFeed.apply 9 renameFeed).1 = .ok (some ⟨3⟩) := by decide +kernel
  have hreachable : sharedFeed.Reachable := reachable_replay (by decide) (by decide)
  have hstay := grants_stay hreachable hlt renameFeed
  rw [show sharedFeed.apply 9 renameFeed = (.ok (some ⟨3⟩), (sharedFeed.apply 9 renameFeed).2) from
    Prod.ext hok rfl] at hstay
  exact ⟨hlt, hstay, by decide +kernel, by decide +kernel⟩

end ClusterState

end HubReplication
