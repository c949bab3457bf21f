/-
**Commands that fail.**

A command that fails leaves the state it was applied to as it was, with one exception.  The removal
of a grant puts the hub among those with grants before it looks for the certificate, and where the
certificate has no grant the hub stays there, without grants.  Nothing that is looked up by the name
of a hub tells such a state from the one before; as a value it is another one.

Main definitions:

* `ClusterState.ListsHub` — the removal that lists a hub, and the state it leaves.

Main results:

* `DatabaseRecord.removeGrant_eq_error` — the ways a removal fails;
* `ClusterState.run_eq_error` — what a command that fails leaves, command by command;
* `ClusterState.changed_by_failure_iff` — a failure changes the state just where it lists a hub;
* `ClusterState.ListsHub.alike` — what is looked up in the states is the same.
-/

import HubReplication.Proofs.Cluster.Holdings

set_option relaxedAutoImplicit false
set_option autoImplicit false

namespace HubReplication

namespace DatabaseRecord

variable {r r' : DatabaseRecord} {hub thumbprint : String} {e : ReplicationError}

/-- The grants of a hub put in their own place leave the record as it is if the hub is listed. -/
theorem withGrants_grants_eq_self_iff :
    r.withGrants hub (r.grants hub) = r ↔ (r.hubGrants.get? (grantKey hub)).isSome = true := by
  have hmap : r.withGrants hub (r.grants hub) = r ↔
      r.hubGrants.insert (grantKey hub) (r.grants hub) = r.hubGrants := by
    cases r
    simp [withGrants]
  rw [hmap, SortedMap.insert_eq_self_iff, grants]
  cases r.hubGrants.get? (grantKey hub) <;> simp

/-- A removal fails for a hub that is not there, and for a certificate without a grant on it; then
the hub is listed. -/
theorem removeGrant_eq_error (h : r.removeGrant hub thumbprint = (.error e, r')) :
    r' = r ∨ (r.hub? hub).isSome = true ∧ r' = r.withGrants hub (r.grants hub) := by
  unfold removeGrant at h
  split at h
  · cases h
    exact .inl rfl
  · rename_i hsome
    split at h
    · cases h
      exact .inr ⟨by simpa [Option.isNone_iff_eq_none, Option.isSome_iff_ne_none] using hsome, rfl⟩
    · cases h

end DatabaseRecord

namespace ClusterState

open DatabaseRecord (grantKey)

variable {s s' : ClusterState} {index : Nat} {command : ClusterCommand} {name : String}
  {r r' : DatabaseRecord} {e : ReplicationError}

/-- The removal of a grant from a hub that is there but not listed among those with grants, and the
state in which it is listed, without any. -/
inductive ListsHub (s : ClusterState) : ClusterCommand → ClusterState → Prop
  | removal {name hub thumbprint : String} {r : DatabaseRecord} (hr : s.database? name = some r)
      (hhub : (r.hub? hub).isSome = true) (hunlisted : r.hubGrants.get? (grantKey hub) = none) :
      ListsHub s (.unregisterAccess name hub thumbprint) (s.putRecord name (r.withGrants hub []))

theorem putRecord_eq_self_iff : s.putRecord name r = s ↔ s.database? name = some r := by
  rw [database?, ← SortedMap.insert_eq_self_iff]
  cases s
  simp [putRecord]

/-! ### What fails -/

theorem apply_eq_error (h : s.apply index command = (.error e, s')) :
    s.run index command = (.error e, s') := by
  unfold apply at h
  split at h
  · rename_i hrun
    cases h
    exact hrun
  · cases h

theorem orUnchanged_eq_error {α : Type} {operation : DatabaseRecord → Outcome (α × DatabaseRecord)}
    (h : orUnchanged operation r = (.error e, r')) : r' = r := by
  unfold orUnchanged at h
  split at h <;> cases h
  rfl

/-- An operation that changes nothing when it fails, on the record of a database. -/
theorem eq_of_withRecord_error {α : Type}
    {operation : DatabaseRecord → Outcome (α × DatabaseRecord)}
    (h : s.withRecord name (orUnchanged operation) = (.error e, s')) : s' = s := by
  rcases withRecord_eq_error h with rfl | ⟨r, r', hr, hchange, rfl⟩
  · rfl
  · rw [orUnchanged_eq_error hchange, putRecord_eq_self_iff]
    exact hr

theorem unregisterAccess_eq_error {hub thumbprint : String}
    (h : s.run index (.unregisterAccess name hub thumbprint) = (.error e, s')) :
    s' = s ∨ s.ListsHub (.unregisterAccess name hub thumbprint) s' := by
  simp only [run] at h
  rcases withRecord_eq_error h with rfl | ⟨r, r', hr, hchange, rfl⟩
  · exact .inl rfl
  -- A removal gives a record whatever comes of it, so the failure is read off its outcome.
  cases hremove : r.removeGrant hub thumbprint with
  | mk outcome r'' =>
      rw [hremove] at hchange
      obtain ⟨houtcome, rfl⟩ := Prod.mk.inj hchange
      cases outcome with
      | ok g => cases houtcome
      | error e' =>
          rcases DatabaseRecord.removeGrant_eq_error hremove with rfl | ⟨hhub, rfl⟩
          · exact .inl (putRecord_eq_self_iff.2 hr)
          · cases hlisted : r.hubGrants.get? (grantKey hub) with
            | none =>
                refine .inr ?_
                rw [show r.grants hub = [] by simp [DatabaseRecord.grants, hlisted]]
                exact .removal hr hhub hlisted
            | some gs =>
                refine .inl (putRecord_eq_self_iff.2 ?_)
                rw [hr, DatabaseRecord.withGrants_grants_eq_self_iff.2 (by simp [hlisted])]

/-- A command that fails leaves the state, or it is the removal that lists a hub. -/
theorem run_eq_error (h : s.run index command = (.error e, s')) :
    s' = s ∨ s.ListsHub command s' := by
  cases command with
  | putClusterTopology topology =>
      simp only [run] at h
      split at h <;> cases h
      exact .inl rfl
  | setNodeAlive node alive =>
      simp only [run] at h
      split at h <;> cases h
      exact .inl rfl
  | putDatabase name topology =>
      simp only [run, putDatabase] at h
      split at h
      · cases h
        exact .inl rfl
      · split at h <;> cases h
        exact .inl rfl
  | deleteDatabase name =>
      simp only [run] at h
      split at h <;> cases h
      exact .inl rfl
  | unregisterAccess name hub thumbprint => exact unregisterAccess_eq_error h
  | defineHub | registerAccess | defineSink | defineExternal | putConnectionString | toggleTask
  | deleteTask => exact .inl (eq_of_withRecord_error h)

/-! ### What a failure leaves -/

/-- The state in which the hub is listed is another one. -/
theorem ListsHub.ne (h : s.ListsHub command s') : s' ≠ s := by
  obtain ⟨hr, -, hunlisted⟩ := h
  rename_i name hub _ r
  intro heq
  have hsame : some r = some (r.withGrants hub []) := hr ▸ putRecord_eq_self_iff.1 heq
  have hlisted : (r.withGrants hub []).hubGrants.get? (grantKey hub) = some [] :=
    SortedMap.get?_insert_self _ _ _
  rw [← Option.some.inj hsame, hunlisted] at hlisted
  cases hlisted

/-- A failure changes the state exactly where it lists a hub among those with grants, and that is
all it changes then. -/
theorem changed_by_failure_iff (h : s.apply index command = (.error e, s')) :
    s' ≠ s ↔ s.ListsHub command s' := by
  constructor
  · intro hne
    exact (run_eq_error (apply_eq_error h)).resolve_left hne
  · exact ListsHub.ne

/-- A database with a hub that nobody was ever granted access to. -/
def bareFeed : ClusterState := replay (renamedHub.take 3)

/-- The removal of a grant that nobody holds. -/
def dropUnknown : ClusterCommand := .unregisterAccess "orders" "Feed" "AB12"

/-- The removal fails, and the hub is listed from then on. -/
theorem changed_by_failure_dropUnknown :
    bareFeed.Reachable ∧ ∃ e s', bareFeed.apply 4 dropUnknown = (.error e, s') ∧ s' ≠ bareFeed ∧
      bareFeed.ListsHub dropUnknown s' ∧
      (bareFeed.database? "orders").map (·.hubGrants.toList) = some [] ∧
      (s'.database? "orders").map (·.hubGrants.toList) = some [("feed", [])] := by
  have hfails : bareFeed.apply 4 dropUnknown =
      (.error (.notFound "hub 'Feed' has no access grant for certificate AB12"),
        (bareFeed.apply 4 dropUnknown).2) :=
    Prod.ext (by decide +kernel) rfl
  have hchanged : (bareFeed.apply 4 dropUnknown).2 ≠ bareFeed := by decide +kernel
  exact ⟨reachable_replay (by decide) (by decide), _, _, hfails, hchanged,
    (changed_by_failure_iff hfails).1 hchanged, by decide +kernel, by decide +kernel⟩

/-- Of every database the states have the same record, up to the hub that is listed in one of them;
the grants on any hub are the same. -/
theorem ListsHub.alike (h : s.ListsHub command s') (other : String) :
    s'.database? other = s.database? other ∨
      ∃ r hub, s.database? other = some r ∧ s'.database? other = some (r.withGrants hub []) ∧
        (r.withGrants hub []).grants = r.grants := by
  obtain ⟨hr, -, hunlisted⟩ := h
  rename_i name hub _ r
  by_cases hother : other = name
  · subst hother
    refine .inr ⟨r, hub, hr, SortedMap.get?_insert_self _ _ _, funext fun asked => ?_⟩
    by_cases hkey : grantKey asked = grantKey hub
    · rw [DatabaseRecord.grants_withGrants (grantKey_eq_iff.1 hkey.symm),
        DatabaseRecord.grants, hkey, hunlisted]
      rfl
    · rw [DatabaseRecord.grants, DatabaseRecord.withGrants, SortedMap.get?_insert_of_ne _ _ hkey]
      rfl
  · exact .inl (SortedMap.get?_insert_of_ne _ _ hother)

end ClusterState

end HubReplication
