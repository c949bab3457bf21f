/-
**Grants and their hubs.**

Grants are kept apart from the hubs they are on, under the name of the hub in small letters.  What
ties them together is that every list of grants that is not empty stands under the name of a hub
there is, and that each grant in it names that hub, fits its definition as it is now, and is for a
certificate of its own.  Renaming a hub moves its grants, a new definition is checked against them,
and a hub takes them along when it goes.

Main definitions:

* `GrantsFit` — grants and hubs agree.

Main results:

* `GrantsFit.add`, `GrantsFit.remove` — one more grant, one less;
* `GrantsFit.of_heirs` — hubs that differ in nothing that grants look at;
* `GrantsFit.replace` — a new definition of a hub, under whatever name;
* `GrantsFit.delete` — a hub goes.
-/

import HubReplication.Proofs.Bindings
import HubReplication.Proofs.Cluster.Tasks

set_option relaxedAutoImplicit false
set_option autoImplicit false

namespace HubReplication

open DatabaseRecord

/-- The grants of a list are for one hub: each names it, fits its definition, and is for a
certificate of its own. -/
structure GrantsOf (hub : HubDefinition) (grants : List HubAccessGrant) : Prop where
  hubName : ∀ {g}, g ∈ grants → Text.sameName g.hubName hub.name = true
  fits : ∀ {g}, g ∈ grants → g.validate hub = .ok ()
  apart : grants.Pairwise fun a b =>
    sameThumbprint a.certificateThumbprint b.certificateThumbprint = false

/-- Every list of grants that is not empty stands under the name of a hub, and is for it. -/
def GrantsFit (hubs : List HubDefinition) (grants : SortedMap String (List HubAccessGrant)) :
    Prop :=
  ∀ ⦃k gs⦄, grants.get? k = some gs → gs ≠ [] →
    ∃ hub ∈ hubs, k = grantKey hub.name ∧ GrantsOf hub gs

theorem grantKey_eq_iff {a b : String} :
    grantKey a = grantKey b ↔ Text.sameName a b = true :=
  Text.sameName_eq_true_iff.symm

theorem GrantsOf.nil (hub : HubDefinition) : GrantsOf hub [] where
  hubName h := by cases h
  fits h := by cases h
  apart := List.Pairwise.nil

theorem GrantsOf.sublist {hub : HubDefinition} {gs gs' : List HubAccessGrant}
    (h : GrantsOf hub gs) (hsub : gs'.Sublist gs) : GrantsOf hub gs' :=
  ⟨fun hg => h.hubName (hsub.subset hg), fun hg => h.fits (hsub.subset hg), h.apart.sublist hsub⟩

section Fit

variable {hubs hubs' : List HubDefinition} {grants : SortedMap String (List HubAccessGrant)}

/-- Hubs that differ in nothing that grants look at. -/
theorem GrantsFit.of_heirs (h : GrantsFit hubs grants)
    (hheirs : ∀ hub ∈ hubs, ∃ heir ∈ hubs', heir.name = hub.name ∧
      ∀ g, HubAccessGrant.validate g hub = .ok () → g.validate heir = .ok ()) :
    GrantsFit hubs' grants := by
  intro k gs hget hne
  obtain ⟨hub, hhub, rfl, hgs⟩ := h hget hne
  obtain ⟨heir, hheir, hname, hvalid⟩ := hheirs hub hhub
  refine ⟨heir, hheir, by rw [hname], ?_, fun hg => hvalid _ (hgs.fits hg), hgs.apart⟩
  intro g hg
  rw [hname]
  exact hgs.hubName hg

theorem GrantsFit.subset (h : GrantsFit hubs grants) (hsub : hubs ⊆ hubs') :
    GrantsFit hubs' grants :=
  h.of_heirs fun hub hhub => ⟨hub, hsub hhub, rfl, fun _ hg => hg⟩

/-- The grants under the name of a hub are for it. -/
theorem GrantsFit.grantsOf (h : GrantsFit hubs grants) (hnames : NamesApart (·.name) hubs)
    {hub : HubDefinition} (hhub : hub ∈ hubs) {gs : List HubAccessGrant}
    (hget : grants.get? (grantKey hub.name) = some gs) : GrantsOf hub gs := by
  by_cases hne : gs = []
  · rw [hne]
    exact .nil hub
  · obtain ⟨other, hother, hkey, hgs⟩ := h hget hne
    rw [hnames.eq_of_sameName hhub hother (grantKey_eq_iff.1 hkey)]
    exact hgs

/-- Replace the grants under the name of a hub by others that are for it. -/
theorem GrantsFit.insert (h : GrantsFit hubs grants) {hub : HubDefinition} (hhub : hub ∈ hubs)
    {name : String} (hname : Text.sameName hub.name name = true) {gs : List HubAccessGrant}
    (hgs : GrantsOf hub gs) : GrantsFit hubs (grants.insert (grantKey name) gs) := by
  intro k gs' hget hne
  by_cases hk : k = grantKey name
  · rw [hk, SortedMap.get?_insert_self] at hget
    cases hget
    exact ⟨hub, hhub, hk.trans (grantKey_eq_iff.2 hname).symm, hgs⟩
  · rw [SortedMap.get?_insert_of_ne _ _ hk] at hget
    exact h hget hne

end Fit

/-! ### Operations on grants -/

section Operations

variable {r r' : DatabaseRecord}

theorem mem_of_hub? {name : String} {hub : HubDefinition} (h : r.hub? name = some hub) :
    hub ∈ r.hubs ∧ Text.sameName hub.name name = true := by
  unfold hub? at h
  have hname := List.find?_some h
  exact ⟨List.mem_of_find?_eq_some h, hname⟩

theorem GrantsFit.grantsOf_grants (h : GrantsFit r.hubs r.hubGrants)
    (hnames : NamesApart (·.name) r.hubs) {hub : HubDefinition} (hhub : hub ∈ r.hubs)
    {name : String} (hname : Text.sameName hub.name name = true) :
    GrantsOf hub (r.grants name) := by
  unfold grants
  rw [← grantKey_eq_iff.2 hname]
  cases hget : r.hubGrants.get? (grantKey hub.name) with
  | none => exact .nil hub
  | some gs => exact h.grantsOf hnames hhub hget

/-- A grant is added to a hub there is that lists no certificates itself and whose definition it
fits, for a certificate that holds none on it yet. -/
theorem addGrant_eq_ok {g : HubAccessGrant} (h : r.addGrant g = .ok r') :
    (∃ hub, r.hub? g.hubName = some hub ∧ hub.hasLegacyCertificates = false ∧
      g.validate hub = .ok ()) ∧
      r.grant? g.hubName g.certificateThumbprint = none ∧
      r' = r.withGrants g.hubName (r.grants g.hubName ++ [g]) := by
  unfold addGrant at h
  split at h
  · cases h
  · rename_i hub hhub
    split at h
    · cases h
    · rename_i hplain
      split at h
      · cases h
      · rename_i hvalid
        split at h
        · cases h
        · rename_i hfree
          cases h
          exact ⟨⟨hub, hhub, by simpa using hplain, hvalid⟩, by simpa using hfree, rfl⟩

/-- The grant of a certificate is removed from a hub there is. -/
theorem removeGrant_eq_ok {hub thumbprint : String} {g : HubAccessGrant}
    (h : r.removeGrant hub thumbprint = (.ok g, r')) :
    (∃ definition, r.hub? hub = some definition) ∧
      r' = r.withGrants hub
        ((r.grants hub).eraseP fun g => sameThumbprint g.certificateThumbprint thumbprint) := by
  unfold removeGrant at h
  split at h
  · cases h
  · rename_i hsome
    split at h
    · cases h
    · cases h
      exact ⟨Option.ne_none_iff_exists'.1 (by simpa using hsome), rfl⟩

theorem GrantsFit.add (h : GrantsFit r.hubs r.hubGrants) (hnames : NamesApart (·.name) r.hubs)
    {g : HubAccessGrant} (hadd : r.addGrant g = .ok r') :
    GrantsFit r.hubs r'.hubGrants := by
  obtain ⟨⟨hub, hhub, -, hvalid⟩, hfree, rfl⟩ := addGrant_eq_ok hadd
  obtain ⟨hmem, hname⟩ := mem_of_hub? hhub
  have hold := h.grantsOf_grants hnames hmem hname
  refine h.insert hmem hname ⟨?_, ?_, ?_⟩
  · intro g' hg'
    rcases List.mem_append.1 hg' with hg' | hg'
    · exact hold.hubName hg'
    · rw [List.mem_singleton.1 hg', Text.sameName_comm]
      exact hname
  · intro g' hg'
    rcases List.mem_append.1 hg' with hg' | hg'
    · exact hold.fits hg'
    · rw [List.mem_singleton.1 hg']
      exact hvalid
  · refine List.pairwise_append.2 ⟨hold.apart, List.pairwise_singleton _ _, ?_⟩
    intro a ha b hb
    rw [List.mem_singleton.1 hb]
    -- The certificate has no grant on the hub yet.
    simpa using List.find?_eq_none.1 hfree a ha

theorem GrantsFit.remove (h : GrantsFit r.hubs r.hubGrants) (hnames : NamesApart (·.name) r.hubs)
    {hub thumbprint : String} {g : HubAccessGrant}
    (hremove : r.removeGrant hub thumbprint = (.ok g, r')) :
    GrantsFit r.hubs r'.hubGrants := by
  obtain ⟨⟨definition, hdefinition⟩, rfl⟩ := removeGrant_eq_ok hremove
  obtain ⟨hmem, hname⟩ := mem_of_hub? hdefinition
  exact h.insert hmem hname
    ((h.grantsOf_grants hnames hmem hname).sublist List.eraseP_sublist)

/-! ### A new definition -/

theorem fits_of_checkGrants {current definition : HubDefinition} {gs : List HubAccessGrant}
    (h : checkGrants current definition gs = .ok ()) {g : HubAccessGrant} (hg : g ∈ gs) :
    g.validate definition = .ok () := by
  induction gs with
  | nil => cases hg
  | cons first rest ih =>
      rw [checkGrants] at h
      split at h
      · cases h
      · rename_i hfirst
        rcases List.mem_cons.1 hg with rfl | hg
        · exact hfirst
        · exact ih h hg

/-- The grants under a name, once those of a hub were moved from its old name to its new one. -/
theorem get?_renameGrants {grants : SortedMap String (List HubAccessGrant)}
    {previous name k : String} {gs : List HubAccessGrant}
    (hget : (renameGrants grants previous name).get? k = some gs) :
    (grants.get? k = some gs ∧ (Text.sameName previous name = false → k ≠ grantKey previous)) ∨
      k = grantKey name ∧ ∃ moved, grants.get? (grantKey previous) = some moved ∧
        gs = moved.map fun g => { g with hubName := name } := by
  unfold renameGrants at hget
  split at hget
  · rename_i hsame
    exact .inl ⟨hget, fun hne => absurd hsame (by simp [hne])⟩
  · split at hget
    · rename_i hnone
      refine .inl ⟨hget, fun _ hk => ?_⟩
      rw [hk, hnone] at hget
      cases hget
    · rename_i moved hmoved
      by_cases hk : k = grantKey name
      · rw [hk, SortedMap.get?_insert_self] at hget
        cases hget
        exact .inr ⟨hk, moved, hmoved, rfl⟩
      · rw [SortedMap.get?_insert_of_ne _ _ hk] at hget
        by_cases hprevious : k = grantKey previous
        · rw [hprevious, SortedMap.get?_erase_self] at hget
          cases hget
        · rw [SortedMap.get?_erase_of_ne _ hprevious] at hget
          exact .inl ⟨hget, fun _ => hprevious⟩

/-- Grants that fit a definition fit it under its new name too. -/
theorem GrantsOf.rename {hub definition : HubDefinition} {gs : List HubAccessGrant}
    (h : GrantsOf hub gs) (hfits : ∀ g ∈ gs, g.validate definition = .ok ()) :
    GrantsOf definition (gs.map fun g => { g with hubName := definition.name }) := by
  refine ⟨?_, ?_, List.pairwise_map.2 h.apart⟩
  · intro g hg
    obtain ⟨g', -, rfl⟩ := List.mem_map.1 hg
    exact Text.sameName_self _
  · intro g hg
    obtain ⟨g', hg', rfl⟩ := List.mem_map.1 hg
    exact hfits g' hg'

/-- A hub is given a new definition that its grants fit, and its grants go with it. -/
theorem GrantsFit.replace (h : GrantsFit r.hubs r.hubGrants)
    (hnames : NamesApart (·.name) r.hubs) {definition previous : HubDefinition} {position : Nat}
    (hget : r.hubs[position]? = some previous)
    (hfits : ∀ g ∈ r.grants previous.name, g.validate definition = .ok ()) :
    GrantsFit (r.replaceHub definition position previous).hubs
      (r.replaceHub definition position previous).hubGrants := by
  obtain ⟨hlt, hposition⟩ := List.getElem?_eq_some_iff.1 hget
  have hprevious : previous ∈ r.hubs := hposition ▸ List.getElem_mem hlt
  have hdefinition : definition ∈ r.hubs.set position definition := List.mem_set hlt definition
  have hgrants : ∀ {gs}, r.hubGrants.get? (grantKey previous.name) = some gs →
      r.grants previous.name = gs := fun hgs => by simp [grants, hgs]
  intro k gs hk hne
  rcases get?_renameGrants hk with ⟨hold, hmoved⟩ | ⟨rfl, moved, hmoved, rfl⟩
  · obtain ⟨hub, hhub, rfl, hgs⟩ := h hold hne
    by_cases heq : hub = previous
    · -- The name is the same, case aside, so the grants stayed where they were.
      subst heq
      have hsame : Text.sameName hub.name definition.name = true := by
        cases hcase : Text.sameName hub.name definition.name with
        | true => rfl
        | false => exact absurd rfl (hmoved hcase)
      refine ⟨definition, hdefinition, grantKey_eq_iff.2 hsame, ?_, ?_, hgs.apart⟩
      · exact fun hg => Text.sameName_trans (hgs.hubName hg) hsame
      · exact fun {g} hg => hfits g (hgrants hold ▸ hg)
    · obtain ⟨i, hi, rfl⟩ := List.getElem_of_mem hhub
      have hother : position ≠ i := by
        rintro rfl
        exact heq hposition
      refine ⟨r.hubs[i], ?_, rfl, hgs⟩
      refine List.mem_iff_getElem.2 ⟨i, by simpa [replaceHub] using hi, ?_⟩
      simp [replaceHub, hother]
  · refine ⟨definition, hdefinition, rfl, ?_⟩
    exact (h.grantsOf hnames hprevious hmoved).rename fun g hg => hfits g (hgrants hmoved ▸ hg)

/-! ### A hub goes -/

/-- The grants of a hub go with it. -/
theorem GrantsFit.delete (h : GrantsFit r.hubs r.hubGrants) {id : TaskId} {hub : HubDefinition}
    (hfind : r.hubs.find? (·.taskId == id) = some hub) :
    GrantsFit (r.hubs.eraseP (·.taskId == id)) (r.hubGrants.erase (grantKey hub.name)) := by
  intro k gs hget hne
  by_cases hk : k = grantKey hub.name
  · rw [hk, SortedMap.get?_erase_self] at hget
    cases hget
  · rw [SortedMap.get?_erase_of_ne _ hk] at hget
    obtain ⟨other, hother, rfl, hgs⟩ := h hget hne
    refine ⟨other, mem_eraseP_of_find? hfind hother ?_, rfl, hgs⟩
    rintro rfl
    exact hk rfl

end Operations

end HubReplication
