/-
**Looking up in sound records.**

Hubs are looked up by their names, grants by thumbprints, tasks by their identities.  In a sound
record each of these is found at most once, so a look-up finds what is there and nothing else, and
what it finds after an operation is plain: a grant that was added is found, one that was removed is
not, and neither is a task that was deleted.

Main results:

* `HubsSound.hub?_eq_some_iff`, `HubsSound.grant?_eq_some_iff` — what is found is what is there;
* `DatabaseRecord.isSome_task?_iff` — a task is found by any of the identities there are;
* `DatabaseRecord.grant?_addGrant`, `DatabaseRecord.grant?_removeGrant` — grants after an
  operation;
* `DatabaseRecord.checkHubUpdate_of_putHub` — a hub that was put may be put again.
-/

import HubReplication.Proofs.Cluster.Record

set_option relaxedAutoImplicit false
set_option autoImplicit false

namespace HubReplication

/-! ### The one element that passes a test -/

/-- When one element at most passes a test, the first that passes is any that passes. -/
theorem find?_eq_some_iff_of_unique {α : Type} {p : α → Bool} {l : List α}
    (hunique : ∀ a ∈ l, ∀ b ∈ l, p a = true → p b = true → a = b) {a : α} :
    l.find? p = some a ↔ a ∈ l ∧ p a = true := by
  constructor
  · intro h
    exact ⟨List.mem_of_find?_eq_some h, List.find?_some h⟩
  · rintro ⟨ha, hp⟩
    cases hfind : l.find? p with
    | none => exact absurd hp (List.find?_eq_none.1 hfind a ha)
    | some b =>
        rw [hunique a ha b (List.mem_of_find?_eq_some hfind) hp (List.find?_some hfind)]

/-- When one element at most passes a test, none is left once the first was erased. -/
theorem find?_eraseP_eq_none {α : Type} {p : α → Bool} {l : List α}
    (happart : l.Pairwise fun a b => p a = true → p b = false) : (l.eraseP p).find? p = none := by
  induction l with
  | nil => rfl
  | cons a rest ih =>
      rw [List.pairwise_cons] at happart
      cases hp : p a with
      | true =>
          -- The first that passes is erased, and none after it passes.
          rw [List.eraseP_cons_of_pos hp, List.find?_eq_none]
          intro b hb
          simp [happart.1 b hb hp]
      | false =>
          rw [List.eraseP_cons_of_neg (by simp [hp]), List.find?_cons_of_neg (by simp [hp])]
          exact ih happart.2

/-! ### Sound records -/

section Sound

variable {r r' : DatabaseRecord} {name thumbprint : String} {hub : HubDefinition}
  {grant : HubAccessGrant}

theorem HubsSound.hub?_eq_some_iff (h : HubsSound r.hubs r.hubGrants) :
    r.hub? name = some hub ↔ hub ∈ r.hubs ∧ Text.sameName hub.name name = true := by
  refine find?_eq_some_iff_of_unique fun a ha b hb hname hname' => ?_
  rw [Text.sameName_comm] at hname'
  exact h.names.eq_of_sameName ha hb (Text.sameName_trans hname hname')

theorem sameThumbprint_eq_true_iff {a b : String} :
    sameThumbprint a b = true ↔ Text.asciiUpper a = Text.asciiUpper b := by simp [sameThumbprint]

/-- Grants of one thumbprint on a hub are one grant. -/
theorem GrantsOf.eq_of_sameThumbprint {gs : List HubAccessGrant} (h : GrantsOf hub gs)
    {g g' : HubAccessGrant} (hg : g ∈ gs) (hg' : g' ∈ gs)
    (hsame : sameThumbprint g.certificateThumbprint thumbprint = true)
    (hsame' : sameThumbprint g'.certificateThumbprint thumbprint = true) : g = g' := by
  rw [sameThumbprint_eq_true_iff] at hsame hsame'
  have happart := h.apart.imp fun {a b : HubAccessGrant} hab =>
    show ¬sameThumbprint a.certificateThumbprint b.certificateThumbprint = true by simp [hab]
  refine eq_of_pairwise_not (fun a b hab => ?_) happart hg hg' ?_
  · rw [sameThumbprint_eq_true_iff] at hab ⊢
    exact hab.symm
  · rw [sameThumbprint_eq_true_iff, hsame, hsame']

theorem HubsSound.grant?_eq_some_iff (h : HubsSound r.hubs r.hubGrants) (hhub : hub ∈ r.hubs) :
    r.grant? hub.name thumbprint = some grant ↔
      grant ∈ r.grants hub.name ∧
        sameThumbprint grant.certificateThumbprint thumbprint = true := by
  have hgrants := h.grants_fit.grantsOf_grants h.names hhub (Text.sameName_self hub.name)
  exact find?_eq_some_iff_of_unique fun a ha b hb hsame hsame' =>
    hgrants.eq_of_sameThumbprint ha hb hsame hsame'

/-- No hub has an empty name. -/
theorem HubsSound.hub?_empty (h : HubsSound r.hubs r.hubGrants) : r.hub? "" = none := by
  cases hfind : r.hub? "" with
  | none => rfl
  | some hub =>
      obtain ⟨hmem, hname⟩ := h.hub?_eq_some_iff.1 hfind
      -- A name that is the empty one, case aside, is empty, and such a name has no shape.
      have hchars : hub.name.toList.map Char.toLower = [] := by
        rw [← Text.toList_asciiLower, Text.sameName_eq_true_iff.1 hname]
        rfl
      have hblank : Text.isBlankText hub.name = true := by
        rw [Text.isBlankText, List.map_eq_nil_iff.1 hchars]
        rfl
      have hshape := h.shape hmem
      rw [HubDefinition.validateShape, validateTaskName, if_pos hblank] at hshape
      cases hshape

end Sound

/-! ### After an operation -/

namespace DatabaseRecord

variable {r r' : DatabaseRecord} {id : TaskId}

theorem isSome_task?_iff : (r.task? id).isSome = true ↔ id ∈ r.taskIds := by
  simp [task?, taskIds]

theorem grants_withGrants {hub name : String} {gs : List HubAccessGrant}
    (hname : Text.sameName hub name = true) : (r.withGrants hub gs).grants name = gs := by
  rw [grants, withGrants, grantKey_eq_iff.2 hname, SortedMap.get?_insert_self]
  rfl

/-- A grant that was added is found. -/
theorem grant?_addGrant {g : HubAccessGrant} (h : r.addGrant g = .ok r') :
    (r'.grant? g.hubName g.certificateThumbprint).isSome = true := by
  obtain ⟨-, -, rfl⟩ := addGrant_eq_ok h
  rw [grant?, grants_withGrants (Text.sameName_self _), List.find?_isSome]
  exact ⟨g, List.mem_append_right _ List.mem_cons_self, sameThumbprint_eq_true_iff.2 rfl⟩

/-- A grant that was removed is not found. -/
theorem grant?_removeGrant (hr : HubsSound r.hubs r.hubGrants) {hub thumbprint name : String}
    {g : HubAccessGrant} (h : r.removeGrant hub thumbprint = (.ok g, r'))
    (hname : Text.sameName hub name = true) : r'.grant? name thumbprint = none := by
  obtain ⟨⟨definition, hdefinition⟩, rfl⟩ := removeGrant_eq_ok h
  obtain ⟨hmem, hsame⟩ := mem_of_hub? hdefinition
  have hgrants := hr.grants_fit.grantsOf_grants hr.names hmem hsame
  rw [grant?, grants_withGrants hname]
  refine find?_eraseP_eq_none (hgrants.apart.imp fun {a b} hapart ha => ?_)
  rw [Bool.eq_false_iff]
  intro hb
  rw [sameThumbprint_eq_true_iff] at ha hb
  -- Two grants of the thumbprint would not be apart.
  have hboth := sameThumbprint_eq_true_iff.2 (ha.trans hb.symm)
  rw [hapart] at hboth
  cases hboth

theorem checkGrants_eq_ok {current definition : HubDefinition} {gs : List HubAccessGrant}
    (h : ∀ g ∈ gs, g.validate definition = .ok ()) :
    checkGrants current definition gs = .ok () := by
  induction gs with
  | nil => rfl
  | cons g rest ih =>
      rw [checkGrants, h g List.mem_cons_self]
      exact ih fun g' hg' => h g' (List.mem_cons_of_mem _ hg')

/-- A hub that was put may be put again: it is there under its identity, and its grants fit it. -/
theorem checkHubUpdate_of_putHub {definition : HubDefinition} {index : Nat}
    (h : r.putHub definition index = .ok (id, r')) (hids : r'.taskIds.Nodup)
    (hr : HubsSound r'.hubs r'.hubGrants) : r'.checkHubUpdate definition = .ok () := by
  obtain ⟨-, ⟨hunassigned, -, -⟩ | ⟨-, position, previous, hget, -, -, -, rfl⟩⟩ := putHub_eq_ok h
  · simp [checkHubUpdate, hunassigned]
  · unfold checkHubUpdate
    split
    · rfl
    · have hmem : definition ∈ (r.replaceHub definition position previous).hubs := by
        obtain ⟨hlt, -⟩ := List.getElem?_eq_some_iff.1 hget
        exact List.mem_set hlt definition
      -- Identities differ, so what is found under that of the definition is the definition.
      have hfound : (r.replaceHub definition position previous).hubs.find?
          (·.taskId == definition.taskId) = some definition := by
        rw [taskIds_eq, List.append_assoc] at hids
        have hapart := List.pairwise_map.1 (List.nodup_append.1 hids).1
        refine (find?_eq_some_iff_of_unique fun a ha b hb heq heq' => ?_).2 ⟨hmem, by simp⟩
        refine eq_of_pairwise_not (R := fun a b => a.taskId = b.taskId) (fun _ _ h => h.symm)
          hapart ha hb ?_
        rw [beq_iff_eq] at heq heq'
        exact heq.trans heq'.symm
      rw [hfound]
      have hgrants := hr.grants_fit.grantsOf_grants hr.names hmem (Text.sameName_self _)
      exact checkGrants_eq_ok fun g hg => hgrants.fits hg

end DatabaseRecord

end HubReplication
