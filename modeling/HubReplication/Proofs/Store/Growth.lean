/-
**What a store has seen.**

Whatever is written to a store, here or from elsewhere, it never forgets what it has seen: the
change vector under a key only grows, new versions stand above all etags there were, and the etags
accepted from its sources never go back.  All that other proofs need of a write is said once, as a
relation between a store and a later one.

Main definitions:

* `Store.HasSeen` — what the store has under the key of a version dominates the version;
* `Store.Later` — one store is a later state of another.

Main results:

* `Store.writeLocal_later`, `Store.applyBatch_later` — every write leads to a later state;
* `Store.hasSeen_of_applyBatch` — after a batch the store has seen each of its items;
* `Store.lastReplicatedEtag_applyBatch` — and accepted its etag, from its source only;
* `Store.writeLocal_dominates`, `Store.applyBatch_dominates` — what the database has seen only grows.
-/

import HubReplication.Proofs.ChangeVector.Order
import HubReplication.Proofs.Store.Index

set_option relaxedAutoImplicit false
set_option autoImplicit false

namespace HubReplication.Store

variable {s s' s'' : Store}

/-! ### Later states -/

/-- What the store has under the key of a version dominates the version. -/
def HasSeen (s : Store) (item : Item) : Prop :=
  ∃ own, s.items.get? item.key = some own ∧
    own.changeVector.dominates item.changeVector = true

/-- One store is a later state of another. -/
structure Later (s s' : Store) : Prop where
  databaseId_eq : s'.databaseId = s.databaseId
  lastEtag_le : s.lastEtag ≤ s'.lastEtag
  /-- New versions stand above all etags that there were. -/
  old : ∀ {k item}, s'.items.get? k = some item → item.etag ≤ s.lastEtag →
    s.items.get? k = some item
  hasSeen : ∀ {item}, s.HasSeen item → s'.HasSeen item
  accepted_le : ∀ source, s.lastReplicatedEtag source ≤ s'.lastReplicatedEtag source
  wellIndexed : s.WellIndexed → s'.WellIndexed

namespace Later

theorem refl (s : Store) : s.Later s :=
  ⟨rfl, Nat.le_refl _, fun h _ => h, id, fun _ => Nat.le_refl _, id⟩

theorem trans (h : s.Later s') (h' : s'.Later s'') : s.Later s'' where
  databaseId_eq := h'.databaseId_eq.trans h.databaseId_eq
  lastEtag_le := Nat.le_trans h.lastEtag_le h'.lastEtag_le
  old hitem hle := h.old (h'.old hitem (Nat.le_trans hle h.lastEtag_le)) hle
  hasSeen hseen := h'.hasSeen (h.hasSeen hseen)
  accepted_le source := Nat.le_trans (h.accepted_le source) (h'.accepted_le source)
  wellIndexed hs := h'.wellIndexed (h.wellIndexed hs)

/-- A change of anything but versions, index and etags leads to a later state. -/
theorem of_items_eq (hid : s'.databaseId = s.databaseId) (hitems : s'.items = s.items)
    (hindex : s'.byEtag = s.byEtag) (hetag : s'.lastEtag = s.lastEtag)
    (haccepted : ∀ source, s.lastReplicatedEtag source ≤ s'.lastReplicatedEtag source) :
    s.Later s' where
  databaseId_eq := hid
  lastEtag_le := Nat.le_of_eq hetag.symm
  old hitem _ := hitems ▸ hitem
  hasSeen := by
    rintro item ⟨own, hown, hdom⟩
    exact ⟨own, hitems ▸ hown, hdom⟩
  accepted_le := haccepted
  wellIndexed hs :=
    ⟨fun h => hs.key_eq (hitems ▸ h), fun h => hindex ▸ hs.indexed (hitems ▸ h),
      fun h => hitems ▸ hs.listed (hindex ▸ h), fun h => hs.etag_pos (hitems ▸ h),
      fun h => hetag ▸ hs.etag_le (hitems ▸ h)⟩

end Later

/-! ### Keeping a version -/

theorem keep_later {item : Item} {cv : ChangeVector}
    (hcv : ∀ {own}, s.items.get? item.key = some own → cv.dominates own.changeVector = true) :
    s.Later (s.keep item cv) where
  databaseId_eq := rfl
  lastEtag_le := Nat.le_succ _
  old := by
    intro k own h hle
    rw [get?_keep] at h
    split at h
    · cases h
      exact absurd hle (Nat.not_succ_le_self _)
    · exact h
  hasSeen := by
    rintro seen ⟨own, hown, hdom⟩
    by_cases hk : seen.key = item.key
    · refine ⟨_, by rw [get?_keep, if_pos hk], ?_⟩
      exact ChangeVector.dominates_trans (hcv (hk ▸ hown)) hdom
    · exact ⟨own, by rw [get?_keep, if_neg hk, hown], hdom⟩
  accepted_le _ := Nat.le_refl _
  wellIndexed hs := hs.keep item cv

theorem seen_eq {k : ItemKey} {own : Item} (h : s.items.get? k = some own) :
    s.seen k = own.changeVector := by
  simp [seen, h]

theorem keepLocal_later (item : Item) : s.Later (s.keepLocal item) :=
  keep_later fun h => by
    rw [seen_eq h]
    exact ChangeVector.raise_dominates _ _ _

theorem keepReplicated_later (item : Item) : s.Later (s.keepReplicated item) :=
  keep_later fun h => by
    rw [seen_eq h]
    exact ChangeVector.merge_dominates_left _ _

theorem hasSeen_keepReplicated (item : Item) : (s.keepReplicated item).HasSeen item :=
  ⟨_, by rw [keepReplicated, get?_keep, if_pos rfl], ChangeVector.merge_dominates_right _ _⟩

theorem announce_later : s.Later s.announce :=
  Later.of_items_eq rfl rfl rfl rfl fun _ => Nat.le_refl _

/-! ### Local writes -/

theorem writeLocal_eq_ok {item written : Item} (h : s.writeLocal item = .ok (written, s')) :
    s' = (s.keepLocal item).announce := by
  unfold writeLocal at h
  split at h <;> cases h
  rfl

/-- An item without an id is refused. -/
theorem named_of_writeLocal {item written : Item} (h : s.writeLocal item = .ok (written, s')) :
    Text.isBlankText item.id = false := by
  unfold writeLocal at h
  split at h
  · cases h
  · rename_i hname
    simpa using hname

theorem writeLocal_later {item written : Item} (h : s.writeLocal item = .ok (written, s')) :
    s.Later s' := by
  rw [writeLocal_eq_ok h]
  exact (keepLocal_later item).trans announce_later

theorem lastReplicatedEtag_writeLocal {item written : Item}
    (h : s.writeLocal item = .ok (written, s')) (source : String) :
    s'.lastReplicatedEtag source = s.lastReplicatedEtag source := by
  rw [writeLocal_eq_ok h]
  rfl

/-! ### Batches -/

/-- An item was seen already, or it is kept. -/
theorem takeOver_cases (s : Store) (item : Item) :
    s.takeOver item = s ∨ s.takeOver item = s.keepReplicated item ∧
      ∀ {own}, s.items.get? item.key = some own →
        own.changeVector.dominates item.changeVector = false := by
  unfold takeOver
  cases hget : s.items.get? item.key with
  | none =>
      refine .inr ⟨rfl, ?_⟩
      intro own hown
      cases hown
  | some previous =>
      simp only
      split
      · exact .inl rfl
      · rename_i hdom
        refine .inr ⟨rfl, ?_⟩
        intro own hown
        cases hown
        simpa using hdom

theorem takeOver_later (item : Item) : s.Later (s.takeOver item) := by
  unfold takeOver
  split
  · split
    · exact Later.refl s
    · exact keepReplicated_later item
  · exact keepReplicated_later item

theorem hasSeen_takeOver (item : Item) : (s.takeOver item).HasSeen item := by
  unfold takeOver
  split
  · rename_i own hown
    split
    · rename_i hdom
      exact ⟨own, hown, hdom⟩
    · exact hasSeen_keepReplicated item
  · exact hasSeen_keepReplicated item

theorem foldl_takeOver_later (items : List Item) (s : Store) :
    s.Later (items.foldl takeOver s) := by
  induction items generalizing s with
  | nil => exact Later.refl s
  | cons item items ih => exact (takeOver_later item).trans (ih (s.takeOver item))

theorem hasSeen_foldl_takeOver {items : List Item} {item : Item} (h : item ∈ items) (s : Store) :
    (items.foldl takeOver s).HasSeen item := by
  induction items generalizing s with
  | nil => cases h
  | cons first items ih =>
      rw [List.foldl_cons]
      rcases List.mem_cons.1 h with rfl | h
      · -- What is seen now is still seen when the rest of the batch is taken over.
        exact (foldl_takeOver_later items _).hasSeen (hasSeen_takeOver item)
      · exact ih h _

theorem lastReplicatedEtag_takeOver (item : Item) (source : String) :
    (s.takeOver item).lastReplicatedEtag source = s.lastReplicatedEtag source := by
  unfold takeOver
  split
  · split <;> rfl
  · rfl

theorem lastReplicatedEtag_foldl_takeOver (items : List Item) (s : Store) (source : String) :
    (items.foldl takeOver s).lastReplicatedEtag source = s.lastReplicatedEtag source := by
  induction items generalizing s with
  | nil => rfl
  | cons item items ih => rw [List.foldl_cons, ih, lastReplicatedEtag_takeOver]

theorem lastReplicatedEtag_accept (s : Store) (source d : String) (etag : Nat) :
    (s.accept source etag).lastReplicatedEtag d =
      if d = source then max (s.lastReplicatedEtag source) etag
      else s.lastReplicatedEtag d := by
  unfold accept lastReplicatedEtag
  simp only
  split
  · rename_i h
    rw [h, SortedMap.get?_insert_self]
    rfl
  · rename_i h
    rw [SortedMap.get?_insert_of_ne _ _ h]

theorem accept_later (source : String) (etag : Nat) : s.Later (s.accept source etag) := by
  refine Later.of_items_eq rfl rfl rfl rfl fun d => ?_
  rw [lastReplicatedEtag_accept]
  split
  · rename_i h
    rw [h]
    exact Nat.le_max_left _ _
  · exact Nat.le_refl _

/-- A batch is taken over item by item, then its etag is accepted, then readers are told. -/
theorem applyBatch_eq_ok {source : String} {items : List Item} {etag : Nat} {cv : ChangeVector}
    (h : s.applyBatch source items etag = .ok (cv, s')) :
    let taken := (items.foldl takeOver s).accept source etag
    s' = taken ∨ s' = taken.announce := by
  unfold applyBatch at h
  split at h
  · cases h
  · simp only at h
    split at h
    · cases h
      exact .inl rfl
    · cases h
      exact .inr rfl

section Batch

variable {source : String} {items : List Item} {etag : Nat} {cv : ChangeVector}

/-- A batch is applied unless one of its items has no id. -/
theorem exists_applyBatch_eq_ok (s : Store) (source : String) {items : List Item} (etag : Nat)
    (hnames : ∀ item ∈ items, Text.isBlankText item.id = false) :
    ∃ cv s', s.applyBatch source items etag = .ok (cv, s') := by
  have hnone : (items.find? fun item => Text.isBlankText item.id) = none :=
    List.find?_eq_none.2 fun item hitem => by simp [hnames item hitem]
  unfold applyBatch
  rw [hnone]
  exact ⟨_, _, rfl⟩

theorem named_of_applyBatch (h : s.applyBatch source items etag = .ok (cv, s')) :
    ∀ item ∈ items, Text.isBlankText item.id = false := by
  unfold applyBatch at h
  split at h
  · cases h
  · rename_i hnone
    intro item hitem
    simpa using List.find?_eq_none.1 hnone item hitem

theorem items_applyBatch (h : s.applyBatch source items etag = .ok (cv, s')) :
    s'.items = (items.foldl takeOver s).items := by
  rcases applyBatch_eq_ok h with rfl | rfl <;> rfl

theorem applyBatch_later (h : s.applyBatch source items etag = .ok (cv, s')) : s.Later s' := by
  have htaken := (foldl_takeOver_later items s).trans (accept_later source etag)
  rcases applyBatch_eq_ok h with rfl | rfl
  · exact htaken
  · exact htaken.trans announce_later

theorem hasSeen_of_applyBatch (h : s.applyBatch source items etag = .ok (cv, s')) {item : Item}
    (hitem : item ∈ items) : s'.HasSeen item := by
  obtain ⟨own, hown, hdom⟩ := hasSeen_foldl_takeOver hitem s
  exact ⟨own, items_applyBatch h ▸ hown, hdom⟩

theorem lastReplicatedEtag_applyBatch (h : s.applyBatch source items etag = .ok (cv, s'))
    (d : String) :
    s'.lastReplicatedEtag d =
      if d = source then max (s.lastReplicatedEtag source) etag
      else s.lastReplicatedEtag d := by
  have htaken : ∀ d, ((items.foldl takeOver s).accept source etag).lastReplicatedEtag d =
      if d = source then max (s.lastReplicatedEtag source) etag
      else s.lastReplicatedEtag d := by
    intro d
    rw [lastReplicatedEtag_accept]
    simp only [lastReplicatedEtag_foldl_takeOver]
  rcases applyBatch_eq_ok h with rfl | rfl
  · exact htaken d
  · exact htaken d

end Batch

/-! ### What the database has seen -/

theorem keep_dominates (s : Store) (item : Item) (cv : ChangeVector) :
    (s.keep item cv).changeVector.dominates s.changeVector = true :=
  ChangeVector.merge_dominates_left _ _

theorem writeLocal_dominates {item written : Item} (h : s.writeLocal item = .ok (written, s')) :
    s'.changeVector.dominates s.changeVector = true := by
  rw [writeLocal_eq_ok h]
  exact keep_dominates s item _

theorem takeOver_dominates (s : Store) (item : Item) :
    (s.takeOver item).changeVector.dominates s.changeVector = true := by
  unfold takeOver
  split
  · split
    · exact ChangeVector.dominates_self _
    · exact keep_dominates s item _
  · exact keep_dominates s item _

theorem foldl_takeOver_dominates (items : List Item) (s : Store) :
    (items.foldl takeOver s).changeVector.dominates s.changeVector = true := by
  induction items generalizing s with
  | nil => exact ChangeVector.dominates_self _
  | cons item items ih =>
      exact ChangeVector.dominates_trans (ih (s.takeOver item)) (takeOver_dominates s item)

section Batch

variable {source : String} {items : List Item} {etag : Nat} {cv : ChangeVector}

theorem applyBatch_dominates (h : s.applyBatch source items etag = .ok (cv, s')) :
    s'.changeVector.dominates s.changeVector = true := by
  have htaken := foldl_takeOver_dominates items s
  rcases applyBatch_eq_ok h with rfl | rfl
  · exact htaken
  · exact htaken

/-- What is answered is what the database has seen then. -/
theorem changeVector_applyBatch (h : s.applyBatch source items etag = .ok (cv, s')) :
    s'.changeVector = cv := by
  unfold applyBatch at h
  split at h
  · cases h
  · cases h
    rfl

end Batch

end HubReplication.Store
