/-
**The index of a store.**

The change stream is read from an index by etag, the versions from a map by key.  Both are written
together, and they tell of each other: every version is listed under its etag, and every listing
leads to the version that has that etag.  So a piece of the change stream leaves nothing out: it is
every version of the store between the etag it was asked for and the last etag it holds.

Main definitions:

* `Store.WellIndexed` — versions and index tell of each other.

Main results:

* `Store.WellIndexed.keep` — keeping a version leaves the index sound;
* `Store.mem_changesAfter`, `Store.changesAfter_ascending`, `Store.changesAfter_complete` — a piece
  of the change stream holds versions of the store, in the order of their etags, and no gap.
-/

import HubReplication.Proofs.Bindings
import HubReplication.Store.Basic

set_option relaxedAutoImplicit false
set_option autoImplicit false

namespace HubReplication

namespace Store

variable {s : Store}

/-! ### Versions and their etags -/

/-- Versions and index tell of each other. -/
structure WellIndexed (s : Store) : Prop where
  /-- A version is kept under its own key. -/
  key_eq : ∀ {k item}, s.items.get? k = some item → item.key = k
  /-- A version is listed under its etag. -/
  indexed : ∀ {k item}, s.items.get? k = some item → s.byEtag.get? item.etag = some k
  /-- What is listed under an etag is kept, and has that etag. -/
  listed : ∀ {etag k}, s.byEtag.get? etag = some k →
    ∃ item, s.items.get? k = some item ∧ item.etag = etag
  /-- Etags are counted from one up to the last one. -/
  etag_pos : ∀ {k item}, s.items.get? k = some item → 0 < item.etag
  etag_le : ∀ {k item}, s.items.get? k = some item → item.etag ≤ s.lastEtag

theorem wellIndexed_empty (databaseId : String) : (empty databaseId).WellIndexed where
  key_eq h := by cases h
  indexed h := by cases h
  listed h := by cases h
  etag_pos h := by cases h
  etag_le h := by cases h

namespace WellIndexed

theorem get?_key (hs : s.WellIndexed) {k : ItemKey} {item : Item}
    (h : s.items.get? k = some item) : s.items.get? item.key = some item := by
  rw [hs.key_eq h]
  exact h

/-- Two versions with one etag are one version. -/
theorem eq_of_etag_eq (hs : s.WellIndexed) {k k' : ItemKey} {item item' : Item}
    (h : s.items.get? k = some item) (h' : s.items.get? k' = some item')
    (he : item.etag = item'.etag) : item = item' := by
  have hk : some k = some k' := by rw [← hs.indexed h, ← hs.indexed h', he]
  cases hk
  exact Option.some.inj (h.symm.trans h')

end WellIndexed

/-! ### Keeping a version -/

theorem get?_keep (s : Store) (item : Item) (cv : ChangeVector) (k : ItemKey) :
    (s.keep item cv).items.get? k =
      if k = item.key then some { item with etag := s.lastEtag + 1, changeVector := cv }
      else s.items.get? k := by
  unfold keep
  simp only
  split
  · rename_i h
    rw [h, SortedMap.get?_insert_self]
  · rename_i h
    exact SortedMap.get?_insert_of_ne _ _ h

/-- The new etag is listed, and the etag of the version before it no longer is. -/
theorem get?_byEtag_keep (hs : s.WellIndexed) (item : Item) (cv : ChangeVector) (etag : Nat) :
    (s.keep item cv).byEtag.get? etag =
      if etag = s.lastEtag + 1 then some item.key
      else if s.byEtag.get? etag = some item.key then none
      else s.byEtag.get? etag := by
  unfold keep
  simp only
  by_cases hnew : etag = s.lastEtag + 1
  · rw [if_pos hnew, hnew, SortedMap.get?_insert_self]
  · rw [if_neg hnew, SortedMap.get?_insert_of_ne _ _ hnew]
    cases hprevious : s.items.get? item.key with
    | none =>
        have hother : s.byEtag.get? etag ≠ some item.key := by
          intro hlisted
          obtain ⟨own, hown, -⟩ := hs.listed hlisted
          rw [hprevious] at hown
          cases hown
        rw [if_neg hother]
    | some previous =>
        have hindexed := hs.indexed hprevious
        by_cases he : etag = previous.etag
        · rw [he, if_pos hindexed]
          exact SortedMap.get?_erase_self _ _
        · have hother : s.byEtag.get? etag ≠ some item.key := by
            intro hlisted
            obtain ⟨own, hown, hetag⟩ := hs.listed hlisted
            rw [hprevious] at hown
            cases hown
            exact he hetag.symm
          rw [if_neg hother]
          exact SortedMap.get?_erase_of_ne _ he

theorem WellIndexed.keep (hs : s.WellIndexed) (item : Item) (cv : ChangeVector) :
    (s.keep item cv).WellIndexed := by
  -- Old etags are at most the last one, so the new listing clashes with none of them.
  have hnew : ∀ {k own}, s.items.get? k = some own → own.etag ≠ s.lastEtag + 1 := by
    intro k own hown he
    have := hs.etag_le hown
    omega
  constructor
  case key_eq =>
    intro k own h
    rw [get?_keep] at h
    split at h
    · rename_i hk
      cases h
      exact hk.symm
    · exact hs.key_eq h
  case indexed =>
    intro k own h
    rw [get?_keep] at h
    rw [get?_byEtag_keep hs]
    split at h
    · rename_i hk
      cases h
      simp [hk]
    · rename_i hk
      rw [if_neg (hnew h), hs.indexed h, if_neg]
      rintro ⟨⟩
      exact hk rfl
  case listed =>
    intro etag k h
    rw [get?_byEtag_keep hs] at h
    split at h
    · rename_i he
      cases h
      exact ⟨_, by rw [get?_keep, if_pos rfl], he.symm⟩
    · split at h
      · cases h
      · rename_i hother
        obtain ⟨own, hown, he⟩ := hs.listed h
        have hk : k ≠ item.key := fun hk => hother (hk ▸ h)
        exact ⟨own, by rw [get?_keep, if_neg hk, hown], he⟩
  case etag_pos =>
    intro k own h
    rw [get?_keep] at h
    split at h
    · cases h
      exact Nat.succ_pos _
    · exact hs.etag_pos h
  case etag_le =>
    intro k own h
    rw [get?_keep] at h
    split at h
    · cases h
      exact Nat.le_refl _
    · exact Nat.le_succ_of_le (hs.etag_le h)

/-! ### The change stream -/

/-- Of a list in ascending order, what stands at most as high as something taken is taken. -/
theorem mem_take_of_le {α : Type} {l : List (Nat × α)} (hl : l.Pairwise fun a b => a.1 < b.1)
    {n : Nat} {a b : Nat × α} (ha : a ∈ l) (hb : b ∈ l.take n) (hle : a.1 ≤ b.1) :
    a ∈ l.take n := by
  rw [← List.take_append_drop n l, List.pairwise_append] at hl
  rw [← List.take_append_drop n l, List.mem_append] at ha
  refine ha.resolve_right fun hdrop => ?_
  have := hl.2.2 b hb a hdrop
  omega

/-- The listings that a piece of the change stream is read from. -/
def listings (s : Store) (etag max : Nat) : List (Nat × ItemKey) :=
  (s.byEtag.toList.filter fun e => etag < e.1).take max

theorem listings_ascending (s : Store) (etag max : Nat) :
    (s.listings etag max).Pairwise fun a b => a.1 < b.1 := by
  have hord : s.byEtag.toList.Pairwise fun a b => a.1 < b.1 :=
    s.byEtag.ordered.imp fun h => Nat.compare_eq_lt.1 h
  exact (hord.filter _).sublist (List.take_sublist _ _)

theorem listed_of_mem_listings {etag max : Nat} {e : Nat × ItemKey} (h : e ∈ s.listings etag max) :
    s.byEtag.get? e.1 = some e.2 ∧ etag < e.1 := by
  have hmem := List.mem_filter.1 (List.mem_of_mem_take h)
  exact ⟨SortedMap.get?_eq_some_iff.2 hmem.1, by simpa using hmem.2⟩

theorem mem_changesAfter_iff {etag max : Nat} {item : Item} :
    item ∈ s.changesAfter etag max ↔
      ∃ e ∈ s.listings etag max, s.items.get? e.2 = some item :=
  List.mem_filterMap

/-- A piece of the change stream holds versions of the store, above the etag it starts after. -/
theorem mem_changesAfter (hs : s.WellIndexed) {etag max : Nat} {item : Item}
    (h : item ∈ s.changesAfter etag max) :
    s.items.get? item.key = some item ∧ etag < item.etag := by
  obtain ⟨e, he, hitem⟩ := mem_changesAfter_iff.1 h
  obtain ⟨hlisted, hlt⟩ := listed_of_mem_listings he
  obtain ⟨own, hown, hetag⟩ := hs.listed hlisted
  rw [hitem] at hown
  cases hown
  exact ⟨hs.get?_key hitem, hetag ▸ hlt⟩

theorem changesAfter_ascending (hs : s.WellIndexed) (etag max : Nat) :
    (s.changesAfter etag max).Pairwise fun a b => a.etag < b.etag := by
  refine List.pairwise_filterMap.2 ((listings_ascending s etag max).imp_of_mem ?_)
  intro e e' he he' hlt item hitem item' hitem'
  obtain ⟨own, hown, hetag⟩ := hs.listed (listed_of_mem_listings he).1
  obtain ⟨own', hown', hetag'⟩ := hs.listed (listed_of_mem_listings he').1
  rw [hitem] at hown
  rw [hitem'] at hown'
  cases hown
  cases hown'
  omega

/-- A piece of the change stream has no gap. -/
theorem changesAfter_complete (hs : s.WellIndexed) {etag max : Nat} {item last : Item}
    (hitem : s.items.get? item.key = some item) (hlt : etag < item.etag)
    (hlast : last ∈ s.changesAfter etag max) (hle : item.etag ≤ last.etag) :
    item ∈ s.changesAfter etag max := by
  obtain ⟨e, he, hown⟩ := mem_changesAfter_iff.1 hlast
  obtain ⟨own, hown', hetag⟩ := hs.listed (listed_of_mem_listings he).1
  rw [hown] at hown'
  cases hown'
  have hmem : (item.etag, item.key) ∈ s.byEtag.toList.filter fun e => etag < e.1 := by
    rw [List.mem_filter]
    exact ⟨SortedMap.get?_eq_some_iff.1 (hs.indexed hitem), by simpa using hlt⟩
  have hord : s.byEtag.toList.Pairwise fun a b => a.1 < b.1 :=
    s.byEtag.ordered.imp fun h => Nat.compare_eq_lt.1 h
  refine mem_changesAfter_iff.2 ⟨(item.etag, item.key), ?_, hitem⟩
  exact mem_take_of_le (hord.filter _) hmem he (by omega)

end Store

end HubReplication
