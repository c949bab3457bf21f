/-
**The past of a store.**

The versions that a store ever kept under one key stand in a line: each dominates all that came
before it, and is dominated by none of them.  For a version written here that is so because the
entry of the store's own database rises to an etag that nobody saw before; for one taken over,
because it is only taken over when the store had not seen it.  A second store that takes versions
over from this one only, in whatever order, then never mixes two of them: merging gives the later
one.

Main definitions:

* `Item.SameVersion` — two items are one version, whatever etags they have;
* `Store.RecordedIn` — all that a store ever kept, in a line under each key;
* `Store.DrawnFrom`, `Store.DrawnAt` — all that a store has, or has under a key, are versions of a
  kind.

Main results:

* `Store.RecordedIn.writeLocal`, `Store.RecordedIn.applyBatch` — writes prolong the past;
* `Store.DrawnFrom.applyBatch` — taking over versions that stand in a line mixes none of them;
* `Store.sameVersion_of_hasSeen` — what has seen the latest version has the latest version.
-/

import HubReplication.Proofs.Store.Growth

set_option relaxedAutoImplicit false
set_option autoImplicit false

namespace HubReplication

/-! ### Versions -/

/-- Two items are one version, whatever etags they have. -/
structure Item.SameVersion (a b : Item) : Prop where
  id_eq : a.id = b.id
  kind_eq : a.kind = b.kind
  collection_eq : a.collection = b.collection
  lastModified_eq : a.lastModified = b.lastModified
  deleted_eq : a.deleted = b.deleted
  body_eq : a.body = b.body
  dominates : a.changeVector.dominates b.changeVector = true
  dominated : b.changeVector.dominates a.changeVector = true

theorem Item.SameVersion.refl (a : Item) : a.SameVersion a :=
  ⟨rfl, rfl, rfl, rfl, rfl, rfl, ChangeVector.dominates_self _, ChangeVector.dominates_self _⟩

theorem Item.SameVersion.symm {a b : Item} (h : a.SameVersion b) : b.SameVersion a :=
  ⟨h.id_eq.symm, h.kind_eq.symm, h.collection_eq.symm, h.lastModified_eq.symm, h.deleted_eq.symm,
    h.body_eq.symm, h.dominated, h.dominates⟩

theorem Item.SameVersion.trans {a b c : Item} (hab : a.SameVersion b) (hbc : b.SameVersion c) :
    a.SameVersion c :=
  ⟨hab.id_eq.trans hbc.id_eq, hab.kind_eq.trans hbc.kind_eq,
    hab.collection_eq.trans hbc.collection_eq, hab.lastModified_eq.trans hbc.lastModified_eq,
    hab.deleted_eq.trans hbc.deleted_eq, hab.body_eq.trans hbc.body_eq,
    ChangeVector.dominates_trans hab.dominates hbc.dominates,
    ChangeVector.dominates_trans hbc.dominated hab.dominated⟩

theorem Item.SameVersion.equal {a b : Item} (h : a.SameVersion b) :
    a.changeVector.compare b.changeVector = .equal :=
  ChangeVector.compare_eq_equal_iff.2 ⟨h.dominates, h.dominated⟩

theorem Item.SameVersion.key_eq {a b : Item} (h : a.SameVersion b) : a.key = b.key := by
  rw [Item.key, Item.key, h.id_eq, h.kind_eq]

namespace Store

variable {s s' : Store} {past : List Item}

/-- All that a store ever kept: its versions of a key stand in a line, and what it has now is the
end of it. -/
structure RecordedIn (s : Store) (past : List Item) : Prop where
  current : ∀ {k item}, s.items.get? k = some item → item ∈ past
  named : ∀ {v}, v ∈ past → Text.isBlankText v.id = false
  /-- Nobody saw an etag of this database that there was not yet. -/
  own_le : ∀ {v}, v ∈ past → v.changeVector.get s.databaseId ≤ s.lastEtag
  latest : ∀ {v}, v ∈ past → s.HasSeen v
  total : ∀ {v w}, v ∈ past → w ∈ past → v.key = w.key →
    v.changeVector.dominates w.changeVector = true ∨
      w.changeVector.dominates v.changeVector = true
  strict : ∀ {v w}, v ∈ past → w ∈ past → v.key = w.key →
    v.changeVector.dominates w.changeVector = true →
    w.changeVector.dominates v.changeVector = true → v = w

/-- An item does not claim to have seen an etag of this database that there is not yet. -/
def Honest (s : Store) (item : Item) : Prop :=
  item.changeVector.get s.databaseId ≤ s.lastEtag

theorem Honest.later {item : Item} (h : s.Honest item) (hlater : s.Later s') : s'.Honest item := by
  unfold Honest
  rw [hlater.databaseId_eq]
  exact Nat.le_trans h hlater.lastEtag_le

theorem recordedIn_empty (databaseId : String) : (empty databaseId).RecordedIn [] where
  current h := by cases h
  named h := by cases h
  own_le h := by cases h
  latest h := by cases h
  total h := by cases h
  strict h := by cases h

/-- Versions and etags are all that the past tells of. -/
theorem RecordedIn.of_items_eq (h : s.RecordedIn past) (hid : s'.databaseId = s.databaseId)
    (hitems : s'.items = s.items) (hetag : s'.lastEtag = s.lastEtag) : s'.RecordedIn past where
  current hitem := h.current (hitems ▸ hitem)
  named := h.named
  own_le hv := by
    rw [hid, hetag]
    exact h.own_le hv
  latest hv := by
    obtain ⟨own, hown, hdom⟩ := h.latest hv
    exact ⟨own, hitems ▸ hown, hdom⟩
  total := h.total
  strict := h.strict

/-! ### Prolonging the past -/

/-- A version that dominates what stands at the end of the line, and is not dominated by it, may be
kept. -/
theorem RecordedIn.keep (h : s.RecordedIn past) {item : Item} {cv : ChangeVector}
    (hname : Text.isBlankText item.id = false)
    (hdom : ∀ {own}, s.items.get? item.key = some own → cv.dominates own.changeVector = true)
    (hnew : ∀ {own}, s.items.get? item.key = some own → own.changeVector.dominates cv = false)
    (hown : cv.get s.databaseId ≤ s.lastEtag + 1) :
    (s.keep item cv).RecordedIn
      ({ item with etag := s.lastEtag + 1, changeVector := cv } :: past) := by
  have hlater : s.Later (s.keep item cv) := keep_later hdom
  -- Every old version of the key is behind the new one.
  have hbehind : ∀ {v}, v ∈ past → v.key = item.key →
      cv.dominates v.changeVector = true ∧ v.changeVector.dominates cv = false := by
    intro v hv hk
    obtain ⟨own, hget, hlast⟩ := h.latest hv
    rw [hk] at hget
    refine ⟨ChangeVector.dominates_trans (hdom hget) hlast, ?_⟩
    cases hv : v.changeVector.dominates cv with
    | false => rfl
    | true =>
        have := hnew hget
        rw [ChangeVector.dominates_trans hlast hv] at this
        cases this
  constructor
  case current =>
    intro k own hget
    rw [get?_keep] at hget
    split at hget
    · cases hget
      exact List.mem_cons_self
    · exact List.mem_cons_of_mem _ (h.current hget)
  case named =>
    intro v hv
    rcases List.mem_cons.1 hv with rfl | hv
    · exact hname
    · exact h.named hv
  case own_le =>
    intro v hv
    rcases List.mem_cons.1 hv with rfl | hv
    · exact hown
    · exact Nat.le_succ_of_le (h.own_le hv)
  case latest =>
    intro v hv
    rcases List.mem_cons.1 hv with rfl | hv
    · exact ⟨_, by rw [get?_keep]; exact if_pos rfl, ChangeVector.dominates_self _⟩
    · exact hlater.hasSeen (h.latest hv)
  case total =>
    intro v w hv hw hk
    rcases List.mem_cons.1 hv with rfl | hv <;> rcases List.mem_cons.1 hw with rfl | hw
    · exact .inl (ChangeVector.dominates_self _)
    · exact .inl (hbehind hw hk.symm).1
    · exact .inr (hbehind hv hk).1
    · exact h.total hv hw hk
  case strict =>
    intro v w hv hw hk hvw hwv
    rcases List.mem_cons.1 hv with rfl | hv <;> rcases List.mem_cons.1 hw with rfl | hw
    · rfl
    · simp only [(hbehind hw hk.symm).2] at hwv
      cases hwv
    · simp only [(hbehind hv hk).2] at hvw
      cases hvw
    · exact h.strict hv hw hk hvw hwv

theorem RecordedIn.keepLocal (h : s.RecordedIn past) {item : Item}
    (hname : Text.isBlankText item.id = false) :
    ∃ past', past ⊆ past' ∧ (s.keepLocal item).RecordedIn past' := by
  refine ⟨_, List.subset_cons_self _ _, h.keep hname ?_ ?_ ?_⟩
  · intro own hget
    rw [seen_eq hget]
    exact ChangeVector.raise_dominates _ _ _
  · intro own hget
    -- The entry of this database rises above all that was seen of it.
    have hle := h.own_le (h.current hget)
    rw [seen_eq hget, Bool.eq_false_iff]
    intro hdom
    have := ChangeVector.dominates_iff.1 hdom s.databaseId
    rw [ChangeVector.get_raise, if_pos rfl] at this
    omega
  · rw [ChangeVector.get_raise, if_pos rfl]
    have hseen : (s.seen item.key).get s.databaseId ≤ s.lastEtag := by
      cases hget : s.items.get? item.key with
      | none => simp [seen, hget]
      | some own =>
          rw [seen_eq hget]
          exact h.own_le (h.current hget)
    omega

theorem RecordedIn.keepReplicated (h : s.RecordedIn past) {item : Item}
    (hname : Text.isBlankText item.id = false) (hitem : s.Honest item)
    (hnew : ∀ {own}, s.items.get? item.key = some own →
      own.changeVector.dominates item.changeVector = false) :
    ∃ past', past ⊆ past' ∧ (s.keepReplicated item).RecordedIn past' := by
  refine ⟨_, List.subset_cons_self _ _, h.keep hname ?_ ?_ ?_⟩
  · intro own hget
    rw [seen_eq hget]
    exact ChangeVector.merge_dominates_left _ _
  · intro own hget
    rw [seen_eq hget, Bool.eq_false_iff]
    intro hdom
    have := hnew hget
    rw [ChangeVector.dominates_trans hdom (ChangeVector.merge_dominates_right _ _)] at this
    cases this
  · have hseen : (s.seen item.key).get s.databaseId ≤ s.lastEtag := by
      cases hget : s.items.get? item.key with
      | none => simp [seen, hget]
      | some own =>
          rw [seen_eq hget]
          exact h.own_le (h.current hget)
    have hle : item.changeVector.get s.databaseId ≤ s.lastEtag := hitem
    rw [ChangeVector.get_merge]
    omega

theorem RecordedIn.takeOver (h : s.RecordedIn past) {item : Item}
    (hname : Text.isBlankText item.id = false) (hitem : s.Honest item) :
    ∃ past', past ⊆ past' ∧ (s.takeOver item).RecordedIn past' := by
  unfold Store.takeOver
  split
  · rename_i own hget
    split
    · exact ⟨past, List.Subset.refl _, h⟩
    · rename_i hdom
      refine h.keepReplicated hname hitem fun hget' => ?_
      rw [hget] at hget'
      cases hget'
      simpa using hdom
  · rename_i hget
    refine h.keepReplicated hname hitem fun hget' => ?_
    rw [hget] at hget'
    cases hget'

theorem RecordedIn.foldl_takeOver {items : List Item} (h : s.RecordedIn past)
    (hnames : ∀ item ∈ items, Text.isBlankText item.id = false)
    (hitems : ∀ item ∈ items, s.Honest item) :
    ∃ past', past ⊆ past' ∧ (items.foldl Store.takeOver s).RecordedIn past' := by
  induction items generalizing s past with
  | nil => exact ⟨past, List.Subset.refl _, h⟩
  | cons item items ih =>
      have hfirst := hnames item List.mem_cons_self
      obtain ⟨past₁, hsub₁, h₁⟩ := h.takeOver hfirst (hitems item List.mem_cons_self)
      obtain ⟨past₂, hsub₂, h₂⟩ := ih h₁ (fun i hi => hnames i (List.mem_cons_of_mem _ hi))
        fun i hi => (hitems i (List.mem_cons_of_mem _ hi)).later (takeOver_later item)
      exact ⟨past₂, List.Subset.trans hsub₁ hsub₂, h₂⟩

/-- A local write prolongs the past. -/
theorem RecordedIn.writeLocal (h : s.RecordedIn past) {item written : Item}
    (hwrite : s.writeLocal item = .ok (written, s')) :
    ∃ past', past ⊆ past' ∧ s'.RecordedIn past' := by
  obtain ⟨past', hsub, h'⟩ := h.keepLocal (named_of_writeLocal hwrite)
  rw [writeLocal_eq_ok hwrite]
  exact ⟨past', hsub, h'.of_items_eq rfl rfl rfl⟩

/-- So does a batch from elsewhere that is honest. -/
theorem RecordedIn.applyBatch (h : s.RecordedIn past) {source : String} {items : List Item}
    {etag : Nat} {cv : ChangeVector} (hitems : ∀ item ∈ items, s.Honest item)
    (happly : s.applyBatch source items etag = .ok (cv, s')) :
    ∃ past', past ⊆ past' ∧ s'.RecordedIn past' := by
  obtain ⟨past', hsub, h'⟩ := h.foldl_takeOver (named_of_applyBatch happly) hitems
  rcases applyBatch_eq_ok happly with rfl | rfl
  · exact ⟨past', hsub, h'.of_items_eq rfl rfl rfl⟩
  · exact ⟨past', hsub, h'.of_items_eq rfl rfl rfl⟩

/-! ### Taking over versions of one store -/

/-- What a store has under a key is a version of a kind. -/
def DrawnAt (t : Store) (k : ItemKey) (kind : Item → Prop) : Prop :=
  ∀ ⦃item⦄, t.items.get? k = some item → ∃ v, kind v ∧ v.key = k ∧ item.SameVersion v

/-- Versions of a kind stand in a line under a key. -/
def InLineAt (k : ItemKey) (kind : Item → Prop) : Prop :=
  ∀ ⦃v w⦄, kind v → kind w → v.key = k → w.key = k →
    v.changeVector.dominates w.changeVector = true ∨
      w.changeVector.dominates v.changeVector = true

/-- All that a store has are versions of a kind. -/
def DrawnFrom (t : Store) (kind : Item → Prop) : Prop :=
  ∀ ⦃k item⦄, t.items.get? k = some item → ∃ v, kind v ∧ v.key = k ∧ item.SameVersion v

/-- Versions of a kind stand in a line under each key. -/
def InLine (kind : Item → Prop) : Prop :=
  ∀ ⦃v w⦄, kind v → kind w → v.key = w.key →
    v.changeVector.dominates w.changeVector = true ∨
      w.changeVector.dominates v.changeVector = true

variable {t t' : Store} {k : ItemKey} {kind kind' : Item → Prop}

theorem InLine.at (h : InLine kind) (k : ItemKey) : InLineAt k kind :=
  fun _ _ hv hw hvk hwk => h hv hw (hvk.trans hwk.symm)

theorem DrawnFrom.mono (h : t.DrawnFrom kind) (himp : ∀ {v}, kind v → kind' v) :
    t.DrawnFrom kind' := by
  intro k item hget
  obtain ⟨v, hv, hk, hsame⟩ := h hget
  exact ⟨v, himp hv, hk, hsame⟩

theorem DrawnAt.mono (h : t.DrawnAt k kind) (himp : ∀ {v}, kind v → kind' v) :
    t.DrawnAt k kind' := by
  intro item hget
  obtain ⟨v, hv, hk, hsame⟩ := h hget
  exact ⟨v, himp hv, hk, hsame⟩

/-- What is kept under another key does not matter. -/
theorem DrawnAt.keep_of_ne (h : t.DrawnAt k kind) {item : Item} (hk : item.key ≠ k)
    (cv : ChangeVector) : (t.keep item cv).DrawnAt k kind := by
  intro own hget
  rw [get?_keep, if_neg (Ne.symm hk)] at hget
  exact h hget

/-- What is kept is the version that arrived, when what was there is behind it. -/
theorem drawnAt_keepReplicated {item : Item} (hitem : kind item)
    (hdom : item.changeVector.dominates (t.seen item.key) = true) :
    (t.keepReplicated item).DrawnAt item.key kind := by
  intro own hget
  rw [Store.keepReplicated, get?_keep, if_pos rfl] at hget
  cases hget
  refine ⟨item, hitem, rfl, rfl, rfl, rfl, rfl, rfl, rfl, ?_, ?_⟩
  · exact ChangeVector.merge_dominates_right _ _
  · refine ChangeVector.dominates_iff.2 fun d => ?_
    have := ChangeVector.dominates_iff.1 hdom d
    rw [ChangeVector.get_merge]
    exact Nat.max_le.2 ⟨this, Nat.le_refl _⟩

theorem DrawnAt.takeOver (h : t.DrawnAt k kind) (hline : InLineAt k kind) {item : Item}
    (hitem : item.key = k → kind item) : (t.takeOver item).DrawnAt k kind := by
  rcases takeOver_cases t item with heq | ⟨heq, hbehind⟩
  · rwa [heq]
  · rw [heq]
    by_cases hk : item.key = k
    · subst hk
      refine drawnAt_keepReplicated (hitem rfl) ?_
      cases hget : t.items.get? item.key with
      | none => exact ChangeVector.dominates_iff.2 fun d => by simp [seen, hget]
      | some own =>
          obtain ⟨v, hv, hk, hsame⟩ := h hget
          rw [seen_eq hget]
          rcases hline hv (hitem rfl) hk rfl with hdom | hdom
          · have hseen := ChangeVector.dominates_trans hsame.dominates hdom
            rw [hbehind hget] at hseen
            cases hseen
          · exact ChangeVector.dominates_trans hdom hsame.dominated
    · exact h.keep_of_ne hk _

theorem DrawnAt.foldl_takeOver {items : List Item} (h : t.DrawnAt k kind)
    (hline : InLineAt k kind) (hitems : ∀ item ∈ items, item.key = k → kind item) :
    (items.foldl Store.takeOver t).DrawnAt k kind := by
  induction items generalizing t with
  | nil => exact h
  | cons item items ih =>
      exact ih (h.takeOver hline (hitems item List.mem_cons_self)) fun i hi =>
        hitems i (List.mem_cons_of_mem _ hi)

theorem DrawnAt.applyBatch (h : t.DrawnAt k kind) (hline : InLineAt k kind) {source : String}
    {items : List Item} {etag : Nat} {cv : ChangeVector}
    (hitems : ∀ item ∈ items, item.key = k → kind item)
    (happly : t.applyBatch source items etag = .ok (cv, t')) : t'.DrawnAt k kind := by
  intro item hget
  rw [items_applyBatch happly] at hget
  exact h.foldl_takeOver hline hitems hget

theorem DrawnFrom.applyBatch (h : t.DrawnFrom kind) (hline : InLine kind) {source : String}
    {items : List Item} {etag : Nat} {cv : ChangeVector} (hitems : ∀ item ∈ items, kind item)
    (happly : t.applyBatch source items etag = .ok (cv, t')) : t'.DrawnFrom kind := by
  intro k
  have hk : t.DrawnAt k kind := fun item hget => h hget
  exact hk.applyBatch (hline.at k) (fun item hitem _ => hitems item hitem) happly

/-- What has seen the latest version of a store, and draws from its past, has that version. -/
theorem sameVersion_of_hasSeen (h : s.RecordedIn past) (hindexed : s.WellIndexed)
    (hdrawn : t.DrawnFrom kind) (hpast : ∀ {v}, kind v → v ∈ past) {k : ItemKey} {item : Item}
    (hget : s.items.get? k = some item) (hseen : t.HasSeen item) :
    kind item ∧ ∃ own, t.items.get? item.key = some own ∧ own.SameVersion item := by
  obtain ⟨own, hown, hdom⟩ := hseen
  obtain ⟨v, hv, hk, hsame⟩ := hdrawn hown
  obtain ⟨last, hlast, hbehind⟩ := h.latest (hpast hv)
  rw [hk, hindexed.get?_key hget] at hlast
  cases hlast
  -- Each of the two dominates the other, and in a line only one version does that.
  have heq : v = item := h.strict (hpast hv) (h.current hget) hk
    (ChangeVector.dominates_trans hsame.dominated hdom) hbehind
  subst heq
  exact ⟨hv, own, hown, hsame⟩

end Store

end HubReplication
