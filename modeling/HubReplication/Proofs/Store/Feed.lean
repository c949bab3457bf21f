/-
**The change feed of a store.**

A store keeps its versions by key, an index of them by etag, a vector of all that it has seen, and
the etag that readers were told of.  They are written together, and whatever is written, none of
them drifts from the others: the index is the inverse of the versions, the vector is the largest
that the versions say of each database, and the change feed is what a reader would get who sorted
the versions by their etags.

Main definitions:

* `Store.told` — what the versions of a store say of a database;
* `Store.Summed` — the vector of a store sums up its versions;
* `Store.Tells` — readers are told of a write, or they have nothing to be told of;
* `Chronicle.Coherent` — versions, index, vector, announcement and feed fit together.

Main results:

* `Store.Summed.keep` — a version that covers the one before it leaves the vector summed up;
* `Store.changesAfter_eq` — the feed is the versions above an etag, sorted, as many as are asked
  for;
* `Chronicle.coherent_after` — all of it fits together, whatever was done to a store.
-/

import HubReplication.Proofs.Store.Chronicle
import Mathlib.Data.List.Nodup
import Mathlib.Order.Bounds.Basic

set_option relaxedAutoImplicit false
set_option autoImplicit false

namespace HubReplication

namespace Store

variable {s s' : Store}

/-! ### The vector of a store -/

/-- What the versions of a store say of a database, those that do not list it left out. -/
def told (s : Store) (d : String) : Set Nat :=
  {n | ∃ k item, s.items.get? k = some item ∧ item.changeVector.entries.get? d = some n}

/-- The vector of a store sums up its versions: it says all that they say, and nothing else. -/
structure Summed (s : Store) : Prop where
  covers : ∀ {k item}, s.items.get? k = some item → s.changeVector.Covers item.changeVector
  attained : ∀ {d m}, s.changeVector.entries.get? d = some m → m ∈ s.told d

/-- The vector lists what a version lists, with the most that any version says of it. -/
theorem Summed.get?_eq_some_iff (hs : s.Summed) {d : String} {m : Nat} :
    s.changeVector.entries.get? d = some m ↔ IsGreatest (s.told d) m := by
  constructor
  · intro h
    refine ⟨hs.attained h, ?_⟩
    rintro n ⟨k, item, hitem, hn⟩
    obtain ⟨m', hm', hle⟩ := hs.covers hitem hn
    rw [h] at hm'
    cases hm'
    exact hle
  · rintro ⟨⟨k, item, hitem, hm⟩, hgreatest⟩
    obtain ⟨m', hm', hle⟩ := hs.covers hitem hm
    have hle' : m' ≤ m := hgreatest (hs.attained hm')
    rw [hm', Nat.le_antisymm hle' hle]

theorem summed_empty (databaseId : String) : (empty databaseId).Summed where
  covers h := by cases h
  attained h := by cases h

/-- Versions and vector are all that this speaks of. -/
theorem Summed.of_items_eq (hs : s.Summed) (hitems : s'.items = s.items)
    (hvector : s'.changeVector = s.changeVector) : s'.Summed where
  covers h := hvector ▸ hs.covers (hitems ▸ h)
  attained h := by
    obtain ⟨k, item, hitem, hm⟩ := hs.attained (hvector ▸ h)
    exact ⟨k, item, hitems ▸ hitem, hm⟩

/-- What a version says that is replaced is not lost where the new one covers it. -/
theorem told_keep {item : Item} {cv : ChangeVector} {d : String} {m : Nat} (h : m ∈ s.told d)
    (hcv : ∀ {own}, s.items.get? item.key = some own → cv.Covers own.changeVector)
    (hless : ∀ {n}, cv.entries.get? d = some n → n < m) : m ∈ (s.keep item cv).told d := by
  obtain ⟨k, own, hown, hm⟩ := h
  refine ⟨k, own, ?_, hm⟩
  rw [get?_keep, if_neg, hown]
  rintro rfl
  obtain ⟨n, hn, hle⟩ := hcv hown hm
  exact absurd (hless hn) (Nat.not_lt.2 hle)

theorem Summed.keep (hs : s.Summed) {item : Item} {cv : ChangeVector}
    (hcv : ∀ {own}, s.items.get? item.key = some own → cv.Covers own.changeVector) :
    (s.keep item cv).Summed where
  covers := by
    intro k own h
    rw [get?_keep] at h
    split at h
    · cases h
      exact ChangeVector.merge_covers_right _ _
    · exact (ChangeVector.merge_covers_left _ _).trans (hs.covers h)
  attained := by
    intro d m h
    rcases ChangeVector.get?_merge_cases h with hnew | ⟨hold, hless⟩
    · exact ⟨item.key, _, by rw [get?_keep, if_pos rfl], hnew⟩
    · -- More was said of this database before, by a version that is still there.
      exact told_keep (hs.attained hold) hcv fun hn => hless _ hn

theorem Summed.keepLocal (hs : s.Summed) (item : Item) : (s.keepLocal item).Summed :=
  hs.keep fun h => by
    rw [seen_eq h]
    exact ChangeVector.raise_covers _ _ _

theorem Summed.takeOver (hs : s.Summed) (item : Item) : (s.takeOver item).Summed := by
  rcases takeOver_cases s item with heq | ⟨heq, -⟩
  · rwa [heq]
  · rw [heq]
    refine hs.keep fun h => ?_
    rw [seen_eq h]
    exact ChangeVector.merge_covers_left _ _

theorem Summed.foldl_takeOver {items : List Item} (hs : s.Summed) :
    (items.foldl Store.takeOver s).Summed := by
  induction items generalizing s with
  | nil => exact hs
  | cons item rest ih => exact ih (hs.takeOver item)

/-! ### What readers are told -/

/-- A local write is announced. -/
theorem announced_writeLocal {item written : Item} (h : s.writeLocal item = .ok (written, s')) :
    s'.announced = s'.lastEtag := by
  rw [writeLocal_eq_ok h]
  rfl

/-- Items that raise no etag leave everything as it is. -/
theorem foldl_takeOver_eq_self {items : List Item}
    (h : (items.foldl takeOver s).lastEtag = s.lastEtag) : items.foldl takeOver s = s := by
  induction items generalizing s with
  | nil => rfl
  | cons item rest ih =>
      rw [List.foldl_cons] at h ⊢
      rcases takeOver_cases s item with heq | ⟨heq, -⟩
      · rw [heq] at h ⊢
        exact ih h
      · have hle := (foldl_takeOver_later rest (s.takeOver item)).lastEtag_le
        have hkept : (s.takeOver item).lastEtag = s.lastEtag + 1 := by
          rw [heq]
          rfl
        omega

/-- A batch is announced unless no version of it was kept. -/
theorem announced_applyBatch {source : String} {items : List Item} {etag : Nat} {cv : ChangeVector}
    (hs : s.announced = s.lastEtag) (h : s.applyBatch source items etag = .ok (cv, s')) :
    s'.announced = s'.lastEtag := by
  unfold applyBatch at h
  split at h
  · cases h
  · simp only at h
    split at h
    · rename_i hsame
      cases h
      rw [foldl_takeOver_eq_self (by exact hsame)]
      exact hs
    · cases h
      rfl

/-- Readers were told of a write, or they have nothing to be told of. -/
def Tells (s s' : Store) : Prop :=
  s'.announcements = s.announcements + 1 ∨
    s'.announcements = s.announcements ∧ s'.items = s.items

theorem tells_writeLocal {item written : Item} (h : s.writeLocal item = .ok (written, s')) :
    s.Tells s' := by
  rw [writeLocal_eq_ok h]
  exact .inl rfl

theorem announcements_foldl_takeOver (items : List Item) (s : Store) :
    (items.foldl takeOver s).announcements = s.announcements := by
  induction items generalizing s with
  | nil => rfl
  | cons item rest ih =>
      rw [List.foldl_cons, ih]
      rcases takeOver_cases s item with heq | ⟨heq, -⟩
      · rw [heq]
      · rw [heq]
        rfl

theorem tells_applyBatch {source : String} {items : List Item} {etag : Nat} {cv : ChangeVector}
    (h : s.applyBatch source items etag = .ok (cv, s')) : s.Tells s' := by
  unfold applyBatch at h
  split at h
  · cases h
  · simp only at h
    split at h
    · rename_i hsame
      cases h
      rw [foldl_takeOver_eq_self (by exact hsame)]
      exact .inr ⟨rfl, rfl⟩
    · cases h
      exact .inl (congrArg (· + 1) (announcements_foldl_takeOver items s))

/-! ### The change feed -/

/-- Where every element stands for something, the first ones stand for the first things. -/
theorem filterMap_take {α β : Type} {f : α → Option β} {l : List α}
    (h : ∀ a ∈ l, (f a).isSome = true) (n : Nat) :
    (l.take n).filterMap f = (l.filterMap f).take n := by
  induction l generalizing n with
  | nil => simp
  | cons a rest ih =>
      obtain ⟨ha, hrest⟩ := List.forall_mem_cons.1 h
      obtain ⟨b, hb⟩ := Option.isSome_iff_exists.1 ha
      cases n with
      | zero => rfl
      | succ n => simp only [List.take_succ_cons, List.filterMap_cons, hb, ih hrest]

/-- The whole change feed after an etag. -/
def feed (s : Store) (etag : Nat) : List Item :=
  (s.byEtag.toList.filter fun e => etag < e.1).filterMap fun e => s.items.get? e.2

theorem changesAfter_eq_take (hs : s.WellIndexed) (etag max : Nat) :
    s.changesAfter etag max = (s.feed etag).take max := by
  refine filterMap_take (fun e he => ?_) max
  obtain ⟨own, hown, -⟩ := hs.listed (SortedMap.get?_eq_some_iff.2 (List.mem_filter.1 he).1)
  rw [hown]
  rfl

theorem feed_ascending (hs : s.WellIndexed) (etag : Nat) :
    (s.feed etag).Pairwise fun a b => a.etag < b.etag := by
  have h := changesAfter_ascending hs etag (s.feed etag).length
  rwa [changesAfter_eq_take hs, List.take_length] at h

theorem mem_feed_iff (hs : s.WellIndexed) {etag : Nat} {item : Item} :
    item ∈ s.feed etag ↔ s.items.get? item.key = some item ∧ etag < item.etag := by
  constructor
  · intro h
    have hmem : item ∈ s.changesAfter etag (s.feed etag).length := by
      rwa [changesAfter_eq_take hs, List.take_length]
    exact mem_changesAfter hs hmem
  · rintro ⟨hitem, hlt⟩
    refine List.mem_filterMap.2 ⟨(item.etag, item.key), List.mem_filter.2 ⟨?_, ?_⟩, hitem⟩
    · exact SortedMap.get?_eq_some_iff.1 (hs.indexed hitem)
    · simpa using hlt

/-- Where nothing comes after an etag, no version is above it. -/
theorem le_of_changesAfter_eq_nil (hs : s.WellIndexed) {etag max : Nat} (hmax : 0 < max)
    (h : s.changesAfter etag max = []) {item : Item}
    (hitem : s.items.get? item.key = some item) : item.etag ≤ etag := by
  rw [changesAfter_eq_take hs, List.take_eq_nil_iff] at h
  have hnil : s.feed etag = [] := h.resolve_left (Nat.ne_of_gt hmax)
  refine Nat.le_of_not_lt fun hlt => ?_
  have hmem : item ∈ s.feed etag := (mem_feed_iff hs).2 ⟨hitem, hlt⟩
  rw [hnil] at hmem
  cases hmem

theorem mem_values_iff (hs : s.WellIndexed) {item : Item} :
    item ∈ s.items.values ↔ s.items.get? item.key = some item := by
  constructor
  · intro h
    obtain ⟨⟨k, own⟩, hmem, rfl⟩ := List.mem_map.1 h
    exact hs.get?_key (SortedMap.get?_eq_some_iff.2 hmem)
  · exact fun h => List.mem_map.2 ⟨_, SortedMap.get?_eq_some_iff.1 h, rfl⟩

/-- No version is held twice. -/
theorem nodup_values (hs : s.WellIndexed) : s.items.values.Nodup := by
  refine List.pairwise_map.2 (s.items.ordered.imp_of_mem ?_)
  intro e e' he he' hlt heq
  have hk := hs.key_eq (SortedMap.get?_eq_some_iff.2 he)
  have hk' := hs.key_eq (SortedMap.get?_eq_some_iff.2 he')
  have hsame : e.1 = e'.1 := by rw [← hk, ← hk', heq]
  simp [hsame, Std.ReflCmp.compare_self] at hlt

/-- The versions of a store above an etag, in the order of their etags. -/
def sorted (s : Store) (etag : Nat) : List Item :=
  (s.items.values.filter fun item => etag < item.etag).mergeSort fun a b => a.etag ≤ b.etag

/-- The index leads to the same as sorting the versions. -/
theorem feed_eq_sorted (hs : s.WellIndexed) (etag : Nat) : s.feed etag = s.sorted etag := by
  have hperm : (s.feed etag).Perm (s.sorted etag) := by
    refine .trans ?_ (List.mergeSort_perm _ _).symm
    have hnodup : (s.feed etag).Nodup := (feed_ascending hs etag).imp fun hlt heq => by
      rw [heq] at hlt
      exact Nat.lt_irrefl _ hlt
    refine (List.perm_ext_iff_of_nodup hnodup ((nodup_values hs).filter _)).2 fun item => ?_
    rw [mem_feed_iff hs, List.mem_filter, mem_values_iff hs, decide_eq_true_iff]
  have hle : (s.feed etag).Pairwise fun a b => a.etag ≤ b.etag :=
    (feed_ascending hs etag).imp Nat.le_of_lt
  refine List.Perm.eq_of_pairwise ?_ hle ?_ hperm
  · intro a b ha hb hab hba
    have ha := ((mem_feed_iff hs).1 ha).1
    have hb := ((mem_feed_iff hs).1 (hperm.mem_iff.2 hb)).1
    exact hs.eq_of_etag_eq ha hb (Nat.le_antisymm hab hba)
  · refine (List.pairwise_mergeSort ?_ ?_ _).imp of_decide_eq_true
    · intro a b c hab hbc
      exact decide_eq_true (Nat.le_trans (of_decide_eq_true hab) (of_decide_eq_true hbc))
    · intro a b
      simpa using Nat.le_total a.etag b.etag

/-- The change feed is the versions above an etag, sorted, as many as are asked for. -/
theorem changesAfter_eq (hs : s.WellIndexed) (etag max : Nat) :
    s.changesAfter etag max = (s.sorted etag).take max := by
  rw [changesAfter_eq_take hs, feed_eq_sorted hs]

/-- The change feed has one entry for a key. -/
theorem nodup_keys_changesAfter (hs : s.WellIndexed) (etag max : Nat) :
    ((s.changesAfter etag max).map Item.key).Nodup := by
  refine List.pairwise_map.2 ((changesAfter_ascending hs etag max).imp_of_mem ?_)
  intro a b ha hb hlt heq
  have ha := (mem_changesAfter hs ha).1
  rw [heq, (mem_changesAfter hs hb).1] at ha
  cases ha
  exact Nat.lt_irrefl _ hlt

end Store

/-! ### All of it -/

namespace Chronicle

/-- Versions, index, vector, announcement and feed of a store fit together, and fit its past. -/
structure Coherent (c : Chronicle) : Prop where
  /-- A version is kept under its own key. -/
  key_eq : ∀ {k item}, c.store.items.get? k = some item → item.key = k
  /-- What a store has under a key is the last version that it kept there. -/
  latest : ∀ k, c.store.items.get? k = c.kept.reverse.find? fun v => decide (v.key = k)
  /-- Every etag from one up to the last was given to one version, in order. -/
  etags_eq : c.kept.map (·.etag) = List.range' 1 c.store.lastEtag
  /-- The index lists a key under the etag of its version, and nowhere else. -/
  listed_iff : ∀ {etag k}, c.store.byEtag.get? etag = some k ↔
    ∃ item, c.store.items.get? k = some item ∧ item.etag = etag
  /-- Etags tell versions apart. -/
  etags_apart : ∀ {k k' item item'}, c.store.items.get? k = some item →
    c.store.items.get? k' = some item' → item.etag = item'.etag → k = k'
  etag_range : ∀ {k item}, c.store.items.get? k = some item →
    1 ≤ item.etag ∧ item.etag ≤ c.store.lastEtag
  /-- The vector lists what a version lists, with the most that any version says of it. -/
  vector_iff : ∀ {d m}, c.store.changeVector.entries.get? d = some m ↔
    IsGreatest (c.store.told d) m
  announced_eq : c.store.announced = c.store.lastEtag
  /-- The change feed is the versions above an etag, sorted, as many as are asked for. -/
  feed_eq : ∀ etag max, c.store.changesAfter etag max =
    ((c.store.items.values.filter fun item => etag < item.etag).mergeSort
      fun a b => a.etag ≤ b.etag).take max
  /-- It has one entry for a key. -/
  feed_keys : ∀ etag max, ((c.store.changesAfter etag max).map Item.key).Nodup

theorem Acted.summed {c c' : Chronicle} (h : Acted c c') (hs : c.store.Summed) :
    c'.store.Summed := by
  cases h with
  | idle => exact hs
  | @written item store hwrite =>
      obtain ⟨_, hwrite⟩ := hwrite.exists_writeLocal
      rw [write, Store.writeLocal_eq_ok hwrite]
      exact (hs.keepLocal _).of_items_eq rfl rfl
  | applied happly =>
      rcases Store.applyBatch_eq_ok happly with rfl | rfl
      · exact hs.foldl_takeOver.of_items_eq rfl rfl
      · exact hs.foldl_takeOver.of_items_eq rfl rfl

theorem Acted.announced {c c' : Chronicle} (h : Acted c c')
    (hs : c.store.announced = c.store.lastEtag) : c'.store.announced = c'.store.lastEtag := by
  cases h with
  | idle => exact hs
  | written hwrite =>
      obtain ⟨_, hwrite⟩ := hwrite.exists_writeLocal
      exact Store.announced_writeLocal hwrite
  | applied happly => exact Store.announced_applyBatch hs happly

/-- **Nothing drifts.**  Whatever documents are put and deleted and whatever batches are applied, in
any order: versions and index stay inverse to each other, the vector is the largest that the
versions say, readers were told of the last etag, and the change feed is the latest versions above
an etag, sorted by their etags. -/
theorem coherent_after (databaseId : String) (actions : List StoreAction) :
    (after databaseId actions).Coherent := by
  have hindexed := wellIndexed_after databaseId actions
  have hkept := kept_after databaseId actions
  have hsummed : (after databaseId actions).store.Summed :=
    after_induction (P := fun c => c.store.Summed) (Store.summed_empty databaseId)
      (fun hs hacted => hacted.summed hs) actions
  have hannounced : (after databaseId actions).store.announced =
      (after databaseId actions).store.lastEtag :=
    after_induction (P := fun c => c.store.announced = c.store.lastEtag) rfl
      (fun hs hacted => hacted.announced hs) actions
  constructor
  case key_eq => exact hindexed.key_eq
  case latest => exact fun k => (hkept.latest k).trans (Option.or_none ..)
  case etags_eq =>
    have hlength := hkept.lastEtag_eq
    rw [Store.empty, Nat.zero_add] at hlength
    rw [hkept.etags_eq, hlength]
    rfl
  case listed_iff =>
    intro etag k
    refine ⟨hindexed.listed, ?_⟩
    rintro ⟨item, hitem, rfl⟩
    exact hindexed.indexed hitem
  case etags_apart =>
    intro k k' item item' hitem hitem' hetag
    rw [← hindexed.key_eq hitem, ← hindexed.key_eq hitem',
      hindexed.eq_of_etag_eq hitem hitem' hetag]
  case etag_range => exact fun hitem => ⟨hindexed.etag_pos hitem, hindexed.etag_le hitem⟩
  case vector_iff => exact hsummed.get?_eq_some_iff
  case announced_eq => exact hannounced
  case feed_eq => exact Store.changesAfter_eq hindexed
  case feed_keys => exact Store.nodup_keys_changesAfter hindexed

end Chronicle

end HubReplication
