/-
**Equal vectors and equal versions.**

A store gives every local write an etag that no vector told of before, so two local writes of one
key never have one vector.  A version that is taken over keeps its vector as long as the store was
behind it.  So wherever a version is found, in a store or in a batch, it is the version some local
write wrote, or its vector is that of a conflict that some store settled under its key.  Two stores with
equal vectors under a key then have the same version, unless the vector comes from a conflict: of a
conflict each store keeps what arrived last, and the stores need not agree on what that was.

Main definitions:

* `Replicas.Holds` — a version is somewhere;
* `Item.TracedTo` — a version is that of a local write, or comes from a conflict;
* `Replicas.Sound` — what holds after every run.

Main results:

* `Replicas.Sound.step` — what one step keeps;
* `Replicas.sameVersion_or_settled` — equal vectors mean equal versions, but for settled conflicts;
* `Replicas.not_sameContent_crossedWrites` — and of a settled conflict they need not.
-/

import HubReplication.Proofs.Replicas.Basic

set_option relaxedAutoImplicit false
set_option autoImplicit false

namespace HubReplication

/-! ### Where versions come from -/

/-- A version is that of a local write, or has the vector of a conflict settled under its key. -/
def Item.TracedTo (item : Item) (writes : List Item) (settled : List Settlement) : Prop :=
  (∃ w ∈ writes, item.SameVersion w) ∨
    ∃ m ∈ settled, m.key = item.key ∧ m.vector.compare item.changeVector = .equal

variable {writes writes' : List Item} {settled settled' : List Settlement} {item own : Item}

theorem Item.TracedTo.mono (h : item.TracedTo writes settled) (hwrites : writes ⊆ writes')
    (hsettled : settled ⊆ settled') : item.TracedTo writes' settled' := by
  rcases h with ⟨w, hw, hsame⟩ | ⟨m, hm, hkey, hequal⟩
  · exact .inl ⟨w, hwrites hw, hsame⟩
  · exact .inr ⟨m, hsettled hm, hkey, hequal⟩

/-- What is traced does not depend on the etag of an item. -/
theorem Item.TracedTo.of_sameVersion (h : item.TracedTo writes settled)
    (hsame : own.SameVersion item) : own.TracedTo writes settled := by
  rcases h with ⟨w, hw, hversion⟩ | ⟨m, hm, hkey, hequal⟩
  · exact .inl ⟨w, hw, hsame.trans hversion⟩
  · refine .inr ⟨m, hm, hkey.trans hsame.key_eq.symm, ?_⟩
    exact ChangeVector.equal_trans hequal (ChangeVector.equal_symm hsame.equal)

namespace Store

variable {s : Store} {k : ItemKey}

/-! ### Taking over -/

/-- An item that dominates what a store has seen of it is kept as it is. -/
theorem sameVersion_of_dominates_seen (hdom : item.changeVector.dominates (s.seen item.key) = true)
    (etag : Nat) :
    { item with etag, changeVector := (s.seen item.key).merge item.changeVector }.SameVersion
      item := by
  refine ⟨rfl, rfl, rfl, rfl, rfl, rfl, ChangeVector.merge_dominates_right _ _, ?_⟩
  refine ChangeVector.dominates_iff.2 fun d => ?_
  have hle := ChangeVector.dominates_iff.1 hdom d
  rw [ChangeVector.get_merge]
  exact Nat.max_le.2 ⟨hle, Nat.le_refl _⟩

/-- A store that takes an item over keeps the version of the item, or settles a conflict. -/
theorem tracedTo_takeOver
    (hown : ∀ {k own}, s.items.get? k = some own → own.TracedTo writes settled)
    (hitem : item.TracedTo writes settled) (h : (s.takeOver item).items.get? k = some own) :
    own.TracedTo writes (settled ++ (s.settlement? item).toList) := by
  have hsub : settled ⊆ settled ++ (s.settlement? item).toList := List.subset_append_left _ _
  rcases get?_takeOver h with hold | ⟨rfl, hunseen⟩
  · exact (hown hold).mono (List.Subset.refl _) hsub
  · cases hget : s.items.get? item.key with
    | none =>
        refine (hitem.mono (List.Subset.refl _) hsub).of_sameVersion
          (sameVersion_of_dominates_seen ?_ _)
        rw [seen, hget]
        exact ChangeVector.dominates_iff.2 fun d => Nat.zero_le _
    | some previous =>
        rw [seen_eq hget]
        cases hdom : item.changeVector.dominates previous.changeVector with
        | true =>
            have hseen : item.changeVector.dominates (s.seen item.key) = true := by
              rw [seen_eq hget]
              exact hdom
            have hsame := sameVersion_of_dominates_seen hseen (s.lastEtag + 1)
            rw [seen_eq hget] at hsame
            exact (hitem.mono (List.Subset.refl _) hsub).of_sameVersion hsame
        | false =>
            have hconflict : previous.changeVector.compare item.changeVector = .conflict :=
              ChangeVector.compare_eq_conflict_iff.2 ⟨hunseen hget, hdom⟩
            have hsettled : s.settlement? item =
                some ⟨item.key, previous.changeVector.merge item.changeVector⟩ := by
              rw [settlement?, hget]
              exact if_pos hconflict
            have hmem : ⟨item.key, previous.changeVector.merge item.changeVector⟩ ∈
                settled ++ (s.settlement? item).toList := by
              rw [hsettled]
              exact List.mem_append_right _ List.mem_cons_self
            exact .inr ⟨_, hmem, rfl, ChangeVector.equal_self _⟩

/-- So does a store that takes over items one after another. -/
theorem tracedTo_foldl_takeOver {items : List Item}
    (hown : ∀ {k own}, s.items.get? k = some own → own.TracedTo writes settled)
    (hitems : ∀ item ∈ items, item.TracedTo writes settled)
    (h : (items.foldl takeOver s).items.get? k = some own) :
    own.TracedTo writes (settled ++ s.settlements items) := by
  induction items generalizing s settled with
  | nil =>
      rw [settlements, List.append_nil]
      exact hown h
  | cons item rest ih =>
      rw [settlements, ← List.append_assoc]
      refine ih (fun hget => ?_) (fun i hi => ?_) h
      · exact tracedTo_takeOver hown (hitems item List.mem_cons_self) hget
      · exact (hitems i (List.mem_cons_of_mem _ hi)).mono (List.Subset.refl _)
          (List.subset_append_left _ _)

/-- Taking over tells of no etag of a database that was not told of before. -/
theorem get_le_of_foldl_takeOver {items : List Item} {d : String} {n : Nat}
    (hown : ∀ {k own}, s.items.get? k = some own → own.changeVector.get d ≤ n)
    (hitems : ∀ item ∈ items, item.changeVector.get d ≤ n)
    (h : (items.foldl takeOver s).items.get? k = some own) : own.changeVector.get d ≤ n := by
  induction items generalizing s with
  | nil => exact hown h
  | cons item rest ih =>
      refine ih (fun hget => ?_) (fun i hi => hitems i (List.mem_cons_of_mem _ hi)) h
      rcases get?_takeOver hget with hold | ⟨rfl, -⟩
      · exact hown hold
      · rw [ChangeVector.get_merge]
        refine Nat.max_le.2 ⟨?_, hitems item List.mem_cons_self⟩
        cases hprevious : s.items.get? item.key with
        | none =>
            rw [seen, hprevious]
            exact Nat.zero_le n
        | some previous =>
            rw [seen_eq hprevious]
            exact hown hprevious

end Store

namespace Replicas

/-! ### The invariant -/

/-- A version is in a store, or in a batch that was read. -/
def Holds (r : Replicas) (item : Item) : Prop :=
  (∃ (i : Nat) (s : Store) (k : ItemKey), r.stores[i]? = some s ∧ s.items.get? k = some item) ∨
    ∃ items ∈ r.batches, item ∈ items

/-- What holds after every run, given the local writes so far. -/
structure Sound (r : Replicas) (writes : List Item) : Prop where
  apart : ∀ {i j : Nat} {s t : Store}, r.stores[i]? = some s → r.stores[j]? = some t →
    s.databaseId = t.databaseId → i = j
  wellIndexed : ∀ {i : Nat} {s : Store}, r.stores[i]? = some s → s.WellIndexed
  /-- No vector tells of an etag that its database has not given. -/
  held_honest : ∀ {i : Nat} {s : Store} {item : Item}, r.stores[i]? = some s → r.Holds item →
    s.Honest item
  writes_honest : ∀ {i : Nat} {s : Store} {w : Item}, r.stores[i]? = some s → w ∈ writes →
    s.Honest w
  traced : ∀ {item}, r.Holds item → item.TracedTo writes r.settled
  /-- Local writes of one key with equal vectors are one write. -/
  unique : ∀ {v w}, v ∈ writes → w ∈ writes → v.key = w.key →
    v.changeVector.compare w.changeVector = .equal → v = w

variable {r r' : Replicas} {i j : Nat} {s t : Store}

theorem sound_start {ids : List String} (hids : ids.Nodup) : (start ids).Sound [] := by
  have hstores : ∀ {i : Nat} {s : Store}, (start ids).stores[i]? = some s →
      ∃ id, ids[i]? = some id ∧ s = Store.empty id := by
    intro i s hs
    rw [start, List.getElem?_map, Option.map_eq_some_iff] at hs
    obtain ⟨id, hid, rfl⟩ := hs
    exact ⟨id, hid, rfl⟩
  have hnone : ∀ {item : Item}, ¬(start ids).Holds item := by
    rintro item (⟨i, s, k, hs, hget⟩ | ⟨items, hitems, -⟩)
    · obtain ⟨id, -, rfl⟩ := hstores hs
      cases hget
    · cases hitems
  constructor
  case apart =>
    intro i j s t hs ht heq
    obtain ⟨id, hi, rfl⟩ := hstores hs
    obtain ⟨id', hj, rfl⟩ := hstores ht
    obtain rfl : id = id' := heq
    obtain ⟨hlt, hi⟩ := List.getElem?_eq_some_iff.1 hi
    obtain ⟨hlt', hj⟩ := List.getElem?_eq_some_iff.1 hj
    exact (List.getElem_inj hids).1 (hi.trans hj.symm)
  case wellIndexed =>
    intro i s hs
    obtain ⟨id, -, rfl⟩ := hstores hs
    exact Store.wellIndexed_empty id
  case held_honest => exact fun _ hheld => absurd hheld hnone
  case writes_honest => exact fun _ hw => by cases hw
  case traced => exact fun hheld => absurd hheld hnone
  case unique => exact fun hv => by cases hv

/-! ### One step -/

/-- What stands at a place after a store was replaced. -/
theorem getElem?_set_cases {s' : Store} (h : (r.stores.set i s')[j]? = some t) :
    j = i ∧ t = s' ∨ j ≠ i ∧ r.stores[j]? = some t := by
  rw [List.getElem?_set] at h
  split at h
  · rename_i hij
    split at h
    · cases h
      exact .inl ⟨hij.symm, rfl⟩
    · cases h
  · rename_i hij
    exact .inr ⟨fun hji => hij hji.symm, h⟩

/-- A later state of a store takes its place; versions are held before, or are new to that store. -/
theorem held_set {s' : Store} (settled : List Settlement)
    (h : ({ r with stores := r.stores.set i s', settled } : Replicas).Holds item) :
    r.Holds item ∨ ∃ k, s'.items.get? k = some item := by
  rcases h with ⟨j, t, k, ht, hget⟩ | hbatch
  · rcases getElem?_set_cases ht with ⟨-, rfl⟩ | ⟨-, hold⟩
    · exact .inr ⟨k, hget⟩
    · exact .inl (.inl ⟨j, t, k, hold, hget⟩)
  · exact .inl (.inr hbatch)

theorem Sound.apart_set (h : r.Sound writes) (hs : r.stores[i]? = some s) {s' : Store}
    (hlater : s.Later s') {j j' : Nat} {t t' : Store}
    (ht : (r.stores.set i s')[j]? = some t) (ht' : (r.stores.set i s')[j']? = some t')
    (heq : t.databaseId = t'.databaseId) : j = j' := by
  rcases getElem?_set_cases ht with ⟨rfl, rfl⟩ | ⟨-, hold⟩ <;>
    rcases getElem?_set_cases ht' with ⟨rfl, rfl⟩ | ⟨-, hold'⟩
  · rfl
  · exact h.apart hs hold' (hlater.databaseId_eq.symm.trans heq)
  · exact h.apart hold hs (heq.trans hlater.databaseId_eq)
  · exact h.apart hold hold' heq

theorem Sound.wellIndexed_set (h : r.Sound writes) (hs : r.stores[i]? = some s) {s' : Store}
    (hlater : s.Later s') (ht : (r.stores.set i s')[j]? = some t) : t.WellIndexed := by
  rcases getElem?_set_cases ht with ⟨-, rfl⟩ | ⟨-, hold⟩
  · exact hlater.wellIndexed (h.wellIndexed hs)
  · exact h.wellIndexed hold

/-- What was honest to every store is so when one of them moved on. -/
theorem honest_set (hs : r.stores[i]? = some s) {s' : Store} (hlater : s.Later s')
    (hhonest : ∀ {j : Nat} {t : Store}, r.stores[j]? = some t → t.Honest item)
    (ht : (r.stores.set i s')[j]? = some t) : t.Honest item := by
  rcases getElem?_set_cases ht with ⟨-, rfl⟩ | ⟨-, hold⟩
  · exact (hhonest hs).later hlater
  · exact hhonest hold

/-- What a store has seen of a key tells of no etag that its database has not given. -/
theorem Sound.get_seen_le (h : r.Sound writes) (hs : r.stores[i]? = some s)
    (ht : r.stores[j]? = some t) (k : ItemKey) : (s.seen k).get t.databaseId ≤ t.lastEtag := by
  cases hget : s.items.get? k with
  | none =>
      rw [Store.seen, hget]
      exact Nat.zero_le _
  | some own =>
      rw [Store.seen_eq hget]
      exact h.held_honest ht (.inl ⟨i, s, k, hs, hget⟩)

section Written

variable (h : r.Sound writes) (hs : r.stores[i]? = some s)

include h hs

/-- The vector of a local write tells of the etag that the write was given. -/
theorem Sound.get_version (item : Item) :
    (s.version item).changeVector.get s.databaseId = s.lastEtag + 1 := by
  have hle := h.get_seen_le hs hs item.key
  simp only [Store.version, ChangeVector.get_raise, if_true]
  omega

theorem Sound.honest_version {item : Item}
    (ht : (r.stores.set i (s.keepLocal item).announce)[j]? = some t) :
    t.Honest (s.version item) := by
  rcases getElem?_set_cases ht with ⟨-, rfl⟩ | ⟨hne, hold⟩
  · exact Nat.le_of_eq (h.get_version hs item)
  · -- Of the database of another store the vector tells what it told before.
    have hother : t.databaseId ≠ s.databaseId := fun heq => hne (h.apart hold hs heq)
    have hle := h.get_seen_le hs hold item.key
    simp only [Store.Honest, Store.version, ChangeVector.get_raise, if_neg hother]
    exact hle

/-- No write before told of the etag that a local write is given now. -/
theorem Sound.not_dominates_version (item : Item) {w : Item} (hw : w ∈ writes) :
    w.changeVector.dominates (s.version item).changeVector = false := by
  rw [Bool.eq_false_iff]
  intro hdom
  have hge := ChangeVector.dominates_iff.1 hdom s.databaseId
  have hle : w.changeVector.get s.databaseId ≤ s.lastEtag := h.writes_honest hs hw
  rw [h.get_version hs item] at hge
  omega

/-- Local writes of one key with equal vectors stay one write. -/
theorem Sound.unique_version (item : Item) {v w : Item} (hv : v ∈ s.version item :: writes)
    (hw : w ∈ s.version item :: writes) (hkey : v.key = w.key)
    (hequal : v.changeVector.compare w.changeVector = .equal) : v = w := by
  obtain ⟨hvw, hwv⟩ := ChangeVector.compare_eq_equal_iff.1 hequal
  rcases List.mem_cons.1 hv with rfl | hv <;> rcases List.mem_cons.1 hw with rfl | hw
  · rfl
  · rw [h.not_dominates_version hs item hw] at hwv
    cases hwv
  · rw [h.not_dominates_version hs item hv] at hvw
    cases hvw
  · exact h.unique hv hw hkey hequal

/-- A local write: its etag is above all that vectors told of its database. -/
theorem Sound.written (item : Item) :
    ({ r with stores := r.stores.set i (s.keepLocal item).announce } : Replicas).Sound
      (s.version item :: writes) := by
  have hlater : s.Later (s.keepLocal item).announce :=
    (Store.keepLocal_later item).trans Store.announce_later
  have hheld : ∀ {own : Item},
      ({ r with stores := r.stores.set i (s.keepLocal item).announce } : Replicas).Holds own →
      r.Holds own ∨ own = s.version item := by
    intro own hhold
    rcases held_set r.settled hhold with hold | ⟨k, hget⟩
    · exact .inl hold
    · rcases Store.get?_keepLocal hget with hold | hnew
      · exact .inl (.inl ⟨i, s, k, hs, hold⟩)
      · exact .inr hnew
  constructor
  case apart => exact h.apart_set hs hlater
  case wellIndexed => exact h.wellIndexed_set hs hlater
  case held_honest =>
    intro j t own ht hhold
    rcases hheld hhold with hold | rfl
    · exact honest_set hs hlater (fun ht => h.held_honest ht hold) ht
    · exact h.honest_version hs ht
  case writes_honest =>
    intro j t w ht hw
    rcases List.mem_cons.1 hw with rfl | hw
    · exact h.honest_version hs ht
    · exact honest_set hs hlater (fun ht => h.writes_honest ht hw) ht
  case traced =>
    intro own hhold
    rcases hheld hhold with hold | rfl
    · exact (h.traced hold).mono (List.subset_cons_self _ _) (List.Subset.refl _)
    · exact .inl ⟨s.version item, List.mem_cons_self, .refl _⟩
  case unique => exact fun hv hw hkey hequal => h.unique_version hs item hv hw hkey hequal

end Written

/-- A batch was read: its versions were in the store. -/
theorem Sound.read (h : r.Sound writes) (hs : r.stores[i]? = some s) (after max : Nat) :
    ({ r with batches := r.batches ++ [s.changesAfter after max] } : Replicas).Sound writes := by
  have hheld : ∀ {own : Item},
      ({ r with batches := r.batches ++ [s.changesAfter after max] } : Replicas).Holds own →
      r.Holds own := by
    rintro own (hstore | ⟨items, hitems, hmem⟩)
    · exact .inl hstore
    · rcases List.mem_append.1 hitems with hold | hnew
      · exact .inr ⟨items, hold, hmem⟩
      · rw [List.mem_singleton.1 hnew] at hmem
        obtain ⟨hget, -⟩ := Store.mem_changesAfter (h.wellIndexed hs) hmem
        exact .inl ⟨i, s, _, hs, hget⟩
  exact ⟨h.apart, h.wellIndexed, fun hs hhold => h.held_honest hs (hheld hhold), h.writes_honest,
    fun hhold => h.traced (hheld hhold), h.unique⟩

/-- A batch was taken over: its versions were held already, and conflicts are listed. -/
theorem Sound.delivered (h : r.Sound writes) (hs : r.stores[i]? = some s) {s' : Store}
    {items : List Item} (hitems : items ∈ r.batches) (hlater : s.Later s')
    (htaken : s'.items = (items.foldl Store.takeOver s).items) :
    ({ r with
        stores := r.stores.set i s'
        settled := r.settled ++ s.settlements items } : Replicas).Sound writes := by
  have hown : ∀ {k own}, s.items.get? k = some own → r.Holds own :=
    fun hget => .inl ⟨i, s, _, hs, hget⟩
  have hbatch : ∀ item ∈ items, r.Holds item := fun item hitem => .inr ⟨items, hitems, hitem⟩
  constructor
  case apart => exact h.apart_set hs hlater
  case wellIndexed => exact h.wellIndexed_set hs hlater
  case held_honest =>
    intro j t own ht hhold
    refine honest_set hs hlater (fun {j t} ht => ?_) ht
    rcases held_set _ hhold with hold | ⟨k, hget⟩
    · exact h.held_honest ht hold
    · rw [htaken] at hget
      exact Store.get_le_of_foldl_takeOver (fun hget => h.held_honest ht (hown hget))
        (fun item hitem => h.held_honest ht (hbatch item hitem)) hget
  case writes_honest =>
    intro j t w ht hw
    exact honest_set hs hlater (fun ht => h.writes_honest ht hw) ht
  case traced =>
    intro own hhold
    rcases held_set _ hhold with hold | ⟨k, hget⟩
    · exact (h.traced hold).mono (List.Subset.refl _) (List.subset_append_left _ _)
    · rw [htaken] at hget
      exact Store.tracedTo_foldl_takeOver (fun hget => h.traced (hown hget))
        (fun item hitem => h.traced (hbatch item hitem)) hget
  case unique => exact h.unique

theorem Sound.step (h : r.Sound writes) (action : ReplicaAction) :
    ∃ writes', (r.step action).Sound writes' := by
  have hstep := stepped r action
  revert hstep
  generalize r.step action = r'
  intro hstep
  cases hstep with
  | idle => exact ⟨writes, h⟩
  | written hs item => exact ⟨_, h.written hs item⟩
  | read hs after max => exact ⟨writes, h.read hs after max⟩
  | delivered hs hitems happly =>
      exact ⟨writes, h.delivered hs hitems (Store.applyBatch_later happly)
        (Store.items_applyBatch happly)⟩

/-! ### Every run -/

theorem sound_foldl (actions : List ReplicaAction) (h : r.Sound writes) :
    ∃ writes', (actions.foldl Replicas.step r).Sound writes' := by
  induction actions generalizing r writes with
  | nil => exact ⟨writes, h⟩
  | cons action rest ih =>
      obtain ⟨writes', hstep⟩ := h.step action
      exact ih hstep

/-- Whenever two stores have something under one key with equal vectors, they have the same version,
or the vector is that of a conflict that a store settled under the key. -/
theorem sameVersion_or_settled {ids : List String} (hids : ids.Nodup)
    (actions : List ReplicaAction) {i j : Nat} {s t : Store} {k : ItemKey} {a b : Item}
    (hs : (run ids actions).stores[i]? = some s) (ht : (run ids actions).stores[j]? = some t)
    (ha : s.items.get? k = some a) (hb : t.items.get? k = some b)
    (hequal : a.changeVector.compare b.changeVector = .equal) :
    a.SameVersion b ∨
      ∃ m ∈ (run ids actions).settled, m.key = k ∧ m.vector.compare a.changeVector = .equal := by
  obtain ⟨writes, hsound⟩ := sound_foldl actions (sound_start hids)
  have hkeya : a.key = k := (hsound.wellIndexed hs).key_eq ha
  have hkeyb : b.key = k := (hsound.wellIndexed ht).key_eq hb
  rcases hsound.traced (.inl ⟨i, s, k, hs, ha⟩) with ⟨w, hw, haw⟩ | ⟨m, hm, hkey, hvector⟩
  · rcases hsound.traced (.inl ⟨j, t, k, ht, hb⟩) with ⟨v, hv, hbv⟩ | ⟨m, hm, hkey, hvector⟩
    · -- Both are versions of local writes, and those have equal vectors.
      have hkeys : w.key = v.key := by rw [← haw.key_eq, ← hbv.key_eq, hkeya, hkeyb]
      have hwv : w.changeVector.compare v.changeVector = .equal :=
        ChangeVector.equal_trans haw.symm.equal (ChangeVector.equal_trans hequal hbv.equal)
      obtain rfl := hsound.unique hw hv hkeys hwv
      exact .inl (haw.trans hbv.symm)
    · have hown := ChangeVector.equal_trans hvector (ChangeVector.equal_symm hequal)
      exact .inr ⟨m, hm, hkey.trans hkeyb, hown⟩
  · exact .inr ⟨m, hm, hkey.trans hkeya, hvector⟩

/-- A document is written to one store and delivered to another one. -/
def deliveredWrite : List ReplicaAction :=
  [.put 0 "users/1" "C" (.bool true) ⟨0, 0⟩, .read 0 0 10, .deliver 0 1 "a" 1]

/-- Two stores write a document, and what they wrote crosses on its way. -/
def crossedWrites : List ReplicaAction :=
  [.put 0 "users/1" "C" (.bool true) ⟨0, 0⟩, .put 1 "users/1" "C" (.bool false) ⟨0, 0⟩,
    .read 0 0 10, .read 1 0 10, .deliver 0 1 "a" 1, .deliver 1 0 "b" 1]

/-- What the stores have under a key. -/
def found (r : Replicas) (k : ItemKey) : List (Option Item) := r.stores.map (·.items.get? k)

theorem exists_of_found {k : ItemKey} {a b : Item} (h : r.found k = [some a, some b]) :
    ∃ s t, r.stores[0]? = some s ∧ r.stores[1]? = some t ∧ s.items.get? k = some a ∧
      t.items.get? k = some b := by
  unfold found at h
  match hstores : r.stores with
  | [] => simp [hstores] at h
  | [s] => simp [hstores] at h
  | [s, t] =>
      simp only [hstores, List.map_cons, List.map_nil, List.cons.injEq, and_true] at h
      exact ⟨s, t, rfl, rfl, h.1, h.2⟩
  | s :: t :: u :: rest => simp [hstores] at h

theorem sameVersion_or_settled_deliveredWrite :
    ∃ s t a b, (run ["a", "b"] deliveredWrite).stores[0]? = some s ∧
      (run ["a", "b"] deliveredWrite).stores[1]? = some t ∧
      s.items.get? ⟨"users/1", .document⟩ = some a ∧
      t.items.get? ⟨"users/1", .document⟩ = some b ∧ a.SameVersion b := by
  have hfound : (run ["a", "b"] deliveredWrite).found ⟨"users/1", .document⟩ =
      [some ⟨"users/1", .document, some "C", 1, .single "a" 1, ⟨0, 0⟩, false, some (.bool true)⟩,
        some ⟨"users/1", .document, some "C", 1, .single "a" 1, ⟨0, 0⟩, false,
          some (.bool true)⟩] := by rfl
  obtain ⟨s, t, hs, ht, ha, hb⟩ := exists_of_found hfound
  refine ⟨s, t, _, _, hs, ht, ha, hb, ?_⟩
  rcases sameVersion_or_settled (by decide) deliveredWrite hs ht ha hb (by decide) with
    hsame | ⟨m, hm, -, -⟩
  · exact hsame
  · -- Nothing was in conflict.
    have hnone : (run ["a", "b"] deliveredWrite).settled = [] := by rfl
    rw [hnone] at hm
    cases hm

/-- Equal vectors do not mean equal documents: after writes that crossed, each store has what the
other one wrote. -/
theorem not_sameContent_crossedWrites :
    ¬∀ (ids : List String), ids.Nodup → ∀ (actions : List ReplicaAction) (i j : Nat) (s t : Store)
      (k : ItemKey) (a b : Item), (run ids actions).stores[i]? = some s →
      (run ids actions).stores[j]? = some t → s.items.get? k = some a → t.items.get? k = some b →
      a.changeVector.compare b.changeVector = .equal →
      a.deleted = b.deleted ∧ a.collection = b.collection ∧ a.body = b.body := by
  intro hall
  have hfound : (run ["a", "b"] crossedWrites).found ⟨"users/1", .document⟩ =
      [some ⟨"users/1", .document, some "C", 2, (ChangeVector.single "a" 1).raise "b" 1, ⟨0, 0⟩,
          false, some (.bool false)⟩,
        some ⟨"users/1", .document, some "C", 2, (ChangeVector.single "b" 1).raise "a" 1, ⟨0, 0⟩,
          false, some (.bool true)⟩] := by rfl
  obtain ⟨s, t, hs, ht, ha, hb⟩ := exists_of_found hfound
  obtain ⟨-, -, hbody⟩ := hall ["a", "b"] (by decide) crossedWrites 0 1 s t _ _ _ hs ht ha hb
    (by decide)
  cases hbody

end Replicas

end HubReplication
