/-
**Change vectors as a semilattice.**

What two vectors say together is the least that dominates both, whatever order they come in and
however often they are merged.  Dominating is a preorder and not an order: an entry of etag zero
says no more than no entry, so two vectors that differ in such entries alone stand equal.  Nothing
that is asked of vectors sees the difference.

Main definitions:

* `ChangeVector.ZerosApart` — two vectors list the same etags, those of zero aside;
* `ChangeVector.withZeros`, `ChangeVector.withoutZeros` — a vector with such entries added, or some
  of them removed;
* `ChangeVector.Semilattice` — the laws that three vectors obey.

Main results:

* `ChangeVector.merge_comm`, `ChangeVector.merge_assoc`, `ChangeVector.merge_self` — merging does
  not depend on order or repetition;
* `ChangeVector.compare_eq_equal_iff_get`, `ChangeVector.compare_eq_newer_iff_older`,
  `ChangeVector.compare_eq_conflict_comm` — how vectors stand, and how seen from the other side;
* `ChangeVector.zerosApart_iff` — vectors stand equal where entries of zero alone tell them apart;
* `ChangeVector.semilattice` — any three vectors obey the laws.
-/

import HubReplication.Proofs.ChangeVector.Order

set_option relaxedAutoImplicit false
set_option autoImplicit false

namespace HubReplication.ChangeVector

variable {a b c : ChangeVector}

/-! ### Merging as maps -/

/-- Merging takes the larger of two etags where both vectors list one, and else the one there is. -/
theorem get?_merge_eq (a b : ChangeVector) (d : String) :
    (a.merge b).entries.get? d = (a.entries.get? d).merge max (b.entries.get? d) := by
  rw [get?_merge]
  cases hb : b.entries.get? d with
  | none => cases a.entries.get? d <;> rfl
  | some m =>
      cases ha : a.entries.get? d with
      | none => simp only [get, ha, Option.getD_none, Nat.zero_max, Option.merge]
      | some n => simp only [get, ha, Option.getD_some, Option.merge]

/-- Raising an entry takes the larger of two etags where one is listed. -/
theorem get?_raise (cv : ChangeVector) (d d' : String) (n : Nat) :
    (cv.raise d n).entries.get? d' =
      if d = d' then (cv.entries.get? d').merge max (some n) else cv.entries.get? d' := by
  rw [raise]
  split
  · rename_i heq
    subst heq
    rw [SortedMap.get?_insert_self, get]
    cases cv.entries.get? d with
    | none => rw [Option.getD_none, Nat.zero_max]; rfl
    | some m => rfl
  · rename_i hne
    exact SortedMap.get?_insert_of_ne _ _ (Ne.symm hne)

theorem merge_comm (a b : ChangeVector) : a.merge b = b.merge a :=
  ext_get? fun d => by
    rw [get?_merge_eq, get?_merge_eq]
    exact Std.Commutative.comm _ _

theorem merge_assoc (a b c : ChangeVector) : (a.merge b).merge c = a.merge (b.merge c) :=
  ext_get? fun d => by
    simp only [get?_merge_eq]
    exact Std.Associative.assoc _ _ _

@[simp] theorem merge_self (a : ChangeVector) : a.merge a = a :=
  ext_get? fun d => by
    rw [get?_merge_eq]
    exact Std.IdempotentOp.idempotent _

/-! ### How vectors stand -/

/-- Vectors stand equal where they say the same of every database. -/
theorem compare_eq_equal_iff_get : a.compare b = .equal ↔ ∀ d, a.get d = b.get d := by
  rw [compare_eq_equal_iff, dominates_iff, dominates_iff, ← forall_and]
  exact forall_congr' fun d => ⟨fun h => Nat.le_antisymm h.2 h.1, fun h => by simp [h]⟩

theorem compare_eq_newer_iff_older : a.compare b = .newer ↔ b.compare a = .older := by
  rw [compare_eq_newer_iff, compare_eq_older_iff, and_comm]

theorem compare_eq_conflict_comm : a.compare b = .conflict ↔ b.compare a = .conflict := by
  rw [compare_eq_conflict_iff, compare_eq_conflict_iff, and_comm]

/-! ### Entries of zero -/

/-- Two vectors list the same etags, those of zero aside. -/
def ZerosApart (a b : ChangeVector) : Prop :=
  ∀ ⦃d n⦄, n ≠ 0 → (a.entries.get? d = some n ↔ b.entries.get? d = some n)

/-- A vector with entries of zero for databases that it does not list. -/
def withZeros (cv : ChangeVector) (ds : List String) : ChangeVector :=
  ds.foldl (fun cv d => cv.raise d 0) cv

/-- A vector without the entries of zero of some databases. -/
def withoutZeros (cv : ChangeVector) (p : String → Bool) : ChangeVector :=
  ⟨cv.entries.filter fun d n => n != 0 || !p d⟩

theorem get_eq_iff_get? {cv : ChangeVector} {d : String} {n : Nat} (hn : n ≠ 0) :
    cv.get d = n ↔ cv.entries.get? d = some n := by
  unfold get
  cases cv.entries.get? d with
  | none => simpa using hn.symm
  | some m => simp

/-- Vectors stand equal exactly where entries of zero alone tell them apart. -/
theorem zerosApart_iff : a.ZerosApart b ↔ a.compare b = .equal := by
  rw [compare_eq_equal_iff_get]
  constructor
  · intro h d
    -- What either vector says, unless it is zero, the other one lists too.
    rcases Nat.eq_zero_or_pos (a.get d) with ha | ha
    · rcases Nat.eq_zero_or_pos (b.get d) with hb | hb
      · rw [ha, hb]
      · have hne := Nat.ne_of_gt hb
        exact (get_eq_iff_get? hne).2 ((h hne).2 ((get_eq_iff_get? hne).1 rfl))
    · have hne := Nat.ne_of_gt ha
      exact ((get_eq_iff_get? hne).2 ((h hne).1 ((get_eq_iff_get? hne).1 rfl))).symm
  · intro h d n hn
    rw [← get_eq_iff_get? hn, ← get_eq_iff_get? hn, h]

/-- Vectors that stand equal need not be the same. -/
example : (single "A" 0).compare empty = .equal ∧ single "A" 0 ≠ empty := by decide +kernel

theorem ZerosApart.get_eq (h : a.ZerosApart b) (d : String) : a.get d = b.get d :=
  compare_eq_equal_iff_get.1 (zerosApart_iff.1 h) d

/-- Entries of zero on either side do not change who dominates. -/
theorem ZerosApart.dominates_eq {a' b' : ChangeVector} (ha : a.ZerosApart a')
    (hb : b.ZerosApart b') : a'.dominates b' = a.dominates b := by
  rw [Bool.eq_iff_iff, dominates_iff, dominates_iff]
  exact forall_congr' fun d => by rw [ha.get_eq, hb.get_eq]

/-- Entries of zero on either side do not change how two vectors stand. -/
theorem ZerosApart.compare_eq {a' b' : ChangeVector} (ha : a.ZerosApart a')
    (hb : b.ZerosApart b') : a'.compare b' = a.compare b := by
  rw [ChangeVector.compare_eq a' b', ChangeVector.compare_eq a b, ha.dominates_eq hb,
    hb.dominates_eq ha]

/-- Entries of zero may be added. -/
theorem zerosApart_withZeros (a : ChangeVector) (ds : List String) :
    a.ZerosApart (a.withZeros ds) := by
  rw [zerosApart_iff]
  induction ds generalizing a with
  | nil => exact equal_self a
  | cons d rest ih =>
      have hraise : a.compare (a.raise d 0) = .equal :=
        equal_symm (by rw [compare_raise, if_pos (Nat.zero_le _)])
      exact equal_trans hraise (ih (a.raise d 0))

/-- Entries of zero may be removed. -/
theorem zerosApart_withoutZeros (a : ChangeVector) (p : String → Bool) :
    a.ZerosApart (a.withoutZeros p) := by
  intro d n hn
  rw [SortedMap.get?_eq_some_iff, SortedMap.get?_eq_some_iff]
  exact ⟨fun h => List.mem_filter.2 ⟨h, by simp [hn]⟩, fun h => (List.mem_filter.1 h).1⟩

/-! ### The semilattice -/

/-- What merging, dominating and comparing do for any vectors. -/
structure Semilattice (a b c : ChangeVector) : Prop where
  merge_comm : a.merge b = b.merge a
  merge_assoc : (a.merge b).merge c = a.merge (b.merge c)
  merge_self : a.merge a = a
  /-- Merging dominates both vectors. -/
  merge_above : (a.merge b).dominates a = true ∧ (a.merge b).dominates b = true
  /-- What dominates both vectors dominates what they say together. -/
  merge_least : c.dominates a = true → c.dominates b = true → c.dominates (a.merge b) = true
  dominates_self : a.dominates a = true
  dominates_trans : a.dominates b = true → b.dominates c = true → a.dominates c = true
  /-- A database that is not listed counts as one listed with zero. -/
  equal_iff : a.compare b = .equal ↔ ∀ d, a.get d = b.get d
  newer_iff : a.compare b = .newer ↔ b.compare a = .older
  conflict_comm : a.compare b = .conflict ↔ b.compare a = .conflict
  /-- Entries of zero on either side change nothing. -/
  zeros_apart : ∀ {a' b'}, a.ZerosApart a' → b.ZerosApart b' →
    a'.compare b' = a.compare b ∧ a'.dominates b' = a.dominates b
  zeros_added : ∀ ds, a.ZerosApart (a.withZeros ds)
  zeros_removed : ∀ p, a.ZerosApart (a.withoutZeros p)

/-- Change vectors are a semilattice: merging joins what dominating orders, and entries of zero do
not matter. -/
theorem semilattice (a b c : ChangeVector) : Semilattice a b c where
  merge_comm := merge_comm a b
  merge_assoc := merge_assoc a b c
  merge_self := merge_self a
  merge_above := ⟨merge_dominates_left a b, merge_dominates_right a b⟩
  merge_least := dominates_merge
  dominates_self := dominates_self a
  dominates_trans := dominates_trans
  equal_iff := compare_eq_equal_iff_get
  newer_iff := compare_eq_newer_iff_older
  conflict_comm := compare_eq_conflict_comm
  zeros_apart ha hb := ⟨ha.compare_eq hb, ha.dominates_eq hb⟩
  zeros_added := zerosApart_withZeros a
  zeros_removed := zerosApart_withoutZeros a

end HubReplication.ChangeVector
