/-
**The order of change vectors.**

A change vector says an etag of every database, so merging takes the larger etag database by
database, and one vector dominates another where it says at least as much of each of them.  All
later arguments about what a store has seen use the order in this form, and never look at entries.
What is said of the entries themselves, of their ids above all, passes from vectors to what is made
of them.

Main definitions:

* `ChangeVector.Covers` — one vector lists all that another one lists;
* `ChangeVector.All` — a condition that every entry meets.

Main results:

* `ChangeVector.get_merge` — merging is the larger of both, database by database;
* `ChangeVector.dominates_iff` — dominating is saying at least as much of every database;
* `ChangeVector.compare_eq` — how two vectors stand is whether either dominates the other;
* `ChangeVector.dominates_trans`, `ChangeVector.merge_dominates_left`,
  `ChangeVector.raise_dominates` — merging and raising only go up;
* `ChangeVector.compare_raise` — a raised vector is newer, unless raising did nothing;
* `ChangeVector.get?_merge`, `ChangeVector.get?_merge_cases` — merging lists what either of the two
  lists;
* `ChangeVector.All.raise`, `ChangeVector.All.merge` — what every entry meets after either.
-/

import HubReplication.ChangeVector.Basic
import HubReplication.Proofs.Bindings

set_option relaxedAutoImplicit false
set_option autoImplicit false

namespace HubReplication.ChangeVector

/-! ### Merging -/

/-- Vectors that list the same entries are the same. -/
theorem ext_get? {a b : ChangeVector} (h : ∀ d, a.entries.get? d = b.entries.get? d) : a = b := by
  cases a
  cases b
  exact congrArg mk (SortedMap.ext_get? h)

/-- Raising entry after entry binds each database to the larger of its etags. -/
theorem get?_foldl_raise {l : List (String × Nat)}
    (hl : l.Pairwise fun a b => Ord.compare a.1 b.1 = .lt) (cv : ChangeVector) (d : String) :
    (l.foldl (fun cv e => cv.raise e.1 e.2) cv).entries.get? d =
      match SortedMap.findList d l with
      | some m => some (max (cv.get d) m)
      | none => cv.entries.get? d := by
  induction l generalizing cv with
  | nil => rfl
  | cons e l ih =>
    rw [List.pairwise_cons] at hl
    rw [List.foldl_cons, ih hl.2, get_raise, SortedMap.findList, raise, SortedMap.get?_insert]
    by_cases hd : d = e.1
    · -- The keys ascend, so the rest of the list says nothing more of this database.
      subst hd
      rw [SortedMap.findList_eq_none hl.1]
      simp [Std.ReflCmp.compare_self]
    · have hne : Ord.compare d e.1 ≠ .eq := fun hc => hd (Std.LawfulEqOrd.eq_of_compare hc)
      simp only [hd, if_false, hne]

/-- Raising entry after entry raises each database to what the list says of it. -/
theorem get_foldl_raise {l : List (String × Nat)}
    (hl : l.Pairwise fun a b => Ord.compare a.1 b.1 = .lt) (cv : ChangeVector) (d : String) :
    (l.foldl (fun cv e => cv.raise e.1 e.2) cv).get d =
      max (cv.get d) ((SortedMap.findList d l).getD 0) := by
  rw [get, get?_foldl_raise hl]
  cases SortedMap.findList d l with
  | none => exact (Nat.max_zero _).symm
  | some m => rfl

@[simp] theorem get_merge (a b : ChangeVector) (d : String) :
    (a.merge b).get d = max (a.get d) (b.get d) :=
  get_foldl_raise b.entries.ordered a d

theorem le_get_raise (cv : ChangeVector) (d d' : String) (n : Nat) :
    cv.get d' ≤ (cv.raise d n).get d' := by
  rw [get_raise]
  split
  · rename_i h
    rw [h]
    exact Nat.le_max_left _ _
  · exact Nat.le_refl _

/-! ### Dominating -/

theorem get_eq_zero_of_not_mem {cv : ChangeVector} {d : String} (h : d ∉ cv.entries.keys) :
    cv.get d = 0 := by
  unfold get
  cases hd : cv.entries.get? d with
  | none => rfl
  | some n =>
    exact absurd (List.mem_map.2 ⟨_, SortedMap.get?_eq_some_iff.1 hd, rfl⟩) h

theorem any_databases_eq_false_iff (a b : ChangeVector) :
    (databases a b).any (fun d => a.get d < b.get d) = false ↔ ∀ d, b.get d ≤ a.get d := by
  simp only [List.any_eq_false, decide_eq_true_eq, Nat.not_lt]
  refine ⟨fun h d => ?_, fun h d _ => h d⟩
  by_cases hd : d ∈ databases a b
  · exact h d hd
  · have hb : d ∉ b.entries.keys := fun hb => hd (List.mem_append_right _ hb)
    rw [get_eq_zero_of_not_mem hb]
    exact Nat.zero_le _

/-- A vector dominates another where it says at least as much of every database. -/
theorem dominates_iff {a b : ChangeVector} :
    a.dominates b = true ↔ ∀ d, b.get d ≤ a.get d := by
  rw [← any_databases_eq_false_iff]
  unfold dominates compare
  cases (databases a b).any (fun d => b.get d < a.get d) <;>
    cases (databases a b).any (fun d => a.get d < b.get d) <;> simp

theorem any_databases_comm (a b : ChangeVector) (p : String → Bool) :
    (databases a b).any p = (databases b a).any p := by
  simp only [databases, List.any_append, Bool.or_comm]

/-- How two vectors stand is whether either dominates the other. -/
theorem compare_eq (a b : ChangeVector) :
    a.compare b = match a.dominates b, b.dominates a with
      | true, true => .equal
      | true, false => .newer
      | false, true => .older
      | false, false => .conflict := by
  have hbehind := any_databases_comm b a fun d => b.get d < a.get d
  have hahead := any_databases_comm b a fun d => a.get d < b.get d
  unfold dominates compare
  rw [hbehind, hahead]
  cases (databases a b).any (fun d => b.get d < a.get d) <;>
    cases (databases a b).any (fun d => a.get d < b.get d) <;> rfl

theorem compare_eq_equal_iff {a b : ChangeVector} :
    a.compare b = .equal ↔ a.dominates b = true ∧ b.dominates a = true := by
  rw [compare_eq]
  cases a.dominates b <;> cases b.dominates a <;> simp

theorem compare_eq_newer_iff {a b : ChangeVector} :
    a.compare b = .newer ↔ a.dominates b = true ∧ b.dominates a = false := by
  rw [compare_eq]
  cases a.dominates b <;> cases b.dominates a <;> simp

theorem compare_eq_older_iff {a b : ChangeVector} :
    a.compare b = .older ↔ a.dominates b = false ∧ b.dominates a = true := by
  rw [compare_eq]
  cases a.dominates b <;> cases b.dominates a <;> simp

theorem compare_eq_conflict_iff {a b : ChangeVector} :
    a.compare b = .conflict ↔ a.dominates b = false ∧ b.dominates a = false := by
  rw [compare_eq]
  cases a.dominates b <;> cases b.dominates a <;> simp

@[simp] theorem dominates_self (a : ChangeVector) : a.dominates a = true :=
  dominates_iff.2 fun _ => Nat.le_refl _

theorem dominates_trans {a b c : ChangeVector} (hab : a.dominates b = true)
    (hbc : b.dominates c = true) : a.dominates c = true :=
  dominates_iff.2 fun d => Nat.le_trans (dominates_iff.1 hbc d) (dominates_iff.1 hab d)

theorem equal_self (a : ChangeVector) : a.compare a = .equal :=
  compare_eq_equal_iff.2 ⟨dominates_self a, dominates_self a⟩

theorem equal_symm {a b : ChangeVector} (h : a.compare b = .equal) : b.compare a = .equal :=
  compare_eq_equal_iff.2 (compare_eq_equal_iff.1 h).symm

theorem equal_trans {a b c : ChangeVector} (hab : a.compare b = .equal)
    (hbc : b.compare c = .equal) : a.compare c = .equal := by
  rw [compare_eq_equal_iff] at *
  exact ⟨dominates_trans hab.1 hbc.1, dominates_trans hbc.2 hab.2⟩

theorem merge_dominates_left (a b : ChangeVector) : (a.merge b).dominates a = true :=
  dominates_iff.2 fun d => by rw [get_merge]; exact Nat.le_max_left _ _

theorem merge_dominates_right (a b : ChangeVector) : (a.merge b).dominates b = true :=
  dominates_iff.2 fun d => by rw [get_merge]; exact Nat.le_max_right _ _

/-- What dominates both vectors dominates what they say together. -/
theorem dominates_merge {a b c : ChangeVector} (ha : c.dominates a = true)
    (hb : c.dominates b = true) : c.dominates (a.merge b) = true := by
  refine dominates_iff.2 fun d => ?_
  rw [get_merge]
  exact Nat.max_le.2 ⟨dominates_iff.1 ha d, dominates_iff.1 hb d⟩

theorem raise_dominates (a : ChangeVector) (d : String) (n : Nat) :
    (a.raise d n).dominates a = true :=
  dominates_iff.2 fun d' => le_get_raise a d d' n

/-- What was there dominates a raised vector only where raising did nothing. -/
theorem dominates_raise_iff {a : ChangeVector} {d : String} {n : Nat} :
    a.dominates (a.raise d n) = true ↔ n ≤ a.get d := by
  rw [dominates_iff]
  constructor
  · intro h
    have hd := h d
    rw [get_raise, if_pos rfl] at hd
    exact Nat.le_trans (Nat.le_max_right _ _) hd
  · intro h d'
    rw [get_raise]
    split
    · rename_i hd
      rw [hd]
      exact Nat.max_le.2 ⟨Nat.le_refl _, h⟩
    · exact Nat.le_refl _

/-- A raised vector is newer than what was there, or says the same. -/
theorem compare_raise (a : ChangeVector) (d : String) (n : Nat) :
    (a.raise d n).compare a = if n ≤ a.get d then .equal else .newer := by
  rw [compare_eq, raise_dominates]
  by_cases h : n ≤ a.get d
  · rw [dominates_raise_iff.2 h, if_pos h]
  · rw [Bool.eq_false_iff.2 fun hdom => h (dominates_raise_iff.1 hdom), if_neg h]

/-! ### Entries that are listed -/

/-- A vector lists all that another one lists, and says at least as much of it. -/
def Covers (a b : ChangeVector) : Prop :=
  ∀ ⦃d n⦄, b.entries.get? d = some n → ∃ m, a.entries.get? d = some m ∧ n ≤ m

/-- Merging lists what either of the two lists. -/
theorem get?_merge (a b : ChangeVector) (d : String) :
    (a.merge b).entries.get? d =
      match b.entries.get? d with
      | some m => some (max (a.get d) m)
      | none => a.entries.get? d :=
  get?_foldl_raise b.entries.ordered a d

theorem Covers.trans {a b c : ChangeVector} (hab : a.Covers b) (hbc : b.Covers c) : a.Covers c := by
  intro d n h
  obtain ⟨m, hm, hle⟩ := hbc h
  obtain ⟨l, hl, hle'⟩ := hab hm
  exact ⟨l, hl, Nat.le_trans hle hle'⟩

theorem get_eq_of_get? {a : ChangeVector} {d : String} {n : Nat} (h : a.entries.get? d = some n) :
    a.get d = n := by
  rw [get, h, Option.getD_some]

/-- What is above an etag is listed. -/
theorem get?_eq_some_get {a : ChangeVector} {d : String} {n : Nat} (h : n < a.get d) :
    a.entries.get? d = some (a.get d) := by
  unfold get at h ⊢
  cases hd : a.entries.get? d with
  | some m => rfl
  | none =>
      rw [hd] at h
      exact absurd h (Nat.not_lt_zero n)

/-- What two vectors say together the second one says, or the first one says more. -/
theorem get?_merge_cases {a b : ChangeVector} {d : String} {m : Nat}
    (h : (a.merge b).entries.get? d = some m) :
    b.entries.get? d = some m ∨
      a.entries.get? d = some m ∧ ∀ n, b.entries.get? d = some n → n < m := by
  rw [get?_merge] at h
  cases hb : b.entries.get? d with
  | none =>
      rw [hb] at h
      exact .inr ⟨h, fun n hn => by cases hn⟩
  | some n =>
      rw [hb] at h
      cases h
      rcases Nat.lt_or_ge n (a.get d) with hlt | hle
      · rw [Nat.max_eq_left (Nat.le_of_lt hlt)]
        exact .inr ⟨get?_eq_some_get hlt, fun n' hn' => Option.some.inj hn' ▸ hlt⟩
      · rw [Nat.max_eq_right hle]
        exact .inl rfl

theorem merge_covers_left (a b : ChangeVector) : (a.merge b).Covers a := by
  intro d n h
  rw [get?_merge]
  cases b.entries.get? d with
  | none => exact ⟨n, h, Nat.le_refl n⟩
  | some m => exact ⟨_, rfl, get_eq_of_get? h ▸ Nat.le_max_left _ _⟩

theorem merge_covers_right (a b : ChangeVector) : (a.merge b).Covers b := by
  intro d n h
  rw [get?_merge, h]
  exact ⟨_, rfl, Nat.le_max_right _ _⟩

theorem raise_covers (a : ChangeVector) (d : String) (n : Nat) : (a.raise d n).Covers a := by
  intro d' m h
  by_cases hd : d' = d
  · subst hd
    exact ⟨_, SortedMap.get?_insert_self _ _ _, get_eq_of_get? h ▸ Nat.le_max_left _ _⟩
  · exact ⟨m, (SortedMap.get?_insert_of_ne _ _ hd).trans h, Nat.le_refl m⟩

/-! ### Every entry -/

/-- Every entry meets a condition. -/
def All (cv : ChangeVector) (p : String → Nat → Prop) : Prop :=
  ∀ e ∈ cv.entries.toList, p e.1 e.2

variable {p q : String → Nat → Prop} {cv : ChangeVector}

theorem all_empty : empty.All p := fun e he => by cases he

theorem All.mono (h : cv.All p) (himp : ∀ {d n}, p d n → q d n) : cv.All q :=
  fun e he => himp (h e he)

theorem All.raise (h : cv.All p) {d : String} {n : Nat} (hn : p d n) : (cv.raise d n).All p := by
  intro e he
  rcases SortedMap.mem_insertList he with rfl | he
  · -- The larger of two etags is one of them, and an etag that is not listed is never the larger.
    unfold get
    cases hfound : cv.entries.get? d with
    | none => simpa using hn
    | some m =>
        have hm : p d m := h _ (SortedMap.get?_eq_some_iff.1 hfound)
        rw [Option.getD_some]
        rcases Nat.le_total m n with hle | hle
        · rwa [Nat.max_eq_right hle]
        · rwa [Nat.max_eq_left hle]
  · exact h e he

theorem All.foldl_raise {l : List (String × Nat)} (h : cv.All p) (hl : ∀ e ∈ l, p e.1 e.2) :
    (l.foldl (fun cv e => cv.raise e.1 e.2) cv).All p := by
  induction l generalizing cv with
  | nil => exact h
  | cons e rest ih =>
      obtain ⟨hfirst, hrest⟩ := List.forall_mem_cons.1 hl
      exact ih (h.raise hfirst) hrest

theorem All.merge {a b : ChangeVector} (ha : a.All p) (hb : b.All p) : (a.merge b).All p :=
  ha.foldl_raise hb

end HubReplication.ChangeVector
