/-
**Finite maps in key order.**

A finite map is the list of its bindings, strictly increasing in the key.  The list is determined
by the bindings it holds, so two maps with the same look-ups are equal, and walking the list is
walking the map in key order.

Main definitions:

* `SortedMap` — the map, with its order as a proof field;
* `SortedMap.get?`, `SortedMap.insert`, `SortedMap.erase` — look up, bind, unbind;
* `SortedMap.adjust`, `SortedMap.mapValues`, `SortedMap.ofList` — derived operations.

Main results:

* `SortedMap.get?_insert`, `SortedMap.get?_erase` — what each operation does to look-ups;
* `SortedMap.ext_get?` — a map is determined by its look-ups.
-/

set_option relaxedAutoImplicit false
set_option autoImplicit false

namespace HubReplication

open Std

/-- A finite map, kept as its bindings in strictly increasing key order. -/
structure SortedMap (κ α : Type) [Ord κ] where
  /-- The bindings, smallest key first. -/
  toList : List (κ × α)
  /-- Keys are strictly increasing, so no key is bound twice. -/
  ordered : toList.Pairwise fun a b => compare a.1 b.1 = .lt

namespace SortedMap

variable {κ α β : Type} [Ord κ]

/-! ### Bindings as lists -/

/-- Put a binding where its key belongs, in place of an older binding of that key. -/
def insertList (k : κ) (v : α) : List (κ × α) → List (κ × α)
  | [] => [(k, v)]
  | (k', v') :: rest =>
    match compare k k' with
    | .lt => (k, v) :: (k', v') :: rest
    | .eq => (k, v) :: rest
    | .gt => (k', v') :: insertList k v rest

/-- The value bound to a key in a list of bindings. -/
def findList (k : κ) : List (κ × α) → Option α
  | [] => none
  | (k', v') :: rest =>
    match compare k k' with
    | .eq => some v'
    | _ => findList k rest

theorem mem_insertList {k : κ} {v : α} {b : κ × α} {l : List (κ × α)}
    (h : b ∈ insertList k v l) : b = (k, v) ∨ b ∈ l := by
  induction l with
  | nil => simpa [insertList] using h
  | cons hd tl ih =>
    obtain ⟨k', v'⟩ := hd
    unfold insertList at h
    split at h <;> simp only [List.mem_cons] at h ⊢
    · exact h
    · exact h.imp_right .inr
    · rcases h with h | h
      · exact .inr (.inl h)
      · exact (ih h).imp_right .inr

theorem ordered_insertList [TransOrd κ] [LawfulEqOrd κ] (k : κ) (v : α) {l : List (κ × α)}
    (hl : l.Pairwise fun a b => compare a.1 b.1 = .lt) :
    (insertList k v l).Pairwise fun a b => compare a.1 b.1 = .lt := by
  induction l with
  | nil => simp [insertList]
  | cons hd tl ih =>
    obtain ⟨k', v'⟩ := hd
    have htl := List.pairwise_cons.1 hl
    unfold insertList
    split
    · rename_i hlt
      refine List.pairwise_cons.2 ⟨fun b hb => ?_, hl⟩
      rcases List.mem_cons.1 hb with rfl | hb
      · exact hlt
      · exact TransCmp.lt_trans hlt (htl.1 b hb)
    · rename_i heq
      have : k = k' := LawfulEqOrd.eq_of_compare heq
      subst this
      exact List.pairwise_cons.2 ⟨fun b hb => htl.1 b hb, htl.2⟩
    · rename_i hgt
      refine List.pairwise_cons.2 ⟨fun b hb => ?_, ih htl.2⟩
      rcases mem_insertList hb with rfl | hb
      · exact OrientedCmp.lt_of_gt hgt
      · exact htl.1 b hb

/-! ### The map -/

/-- The map without bindings. -/
def empty : SortedMap κ α := ⟨[], .nil⟩

instance : EmptyCollection (SortedMap κ α) := ⟨empty⟩
instance : Inhabited (SortedMap κ α) := ⟨empty⟩

instance [DecidableEq κ] [DecidableEq α] : DecidableEq (SortedMap κ α) := fun a b =>
  decidable_of_iff (a.toList = b.toList)
    ⟨fun h => by cases a; cases b; simpa using h, fun h => by rw [h]⟩

/-- The value bound to a key. -/
def get? (m : SortedMap κ α) (k : κ) : Option α := findList k m.toList

/-- Bind a key, replacing the value it had. -/
def insert [TransOrd κ] [LawfulEqOrd κ] (m : SortedMap κ α) (k : κ) (v : α) : SortedMap κ α :=
  ⟨insertList k v m.toList, ordered_insertList k v m.ordered⟩

/-- Remove the binding of a key. -/
def erase (m : SortedMap κ α) (k : κ) : SortedMap κ α :=
  ⟨m.toList.filter fun b => compare k b.1 != .eq, m.ordered.filter _⟩

/-- Whether a key is bound. -/
def contains (m : SortedMap κ α) (k : κ) : Bool := (m.get? k).isSome

/-- The keys, smallest first. -/
def keys (m : SortedMap κ α) : List κ := m.toList.map (·.1)

/-- The values, in key order. -/
def values (m : SortedMap κ α) : List α := m.toList.map (·.2)

/-- The number of bindings. -/
def size (m : SortedMap κ α) : Nat := m.toList.length

/-- Whether there is no binding. -/
def isEmpty (m : SortedMap κ α) : Bool := m.toList.isEmpty

/-- Replace the value of a bound key; an unbound key stays unbound. -/
def adjust [TransOrd κ] [LawfulEqOrd κ] (m : SortedMap κ α) (k : κ) (f : α → α) : SortedMap κ α :=
  match m.get? k with
  | some v => m.insert k (f v)
  | none => m

/-- Change every value, keeping the keys. -/
def mapValues (m : SortedMap κ α) (f : α → β) : SortedMap κ β :=
  ⟨m.toList.map fun b => (b.1, f b.2), by
    rw [List.pairwise_map]; exact m.ordered⟩

/-- Keep the bindings that pass a test. -/
def filter (m : SortedMap κ α) (p : κ → α → Bool) : SortedMap κ α :=
  ⟨m.toList.filter fun b => p b.1 b.2, m.ordered.filter _⟩

/-- The map of a list of bindings; a later binding of a key replaces an earlier one. -/
def ofList [TransOrd κ] [LawfulEqOrd κ] (l : List (κ × α)) : SortedMap κ α :=
  l.foldl (fun m b => m.insert b.1 b.2) empty

/-! ### Look-ups -/

@[simp] theorem get?_empty (k : κ) : (empty : SortedMap κ α).get? k = none := rfl

theorem findList_insertList [TransOrd κ] [LawfulEqOrd κ] (k j : κ) (v : α) (l : List (κ × α)) :
    findList j (insertList k v l) = if compare j k = .eq then some v else findList j l := by
  induction l with
  | nil => unfold insertList findList; split <;> simp_all [findList]
  | cons hd tl ih =>
    obtain ⟨k', v'⟩ := hd
    unfold insertList
    split
    · rename_i hlt
      rw [findList]
      split <;> simp_all
    · rename_i heq
      have : k = k' := LawfulEqOrd.eq_of_compare heq
      subst this
      rw [findList, findList]
      split <;> simp_all
    · rename_i hgt
      rw [findList, findList]
      split
      · rename_i hj
        have : j = k' := LawfulEqOrd.eq_of_compare hj
        subst this
        have : compare j k ≠ .eq := by
          intro h
          have : j = k := LawfulEqOrd.eq_of_compare h
          subst this
          simp [ReflCmp.compare_self] at hgt
        simp [this]
      · exact ih

theorem get?_insert [TransOrd κ] [LawfulEqOrd κ] (m : SortedMap κ α) (k j : κ) (v : α) :
    (m.insert k v).get? j = if compare j k = .eq then some v else m.get? j :=
  findList_insertList k j v m.toList

@[simp] theorem get?_insert_self [TransOrd κ] [LawfulEqOrd κ] (m : SortedMap κ α) (k : κ) (v : α) :
    (m.insert k v).get? k = some v := by
  rw [get?_insert]; simp [ReflCmp.compare_self]

theorem get?_insert_of_ne [TransOrd κ] [LawfulEqOrd κ] (m : SortedMap κ α) {k j : κ} (v : α)
    (h : j ≠ k) : (m.insert k v).get? j = m.get? j := by
  rw [get?_insert, if_neg fun hc => h (LawfulEqOrd.eq_of_compare hc)]

theorem findList_filter_ne [TransOrd κ] [LawfulEqOrd κ] (k j : κ) (l : List (κ × α)) :
    findList j (l.filter fun b => compare k b.1 != .eq) =
      if compare j k = .eq then none else findList j l := by
  induction l with
  | nil => simp [findList]
  | cons hd tl ih =>
    obtain ⟨k', v'⟩ := hd
    rw [List.filter_cons]
    by_cases hk : compare k k' = .eq
    · have : k = k' := LawfulEqOrd.eq_of_compare hk
      subst this
      simp only [hk, bne_self_eq_false, Bool.false_eq_true, if_false, ih]
      rw [findList]
      split <;> simp_all
    · have hk' : (compare k k' != .eq) = true := by simpa using hk
      simp only [hk', if_true]
      rw [findList, findList]
      split
      · rename_i hj
        have : j = k' := LawfulEqOrd.eq_of_compare hj
        subst this
        have : compare j k ≠ .eq := by
          intro h
          have : j = k := LawfulEqOrd.eq_of_compare h
          subst this
          exact hk hj
        simp [this]
      · exact ih

theorem get?_erase [TransOrd κ] [LawfulEqOrd κ] (m : SortedMap κ α) (k j : κ) :
    (m.erase k).get? j = if compare j k = .eq then none else m.get? j :=
  findList_filter_ne k j m.toList

@[simp] theorem get?_erase_self [TransOrd κ] [LawfulEqOrd κ] (m : SortedMap κ α) (k : κ) :
    (m.erase k).get? k = none := by
  rw [get?_erase]; simp [ReflCmp.compare_self]

theorem get?_erase_of_ne [TransOrd κ] [LawfulEqOrd κ] (m : SortedMap κ α) {k j : κ}
    (h : j ≠ k) : (m.erase k).get? j = m.get? j := by
  rw [get?_erase, if_neg fun hc => h (LawfulEqOrd.eq_of_compare hc)]

/-! ### Extensionality -/

/-- A key below all keys of a list is not bound in it. -/
theorem findList_eq_none [ReflOrd κ] {k : κ} {l : List (κ × α)}
    (h : ∀ b ∈ l, compare k b.1 = .lt) : findList k l = none := by
  induction l with
  | nil => rfl
  | cons hd tl ih =>
    have hk := h hd (by simp)
    simp [findList, hk, ih fun b hb => h b (List.mem_cons_of_mem hd hb)]

/-- A bound key is the key of a binding. -/
theorem mem_of_findList [LawfulEqOrd κ] {k : κ} {v : α} {l : List (κ × α)}
    (h : findList k l = some v) : (k, v) ∈ l := by
  induction l with
  | nil => simp [findList] at h
  | cons hd tl ih =>
    rw [findList] at h
    split at h
    · rename_i hk
      have : k = hd.1 := LawfulEqOrd.eq_of_compare hk
      subst this
      cases h
      exact List.mem_cons_self
    · exact List.mem_cons_of_mem _ (ih h)

/-- Of two maps with the same look-ups the least keys are the same. -/
theorem head_le_of_findList_eq [TransOrd κ] [LawfulEqOrd κ] {b c : κ × α} {l r : List (κ × α)}
    (hc : (c :: r).Pairwise fun x y => compare x.1 y.1 = .lt)
    (h : ∀ k, findList k (b :: l) = findList k (c :: r)) : c = b ∨ compare c.1 b.1 = .lt := by
  have hb : findList b.1 (c :: r) = some b.2 := by
    rw [← h]; simp [findList, ReflCmp.compare_self]
  rcases List.mem_cons.1 (mem_of_findList hb) with heq | hmem
  · exact .inl heq.symm
  · exact .inr (List.rel_of_pairwise_cons hc hmem)

theorem eq_of_findList_eq [TransOrd κ] [LawfulEqOrd κ] {l r : List (κ × α)}
    (hl : l.Pairwise fun x y => compare x.1 y.1 = .lt)
    (hr : r.Pairwise fun x y => compare x.1 y.1 = .lt)
    (h : ∀ k, findList k l = findList k r) : l = r := by
  induction l generalizing r with
  | nil =>
    cases r with
    | nil => rfl
    | cons c r =>
      have := h c.1
      simp [findList, ReflCmp.compare_self] at this
  | cons b l ih =>
    cases r with
    | nil =>
      have := h b.1
      simp [findList, ReflCmp.compare_self] at this
    | cons c r =>
      have hbc : c = b := by
        rcases head_le_of_findList_eq hr h with heq | hlt
        · exact heq
        · rcases head_le_of_findList_eq hl fun k => (h k).symm with heq | hgt
          · exact heq.symm
          · rw [@OrientedCmp.eq_swap _ compare, hlt] at hgt
            exact absurd hgt (by decide)
      subst hbc
      rw [List.pairwise_cons] at hl hr
      congr 1
      refine ih hl.2 hr.2 fun k => ?_
      by_cases hk : compare k c.1 = .eq
      · have : k = c.1 := LawfulEqOrd.eq_of_compare hk
        subst this
        rw [findList_eq_none hl.1, findList_eq_none hr.1]
      · have := h k
        rw [findList, findList] at this
        split at this
        · contradiction
        · exact this

theorem ext_get? [TransOrd κ] [LawfulEqOrd κ] {m n : SortedMap κ α}
    (h : ∀ k, m.get? k = n.get? k) : m = n := by
  have := eq_of_findList_eq m.ordered n.ordered h
  cases m
  cases n
  simpa using this

end SortedMap

end HubReplication
