/-
**Bindings of finite maps.**

A look-up in a finite map finds exactly the bindings that its list holds, since no key is bound
twice.  What is proved of a walk over the list is so a statement about look-ups, and back.

Main results:

* `SortedMap.get?_eq_some_iff` — a look-up finds a value where the list holds the binding;
* `SortedMap.insert_eq_self_iff` — a map that a binding leaves as it is;
* `SortedMap.get?_adjust`, `SortedMap.get?_mapValues` — what changing values does to look-ups;
* `SortedMap.get?_ofList_eq_some_iff` — what is found in the map of a list that binds no key twice;
* `SortedMap.ofList_toList` — a map is the map of its bindings.
-/

import HubReplication.SortedMap

set_option relaxedAutoImplicit false
set_option autoImplicit false

namespace HubReplication.SortedMap

open Std

variable {κ α β : Type} [Ord κ]

theorem findList_of_mem [TransOrd κ] [LawfulEqOrd κ] {k : κ} {v : α} {l : List (κ × α)}
    (hl : l.Pairwise fun a b => compare a.1 b.1 = .lt) (h : (k, v) ∈ l) :
    findList k l = some v := by
  induction l with
  | nil => cases h
  | cons hd tl ih =>
    rw [List.pairwise_cons] at hl
    rw [findList]
    rcases List.mem_cons.1 h with rfl | htl
    · simp [ReflCmp.compare_self]
    · have hlt : compare hd.1 k = .lt := hl.1 _ htl
      split
      · rename_i heq
        rw [OrientedCmp.eq_symm heq] at hlt
        cases hlt
      · exact ih hl.2 htl

/-- A look-up finds a value exactly where the list holds the binding. -/
theorem get?_eq_some_iff [TransOrd κ] [LawfulEqOrd κ] {m : SortedMap κ α} {k : κ} {v : α} :
    m.get? k = some v ↔ (k, v) ∈ m.toList :=
  ⟨mem_of_findList, findList_of_mem m.ordered⟩

/-- Only the binding that is there already leaves a map as it is. -/
theorem insert_eq_self_iff [TransOrd κ] [LawfulEqOrd κ] {m : SortedMap κ α} {k : κ} {v : α} :
    m.insert k v = m ↔ m.get? k = some v := by
  constructor
  · intro h
    rw [← h, get?_insert_self]
  · intro h
    refine ext_get? fun j => ?_
    rw [get?_insert]
    split
    · rename_i hj
      rw [LawfulEqOrd.eq_of_compare hj, h]
    · rfl

/-- Changing the value of a key changes what is found under that key, and nothing else. -/
theorem get?_adjust [TransOrd κ] [LawfulEqOrd κ] [DecidableEq κ] (m : SortedMap κ α) (k j : κ)
    (f : α → α) : (m.adjust k f).get? j = if j = k then (m.get? k).map f else m.get? j := by
  unfold adjust
  cases hk : m.get? k with
  | none =>
    by_cases h : j = k
    · simp [h, hk]
    · simp [h]
  | some v =>
    simp only [get?_insert]
    by_cases h : j = k
    · subst h
      simp [ReflCmp.compare_self]
    · have hne : compare j k ≠ .eq := fun hc => h (LawfulEqOrd.eq_of_compare hc)
      simp [h, hne]

/-- Changing every value changes what is found under each key. -/
theorem get?_mapValues (m : SortedMap κ α) (f : α → β) (k : κ) :
    (m.mapValues f).get? k = (m.get? k).map f := by
  obtain ⟨l, hl⟩ := m
  simp only [get?, mapValues]
  clear hl
  induction l with
  | nil => rfl
  | cons hd tl ih =>
    simp only [List.map_cons, findList]
    split
    · rfl
    · exact ih

/-! ### Maps of lists -/

theorem mem_or_of_get?_foldl_insert [TransOrd κ] [LawfulEqOrd κ] {l : List (κ × α)}
    {m : SortedMap κ α} {k : κ} {v : α}
    (h : (l.foldl (fun m b => m.insert b.1 b.2) m).get? k = some v) :
    (k, v) ∈ l ∨ m.get? k = some v := by
  induction l generalizing m with
  | nil => exact .inr h
  | cons b rest ih =>
    rcases ih h with hrest | hinsert
    · exact .inl (List.mem_cons_of_mem _ hrest)
    · rw [get?_insert] at hinsert
      split at hinsert
      · rename_i heq
        have : k = b.1 := LawfulEqOrd.eq_of_compare heq
        subst this
        cases hinsert
        exact .inl List.mem_cons_self
      · exact .inr hinsert

theorem get?_foldl_insert_of_forall_ne [TransOrd κ] [LawfulEqOrd κ] {l : List (κ × α)}
    (m : SortedMap κ α) {k : κ} (h : ∀ b ∈ l, k ≠ b.1) :
    (l.foldl (fun m b => m.insert b.1 b.2) m).get? k = m.get? k := by
  induction l generalizing m with
  | nil => rfl
  | cons b rest ih =>
    rw [List.foldl_cons, ih _ fun c hc => h c (List.mem_cons_of_mem _ hc)]
    exact get?_insert_of_ne _ _ (h b List.mem_cons_self)

theorem get?_foldl_insert_of_mem [TransOrd κ] [LawfulEqOrd κ] {l : List (κ × α)}
    (m : SortedMap κ α) (hl : l.Pairwise fun a b => a.1 ≠ b.1) {k : κ} {v : α} (h : (k, v) ∈ l) :
    (l.foldl (fun m b => m.insert b.1 b.2) m).get? k = some v := by
  induction l generalizing m with
  | nil => cases h
  | cons b rest ih =>
    rw [List.pairwise_cons] at hl
    rcases List.mem_cons.1 h with rfl | hrest
    · rw [List.foldl_cons, get?_foldl_insert_of_forall_ne _ hl.1, get?_insert_self]
    · exact ih _ hl.2 hrest

/-- In the map of a list that binds no key twice the bindings of the list are found. -/
theorem get?_ofList_eq_some_iff [TransOrd κ] [LawfulEqOrd κ] {l : List (κ × α)}
    (hl : l.Pairwise fun a b => a.1 ≠ b.1) {k : κ} {v : α} :
    (ofList l).get? k = some v ↔ (k, v) ∈ l := by
  constructor
  · intro h
    rcases mem_or_of_get?_foldl_insert h with hmem | hempty
    · exact hmem
    · cases hempty
  · exact get?_foldl_insert_of_mem empty hl

/-- A map is the map of its bindings. -/
theorem ofList_toList [TransOrd κ] [LawfulEqOrd κ] (m : SortedMap κ α) : ofList m.toList = m := by
  have hdistinct : m.toList.Pairwise fun a b => a.1 ≠ b.1 := m.ordered.imp fun hlt heq => by
    rw [heq] at hlt
    simp [ReflCmp.compare_self] at hlt
  refine ext_get? fun k => Option.ext fun v => ?_
  rw [get?_ofList_eq_some_iff hdistinct, get?_eq_some_iff]

/-- A map has a binding where a look-up finds something. -/
theorem isEmpty_eq_false_iff [TransOrd κ] [LawfulEqOrd κ] {m : SortedMap κ α} :
    m.isEmpty = false ↔ ∃ k v, m.get? k = some v := by
  rw [isEmpty, List.isEmpty_eq_false_iff_exists_mem]
  constructor
  · rintro ⟨⟨k, v⟩, hmem⟩
    exact ⟨k, v, get?_eq_some_iff.2 hmem⟩
  · rintro ⟨k, v, hfound⟩
    exact ⟨(k, v), get?_eq_some_iff.1 hfound⟩

end HubReplication.SortedMap
