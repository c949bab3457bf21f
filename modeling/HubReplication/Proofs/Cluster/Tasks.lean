/-
**Tasks of a record.**

Hubs, sinks and external replications are kept in lists of their own, each with names that differ
whatever the case of their letters, while one count of indexes gives all of them their identities.
An operation adds one task under the index of its command, puts a task in the place of the one of
the same identity, changes something else of a task, or removes one; what that does to names and
identities does not depend on the kind of the task.

Main definitions:

* `NamesApart` — no two names of a list are the same, case aside;
* `DatabaseRecord.taskIds` — the identities of all tasks;
* `DatabaseRecord.IdsFrom` — identities that were there before, or that of an index.

Main results:

* `NamesApart.append`, `NamesApart.set` — a task under a name that does not clash;
* `DatabaseRecord.IdsFrom.of_sublist`, `DatabaseRecord.IdsFrom.of_perm` — tasks that go or stay, and
  one more.
-/

import HubReplication.Cluster.Record

set_option relaxedAutoImplicit false
set_option autoImplicit false

namespace HubReplication

/-! ### Names -/

theorem Text.sameName_trans {a b c : String} (hab : sameName a b = true)
    (hbc : sameName b c = true) : sameName a c = true := by
  rw [sameName_eq_true_iff] at *
  exact hab.trans hbc

/-- Of a list in which no two elements stand in a relation, elements that do are one element. -/
theorem eq_of_pairwise_not {α : Type} {R : α → α → Prop} {l : List α}
    (hsymm : ∀ a b, R a b → R b a) (h : l.Pairwise fun a b => ¬R a b) {a b : α} (ha : a ∈ l)
    (hb : b ∈ l) (hab : R a b) : a = b := by
  rw [List.pairwise_iff_getElem] at h
  obtain ⟨i, hi, rfl⟩ := List.getElem_of_mem ha
  obtain ⟨j, hj, rfl⟩ := List.getElem_of_mem hb
  rcases Nat.lt_trichotomy i j with hij | rfl | hij
  · exact absurd hab (h i j hi hj hij)
  · rfl
  · exact absurd (hsymm _ _ hab) (h j i hj hi hij)

section Names

variable {α : Type} {name : α → String} {l : List α}

/-- No two names of a list are the same, case aside. -/
def NamesApart (name : α → String) (l : List α) : Prop :=
  (l.map name).Pairwise fun a b => Text.sameName a b = false

theorem namesApart_nil : NamesApart name [] := List.Pairwise.nil

theorem NamesApart.of_map_eq {l' : List α} (h : NamesApart name l)
    (heq : l'.map name = l.map name) : NamesApart name l' := by
  rw [NamesApart, heq]
  exact h

theorem NamesApart.sublist {l' : List α} (h : NamesApart name l) (hsub : l'.Sublist l) :
    NamesApart name l' :=
  List.Pairwise.sublist (hsub.map name) h

theorem NamesApart.nodup (h : NamesApart name l) : l.Nodup := by
  refine (List.pairwise_map.1 h).imp fun {a b} hab heq => ?_
  rw [heq, Text.sameName_self] at hab
  cases hab

/-- Elements of one name are one element. -/
theorem NamesApart.eq_of_sameName (h : NamesApart name l) {a b : α} (ha : a ∈ l) (hb : b ∈ l)
    (hsame : Text.sameName (name a) (name b) = true) : a = b := by
  refine eq_of_pairwise_not (R := fun a b => Text.sameName (name a) (name b) = true) ?_ ?_ ha hb
    hsame
  · intro a b hab
    rw [Text.sameName_comm]
    exact hab
  · exact (List.pairwise_map.1 h).imp fun hab => by simp [hab]

/-- An element whose name is not taken may be added. -/
theorem NamesApart.append (h : NamesApart name l) {a : α}
    (hfree : (l.findIdx? fun b => Text.sameName (name b) (name a)) = none) :
    NamesApart name (l ++ [a]) := by
  rw [List.findIdx?_eq_none_iff] at hfree
  rw [NamesApart, List.pairwise_map] at h ⊢
  rw [List.pairwise_append]
  refine ⟨h, List.pairwise_singleton _ _, fun b hb c hc => ?_⟩
  rw [List.mem_singleton.1 hc]
  exact hfree b hb

/-- Where the first element of a name stands at a position, if at all, no element at another
position has the name. -/
theorem NamesApart.free_of_clash (h : NamesApart name l) {a : α} {i : Nat}
    (hclash : (l.findIdx? fun b => Text.sameName (name b) (name a)).any (· != i) = false)
    {j : Nat} (hj : j < l.length) (hne : j ≠ i) :
    Text.sameName (name l[j]) (name a) = false := by
  cases hfind : l.findIdx? fun b => Text.sameName (name b) (name a) with
  | none => exact List.findIdx?_eq_none_iff.1 hfind _ (List.getElem_mem hj)
  | some p =>
      obtain ⟨hp, hsame, hbefore⟩ := List.findIdx?_eq_some_iff_getElem.1 hfind
      have hpi : p = i := by simpa [hfind] using hclash
      rw [NamesApart, List.pairwise_map, List.pairwise_iff_getElem] at h
      rcases Nat.lt_or_gt_of_ne (hpi ▸ hne) with hlt | hgt
      · simpa using hbefore j hlt
      · -- Two elements of the name would have the same name.
        rw [Bool.eq_false_iff]
        intro hsame'
        have hboth := Text.sameName_trans hsame (Text.sameName_comm _ _ ▸ hsame')
        rw [h p j hp hj hgt] at hboth
        cases hboth

/-- An element may take the place of another one under a name that clashes with no third. -/
theorem NamesApart.set (h : NamesApart name l) {a : α} {i : Nat}
    (hclash : (l.findIdx? fun b => Text.sameName (name b) (name a)).any (· != i) = false) :
    NamesApart name (l.set i a) := by
  have hfree := fun j hj hne => h.free_of_clash (j := j) hclash hj hne
  rw [NamesApart, List.pairwise_map, List.pairwise_iff_getElem] at h ⊢
  intro j k hj hk hjk
  rw [List.length_set] at hj hk
  rw [List.getElem_set, List.getElem_set]
  split
  · rename_i hij
    rw [if_neg (by omega), Text.sameName_comm]
    exact hfree k hk (by omega)
  · split
    · exact hfree j hj (by omega)
    · exact h j k hj hk hjk

end Names

namespace DatabaseRecord

/-! ### Changing one element -/

section ChangeFirst

variable {α β : Type} {p : α → Bool} {f : α → α} {l l' : List α}

theorem changeFirst_eq_some (h : changeFirst p f l = some l') :
    ∃ front a back, l = front ++ a :: back ∧ p a = true ∧ l' = front ++ f a :: back := by
  induction l generalizing l' with
  | nil => cases h
  | cons b rest ih =>
      rw [changeFirst] at h
      split at h
      · rename_i hb
        cases h
        exact ⟨[], b, rest, rfl, hb, rfl⟩
      · obtain ⟨rest', hrest, rfl⟩ := Option.map_eq_some_iff.1 h
        obtain ⟨front, a, back, rfl, ha, rfl⟩ := ih hrest
        exact ⟨b :: front, a, back, rfl, ha, rfl⟩

/-- What the change leaves alone is the same for all elements. -/
theorem map_changeFirst (h : changeFirst p f l = some l') {g : α → β} (hg : ∀ a, g (f a) = g a) :
    l'.map g = l.map g := by
  obtain ⟨front, a, back, rfl, -, rfl⟩ := changeFirst_eq_some h
  simp [hg]

theorem mem_changeFirst (h : changeFirst p f l = some l') {b : α} (hb : b ∈ l') :
    b ∈ l ∨ ∃ a ∈ l, b = f a := by
  obtain ⟨front, a, back, rfl, -, rfl⟩ := changeFirst_eq_some h
  rcases List.mem_append.1 hb with hb | hb
  · exact .inl (List.mem_append_left _ hb)
  · rcases List.mem_cons.1 hb with rfl | hb
    · exact .inr ⟨a, by simp, rfl⟩
    · exact .inl (by simp [hb])

/-- Every element is still there, changed or not. -/
theorem exists_mem_changeFirst (h : changeFirst p f l = some l') {a : α} (ha : a ∈ l) :
    a ∈ l' ∨ f a ∈ l' := by
  obtain ⟨front, b, back, rfl, -, rfl⟩ := changeFirst_eq_some h
  rcases List.mem_append.1 ha with ha | ha
  · exact .inl (List.mem_append_left _ ha)
  · rcases List.mem_cons.1 ha with rfl | ha
    · exact .inr (by simp)
    · exact .inl (by simp [ha])

end ChangeFirst

/-- Putting an element in the place of one that shares something with it leaves that alone. -/
theorem map_set_of_eq {α β : Type} {f : α → β} {l : List α} {i : Nat} {a b : α}
    (hget : l[i]? = some b) (heq : f a = f b) : (l.set i a).map f = l.map f := by
  obtain ⟨hi, rfl⟩ := List.getElem?_eq_some_iff.1 hget
  rw [List.map_set, heq]
  refine List.ext_getElem (by simp) fun j hj hj' => ?_
  rw [List.getElem_set]
  split
  · rename_i hij
    simp [hij]
  · rfl

/-- What is found by its position is what is found. -/
theorem getElem?_of_findIdx? {α : Type} {p : α → Bool} {l : List α} {i : Nat}
    (h : l.findIdx? p = some i) : ∃ a, l[i]? = some a ∧ p a = true ∧ l.find? p = some a := by
  obtain ⟨hi, hp, -⟩ := List.findIdx?_eq_some_iff_getElem.1 h
  refine ⟨l[i], List.getElem?_eq_getElem hi, hp, ?_⟩
  rw [List.find?_eq_bind_findIdx?_getElem?, h]
  exact List.getElem?_eq_getElem hi

/-- What is erased is the first element that passes a test. -/
theorem perm_map_eraseP {α β : Type} {p : α → Bool} {f : α → β} {l : List α} {a : α} {b : β}
    (hfind : l.find? p = some a) (hf : ∀ a, p a = true → f a = b) :
    (l.map f).Perm (b :: (l.eraseP p).map f) := by
  obtain ⟨first, before, rest, -, hp, hl, herase⟩ :=
    List.exists_of_eraseP (List.mem_of_find?_eq_some hfind) (List.find?_some hfind)
  rw [herase, hl, List.map_append, List.map_append, List.map_cons, hf first hp]
  exact List.perm_middle

/-- Nothing but the first element that passes a test is erased. -/
theorem mem_eraseP_of_find? {α : Type} {p : α → Bool} {l : List α} {a b : α}
    (hfind : l.find? p = some a) (hb : b ∈ l) (hne : b ≠ a) : b ∈ l.eraseP p := by
  obtain ⟨hp, front, back, rfl, hfront⟩ := List.find?_eq_some_iff_append.1 hfind
  rw [List.eraseP_append_right _ (by simpa using hfront), List.eraseP_cons_of_pos hp]
  simpa [hne] using hb

/-! ### Identities -/

/-- The identities of all tasks. -/
def taskIds (r : DatabaseRecord) : List TaskId := r.ongoingTasks.map (·.taskId)

theorem taskIds_eq (r : DatabaseRecord) :
    r.taskIds = r.hubs.map (·.taskId) ++ r.sinks.map (·.taskId) ++ r.externals.map (·.taskId) := by
  simp only [taskIds, ongoingTasks, List.map_append, List.map_map]
  rfl

/-- The identities of a record that an operation leaves behind are those of the record before it,
and at most that of an index. -/
structure IdsFrom (r r' : DatabaseRecord) (index : Nat) : Prop where
  mem : ∀ {id}, id ∈ r'.taskIds → id ∈ r.taskIds ∨ id = ⟨index⟩
  nodup : r.taskIds.Nodup → ⟨index⟩ ∉ r.taskIds → r'.taskIds.Nodup

variable {r r' : DatabaseRecord} {index : Nat}

theorem IdsFrom.of_eq (h : r'.taskIds = r.taskIds) : r.IdsFrom r' index :=
  ⟨fun hid => .inl (h ▸ hid), fun hnodup _ => h ▸ hnodup⟩

theorem IdsFrom.of_sublist (h : r'.taskIds.Sublist r.taskIds) : r.IdsFrom r' index :=
  ⟨fun hid => .inl (h.subset hid), fun hnodup _ => h.nodup hnodup⟩

/-- One more task, wherever it stands among the others. -/
theorem IdsFrom.of_perm (h : r'.taskIds.Perm (⟨index⟩ :: r.taskIds)) : r.IdsFrom r' index := by
  refine ⟨fun hid => ?_, fun hnodup hnew => ?_⟩
  · rcases List.mem_cons.1 (h.subset hid) with rfl | hid
    · exact .inr rfl
    · exact .inl hid
  · exact h.nodup_iff.2 (List.nodup_cons.2 ⟨hnew, hnodup⟩)

end DatabaseRecord

end HubReplication
