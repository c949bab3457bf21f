/-
**What path filters cover.**

A set of well-formed paths covers the ids that some path without a star is, and those that start
with what stands before the star of some other path, either up to the case of ASCII letters.  So the
answer depends on the id in small letters alone, which is what items are kept under.  The empty set
stands for no filter; a set that has paths covers more with every path that is added, and never
everything: a path without a star covers ids of its own length alone, and one with a star only ids
with a slash or a hyphen in them.

Main definitions:

* `PathFilter.allowsInBytes?` — whether a set covers an id, looking at bytes;
* `PathFilter.Scope` — what a set of paths covers.

Main results:

* `PathFilter.covers_of_no_star`, `PathFilter.covers_append_star` — what either kind of path covers;
* `PathFilter.allowsInBytes?_eq` — bytes give the answer that the characters give;
* `PathFilter.exists_not_allowed` — no set of well-formed paths covers every id;
* `PathFilter.scope_of_validate` — which sets are accepted, and what those that have paths cover.
-/

import HubReplication.Proofs.Bindings
import HubReplication.Proofs.PathFilter.Grammar
import HubReplication.Store.Item

set_option relaxedAutoImplicit false
set_option autoImplicit false

namespace HubReplication.PathFilter

open Text

variable {paths : TextSet} {path id : String}

/-! ### One path -/

/-- A path without a star covers the id that it is, case aside. -/
theorem covers_of_no_star (h : '*' ∉ path.toList) (id : String) :
    covers path id = sameName path id := by
  rw [covers, if_neg fun hlast => h (List.mem_of_getLast? hlast)]

/-- A path with a star covers what starts with the text before it, case aside. -/
theorem covers_append_star (q id : String) : covers (q ++ "*") id = startsWithName q id := by
  have hpath : (q ++ "*").toList = q.toList ++ ['*'] := String.toList_append
  rw [covers, hpath, List.getLast?_concat, if_pos rfl, List.dropLast_concat, String.ofList_toList]

theorem startsWithName_iff {q : String} :
    startsWithName q id = true ↔ (asciiLower q).toList <+: (asciiLower id).toList :=
  List.isPrefixOf_iff_prefix

/-- A path that covers an id covers it in small letters, and the other way round. -/
theorem covers_asciiLower (path id : String) : covers path (asciiLower id) = covers path id := by
  unfold covers startsWithName sameName
  rw [asciiLower_asciiLower]

/-- The star of a well-formed path is at its end. -/
theorem WellFormed.star_cases (h : WellFormed path) :
    '*' ∉ path.toList ∨ ∃ q : String, path = q ++ "*" ∧ ∃ c ∈ q.toList, c = '/' ∨ c = '-' := by
  rcases h.star with hnone | ⟨q, sep, heq, hsep, -⟩
  · exact .inl hnone
  · refine .inr ⟨String.ofList (q ++ [sep]), ?_, sep, ?_, hsep⟩
    · rw [← String.toList_inj, heq, String.toList_append, String.toList_ofList]
      rfl
    · rw [String.toList_ofList]
      exact List.mem_append_right _ (List.mem_singleton_self sep)

/-! ### Bytes -/

/-- Whether a path covers an id, looking at bytes; `none` where a slice is out of range. -/
def coversInBytes? (path id : List UInt8) : Option Bool :=
  if path.getLast? = some (asciiByte '*') then startsWithBytes? path.dropLast id
  else some (path.map lowerByte == id.map lowerByte)

/-- Whether some path of a list covers an id, looking at bytes. -/
def anyCoversInBytes? : List String → String → Option Bool
  | [], _ => some false
  | path :: rest, id =>
    match coversInBytes? (bytes path) (bytes id) with
    | none => none
    | some true => some true
    | some false => anyCoversInBytes? rest id

/-- Whether a set covers an id, looking at bytes. -/
def allowsInBytes? (paths : TextSet) (id : String) : Option Bool :=
  if paths.isEmpty then some true else anyCoversInBytes? paths.texts id

/-- Bytes give the answer that the characters give, and no slice is out of range. -/
theorem coversInBytes?_eq (path id : String) :
    coversInBytes? (bytes path) (bytes id) = some (covers path id) := by
  have hstar : (bytes path).getLast? = some (asciiByte '*') ↔ path.toList.getLast? = some '*' := by
    rw [bytes_eq]
    exact getLast?_encode_iff (by decide)
  unfold coversInBytes? covers
  by_cases h : path.toList.getLast? = some '*'
  · have hfront : (bytes path).dropLast = bytes (String.ofList path.toList.dropLast) := by
      rw [bytes_eq, bytes_eq, String.toList_ofList]
      exact dropLast_encode (by decide) h
    rw [if_pos (hstar.2 h), if_pos h, hfront, startsWithBytes?_bytes]
  · rw [if_neg fun hlast => h (hstar.1 hlast), if_neg h, lowerBytes_beq]

theorem allowsInBytes?_eq (paths : TextSet) (id : String) :
    allowsInBytes? paths id = some (allows paths id) := by
  have hany (l : List String) :
      anyCoversInBytes? l id = some (l.any fun path => covers path id) := by
    induction l with
    | nil => rfl
    | cons path rest ih =>
        rw [anyCoversInBytes?, coversInBytes?_eq, List.any_cons]
        cases covers path id with
        | true => rfl
        | false => exact ih
  unfold allowsInBytes? allows
  rw [hany]
  cases paths.isEmpty <;> rfl

/-! ### Sets of paths -/

theorem mem_texts_iff : path ∈ paths.texts ↔ paths.get? path = some () := by
  rw [SortedMap.get?_eq_some_iff, TextSet.texts, SortedMap.keys, List.mem_map]
  constructor
  · rintro ⟨⟨p, ⟨⟩⟩, hp, rfl⟩
    exact hp
  · intro h
    exact ⟨(path, ()), h, rfl⟩

theorem allows_of_nonempty (hne : paths.isEmpty = false) (id : String) :
    allows paths id = true ↔ ∃ path ∈ paths.texts, covers path id = true := by
  rw [allows, hne, Bool.false_or, List.any_eq_true]

/-- A path that is added withdraws no id. -/
theorem allows_insert (hne : paths.isEmpty = false) (path : String)
    (h : allows paths id = true) : allows (paths.insert path ()) id = true := by
  obtain ⟨p, hp, hcovers⟩ := (allows_of_nonempty hne id).1 h
  have hkept : p ∈ TextSet.texts (paths.insert path ()) := by
    rw [mem_texts_iff] at hp ⊢
    rw [SortedMap.get?_insert]
    split
    · rfl
    · exact hp
  rw [allows, Bool.or_eq_true, List.any_eq_true]
  exact .inr ⟨p, hkept, hcovers⟩

/-- What a set of well-formed paths covers. -/
theorem allows_iff (hvalid : ∀ path ∈ paths.texts, WellFormed path)
    (hne : paths.isEmpty = false) (id : String) :
    allows paths id = true ↔
      (∃ path ∈ paths.texts, '*' ∉ path.toList ∧ asciiLower path = asciiLower id) ∨
        ∃ q : String, q ++ "*" ∈ paths.texts ∧
          (asciiLower q).toList <+: (asciiLower id).toList := by
  rw [allows_of_nonempty hne]
  constructor
  · rintro ⟨path, hpath, hcovers⟩
    rcases (hvalid path hpath).star_cases with hnone | ⟨q, rfl, -⟩
    · rw [covers_of_no_star hnone, sameName_eq_true_iff] at hcovers
      exact .inl ⟨path, hpath, hnone, hcovers⟩
    · rw [covers_append_star, startsWithName_iff] at hcovers
      exact .inr ⟨q, hpath, hcovers⟩
  · rintro (⟨path, hpath, hnone, hsame⟩ | ⟨q, hpath, hfront⟩)
    · exact ⟨path, hpath, by rw [covers_of_no_star hnone, sameName_eq_true_iff, hsame]⟩
    · exact ⟨q ++ "*", hpath, by rw [covers_append_star, startsWithName_iff]; exact hfront⟩

/-! ### Ids outside a set -/

/-- An id of one letter over and over. -/
def letters (n : Nat) : String := String.ofList (List.replicate n 'x')

theorem toList_asciiLower_letters (n : Nat) :
    (asciiLower (letters n)).toList = List.replicate n 'x' := by
  rw [toList_asciiLower, letters, String.toList_ofList, List.map_replicate]
  rfl

theorem isBlankText_letters {n : Nat} (h : 0 < n) : isBlankText (letters n) = false := by
  rw [isBlankText, letters, String.toList_ofList, List.all_eq_false]
  exact ⟨'x', List.mem_replicate.2 ⟨Nat.ne_of_gt h, rfl⟩, by decide⟩

/-- A path covers no letters that are longer than it is: without a star it has another length, and
with one it has a slash or a hyphen. -/
theorem WellFormed.covers_letters {n : Nat} (h : WellFormed path) (hlong : path.toList.length < n) :
    covers path (letters n) = false := by
  rw [Bool.eq_false_iff, ne_eq]
  rcases h.star_cases with hnone | ⟨q, rfl, sep, hsep, hplace⟩
  · rw [covers_of_no_star hnone, sameName_eq_true_iff, ← String.toList_inj,
      toList_asciiLower_letters, toList_asciiLower]
    intro hsame
    have hlength := congrArg List.length hsame
    rw [List.length_map, List.length_replicate] at hlength
    omega
  · rw [covers_append_star, startsWithName_iff, toList_asciiLower_letters, toList_asciiLower]
    intro hfront
    have hmem := List.eq_of_mem_replicate (hfront.subset (List.mem_map_of_mem hsep))
    rcases hplace with rfl | rfl <;> exact absurd hmem (by decide)

theorem exists_longer (l : List String) : ∃ n, ∀ path ∈ l, path.toList.length < n := by
  induction l with
  | nil => exact ⟨0, fun _ h => absurd h List.not_mem_nil⟩
  | cons path rest ih =>
      obtain ⟨n, hn⟩ := ih
      refine ⟨max n (path.toList.length + 1), List.forall_mem_cons.2 ⟨?_, fun p hp => ?_⟩⟩
      · exact Nat.le_max_right _ _
      · exact Nat.lt_of_lt_of_le (hn p hp) (Nat.le_max_left _ _)

/-- No set of well-formed paths covers every id that an item can have. -/
theorem exists_not_allowed (hvalid : ∀ path ∈ paths.texts, WellFormed path)
    (hne : paths.isEmpty = false) : ∃ id, isBlankText id = false ∧ allows paths id = false := by
  obtain ⟨n, hlonger⟩ := exists_longer paths.texts
  refine ⟨letters (n + 1), isBlankText_letters (Nat.succ_pos n), ?_⟩
  rw [Bool.eq_false_iff, ne_eq, allows_of_nonempty hne]
  rintro ⟨path, hpath, hcovers⟩
  rw [(hvalid path hpath).covers_letters (Nat.lt_succ_of_lt (hlonger path hpath))] at hcovers
  cases hcovers

/-! ### The scope of a set -/

/-- What a set of paths covers. -/
structure Scope (paths : TextSet) : Prop where
  allows_iff : ∀ id, allows paths id = true ↔
    (∃ path ∈ paths.texts, '*' ∉ path.toList ∧ asciiLower path = asciiLower id) ∨
      ∃ q : String, q ++ "*" ∈ paths.texts ∧ (asciiLower q).toList <+: (asciiLower id).toList
  /-- Ids in any script are looked up by their bytes, and no slice of them is out of range. -/
  bytes : ∀ id, allowsInBytes? paths id = some (allows paths id)
  lowercase : ∀ id, allows paths (asciiLower id) = allows paths id
  /-- Items under one key are covered together. -/
  key : ∀ a b : Item, a.key = b.key → allows paths a.id = allows paths b.id
  grows : ∀ path id, allows paths id = true → allows (paths.insert path ()) id = true
  denies : ∃ id, isBlankText id = false ∧ allows paths id = false

theorem allows_asciiLower (paths : TextSet) (id : String) :
    allows paths (asciiLower id) = allows paths id := by
  unfold allows
  simp only [covers_asciiLower]

/-- The answer depends on the id in small letters alone. -/
theorem allows_congr {a b : String} (paths : TextSet) (h : asciiLower a = asciiLower b) :
    allows paths a = allows paths b := by
  rw [← allows_asciiLower paths a, h, allows_asciiLower]

theorem scope_of_wellFormed (hvalid : ∀ path ∈ paths.texts, WellFormed path)
    (hne : paths.isEmpty = false) : Scope paths where
  allows_iff := allows_iff hvalid hne
  bytes := allowsInBytes?_eq paths
  lowercase := allows_asciiLower paths
  key _ _ h := allows_congr paths (congrArg ItemKey.id h)
  grows path _ h := allows_insert hne path h
  denies := exists_not_allowed hvalid hne

/-- The sets that are accepted are those of well-formed paths, whether paths are checked at
characters or at bytes, and a set that is accepted and has paths covers what they name. -/
theorem scope_of_validate (paths : TextSet) (direction : String) :
    (validate paths direction = .ok () ↔ ∀ path ∈ paths.texts, WellFormed path) ∧
      (∀ path ∈ paths.texts, faultInBytes? path = some (fault? path)) ∧
      (validate paths direction = .ok () → paths.isEmpty = false → Scope paths) :=
  ⟨validate_eq_ok_iff, fun path _ => faultInBytes?_eq path,
    fun h hne => scope_of_wellFormed (validate_eq_ok_iff.1 h) hne⟩

/-- A set whose paths and ids hold more bytes than characters. -/
def streets : TextSet := TextSet.ofTexts ["straße/*", "Überall-1"]

/-- Only ASCII letters are folded, in the path and in the id. -/
theorem scope_streets :
    validate streets "hub-to-sink" = .ok () ∧ streets.isEmpty = false ∧ Scope streets ∧
      allowsInBytes? streets "STRAßE/ü" = some true ∧
      allowsInBytes? streets "überall-1" = some false := by
  have hvalid : validate streets "hub-to-sink" = .ok () := validate_eq_ok_iff.2 (by decide +kernel)
  have hscope := (scope_of_validate streets "hub-to-sink").2.2 hvalid rfl
  refine ⟨hvalid, rfl, hscope, ?_, ?_⟩
  · rw [hscope.bytes]
    decide +kernel
  · rw [hscope.bytes]
    decide +kernel

end HubReplication.PathFilter
