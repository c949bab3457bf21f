/-
**Which paths are accepted.**

A path is accepted if it is not empty, has no blank at either end, and holds no star but one at its
end after a slash or a hyphen.  The rules may be checked at positions of bytes as well: the bytes of
a path hold that of a star where the path holds one, the byte before it is that of a slash or a
hyphen where the character is, and no position that is looked at is out of range.

Main definitions:

* `PathFilter.StarPlace` — where the first star of a path stands;
* `PathFilter.WellFormed` — a path that is accepted;
* `PathFilter.faultInBytes?` — the rules, checked at positions of bytes.

Main results:

* `PathFilter.fault?_eq_none_iff`, `PathFilter.validate_eq_ok_iff` — which paths, and which sets of
  them, are accepted;
* `PathFilter.faultInBytes?_eq` — bytes are found to have the fault that the characters have.
-/

import HubReplication.Definition.PathFilter
import HubReplication.Proofs.Text.Bytes
import HubReplication.Proofs.Text.Parts

set_option relaxedAutoImplicit false
set_option autoImplicit false

namespace HubReplication.PathFilter

open Text

variable {path : String} {cs before after q : List Char} {sep : Char}

/-! ### The place of the star -/

/-- Where the first star of a path stands. -/
inductive StarPlace : List Char → Prop
  | nowhere {cs : List Char} (h : '*' ∉ cs) : StarPlace cs
  /-- Something follows the star. -/
  | inside {before after : List Char} {c : Char} (h : '*' ∉ before) :
      StarPlace (before ++ '*' :: c :: after)
  /-- There is nothing but the star. -/
  | alone : StarPlace ['*']
  /-- The star comes last, after some character. -/
  | last {q : List Char} {sep : Char} (h : '*' ∉ q ++ [sep]) : StarPlace (q ++ [sep] ++ ['*'])

theorem starPlace (cs : List Char) : StarPlace cs := by
  by_cases h : '*' ∈ cs
  · obtain ⟨before, after, rfl, hbefore⟩ := List.eq_append_cons_of_mem h
    cases after with
    | cons c after => exact .inside hbefore
    | nil =>
        rcases List.eq_nil_or_concat before with rfl | ⟨q, sep, rfl⟩
        · exact .alone
        · rw [List.concat_eq_append] at hbefore ⊢
          exact .last hbefore
  · exact .nowhere h

/-- What stands before the first star is passed over. -/
theorem dropWhile_ne_star (h : '*' ∉ before) (after : List Char) :
    (before ++ after).dropWhile (· ≠ '*') = after.dropWhile (· ≠ '*') :=
  List.dropWhile_append_of_pos fun c hc => by simpa using fun heq : c = '*' => h (heq ▸ hc)

/-! ### The fault of a trimmed path -/

/-- The fault of a path that is trimmed depends on what follows its first star, and on what stands
before it. -/
theorem faultOf?_trimmed (hne : cs ≠ []) (htrim : trimChars cs = cs) :
    faultOf? cs =
      match cs.dropWhile (· ≠ '*') with
      | [] => none
      | _ :: _ :: _ => some .innerStar
      | [_] =>
        match cs.dropLast.getLast? with
        | none => some .bareStar
        | some c => if c = '/' ∨ c = '-' then none else some .looseStar := by
  have hsome : ¬(trimChars cs).isEmpty = true := by rwa [htrim, List.isEmpty_iff]
  exact (if_neg hsome).trans (if_neg fun h => h htrim)

theorem faultOf?_no_star (hne : cs ≠ []) (htrim : trimChars cs = cs) (h : '*' ∉ cs) :
    faultOf? cs = none := by
  have hstar := dropWhile_ne_star h []
  rw [List.append_nil] at hstar
  rw [faultOf?_trimmed hne htrim, hstar]
  rfl

theorem faultOf?_inner_star {c : Char} (h : '*' ∉ before)
    (htrim : trimChars (before ++ '*' :: c :: after) = before ++ '*' :: c :: after) :
    faultOf? (before ++ '*' :: c :: after) = some .innerStar := by
  rw [faultOf?_trimmed (by simp) htrim, dropWhile_ne_star h]
  rfl

theorem faultOf?_lone_star : faultOf? ['*'] = some .bareStar := by decide

theorem faultOf?_last_star (h : '*' ∉ q ++ [sep])
    (htrim : trimChars (q ++ [sep] ++ ['*']) = q ++ [sep] ++ ['*']) :
    faultOf? (q ++ [sep] ++ ['*']) = if sep = '/' ∨ sep = '-' then none else some .looseStar := by
  rw [faultOf?_trimmed (by simp) htrim, dropWhile_ne_star h, List.dropLast_concat,
    List.getLast?_concat]
  rfl

/-! ### Well-formed paths -/

/-- There is no star, or one only, which comes last and follows a slash or a hyphen. -/
def StarAtEnd (cs : List Char) : Prop :=
  '*' ∉ cs ∨ ∃ q sep, cs = q ++ [sep] ++ ['*'] ∧ (sep = '/' ∨ sep = '-') ∧ '*' ∉ q

/-- A path names one id, or with a star all ids that start with what stands before it. -/
structure WellFormed (path : String) : Prop where
  nonempty : path ≠ ""
  start : ∀ c ∈ path.toList.head?, isBlank c = false
  stop : ∀ c ∈ path.toList.getLast?, isBlank c = false
  star : StarAtEnd path.toList

/-- A path without a fault is not empty and not trimmed. -/
theorem trimmed_of_faultOf? (h : faultOf? cs = none) : cs ≠ [] ∧ trimChars cs = cs := by
  unfold faultOf? at h
  dsimp only at h
  split at h
  · cases h
  · rename_i hsome
    split at h
    · cases h
    · rename_i htrim
      rw [Decidable.not_not] at htrim
      rw [htrim, List.isEmpty_iff] at hsome
      exact ⟨hsome, htrim⟩

/-- A trimmed path without a fault is one whose star is at its end. -/
theorem faultOf?_eq_none_iff (hne : cs ≠ []) (htrim : trimChars cs = cs) :
    faultOf? cs = none ↔ StarAtEnd cs := by
  constructor
  · intro h
    cases starPlace cs with
    | nowhere hnone => exact .inl hnone
    | inside hbefore =>
        rw [faultOf?_inner_star hbefore htrim] at h
        cases h
    | alone =>
        rw [faultOf?_lone_star] at h
        cases h
    | @last q sep hq =>
        rw [faultOf?_last_star hq htrim] at h
        split at h
        · rename_i hsep
          exact .inr ⟨q, sep, rfl, hsep, fun hmem => hq (List.mem_append_left _ hmem)⟩
        · cases h
  · rintro (hnone | ⟨q, sep, rfl, hsep, hq⟩)
    · exact faultOf?_no_star hne htrim hnone
    · have hq' : '*' ∉ q ++ [sep] := by
        rw [List.mem_append, List.mem_singleton, not_or]
        refine ⟨hq, ?_⟩
        rcases hsep with rfl | rfl <;> decide
      rw [faultOf?_last_star hq' htrim, if_pos hsep]

/-- The paths without a fault are the well-formed ones. -/
theorem fault?_eq_none_iff : fault? path = none ↔ WellFormed path := by
  unfold fault?
  constructor
  · intro h
    obtain ⟨hne, htrim⟩ := trimmed_of_faultOf? h
    obtain ⟨hstart, hstop⟩ := trimChars_eq_self_iff.1 htrim
    exact ⟨fun hempty => hne (String.toList_eq_nil_iff.2 hempty), hstart, hstop,
      (faultOf?_eq_none_iff hne htrim).1 h⟩
  · intro h
    have hne : path.toList ≠ [] := fun hnil => h.nonempty (String.toList_eq_nil_iff.1 hnil)
    exact (faultOf?_eq_none_iff hne (trimChars_eq_self_iff.2 ⟨h.start, h.stop⟩)).2 h.star

instance (path : String) : Decidable (WellFormed path) :=
  decidable_of_iff (fault? path = none) fault?_eq_none_iff

theorem validatePaths_eq_ok_iff {direction : String} {paths : List String} :
    validatePaths direction paths = .ok () ↔ ∀ path ∈ paths, WellFormed path := by
  induction paths with
  | nil => simp [validatePaths]
  | cons path rest ih =>
      rw [validatePaths, List.forall_mem_cons, ← fault?_eq_none_iff]
      cases fault? path with
      | none => simp [ih]
      | some fault => simp

/-- The sets that are accepted are those of well-formed paths. -/
theorem validate_eq_ok_iff {paths : TextSet} {direction : String} :
    validate paths direction = .ok () ↔ ∀ path ∈ paths.texts, WellFormed path :=
  validatePaths_eq_ok_iff

/-! ### Positions of bytes -/

/-- The byte before a position, `none` where there is no such byte. -/
def byteBefore? : Nat → List UInt8 → Option UInt8
  | 0, _ => none
  | place + 1, bs => bs[place]?

/-- What is wrong with the star of bytes; `none` where a position is out of range. -/
def starFaultInBytes? (bs : List UInt8) : Option (Option Fault) :=
  match bs.findIdx? (· == asciiByte '*') with
  | none => some none
  | some place =>
    if place ≠ bs.length - 1 then some (some .innerStar)
    else if bs.length = 1 then some (some .bareStar)
    else (byteBefore? place bs).map fun b =>
      if b = asciiByte '/' ∨ b = asciiByte '-' then none else some .looseStar

/-- What is wrong with a path, found at positions of its bytes. -/
def faultInBytes? (path : String) : Option (Option Fault) :=
  let trimmed := bytes (trim path)
  if trimmed.isEmpty then some (some .blank)
  else if trimmed.length ≠ (bytes path).length then some (some .padded)
  else starFaultInBytes? (bytes path)

/-- Without a star there is no byte of one. -/
theorem findIdx?_no_star (h : '*' ∉ cs) : (encode cs).findIdx? (· == asciiByte '*') = none := by
  rw [List.findIdx?_eq_none_iff]
  intro b hb
  rw [beq_eq_false_iff_ne]
  rintro rfl
  exact h ((asciiByte_mem_encode_iff (by decide)).1 hb)

theorem encode_star (before after : List Char) :
    encode (before ++ '*' :: after) = encode before ++ asciiByte '*' :: encode after := by
  rw [encode_append, encode_cons, utf8EncodeChar_of_lt (by decide)]
  rfl

/-- The first byte of a star is found where the bytes before it end. -/
theorem findIdx?_star (h : '*' ∉ before) (after : List Char) :
    (encode (before ++ '*' :: after)).findIdx? (· == asciiByte '*') =
      some (encode before).length := by
  rw [encode_star, List.findIdx?_append, findIdx?_no_star h, List.findIdx?_cons]
  simp

/-- The byte before the end of a character is that of a slash or a hyphen where the character is. -/
theorem byteBefore?_encode (q rest : List Char) (sep : Char) :
    ∃ b, byteBefore? (encode (q ++ [sep])).length (encode (q ++ [sep] ++ rest)) = some b ∧
      ∀ d : Char, d.toNat < 128 → (b = asciiByte d ↔ sep = d) := by
  obtain ⟨init, b, heq, hb⟩ := exists_last_byte sep
  have hencode : encode (q ++ [sep]) = (encode q ++ init) ++ [b] := by
    rw [encode_append, encode_cons, heq, List.append_assoc, List.append_assoc]
    rfl
  refine ⟨b, ?_, hb⟩
  rw [encode_append (q ++ [sep]), hencode, List.length_append, List.length_singleton,
    byteBefore?, List.append_assoc, List.getElem?_append_right (Nat.le_refl _), Nat.sub_self]
  rfl

/-- The bytes of a trimmed path are found to have the fault of its star. -/
theorem starFaultInBytes?_eq (hne : cs ≠ []) (htrim : trimChars cs = cs) :
    starFaultInBytes? (encode cs) = some (faultOf? cs) := by
  unfold starFaultInBytes?
  cases starPlace cs with
  | nowhere hnone => rw [findIdx?_no_star hnone, faultOf?_no_star hne htrim hnone]
  | @inside before after c hbefore =>
      have hnotLast : (encode before).length ≠
          (encode (before ++ '*' :: c :: after)).length - 1 := by
        have hpos : 0 < (String.utf8EncodeChar c).length :=
          List.length_pos_iff.2 String.utf8EncodeChar_ne_nil
        rw [encode_star, encode_cons, List.length_append, List.length_cons, List.length_append]
        omega
      rw [findIdx?_star hbefore, faultOf?_inner_star hbefore htrim]
      exact if_pos hnotLast
  | alone => rfl
  | @last q sep hq =>
      have hlength : (encode (q ++ [sep] ++ ['*'])).length = (encode (q ++ [sep])).length + 1 := by
        rw [encode_star, List.length_append]
        rfl
      have hpos : 0 < (encode (q ++ [sep])).length :=
        List.length_pos_iff.2 fun hnil => by simpa using encode_eq_nil_iff.1 hnil
      obtain ⟨b, hbyte, hb⟩ := byteBefore?_encode q ['*'] sep
      rw [findIdx?_star hq, faultOf?_last_star hq htrim]
      dsimp only
      rw [if_neg (by omega), if_neg (by omega), hbyte, Option.map_some]
      simp only [hb '/' (by decide), hb '-' (by decide)]

/-- The bytes of a path are found to have the fault that its characters have, and no position that
is looked at is out of range. -/
theorem faultInBytes?_eq (path : String) : faultInBytes? path = some (fault? path) := by
  have htrimmed : bytes (trim path) = encode (trimChars path.toList) := by
    rw [bytes_eq, trim, String.toList_ofList]
  unfold faultInBytes? fault?
  rw [htrimmed, bytes_eq]
  generalize path.toList = cs
  dsimp only
  by_cases hblank : trimChars cs = []
  · have hfault : faultOf? cs = some .blank := by simp [faultOf?, hblank]
    rw [if_pos (by rw [hblank]; rfl), hfault]
  · have hsome : ¬(encode (trimChars cs)).isEmpty = true := fun hempty =>
      hblank (encode_eq_nil_iff.1 (List.isEmpty_iff.1 hempty))
    rw [if_neg hsome]
    by_cases htrim : trimChars cs = cs
    · rw [htrim] at hblank
      rw [if_neg (by rw [htrim]; exact fun h => h rfl), starFaultInBytes?_eq hblank htrim]
    · have hlength : (encode (trimChars cs)).length ≠ (encode cs).length := fun hlength =>
        htrim ((length_encode_eq_iff (trimChars_sublist cs)).1 hlength)
      have hfault : faultOf? cs = some .padded := by simp [faultOf?, hblank, htrim]
      rw [if_pos hlength, hfault]

end HubReplication.PathFilter
