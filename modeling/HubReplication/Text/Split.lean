/-
**Parts of a text.**

A text is cut at every occurrence of a separator, or at its last one, and whole numbers are read
from the parts.

Main definitions:

* `Text.splitAt` — the parts between separators, at least one;
* `Text.splitLast` — what stands before and after the last separator;
* `Text.parseNat?` — a whole number below a bound.

Main results:

* `Text.intercalate_splitAt` — the parts with the separators between them are the text;
* `Text.not_mem_of_mem_splitAt`, `Text.splitAt_intercalate` — no part holds the separator, and such
  parts are found again;
* `Text.splitLast_append` — a text is cut where no separator follows.
-/

set_option relaxedAutoImplicit false
set_option autoImplicit false

namespace HubReplication.Text

/-- The parts between the separators. -/
def splitAt (sep : Char) : List Char → List (List Char)
  | [] => [[]]
  | c :: rest =>
    if c = sep then [] :: splitAt sep rest
    else
      match splitAt sep rest with
      | [] => [[c]]
      | part :: parts => (c :: part) :: parts

/-- What stands before and after the last separator. -/
def splitLast (sep : Char) : List Char → Option (List Char × List Char)
  | [] => none
  | c :: rest =>
    match splitLast sep rest with
    | some (before, after) => some (c :: before, after)
    | none => if c = sep then some ([], rest) else none

/-- Whether a character is a decimal digit. -/
def isDecimal (c : Char) : Bool := '0' ≤ c && c ≤ '9'

/-- The number of a list of digits. -/
def decimalValue (cs : List Char) : Nat :=
  cs.foldl (fun n c => n * 10 + (c.toNat - '0'.toNat)) 0

/-- A whole number below a bound: digits, a plus sign allowed before them. -/
def parseNat? (bound : Nat) (cs : List Char) : Option Nat :=
  let digits := match cs with
    | '+' :: rest => rest
    | _ => cs
  if digits.isEmpty || !digits.all isDecimal then none
  else
    let n := decimalValue digits
    if n < bound then some n else none

theorem splitAt_ne_nil (sep : Char) (cs : List Char) : splitAt sep cs ≠ [] := by
  cases cs with
  | nil => simp [splitAt]
  | cons c rest =>
    unfold splitAt
    split
    · simp
    · split <;> simp

theorem intercalate_splitAt (sep : Char) (cs : List Char) :
    [sep].intercalate (splitAt sep cs) = cs := by
  induction cs with
  | nil => rfl
  | cons c rest ih =>
    unfold splitAt
    split
    · rename_i h
      subst h
      obtain ⟨p, ps, hp⟩ := List.exists_cons_of_ne_nil (splitAt_ne_nil c rest)
      rw [hp] at ih ⊢
      simpa [List.intercalate, List.intersperse] using ih
    · obtain ⟨p, ps, hp⟩ := List.exists_cons_of_ne_nil (splitAt_ne_nil sep rest)
      rw [hp] at ih ⊢
      cases ps with
      | nil => simpa [List.intercalate, List.intersperse] using ih
      | cons q qs => simpa [List.intercalate, List.intersperse] using ih

/-- No part holds the separator. -/
theorem not_mem_of_mem_splitAt {sep : Char} {cs part : List Char} (h : part ∈ splitAt sep cs) :
    sep ∉ part := by
  induction cs generalizing part with
  | nil =>
    rw [splitAt, List.mem_singleton] at h
    simp [h]
  | cons c rest ih =>
    unfold splitAt at h
    split at h
    · rcases List.mem_cons.1 h with rfl | h
      · exact List.not_mem_nil
      · exact ih h
    · rename_i hc
      obtain ⟨p, ps, hp⟩ := List.exists_cons_of_ne_nil (splitAt_ne_nil sep rest)
      rw [hp] at h ih
      rcases List.mem_cons.1 h with rfl | h
      · simp only [List.mem_cons, not_or]
        exact ⟨fun e => hc e.symm, ih List.mem_cons_self⟩
      · exact ih (List.mem_cons_of_mem _ h)

/-- A text without the separator is one part. -/
theorem splitAt_of_not_mem {sep : Char} {cs : List Char} (h : sep ∉ cs) :
    splitAt sep cs = [cs] := by
  induction cs with
  | nil => rfl
  | cons c rest ih =>
    simp only [List.mem_cons, not_or] at h
    rw [splitAt, if_neg (Ne.symm h.1), ih h.2]

/-- A part without the separator ends at the first one. -/
theorem splitAt_append {sep : Char} {part : List Char} (h : sep ∉ part) (rest : List Char) :
    splitAt sep (part ++ sep :: rest) = part :: splitAt sep rest := by
  induction part with
  | nil => rw [List.nil_append, splitAt, if_pos rfl]
  | cons c part ih =>
    simp only [List.mem_cons, not_or] at h
    rw [List.cons_append, splitAt, if_neg (Ne.symm h.1), ih h.2]

/-- Parts without the separator are found again. -/
theorem splitAt_intercalate {sep : Char} {parts : List (List Char)} (hne : parts ≠ [])
    (h : ∀ part ∈ parts, sep ∉ part) : splitAt sep ([sep].intercalate parts) = parts := by
  induction parts with
  | nil => exact absurd rfl hne
  | cons part parts ih =>
    have hpart := h part List.mem_cons_self
    cases parts with
    | nil => simpa [List.intercalate] using splitAt_of_not_mem hpart
    | cons next parts =>
      have hrest := ih (List.cons_ne_nil _ _) fun p hp => h p (List.mem_cons_of_mem _ hp)
      have hjoin : [sep].intercalate (part :: next :: parts) =
          part ++ sep :: [sep].intercalate (next :: parts) := by
        simp [List.intercalate, List.intersperse]
      rw [hjoin, splitAt_append hpart, hrest]

/-- A text without the separator is not cut. -/
theorem splitLast_eq_none {sep : Char} {cs : List Char} (h : sep ∉ cs) :
    splitLast sep cs = none := by
  induction cs with
  | nil => rfl
  | cons c rest ih =>
    simp only [List.mem_cons, not_or] at h
    simp only [splitLast, ih h.2, if_neg (Ne.symm h.1)]

/-- A text is cut where no separator follows. -/
theorem splitLast_append {sep : Char} {after : List Char} (h : sep ∉ after)
    (before : List Char) : splitLast sep (before ++ sep :: after) = some (before, after) := by
  induction before with
  | nil => simp only [List.nil_append, splitLast, splitLast_eq_none h, if_true]
  | cons c before ih => simp only [List.cons_append, splitLast, ih]

end HubReplication.Text
