/-
**Trimmed and cut texts.**

A trimmed text is the text without the blanks at its ends, and trimming leaves a text as it is where
neither of its ends is blank.  Cutting a text at its last separator gives the two texts that it is
put together from again, with no separator in the second one.

Main results:

* `Text.trimChars_eq_self_iff` — which texts are not trimmed;
* `Text.head?_trimChars`, `Text.getLast?_trimChars` — what is left has no blank at its ends;
* `Text.trimChars_splitAt_intercalate` — parts that are found again once they are trimmed;
* `Text.splitLast_eq_some_iff` — where a text is cut.
-/

import HubReplication.Text.Blank
import HubReplication.Text.Split

set_option relaxedAutoImplicit false
set_option autoImplicit false

namespace HubReplication.Text

variable {sep : Char} {cs before after : List Char}

/-! ### Trimming -/

theorem dropWhile_eq_self {p : Char → Bool} (h : ∀ c ∈ cs.head?, p c = false) :
    cs.dropWhile p = cs := by
  cases cs with
  | nil => rfl
  | cons c rest => rw [List.dropWhile_cons_of_neg (by rw [h c rfl]; exact Bool.false_ne_true)]

/-- A text with no blank at either end is not trimmed. -/
theorem trimChars_eq_self (hfirst : ∀ c ∈ cs.head?, isBlank c = false)
    (hlast : ∀ c ∈ cs.getLast?, isBlank c = false) : trimChars cs = cs := by
  have hreverse : ∀ c ∈ cs.reverse.head?, isBlank c = false := by
    rw [List.head?_reverse]
    exact hlast
  rw [trimChars, dropWhile_eq_self hfirst, dropWhile_eq_self hreverse, List.reverse_reverse]

theorem trimChars_sublist (cs : List Char) : (trimChars cs).Sublist cs := by
  rw [trimChars, ← List.reverse_sublist, List.reverse_reverse]
  exact (List.dropWhile_sublist isBlank).trans (List.dropWhile_sublist isBlank).reverse

theorem mem_of_mem_trimChars {c : Char} (h : c ∈ trimChars cs) : c ∈ cs :=
  (trimChars_sublist cs).mem h

/-- A trimmed text does not start with a blank. -/
theorem head?_trimChars {c : Char} (h : c ∈ (trimChars cs).head?) : isBlank c = false := by
  have hstart : trimChars cs <+: cs.dropWhile isBlank := by
    rw [trimChars, ← List.reverse_suffix, List.reverse_reverse]
    exact List.dropWhile_suffix isBlank
  have hhead : (cs.dropWhile isBlank).head? = some c := by
    obtain ⟨rest, hrest⟩ := hstart
    rw [← hrest, List.head?_append, Option.mem_def.1 h]
    rfl
  have hnot := List.head?_dropWhile_not isBlank cs
  rw [hhead] at hnot
  exact hnot

/-- A trimmed text does not end with a blank. -/
theorem getLast?_trimChars {c : Char} (h : c ∈ (trimChars cs).getLast?) : isBlank c = false := by
  rw [trimChars, List.getLast?_reverse] at h
  have hnot := List.head?_dropWhile_not isBlank (cs.dropWhile isBlank).reverse
  rw [Option.mem_def.1 h] at hnot
  exact hnot

/-- The texts with no blank at either end are those that are not trimmed. -/
theorem trimChars_eq_self_iff :
    trimChars cs = cs ↔
      (∀ c ∈ cs.head?, isBlank c = false) ∧ ∀ c ∈ cs.getLast?, isBlank c = false := by
  constructor
  · intro h
    rw [← h]
    exact ⟨fun c hc => head?_trimChars hc, fun c hc => getLast?_trimChars hc⟩
  · rintro ⟨hfirst, hlast⟩
    exact trimChars_eq_self hfirst hlast

theorem trimChars_cons_of_isBlank {c : Char} (h : isBlank c = true) (cs : List Char) :
    trimChars (c :: cs) = trimChars cs := by
  rw [trimChars, trimChars, List.dropWhile_cons_of_pos h]

/-- Blanks after a trimmed text are trimmed off. -/
theorem trimChars_append_singleton {c : Char} (h : isBlank c = true) (hne : cs ≠ [])
    (htrim : trimChars cs = cs) : trimChars (cs ++ [c]) = cs := by
  obtain ⟨hfirst, hlast⟩ := trimChars_eq_self_iff.1 htrim
  have hhead : ∀ d ∈ (cs ++ [c]).head?, isBlank d = false := by
    obtain ⟨d, ds, rfl⟩ := List.exists_cons_of_ne_nil hne
    exact hfirst
  have hreverse : ∀ d ∈ cs.reverse.head?, isBlank d = false := by rwa [List.head?_reverse]
  rw [trimChars, dropWhile_eq_self hhead, List.reverse_append, List.reverse_singleton,
    List.singleton_append, List.dropWhile_cons_of_pos h, dropWhile_eq_self hreverse,
    List.reverse_reverse]

/-! ### Separators with blanks around them -/

/-- Trimmed parts without the separator are found again between separators with blanks around
them. -/
theorem trimChars_splitAt_intercalate {blank : Char} (hblank : isBlank blank = true)
    (hsep : isBlank sep = false) {parts : List (List Char)} (hne : parts ≠ [])
    (h : ∀ part ∈ parts, part ≠ [] ∧ sep ∉ part ∧ trimChars part = part) :
    (splitAt sep ([blank, sep, blank].intercalate parts)).map trimChars = parts := by
  have hother : sep ≠ blank := by
    rintro rfl
    rw [hblank] at hsep
    cases hsep
  induction parts with
  | nil => exact absurd rfl hne
  | cons part parts ih =>
      obtain ⟨hfull, hpart, htrim⟩ := h part List.mem_cons_self
      cases parts with
      | nil => simp [List.intercalate, splitAt_of_not_mem hpart, htrim]
      | cons next parts =>
          have hrest := ih (List.cons_ne_nil _ _) fun p hp => h p (List.mem_cons_of_mem _ hp)
          have hjoin : [blank, sep, blank].intercalate (part :: next :: parts) =
              (part ++ [blank]) ++
                sep :: blank :: [blank, sep, blank].intercalate (next :: parts) := by
            simp [List.intercalate, List.intersperse]
          have hpadded : sep ∉ part ++ [blank] := by
            simpa using ⟨hpart, hother⟩
          rw [hjoin, splitAt_append hpadded, splitAt, if_neg hother.symm]
          obtain ⟨p, ps, hp⟩ := List.exists_cons_of_ne_nil
            (splitAt_ne_nil sep ([blank, sep, blank].intercalate (next :: parts)))
          rw [hp, List.map_cons] at hrest
          simp only [hp, List.map_cons, trimChars_cons_of_isBlank hblank, hrest,
            trimChars_append_singleton hblank hfull htrim]

/-! ### The last separator -/

theorem eq_of_splitLast (h : splitLast sep cs = some (before, after)) :
    cs = before ++ sep :: after := by
  induction cs generalizing before with
  | nil => cases h
  | cons c rest ih =>
      rw [splitLast] at h
      split at h
      · rename_i before' after' hrest
        cases h
        rw [ih hrest, List.cons_append]
      · split at h
        · rename_i hsep
          cases h
          rw [hsep, List.nil_append]
        · cases h

theorem splitLast_eq_none_iff : splitLast sep cs = none ↔ sep ∉ cs := by
  refine ⟨fun h => ?_, splitLast_eq_none⟩
  induction cs with
  | nil => exact List.not_mem_nil
  | cons c rest ih =>
      rw [splitLast] at h
      split at h
      · cases h
      · rename_i hrest
        split at h
        · cases h
        · rename_i hc
          simp only [List.mem_cons, not_or]
          exact ⟨fun heq => hc heq.symm, ih hrest⟩

theorem not_mem_of_splitLast (h : splitLast sep cs = some (before, after)) : sep ∉ after := by
  induction cs generalizing before with
  | nil => cases h
  | cons c rest ih =>
      rw [splitLast] at h
      split at h
      · rename_i hrest
        cases h
        exact ih hrest
      · rename_i hrest
        split at h
        · cases h
          exact splitLast_eq_none_iff.1 hrest
        · cases h

/-- A text is cut where no separator follows, and nowhere else. -/
theorem splitLast_eq_some_iff :
    splitLast sep cs = some (before, after) ↔ cs = before ++ sep :: after ∧ sep ∉ after := by
  constructor
  · intro h
    exact ⟨eq_of_splitLast h, not_mem_of_splitLast h⟩
  · rintro ⟨rfl, hafter⟩
    exact splitLast_append hafter before

end HubReplication.Text
