/-
**Case of characters.**

Folding the case of ASCII letters moves the capitals and no other character, so it neither makes nor
loses a character that is not a letter.  What is cut at such characters may be folded before or
after.

Main results:

* `Text.toNat_toLower` — where folding moves a character;
* `Text.toLower_eq_iff` — what is folded to a character that is not a letter is that character;
* `Text.asciiLower_asciiLower` — folding twice is folding once.
-/

import HubReplication.Text.Ascii

set_option relaxedAutoImplicit false
set_option autoImplicit false

namespace HubReplication.Text

theorem capital_iff {c : Char} :
    (c.val ≥ 'A'.val ∧ c.val ≤ 'Z'.val) ↔ 65 ≤ c.toNat ∧ c.toNat ≤ 90 := by
  simp only [ge_iff_le, UInt32.le_iff_toNat_le]
  rfl

theorem small_iff {c : Char} :
    (c.val ≥ 'a'.val ∧ c.val ≤ 'z'.val) ↔ 97 ≤ c.toNat ∧ c.toNat ≤ 122 := by
  simp only [ge_iff_le, UInt32.le_iff_toNat_le]
  rfl

/-- The letters are the capitals and the small letters. -/
theorem isAlpha_iff {c : Char} :
    c.isAlpha = true ↔
      (65 ≤ c.toNat ∧ c.toNat ≤ 90) ∨ (97 ≤ c.toNat ∧ c.toNat ≤ 122) := by
  have hupper : c.isUpper = true ↔ _ := decide_eq_true_iff.trans capital_iff
  have hlower : c.isLower = true ↔ _ :=
    (Bool.and_eq_true_iff.trans (and_congr decide_eq_true_iff decide_eq_true_iff)).trans small_iff
  exact Bool.or_eq_true_iff.trans (or_congr hupper hlower)

/-- A capital moves to its small letter, thirty-two places on; every other character stays. -/
theorem toNat_toLower (c : Char) :
    c.toLower.toNat = if 65 ≤ c.toNat ∧ c.toNat ≤ 90 then c.toNat + 32 else c.toNat := by
  unfold Char.toLower
  split
  · rename_i h
    obtain ⟨hlow, hhigh⟩ := capital_iff.1 h
    rw [if_pos ⟨hlow, hhigh⟩]
    change (c.val + ('a'.val - 'A'.val)).toNat = c.val.toNat + 32
    change 65 ≤ c.val.toNat at hlow
    change c.val.toNat ≤ 90 at hhigh
    rw [UInt32.toNat_add, show ('a'.val - 'A'.val).toNat = 32 from rfl]
    omega
  · rename_i h
    rw [if_neg fun hc => h (capital_iff.2 hc)]

/-- What is folded to a character that is not a letter is that character. -/
theorem toLower_eq_iff {c d : Char} (hd : d.isAlpha = false) : c.toLower = d ↔ c = d := by
  rw [Bool.eq_false_iff, ne_eq, isAlpha_iff] at hd
  rw [← Char.toNat_inj, ← Char.toNat_inj, toNat_toLower]
  split <;> omega

/-- Folding the case twice is folding it once. -/
@[simp] theorem asciiLower_asciiLower (s : String) : asciiLower (asciiLower s) = asciiLower s := by
  have htwice (c : Char) : c.toLower.toLower = c.toLower := by
    rw [← Char.toNat_inj, toNat_toLower c.toLower, if_neg]
    rw [toNat_toLower]
    split <;> omega
  rw [← String.toList_inj]
  simp [htwice]

end HubReplication.Text
