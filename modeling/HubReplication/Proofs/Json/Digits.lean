/-
**Digits.**

A whole number is written in decimal digits, with no needless zero before them, and read back
wherever numbers are read.

Main results:

* `Text.parseNat?_toDigits` — the digits of a number below the bound are read as that number;
* `JsonNumber.accumulate_of_lt` — digits add up to a significand as long as it has 64 bits;
* `JsonNumber.scan_toDigits` — the digits of a number of 64 bits are read as that number.
-/

import HubReplication.Json.Number
import HubReplication.Text.Split
import Mathlib.Data.Nat.Digits.Lemmas

set_option relaxedAutoImplicit false
set_option autoImplicit false

namespace HubReplication

namespace Text

variable {n : Nat}

theorem isDecimal_of_mem_toDigits {c : Char} (h : c ∈ Nat.toDigits 10 n) :
    isDecimal c = true := by
  have hdigit := Nat.isDigit_of_mem_toDigits (by decide) (by decide) h
  rw [Char.isDigit, Bool.and_eq_true, decide_eq_true_eq, decide_eq_true_eq] at hdigit
  rw [isDecimal, Bool.and_eq_true, decide_eq_true_eq, decide_eq_true_eq]
  exact hdigit

/-- The digits of a number other than zero do not start with a zero. -/
theorem head?_toDigits_ne (h : 0 < n) : (Nat.toDigits 10 n).head? ≠ some '0' := by
  induction n using Nat.strongRecOn with
  | ind n ih =>
      rw [Nat.toDigits_eq_if (by decide)]
      split
      · rename_i hsmall
        interval_cases n <;> decide
      · rename_i hlarge
        rw [List.head?_append_of_ne_nil _ Nat.toDigits_ne_nil]
        exact ih (n / 10) (by omega) (by omega)

theorem decimalValue_eq (cs : List Char) : decimalValue cs = Nat.ofDigitChars 10 cs 0 := by
  rw [Nat.ofDigitChars_eq_foldl, decimalValue]
  simp only [Nat.mul_comm]

/-- The digits of a number below the bound are read as that number. -/
theorem parseNat?_toDigits {bound : Nat} (h : n < bound) :
    parseNat? bound (Nat.toDigits 10 n) = some n := by
  have hplus : ∀ rest, Nat.toDigits 10 n ≠ '+' :: rest := by
    intro rest heq
    have hmem : '+' ∈ Nat.toDigits 10 n := heq ▸ List.mem_cons_self
    exact absurd (isDecimal_of_mem_toDigits hmem) (by decide)
  have hall : (Nat.toDigits 10 n).all isDecimal = true :=
    List.all_eq_true.2 fun c hc => isDecimal_of_mem_toDigits hc
  have hempty : (Nat.toDigits 10 n).isEmpty = false := by
    rw [List.isEmpty_eq_false_iff]
    exact Nat.toDigits_ne_nil
  unfold parseNat?
  split
  · rename_i rest heq
    exact absurd heq (hplus rest)
  · simp only [hempty, hall, decimalValue_eq, Nat.ofDigitChars_ten_toDigits, h, Bool.not_true,
      Bool.or_self, Bool.false_eq_true, if_false, if_true]

end Text

namespace JsonNumber

variable {n : Nat}

/-- Digits add up to a significand as long as it has 64 bits. -/
theorem accumulate_of_lt {cs : List Char} {s : Nat} (used : Nat)
    (h : Nat.ofDigitChars 10 cs s < significandBound) :
    accumulate cs s used = (Nat.ofDigitChars 10 cs s, used + cs.length, 0) := by
  induction cs generalizing s used with
  | nil => rfl
  | cons c rest ih =>
      have hnext : s * 10 + digitValue c = 10 * s + (c.toNat - '0'.toNat) := by
        rw [digitValue, Nat.mul_comm]
      rw [Nat.ofDigitChars_cons] at h ⊢
      have hle : 10 * s + (c.toNat - '0'.toNat) ≤
          Nat.ofDigitChars 10 rest (10 * s + (c.toNat - '0'.toNat)) := by
        rw [Nat.ofDigitChars_eq_ofDigitChars_zero]
        exact Nat.le_trans (Nat.le_mul_of_pos_left _ (Nat.pow_pos (by decide)))
          (Nat.le_add_right _ _)
      rw [accumulate, hnext, if_pos (Nat.lt_of_le_of_lt hle h), ih _ h, List.length_cons,
        Nat.add_right_comm, Nat.add_assoc]

/-- What may stand after the digits of a whole number: nothing that would make it another one. -/
def Ends (rest : List Char) : Prop :=
  ∀ c ∈ rest.head?, isDigit c = false ∧ c ≠ '.' ∧ c ≠ 'e' ∧ c ≠ 'E'

theorem takeWhile_toDigits {rest : List Char} (h : Ends rest) :
    (Nat.toDigits 10 n ++ rest).takeWhile isDigit = Nat.toDigits 10 n := by
  have hall : ∀ c ∈ Nat.toDigits 10 n, isDigit c = true := fun c hc =>
    Text.isDecimal_of_mem_toDigits hc
  rw [List.takeWhile_append_of_pos hall]
  cases rest with
  | nil => simp
  | cons c rest => simp [(h c rfl).1]

theorem dropWhile_toDigits {rest : List Char} (h : Ends rest) :
    (Nat.toDigits 10 n ++ rest).dropWhile isDigit = rest := by
  have hall : ∀ c ∈ Nat.toDigits 10 n, isDigit c = true := fun c hc =>
    Text.isDecimal_of_mem_toDigits hc
  rw [List.dropWhile_append_of_pos hall]
  cases rest with
  | nil => rfl
  | cons c rest => simp [(h c rfl).1]

/-- The digits of a number of 64 bits are read as that number. -/
theorem scan_toDigits (hn : n < UInt64.size) {rest : List Char} (h : Ends rest) :
    scan (Nat.toDigits 10 n ++ rest) = some (some (.nat n), rest) := by
  obtain ⟨c, cs, hcs⟩ := List.exists_cons_of_ne_nil (Nat.toDigits_ne_nil (n := n) (b := 10))
  have hminus : c ≠ '-' := by
    intro heq
    have hdecimal := Text.isDecimal_of_mem_toDigits (n := n) (hcs ▸ List.mem_cons_self)
    rw [heq] at hdecimal
    exact absurd hdecimal (by decide)
  have hzero : ((Nat.toDigits 10 n).head? == some '0' && 1 < (Nat.toDigits 10 n).length) =
      false := by
    rcases Nat.eq_zero_or_pos n with rfl | hpos
    · decide
    · rw [beq_false_of_ne (Text.head?_toDigits_ne hpos), Bool.false_and]
  have hempty : (Nat.toDigits 10 n).isEmpty = false := by
    rw [List.isEmpty_eq_false_iff]
    exact Nat.toDigits_ne_nil
  have hvalue : Nat.ofDigitChars 10 (Nat.toDigits 10 n) 0 = n := Nat.ofDigitChars_ten_toDigits
  have hread : accumulate (Nat.toDigits 10 n) 0 0 = (n, (Nat.toDigits 10 n).length, 0) := by
    rw [accumulate_of_lt 0 (by rw [hvalue]; exact hn), hvalue, Nat.zero_add]
  unfold scan
  split
  rename_i positive cs' hmatch
  split at hmatch
  · rename_i after heq
    rw [hcs] at heq
    exact absurd (List.cons.inj heq).1 hminus
  · cases hmatch
    simp only [takeWhile_toDigits h, dropWhile_toDigits h, hempty, hzero, hread, Bool.or_self,
      Bool.false_eq_true, if_false]
    split
    · exact absurd rfl (h '.' rfl).2.1
    · exact absurd rfl (h 'e' rfl).2.2.1
    · exact absurd rfl (h 'E' rfl).2.2.2
    · rfl

end JsonNumber

end HubReplication
