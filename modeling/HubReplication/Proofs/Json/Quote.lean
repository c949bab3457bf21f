/-
**Quoted texts read back.**

A text stands between quotes with some of its characters escaped, and is scanned byte by byte.  The
bytes of a character that is not escaped are none that the scan stops at, and an escape gives the
character it was written for, so that the scan gives the bytes of the text.

Main definitions:

* `Json.bytesOf` — the bytes of characters, as a scan takes them.

Main results:

* `Json.scanString_escapeChar` — a character is read from what stands for it inside quotes;
* `Json.scanString_quote` — a quoted text is read as that text.
-/

import HubReplication.Json.Parser
import HubReplication.Json.Printer
import HubReplication.Proofs.Text.Utf8
import Mathlib.Data.List.Basic

set_option relaxedAutoImplicit false
set_option autoImplicit false

namespace HubReplication.Json

/-! ### Bytes as characters -/

/-- The bytes of characters, each standing for the character of its code. -/
def bytesOf (cs : List Char) : List Char :=
  (cs.flatMap String.utf8EncodeChar).map fun b => Char.ofNat b.toNat

@[simp] theorem bytesOf_nil : bytesOf [] = [] := rfl

@[simp] theorem bytesOf_append (cs ds : List Char) :
    bytesOf (cs ++ ds) = bytesOf cs ++ bytesOf ds := by
  simp only [bytesOf, List.flatMap_append, List.map_append]

theorem bytesOf_cons (c : Char) (cs : List Char) :
    bytesOf (c :: cs) = bytesOf [c] ++ bytesOf cs := bytesOf_append [c] cs

theorem bytesOf_singleton {c : Char} (h : c.toNat < 128) : bytesOf [c] = [c] := by
  have hv : c.val.toNat ≤ 127 := Nat.le_of_lt_succ h
  have hbyte : (UInt8.ofNat c.val.toNat).toNat = c.val.toNat :=
    UInt8.toNat_ofNat_of_lt' (Nat.lt_of_le_of_lt hv (by decide))
  simp only [bytesOf, List.flatMap_cons, List.flatMap_nil, List.append_nil,
    String.utf8EncodeChar, if_pos hv, List.map_cons, List.map_nil, hbyte]
  exact congrArg (· :: []) (Char.ofNat_toNat c)

/-- ASCII stands as it is. -/
theorem bytesOf_ascii {cs : List Char} (h : cs.all (·.toNat < 128) = true) :
    bytesOf cs = cs := by
  induction cs with
  | nil => rfl
  | cons c rest ih =>
      rw [List.all_cons, Bool.and_eq_true, decide_eq_true_eq] at h
      rw [bytesOf_cons, bytesOf_singleton h.1, ih h.2, List.singleton_append]

/-! ### Quoted texts -/

/-- Whether a byte stands inside quotes as it is. -/
def Bare (b : UInt8) : Prop := 32 ≤ b.toNat ∧ b.toNat ≠ 34 ∧ b.toNat ≠ 92

theorem toNat_ofNat_byte (b : UInt8) : (Char.ofNat b.toNat).toNat = b.toNat := by
  have hb := b.toNat_lt
  have hvalid : b.toNat.isValidChar := .inl (by omega)
  rw [Char.ofNat, dif_pos hvalid]
  rfl

theorem scanString_bare {b : UInt8} (h : Bare b) (read : List UInt8) (rest : List Char) :
    scanString (some read) (Char.ofNat b.toNat :: rest) = scanString (some (b :: read)) rest := by
  obtain ⟨hlow, hquote, hback⟩ := h
  have hcode := toNat_ofNat_byte b
  have hnotquote : Char.ofNat b.toNat ≠ '"' := fun heq => hquote (by rw [← hcode, heq]; rfl)
  have hnotback : Char.ofNat b.toNat ≠ '\\' := fun heq => hback (by rw [← hcode, heq]; rfl)
  have hbyte : UInt8.ofNat b.toNat = b := UInt8.ofNat_toNat
  rw [scanString]
  · rw [hcode, if_neg (by omega), Option.map_some, hbyte]
  · exact hnotquote
  · intro _ _ _ _ _ heq
    exact absurd heq hnotback
  · intro _ _ heq
    exact absurd heq hnotback

/-- Bytes that stand as they are are read as they are. -/
theorem scanString_bares {bytes : List UInt8} (h : ∀ b ∈ bytes, Bare b) (read : List UInt8)
    (rest : List Char) :
    scanString (some read) ((bytes.map fun b => Char.ofNat b.toNat) ++ rest) =
      scanString (some (bytes.reverse ++ read)) rest := by
  induction bytes generalizing read with
  | nil => rfl
  | cons b bytes ih =>
      rw [List.map_cons, List.cons_append, scanString_bare (h b List.mem_cons_self),
        ih fun c hc => h c (List.mem_cons_of_mem b hc), List.reverse_cons, List.append_assoc,
        List.singleton_append]

/-- The bytes of a character that stands as it is stand as they are. -/
theorem bare_of_mem_utf8EncodeChar {c : Char} (hlow : 32 ≤ c.toNat) (hquote : c ≠ '"')
    (hback : c ≠ '\\') : ∀ b ∈ String.utf8EncodeChar c, Bare b := by
  have hnotquote : c.val.toNat ≠ 34 := fun heq => hquote (Char.toNat_inj.1 heq)
  have hnotback : c.val.toNat ≠ 92 := fun heq => hback (Char.toNat_inj.1 heq)
  have hlow' : 32 ≤ c.val.toNat := hlow
  have hvalid : c.val.toNat < 0x110000 := by
    have h : c.val.toNat < 0xD800 ∨ 0xDFFF < c.val.toNat ∧ c.val.toNat < 0x110000 := c.valid
    omega
  have hhigh {n : Nat} (h : 128 ≤ n ∧ n < 256) : Bare (UInt8.ofNat n) := by
    rw [Bare, UInt8.toNat_ofNat_of_lt' h.2]
    omega
  unfold String.utf8EncodeChar
  generalize c.val.toNat = v at *
  dsimp only
  split
  · intro b hb
    rw [List.mem_singleton.1 hb, Bare, UInt8.toNat_ofNat_of_lt' (by omega : v < 256)]
    exact ⟨hlow', hnotquote, hnotback⟩
  · split
    · simp only [List.mem_cons, List.not_mem_nil, or_false, forall_eq_or_imp, forall_eq]
      exact ⟨hhigh (by omega), hhigh (by omega)⟩
    · split
      · simp only [List.mem_cons, List.not_mem_nil, or_false, forall_eq_or_imp, forall_eq]
        exact ⟨hhigh (by omega), hhigh (by omega), hhigh (by omega)⟩
      · simp only [List.mem_cons, List.not_mem_nil, or_false, forall_eq_or_imp, forall_eq]
        exact ⟨hhigh (by omega), hhigh (by omega), hhigh (by omega), hhigh (by omega)⟩

theorem codeUnit?_hexDigit : ∀ n < 32,
    codeUnit? '0' '0' (hexDigit (n / 16)) (hexDigit (n % 16)) = some n := by decide

/-- A character is read from what stands for it inside quotes. -/
theorem scanString_escapeChar (c : Char) (read : List UInt8) (rest : List Char) :
    scanString (some read) (bytesOf (escapeChar c) ++ rest) =
      scanString (some ((String.utf8EncodeChar c).reverse ++ read)) rest := by
  unfold escapeChar
  repeat' split
  case isFalse.isFalse.isFalse.isFalse.isFalse.isTrue h =>
    obtain rfl : c = Char.ofNat 8 := Char.toNat_inj.1 h
    rw [bytesOf_ascii (by decide)]
    rfl
  case isFalse.isFalse.isFalse.isFalse.isFalse.isFalse.isTrue h =>
    obtain rfl : c = Char.ofNat 12 := Char.toNat_inj.1 h
    rw [bytesOf_ascii (by decide)]
    rfl
  case isFalse.isFalse.isFalse.isFalse.isFalse.isFalse.isFalse.isTrue h =>
    have hunit := codeUnit?_hexDigit c.toNat h
    have hchar : Char.ofNat c.toNat = c := Char.ofNat_toNat c
    have hascii : ∀ n < 32,
        ['\\', 'u', '0', '0', hexDigit (n / 16), hexDigit (n % 16)].all (·.toNat < 128) =
          true := by
      decide
    rw [bytesOf_ascii (hascii c.toNat h)]
    simp only [List.cons_append, List.nil_append]
    rw [scanString, hunit]
    simp only
    rw [if_neg (by omega), if_neg (by omega), hchar]
    rfl
  case isFalse.isFalse.isFalse.isFalse.isFalse.isFalse.isFalse.isFalse hquote hback _ _ _ _ _
      hlow =>
    rw [bytesOf, List.flatMap_cons, List.flatMap_nil, List.append_nil]
    exact scanString_bares (bare_of_mem_utf8EncodeChar (Nat.not_lt.1 hlow) hquote hback) read rest
  all_goals
    subst_vars
    rw [bytesOf_ascii (by decide)]
    rfl

/-- A quoted text is read up to its closing quote. -/
theorem scanString_escaped (cs : List Char) (read : List UInt8) (rest : List Char) :
    scanString (some read) (bytesOf (cs.flatMap escapeChar) ++ '"' :: rest) =
      some (Text.decode? (read.reverse ++ cs.flatMap String.utf8EncodeChar), rest) := by
  induction cs generalizing read with
  | nil =>
      rw [List.flatMap_nil, List.flatMap_nil, List.append_nil, bytesOf_nil, List.nil_append,
        scanString]
      rfl
  | cons c cs ih =>
      rw [List.flatMap_cons, bytesOf_append, List.append_assoc, scanString_escapeChar, ih,
        List.reverse_append, List.reverse_reverse, List.append_assoc, List.flatMap_cons]

theorem escapeChar_of_le {c : Char} (hlow : 32 ≤ c.toNat) (hquote : c ≠ '"')
    (hback : c ≠ '\\') : escapeChar c = [c] := by
  have hne {d : Char} (h : d.toNat < 32) : c ≠ d := by
    rintro rfl
    omega
  rw [escapeChar, if_neg hquote, if_neg hback, if_neg (hne (by decide)), if_neg (hne (by decide)),
    if_neg (hne (by decide)), if_neg (by omega), if_neg (by omega), if_neg (by omega)]

/-- What can stand between quotes as it is stands there as it is. -/
theorem flatMap_escapeChar_of_isPlain {s : String} (h : isPlain s = true) :
    s.toList.flatMap escapeChar = s.toList := by
  rw [isPlain, String.all_bool_eq, List.all_eq_true] at h
  have hall : ∀ c ∈ s.toList, escapeChar c = [c] := by
    intro c hc
    have hplain := h c hc
    simp only [Bool.and_eq_true, decide_eq_true_eq, bne_iff_ne] at hplain
    exact escapeChar_of_le hplain.1.1 hplain.1.2 hplain.2
  rw [List.flatMap_congr hall, List.flatMap_singleton']

/-- Every text stands between quotes with its characters escaped. -/
theorem toList_quote (s : String) :
    (quote s).toList = '"' :: (s.toList.flatMap escapeChar ++ ['"']) := by
  unfold quote
  split
  · rename_i h
    rw [flatMap_escapeChar_of_isPlain h]
    simp
  · simp

/-- A quoted text is read as that text. -/
theorem scanString_quote (s : String) (rest : List Char) :
    ∃ inner, bytesOf (quote s).toList ++ rest = '"' :: inner ∧
      scanString (some []) inner = some (some s, rest) := by
  refine ⟨bytesOf (s.toList.flatMap escapeChar) ++ '"' :: rest, ?_, ?_⟩
  · rw [toList_quote, bytesOf_cons, bytesOf_singleton (by decide), bytesOf_append,
      bytesOf_singleton (by decide)]
    simp
  · rw [scanString_escaped, List.reverse_nil, List.nil_append, Text.decode?_flatMap,
      String.ofList_toList]

end HubReplication.Json
