/-
**Text as bytes.**

The bytes of a text are those of its characters, one after the other.  A strict reader takes one
character after the other off them and gets the text back.

Main results:

* `Text.toList_toUTF8` — the bytes of a text are those of its characters;
* `Text.decodeFrom_utf8EncodeChar` — the bytes of a character give that character;
* `Text.decode?_flatMap` — the bytes of characters give those characters.
-/

import HubReplication.Text.Repair

set_option relaxedAutoImplicit false
set_option autoImplicit false

namespace HubReplication.Text

/-! ### Bytes as a list -/

theorem toList_loop (bytes : ByteArray) (i : Nat) (done : List UInt8) :
    ByteArray.toList.loop bytes i done = done.reverse ++ bytes.data.toList.drop i := by
  fun_induction ByteArray.toList.loop bytes i done with
  | case1 i done h ih =>
      have hlt : i < bytes.data.toList.length := h
      have hget : bytes.get! i = bytes.data.toList[i] := getElem!_pos bytes.data i h
      rw [ih, List.reverse_cons, List.append_assoc, List.singleton_append, hget,
        List.drop_eq_getElem_cons hlt]
  | case2 i done h =>
      have hall : bytes.data.toList.drop i = [] := List.drop_eq_nil_of_le (Nat.not_lt.1 h)
      rw [hall, List.append_nil]

theorem toList_eq (bytes : ByteArray) : bytes.toList = bytes.data.toList :=
  toList_loop bytes 0 []

/-- The bytes of a text are those of its characters. -/
theorem toList_toUTF8 (s : String) :
    s.toUTF8.toList = s.toList.flatMap String.utf8EncodeChar := by
  have hbytes : s.toUTF8 = s.toList.utf8Encode := by
    rw [← String.toByteArray_ofList, String.ofList_toList]
    rfl
  rw [hbytes, toList_eq, List.utf8Encode, List.toList_data_toByteArray]

/-! ### Characters of bytes -/

theorem opening?_two {v : Nat} (hlow : 0x80 ≤ v) (hhigh : v < 0x800) :
    opening? (v / 64 + 192) = some ⟨v / 64, 0, 0x80, 0xBF⟩ := by
  unfold opening?
  rw [if_pos (by omega), Nat.add_sub_cancel]

/-- What a character of three bytes opens with admits its second byte. -/
theorem opening?_three {v : Nat} (hlow : 0x800 ≤ v) (hhigh : v < 0x10000)
    (hvalid : v < 0xD800 ∨ 0xDFFF < v) :
    ∃ low high, opening? (v / 4096 + 224) = some ⟨v / 4096, 1, low, high⟩ ∧
      low ≤ v / 64 % 64 + 128 ∧ v / 64 % 64 + 128 ≤ high := by
  unfold opening?
  rw [if_neg (by omega)]
  split
  · rename_i hfirst
    have hcode : v / 4096 = 0 := by omega
    exact ⟨0xA0, 0xBF, by rw [hcode], by omega, by omega⟩
  · split
    · rename_i hfirst
      have hcode : v / 4096 = 0xD := by omega
      exact ⟨0x80, 0x9F, by rw [hcode], by omega, by omega⟩
    · rw [if_pos (by omega), Nat.add_sub_cancel]
      exact ⟨0x80, 0xBF, rfl, by omega, by omega⟩

/-- What a character of four bytes opens with admits its second byte. -/
theorem opening?_four {v : Nat} (hlow : 0x10000 ≤ v) (hhigh : v < 0x110000) :
    ∃ low high, opening? (v / 262144 + 240) = some ⟨v / 262144, 2, low, high⟩ ∧
      low ≤ v / 4096 % 64 + 128 ∧ v / 4096 % 64 + 128 ≤ high := by
  unfold opening?
  rw [if_neg (by omega), if_neg (by omega), if_neg (by omega), if_neg (by omega)]
  split
  · rename_i hfirst
    have hcode : v / 262144 = 0 := by omega
    exact ⟨0x90, 0xBF, by rw [hcode], by omega, by omega⟩
  · split
    · rw [Nat.add_sub_cancel]
      exact ⟨0x80, 0xBF, rfl, by omega, by omega⟩
    · rename_i hfirst hmiddle
      have hcode : v / 262144 = 4 := by omega
      rw [if_pos (by omega)]
      exact ⟨0x80, 0x8F, by rw [hcode], by omega, by omega⟩

section Feeding

variable {b code next after low high : Nat} {o : Opening} {c : Char} {byte : UInt8}

theorem feed_opening (hb : 0x80 ≤ b) (h : opening? b = some o) : feed none b = some (.inr o) := by
  simp only [feed, if_neg (Nat.not_lt.2 hb), h, Option.map_some]

theorem feed_more (hlow : low ≤ b) (hhigh : b ≤ high) (h : code * 64 + (b - 0x80) = next) :
    feed (some ⟨code, after + 1, low, high⟩) b = some (.inr ⟨next, after, 0x80, 0xBF⟩) := by
  simp only [feed, if_pos (And.intro hlow hhigh), h]

theorem feed_last (hlow : low ≤ b) (hhigh : b ≤ high) (h : code * 64 + (b - 0x80) = next) :
    feed (some ⟨code, 0, low, high⟩) b = some (.inl (Char.ofNat next)) := by
  simp only [feed, if_pos (And.intro hlow hhigh), h]

theorem decodeFrom_cons_inl {pending : Option Opening} (read : List Char) (rest : List UInt8)
    (h : feed pending byte.toNat = some (.inl c)) :
    decodeFrom read pending (byte :: rest) = decodeFrom (c :: read) none rest := by
  cases pending <;> simp only [decodeFrom, h]

theorem decodeFrom_cons_inr {pending : Option Opening} (read : List Char) (rest : List UInt8)
    (h : feed pending byte.toNat = some (.inr o)) :
    decodeFrom read pending (byte :: rest) = decodeFrom read (some o) rest := by
  cases pending <;> simp only [decodeFrom, h]

end Feeding

/-- The bytes of a character give that character. -/
theorem decodeFrom_utf8EncodeChar (c : Char) (read : List Char) (rest : List UInt8) :
    decodeFrom read none (String.utf8EncodeChar c ++ rest) = decodeFrom (c :: read) none rest := by
  have hc : Char.ofNat c.val.toNat = c := Char.ofNat_toNat c
  have hvalid : c.val.toNat < 0xD800 ∨ 0xDFFF < c.val.toNat ∧ c.val.toNat < 0x110000 := c.valid
  have hbyte {n : Nat} (h : n < 256) : (UInt8.ofNat n).toNat = n := UInt8.toNat_ofNat_of_lt' h
  unfold String.utf8EncodeChar
  generalize c.val.toNat = v at hc hvalid ⊢
  -- The last byte of several gives what those before it leave of the code.
  have hlast : feed (some ⟨v / 64, 0, 0x80, 0xBF⟩) (UInt8.ofNat (v % 64 + 128)).toNat =
      some (.inl c) := by
    rw [hbyte (by omega), feed_last (by omega) (by omega) (by omega : _ = v), hc]
  dsimp only
  split
  · refine decodeFrom_cons_inl read rest ?_
    rw [hbyte (by omega), feed, if_pos (by omega), hc]
  · split
    · have hopen : feed none (UInt8.ofNat (v / 64 % 32 + 192)).toNat =
          some (.inr ⟨v / 64, 0, 0x80, 0xBF⟩) := by
        rw [hbyte (by omega), show v / 64 % 32 = v / 64 by omega]
        exact feed_opening (by omega) (opening?_two (by omega) (by omega))
      exact (decodeFrom_cons_inr read _ hopen).trans (decodeFrom_cons_inl read rest hlast)
    · split
      · obtain ⟨low, high, hthree, hlow, hhigh⟩ :=
          opening?_three (v := v) (by omega) (by omega) (by omega)
        have hopen : feed none (UInt8.ofNat (v / 4096 % 16 + 224)).toNat =
            some (.inr ⟨v / 4096, 1, low, high⟩) := by
          rw [hbyte (by omega), show v / 4096 % 16 = v / 4096 by omega]
          exact feed_opening (by omega) hthree
        have hmore : feed (some ⟨v / 4096, 1, low, high⟩)
            (UInt8.ofNat (v / 64 % 64 + 128)).toNat = some (.inr ⟨v / 64, 0, 0x80, 0xBF⟩) := by
          rw [hbyte (by omega)]
          exact feed_more hlow hhigh (by omega)
        exact (decodeFrom_cons_inr read _ hopen).trans
          ((decodeFrom_cons_inr read _ hmore).trans (decodeFrom_cons_inl read rest hlast))
      · obtain ⟨low, high, hfour, hlow, hhigh⟩ := opening?_four (v := v) (by omega) (by omega)
        have hopen : feed none (UInt8.ofNat (v / 262144 % 8 + 240)).toNat =
            some (.inr ⟨v / 262144, 2, low, high⟩) := by
          rw [hbyte (by omega), show v / 262144 % 8 = v / 262144 by omega]
          exact feed_opening (by omega) hfour
        have hsecond : feed (some ⟨v / 262144, 2, low, high⟩)
            (UInt8.ofNat (v / 4096 % 64 + 128)).toNat =
              some (.inr ⟨v / 4096, 1, 0x80, 0xBF⟩) := by
          rw [hbyte (by omega)]
          exact feed_more hlow hhigh (by omega)
        have hthird : feed (some ⟨v / 4096, 1, 0x80, 0xBF⟩)
            (UInt8.ofNat (v / 64 % 64 + 128)).toNat = some (.inr ⟨v / 64, 0, 0x80, 0xBF⟩) := by
          rw [hbyte (by omega)]
          exact feed_more (by omega) (by omega) (by omega)
        exact (decodeFrom_cons_inr read _ hopen).trans
          ((decodeFrom_cons_inr read _ hsecond).trans
            ((decodeFrom_cons_inr read _ hthird).trans (decodeFrom_cons_inl read rest hlast)))

/-- The bytes of characters give those characters. -/
theorem decode?_flatMap (cs : List Char) :
    decode? (cs.flatMap String.utf8EncodeChar) = some (String.ofList cs) := by
  have hfrom (read : List Char) : decodeFrom read none (cs.flatMap String.utf8EncodeChar) =
      some (read.reverse ++ cs) := by
    induction cs generalizing read with
    | nil => simp [decodeFrom]
    | cons c rest ih => simp [decodeFrom_utf8EncodeChar, ih]
  simp [decode?, hfrom]

end HubReplication.Text
