/-
**Case and prefixes of bytes.**

A character that is not ASCII is written in bytes that no ASCII character has, so folding the case
of ASCII letters and looking for an ASCII character come to the same in the bytes of a text and in
its characters.  No character starts with the bytes of another one, so a text starts with another
one where its bytes do.

Main definitions:

* `Text.encode`, `Text.bytes` — the bytes of characters, and of a text;
* `Text.asciiByte`, `Text.lowerByte` — the byte of an ASCII character, and the case of a byte;
* `Text.startsWithBytes?` — whether bytes start with others, `none` where a slice has no end.

Main results:

* `Text.asciiByte_mem_encode_iff` — bytes hold that of an ASCII character where the characters do;
* `Text.bytes_asciiLower` — folding the case byte by byte;
* `Text.bytes_prefix_iff` — prefixes of bytes are prefixes of texts;
* `Text.startsWithBytes?_bytes`, `Text.lowerBytes_beq` — names compared by their bytes.
-/

import HubReplication.Proofs.Text.Case
import HubReplication.Proofs.Text.Utf8

set_option relaxedAutoImplicit false
set_option autoImplicit false

namespace HubReplication.Text

variable {c d : Char} {b : UInt8} {s t : String}

/-! ### Bytes of a character -/

theorem toNat_byte {n : Nat} (h : n < 256) : (UInt8.ofNat n).toNat = n :=
  UInt8.toNat_ofNat_of_lt' h

theorem utf8EncodeChar_of_lt (h : c.toNat < 128) :
    String.utf8EncodeChar c = [UInt8.ofNat c.toNat] := by
  rw [String.utf8EncodeChar.eq_1]
  exact if_pos (Nat.le_of_lt_succ h)

/-- The bytes of a character that is not ASCII are above all ASCII characters. -/
theorem le_of_mem_utf8EncodeChar (h : 128 ≤ c.toNat) (hb : b ∈ String.utf8EncodeChar c) :
    128 ≤ b.toNat := by
  have hc : ¬c.val.toNat ≤ 127 := by
    change 128 ≤ c.val.toNat at h
    omega
  have htail (n : Nat) : 128 ≤ (UInt8.ofNat (n % 64 + 128)).toNat := by
    rw [toNat_byte (by omega)]
    omega
  rw [String.utf8EncodeChar.eq_1, if_neg hc] at hb
  split at hb
  · rcases List.mem_cons.1 hb with rfl | hb
    · rw [toNat_byte (by omega)]
      omega
    · exact List.mem_singleton.1 hb ▸ htail _
  · split at hb
    · rcases List.mem_cons.1 hb with rfl | hb
      · rw [toNat_byte (by omega)]
        omega
      · rcases List.mem_cons.1 hb with rfl | hb
        · exact htail _
        · exact List.mem_singleton.1 hb ▸ htail _
    · rcases List.mem_cons.1 hb with rfl | hb
      · rw [toNat_byte (by omega)]
        omega
      · rcases List.mem_cons.1 hb with rfl | hb
        · exact htail _
        · rcases List.mem_cons.1 hb with rfl | hb
          · exact htail _
          · exact List.mem_singleton.1 hb ▸ htail _

/-- The byte of an ASCII character. -/
def asciiByte (c : Char) : UInt8 := UInt8.ofNat c.toNat

/-- The byte of an ASCII character is no part of another character. -/
theorem asciiByte_mem_utf8EncodeChar_iff (hd : d.toNat < 128) :
    asciiByte d ∈ String.utf8EncodeChar c ↔ c = d := by
  unfold asciiByte
  have hbyte := toNat_byte (Nat.lt_trans hd (by decide))
  constructor
  · intro h
    rcases Nat.lt_or_ge c.toNat 128 with hc | hc
    · rw [utf8EncodeChar_of_lt hc, List.mem_singleton] at h
      rw [← Char.toNat_inj, ← hbyte, h, toNat_byte (by omega)]
    · have hlarge := le_of_mem_utf8EncodeChar hc h
      rw [hbyte] at hlarge
      omega
  · rintro rfl
    rw [utf8EncodeChar_of_lt hd]
    exact List.mem_singleton_self _

/-- The last byte of a character is that of an ASCII character only if they are the same. -/
theorem exists_last_byte (c : Char) :
    ∃ init last, String.utf8EncodeChar c = init ++ [last] ∧
      ∀ d : Char, d.toNat < 128 → (last = asciiByte d ↔ c = d) := by
  rcases List.eq_nil_or_concat (String.utf8EncodeChar c) with hnil | ⟨init, last, heq⟩
  · exact absurd hnil String.utf8EncodeChar_ne_nil
  · rw [List.concat_eq_append] at heq
    refine ⟨init, last, heq, fun d hd => ⟨?_, ?_⟩⟩
    · rintro rfl
      rw [← asciiByte_mem_utf8EncodeChar_iff hd, heq]
      exact List.mem_append_right _ (List.mem_singleton_self _)
    · rintro rfl
      rw [utf8EncodeChar_of_lt hd, ← List.nil_append [_]] at heq
      exact (List.singleton_inj.1 (List.append_inj_right' heq rfl)).symm

/-! ### Case -/

/-- A byte with the ASCII capitals made small. -/
def lowerByte (b : UInt8) : UInt8 :=
  if 65 ≤ b.toNat ∧ b.toNat ≤ 90 then UInt8.ofNat (b.toNat + 32) else b

/-- Folding the case of a character folds the case of its bytes. -/
theorem map_lowerByte_utf8EncodeChar (c : Char) :
    (String.utf8EncodeChar c).map lowerByte = String.utf8EncodeChar c.toLower := by
  have hlower := toNat_toLower c
  rcases Nat.lt_or_ge c.toNat 128 with hc | hc
  · have hbyte : (UInt8.ofNat c.toNat).toNat = c.toNat := toNat_byte (by omega)
    have hc' : c.toLower.toNat < 128 := by
      rw [hlower]
      split <;> omega
    rw [utf8EncodeChar_of_lt hc, utf8EncodeChar_of_lt hc', hlower, List.map_singleton, lowerByte,
      hbyte]
    split <;> rfl
  · have hsame : c.toLower = c := by
      rw [← Char.toNat_inj, hlower, if_neg (by omega)]
    rw [hsame]
    refine (List.map_congr_left fun b hb => ?_).trans (List.map_id _)
    have hlarge := le_of_mem_utf8EncodeChar hc hb
    rw [lowerByte, if_neg (by omega), id]

/-! ### Bytes of a text -/

/-- The bytes of characters, one after the other. -/
def encode (cs : List Char) : List UInt8 := cs.flatMap String.utf8EncodeChar

/-- The bytes of a text. -/
def bytes (s : String) : List UInt8 := s.toUTF8.toList

theorem bytes_eq (s : String) : bytes s = encode s.toList := toList_toUTF8 s

@[simp] theorem encode_append (cs ds : List Char) : encode (cs ++ ds) = encode cs ++ encode ds :=
  List.flatMap_append

theorem encode_cons (c : Char) (cs : List Char) :
    encode (c :: cs) = String.utf8EncodeChar c ++ encode cs := List.flatMap_cons

theorem encode_eq_nil_iff {cs : List Char} : encode cs = [] ↔ cs = [] := by
  cases cs with
  | nil => simp [encode]
  | cons c cs => simp [encode_cons, String.utf8EncodeChar_ne_nil]

/-- Bytes hold that of an ASCII character where the characters hold it. -/
theorem asciiByte_mem_encode_iff {cs : List Char} (hd : d.toNat < 128) :
    asciiByte d ∈ encode cs ↔ d ∈ cs := by
  simp only [encode, List.mem_flatMap, asciiByte_mem_utf8EncodeChar_iff hd, exists_eq_right]

/-- The last byte is that of an ASCII character where the last character is. -/
theorem getLast?_encode_iff {cs : List Char} (hd : d.toNat < 128) :
    (encode cs).getLast? = some (asciiByte d) ↔ cs.getLast? = some d := by
  rcases List.eq_nil_or_concat cs with rfl | ⟨front, c, rfl⟩
  · simp [encode]
  · obtain ⟨init, b, hlast, hb⟩ := exists_last_byte c
    rw [List.concat_eq_append, encode_append, encode_cons, hlast, show encode [] = [] from rfl,
      List.append_nil, ← List.append_assoc, List.getLast?_concat, List.getLast?_concat,
      Option.some_inj, Option.some_inj, hb d hd]

/-- Without an ASCII character at the end one byte is missing at the end. -/
theorem dropLast_encode {cs : List Char} (hd : d.toNat < 128) (h : cs.getLast? = some d) :
    (encode cs).dropLast = encode cs.dropLast := by
  rcases List.eq_nil_or_concat cs with rfl | ⟨front, c, rfl⟩
  · cases h
  · rw [List.concat_eq_append, List.getLast?_concat, Option.some_inj] at h
    subst h
    rw [List.concat_eq_append, encode_append, List.dropLast_concat, encode_cons,
      utf8EncodeChar_of_lt hd]
    exact List.dropLast_concat

theorem length_encode_le {cs ds : List Char} (h : cs.Sublist ds) :
    (encode cs).length ≤ (encode ds).length := by
  induction h with
  | slnil => exact Nat.le_refl _
  | cons c _ ih =>
      rw [encode_cons, List.length_append]
      omega
  | cons_cons c _ ih =>
      rw [encode_cons, encode_cons, List.length_append, List.length_append]
      omega

/-- Where characters are left out, bytes are missing. -/
theorem length_encode_eq_iff {cs ds : List Char} (h : cs.Sublist ds) :
    (encode cs).length = (encode ds).length ↔ cs = ds := by
  refine ⟨fun hlength => ?_, fun heq => by rw [heq]⟩
  induction h with
  | slnil => rfl
  | cons c hsub ih =>
      have hle := length_encode_le hsub
      have hpos : 0 < (String.utf8EncodeChar c).length :=
        List.length_pos_iff.2 String.utf8EncodeChar_ne_nil
      rw [encode_cons, List.length_append] at hlength
      omega
  | cons_cons c _ ih =>
      rw [encode_cons, encode_cons, List.length_append, List.length_append,
        Nat.add_left_cancel_iff] at hlength
      rw [ih hlength]

/-- The case of a text may be folded byte by byte. -/
theorem bytes_asciiLower (s : String) : bytes (asciiLower s) = (bytes s).map lowerByte := by
  rw [bytes_eq, bytes_eq, toList_asciiLower, encode, encode, List.map_flatMap, List.flatMap_map]
  simp only [map_lowerByte_utf8EncodeChar]

/-- A text starts with another one where its bytes do. -/
theorem bytes_prefix_iff : bytes s <+: bytes t ↔ s.toList <+: t.toList := by
  rw [bytes_eq, bytes_eq]
  constructor
  · rintro ⟨rest, hrest⟩
    refine List.isPrefix_of_utf8Encode_append_eq_utf8Encode rest.toByteArray ?_
    unfold encode at hrest
    rw [List.utf8Encode, List.utf8Encode, ← List.toByteArray_append, hrest]
  · rintro ⟨rest, hrest⟩
    rw [← hrest, encode_append]
    exact List.prefix_append _ _

theorem bytes_inj : bytes s = bytes t ↔ s = t := by
  refine ⟨fun h => ?_, fun h => h ▸ rfl⟩
  have hst : bytes s <+: bytes t := ⟨[], by rw [h, List.append_nil]⟩
  have hts : bytes t <+: bytes s := ⟨[], by rw [h, List.append_nil]⟩
  have hst := bytes_prefix_iff.1 hst
  have hts := bytes_prefix_iff.1 hts
  exact String.toList_inj.1 (hst.eq_of_length_le hts.length_le)

/-! ### Names in bytes -/

/-- The first bytes of a list, `none` if there are not so many. -/
def slice? (n : Nat) (bs : List UInt8) : Option (List UInt8) :=
  if n ≤ bs.length then some (bs.take n) else none

/-- Whether bytes start with others, up to the case of ASCII letters.  The slice is only taken where
there are bytes enough. -/
def startsWithBytes? (start bs : List UInt8) : Option Bool :=
  if start.length ≤ bs.length then
    (slice? start.length bs).map fun front => front.map lowerByte == start.map lowerByte
  else some false

/-- Names are equal where their bytes are, up to the case of ASCII letters. -/
theorem lowerBytes_beq (s t : String) :
    ((bytes s).map lowerByte == (bytes t).map lowerByte) = sameName s t := by
  rw [← bytes_asciiLower, ← bytes_asciiLower, Bool.eq_iff_iff, beq_iff_eq, bytes_inj,
    sameName_eq_true_iff]

/-- Looking at bytes, a text is found to start with another one where it does, and no slice is out
of range. -/
theorem startsWithBytes?_bytes (start s : String) :
    startsWithBytes? (bytes start) (bytes s) = some (startsWithName start s) := by
  have hname : startsWithName start s = true ↔
      (bytes start).map lowerByte <+: (bytes s).map lowerByte := by
    rw [startsWithName, List.isPrefixOf_iff_prefix, ← bytes_prefix_iff, bytes_asciiLower,
      bytes_asciiLower]
  unfold startsWithBytes? slice?
  split
  · rw [Option.map_some, Option.some_inj, Bool.eq_iff_iff, hname, beq_iff_eq, List.map_take,
      List.prefix_iff_eq_take, List.length_map, eq_comm]
  · rename_i hshort
    rw [Option.some_inj, eq_comm, Bool.eq_false_iff, ne_eq, hname]
    intro hstarts
    have hle := hstarts.length_le
    rw [List.length_map, List.length_map] at hle
    exact hshort hle

end HubReplication.Text
