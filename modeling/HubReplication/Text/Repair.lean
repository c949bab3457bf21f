/-
**Text from bytes that may be damaged.**

Bytes are read as UTF-8.  A strict reader takes them only as a whole.  A repairing one puts one mark
in the place of the longest beginning of a character that does not go on, and reads on with the byte
that did not fit.

Main definitions:

* `Text.opening?` — what the first byte of a character asks for;
* `Text.feed` — what a byte gives after the beginning of a character;
* `Text.decode?` — the text of bytes that are well formed;
* `Text.repair` — the text of any bytes.

Main results:

* `Text.repair_of_decode?` — bytes that are well formed are repaired to what they stand for;
* `Text.decode?_ascii` — ASCII is read as it stands.
-/

set_option relaxedAutoImplicit false
set_option autoImplicit false

namespace HubReplication.Text

/-- A character of which some bytes are still to come. -/
structure Opening where
  /-- What its bytes give so far. -/
  code : Nat
  /-- How many bytes are to come after the next. -/
  after : Nat
  /-- The least next byte. -/
  low : Nat
  /-- The greatest next byte. -/
  high : Nat

/-- What the first byte of a character of several bytes asks for.  The bounds leave out characters
that have a shorter form, halves of surrogate pairs, and what is beyond the last character. -/
def opening? (b : Nat) : Option Opening :=
  if 0xC2 ≤ b ∧ b ≤ 0xDF then some ⟨b - 0xC0, 0, 0x80, 0xBF⟩
  else if b = 0xE0 then some ⟨0, 1, 0xA0, 0xBF⟩
  else if b = 0xED then some ⟨0xD, 1, 0x80, 0x9F⟩
  else if 0xE1 ≤ b ∧ b ≤ 0xEF then some ⟨b - 0xE0, 1, 0x80, 0xBF⟩
  else if b = 0xF0 then some ⟨0, 2, 0x90, 0xBF⟩
  else if 0xF1 ≤ b ∧ b ≤ 0xF3 then some ⟨b - 0xF0, 2, 0x80, 0xBF⟩
  else if b = 0xF4 then some ⟨4, 2, 0x80, 0x8F⟩
  else none

/-- What a byte gives: a character, the beginning of one, or nothing where it does not fit. -/
def feed (pending : Option Opening) (b : Nat) : Option (Char ⊕ Opening) :=
  match pending with
  | none => if b < 0x80 then some (.inl (Char.ofNat b)) else (opening? b).map .inr
  | some o =>
    if o.low ≤ b ∧ b ≤ o.high then
      let code := o.code * 64 + (b - 0x80)
      match o.after with
      | 0 => some (.inl (Char.ofNat code))
      | after + 1 => some (.inr ⟨code, after, 0x80, 0xBF⟩)
    else none

/-- The characters of bytes that are well formed, after some characters, newest first, and the
beginning of one. -/
def decodeFrom : List Char → Option Opening → List UInt8 → Option (List Char)
  | read, none, [] => some read.reverse
  | _, some _, [] => none
  | read, pending, b :: rest =>
    match feed pending b.toNat with
    | some (.inl c) => decodeFrom (c :: read) none rest
    | some (.inr o) => decodeFrom read (some o) rest
    | none => none

/-- The text of bytes that are well formed. -/
def decode? (bytes : List UInt8) : Option String := (decodeFrom [] none bytes).map String.ofList

/-- The mark for bytes that make no character. -/
def damaged : Char := Char.ofNat 0xFFFD

/-- The characters of any bytes, after some characters, newest first, and the beginning of one. -/
def repairFrom : List Char → Option Opening → List UInt8 → List Char
  | read, none, [] => read.reverse
  | read, some _, [] => (damaged :: read).reverse
  | read, pending, b :: rest =>
    match feed pending b.toNat with
    | some (.inl c) => repairFrom (c :: read) none rest
    | some (.inr o) => repairFrom read (some o) rest
    | none =>
      match pending.bind fun _ => feed none b.toNat with
      | some (.inl c) => repairFrom (c :: damaged :: read) none rest
      | some (.inr o) => repairFrom (damaged :: read) (some o) rest
      | none =>
        let marks := if pending.isSome then [damaged, damaged] else [damaged]
        repairFrom (marks ++ read) none rest

/-- The text of any bytes. -/
def repair (bytes : List UInt8) : String := String.ofList (repairFrom [] none bytes)

theorem repairFrom_of_decodeFrom {read : List Char} {pending : Option Opening}
    {bytes : List UInt8} {cs : List Char} (h : decodeFrom read pending bytes = some cs) :
    repairFrom read pending bytes = cs := by
  induction bytes generalizing read pending with
  | nil =>
    cases pending with
    | none => simpa [decodeFrom, repairFrom] using h
    | some o => simp [decodeFrom] at h
  | cons b rest ih =>
    rw [decodeFrom] at h
    rw [repairFrom]
    split at h <;> simp_all

/-- Bytes that are well formed are repaired to what they stand for. -/
theorem repair_of_decode? {bytes : List UInt8} {s : String} (h : decode? bytes = some s) :
    repair bytes = s := by
  obtain ⟨cs, hcs, rfl⟩ := Option.map_eq_some_iff.1 h
  rw [repair, repairFrom_of_decodeFrom hcs]

theorem decodeFrom_ascii {bytes : List UInt8} (h : ∀ b ∈ bytes, b.toNat < 0x80)
    (read : List Char) :
    decodeFrom read none bytes = some (read.reverse ++ bytes.map fun b => Char.ofNat b.toNat) := by
  induction bytes generalizing read with
  | nil => simp [decodeFrom]
  | cons b rest ih =>
    have hb : b.toNat < 0x80 := h b (by simp)
    simp [decodeFrom, feed, hb, ih fun c hc => h c (List.mem_cons_of_mem b hc)]

/-- ASCII is read as it stands. -/
theorem decode?_ascii {bytes : List UInt8} (h : ∀ b ∈ bytes, b.toNat < 0x80) :
    decode? bytes = some (String.ofList (bytes.map fun b => Char.ofNat b.toNat)) := by
  simp [decode?, decodeFrom_ascii h]

end HubReplication.Text
