/-
**Stored blocks.**

What is written in stored blocks inflates to itself, as long as the limit allows its length; a
longer text is refused.  Each block is read as a whole wherever it stands, so the blocks of a text
are read one after another.

Main results:

* `Deflate.readBlocks_storedBlock` — what reading one stored block comes to;
* `Deflate.inflate_store` — stored blocks inflate to the text they hold, up to the limit.
-/

import HubReplication.Frame.Deflate

set_option relaxedAutoImplicit false
set_option autoImplicit false

namespace HubReplication.Deflate

/-! ### Numbers in bits -/

@[simp] theorem length_byteBits (b : UInt8) : (byteBits b).length = 8 := by simp [byteBits]

theorem bitsValue_byteBits (b : UInt8) : bitsValue (byteBits b) = b.toNat := by
  have h : ∀ n < 256, bitsValue ((List.range 8).map fun i => n.testBit i) = n := by
    decide +kernel
  exact h b.toNat b.toNat_lt

theorem bitsValue_append (l r : List Bool) :
    bitsValue (l ++ r) = bitsValue l + Nat.pow 2 l.length * bitsValue r := by
  induction l with
  | nil => simp [bitsValue]
  | cons b l ih =>
    have hpow : Nat.pow 2 (l.length + 1) = Nat.pow 2 l.length * 2 := rfl
    simp only [List.cons_append, bitsValue, ih, List.length_cons, hpow, Nat.mul_add,
      Nat.mul_assoc, Nat.mul_left_comm, Nat.add_assoc]

@[simp] theorem bitsOf_cons (b : UInt8) (bytes : List UInt8) :
    bitsOf (b :: bytes) = byteBits b ++ bitsOf bytes := by simp [bitsOf]

@[simp] theorem bitsOf_append (l r : List UInt8) : bitsOf (l ++ r) = bitsOf l ++ bitsOf r := by
  simp [bitsOf]

theorem length_bitsOf (bytes : List UInt8) : (bitsOf bytes).length = 8 * bytes.length := by
  induction bytes with
  | nil => rfl
  | cons b bytes ih =>
    simp only [bitsOf_cons, List.length_append, length_byteBits, ih, List.length_cons]
    omega

/-- Bits that stand at the front are taken as their number. -/
theorem takeNumber_append {width : Nat} {bits : List Bool} (h : bits.length = width)
    (rest : List Bool) : takeNumber width (bits ++ rest) = some (bitsValue bits, rest) := by
  subst h
  simp [takeNumber]

/-- A number of two bytes is taken back. -/
theorem takeNumber_twoBytes {n : Nat} (h : n ≤ storedBound) (rest : List Bool) :
    takeNumber 16 (bitsOf (twoBytes n) ++ rest) = some (n, rest) := by
  have hn : n ≤ 65535 := h
  rw [takeNumber_append (by rw [length_bitsOf]; rfl)]
  simp only [twoBytes, bitsOf, List.flatMap_cons, List.flatMap_nil, bitsValue_append,
    length_byteBits, bitsValue_byteBits, bitsValue, UInt8.toNat_ofNat',
    show Nat.pow 2 8 = 256 from rfl]
  congr 2
  omega

/-! ### One block -/

/-- The bits of bytes are read as those bytes. -/
theorem bytesOfBits_bitsOf (bytes : List UInt8) (rest : List Bool) (out : ByteArray) :
    bytesOfBits bytes.length (bitsOf bytes ++ rest) out =
      some (rest, out ++ ⟨bytes.toArray⟩) := by
  induction bytes generalizing out with
  | nil =>
    have h : out ++ ⟨#[]⟩ = out := ByteArray.append_empty
    simp [bytesOfBits, bitsOf, h]
  | cons b bytes ih =>
    have h : out.push b ++ ⟨bytes.toArray⟩ = out ++ ⟨(b :: bytes).toArray⟩ := by
      apply ByteArray.ext
      simp
    rw [List.length_cons, bytesOfBits, bitsOf_cons, List.append_assoc,
      takeNumber_append (length_byteBits b)]
    simp only [Option.bind_eq_bind, Option.bind_some, bitsValue_byteBits, UInt8.ofNat_toNat, ih, h]

/-- The body of a stored block, which starts in the middle of a byte. -/
theorem readStored_bitsOf {bytes : List UInt8} (h : bytes.length ≤ storedBound)
    (rest : List UInt8) (out : ByteArray) {pad : List Bool} (hpad : pad.length < 8) :
    readStored (pad ++ bitsOf (twoBytes bytes.length ++
      (twoBytes (storedBound - bytes.length) ++ (bytes ++ rest)))) out =
      some (bitsOf rest, out ++ ⟨bytes.toArray⟩) := by
  have hdrop (more : List UInt8) :
      (pad ++ bitsOf more).drop ((pad ++ bitsOf more).length % 8) = bitsOf more := by
    have hmod : (pad ++ bitsOf more).length % 8 = pad.length := by
      rw [List.length_append, length_bitsOf]
      omega
    rw [hmod, List.drop_left]
  have hsum : bytes.length + (storedBound - bytes.length) = 65535 := by
    simp only [storedBound] at *
    omega
  have hguard : (guard (bytes.length + (storedBound - bytes.length) = 65535) : Option Unit) =
      some () := if_pos hsum
  rw [readStored, hdrop, bitsOf_append, takeNumber_twoBytes h]
  dsimp only [Option.bind_eq_bind, Option.bind_some]
  rw [bitsOf_append, takeNumber_twoBytes (by omega)]
  dsimp only [Option.bind_some]
  rw [hguard, Option.bind_some, bitsOf_append, bytesOfBits_bitsOf]

/-- The first byte of a stored block is one bit that says whether it is the last, two bits for its
kind, and five that fill the byte. -/
theorem byteBits_last (last : Bool) :
    byteBits (if last then 1 else 0) = [last] ++ ([false, false] ++ List.replicate 5 false) := by
  cases last <;> decide

/-- What reading one stored block comes to. -/
theorem readBlocks_storedBlock {limit : Nat} (fuel : Nat) (last : Bool) {bytes : List UInt8}
    (h : bytes.length ≤ storedBound) (rest : List UInt8) {out : ByteArray}
    (hout : out.size ≤ limit) :
    readBlocks limit (fuel + 1) (bitsOf (storedBlock last bytes ++ rest)) out =
      if limit < out.size + bytes.length then .error .tooLong
      else if last then .ok (out ++ ⟨bytes.toArray⟩)
      else readBlocks limit fuel (bitsOf rest) (out ++ ⟨bytes.toArray⟩) := by
  have hsize : (out ++ (⟨bytes.toArray⟩ : ByteArray)).size = out.size + bytes.length := by
    rw [ByteArray.size_append]
    rfl
  have width_one (b : Bool) : [b].length = 1 := rfl
  have width_two : [false, false].length = 2 := rfl
  have hlast : bitsValue [last] = 1 ↔ last = true := by cases last <;> decide
  rw [readBlocks, if_neg (Nat.not_lt.2 hout), storedBlock]
  simp only [List.cons_append, List.append_assoc]
  rw [bitsOf_cons, byteBits_last, List.append_assoc, takeNumber_append (width_one last)]
  simp only [List.append_assoc]
  rw [takeNumber_append width_two]
  simp only [show bitsValue [false, false] = 0 from rfl, readBlock]
  rw [readStored_bitsOf h rest out (by simp)]
  simp only [orCorrupt, hsize, hlast]

/-! ### All blocks -/

theorem length_le_length_store (bytes : List UInt8) : bytes.length ≤ (store bytes).length := by
  fun_induction store bytes with
  | case1 bytes h =>
    simp only [storedBlock, List.length_append, List.length_cons]
    omega
  | case2 bytes h ih =>
    simp only [storedBlock, List.length_append, List.length_cons, List.length_take,
      List.length_drop] at *
    omega

/-- Stored blocks are read to their end, whatever follows them. -/
theorem readBlocks_store {limit : Nat} (bytes rest : List UInt8) (fuel : Nat)
    (hfuel : bytes.length < fuel) {out : ByteArray} (hout : out.size ≤ limit) :
    readBlocks limit fuel (bitsOf (store bytes ++ rest)) out =
      if limit < out.size + bytes.length then .error .tooLong
      else .ok (out ++ ⟨bytes.toArray⟩) := by
  fun_induction store bytes generalizing fuel out with
  | case1 bytes h =>
    obtain ⟨fuel, rfl⟩ : ∃ k, fuel = k + 1 := ⟨fuel - 1, by omega⟩
    rw [readBlocks_storedBlock fuel true h rest hout, if_pos rfl]
  | case2 bytes h ih =>
    obtain ⟨fuel, rfl⟩ : ∃ k, fuel = k + 1 := ⟨fuel - 1, by omega⟩
    have htake : (bytes.take storedBound).length = storedBound := by
      rw [List.length_take]
      omega
    have hsize : (out ++ (⟨(bytes.take storedBound).toArray⟩ : ByteArray)).size =
        out.size + storedBound := by
      rw [ByteArray.size_append]
      exact congrArg (out.size + ·) htake
    have hjoin : out ++ ⟨(bytes.take storedBound).toArray⟩ ++
        ⟨(bytes.drop storedBound).toArray⟩ = out ++ (⟨bytes.toArray⟩ : ByteArray) := by
      apply ByteArray.ext
      simp
    rw [List.append_assoc, readBlocks_storedBlock fuel false (by omega) _ hout, htake]
    by_cases hlimit : limit < out.size + storedBound
    · rw [if_pos hlimit, if_pos (by omega)]
    · rw [if_neg hlimit]
      simp only [Bool.false_eq_true, if_false]
      rw [ih fuel (by rw [List.length_drop]; simp only [storedBound] at *; omega)
        (by rw [hsize]; omega), hsize, hjoin, List.length_drop]
      simp only [show out.size + storedBound + (bytes.length - storedBound) =
        out.size + bytes.length by omega]

/-- Stored blocks inflate to the text they hold, up to the limit. -/
theorem inflate_store (limit : Nat) (bytes : List UInt8) :
    inflate limit (store bytes) =
      if limit < bytes.length then .error .tooLong else .ok ⟨bytes.toArray⟩ := by
  have hfuel : bytes.length < (bitsOf (store bytes)).length + 1 := by
    have := length_le_length_store bytes
    rw [length_bitsOf]
    omega
  have hout : ByteArray.empty.size ≤ limit := Nat.zero_le _
  have h := readBlocks_store bytes [] _ hfuel hout
  have hempty : ByteArray.empty ++ (⟨bytes.toArray⟩ : ByteArray) = ⟨bytes.toArray⟩ :=
    ByteArray.empty_append
  simpa [inflate, hempty] using h

end HubReplication.Deflate
