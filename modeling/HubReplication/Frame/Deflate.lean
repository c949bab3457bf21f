/-
**The deflate format.**

A deflated text is a sequence of blocks of bits.  A block is stored as it is, or written in a prefix
code that stands for bytes and for copies of earlier output.  Writing stores every block; reading
understands all of them.

A prefix code has a symbol for every sequence of bits, unless it has no symbol at all, or one whose
word is a single bit; what is no word of such a code cannot be read.  Before the first byte of a
text lie zeros, which may be copied.

Main definitions:

* `Deflate.CodeTree`, `Deflate.codeTree?` — the prefix code of a list of code lengths;
* `Deflate.store` — write a text in stored blocks;
* `Deflate.inflate` — read a text, up to a limit on its length.
-/

set_option relaxedAutoImplicit false
set_option autoImplicit false

namespace HubReplication.Deflate

/-! ### Bits -/

/-- The bits of a byte, the lowest first. -/
def byteBits (b : UInt8) : List Bool := (List.range 8).map fun i => b.toNat.testBit i

/-- The bits of a text. -/
def bitsOf (bytes : List UInt8) : List Bool := bytes.flatMap byteBits

/-- The number that bits stand for, the lowest first. -/
def bitsValue : List Bool → Nat
  | [] => 0
  | b :: rest => b.toNat + 2 * bitsValue rest

/-- The number of the next bits. -/
def takeNumber (width : Nat) (bits : List Bool) : Option (Nat × List Bool) :=
  let taken := bits.take width
  if taken.length = width then some (bitsValue taken, bits.drop width) else none

/-! ### Prefix codes -/

/-- A prefix code: bits lead from the root to a symbol. -/
inductive CodeTree where
  | absent
  | symbol (s : Nat)
  | fork (zero one : CodeTree)

namespace CodeTree

/-- The code with one more word; `none` when the word is taken or runs through another. -/
def add? (s : Nat) : List Bool → CodeTree → Option CodeTree
  | [], .absent => some (.symbol s)
  | [], _ => none
  | false :: word, .absent => (add? s word .absent).map fun t => .fork t .absent
  | true :: word, .absent => (add? s word .absent).map fun t => .fork .absent t
  | _ :: _, .symbol _ => none
  | false :: word, .fork zero one => (add? s word zero).map fun t => .fork t one
  | true :: word, .fork zero one => (add? s word one).map fun t => .fork zero t

/-- Read one symbol. -/
def read : CodeTree → List Bool → Option (Nat × List Bool)
  | .absent, _ => none
  | .symbol s, bits => some (s, bits)
  | .fork _ _, [] => none
  | .fork zero _, false :: rest => zero.read rest
  | .fork _ one, true :: rest => one.read rest

end CodeTree

/-- The bits of a code word, the highest first. -/
def wordBits (length code : Nat) : List Bool :=
  (List.range length).reverse.map fun i => code.testBit i

/-- The first code of each length, counted up from length one: words of one length follow each
other, and longer words follow shorter ones. -/
def firstCodes (lengths : List Nat) : Nat → Nat → Nat → List Nat
  | 0, _, _ => []
  | more + 1, length, code =>
    code :: firstCodes lengths more (length + 1) (2 * (code + lengths.count length))

/-- Add the words of all symbols, given the next code of each length. -/
def addWords : List (Nat × Nat) → List Nat → CodeTree → Option CodeTree
  | [], _, t => some t
  | (_, 0) :: rest, next, t => addWords rest next t
  | (s, length + 1) :: rest, next, t => do
    let code ← next[length]?
    guard (code < 1 <<< (length + 1))
    let t' ← t.add? s (wordBits (length + 1) code)
    addWords rest (next.set length (code + 1)) t'

/-- Whether the words of the lengths given lead everywhere and run through no other. -/
def isComplete (lengths : List Nat) : Bool :=
  (lengths.filter (· ≠ 0)).foldl (fun taken length => taken + 1 <<< (15 - length)) 0 = 1 <<< 15

/-- The code of the words of the lengths given; a symbol of length zero has no word. -/
def fullTree? (lengths : List Nat) : Option CodeTree :=
  if isComplete lengths then
    addWords (lengths.zipIdx.map fun p => (p.2, p.1)) (firstCodes lengths 15 1 0) .absent
  else none

/-- The prefix code of symbols whose words have the lengths given.  It must be complete, unless it
has no symbol, or one whose word is a single bit. -/
def codeTree? (lengths : List Nat) : Option CodeTree :=
  match lengths.zipIdx.filter (·.1 ≠ 0) with
  | [] => some .absent
  | [(1, s)] => some (.fork (.symbol s) .absent)
  | _ => fullTree? lengths

/-! ### Tables of the format -/

/-- The shortest copy of each length symbol, from 257 on, and how many bits are added to it. -/
def lengthTable : List (Nat × Nat) := [
  (3, 0), (4, 0), (5, 0), (6, 0), (7, 0), (8, 0), (9, 0), (10, 0), (11, 1), (13, 1), (15, 1),
  (17, 1), (19, 2), (23, 2), (27, 2), (31, 2), (35, 3), (43, 3), (51, 3), (59, 3), (67, 4),
  (83, 4), (99, 4), (115, 4), (131, 5), (163, 5), (195, 5), (227, 5), (258, 0)]

/-- The shortest distance of each distance symbol, and how many bits are added to it. -/
def distanceTable : List (Nat × Nat) := [
  (1, 0), (2, 0), (3, 0), (4, 0), (5, 1), (7, 1), (9, 2), (13, 2), (17, 3), (25, 3), (33, 4),
  (49, 4), (65, 5), (97, 5), (129, 6), (193, 6), (257, 7), (385, 7), (513, 8), (769, 8),
  (1025, 9), (1537, 9), (2049, 10), (3073, 10), (4097, 11), (6145, 11), (8193, 12), (12289, 12),
  (16385, 13), (24577, 13)]

/-- The order in which the lengths of the code of code lengths are written. -/
def lengthOrder : List Nat :=
  [16, 17, 18, 0, 8, 7, 9, 6, 10, 5, 11, 4, 12, 3, 13, 2, 14, 1, 15]

/-- The lengths of the fixed code of bytes and copies. -/
def fixedLengths : List Nat :=
  List.replicate 144 8 ++ List.replicate 112 9 ++ List.replicate 24 7 ++ List.replicate 8 8

/-- The lengths of the fixed code of distances. -/
def fixedDistances : List Nat := List.replicate 32 5

/-- How many symbols the code of bytes and copies has at most. -/
def literalBound : Nat := 286

/-- How many symbols the code of distances has at most. -/
def distanceBound : Nat := 30

/-! ### Reading -/

/-- Why a deflated text cannot be read. -/
inductive Fault where
  | corrupt
  | tooLong
deriving DecidableEq, Repr

/-- Append a copy of what was written some distance ago, which may overlap what is appended; before
all that was written lie zeros. -/
def copyBack : Nat → Nat → ByteArray → ByteArray
  | 0, _, out => out
  | n + 1, distance, out =>
    copyBack n distance
      (out.push (if distance ≤ out.size then out[out.size - distance]?.getD 0 else 0))

/-- The number that a table and its added bits stand for. -/
def takeExtended (table : List (Nat × Nat)) (s : Nat) (bits : List Bool) :
    Option (Nat × List Bool) := do
  let (least, width) ← table[s]?
  let (extra, rest) ← takeNumber width bits
  return (least + extra, rest)

/-- Read the symbols of a block up to its end mark. -/
def readSymbols (limit : Nat) (literals distances : CodeTree) :
    Nat → List Bool → ByteArray → Except Fault (List Bool × ByteArray)
  | 0, _, _ => .error .corrupt
  | fuel + 1, bits, out =>
    if limit < out.size then .error .tooLong
    else
      match literals.read bits with
      | none => .error .corrupt
      | some (s, rest) =>
        if s < 256 then readSymbols limit literals distances fuel rest (out.push (UInt8.ofNat s))
        else if s = 256 then .ok (rest, out)
        else
          let copied := do
            let (length, rest) ← takeExtended lengthTable (s - 257) rest
            let (d, rest) ← distances.read rest
            let (distance, rest) ← takeExtended distanceTable d rest
            return (rest, copyBack length distance out)
          match copied with
          | none => .error .corrupt
          | some (rest, out) => readSymbols limit literals distances fuel rest out

/-- Read code lengths; marks repeat the last length, or zero. -/
def readLengths (code : CodeTree) (count : Nat) :
    Nat → List Bool → List Nat → Option (List Nat × List Bool)
  | 0, _, _ => none
  | fuel + 1, bits, lengths =>
    if lengths.length = count then some (lengths.reverse, bits)
    else if count < lengths.length then none
    else do
      let (s, rest) ← code.read bits
      if s < 16 then readLengths code count fuel rest (s :: lengths)
      else if s = 16 then
        let last ← lengths.head?
        let (n, rest) ← takeNumber 2 rest
        readLengths code count fuel rest (List.replicate (n + 3) last ++ lengths)
      else if s = 17 then
        let (n, rest) ← takeNumber 3 rest
        readLengths code count fuel rest (List.replicate (n + 3) 0 ++ lengths)
      else
        let (n, rest) ← takeNumber 7 rest
        readLengths code count fuel rest (List.replicate (n + 11) 0 ++ lengths)

/-- Read several numbers of three bits. -/
def takeTriples : Nat → List Bool → Option (List Nat × List Bool)
  | 0, bits => some ([], bits)
  | n + 1, bits => do
    let (v, rest) ← takeNumber 3 bits
    let (more, rest) ← takeTriples n rest
    return (v :: more, rest)

/-- Read the codes that a block brings with it. -/
def readCodes (bits : List Bool) : Option (CodeTree × CodeTree × List Bool) := do
  let (l, bits) ← takeNumber 5 bits
  let (d, bits) ← takeNumber 5 bits
  let (c, bits) ← takeNumber 4 bits
  guard (l + 257 ≤ literalBound && d + 1 ≤ distanceBound)
  let (triples, bits) ← takeTriples (c + 4) bits
  let order := lengthOrder.zip triples
  let lengths := (List.range 19).map fun s => ((order.find? (·.1 == s)).map (·.2)).getD 0
  let code ← fullTree? lengths
  let (all, bits) ← readLengths code (l + 257 + (d + 1)) (bits.length + 1) bits []
  let literals ← codeTree? (all.take (l + 257))
  let distances ← codeTree? (all.drop (l + 257))
  return (literals, distances, bits)

/-- The bytes of whole groups of eight bits. -/
def bytesOfBits : Nat → List Bool → ByteArray → Option (List Bool × ByteArray)
  | 0, bits, out => some (bits, out)
  | n + 1, bits, out => do
    let (b, rest) ← takeNumber 8 bits
    bytesOfBits n rest (out.push (UInt8.ofNat b))

/-- Read a stored block, which starts at a whole byte. -/
def readStored (bits : List Bool) (out : ByteArray) : Option (List Bool × ByteArray) := do
  let bits := bits.drop (bits.length % 8)
  let (length, bits) ← takeNumber 16 bits
  let (check, bits) ← takeNumber 16 bits
  guard (length + check = 65535)
  bytesOfBits length bits out

/-- What a fault in the bits comes to. -/
def orCorrupt {α : Type} : Option α → Except Fault α
  | some a => .ok a
  | none => .error .corrupt

/-- Read one block after its header. -/
def readBlock (limit kind : Nat) (bits : List Bool) (out : ByteArray) :
    Except Fault (List Bool × ByteArray) :=
  match kind with
  | 0 => orCorrupt (readStored bits out)
  | 1 => do
    let literals ← orCorrupt (codeTree? fixedLengths)
    let distances ← orCorrupt (codeTree? fixedDistances)
    readSymbols limit literals distances (bits.length + 1) bits out
  | 2 => do
    let (literals, distances, bits) ← orCorrupt (readCodes bits)
    readSymbols limit literals distances (bits.length + 1) bits out
  | _ => .error .corrupt

/-- Read blocks up to the last; what follows it is not looked at. -/
def readBlocks (limit : Nat) : Nat → List Bool → ByteArray → Except Fault ByteArray
  | 0, _, _ => .error .corrupt
  | fuel + 1, bits, out =>
    if limit < out.size then .error .tooLong
    else
      match takeNumber 1 bits with
      | none => .error .corrupt
      | some (last, bits) =>
        match takeNumber 2 bits with
        | none => .error .corrupt
        | some (kind, bits) =>
          match readBlock limit kind bits out with
          | .error fault => .error fault
          | .ok (bits, out) =>
            if limit < out.size then .error .tooLong
            else if last = 1 then .ok out
            else readBlocks limit fuel bits out

/-- Read a deflated text of at most `limit` bytes. -/
def inflate (limit : Nat) (bytes : List UInt8) : Except Fault ByteArray :=
  let bits := bitsOf bytes
  readBlocks limit (bits.length + 1) bits .empty

/-! ### Writing -/

/-- How many bytes a stored block holds at most. -/
def storedBound : Nat := 65535

/-- A number of two bytes, the lower first. -/
def twoBytes (n : Nat) : List UInt8 := [UInt8.ofNat (n % 256), UInt8.ofNat (n / 256)]

/-- A stored block. -/
def storedBlock (last : Bool) (bytes : List UInt8) : List UInt8 :=
  (if last then 1 else 0) :: twoBytes bytes.length ++ twoBytes (storedBound - bytes.length) ++ bytes

/-- Write a text in stored blocks. -/
def store (bytes : List UInt8) : List UInt8 :=
  if bytes.length ≤ storedBound then storedBlock true bytes
  else storedBlock false (bytes.take storedBound) ++ store (bytes.drop storedBound)
termination_by bytes.length
decreasing_by simp only [List.length_drop, storedBound] at *; omega

end HubReplication.Deflate
