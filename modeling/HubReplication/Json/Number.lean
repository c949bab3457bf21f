/-
**Texts of numbers.**

Whole numbers are written in full.  A double is written with its shortest digits, positionally while
the point stays within sixteen digits before it or four zeros after it, else with an exponent that
has a sign.

A double is read as a significand of at most 64 bits, further digits being dropped, scaled by one
power of ten at a time; a number too large for a double keeps to the grammar and stands for none.

Main definitions:

* `JsonNumber.text` — the text of a number;
* `JsonNumber.scan` — the number at the start of a text, and the rest;
* `JsonNumber.thousandths` — a number as thousandths of one.
-/

import HubReplication.Json.Basic
import HubReplication.Decimal.Shortest

set_option relaxedAutoImplicit false
set_option autoImplicit false

namespace HubReplication

namespace JsonNumber

/-! ### Writing -/

/-- The text of an exponent: its sign and its digits. -/
def exponentText (e : Int) : String :=
  (if e < 0 then "e-" else "e+") ++ String.ofList (Nat.toDigits 10 e.natAbs)

/-- The text of a positive decimal `n * 10 ^ e`. -/
def decimalText (n : Nat) (e : Int) : String :=
  let digits := Nat.toDigits 10 n
  let point : Int := digits.length + e
  if 0 ≤ e && point ≤ 16 then
    String.ofList (digits ++ List.replicate e.toNat '0') ++ ".0"
  else if 0 < point && point ≤ 16 then
    String.ofList (digits.take point.toNat) ++ "." ++ String.ofList (digits.drop point.toNat)
  else if -5 < point && point ≤ 0 then
    "0." ++ String.ofList (List.replicate (-point).toNat '0' ++ digits)
  else
    let first := String.ofList (digits.take 1)
    let others := digits.drop 1
    let mantissa := if others.isEmpty then first else first ++ "." ++ String.ofList others
    mantissa ++ exponentText (point - 1)

/-- The text of a double. -/
def floatText (bits : UInt64) : String :=
  let negative := 0x8000000000000000 ≤ bits.toNat
  let magnitude := bits.toNat % 0x8000000000000000
  if 0x7FF0000000000000 ≤ magnitude then "null"
  else
    let text :=
      if magnitude = 0 then "0.0"
      else
        let d := Decimal.shortest magnitude.toUInt64
        decimalText d.1 d.2
    if negative then "-" ++ text else text

/-- The text of a number. -/
def text : JsonNumber → String
  | .nat n => toString n
  | .negative n => "-" ++ toString n
  | .float bits => floatText bits

/-! ### Reading -/

/-- Whether a character is a decimal digit. -/
def isDigit (c : Char) : Bool := '0' ≤ c && c ≤ '9'

/-- The value of a decimal digit. -/
def digitValue (c : Char) : Nat := c.toNat - '0'.toNat

/-- Numbers below this bound are whole-number significands. -/
def significandBound : Nat := UInt64.size

/-- Read digits into a significand while it stays within 64 bits; digits beyond are dropped.
Answers the significand, how many digits went into it, and how many were dropped. -/
def accumulate : List Char → Nat → Nat → Nat × Nat × Nat
  | [], s, used => (s, used, 0)
  | c :: rest, s, used =>
    let next := s * 10 + digitValue c
    if next < significandBound then accumulate rest next (used + 1)
    else (s, used, rest.length + 1)

/-- A power of ten up to `10 ^ 308` as a double. -/
def powerOfTen (n : Nat) : Float := Float.ofScientific 1 false n

/-- Scale a double by a power of ten; `none` when it is too large. -/
def scale : Nat → Float → Int → Option Float
  | 0, f, _ => some f
  | fuel + 1, f, e =>
    if e.natAbs ≤ 308 then
      if 0 ≤ e then
        let g := f * powerOfTen e.natAbs
        if g.isInf then none else some g
      else some (f / powerOfTen e.natAbs)
    else if f == 0.0 then some f
    else if 0 ≤ e then none
    else scale fuel (f / powerOfTen 308) (e + 308)

/-- The double of a significand, an exponent and a sign. -/
def ofParts (positive : Bool) (significand : Nat) (e : Int) : Option JsonNumber :=
  (scale 20 (Float.ofNat significand) e).map fun f =>
    .float (if positive then f else -f).toBits

/-- An exponent beyond this bound is not computed. -/
def exponentBound : Nat := 0x80000000

/-- The largest and smallest exponents a number may end up with. -/
def clampExponent (e : Int) : Int := max (-0x80000000) (min 0x7FFFFFFF e)

/-- What is read at the start of a text: a number, none where it is too large, and what follows. -/
abbrev Scanned := Option JsonNumber × List Char

/-- The exponent part at the start of a text, if one must follow. -/
def scanExponent (positive : Bool) (significand : Nat) (start : Int) (cs : List Char) :
    Option Scanned :=
  let (up, cs) := match cs with
    | '+' :: rest => (true, rest)
    | '-' :: rest => (false, rest)
    | _ => (true, cs)
  let digits := cs.takeWhile isDigit
  let rest := cs.dropWhile isDigit
  if digits.isEmpty then none
  else
    let e := digits.foldl (fun n c => n * 10 + digitValue c) 0
    if exponentBound ≤ e then
      if significand ≠ 0 && up then some (none, rest)
      else some (some (.float (if positive then (0.0 : Float) else -0.0).toBits), rest)
    else
      let e := clampExponent (if up then start + e else start - e)
      some (ofParts positive significand e, rest)

/-- What may follow the digits of a double: an exponent, or nothing. -/
def scanTail (positive : Bool) (significand : Nat) (e : Int) (cs : List Char) : Option Scanned :=
  match cs with
  | 'e' :: rest => scanExponent positive significand e rest
  | 'E' :: rest => scanExponent positive significand e rest
  | _ => some (ofParts positive significand e, cs)

/-- The fraction after a point. -/
def scanFraction (positive : Bool) (significand : Nat) (e : Int) (cs : List Char) :
    Option Scanned :=
  let digits := cs.takeWhile isDigit
  let rest := cs.dropWhile isDigit
  if digits.isEmpty then none
  else
    let (s, used, _) := accumulate digits significand 0
    scanTail positive s (e - used) rest

/-- A whole number of digits, as it is written without fraction and exponent. -/
def ofWhole (positive : Bool) (n : Nat) : JsonNumber :=
  if positive then .nat n
  else if n = 0 || 0x8000000000000000 < n then .float (-(Float.ofNat n)).toBits
  else .negative n

/-- The number at the start of a text, and what follows it. -/
def scan (cs : List Char) : Option Scanned :=
  let (positive, cs) := match cs with
    | '-' :: rest => (false, rest)
    | _ => (true, cs)
  let digits := cs.takeWhile isDigit
  let rest := cs.dropWhile isDigit
  if digits.isEmpty || (digits.head? == some '0' && 1 < digits.length) then none
  else
    let (s, _, dropped) := accumulate digits 0 0
    match rest with
    | '.' :: rest => scanFraction positive s dropped rest
    | 'e' :: rest => scanExponent positive s dropped rest
    | 'E' :: rest => scanExponent positive s dropped rest
    | _ =>
      if dropped = 0 then some (some (ofWhole positive s), rest)
      else some (ofParts positive s dropped, rest)

/-! ### Shares -/

/-- A number as thousandths of one, none where it is negative; a positive number is at least one of
them. -/
def thousandths : JsonNumber → Nat
  | .nat n => n * 1000
  | .negative _ => 0
  | .float bits =>
    let f := Float.ofBits bits
    if f > 0 then max 1 (f * 1000).toUInt64.toNat else 0

end JsonNumber

end HubReplication
