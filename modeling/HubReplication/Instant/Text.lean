/-
**Texts of instants.**

An instant is written as `year-month-dayThour:minute:secondZ`, with as many fraction digits as are
exact out of 0, 3, 6 and 9.  It is read from a date, one of `T`, `t` and a blank, a time of day with
any number of fraction digits, and an offset from universal time; blanks may stand before each
number and separator, and a number may have fewer digits than usual.

Main definitions:

* `Instant.text` — the text of an instant;
* `Instant.parse?` — the instant of a text.
-/

import HubReplication.Instant.Basic
import HubReplication.Text.Blank

set_option relaxedAutoImplicit false
set_option autoImplicit false

namespace HubReplication.Instant

open Text (isBlank)

/-! ### Writing -/

/-- A number with zeros before it up to a width. -/
def padded (width n : Nat) : String :=
  let digits := Nat.toDigits 10 n
  String.ofList (List.replicate (width - digits.length) '0' ++ digits)

/-- The text of a year: four digits, with a sign and at least four digits when it is out of that
range. -/
def yearText (year : Int) : String :=
  if 0 ≤ year ∧ year ≤ 9999 then padded 4 year.toNat
  else (if year < 0 then "-" else "+") ++ padded 4 year.natAbs

/-- The fewest fraction digits out of 0, 3, 6 and 9 that are exact. -/
def fractionText (nanos : Nat) : String :=
  if nanos = 0 then ""
  else if nanos % 1000000 = 0 then "." ++ padded 3 (nanos / 1000000)
  else if nanos % 1000 = 0 then "." ++ padded 6 (nanos / 1000)
  else "." ++ padded 9 nanos

/-- The text of an instant in universal time. -/
def text (t : Instant) : String :=
  let days := Int.fdiv t.seconds secondsPerDay
  let second := (t.seconds - days * secondsPerDay).toNat
  let (year, month, day) := civilFromDays days
  yearText year ++ "-" ++ padded 2 month ++ "-" ++ padded 2 day ++ "T" ++
    padded 2 (second / 3600) ++ ":" ++ padded 2 (second / 60 % 60) ++ ":" ++
    padded 2 (second % 60 + t.nanos / 1000000000) ++ fractionText (t.nanos % 1000000000) ++ "Z"

/-! ### Reading -/

/-- Whether a character is a decimal digit. -/
def isDigit (c : Char) : Bool := '0' ≤ c && c ≤ '9'

/-- The number of a list of digits. -/
def digitsValue (cs : List Char) : Nat :=
  cs.foldl (fun n c => n * 10 + (c.toNat - '0'.toNat)) 0

/-- A text without the blanks before it. -/
def skipBlanks (cs : List Char) : List Char := cs.dropWhile isBlank

/-- A number of at least one and at most `width` digits, and what follows it. -/
def scanNumber (width : Nat) (cs : List Char) : Option (Nat × List Char) :=
  let digits := (cs.take width).takeWhile isDigit
  if digits.isEmpty then none else some (digitsValue digits, cs.drop digits.length)

/-- A number after blanks. -/
def scanField (width : Nat) (cs : List Char) : Option (Nat × List Char) :=
  scanNumber width (skipBlanks cs)

/-- A separator after blanks. -/
def scanMark (mark : Char) (cs : List Char) : Option (List Char) :=
  match skipBlanks cs with
  | c :: rest => if c = mark then some rest else none
  | [] => none

/-- A year: four digits at most, any number of them after a sign. -/
def scanYear (cs : List Char) : Option (Int × List Char) :=
  match skipBlanks cs with
  | '-' :: rest => (scanNumber rest.length rest).map fun r => (-(r.1 : Int), r.2)
  | '+' :: rest => (scanNumber rest.length rest).map fun r => ((r.1 : Int), r.2)
  | cs => (scanNumber 4 cs).map fun r => ((r.1 : Int), r.2)

/-- The nanoseconds of a fraction after a point; digits after the ninth are dropped. -/
def scanNanos (cs : List Char) : Option (Nat × List Char) :=
  match cs with
  | '.' :: rest =>
    match scanNumber 9 rest with
    | none => none
    | some (n, after) =>
      let used := rest.length - after.length
      some (n * Nat.pow 10 (9 - used), after.dropWhile isDigit)
  | cs => some (0, cs)

/-- Seconds east of universal time, and what follows. -/
def scanOffset (cs : List Char) : Option (Int × List Char) :=
  match cs with
  | 'Z' :: rest => some (0, rest)
  | 'z' :: rest => some (0, rest)
  | u :: t :: c :: rest =>
    if (u.toUpper, t.toUpper, c.toUpper) = ('U', 'T', 'C') then some (0, rest)
    else
      let sign? : Option Int :=
        if u = '+' then some 1 else if u = '-' || u.toNat = 0x2212 then some (-1) else none
      match sign? with
      | none => none
      | some sign =>
        if isDigit t && isDigit c then
          match rest.dropWhile fun d => d = ':' || isBlank d with
          | m :: n :: rest =>
            if isDigit m && isDigit n && digitsValue [m, n] < 60 then
              let offset := sign * (digitsValue [t, c] * 3600 + digitsValue [m, n] * 60 : Nat)
              if offset.natAbs < 86400 then some (offset, rest) else none
            else none
          | _ => none
        else none
  | _ => none

/-- Days of a month. -/
def daysInMonth (year : Int) (month : Nat) : Nat :=
  if month = 2 then
    if year % 4 = 0 ∧ (year % 100 ≠ 0 ∨ year % 400 = 0) then 29 else 28
  else if month = 4 ∨ month = 6 ∨ month = 9 ∨ month = 11 then 30 else 31

/-- The instant of the parts of a text, if they are in range. -/
def ofParts? (year : Int) (month day hour minute second nanos : Nat) (offset : Int) :
    Option Instant :=
  if year < -262143 ∨ 262142 < year ∨ month < 1 ∨ 12 < month ∨ day < 1 ∨
      daysInMonth year month < day ∨ 23 < hour ∨ 59 < minute ∨ 60 < second then none
  else
    let leap := second = 60
    let seconds := daysFromCivil year month day * secondsPerDay +
      (hour * 3600 + minute * 60 + (if leap then 59 else second) : Nat) - offset
    if inRange seconds then some ⟨seconds, if leap then nanos + 1000000000 else nanos⟩ else none

/-- The instant of a text. -/
def parse? (s : String) : Option Instant := do
  let (year, cs) ← scanYear s.toList
  let cs ← scanMark '-' cs
  let (month, cs) ← scanField 2 cs
  let cs ← scanMark '-' cs
  let (day, cs) ← scanField 2 cs
  let cs ← match cs with
    | 'T' :: rest => some rest
    | 't' :: rest => some rest
    | ' ' :: rest => some rest
    | _ => none
  let (hour, cs) ← scanField 2 cs
  let cs ← scanMark ':' cs
  let (minute, cs) ← scanField 2 cs
  let cs ← scanMark ':' cs
  let (second, cs) ← scanField 2 cs
  let (nanos, cs) ← scanNanos cs
  let (offset, cs) ← scanOffset (skipBlanks cs)
  if (skipBlanks cs).isEmpty then ofParts? year month day hour minute second nanos offset
  else none

end HubReplication.Instant
