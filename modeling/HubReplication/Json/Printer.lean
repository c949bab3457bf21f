/-
**Texts of values.**

The compact text has no blanks; the indented one puts each element and member on a line of its own,
two blanks deeper than what holds it, and writes an empty array or object on one line.  Members come
in the order the value has them.

Main definitions:

* `Json.quote` — a text between quotes, with what must be escaped escaped;
* `Json.compact` — the compact text of a value;
* `Json.pretty` — the indented text of a value.
-/

import HubReplication.Json.Number

set_option relaxedAutoImplicit false
set_option autoImplicit false

namespace HubReplication.Json

/-- A hexadecimal digit in small letters. -/
def hexDigit (n : Nat) : Char :=
  if n < 10 then Char.ofNat ('0'.toNat + n) else Char.ofNat ('a'.toNat + (n - 10))

/-- How a character stands inside quotes. -/
def escapeChar (c : Char) : List Char :=
  if c = '"' then ['\\', '"']
  else if c = '\\' then ['\\', '\\']
  else if c = '\n' then ['\\', 'n']
  else if c = '\r' then ['\\', 'r']
  else if c = '\t' then ['\\', 't']
  else if c.toNat = 8 then ['\\', 'b']
  else if c.toNat = 12 then ['\\', 'f']
  else if c.toNat < 32 then ['\\', 'u', '0', '0', hexDigit (c.toNat / 16), hexDigit (c.toNat % 16)]
  else [c]

/-- Whether a text can stand between quotes as it is. -/
def isPlain (s : String) : Bool := s.all fun c => 32 ≤ c.toNat && c != '"' && c != '\\'

/-- A text between quotes. -/
def quote (s : String) : String :=
  if isPlain s then "\"" ++ s ++ "\""
  else "\"" ++ String.ofList (s.toList.flatMap escapeChar) ++ "\""

mutual

/-- The text of a value without blanks. -/
def compact : Json → String
  | .null | .unreadable => "null"
  | .bool true => "true"
  | .bool false => "false"
  | .number n => n.text
  | .string s => quote s
  | .array [] => "[]"
  | .array (e :: rest) => "[" ++ compact e ++ compactElements rest ++ "]"
  | .object [] => "\x7b\x7d"
  | .object ((name, value) :: rest) =>
    "\x7b" ++ quote name ++ ":" ++ compact value ++ compactMembers rest ++ "\x7d"

/-- The elements after the first, each after a comma. -/
def compactElements : List Json → String
  | [] => ""
  | e :: rest => "," ++ compact e ++ compactElements rest

/-- The members after the first, each after a comma. -/
def compactMembers : List (String × Json) → String
  | [] => ""
  | (name, value) :: rest =>
    "," ++ quote name ++ ":" ++ compact value ++ compactMembers rest

end

/-- A new line at a depth. -/
def indent (depth : Nat) : String := String.ofList ('\n' :: List.replicate (2 * depth) ' ')

mutual

/-- The indented text of a value at a depth. -/
def prettyAt (depth : Nat) : Json → String
  | .null | .unreadable => "null"
  | .bool true => "true"
  | .bool false => "false"
  | .number n => n.text
  | .string s => quote s
  | .array [] => "[]"
  | .array (e :: rest) =>
    "[" ++ indent (depth + 1) ++ prettyAt (depth + 1) e ++ prettyElements (depth + 1) rest ++
      indent depth ++ "]"
  | .object [] => "\x7b\x7d"
  | .object ((name, value) :: rest) =>
    "\x7b" ++ indent (depth + 1) ++ quote name ++ ": " ++ prettyAt (depth + 1) value ++
      prettyMembers (depth + 1) rest ++ indent depth ++ "\x7d"

/-- The elements after the first at a depth, each after a comma. -/
def prettyElements (depth : Nat) : List Json → String
  | [] => ""
  | e :: rest => "," ++ indent depth ++ prettyAt depth e ++ prettyElements depth rest

/-- The members after the first at a depth, each after a comma. -/
def prettyMembers (depth : Nat) : List (String × Json) → String
  | [] => ""
  | (name, value) :: rest =>
    "," ++ indent depth ++ quote name ++ ": " ++ prettyAt depth value ++
      prettyMembers depth rest

end

/-- The indented text of a value. -/
def pretty (j : Json) : String := prettyAt 0 j

end HubReplication.Json
