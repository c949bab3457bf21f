/-
**Reading values.**

A text is read as one value with blanks around it, and nothing may follow the value.  It is scanned
byte by byte, each standing for the character of its code; only what stands between quotes is more
than ASCII.

The grammar is wider than the values.  A string may hold half of a surrogate pair or bytes that are
not well formed, a number may be too large, and arrays and objects may nest deeper than 127: each
such part is kept as unreadable, and an object with an unreadable name is so as a whole.

Main definitions:

* `Json.scanString` — the rest of a quoted text;
* `Json.passOver` — what follows a value of which only the grammar counts;
* `Json.scanValue` — the value at the start of a text, and what follows it;
* `Json.parse?`, `Json.ofBytes?` — the value of a text, and of bytes;
* `Json.parseStart?` — the value at the start of a text.
-/

import HubReplication.Json.Number
import HubReplication.Text.Repair

set_option relaxedAutoImplicit false
set_option autoImplicit false

namespace HubReplication.Json

/-- Blanks between tokens. -/
def isSpace (c : Char) : Bool := c == ' ' || c == '\n' || c == '\t' || c == '\r'

/-- A text without the blanks before it. -/
def skipSpace (cs : List Char) : List Char := cs.dropWhile isSpace

/-! ### Quoted texts -/

/-- The value of a hexadecimal digit of either case. -/
def hexValue? (c : Char) : Option Nat :=
  if '0' ≤ c ∧ c ≤ '9' then some (c.toNat - '0'.toNat)
  else if 'a' ≤ c ∧ c ≤ 'f' then some (c.toNat - 'a'.toNat + 10)
  else if 'A' ≤ c ∧ c ≤ 'F' then some (c.toNat - 'A'.toNat + 10)
  else none

/-- The code unit of four hexadecimal digits. -/
def codeUnit? (a b c d : Char) : Option Nat := do
  let a ← hexValue? a
  let b ← hexValue? b
  let c ← hexValue? c
  let d ← hexValue? d
  return ((a * 16 + b) * 16 + c) * 16 + d

/-- The character of a one-letter escape. -/
def escaped? : Char → Option Char
  | '"' => some '"'
  | '\\' => some '\\'
  | '/' => some '/'
  | 'b' => some (Char.ofNat 8)
  | 'f' => some (Char.ofNat 12)
  | 'n' => some '\n'
  | 'r' => some '\r'
  | 't' => some '\t'
  | _ => none

/-- The bytes of a quoted text so far, newest first; none once it cannot be read. -/
abbrev QuotedBytes := Option (List UInt8)

/-- The bytes of a quoted text and one more character. -/
def QuotedBytes.push (read : QuotedBytes) (c : Char) : QuotedBytes :=
  read.map fun bytes => (String.utf8EncodeChar c).reverse ++ bytes

/-- The text that the bytes are, if they are well formed. -/
def QuotedBytes.text? (read : QuotedBytes) : Option String :=
  read.bind fun bytes => Text.decode? bytes.reverse

/-- The rest of a quoted text after some bytes: the text, none where it cannot be read, and what
follows the closing quote. -/
def scanString : QuotedBytes → List Char → Option (Option String × List Char)
  | read, '"' :: rest => some (read.text?, rest)
  | read, '\\' :: 'u' :: a :: b :: c :: d :: rest =>
    match codeUnit? a b c d with
    | none => none
    | some high =>
      if 0xDC00 ≤ high ∧ high ≤ 0xDFFF then scanString none rest
      else if 0xD800 ≤ high ∧ high ≤ 0xDBFF then
        match rest with
        | '\\' :: 'u' :: a :: b :: c :: d :: rest =>
          match codeUnit? a b c d with
          | none => none
          | some low =>
            if 0xDC00 ≤ low ∧ low ≤ 0xDFFF then
              let code := 0x10000 + (high - 0xD800) * 0x400 + (low - 0xDC00)
              scanString (read.push (Char.ofNat code)) rest
            else scanString none rest
        | rest => scanString none rest
      else scanString (read.push (Char.ofNat high)) rest
  | read, '\\' :: c :: rest =>
    match escaped? c with
    | some e => scanString (read.push e) rest
    | none => none
  | read, c :: rest =>
    if c.toNat < 32 then none
    else scanString (read.map fun bytes => UInt8.ofNat c.toNat :: bytes) rest
  | _, [] => none

/-! ### Values passed over -/

/-- A value without parts at the start of a text, and what follows it. -/
def scanPlain : List Char → Option (Json × List Char)
  | 'n' :: 'u' :: 'l' :: 'l' :: rest => some (.null, rest)
  | 't' :: 'r' :: 'u' :: 'e' :: rest => some (.bool true, rest)
  | 'f' :: 'a' :: 'l' :: 's' :: 'e' :: rest => some (.bool false, rest)
  | '"' :: rest => (scanString (some []) rest).map fun r => (r.1.elim .unreadable .string, r.2)
  | rest => (JsonNumber.scan rest).map fun r => (r.1.elim .unreadable .number, r.2)

/-- What must come next in a text of which only the grammar counts. -/
inductive Due where
  | value
  /-- The name of a member. -/
  | name
  /-- What stands after a value. -/
  | close

/-- What follows a value of which only the grammar counts.  The closing brackets of what is still
open come innermost first. -/
def passOver : Nat → Due → List Char → List Char → Option (List Char)
  | 0, _, _, _ => none
  | _ + 1, .close, [], cs => some cs
  | fuel + 1, .close, bracket :: outer, cs =>
    match skipSpace cs with
    | ',' :: rest => passOver fuel (if bracket = ']' then .value else .name) (bracket :: outer) rest
    | c :: rest => if c = bracket then passOver fuel .close outer rest else none
    | [] => none
  | fuel + 1, .name, brackets, cs =>
    match skipSpace cs with
    | '"' :: rest =>
      match (scanString none rest).map fun r => skipSpace r.2 with
      | some (':' :: rest) => passOver fuel .value brackets rest
      | _ => none
    | _ => none
  | fuel + 1, .value, brackets, cs =>
    match skipSpace cs with
    | '[' :: rest =>
      match skipSpace rest with
      | ']' :: rest => passOver fuel .close brackets rest
      | rest => passOver fuel .value (']' :: brackets) rest
    | '\x7b' :: rest =>
      match skipSpace rest with
      | '\x7d' :: rest => passOver fuel .close brackets rest
      | rest => passOver fuel .name ('\x7d' :: brackets) rest
    | rest =>
      match scanPlain rest with
      | some (_, rest) => passOver fuel .close brackets rest
      | none => none

/-! ### Values -/

/-- The value of members; none of it can be read where a name cannot. -/
def ofMembers (members : List (Option String × Json)) : Json :=
  match members.mapM fun (name, value) => name.map (·, value) with
  | some members => .object members
  | none => .unreadable

mutual

/-- The value at the start of a text, and what follows it.  The first number bounds the work, the
second the depth still allowed. -/
def scanValue : Nat → Nat → List Char → Option (Json × List Char)
  | 0, _, _ => none
  | fuel + 1, depth, cs =>
    match skipSpace cs with
    | '[' :: rest =>
      if depth ≤ 1 then (passOver fuel .value [] ('[' :: rest)).map (.unreadable, ·)
      else
        match skipSpace rest with
        | ']' :: rest => some (.array [], rest)
        | rest => (scanElements fuel (depth - 1) [] rest).map fun r => (.array r.1, r.2)
    | '\x7b' :: rest =>
      if depth ≤ 1 then (passOver fuel .value [] ('\x7b' :: rest)).map (.unreadable, ·)
      else
        match skipSpace rest with
        | '\x7d' :: rest => some (.object [], rest)
        | rest => (scanMembers fuel (depth - 1) [] rest).map fun r => (ofMembers r.1, r.2)
    | rest => scanPlain rest

/-- The elements of an array up to its closing bracket. -/
def scanElements : Nat → Nat → List Json → List Char → Option (List Json × List Char)
  | 0, _, _, _ => none
  | fuel + 1, depth, read, cs =>
    match scanValue fuel depth cs with
    | none => none
    | some (e, rest) =>
      match skipSpace rest with
      | ',' :: rest => scanElements fuel depth (e :: read) rest
      | ']' :: rest => some ((e :: read).reverse, rest)
      | _ => none

/-- The members of an object up to its closing brace. -/
def scanMembers : Nat → Nat → List (Option String × Json) → List Char →
    Option (List (Option String × Json) × List Char)
  | 0, _, _, _ => none
  | fuel + 1, depth, read, cs =>
    match skipSpace cs with
    | '"' :: rest =>
      match scanString (some []) rest with
      | none => none
      | some (name, rest) =>
        match skipSpace rest with
        | ':' :: rest =>
          match scanValue fuel depth rest with
          | none => none
          | some (value, rest) =>
            match skipSpace rest with
            | ',' :: rest => scanMembers fuel depth ((name, value) :: read) rest
            | '\x7d' :: rest => some (((name, value) :: read).reverse, rest)
            | _ => none
        | _ => none
    | _ => none

end

/-- How deep arrays and objects may nest, plus one. -/
def depthLimit : Nat := 128

/-- The value at the start of bytes, and what follows it. -/
def scan? (bytes : List UInt8) : Option (Json × List Char) :=
  let cs := bytes.map fun b => Char.ofNat b.toNat
  scanValue (2 * cs.length + 2) depthLimit cs

/-- The value that bytes consist of. -/
def ofBytes? (bytes : List UInt8) : Option Json :=
  match scan? bytes with
  | some (j, rest) => if (skipSpace rest).isEmpty then some j else none
  | none => none

/-- The value a text consists of. -/
def parse? (s : String) : Option Json := ofBytes? s.toUTF8.toList

/-- The value a text starts with, whatever follows it. -/
def parseStart? (s : String) : Option Json := (scan? s.toUTF8.toList).map (·.1)

end HubReplication.Json
