/-
**Percent escapes.**

In a path or a query a percent sign and two hexadecimal digits stand for a byte; a percent sign
without two digits after it stands for itself.  In a query a plus sign stands for a blank.

Main definitions:

* `Text.unescape` — the bytes that escaped bytes stand for;
* `Text.pathText?` — the text of a part of a path;
* `Text.queryText` — the text of a part of a query;
* `Text.queryPairs` — the names and values of a query.
-/

import HubReplication.Json.Parser
import HubReplication.Text.Repair
import HubReplication.Text.Split

set_option relaxedAutoImplicit false
set_option autoImplicit false

namespace HubReplication.Text

/-- The value of a byte that is a hexadecimal digit. -/
def hexByte? (b : UInt8) : Option Nat := Json.hexValue? (Char.ofNat b.toNat)

/-- The byte of two hexadecimal digits. -/
def escapedByte? (high low : UInt8) : Option UInt8 :=
  match hexByte? high, hexByte? low with
  | some h, some l => some (UInt8.ofNat (h * 16 + l))
  | _, _ => none

/-- A percent sign as a byte. -/
def percentSign : UInt8 := 0x25

/-- The bytes that escaped bytes stand for. -/
def unescape : List UInt8 → List UInt8
  | p :: a :: b :: rest =>
    match (if p = percentSign then escapedByte? a b else none) with
    | some byte => byte :: unescape rest
    | none => p :: unescape (a :: b :: rest)
  | short => short
termination_by bytes => bytes.length

/-- The text of a part of a path, if its bytes make one. -/
def pathText? (part : List Char) : Option String :=
  String.fromUTF8? ⟨(unescape (String.ofList part).toUTF8.toList).toArray⟩

/-- The text of a part of a query. -/
def queryText (part : List Char) : String :=
  let spaced := part.map fun c => if c = '+' then ' ' else c
  repair (unescape (String.ofList spaced).toUTF8.toList)

/-- What stands before and after the first separator, if there is one. -/
def splitFirst (sep : Char) (cs : List Char) : List Char × List Char :=
  (cs.takeWhile (· != sep), (cs.dropWhile (· != sep)).drop 1)

/-- The names and values of a query, in order. -/
def queryPairs (query : String) : List (String × String) :=
  ((splitAt '&' query.toList).filter fun part => !part.isEmpty).map fun part =>
    let (name, value) := splitFirst '=' part
    (queryText name, queryText value)

end HubReplication.Text
