/-
**What a request is aimed at.**

A request names its target by a path with an optional query, by a whole URL, by the address of a
server alone, or by an asterisk.  A fragment is dropped.

Main definitions:

* `RequestTarget` — the path and the query of a request;
* `RequestTarget.parse?` — the target that a text names.
-/

import HubReplication.Text.Ascii
import HubReplication.Text.Percent

set_option relaxedAutoImplicit false
set_option autoImplicit false

namespace HubReplication

/-- The path and the query of a request, as they were written. -/
structure RequestTarget where
  path : String
  query : String
deriving DecidableEq, Repr

namespace RequestTarget

/-- Characters that a query may hold; beyond ASCII every character is let through. -/
def isQueryChar (c : Char) : Bool :=
  let n := c.toNat
  n == 0x21 || (0x24 ≤ n && n ≤ 0x3B) || n == 0x3D || 0x3F ≤ n

/-- Characters that a path may hold. -/
def isPathChar (c : Char) : Bool :=
  let n := c.toNat
  (isQueryChar c && n != 0x3F && n != 0x60) || c == '"'

/-- The longest target, in bytes. -/
def maxLength : Nat := 65534

/-- A text without its fragment. -/
def dropFragment (cs : List Char) : List Char := cs.takeWhile (· != '#')

/-- The target of a path and a query; a path that is left out is a slash. -/
def ofPath? (cs : List Char) : Option RequestTarget :=
  match Text.splitFirst '?' (dropFragment cs) with
  | (path, query) =>
    if path.all isPathChar && query.all isQueryChar then
      some ⟨if path.isEmpty then "/" else String.ofList path, String.ofList query⟩
    else none

/-- Characters of the address of a server that have no meaning of their own. -/
def isAddressChar (c : Char) : Bool := c.isAlphanum || "-._~!$&'()*+,;=".toList.contains c

/-- How many colons may stand in one part of an address. -/
def maxColons : Nat := 8

/-- What was read of the address of a server. -/
structure AddressScan where
  /-- The colons since the last at sign or closing bracket. -/
  colons : Nat
  opened : Bool
  closed : Bool
  /-- Whether a percent sign stands after the last at sign or closing bracket. -/
  percent : Bool

/-- Read one character of the address of a server. -/
def AddressScan.step? (a : AddressScan) (c : Char) : Option AddressScan :=
  if c = ':' then if a.colons < maxColons then some { a with colons := a.colons + 1 } else none
  else if c = '[' then if a.percent || a.opened then none else some { a with opened := true }
  else if c = ']' then
    if a.opened && !a.closed then some { a with colons := 0, closed := true, percent := false }
    else none
  else if c = '@' then some { a with colons := 0, percent := false }
  else if c = '%' then some { a with percent := true }
  else if isAddressChar c then some a
  else none

/-- Whether what was read is a whole address: its brackets are closed, at most one colon stands
before its port, and percent signs stand before an at sign or within brackets only. -/
def AddressScan.isWhole (a : AddressScan) : Bool :=
  a.opened == a.closed && a.colons ≤ 1 && !a.percent

/-- Whether a text is the address of a server. -/
def isAddress (cs : List Char) : Bool :=
  !cs.isEmpty && cs.getLast? != some '@' &&
    (cs.foldlM AddressScan.step? ⟨0, false, false, false⟩).any (·.isWhole)

/-- Characters of the name of a protocol. -/
def isSchemeChar (c : Char) : Bool := c.isAlphanum || c == '+' || c == '-' || c == '.'

/-- The longest name of a protocol. -/
def maxScheme : Nat := 64

/-- The name of a protocol, which may be empty, and what follows it, if a text starts with one. -/
def splitScheme? (cs : List Char) : Option (List Char × List Char) :=
  match cs.dropWhile isSchemeChar with
  | ':' :: '/' :: '/' :: rest => some (cs.takeWhile isSchemeChar, rest)
  | _ => none

/-- The target of what follows the name of a protocol. -/
def ofUrl? (cs : List Char) : Option RequestTarget :=
  let ends (c : Char) : Bool := c == '/' || c == '?' || c == '#'
  if isAddress (cs.takeWhile fun c => !ends c) then ofPath? (cs.dropWhile fun c => !ends c)
  else none

/-- The target that a text names. -/
def parse? (s : String) : Option RequestTarget :=
  if maxLength < s.utf8ByteSize then none
  else
    match s.toList with
    | ['*'] => some ⟨"*", ""⟩
    | '/' :: rest => ofPath? ('/' :: rest)
    | cs =>
      match splitScheme? cs with
      | some (scheme, rest) => if scheme.length ≤ maxScheme then ofUrl? rest else none
      | none => if isAddress cs then some ⟨"", ""⟩ else none

end RequestTarget

end HubReplication
