/-
**Socket addresses.**

An address is four numbers with dots between them, or eight groups of hexadecimal digits in square
brackets, of which one run of zeros may be left out; a port follows after a colon.

Main definitions:

* `SocketAddress`, `SocketAddress.parse?` — an address and its port;
* `SocketAddress.isLocal` — whether every machine has the address;
* `SocketAddress.named?` — the name and the port of a text that has no address;
* `SocketAddress.canListen` — whether a listener for an address or the name of the machine starts.
-/

import HubReplication.Json.Parser
import HubReplication.Text.Ascii
import HubReplication.Text.Split

set_option relaxedAutoImplicit false
set_option autoImplicit false

namespace HubReplication

/-- An address of one of both families. -/
inductive IpAddress where
  | v4 (octets : List Nat)
  | v6 (groups : List Nat)
deriving DecidableEq

/-- An address and a port. -/
structure SocketAddress where
  address : IpAddress
  port : Nat
deriving DecidableEq

namespace SocketAddress

/-- One of four numbers: up to three digits, no zero in front. -/
def octet? (cs : List Char) : Option Nat :=
  if cs.isEmpty || 3 < cs.length || !cs.all Text.isDecimal then none
  else if 1 < cs.length && cs.head? = some '0' then none
  else Text.parseNat? 256 cs

/-- Four numbers with dots between them. -/
def octets? (cs : List Char) : Option (List Nat) :=
  let parts := Text.splitAt '.' cs
  if parts.length = 4 then parts.mapM octet? else none

/-- A group of one to four hexadecimal digits. -/
def group? (cs : List Char) : Option Nat :=
  if cs.isEmpty || 4 < cs.length then none
  else (cs.mapM Json.hexValue?).map fun digits => digits.foldl (fun n d => n * 16 + d) 0

/-- Groups with colons between them; four numbers may stand for the last two groups. -/
def groups? (cs : List Char) : Option (List Nat) :=
  if cs.isEmpty then some []
  else
    let parts := Text.splitAt ':' cs
    match parts.getLast? with
    | none => some []
    | some last =>
      if last.contains '.' then do
        let front ← parts.dropLast.mapM group?
        match ← octets? last with
        | [a, b, c, d] => return front ++ [a * 256 + b, c * 256 + d]
        | _ => none
      else parts.mapM group?

/-- The text before and after the first pair of colons. -/
def splitPair : List Char → Option (List Char × List Char)
  | ':' :: ':' :: rest => some ([], rest)
  | c :: rest => (splitPair rest).map fun p => (c :: p.1, p.2)
  | [] => none

/-- Eight groups, or fewer around a pair of colons. -/
def v6? (cs : List Char) : Option (List Nat) := do
  match splitPair cs with
  | none =>
    let groups ← groups? cs
    if groups.length = 8 then some groups else none
  | some (front, back) =>
    if front.contains '.' then none
    else
      let front ← groups? front
      let back ← groups? back
      if front.length + back.length < 8 then
        some (front ++ List.replicate (8 - front.length - back.length) 0 ++ back)
      else none

/-- A port. -/
def port? (cs : List Char) : Option Nat :=
  if cs.isEmpty || !cs.all Text.isDecimal then none else Text.parseNat? 65536 cs

/-- The address and the port of a text. -/
def parse? (s : String) : Option SocketAddress := do
  let (host, port) ← Text.splitLast ':' s.toList
  let port ← port? port
  match host with
  | '[' :: rest =>
    if rest.getLast? = some ']' then
      let address := rest.dropLast.takeWhile (· ≠ '%')
      let scope := (rest.dropLast.dropWhile (· ≠ '%')).drop 1
      if rest.dropLast.contains '%' then guard (Text.parseNat? UInt32.size scope).isSome
      return ⟨.v6 (← v6? address), port⟩
    else none
  | _ => return ⟨.v4 (← octets? host), port⟩

/-- Whether every machine has the address: the loopback, or any address at all. -/
def isLocal (a : SocketAddress) : Bool :=
  match a.address with
  | .v4 octets => octets.head? = some 127 || octets.all (· = 0)
  | .v6 groups => groups.dropLast.all (· = 0) && (groups.getLast?.getD 0) ≤ 1

/-- Why a text is not a name and a port. -/
inductive NameFault where
  | noPort
  | badPort
deriving DecidableEq, Repr

/-- The name and the port of a text; a plus sign may stand before the port. -/
def named? (s : String) : Except NameFault (List Char × Nat) :=
  match Text.splitLast ':' s.toList with
  | none => .error .noPort
  | some (name, port) =>
    match Text.parseNat? 65536 port with
    | none => .error .badPort
    | some port => .ok (name, port)

/-- Whether a name is that of the machine itself. -/
def isOwnName (name : List Char) : Bool := Text.sameName (String.ofList name) "localhost"

/-- Whether a listener starts: its address is local, or it names the machine and a port. -/
def canListen (s : String) : Bool :=
  match parse? s with
  | some a => a.isLocal
  | none =>
    match named? s with
    | .ok (name, _) => isOwnName name
    | .error _ => false

end SocketAddress

end HubReplication
