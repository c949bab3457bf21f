/-
**Directions of replication.**

A hub and a sink replicate in a set of directions: hub to sink, sink to hub.  The set is kept as
flags, and flags without a name are kept as well.

Main definitions:

* `Mode` — a set of directions;
* `Mode.contains`, `Mode.isEmpty` — membership;
* `Mode.text`, `Mode.describe` — the names of the directions, as written and as shown in messages;
* `Mode.parse?` — the set that names stand for.
-/

import HubReplication.Json.Decode
import HubReplication.Json.Parser
import HubReplication.Text.Blank
import HubReplication.Text.Split

set_option relaxedAutoImplicit false
set_option autoImplicit false

namespace HubReplication

/-- A set of directions, as flags. -/
structure Mode where
  flags : UInt8
deriving DecidableEq, Repr

namespace Mode

/-- The hub pushes its documents to the sink. -/
def hubToSink : Mode := ⟨1⟩

/-- The sink pushes its documents to the hub. -/
def sinkToHub : Mode := ⟨2⟩

/-- No direction. -/
def none : Mode := ⟨0⟩

instance : Inhabited Mode := ⟨hubToSink⟩

/-- Whether there is no direction. -/
def isEmpty (m : Mode) : Bool := m.flags == 0

/-- Whether every direction of another set is in this one. -/
def contains (m other : Mode) : Bool := m.flags &&& other.flags == other.flags

/-- The directions of either set. -/
def union (a b : Mode) : Mode := ⟨a.flags ||| b.flags⟩

/-! ### Writing -/

/-- A number in small hexadecimal digits. -/
def hexText (n : Nat) : String := "0x" ++ String.ofList (Nat.toDigits 16 n)

/-- The names of the directions, and the flags that have no name. -/
def names (m : Mode) : List String :=
  (if m.contains hubToSink then ["HUB_TO_SINK"] else []) ++
  (if m.contains sinkToHub then ["SINK_TO_HUB"] else []) ++
  (if m.flags &&& 0xFC == 0 then [] else [hexText (m.flags &&& 0xFC).toNat])

/-- The directions, with bars between them. -/
def text (m : Mode) : String := String.intercalate " | " m.names

/-- The directions as a message shows them. -/
def describe (m : Mode) : String :=
  "ReplicationMode(" ++ (if m.isEmpty then "0x0" else m.text) ++ ")"

/-! ### Reading -/

/-- A hexadecimal number below a bound; a plus sign is allowed before it. -/
def parseHex? (bound : Nat) (cs : List Char) : Option Nat :=
  let digits := match cs with
    | '+' :: rest => rest
    | _ => cs
  if digits.isEmpty then Option.none
  else
    match digits.mapM Json.hexValue? with
    | Option.none => Option.none
    | some values =>
      let n := values.foldl (fun n d => n * 16 + d) 0
      if n < bound then some n else Option.none

/-- The directions of one part between bars. -/
def parsePart? (part : List Char) : Option Mode :=
  match part with
  | '0' :: 'x' :: digits => (parseHex? 256 digits).map fun n => ⟨UInt8.ofNat n⟩
  | _ =>
    if part = "HUB_TO_SINK".toList then some hubToSink
    else if part = "SINK_TO_HUB".toList then some sinkToHub
    else Option.none

/-- The directions of a text: names and hexadecimal numbers between bars, or nothing at all. -/
def parse? (s : String) : Option Mode :=
  if Text.isBlankText s then some none
  else
    (((Text.splitAt '|' s.toList).map Text.trimChars).mapM parsePart?).map fun modes =>
      modes.foldl union none

/-- The directions as a value. -/
def toJson (m : Mode) : Json := .string m.text

/-- The directions of a value. -/
def ofJson? (j : Json) : Option Mode := j.asText.bind parse?

theorem contains_self (m : Mode) : m.contains m = true := by simp [contains]

instance : Json.Readable Mode := ⟨ofJson?⟩

end Mode

end HubReplication
