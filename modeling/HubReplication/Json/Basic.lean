/-
**Values of the data format.**

Documents, definitions, frames and answers are all written as JSON.  An object keeps its members in
the order in which they are written, repeated names included, so that a reader can refuse a
repetition; `Json.canonical` gives the value that a document body stands for.

A part of a text may keep to the grammar and still stand for no value, such as a number too large
for a double.  It has a place in a value, so that a reader can pass it over with all else that it
does not ask for; a document body holds none.

Main definitions:

* `JsonNumber` — a number: natural, negative whole, or double;
* `Json` — a value;
* `Json.Writable` — types whose members are written as values;
* `Json.isWhole` — whether every part of a value can be read;
* `Json.canonical` — members sorted by name, the last of equal names kept.
-/

import HubReplication.SortedMap

set_option relaxedAutoImplicit false
set_option autoImplicit false

namespace HubReplication

/-- A number of a JSON text. -/
inductive JsonNumber where
  /-- A whole number from 0 to `2 ^ 64 - 1`. -/
  | nat (n : Nat)
  /-- The whole number `-n`, from -1 down to `-2 ^ 63`. -/
  | negative (n : Nat)
  /-- A double, as its bits. -/
  | float (bits : UInt64)
deriving DecidableEq, Repr

/-- A JSON value. -/
inductive Json where
  | null
  | bool (b : Bool)
  | number (n : JsonNumber)
  | string (s : String)
  | array (elements : List Json)
  | object (members : List (String × Json))
  /-- A part that keeps to the grammar and cannot be read. -/
  | unreadable
deriving Repr

namespace Json

instance : Inhabited Json := ⟨.null⟩

/-- A whole number as a value. -/
def nat (n : Nat) : Json := .number (.nat n)

/-- A text, or null where there is none. -/
def optString : Option String → Json
  | some s => .string s
  | none => .null

/-- Types whose members are written as values. -/
class Writable (α : Type) where
  /-- The value that a member is written as. -/
  json : α → Json

instance : Writable String := ⟨.string⟩
instance : Writable Bool := ⟨.bool⟩
instance : Writable Nat := ⟨nat⟩

instance {α : Type} [Writable α] : Writable (List α) := ⟨fun l => .array (l.map Writable.json)⟩

instance {α : Type} [Writable α] : Writable (Option α) :=
  ⟨fun o => (o.map Writable.json).getD .null⟩

/-- The last value of a member. -/
def get? (name : String) : Json → Option Json
  | .object members => (members.reverse.find? (·.1 == name)).map (·.2)
  | _ => none

mutual

/-- Whether every part of a value can be read. -/
def isWhole : Json → Bool
  | .array elements => areWhole elements
  | .object members => membersWhole members
  | .unreadable => false
  | _ => true

/-- Whether every part of every element can be read. -/
def areWhole : List Json → Bool
  | [] => true
  | e :: rest => isWhole e && areWhole rest

/-- Whether every part of every member can be read. -/
def membersWhole : List (String × Json) → Bool
  | [] => true
  | (_, value) :: rest => isWhole value && membersWhole rest

end

mutual

/-- The value a text stands for: members sorted by name, of equal names the last. -/
def canonical : Json → Json
  | .array elements => .array (canonicalElements elements)
  | .object members =>
    .object ((SortedMap.ofList (canonicalMembers members) : SortedMap String Json).toList)
  | other => other

/-- Each element in canonical form. -/
def canonicalElements : List Json → List Json
  | [] => []
  | e :: rest => canonical e :: canonicalElements rest

/-- Each member in canonical form, in the order given. -/
def canonicalMembers : List (String × Json) → List (String × Json)
  | [] => []
  | (name, value) :: rest => (name, canonical value) :: canonicalMembers rest

end

end Json

end HubReplication
