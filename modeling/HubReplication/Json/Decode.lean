/-
**Typed values in JSON.**

A typed value is read from a JSON value or not at all.  A record is an object that names each of its
fields at most once, members of other names being passed over, or an array of its fields in order.
A variant without data is a string, or an object of its name and null; one with data names itself
under a tag.

A value may have to be set aside before it is known what to read it as.  Then every part of it must
be readable, and variants within it are read more freely: an empty object may stand for null, and
the place of a variant under a tag for its name.

Main definitions:

* `Json.asText`, `Json.asBool`, `Json.asNat`, `Json.asSigned`, `Json.asListOf`, `Json.asSetOf`,
  `Json.asMapOf` — plain values;
* `Json.Readable` — types whose members are read from values;
* `Json.record?` — the fields of a record;
* `Json.required`, `Json.defaulted`, `Json.nullable` — one field;
* `Json.Reading` — whether a value is read as it comes or was set aside;
* `Json.variant?`, `Json.tagged?`, `Json.adjacent?` — names of variants.
-/

import HubReplication.Json.Basic

set_option relaxedAutoImplicit false
set_option autoImplicit false

namespace HubReplication.Json

variable {α : Type}

/-! ### Plain values -/

/-- A text. -/
def asText : Json → Option String
  | .string s => some s
  | _ => none

/-- A truth value. -/
def asBool : Json → Option Bool
  | .bool b => some b
  | _ => none

/-- A whole number below a bound. -/
def asNat (bound : Nat) : Json → Option Nat
  | .number (.nat n) => if n < bound then some n else none
  | _ => none

/-- A whole number of 64 bits. -/
def asWord (j : Json) : Option Nat := asNat UInt64.size j

/-- A whole number of 64 bits, one of them for the sign. -/
def asSigned : Json → Option Int
  | .number (.nat n) => if n < 0x8000000000000000 then some n else none
  | .number (.negative n) => some (-(n : Int))
  | _ => none

/-- A list of values of one type. -/
def asListOf (read : Json → Option α) : Json → Option (List α)
  | .array elements => elements.mapM read
  | _ => none

/-- A value that may be null. -/
def asOptional (read : Json → Option α) : Json → Option (Option α)
  | .null => some none
  | j => (read j).map some

/-- A map from texts; of equal names the last counts. -/
def asMapOf (read : Json → Option α) : Json → Option (SortedMap String α)
  | .object members => do
    let bindings ← members.mapM fun m => (read m.2).map fun v => (m.1, v)
    return SortedMap.ofList bindings
  | _ => none

/-- Types whose members are read from values. -/
class Readable (α : Type) where
  /-- The member that a value is read as, if any. -/
  ofJson? : Json → Option α

instance : Readable String := ⟨asText⟩
instance : Readable Bool := ⟨asBool⟩
instance : Readable Nat := ⟨asWord⟩

instance [Readable α] : Readable (List α) := ⟨asListOf Readable.ofJson?⟩

/-! ### Records -/

/-- The member of a name, when it is named at most once. -/
def member? (members : List (String × Json)) (name : String) : Option (Option Json) :=
  match members.filter (·.1 == name) with
  | [] => some none
  | [m] => some (some m.2)
  | _ => none

/-- The fields of a record, in the order of their names; a missing one is `none`. -/
def record? (names : List String) : Json → Option (List (Option Json))
  | .object members => names.mapM (member? members)
  | .array elements =>
    if elements.length ≤ names.length then
      some (elements.map some ++ List.replicate (names.length - elements.length) none)
    else none
  | _ => none

/-- A field that must be there. -/
def required (read : Json → Option α) (field : Option Json) : Option α := field.bind read

/-- A field with a value for when it is missing. -/
def defaulted (read : Json → Option α) (default : α) : Option Json → Option α
  | none => some default
  | some j => read j

/-- A field that may be missing or null. -/
def nullable (read : Json → Option α) : Option Json → Option (Option α)
  | none => some none
  | some j => asOptional read j

/-- The fields of a record that is an object, in the order of their names. -/
def fields? (names : List String) : Json → Option (List (Option Json))
  | .object members => names.mapM (member? members)
  | _ => none

/-! ### Variants -/

/-- How a value is read. -/
inductive Reading where
  /-- As it comes. -/
  | direct
  /-- After it was set aside. -/
  | setAside
deriving DecidableEq, Repr

/-- Whether a value stands for no data. -/
def Reading.isVoid : Reading → Json → Bool
  | _, .null => true
  | .setAside, .object [] => true
  | _, _ => false

/-- The name of a variant without data. -/
def variant? (reading : Reading) : Json → Option String
  | .string s => some s
  | .object [(name, data)] => if reading.isVoid data then some name else none
  | _ => none

/-- The name of a variant under a tag. -/
def tag? (reading : Reading) (names : List String) : Json → Option String
  | .string name => some name
  | .number (.nat n) => if reading = .setAside then names[n]? else none
  | _ => none

/-- The name of a variant under a tag, and the record of its data, which is set aside until the tag
is known. -/
def tagged? (reading : Reading) (tag : String) (names : List String) (j : Json) :
    Option (String × Json) :=
  if !j.isWhole then none
  else
    match j with
    | .object members => do
      let name ← (← member? members tag).bind (tag? reading names)
      return (name, .object (members.filter (·.1 != tag)))
    | .array (name :: rest) => (tag? reading names name).map (·, .array rest)
    | _ => none

/-- The name of a variant under one name, and its data, if any, under another; or both in an array.
The data is set aside where it comes before the name. -/
def adjacent? (tag content : String) : Json → Option (String × Option (Reading × Json))
  | .array [name, data] => (variant? .direct name).map (·, some (.direct, data))
  | .object members => do
    let name ← (← member? members tag).bind (variant? .direct)
    match ← member? members content with
    | none => return (name, none)
    | some data =>
      if (members.find? fun m => m.1 == tag || m.1 == content).any (·.1 == tag) then
        return (name, some (.direct, data))
      else if data.isWhole then return (name, some (.setAside, data))
      else none
  | _ => none

end HubReplication.Json
