/-
**Texts of change vectors.**

A change vector is written as `id:etag` pairs in the order of the ids, with commas between them.
Reading cuts at the commas, drops the blanks around each part and empty parts, and takes the etag
after the last colon of a part.

Main definitions:

* `ChangeVector.text` — the text of a vector;
* `ChangeVector.parse` — the vector of a text, or what is wrong with it.
-/

import HubReplication.ChangeVector.Basic
import HubReplication.Error
import HubReplication.Json.Decode
import HubReplication.Text.Blank
import HubReplication.Text.Split

set_option relaxedAutoImplicit false
set_option autoImplicit false

namespace HubReplication.ChangeVector

/-- The characters of one pair. -/
def entryChars (e : String × Nat) : List Char := e.1.toList ++ ':' :: Nat.toDigits 10 e.2

/-- The characters of a vector. -/
def chars (cv : ChangeVector) : List Char :=
  [','].intercalate (cv.entries.toList.map entryChars)

/-- The text of a vector. -/
def text (cv : ChangeVector) : String := String.ofList cv.chars

/-- Etags are whole numbers of 64 bits. -/
def etagBound : Nat := UInt64.size

/-- The pair of one part. -/
def parseEntry (part : List Char) : Outcome (String × Nat) :=
  match Text.splitLast ':' part with
  | none =>
    .error (.protocolMismatch ("malformed change vector entry '" ++ String.ofList part ++ "'"))
  | some (id, etag) =>
    match Text.parseNat? etagBound etag with
    | none => .error (.protocolMismatch ("malformed etag in '" ++ String.ofList part ++ "'"))
    | some n =>
      if id.isEmpty then
        .error (.protocolMismatch ("missing database id in '" ++ String.ofList part ++ "'"))
      else .ok (String.ofList id, n)

/-- The parts of a text that hold a pair. -/
def parts (cs : List Char) : List (List Char) :=
  ((Text.splitAt ',' cs).map Text.trimChars).filter fun p => !p.isEmpty

/-- Raise the entries of the parts one after the other. -/
def parseParts : List (List Char) → ChangeVector → Outcome ChangeVector
  | [], cv => .ok cv
  | part :: rest, cv =>
    match parseEntry part with
    | .error e => .error e
    | .ok (id, etag) => parseParts rest (cv.raise id etag)

/-- The vector of a text. -/
def parse (s : String) : Outcome ChangeVector := parseParts (parts s.toList) empty

/-- A vector as a value. -/
def toJson (cv : ChangeVector) : Json := .string cv.text

/-- The vector of a value. -/
def ofJson? : Json → Option ChangeVector
  | .string s => (parse s).toOption
  | _ => none

instance : Json.Writable ChangeVector := ⟨toJson⟩

instance : Json.Readable ChangeVector := ⟨ofJson?⟩

end HubReplication.ChangeVector
