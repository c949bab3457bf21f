/-
**Path filters.**

A grant on a filtered hub names the document ids it covers: an id by itself, or every id that starts
with some text, written with a star at its end.  The star may only follow a slash or a hyphen, so
that no path covers every id.  A set without paths covers every id: it stands for no filter.

Main definitions:

* `TextSet` — a set of texts in order;
* `PathFilter.fault?` — what is wrong with a path;
* `PathFilter.validate` — the first faulty path of a set;
* `PathFilter.covers`, `PathFilter.allows` — whether a path, or a set, covers an id.
-/

import HubReplication.Error
import HubReplication.Json.Decode
import HubReplication.Text.Ascii
import HubReplication.Text.Blank

set_option relaxedAutoImplicit false
set_option autoImplicit false

namespace HubReplication

/-- A set of texts in order. -/
abbrev TextSet := SortedMap String Unit

namespace TextSet

/-- The set of a list of texts. -/
def ofTexts (l : List String) : TextSet := SortedMap.ofList (l.map fun s => (s, ()))

/-- The texts in order. -/
def texts (s : TextSet) : List String := s.keys

/-- The set as a value. -/
def toJson (s : TextSet) : Json := .array (s.texts.map .string)

/-- The set of a value. -/
def ofJson? (j : Json) : Option TextSet := (j.asListOf Json.asText).map ofTexts

end TextSet

namespace PathFilter

/-- What is wrong with a path. -/
inductive Fault where
  | blank
  | padded
  | innerStar
  | bareStar
  | looseStar
deriving DecidableEq, Repr

/-- The wording of a fault. -/
def Fault.message : Fault → String
  | .blank => "path must not be empty"
  | .padded => "path must not have surrounding whitespace"
  | .innerStar => "'*' is only allowed at the end of a path"
  | .bareStar => "a bare '*' would allow every document"
  | .looseStar => "'*' must follow '/' or '-'"

/-- What is wrong with the characters of a path. -/
def faultOf? (path : List Char) : Option Fault :=
  let trimmed := Text.trimChars path
  if trimmed.isEmpty then some .blank
  else if trimmed ≠ path then some .padded
  else
    match path.dropWhile (· ≠ '*') with
    | [] => none
    | _ :: _ :: _ => some .innerStar
    | [_] =>
      match path.dropLast.getLast? with
      | none => some .bareStar
      | some c => if c = '/' ∨ c = '-' then none else some .looseStar

/-- What is wrong with a path. -/
def fault? (path : String) : Option Fault := faultOf? path.toList

/-- Refuse the first faulty path of a set. -/
def validatePaths (direction : String) : List String → Outcome Unit
  | [] => .ok ()
  | path :: rest =>
    match fault? path with
    | some fault =>
      .error (.invalidConfiguration
        ("invalid " ++ direction ++ " path '" ++ path ++ "': " ++ fault.message))
    | none => validatePaths direction rest

/-- Refuse a set with a faulty path. -/
def validate (paths : TextSet) (direction : String) : Outcome Unit :=
  validatePaths direction paths.texts

/-- Whether a path covers an id: it is the id, or its text before the star starts the id, either
without regard to the case of ASCII letters. -/
def covers (path id : String) : Bool :=
  if path.toList.getLast? = some '*' then
    Text.startsWithName (String.ofList path.toList.dropLast) id
  else Text.sameName path id

/-- Whether a set covers an id; a set without paths covers every id. -/
def allows (paths : TextSet) (id : String) : Bool :=
  paths.isEmpty || paths.texts.any fun path => covers path id

end PathFilter

end HubReplication
