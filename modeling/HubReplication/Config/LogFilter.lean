/-
**Log filters.**

What is logged is chosen by a list of directives with commas between them, of which empty ones are
passed over.  A directive is a level, or a target, or a span in square brackets with fields in
braces, and may set a level after an equals sign.  A field may ask for a value: a truth value, a
number, or a pattern that the value must match.

A directive is read without the blanks around it, but its parts are cut out of the text with those
blanks, at the same places.  So blanks before a directive shift its parts, and a place may even lie
inside a character of several bytes; then there is no answer at all.

Main definitions:

* `LogFilter.isLevel`, `LogFilter.isField` — levels, and fields of spans;
* `LogFilter.cut?` — a part of a text between two places;
* `LogFilter.Place`, `LogFilter.step` — reading one character of a directive;
* `LogFilter.Verdict`, `LogFilter.check` — what becomes of a list of directives.
-/

import HubReplication.Pattern.Parser
import HubReplication.Text.Ascii
import HubReplication.Text.Split

set_option relaxedAutoImplicit false
set_option autoImplicit false

namespace HubReplication.LogFilter

/-! ### Levels and fields -/

/-- The names of the levels. -/
def levelNames : List String := ["off", "error", "warn", "info", "debug", "trace"]

/-- A level: a name, case aside, or a number from 0 to 5; none stands for a level too. -/
def isLevel (cs : List Char) : Bool :=
  cs.isEmpty || levelNames.contains (Text.asciiLower (String.ofList cs)) ||
    (Text.parseNat? 6 cs).isSome

/-- The exponent of a decimal, or nothing. -/
def isExponent : List Char → Bool
  | [] => true
  | c :: rest =>
    let digits := match rest with
      | '+' :: digits => digits
      | '-' :: digits => digits
      | digits => digits
    (c = 'e' || c = 'E') && !digits.isEmpty && digits.all Text.isDecimal

/-- A decimal without a sign, with digits before or after its point. -/
def isDecimalText (cs : List Char) : Bool :=
  let whole := cs.takeWhile Text.isDecimal
  match cs.dropWhile Text.isDecimal with
  | '.' :: rest =>
    !(whole.isEmpty && (rest.takeWhile Text.isDecimal).isEmpty) &&
      isExponent (rest.dropWhile Text.isDecimal)
  | rest => !whole.isEmpty && isExponent rest

/-- A number, which may have a sign, be infinite, or be none. -/
def isNumber (cs : List Char) : Bool :=
  let unsigned := match cs with
    | '+' :: rest => rest
    | '-' :: rest => rest
    | rest => rest
  isDecimalText unsigned ||
    ["inf", "infinity", "nan"].contains (Text.asciiLower (String.ofList unsigned))

/-- Whether a text is a value that a field may ask for; a truth value is a pattern too. -/
def isFieldValue (cs : List Char) : Bool := isNumber cs || (Pattern.parse? cs).any (·.isSound)

/-- Whether a text is a field of a span: a name, and the value it must have after an equals sign.
What follows a second equals sign does not count. -/
def isField (cs : List Char) : Bool :=
  !cs.isEmpty &&
    match Text.splitAt '=' cs with
    | _ :: value :: _ => isFieldValue value
    | _ => true

/-! ### Directives -/

/-- Why a filter is not followed. -/
inductive Fault where
  /-- A directive is not sound. -/
  | unsound
  /-- A part of a directive begins or ends inside a character. -/
  | torn
deriving DecidableEq, Repr

/-- What becomes of a filter. -/
abbrev Verdict := Except Fault Unit

/-- The rest of a text from a place on, counted in bytes. -/
def dropBytes? : Nat → List Char → Option (List Char)
  | 0, cs => some cs
  | _ + 1, [] => none
  | n + 1, c :: rest =>
    if c.utf8Size ≤ n + 1 then dropBytes? (n + 1 - c.utf8Size) rest else none

/-- A text up to a place, counted in bytes. -/
def takeBytes? : Nat → List Char → Option (List Char)
  | 0, _ => some []
  | _ + 1, [] => none
  | n + 1, c :: rest =>
    if c.utf8Size ≤ n + 1 then (takeBytes? (n + 1 - c.utf8Size) rest).map (c :: ·) else none

/-- The part of a text between two places. -/
def cut (text : List Char) (first last : Nat) : Except Fault (List Char) :=
  match (dropBytes? first text).bind (takeBytes? (last - first)) with
  | some part => .ok part
  | none => .error .torn

/-- The part of a text from a place on. -/
def cutFrom (text : List Char) (first : Nat) : Except Fault (List Char) :=
  match dropBytes? first text with
  | some part => .ok part
  | none => .error .torn

/-- Where in a directive reading is, and where the part began that it is in. -/
inductive Place where
  | start
  | target (first : Nat)
  | span (first : Nat)
  | field (first : Nat)
  | afterFields
  | afterSpan
  | level (first : Nat)

/-- Whether a directive may begin with a character. -/
def mayBegin (c : Char) : Bool := c = '-' || c = ':' || c = '_' || Text.isAlphanumeric c

/-- Read one character of a directive, which stands at a place of the text. -/
def step (text : List Char) (offset : Nat) (c : Char) : Place → Except Fault Place
  | .start =>
    if c = '[' then .ok (.span (offset + 1))
    else if mayBegin c then .ok (.target offset)
    else .error .unsound
  | .target first => do
    if c = '=' then
      let _ ← cut text first offset
      return .level (offset + 1)
    else if c = '[' then
      let _ ← cut text first offset
      return .span (offset + 1)
    else return .target first
  | .span first => do
    if c = ']' then
      let _ ← cut text first offset
      return .afterSpan
    else if c = '\x7b' then
      let _ ← cut text first offset
      return .field (offset + 1)
    else return .span first
  | .field first => do
    if c = '\x7d' then
      if isField (← cut text first offset) then return .afterFields else throw .unsound
    else return .field first
  | .afterFields => if c = ']' then .ok .afterSpan else .error .unsound
  | .afterSpan => if c = '=' then .ok (.level (offset + 1)) else .error .unsound
  | .level first => .ok (.level first)

/-- What a directive comes to at its end. -/
def finish (text : List Char) : Place → Verdict
  | .target first => (cutFrom text first).map fun _ => ()
  | .level first => do if isLevel (← cutFrom text first) then return () else throw .unsound
  | .afterSpan => .ok ()
  | _ => .error .unsound

/-- Read the characters of a directive from a place on. -/
def walk (text : List Char) : Nat → Place → List Char → Verdict
  | _, place, [] => finish text place
  | offset, place, c :: rest =>
    match step text offset c place with
    | .ok place => walk text (offset + c.utf8Size) place rest
    | .error fault => .error fault

/-- What one directive comes to. -/
def checkDirective (text : List Char) : Verdict := walk text 0 .start (Text.trimChars text)

/-- What directives come to, read in order. -/
def checkAll : List (List Char) → Verdict
  | [] => .ok ()
  | text :: rest =>
    match checkDirective text with
    | .ok () => checkAll rest
    | .error fault => .error fault

/-- What a list of directives comes to; no text is an empty list. -/
def check (s : String) : Verdict :=
  checkAll ((Text.splitAt ',' s.toList).filter fun text => !text.isEmpty)

end HubReplication.LogFilter
