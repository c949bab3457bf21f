/-
**Patterns.**

A pattern describes texts: characters, classes of characters, places, and what is built of these by
repetition, choice, sequence and grouping.  Flags change how the rest of a group is read.

A pattern counts as sound when it can be matched without knowing the properties of characters beyond
ASCII, matches only whole characters, and is not nested too deep.

Main definitions:

* `Pattern.Flag`, `Pattern.switch?` — flags, and what a list of them does to one;
* `Pattern.Scalar`, `Pattern.CharClass`, `Pattern` — patterns and what they are made of;
* `Pattern.depth` — how deep a pattern is nested;
* `Pattern.isSound` — whether a pattern can be matched.
-/

set_option relaxedAutoImplicit false
set_option autoImplicit false

namespace HubReplication

namespace Pattern

/-! ### Flags -/

/-- How the rest of a group is read. -/
inductive Flag where
  | ignoreCase
  | multiLine
  | dotMatchesAll
  | swapGreed
  | lineEnds
  /-- Classes and case are those of all characters, not of ASCII alone. -/
  | unicode
  | ignoreBlanks
deriving DecidableEq, Repr

/-- What is written in a list of flags: a flag, or the minus sign, after which flags are off. -/
abbrev FlagItem := Option Flag

/-- Whether a list of flags turns one on or off. -/
def switch? (flag : Flag) (items : List FlagItem) : Option Bool :=
  if (items.takeWhile (·.isSome)).contains (some flag) then some true
  else if items.contains (some flag) then some false
  else none

/-! ### Patterns -/

/-- A character, and whether it is written as the code of a byte. -/
structure Scalar where
  char : Char
  isByte : Bool
deriving DecidableEq, Repr

/-- Whether a character is ASCII. -/
def Scalar.isAscii (s : Scalar) : Bool := s.char.toNat < 128

/-- What stands in square brackets. -/
inductive CharClass where
  | empty
  | scalar (s : Scalar)
  | range (first last : Scalar)
  /-- A class of ASCII that is written as a word between colons. -/
  | named (negated : Bool)
  /-- Digits, blanks or the characters of words, written as one letter. -/
  | letter (negated : Bool)
  | bracketed (negated : Bool) (inner : CharClass)
  | union (parts : List CharClass)
  /-- What is common to two classes, or is in one of them only. -/
  | operation (left right : CharClass)

end Pattern

/-- A pattern. -/
inductive Pattern where
  | empty
  | flags (items : List Pattern.FlagItem)
  | scalar (s : Pattern.Scalar)
  | dot
  /-- A place in the text, which may be the boundary of a word. -/
  | place (ofWord : Bool)
  /-- Digits, blanks or the characters of words, written as one letter. -/
  | letter (negated : Bool)
  | bracketed (negated : Bool) (inner : Pattern.CharClass)
  | repeated (inner : Pattern)
  | group (items : List Pattern.FlagItem) (inner : Pattern)
  | choice (parts : List Pattern)
  | sequence (parts : List Pattern)

namespace Pattern

/-! ### Depth -/

mutual

/-- How deep a class is nested. -/
def CharClass.depth : CharClass → Nat
  | .bracketed _ inner => inner.depth + 1
  | .union parts => CharClass.depths parts + 1
  | .operation left right => max left.depth right.depth + 1
  | _ => 0

/-- How deep the deepest of several classes is nested. -/
def CharClass.depths : List CharClass → Nat
  | [] => 0
  | part :: rest => max part.depth (CharClass.depths rest)

end

mutual

/-- How deep a pattern is nested. -/
def depth : Pattern → Nat
  | .bracketed _ inner => inner.depth + 1
  | .repeated inner => inner.depth + 1
  | .group _ inner => inner.depth + 1
  | .choice parts => depths parts + 1
  | .sequence parts => depths parts + 1
  | _ => 0

/-- How deep the deepest of several patterns is nested. -/
def depths : List Pattern → Nat
  | [] => 0
  | part :: rest => max part.depth (depths rest)

end

/-- How deep a pattern may be nested. -/
def depthLimit : Nat := 250

/-! ### Soundness -/

/-- The flags that decide which characters a class holds. -/
structure Mode where
  ignoreCase : Bool
  unicode : Bool

namespace Mode

/-- The flags at the start of a pattern. -/
def initial : Mode := ⟨false, true⟩

/-- The flags after a list of them. -/
def apply (m : Mode) (items : List FlagItem) : Mode :=
  ⟨(switch? .ignoreCase items).getD m.ignoreCase, (switch? .unicode items).getD m.unicode⟩

/-- Whether a character stands for itself under flags: its case must not matter beyond ASCII, and a
byte must be a whole character. -/
def takes (m : Mode) (s : Scalar) : Bool :=
  if m.unicode then !m.ignoreCase else !s.isByte || s.isAscii

end Mode

mutual

/-- Whether a class can be matched. -/
def CharClass.isSound (m : Mode) : CharClass → Bool
  | .empty => true
  | .scalar s => if m.unicode then !m.ignoreCase else s.isAscii
  | .range first last => if m.unicode then !m.ignoreCase else first.isAscii && last.isAscii
  | .named negated => if m.unicode then !m.ignoreCase else !negated
  | .letter negated => !m.unicode && !negated
  | .bracketed negated inner => (m.unicode || !negated) && inner.isSound m
  | .union parts => CharClass.areSound m parts
  | .operation left right => left.isSound m && right.isSound m

/-- Whether all of several classes can be matched. -/
def CharClass.areSound (m : Mode) : List CharClass → Bool
  | [] => true
  | part :: rest => part.isSound m && CharClass.areSound m rest

end

mutual

/-- The flags after a pattern, if it can be matched under the flags before it. -/
def modeAfter? (m : Mode) : Pattern → Option Mode
  | .empty => some m
  | .flags items => some (m.apply items)
  | .scalar s => if m.takes s then some m else none
  | .dot => if m.unicode then some m else none
  | .place ofWord => if ofWord && m.unicode then none else some m
  | .letter negated => if m.unicode || negated then none else some m
  | .bracketed negated inner =>
    if CharClass.isSound m (.bracketed negated inner) then some m else none
  | .repeated inner => inner.modeAfter? m
  | .group items inner => (inner.modeAfter? (m.apply items)).map fun _ => m
  | .choice parts => modeAfterAll? m parts
  | .sequence parts => modeAfterAll? m parts

/-- The flags after several patterns. -/
def modeAfterAll? (m : Mode) : List Pattern → Option Mode
  | [] => some m
  | part :: rest =>
    match part.modeAfter? m with
    | some after => modeAfterAll? after rest
    | none => none

end

/-- Whether a pattern can be matched. -/
def isSound (p : Pattern) : Bool := p.depth ≤ depthLimit && (p.modeAfter? .initial).isSome

end Pattern

end HubReplication
