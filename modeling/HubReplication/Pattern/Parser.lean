/-
**Reading patterns.**

Patterns stand in the braces of a log filter, so none holds a closing brace: an opening one outside
square brackets begins a count, or a code, that cannot end.

While blanks are ignored, blanks and comments may stand between the parts of a pattern.  A comment
goes from a hash sign to the end of its line.

Main definitions:

* `Pattern.readEscape` — what follows a backslash;
* `Pattern.readClass` — what follows an opening square bracket;
* `Pattern.readBranches` — the rest of a group;
* `Pattern.parse?` — the pattern of a text.
-/

import HubReplication.Json.Parser
import HubReplication.Pattern.Basic
import HubReplication.Text.Blank
import HubReplication.Text.Property

set_option relaxedAutoImplicit false
set_option autoImplicit false

namespace HubReplication.Pattern

/-! ### Blanks -/

/-- A text without the blanks and comments before it. -/
def skipNotes : Bool → List Char → List Char
  | _, [] => []
  | true, c :: rest => skipNotes (c != '\n') rest
  | false, c :: rest =>
    if Text.isBlank c then skipNotes false rest
    else if c = '#' then skipNotes true rest
    else c :: rest

/-- A text without the blanks and comments before it, where these are ignored. -/
def skip (loose : Bool) (cs : List Char) : List Char := if loose then skipNotes false cs else cs

/-- The first character of a text that is neither blank nor the first hash sign. -/
def firstBeyond : Bool → List Char → Option Char
  | _, [] => none
  | note, c :: rest =>
    if Text.isBlank c then firstBeyond note rest
    else if !note && c == '#' then firstBeyond true rest
    else some c

/-- What is taken for the next character of a text. -/
def peek (loose : Bool) (cs : List Char) : Option Char :=
  if loose then (firstBeyond false cs).or cs.head? else cs.head?

/-! ### Escapes -/

/-- What a backslash and what follows it stand for. -/
inductive Escape where
  | scalar (s : Scalar)
  | place (ofWord : Bool)
  | letter (negated : Bool)

/-- A number of hexadecimal digits. -/
def readHex (loose : Bool) : Nat → Nat → List Char → Option (Nat × List Char)
  | 0, value, cs => some (value, cs)
  | _ + 1, _, [] => none
  | more + 1, value, c :: rest =>
    match Json.hexValue? c with
    | some digit => readHex loose more (value * 16 + digit) (skip loose rest)
    | none => none

/-- The character of a code in hexadecimal digits. -/
def readCode (loose : Bool) (digits : Nat) (cs : List Char) : Option (Escape × List Char) := do
  let (value, rest) ← readHex loose digits 0 (skip loose cs)
  if value.isValidChar then return (.scalar ⟨Char.ofNat value, digits = 2⟩, rest) else none

/-- The control characters that are written as a letter. -/
def controlLetters : List (Char × Nat) := [
  ('a', 7), ('f', 12), ('t', 9), ('n', 10), ('r', 13), ('v', 11)]

/-- What follows a backslash. -/
def readEscape (loose : Bool) : List Char → Option (Escape × List Char)
  | [] => none
  | c :: rest =>
    if c = 'x' then readCode loose 2 rest
    else if c = 'u' then readCode loose 4 rest
    else if c = 'U' then readCode loose 8 rest
    else if c = 'd' || c = 's' || c = 'w' then some (.letter false, rest)
    else if c = 'D' || c = 'S' || c = 'W' then some (.letter true, rest)
    else if c = 'A' || c = 'z' then some (.place false, rest)
    else if c = 'b' || c = 'B' || c = '<' || c = '>' then some (.place true, rest)
    else if let some code := controlLetters.lookup c then
      some (.scalar ⟨Char.ofNat code, false⟩, rest)
    else if c.toNat < 128 && !c.isAlphanum then some (.scalar ⟨c, false⟩, rest)
    else none

/-! ### Classes -/

/-- The classes of ASCII that have names. -/
def classNames : List String := [
  "alnum", "alpha", "ascii", "blank", "cntrl", "digit", "graph", "lower", "print", "punct",
  "space", "upper", "word", "xdigit"]

/-- The name of a class up to its closing colon and bracket. -/
def readClassName (negated : Bool) (cs : List Char) : Option (CharClass × List Char) :=
  match cs.dropWhile (· ≠ ':') with
  | ':' :: ']' :: rest =>
    if classNames.contains (String.ofList (cs.takeWhile (· ≠ ':'))) then
      some (.named negated, rest)
    else none
  | _ => none

/-- A class with a name, after its opening bracket. -/
def readNamed : List Char → Option (CharClass × List Char)
  | ':' :: '^' :: rest => readClassName true rest
  | ':' :: rest => readClassName false rest
  | _ => none

/-- One character in square brackets, or what a backslash stands for. -/
def readClassEscape (loose : Bool) : List Char → Option (Escape × List Char)
  | [] => none
  | '\\' :: rest => readEscape loose rest
  | c :: rest => some (.scalar ⟨c, false⟩, rest)

/-- What an escape stands for in square brackets. -/
def Escape.toClass? : Escape → Option CharClass
  | .scalar s => some (.scalar s)
  | .letter negated => some (.letter negated)
  | .place _ => none

/-- The range between two escapes. -/
def range? : Escape → Escape → Option CharClass
  | .scalar first, .scalar last => if first.char ≤ last.char then some (.range first last) else none
  | _, _ => none

/-- One part of a class: a character, a letter for a class, or a range. -/
def readPart (loose : Bool) (cs : List Char) : Option (CharClass × List Char) := do
  let (first, rest) ← readClassEscape loose cs
  match skip loose rest with
  | [] => none
  | '-' :: after =>
    if peek loose after = some ']' || peek loose after = some '-' then
      return (← first.toClass?, '-' :: after)
    else
      let (last, rest) ← readClassEscape loose (skip loose after)
      return (← range? first last, rest)
  | rest => return (← first.toClass?, rest)

/-- The hyphens at the start of a class, which stand for themselves. -/
def readHyphens (loose : Bool) : Nat → List CharClass → List Char → List CharClass × List Char
  | 0, parts, cs => (parts, cs)
  | fuel + 1, parts, cs =>
    match cs with
    | '-' :: rest => readHyphens loose fuel (.scalar ⟨'-', false⟩ :: parts) (skip loose rest)
    | _ => (parts, cs)

/-- The start of a class: whether it is negated, and what stands for itself there only. -/
def openClass (loose : Bool) (cs : List Char) : Bool × List CharClass × List Char :=
  let (negated, cs) := match skip loose cs with
    | '^' :: rest => (true, skip loose rest)
    | rest => (false, rest)
  match readHyphens loose cs.length [] cs with
  | ([], ']' :: rest) => (negated, [.scalar ⟨']', false⟩], skip loose rest)
  | (parts, rest) => (negated, parts, rest)

/-- The class of parts, newest first. -/
def unionOf : List CharClass → CharClass
  | [] => .empty
  | [part] => part
  | parts => .union parts.reverse

/-- The class of an operation on what is left of it, if there is any. -/
def combine (left : Option CharClass) (parts : List CharClass) : CharClass :=
  match left with
  | some left => .operation left (unionOf parts)
  | none => unionOf parts

/-- The rest of a class, up to its closing bracket. -/
def readClass (loose : Bool) : Nat → Option CharClass → List CharClass → List Char →
    Option (CharClass × List Char)
  | 0, _, _, _ => none
  | fuel + 1, left, parts, cs =>
    match skip loose cs with
    | [] => none
    | ']' :: rest => some (combine left parts, rest)
    | '&' :: '&' :: rest => readClass loose fuel (some (combine left parts)) [] rest
    | '-' :: '-' :: rest => readClass loose fuel (some (combine left parts)) [] rest
    | '~' :: '~' :: rest => readClass loose fuel (some (combine left parts)) [] rest
    | '[' :: rest =>
      match readNamed rest with
      | some (part, rest) => readClass loose fuel left (part :: parts) rest
      | none =>
        match openClass loose rest with
        | (negated, inner, rest) =>
          match readClass loose fuel none inner rest with
          | some (inner, rest) =>
            readClass loose fuel left (.bracketed negated inner :: parts) rest
          | none => none
    | rest =>
      match readPart loose rest with
      | some (part, rest) => readClass loose fuel left (part :: parts) rest
      | none => none

/-! ### Groups -/

/-- The flag of a letter. -/
def flag? : Char → Option Flag
  | 'i' => some .ignoreCase
  | 'm' => some .multiLine
  | 's' => some .dotMatchesAll
  | 'U' => some .swapGreed
  | 'R' => some .lineEnds
  | 'u' => some .unicode
  | 'x' => some .ignoreBlanks
  | _ => none

/-- A list of flags, each named once, up to the character that ends it. -/
def readFlags : List FlagItem → List Char → Option (List FlagItem × Char × List Char)
  | _, [] => none
  | items, c :: rest =>
    if c = ':' || c = ')' then
      if items.getLast? = some none then none else some (items, c, rest)
    else
      let item? := if c = '-' then some none else (flag? c).map some
      match item? with
      | some item => if items.contains item then none else readFlags (items ++ [item]) rest
      | none => none

/-- Whether a text can be the name of a group. -/
def isGroupName : List Char → Bool
  | [] => false
  | c :: rest =>
    (c == '_' || Text.isAlphabetic c) &&
      rest.all fun c => "_.[]".toList.contains c || Text.isAlphanumeric c

/-- What begins after an opening parenthesis. -/
inductive Opening where
  /-- Flags for the rest of the group around. -/
  | flags (items : List FlagItem)
  /-- A group with flags of its own, and its name, if it has one. -/
  | group (items : List FlagItem) (name : Option (List Char))

/-- A group with a name, after the bracket that opens the name. -/
def readName (cs : List Char) : Option (Opening × List Char) :=
  let name := cs.takeWhile (· ≠ '>')
  match cs.dropWhile (· ≠ '>') with
  | '>' :: rest => if isGroupName name then some (.group [] (some name), rest) else none
  | _ => none

/-- What begins after an opening parenthesis; a look at what lies around is not known. -/
def readOpening (loose : Bool) (cs : List Char) : Option (Opening × List Char) :=
  match skip loose cs with
  | '?' :: '<' :: '=' :: _ => none
  | '?' :: '<' :: '!' :: _ => none
  | '?' :: '<' :: rest => readName rest
  | '?' :: 'P' :: '<' :: rest => readName rest
  | '?' :: rest =>
    match readFlags [] rest with
    | some (items, ':', rest) => some (.group items none, rest)
    | some (items, _, rest) => if items.isEmpty then none else some (.flags items, rest)
    | none => none
  | rest => some (.group [] none, rest)

/-! ### Patterns -/

/-- The pattern of parts, newest first. -/
def sequenceOf : List Pattern → Pattern
  | [] => .empty
  | [part] => part
  | parts => .sequence parts.reverse

/-- The pattern of branches, newest first, and the parts of the last one. -/
def choiceOf (branches parts : List Pattern) : Pattern :=
  if branches.isEmpty then sequenceOf parts else .choice (sequenceOf parts :: branches).reverse

/-- What an escape stands for in a pattern. -/
def Escape.toPattern : Escape → Pattern
  | .scalar s => .scalar s
  | .place ofWord => .place ofWord
  | .letter negated => .letter negated

/-- The last of some parts repeated, if there is one that can be. -/
def repeatLast? : List Pattern → Option (List Pattern)
  | [] => none
  | .empty :: _ => none
  | .flags _ :: _ => none
  | part :: parts => some (.repeated part :: parts)

/-- The rest of a group, or of a whole pattern, after some branches and some parts of the next.
Also answers the names of groups so far. -/
def readBranches : Nat → Bool → Bool → List (List Char) → List Pattern → List Pattern →
    List Char → Option (Pattern × List (List Char) × List Char)
  | 0, _, _, _, _, _, _ => none
  | fuel + 1, loose, inside, names, branches, parts, cs =>
    match skip loose cs with
    | [] => if inside then none else some (choiceOf branches parts, names, [])
    | '(' :: rest =>
      match readOpening loose rest with
      | none => none
      | some (.flags items, rest) =>
        readBranches fuel ((switch? .ignoreBlanks items).getD loose) inside names branches
          (.flags items :: parts) rest
      | some (.group items name, rest) =>
        if name.any names.contains then none
        else
          match readBranches fuel ((switch? .ignoreBlanks items).getD loose) true
              (name.toList ++ names) [] [] rest with
          | none => none
          | some (inner, names, rest) =>
            readBranches fuel loose inside names branches (.group items inner :: parts) rest
    | ')' :: rest => if inside then some (choiceOf branches parts, names, rest) else none
    | '|' :: rest => readBranches fuel loose inside names (sequenceOf parts :: branches) [] rest
    | '[' :: rest =>
      match openClass loose rest with
      | (negated, first, rest) =>
        match readClass loose fuel none first rest with
        | some (inner, rest) =>
          readBranches fuel loose inside names branches (.bracketed negated inner :: parts) rest
        | none => none
    | '\x7b' :: _ => none
    | '\\' :: rest =>
      match readEscape loose rest with
      | some (escape, rest) =>
        readBranches fuel loose inside names branches (escape.toPattern :: parts) rest
      | none => none
    | c :: rest =>
      if c = '?' || c = '*' || c = '+' then
        match repeatLast? parts with
        | some parts =>
          readBranches fuel loose inside names branches parts
            (if rest.head? = some '?' then rest.drop 1 else rest)
        | none => none
      else
        let part :=
          if c = '.' then .dot
          else if c = '^' || c = '$' then .place false
          else .scalar ⟨c, false⟩
        readBranches fuel loose inside names branches (part :: parts) rest

/-- The pattern of a text. -/
def parse? (cs : List Char) : Option Pattern :=
  (readBranches (cs.length + 1) false false [] [] [] cs).map (·.1)

end HubReplication.Pattern
