/-
**Administrative requests.**

A request has a method, a target, headers and a body.  Which pages may read the answer depends on
the origin that the request names.

Main definitions:

* `Method`, `AdminRequest`, `AdminRequest.parse?` — requests;
* `AdminRequest.header?` — a header of a request;
* `isJsonMedia` — whether a body of a media type is read as a value;
* `AdminRequest.value?` — the value in a body;
* `OriginPolicy` — which pages may read answers.
-/

import HubReplication.Admin.Target
import HubReplication.Json.Parser

set_option relaxedAutoImplicit false
set_option autoImplicit false

namespace HubReplication

/-! ### Methods -/

/-- What a request wants of its target. -/
inductive Method where
  | get
  | head
  | post
  | put
  | delete
  | options
  /-- A method that no target knows. -/
  | other (name : String)
deriving DecidableEq, Repr

/-- Characters of words in a request. -/
def isTokenChar (c : Char) : Bool :=
  c.isAlphanum || "!#$%&'*+-.^_|~".toList.contains c || c.toNat == 0x60

/-- The method of a name; case counts. -/
def Method.ofText? : String → Option Method
  | "GET" => some .get
  | "HEAD" => some .head
  | "POST" => some .post
  | "PUT" => some .put
  | "DELETE" => some .delete
  | "OPTIONS" => some .options
  | name => if name != "" && name.toList.all isTokenChar then some (.other name) else none

/-! ### Headers -/

/-- Characters of the value of a header. -/
def isHeaderChar (c : Char) : Bool := (32 ≤ c.toNat && c.toNat != 127) || c == '\t'

/-- Whether a text can be the value of a header. -/
def isHeaderValue (s : String) : Bool := s.toList.all isHeaderChar

/-- Whether a text can be the name of a header. -/
def isHeaderName (s : String) : Bool := s != "" && s.toList.all isTokenChar

/-! ### Media types -/

/-- Whether a character may stand between quotes. -/
def isQuotedChar (c : Char) : Bool := 32 ≤ c.toNat && c.toNat != 127

mutual

/-- Whether a text is the parameters of a media type, with blanks before names. -/
def areParameters : Nat → List Char → Bool
  | _, [] => true
  | 0, _ => false
  | fuel + 1, ' ' :: rest => areParameters fuel rest
  | fuel + 1, cs =>
    match cs.dropWhile isTokenChar with
    | '=' :: rest => cs.head? != some '=' && isParameterValue fuel rest
    | _ => false

/-- Whether a text is the value of a parameter and what may follow it.  Only the last value may be
empty; a quote that opens a value and its first character are never the quote that closes it. -/
def isParameterValue : Nat → List Char → Bool
  | _, [] => true
  | 0, _ => false
  | fuel + 1, '"' :: first :: rest =>
    isQuotedChar first &&
      match rest.dropWhile fun c => isQuotedChar c && c != '"' with
      | '"' :: rest => isParameterEnd fuel rest
      | _ => false
  | fuel + 1, cs =>
    match cs.dropWhile isTokenChar with
    | [] => true
    | ';' :: rest => cs.head? != some ';' && areParameters fuel rest
    | _ => false

/-- Whether a text is what may follow a quoted value. -/
def isParameterEnd : Nat → List Char → Bool
  | fuel, cs =>
    match cs.dropWhile (· == ' '), fuel with
    | [], _ => true
    | ';' :: rest, fuel + 1 => areParameters fuel rest
    | _, _ => false

end

/-- Whether the second part of a media type says that a body is a value: by itself or by what stands
after its last plus sign, unless it begins with that. -/
def isJsonSubtype (cs : List Char) : Bool :=
  match Text.splitLast '+' (cs.drop 1) with
  | some (before, after) => cs.take 1 ++ before == "json".toList || after == "json".toList
  | none => cs == "json".toList

/-- Whether a text is written in ASCII that can be seen, with blanks and tabs. -/
def isVisible (s : String) : Bool :=
  s.toList.all fun c => (32 ≤ c.toNat && c.toNat < 127) || c == '\t'

/-- Whether a body of a media type is read as a value. -/
def isJsonMedia (media : String) : Bool :=
  let cs := (Text.asciiLower media).toList
  match Text.splitFirst '/' cs with
  | (type, rest) =>
    let subtype := rest.takeWhile isTokenChar
    isVisible media && type == "application".toList && isJsonSubtype subtype &&
      match rest.dropWhile isTokenChar with
      | [] => true
      | ';' :: parameters => areParameters (2 * parameters.length) parameters
      | _ => false

/-! ### Requests -/

/-- A request. -/
structure AdminRequest where
  method : Method
  target : RequestTarget
  headers : List (String × String)
  body : String

namespace AdminRequest

/-- The request of the parts it is written with. -/
def parse? (method uri : String) (headers : List (String × String)) (body : String) :
    Option AdminRequest := do
  if !(headers.all fun h => isHeaderName h.1 && isHeaderValue h.2) then none
  else
    return {
      method := ← Method.ofText? method
      target := ← RequestTarget.parse? uri
      headers, body }

/-- The first header of a name. -/
def header? (r : AdminRequest) (name : String) : Option String :=
  (r.headers.find? fun h => Text.sameName h.1 name).map (·.2)

/-- The longest body that is read, in bytes. -/
def bodyLimit : Nat := 2 * 1024 * 1024

/-- The value in the body; whatever follows it is passed over. -/
def value? {α : Type} (r : AdminRequest) (read : Json → Option α) : Option α :=
  if (r.header? "content-type").any isJsonMedia && r.body.utf8ByteSize ≤ bodyLimit then
    (Json.parseStart? r.body).bind read
  else none

end AdminRequest

/-! ### Origins -/

/-- Which pages may read answers. -/
inductive OriginPolicy where
  | anyone
  /-- Pages of the listed origins. -/
  | listed (origins : List String)
deriving DecidableEq, Repr

namespace OriginPolicy

/-- The policy of a list of origins: an empty list lets every page read, and an origin that cannot
be written in a header is passed over.  An asterisk is no origin. -/
def ofOrigins? (origins : List String) : Option OriginPolicy :=
  if origins.isEmpty then some .anyone
  else if origins.contains "*" then none
  else some (.listed (origins.filter isHeaderValue))

/-- The origin that an answer names as its reader. -/
def reader? (p : OriginPolicy) (origin : Option String) : Option String :=
  match p with
  | .anyone => some "*"
  | .listed origins => origin.filter origins.contains

end OriginPolicy

end HubReplication
