/-
**Parameters of administrative requests.**

All requests share one set of parameters, each of them optional.  A parameter that is given twice, a
number that is none, or a switch that is neither `true` nor `false` spoils the whole query;
parameters of other names are passed over.

Main definitions:

* `AdminQuery` — the parameters;
* `AdminQuery.parse?` — the parameters of a query;
* `AdminQuery.requestId`, `hubName`, `taskId` — parameters that a request needs.
-/

import HubReplication.Admin.Error
import HubReplication.Definition.Hub
import HubReplication.Text.Blank
import HubReplication.Text.Percent

set_option relaxedAutoImplicit false
set_option autoImplicit false

namespace HubReplication

/-- The parameters of a request. -/
structure AdminQuery where
  requestId? : Option String
  /-- The name of a hub. -/
  name? : Option String
  thumbprint? : Option String
  filter? : Option String
  start? : Option Nat
  pageSize? : Option Nat
  /-- The number of a task. -/
  key? : Option Nat
  disable? : Option Bool
  /-- The subject of a certificate. -/
  subject? : Option String
deriving DecidableEq, Repr

namespace AdminQuery

/-- The value of a parameter, when it is given at most once. -/
def single? (pairs : List (String × String)) (name : String) : Option (Option String) :=
  match pairs.filter (·.1 == name) with
  | [] => some none
  | [pair] => some (some pair.2)
  | _ => none

/-- The value of a parameter that is read in some way, when it is given. -/
def value? {α : Type} (read : String → Option α) (pairs : List (String × String))
    (name : String) : Option (Option α) := do
  match ← single? pairs name with
  | none => return none
  | some text => return some (← read text)

/-- A whole number of 64 bits. -/
def word? (s : String) : Option Nat := Text.parseNat? UInt64.size s.toList

/-- A switch. -/
def switch? : String → Option Bool
  | "true" => some true
  | "false" => some false
  | _ => none

/-- The parameters of a query. -/
def parse? (query : String) : Option AdminQuery := do
  let pairs := Text.queryPairs query
  return {
    requestId? := ← value? some pairs "raft-request-id"
    name? := ← value? some pairs "name"
    thumbprint? := ← value? some pairs "thumbprint"
    filter? := ← value? some pairs "filter"
    start? := ← value? word? pairs "start"
    pageSize? := ← value? word? pairs "pageSize"
    key? := ← value? word? pairs "key"
    disable? := ← value? switch? pairs "disable"
    subject? := ← value? some pairs "subject" }

/-- A parameter that has to be given. -/
def given {α : Type} (name : String) : Option α → Except AdminError α
  | some a => .ok a
  | none => .error (.missingParam name)

/-- A parameter that has to be given and must not be blank. -/
def givenText (name : String) (value : Option String) : Except AdminError String :=
  given name (value.filter fun text => !Text.isBlankText text)

/-- The id under which a change is proposed. -/
def requestId (q : AdminQuery) : Except AdminError String :=
  givenText "raft-request-id" q.requestId?

/-- The name of the hub. -/
def hubName (q : AdminQuery) : Except AdminError String := givenText "name" q.name?

/-- The thumbprint of a grant, which may be blank. -/
def thumbprint (q : AdminQuery) : Except AdminError String := given "thumbprint" q.thumbprint?

/-- The task. -/
def taskId (q : AdminQuery) : Except AdminError TaskId := (given "key" q.key?).map TaskId.mk

/-- Whether the task is to be switched off. -/
def disable (q : AdminQuery) : Except AdminError Bool := given "disable" q.disable?

end AdminQuery

end HubReplication
