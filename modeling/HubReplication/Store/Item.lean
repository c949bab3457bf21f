/-
**Items of a change stream.**

An item is the latest version of a document or of something attached to one: its identity, its etag
on the database it is read from, its change vector, and its content, or a mark that it was deleted.

Main definitions:

* `ItemKind`, `Item` — an item;
* `ItemKey` — what makes two items versions of one thing: the kind and the id in small letters;
* `Item.isOlderThan?` — whether an item may be sent under a replication delay.
-/

import HubReplication.ChangeVector.Text
import HubReplication.Instant.Text
import HubReplication.Json.Decode
import HubReplication.Text.Ascii

set_option relaxedAutoImplicit false
set_option autoImplicit false

namespace HubReplication

open Std

/-- The kind of an item. -/
inductive ItemKind where
  | document
  | revision
  | attachment
  | counter
  | timeSeries
deriving DecidableEq, Repr

namespace ItemKind

/-- Every kind. -/
def all : List ItemKind := [.document, .revision, .attachment, .counter, .timeSeries]

/-- The name of a kind. -/
def name : ItemKind → String
  | .document => "Document"
  | .revision => "Revision"
  | .attachment => "Attachment"
  | .counter => "Counter"
  | .timeSeries => "TimeSeries"

/-- The place of a kind in the order of kinds. -/
def rank : ItemKind → Nat
  | .document => 0
  | .revision => 1
  | .attachment => 2
  | .counter => 3
  | .timeSeries => 4

/-- The kind of a name. -/
def ofName? (name : String) : Option ItemKind := all.find? (·.name == name)

theorem rank_injective {a b : ItemKind} (h : a.rank = b.rank) : a = b := by
  cases a <;> cases b <;> first | rfl | simp [rank] at h

end ItemKind

/-- What makes two items versions of one thing. -/
structure ItemKey where
  /-- The id in small letters. -/
  id : String
  kind : ItemKind
deriving DecidableEq, Repr

namespace ItemKey

/-- The place of a key among keys of one id. -/
def rank (k : ItemKey) : Nat := k.kind.rank

instance : Ord ItemKey := ⟨compareLex (compareOn ItemKey.id) (compareOn ItemKey.rank)⟩

instance : TransOrd ItemKey :=
  inferInstanceAs (TransCmp (compareLex (compareOn ItemKey.id) (compareOn ItemKey.rank)))

instance : LawfulEqOrd ItemKey where
  compare_self := ReflCmp.compare_self
  eq_of_compare {a b} h := by
    obtain ⟨h₁, h₂⟩ := compareLex_eq_eq.1 h
    have hid : a.id = b.id := LawfulEqOrd.eq_of_compare h₁
    have hkind : a.kind = b.kind := ItemKind.rank_injective (LawfulEqOrd.eq_of_compare h₂)
    cases a; cases b; simp_all

end ItemKey

/-- One entry of a change stream. -/
structure Item where
  id : String
  kind : ItemKind
  collection : Option String
  /-- The etag on the database the item is read from. -/
  etag : Nat
  changeVector : ChangeVector
  /-- When it was written, on the side that wrote it. -/
  lastModified : Instant
  deleted : Bool
  body : Option Json

namespace Item

/-- The key the versions of an item share. -/
def key (item : Item) : ItemKey := ⟨Text.asciiLower item.id, item.kind⟩

/-- Whether an item is old enough to be sent under a delay in milliseconds.  A delay too long for
the calendar is never over; `none` when the calendar ends before the delay does. -/
def isOlderThan? (item : Item) (now : Instant) (delay : Nat) : Option Bool :=
  if Span.maxMillis < delay then some false
  else (now.sub? (Span.ofMillis delay)).map fun due => decide (item.lastModified ≤ due)

/-- An item as a value. -/
def toJson (item : Item) : Json :=
  .object [
    ("Id", .string item.id),
    ("Kind", .string item.kind.name),
    ("Collection", Json.optString item.collection),
    ("Etag", Json.nat item.etag),
    ("ChangeVector", item.changeVector.toJson),
    ("LastModified", .string item.lastModified.text),
    ("Deleted", .bool item.deleted),
    ("Body", item.body.getD .null)]

/-- The kind of a value. -/
def kindOfJson? (reading : Json.Reading) (j : Json) : Option ItemKind :=
  (j.variant? reading).bind ItemKind.ofName?

/-- The content of a value, every part of which must be readable. -/
def bodyOfJson? (j : Json) : Option Json := if j.isWhole then some j.canonical else none

/-- The instant of a value. -/
def instantOfJson? (j : Json) : Option Instant := j.asText.bind Instant.parse?

/-- The names of the members of an item. -/
def fieldNames : List String :=
  ["Id", "Kind", "Collection", "Etag", "ChangeVector", "LastModified", "Deleted", "Body"]

/-- The item of a value. -/
def ofJson? (reading : Json.Reading) (j : Json) : Option Item := do
  match ← j.record? fieldNames with
  | [id, kind, collection, etag, changeVector, lastModified, deleted, body] =>
    return {
      id := ← Json.required Json.asText id
      kind := ← Json.required (kindOfJson? reading) kind
      collection := ← Json.nullable Json.asText collection
      etag := ← Json.required Json.asWord etag
      changeVector := ← Json.required ChangeVector.ofJson? changeVector
      lastModified := ← Json.required instantOfJson? lastModified
      deleted := ← Json.defaulted Json.asBool false deleted
      body := ← Json.nullable bodyOfJson? body }
  | _ => none

instance : Json.Writable Item := ⟨toJson⟩

instance : Json.Readable Item := ⟨ofJson? .direct⟩

end Item

end HubReplication
