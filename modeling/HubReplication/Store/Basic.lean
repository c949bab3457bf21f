/-
**The document store.**

A store holds the latest version of every item and an index of them by etag, from which the change
stream is read.  A local write raises the entry of the store's own database; a replicated item is
merged into what the store has, unless the store has seen it already.

Main definitions:

* `Store` — the store of one database;
* `Store.putAt`, `Store.delete` — local writes;
* `Store.applyBatch` — a replicated batch, all of it or nothing;
* `Store.changesAfter` — the change stream after an etag;
* `Store.lastReplicatedEtag` — how far a source has been taken over.
-/

import HubReplication.Store.Item

set_option relaxedAutoImplicit false
set_option autoImplicit false

namespace HubReplication

/-- The store of one database. -/
structure Store where
  /-- The id under which this database writes change-vector entries. -/
  databaseId : String
  /-- The latest version of every item. -/
  items : SortedMap ItemKey Item
  /-- Which item has which etag. -/
  byEtag : SortedMap Nat ItemKey
  /-- The last etag accepted from each source. -/
  replicatedFrom : SortedMap String Nat
  /-- What the database has seen. -/
  changeVector : ChangeVector
  /-- The etag of the latest write. -/
  lastEtag : Nat
  /-- The etag that readers were last told of. -/
  announced : Nat
  /-- How often readers were told of a write. -/
  announcements : Nat

namespace Store

/-- A store that nothing was written to. -/
def empty (databaseId : String) : Store :=
  { databaseId, items := .empty, byEtag := .empty, replicatedFrom := .empty,
    changeVector := .empty, lastEtag := 0, announced := 0, announcements := 0 }

/-! ### Writing one version -/

/-- What the store has seen of an item. -/
def seen (s : Store) (key : ItemKey) : ChangeVector :=
  match s.items.get? key with
  | some previous => previous.changeVector
  | none => .empty

/-- Keep a version under the next etag, with the change vector given, in place of the version before
it. -/
def keep (s : Store) (item : Item) (cv : ChangeVector) : Store :=
  let etag := s.lastEtag + 1
  let byEtag := match s.items.get? item.key with
    | some previous => s.byEtag.erase previous.etag
    | none => s.byEtag
  { s with
    items := s.items.insert item.key { item with etag, changeVector := cv }
    byEtag := byEtag.insert etag item.key
    changeVector := s.changeVector.merge cv
    lastEtag := etag }

/-- Keep a version written here: the entry of this database rises to the new etag. -/
def keepLocal (s : Store) (item : Item) : Store :=
  s.keep item ((s.seen item.key).raise s.databaseId (s.lastEtag + 1))

/-- Keep a version written elsewhere: what it has seen is added to what the store has seen of it. -/
def keepReplicated (s : Store) (item : Item) : Store :=
  s.keep item ((s.seen item.key).merge item.changeVector)

/-- Tell readers of the latest write. -/
def announce (s : Store) : Store :=
  { s with announced := s.lastEtag, announcements := s.announcements + 1 }

/-! ### Local writes -/

/-- Write a version here. -/
def writeLocal (s : Store) (item : Item) : Outcome (Item × Store) :=
  if Text.isBlankText item.id then .error (.storage "document id must not be empty")
  else
    let s' := (s.keepLocal item).announce
    .ok ((s'.items.get? item.key).getD item, s')

/-- Write a document with the time of its commit. -/
def putAt (s : Store) (id collection : String) (body : Json) (at' : Instant) :
    Outcome (Item × Store) :=
  s.writeLocal
    { id, kind := .document, collection := some collection, etag := 0, changeVector := .empty,
      lastModified := at', deleted := false, body := some body }

/-- The live document of an id. -/
def get? (s : Store) (id : String) : Option Item :=
  match s.items.get? ⟨Text.asciiLower id, .document⟩ with
  | some item => if item.deleted then none else some item
  | none => none

/-- Delete a live document, leaving a mark that the change stream carries on. -/
def delete (s : Store) (id : String) (at' : Instant) : Outcome (Option Item × Store) :=
  match s.get? id with
  | none => .ok (none, s)
  | some document =>
    match s.writeLocal
        { id, kind := .document, collection := document.collection, etag := 0,
          changeVector := .empty, lastModified := at', deleted := true, body := none } with
    | .ok (item, s') => .ok (some item, s')
    | .error e => .error e

/-- How many live documents there are. -/
def documentCount (s : Store) : Nat :=
  (s.items.values.filter fun item => item.kind = .document && !item.deleted).length

/-! ### Replication -/

/-- The change stream: up to `max` items after an etag, in the order of their etags. -/
def changesAfter (s : Store) (etag max : Nat) : List Item :=
  ((s.byEtag.toList.filter fun e => etag < e.1).take max).filterMap fun e => s.items.get? e.2

/-- Take over one item of a batch unless the store has seen it. -/
def takeOver (s : Store) (item : Item) : Store :=
  match s.items.get? item.key with
  | some own => if own.changeVector.dominates item.changeVector then s else s.keepReplicated item
  | none => s.keepReplicated item

/-- Record an etag as accepted from a source; it never goes back. -/
def accept (s : Store) (source : String) (etag : Nat) : Store :=
  { s with
    replicatedFrom :=
      s.replicatedFrom.insert source (max ((s.replicatedFrom.get? source).getD 0) etag) }

/-- Take over a batch from a source and record the etag it covers; nothing of it if an item has no
id. -/
def applyBatch (s : Store) (source : String) (items : List Item) (sourceEtag : Nat) :
    Outcome (ChangeVector × Store) :=
  match items.find? fun item => Text.isBlankText item.id with
  | some bad =>
    .error (.storage ("replicated item at etag " ++ toString bad.etag ++ " has no id"))
  | none =>
    let taken := items.foldl takeOver s
    let accepted := taken.accept source sourceEtag
    let s' := if accepted.lastEtag = s.lastEtag then accepted else accepted.announce
    .ok (s'.changeVector, s')

/-- The last etag accepted from a source. -/
def lastReplicatedEtag (s : Store) (source : String) : Nat :=
  (s.replicatedFrom.get? source).getD 0

end Store

end HubReplication
