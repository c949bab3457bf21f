/-
**Change vectors.**

A change vector records, for each database that ever wrote a document, the highest etag seen from
it.  A database that is not listed counts as etag zero, so vectors are compared by what they say of
every database and not by their entries.

Main definitions:

* `ChangeVector` — the vector, as its entries in the order of the database ids;
* `ChangeVector.get` — what it says of one database;
* `ChangeVector.raise`, `ChangeVector.merge` — raise one entry, take the larger of every entry;
* `ChangeVector.compare`, `ChangeVector.dominates` — who has seen more.

Main results:

* `ChangeVector.get_raise` — raising changes one entry, and never lowers it.
-/

import HubReplication.SortedMap

set_option relaxedAutoImplicit false
set_option autoImplicit false

namespace HubReplication

/-- The highest etag seen from each database. -/
structure ChangeVector where
  entries : SortedMap String Nat
deriving DecidableEq

/-- How two change vectors stand to each other. -/
inductive Standing where
  | equal
  /-- The left one has seen all that the right one has, and more. -/
  | newer
  /-- The right one has seen all that the left one has, and more. -/
  | older
  /-- Each has seen something that the other has not. -/
  | conflict
deriving DecidableEq, Repr

/-- The name of a standing. -/
def Standing.name : Standing → String
  | .equal => "Equal"
  | .newer => "Newer"
  | .older => "Older"
  | .conflict => "Conflict"

namespace ChangeVector

/-- The vector that has seen nothing. -/
def empty : ChangeVector := ⟨.empty⟩

instance : Inhabited ChangeVector := ⟨empty⟩

/-- The highest etag seen from a database, zero if none. -/
def get (cv : ChangeVector) (database : String) : Nat := (cv.entries.get? database).getD 0

/-- Whether no database is listed. -/
def isEmpty (cv : ChangeVector) : Bool := cv.entries.isEmpty

/-- Raise the entry of a database to an etag; entries never go down. -/
def raise (cv : ChangeVector) (database : String) (etag : Nat) : ChangeVector :=
  ⟨cv.entries.insert database (max (cv.get database) etag)⟩

/-- The vector of one entry. -/
def single (database : String) (etag : Nat) : ChangeVector := empty.raise database etag

/-- The larger of both entries for every database. -/
def merge (a b : ChangeVector) : ChangeVector :=
  b.entries.toList.foldl (fun cv e => cv.raise e.1 e.2) a

/-- The databases that either vector lists. -/
def databases (a b : ChangeVector) : List String := a.entries.keys ++ b.entries.keys

/-- How the left vector stands to the right one. -/
def compare (a b : ChangeVector) : Standing :=
  let ahead := (databases a b).any fun d => b.get d < a.get d
  let behind := (databases a b).any fun d => a.get d < b.get d
  match ahead, behind with
  | false, false => .equal
  | true, false => .newer
  | false, true => .older
  | true, true => .conflict

/-- Whether the left vector has seen all that the right one has. -/
def dominates (a b : ChangeVector) : Bool :=
  match compare a b with
  | .equal | .newer => true
  | .older | .conflict => false

@[simp] theorem get_empty (d : String) : empty.get d = 0 := rfl

theorem get_raise (cv : ChangeVector) (d d' : String) (n : Nat) :
    (cv.raise d n).get d' = if d' = d then max (cv.get d) n else cv.get d' := by
  simp only [get, raise, SortedMap.get?_insert]
  by_cases h : d' = d
  · subst h; simp [Std.ReflCmp.compare_self]
  · have : Ord.compare d' d ≠ .eq := fun hc => h (Std.LawfulEqOrd.eq_of_compare hc)
    simp [h, this]

end ChangeVector

end HubReplication
