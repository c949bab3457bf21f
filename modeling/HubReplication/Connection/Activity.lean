/-
**Databases in use.**

Streaming connections are counted by database, case aside.  A database that is counted is not
unloaded.

Main definitions:

* `Activity` — the counts;
* `Activity.enter`, `Activity.leave` — a connection comes and goes;
* `Activity.count`, `Activity.canUnload` — what the counts say.

Main results:

* `Activity.count_enter`, `Activity.count_leave` — a connection counts for its database and no other,
  until it goes.
-/

import HubReplication.SortedMap
import HubReplication.Text.Ascii

set_option relaxedAutoImplicit false
set_option autoImplicit false

namespace HubReplication

/-- How many connections each database has, under its name in small letters. -/
structure Activity where
  counts : SortedMap String Nat

namespace Activity

/-- No connection. -/
def empty : Activity := ⟨.empty⟩

instance : Inhabited Activity := ⟨empty⟩

/-- How many connections a database has. -/
def count (a : Activity) (database : String) : Nat :=
  (a.counts.get? (Text.asciiLower database)).getD 0

/-- A connection of a database comes. -/
def enter (a : Activity) (database : String) : Activity :=
  ⟨a.counts.insert (Text.asciiLower database) (a.count database + 1)⟩

/-- A connection of a database goes; a count of zero is not kept. -/
def leave (a : Activity) (database : String) : Activity :=
  if a.count database ≤ 1 then ⟨a.counts.erase (Text.asciiLower database)⟩
  else ⟨a.counts.insert (Text.asciiLower database) (a.count database - 1)⟩

/-- Whether a database may be unloaded. -/
def canUnload (a : Activity) (database : String) : Bool := a.count database == 0

theorem count_enter (a : Activity) (d e : String) :
    (a.enter d).count e = if Text.sameName d e then a.count e + 1 else a.count e := by
  unfold count enter
  rw [SortedMap.get?_insert]
  by_cases h : Text.asciiLower d = Text.asciiLower e
  · have hs : Text.sameName d e = true := Text.sameName_eq_true_iff.2 h
    simp [h, hs, count]
  · have hs : ¬ Text.sameName d e = true := mt Text.sameName_eq_true_iff.1 h
    simp [hs, Std.LawfulEqCmp.compare_eq_iff_eq, Ne.symm h]

theorem count_leave (a : Activity) (d e : String) :
    (a.leave d).count e = if Text.sameName d e then a.count e - 1 else a.count e := by
  unfold leave
  by_cases h : Text.asciiLower d = Text.asciiLower e
  · have hs : Text.sameName d e = true := Text.sameName_eq_true_iff.2 h
    have hcount : a.count d = a.count e := by
      unfold count
      rw [h]
    rw [if_pos hs, hcount, h]
    split
    · rename_i hlast
      simp only [count, SortedMap.get?_erase_self, Option.getD_none]
      exact (Nat.sub_eq_zero_of_le hlast).symm
    · simp only [count, SortedMap.get?_insert_self, Option.getD_some]
  · have hs : ¬ Text.sameName d e = true := mt Text.sameName_eq_true_iff.1 h
    rw [if_neg hs]
    split
    · simp only [count, SortedMap.get?_erase_of_ne _ (Ne.symm h)]
    · simp only [count, SortedMap.get?_insert_of_ne _ _ (Ne.symm h)]

end Activity

end HubReplication
