/-
**Regular beats.**

What is done at regular intervals is due again one interval after it was due.  Where it comes late,
by more than a slack, the beats after it are counted from the late one.

Main definitions:

* `Beat.next` — when the next beat is due.

Main results:

* `Beat.lt_next` — the next beat comes later, whether or not this one is late.
-/

set_option relaxedAutoImplicit false
set_option autoImplicit false

namespace HubReplication.Beat

/-- By how much a beat may be late without moving the next ones, in milliseconds. -/
def slack : Nat := 5

/-- When the beat after one is due that was due at a time and comes now. -/
def next (due now interval : Nat) : Nat := (if due + slack < now then now else due) + interval

theorem lt_next {due now interval : Nat} (h : 0 < interval) : due < next due now interval := by
  unfold next
  split <;> omega

end HubReplication.Beat
