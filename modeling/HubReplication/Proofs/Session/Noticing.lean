/-
**What a session notices.**

A session deals with what becomes of its writing before anything else, then with what there is to
look for, then with being cancelled, then with what arrived; only where nothing arrived does it look
at the store and at the clock.  Whatever it deals with next was noticed for one of these reasons,
and all that is said of the next event of a session is read off them.

Main definitions:

* `Session.Waits` — a session writes nothing and has nothing to look for;
* `Session.Notices` — what a session deals with next, and why.

Main results:

* `Session.notices_of_next?` — there is nothing else that it deals with;
* `Session.exists_next?_of_gone` — a session that was cancelled always has something to deal with
  when its peer is gone.
-/

import HubReplication.Session.Basic

set_option relaxedAutoImplicit false
set_option autoImplicit false

namespace HubReplication

namespace Session

/-- A session waits: it writes nothing, and there is nothing to look for. -/
structure Waits (s : Session) : Prop where
  writing : s.writing = none
  idle : s.isScanDue = false

/-- What a session deals with next, and why: what becomes of what it writes, or what there is to
look for, or else the first of what is there. -/
inductive Notices (s : Session) (now announcements : Nat) (cancelled : Bool) (delivery : Delivery)
    (received : Received) : SessionEvent → Prop
  | written (hwriting : s.writing.isSome = true) (hpassed : delivery = .passed) :
      Notices s now announcements cancelled delivery received .written
  | severed (hwriting : s.writing.isSome = true) (hbroken : delivery = .broken) :
      Notices s now announcements cancelled delivery received .severed
  | scan (hwriting : s.writing = none) (hdue : s.isScanDue = true) :
      Notices s now announcements cancelled delivery received .scan
  | cancelled (h : s.Waits) (hstreams : s.drainUntil = none) (hcancelled : cancelled = true) :
      Notices s now announcements cancelled delivery received .cancelled
  | arrived {frame : Frame} {rest : List UInt8} (h : s.Waits)
      (hstays : s.drainUntil = none → cancelled = false) (hframe : received = .frame frame rest) :
      Notices s now announcements cancelled delivery received (.arrived frame)
  | unreadable {error : ReplicationError} {rest : List UInt8} (h : s.Waits)
      (hstays : s.drainUntil = none → cancelled = false) (hfailed : received = .failed error rest) :
      Notices s now announcements cancelled delivery received (.unreadable error)
  | ended (h : s.Waits) (hstays : s.drainUntil = none → cancelled = false)
      (hended : received = .ended) :
      Notices s now announcements cancelled delivery received .ended
  | drained {deadline : Nat} (h : s.Waits) (hpending : received = .pending)
      (hdrains : s.drainUntil = some deadline) (hdue : deadline ≤ now) :
      Notices s now announcements cancelled delivery received .drained
  | changed (h : s.Waits) (hpending : received = .pending) (hstreams : s.drainUntil = none)
      (hsends : s.terms.outbound.isSome = true) (hnews : s.seen ≠ announcements) :
      Notices s now announcements cancelled delivery received .changed
  | woke {wake : Nat} (h : s.Waits) (hpending : received = .pending)
      (hstreams : s.drainUntil = none) (hwake : s.wakeAt = some wake) (hdue : wake ≤ now) :
      Notices s now announcements cancelled delivery received .woke
  | beat (h : s.Waits) (hpending : received = .pending) (hstreams : s.drainUntil = none)
      (hdue : s.nextBeat ≤ now) :
      Notices s now announcements cancelled delivery received .beat

variable {s : Session} {now announcements : Nat} {cancelled : Bool} {delivery : Delivery}
  {received : Received} {event : SessionEvent}

/-- There is nothing else that a session deals with. -/
theorem notices_of_next? (h : s.next? now cancelled announcements delivery received = some event) :
    s.Notices now announcements cancelled delivery received event := by
  unfold next? at h
  split at h
  · rename_i hwriting
    cases delivery <;> cases h
    · exact .written hwriting rfl
    · exact .severed hwriting rfl
  · rename_i hfree
    have hfree : s.writing = none := by simpa using hfree
    split at h
    · rename_i hdue
      cases h
      exact .scan hfree hdue
    · rename_i hidle
      have hwaits : s.Waits := ⟨hfree, by simpa using hidle⟩
      split at h
      · rename_i hstopped
        simp only [Bool.and_eq_true, Option.isNone_iff_eq_none] at hstopped
        cases h
        exact .cancelled hwaits hstopped.1 hstopped.2
      · rename_i hgoes
        have hstays : s.drainUntil = none → cancelled = false := by
          intro hstreams
          simpa [hstreams] using hgoes
        cases received with
        | frame frame rest =>
            cases h
            exact .arrived hwaits hstays rfl
        | failed error rest =>
            cases h
            exact .unreadable hwaits hstays rfl
        | ended =>
            cases h
            exact .ended hwaits hstays rfl
        | pending =>
            dsimp only at h
            split at h
            · rename_i hdrains
              split at h <;> cases h
              exact .drained hwaits rfl hdrains ‹_›
            · rename_i hstreams
              split at h
              · rename_i hnews
                cases h
                simp only [Bool.and_eq_true, bne_iff_ne] at hnews
                exact .changed hwaits rfl hstreams hnews.1 hnews.2
              · split at h
                · rename_i hwake
                  cases h
                  obtain ⟨wake, hwakeAt, hdue⟩ := (Option.any_eq_true _ _).1 hwake
                  exact .woke hwaits rfl hstreams hwakeAt (of_decide_eq_true hdue)
                · split at h <;> cases h
                  exact .beat hwaits rfl hstreams ‹_›

/-! ### What it says of single events -/

/-- Nothing arrives at a session while it is writing. -/
theorem writing_of_next?_arrived {frame : Frame}
    (h : s.next? now cancelled announcements delivery received = some (.arrived frame)) :
    s.writing = none := by
  cases notices_of_next? h with
  | arrived h _ _ => exact h.writing

/-- A frame that a session deals with comes off its stream. -/
theorem received_of_next?_arrived {frame : Frame}
    (h : s.next? now cancelled announcements delivery received = some (.arrived frame)) :
    ∃ rest, received = .frame frame rest := by
  cases notices_of_next? h with
  | arrived _ _ hframe => exact ⟨_, hframe⟩

/-- What a session fails to read comes off its stream. -/
theorem received_of_next?_unreadable {error : ReplicationError}
    (h : s.next? now cancelled announcements delivery received = some (.unreadable error)) :
    ∃ rest, received = .failed error rest := by
  cases notices_of_next? h with
  | unreadable _ _ hfailed => exact ⟨_, hfailed⟩

/-- Something is looked for to be sent only when nothing is in flight. -/
theorem inFlight_of_next?_scan
    (h : s.next? now cancelled announcements delivery received = some .scan) :
    s.inFlight = none := by
  cases notices_of_next? h with
  | scan _ hdue =>
      simp only [isScanDue, Bool.and_eq_true, Option.isNone_iff_eq_none] at hdue
      exact hdue.2

/-- Only who was cancelled is told to stop. -/
theorem cancelled_of_next?
    (h : s.next? now cancelled announcements delivery received = some .cancelled) :
    cancelled = true := by
  cases notices_of_next? h with
  | cancelled _ _ hcancelled => exact hcancelled

/-- Unless the line still holds what is being written, there always is something to deal with once
nothing arrives any more but what is there. -/
theorem exists_next?_of_gone (s : Session) (now announcements : Nat)
    (hdelivery : delivery ≠ .held) (hreceived : received ≠ .pending) :
    ∃ event, s.next? now true announcements delivery received = some event := by
  unfold next?
  split
  · cases delivery with
    | held => exact absurd rfl hdelivery
    | passed | broken => exact ⟨_, rfl⟩
  · split
    · exact ⟨_, rfl⟩
    · split
      · exact ⟨_, rfl⟩
      · cases received with
        | pending => exact absurd rfl hreceived
        | frame | failed | ended => exact ⟨_, rfl⟩

end Session

end HubReplication
