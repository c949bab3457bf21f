/-
**Taking leave and running out of dates.**

A session takes leave only after it was told to stop: nothing else sets the time until which it
waits for what is still owed.  And it breaks off at a date that no calendar has only over an item
that its delay moves off the calendar.

Main results:

* `Session.drainUntil_handle` — only who is told to stop takes leave;
* `OutboundPlan.exists_of_select_eq_none` — which item the calendar has no date for;
* `Session.exists_of_beyondCalendar` — where a session breaks off.
-/

import HubReplication.Session.Turn

set_option relaxedAutoImplicit false
set_option autoImplicit false

namespace HubReplication

namespace Session

variable (s : Session) (side : LocalSide) (now : Nat) (wall : Instant)

/-! ### Taking leave -/

theorem drainUntil_finish : (s.finish side).session.drainUntil = s.drainUntil := by
  unfold finish
  split <;> rfl

theorem drainUntil_finishIfIdle : (s.finishIfIdle side).session.drainUntil = s.drainUntil := by
  unfold finishIfIdle
  split
  · exact drainUntil_finish s side
  · rfl

theorem drainUntil_acknowledge (ack : Ack) :
    (s.acknowledge side ack).session.drainUntil = s.drainUntil := by
  unfold acknowledge
  split <;> rfl

theorem drainUntil_take (batch : Batch) :
    (s.take side batch).session.drainUntil = s.drainUntil := by
  unfold take
  split
  · rfl
  · split
    · rfl
    · simp only
      split <;> rfl

theorem drainUntil_receive (frame : Frame) :
    (s.receive side frame).session.drainUntil = s.drainUntil := by
  cases frame with
  | ack ack => exact drainUntil_acknowledge s side ack
  | batch batch => exact drainUntil_take s side batch
  | heartbeat | close | handshake | response | resume => rfl

theorem drainUntil_beat : (s.beat side now).session.drainUntil = s.drainUntil := by
  unfold beat
  simp only
  split
  · rfl
  · split <;> rfl

theorem drainUntil_send : (s.send side now wall).session.drainUntil = s.drainUntil := by
  unfold send
  simp only
  split
  · rfl
  · split
    · rfl
    · rename_i chosen _
      -- When the next item is old enough is bookkeeping, in either case.
      cases chosen.readyIn <;> simp only
      all_goals
        split
        · rfl
        · split <;> rfl

theorem drainUntil_drain (event : SessionEvent) :
    (s.drain side event).session.drainUntil = s.drainUntil := by
  unfold drain
  split
  · rename_i ack
    have hack := drainUntil_acknowledge s side ack
    split <;> rename_i heq <;> rw [heq] at hack
    · rw [drainUntil_finishIfIdle]
      exact hack
    · rw [drainUntil_finish]
      exact hack
  · exact drainUntil_finish s side
  · exact drainUntil_finish s side
  · exact drainUntil_finish s side
  · rfl

/-- While a session streams, only who is told to stop takes leave. -/
theorem drainUntil_stream {event : SessionEvent} (h : event ≠ .cancelled) :
    (s.stream side now wall event).session.drainUntil = s.drainUntil := by
  cases event with
  | cancelled => exact absurd rfl h
  | scan => exact drainUntil_send s side now wall
  | arrived frame => exact drainUntil_receive { s with lastSeen := now } side frame
  | beat => exact drainUntil_beat s side now
  | unreadable | ended | changed | woke | drained | written | severed => rfl

/-- Only who is told to stop takes leave. -/
theorem drainUntil_handle {event : SessionEvent} (h : event ≠ .cancelled) :
    (s.handle side now wall event).session.drainUntil = s.drainUntil := by
  unfold handle
  split
  · rename_i w _
    cases w <;> rfl
  · rename_i w _
    cases w <;> rfl
  · rfl
  · split
    · exact drainUntil_drain s side _
    · exact drainUntil_stream s side now wall h

end Session

/-! ### Running out of dates -/

/-- Under a delay the calendar has no date for when an item may be sent, or for what was written
long enough ago. -/
def Item.OffCalendar (item : Item) (wall : Instant) (delay : Nat) : Prop :=
  item.isOlderThan? wall delay = none ∨ OutboundPlan.readyIn? item wall delay = none

/-- An instant in range that is moved by nothing stays where it is. -/
theorem Instant.add?_zero {t : Instant} (h : inRange t.seconds = true) : t.add? ⟨0⟩ = some t := by
  by_cases hleap : 1000000000 ≤ (t.nanos : Int)
  · simp [add?, Span.wholeSeconds, Span.subNanos, hleap]
  · have hnanos : ¬(t.nanos : Int) < 0 := by omega
    simp [add?, Span.wholeSeconds, Span.subNanos, hleap, hnanos, h]

/-- What may be sent at once has its dates in the calendar. -/
theorem Item.not_offCalendar_zero {item : Item} {wall : Instant}
    (hwall : Instant.inRange wall.seconds = true)
    (hitem : Instant.inRange item.lastModified.seconds = true) : ¬item.OffCalendar wall 0 := by
  have hdue : wall.sub? (Span.ofMillis 0) = some wall := Instant.add?_zero hwall
  have hready : item.lastModified.add? (Span.ofMillis 0) = some item.lastModified :=
    Instant.add?_zero hitem
  rintro (hnone | hnone)
  · simp [isOlderThan?, hdue] at hnone
  · simp [OutboundPlan.readyIn?, hready] at hnone

theorem OutboundPlan.exists_of_select_eq_none {plan : OutboundPlan} {wall : Instant} {etag : Nat}
    {items : List Item} (h : plan.select wall etag items = none) :
    ∃ item ∈ items, item.OffCalendar wall plan.delay := by
  induction items generalizing etag with
  | nil => cases h
  | cons item rest ih =>
      unfold select at h
      split at h
      · rename_i hnone
        exact ⟨item, List.mem_cons_self, .inl hnone⟩
      · exact ⟨item, List.mem_cons_self, .inr (Option.map_eq_none_iff.1 h)⟩
      · obtain ⟨later, hlater, hoff⟩ := ih (Option.map_eq_none_iff.1 h)
        exact ⟨later, List.mem_cons_of_mem item hlater, hoff⟩

namespace Session

variable {s : Session} {side : LocalSide} {now : Nat} {wall : Instant} {event : SessionEvent}

theorem verdict_finish_ne : (s.finish side).verdict ≠ .beyondCalendar := by
  unfold finish
  split <;> (intro h; cases h)

theorem verdict_finishIfIdle_ne : (s.finishIfIdle side).verdict ≠ .beyondCalendar := by
  unfold finishIfIdle
  split
  · exact verdict_finish_ne
  · intro h
    cases h

theorem verdict_receive_ne (frame : Frame) :
    (s.receive side frame).verdict ≠ .beyondCalendar := by
  intro h
  unfold receive at h
  split at h
  · cases h
  · unfold acknowledge at h
    split at h <;> cases h
  · unfold take at h
    split at h
    · cases h
    · split at h
      · cases h
      · simp only at h
        split at h <;> cases h
  · cases h
  · cases h

theorem verdict_beat_ne : (s.beat side now).verdict ≠ .beyondCalendar := by
  intro h
  unfold beat at h
  simp only at h
  split at h
  · cases h
  · split at h <;> cases h

theorem verdict_drain_ne : (s.drain side event).verdict ≠ .beyondCalendar := by
  unfold drain
  split
  · split
    · exact verdict_finishIfIdle_ne
    · exact verdict_finish_ne
  · exact verdict_finish_ne
  · exact verdict_finish_ne
  · exact verdict_finish_ne
  · intro h
    cases h

theorem select_of_verdict_send (h : (s.send side now wall).verdict = .beyondCalendar) :
    ∃ plan, s.terms.outbound = some plan ∧
      plan.select wall s.cursor
        (side.site.store.changesAfter s.cursor s.terms.maxBatchSize) = none := by
  unfold send at h
  simp only at h
  split at h
  · cases h
  · rename_i plan hplan
    split at h
    · rename_i hnone
      exact ⟨plan, hplan, hnone⟩
    · rename_i chosen _
      cases hready : chosen.readyIn <;> simp only [hready] at h
      all_goals
        split at h
        · cases h
        · split at h <;> cases h

/-- A session that streams breaks off over the next batch. -/
theorem select_of_verdict_stream
    (h : (s.stream side now wall event).verdict = .beyondCalendar) :
    ∃ plan, s.terms.outbound = some plan ∧
      plan.select wall s.cursor
        (side.site.store.changesAfter s.cursor s.terms.maxBatchSize) = none := by
  cases event with
  | scan => exact select_of_verdict_send h
  | arrived frame => exact absurd h (verdict_receive_ne frame)
  | cancelled => exact absurd h verdict_finishIfIdle_ne
  | beat => exact absurd h verdict_beat_ne
  | unreadable | ended | changed | woke | drained | written | severed => cases h

/-- A session breaks off over an item that its delay moves off the calendar. -/
theorem exists_of_beyondCalendar
    (h : (s.handle side now wall event).verdict = .beyondCalendar) :
    ∃ plan, s.terms.outbound = some plan ∧
      ∃ item ∈ side.site.store.changesAfter s.cursor s.terms.maxBatchSize,
        item.OffCalendar wall plan.delay := by
  unfold handle at h
  split at h
  · rename_i w _
    cases w <;> cases h
  · rename_i w _
    cases w <;> cases h
  · cases h
  · split at h
    · exact absurd h verdict_drain_ne
    · obtain ⟨plan, hplan, hnone⟩ := select_of_verdict_stream h
      exact ⟨plan, hplan, OutboundPlan.exists_of_select_eq_none hnone⟩

end Session

end HubReplication
