/-
**Sessions that have to stop.**

A session that was cancelled waits for the acknowledgement of what is in flight and then says
goodbye.  Where its peer is gone nobody acknowledges anything, and nobody takes what it says; then
every turn brings it nearer to its end.  It breaks off what it is writing, finds out that a batch
cannot be sent, and reads what still arrives until the stream ends.

Main definitions:

* `Session.turnsLeft` — in how many turns a session is done, but for reading what still arrives;
* `Session.Nears` — a turn brings a session nearer to its end.

Main results:

* `Session.nears_handle` — whatever the session deals with brings it nearer to its end.
-/

import HubReplication.Proofs.Session.Noticing
import HubReplication.Session.Turn

set_option relaxedAutoImplicit false
set_option autoImplicit false

namespace HubReplication

/-- Nothing can be written to a peer that is gone. -/
theorem LocalSide.exists_write_error {side : LocalSide} (h : side.reachable = false) (frame : Frame)
    (compression : FrameCompression) : ∃ e, side.write frame compression = .error e := by
  unfold write
  split
  · exact ⟨_, rfl⟩
  · rw [h]
    exact ⟨_, rfl⟩

namespace Session

/-- In how many turns a session is done that was cancelled and whose peer is gone, but for reading
what still arrives. -/
def turnsLeft (s : Session) : Nat :=
  if s.writing.isSome then 3
  else if s.isScanDue then 2
  else if s.drainUntil.isNone then 1
  else 0

/-- A turn brings a session nearer to its end. -/
inductive Nears (s : Session) (event : SessionEvent) (t : SessionTurn) : Prop
  | ends (h : t.verdict ≠ .going)
  | fewer (h : t.session.turnsLeft < s.turnsLeft)
  /-- What arrived was taken off the stream. -/
  | reads {frame : Frame} (hevent : event = .arrived frame)
      (h : t.session.turnsLeft ≤ s.turnsLeft)

variable {s : Session} {side : LocalSide} {now announcements : Nat} {wall : Instant}
  {delivery : Delivery} {received : Received} {event : SessionEvent}

/-! ### Turns left -/

theorem turnsLeft_of_writing (h : s.writing.isSome = true) : s.turnsLeft = 3 := if_pos h

theorem turnsLeft_le_of_not_writing (h : s.writing = none) : s.turnsLeft ≤ 2 := by
  unfold turnsLeft
  rw [h]
  split
  · cases ‹_›
  · split
    · exact Nat.le_refl _
    · split <;> omega

theorem turnsLeft_of_draining (hwriting : s.writing = none) (hdrain : s.drainUntil.isSome = true) :
    s.turnsLeft = 0 := by
  have hnone : s.drainUntil.isNone = false := by
    rw [← Option.not_isSome, hdrain]
    rfl
  simp [turnsLeft, isScanDue, hwriting, hnone]

/-! ### Taking leave of nobody -/

theorem verdict_finish_of_gone (h : side.reachable = false) : (s.finish side).verdict ≠ .going := by
  obtain ⟨e, he⟩ := side.exists_write_error h (.close "replication stopped") s.terms.compression
  unfold finish
  rw [he]
  exact nofun

/-- A session that takes leave of nobody ends, or still waits for an acknowledgement. -/
theorem nears_finishIfIdle {s' : Session} {side' : LocalSide} (h : side'.reachable = false)
    (hwaits : s.Nears event ⟨s', side', .going⟩) : s.Nears event (s'.finishIfIdle side') := by
  unfold finishIfIdle
  split
  · exact .ends (verdict_finish_of_gone h)
  · exact hwaits

/-- A cancelled session that waits for an acknowledgement reads what arrives. -/
theorem nears_drain (h : side.reachable = false) (hwriting : s.writing = none)
    (hdrain : s.drainUntil.isSome = true)
    (hevent : (∃ frame, event = .arrived frame) ∨ (∃ e, event = .unreadable e) ∨ event = .ended) :
    s.Nears event (s.drain side event) := by
  rcases hevent with ⟨frame, rfl⟩ | ⟨e, rfl⟩ | rfl
  · cases frame with
    | ack ack =>
        unfold drain acknowledge
        dsimp only
        split
        · -- What was in flight is acknowledged after all, and nothing is any more.
          rename_i hacknowledged
          split at hacknowledged <;> cases hacknowledged
          refine nears_finishIfIdle h (.reads rfl ?_)
          rw [turnsLeft_of_draining hwriting hdrain]
          exact Nat.le_of_eq (turnsLeft_of_draining hwriting hdrain)
        · rename_i hrefused
          split at hrefused <;> cases hrefused
          · exact .ends (verdict_finish_of_gone h)
          · exact .ends (verdict_finish_of_gone h)
    | _ => exact .reads rfl (Nat.le_refl _)
  · exact .ends (verdict_finish_of_gone h)
  · exact .ends (verdict_finish_of_gone h)

/-! ### Any turn -/

/-- A batch cannot be sent, and there is none to send any more. -/
theorem nears_send (h : side.reachable = false) (hwriting : s.writing = none)
    (hdue : s.isScanDue = true) : s.Nears event (s.send side now wall) := by
  have htwo : s.turnsLeft = 2 := by simp [turnsLeft, hwriting, hdue]
  have hfewer {s' : Session} {side' : LocalSide} {v : Verdict} (hwriting' : s'.writing = none)
      (hscan : s'.scan = false) : s.Nears event ⟨s', side', v⟩ := by
    refine .fewer ?_
    rw [htwo]
    simp only [turnsLeft, hwriting', isScanDue, hscan, Option.isSome_none, Bool.false_eq_true,
      Bool.and_false, Bool.false_and, if_false]
    split <;> omega
  unfold send
  dsimp only
  split
  · exact hfewer hwriting rfl
  · split
    · exact .ends (by simp)
    · rename_i chosen _
      obtain ⟨e, he⟩ := side.exists_write_error h (.batch ⟨chosen.items, chosen.lastEtag⟩)
        s.terms.compression
      -- It does not matter whether the session is to be woken for more.
      cases chosen.readyIn
      all_goals
        dsimp only
        rw [he]
        split
        · exact hfewer hwriting rfl
        · exact .ends (by simp)

/-- What was being written is broken off, or was taken before the peer went. -/
theorem nears_of_writing {w : Writing} (hwriting : s.writing = some w)
    (hevent : event = .written ∨ event = .severed) :
    s.Nears event (s.handle side now wall event) := by
  have hthree : s.turnsLeft = 3 := turnsLeft_of_writing (by rw [hwriting]; rfl)
  have hfewer {s' : Session} {side' : LocalSide} {v : Verdict} (h : s'.writing = none) :
      s.Nears event ⟨s', side', v⟩ := by
    refine .fewer ?_
    rw [hthree]
    exact Nat.lt_succ_of_le (turnsLeft_le_of_not_writing h)
  unfold handle
  rw [hwriting]
  rcases hevent with rfl | rfl
  · cases w <;> exact hfewer rfl
  · cases w <;> exact .ends nofun

/-- Whatever a session deals with that was cancelled and whose peer is gone, it comes nearer to its
end. -/
theorem nears_handle (h : side.reachable = false)
    (hnext : s.next? now true announcements delivery received = some event)
    (hreceived : received ≠ .pending) : s.Nears event (s.handle side now wall event) := by
  have hstream (hwriting : s.writing = none) (hstreams : s.drainUntil = none) :
      s.handle side now wall event = s.stream side now wall event := by
    simp only [handle, hwriting, hstreams, Option.isSome_none, Bool.false_eq_true, if_false]
  have hdrain (hwaits : s.Waits) (hstays : s.drainUntil = none → true = false)
      (hevent : (∃ f, event = .arrived f) ∨ (∃ e, event = .unreadable e) ∨ event = .ended) :
      s.Nears event (s.handle side now wall event) := by
    have hdrains : s.drainUntil.isSome = true :=
      Option.isSome_iff_ne_none.2 fun hnone => Bool.noConfusion (hstays hnone)
    have hturn : s.handle side now wall event = s.drain side event := by
      simp only [handle, hwaits.writing, hdrains, if_true]
    rw [hturn]
    exact nears_drain h hwaits.writing hdrains hevent
  cases notices_of_next? hnext with
  | written hwriting _ =>
      obtain ⟨w, hw⟩ := Option.isSome_iff_exists.1 hwriting
      exact nears_of_writing hw (.inl rfl)
  | severed hwriting _ =>
      obtain ⟨w, hw⟩ := Option.isSome_iff_exists.1 hwriting
      exact nears_of_writing hw (.inr rfl)
  | scan hwriting hdue =>
      have hstreams : s.drainUntil = none := by
        simp only [isScanDue, Bool.and_eq_true, Option.isNone_iff_eq_none] at hdue
        exact hdue.1.1
      rw [hstream hwriting hstreams]
      exact nears_send h hwriting hdue
  | cancelled hwaits hstreams _ =>
      have hone : s.turnsLeft = 1 := by simp [turnsLeft, hwaits.writing, hwaits.idle, hstreams]
      rw [hstream hwaits.writing hstreams]
      refine nears_finishIfIdle h (.fewer ?_)
      rw [hone]
      exact Nat.lt_succ_of_le (Nat.le_of_eq (turnsLeft_of_draining hwaits.writing rfl))
  | @arrived f _ hwaits hstays _ => exact hdrain hwaits hstays (.inl ⟨f, rfl⟩)
  | @unreadable e _ hwaits hstays _ => exact hdrain hwaits hstays (.inr (.inl ⟨e, rfl⟩))
  | ended hwaits hstays _ => exact hdrain hwaits hstays (.inr (.inr rfl))
  | drained _ hpending _ _ => exact absurd hpending hreceived
  | changed _ hpending _ _ _ => exact absurd hpending hreceived
  | woke _ hpending _ _ _ => exact absurd hpending hreceived
  | beat _ hpending _ _ => exact absurd hpending hreceived

end Session

end HubReplication
