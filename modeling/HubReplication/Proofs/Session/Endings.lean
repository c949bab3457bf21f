/-
**How sessions end.**

A session goes on from turn to turn until one of them ends it.  Most ends are nobody's fault: the
session was cancelled, the peer said goodbye, the connection is lost, the peer is silent, or the
store fails.  Then there are the limits of a frame: what a session has to say may be longer than a
frame can be, and what arrives may not be readable.  All that is left is an offence of the peer: an
acknowledgement that nobody waits for, a batch that was not agreed on, or a frame that is out of
place.

What is not an offence follows from what a session is owed: the acknowledgement of the batch that it
is writing or that is in flight.  There is at most one, and a turn that goes on says a batch only
when there is none.

Main definitions:

* `Session.owed` — the batch of which the acknowledgement is owed;
* `Session.Parting`, `Session.Oversize`, `Session.Offends` — why a session may end;
* `Session.Talk` — what a turn that goes on says, and what is owed after it.

Main results:

* `Session.handle_course` — every turn goes on so, or ends so, or leaves the calendar.
-/

import HubReplication.Proofs.Frame.Size
import HubReplication.Proofs.Session.Acknowledgements

set_option relaxedAutoImplicit false
set_option autoImplicit false

namespace HubReplication

/-- A heartbeat is never too long. -/
theorem Frame.exists_write_heartbeat (compression : FrameCompression) :
    ∃ bytes, Frame.heartbeat.write compression = .ok bytes :=
  Frame.exists_write_of_room (by decide +kernel) compression

/-- What cannot be written is too long, or nobody is there to take it. -/
theorem LocalSide.write_eq_error {side : LocalSide} {frame : Frame}
    {compression : FrameCompression} {e : ReplicationError}
    (h : side.write frame compression = .error e) :
    frame.write compression = .error e ∨ e = LocalSide.gone := by
  unfold LocalSide.write at h
  split at h
  · rename_i hframe
    cases h
    exact .inl hframe
  · split at h <;> cases h
    exact .inr rfl

namespace Session

/-! ### What is owed -/

/-- The etag up to which an acknowledgement is owed: of the batch that is being written, or of the
one in flight. -/
def owed (s : Session) : List Nat :=
  match s.writing with
  | some (.batch _ _ lastEtag) => [lastEtag]
  | _ => s.inFlight.toList

/-- Goodbye is only said once the session was cancelled. -/
def Mannered (s : Session) : Prop := s.writing = some .goodbye → s.drainUntil.isSome = true

/-- What is owed after a turn that goes on, and what was said in it. -/
inductive Talk (s : Session) (event : SessionEvent) : List Nat → List Frame → Prop
  /-- Nothing but heartbeats and goodbyes. -/
  | quiet {said : List Frame} (hsaid : ∀ f ∈ said, f.isControl = true) : Talk s event s.owed said
  /-- Nothing was owed, and a batch was sent. -/
  | sent (batch : Batch) (howed : s.owed = []) : Talk s event [batch.lastEtag] [.batch batch]
  /-- The acknowledgement came that was owed. -/
  | settled {ack : Ack} {said : List Frame} (hevent : event = .arrived (.ack ack))
      (howed : s.owed = [ack.lastEtag]) (hsaid : ∀ f ∈ said, f.isControl = true) :
      Talk s event [] said
  /-- A batch came and was acknowledged. -/
  | answered {batch : Batch} {cv : ChangeVector} (hevent : event = .arrived (.batch batch)) :
      Talk s event s.owed [.ack ⟨batch.lastEtag, cv⟩]

/-! ### Why a session ends -/

/-- An end that is nobody's fault. -/
inductive Parting (s : Session) (event : SessionEvent) : Outcome Unit → Prop
  | cancelled (h : event = .cancelled ∨ s.drainUntil.isSome = true) : Parting s event (.ok ())
  | closed {reason : String} (h : event = .arrived (.close reason)) :
      Parting s event
        (.error (.transient (s.terms.peer ++ " closed the connection: " ++ reason)))
  /-- The connection is lost: the stream ended or failed, or the line broke. -/
  | lost {e : ReplicationError} (hkind : e.kind = .transient)
      (h : event = .ended ∨ event = .severed ∨ event = .unreadable e ∨ e = LocalSide.gone) :
      Parting s event (.error e)
  | silent {now : Nat} (hevent : event = .beat) (h : s.patience < now - s.lastSeen) :
      Parting s event (.error (s.silence now))
  | storage {batch : Batch} {e : ReplicationError} (hevent : event = .arrived (.batch batch))
      (hkind : e.kind = .storage) : Parting s event (.error e)

/-- The batch that a session would send, or its acknowledgement of one, is longer than a frame can
be. -/
inductive Oversize (s : Session) (event : SessionEvent) (e : ReplicationError) : Prop
  | batch {batch : Batch} (hevent : event = .scan)
      (h : (Frame.batch batch).write s.terms.compression = .error e)
  | ack {batch : Batch} {cv : ChangeVector} (hevent : event = .arrived (.batch batch))
      (h : (Frame.ack ⟨batch.lastEtag, cv⟩).write s.terms.compression = .error e)

/-- What is out of place while a session streams. -/
def Offends (s : Session) : Frame → Prop
  | .heartbeat | .close _ => False
  | .ack ack => s.inFlight ≠ some ack.lastEtag
  | .batch batch => ∃ e, s.checkBatch batch = .error e
  | .handshake _ | .response _ | .resume _ => True

/-- Why a session is over. -/
inductive Ends (s : Session) (event : SessionEvent) : Outcome Unit → Prop
  | parted {r : Outcome Unit} (h : s.Parting event r) : Ends s event r
  | oversize {e : ReplicationError} (h : s.Oversize event e) : Ends s event (.error e)
  | unreadable {e : ReplicationError} (hevent : event = .unreadable e) : Ends s event (.error e)
  | offended {frame : Frame} {e : ReplicationError} (hevent : event = .arrived frame)
      (hwriting : s.writing = none) (h : s.Offends frame) : Ends s event (.error e)

/-- A turn goes on and says something after what was said before, or ends the session, or leaves
the calendar. -/
inductive Course (s : Session) (side : LocalSide) (event : SessionEvent) (t : SessionTurn) : Prop
  | goes (said : List WrittenFrame) (hverdict : t.verdict = .going)
      (hsent : t.side.sent = side.sent ++ said)
      (hstatus : t.side.runtime.status = side.runtime.status)
      (htalk : s.Talk event t.session.owed (said.map (·.frame))) (hmannered : t.session.Mannered)
  | ends {r : Outcome Unit} (hverdict : t.verdict = .over r) (hsent : t.side.sent = side.sent)
      (hstatus : t.side.runtime.status = side.runtime.status) (h : s.Ends event r)
  | breaks (hverdict : t.verdict = .beyondCalendar) (hsent : t.side.sent = side.sent)

section Turns

variable {s : Session} {side : LocalSide} {event : SessionEvent}

theorem owed_of_not_writing (h : s.writing = none) : s.owed = s.inFlight.toList := by
  rw [owed, h]

/-- At most one acknowledgement is owed. -/
theorem length_owed_le (s : Session) : s.owed.length ≤ 1 := by
  unfold owed
  split
  · exact Nat.le_refl _
  · cases s.inFlight <;> simp

theorem mannered_of_not_writing (h : s.writing = none) : s.Mannered := by
  intro hgoodbye
  rw [h] at hgoodbye
  cases hgoodbye

/-- Bookkeeping goes on and says nothing. -/
theorem course_of_eq {t : SessionTurn} (hverdict : t.verdict = .going)
    (hsent : t.side.sent = side.sent) (hstatus : t.side.runtime.status = side.runtime.status)
    (howed : t.session.owed = s.owed) (hmannered : t.session.Mannered) : s.Course side event t :=
  .goes [] hverdict (by simp [hsent]) hstatus (howed ▸ .quiet (by simp)) hmannered

/-- After an end that is nobody's fault waiting can help. -/
theorem Parting.isFatal_eq_false {e : ReplicationError} (h : s.Parting event (.error e)) :
    e.isFatal = false := by
  cases h with
  | closed => rfl
  | silent => rfl
  | lost hkind _ => rw [ReplicationError.isFatal, hkind]; rfl
  | storage _ hkind => rw [ReplicationError.isFatal, hkind]; rfl

/-- What cannot be written because nobody is there to take it is lost with the connection. -/
theorem parting_gone : s.Parting event (.error LocalSide.gone) :=
  .lost rfl (.inr (.inr (.inr rfl)))

/-! ### Taking leave -/

/-- Taking leave says goodbye, unless nobody is there to hear it. -/
theorem course_finish {s' : Session} {side' : LocalSide}
    (hcause : event = .cancelled ∨ s.drainUntil.isSome = true)
    (hdrain : s'.drainUntil.isSome = true) (hsent : side'.sent = side.sent)
    (hstatus : side'.runtime.status = side.runtime.status)
    (htalk : ∀ said : List Frame, (∀ f ∈ said, f.isControl = true) →
      s.Talk event s'.inFlight.toList said) : s.Course side event (s'.finish side') := by
  unfold finish
  split
  · rename_i hwrite
    obtain ⟨bytes, -, rfl⟩ := LocalSide.write_eq_ok hwrite
    refine .goes [⟨.close "replication stopped", bytes⟩] rfl (by simp [hsent]) hstatus ?_ ?_
    · exact htalk _ (by simp [Frame.isControl])
    · exact fun _ => hdrain
  · exact .ends rfl hsent hstatus (.parted (.cancelled hcause))

theorem course_finishIfIdle {s' : Session} {side' : LocalSide}
    (hcause : event = .cancelled ∨ s.drainUntil.isSome = true)
    (hdrain : s'.drainUntil.isSome = true) (hwriting : s'.writing = none)
    (hsent : side'.sent = side.sent) (hstatus : side'.runtime.status = side.runtime.status)
    (htalk : ∀ said : List Frame, (∀ f ∈ said, f.isControl = true) →
      s.Talk event s'.inFlight.toList said) : s.Course side event (s'.finishIfIdle side') := by
  unfold finishIfIdle
  split
  · exact course_finish hcause hdrain hsent hstatus htalk
  · refine .goes [] rfl (by simp [hsent]) hstatus ?_ (mannered_of_not_writing hwriting)
    rw [owed_of_not_writing hwriting]
    exact htalk [] (by simp)

/-- A cancelled session ends by taking leave, whatever arrives. -/
theorem course_drain (hwriting : s.writing = none) (hdrain : s.drainUntil.isSome = true) :
    s.Course side event (s.drain side event) := by
  have hquiet : ∀ said : List Frame, (∀ f ∈ said, f.isControl = true) →
      s.Talk event s.inFlight.toList said := fun said hsaid =>
    owed_of_not_writing hwriting ▸ .quiet hsaid
  unfold drain
  split
  · rename_i ack
    by_cases h : s.inFlight = some ack.lastEtag
    · rw [acknowledge_of_inFlight h]
      refine course_finishIfIdle (.inr hdrain) hdrain hwriting rfl rfl fun said hsaid => ?_
      exact .settled rfl (by rw [owed_of_not_writing hwriting, h]; rfl) hsaid
    · rw [acknowledge, if_neg h]
      exact course_finish (.inr hdrain) hdrain rfl rfl hquiet
  · exact course_finish (.inr hdrain) hdrain rfl rfl hquiet
  · exact course_finish (.inr hdrain) hdrain rfl rfl hquiet
  · exact course_finish (.inr hdrain) hdrain rfl rfl hquiet
  · exact course_of_eq rfl rfl rfl rfl (mannered_of_not_writing hwriting)

/-! ### Sending and receiving -/

theorem course_send (hevent : event = .scan) (hwriting : s.writing = none)
    (hflight : s.inFlight = none) (now : Nat) (wall : Instant) :
    s.Course side event (s.send side now wall) := by
  have howed : s.owed = [] := by rw [owed_of_not_writing hwriting, hflight]; rfl
  unfold send
  simp only
  split
  · exact course_of_eq rfl rfl rfl rfl (mannered_of_not_writing hwriting)
  · split
    · exact .breaks rfl rfl
    · rename_i chosen _
      -- When the next item is old enough is bookkeeping, in either case.
      cases chosen.readyIn <;> simp only
      all_goals
        split
        · exact course_of_eq rfl rfl rfl rfl (mannered_of_not_writing hwriting)
        · split
          · rename_i hwrite
            refine .ends rfl rfl rfl ?_
            rcases LocalSide.write_eq_error hwrite with hlong | rfl
            · exact .oversize (.batch hevent hlong)
            · exact .parted parting_gone
          · rename_i hwrite
            obtain ⟨bytes, -, rfl⟩ := LocalSide.write_eq_ok hwrite
            refine .goes [⟨_, bytes⟩] rfl rfl rfl ?_ (fun h => by cases h)
            exact .sent ⟨chosen.items, chosen.lastEtag⟩ howed

theorem course_take {batch : Batch} (hevent : event = .arrived (.batch batch))
    (hwriting : s.writing = none) : s.Course side event (s.take side batch) := by
  unfold take
  split
  · rename_i e hcheck
    exact .ends rfl rfl rfl (.offended hevent hwriting ⟨e, hcheck⟩)
  · split
    · rename_i happly
      refine .ends rfl rfl rfl (.parted (.storage hevent ?_))
      unfold Store.applyBatch at happly
      split at happly <;> cases happly
      rfl
    · rename_i cv store happly
      simp only
      split
      · rename_i hwrite
        refine .ends rfl rfl rfl ?_
        rcases LocalSide.write_eq_error hwrite with hlong | rfl
        · exact .oversize (.ack hevent hlong)
        · exact .parted parting_gone
      · rename_i hwrite
        obtain ⟨bytes, -, rfl⟩ := LocalSide.write_eq_ok hwrite
        have htalk : s.Talk event s.inFlight.toList [.ack ⟨batch.lastEtag, cv⟩] :=
          owed_of_not_writing hwriting ▸ .answered hevent
        exact .goes [⟨_, bytes⟩] rfl rfl rfl htalk (fun h => by cases h)

theorem course_receive {frame : Frame} (hevent : event = .arrived frame)
    (hwriting : s.writing = none) : s.Course side event (s.receive side frame) := by
  have hmannered := mannered_of_not_writing hwriting
  cases frame with
  | heartbeat => exact course_of_eq rfl rfl rfl rfl hmannered
  | batch batch => exact course_take hevent hwriting
  | close reason => exact .ends rfl rfl rfl (.parted (.closed hevent))
  | ack ack =>
      by_cases h : s.inFlight = some ack.lastEtag
      · rw [receive, acknowledge_of_inFlight h]
        refine .goes [] rfl (by simp [LocalSide.onRuntime]) rfl ?_ ?_
        · have howed : s.owed = [ack.lastEtag] := by
            rw [owed_of_not_writing hwriting, h]
            rfl
          have hnone : Talk s event [] [] := .settled hevent howed (by simp)
          simpa [owed, hwriting] using hnone
        · exact mannered_of_not_writing hwriting
      · rw [receive, acknowledge, if_neg h]
        exact .ends rfl rfl rfl (.offended hevent hwriting h)
  | handshake | response | resume => exact .ends rfl rfl rfl (.offended hevent hwriting trivial)

theorem course_beat (hevent : event = .beat) (hwriting : s.writing = none) (now : Nat) :
    s.Course side event (s.beat side now) := by
  unfold beat
  simp only
  split
  · rename_i h
    exact .ends rfl rfl rfl (.parted (.silent hevent h))
  · split
    · rename_i hwrite
      refine .ends rfl rfl rfl ?_
      rcases LocalSide.write_eq_error hwrite with hlong | rfl
      · obtain ⟨bytes, hbytes⟩ := Frame.exists_write_heartbeat s.terms.compression
        cases hlong.symm.trans hbytes
      · exact .parted parting_gone
    · rename_i hwrite
      obtain ⟨bytes, -, rfl⟩ := LocalSide.write_eq_ok hwrite
      have htalk : s.Talk event s.inFlight.toList [.heartbeat] :=
        owed_of_not_writing hwriting ▸ .quiet (by simp [Frame.isControl])
      exact .goes [⟨_, bytes⟩] rfl rfl rfl htalk (fun h => by cases h)

/-! ### Any event -/

/-- When a session last heard of its peer has no part in how it ends. -/
theorem Course.of_lastSeen (now : Nat) {frame : Frame} {t : SessionTurn}
    (h : Course { s with lastSeen := now } side (.arrived frame) t) :
    s.Course side (.arrived frame) t := by
  cases h with
  | breaks hverdict hsent => exact .breaks hverdict hsent
  | goes said hverdict hsent hstatus htalk hmannered =>
      refine .goes said hverdict hsent hstatus ?_ hmannered
      generalize t.session.owed = owed, List.map _ _ = frames at htalk ⊢
      cases htalk with
      | quiet hsaid => exact .quiet hsaid
      | sent batch howed => exact .sent batch howed
      | settled hevent howed hsaid => exact .settled hevent howed hsaid
      | answered hevent => exact .answered hevent
  | ends hverdict hsent hstatus h =>
      refine .ends hverdict hsent hstatus ?_
      cases h with
      | oversize h =>
          cases h with
          | batch hevent h => exact .oversize (.batch hevent h)
          | ack hevent h => exact .oversize (.ack hevent h)
      | unreadable hevent => exact .unreadable hevent
      | offended hevent hwriting h => exact .offended hevent hwriting h
      | parted h =>
          cases h with
          | cancelled h => exact .parted (.cancelled h)
          | closed h => exact .parted (.closed h)
          | lost hkind h => exact .parted (.lost hkind h)
          | silent hevent _ => cases hevent
          | storage hevent hkind => exact .parted (.storage hevent hkind)

theorem course_stream (hscan : event = .scan → s.inFlight = none) (hwriting : s.writing = none)
    (now : Nat) (wall : Instant) : s.Course side event (s.stream side now wall event) := by
  have hmannered := mannered_of_not_writing hwriting
  cases event with
  | scan => exact course_send rfl hwriting (hscan rfl) now wall
  | cancelled =>
      refine course_finishIfIdle (.inl rfl) rfl hwriting rfl rfl fun said hsaid => ?_
      exact owed_of_not_writing hwriting ▸ .quiet hsaid
  | arrived frame =>
      exact Course.of_lastSeen now (course_receive rfl hwriting)
  | unreadable e => exact .ends rfl rfl rfl (.unreadable rfl)
  | ended => exact .ends rfl rfl rfl (.parted (.lost rfl (.inl rfl)))
  | changed => exact course_of_eq rfl rfl rfl rfl hmannered
  | woke => exact course_of_eq rfl rfl rfl rfl hmannered
  | beat => exact course_beat rfl hwriting now
  | drained => exact course_of_eq rfl rfl rfl rfl hmannered
  | written => exact course_of_eq rfl rfl rfl rfl hmannered
  | severed => exact course_of_eq rfl rfl rfl rfl hmannered

/-- What was being written is owed, or was nothing that an acknowledgement is owed for. -/
theorem course_written {w : Writing} (hwriting : s.writing = some w) (hmannered : s.Mannered) :
    s.Course side event (s.written side w) := by
  cases w with
  | batch items bytes lastEtag =>
      exact course_of_eq rfl rfl rfl (by simp [written, owed, hwriting])
        (mannered_of_not_writing rfl)
  | ack items seen =>
      exact course_of_eq rfl rfl rfl (by simp [written, owed, hwriting])
        (mannered_of_not_writing rfl)
  | heartbeat =>
      exact course_of_eq rfl rfl rfl (by simp [written, owed, hwriting])
        (mannered_of_not_writing rfl)
  | goodbye => exact .ends rfl rfl rfl (.parted (.cancelled (.inr (hmannered hwriting))))

theorem course_severed {w : Writing} (hwriting : s.writing = some w) (hmannered : s.Mannered) :
    s.Course side event (s.severed side w) := by
  cases w with
  | batch | ack | heartbeat => exact .ends rfl rfl rfl (.parted parting_gone)
  | goodbye => exact .ends rfl rfl rfl (.parted (.cancelled (.inr (hmannered hwriting))))

/-- Every turn goes on and says a batch only when nothing is owed, or ends for one of the reasons,
or leaves the calendar. -/
theorem handle_course (hmannered : s.Mannered) (hscan : event = .scan → s.inFlight = none)
    (side : LocalSide) (now : Nat) (wall : Instant) :
    s.Course side event (s.handle side now wall event) := by
  cases hwriting : s.writing with
  | some w =>
      cases event with
      | written =>
          simp only [handle, hwriting]
          exact course_written hwriting hmannered
      | severed =>
          simp only [handle, hwriting]
          exact course_severed hwriting hmannered
      | _ =>
          rw [handle_of_writing hwriting side now wall (by simp) (by simp)]
          exact course_of_eq rfl rfl rfl rfl hmannered
  | none =>
      simp only [handle, hwriting]
      split
      · rename_i hdrain
        exact course_drain hwriting hdrain
      · exact course_stream hscan hwriting now wall

end Turns

end Session

end HubReplication
