/-
**Honest peers.**

A failure that waiting cannot mend parks a dialer until its definition changes: a mismatch of the
protocol, or a lack of authorization.  Two nodes that both run this protocol never do that to each
other.  Whatever is written on either side, and whenever either side sends, beats, wakes up or is
cancelled, a session between them ends because it was cancelled, because the peer said goodbye,
because the connection was lost, because the peer was silent, or because a store failed.

That holds up to the limits of frames.  Nothing bounds how long a batch is, so one that is longer
than a frame can be ends the session that would send it, and parks a dialer; and so does a batch or
an acknowledgement that its receiver cannot read back.

Main definitions:

* `Store.WordSized` — the etags that a store reached are words of 64 bits;
* `Call.Honest` — how the sides of a call may end.

Main results:

* `Dialer.phase_endStreaming`, `Dialer.phase_answer` — what parks a dialer, and what does not;
* `Opening.honest_of_reaches` — from an accepted handshake on, turns keep both sides honest.
-/

import HubReplication.Proofs.Connection.Gate
import HubReplication.Proofs.Connection.Opening
import HubReplication.Proofs.Exchange.Progress

set_option relaxedAutoImplicit false
set_option autoImplicit false

namespace HubReplication

/-- The etags that a store reached are words of 64 bits. -/
def Store.WordSized (s : Store) : Prop := ∀ source, s.lastReplicatedEtag source < UInt64.size

/-! ### Parking -/

namespace Dialer

variable {d : Dialer} {side : LocalSide} {now : Nat} {wall : Instant}
  {endpoint : ConnectionEndpoint} {rest : List ConnectionEndpoint} {line : LineEnd}
  {accepted : Acceptance}

theorem phase_wait_ne_parked {e : ReplicationError} :
    (d.wait side now wall).dialer.phase ≠ .parked e := by
  unfold wait
  simp only
  split <;> (intro hparked; cases hparked)

/-- A dialer that streamed may back off. -/
theorem phase_backOff_ne_parked (hstatus : side.runtime.status = .streaming)
    {e : ReplicationError} : (d.backOff side now wall).dialer.phase ≠ .parked e := by
  have hmoves : side.runtime.take .backOff wall = .ok (side.runtime.enter .backingOff wall) :=
    ConnectionRuntime.take_eq_ok (by rw [hstatus]; rfl) wall
  simp only [backOff, hstatus, moving, hmoves]
  exact phase_wait_ne_parked

/-- A dialer that streamed is parked only over a failure that waiting cannot mend. -/
theorem phase_endStreaming (hstatus : side.runtime.status = .streaming) {r : Outcome Unit}
    {e : ReplicationError}
    (h : (d.endStreaming side now wall endpoint r).dialer.phase = .parked e) :
    r = .error e ∧ e.isFatal = true := by
  unfold endStreaming at h
  cases r with
  | ok => cases h
  | error e' =>
      simp only at h
      split at h
      · rename_i hfatal
        cases h
        exact ⟨rfl, hfatal⟩
      · refine absurd h (phase_backOff_ne_parked ?_)
        exact hstatus

/-- What cannot be said to a candidate that accepted is lost with the connection. -/
theorem isFatal_of_resume (hstore : side.site.store.WordSized) {e : ReplicationError}
    (h : resume side accepted = .error e) : e.isFatal = false := by
  unfold resume at h
  split at h
  · obtain ⟨bytes, hbytes⟩ := Frame.exists_write_resume (hstore accepted.databaseId)
    cases hwrite : side.write (.resume (side.site.store.lastReplicatedEtag accepted.databaseId))
        .off with
    | ok written =>
        rw [hwrite] at h
        cases h
    | error e' =>
        rw [hwrite] at h
        cases h
        rcases LocalSide.write_eq_error hwrite with hlong | rfl
        · cases hlong.symm.trans hbytes
        · rfl
  · cases h

/-- A dialer that waited for an answer may stream, with whomever it reached. -/
theorem take_stream (hstatus : side.runtime.status = .handshaking)
    (destination : Option ConnectionEndpoint) :
    ({ side.runtime with destination } : ConnectionRuntime).take .stream wall =
      .ok (({ side.runtime with destination } : ConnectionRuntime).enter .streaming wall) :=
  ConnectionRuntime.take_eq_ok (by rw [hstatus]; rfl) wall

theorem phase_startStreaming_ne_parked (hstatus : side.runtime.status = .handshaking)
    {e : ReplicationError} :
    (d.startStreaming side now wall endpoint line accepted).dialer.phase ≠ .parked e := by
  simp only [startStreaming, moving, LocalSide.onRuntime, take_stream hstatus]
  split <;> (intro hparked; cases hparked)

/-- A dialer that waited for an answer streams if its session starts. -/
theorem phase_startStreaming (hstatus : side.runtime.status = .handshaking) {s : Session}
    (hstart : Session.start? (d.assignment.sessionTerms endpoint accepted) now
      side.site.store.announcements = some s) :
    (d.startStreaming side now wall endpoint line accepted).dialer.phase =
      .streaming endpoint line s := by
  simp only [startStreaming, moving, LocalSide.onRuntime, take_stream hstatus]
  split
  · rename_i hnone
    cases hnone.symm.trans hstart
  · rename_i s' hsome
    cases hsome.symm.trans hstart
    rfl

/-- An answer that lets a dialer in under directions that it asked for does not park it. -/
theorem phase_answer_ne_parked (hstatus : side.runtime.status = .handshaking)
    (hstore : side.site.store.WordSized) (hmode : accepted.mode.isEmpty = false)
    (hrequested : d.assignment.requestedMode.contains accepted.mode = true)
    {e : ReplicationError} :
    (d.answer side now wall endpoint rest line (.ok (.accepted accepted))).dialer.phase ≠
      .parked e := by
  unfold answer
  simp only [hmode, hrequested, Bool.not_true, Bool.or_false, Bool.false_eq_true, if_false]
  split
  · rename_i e' hresume
    rw [failCandidate_phase, isFatal_of_resume hstore hresume]
    intro hparked
    cases hparked
  · rename_i side' hresume
    exact phase_startStreaming_ne_parked ((congrArg _ (resumes_of_resume hresume).2).trans hstatus)

/-- A dialer that was let in streams, once it said from where on. -/
theorem phase_answer {side' : LocalSide} {s : Session}
    (hstatus : side.runtime.status = .handshaking) (hmode : accepted.mode.isEmpty = false)
    (hrequested : d.assignment.requestedMode.contains accepted.mode = true)
    (hresume : resume side accepted = .ok side')
    (hstart : Session.start? (d.assignment.sessionTerms endpoint accepted) now
      side'.site.store.announcements = some s) :
    (d.answer side now wall endpoint rest line (.ok (.accepted accepted))).dialer.phase =
      .streaming endpoint line s := by
  simp only [answer, hmode, hrequested, hresume, Bool.not_true, Bool.or_false, Bool.false_eq_true,
    if_false]
  exact phase_startStreaming ((congrArg _ (resumes_of_resume hresume).2).trans hstatus) hstart

/-- A dialer parks over a failure of its session that waiting cannot mend. -/
theorem phase_streamOn {s : Session} {event : SessionEvent} {e : ReplicationError}
    (hover : (s.handle side now wall event).verdict = .over (.error e))
    (hfatal : e.isFatal = true) :
    (d.streamOn side now wall endpoint line s event).dialer.phase = .parked e := by
  unfold streamOn
  split
  · rename_i hhandle
    cases (congrArg SessionTurn.verdict hhandle).symm.trans hover
  · rename_i hhandle
    cases (congrArg SessionTurn.verdict hhandle).symm.trans hover
    simp only [endStreaming, hfatal, if_true]
    rfl
  · rename_i hhandle
    cases (congrArg SessionTurn.verdict hhandle).symm.trans hover

end Dialer

/-! ### Honest peers -/

/-- A failure of an honest session that parks its dialer is a limit of frames. -/
theorem Session.Departs.limited_of_isFatal {s : Session} {coming : List Frame}
    {event : SessionEvent} {e : ReplicationError} (h : s.Departs coming event (.error e))
    (hfatal : e.isFatal = true) : s.Limited coming event e := by
  cases h with
  | limited h => exact h
  | parted h =>
      rw [h.isFatal_eq_false] at hfatal
      cases hfatal

/-- How the sides of a call between honest peers may end. -/
structure Call.Honest (c : Call) : Prop where
  /-- The acceptor is resumed, or loses the connection or its patience. -/
  resume : ∀ {admitted : Admitted} {deadline : Nat} {f : Fleet} {m : Moment} {store : Store}
    {event : AcceptorEvent}, c.acceptor.phase = .resuming admitted deadline → m.Intact c.out →
      c.acceptorEvent? f m store = some event →
        (∃ etag, event = .resumed etag) ∨ ∃ e, event = .unresumed e ∧ e.kind = .transient
  /-- A session of the dialer is over for no fault of anybody, or at a limit of frames. -/
  near : ∀ {endpoint : ConnectionEndpoint} {line : LineEnd} {s : Session} {f : Fleet} {m : Moment}
    {store : Store} {event : SessionEvent} {r : Outcome Unit},
      c.dialer.phase = .streaming endpoint line s → m.Intact c.back →
        c.dialerEvent? f m store = some (.session event) →
          (s.handle (m.side store) m.now m.wall event).verdict = .over r →
            s.Departs c.back event r
  /-- So is a session of the acceptor. -/
  far : ∀ {admitted : Admitted} {s : Session} {f : Fleet} {m : Moment} {store : Store}
    {event : SessionEvent} {r : Outcome Unit},
      c.acceptor.phase = .streaming admitted s → m.Intact c.out →
        c.acceptorEvent? f m store = some (.session event) →
          (s.handle (m.side store) m.now m.wall event).verdict = .over r →
            s.Departs c.out event r
  /-- What parks the dialer is a session that met a limit of frames, and nothing else. -/
  parked : ∀ {f : Fleet} {m : Moment} {store : Store} {e : ReplicationError},
    c.dialer.seat ≠ .gone → m.Intact c.back → store.WordSized →
      (c.dialerTurn f m store).dialer.phase = .parked e →
        ∃ endpoint line s event, c.dialer.phase = .streaming endpoint line s ∧
          c.dialerEvent? f m store = some (.session event) ∧ s.Limited c.back event e

namespace Call

variable {c : Call} {k : Agreement} {f : Fleet} {m : Moment} {store : Store}

theorem Sound.near_departs (h : c.Sound k) {endpoint : ConnectionEndpoint} {line : LineEnd}
    {s : Session} (hphase : c.dialer.phase = .streaming endpoint line s) (hm : m.Intact c.back)
    {event : SessionEvent} (hevent : c.dialerEvent? f m store = some (.session event))
    {r : Outcome Unit}
    (hover : (s.handle (m.side store) m.now m.wall event).verdict = .over r) :
    s.Departs c.back event r ∧
      (s.handle (m.side store) m.now m.wall event).side.runtime.status = m.runtime.status := by
  obtain ⟨hmeets, hmannered, hnear⟩ := h.dialer_streams hphase
  simp only [dialerEvent?, hphase] at hevent
  obtain ⟨event, hnext, heq⟩ := Option.map_eq_some_iff.1 hevent
  cases heq
  exact Session.departs_of_over hmeets hmannered hnear hm
    (Option.map_eq_some_iff.2 ⟨event, hnext, rfl⟩) hover

theorem Sound.far_departs (h : c.Sound k) {admitted : Admitted} {s : Session}
    (hphase : c.acceptor.phase = .streaming admitted s) (hm : m.Intact c.out)
    {event : SessionEvent} (hevent : c.acceptorEvent? f m store = some (.session event))
    {r : Outcome Unit}
    (hover : (s.handle (m.side store) m.now m.wall event).verdict = .over r) :
    s.Departs c.out event r := by
  obtain ⟨hmeets, hmannered, hfar⟩ := h.acceptor_streams hphase
  simp only [acceptorEvent?, hphase] at hevent
  obtain ⟨event, hnext, heq⟩ := Option.map_eq_some_iff.1 hevent
  cases heq
  exact (Session.departs_of_over hmeets hmannered hfar hm
    (Option.map_eq_some_iff.2 ⟨event, hnext, rfl⟩) hover).1

/-- A dialer that waits for the answer is not parked. -/
theorem Sound.waiting_ne_parked (h : c.Sound k) {endpoint : ConnectionEndpoint}
    {rest : List ConnectionEndpoint} {line : LineEnd} {deadline : Nat}
    (hphase : c.dialer.phase = .greeting endpoint rest line deadline) (hm : m.Intact c.back)
    (hstore : store.WordSized) {e : ReplicationError} :
    (c.dialerTurn f m store).dialer.phase ≠ .parked e := by
  have hseat : c.dialer.seat = .waiting := by simp only [Dialer.seat, hphase]
  have hkeeps := h.dialer
  simp only [Dialer.Keeps, hphase] at hkeeps
  obtain ⟨-, hrequested, hmode⟩ := hkeeps
  obtain ⟨-, hback, -⟩ := h.answer hseat
  obtain ⟨coming, hback⟩ := List.head?_eq_some_iff.1 hback
  have hstatus : c.runtime.status = .handshaking := h.recorded (by rw [hseat]; rfl)
  unfold Call.dialerTurn
  cases hevent : c.dialerEvent? f m store with
  | none =>
      simp only [hphase]
      intro hparked
      cases hparked
  | some event =>
      simp only [dialerEvent?, hphase] at hevent
      split at hevent
      · cases hevent
        simp only [Dialer.handle, hphase]
        intro hparked
        cases hparked
      · obtain ⟨r, hr, rfl⟩ := Option.map_eq_some_iff.1 hevent
        simp only [Dialer.handle, hphase]
        rcases response_honest hback hm hr with rfl | ⟨e', rfl, hkind⟩
        · exact Dialer.phase_answer_ne_parked hstatus hstore hmode hrequested
        · have hpasses : e'.isFatal = false := by
            rw [ReplicationError.isFatal, hkind]
            rfl
          simp only [Dialer.answer, Dialer.failCandidate_phase, hpasses]
          intro hparked
          cases hparked

/-- A dialer that streams is parked only where its session met a limit of frames. -/
theorem Sound.streaming_parked (h : c.Sound k) {endpoint : ConnectionEndpoint} {line : LineEnd}
    {s : Session} (hphase : c.dialer.phase = .streaming endpoint line s) (hm : m.Intact c.back)
    {e : ReplicationError} (hparked : (c.dialerTurn f m store).dialer.phase = .parked e) :
    ∃ event, c.dialerEvent? f m store = some (.session event) ∧ s.Limited c.back event e := by
  have hseat : c.dialer.seat = .streaming s.owed := by simp only [Dialer.seat, hphase]
  have hstatus : c.runtime.status = .streaming := h.recorded (by rw [hseat]; rfl)
  unfold Call.dialerTurn at hparked
  cases hevent : c.dialerEvent? f m store with
  | none =>
      simp only [hevent, hphase] at hparked
      cases hparked
  | some event =>
      simp only [hevent] at hparked
      obtain ⟨event, hnext, rfl⟩ : ∃ event', s.next? m.now m.cancelled store.announcements
          m.delivery (m.arrival.received c.back) = some event' ∧ .session event' = event := by
        simpa only [dialerEvent?, hphase, Option.map_eq_some_iff] using hevent
      refine ⟨event, rfl, ?_⟩
      simp only [Dialer.handle, hphase, Dialer.streamOn] at hparked
      split at hparked
      · cases hparked
      · rename_i session side r hhandle
        obtain ⟨hdeparts, hkept⟩ := h.near_departs (m := c.recalled m) hphase hm hevent
          (congrArg SessionTurn.verdict hhandle)
        have hside : side.runtime.status = .streaming :=
          (congrArg (·.side.runtime.status) hhandle).symm.trans (hkept.trans hstatus)
        obtain ⟨rfl, hfatal⟩ := Dialer.phase_endStreaming hside hparked
        exact hdeparts.limited_of_isFatal hfatal
      · cases hparked

/-- The sides of a sound call are honest. -/
theorem honest_of_sound (h : c.Sound k) : c.Honest where
  resume := by
    intro admitted deadline f m store event hphase hm hevent
    have hseat : c.acceptor.seat = .waiting := by simp only [Acceptor.seat, hphase]
    simp only [acceptorEvent?, hphase] at hevent
    rcases resume_honest (h.resume hseat).1 hm hevent with ⟨etag, -, rfl, -⟩ | hlost
    · exact .inl ⟨etag, rfl⟩
    · exact .inr hlost
  near := fun hphase hm hevent hover => (h.near_departs hphase hm hevent hover).1
  far := fun hphase hm hevent hover => h.far_departs hphase hm hevent hover
  parked := by
    intro f m store e hseat hm hstore hparked
    cases hphase : c.dialer.phase with
    | greeting endpoint rest line deadline =>
        exact absurd hparked (h.waiting_ne_parked hphase hm hstore)
    | streaming endpoint line s =>
        obtain ⟨event, hevent, hlimited⟩ := h.streaming_parked hphase hm hparked
        exact ⟨endpoint, line, s, event, rfl, hevent, hlimited⟩
    | _ => exact absurd (by simp only [Dialer.seat, hphase]) hseat

end Call

/-- From an accepted handshake on, whatever turns the sides of a call take on an intact line, with
whatever their stores, their clocks and the cluster have become, both are honest: the acceptor is
resumed, and their sessions end for no fault of anybody, or at a limit of frames. -/
theorem Opening.honest_of_reaches {o : Opening} {h : Handshake} (ho : o.Accepted h) {c : Call}
    (hc : o.call.Reaches c) : c.Honest := by
  obtain ⟨k, hsound⟩ := ho.sound
  exact Call.honest_of_sound (hsound.of_reaches hc)

/-! ### A node that pushes -/

open Handshake (filteredFeed)

/-- The handshake of a node that pushes to the orders. -/
def mirrorHandshake : Handshake where
  version := protocolVersion
  kind := .external
  database := "orders"
  hub := none
  requestedMode := .sinkToHub
  sourceDatabase := "copy"
  sourceDatabaseId := "copy-id"
  sourceNode := some "B"
  certificate := none
  compression := false

/-- The node pushes one item at a time. -/
def mirrorAssignment : Assignment where
  node := ⟨"B"⟩
  security := .unsecured
  settings := { ReplicationSettings.default with compression := false, maxBatchSize := 1 }
  database := "copy"
  task := .external ⟨"mirror", "orders", "orders", 0, ⟨1⟩, false, none⟩
  connection := ⟨"orders", "orders", ["mem://a"]⟩

/-- It reached the other node. -/
def mirror : Opening where
  dialer := ⟨mirrorAssignment, [], none, 0, .connecting ⟨"mem://a", "orders", none⟩ [] 0⟩
  endpoint := ⟨"mem://a", "orders", none⟩
  rest := []
  line := ⟨0, .dialer⟩
  near := { Moment.calm default .nothing with
    runtime := { ConnectionRuntime.initial with status := .connecting } }
  source := .empty "copy-id"
  acceptor := ⟨⟨"A"⟩, .unsecured, .default, "B", .loading mirrorHandshake 0⟩
  far := .calm default .nothing
  target := .empty "orders-id"
  state := ClusterState.replay filteredFeed

/-- What the other node lets it do. -/
def mirrorAdmission : Admission where
  mode := .sinkToHub
  terms := .external none
  outboundPaths := .empty
  inboundPaths := .empty
  delay := 0

theorem authorize_mirror (record : DatabaseRecord) (wall : Instant) :
    mirrorHandshake.authorize .unsecured record wall = .ok mirrorAdmission := rfl

theorem accepted_mirror : mirror.Accepted mirrorHandshake where
  sent := by
    obtain ⟨bytes, hbytes⟩ :
        ∃ bytes, (Frame.handshake mirrorHandshake).write .off = .ok bytes :=
      Frame.exists_write_off_of_room (by decide +kernel)
    have hsent : mirror.greeting.side.sent = [⟨.handshake mirrorHandshake, bytes⟩] :=
      Dialer.sent_greet rfl rfl hbytes rfl
    rw [hsent]
    rfl
  loading := ⟨0, rfl⟩
  letIn := by
    have hroom : ((ClusterState.replay filteredFeed).database? "orders").map (fun record =>
        decide ((Frame.response (.accepted (mirrorHandshake.acceptance
          (ClusterState.replay filteredFeed) record mirrorAdmission "orders-id" 0
          true))).toJson.room ≤ Wire.maxBytes)) = some true := by
      decide +kernel
    obtain ⟨record, hrecord, hfits⟩ := Option.map_eq_some_iff.1 hroom
    obtain ⟨bytes, hbytes⟩ := Frame.exists_write_off_of_room (of_decide_eq_true hfits)
    exact Acceptor.isOver_judge hrecord (authorize_mirror record default) hbytes rfl

/-- The terms under which the node then sends. -/
def mirrorTerms : SessionTerms where
  peer := "mem://a"
  compression := ⟨false, 4096⟩
  heartbeat := 5000
  maxBatchSize := 1
  outbound := some ⟨0, .empty, 0⟩
  inbound := none

/-- The session that it starts. -/
def mirrorSession : Session where
  terms := mirrorTerms
  cursor := 0
  inFlight := none
  wakeAt := none
  scan := true
  lastSeen := 0
  nextBeat := 5000
  seen := 0
  drainUntil := none
  writing := none

/-- The call once the answer came. -/
def mirrorCall : Call :=
  mirror.call.dialerTurn (.empty default) (.calm default .frame) (.empty "copy-id")

theorem reaches_mirror : mirror.call.Reaches mirrorCall :=
  .dialer .start _ _ _ (by intro e h; cases h)

theorem sessionTerms_mirror {record : DatabaseRecord} {accepted : Acceptance}
    (h : accepted = mirrorHandshake.acceptance mirror.state record mirrorAdmission "orders-id" 0
      true) : mirrorAssignment.sessionTerms mirror.endpoint accepted = mirrorTerms := by
  have hmode : accepted.mode = Mode.sinkToHub := by rw [h]; rfl
  have hsends : Mode.sinkToHub.contains Mode.sinkToHub = true := by decide
  have htakes : Mode.sinkToHub.contains Mode.hubToSink = false := by decide
  simp only [Assignment.sessionTerms, hmode, hsends, htakes, Bool.false_eq_true, if_true, if_false]
  rw [h]
  rfl

theorem streams_mirror :
    mirrorCall.dialer.phase = .streaming mirror.endpoint mirror.line mirrorSession := by
  obtain ⟨deadline, -, hdialer, hstatus⟩ := accepted_mirror.greets
  obtain ⟨record, admission, accepted, hauthorize, hanswer, hsaid, -⟩ := accepted_mirror.letsIn
  obtain rfl : mirrorAdmission = admission := Except.ok.inj hauthorize
  have hdialer : mirror.call.dialer =
      { mirror.dialer with phase := .greeting mirror.endpoint [] mirror.line deadline } := hdialer
  have hback : mirror.call.back = [.response (.accepted accepted)] := hsaid
  have hevent : mirror.call.dialerEvent? (.empty default) (.calm default .frame)
      (.empty "copy-id") = some (.answered (.ok (.accepted accepted))) := by
    simp only [Call.dialerEvent?, hdialer, hback]
    rfl
  have hmode : accepted.mode = Mode.sinkToHub := by rw [hanswer]; rfl
  have hresume (side : LocalSide) : Dialer.resume side accepted = .ok side := by
    have htakes : Mode.sinkToHub.contains Mode.hubToSink = false := by decide
    simp only [Dialer.resume, hmode, htakes, Bool.false_eq_true, if_false]
  have hstart : Session.start? (mirrorAssignment.sessionTerms mirror.endpoint accepted) 0 0 =
      some mirrorSession := by
    rw [sessionTerms_mirror hanswer]
    rfl
  simp only [mirrorCall, Call.dialerTurn, hevent, hdialer, Dialer.handle]
  exact Dialer.phase_answer hstatus (by rw [hmode]; rfl)
    (by rw [hmode]; exact Mode.contains_self _) (hresume _) hstart

/-- A batch that is due but too long ends the session. -/
theorem Session.verdict_send {s : Session} {side : LocalSide} {now : Nat} {wall : Instant}
    (plan : OutboundPlan) (chosen : Selection) (hplan : s.terms.outbound = some plan)
    (hselect : plan.select wall s.cursor
      (side.site.store.changesAfter s.cursor s.terms.maxBatchSize) = some chosen)
    (hne : chosen.lastEtag ≠ s.cursor) {e : ReplicationError}
    (hwrite : (Frame.batch ⟨chosen.items, chosen.lastEtag⟩).write s.terms.compression =
      .error e) : (s.send side now wall).verdict = .over (.error e) := by
  simp only [send, hplan, hselect]
  cases chosen.readyIn <;> simp [LocalSide.write, hwrite, hne]

/-- A note under an id that no frame can hold parks the node. -/
theorem parks_mirror {id : String} (hlong : Wire.maxBytes ≤ id.utf8ByteSize) {store : Store}
    (hchanges : store.changesAfter 0 1 = [Exchange.firstNote "copy-id" id]) :
    ∃ e, (mirrorCall.dialerTurn (.empty default) (.calm default .nothing) store).dialer.phase =
      .parked e ∧ e.kind = .protocolMismatch := by
  let items := Exchange.notesFor "copy-id" id .empty
  obtain ⟨e, hwrite⟩ : ∃ e, (Frame.batch ⟨items, 1⟩).write mirrorTerms.compression = .error e :=
    Frame.write_batch_eq_error rfl (List.mem_singleton_self (Exchange.firstNote "copy-id" id)) hlong
  have hkind : e.kind = .protocolMismatch := Frame.kind_of_write_eq_error hwrite
  have hover (side : LocalSide) (hside : side.site.store = store) :
      (mirrorSession.handle side 0 default .scan).verdict = .over (.error e) := by
    have hselect : (⟨0, .empty, 0⟩ : OutboundPlan).select default 0
        (side.site.store.changesAfter 0 1) = some ⟨items, 1, none⟩ := by
      rw [hside, hchanges]
      exact Exchange.select_firstNote "copy-id" id .empty 0 0
    have hdue : (mirrorSession.send side 0 default).verdict = .over (.error e) :=
      Session.verdict_send ⟨0, .empty, 0⟩ ⟨items, 1, none⟩ rfl hselect Nat.one_ne_zero hwrite
    exact hdue
  have hevent : mirrorCall.dialerEvent? (.empty default) (.calm default .nothing) store =
      some (.session .scan) := by
    simp only [Call.dialerEvent?, streams_mirror]
    rfl
  refine ⟨e, ?_, hkind⟩
  simp only [Call.dialerTurn, hevent, Dialer.handle, streams_mirror]
  exact Dialer.phase_streamOn (hover _ rfl) (by rw [ReplicationError.isFatal, hkind]; rfl)

/-- An id that no frame can hold. -/
def longId : String := String.ofList (List.replicate Wire.maxBytes 'a')

theorem utf8ByteSize_longId : Wire.maxBytes ≤ longId.utf8ByteSize :=
  Nat.le_of_eq (Json.utf8ByteSize_replicate (by decide) _).symm

theorem isBlankText_longId : Text.isBlankText longId = false := by
  have hblank (n : Nat) (h : n ≠ 0) :
      Text.isBlankText (String.ofList (List.replicate n 'a')) = false := by
    rw [Text.isBlankText, String.toList_ofList, List.all_replicate, if_neg h]
    decide
  exact hblank _ (by decide)

/-- The node was let in and streams, and the call is honest. -/
theorem honest_mirror :
    mirror.Accepted mirrorHandshake ∧ mirror.call.Reaches mirrorCall ∧
      mirrorCall.dialer.phase = .streaming mirror.endpoint mirror.line mirrorSession ∧
      mirrorCall.Honest :=
  ⟨accepted_mirror, reaches_mirror, streams_mirror,
    Opening.honest_of_reaches accepted_mirror reaches_mirror⟩

/-- But a dialer can be parked as if its peer spoke another protocol, by a batch of its own. -/
theorem not_unparked_longId :
    ¬∀ (o : Opening) (h : Handshake) (c : Call) (f : Fleet) (m : Moment) (store : Store)
      (e : ReplicationError), o.Accepted h → o.call.Reaches c → c.dialer.seat ≠ .gone →
        m.Intact c.back → store.WordSized → (c.dialerTurn f m store).dialer.phase = .parked e →
          e.kind ≠ .protocolMismatch := by
  intro hall
  obtain ⟨e, hparked, hkind⟩ := parks_mirror utf8ByteSize_longId
    (Exchange.changesAfter_written_note isBlankText_longId)
  refine hall mirror mirrorHandshake mirrorCall _ _ _ e accepted_mirror reaches_mirror ?_ ?_ ?_
    hparked hkind
  · simp only [Dialer.seat, streams_mirror]
    intro hgone
    cases hgone
  · intro e h
    cases h
  · intro source
    have hword : 0 < UInt64.size := by decide
    rw [Exchange.written_note isBlankText_longId]
    exact hword

end HubReplication
