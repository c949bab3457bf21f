/-
**Dialers persevere.**

A dialer gives up for two reasons only: it was told to stop, or a candidate or a session failed in
a way that waiting cannot mend.  Whatever else happens to it, and however often, it goes on to the
next candidate or backs off and starts another round.

What could spoil that are the moves that it makes on the way, since one that is not allowed parks
it.  So the state of the connection has to fit what the dialer is doing, and every move that a
dialer may come to ask for is allowed from the states that fit.  A round that ends while the
connection is idle or backing off already asks for none.

All this is up to the end of the calendar: a dialer is lost over a wait, or over the delay of its
task, that ends at a date which no calendar has.  A task without a delay is lost over a wait only.

Main definitions:

* `Encounter`, `Worker`, `Worker.meet` — what a dialer meets, and what it makes of it;
* `Worker.Life` — all that a dialer met, one after another;
* `Worker.Fails`, `Worker.EndsRound`, `Worker.BreaksOff`, `Worker.Asks` — how a candidate or a
  session fails, how a round ends, how a dialer is lost, and which moves it asks for;
* `Worker.Fits` — the state of the connection fits what the dialer is doing.

Main results:

* `Worker.BreaksOff.retryAt?_eq_none` — which tasks are lost only over the date of a next round;
* `Worker.turned` — what a dialer can make of an encounter;
* `Worker.backsOff_of_endsRound`, `Worker.copes_of_fails` — what comes of a round that ends, and of
  a failure;
* `Worker.Life.perseveres` — why a dialer gives up, and that it goes on otherwise;
* `Fleet.admits_of_dialerEvent?` — what dialers meet in a fleet.
-/

import HubReplication.Fleet.Connections
import HubReplication.Proofs.Connection.Peers
import HubReplication.Proofs.Session.Leave

set_option relaxedAutoImplicit false
set_option autoImplicit false

namespace HubReplication

/-- Whether a frame can be written is a matter of the frame and of the peer. -/
theorem LocalSide.write_error_of_reachable {side side' : LocalSide} {frame : Frame}
    {compression : FrameCompression} {error : ReplicationError}
    (hreachable : side'.reachable = side.reachable)
    (h : side.write frame compression = .error error) :
    side'.write frame compression = .error error := by
  unfold LocalSide.write at h ⊢
  rw [hreachable]
  cases hframe : frame.write compression with
  | error e => simpa only [hframe] using h
  | ok bytes =>
      simp only [hframe] at h ⊢
      split at h
      · cases h
      · rename_i hgone
        rw [if_neg hgone]
        exact h

/-- Settings pass their check only with a heartbeat. -/
theorem ReplicationSettings.validate_ne_ok {s : ReplicationSettings}
    (h : s.heartbeatInterval = 0) : s.validate ≠ .ok () := by
  intro hok
  simp only [validate, h, if_true] at hok
  -- Whatever is checked before the heartbeat, one of the checks fails.
  repeat' split at hok
  all_goals cases hok

/-! ### What a dialer meets -/

/-- What a dialer meets: what the connections of its database share, whether its peer is there, the
time on both clocks, and what happens to it. -/
structure Encounter where
  site : Site
  reachable : Bool
  now : Nat
  wall : Instant
  event : DialerEvent

/-- The dialer is told to stop, or the session that it takes part in. -/
def Encounter.Cancels (e : Encounter) : Prop :=
  e.event = .cancelled ∨ e.event = .session .cancelled

/-- A dialer with the record of its connection. -/
structure Worker where
  dialer : Dialer
  runtime : ConnectionRuntime

/-- Which round failed, when one fails now. -/
def Dialer.failedRound (d : Dialer) : Nat := min (d.round + 1) (UInt32.size - 1)

/-- How long the wait is after a round that fails now, when a share of the jitter is taken off. -/
def Dialer.nextDelay (d : Dialer) (share : Nat) : Nat :=
  d.assignment.settings.retryPolicy.spread d.failedRound share

/-- The dialer has not given up. -/
def DialerPhase.isWorking : DialerPhase → Bool
  | .over | .parked _ | .lost _ => false
  | _ => true

namespace Worker

/-- The side of a worker in an encounter. -/
def side (w : Worker) (e : Encounter) : LocalSide := ⟨e.site, w.runtime, e.reachable, []⟩

@[simp] theorem site_side (w : Worker) (e : Encounter) : (w.side e).site = e.site := rfl

/-- The turn of a worker in an encounter. -/
def turn (w : Worker) (e : Encounter) : DialerTurn :=
  w.dialer.handle (w.side e) e.now e.wall e.event

/-- A worker after a turn. -/
def after (t : DialerTurn) : Worker := ⟨t.dialer, t.side.runtime⟩

/-- A worker after an encounter. -/
def meet (w : Worker) (e : Encounter) : Worker := after (w.turn e)

/-- A session looks for something to send only when nothing is in flight. -/
def Admits (w : Worker) (e : Encounter) : Prop :=
  ∀ s, w.dialer.session? = some s → e.event = .session .scan → s.inFlight = none

/-- All that a worker met since it began to work, and the worker after that. -/
inductive Life (a : Assignment) : List Encounter → Worker → Prop
  | begins : Life a [] ⟨.new a, .initial⟩
  | meets {past : List Encounter} {w : Worker} {e : Encounter} (h : Life a past w)
      (hadmits : w.Admits e) : Life a (past ++ [e]) (w.meet e)

/-! ### Failures, rounds and moves -/

/-- An attempt at a candidate fails, or a session does. -/
inductive Fails (w : Worker) (e : Encounter) : ReplicationError → Prop
  | refused {endpoint rest deadline error}
      (hphase : w.dialer.phase = .connecting endpoint rest deadline)
      (hevent : e.event = .refused error) : Fails w e error
  /-- There is no handshake for the candidate. -/
  | unbuilt {endpoint rest deadline line error}
      (hphase : w.dialer.phase = .connecting endpoint rest deadline)
      (hevent : e.event = .connected line)
      (hbuild : w.dialer.assignment.handshake endpoint e.site.store.databaseId = .error error) :
      Fails w e error
  /-- The handshake could not be written. -/
  | unsent {endpoint rest deadline line handshake error}
      (hphase : w.dialer.phase = .connecting endpoint rest deadline)
      (hevent : e.event = .connected line)
      (hbuild : w.dialer.assignment.handshake endpoint e.site.store.databaseId = .ok handshake)
      (hwrite : (w.side e).write (.handshake handshake) .off = .error error) : Fails w e error
  | unanswered {endpoint rest line deadline error}
      (hphase : w.dialer.phase = .greeting endpoint rest line deadline)
      (hevent : e.event = .answered (.error error)) : Fails w e error
  | rejected {endpoint rest line deadline reason message}
      (hphase : w.dialer.phase = .greeting endpoint rest line deadline)
      (hevent : e.event = .answered (.ok (.rejected reason message))) :
      Fails w e (reason.toError message)
  /-- The candidate accepted other directions than it was asked for. -/
  | disagreed {endpoint rest line deadline accepted}
      (hphase : w.dialer.phase = .greeting endpoint rest line deadline)
      (hevent : e.event = .answered (.ok (.accepted accepted)))
      (hmode : (accepted.mode.isEmpty ||
        !w.dialer.assignment.requestedMode.contains accepted.mode) = true) :
      Fails w e (.protocolMismatch (endpoint.url ++ " accepted mode " ++ accepted.mode.describe ++
        ", requested " ++ w.dialer.assignment.requestedMode.describe))
  /-- The candidate could not be told from where on to send. -/
  | unresumed {endpoint rest line deadline accepted error}
      (hphase : w.dialer.phase = .greeting endpoint rest line deadline)
      (hevent : e.event = .answered (.ok (.accepted accepted)))
      (hmode : (accepted.mode.isEmpty ||
        !w.dialer.assignment.requestedMode.contains accepted.mode) = false)
      (hresume : Dialer.resume (w.side e) accepted = .error error) : Fails w e error
  | session {endpoint line s event error}
      (hphase : w.dialer.phase = .streaming endpoint line s) (hevent : e.event = .session event)
      (hover : (s.handle (w.side e) e.now e.wall event).verdict = .over (.error error)) :
      Fails w e error

/-- A round ends: no candidate is left, or a session failed in a way that waiting may mend. -/
inductive EndsRound (w : Worker) (e : Encounter) : Prop
  | exhausted (hphase : w.dialer.phase = .trying []) (hevent : e.event = .proceed)
  | interrupted {endpoint line s event error}
      (hphase : w.dialer.phase = .streaming endpoint line s) (hevent : e.event = .session event)
      (hover : (s.handle (w.side e) e.now e.wall event).verdict = .over (.error error))
      (hmild : error.isFatal = false)

/-- A date is needed that no calendar has, or a session is to start without a heartbeat. -/
inductive BreaksOff (w : Worker) (e : Encounter) : Prop
  /-- The next round would start at no date. -/
  | round (hends : w.EndsRound e)
      (hdate : Dialer.retryAt? e.wall (w.dialer.nextDelay e.site.share) = none)
  /-- The delay of the task moves an item off the calendar that was to be sent next. -/
  | delay {endpoint line s item} (hphase : w.dialer.phase = .streaming endpoint line s)
      (hitem : item ∈ e.site.store.changesAfter s.cursor s.terms.maxBatchSize)
      (hoff : item.OffCalendar e.wall w.dialer.assignment.delay)
  /-- The settings, which did not pass their check, are without a heartbeat. -/
  | heartbeat (hnone : w.dialer.assignment.settings.heartbeatInterval = 0)
      (hinvalid : w.dialer.assignment.settings.validate ≠ .ok ())

/-- With settings that pass their check, a task that sends at once breaks off only over the date of
its next round, as long as all dates are in range. -/
theorem BreaksOff.retryAt?_eq_none {w : Worker} {e : Encounter} (h : w.BreaksOff e)
    (hsettings : w.dialer.assignment.settings.validate = .ok ())
    (hdelay : w.dialer.assignment.delay = 0) (hwall : Instant.inRange e.wall.seconds = true)
    (hitems : ∀ cursor count, ∀ item ∈ e.site.store.changesAfter cursor count,
      Instant.inRange item.lastModified.seconds = true) :
    w.EndsRound e ∧ Dialer.retryAt? e.wall (w.dialer.nextDelay e.site.share) = none := by
  cases h with
  | round hends hdate => exact ⟨hends, hdate⟩
  | heartbeat hnone hinvalid => exact absurd hsettings hinvalid
  | delay hphase hitem hoff =>
      rw [hdelay] at hoff
      exact absurd hoff (Item.not_offCalendar_zero hwall (hitems _ _ _ hitem))

/-- The connection rests: a round that ends asks for no move. -/
def Rests (status : ConnectionStatus) : Prop := status = .idle ∨ status = .backingOff

/-- The move that a worker asks for in an encounter. -/
inductive Asks (w : Worker) (e : Encounter) : ConnectionStep → Prop
  | connect {endpoint rest} (hphase : w.dialer.phase = .trying (endpoint :: rest))
      (hevent : e.event = .proceed) : Asks w e .connect
  | handshake {endpoint rest deadline line}
      (hphase : w.dialer.phase = .connecting endpoint rest deadline)
      (hevent : e.event = .connected line) : Asks w e .handshake
  | stream {endpoint rest line deadline accepted side}
      (hphase : w.dialer.phase = .greeting endpoint rest line deadline)
      (hevent : e.event = .answered (.ok (.accepted accepted)))
      (hmode : (accepted.mode.isEmpty ||
        !w.dialer.assignment.requestedMode.contains accepted.mode) = false)
      (hresume : Dialer.resume (w.side e) accepted = .ok side) : Asks w e .stream
  | backOff (hends : w.EndsRound e) (hstatus : ¬Rests w.runtime.status) : Asks w e .backOff

/-- A session under the terms of an assignment, which said goodbye only if it was told to stop. -/
structure Keeps (a : Assignment) (s : Session) : Prop where
  mannered : s.Mannered
  delay_eq : ∀ plan, s.terms.outbound = some plan → plan.delay = a.delay

/-- The state of the connection fits what the worker is doing. -/
def Fits (w : Worker) : Prop :=
  match w.dialer.phase with
  | .choosing | .backingOff _ => Rests w.runtime.status
  | .trying _ =>
    Rests w.runtime.status ∨ w.runtime.status = .connecting ∨ w.runtime.status = .handshaking
  | .connecting _ _ _ => w.runtime.status = .connecting
  | .greeting _ _ _ _ => w.runtime.status = .handshaking
  | .streaming _ _ s => w.runtime.status = .streaming ∧ Keeps w.dialer.assignment s
  | .parked _ | .over | .lost _ => True

section Moves

variable {w : Worker} {e : Encounter}

/-- Every move that a worker may ask for is allowed. -/
theorem allowedFrom_of_asks {step : ConnectionStep} (hfits : w.Fits) (h : w.Asks e step) :
    step.allowedFrom w.runtime.status = true := by
  cases h with
  | connect hphase hevent =>
      -- A round starts where the connection rests, and goes on where a candidate failed.
      simp only [Fits, hphase, Rests] at hfits
      rcases hfits with (hstatus | hstatus) | hstatus | hstatus <;> rw [hstatus] <;> rfl
  | handshake hphase hevent =>
      simp only [Fits, hphase] at hfits
      rw [hfits]
      rfl
  | stream hphase hevent hmode hresume =>
      simp only [Fits, hphase] at hfits
      rw [hfits]
      rfl
  | backOff hends hstatus =>
      cases hends with
      | exhausted hphase hevent =>
          simp only [Fits, hphase] at hfits
          rcases hfits.resolve_left hstatus with hstatus' | hstatus' <;> rw [hstatus'] <;> rfl
      | interrupted hphase hevent hover hmild =>
          simp only [Fits, hphase] at hfits
          rw [hfits.1]
          rfl

theorem take_of_asks {step : ConnectionStep} (hfits : w.Fits) (h : w.Asks e step) :
    (w.side e).runtime.take step e.wall = .ok (w.runtime.enter step.target e.wall) :=
  ConnectionRuntime.take_eq_ok (allowedFrom_of_asks hfits h) e.wall

/-! ### The turns -/

theorem turn_of_trying {rest : List ConnectionEndpoint} (hphase : w.dialer.phase = .trying rest)
    (hevent : e.event = .proceed) :
    w.turn e = w.dialer.tryNext (w.side e) e.now e.wall rest := by
  simp only [turn, Dialer.handle, hphase, hevent]

theorem turn_of_refused {endpoint : ConnectionEndpoint} {rest : List ConnectionEndpoint}
    {deadline : Nat} {error : ReplicationError}
    (hphase : w.dialer.phase = .connecting endpoint rest deadline)
    (hevent : e.event = .refused error) :
    w.turn e = w.dialer.failCandidate (w.side e) e.wall endpoint rest error := by
  simp only [turn, Dialer.handle, hphase, hevent]

theorem turn_of_connected {endpoint : ConnectionEndpoint} {rest : List ConnectionEndpoint}
    {deadline : Nat} {line : LineEnd}
    (hphase : w.dialer.phase = .connecting endpoint rest deadline)
    (hevent : e.event = .connected line) :
    w.turn e = w.dialer.greet (w.side e) e.now e.wall endpoint rest line := by
  simp only [turn, Dialer.handle, hphase, hevent]

theorem turn_of_answered {endpoint : ConnectionEndpoint} {rest : List ConnectionEndpoint}
    {line : LineEnd} {deadline : Nat} {response : Outcome HandshakeResponse}
    (hphase : w.dialer.phase = .greeting endpoint rest line deadline)
    (hevent : e.event = .answered response) :
    w.turn e = w.dialer.answer (w.side e) e.now e.wall endpoint rest line response := by
  simp only [turn, Dialer.handle, hphase, hevent]

theorem turn_of_session {endpoint : ConnectionEndpoint} {line : LineEnd} {s : Session}
    {event : SessionEvent} (hphase : w.dialer.phase = .streaming endpoint line s)
    (hevent : e.event = .session event) :
    w.turn e = w.dialer.streamOn (w.side e) e.now e.wall endpoint line s event := by
  simp only [turn, Dialer.handle, hphase, hevent]

/-- A session that is over leaves its dialer to see what comes next. -/
theorem turn_of_over {endpoint : ConnectionEndpoint} {line : LineEnd} {s : Session}
    {event : SessionEvent} {r : Outcome Unit}
    (hphase : w.dialer.phase = .streaming endpoint line s) (hevent : e.event = .session event)
    (hover : (s.handle (w.side e) e.now e.wall event).verdict = .over r) :
    w.turn e = w.dialer.endStreaming (s.handle (w.side e) e.now e.wall event).side e.now e.wall
      endpoint r := by
  rw [turn_of_session hphase hevent, Dialer.streamOn]
  cases hturn : s.handle (w.side e) e.now e.wall event with
  | mk s' side' verdict =>
      rw [hturn] at hover
      cases hover
      rfl

theorem course_of_session {endpoint : ConnectionEndpoint} {line : LineEnd} {s : Session}
    {event : SessionEvent} (hfits : w.Fits) (hadmits : w.Admits e)
    (hphase : w.dialer.phase = .streaming endpoint line s) (hevent : e.event = .session event) :
    s.Course (w.side e) event (s.handle (w.side e) e.now e.wall event) := by
  simp only [Fits, hphase] at hfits
  have hscan : event = .scan → s.inFlight = none := by
    intro hscan
    exact hadmits s (by simp [Dialer.session?, hphase]) (by rw [hevent, hscan])
  exact Session.handle_course hfits.2.mannered hscan (w.side e) e.now e.wall

/-- A session leaves the state of the connection as it is to the end. -/
theorem ends_of_over {endpoint : ConnectionEndpoint} {line : LineEnd} {s : Session}
    {event : SessionEvent} {r : Outcome Unit} (hfits : w.Fits) (hadmits : w.Admits e)
    (hphase : w.dialer.phase = .streaming endpoint line s) (hevent : e.event = .session event)
    (hover : (s.handle (w.side e) e.now e.wall event).verdict = .over r) :
    (s.handle (w.side e) e.now e.wall event).side.runtime.status = w.runtime.status ∧
      s.Ends event r := by
  cases course_of_session hfits hadmits hphase hevent with
  | goes said hverdict hsent hstatus htalk hmannered => cases hverdict.symm.trans hover
  | breaks hverdict hsent => cases hverdict.symm.trans hover
  | ends hverdict hsent hstatus hends =>
      cases hverdict.symm.trans hover
      exact ⟨hstatus, hends⟩

end Moves

/-! ### Backing off -/

/-- What comes of a round that failed: a wait of the delay, with the next round told of, or no date
is left to tell. -/
inductive BacksOff (d : Dialer) (share now : Nat) (wall : Instant) (w' : Worker) : Prop
  | waits {date : Instant} (hdate : Dialer.retryAt? wall (d.nextDelay share) = some date)
      (hphase : w'.dialer.phase = .backingOff (now + d.nextDelay share))
      (hstatus : Rests w'.runtime.status) (hcount : w'.runtime.retryCount = d.failedRound)
      (hretry : w'.runtime.nextRetryAt = some date)
  | lost (hdate : Dialer.retryAt? wall (d.nextDelay share) = none)
      (hphase : w'.dialer.phase = .lost none)

section BackOff

variable {d : Dialer} {side : LocalSide} {share now : Nat} {wall : Instant}

theorem backsOff_wait (hshare : side.site.share = share) (hstatus : Rests side.runtime.status) :
    BacksOff d share now wall (after ({ d with round := d.failedRound }.wait side now wall)) := by
  subst hshare
  unfold Dialer.wait
  simp only
  split
  · rename_i hdate
    exact .lost hdate rfl
  · rename_i date hdate
    exact .waits hdate rfl hstatus rfl rfl

/-- Backing off is waiting, after a move unless the connection rests. -/
theorem backOff_eq (hstatus : Rests side.runtime.status) :
    d.backOff side now wall = { d with round := d.failedRound }.wait side now wall := by
  unfold Dialer.backOff
  rcases hstatus with hstatus | hstatus <;> simp only [hstatus] <;> rfl

theorem backOff_eq_moving (hstatus : ¬Rests side.runtime.status) :
    d.backOff side now wall =
      { d with round := d.failedRound }.moving side .backOff wall
        fun side => { d with round := d.failedRound }.wait side now wall := by
  unfold Dialer.backOff
  simp only
  split
  · rename_i hidle
    exact absurd (.inl hidle) hstatus
  · rename_i hbackingOff
    exact absurd (.inr hbackingOff) hstatus
  · rfl

theorem backsOff_backOff (hshare : side.site.share = share)
    (hmay : ¬Rests side.runtime.status →
      ConnectionStep.backOff.allowedFrom side.runtime.status = true) :
    BacksOff d share now wall (after (d.backOff side now wall)) := by
  by_cases hrests : Rests side.runtime.status
  · rw [backOff_eq hrests]
    exact backsOff_wait hshare hrests
  · rw [backOff_eq_moving hrests, Dialer.moving, ConnectionRuntime.take_eq_ok (hmay hrests) wall]
    exact backsOff_wait hshare (.inr rfl)

end BackOff

section Encounters

variable {w : Worker} {e : Encounter}

/-! ### A round that ends -/

theorem turn_of_endsRound (hfits : w.Fits) (hadmits : w.Admits e) (h : w.EndsRound e) :
    ∃ side : LocalSide, side.runtime.status = w.runtime.status ∧
      side.site.share = e.site.share ∧ w.turn e = w.dialer.backOff side e.now e.wall := by
  cases h with
  | exhausted hphase hevent => exact ⟨_, rfl, rfl, turn_of_trying hphase hevent⟩
  | interrupted hphase hevent hover hmild =>
      rw [turn_of_over hphase hevent hover, Dialer.endStreaming]
      simp only [hmild, Bool.false_eq_true, if_false]
      refine ⟨_, ?_, ?_, rfl⟩
      · exact (ends_of_over hfits hadmits hphase hevent hover).1
      · exact Session.share_handle _ (w.side e) e.now e.wall _

/-- **A round that ends schedules the next one.** -/
theorem backsOff_of_endsRound (hfits : w.Fits) (hadmits : w.Admits e) (h : w.EndsRound e) :
    BacksOff w.dialer e.site.share e.now e.wall (w.meet e) := by
  obtain ⟨side, hstatus, hshare, hturn⟩ := turn_of_endsRound hfits hadmits h
  rw [meet, hturn]
  refine backsOff_backOff hshare fun hmoves => ?_
  rw [hstatus] at hmoves ⊢
  exact allowedFrom_of_asks hfits (.backOff h hmoves)

/-! ### A failure -/

/-- What comes of a failure: the worker is parked if waiting cannot mend it, else the round ends or
goes on with the next candidate. -/
structure Copes (w : Worker) (e : Encounter) (error : ReplicationError) (w' : Worker) : Prop where
  parked_of_fatal : error.isFatal = true → w'.dialer.phase = .parked error
  goes_on : error.isFatal = false → w.EndsRound e ∨
    ∃ rest, w'.dialer.phase = .trying rest ∧
      (w'.runtime.status = .connecting ∨ w'.runtime.status = .handshaking)

theorem copes_failCandidate {side : LocalSide}
    (hstatus : side.runtime.status = .connecting ∨ side.runtime.status = .handshaking)
    (endpoint : ConnectionEndpoint) (rest : List ConnectionEndpoint) (error : ReplicationError) :
    w.Copes e error (after (w.dialer.failCandidate side e.wall endpoint rest error)) := by
  unfold Dialer.failCandidate
  split
  · rename_i hfatal
    refine ⟨fun _ => rfl, fun hmild => ?_⟩
    cases hfatal.symm.trans hmild
  · rename_i hmild
    exact ⟨fun hfatal => absurd hfatal hmild, fun _ => .inr ⟨rest, rfl, hstatus⟩⟩

/-- **A failure parks a worker only if waiting cannot mend it.** -/
theorem copes_of_fails {error : ReplicationError} (hfits : w.Fits) (h : w.Fails e error) :
    w.Copes e error (w.meet e) := by
  cases h with
  | refused hphase hevent =>
      rw [meet, turn_of_refused hphase hevent]
      simp only [Fits, hphase] at hfits
      exact copes_failCandidate (.inl hfits) _ _ _
  | unbuilt hphase hevent hbuild =>
      have htake := take_of_asks hfits (.handshake hphase hevent)
      rw [meet, turn_of_connected hphase hevent]
      simp only [Dialer.greet, Dialer.moving, htake, site_side, hbuild]
      exact copes_failCandidate (.inr rfl) _ _ _
  | unsent hphase hevent hbuild hwrite =>
      have htake := take_of_asks hfits (.handshake hphase hevent)
      rw [meet, turn_of_connected hphase hevent]
      simp only [Dialer.greet, Dialer.moving, htake, site_side, hbuild]
      -- The handshake is written after the move, which does not matter for whether it can be.
      split
      · rename_i hwrite'
        cases hwrite'.symm.trans (LocalSide.write_error_of_reachable (by rfl) hwrite)
        exact copes_failCandidate (.inr rfl) _ _ _
      · rename_i hwrite'
        cases hwrite'.symm.trans (LocalSide.write_error_of_reachable (by rfl) hwrite)
  | unanswered hphase hevent =>
      rw [meet, turn_of_answered hphase hevent]
      simp only [Fits, hphase] at hfits
      exact copes_failCandidate (.inr hfits) _ _ _
  | rejected hphase hevent =>
      rw [meet, turn_of_answered hphase hevent]
      simp only [Fits, hphase] at hfits
      exact copes_failCandidate (.inr hfits) _ _ _
  | disagreed hphase hevent hmode =>
      rw [meet, turn_of_answered hphase hevent, Dialer.answer]
      simp only [hmode, if_true]
      simp only [Fits, hphase] at hfits
      exact copes_failCandidate (.inr hfits) _ _ _
  | unresumed hphase hevent hmode hresume =>
      rw [meet, turn_of_answered hphase hevent, Dialer.answer]
      simp only [hmode, hresume]
      simp only [Fits, hphase] at hfits
      exact copes_failCandidate (.inr hfits) _ _ _
  | session hphase hevent hover =>
      refine ⟨fun hfatal => ?_, fun hmild => .inl (.interrupted hphase hevent hover hmild)⟩
      rw [meet, turn_of_over hphase hevent hover, Dialer.endStreaming]
      simp only [hfatal, if_true]
      rfl

/-! ### One encounter -/

/-- The worker takes part in a session that was told to stop. -/
def Leaves (w : Worker) : Prop :=
  ∃ endpoint line s, w.dialer.phase = .streaming endpoint line s ∧ s.drainUntil.isSome = true

/-- What a worker can make of an encounter. -/
inductive Turned (w : Worker) (e : Encounter) (w' : Worker) : Prop
  | stays (h : w' = w)
  /-- It was told to stop, or its session was before. -/
  | stops (hcause : e.Cancels ∨ w.Leaves) (hphase : w'.dialer.phase = .over)
  | chooses {candidates} (hfrom : w.dialer.phase = .choosing)
      (hphase : w'.dialer.phase = .trying candidates)
      (hstatus : w'.runtime.status = w.runtime.status)
  | dials {endpoint rest deadline} (hphase : w'.dialer.phase = .connecting endpoint rest deadline)
      (hstatus : w'.runtime.status = .connecting)
  | greets {endpoint rest line deadline}
      (hphase : w'.dialer.phase = .greeting endpoint rest line deadline)
      (hstatus : w'.runtime.status = .handshaking)
  | streams {endpoint line s} (hphase : w'.dialer.phase = .streaming endpoint line s)
      (hstatus : w'.runtime.status = .streaming) (hkeeps : Keeps w'.dialer.assignment s)
      (hdrain : s.drainUntil.isSome = true → e.Cancels ∨ w.Leaves)
  | parks {error} (hfails : w.Fails e error) (hfatal : error.isFatal = true)
      (hphase : w'.dialer.phase = .parked error)
  /-- The next candidate may mend the failure. -/
  | movesOn {rest} (hphase : w'.dialer.phase = .trying rest)
      (hstatus : w'.runtime.status = .connecting ∨ w'.runtime.status = .handshaking)
  | backsOff (hends : w.EndsRound e) (h : BacksOff w.dialer e.site.share e.now e.wall w')
  | wakes {until'} (hfrom : w.dialer.phase = .backingOff until')
      (hphase : w'.dialer.phase = .choosing) (hstatus : w'.runtime.status = w.runtime.status)
  | loses {line} (hbreaks : w.BreaksOff e) (hphase : w'.dialer.phase = .lost line)

theorem turned_of_fails {error : ReplicationError} (hfits : w.Fits) (hadmits : w.Admits e)
    (h : w.Fails e error) : w.Turned e (w.meet e) := by
  have hcopes := copes_of_fails hfits h
  cases hmild : error.isFatal with
  | true => exact .parks h hmild (hcopes.parked_of_fatal hmild)
  | false =>
      rcases hcopes.goes_on hmild with hends | ⟨rest, hphase, hstatus⟩
      · exact .backsOff hends (backsOff_of_endsRound hfits hadmits hends)
      · exact .movesOn hphase hstatus

/-- The next candidate is dialed. -/
theorem dials_of_trying {endpoint : ConnectionEndpoint} {rest : List ConnectionEndpoint}
    (hfits : w.Fits) (hphase : w.dialer.phase = .trying (endpoint :: rest))
    (hevent : e.event = .proceed) :
    (w.meet e).dialer.phase =
        .connecting endpoint rest (e.now + w.dialer.assignment.settings.connectTimeout) ∧
      (w.meet e).runtime.status = .connecting := by
  have htake := take_of_asks hfits (.connect hphase hevent)
  rw [meet, turn_of_trying hphase hevent]
  simp only [Dialer.tryNext, Dialer.moving, htake]
  exact ⟨rfl, rfl⟩

theorem turned_of_trying {rest : List ConnectionEndpoint} (hfits : w.Fits) (hadmits : w.Admits e)
    (hphase : w.dialer.phase = .trying rest) (hevent : e.event = .proceed) :
    w.Turned e (w.meet e) := by
  cases rest with
  | nil =>
      have hends : w.EndsRound e := .exhausted hphase hevent
      exact .backsOff hends (backsOff_of_endsRound hfits hadmits hends)
  | cons endpoint rest =>
      obtain ⟨hdials, hstatus⟩ := dials_of_trying hfits hphase hevent
      exact .dials hdials hstatus

theorem turned_of_connected {endpoint : ConnectionEndpoint} {rest : List ConnectionEndpoint}
    {deadline : Nat} {line : LineEnd} (hfits : w.Fits) (hadmits : w.Admits e)
    (hphase : w.dialer.phase = .connecting endpoint rest deadline)
    (hevent : e.event = .connected line) : w.Turned e (w.meet e) := by
  cases hbuild : w.dialer.assignment.handshake endpoint e.site.store.databaseId with
  | error error => exact turned_of_fails hfits hadmits (.unbuilt hphase hevent hbuild)
  | ok handshake =>
      cases hwrite : (w.side e).write (.handshake handshake) .off with
      | error error => exact turned_of_fails hfits hadmits (.unsent hphase hevent hbuild hwrite)
      | ok written =>
          have htake := take_of_asks hfits (.handshake hphase hevent)
          rw [meet, turn_of_connected hphase hevent]
          simp only [Dialer.greet, Dialer.moving, htake, site_side, hbuild]
          split
          · rename_i hwrite'
            cases hwrite.symm.trans (LocalSide.write_error_of_reachable (by rfl) hwrite')
          · rename_i hwrite'
            obtain ⟨bytes, -, rfl⟩ := LocalSide.write_eq_ok hwrite'
            exact .greets rfl rfl

theorem turned_startStreaming {endpoint : ConnectionEndpoint} {line : LineEnd}
    {accepted : Acceptance} {side : LocalSide} (hstatus : side.runtime.status = .handshaking) :
    w.Turned e (after (w.dialer.startStreaming side e.now e.wall endpoint line accepted)) := by
  simp only [Dialer.startStreaming, Dialer.moving, LocalSide.onRuntime, Dialer.take_stream hstatus]
  split
  · rename_i hnever
    have hnone : w.dialer.assignment.settings.heartbeatInterval = 0 := by
      unfold Session.start? at hnever
      split at hnever
      · assumption
      · cases hnever
    exact .loses (.heartbeat hnone (ReplicationSettings.validate_ne_ok hnone)) rfl
  · rename_i s hstart
    refine .streams rfl rfl ⟨(Session.start?_eq_some hstart).2.2, ?_⟩ ?_
    · intro plan hplan
      rw [(Session.start?_eq_some hstart).1, Assignment.sessionTerms] at hplan
      simp only at hplan
      split at hplan <;> cases hplan
      rfl
    · unfold Session.start? at hstart
      split at hstart
      · cases hstart
      · cases hstart
        intro hdrain
        cases hdrain

theorem turned_of_answered {endpoint : ConnectionEndpoint} {rest : List ConnectionEndpoint}
    {line : LineEnd} {deadline : Nat} {response : Outcome HandshakeResponse} (hfits : w.Fits)
    (hadmits : w.Admits e) (hphase : w.dialer.phase = .greeting endpoint rest line deadline)
    (hevent : e.event = .answered response) : w.Turned e (w.meet e) := by
  match response with
  | .error error => exact turned_of_fails hfits hadmits (.unanswered hphase hevent)
  | .ok (.rejected reason message) =>
      exact turned_of_fails hfits hadmits (.rejected hphase hevent)
  | .ok (.accepted accepted) =>
      cases hmode : accepted.mode.isEmpty ||
          !w.dialer.assignment.requestedMode.contains accepted.mode with
      | true => exact turned_of_fails hfits hadmits (.disagreed hphase hevent hmode)
      | false =>
          cases hresume : Dialer.resume (w.side e) accepted with
          | error error =>
              exact turned_of_fails hfits hadmits (.unresumed hphase hevent hmode hresume)
          | ok side =>
              rw [meet, turn_of_answered hphase hevent, Dialer.answer]
              simp only [hmode, hresume]
              have hkept : side.runtime = (w.side e).runtime :=
                (Dialer.resumes_of_resume hresume).2
              simp only [Fits, hphase] at hfits
              exact turned_startStreaming (by rw [hkept]; exact hfits)

theorem turned_of_session {endpoint : ConnectionEndpoint} {line : LineEnd} {s : Session}
    {event : SessionEvent} (hfits : w.Fits) (hadmits : w.Admits e)
    (hphase : w.dialer.phase = .streaming endpoint line s) (hevent : e.event = .session event) :
    w.Turned e (w.meet e) := by
  have hleaves : s.drainUntil.isSome = true → w.Leaves := fun h => ⟨endpoint, line, s, hphase, h⟩
  have hcancels : event = .cancelled → e.Cancels := fun h => .inr (by rw [hevent, h])
  have hfits' := hfits
  simp only [Fits, hphase] at hfits'
  obtain ⟨hstatus, hkeeps⟩ := hfits'
  cases course_of_session hfits hadmits hphase hevent with
  | goes said hgoing hsent hkept htalk hmannered =>
      rw [meet, turn_of_session hphase hevent, Dialer.streamOn_of_going w.dialer _ _ _ rfl hgoing]
      refine .streams rfl (hkept.trans hstatus) ⟨hmannered, ?_⟩ fun hdrain => ?_
      · rw [Session.terms_handle]
        exact hkeeps.delay_eq
      · by_cases hcancelled : event = .cancelled
        · exact .inl (hcancels hcancelled)
        · rw [Session.drainUntil_handle s _ _ _ hcancelled] at hdrain
          exact .inr (hleaves hdrain)
  | ends hover hsent hkept hends =>
      rename_i r
      cases r with
      | error error => exact turned_of_fails hfits hadmits (.session hphase hevent hover)
      | ok done =>
          have hcause : e.Cancels ∨ w.Leaves := by
            cases hends with
            | parted hparting =>
                cases hparting with
                | cancelled hcause => exact hcause.imp hcancels hleaves
          refine .stops hcause ?_
          rw [meet, turn_of_over hphase hevent hover]
          rfl
  | breaks hbeyond hsent =>
      obtain ⟨plan, hplan, item, hitem, hoff⟩ := Session.exists_of_beyondCalendar hbeyond
      rw [hkeeps.delay_eq plan hplan] at hoff
      rw [meet, turn_of_session hphase hevent, Dialer.streamOn]
      cases hturn : s.handle (w.side e) e.now e.wall event with
      | mk s' side' verdict =>
          rw [hturn] at hbeyond
          cases hbeyond
          exact .loses (.delay hphase hitem hoff) rfl

/-- **What a worker can make of an encounter.** -/
theorem turned (hfits : w.Fits) (hadmits : w.Admits e) : w.Turned e (w.meet e) := by
  have hturn : w.turn e = w.dialer.handle (w.side e) e.now e.wall e.event := rfl
  unfold Dialer.handle at hturn
  -- The cases of the definition: what is over, sessions, a stop, and the phases of a round.
  split at hturn
  · exact .stays (by rw [meet, hturn]; rfl)
  · exact .stays (by rw [meet, hturn]; rfl)
  · rename_i hphase hevent
    exact turned_of_session hfits hadmits hphase hevent
  · exact .stays (by rw [meet, hturn]; rfl)
  · rename_i hevent _ _ _
    exact .stops (.inl (.inl hevent)) (by rw [meet, hturn]; rfl)
  · rename_i hphase hevent
    rw [meet, hturn]
    exact .chooses hphase rfl rfl
  · rename_i hphase hevent
    exact turned_of_trying hfits hadmits hphase hevent
  · rename_i hphase hevent
    exact turned_of_connected hfits hadmits hphase hevent
  · rename_i hphase hevent
    exact turned_of_fails hfits hadmits (.refused hphase hevent)
  · rename_i hphase hevent
    exact turned_of_answered hfits hadmits hphase hevent
  · rename_i hphase hevent
    rw [meet, hturn]
    exact .wakes hphase rfl rfl
  · exact .stays (by rw [meet, hturn]; rfl)

/-! ### What an encounter leads to -/

variable {w' : Worker}

/-- The state of the connection keeps fitting what the worker is doing. -/
theorem Turned.fits (hfits : w.Fits) (h : w.Turned e w') : w'.Fits := by
  cases h with
  | stays h => exact h ▸ hfits
  | stops hcause hphase => simp only [Fits, hphase]
  | chooses hfrom hphase hstatus =>
      simp only [Fits, hfrom] at hfits
      simp only [Fits, hphase, hstatus]
      exact .inl hfits
  | dials hphase hstatus => simpa only [Fits, hphase] using hstatus
  | greets hphase hstatus => simpa only [Fits, hphase] using hstatus
  | streams hphase hstatus hkeeps hdrain =>
      simp only [Fits, hphase]
      exact ⟨hstatus, hkeeps⟩
  | parks hfails hfatal hphase => simp only [Fits, hphase]
  | movesOn hphase hstatus =>
      simp only [Fits, hphase]
      exact .inr hstatus
  | backsOff hends h =>
      cases h with
      | waits hdate hphase hstatus hcount hretry => simpa only [Fits, hphase] using hstatus
      | lost hdate hphase => simp only [Fits, hphase]
  | wakes hfrom hphase hstatus =>
      simp only [Fits, hfrom] at hfits
      simpa only [Fits, hphase, hstatus] using hfits
  | loses hbreaks hphase => simp only [Fits, hphase]

/-- A session is told to stop in an encounter, or was before. -/
theorem Turned.cancels_or_leaves (h : w.Turned e w') (hleaves : w'.Leaves) :
    e.Cancels ∨ w.Leaves := by
  obtain ⟨endpoint, line, s, hstreaming, hdrained⟩ := hleaves
  -- Only a worker that streams takes leave.
  have hother {phase : DialerPhase} (hphase : w'.dialer.phase = phase)
      (hsession : ∀ endpoint line s, phase ≠ .streaming endpoint line s) : False :=
    hsession endpoint line s (hphase.symm.trans hstreaming)
  cases h with
  | stays h => exact .inr (h ▸ ⟨endpoint, line, s, hstreaming, hdrained⟩)
  | streams hphase hstatus hkeeps hdrain =>
      cases hphase.symm.trans hstreaming
      exact hdrain hdrained
  | backsOff hends h => cases h <;> exact (hother ‹_› (by simp)).elim
  | _ => exact (hother ‹_› (by simp)).elim

/-- How a worker gives up. -/
inductive GivesUp (w : Worker) (e : Encounter) (w' : Worker) : Prop
  | stops (hphase : w'.dialer.phase = .over) (hcause : e.Cancels ∨ w.Leaves)
  | parks {error} (hphase : w'.dialer.phase = .parked error) (hfatal : error.isFatal = true)
      (hfails : w.Fails e error)
  | loses {line} (hphase : w'.dialer.phase = .lost line) (hbreaks : w.BreaksOff e)

/-- A worker that an encounter changes goes on, or gives up over it. -/
theorem Turned.working_or_givesUp (h : w.Turned e w') :
    w' = w ∨ w'.dialer.phase.isWorking = true ∨ w.GivesUp e w' := by
  have hworks {phase : DialerPhase} (hphase : w'.dialer.phase = phase)
      (hworking : phase.isWorking = true) :
      w' = w ∨ w'.dialer.phase.isWorking = true ∨ w.GivesUp e w' :=
    .inr (.inl (by rw [hphase, hworking]))
  cases h with
  | stays h => exact .inl h
  | stops hcause hphase => exact .inr (.inr (.stops hphase hcause))
  | parks hfails hfatal hphase => exact .inr (.inr (.parks hphase hfatal hfails))
  | loses hbreaks hphase => exact .inr (.inr (.loses hphase hbreaks))
  | backsOff hends h =>
      cases h with
      | waits hdate hphase => exact hworks hphase rfl
      | lost hdate hphase => exact .inr (.inr (.loses hphase (.round hends hdate)))
  | _ => exact hworks ‹_› rfl

/-- Every move is one that the worker asks for in the state it is in. -/
theorem moving_of_asks {step : ConnectionStep} (hfits : w.Fits) (hadmits : w.Admits e)
    (h : w.Asks e step) : ∃ (d : Dialer) (side : LocalSide) (next : LocalSide → DialerTurn),
      side.runtime.status = w.runtime.status ∧ w.turn e = d.moving side step e.wall next := by
  cases h with
  | connect hphase hevent =>
      rw [turn_of_trying hphase hevent, Dialer.tryNext]
      exact ⟨w.dialer, w.side e, _, rfl, rfl⟩
  | handshake hphase hevent =>
      rw [turn_of_connected hphase hevent, Dialer.greet]
      exact ⟨w.dialer, w.side e, _, rfl, rfl⟩
  | stream hphase hevent hmode hresume =>
      rw [turn_of_answered hphase hevent, Dialer.answer]
      simp only [hmode, hresume, Bool.false_eq_true, if_false, Dialer.startStreaming]
      have hkept := congrArg ConnectionRuntime.status (Dialer.resumes_of_resume hresume).2
      refine ⟨w.dialer, _, _, ?_, rfl⟩
      exact hkept
  | backOff hends hmoves =>
      obtain ⟨side, hstatus, -, hturn⟩ := turn_of_endsRound hfits hadmits hends
      rw [← hstatus] at hmoves
      exact ⟨_, side, _, hstatus, hturn.trans (backOff_eq_moving hmoves)⟩

end Encounters

/-! ### A whole life -/

/-- Something that the worker met at some time. -/
def Happened (a : Assignment) (past : List Encounter) (P : Worker → Encounter → Prop) : Prop :=
  ∃ before w e, Life a before w ∧ before ++ [e] <+: past ∧ P w e

section Lives

variable {a : Assignment} {past : List Encounter} {w : Worker} {P : Worker → Encounter → Prop}

theorem Happened.append (h : Happened a past P) (e : Encounter) : Happened a (past ++ [e]) P := by
  obtain ⟨before, w, e', hlife, hprefix, hP⟩ := h
  exact ⟨before, w, e', hlife, hprefix.trans (List.prefix_append past [e]), hP⟩

namespace Life

theorem fits (h : Life a past w) : w.Fits := by
  induction h with
  | begins => exact .inl rfl
  | meets h hadmits ih => exact (turned ih hadmits).fits ih

theorem turned {e : Encounter} (h : Life a past w) (hadmits : w.Admits e) :
    w.Turned e (w.meet e) :=
  Worker.turned h.fits hadmits

theorem cancelled_of_leaves (h : Life a past w) (hleaves : w.Leaves) :
    ∃ e ∈ past, e.Cancels := by
  induction h with
  | begins =>
      obtain ⟨endpoint, line, s, hphase, -⟩ := hleaves
      cases hphase
  | meets h hadmits ih =>
      rename_i past w e
      rcases (h.turned hadmits).cancels_or_leaves hleaves with hcancels | hleaves
      · exact ⟨e, List.mem_append_right past List.mem_cons_self, hcancels⟩
      · obtain ⟨e', hmem, hcancels⟩ := ih hleaves
        exact ⟨e', List.mem_append_left [e] hmem, hcancels⟩

/-- A worker that no longer works gave up over something that it met. -/
theorem working_or_givesUp (h : Life a past w) :
    w.dialer.phase.isWorking = true ∨ Happened a past fun before e => before.GivesUp e w := by
  induction h with
  | begins => exact .inl rfl
  | meets h hadmits ih =>
      rename_i past w e
      -- What the encounter does not change is explained by what came before.
      rcases (h.turned hadmits).working_or_givesUp with hstays | hworks | hgives
      · rw [hstays]
        exact ih.imp_right fun hgave => hgave.append e
      · exact .inl hworks
      · exact .inr ⟨past, w, e, h, List.prefix_refl _, hgives⟩

/-- What ended the work of a worker. -/
theorem cause (h : Life a past w) (hidle : w.dialer.phase.isWorking = false) :
    (w.dialer.phase = .over ∧ ∃ e ∈ past, e.Cancels) ∨
      (∃ cause, w.dialer.phase = .parked cause ∧ cause.isFatal = true ∧
        Happened a past fun before e => before.Fails e cause) ∨
      ∃ line, w.dialer.phase = .lost line ∧ Happened a past BreaksOff := by
  rcases h.working_or_givesUp with hworks | ⟨before, w', e, hlife, hprefix, hgives⟩
  · cases hidle.symm.trans hworks
  · cases hgives with
    | stops hphase hcause =>
        refine .inl ⟨hphase, ?_⟩
        rcases hcause with hcancels | hleaves
        · exact ⟨e, hprefix.mem (List.mem_append_right before List.mem_cons_self), hcancels⟩
        · obtain ⟨e', hmem, hcancels⟩ := hlife.cancelled_of_leaves hleaves
          exact ⟨e', hprefix.mem (List.mem_append_left [e] hmem), hcancels⟩
    | parks hphase hfatal hfails =>
        exact .inr (.inl ⟨_, hphase, hfatal, before, w', e, hlife, hprefix, hfails⟩)
    | loses hphase hbreaks =>
        exact .inr (.inr ⟨_, hphase, before, w', e, hlife, hprefix, hbreaks⟩)

end Life

/-- Why a worker with a past gave up, and what it does as long as it did not. -/
structure Perseveres (a : Assignment) (past : List Encounter) (w : Worker) : Prop where
  /-- It stops only after it was told to. -/
  cancelled : w.dialer.phase = .over → ∃ e ∈ past, e.Cancels
  /-- It is parked only over a failure of its own that waiting cannot mend. -/
  failed {cause} : w.dialer.phase = .parked cause →
    cause.isFatal = true ∧ Happened a past fun before e => before.Fails e cause
  /-- It is lost only over a date that no calendar has, or for want of a heartbeat. -/
  brokeOff {line} : w.dialer.phase = .lost line → Happened a past BreaksOff
  /-- No failures that waiting may mend end its work, however many they are. -/
  works : (∀ e ∈ past, ¬e.Cancels) →
    (∀ cause, cause.isFatal = true → ¬Happened a past fun before e => before.Fails e cause) →
    ¬Happened a past BreaksOff → w.dialer.phase.isWorking = true
  /-- The moves that it asks for are the moves that it makes, and all of them are allowed. -/
  moves {e step} : w.Admits e → w.Asks e step → step.allowedFrom w.runtime.status = true ∧
    ∃ (d : Dialer) (side : LocalSide) (next : LocalSide → DialerTurn),
      side.runtime.status = w.runtime.status ∧ w.turn e = d.moving side step e.wall next
  /-- After a failure that waiting may mend it goes on to the next candidate, or the round ends. -/
  goesOn {e error} : w.Admits e → w.Fails e error → error.isFatal = false →
    w.EndsRound e ∨ ∃ rest, (w.meet e).dialer.phase = .trying rest
  /-- When a round ends it waits for the next one, or there is no date for that. -/
  backsOff {e} : w.Admits e → w.EndsRound e → BacksOff w.dialer e.site.share e.now e.wall (w.meet e)
  /-- When the wait is over a round begins. -/
  wakes {e until'} : w.dialer.phase = .backingOff until' → e.event = .proceed →
    (w.meet e).dialer.phase = .choosing
  /-- A round goes through the candidates. -/
  chooses {e} : w.dialer.phase = .choosing → e.event = .proceed →
    (w.meet e).dialer.phase = .trying w.dialer.candidates
  /-- The candidates are dialed one after another. -/
  dials {e endpoint rest} : w.dialer.phase = .trying (endpoint :: rest) → e.event = .proceed →
    (w.meet e).dialer.phase =
      .connecting endpoint rest (e.now + w.dialer.assignment.settings.connectTimeout)

/-- **Dialers persevere.** -/
theorem Life.perseveres (h : Life a past w) : Perseveres a past w where
  cancelled := by
    intro hover
    have hidle : w.dialer.phase.isWorking = false := by rw [hover]; rfl
    rcases h.cause hidle with ⟨-, hcancels⟩ | ⟨cause, hphase, -⟩ | ⟨line, hphase, -⟩
    · exact hcancels
    · cases hphase.symm.trans hover
    · cases hphase.symm.trans hover
  failed := by
    intro cause hparked
    have hidle : w.dialer.phase.isWorking = false := by rw [hparked]; rfl
    rcases h.cause hidle with ⟨hphase, -⟩ | ⟨cause', hphase, hfatal, hfails⟩ | ⟨line, hphase, -⟩
    · cases hphase.symm.trans hparked
    · cases hphase.symm.trans hparked
      exact ⟨hfatal, hfails⟩
    · cases hphase.symm.trans hparked
  brokeOff := by
    intro line hlost
    have hidle : w.dialer.phase.isWorking = false := by rw [hlost]; rfl
    rcases h.cause hidle with ⟨hphase, -⟩ | ⟨cause, hphase, -⟩ | ⟨line', -, hbreaks⟩
    · cases hphase.symm.trans hlost
    · cases hphase.symm.trans hlost
    · exact hbreaks
  works := by
    intro hcancels hfails hbreaks
    cases hidle : w.dialer.phase.isWorking with
    | true => rfl
    | false =>
        rcases h.cause hidle with
          ⟨-, e, hmem, hcancel⟩ | ⟨cause, -, hfatal, hfailed⟩ | ⟨-, -, hbroke⟩
        · exact absurd hcancel (hcancels e hmem)
        · exact absurd hfailed (hfails cause hfatal)
        · exact absurd hbroke hbreaks
  moves := by
    intro e step hadmits hasks
    exact ⟨allowedFrom_of_asks h.fits hasks, moving_of_asks h.fits hadmits hasks⟩
  goesOn := by
    intro e error hadmits hfails hmild
    refine ((copes_of_fails h.fits hfails).goes_on hmild).imp_right ?_
    rintro ⟨rest, hphase, -⟩
    exact ⟨rest, hphase⟩
  backsOff := backsOff_of_endsRound h.fits
  wakes := by
    intro e until' hphase hevent
    simp only [meet, after, turn, Dialer.handle, hphase, hevent]
  chooses := by
    intro e hphase hevent
    simp only [meet, after, turn, Dialer.handle, hphase, hevent]
  dials := by
    intro e endpoint rest hphase hevent
    exact (dials_of_trying h.fits hphase hevent).1

end Lives

/-- On a site where nothing happened yet something happens to a dialer. -/
def onEmptySite (event : DialerEvent) : Encounter :=
  ⟨⟨.empty "copy-id", .empty 16, default, default, 500, []⟩, true, 0, default, event⟩

/-- A dialer that was refused by its one candidate. -/
def refusedOnce : Worker :=
  ((((⟨.new mirrorAssignment, .initial⟩ : Worker).meet (onEmptySite .proceed)).meet
    (onEmptySite .proceed)).meet (onEmptySite (.refused (.transient "nobody listens")))).meet
      (onEmptySite .proceed)

theorem life_refusedOnce : Life mirrorAssignment
    [onEmptySite .proceed, onEmptySite .proceed,
      onEmptySite (.refused (.transient "nobody listens")), onEmptySite .proceed] refusedOnce := by
  have hmeets {past : List Encounter} {w : Worker} {event : DialerEvent}
      (h : Life mirrorAssignment past w) (hevent : event ≠ .session .scan) :
      Life mirrorAssignment (past ++ [onEmptySite event]) (w.meet (onEmptySite event)) :=
    h.meets fun _ _ hscan => absurd hscan hevent
  exact hmeets (hmeets (hmeets (hmeets .begins (by simp)) (by simp)) (by simp)) (by simp)

/-- It backs off for half a second, less half of the jitter, and perseveres. -/
theorem perseveres_refusedOnce :
    refusedOnce.dialer.phase = .backingOff 450 ∧
      Perseveres mirrorAssignment
        [onEmptySite .proceed, onEmptySite .proceed,
          onEmptySite (.refused (.transient "nobody listens")), onEmptySite .proceed]
        refusedOnce :=
  ⟨rfl, Life.perseveres life_refusedOnce⟩

end Worker

/-! ### In a fleet -/

namespace Fleet

variable {f : Fleet} {p : DialerProcess} {e : Encounter} {network : Network}

theorem next?_of_sessionEvent? {s : Session} {cancelled : Bool} {store : Store} {line : LineEnd}
    {unsent : List UInt8} {event : SessionEvent}
    (h : f.sessionEvent? s cancelled store line unsent = some (event, network)) :
    s.next? f.clock cancelled store.announcements (f.delivery line unsent) (f.receive line) =
      some event := by
  obtain ⟨event', hnext, heq⟩ := Option.map_eq_some_iff.1 h
  cases event' <;> cases heq <;> exact hnext

/-- What a dialer meets in a fleet it admits. -/
theorem admits_of_dialerEvent? (h : f.dialerEvent? p e.site.store = some (e.event, network)) :
    Worker.Admits ⟨p.dialer, p.runtime⟩ e := by
  intro s hs hscan
  unfold Dialer.session? at hs
  simp only at hs
  split at hs
  · rename_i hphase
    cases hs
    simp only [dialerEvent?, hphase, hscan, Option.map_eq_some_iff, Prod.mk.injEq] at h
    obtain ⟨⟨event, n⟩, hsession, hevent, -⟩ := h
    cases hevent
    exact Session.inFlight_of_next?_scan (next?_of_sessionEvent? hsession)
  · cases hs

/-- Dialing reaches the candidate or does not. -/
theorem dial_cases {endpoint : ConnectionEndpoint} {deadline : Nat} {event : DialerEvent}
    (h : f.dial endpoint deadline = some (event, network)) :
    (∃ line, event = .connected line) ∨ ∃ error, event = .refused error := by
  unfold dial at h
  split at h
  · split at h <;> cases h
    exact .inr ⟨_, rfl⟩
  · split at h <;> cases h
    · exact .inl ⟨_, rfl⟩
    · exact .inr ⟨_, rfl⟩

/-- Only who was cancelled is told to stop. -/
theorem isDialerCancelled_of_cancels
    (h : f.dialerEvent? p e.site.store = some (e.event, network)) (hcancels : e.Cancels) :
    f.isDialerCancelled p = true := by
  cases hcancelled : f.isDialerCancelled p with
  | true => rfl
  | false =>
      -- Nothing else that comes of a phase is an order to stop.
      have hno {event : DialerEvent} (hevent : event = e.event) (hstop : event ≠ .cancelled)
          (hsession : event ≠ .session .cancelled) : False :=
        hcancels.elim (fun h => hstop (hevent.trans h)) fun h => hsession (hevent.trans h)
      simp only [dialerEvent?, hcancelled, Bool.false_eq_true, if_false] at h
      split at h
      · cases hno (Prod.mk.inj (Option.some.inj h)).1 (by simp) (by simp)
      · cases hno (Prod.mk.inj (Option.some.inj h)).1 (by simp) (by simp)
      · cases hno (Prod.mk.inj (Option.some.inj h)).1 (by simp) (by simp)
      · rcases dial_cases h with ⟨line, hevent⟩ | ⟨error, hevent⟩ <;>
          cases hno hevent.symm (by simp) (by simp)
      · obtain ⟨response, -, hevent⟩ := Option.map_eq_some_iff.1 h
        cases hno (Prod.mk.inj hevent).1 (by simp) (by simp)
      · obtain ⟨⟨event, n⟩, hsession, hevent⟩ := Option.map_eq_some_iff.1 h
        refine (hno (Prod.mk.inj hevent).1 (by simp) ?_).elim
        intro hstop
        cases hstop
        exact absurd (Session.cancelled_of_next? (next?_of_sessionEvent? hsession)) (by simp)
      · split at h
        · cases hno (Prod.mk.inj (Option.some.inj h)).1 (by simp) (by simp)
        · cases h
      · cases h
      · cases h
      · cases h

end Fleet

end HubReplication
