/-
**The accepting side.**

An acceptor serves one connection: it waits for the handshake, has the database loaded, lets the
peer in or refuses it, waits until the peer says from where on it wants data, and streams.  A
refusal is counted, recorded where the database could be loaded, and told to the peer.

Main definitions:

* `Acceptor`, `AcceptorPhase` — an acceptor and what it is doing;
* `AcceptorEvent`, `Acceptor.handle` — what happens to an acceptor, and what it does then;
* `Acceptor.deadline?` — how long it waits.

Main results:

* `Acceptor.refuse_phase` — a refused connection is over.
-/

import HubReplication.Connection.Admission
import HubReplication.Session.Turn
import HubReplication.Settings

set_option relaxedAutoImplicit false
set_option autoImplicit false

namespace HubReplication

/-- A handshake that was let in, and what was agreed on. -/
structure Admitted where
  handshake : Handshake
  admission : Admission
  compression : Bool

/-- What an acceptor is doing; times are on the clock of the timers. -/
inductive AcceptorPhase where
  | greeting (deadline : Nat)
  /-- The database is being loaded. -/
  | loading (handshake : Handshake) (deadline : Nat)
  /-- The peer has to say from where on it wants data. -/
  | resuming (admitted : Admitted) (deadline : Nat)
  /-- The connection is ready to stream from an etag on, once it is registered. -/
  | ready (admitted : Admitted) (startEtag : Nat)
  | streaming (admitted : Admitted) (session : Session)
  | over
  /-- The acceptor broke off at a date that no calendar has, or for want of a heartbeat. -/
  | lost

/-- An acceptor. -/
structure Acceptor where
  node : NodeTag
  security : ServerSecurity
  settings : ReplicationSettings
  /-- The other side, as messages name it. -/
  peer : String
  phase : AcceptorPhase

/-- What happens to an acceptor. -/
inductive AcceptorEvent where
  | greeted (handshake : Handshake)
  /-- No handshake came, or something else did. -/
  | ungreeted
  | loaded
  | unloadable (error : ReplicationError)
  | loadTimedOut
  | resumed (etag : Nat)
  | unresumed (error : ReplicationError)
  | registered
  | session (event : SessionEvent)

/-- An acceptor after a step, and its side of the connection. -/
structure AcceptorTurn where
  acceptor : Acceptor
  side : LocalSide

namespace Acceptor

/-- When an acceptor stops waiting, if nothing else happens. -/
def deadline? (a : Acceptor) : Option Nat :=
  match a.phase with
  | .greeting deadline | .loading _ deadline | .resuming _ deadline => some deadline
  | .streaming _ session => session.deadline?
  | .ready _ _ | .over | .lost => none

/-- The session that an acceptor takes part in. -/
def session? (a : Acceptor) : Option Session :=
  match a.phase with
  | .streaming _ session => some session
  | _ => none

/-- Whether an acceptor broke off, so that nobody gave its line up. -/
def isLost (a : Acceptor) : Bool :=
  match a.phase with
  | .lost => true
  | _ => false

/-- Whether an acceptor does nothing any more. -/
def isOver (a : Acceptor) : Bool :=
  match a.phase with
  | .over | .lost => true
  | _ => false

/-! ### Refusals -/

/-- How much a refusal matters. -/
def severity (e : ReplicationError) : Severity := if e.isFatal then .error else .warn

/-- Refuse the peer, and tell it why if it is still there. -/
def refuse (a : Acceptor) (side : LocalSide) (wall : Instant) (h : Handshake) (r : Rejection) :
    AcceptorTurn :=
  let side := side.onRuntime fun rt => (rt.tryTake .fail wall).recordError r.error
  let side := (side.count Metrics.handshakeRejected).onFailures fun f =>
    f.recordRejection h.sourceDatabase r.error wall
  let side := side.log ⟨severity r.error, .handshakeRejected, some r.reason.name⟩
  let a := { a with phase := .over }
  match side.write (.response (.rejected r.reason r.error.message)) .off with
  | .ok (_, side) => ⟨a, side⟩
  | .error _ => ⟨a, side⟩

/-- The connection failed after the peer was let in. -/
def abandon (a : Acceptor) (side : LocalSide) : AcceptorTurn :=
  ⟨{ a with phase := .over }, side.log (.plain .warn .streamingStopped)⟩

/-! ### Letting in -/

/-- Whether this side will send. -/
def sends (admission : Admission) : Bool := admission.mode.contains Mode.hubToSink

/-- The peer is let in: say so, and wait for it to resume if this side will send. -/
def letIn (a : Acceptor) (side : LocalSide) (now : Nat) (state : ClusterState)
    (record : DatabaseRecord) (h : Handshake) (admission : Admission) : AcceptorTurn :=
  let acceptance := h.acceptance state record admission side.site.store.databaseId
    (side.site.store.lastReplicatedEtag h.sourceDatabaseId) a.settings.compression
  match side.write (.response (.accepted acceptance)) .off with
  | .error _ => a.abandon side
  | .ok (_, side) =>
    let admitted : Admitted := ⟨h, admission, acceptance.compression⟩
    ⟨{ a with phase :=
        if sends admission then .resuming admitted (now + a.settings.handshakeTimeout)
        else .ready admitted 0 },
      (side.count Metrics.handshakeAccepted).log (.plain .info .handshakeAccepted)⟩

/-- The database is loaded: decide about the peer. -/
def judge (a : Acceptor) (side : LocalSide) (now : Nat) (wall : Instant) (state : ClusterState)
    (h : Handshake) : AcceptorTurn :=
  match state.database? h.database with
  | none => a.refuse side wall h (.ofError (.databaseMissing h.database))
  | some record =>
    let side := side.onRuntime fun r => r.tryTake .authorize wall
    match h.authorize a.security record wall with
    | .error r => a.refuse side wall h r
    | .ok admission => a.letIn side now state record h admission

/-- A handshake came: look at the version and the database. -/
def greet (a : Acceptor) (side : LocalSide) (now : Nat) (wall : Instant) (state : ClusterState)
    (h : Handshake) : AcceptorTurn :=
  let side := side.onRuntime fun r => r.tryTake .handshake wall
  match h.checkHosting a.node state with
  | .error e => a.refuse side wall h (.ofError e)
  | .ok () =>
    ⟨{ a with phase := .loading h (now + a.settings.databaseLoadTimeout) }, side⟩

/-! ### Streaming -/

/-- The terms of the session. -/
def sessionTerms (a : Acceptor) (admitted : Admitted) (startEtag : Nat) : SessionTerms :=
  let admission := admitted.admission
  { peer := a.peer
    compression := ⟨admitted.compression, a.settings.compressionThreshold⟩
    heartbeat := a.settings.heartbeatInterval
    maxBatchSize := a.settings.maxBatchSize
    outbound :=
      if sends admission then some ⟨startEtag, admission.outboundPaths, admission.delay⟩ else none
    inbound :=
      if admission.mode.contains Mode.sinkToHub then
        some ⟨admitted.handshake.sourceDatabaseId, admission.inboundPaths⟩
      else none }

/-- The connection is registered: stream. -/
def start (a : Acceptor) (side : LocalSide) (now : Nat) (wall : Instant) (admitted : Admitted)
    (startEtag : Nat) : AcceptorTurn :=
  let side := (side.onRuntime fun r => r.tryTake .stream wall).log (.plain .info .streamingStarted)
  match Session.start? (a.sessionTerms admitted startEtag) now side.site.store.announcements with
  | none => ⟨{ a with phase := .lost }, side⟩
  | some session =>
    ⟨{ a with phase := .streaming admitted session },
      side.onSite fun s => { s with activity := s.activity.enter admitted.handshake.database }⟩

/-- Streaming ended. -/
def leave (a : Acceptor) (side : LocalSide) (admitted : Admitted) (phase : AcceptorPhase) :
    AcceptorTurn :=
  ⟨{ a with phase },
    side.onSite fun s => { s with activity := s.activity.leave admitted.handshake.database }⟩

/-- Take part in the session. -/
def streamOn (a : Acceptor) (side : LocalSide) (now : Nat) (wall : Instant) (admitted : Admitted)
    (session : Session) (event : SessionEvent) : AcceptorTurn :=
  match session.handle side now wall event with
  | ⟨session, side, .going⟩ => ⟨{ a with phase := .streaming admitted session }, side⟩
  | ⟨_, side, .over result⟩ =>
    let side := side.onRuntime fun r => r.tryTake .dispose wall
    match result with
    | .ok () => a.leave side admitted .over
    | .error _ => a.leave (side.log (.plain .warn .streamingStopped)) admitted .over
  | ⟨_, side, .beyondCalendar⟩ => a.leave side admitted .lost

/-! ### Any event -/

/-- Deal with an event; one that does not fit the phase changes nothing. -/
def handle (a : Acceptor) (side : LocalSide) (now : Nat) (wall : Instant) (state : ClusterState)
    (event : AcceptorEvent) : AcceptorTurn :=
  match a.phase, event with
  | .greeting _, .greeted h => a.greet side now wall state h
  | .greeting _, .ungreeted => ⟨{ a with phase := .over }, side⟩
  | .loading h _, .loaded => a.judge side now wall state h
  | .loading h _, .unloadable e => a.refuse side wall h (.ofError (h.loadRejection e))
  | .loading h _, .loadTimedOut =>
    a.refuse side wall h (.ofError (h.loadTimeout a.settings.databaseLoadTimeout))
  | .resuming admitted _, .resumed etag => ⟨{ a with phase := .ready admitted etag }, side⟩
  | .resuming _ _, .unresumed _ => a.abandon side
  | .ready admitted startEtag, .registered => a.start side now wall admitted startEtag
  | .streaming admitted session, .session event =>
    a.streamOn side now wall admitted session event
  | _, _ => ⟨a, side⟩

theorem refuse_phase (a : Acceptor) (side : LocalSide) (wall : Instant) (h : Handshake)
    (r : Rejection) : (a.refuse side wall h r).acceptor.phase = .over := by
  simp only [refuse]
  split <;> rfl

end Acceptor

end HubReplication
