/-
**The dialing side.**

A dialer works on one task.  In a round it walks through the candidates; a failure that may pass
moves it to the next one, and when all failed it backs off and starts another round.  A failure that
waiting cannot mend parks it until it is cancelled.  It remembers the topology that the destination
announced and the node it streamed with, so that the next round starts there.

Main definitions:

* `Assignment` — what a dialer works on, with its handshake and the terms of its sessions;
* `Dialer`, `DialerPhase` — a dialer and what it is doing;
* `DialerEvent`, `Dialer.handle` — what happens to a dialer, and what it does then;
* `Dialer.line?`, `Dialer.deadline?` — what it holds and how long it waits.

Main results:

* `Dialer.failCandidate_phase` — a candidate that failed parks the dialer or moves it on.
-/

import HubReplication.Destination
import HubReplication.Network
import HubReplication.Session.Turn
import HubReplication.Settings

set_option relaxedAutoImplicit false
set_option autoImplicit false

namespace HubReplication

/-- What a dialer works on. -/
structure Assignment where
  node : NodeTag
  security : ServerSecurity
  settings : ReplicationSettings
  database : String
  task : OngoingTask
  connection : ReplicationConnectionString

namespace Assignment

/-- The directions that a task asks for; pushing goes from the dialer to the acceptor. -/
def requestedMode (a : Assignment) : Mode :=
  match a.task with
  | .sink sink => sink.mode
  | _ => Mode.sinkToHub

/-- The certificate of a bundle, where there is one. -/
def publicPart : Option String → Outcome (Option String)
  | none => .ok none
  | some bundle => (CertificateBundle.parse bundle).map fun b => some b.certificate.encoded

/-- Who a task says it is: its kind, the hub it asks for, and its certificate. -/
def identity (a : Assignment) : Outcome (ConnectionKind × Option String × Option String) :=
  match a.task with
  | .sink sink => (publicPart sink.bundle).map fun c => (.sink, some sink.hubName, c)
  | .external _ => .ok (.external, none, a.security.node?.map (·.certificate.encoded))
  | .hub hub => .error (.invalidConfiguration ("hub '" ++ hub.name ++ "' does not dial out"))

/-- The handshake with a candidate. -/
def handshake (a : Assignment) (endpoint : ConnectionEndpoint) (databaseId : String) :
    Outcome Handshake :=
  a.identity.map fun (kind, hub, certificate) =>
    { version := protocolVersion
      kind
      database := endpoint.database
      hub
      requestedMode := a.requestedMode
      sourceDatabase := a.database
      sourceDatabaseId := databaseId
      sourceNode := some a.node.text
      certificate
      compression := a.settings.compression }

/-- How old an item must be before it is pushed. -/
def delay (a : Assignment) : Nat :=
  match a.task with
  | .external external => external.delay
  | _ => 0

/-- The terms of a session with a candidate that accepted. -/
def sessionTerms (a : Assignment) (endpoint : ConnectionEndpoint) (accepted : Acceptance) :
    SessionTerms :=
  { peer := endpoint.url
    compression :=
      ⟨accepted.compression && a.settings.compression, a.settings.compressionThreshold⟩
    heartbeat := a.settings.heartbeatInterval
    maxBatchSize := a.settings.maxBatchSize
    outbound :=
      if accepted.mode.contains Mode.sinkToHub then
        some ⟨accepted.lastAcceptedEtag, accepted.allowedPaths, a.delay⟩
      else none
    inbound :=
      if accepted.mode.contains Mode.hubToSink then some ⟨accepted.databaseId, .empty⟩ else none }

end Assignment

/-- What a dialer is doing; times are on the clock of the timers. -/
inductive DialerPhase where
  /-- A round is about to start. -/
  | choosing
  /-- The next candidate is about to be dialed. -/
  | trying (rest : List ConnectionEndpoint)
  | connecting (endpoint : ConnectionEndpoint) (rest : List ConnectionEndpoint) (deadline : Nat)
  /-- The handshake was sent. -/
  | greeting (endpoint : ConnectionEndpoint) (rest : List ConnectionEndpoint) (line : LineEnd)
    (deadline : Nat)
  | streaming (endpoint : ConnectionEndpoint) (line : LineEnd) (session : Session)
  | backingOff (until' : Nat)
  | parked (cause : ReplicationError)
  | over
  /-- The dialer broke off at a date that no calendar has, or for want of a heartbeat; nobody gave
  the line up that it streamed on. -/
  | lost (line : Option LineEnd)

/-- A dialer. -/
structure Dialer where
  assignment : Assignment
  /-- The nodes that the destination announced last. -/
  discovered : List TopologyNode
  /-- The node that the dialer streamed with last. -/
  preferred : Option NodeTag
  /-- How many rounds failed in a row. -/
  round : Nat
  phase : DialerPhase

/-- What happens to a dialer. -/
inductive DialerEvent where
  /-- Nothing stands in the way of the next step. -/
  | proceed
  | cancelled
  /-- The candidate was reached. -/
  | connected (line : LineEnd)
  /-- The candidate was not reached. -/
  | refused (error : ReplicationError)
  /-- The candidate answered the handshake, or failed to. -/
  | answered (response : Outcome HandshakeResponse)
  | session (event : SessionEvent)

/-- A dialer after a step, and its side of the connection. -/
structure DialerTurn where
  dialer : Dialer
  side : LocalSide

namespace Dialer

/-- A dialer that did nothing yet. -/
def new (assignment : Assignment) : Dialer :=
  { assignment, discovered := [], preferred := none, round := 0, phase := .choosing }

/-- The line that a dialer holds. -/
def line? (d : Dialer) : Option LineEnd :=
  match d.phase with
  | .greeting _ _ line _ | .streaming _ line _ => some line
  | .lost line => line
  | _ => none

/-- The session that a dialer takes part in. -/
def session? (d : Dialer) : Option Session :=
  match d.phase with
  | .streaming _ _ session => some session
  | _ => none

/-- When a dialer stops waiting, if nothing else happens. -/
def deadline? (d : Dialer) : Option Nat :=
  match d.phase with
  | .connecting _ _ deadline | .greeting _ _ _ deadline => some deadline
  | .streaming _ _ session => session.deadline?
  | .backingOff until' => some until'
  | _ => none

/-- Whether a dialer does nothing any more. -/
def isOver (d : Dialer) : Bool :=
  match d.phase with
  | .over | .lost _ => true
  | _ => false

/-- Whether a dialer broke off. -/
def isLost (d : Dialer) : Bool :=
  match d.phase with
  | .lost _ => true
  | _ => false

/-! ### Ends -/

/-- Stop for good. -/
def dispose (d : Dialer) (side : LocalSide) (wall : Instant) : DialerTurn :=
  ⟨{ d with phase := .over },
    (side.onRuntime fun r => r.tryTake .dispose wall).log (.plain .info .connectionDisposed)⟩

/-- Wait for a change of the definition. -/
def park (d : Dialer) (side : LocalSide) (wall : Instant) (e : ReplicationError) : DialerTurn :=
  let side := side.onRuntime fun r => (r.tryTake .fail wall).recordError e
  let side := match side.runtime.destination with
    | some endpoint => side.onFailures fun f => f.recordOutgoing endpoint.url e wall
    | none => side
  ⟨{ d with phase := .parked e }, side.log (.plain .error .connectionParked)⟩

/-- Make a move and go on, or park where the move is forbidden. -/
def moving (d : Dialer) (side : LocalSide) (step : ConnectionStep) (wall : Instant)
    (next : LocalSide → DialerTurn) : DialerTurn :=
  match side.runtime.take step wall with
  | .ok runtime => next { side with runtime }
  | .error e => d.park side wall e

/-! ### Rounds -/

/-- When a wait that starts now is over; `none` when the calendar ends before.  A wait that the
calendar cannot count is told as no wait. -/
def retryAt? (wall : Instant) (delay : Nat) : Option Instant :=
  wall.add? (Span.ofMillis (if Span.maxMillis < delay then 0 else delay))

/-- Wait for the next round. -/
def wait (d : Dialer) (side : LocalSide) (now : Nat) (wall : Instant) : DialerTurn :=
  let delay := d.assignment.settings.retryPolicy.spread d.round side.site.share
  match retryAt? wall delay with
  | none => ⟨{ d with phase := .lost none }, side⟩
  | some at' =>
    ⟨{ d with phase := .backingOff (now + delay) },
      ((side.onRuntime fun r => r.scheduleRetry d.round at').count Metrics.retry).log
        (.plain .info .backoff)⟩

/-- Back off after a round. -/
def backOff (d : Dialer) (side : LocalSide) (now : Nat) (wall : Instant) : DialerTurn :=
  let d := { d with round := min (d.round + 1) (UInt32.size - 1) }
  match side.runtime.status with
  | .idle | .backingOff => d.wait side now wall
  | _ => d.moving side .backOff wall fun side => d.wait side now wall

/-- The failure of a round in which nobody accepted. -/
def exhausted (d : Dialer) : ReplicationError :=
  .topologyExhausted
    ("no candidate of connection string '" ++ d.assignment.connection.name ++
      "' accepted task '" ++ d.assignment.task.name ++ "'")

/-- Dial the next candidate, or back off when there is none. -/
def tryNext (d : Dialer) (side : LocalSide) (now : Nat) (wall : Instant) :
    List ConnectionEndpoint → DialerTurn
  | [] =>
    let side := side.onRuntime fun r => r.recordError d.exhausted
    d.backOff (side.log (.plain .warn .topologyExhausted)) now wall
  | endpoint :: rest =>
    d.moving side .connect wall fun side =>
      let side := side.onRuntime fun r => { r with destination := some endpoint }
      ⟨{ d with phase := .connecting endpoint rest (now + d.assignment.settings.connectTimeout) },
        (side.count Metrics.connectionAttempt).log (.plain .info .connectionAttempt)⟩

/-- A candidate failed: go on to the next one, or park if waiting cannot mend it. -/
def failCandidate (d : Dialer) (side : LocalSide) (wall : Instant) (endpoint : ConnectionEndpoint)
    (rest : List ConnectionEndpoint) (e : ReplicationError) : DialerTurn :=
  if e.isFatal then d.park side wall e
  else
    let side := (side.count Metrics.connectionFailure).onFailures fun f =>
      f.recordOutgoing endpoint.url e wall
    ⟨{ d with phase := .trying rest },
      (side.onRuntime fun r => r.recordError e).log (.plain .warn .connectionFailed)⟩

/-! ### Handshake -/

/-- The candidate was reached: send the handshake. -/
def greet (d : Dialer) (side : LocalSide) (now : Nat) (wall : Instant)
    (endpoint : ConnectionEndpoint) (rest : List ConnectionEndpoint) (line : LineEnd) :
    DialerTurn :=
  d.moving side .handshake wall fun side =>
    match d.assignment.handshake endpoint side.site.store.databaseId with
    | .error e => d.failCandidate side wall endpoint rest e
    | .ok handshake =>
      match side.write (.handshake handshake) .off with
      | .error e => d.failCandidate side wall endpoint rest e
      | .ok (_, side) =>
        ⟨{ d with
            phase := .greeting endpoint rest line (now + d.assignment.settings.handshakeTimeout) },
          side⟩

/-- The tag of the node that accepted: the one it was dialed by, or the one it announced. -/
def acceptedTag (endpoint : ConnectionEndpoint) (topology : List TopologyNode) : Option NodeTag :=
  match endpoint.nodeTag with
  | some tag => some tag
  | none => (topology.find? fun n => sameUrl n.url endpoint.url).map (·.tag)

/-- Stream with the candidate. -/
def startStreaming (d : Dialer) (side : LocalSide) (now : Nat) (wall : Instant)
    (endpoint : ConnectionEndpoint) (line : LineEnd) (accepted : Acceptance) : DialerTurn :=
  let tag := acceptedTag endpoint accepted.topology
  let destination := { endpoint with nodeTag := tag }
  let side := side.onRuntime fun r => { r with destination := some destination }
  d.moving side .stream wall fun side =>
    let side := side.onRuntime fun r => r.resetRetries
    let side := (side.onFailures fun f => f.recordOutgoingSuccess endpoint.url).log
      (.plain .info .streamingStarted)
    let d := { d with
      discovered := if accepted.topology.isEmpty then d.discovered else accepted.topology
      preferred := tag
      round := 0 }
    match Session.start? (d.assignment.sessionTerms endpoint accepted) now
        side.site.store.announcements with
    | none => ⟨{ d with phase := .lost (some line) }, side⟩
    | some session =>
      ⟨{ d with phase := .streaming endpoint line session },
        side.onSite fun s => { s with activity := s.activity.enter d.assignment.database }⟩

/-- Tell the candidate from where on it shall send, if it will send. -/
def resume (side : LocalSide) (accepted : Acceptance) : Outcome LocalSide :=
  if accepted.mode.contains Mode.hubToSink then
    (side.write (.resume (side.site.store.lastReplicatedEtag accepted.databaseId)) .off).map (·.2)
  else .ok side

/-- What to do with an answer to the handshake. -/
def answer (d : Dialer) (side : LocalSide) (now : Nat) (wall : Instant)
    (endpoint : ConnectionEndpoint) (rest : List ConnectionEndpoint) (line : LineEnd) :
    Outcome HandshakeResponse → DialerTurn
  | .error e => d.failCandidate side wall endpoint rest e
  | .ok (.rejected reason message) =>
    d.failCandidate side wall endpoint rest (reason.toError message)
  | .ok (.accepted accepted) =>
    let requested := d.assignment.requestedMode
    if accepted.mode.isEmpty || !requested.contains accepted.mode then
      d.failCandidate side wall endpoint rest
        (.protocolMismatch
          (endpoint.url ++ " accepted mode " ++ accepted.mode.describe ++ ", requested " ++
            requested.describe))
    else
      match resume side accepted with
      | .error e => d.failCandidate side wall endpoint rest e
      | .ok side => d.startStreaming side now wall endpoint line accepted

/-! ### Streaming -/

/-- Streaming ended: stop if that was on purpose, park if waiting cannot mend it, else back off. -/
def endStreaming (d : Dialer) (side : LocalSide) (now : Nat) (wall : Instant)
    (endpoint : ConnectionEndpoint) (result : Outcome Unit) : DialerTurn :=
  let side := side.onSite fun s => { s with activity := s.activity.leave d.assignment.database }
  match result with
  | .ok () => d.dispose side wall
  | .error e =>
    if e.isFatal then d.park side wall e
    else
      let side := side.onFailures fun f => f.recordOutgoing endpoint.url e wall
      let side := (side.onRuntime fun r => r.recordError e).log (.plain .warn .streamingStopped)
      d.backOff side now wall

/-- Take part in the session. -/
def streamOn (d : Dialer) (side : LocalSide) (now : Nat) (wall : Instant)
    (endpoint : ConnectionEndpoint) (line : LineEnd) (session : Session) (event : SessionEvent) :
    DialerTurn :=
  match session.handle side now wall event with
  | ⟨session, side, .going⟩ => ⟨{ d with phase := .streaming endpoint line session }, side⟩
  | ⟨_, side, .over result⟩ => d.endStreaming side now wall endpoint result
  | ⟨_, side, .beyondCalendar⟩ =>
    ⟨{ d with phase := .lost (some line) },
      side.onSite fun s => { s with activity := s.activity.leave d.assignment.database }⟩

/-! ### Any event -/

/-- The candidates of a round. -/
def candidates (d : Dialer) : List ConnectionEndpoint :=
  Destination.candidates d.assignment.connection d.discovered d.preferred

/-- Deal with an event; one that does not fit the phase changes nothing. -/
def handle (d : Dialer) (side : LocalSide) (now : Nat) (wall : Instant) (event : DialerEvent) :
    DialerTurn :=
  match d.phase, event with
  | .over, _ | .lost _, _ => ⟨d, side⟩
  | .streaming endpoint line session, .session event =>
    d.streamOn side now wall endpoint line session event
  | .streaming _ _ _, _ => ⟨d, side⟩
  | _, .cancelled => d.dispose side wall
  | .choosing, .proceed => ⟨{ d with phase := .trying d.candidates }, side⟩
  | .trying rest, .proceed => d.tryNext side now wall rest
  | .connecting endpoint rest _, .connected line => d.greet side now wall endpoint rest line
  | .connecting endpoint rest _, .refused e => d.failCandidate side wall endpoint rest e
  | .greeting endpoint rest line _, .answered response =>
    d.answer side now wall endpoint rest line response
  | .backingOff _, .proceed => ⟨{ d with phase := .choosing }, side⟩
  | _, _ => ⟨d, side⟩

theorem failCandidate_phase (d : Dialer) (side : LocalSide) (wall : Instant)
    (endpoint : ConnectionEndpoint) (rest : List ConnectionEndpoint) (e : ReplicationError) :
    (d.failCandidate side wall endpoint rest e).dialer.phase =
      if e.isFatal then .parked e else .trying rest := by
  unfold failCandidate
  split <;> rfl

end Dialer

end HubReplication
