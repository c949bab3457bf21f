/-
**Connections in a fleet.**

A dialer or an acceptor is told what happened to it — something arrived, a time is over, it was
cancelled — and what it writes goes on its line.  What a session writes goes on the line as far as
there is room, and the rest follows as the peer takes it off.

Main definitions:

* `Fleet.finishStep`, `Fleet.strand` — what comes of a line after a step;
* `Fleet.runStraggler` — a step of a reader that was left behind;
* `Fleet.dialerEvent?`, `Fleet.dialerTurn`, `Fleet.runDialer` — a step of a dialer;
* `Fleet.acceptorEvent?`, `Fleet.runAcceptor` — a step of an acceptor.
-/

import HubReplication.Fleet.Loading

set_option relaxedAutoImplicit false
set_option autoImplicit false

namespace HubReplication.Fleet

/-! ### Dialers -/

/-- Whether a dialer has to stop. -/
def isDialerCancelled (f : Fleet) (p : DialerProcess) : Bool :=
  p.cancelled ||
    match f.database? p.member p.serial with
    | some d => d.disposed
    | none => true

/-- An event that becomes known together with a change of the network. -/
abbrev Noticed (ε : Type) := Option (ε × Network)

/-- Dialing a candidate: while its listener has to catch up, only time passes. -/
def dial (f : Fleet) (endpoint : ConnectionEndpoint) (deadline : Nat) : Noticed DialerEvent :=
  if f.network.isBusy endpoint.url then
    if deadline ≤ f.clock then
      some (.refused (.transient ("connect to " ++ endpoint.url ++ " timed out")), f.network)
    else none
  else
    match f.network.connect endpoint.url with
    | .ok (line, network) => some (.connected line, network)
    | .error e => some (.refused e, f.network)

/-- The network after something was read at an end of a line. -/
def afterReading (f : Fleet) (e : LineEnd) : Received → Network
  | .frame _ rest | .failed _ rest => f.network.leave e rest
  | .ended | .pending => f.network

/-- What a candidate answered a handshake. -/
def response? (f : Fleet) (endpoint : ConnectionEndpoint) (deadline : Nat) :
    Received → Option (Outcome HandshakeResponse)
  | .frame (.response r) _ => some (.ok r)
  | .frame other _ =>
    some (.error (.protocolMismatch ("expected HandshakeResponse, got " ++ other.name)))
  | .failed e _ => some (.error e)
  | .ended => some (.error (.transient "connection closed during handshake"))
  | .pending =>
    if deadline ≤ f.clock then
      some (.error (.transient ("handshake with " ++ endpoint.url ++ " timed out")))
    else none

/-- What a session has to deal with next. -/
def sessionEvent? (f : Fleet) (session : Session) (cancelled : Bool) (store : Store)
    (line : LineEnd) (unsent : List UInt8) : Noticed SessionEvent :=
  let received := f.receive line
  let delivery := f.delivery line unsent
  (session.next? f.clock cancelled store.announcements delivery received).map fun event =>
    match event with
    | .arrived _ | .unreadable _ => (event, f.afterReading line received)
    | _ => (event, f.network)

/-- What happens to a dialer next. -/
def dialerEvent? (f : Fleet) (p : DialerProcess) (store : Store) : Noticed DialerEvent :=
  let cancelled := f.isDialerCancelled p
  let unlessCancelled (next : Noticed DialerEvent) : Noticed DialerEvent :=
    if cancelled then some (.cancelled, f.network) else next
  match p.dialer.phase with
  | .choosing | .trying [] => some (.proceed, f.network)
  | .trying (_ :: _) => unlessCancelled (some (.proceed, f.network))
  | .connecting endpoint _ deadline => unlessCancelled (f.dial endpoint deadline)
  | .greeting endpoint _ line deadline =>
    unlessCancelled <|
      let received := f.receive line
      (f.response? endpoint deadline received).map fun r =>
        (.answered r, f.afterReading line received)
  | .streaming _ line session =>
    (f.sessionEvent? session cancelled store line p.unsent).map fun (e, n) => (.session e, n)
  | .backingOff until' =>
    unlessCancelled (if until' ≤ f.clock then some (.proceed, f.network) else none)
  | .parked _ => unlessCancelled none
  | .over | .lost _ => none

/-- The line that a dialer writes on while it deals with an event. -/
def dialerLine? (d : Dialer) : DialerEvent → Option LineEnd
  | .connected line => some line
  | _ => d.line?

/-- Write on a line what was written in a step: the bytes left over where a session has to wait for
them. -/
def writeStep (e : LineEnd) (session : Option Session) (sent : List WrittenFrame) :
    FleetM (List UInt8) := do
  if session.any fun s => s.writing.isSome then push e (sent.flatMap (·.bytes))
  else
    transmit e sent
    return []

/-- Write on a line what was written in a step, and give the line up unless it is still held: the
bytes left over.  A session that waits for something takes off what comes as it comes. -/
def finishStep (line : Option LineEnd) (held : Bool) (session : Option Session)
    (side : LocalSide) : FleetM (List UInt8) :=
  match line with
  | none => return []
  | some e => do
    let unsent ← writeStep e session side.sent
    if session.any fun s => !s.isScanDue then readAhead e true
    if !held then hangUp e
    return unsent

/-- Leave a reader behind on a line whose connection broke off.  What it had taken off already is
lost with the connection. -/
def strand (e : LineEnd) : FleetM Unit := do
  let pipe := (← get).network.available e
  if pipe.eager then
    modify fun f => { f with network := f.network.leave e (Frame.skipAll pipe.bytes) }
  let _ ← spawn (.straggler e)

/-- A step of a reader that was left behind; false when nothing came. -/
def runStraggler (id : Nat) (e : LineEnd) : FleetM Bool := do
  match (← get).receive e with
  | .pending => return false
  | _ =>
    hangUp e
    remove id
    return true

/-- Put more on a line of what it did not take yet: what is left over, if any byte went. -/
def pushMore (line : Option LineEnd) (unsent : List UInt8) : FleetM (Option (List UInt8)) := do
  match line with
  | none => return none
  | some e =>
    if unsent.isEmpty || !(← get).reachable e then return none
    let rest ← push e unsent
    return if rest.length < unsent.length then some rest else none

/-- Keep what comes of a turn of a dialer that wrote on a line. -/
def concludeDialer (id : Nat) (p : DialerProcess) (line : Option LineEnd) (turn : DialerTurn) :
    FleetM Unit := do
  putSite p.member p.dialer.assignment.database (some p.serial) turn.side.site
  let held := line.isSome && turn.dialer.line? == line
  let unsent ← finishStep line held turn.dialer.session? turn.side
  put id (.dialer { p with dialer := turn.dialer, runtime := turn.side.runtime, unsent })
  match turn.dialer.isLost, turn.dialer.line? with
  | true, some e => strand e
  | _, _ => pure ()

/-- The turn of a dialer on a node that deals with an event, with what it writes on. -/
def dialerTurn (f : Fleet) (p : DialerProcess) (n : Node) (event : DialerEvent)
    (line : Option LineEnd) : DialerTurn :=
  let site := n.site p.dialer.assignment.database (some p.serial)
  p.dialer.handle ⟨site, p.runtime, line.any f.reachable, []⟩ f.clock f.wall event

/-- Let a dialer deal with what happens to it next; false when nothing does. -/
def advanceDialer (id : Nat) (p : DialerProcess) : FleetM Bool := do
  let f ← get
  match f.members.get? p.member with
  | none => return false
  | some m =>
    match f.dialerEvent? p (m.node.store p.dialer.assignment.database) with
    | none => return false
    | some (event, network) =>
      let line := dialerLine? p.dialer event
      let f := { f with network }
      set f
      concludeDialer id p line (f.dialerTurn p m.node event line)
      return true

/-- A step of a dialer; false when nothing happens to it. -/
def runDialer (id : Nat) (p : DialerProcess) : FleetM Bool := do
  match ← pushMore p.dialer.line? p.unsent with
  | some unsent =>
    put id (.dialer { p with unsent })
    return true
  | none => advanceDialer id p

/-! ### Acceptors -/

/-- Whether an acceptor has to close its connection. -/
def isAcceptorCancelled (f : Fleet) (id : Nat) (p : AcceptorProcess) : Bool :=
  match p.serial.bind (f.database? p.member) with
  | some d => d.isCancelled id
  | none => true

/-- What comes of waiting for a handshake. -/
def handshake? (f : Fleet) (deadline : Nat) : Received → Option AcceptorEvent
  | .frame (.handshake h) _ => some (.greeted h)
  | .frame _ _ | .failed _ _ | .ended => some .ungreeted
  | .pending => if deadline ≤ f.clock then some .ungreeted else none

/-- What comes of waiting for the peer to resume. -/
def resume? (f : Fleet) (deadline : Nat) : Received → Option AcceptorEvent
  | .frame (.resume etag) _ => some (.resumed etag)
  | .frame other _ =>
    some (.unresumed (.protocolMismatch ("expected Resume, got " ++ other.name)))
  | .failed e _ => some (.unresumed e)
  | .ended => some (.unresumed (.transient "peer left before resuming"))
  | .pending =>
    if deadline ≤ f.clock then some (.unresumed (.transient "peer did not resume in time"))
    else none

/-- What happens to an acceptor next, as far as its line, its session and its time go. -/
def acceptorEvent? (f : Fleet) (id : Nat) (p : AcceptorProcess) (store : Store) :
    Noticed AcceptorEvent :=
  let received := f.receive p.line
  let reading (e : AcceptorEvent) : AcceptorEvent × Network := (e, f.afterReading p.line received)
  match p.acceptor.phase with
  | .greeting deadline => (f.handshake? deadline received).map reading
  | .loading _ deadline =>
    if p.stuck && deadline ≤ f.clock then some (.loadTimedOut, f.network) else none
  | .resuming _ deadline => (f.resume? deadline received).map reading
  | .streaming _ session =>
    (f.sessionEvent? session (f.isAcceptorCancelled id p) store p.line p.unsent).map
      fun (e, n) => (.session e, n)
  | .ready _ _ | .over | .lost => none

/-- The database that an acceptor serves. -/
def acceptorDatabase (a : Acceptor) : String :=
  match a.phase with
  | .loading h _ => h.database
  | .resuming admitted _ | .ready admitted _ | .streaming admitted _ => admitted.handshake.database
  | .greeting _ | .over | .lost => ""

/-- Let an acceptor deal with an event. -/
def tell (id : Nat) (p : AcceptorProcess) (event : AcceptorEvent) : FleetM Unit := do
  let f ← get
  match f.members.get? p.member with
  | none => pure ()
  | some m =>
    let name := acceptorDatabase p.acceptor
    let side : LocalSide :=
      ⟨m.node.site name p.serial, p.runtime, f.reachable p.line, []⟩
    let turn := p.acceptor.handle side f.clock f.wall (f.stateOf m) event
    putSite p.member name p.serial turn.side.site
    let held := !turn.acceptor.isOver || turn.acceptor.isLost
    let unsent ← finishStep (some p.line) held turn.acceptor.session? turn.side
    put id (.acceptor { p with acceptor := turn.acceptor, runtime := turn.side.runtime, unsent })
    if turn.acceptor.isOver then
      match p.serial with
      | some serial => onDatabase p.member serial fun d => d.unregister id
      | none => pure ()
      remove id
    if turn.acceptor.isLost then strand p.line

/-- What the next load of a gate comes to. -/
def nextOmen (gate : Nat) : FleetM LoadOmen := do
  match (← get).processes.get? gate with
  | some (.gate g) =>
    match g.omens with
    | omen :: rest =>
      put gate (.gate { g with omens := rest })
      return omen
    | [] => return .usual
  | _ => return .usual

/-- Have the database of an acceptor loaded. -/
def loadFor (id : Nat) (p : AcceptorProcess) : FleetM Unit := do
  match ← nextOmen p.gate with
  | .hangs => put id (.acceptor { p with stuck := true })
  | .fails e => tell id p (.unloadable e)
  | .usual =>
    match ← load p.member (acceptorDatabase p.acceptor) with
    | .ok serial => tell id { p with serial := some serial } .loaded
    | .error e => tell id p (.unloadable e)

/-- Register a connection that is ready to stream, and look again whether it is let in. -/
def register (id : Nat) (p : AcceptorProcess) (admitted : Admitted) : FleetM Unit := do
  match p.serial with
  | none => pure ()
  | some serial =>
    let name := admitted.handshake.database
    onDatabase p.member serial fun d =>
      d.register id admitted.admission.terms admitted.handshake.sourceDatabase
    let f ← get
    match f.members.get? p.member, f.database? p.member serial with
    | some m, some d =>
      let (d, entries) := d.recheck id ((f.stateOf m).database? name)
      onDatabase p.member serial fun _ => d
      logAll entries
    | _, _ => pure ()
  tell id p .registered

/-- Let an acceptor deal with what happens to it next; false when nothing does. -/
def advanceAcceptor (id : Nat) (p : AcceptorProcess) : FleetM Bool := do
  let f ← get
  match f.members.get? p.member with
  | none => return false
  | some m =>
    match p.acceptor.phase, p.stuck with
    | .loading _ _, false =>
      loadFor id p
      return true
    | .ready admitted _, _ =>
      register id p admitted
      return true
    | _, _ =>
      match f.acceptorEvent? id p (m.node.store (acceptorDatabase p.acceptor)) with
      | none => return false
      | some (event, network) =>
        set { f with network }
        tell id p event
        return true

/-- A step of an acceptor; false when nothing happens to it. -/
def runAcceptor (id : Nat) (p : AcceptorProcess) : FleetM Bool := do
  match ← pushMore (some p.line) p.unsent with
  | some unsent =>
    put id (.acceptor { p with unsent })
    return true
  | none => advanceAcceptor id p

end HubReplication.Fleet
