/-
**Streaming sessions.**

Once a handshake was accepted, the connection streams.  A session may send, receive, or both.  It
keeps one batch in flight: the next is built when the peer acknowledged the last, from the items
above the cursor.  A session that was cancelled waits for the acknowledgement of what is in flight,
but not for long, and then says goodbye.

A session writes one frame at a time, and does nothing else until the line took all of it: what a
frame brings about for the session itself comes after that.

Main definitions:

* `OutboundPlan`, `InboundPlan`, `SessionTerms` — what a session may send and take;
* `Writing`, `Delivery` — what a session is writing, and how far the line got with it;
* `Session` — a session and how far it got;
* `SessionEvent`, `Session.next?` — what a session has to deal with, and in which order;
* `Session.deadline?` — when it has to be looked at again.

Main results:

* `Session.next?_of_held` — a session that waits for its line deals with nothing else.
-/

import HubReplication.Connection.Side
import HubReplication.Definition.PathFilter

set_option relaxedAutoImplicit false
set_option autoImplicit false

namespace HubReplication

/-- What this side sends. -/
structure OutboundPlan where
  /-- The etag up to which the peer has everything. -/
  startEtag : Nat
  /-- The paths that may be sent; none stands for all. -/
  allowedPaths : TextSet
  /-- How old an item must be, in milliseconds. -/
  delay : Nat

/-- What this side takes. -/
structure InboundPlan where
  /-- The id under which the peer writes change-vector entries. -/
  sourceDatabaseId : String
  /-- The paths that are taken; none stands for all. -/
  allowedPaths : TextSet

/-- What was agreed on for a session; times are in milliseconds. -/
structure SessionTerms where
  /-- The other side, as messages name it. -/
  peer : String
  compression : FrameCompression
  heartbeat : Nat
  maxBatchSize : Nat
  outbound : Option OutboundPlan
  inbound : Option InboundPlan

/-- What a session is writing, and what it has to know once that is written. -/
inductive Writing where
  /-- A batch of so many items, in so many bytes, that covers an etag. -/
  | batch (items bytes lastEtag : Nat)
  /-- The acknowledgement of a batch of so many items, after which the database had seen so much. -/
  | ack (items : Nat) (seen : ChangeVector)
  | heartbeat
  | goodbye

/-- How far a line got with what was written on it. -/
inductive Delivery where
  /-- All of it is on its way. -/
  | passed
  /-- There is no room for the rest of it yet. -/
  | held
  /-- The peer went before it took the rest. -/
  | broken
deriving DecidableEq, Repr

/-- A session; times are on the clock of the timers. -/
structure Session where
  terms : SessionTerms
  /-- The etag up to which the peer acknowledged everything. -/
  cursor : Nat
  /-- The etag covered by the batch that is not acknowledged yet. -/
  inFlight : Option Nat
  /-- When the first item that was too young is old enough. -/
  wakeAt : Option Nat
  /-- Whether there may be something to send. -/
  scan : Bool
  /-- When something was last heard of the peer. -/
  lastSeen : Nat
  /-- When the next heartbeat is due. -/
  nextBeat : Nat
  /-- How many writes the store told of before. -/
  seen : Nat
  /-- Until when an acknowledgement is waited for, once the session was cancelled. -/
  drainUntil : Option Nat
  /-- What the line did not take as a whole yet. -/
  writing : Option Writing

/-- What a session has to deal with. -/
inductive SessionEvent where
  /-- There may be something to send, and nothing is in flight. -/
  | scan
  | cancelled
  | arrived (frame : Frame)
  /-- What arrived is no frame. -/
  | unreadable (error : ReplicationError)
  /-- The peer closed the stream. -/
  | ended
  /-- The store told of a write. -/
  | changed
  /-- The first item that was too young is old enough. -/
  | woke
  /-- A heartbeat is due. -/
  | beat
  /-- The acknowledgement was waited for long enough. -/
  | drained
  /-- The line took all that was being written. -/
  | written
  /-- The line broke before it took all that was being written. -/
  | severed

/-- What becomes of a session. -/
inductive Verdict where
  | going
  /-- The session is over: stopped on purpose, or failed. -/
  | over (result : Outcome Unit)
  /-- A date was needed that no calendar has. -/
  | beyondCalendar

namespace Session

/-- How many heartbeats may be missed. -/
def heartbeatMisses : Nat := 3

/-- How long a peer may be silent. -/
def patience (s : Session) : Nat := s.terms.heartbeat * heartbeatMisses

/-- A session that starts now, when the store has told of so many writes; none without a heartbeat.
-/
def start? (terms : SessionTerms) (now announcements : Nat) : Option Session :=
  if terms.heartbeat = 0 then none
  else
    some {
      terms
      cursor := match terms.outbound with
        | some plan => plan.startEtag
        | none => 0
      inFlight := none, wakeAt := none, scan := terms.outbound.isSome, lastSeen := now
      nextBeat := now + terms.heartbeat, seen := announcements, drainUntil := none
      writing := none }

/-- Whether a batch may be built now. -/
def isScanDue (s : Session) : Bool := s.drainUntil.isNone && s.scan && s.inFlight.isNone

/-- What comes of waiting for a line to take what is being written. -/
def afterWriting : Delivery → Option SessionEvent
  | .passed => some .written
  | .held => none
  | .broken => some .severed

/-- What a session has to deal with next, given how far its line got with what is being written,
what its stream has, whether it was cancelled, and how many writes the store told of. -/
def next? (s : Session) (now : Nat) (cancelled : Bool) (announcements : Nat) (delivery : Delivery)
    (received : Received) : Option SessionEvent :=
  if s.writing.isSome then afterWriting delivery
  else if s.isScanDue then some .scan
  else if s.drainUntil.isNone && cancelled then some .cancelled
  else
    match received with
    | .frame f _ => some (.arrived f)
    | .failed e _ => some (.unreadable e)
    | .ended => some .ended
    | .pending =>
      match s.drainUntil with
      | some deadline => if deadline ≤ now then some .drained else none
      | none =>
        if s.terms.outbound.isSome && s.seen != announcements then some .changed
        else if s.wakeAt.any (· ≤ now) then some .woke
        else if s.nextBeat ≤ now then some .beat
        else none

/-- When the session has to be looked at again, if nothing else happens. -/
def deadline? (s : Session) : Option Nat :=
  if s.writing.isSome then none
  else
    match s.drainUntil, s.wakeAt with
    | some deadline, _ => some deadline
    | none, some wake => some (min wake s.nextBeat)
    | none, none => some s.nextBeat

/-- A session that waits for its line deals with nothing else, and no time is too long for it. -/
theorem next?_of_held {s : Session} {w : Writing} (h : s.writing = some w) (now : Nat)
    (cancelled : Bool) (announcements : Nat) (received : Received) :
    s.next? now cancelled announcements .held received = none ∧ s.deadline? = none := by
  simp [next?, deadline?, afterWriting, h]

end Session

/-- A session after a step: the session, its side of the connection, and what becomes of it. -/
structure SessionTurn where
  session : Session
  side : LocalSide
  verdict : Verdict

end HubReplication
