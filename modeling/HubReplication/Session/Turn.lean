/-
**A session at work.**

A session deals with one event at a time.  A batch is applied before it is acknowledged, and
acknowledged before the next frame is looked at.  A frame counts as sent, and a batch as received,
once the line took the frame or the acknowledgement.  Whatever is not expected ends the session.

Main definitions:

* `Session.acknowledge` — the peer took over the batch in flight;
* `Session.take` — a batch of the peer;
* `Session.written`, `Session.severed` — what was being written is written, or never will be;
* `Session.handle` — any event.

Main results:

* `Session.take_rejected` — a batch that is not acknowledged leaves no trace but its failure;
* `Session.handle_of_writing` — while something is being written, nothing else is dealt with.
-/

import HubReplication.Beat
import HubReplication.Session.Batches
import HubReplication.Text.Duration

set_option relaxedAutoImplicit false
set_option autoImplicit false

namespace HubReplication.Session

/-! ### Frames -/

/-- The peer acknowledged a batch. -/
def acknowledge (s : Session) (side : LocalSide) (ack : Ack) : SessionTurn :=
  if s.inFlight = some ack.lastEtag then
    ⟨{ s with cursor := ack.lastEtag, inFlight := none, scan := true },
      side.onRuntime fun r => { r with lastSent := ack.changeVector }, .going⟩
  else
    ⟨s, side, .over (.error (.protocolMismatch
      ("unexpected ack for etag " ++ toString ack.lastEtag ++ " from " ++ s.terms.peer)))⟩

/-- Why a batch may not be applied. -/
def checkBatch (s : Session) (batch : Batch) : Outcome InboundPlan :=
  match s.terms.inbound with
  | none =>
    .error (.protocolMismatch (s.terms.peer ++ " sent a batch in a direction not granted"))
  | some plan =>
    match batch.items.find? fun item => !PathFilter.allows plan.allowedPaths item.id with
    | some item =>
      .error (.authorization
        ("'" ++ item.id ++ "' from " ++ s.terms.peer ++ " is outside the allowed paths"))
    | none => .ok plan

/-- The peer sent a batch: apply it, then begin to acknowledge it. -/
def take (s : Session) (side : LocalSide) (batch : Batch) : SessionTurn :=
  match s.checkBatch batch with
  | .error e => ⟨s, side, .over (.error e)⟩
  | .ok plan =>
    match side.site.store.applyBatch plan.sourceDatabaseId batch.items batch.lastEtag with
    | .error e => ⟨s, side, .over (.error e)⟩
    | .ok (cv, store) =>
      let side := side.onSite fun site => { site with store }
      match side.write (.ack ⟨batch.lastEtag, cv⟩) s.terms.compression with
      | .error e => ⟨s, side, .over (.error e)⟩
      | .ok (_, side) => ⟨{ s with writing := some (.ack batch.items.length cv) }, side, .going⟩

/-- The peer sent a frame. -/
def receive (s : Session) (side : LocalSide) : Frame → SessionTurn
  | .heartbeat => ⟨s, side, .going⟩
  | .ack ack => s.acknowledge side ack
  | .batch batch => s.take side batch
  | .close reason =>
    ⟨s, side, .over (.error (.transient
      (s.terms.peer ++ " closed the connection: " ++ reason)))⟩
  | other =>
    ⟨s, side, .over (.error (.protocolMismatch
      ("unexpected " ++ other.name ++ " frame while streaming")))⟩

/-! ### The end -/

/-- Say goodbye, whether or not the peer is there to hear it. -/
def finish (s : Session) (side : LocalSide) : SessionTurn :=
  match side.write (.close "replication stopped") s.terms.compression with
  | .ok (_, side) => ⟨{ s with writing := some .goodbye }, side, .going⟩
  | .error _ => ⟨s, side, .over (.ok ())⟩

/-- Say goodbye unless a batch is in flight. -/
def finishIfIdle (s : Session) (side : LocalSide) : SessionTurn :=
  if s.inFlight.isNone then s.finish side else ⟨s, side, .going⟩

/-- A cancelled session deals with an event: an acknowledgement that it waits for counts, and the
end of the stream or of the time ends the wait; nothing else matters. -/
def drain (s : Session) (side : LocalSide) : SessionEvent → SessionTurn
  | .arrived (.ack ack) =>
    match s.acknowledge side ack with
    | ⟨s', side', .going⟩ => s'.finishIfIdle side'
    | ⟨s', side', _⟩ => s'.finish side'
  | .unreadable _ | .ended | .drained => s.finish side
  | _ => ⟨s, side, .going⟩

/-! ### Any event -/

/-- The failure of a peer that was silent for too long. -/
def silence (s : Session) (now : Nat) : ReplicationError :=
  .transient
    ("no frames from " ++ s.terms.peer ++ " for " ++ Text.durationText (now - s.lastSeen))

/-- A heartbeat is due: the peer must have been heard of, and hears of this side. -/
def beat (s : Session) (side : LocalSide) (now : Nat) : SessionTurn :=
  let s := { s with nextBeat := Beat.next s.nextBeat now s.terms.heartbeat }
  if s.patience < now - s.lastSeen then ⟨s, side, .over (.error (s.silence now))⟩
  else
    match side.write .heartbeat s.terms.compression with
    | .error e => ⟨s, side, .over (.error e)⟩
    | .ok (_, side) => ⟨{ s with writing := some .heartbeat }, side, .going⟩

/-- A session deals with an event while it streams. -/
def stream (s : Session) (side : LocalSide) (now : Nat) (wall : Instant) :
    SessionEvent → SessionTurn
  | .scan => s.send side now wall
  | .cancelled => { s with drainUntil := some (now + s.patience) }.finishIfIdle side
  | .arrived frame => { s with lastSeen := now }.receive side frame
  | .unreadable e => ⟨s, side, .over (.error e)⟩
  | .ended =>
    ⟨s, side, .over (.error (.transient ("connection to " ++ s.terms.peer ++ " closed")))⟩
  | .changed =>
    ⟨{ s with seen := side.site.store.announcements, scan := true }, side, .going⟩
  | .woke => ⟨{ s with wakeAt := none, scan := true }, side, .going⟩
  | .beat => s.beat side now
  | .drained | .written | .severed => ⟨s, side, .going⟩

/-- The line took what was being written. -/
def written (s : Session) (side : LocalSide) : Writing → SessionTurn
  | .batch items bytes lastEtag =>
    ⟨{ s with writing := none, inFlight := some lastEtag },
      (side.count fun m => m.batchSent items bytes).log (.plain .debug .batchSent), .going⟩
  | .ack items seen =>
    let side := side.onRuntime fun r => { r with lastAccepted := seen }
    ⟨{ s with writing := none },
      (side.count fun m => m.batchReceived items).log (.plain .debug .batchApplied), .going⟩
  | .heartbeat => ⟨{ s with writing := none }, side, .going⟩
  | .goodbye => ⟨{ s with writing := none }, side, .over (.ok ())⟩

/-- The line broke over what was being written. -/
def severed (s : Session) (side : LocalSide) : Writing → SessionTurn
  | .goodbye => ⟨s, side, .over (.ok ())⟩
  | _ => ⟨s, side, .over (.error LocalSide.gone)⟩

/-- A session deals with an event. -/
def handle (s : Session) (side : LocalSide) (now : Nat) (wall : Instant) (event : SessionEvent) :
    SessionTurn :=
  match s.writing, event with
  | some w, .written => s.written side w
  | some w, .severed => s.severed side w
  | some _, _ => ⟨s, side, .going⟩
  | none, event =>
    if s.drainUntil.isSome then s.drain side event else s.stream side now wall event

/-- While something is being written, nothing but its end changes anything. -/
theorem handle_of_writing {s : Session} {w : Writing} (h : s.writing = some w) (side : LocalSide)
    (now : Nat) (wall : Instant) {event : SessionEvent} (hw : event ≠ .written)
    (hs : event ≠ .severed) : s.handle side now wall event = ⟨s, side, .going⟩ := by
  unfold handle
  rw [h]
  split <;> simp_all

/-- A batch that is refused leaves the session and its side as they were. -/
theorem take_rejected {s : Session} {side : LocalSide} {batch : Batch} {e : ReplicationError}
    (h : s.checkBatch batch = .error e) :
    s.take side batch = ⟨s, side, .over (.error e)⟩ := by
  simp [take, h]

end HubReplication.Session
