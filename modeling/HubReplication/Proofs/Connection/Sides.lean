/-
**The sides of a call.**

A side of a call first waits for the one frame that comes before it streams, then streams, and then
takes no part any more.  A dialer waits for the answer to its handshake, and an acceptor to be
resumed, where it will send.

A turn that ends a part in the call says nothing, whatever else it does.  A dialer that takes up an
answer says at most from where on it wants data, and that exactly where the acceptor will send.

Main definitions:

* `Seat`, `Dialer.seat`, `Acceptor.seat` — how far a side got;
* `Dialer.Quits`, `Acceptor.Quits` — a turn after which a side takes no part;
* `Acceptance.Resumes` — what is said to an acceptor that accepted.

Main results:

* `Dialer.answer_cases`, `Acceptor.start_cases` — how a side begins to stream;
* `Dialer.quits_streamOn`, `Acceptor.quits_streamOn` — how it ends.
-/

import HubReplication.Connection.Acceptor
import HubReplication.Connection.Dialer
import HubReplication.Proofs.Session.Endings

set_option relaxedAutoImplicit false
set_option autoImplicit false

namespace HubReplication

/-! ### Seats -/

/-- How far a side of a call got. -/
inductive Seat where
  /-- It waits for the one frame that comes before it streams. -/
  | waiting
  /-- It streams, or is about to, and is owed the acknowledgement of some batches. -/
  | streaming (owed : List Nat)
  /-- It takes no part in the call any more. -/
  | gone

namespace Seat

/-- What a side is owed that takes part in a call. -/
def owed? : Seat → Option (List Nat)
  | .waiting => some []
  | .streaming owed => some owed
  | .gone => none

/-- What a side hears while it streams, of what is on its way to it. -/
def hears (seat : Seat) (coming : List Frame) : List Frame :=
  match seat with
  | .waiting => coming.tail
  | .streaming _ | .gone => coming

@[simp] theorem hears_nil (seat : Seat) : seat.hears [] = [] := by cases seat <;> rfl

/-- What is said after the first frame is heard after what was to be heard already. -/
theorem hears_append {seat : Seat} {coming : List Frame} (h : seat = .waiting → coming ≠ [])
    (said : List Frame) : seat.hears (coming ++ said) = seat.hears coming ++ said := by
  cases seat with
  | waiting => exact List.tail_append_of_ne_nil (h rfl)
  | streaming | gone => rfl

end Seat

/-- How far a dialer got with a call. -/
def Dialer.seat (d : Dialer) : Seat :=
  match d.phase with
  | .greeting _ _ _ _ => .waiting
  | .streaming _ _ s => .streaming s.owed
  | _ => .gone

/-- How far an acceptor got with a call. -/
def Acceptor.seat (a : Acceptor) : Seat :=
  match a.phase with
  | .resuming _ _ => .waiting
  | .ready _ _ => .streaming []
  | .streaming _ s => .streaming s.owed
  | _ => .gone

/-- A move leads to its target. -/
theorem ConnectionRuntime.status_of_take {r r' : ConnectionRuntime} {step : ConnectionStep}
    {wall : Instant} (h : r.take step wall = .ok r') : r'.status = step.target := by
  unfold take ConnectionStatus.take at h
  split at h <;> cases h
  cases step <;> rfl

theorem ConnectionRuntime.take_eq_ok {r : ConnectionRuntime} {step : ConnectionStep}
    (h : step.allowedFrom r.status = true) (wall : Instant) :
    r.take step wall = .ok (r.enter step.target wall) := by
  rw [take, ConnectionStatus.take, if_pos h]
  rfl

/-! ### Turns that end a side -/

theorem LocalSide.sent_log (side : LocalSide) (entry : LogEntry) :
    (side.log entry).sent = side.sent := rfl

/-- What is said to an acceptor that accepted: from where on to send, exactly if it will send. -/
inductive Acceptance.Resumes (accepted : Acceptance) : List Frame → Prop
  | resumed (h : accepted.mode.contains Mode.hubToSink = true) (etag : Nat) :
      Resumes accepted [.resume etag]
  | silent (h : accepted.mode.contains Mode.hubToSink = false) : Resumes accepted []

namespace Dialer

/-- A dialer takes no part in a call after a turn, in which it said nothing. -/
structure Quits (side : LocalSide) (t : DialerTurn) : Prop where
  gone : t.dialer.seat = .gone
  sent : t.side.sent = side.sent

variable (d : Dialer) (side : LocalSide) (now : Nat) (wall : Instant)

theorem quits_dispose : Quits side (d.dispose side wall) := ⟨rfl, rfl⟩

theorem quits_park (e : ReplicationError) : Quits side (d.park side wall e) := by
  refine ⟨rfl, ?_⟩
  unfold park
  simp only [LocalSide.sent_log]
  split <;> rfl

theorem quits_wait : Quits side (d.wait side now wall) := by
  unfold wait
  simp only
  split <;> exact ⟨rfl, rfl⟩

theorem quits_backOff : Quits side (d.backOff side now wall) := by
  unfold backOff
  simp only
  split
  · exact quits_wait _ side now wall
  · exact quits_wait _ side now wall
  · unfold moving
    split
    · exact ⟨(quits_wait _ _ now wall).gone, (quits_wait _ _ now wall).sent⟩
    · exact quits_park _ side wall _

theorem quits_failCandidate (endpoint : ConnectionEndpoint) (rest : List ConnectionEndpoint)
    (e : ReplicationError) : Quits side (d.failCandidate side wall endpoint rest e) := by
  unfold failCandidate
  split
  · exact quits_park d side wall e
  · exact ⟨rfl, rfl⟩

theorem quits_endStreaming (endpoint : ConnectionEndpoint) (r : Outcome Unit) :
    Quits side (d.endStreaming side now wall endpoint r) := by
  unfold endStreaming
  simp only
  split
  · exact ⟨rfl, rfl⟩
  · split
    · exact ⟨(quits_park d _ wall _).gone, (quits_park d _ wall _).sent⟩
    · exact ⟨(quits_backOff d _ now wall).gone, (quits_backOff d _ now wall).sent⟩

theorem streamOn_of_going {endpoint : ConnectionEndpoint} {line : LineEnd} {s : Session}
    {event : SessionEvent} {t : SessionTurn} (ht : s.handle side now wall event = t)
    (hgoing : t.verdict = .going) : d.streamOn side now wall endpoint line s event =
      ⟨{ d with phase := .streaming endpoint line t.session }, t.side⟩ := by
  obtain ⟨session, side', verdict⟩ := t
  cases hgoing
  simp only [streamOn, ht]

theorem quits_streamOn {endpoint : ConnectionEndpoint} {line : LineEnd} {s : Session}
    {event : SessionEvent} {t : SessionTurn} (ht : s.handle side now wall event = t)
    (hsent : t.side.sent = side.sent)
    (hverdict : t.verdict = .beyondCalendar ∨ ∃ r, t.verdict = .over r) :
    Quits side (d.streamOn side now wall endpoint line s event) := by
  obtain ⟨session, side', verdict⟩ := t
  rcases hverdict with hverdict | ⟨r, hverdict⟩
  · cases hverdict
    simp only [streamOn, ht]
    exact ⟨rfl, hsent⟩
  · cases hverdict
    simp only [streamOn, ht]
    have hquits := quits_endStreaming d side' now wall endpoint r
    exact ⟨hquits.gone, hquits.sent.trans hsent⟩

variable {side now wall}

/-- Resuming says no more than from where on to send, and is not recorded. -/
theorem resumes_of_resume {side' : LocalSide} {accepted : Acceptance}
    (h : Dialer.resume side accepted = .ok side') :
    (∃ said, accepted.Resumes said ∧
      side'.sent.map (·.frame) = side.sent.map (·.frame) ++ said) ∧
      side'.runtime = side.runtime := by
  unfold Dialer.resume at h
  split at h
  · rename_i hsends
    cases hwrite : side.write (.resume (side.site.store.lastReplicatedEtag accepted.databaseId))
        .off with
    | error e =>
        rw [hwrite] at h
        cases h
    | ok written =>
        rw [hwrite] at h
        cases h
        obtain ⟨n, side'⟩ := written
        obtain ⟨bytes, -, rfl⟩ := LocalSide.write_eq_ok hwrite
        exact ⟨⟨_, .resumed hsends _, List.map_append⟩, rfl⟩
  · rename_i hsends
    cases h
    exact ⟨⟨[], .silent (by simpa using hsends), (List.append_nil _).symm⟩, rfl⟩

/-- How a dialer streams that was let in: under the terms of the answer, and so it is recorded. -/
structure Streams (d : Dialer) (endpoint : ConnectionEndpoint) (line : LineEnd)
    (accepted : Acceptance) (now : Nat) (t : DialerTurn) (s : Session) : Prop where
  starts : ∃ announcements,
    Session.start? (d.assignment.sessionTerms endpoint accepted) now announcements = some s
  phase : t.dialer.phase = .streaming endpoint line s
  recorded : t.side.runtime.status = .streaming

/-- A dialer that was let in streams under the terms of the answer, or takes no part any more. -/
theorem startStreaming_cases (d : Dialer) (endpoint : ConnectionEndpoint) (line : LineEnd)
    {accepted : Acceptance} {t : DialerTurn}
    (ht : d.startStreaming side now wall endpoint line accepted = t) :
    t.side.sent = side.sent ∧
      (t.dialer.seat = .gone ∨ ∃ s, d.Streams endpoint line accepted now t s) := by
  subst ht
  unfold startStreaming moving
  simp only
  split
  · rename_i runtime htake
    split
    · exact ⟨rfl, .inl rfl⟩
    · rename_i s hstart
      exact ⟨rfl, .inr ⟨s, ⟨_, hstart⟩, rfl, ConnectionRuntime.status_of_take htake⟩⟩
  · have hquits := quits_park d (side.onRuntime fun r => { r with
      destination := some { endpoint with
        nodeTag := acceptedTag endpoint accepted.topology } }) wall
    exact ⟨(hquits _).sent, .inl (hquits _).gone⟩

/-- A dialer that was let in under a mode that it asked for takes up the answer and streams, or
takes no part any more. -/
theorem answer_cases (d : Dialer) (endpoint : ConnectionEndpoint) (rest : List ConnectionEndpoint)
    (line : LineEnd) {accepted : Acceptance} (hmode : accepted.mode.isEmpty = false)
    (hrequested : d.assignment.requestedMode.contains accepted.mode = true) {t : DialerTurn}
    (ht : d.answer side now wall endpoint rest line (.ok (.accepted accepted)) = t) :
    Quits side t ∨
      (∃ said, accepted.Resumes said ∧
        t.side.sent.map (·.frame) = side.sent.map (·.frame) ++ said) ∧
      (t.dialer.seat = .gone ∨ ∃ s, d.Streams endpoint line accepted now t s) := by
  subst ht
  unfold answer
  simp only [hmode, hrequested, Bool.not_true, Bool.or_false, Bool.false_eq_true, if_false]
  split
  · exact .inl (quits_failCandidate d side wall endpoint rest _)
  · rename_i side' hresume
    have hstarts : d.startStreaming side' now wall endpoint line accepted = _ := rfl
    obtain ⟨hsent, hafter⟩ := startStreaming_cases d endpoint line hstarts
    refine .inr ⟨?_, hafter⟩
    rw [hsent]
    exact (resumes_of_resume hresume).1

end Dialer

namespace Acceptor

/-- An acceptor takes no part in a call after a turn, in which it said nothing. -/
structure Quits (side : LocalSide) (t : AcceptorTurn) : Prop where
  gone : t.acceptor.seat = .gone
  sent : t.side.sent = side.sent

variable (a : Acceptor) (side : LocalSide) (now : Nat) (wall : Instant) (admitted : Admitted)

theorem quits_abandon : Quits side (a.abandon side) := ⟨rfl, rfl⟩

theorem streamOn_of_going {s : Session} {event : SessionEvent} {t : SessionTurn}
    (ht : s.handle side now wall event = t) (hgoing : t.verdict = .going) :
    a.streamOn side now wall admitted s event =
      ⟨{ a with phase := .streaming admitted t.session }, t.side⟩ := by
  obtain ⟨session, side', verdict⟩ := t
  cases hgoing
  simp only [streamOn, ht]

theorem quits_streamOn {s : Session} {event : SessionEvent} {t : SessionTurn}
    (ht : s.handle side now wall event = t) (hsent : t.side.sent = side.sent)
    (hverdict : t.verdict = .beyondCalendar ∨ ∃ r, t.verdict = .over r) :
    Quits side (a.streamOn side now wall admitted s event) := by
  obtain ⟨session, side', verdict⟩ := t
  rcases hverdict with hverdict | ⟨r, hverdict⟩
  · cases hverdict
    simp only [streamOn, ht]
    exact ⟨rfl, hsent⟩
  · cases hverdict
    simp only [streamOn, ht]
    split <;> exact ⟨rfl, hsent⟩

/-- An acceptor that is registered says nothing yet, and streams under its terms or breaks off. -/
theorem start_cases (etag : Nat) :
    (a.start side now wall admitted etag).side.sent = side.sent ∧
      ((a.start side now wall admitted etag).acceptor.seat = .gone ∨ ∃ s announcements,
        Session.start? (a.sessionTerms admitted etag) now announcements = some s ∧
          (a.start side now wall admitted etag).acceptor.phase = .streaming admitted s) := by
  unfold start
  simp only
  split
  · exact ⟨rfl, .inl rfl⟩
  · rename_i s hstart
    exact ⟨rfl, .inr ⟨s, _, hstart, rfl⟩⟩

end Acceptor

/-- A session that starts keeps to its terms, is owed nothing and says nothing. -/
theorem Session.start?_eq_some {terms : SessionTerms} {now announcements : Nat} {s : Session}
    (h : Session.start? terms now announcements = some s) :
    s.terms = terms ∧ s.owed = [] ∧ s.Mannered := by
  unfold Session.start? at h
  split at h
  · cases h
  · cases h
    exact ⟨rfl, rfl, Session.mannered_of_not_writing rfl⟩

end HubReplication
