/-
**Calls.**

A call is one connection with both its sides: a dialer that sent a handshake, the acceptor that let
it in, and the frames on their way between them, in order.  At any point one of the sides may take
its turn, with whatever its store, its clock and its line have become.

What each side expects of the other has to agree.  The dialer expects the answer first, and the
acceptor the etag to resume from, if it will send; only then do both stream.  So a call is sound if
each side is about to hear, or hears already, what it may hear, and the one frame that comes before
that is on its way, where it was sent.  Every turn of either side keeps a call sound.

Main definitions:

* `Call`, `Call.dialerTurn`, `Call.acceptorTurn` — calls, and the turns of their sides;
* `Call.Reaches` — the calls that turns lead to on an intact line;
* `Agreement`, `Call.Sound` — what was agreed on, and that a call keeps to it.

Main results:

* `Call.Sound.dialerTurn`, `Call.Sound.acceptorTurn` — every turn keeps a call sound;
* `Call.Sound.of_reaches` — so does any number of turns.
-/

import HubReplication.Fleet.Connections
import HubReplication.Proofs.Connection.Hearing
import HubReplication.Proofs.Connection.Sides

set_option relaxedAutoImplicit false
set_option autoImplicit false

namespace HubReplication

/-- What is on its way still after a dialer dealt with an event. -/
def DialerEvent.leaves (event : DialerEvent) (coming : List Frame) : List Frame :=
  match event with
  | .answered _ => coming.tail
  | .session event => event.leaves coming
  | _ => coming

/-- What is on its way still after an acceptor dealt with an event. -/
def AcceptorEvent.leaves (event : AcceptorEvent) (coming : List Frame) : List Frame :=
  match event with
  | .resumed _ => coming.tail
  | .session event => event.leaves coming
  | _ => coming

/-! ### Calls -/

/-- Both sides of a connection, and what is on its way between them. -/
structure Call where
  dialer : Dialer
  acceptor : Acceptor
  /-- What is on its way to the acceptor, in order. -/
  out : List Frame
  /-- What is on its way to the dialer, in order. -/
  back : List Frame
  /-- How the dialer records the connection. -/
  runtime : ConnectionRuntime

namespace Call

/-- What the dialer of a call has to deal with next. -/
def dialerEvent? (c : Call) (f : Fleet) (m : Moment) (store : Store) : Option DialerEvent :=
  match c.dialer.phase with
  | .greeting endpoint _ _ deadline =>
    if m.cancelled then some .cancelled
    else (f.response? endpoint deadline (m.arrival.received c.back)).map .answered
  | .streaming _ _ s =>
    (s.next? m.now m.cancelled store.announcements m.delivery (m.arrival.received c.back)).map
      .session
  | _ => none

/-- What the acceptor of a call has to deal with next. -/
def acceptorEvent? (c : Call) (f : Fleet) (m : Moment) (store : Store) : Option AcceptorEvent :=
  match c.acceptor.phase with
  | .resuming _ deadline => f.resume? deadline (m.arrival.received c.out)
  | .ready _ _ => some .registered
  | .streaming _ s =>
    (s.next? m.now m.cancelled store.announcements m.delivery (m.arrival.received c.out)).map
      .session
  | _ => none

/-- A moment, with the connection as the dialer recorded it. -/
def recalled (c : Call) (m : Moment) : Moment := { m with runtime := c.runtime }

/-- A turn of the dialer, with the store as it is then. -/
def dialerTurn (c : Call) (f : Fleet) (m : Moment) (store : Store) : Call :=
  match c.dialerEvent? f m store with
  | none => c
  | some event =>
    let t := c.dialer.handle ((c.recalled m).side store) m.now m.wall event
    { c with
      dialer := t.dialer
      out := c.out ++ t.side.sent.map (·.frame)
      back := event.leaves c.back
      runtime := t.side.runtime }

/-- A turn of the acceptor, with the store and the cluster as they are then. -/
def acceptorTurn (c : Call) (f : Fleet) (m : Moment) (store : Store) (state : ClusterState) :
    Call :=
  match c.acceptorEvent? f m store with
  | none => c
  | some event =>
    let t := c.acceptor.handle (m.side store) m.now m.wall state event
    { c with
      acceptor := t.acceptor
      out := event.leaves c.out
      back := c.back ++ t.side.sent.map (·.frame) }

/-- The calls that turns lead to while the line is intact. -/
inductive Reaches (c : Call) : Call → Prop
  | start : Reaches c c
  | dialer {c' : Call} (h : Reaches c c') (f : Fleet) (m : Moment) (store : Store)
      (hm : m.Intact c'.back) : Reaches c (c'.dialerTurn f m store)
  | acceptor {c' : Call} (h : Reaches c c') (f : Fleet) (m : Moment) (store : Store)
      (state : ClusterState) (hm : m.Intact c'.out) : Reaches c (c'.acceptorTurn f m store state)

end Call

/-! ### Agreements -/

/-- What was agreed on in a handshake. -/
structure Agreement where
  /-- What the acceptor answered. -/
  accepted : Acceptance
  /-- How the acceptor takes what the dialer sends. -/
  push : Option InboundPlan
  /-- How the dialer takes what the acceptor sends. -/
  pull : Option InboundPlan

/-- Whether the acceptor will send, so that it waits until the dialer resumes it. -/
def Agreement.sends (k : Agreement) : Bool := k.accepted.mode.contains Mode.hubToSink

/-- How a dialer records a connection that it takes part in. -/
def Seat.status? : Seat → Option ConnectionStatus
  | .waiting => some .handshaking
  | .streaming _ => some .streaming
  | .gone => none

/-- A dialer streams under terms that meet those of the acceptor, or will once it has its answer. -/
def Dialer.Keeps (d : Dialer) (k : Agreement) : Prop :=
  match d.phase with
  | .greeting endpoint _ _ _ =>
    (d.assignment.sessionTerms endpoint k.accepted).Meets k.pull k.push ∧
      d.assignment.requestedMode.contains k.accepted.mode = true ∧
      k.accepted.mode.isEmpty = false
  | .streaming _ _ s => s.terms.Meets k.pull k.push ∧ s.Mannered
  | _ => True

/-- An acceptor streams under terms that meet those of the dialer, or will once it is resumed. -/
def Acceptor.Keeps (a : Acceptor) (k : Agreement) : Prop :=
  match a.phase with
  | .resuming admitted _ =>
    k.sends = true ∧ ∀ etag, (a.sessionTerms admitted etag).Meets k.push k.pull
  | .ready admitted etag => (a.sessionTerms admitted etag).Meets k.push k.pull
  | .streaming _ s => s.terms.Meets k.push k.pull ∧ s.Mannered
  | _ => True

theorem Dialer.keeps_of_gone {d : Dialer} {k : Agreement} (h : d.seat = .gone) : d.Keeps k := by
  cases hphase : d.phase with
  | greeting | streaming => simp [Dialer.seat, hphase] at h
  | _ => simp only [Dialer.Keeps, hphase]

theorem Acceptor.keeps_of_gone {a : Acceptor} {k : Agreement} (h : a.seat = .gone) :
    a.Keeps k := by
  cases hphase : a.phase with
  | resuming | ready | streaming => simp [Acceptor.seat, hphase] at h
  | _ => simp only [Acceptor.Keeps, hphase]

/-- An acceptor waits to be resumed only if it will send. -/
theorem Acceptor.Keeps.sends_of_waiting {a : Acceptor} {k : Agreement} (h : a.Keeps k)
    (hwaiting : a.seat = .waiting) : k.sends = true := by
  unfold Acceptor.seat at hwaiting
  split at hwaiting
  · rename_i hphase
    simp only [Acceptor.Keeps, hphase] at h
    exact h.1
  · cases hwaiting
  · cases hwaiting
  · cases hwaiting

namespace Call

/-- A call keeps to an agreement. -/
structure Sound (c : Call) (k : Agreement) : Prop where
  dialer : c.dialer.Keeps k
  acceptor : c.acceptor.Keeps k
  /-- The dialer hears what it may hear. -/
  near : ∀ {owed}, c.dialer.seat.owed? = some owed →
    Heard k.pull owed (c.dialer.seat.hears c.back) (c.acceptor.seat.hears c.out)
  /-- The acceptor hears what it may hear. -/
  far : ∀ {owed}, c.acceptor.seat.owed? = some owed →
    Heard k.push owed (c.acceptor.seat.hears c.out) (c.dialer.seat.hears c.back)
  /-- A dialer that waits for its answer said nothing more, the answer is on its way, and the
  acceptor does not stream before it is resumed. -/
  answer : c.dialer.seat = .waiting → c.out = [] ∧
    c.back.head? = some (.response (.accepted k.accepted)) ∧
      (k.sends = true → ∀ {owed}, c.acceptor.seat ≠ .streaming owed)
  /-- A dialer that streams with an acceptor that waits resumed it first. -/
  resume : c.acceptor.seat = .waiting →
    (∀ {frame}, c.out.head? = some frame → ∃ etag, frame = .resume etag) ∧
      ∀ {owed}, c.dialer.seat = .streaming owed → c.out ≠ []
  recorded : ∀ {status}, c.dialer.seat.status? = some status → c.runtime.status = status

/-! ### Leaving -/

namespace Sound

variable {c : Call} {k : Agreement}

/-- A dialer that takes no part any more leaves a call sound. -/
theorem dialer_leaves (h : c.Sound k) {d : Dialer} (hd : d.seat = .gone) {out back : List Frame}
    {runtime : ConnectionRuntime}
    (hout : ∀ {owed}, c.acceptor.seat.owed? = some owed →
      c.acceptor.seat.hears out = c.acceptor.seat.hears c.out)
    (hresume : c.acceptor.seat = .waiting →
      ∀ {frame}, out.head? = some frame → ∃ etag, frame = .resume etag)
    (hback : (batchesOf back).Sublist (batchesOf (c.dialer.seat.hears c.back))) :
    Sound ⟨d, c.acceptor, out, back, runtime⟩ k where
  dialer := Dialer.keeps_of_gone hd
  acceptor := h.acceptor
  near := by
    intro owed howed
    rw [hd] at howed
    cases howed
  far := by
    intro owed howed
    simp only [hd, hout howed]
    exact (h.far howed).of_outgoing hback
  answer := by
    intro hwaiting
    rw [hd] at hwaiting
    cases hwaiting
  resume := by
    intro hwaiting
    refine ⟨hresume hwaiting, fun hstreaming => ?_⟩
    rw [hd] at hstreaming
    cases hstreaming
  recorded := by
    intro status hstatus
    rw [hd] at hstatus
    cases hstatus

/-- An acceptor that takes no part any more leaves a call sound. -/
theorem acceptor_leaves (h : c.Sound k) {a : Acceptor} (ha : a.seat = .gone) {out : List Frame}
    (hempty : c.out = [] → out = [])
    (hout : (batchesOf out).Sublist (batchesOf (c.acceptor.seat.hears c.out))) :
    Sound ⟨c.dialer, a, out, c.back, c.runtime⟩ k where
  dialer := h.dialer
  acceptor := Acceptor.keeps_of_gone ha
  near := by
    intro owed howed
    simp only [ha]
    exact (h.near howed).of_outgoing hout
  far := by
    intro owed howed
    rw [ha] at howed
    cases howed
  answer := by
    intro hwaiting
    obtain ⟨hnone, hback, -⟩ := h.answer hwaiting
    refine ⟨hempty hnone, hback, fun _ {owed} hstreaming => ?_⟩
    rw [ha] at hstreaming
    cases hstreaming
  resume := by
    intro hwaiting
    rw [ha] at hwaiting
    cases hwaiting
  recorded := h.recorded

end Sound

end Call

/-! ### What comes before -/

/-- What resumes an acceptor is no batch. -/
theorem Acceptance.Resumes.batchesOf_hears {accepted : Acceptance} {said : List Frame}
    (h : accepted.Resumes said) (seat : Seat) : batchesOf (seat.hears said) = [] := by
  cases h <;> cases seat <;> rfl

namespace Call

variable {f : Fleet} {m : Moment}

/-- Where the answer is on its way, a dialer gets it, or loses the connection or its patience. -/
theorem response_honest {back rest : List Frame} {response : HandshakeResponse}
    (hback : back = .response response :: rest) (hm : m.Intact back) {endpoint : ConnectionEndpoint}
    {deadline : Nat} {r : Outcome HandshakeResponse}
    (h : f.response? endpoint deadline (m.arrival.received back) = some r) :
    r = .ok response ∨ ∃ e, r = .error e ∧ e.kind = .transient := by
  subst hback
  cases harrival : m.arrival with
  | frame =>
      rw [harrival] at h
      exact .inl (Option.some.inj h).symm
  | nothing =>
      simp only [harrival, Arrival.received, Fleet.response?] at h
      split at h <;> cases h
      exact .inr ⟨_, rfl, rfl⟩
  | ended =>
      rw [harrival] at h
      cases h
      exact .inr ⟨_, rfl, rfl⟩
  | broken e =>
      rw [harrival] at h
      cases h
      rcases hm e harrival with hkind | ⟨_, _, hnext, hwords, hunreadable⟩
      · exact .inr ⟨e, rfl, hkind⟩
      · cases hnext
        exact absurd hunreadable (Frame.not_unreadable_response hwords)

/-- Where nothing but a resumption is on its way first, an acceptor gets that, or loses the
connection or its patience. -/
theorem resume_honest {out : List Frame}
    (hout : ∀ {frame}, out.head? = some frame → ∃ etag, frame = .resume etag) (hm : m.Intact out)
    {deadline : Nat} {event : AcceptorEvent}
    (h : f.resume? deadline (m.arrival.received out) = some event) :
    (∃ etag rest, event = .resumed etag ∧ out = .resume etag :: rest) ∨
      ∃ e, event = .unresumed e ∧ e.kind = .transient := by
  have hpending : ∀ {event}, f.resume? deadline .pending = some event →
      ∃ e, event = .unresumed e ∧ e.kind = .transient := by
    intro event hevent
    simp only [Fleet.resume?] at hevent
    split at hevent <;> cases hevent
    exact ⟨_, rfl, rfl⟩
  cases harrival : m.arrival with
  | frame =>
      rw [harrival] at h
      cases out with
      | nil => exact .inr (hpending h)
      | cons frame rest =>
          obtain ⟨etag, rfl⟩ := hout rfl
          exact .inl ⟨etag, rest, (Option.some.inj h).symm, rfl⟩
  | nothing =>
      rw [harrival] at h
      exact .inr (hpending h)
  | ended =>
      rw [harrival] at h
      cases h
      exact .inr ⟨_, rfl, rfl⟩
  | broken e =>
      rw [harrival] at h
      cases h
      rcases hm e harrival with hkind | ⟨frame, rest, rfl, hwords, hunreadable⟩
      · exact .inr ⟨e, rfl, hkind⟩
      · obtain ⟨etag, rfl⟩ := hout rfl
        exact absurd hunreadable (Frame.not_unreadable_resume hwords)

namespace Sound

variable {c : Call} {k : Agreement} {store : Store}

/-! ### Streaming -/

/-- A dialer that streams keeps to what was agreed on, and hears what it may hear. -/
theorem dialer_streams (h : c.Sound k) {endpoint : ConnectionEndpoint} {line : LineEnd}
    {s : Session} (hphase : c.dialer.phase = .streaming endpoint line s) :
    s.terms.Meets k.pull k.push ∧ s.Mannered ∧
      Heard k.pull s.owed c.back (c.acceptor.seat.hears c.out) := by
  have hseat : c.dialer.seat = .streaming s.owed := by simp only [Dialer.seat, hphase]
  have hkeeps := h.dialer
  have hnear := h.near (show c.dialer.seat.owed? = some s.owed by rw [hseat]; rfl)
  simp only [Dialer.Keeps, hphase] at hkeeps
  rw [hseat] at hnear
  exact ⟨hkeeps.1, hkeeps.2, hnear⟩

/-- An acceptor that streams keeps to what was agreed on, and hears what it may hear. -/
theorem acceptor_streams (h : c.Sound k) {admitted : Admitted} {s : Session}
    (hphase : c.acceptor.phase = .streaming admitted s) :
    s.terms.Meets k.push k.pull ∧ s.Mannered ∧
      Heard k.push s.owed c.out (c.dialer.seat.hears c.back) := by
  have hseat : c.acceptor.seat = .streaming s.owed := by simp only [Acceptor.seat, hphase]
  have hkeeps := h.acceptor
  have hfar := h.far (show c.acceptor.seat.owed? = some s.owed by rw [hseat]; rfl)
  simp only [Acceptor.Keeps, hphase] at hkeeps
  rw [hseat] at hfar
  exact ⟨hkeeps.1, hkeeps.2, hfar⟩

/-! ### Turns of the dialer -/

theorem dialer_quits (h : c.Sound k) {t : DialerTurn} (ht : Dialer.Quits (m.side store) t)
    {back : List Frame}
    (hback : (batchesOf back).Sublist (batchesOf (c.dialer.seat.hears c.back))) :
    Sound ⟨t.dialer, c.acceptor, c.out ++ t.side.sent.map (·.frame), back, t.side.runtime⟩ k := by
  have hsent : t.side.sent = [] := ht.sent
  rw [hsent, List.map_nil, List.append_nil]
  exact h.dialer_leaves ht.gone (fun _ => rfl) (fun hwaiting => (h.resume hwaiting).1) hback

/-- What a dialer says when it takes up the answer is what the acceptor waits for, if it waits, and
nothing that it hears otherwise. -/
theorem resumption (h : c.Sound k) (hwaiting : c.dialer.seat = .waiting) {said : List Frame}
    (hsaid : k.accepted.Resumes said) :
    (c.acceptor.seat = .waiting → ∃ etag, said = [.resume etag]) ∧
      ∀ {owed}, c.acceptor.seat.owed? = some owed →
        c.acceptor.seat.hears said = c.acceptor.seat.hears c.out := by
  obtain ⟨hout, -, hopen⟩ := h.answer hwaiting
  rw [hout]
  cases hsaid with
  | resumed hsends etag =>
      refine ⟨fun _ => ⟨etag, rfl⟩, fun howed => ?_⟩
      cases hacceptor : c.acceptor.seat with
      | waiting => rfl
      | streaming owed => exact (hopen hsends hacceptor).elim
      | gone =>
          rw [hacceptor] at howed
          cases howed
  | silent hnot =>
      refine ⟨fun hacceptor => ?_, fun _ => rfl⟩
      have hsends : k.accepted.mode.contains Mode.hubToSink = true :=
        h.acceptor.sends_of_waiting hacceptor
      rw [hnot] at hsends
      cases hsends

/-- A dialer that waited for its answer, and starts to stream with it, leaves a call sound. -/
theorem dialer_starts (h : c.Sound k) (hseat : c.dialer.seat = .waiting) {d : Dialer}
    (hd : d.seat = .streaming []) (hkeeps : d.Keeps k) {said : List Frame}
    (hsaid : k.accepted.Resumes said) {runtime : ConnectionRuntime}
    (hrecorded : runtime.status = .streaming) :
    Sound ⟨d, c.acceptor, said, c.back.tail, runtime⟩ k := by
  obtain ⟨hwaits, hsame⟩ := h.resumption hseat hsaid
  have hhears : c.dialer.seat.hears c.back = c.back.tail := by rw [hseat]; rfl
  constructor
  case dialer => exact hkeeps
  case acceptor => exact h.acceptor
  case near =>
    intro owed howed
    rw [hd] at howed ⊢
    cases howed
    have hnear := h.near (show c.dialer.seat.owed? = some [] by rw [hseat]; rfl)
    rw [hhears] at hnear
    refine hnear.of_outgoing ?_
    rw [hsaid.batchesOf_hears]
    exact List.nil_sublist _
  case far =>
    intro owed howed
    have hfar := h.far howed
    rw [hhears] at hfar
    rw [hd, hsame howed]
    exact hfar
  case answer =>
    intro hwaiting
    rw [hd] at hwaiting
    cases hwaiting
  case resume =>
    intro hwaiting
    obtain ⟨etag, rfl⟩ := hwaits hwaiting
    exact ⟨fun hframe => ⟨etag, (Option.some.inj hframe).symm⟩, fun _ => List.cons_ne_nil _ _⟩
  case recorded =>
    intro status hstatus
    rw [hd] at hstatus
    cases hstatus
    exact hrecorded

/-- A dialer takes up the answer that it waited for. -/
theorem dialer_accepted (h : c.Sound k) {endpoint : ConnectionEndpoint}
    {rest : List ConnectionEndpoint} {line : LineEnd} {deadline : Nat}
    (hphase : c.dialer.phase = .greeting endpoint rest line deadline) {t : DialerTurn}
    (ht : c.dialer.answer (m.side store) m.now m.wall endpoint rest line
      (.ok (.accepted k.accepted)) = t) :
    Sound ⟨t.dialer, c.acceptor, c.out ++ t.side.sent.map (·.frame), c.back.tail,
      t.side.runtime⟩ k := by
  have hseat : c.dialer.seat = .waiting := by simp only [Dialer.seat, hphase]
  have hhears : c.dialer.seat.hears c.back = c.back.tail := by rw [hseat]; rfl
  have hkeeps := h.dialer
  simp only [Dialer.Keeps, hphase] at hkeeps
  obtain ⟨hmeets, hrequested, hmode⟩ := hkeeps
  rcases Dialer.answer_cases c.dialer endpoint rest line hmode hrequested ht with
    hquits | ⟨⟨said, hsaid, hsent⟩, hafter⟩
  · exact h.dialer_quits hquits (by rw [hhears])
  · have hsent : t.side.sent.map (·.frame) = said := hsent
    rw [hsent, (h.answer hseat).1, List.nil_append]
    rcases hafter with hgone | ⟨s, ⟨announcements, hstart⟩, hstreams, hrecorded⟩
    · obtain ⟨hwaits, hsame⟩ := h.resumption hseat hsaid
      refine h.dialer_leaves hgone hsame (fun hwaiting {frame} hframe => ?_) (by rw [hhears])
      obtain ⟨etag, rfl⟩ := hwaits hwaiting
      exact ⟨etag, (Option.some.inj hframe).symm⟩
    · obtain ⟨hterms, howed, hmannered⟩ := Session.start?_eq_some hstart
      refine h.dialer_starts hseat (by simp only [Dialer.seat, hstreams, howed]) ?_ hsaid hrecorded
      simp only [Dialer.Keeps, hstreams]
      exact ⟨hterms ▸ hmeets, hmannered⟩

/-- A dialer takes part in its session. -/
theorem dialer_session (h : c.Sound k) {endpoint : ConnectionEndpoint} {line : LineEnd}
    {s : Session} (hphase : c.dialer.phase = .streaming endpoint line s) (hm : m.Intact c.back)
    (hruntime : m.runtime = c.runtime)
    {event : SessionEvent} {t : SessionTurn} (hturn : m.turn s store c.back = some (event, t))
    {t' : DialerTurn}
    (ht' : c.dialer.streamOn (m.side store) m.now m.wall endpoint line s event = t') :
    Sound ⟨t'.dialer, c.acceptor, c.out ++ t'.side.sent.map (·.frame), event.leaves c.back,
      t'.side.runtime⟩ k := by
  subst ht'
  have hseat : c.dialer.seat = .streaming s.owed := by simp only [Dialer.seat, hphase]
  obtain ⟨hmeets, hmannered, hnear⟩ := h.dialer_streams hphase
  have hhandle := Moment.handle_of_turn hturn
  rcases Session.turn_honest hmeets hmannered hnear hm hturn with
    ⟨hgoes, hstatus⟩ | ⟨hsent, hends⟩
  · rw [Dialer.streamOn_of_going c.dialer _ _ _ hhandle hgoes.verdict]
    have hout : c.acceptor.seat = .waiting → c.out ≠ [] := fun hwaiting =>
      (h.resume hwaiting).2 hseat
    refine ⟨⟨hgoes.meets, hgoes.mannered⟩, h.acceptor, ?_, ?_, ?_, ?_, ?_⟩
    · intro owed howed
      cases howed
      rw [Seat.hears_append hout]
      exact hgoes.heard
    · intro owed howed
      have hfar := h.far howed
      rw [hseat] at hfar
      rw [Seat.hears_append hout]
      exact hgoes.peer hfar
    · intro hwaiting
      cases hwaiting
    · intro hwaiting
      refine ⟨fun hframe => (h.resume hwaiting).1 ?_, fun _ => ?_⟩
      · rwa [List.head?_append_of_ne_nil _ (hout hwaiting)] at hframe
      · simp [hout hwaiting]
    · intro status hrecords
      cases hrecords
      rw [hstatus, hruntime]
      exact h.recorded (by rw [hseat]; rfl)
  · refine h.dialer_quits (Dialer.quits_streamOn c.dialer _ _ _ hhandle hsent ?_) ?_
    · exact hends.imp id fun ⟨r, hr, _⟩ => ⟨r, hr⟩
    · rw [hseat]
      exact (leaves_sublist event c.back).filterMap _

/-- Every turn of the dialer keeps a call sound. -/
theorem dialerTurn (h : c.Sound k) (f : Fleet) (store : Store) (hm : m.Intact c.back) :
    (c.dialerTurn f m store).Sound k := by
  unfold Call.dialerTurn
  cases hevent : c.dialerEvent? f m store with
  | none => exact h
  | some event =>
      simp only
      unfold dialerEvent? at hevent
      split at hevent
      · rename_i endpoint rest line deadline hphase
        have hseat : c.dialer.seat = .waiting := by simp only [Dialer.seat, hphase]
        obtain ⟨-, hback, -⟩ := h.answer hseat
        obtain ⟨coming, hback⟩ := List.head?_eq_some_iff.1 hback
        split at hevent
        · cases hevent
          simp only [Dialer.handle, hphase]
          refine h.dialer_quits (m := c.recalled m) (Dialer.quits_dispose c.dialer _ m.wall) ?_
          rw [hseat, hback]
          exact List.Sublist.refl _
        · obtain ⟨r, hr, rfl⟩ := Option.map_eq_some_iff.1 hevent
          simp only [Dialer.handle, hphase]
          rcases response_honest hback hm hr with rfl | ⟨e, rfl, -⟩
          · exact h.dialer_accepted (m := c.recalled m) hphase rfl
          · refine h.dialer_quits (m := c.recalled m)
              (Dialer.quits_failCandidate c.dialer _ m.wall endpoint rest e) ?_
            rw [hseat]
            exact List.Sublist.refl _
      · rename_i endpoint line s hphase
        obtain ⟨event, hnext, rfl⟩ := Option.map_eq_some_iff.1 hevent
        simp only [Dialer.handle, hphase]
        exact h.dialer_session (m := c.recalled m) hphase hm rfl
          (Option.map_eq_some_iff.2 ⟨event, hnext, rfl⟩) rfl
      · cases hevent

/-! ### Turns of the acceptor -/

theorem acceptor_quits (h : c.Sound k) {t : AcceptorTurn} (ht : Acceptor.Quits (m.side store) t)
    {out : List Frame} (hempty : c.out = [] → out = [])
    (hout : (batchesOf out).Sublist (batchesOf (c.acceptor.seat.hears c.out))) :
    Sound ⟨c.dialer, t.acceptor, out, c.back ++ t.side.sent.map (·.frame), c.runtime⟩ k := by
  have hsent : t.side.sent = [] := ht.sent
  rw [hsent, List.map_nil, List.append_nil]
  exact h.acceptor_leaves ht.gone hempty hout

/-- An acceptor is resumed. -/
theorem acceptor_resumed (h : c.Sound k) {admitted : Admitted} {deadline : Nat}
    (hphase : c.acceptor.phase = .resuming admitted deadline) {etag : Nat} {rest : List Frame}
    (hout : c.out = .resume etag :: rest) :
    Sound ⟨c.dialer, { c.acceptor with phase := .ready admitted etag }, rest, c.back,
      c.runtime⟩ k := by
  have hseat : c.acceptor.seat = .waiting := by simp only [Acceptor.seat, hphase]
  have hkeeps := h.acceptor
  simp only [Acceptor.Keeps, hphase] at hkeeps
  have hhears : c.acceptor.seat.hears c.out = rest := by rw [hseat, hout]; rfl
  refine ⟨h.dialer, hkeeps.2 etag, ?_, ?_, ?_, ?_, h.recorded⟩
  · intro owed howed
    have hnear := h.near howed
    rw [hhears] at hnear
    exact hnear
  · intro owed howed
    cases howed
    have hfar := h.far (show c.acceptor.seat.owed? = some [] by rw [hseat]; rfl)
    rw [hhears] at hfar
    exact hfar
  · intro hwaiting
    obtain ⟨hnone, -⟩ := h.answer hwaiting
    rw [hout] at hnone
    cases hnone
  · intro hwaiting
    cases hwaiting

/-- An acceptor starts to stream, once it is registered. -/
theorem acceptor_registered (h : c.Sound k) {admitted : Admitted} {etag : Nat}
    (hphase : c.acceptor.phase = .ready admitted etag) {t : AcceptorTurn}
    (ht : c.acceptor.start (m.side store) m.now m.wall admitted etag = t) :
    Sound ⟨c.dialer, t.acceptor, c.out, c.back ++ t.side.sent.map (·.frame), c.runtime⟩ k := by
  subst ht
  have hseat : c.acceptor.seat = .streaming [] := by simp only [Acceptor.seat, hphase]
  have hkeeps := h.acceptor
  simp only [Acceptor.Keeps, hphase] at hkeeps
  obtain ⟨hsent, hgone | ⟨s, announcements, hstart, hstreams⟩⟩ :=
    Acceptor.start_cases c.acceptor (m.side store) m.now m.wall admitted etag
  · exact h.acceptor_quits ⟨hgone, hsent⟩ id (by rw [hseat]; exact List.Sublist.refl _)
  · obtain ⟨hterms, howed, hmannered⟩ := Session.start?_eq_some hstart
    have hsaid : (c.acceptor.start (m.side store) m.now m.wall admitted etag).side.sent = [] :=
      hsent
    rw [hsaid, List.map_nil, List.append_nil]
    generalize c.acceptor.start (m.side store) m.now m.wall admitted etag = t at hstreams
    have hseat' : t.acceptor.seat = c.acceptor.seat := by
      rw [hseat]
      simp only [Acceptor.seat, hstreams, howed]
    refine ⟨h.dialer, ?_, ?_, ?_, ?_, ?_, h.recorded⟩
    · simp only [Acceptor.Keeps, hstreams]
      exact ⟨hterms ▸ hkeeps, hmannered⟩
    all_goals simp only [hseat']
    · exact h.near
    · exact h.far
    · exact h.answer
    · exact h.resume

/-- An acceptor takes part in its session. -/
theorem acceptor_session (h : c.Sound k) {admitted : Admitted} {s : Session}
    (hphase : c.acceptor.phase = .streaming admitted s) (hm : m.Intact c.out)
    {event : SessionEvent} {t : SessionTurn} (hturn : m.turn s store c.out = some (event, t))
    {t' : AcceptorTurn}
    (ht' : c.acceptor.streamOn (m.side store) m.now m.wall admitted s event = t') :
    Sound ⟨c.dialer, t'.acceptor, event.leaves c.out, c.back ++ t'.side.sent.map (·.frame),
      c.runtime⟩ k := by
  subst ht'
  have hseat : c.acceptor.seat = .streaming s.owed := by simp only [Acceptor.seat, hphase]
  obtain ⟨hmeets, hmannered, hfar⟩ := h.acceptor_streams hphase
  have hhandle := Moment.handle_of_turn hturn
  have hempty : c.out = [] → event.leaves c.out = [] := fun hnone => by
    rw [hnone]
    exact List.sublist_nil.1 (leaves_sublist event [])
  rcases Session.turn_honest hmeets hmannered hfar hm hturn with
    ⟨hgoes, -⟩ | ⟨hsent, hends⟩
  · rw [Acceptor.streamOn_of_going c.acceptor _ _ _ admitted hhandle hgoes.verdict]
    have hback : c.dialer.seat = .waiting → c.back ≠ [] := by
      intro hwaiting hnone
      obtain ⟨-, hanswer, -⟩ := h.answer hwaiting
      rw [hnone] at hanswer
      cases hanswer
    refine ⟨h.dialer, ⟨hgoes.meets, hgoes.mannered⟩, ?_, ?_, ?_, ?_, h.recorded⟩
    · intro owed howed
      have hnear := h.near howed
      rw [hseat] at hnear
      rw [Seat.hears_append hback]
      exact hgoes.peer hnear
    · intro owed howed
      cases howed
      rw [Seat.hears_append hback]
      exact hgoes.heard
    · intro hwaiting
      obtain ⟨hnone, hanswer, hopen⟩ := h.answer hwaiting
      refine ⟨hempty hnone, ?_, fun hsends => (hopen hsends hseat).elim⟩
      rwa [List.head?_append_of_ne_nil _ (hback hwaiting)]
    · intro hwaiting
      cases hwaiting
  · refine h.acceptor_quits (Acceptor.quits_streamOn c.acceptor _ _ _ admitted hhandle hsent ?_)
      hempty ?_
    · exact hends.imp id fun ⟨r, hr, _⟩ => ⟨r, hr⟩
    · rw [hseat]
      exact (leaves_sublist event c.out).filterMap _

/-- Every turn of the acceptor keeps a call sound. -/
theorem acceptorTurn (h : c.Sound k) (f : Fleet) (store : Store) (state : ClusterState)
    (hm : m.Intact c.out) : (c.acceptorTurn f m store state).Sound k := by
  unfold Call.acceptorTurn
  cases hevent : c.acceptorEvent? f m store with
  | none => exact h
  | some event =>
      simp only
      unfold acceptorEvent? at hevent
      split at hevent
      · rename_i admitted deadline hphase
        have hseat : c.acceptor.seat = .waiting := by simp only [Acceptor.seat, hphase]
        rcases resume_honest (h.resume hseat).1 hm hevent with
          ⟨etag, rest, rfl, hout⟩ | ⟨e, rfl, -⟩
        · simp only [Acceptor.handle, hphase, Moment.side, List.map_nil, List.append_nil,
            AcceptorEvent.leaves]
          rw [hout, List.tail_cons]
          exact h.acceptor_resumed hphase hout
        · simp only [Acceptor.handle, hphase]
          refine h.acceptor_quits (Acceptor.quits_abandon c.acceptor _) id ?_
          -- What an acceptor waits for is no batch.
          rw [hseat]
          cases hout : c.out with
          | nil => exact List.Sublist.refl _
          | cons frame rest =>
              obtain ⟨etag, rfl⟩ := (h.resume hseat).1 (by rw [hout]; rfl)
              exact List.Sublist.refl _
      · rename_i admitted etag hphase
        cases hevent
        simp only [Acceptor.handle, hphase]
        exact h.acceptor_registered hphase rfl
      · rename_i admitted s hphase
        obtain ⟨event, hnext, rfl⟩ := Option.map_eq_some_iff.1 hevent
        simp only [Acceptor.handle, hphase]
        exact h.acceptor_session hphase hm (Option.map_eq_some_iff.2 ⟨event, hnext, rfl⟩) rfl
      · cases hevent

/-- Any number of turns keeps a call sound. -/
theorem of_reaches (h : c.Sound k) {c' : Call} (hc : c.Reaches c') : c'.Sound k := by
  induction hc with
  | start => exact h
  | dialer _ f m store hm ih => exact ih.dialerTurn f store hm
  | acceptor _ f m store state hm ih => exact ih.acceptorTurn f store state hm

end Sound

end Call

end HubReplication
