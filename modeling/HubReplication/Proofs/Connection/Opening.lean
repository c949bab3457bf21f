/-
**How calls open.**

A dialer that reached a candidate says who it is and which directions it asks for, and the candidate
lets it in under exactly those.  What either of them will send and take is then computed on both
sides, by the dialer from the answer and by the acceptor from what it let in.  Both come from the
same directions and the same paths, whatever the kind of the connection: so a call that opens is
sound.

Main definitions:

* `Opening` — a dialer and an acceptor that are about to meet;
* `Opening.Accepted` — the acceptor takes up the handshake of the dialer, and lets it in;
* `Opening.call` — the call that comes of it.

Main results:

* `Dialer.greet_cases`, `Acceptor.judge_cases` — what is said until a call is open;
* `Handshake.mode_of_authorize` — who is let in is let in under the directions it asked for;
* `Opening.Accepted.agree` — both sides keep to what the answer says;
* `Opening.Accepted.sound` — a call that opens is sound.
-/

import HubReplication.Proofs.Connection.Call

set_option relaxedAutoImplicit false
set_option autoImplicit false

namespace HubReplication

/-! ### Greeting -/

/-- A handshake asks for the directions of the task. -/
theorem Assignment.requestedMode_of_handshake {a : Assignment} {endpoint : ConnectionEndpoint}
    {databaseId : String} {h : Handshake} (hok : a.handshake endpoint databaseId = .ok h) :
    h.requestedMode = a.requestedMode := by
  unfold handshake at hok
  cases hidentity : a.identity with
  | error e =>
      rw [hidentity] at hok
      cases hok
  | ok identity =>
      rw [hidentity] at hok
      cases hok
      rfl

/-- A dialer that greets a candidate sends its handshake and waits for the answer, or takes no part
any more. -/
theorem Dialer.greet_cases (d : Dialer) (side : LocalSide) (now : Nat) (wall : Instant)
    (endpoint : ConnectionEndpoint) (rest : List ConnectionEndpoint) (line : LineEnd)
    {t : DialerTurn} (ht : d.greet side now wall endpoint rest line = t) :
    Quits side t ∨ ∃ h deadline,
      d.assignment.handshake endpoint side.site.store.databaseId = .ok h ∧
      t.side.sent.map (·.frame) = side.sent.map (·.frame) ++ [.handshake h] ∧
      t.dialer = { d with phase := .greeting endpoint rest line deadline } ∧
      t.side.runtime.status = .handshaking := by
  subst ht
  unfold greet moving
  cases htake : side.runtime.take .handshake wall with
  | error e => exact .inl (quits_park d side wall e)
  | ok runtime =>
      simp only
      cases hidentity : d.assignment.handshake endpoint side.site.store.databaseId with
      | error e =>
          have hquits := quits_failCandidate d { side with runtime } wall endpoint rest e
          exact .inl ⟨hquits.gone, hquits.sent⟩
      | ok h =>
          simp only
          split
          · rename_i e _
            have hquits := quits_failCandidate d { side with runtime } wall endpoint rest e
            exact .inl ⟨hquits.gone, hquits.sent⟩
          · rename_i hwrite
            obtain ⟨bytes, -, rfl⟩ := LocalSide.write_eq_ok hwrite
            exact .inr ⟨h, _, rfl, List.map_append, rfl, ConnectionRuntime.status_of_take htake⟩

/-- A dialer that may greet, and whose handshake can be written, sends it. -/
theorem Dialer.sent_greet {d : Dialer} {side : LocalSide} {now : Nat} {wall : Instant}
    {endpoint : ConnectionEndpoint} {rest : List ConnectionEndpoint} {line : LineEnd}
    {h : Handshake} {bytes : List UInt8}
    (hmoves : ConnectionStep.handshake.allowedFrom side.runtime.status = true)
    (hhandshake : d.assignment.handshake endpoint side.site.store.databaseId = .ok h)
    (hwrite : (Frame.handshake h).write .off = .ok bytes) (hreachable : side.reachable = true) :
    (d.greet side now wall endpoint rest line).side.sent =
      side.sent ++ [⟨.handshake h, bytes⟩] := by
  simp only [greet, moving, ConnectionRuntime.take_eq_ok hmoves wall, hhandshake, LocalSide.write,
    hwrite, hreachable, if_true]

/-! ### Letting in -/

namespace Handshake

variable {h : Handshake} {record : DatabaseRecord} {now : Instant} {admission : Admission}

theorem isEmpty_of_requestedHub {hub : HubDefinition} (hok : h.requestedHub record = .ok hub) :
    h.requestedMode.isEmpty = false := by
  simp only [requestedHub] at hok
  split at hok
  · cases hok
  · split at hok
    · cases hok
    · split at hok
      · cases hok
      · rename_i hmode
        simp only [Bool.or_eq_true, not_or, Bool.not_eq_true] at hmode
        exact hmode.1

theorem mode_of_authorizeHolder {hub : HubDefinition}
    (hok : h.authorizeHolder hub record now = .ok admission) :
    admission.mode = h.requestedMode := by
  simp only [authorizeHolder, bind, Except.bind] at hok
  split at hok
  · cases hok
  · split at hok
    · cases hok
    · simp only [pure, Except.pure] at hok
      repeat' split at hok
      all_goals cases hok
      all_goals rfl

/-- Whoever is let in is let in under the directions that it asked for, and asked for some. -/
theorem mode_of_authorize {security : ServerSecurity}
    (hok : h.authorize security record now = .ok admission) :
    admission.mode = h.requestedMode ∧ h.requestedMode.isEmpty = false := by
  unfold authorize at hok
  split at hok
  · unfold authorizeSink at hok
    split at hok
    · cases hok
    · rename_i hub hhub
      refine ⟨?_, isEmpty_of_requestedHub hhub⟩
      split at hok
      · exact mode_of_authorizeHolder hok
      · cases hok
        rfl
  · unfold authorizeExternal at hok
    split at hok
    · cases hok
    · rename_i hmode
      obtain hmode : h.requestedMode = Mode.sinkToHub := not_not.1 hmode
      cases hthumbprint : h.nodeThumbprint security now with
      | error r =>
          rw [hthumbprint] at hok
          cases hok
      | ok thumbprint =>
          rw [hthumbprint] at hok
          cases hok
          rw [hmode]
          exact ⟨rfl, rfl⟩

end Handshake

namespace Acceptor

variable {a : Acceptor} {side : LocalSide} {now : Nat} {wall : Instant} {state : ClusterState}
  {record : DatabaseRecord} {h : Handshake} {admission : Admission} {t : AcceptorTurn}

/-- How an acceptor lets a peer in: it says under what, and waits to be resumed exactly if it will
send. -/
structure LetsIn (a : Acceptor) (side : LocalSide) (state : ClusterState) (record : DatabaseRecord)
    (h : Handshake) (admission : Admission) (accepted : Acceptance) (t : AcceptorTurn) : Prop where
  answer : accepted = h.acceptance state record admission side.site.store.databaseId
    (side.site.store.lastReplicatedEtag h.sourceDatabaseId) a.settings.compression
  said : t.side.sent.map (·.frame) = side.sent.map (·.frame) ++ [.response (.accepted accepted)]
  phase : ∃ compression deadline, t.acceptor = { a with
    phase :=
      if sends admission then .resuming ⟨h, admission, compression⟩ deadline
      else .ready ⟨h, admission, compression⟩ 0 }

theorem letIn_cases (ht : a.letIn side now state record h admission = t)
    (hgoes : t.acceptor.isOver = false) :
    ∃ accepted, a.LetsIn side state record h admission accepted t := by
  unfold letIn at ht
  simp only at ht
  split at ht
  · subst ht
    cases hgoes
  · rename_i hwrite
    subst ht
    obtain ⟨bytes, -, rfl⟩ := LocalSide.write_eq_ok hwrite
    exact ⟨_, rfl, List.map_append, _, _, rfl⟩

/-- An acceptor that goes on with a handshake let the peer in. -/
theorem judge_cases (ht : a.judge side now wall state h = t) (hgoes : t.acceptor.isOver = false) :
    ∃ record admission accepted, h.authorize a.security record wall = .ok admission ∧
      a.LetsIn side state record h admission accepted t := by
  have hrefused : ∀ side r, a.refuse side wall h r ≠ t := by
    rintro side r rfl
    simp only [isOver, refuse_phase] at hgoes
    cases hgoes
  unfold judge at ht
  split at ht
  · exact absurd ht (hrefused _ _)
  · rename_i record _
    simp only at ht
    split at ht
    · exact absurd ht (hrefused _ _)
    · rename_i admission hauthorize
      obtain ⟨accepted, hletIn⟩ := letIn_cases ht hgoes
      exact ⟨record, admission, accepted, hauthorize, hletIn.answer, hletIn.said, hletIn.phase⟩

/-- An acceptor lets in whom it may, if it can say so. -/
theorem isOver_judge {bytes : List UInt8} (hdatabase : state.database? h.database = some record)
    (hauthorize : h.authorize a.security record wall = .ok admission)
    (hwrite : (Frame.response (.accepted (h.acceptance state record admission
      side.site.store.databaseId (side.site.store.lastReplicatedEtag h.sourceDatabaseId)
      a.settings.compression))).write .off = .ok bytes) (hreachable : side.reachable = true) :
    (a.judge side now wall state h).acceptor.isOver = false := by
  simp only [judge, hdatabase, hauthorize, letIn, LocalSide.write, LocalSide.onRuntime, hwrite,
    hreachable, if_true, isOver]
  by_cases hsends : sends admission = true
  · simp only [if_pos hsends]
  · simp only [if_neg hsends]

end Acceptor

/-! ### Openings -/

/-- A dialer that reached a candidate, and the acceptor of the candidate. -/
structure Opening where
  dialer : Dialer
  endpoint : ConnectionEndpoint
  rest : List ConnectionEndpoint
  line : LineEnd
  /-- When the dialer greets, and the store that it works on. -/
  near : Moment
  source : Store
  acceptor : Acceptor
  /-- When the database is loaded on the side of the acceptor, and what it is then. -/
  far : Moment
  target : Store
  state : ClusterState

namespace Opening

/-- The dialer greets. -/
def greeting (o : Opening) : DialerTurn :=
  o.dialer.greet (o.near.side o.source) o.near.now o.near.wall o.endpoint o.rest o.line

/-- The acceptor decides, once the database is loaded. -/
def decision (o : Opening) : AcceptorTurn :=
  o.acceptor.handle (o.far.side o.target) o.far.now o.far.wall o.state .loaded

/-- The acceptor takes up the handshake that the dialer sent, and lets the dialer in. -/
structure Accepted (o : Opening) (h : Handshake) : Prop where
  sent : o.greeting.side.sent.map (·.frame) = [.handshake h]
  loading : ∃ deadline, o.acceptor.phase = .loading h deadline
  letIn : o.decision.acceptor.isOver = false

/-- The call that comes of it: the handshake was heard, and the answer is on its way. -/
def call (o : Opening) : Call where
  dialer := o.greeting.dialer
  acceptor := o.decision.acceptor
  out := []
  back := o.decision.side.sent.map (·.frame)
  runtime := o.greeting.side.runtime

variable {o : Opening} {h : Handshake}

/-- What the dialer takes, by the answer. -/
def pull (o : Opening) (accepted : Acceptance) : Option InboundPlan :=
  (o.dialer.assignment.sessionTerms o.endpoint accepted).inbound

/-- What the acceptor takes, by what it let in. -/
def push (o : Opening) (admitted : Admitted) : Option InboundPlan :=
  (o.acceptor.sessionTerms admitted 0).inbound

/-- The dialer sends within what the acceptor takes: both have the paths that it let in. -/
theorem meets_near {accepted : Acceptance} {admitted : Admitted}
    (hmode : accepted.mode = admitted.admission.mode)
    (hpaths : accepted.allowedPaths = admitted.admission.inboundPaths) :
    (o.dialer.assignment.sessionTerms o.endpoint accepted).Meets (o.pull accepted)
      (o.push admitted) := by
  refine ⟨rfl, fun {plan} hplan => ?_⟩
  simp only [Assignment.sessionTerms, Option.ite_none_right_eq_some] at hplan
  obtain ⟨hsends, hplan⟩ := hplan
  cases hplan
  rw [hmode] at hsends
  exact ⟨_, if_pos hsends, fun id hid => hpaths ▸ hid⟩

/-- The acceptor sends within what the dialer takes: a dialer takes every path. -/
theorem meets_far {accepted : Acceptance} {admitted : Admitted}
    (hmode : accepted.mode = admitted.admission.mode) (etag : Nat) :
    (o.acceptor.sessionTerms admitted etag).Meets (o.push admitted) (o.pull accepted) := by
  refine ⟨rfl, fun {plan} hplan => ?_⟩
  simp only [Acceptor.sessionTerms, Option.ite_none_right_eq_some] at hplan
  obtain ⟨hsends, -⟩ := hplan
  rw [Acceptor.sends, ← hmode] at hsends
  exact ⟨_, if_pos hsends, fun id _ => rfl⟩

/-- The dialer sent its own handshake, waits for the answer, and records that. -/
theorem Accepted.greets (ho : o.Accepted h) : ∃ deadline,
    o.dialer.assignment.handshake o.endpoint o.source.databaseId = .ok h ∧
    o.greeting.dialer = { o.dialer with phase := .greeting o.endpoint o.rest o.line deadline } ∧
    o.greeting.side.runtime.status = .handshaking := by
  have hsent := ho.sent
  rcases Dialer.greet_cases o.dialer (o.near.side o.source) o.near.now o.near.wall o.endpoint
    o.rest o.line rfl with hquits | ⟨h', deadline, hhandshake, hgreets, hdialer, hrecorded⟩
  · have hnothing : o.greeting.side.sent = [] := hquits.sent
    rw [hnothing] at hsent
    cases hsent
  · obtain rfl : h = h' := by
      have hsame : [Frame.handshake h] = [.handshake h'] := hsent.symm.trans hgreets
      simpa using hsame
    exact ⟨deadline, hhandshake, hdialer, hrecorded⟩

/-- The acceptor let in who sent the handshake. -/
theorem Accepted.letsIn (ho : o.Accepted h) : ∃ record admission accepted,
    h.authorize o.acceptor.security record o.far.wall = .ok admission ∧
      o.acceptor.LetsIn (o.far.side o.target) o.state record h admission accepted o.decision := by
  obtain ⟨deadline, hloading⟩ := ho.loading
  have hjudges : o.acceptor.judge (o.far.side o.target) o.far.now o.far.wall o.state h =
      o.decision := by
    simp only [decision, Acceptor.handle, hloading]
  exact Acceptor.judge_cases hjudges ho.letIn

/-- What both sides keep to is what the answer says: the directions that the dialer asked for, and
the paths that the acceptor let in. -/
theorem Accepted.agree (ho : o.Accepted h) : ∃ k : Agreement,
    o.call.dialer.Keeps k ∧ o.call.acceptor.Keeps k ∧
      o.call.back = [.response (.accepted k.accepted)] ∧
      (k.sends = true → o.call.acceptor.seat = .waiting) := by
  obtain ⟨deadline, hhandshake, hdialer, -⟩ := ho.greets
  obtain ⟨record, admission, accepted, hauthorize, hanswer, hsaid, compression, deadline',
    hacceptor⟩ := ho.letsIn
  have hmode : accepted.mode = admission.mode := by rw [hanswer]; rfl
  have hpaths : accepted.allowedPaths = admission.inboundPaths := by rw [hanswer]; rfl
  obtain ⟨hasked, hsome⟩ := Handshake.mode_of_authorize hauthorize
  have hrequested := Assignment.requestedMode_of_handshake hhandshake
  have hagrees : accepted.mode.contains Mode.hubToSink = Acceptor.sends admission := by
    rw [hmode, Acceptor.sends]
  have hnear : o.call.dialer.Keeps ⟨accepted, o.push ⟨h, admission, compression⟩,
      o.pull accepted⟩ := by
    change o.greeting.dialer.Keeps _
    rw [hdialer]
    refine ⟨meets_near hmode hpaths, ?_, ?_⟩
    · simp only [hmode, hasked, hrequested, Mode.contains_self]
    · simp only [hmode, hasked, hsome]
  refine ⟨_, hnear, ?_, hsaid, fun hsends => ?_⟩
  · change o.decision.acceptor.Keeps _
    rw [hacceptor]
    split
    · rename_i hsends
      exact ⟨hagrees.trans hsends, meets_far hmode⟩
    · exact meets_far hmode 0
  · change o.decision.acceptor.seat = _
    rw [hacceptor, if_pos (hagrees.symm.trans hsends)]
    rfl

/-- A call that opens is sound. -/
theorem Accepted.sound (ho : o.Accepted h) : ∃ k, o.call.Sound k := by
  obtain ⟨deadline, -, hdialer, hrecorded⟩ := ho.greets
  obtain ⟨k, hkeeps, hkeeps', hback, hwaits⟩ := ho.agree
  have hwaiting : o.call.dialer.seat = .waiting := by
    change o.greeting.dialer.seat = _
    rw [hdialer]
    rfl
  have hnear : o.call.dialer.seat.hears o.call.back = [] := by rw [hwaiting, hback]; rfl
  have hfar : o.call.acceptor.seat.hears o.call.out = [] := Seat.hears_nil _
  refine ⟨k, ?_⟩
  constructor
  case dialer => exact hkeeps
  case acceptor => exact hkeeps'
  case near =>
    intro owed _
    rw [hnear, hfar]
    exact .nil _ _
  case far =>
    intro owed _
    rw [hnear, hfar]
    exact .nil _ _
  case answer =>
    intro _
    refine ⟨rfl, by rw [hback]; rfl, fun hsends {owed} hstreaming => ?_⟩
    rw [hwaits hsends] at hstreaming
    cases hstreaming
  case resume =>
    intro _
    refine ⟨fun hframe => (by cases hframe), fun hstreaming => ?_⟩
    rw [hwaiting] at hstreaming
    cases hstreaming
  case recorded =>
    intro status hstatus
    rw [hwaiting] at hstatus
    cases hstatus
    exact hrecorded

end Opening

end HubReplication
