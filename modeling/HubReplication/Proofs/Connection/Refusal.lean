/-
**What a refusal tells a dialer.**

An acceptor that refuses a handshake says why, and the dialer makes a failure of its own of that.
The kind of this failure alone decides whether the dialer parks, and it comes a long way: the
failure of the acceptor becomes a reason, the reason a name in a frame, and the name a kind again.
A refusal that arrives parks the dialer exactly where waiting cannot mend it, and says what the
acceptor said.

A refusal that does not arrive says nothing.  The dialer then fails for want of an answer, over
which no dialer parks, whatever the acceptor found.  So a dialer that waits for less time than the
acceptor takes to load its database never hears why it is refused.

Main definitions:

* `Audience` — a handshake before an acceptor, until the acceptor decides about it;
* `Audience.Hopeless` — why waiting cannot mend a refusal;
* `Audience.Explains` — a failure of the dialer says what a refusal says;
* `Caller` — a dialer in a fleet that waits for its answer.

Main results:

* `Audience.refuses_iff` — when an acceptor refuses, and why;
* `Audience.isFatal_iff_hopeless` — which refusals park a dialer;
* `Audience.reaches_caller` — what a dialer makes of a refusal that arrives, and of one that does
  not;
* `Audience.not_explains_hasty` — a dialer that does not wait long enough is never told.
-/

import HubReplication.Proofs.Connection.Peers
import HubReplication.Proofs.Frame.Stream

set_option relaxedAutoImplicit false
set_option autoImplicit false

namespace HubReplication

/-! ### Reasons -/

/-- Of every reason a dialer makes a failure that it parks over or tries again after. -/
theorem RejectionReason.isRetriable_kind (reason : RejectionReason) :
    reason.kind.isRetriable = !reason.kind.isFatal := by
  cases reason <;> rfl

theorem RejectionReason.name_injective {a b : RejectionReason} (h : a.name = b.name) : a = b := by
  revert h
  cases a <;> cases b <;> decide

namespace Handshake

variable {h : Handshake} {record : DatabaseRecord} {now : Instant} {security : ServerSecurity}
  {r : Rejection}

theorem checkHosting_eq_ok_iff {node : NodeTag} {state : ClusterState} :
    h.checkHosting node state = .ok () ↔
      h.version = protocolVersion ∧ state.database? h.database ≠ none ∧
        state.hosts node h.database = true := by
  unfold checkHosting
  by_cases hversion : h.version = protocolVersion
  · cases hdatabase : state.database? h.database with
    | none => simp [hversion]
    | some record => cases hhosts : state.hosts node h.database <;> simp [hversion]
  · simp [hversion]

/-- A sink asks for a hub that is there, but switched off. -/
def FindsHubDisabled (h : Handshake) (record : DatabaseRecord) : Prop :=
  h.kind = .sink ∧ ∃ hub, record.hub? (h.hub.getD "") = some hub ∧ hub.disabled = true

theorem reason_of_presented {missing : String} (hr : h.presented missing = .error r) :
    r.reason = .unauthorized := by
  unfold presented at hr
  split at hr
  · cases hr
    rfl
  · split at hr
    · cases hr
      rfl
    · cases hr

theorem reason_of_checkFilter {hub : HubDefinition} {thumbprint : String} {grant : HubAccessGrant}
    (hr : h.checkFilter hub thumbprint grant = .error r) : r.reason = .unauthorized := by
  simp only [checkFilter] at hr
  repeat' split at hr
  all_goals cases hr
  all_goals rfl

/-- Whom its certificate does not let in lacks authorization. -/
theorem reason_of_authorizeHolder {hub : HubDefinition}
    (hr : h.authorizeHolder hub record now = .error r) : r.reason = .unauthorized := by
  unfold authorizeHolder at hr
  cases hpresented : h.presented ("hub '" ++ hub.name ++ "' requires a client certificate") with
  | error r' =>
      rw [hpresented] at hr
      cases hr
      exact reason_of_presented hpresented
  | ok certificate =>
      simp only [hpresented, bind, Except.bind] at hr
      split at hr
      · cases hr
        rfl
      · split at hr
        · cases hr
          rfl
        · split at hr
          · rename_i hfilter
            cases hr
            exact reason_of_checkFilter hfilter
          · cases hr

theorem reason_of_authorizeExternal (hr : h.authorizeExternal security now = .error r) :
    r.reason = .unauthorized := by
  unfold authorizeExternal at hr
  split at hr
  · cases hr
    rfl
  · unfold nodeThumbprint at hr
    simp only [bind, Except.bind] at hr
    split at hr
    · cases hr
    · cases hpresented : h.presented "external replication requires a node certificate" with
      | error r' =>
          rw [hpresented] at hr
          cases hr
          exact reason_of_presented hpresented
      | ok certificate =>
          simp only [hpresented] at hr
          split at hr
          · cases hr
            rfl
          · cases hr

/-- Who is not let in parks, unless the hub that it asked for is switched off. -/
theorem isFatal_of_authorize (hr : h.authorize security record now = .error r) :
    r.reason.kind.isFatal = true ↔ ¬h.FindsHubDisabled record := by
  have hunauthorized (hreason : r.reason = .unauthorized) (hnot : ¬h.FindsHubDisabled record) :
      r.reason.kind.isFatal = true ↔ ¬h.FindsHubDisabled record := by
    rw [hreason]
    exact iff_of_true rfl hnot
  cases hkind : h.kind with
  | external =>
      simp only [authorize, hkind] at hr
      refine hunauthorized (reason_of_authorizeExternal hr) fun hoff => ?_
      cases hkind.symm.trans hoff.1
  | sink =>
      simp only [authorize, hkind, authorizeSink] at hr
      split at hr
      · rename_i r' hrequested
        cases hr
        simp only [requestedHub] at hrequested
        split at hrequested
        · rename_i hnone
          cases hrequested
          refine iff_of_true rfl fun hoff => ?_
          obtain ⟨-, hub, hfound, -⟩ := hoff
          cases hnone.symm.trans hfound
        · rename_i hub hfound
          split at hrequested
          · rename_i hdisabled
            cases hrequested
            exact iff_of_false Bool.false_ne_true fun hnot => hnot ⟨hkind, hub, hfound, hdisabled⟩
          · rename_i henabled
            split at hrequested
            · cases hrequested
              refine iff_of_true rfl fun hoff => ?_
              obtain ⟨-, hub', hfound', hdisabled⟩ := hoff
              cases hfound.symm.trans hfound'
              exact henabled hdisabled
            · cases hrequested
      · rename_i hub hrequested
        obtain ⟨hfound, henabled, -⟩ := requestedHub_eq_ok_iff_found.1 hrequested
        split at hr
        · refine hunauthorized (reason_of_authorizeHolder hr) fun hoff => ?_
          obtain ⟨-, hub', hfound', hdisabled⟩ := hoff
          cases hfound.symm.trans hfound'
          cases henabled.symm.trans hdisabled
        · cases hr

end Handshake

/-! ### Refusals -/

/-- The frame that tells a peer of a refusal. -/
def Rejection.frame (r : Rejection) : Frame := .response (.rejected r.reason r.error.message)

/-- An acceptor refused the peer: its connection is over, it remembers the failure, and the last
that it logged is the reason. -/
structure AcceptorTurn.Refuses (t : AcceptorTurn) (r : Rejection) : Prop where
  ended : t.acceptor.phase = .over
  recorded : t.side.runtime.lastError = some r.error
  logged : t.side.site.entries.getLast? =
    some ⟨Acceptor.severity r.error, .handshakeRejected, some r.reason.name⟩

/-- An acceptor refuses for one reason. -/
theorem AcceptorTurn.Refuses.unique {t : AcceptorTurn} {r r' : Rejection} (h : t.Refuses r)
    (h' : t.Refuses r') : r = r' := by
  have herror := Option.some.inj (h.recorded.symm.trans h'.recorded)
  have hentry := Option.some.inj (h.logged.symm.trans h'.logged)
  have hreason := RejectionReason.name_injective
    (Option.some.inj (congrArg LogEntry.reason hentry))
  cases r
  cases r'
  cases herror
  cases hreason
  rfl

/-- An attempt at a candidate failed: the dialer remembers the failure, and parks over it or goes on
to the other candidates. -/
structure DialerTurn.FailsWith (t : DialerTurn) (rest : List ConnectionEndpoint)
    (e : ReplicationError) : Prop where
  recorded : t.side.runtime.lastError = some e
  phase : t.dialer.phase = if e.isFatal then .parked e else .trying rest

theorem Dialer.failsWith_failCandidate (d : Dialer) (side : LocalSide) (wall : Instant)
    (endpoint : ConnectionEndpoint) (rest : List ConnectionEndpoint) (e : ReplicationError) :
    (d.failCandidate side wall endpoint rest e).FailsWith rest e := by
  refine ⟨?_, failCandidate_phase ..⟩
  unfold failCandidate
  split
  · simp only [park]
    split <;> rfl
  · rfl

namespace Acceptor

variable {a : Acceptor} {side : LocalSide} {now : Nat} {wall : Instant} {state : ClusterState}
  {record : DatabaseRecord} {h : Handshake} {admission : Admission} {r : Rejection}

theorem refuses_refuse : (a.refuse side wall h r).Refuses r := by
  have hwrites (s : LocalSide) {n : Nat} {s' : LocalSide}
      (hs : s.write r.frame .off = .ok (n, s')) : s'.runtime = s.runtime ∧ s'.site = s.site := by
    obtain ⟨bytes, -, rfl⟩ := LocalSide.write_eq_ok hs
    exact ⟨rfl, rfl⟩
  refine ⟨refuse_phase .., ?_, ?_⟩
  · simp only [refuse]
    split
    · rename_i hwrite
      rw [(hwrites _ hwrite).1]
      rfl
    · rfl
  · simp only [refuse]
    split
    · rename_i hwrite
      rw [(hwrites _ hwrite).2]
      exact List.getLast?_concat
    · exact List.getLast?_concat

/-- A refusal that is short enough for a frame is written if the peer is there. -/
theorem sent_refuse {bytes : List UInt8} (hwrite : r.frame.write .off = .ok bytes)
    (hthere : side.reachable = true) (hnothing : side.sent = []) :
    (a.refuse side wall h r).side.sent = [⟨r.frame, bytes⟩] := by
  rw [Rejection.frame] at hwrite ⊢
  simp only [refuse, LocalSide.write, LocalSide.onRuntime, LocalSide.count, LocalSide.onFailures,
    LocalSide.log, LocalSide.onSite, hwrite, hthere, hnothing, if_true, List.nil_append]

theorem sent_refuse_of_gone (hgone : side.reachable = false) (hnothing : side.sent = []) :
    (a.refuse side wall h r).side.sent = [] := by
  simp only [refuse, LocalSide.write, LocalSide.onRuntime, LocalSide.count, LocalSide.onFailures,
    LocalSide.log, LocalSide.onSite, hgone, Bool.false_eq_true, if_false]
  cases (Frame.response (.rejected r.reason r.error.message)).write .off with
  | ok bytes => exact hnothing
  | error e => exact hnothing

theorem sent_refuse_of_long {e : ReplicationError} (hwrite : r.frame.write .off = .error e)
    (hnothing : side.sent = []) : (a.refuse side wall h r).side.sent = [] := by
  rw [Rejection.frame] at hwrite
  simp only [refuse, LocalSide.write, hwrite]
  exact hnothing

/-- Whom an acceptor lets in it does not refuse, even where it cannot say so. -/
theorem not_refuses_letIn :
    ¬(a.letIn side now state record h admission).Refuses r := by
  intro hrefuses
  have hevent := congrArg (Option.map LogEntry.event) hrefuses.logged
  simp only [letIn] at hevent
  split at hevent
  · rw [abandon, LocalSide.log, LocalSide.onSite, List.getLast?_concat] at hevent
    cases hevent
  · rw [LocalSide.log, LocalSide.onSite, List.getLast?_concat] at hevent
    cases hevent

end Acceptor

/-! ### Audiences -/

/-- What comes of loading a database for a peer. -/
inductive LoadOutcome where
  | loaded
  | failed (error : ReplicationError)
  | timedOut

/-- What an acceptor is told of a load. -/
def LoadOutcome.event : LoadOutcome → AcceptorEvent
  | .loaded => .loaded
  | .failed e => .unloadable e
  | .timedOut => .loadTimedOut

/-- What surrounds an acceptor when something happens to it. -/
structure Scene where
  moment : Moment
  store : Store
  state : ClusterState

/-- How an acceptor deals with what happens to it. -/
def Scene.tell (s : Scene) (a : Acceptor) (event : AcceptorEvent) : AcceptorTurn :=
  a.handle (s.moment.side s.store) s.moment.now s.moment.wall s.state event

/-- A handshake before an acceptor that waits for one, until the acceptor decides about it. -/
structure Audience where
  acceptor : Acceptor
  deadline : Nat
  waits : acceptor.phase = .greeting deadline
  handshake : Handshake
  /-- What surrounds the acceptor when the handshake comes. -/
  before : Scene
  load : LoadOutcome
  /-- What surrounds it when the load came to that. -/
  after : Scene

namespace Audience

variable {o : Audience} {r : Rejection}

/-- The acceptor takes up the handshake. -/
def greeted (o : Audience) : AcceptorTurn := o.before.tell o.acceptor (.greeted o.handshake)

/-- The acceptor decides, unless it did so before it had the database loaded. -/
def decided (o : Audience) : AcceptorTurn :=
  if o.greeted.acceptor.isOver then o.greeted else o.after.tell o.greeted.acceptor o.load.event

/-- Whether the peer is there when the acceptor decides. -/
def attended (o : Audience) : Bool :=
  if o.greeted.acceptor.isOver then o.before.moment.reachable else o.after.moment.reachable

/-- What goes to the peer. -/
def bytes (o : Audience) : List UInt8 := o.decided.side.sent.flatMap (·.bytes)

/-- The decision of the acceptor once the load came to something. -/
def ruling (o : Audience) : Except Rejection Admission :=
  match o.load with
  | .failed e => .error (.ofError (o.handshake.loadRejection e))
  | .timedOut =>
    .error (.ofError (o.handshake.loadTimeout o.acceptor.settings.databaseLoadTimeout))
  | .loaded =>
    match o.after.state.database? o.handshake.database with
    | none => .error (.ofError (.databaseMissing o.handshake.database))
    | some record => o.handshake.authorize o.acceptor.security record o.after.moment.wall

/-- The decision of the acceptor. -/
def verdict (o : Audience) : Except Rejection Admission :=
  match o.handshake.checkHosting o.acceptor.node o.before.state with
  | .error e => .error (.ofError e)
  | .ok () => o.ruling

/-- What an acceptor does when it decided. -/
inductive Follows (o : Audience) (t : AcceptorTurn) : Except Rejection Admission → Prop
  | refused {a : Acceptor} {side : LocalSide} {wall : Instant} {r : Rejection}
      (hturn : t = a.refuse side wall o.handshake r) (hnothing : side.sent = [])
      (hthere : side.reachable = o.attended) : Follows o t (.error r)
  | letIn {a : Acceptor} {side : LocalSide} {now : Nat} {state : ClusterState}
      {record : DatabaseRecord} {admission : Admission}
      (hturn : t = a.letIn side now state record o.handshake admission) : Follows o t (.ok admission)

theorem greeted_eq (o : Audience) : o.greeted =
    match o.handshake.checkHosting o.acceptor.node o.before.state with
    | .error e => o.acceptor.refuse
        ((o.before.moment.side o.before.store).onRuntime fun rt =>
          rt.tryTake .handshake o.before.moment.wall)
        o.before.moment.wall o.handshake (.ofError e)
    | .ok () =>
      ⟨{ o.acceptor with
          phase := .loading o.handshake
            (o.before.moment.now + o.acceptor.settings.databaseLoadTimeout) },
        (o.before.moment.side o.before.store).onRuntime fun rt =>
          rt.tryTake .handshake o.before.moment.wall⟩ := by
  cases hcheck : o.handshake.checkHosting o.acceptor.node o.before.state with
  | error e => simp only [greeted, Scene.tell, Acceptor.handle, o.waits, Acceptor.greet, hcheck]
  | ok => simp only [greeted, Scene.tell, Acceptor.handle, o.waits, Acceptor.greet, hcheck]

/-- An acceptor that speaks the version of the peer and hosts its database goes on to load it. -/
theorem isOver_greeted
    (hcheck : o.handshake.checkHosting o.acceptor.node o.before.state = .ok ()) :
    o.greeted.acceptor.isOver = false := by
  rw [greeted_eq, hcheck]
  rfl

theorem attended_eq (hcheck : o.handshake.checkHosting o.acceptor.node o.before.state = .ok ()) :
    o.attended = o.after.moment.reachable := by
  rw [attended, isOver_greeted hcheck, if_neg Bool.false_ne_true]

/-- The acceptor follows its decision. -/
theorem follows_verdict (o : Audience) : o.Follows o.decided o.verdict := by
  have hgreeted := o.greeted_eq
  unfold verdict
  cases hcheck : o.handshake.checkHosting o.acceptor.node o.before.state with
  | error e =>
      rw [hcheck] at hgreeted
      have hover : o.greeted.acceptor.isOver = true := by
        rw [hgreeted, Acceptor.isOver, Acceptor.refuse_phase]
      have hthere : o.attended = o.before.moment.reachable := by rw [attended, hover, if_pos rfl]
      rw [decided, hover, if_pos rfl]
      exact .refused hgreeted rfl hthere.symm
  | ok =>
      rw [hcheck] at hgreeted
      have hthere := attended_eq hcheck
      rw [decided, isOver_greeted hcheck, if_neg Bool.false_ne_true, hgreeted]
      cases hload : o.load with
      | failed e =>
          simp only [ruling, hload]
          exact .refused rfl rfl hthere.symm
      | timedOut =>
          simp only [ruling, hload]
          exact .refused rfl rfl hthere.symm
      | loaded =>
          simp only [ruling, hload, Scene.tell, LoadOutcome.event, Acceptor.handle, Acceptor.judge]
          cases o.after.state.database? o.handshake.database with
          | none => exact .refused rfl rfl hthere.symm
          | some record =>
              simp only
              cases o.handshake.authorize o.acceptor.security record o.after.moment.wall with
              | error r => exact .refused rfl rfl hthere.symm
              | ok admission => exact .letIn rfl

/-- An acceptor refuses exactly for what it decided. -/
theorem refuses_iff : o.decided.Refuses r ↔ o.verdict = .error r := by
  have hfollows := o.follows_verdict
  cases hverdict : o.verdict with
  | ok admission =>
      rw [hverdict] at hfollows
      cases hfollows with
      | letIn hturn =>
          rw [hturn]
          refine iff_of_false Acceptor.not_refuses_letIn fun h => by cases h
  | error r' =>
      rw [hverdict] at hfollows
      cases hfollows with
      | refused hturn =>
          have hrefuses : o.decided.Refuses r' := hturn ▸ Acceptor.refuses_refuse
          constructor
          · intro h
            rw [h.unique hrefuses]
          · intro h
            cases h
            exact hrefuses

/-- A refusal can be told: the peer is there when the acceptor decides, and what the refusal says is
short enough for a frame. -/
def CanTell (o : Audience) (r : Rejection) : Prop :=
  o.attended = true ∧ r.frame.toJson.compact.utf8ByteSize ≤ Wire.maxBytes

/-- What goes to the peer of a refusal. -/
theorem bytes_of_refuses (h : o.decided.Refuses r) :
    (o.CanTell r → r.frame.write .off = .ok o.bytes) ∧ (¬o.CanTell r → o.bytes = []) := by
  have hfollows := o.follows_verdict
  rw [refuses_iff.1 h] at hfollows
  cases hfollows with
  | @refused a side wall _ hturn hnothing hthere =>
      have hoff : FrameCompression.off.enabled = false := rfl
      rw [CanTell, ← Frame.exists_write_iff hoff, ← hthere, bytes, hturn]
      cases hwrite : r.frame.write .off with
      | error e =>
          rw [Acceptor.sent_refuse_of_long hwrite hnothing]
          simp
      | ok bytes =>
          cases hreachable : side.reachable with
          | true =>
              rw [Acceptor.sent_refuse hwrite hreachable hnothing]
              simp
          | false =>
              rw [Acceptor.sent_refuse_of_gone hreachable hnothing]
              simp

/-! ### What waiting cannot mend -/

/-- Why waiting cannot mend a refusal: the versions differ, the database is not there when the
acceptor looks for it, its load found it missing, or the peer lacks authorization, for another
reason than that the hub is switched off. -/
inductive Hopeless (o : Audience) : Prop
  | version (h : o.handshake.version ≠ protocolVersion)
  | unknown (h : o.before.state.database? o.handshake.database = none)
  | missing {e : ReplicationError}
      (hosted : o.before.state.hosts o.acceptor.node o.handshake.database = true)
      (hload : o.load = .failed e) (h : e.kind = .databaseMissing)
  | dropped (hosted : o.before.state.hosts o.acceptor.node o.handshake.database = true)
      (hload : o.load = .loaded) (h : o.after.state.database? o.handshake.database = none)
  | unauthorized {record : DatabaseRecord} {r : Rejection}
      (hosted : o.before.state.hosts o.acceptor.node o.handshake.database = true)
      (hload : o.load = .loaded)
      (hrecord : o.after.state.database? o.handshake.database = some record)
      (h : o.handshake.authorize o.acceptor.security record o.after.moment.wall = .error r)
      (hon : ¬o.handshake.FindsHubDisabled record)

/-- A peer that is refused at once parks, unless another node may have its database. -/
theorem isFatal_of_checkHosting {e : ReplicationError}
    (h : o.handshake.checkHosting o.acceptor.node o.before.state = .error e) :
    (RejectionReason.ofError e).kind.isFatal = true ↔ o.Hopeless := by
  unfold Handshake.checkHosting at h
  split at h
  · rename_i hversion
    cases h
    exact iff_of_true rfl (.version hversion)
  · rename_i hversion
    split at h
    · rename_i hnone
      cases h
      exact iff_of_true rfl (.unknown (Option.isNone_iff_eq_none.1 hnone))
    · rename_i hsome
      split at h
      · rename_i hhosts
        cases h
        refine iff_of_false Bool.false_ne_true fun hopeless => ?_
        cases hopeless with
        | version h => exact hversion h
        | unknown h => exact hsome (Option.isNone_iff_eq_none.2 h)
        | missing hosted | dropped hosted | unauthorized hosted =>
            rw [hosted] at hhosts
            cases hhosts
      · cases h

/-- Past the first look only the load and what comes after it can be hopeless. -/
theorem Hopeless.of_hosted (h : o.Hopeless)
    (hcheck : o.handshake.checkHosting o.acceptor.node o.before.state = .ok ()) :
    (∃ e, o.load = .failed e ∧ e.kind = .databaseMissing) ∨
      o.load = .loaded ∧ ∀ record, o.after.state.database? o.handshake.database = some record →
        ¬o.handshake.FindsHubDisabled record := by
  obtain ⟨hversion, hknown, -⟩ := Handshake.checkHosting_eq_ok_iff.1 hcheck
  cases h with
  | version h => exact absurd hversion h
  | unknown h => exact absurd h hknown
  | missing _ hload hmissing => exact .inl ⟨_, hload, hmissing⟩
  | dropped _ hload hnone =>
      refine .inr ⟨hload, fun record hrecord => ?_⟩
      cases hnone.symm.trans hrecord
  | unauthorized _ hload hrecord _ hon =>
      refine .inr ⟨hload, fun record' hrecord' => ?_⟩
      cases hrecord.symm.trans hrecord'
      exact hon

/-- A peer that is refused after the load parks where the database is missing, or where it lacks
authorization for another reason than that the hub is switched off. -/
theorem isFatal_of_ruling
    (hcheck : o.handshake.checkHosting o.acceptor.node o.before.state = .ok ())
    (h : o.ruling = .error r) : r.reason.kind.isFatal = true ↔ o.Hopeless := by
  obtain ⟨-, -, hosted⟩ := Handshake.checkHosting_eq_ok_iff.1 hcheck
  unfold ruling at h
  cases hload : o.load with
  | failed e =>
      simp only [hload, Handshake.loadRejection] at h
      split at h
      · rename_i hmissing
        cases h
        refine iff_of_true ?_ (.missing hosted hload hmissing)
        rw [Rejection.ofError, RejectionReason.ofError, hmissing]
        rfl
      · rename_i hother
        cases h
        refine iff_of_false Bool.false_ne_true fun hopeless => ?_
        rcases hopeless.of_hosted hcheck with ⟨e', hload', hmissing⟩ | ⟨hloaded, -⟩
        · cases hload.symm.trans hload'
          exact hother hmissing
        · cases hload.symm.trans hloaded
  | timedOut =>
      simp only [hload] at h
      cases h
      refine iff_of_false Bool.false_ne_true fun hopeless => ?_
      rcases hopeless.of_hosted hcheck with ⟨e', hload', -⟩ | ⟨hloaded, -⟩
      · cases hload.symm.trans hload'
      · cases hload.symm.trans hloaded
  | loaded =>
      simp only [hload] at h
      split at h
      · rename_i hnone
        cases h
        exact iff_of_true rfl (.dropped hosted hload hnone)
      · rename_i record hrecord
        rw [Handshake.isFatal_of_authorize h]
        constructor
        · intro hon
          exact .unauthorized hosted hload hrecord h hon
        · intro hopeless
          rcases hopeless.of_hosted hcheck with ⟨e', hload', -⟩ | ⟨-, hon⟩
          · cases hload.symm.trans hload'
          · exact hon record hrecord

/-- **A refusal parks a dialer exactly where waiting cannot mend it.** -/
theorem isFatal_iff_hopeless (h : o.verdict = .error r) :
    r.reason.kind.isFatal = true ↔ o.Hopeless := by
  unfold verdict at h
  cases hcheck : o.handshake.checkHosting o.acceptor.node o.before.state with
  | error e =>
      rw [hcheck] at h
      cases h
      exact isFatal_of_checkHosting hcheck
  | ok =>
      rw [hcheck] at h
      exact isFatal_of_ruling hcheck h

/-- A failure says what a refusal says, and parks a dialer exactly where waiting cannot mend it. -/
structure Explains (o : Audience) (r : Rejection) (e : ReplicationError) : Prop where
  message : e.message = r.error.message
  fatal : e.isFatal = true ↔ o.Hopeless
  retriable : e.isRetriable = true ↔ ¬o.Hopeless

/-- What a dialer makes of a refusal explains it. -/
theorem explains_toError (h : o.decided.Refuses r) :
    o.Explains r (r.reason.toError r.error.message) := by
  have hfatal := isFatal_iff_hopeless (refuses_iff.1 h)
  refine ⟨rfl, hfatal, ?_⟩
  change r.reason.kind.isRetriable = true ↔ _
  rw [RejectionReason.isRetriable_kind, Bool.not_eq_true', ← Bool.not_eq_true, hfatal]

end Audience

/-! ### Callers -/

/-- A dialer in a fleet that waits for the answer to its handshake. -/
structure Caller where
  process : DialerProcess
  endpoint : ConnectionEndpoint
  rest : List ConnectionEndpoint
  line : LineEnd
  deadline : Nat
  waits : process.dialer.phase = .greeting endpoint rest line deadline

namespace Caller

variable {w : Caller} {f : Fleet} {store : Store} {response : Outcome HandshakeResponse}

/-- What came of the answer so far. -/
def heard (w : Caller) (f : Fleet) : List UInt8 := (f.network.available w.line).bytes

/-- The attempt fails when something happens to the dialer. -/
def FailsOn (w : Caller) (event : DialerEvent) (e : ReplicationError) : Prop :=
  ∀ (side : LocalSide) (now : Nat) (wall : Instant),
    (w.process.dialer.handle side now wall event).FailsWith w.rest e

/-- A dialer that is not cancelled waits for the answer and for nothing else. -/
theorem dialerEvent?_eq (hlistens : f.isDialerCancelled w.process = false) :
    f.dialerEvent? w.process store =
      (f.response? w.endpoint w.deadline (f.receive w.line)).map fun response =>
        (.answered response, f.afterReading w.line (f.receive w.line)) := by
  simp only [Fleet.dialerEvent?, hlistens, w.waits, Bool.false_eq_true, if_false]

theorem failsOn_error (w : Caller) (e : ReplicationError) :
    w.FailsOn (.answered (.error e)) e := by
  intro side now wall
  simp only [Dialer.handle, w.waits, Dialer.answer]
  exact Dialer.failsWith_failCandidate ..

theorem failsOn_rejected (w : Caller) (reason : RejectionReason) (message : String) :
    w.FailsOn (.answered (.ok (.rejected reason message))) (reason.toError message) := by
  intro side now wall
  simp only [Dialer.handle, w.waits, Dialer.answer]
  exact Dialer.failsWith_failCandidate ..

end Caller

/-- No frame came: it is not there yet, or the connection ended or broke before it was. -/
inductive Received.Wanting : Received → Prop
  | pending : Wanting .pending
  | ended : Wanting .ended
  | broken {e : ReplicationError} (h : e.kind = .transient) : Wanting (.failed e [])

theorem Received.wanting_cutAfter (n : Nat) : (cutAfter n).Wanting := by
  rcases cutAfter_cases n with hended | ⟨e, hkind, hfailed⟩
  · exact hended ▸ .ended
  · exact hfailed ▸ .broken hkind

/-- As long as no frame comes, a dialer that waits for an answer at most fails for want of one. -/
theorem Fleet.response?_of_wanting {f : Fleet} {endpoint : ConnectionEndpoint} {deadline : Nat}
    {received : Received} (hwanting : received.Wanting) {response : Outcome HandshakeResponse}
    (h : f.response? endpoint deadline received = some response) :
    ∃ e, response = .error e ∧ e.kind = .transient := by
  cases hwanting with
  | pending =>
      simp only [response?] at h
      split at h <;> cases h
      exact ⟨_, rfl, rfl⟩
  | ended =>
      cases h
      exact ⟨_, rfl, rfl⟩
  | broken hkind =>
      cases h
      exact ⟨_, rfl, hkind⟩

namespace Audience

open Handshake (filteredFeed)

variable {o : Audience} {r : Rejection} {f : Fleet} {w : Caller}

/-- A refusal that came as a whole is read. -/
theorem receive_of_heard (h : o.decided.Refuses r) (hcan : o.CanTell r)
    (hheard : w.heard f = o.bytes) : f.receive w.line = .frame r.frame [] := by
  have hfits : (Wire.bodyBytes r.frame).length ≤ Wire.maxBytes := by
    rw [Wire.length_bodyBytes]
    exact hcan.2
  have hread := BodyCodec.read_write BodyCodec.stored_lawful (Frame.readsBack_rejected ..) hfits
    ((bytes_of_refuses h).1 hcan) [] (f.network.available w.line).closed
  rwa [List.append_nil, ← hheard] at hread

/-- Of a refusal that did not come as a whole nothing is read. -/
theorem wanting_of_not_heard (h : o.decided.Refuses r) (hpart : w.heard f <+: o.bytes)
    (hnot : o.CanTell r → w.heard f ≠ o.bytes) : (f.receive w.line).Wanting := by
  change (Frame.read (w.heard f) (f.network.available w.line).closed).Wanting
  by_cases hcan : o.CanTell r
  · obtain ⟨n, hn⟩ : ∃ n, w.heard f = o.bytes.take n := ⟨_, List.prefix_iff_eq_take.1 hpart⟩
    have hshort : n < o.bytes.length := by
      apply Nat.lt_of_not_le
      intro hle
      rw [List.take_of_length_le hle] at hn
      exact hnot hcan hn
    rw [hn, Frame.read, BodyCodec.read_take ((bytes_of_refuses h).1 hcan) hshort]
    split
    · exact Received.wanting_cutAfter n
    · exact .pending
  · rw [(bytes_of_refuses h).2 hcan, List.prefix_nil] at hpart
    rw [hpart]
    cases (f.network.available w.line).closed with
    | true => exact .ended
    | false => exact .pending

/-- **A refusal that arrives explains itself, and one that does not parks nobody.**  A dialer that
waits for its answer, and is not cancelled, takes up a refusal that came as a whole, and fails with
what explains it.  Where the refusal cannot be told, or did not come as a whole, whatever the dialer
has to deal with is a failure that may pass. -/
theorem reaches_caller (h : o.decided.Refuses r) (store : Store)
    (hlistens : f.isDialerCancelled w.process = false) (hpart : w.heard f <+: o.bytes) :
    (o.CanTell r → w.heard f = o.bytes → ∃ event network e,
      f.dialerEvent? w.process store = some (event, network) ∧ w.FailsOn event e ∧
        o.Explains r e) ∧
    ((o.CanTell r → w.heard f ≠ o.bytes) → ∀ event network,
      f.dialerEvent? w.process store = some (event, network) →
        ∃ e, w.FailsOn event e ∧ e.kind = .transient) := by
  constructor
  · intro hcan hheard
    have hevent : f.dialerEvent? w.process store =
        some (.answered (.ok (.rejected r.reason r.error.message)),
          f.afterReading w.line (.frame r.frame [])) := by
      rw [Caller.dialerEvent?_eq hlistens, receive_of_heard h hcan hheard]
      rfl
    exact ⟨_, _, _, hevent, w.failsOn_rejected r.reason r.error.message, explains_toError h⟩
  · intro hnot event network hevent
    rw [Caller.dialerEvent?_eq hlistens] at hevent
    obtain ⟨response, hresponse, heq⟩ := Option.map_eq_some_iff.1 hevent
    cases heq
    obtain ⟨e, rfl, hkind⟩ :=
      Fleet.response?_of_wanting (wanting_of_not_heard h hpart hnot) hresponse
    exact ⟨e, w.failsOn_error e, hkind⟩

/-- The handshake of a node that pushes to the orders, whose load takes too long; by then the node
may be gone. -/
def stalled (there : Bool) : Audience where
  acceptor := ⟨⟨"A"⟩, .unsecured, .fast, "B", .greeting 1000⟩
  deadline := 1000
  waits := rfl
  handshake := mirrorHandshake
  before := ⟨.calm default .nothing, .empty "orders-id", .replay filteredFeed⟩
  load := .timedOut
  after :=
    ⟨{ Moment.calm default .nothing with now := 500, reachable := there }, .empty "orders-id",
      .replay filteredFeed⟩

/-- Why it is refused. -/
def stalledRejection : Rejection := .ofError (mirrorHandshake.loadTimeout 500)

theorem checkHosting_stalled :
    mirrorHandshake.checkHosting ⟨"A"⟩ (.replay filteredFeed) = .ok () :=
  Handshake.checkHosting_eq_ok_iff.2 ⟨rfl, by decide +kernel, by decide +kernel⟩

theorem refuses_stalled (there : Bool) : (stalled there).decided.Refuses stalledRejection := by
  refine refuses_iff.2 ?_
  have hcheck : (stalled there).handshake.checkHosting (stalled there).acceptor.node
      (stalled there).before.state = .ok () := checkHosting_stalled
  rw [verdict, hcheck]
  rfl

/-- The node waits for its answer until some time. -/
def mirrorCaller (deadline : Nat) : Caller where
  process :=
    ⟨0, 0, ⟨mirrorAssignment, [], none, 0, .greeting ⟨"mem://a", "orders", none⟩ [] ⟨0, .dialer⟩
      deadline⟩, .initial, false, []⟩
  endpoint := ⟨"mem://a", "orders", none⟩
  rest := []
  line := ⟨0, .dialer⟩
  deadline := deadline
  waits := rfl

/-- Its fleet at some time, when so much of the answer came. -/
def mirrorFleet (clock : Nat) (bytes : List UInt8) : Fleet :=
  { Fleet.empty default with
    clock
    network := { Network.empty with lines := .ofList [(0, ⟨{ Pipe.fresh with bytes }, .fresh⟩)] }
    members := .ofList
      [(0, ⟨(Node.new ⟨"B"⟩ .unsecured .default).install "copy" 0, 0, [], false⟩)]
    next := 1 }

/-- A node that waits long enough hears why it is refused, and tries again. -/
theorem reaches_caller_stalled :
    (stalled true).decided.Refuses stalledRejection ∧
    ∃ event network e, (mirrorFleet 501 (stalled true).bytes).dialerEvent?
        (mirrorCaller 1000).process (.empty "copy-id") = some (event, network) ∧
      (mirrorCaller 1000).FailsOn event e ∧ e.isRetriable = true ∧
      e.message = "database 'orders' did not load within 500ms" := by
  have hcan : (stalled true).CanTell stalledRejection :=
    ⟨attended_eq checkHosting_stalled,
      Nat.le_trans (Json.utf8ByteSize_compact_le _) (by decide +kernel)⟩
  have hlistens : (mirrorFleet 501 (stalled true).bytes).isDialerCancelled
      (mirrorCaller 1000).process = false := rfl
  have hheard : (mirrorCaller 1000).heard (mirrorFleet 501 (stalled true).bytes) <+:
      (stalled true).bytes := List.prefix_refl _
  obtain ⟨event, network, e, hevent, hfails, hexplains⟩ :=
    (reaches_caller (refuses_stalled true) (.empty "copy-id") hlistens hheard).1 hcan rfl
  have hpasses : ¬(stalled true).Hopeless := fun hopeless =>
    absurd ((isFatal_iff_hopeless (refuses_iff.1 (refuses_stalled true))).2 hopeless) (by decide)
  refine ⟨refuses_stalled true, event, network, e, hevent, hfails, hexplains.retriable.2 hpasses,
    ?_⟩
  rw [hexplains.message]
  decide

/-- A node that waits for less time than the load takes never hears why it is refused. -/
theorem not_explains_hasty :
    ¬∀ (o : Audience) (r : Rejection) (w : Caller) (f : Fleet) (store : Store) (event : DialerEvent)
      (network : Network) (e : ReplicationError), o.decided.Refuses r →
        w.process.dialer.assignment.handshake w.endpoint store.databaseId = .ok o.handshake →
          f.isDialerCancelled w.process = false → w.heard f <+: o.bytes →
            f.dialerEvent? w.process store = some (event, network) → w.FailsOn event e →
              o.Explains r e := by
  intro hall
  have hevent : (mirrorFleet 100 []).dialerEvent? (mirrorCaller 100).process (.empty "copy-id") =
      some (.answered (.error (.transient "handshake with mem://a timed out")),
        (mirrorFleet 100 []).network) := rfl
  have hexplains := hall (stalled false) stalledRejection (mirrorCaller 100) (mirrorFleet 100 [])
    (.empty "copy-id") _ _ _ (refuses_stalled false) rfl rfl (List.nil_prefix) hevent
    ((mirrorCaller 100).failsOn_error _)
  have hmessage : "handshake with mem://a timed out" ≠ stalledRejection.error.message := by decide
  exact hmessage hexplains.message

end Audience

end HubReplication
