/-
**What the sides of a connection may hear.**

What a session expects of its peer was computed on either side from the handshake: batches only
within its own plan, and an acknowledgement only of the batch that it is owed one for.  What is on
its way to settle what is owed is the acknowledgements that come and the batches that go.

A turn of a session keeps to what both sides may hear, as long as the terms of the two meet: what
one sends is within what the other takes.  So whatever comes is no offence, and the session is over
only for a reason that is nobody's fault, or at the limits of a frame: what it has to say is too
long, or a batch or an acknowledgement that came cannot be read back.  A batch may nest deeper than
a reader goes, and both hold change vectors, which not every id in them lets be read back.  Any
other frame that is on its way is read back, whatever it says.

Main definitions:

* `Moment.Intact`, `Frame.Unreadable` — what is read is what was written;
* `Heard` — what a side may hear, given what it is owed;
* `SessionTerms.Meets` — one side sends within what the other takes;
* `Session.Continues`, `Session.Limited`, `Session.Departs` — what a turn of an honest session may
  come to.

Main results:

* `Frame.not_unreadable` — a frame that reads back is never unreadable;
* `Frame.holdsVectors_of_unreadable` — what may come and cannot be read holds change vectors;
* `Heard.own_turn`, `Heard.peer_turn` — a turn keeps to what either side may hear;
* `Session.turn_honest` — an honest session goes on so, or departs so, or leaves the calendar.
-/

import HubReplication.Proofs.Connection.Bounds
import HubReplication.Proofs.Frame.Response
import HubReplication.Proofs.Frame.Stream
import HubReplication.Proofs.Session.Endings

set_option relaxedAutoImplicit false
set_option autoImplicit false

namespace HubReplication

/-! ### What is read -/

/-- A frame can be written, but what was written cannot be read. -/
def Frame.Unreadable (f : Frame) (e : ReplicationError) : Prop :=
  ∃ compression bytes rest, f.write compression = .ok bytes ∧
    Frame.read bytes false = .failed e rest

/-- The etag that a frame says to send from is a word of 64 bits. -/
def Frame.WordSized : Frame → Prop
  | .response (.accepted a) => a.lastAcceptedEtag < UInt64.size
  | .resume etag => etag < UInt64.size
  | _ => True

/-- What is read is what was written.  Reading fails only where the connection is lost, or over the
next frame on its way, if that cannot be read. -/
def Moment.Intact (m : Moment) (coming : List Frame) : Prop :=
  ∀ e, m.arrival = .broken e →
    e.kind = .transient ∨ ∃ f rest, coming = f :: rest ∧ f.WordSized ∧ f.Unreadable e

namespace Frame

variable {f : Frame} {e : ReplicationError}

/-- A frame whose body is stored is written only if its text is within the limit. -/
theorem length_bodyBytes_of_write {compression : FrameCompression} {bytes : List UInt8}
    (h : f.write compression = .ok bytes) : (Wire.bodyBytes f).length ≤ Wire.maxBytes := by
  obtain ⟨hfits, -⟩ := BodyCodec.write_eq_ok h
  cases happlies : compression.applies (Wire.bodyBytes f).length with
  | true =>
      simp only [BodyCodec.encode, happlies, if_true] at hfits
      exact (Deflate.length_le_length_store _).trans hfits
  | false => simpa only [BodyCodec.encode, happlies, Bool.false_eq_true, if_false] using hfits

/-- A frame that reads back is never unreadable. -/
theorem not_unreadable (h : f.ReadsBack) : ¬f.Unreadable e := by
  rintro ⟨compression, bytes, rest, hwrite, hfailed⟩
  have hread := BodyCodec.read_write BodyCodec.stored_lawful h (length_bodyBytes_of_write hwrite)
    hwrite [] false
  rw [List.append_nil] at hread
  cases hfailed.symm.trans hread

theorem not_unreadable_response {response : HandshakeResponse}
    (h : (Frame.response response).WordSized) : ¬(Frame.response response).Unreadable e :=
  match response with
  | .accepted _ => not_unreadable (readsBack_accepted h)
  | .rejected reason message => not_unreadable (readsBack_rejected reason message)

theorem not_unreadable_resume {etag : Nat} (h : (Frame.resume etag).WordSized) :
    ¬(Frame.resume etag).Unreadable e :=
  not_unreadable (readsBack_resume h)

end Frame

/-- A session only fails to read what its line broke over. -/
theorem broken_of_next?_unreadable {s : Session} {now announcements : Nat} {cancelled : Bool}
    {delivery : Delivery} {arrival : Arrival} {coming : List Frame} {e : ReplicationError}
    (h : s.next? now cancelled announcements delivery (arrival.received coming) =
      some (.unreadable e)) : arrival = .broken e := by
  obtain ⟨bytes, hreceived⟩ := Session.received_of_next?_unreadable h
  unfold Arrival.received at hreceived
  split at hreceived <;> cases hreceived
  rfl

/-- A turn that a session takes is how it deals with an event. -/
theorem Moment.handle_of_turn {m : Moment} {s : Session} {store : Store} {coming : List Frame}
    {event : SessionEvent} {t : SessionTurn} (h : m.turn s store coming = some (event, t)) :
    s.handle (m.side store) m.now m.wall event = t := by
  obtain ⟨event, -, heq⟩ := Option.map_eq_some_iff.1 h
  cases heq
  rfl

/-! ### What a side may hear -/

theorem leaves_sublist {α : Type} (event : SessionEvent) (coming : List α) :
    (event.leaves coming).Sublist coming := by
  unfold SessionEvent.leaves
  split
  · exact List.tail_sublist coming
  · exact List.Sublist.refl _

/-- Whether a frame has its place while a side streams that takes what a plan says. -/
def Frame.Fits (own : Option InboundPlan) : Frame → Prop
  | .heartbeat | .close _ | .ack _ => True
  | .batch b => ∃ plan, own = some plan ∧
      ∀ item ∈ b.items, PathFilter.allows plan.allowedPaths item.id = true
  | .handshake _ | .response _ | .resume _ => False

theorem Frame.fits_of_control {own : Option InboundPlan} {f : Frame} (h : f.isControl = true) :
    f.Fits own := by
  cases f with
  | heartbeat | close => trivial
  | handshake | response | resume | batch | ack => cases h

/-- Whether a frame holds change vectors. -/
def Frame.HoldsVectors : Frame → Prop
  | .batch _ | .ack _ => True
  | _ => False

/-- What may come to a side that streams and cannot be read holds change vectors. -/
theorem Frame.holdsVectors_of_unreadable {own : Option InboundPlan} {f : Frame}
    {e : ReplicationError} (hfits : f.Fits own) (h : f.Unreadable e) : f.HoldsVectors := by
  cases f with
  | batch | ack => trivial
  | heartbeat => exact absurd h (not_unreadable readsBack_heartbeat)
  | close reason => exact absurd h (not_unreadable (readsBack_close reason))
  | handshake | response | resume => exact hfits.elim

/-- What is on its way to settle what a side is owed: the acknowledgements that come, and the
batches that go. -/
def dueOf (incoming outgoing : List Frame) : List Nat :=
  (acksOf incoming).map (·.lastEtag) ++ (batchesOf outgoing).map (·.lastEtag)

/-- What a side may hear that takes what a plan says and is owed something. -/
structure Heard (own : Option InboundPlan) (owed : List Nat) (incoming outgoing : List Frame) :
    Prop where
  fits : ∀ f ∈ incoming, f.Fits own
  due : (dueOf incoming outgoing).Sublist owed

/-- The terms of a session take what one plan says, and send what the other takes. -/
structure SessionTerms.Meets (terms : SessionTerms) (own other : Option InboundPlan) : Prop where
  inbound : terms.inbound = own
  outbound : ∀ {plan}, terms.outbound = some plan → ∃ plan', other = some plan' ∧
    ∀ id, PathFilter.allows plan.allowedPaths id = true →
      PathFilter.allows plan'.allowedPaths id = true

namespace Heard

variable {own other : Option InboundPlan} {owed : List Nat} {incoming outgoing said : List Frame}

/-- Where nothing is on its way, nothing is heard. -/
theorem nil (own : Option InboundPlan) (owed : List Nat) : Heard own owed [] [] :=
  ⟨by simp, List.nil_sublist _⟩

theorem of_outgoing (h : Heard own owed incoming outgoing) {outgoing' : List Frame}
    (hsub : (batchesOf outgoing').Sublist (batchesOf outgoing)) :
    Heard own owed incoming outgoing' :=
  ⟨h.fits, .trans (.append (.refl _) (hsub.map _)) h.due⟩

section Turn

variable {s : Session} {event : SessionEvent} {owed' : List Nat}

/-- What comes to a session that may hear it is no offence. -/
theorem not_offends {f : Frame} {rest : List Frame} (hwriting : s.writing = none)
    (h : Heard s.terms.inbound s.owed (f :: rest) outgoing) : ¬s.Offends f := by
  have hfits := h.fits f List.mem_cons_self
  cases f with
  | heartbeat | close => exact id
  | handshake | response | resume => exact hfits.elim
  | ack ack =>
      have hdue := h.due
      simp only [dueOf, acksOf, List.filterMap_cons, Frame.ack?, List.map_cons, List.cons_append]
        at hdue
      rw [Session.owed_of_not_writing hwriting] at hdue
      cases hflight : s.inFlight with
      | none =>
          rw [hflight] at hdue
          cases hdue
      | some etag =>
          rw [hflight] at hdue
          have hetag := List.mem_singleton.1 (hdue.subset List.mem_cons_self)
          exact fun hne => hne (by rw [hflight, hetag])
  | batch batch =>
      obtain ⟨plan, hplan, hallowed⟩ := hfits
      rintro ⟨e, hcheck⟩
      simp only [Session.checkBatch, hplan] at hcheck
      split at hcheck
      · rename_i item hitem
        have hrefused := List.find?_some hitem
        simp [hallowed item (List.mem_of_find?_eq_some hitem)] at hrefused
      · cases hcheck

/-- A turn keeps to what its own side may hear. -/
theorem own_turn (h : Heard own s.owed incoming outgoing) (htalk : s.Talk event owed' said)
    (harrived : ∀ f, event = .arrived f → ∃ rest, incoming = f :: rest) :
    Heard own owed' (event.leaves incoming) (outgoing ++ said) := by
  refine ⟨fun f hf => h.fits f (Exchange.mem_of_mem_leaves hf), ?_⟩
  have hleft : ((acksOf (event.leaves incoming)).map (·.lastEtag)).Sublist
      ((acksOf incoming).map (·.lastEtag)) := ((leaves_sublist event incoming).filterMap _).map _
  have hdue := h.due
  simp only [dueOf, batchesOf_append, List.map_append] at hdue ⊢
  cases htalk with
  | quiet hsaid =>
      rw [batchesOf_eq_nil_of_control hsaid, List.map_nil, List.append_nil]
      exact (hleft.append (.refl _)).trans hdue
  | sent batch howed =>
      -- Nothing was owed, so nothing was on its way.
      rw [howed, List.sublist_nil, List.append_eq_nil_iff] at hdue
      rw [hdue.1, List.sublist_nil] at hleft
      rw [hleft, hdue.2]
      exact List.Sublist.refl _
  | settled hevent howed hsaid =>
      -- What came was all that was on its way.
      obtain ⟨rest, rfl⟩ := harrived _ hevent
      subst hevent
      rw [batchesOf_eq_nil_of_control hsaid, List.map_nil, List.append_nil]
      rw [howed] at hdue
      exact List.cons_sublist_cons.1 hdue
  | answered hevent =>
      rw [show batchesOf [Frame.ack _] = [] from rfl, List.map_nil, List.append_nil]
      exact (hleft.append (.refl _)).trans hdue

/-- A turn keeps to what the other side may hear. -/
theorem peer_turn (h : Heard other owed outgoing incoming) (htalk : s.Talk event owed' said)
    (harrived : ∀ f, event = .arrived f → ∃ rest, incoming = f :: rest)
    (hfits : ∀ batch, .batch batch ∈ said → (Frame.batch batch).Fits other) :
    Heard other owed (outgoing ++ said) (event.leaves incoming) := by
  have hleft : ((batchesOf (event.leaves incoming)).map (·.lastEtag)).Sublist
      ((batchesOf incoming).map (·.lastEtag)) :=
    ((leaves_sublist event incoming).filterMap _).map _
  have hdue := h.due
  simp only [dueOf] at hdue
  have hcontrol : ∀ {frames : List Frame}, (∀ f ∈ frames, f.isControl = true) →
      Heard other owed (outgoing ++ frames) (event.leaves incoming) := by
    intro frames hframes
    refine ⟨fun f hf => ?_, ?_⟩
    · rcases List.mem_append.1 hf with hf | hf
      · exact h.fits f hf
      · exact Frame.fits_of_control (hframes f hf)
    · simp only [dueOf, acksOf_append, acksOf_eq_nil_of_control hframes, List.append_nil]
      exact ((List.Sublist.refl _).append hleft).trans hdue
  cases htalk with
  | quiet hsaid => exact hcontrol hsaid
  | settled _ _ hsaid => exact hcontrol hsaid
  | sent batch howed =>
      refine ⟨fun f hf => ?_, ?_⟩
      · rcases List.mem_append.1 hf with hf | hf
        · exact h.fits f hf
        · exact List.mem_singleton.1 hf ▸ hfits _ (List.mem_singleton_self _)
      · simp only [dueOf, acksOf_append, List.map_append]
        rw [show acksOf [Frame.batch _] = [] from rfl, List.map_nil, List.append_nil]
        exact ((List.Sublist.refl _).append hleft).trans hdue
  | answered hevent =>
      -- The batch is on its way no more, and its acknowledgement is.
      obtain ⟨rest, rfl⟩ := harrived _ hevent
      subst hevent
      refine ⟨fun f hf => ?_, ?_⟩
      · rcases List.mem_append.1 hf with hf | hf
        · exact h.fits f hf
        · rw [List.mem_singleton.1 hf]
          trivial
      · simpa [dueOf, acksOf_append, acksOf, batchesOf, Frame.ack?, Frame.batch?,
          SessionEvent.leaves] using hdue

end Turn

end Heard

/-! ### Turns of sessions -/

namespace Session

/-- A session meets a limit of frames. -/
inductive Limited (s : Session) (coming : List Frame) (event : SessionEvent)
    (e : ReplicationError) : Prop
  /-- What it has to say is longer than a frame can be. -/
  | oversize (h : s.Oversize event e)
  /-- A batch or an acknowledgement of the peer cannot be read back. -/
  | unreadable {f : Frame} {rest : List Frame} (hcoming : coming = f :: rest)
      (hholds : f.HoldsVectors) (h : f.Unreadable e) (hevent : event = .unreadable e)

/-- Why a session between honest peers is over: nobody is at fault, or a limit of frames is met. -/
inductive Departs (s : Session) (coming : List Frame) (event : SessionEvent) : Outcome Unit → Prop
  | parted {r : Outcome Unit} (h : s.Parting event r) : Departs s coming event r
  | limited {e : ReplicationError} (h : s.Limited coming event e) :
      Departs s coming event (.error e)

variable {s : Session} {own other : Option InboundPlan} {incoming outgoing : List Frame}
  {m : Moment} {store : Store} {event : SessionEvent} {t : SessionTurn}

/-- A turn after which a session goes on keeps to its terms, and to what either side may hear. -/
structure Continues (s : Session) (own other : Option InboundPlan) (incoming outgoing : List Frame)
    (event : SessionEvent) (t : SessionTurn) : Prop where
  verdict : t.verdict = .going
  meets : t.session.terms.Meets own other
  mannered : t.session.Mannered
  heard : Heard own t.session.owed (event.leaves incoming)
    (outgoing ++ t.side.sent.map (·.frame))
  peer : ∀ {owed : List Nat}, Heard other owed outgoing incoming →
    Heard other owed (outgoing ++ t.side.sent.map (·.frame)) (event.leaves incoming)

/-- A session that hears what it may hear goes on and keeps to all that, or says nothing more and is
over for one of the reasons, unless it leaves the calendar. -/
theorem turn_honest (hterms : s.terms.Meets own other) (hmannered : s.Mannered)
    (hheard : Heard own s.owed incoming outgoing) (hm : m.Intact incoming)
    (hturn : m.turn s store incoming = some (event, t)) :
    s.Continues own other incoming outgoing event t ∧
        t.side.runtime.status = m.runtime.status ∨
      t.side.sent = [] ∧ (t.verdict = .beyondCalendar ∨
        ∃ r, t.verdict = .over r ∧ t.side.runtime.status = m.runtime.status ∧
          s.Departs incoming event r) := by
  obtain ⟨event, hnext, heq⟩ := Option.map_eq_some_iff.1 hturn
  cases heq
  have hscan : event = .scan → s.inFlight = none := fun h => inFlight_of_next?_scan (h ▸ hnext)
  have harrived : ∀ f, event = .arrived f → ∃ rest, incoming = f :: rest := fun f h =>
    Exchange.exists_of_next?_arrived (h ▸ hnext)
  cases handle_course hmannered hscan (m.side store) m.now m.wall with
  | breaks hverdict hsent => exact .inr ⟨hsent, .inl hverdict⟩
  | ends hverdict hsent hstatus hends =>
      refine .inr ⟨hsent, .inr ⟨_, hverdict, hstatus, ?_⟩⟩
      cases hends with
      | parted h => exact .parted h
      | oversize h => exact .limited (.oversize h)
      | unreadable hevent =>
          subst hevent
          rcases hm _ (broken_of_next?_unreadable hnext) with hkind | ⟨f, rest, rfl, -, h⟩
          · exact .parted (.lost hkind (.inr (.inr (.inl rfl))))
          · have hfits := hheard.fits f List.mem_cons_self
            exact .limited (.unreadable rfl (Frame.holdsVectors_of_unreadable hfits h) h rfl)
      | offended hevent hwriting h =>
          obtain ⟨rest, hcoming⟩ := harrived _ hevent
          rw [hcoming, ← hterms.inbound] at hheard
          exact absurd h (hheard.not_offends hwriting)
  | goes said hverdict hsent hstatus htalk hgoing =>
      have hkept := terms_handle s (m.side store) m.now m.wall event
      obtain ⟨said', hsaid, hwithin⟩ := (handle_within s (m.side store) m.now m.wall event).said
      simp only [Moment.side, List.nil_append] at hsent hsaid
      rw [← hsent] at htalk
      rw [← hsaid] at hwithin
      refine .inl ⟨⟨hverdict, by rwa [hkept], hgoing, hheard.own_turn htalk harrived, fun h => ?_⟩,
        hstatus⟩
      refine h.peer_turn htalk harrived fun batch hbatch => ?_
      obtain ⟨plan, hplan, hallowed⟩ := hwithin batch hbatch
      obtain ⟨plan', hother, hallows⟩ := hterms.outbound hplan
      exact ⟨plan', hother, fun item hitem => hallows _ (hallowed item hitem)⟩

/-- So a session that hears what it may hear is over only for one of the reasons. -/
theorem departs_of_over (hterms : s.terms.Meets own other) (hmannered : s.Mannered)
    (hheard : Heard own s.owed incoming outgoing) (hm : m.Intact incoming)
    (hturn : m.turn s store incoming = some (event, t)) {r : Outcome Unit}
    (hover : t.verdict = .over r) :
    s.Departs incoming event r ∧ t.side.runtime.status = m.runtime.status := by
  rcases turn_honest hterms hmannered hheard hm hturn with
    ⟨hgoes, -⟩ | ⟨-, hbroken | ⟨r', hr', hstatus, hdeparts⟩⟩
  · cases hgoes.verdict.symm.trans hover
  · cases hbroken.symm.trans hover
  · cases hr'.symm.trans hover
    exact ⟨hdeparts, hstatus⟩

end Session

end HubReplication
