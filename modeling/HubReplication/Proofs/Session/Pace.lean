/-
**The pace of a session that sends.**

A session that has something to send is driven by four things: it looks at its store when it starts,
when the store told of a write, when the batch in flight is acknowledged, and when the first item
that was too young is old enough.  Which of them comes first is up to chance, and so is what comes
between them.  All that matters of a turn is what it does to these: it leaves them as they are, it
wakes the session, it settles what is in flight, or it looks at the store, and then it has sent a
batch, or set a timer, or seen that there is nothing above its cursor.

Main definitions:

* `Session.Ready` — what a session may deal with, in whatever order things come up;
* `Session.Steady`, `Session.Pace` — what a turn does to what drives a session;
* `Session.Flight` — what it does to what is in flight.

Main results:

* `Session.ready_of_next?` — what a session deals with next is one of the things it may deal with;
* `OutboundPlan.aged_of_select`, `OutboundPlan.le_of_select` — all that a batch covers is old
  enough, and a session that finds nothing and sets no timer has sent everything;
* `Session.pace_of_going` — every turn after which a session goes on is one of those.
-/

import HubReplication.Proofs.Instant.Timeline
import HubReplication.Proofs.Session.Endings
import HubReplication.Proofs.Store.Feed

set_option relaxedAutoImplicit false
set_option autoImplicit false

namespace HubReplication

/-! ### What is chosen -/

namespace OutboundPlan

variable {plan : OutboundPlan} {wall : Instant} {store : Store} {etag max : Nat}
  {chosen : Selection}

/-- All that a batch covers is old enough. -/
theorem aged_of_select (hstore : store.WellIndexed) (hwall : wall.Plain)
    (h : plan.select wall etag (store.changesAfter etag max) = some chosen) {item : Item}
    (hitem : store.items.get? item.key = some item) (hlt : etag < item.etag)
    (hle : item.etag ≤ chosen.lastEtag) : item.Aged wall plan.delay := by
  obtain ⟨sent, left, hitems, hold, -, -, hlast⟩ := exists_split_of_select h
  have hord := Store.changesAfter_ascending hstore etag max
  rw [hlast] at hle
  obtain hc | ⟨last, hmem, hc⟩ := covered_eq_or_mem etag sent
  · omega
  · have hlastmem : last ∈ store.changesAfter etag max := hitems ▸ List.mem_append_left left hmem
    have hin := Store.changesAfter_complete hstore hitem hlt hlastmem (by omega)
    rw [hitems] at hord hin
    exact Item.aged_of_isOlderThan? hwall (hold item (mem_of_le_covered hord hin hlt hle))

/-- What covers nothing and sets no timer leaves nothing to send. -/
theorem le_of_select (hstore : store.WellIndexed) (hmax : 0 < max)
    (h : plan.select wall etag (store.changesAfter etag max) = some chosen)
    (hready : chosen.readyIn = none) (hlast : chosen.lastEtag = etag) {item : Item}
    (hitem : store.items.get? item.key = some item) : item.etag ≤ etag := by
  obtain ⟨sent, left, hitems, -, hleft, -, hcovered⟩ := exists_split_of_select h
  obtain rfl := hleft hready
  rw [List.append_nil] at hitems
  refine Store.le_of_changesAfter_eq_nil hstore hmax ?_ hitem
  rw [hitems]
  cases sent with
  | nil => rfl
  | cons first rest =>
      -- The first item would be covered, and it is above the etag.
      have hord := Store.changesAfter_ascending hstore etag max
      have hfirst : first ∈ store.changesAfter etag max := hitems ▸ List.mem_cons_self
      have hlt := (Store.mem_changesAfter hstore hfirst).2
      rw [hitems] at hord
      have hle : first.etag ≤ covered etag (first :: rest) := le_covered hord List.mem_cons_self
      omega

end OutboundPlan

namespace Session

/-! ### What may come up -/

/-- What a session may deal with: what becomes of what it writes, or what there is to look for, or
else anything that is there. -/
inductive Ready (s : Session) (now announcements : Nat) : SessionEvent → Prop
  | written (h : s.writing.isSome = true) : Ready s now announcements .written
  | severed (h : s.writing.isSome = true) : Ready s now announcements .severed
  | scan (h : s.writing = none) (hdue : s.isScanDue = true) : Ready s now announcements .scan
  | cancelled (h : s.Waits) (hstreams : s.drainUntil = none) : Ready s now announcements .cancelled
  | arrived (frame : Frame) (h : s.Waits) : Ready s now announcements (.arrived frame)
  | unreadable (error : ReplicationError) (h : s.Waits) :
      Ready s now announcements (.unreadable error)
  | ended (h : s.Waits) : Ready s now announcements .ended
  | changed (h : s.Waits) (hstreams : s.drainUntil = none) (hsends : s.terms.outbound.isSome = true)
      (hnews : s.seen ≠ announcements) : Ready s now announcements .changed
  | woke {wake : Nat} (h : s.Waits) (hstreams : s.drainUntil = none) (hwake : s.wakeAt = some wake)
      (hdue : wake ≤ now) : Ready s now announcements .woke
  | beat (h : s.Waits) (hstreams : s.drainUntil = none) (hdue : s.nextBeat ≤ now) :
      Ready s now announcements .beat
  | drained {deadline : Nat} (h : s.Waits) (hdrains : s.drainUntil = some deadline)
      (hdue : deadline ≤ now) : Ready s now announcements .drained

variable {s : Session} {now announcements : Nat} {event : SessionEvent}

/-- What a session deals with next is one of the things that it may deal with. -/
theorem ready_of_next? {cancelled : Bool} {delivery : Delivery} {received : Received}
    (h : s.next? now cancelled announcements delivery received = some event) :
    s.Ready now announcements event := by
  cases notices_of_next? h with
  | written hwriting _ => exact .written hwriting
  | severed hwriting _ => exact .severed hwriting
  | scan hwriting hdue => exact .scan hwriting hdue
  | cancelled hwaits hstreams _ => exact .cancelled hwaits hstreams
  | arrived hwaits _ _ => exact .arrived _ hwaits
  | unreadable hwaits _ _ => exact .unreadable _ hwaits
  | ended hwaits _ _ => exact .ended hwaits
  | drained hwaits _ hdrains hdue => exact .drained hwaits hdrains hdue
  | changed hwaits _ hstreams hsends hnews => exact .changed hwaits hstreams hsends hnews
  | woke hwaits _ hstreams hwake hdue => exact .woke hwaits hstreams hwake hdue
  | beat hwaits _ hstreams hdue => exact .beat hwaits hstreams hdue

/-! ### What a turn does -/

/-- The batches that were sent in a turn. -/
def sentIn (t : SessionTurn) : List Batch := batchesOf (t.side.sent.map (·.frame))

/-- Nothing that drives a session has changed, and it streams only if it did before. -/
structure Steady (s s' : Session) : Prop where
  terms_eq : s'.terms = s.terms
  cursor_eq : s'.cursor = s.cursor
  owed_eq : s'.owed = s.owed
  wakeAt_eq : s'.wakeAt = s.wakeAt
  scan_eq : s'.scan = s.scan
  seen_eq : s'.seen = s.seen
  streams : s'.drainUntil = none → s.drainUntil = none

/-- A turn changes nothing that drives a session, and sends nothing. -/
structure Rests (s : Session) (store : Store) (t : SessionTurn) : Prop where
  steady : s.Steady t.session
  store_eq : t.side.site.store = store
  sent_eq : sentIn t = []

/-- Terms and store are as they were, and at most news of the store were heard. -/
structure Advances (s : Session) (store : Store) (t : SessionTurn) : Prop where
  terms_eq : t.session.terms = s.terms
  store_eq : t.side.site.store = store
  seen_cases : t.session.seen = s.seen ∨ t.session.seen = store.announcements

/-- What a turn does to what drives a session. -/
inductive Pace (s : Session) (store : Store) (wall : Instant) (t : SessionTurn) : Prop
  /-- Nothing. -/
  | rests (h : s.Rests store t)
  /-- A batch of the peer was applied. -/
  | applied {source : String} {items : List Item} {etag : Nat} {cv : ChangeVector}
      (h : s.Steady t.session)
      (happly : store.applyBatch source items etag = .ok (cv, t.side.site.store))
      (hsent : sentIn t = [])
  /-- The store told of a write, or the first item that was too young is old enough. -/
  | woken (h : s.Advances store t) (hcursor : t.session.cursor = s.cursor)
      (howed : t.session.owed = s.owed) (hscan : t.session.scan = true) (hsent : sentIn t = [])
  /-- What was in flight is acknowledged. -/
  | acknowledged (h : s.Advances store t) (howed : s.owed = [t.session.cursor])
      (hsettled : t.session.owed = []) (hscan : t.session.scan = true) (hsent : sentIn t = [])
  /-- Nothing more is old enough, and a timer is set or there is nothing to send. -/
  | searched {plan : OutboundPlan} {chosen : Selection} (h : s.Advances store t)
      (hplan : s.terms.outbound = some plan)
      (hchosen : plan.select wall s.cursor
        (store.changesAfter s.cursor s.terms.maxBatchSize) = some chosen)
      (hlast : chosen.lastEtag = s.cursor) (hcursor : t.session.cursor = s.cursor)
      (howed : t.session.owed = s.owed)
      (hwake : chosen.readyIn = none ∨ t.session.wakeAt.isSome = true) (hsent : sentIn t = [])
  /-- A batch was sent. -/
  | sent {plan : OutboundPlan} {chosen : Selection} (h : s.Advances store t)
      (hplan : s.terms.outbound = some plan) (hidle : s.owed = [])
      (hchosen : plan.select wall s.cursor
        (store.changesAfter s.cursor s.terms.maxBatchSize) = some chosen)
      (hlast : chosen.lastEtag ≠ s.cursor) (hcursor : t.session.cursor = s.cursor)
      (howed : t.session.owed = [chosen.lastEtag])
      (hsent : sentIn t = [⟨chosen.items, chosen.lastEtag⟩])

/-- What a turn does to what is in flight, whatever drives the session. -/
inductive Flight (s : Session) (store : Store) (wall : Instant) (t : SessionTurn) : Prop
  /-- Nothing. -/
  | kept (hcursor : t.session.cursor = s.cursor) (howed : t.session.owed = s.owed)
      (hsent : sentIn t = [])
  /-- It is acknowledged. -/
  | acknowledged (howed : s.owed = [t.session.cursor]) (hsettled : t.session.owed = [])
      (hsent : sentIn t = [])
  /-- There was nothing, and a batch was sent. -/
  | sent {plan : OutboundPlan} {chosen : Selection} (hstore : t.side.site.store = store)
      (hplan : s.terms.outbound = some plan) (hidle : s.owed = [])
      (hchosen : plan.select wall s.cursor
        (store.changesAfter s.cursor s.terms.maxBatchSize) = some chosen)
      (hlast : chosen.lastEtag ≠ s.cursor) (hcursor : t.session.cursor = s.cursor)
      (howed : t.session.owed = [chosen.lastEtag])
      (hsent : sentIn t = [⟨chosen.items, chosen.lastEtag⟩])

theorem Pace.flight {s : Session} {store : Store} {wall : Instant} {t : SessionTurn}
    (h : s.Pace store wall t) : s.Flight store wall t := by
  cases h with
  | rests h => exact .kept h.steady.cursor_eq h.steady.owed_eq h.sent_eq
  | applied h _ hsent => exact .kept h.cursor_eq h.owed_eq hsent
  | woken _ hcursor howed _ hsent => exact .kept hcursor howed hsent
  | acknowledged _ howed hsettled _ hsent => exact .acknowledged howed hsettled hsent
  | searched _ _ _ _ hcursor howed _ hsent => exact .kept hcursor howed hsent
  | sent h hplan hidle hchosen hlast hcursor howed hsent =>
      exact .sent h.store_eq hplan hidle hchosen hlast hcursor howed hsent

/-! ### Turns that change nothing -/

section Turns

variable {s s' s'' : Session} {store : Store} {side side' : LocalSide} {now : Nat} {wall : Instant}
  {event : SessionEvent} {t : SessionTurn} {verdict : Verdict}

theorem Steady.trans (h : s.Steady s') (h' : s'.Steady s'') : s.Steady s'' :=
  ⟨h'.terms_eq.trans h.terms_eq, h'.cursor_eq.trans h.cursor_eq, h'.owed_eq.trans h.owed_eq,
    h'.wakeAt_eq.trans h.wakeAt_eq, h'.scan_eq.trans h.scan_eq, h'.seen_eq.trans h.seen_eq,
    fun hstreams => h.streams (h'.streams hstreams)⟩

theorem Rests.of_steady (h : s'.Rests store t) (hsteady : s.Steady s') : s.Rests store t :=
  ⟨hsteady.trans h.steady, h.store_eq, h.sent_eq⟩

/-- Saying nothing. -/
theorem rests_of_steady (hsteady : s.Steady s') (hside : side.sent = [])
    (hstore : side.site.store = store) : s.Rests store ⟨s', side, verdict⟩ :=
  ⟨hsteady, hstore, by simp [sentIn, hside, batchesOf]⟩

theorem steady_of_bookkeeping (s : Session) (lastSeen nextBeat : Nat) :
    s.Steady { s with lastSeen, nextBeat } := ⟨rfl, rfl, rfl, rfl, rfl, rfl, id⟩

theorem steady_cancelled (deadline : Nat) : s.Steady { s with drainUntil := some deadline } := by
  refine ⟨rfl, rfl, rfl, rfl, rfl, rfl, ?_⟩
  rintro ⟨⟩

/-- A session that writes nothing begins to write anything but a batch. -/
theorem steady_writing (hwriting : s.writing = none) {w : Writing}
    (hw : ∀ items bytes lastEtag, w ≠ .batch items bytes lastEtag) :
    s.Steady { s with writing := some w } := by
  refine ⟨rfl, rfl, ?_, rfl, rfl, rfl, id⟩
  rw [owed_of_not_writing hwriting]
  cases w with
  | batch items bytes lastEtag => exact absurd rfl (hw items bytes lastEtag)
  | ack | heartbeat | goodbye => rfl

/-- A frame without a batch is no batch that was sent. -/
theorem sentIn_of_write {frame : Frame} {compression : FrameCompression} {n : Nat}
    (hside : side.sent = []) (hwrite : side.write frame compression = .ok (n, side'))
    (hframe : frame.batch? = none) :
    sentIn ⟨s', side', verdict⟩ = [] ∧ side'.site.store = side.site.store := by
  obtain ⟨bytes, -, rfl⟩ := LocalSide.write_eq_ok hwrite
  exact ⟨by simp [sentIn, hside, batchesOf, hframe], rfl⟩

theorem rests_finish (hside : side.sent = []) (hstore : side.site.store = store)
    (hwriting : s.writing = none) : s.Rests store (s.finish side) := by
  unfold finish
  split
  · rename_i hwrite
    obtain ⟨hsent, hsame⟩ := sentIn_of_write hside hwrite rfl
    exact ⟨steady_writing hwriting (by simp), hsame.trans hstore, hsent⟩
  · exact rests_of_steady (steady_of_bookkeeping _ _ _) hside hstore

theorem rests_finishIfIdle (hside : side.sent = []) (hstore : side.site.store = store)
    (hwriting : s.writing = none) : s.Rests store (s.finishIfIdle side) := by
  unfold finishIfIdle
  split
  · exact rests_finish hside hstore hwriting
  · exact rests_of_steady (steady_of_bookkeeping _ _ _) hside hstore

theorem rests_beat (hside : side.sent = []) (hwriting : s.writing = none) :
    s.Rests side.site.store (s.beat side now) := by
  have hbeat := s.steady_of_bookkeeping s.lastSeen (Beat.next s.nextBeat now s.terms.heartbeat)
  unfold beat
  simp only
  split
  · exact rests_of_steady hbeat hside rfl
  · split
    · exact rests_of_steady hbeat hside rfl
    · rename_i hwrite
      obtain ⟨hsent, hstore⟩ := sentIn_of_write hside hwrite rfl
      exact ⟨hbeat.trans (steady_writing (by exact hwriting) (by simp)), hstore, hsent⟩

/-- A batch that is on its way is owed as it was while it was written. -/
theorem rests_written {w : Writing} (hside : side.sent = []) (hwriting : s.writing = some w)
    (hgoing : (s.written side w).verdict = .going) :
    s.Rests side.site.store (s.written side w) := by
  cases w with
  | batch items bytes lastEtag =>
      refine rests_of_steady ⟨rfl, rfl, ?_, rfl, rfl, rfl, id⟩ hside rfl
      rw [owed, owed, hwriting]
      rfl
  | ack items seen =>
      refine rests_of_steady ⟨rfl, rfl, ?_, rfl, rfl, rfl, id⟩ hside rfl
      rw [owed, owed, hwriting]
  | heartbeat =>
      refine rests_of_steady ⟨rfl, rfl, ?_, rfl, rfl, rfl, id⟩ hside rfl
      rw [owed, owed, hwriting]
  | goodbye => cases hgoing

/-! ### Acknowledgements -/

/-- What was in flight is acknowledged, and whatever rests after that rests. -/
theorem pace_of_acknowledge {etag : Nat} (hwriting : s.writing = none)
    (hflight : s.inFlight = some etag)
    (h : Rests { s with cursor := etag, inFlight := none, scan := true } store t) :
    s.Pace store wall t := by
  have hsteady := h.steady
  refine .acknowledged ⟨hsteady.terms_eq, h.store_eq, .inl hsteady.seen_eq⟩ ?_ ?_ ?_ h.sent_eq
  · rw [owed_of_not_writing hwriting, hflight, hsteady.cursor_eq]
    rfl
  · rw [hsteady.owed_eq, owed_of_not_writing (by exact hwriting)]
    rfl
  · exact hsteady.scan_eq

theorem pace_acknowledge {ack : Ack} (hside : side.sent = []) (hwriting : s.writing = none)
    (hgoing : (s.acknowledge side ack).verdict = .going) :
    s.Pace side.site.store wall (s.acknowledge side ack) := by
  by_cases hflight : s.inFlight = some ack.lastEtag
  · rw [acknowledge_of_inFlight hflight]
    exact pace_of_acknowledge hwriting hflight
      (rests_of_steady (steady_of_bookkeeping _ _ _) hside rfl)
  · rw [acknowledge, if_neg hflight] at hgoing
    cases hgoing

theorem pace_drain (hside : side.sent = []) (hwriting : s.writing = none) :
    s.Pace side.site.store wall (s.drain side event) := by
  unfold drain
  split
  · rename_i ack
    by_cases hflight : s.inFlight = some ack.lastEtag
    · rw [acknowledge_of_inFlight hflight]
      exact pace_of_acknowledge hwriting hflight
        (rests_finishIfIdle (by exact hside) rfl (by exact hwriting))
    · rw [acknowledge, if_neg hflight]
      exact .rests (rests_finish hside rfl hwriting)
  · exact .rests (rests_finish hside rfl hwriting)
  · exact .rests (rests_finish hside rfl hwriting)
  · exact .rests (rests_finish hside rfl hwriting)
  · exact .rests (rests_of_steady (steady_of_bookkeeping _ _ _) hside rfl)

/-! ### Batches -/

theorem pace_take {batch : Batch} (hside : side.sent = []) (hwriting : s.writing = none)
    (hgoing : (s.take side batch).verdict = .going) :
    s.Pace side.site.store wall (s.take side batch) := by
  generalize hturn : s.take side batch = t at hgoing ⊢
  unfold take at hturn
  split at hturn
  · subst hturn
    cases hgoing
  · split at hturn
    · subst hturn
      cases hgoing
    · rename_i cv store happly
      simp only at hturn
      split at hturn
      · subst hturn
        cases hgoing
      · rename_i said hwrite
        subst hturn
        obtain ⟨hsent, hstore⟩ := sentIn_of_write (by exact hside) hwrite rfl
        have hstore : store = said.site.store := hstore.symm
        exact .applied (steady_writing hwriting (by simp)) (hstore ▸ happly) hsent

theorem pace_receive {frame : Frame} (hside : side.sent = []) (hwriting : s.writing = none)
    (hgoing : (s.receive side frame).verdict = .going) :
    s.Pace side.site.store wall (s.receive side frame) := by
  cases frame with
  | heartbeat => exact .rests (rests_of_steady (steady_of_bookkeeping _ _ _) hside rfl)
  | ack ack => exact pace_acknowledge hside hwriting hgoing
  | batch batch => exact pace_take hside hwriting hgoing
  | handshake | response | resume | close => cases hgoing

/-! ### Any event -/

theorem pace_send {plan : OutboundPlan} (hside : side.sent = []) (hwriting : s.writing = none)
    (hflight : s.inFlight = none) (hplan : s.terms.outbound = some plan)
    (hgoing : (s.send side now wall).verdict = .going) :
    s.Pace side.site.store wall (s.send side now wall) := by
  have howed : s.owed = [] := by
    rw [owed_of_not_writing hwriting, hflight]
    rfl
  generalize hturn : s.send side now wall = t at hgoing ⊢
  unfold send at hturn
  simp only [hplan] at hturn
  split at hturn
  · subst hturn
    cases hgoing
  · rename_i chosen hchosen
    -- When the next item is old enough is set before anything is written, in either case.
    cases hready : chosen.readyIn <;> simp only [hready] at hturn
    all_goals
      split at hturn
      · rename_i hlast
        subst hturn
        exact .searched ⟨rfl, rfl, .inl rfl⟩ hplan hchosen hlast rfl rfl (by simp [hready])
          (by simp [sentIn, hside, batchesOf])
      · rename_i hlast
        split at hturn
        · subst hturn
          cases hgoing
        · rename_i hwrite
          subst hturn
          obtain ⟨bytes, -, rfl⟩ := LocalSide.write_eq_ok hwrite
          exact .sent ⟨rfl, rfl, .inl rfl⟩ hplan howed hchosen hlast rfl rfl
            (by simp [sentIn, hside, batchesOf, Frame.batch?])

/-- When a session last heard of its peer does not drive it. -/
theorem Pace.of_lastSeen {lastSeen : Nat} (h : Pace { s with lastSeen } store wall t) :
    s.Pace store wall t := by
  have hsteady : s.Steady { s with lastSeen } := s.steady_of_bookkeeping lastSeen s.nextBeat
  cases h with
  | rests h => exact .rests (h.of_steady hsteady)
  | applied h happly hsent => exact .applied (hsteady.trans h) happly hsent
  | woken h hcursor howed hscan hsent =>
      exact .woken ⟨h.terms_eq, h.store_eq, h.seen_cases⟩ hcursor howed hscan hsent
  | acknowledged h howed hsettled hscan hsent =>
      exact .acknowledged ⟨h.terms_eq, h.store_eq, h.seen_cases⟩ howed hsettled hscan hsent
  | searched h hplan hchosen hlast hcursor howed hwake hsent =>
      exact .searched ⟨h.terms_eq, h.store_eq, h.seen_cases⟩ hplan hchosen hlast hcursor howed hwake
        hsent
  | sent h hplan hidle hchosen hlast hcursor howed hsent =>
      exact .sent ⟨h.terms_eq, h.store_eq, h.seen_cases⟩ hplan hidle hchosen hlast hcursor howed
        hsent

theorem pace_stream {plan : OutboundPlan} (hside : side.sent = [])
    (hplan : s.terms.outbound = some plan)
    (hready : s.Ready now side.site.store.announcements event)
    (hstreams : s.drainUntil = none) (hwriting : s.writing = none)
    (hgoing : (s.stream side now wall event).verdict = .going) :
    s.Pace side.site.store wall (s.stream side now wall event) := by
  have hquiet : ∀ {s' : Session}, sentIn ⟨s', side, .going⟩ = [] := by
    simp [sentIn, hside, batchesOf]
  cases hready with
  | written h => simp [hwriting] at h
  | severed h => simp [hwriting] at h
  | unreadable | ended => cases hgoing
  | drained _ hdrains _ => simp [hstreams] at hdrains
  | scan _ hdue =>
      simp only [isScanDue, Bool.and_eq_true, Option.isNone_iff_eq_none] at hdue
      exact pace_send hside hwriting hdue.2 hplan hgoing
  | cancelled =>
      have hrests := rests_finishIfIdle (s := { s with drainUntil := some (now + s.patience) })
        hside rfl hwriting
      exact .rests (hrests.of_steady (steady_cancelled _))
  | arrived frame =>
      have hpace : Pace { s with lastSeen := now } side.site.store wall _ :=
        pace_receive hside hwriting hgoing
      exact hpace.of_lastSeen
  | changed => exact .woken ⟨rfl, rfl, .inr rfl⟩ rfl rfl rfl hquiet
  | woke => exact .woken ⟨rfl, rfl, .inl rfl⟩ rfl rfl rfl hquiet
  | beat => exact .rests (rests_beat hside hwriting)

/-- Every turn after which a session goes on is one of these. -/
theorem pace_of_going {plan : OutboundPlan} (hside : side.sent = [])
    (hplan : s.terms.outbound = some plan)
    (hready : s.Ready now side.site.store.announcements event)
    (hgoing : (s.handle side now wall event).verdict = .going) :
    s.Pace side.site.store wall (s.handle side now wall event) := by
  cases hwriting : s.writing with
  | some w =>
      cases hready with
      | written =>
          simp only [handle, hwriting] at hgoing ⊢
          exact .rests (rests_written hside hwriting hgoing)
      | severed =>
          simp only [handle, hwriting] at hgoing
          cases w <;> cases hgoing
      | scan h => simp [hwriting] at h
      | cancelled h | arrived _ h | unreadable _ h | ended h | changed h | woke h | beat h
      | drained h => cases hwriting.symm.trans h.writing
  | none =>
      simp only [handle, hwriting] at hgoing ⊢
      split
      · exact pace_drain hside hwriting
      · rename_i hstreams
        rw [if_neg hstreams] at hgoing
        exact pace_stream hside hplan hready (by simpa using hstreams) hwriting hgoing

end Turns

end Session

end HubReplication
