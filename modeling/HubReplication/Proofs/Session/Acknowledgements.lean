/-
**Acknowledgements.**

A session acknowledges a batch once it applied it, with what the database has seen then.  A journal
lists all that was written to the store: by the session, here, and by others.  It accounts for the
store, entry by entry, so a batch that stands in it was really applied.  The acknowledgements that
the session says are those that the journal calls for, in order; only the last one may be missing,
when it could not be written and the session ended over it.  Whatever is written after that, the
database has still seen all that was acknowledged.  A batch that may not be applied leaves no trace,
and a session that was cancelled takes nothing but the acknowledgement that it waits for.

Main definitions:

* `Session.application?` — the batch that a turn applies, with what applying it returns;
* `JournalEntry`, `acksDue`, `Leads` — what was written to a store, which acknowledgements it calls
  for, and how it leads from one store to another;
* `Streaming` — a session, its store, what it said, and the journal of the store;
* `Streaming.Happening`, `Streaming.after` — what may happen around a session, and what comes of it;
* `Session.Refuses` — a batch that a session may not apply;
* `Streaming.Faithful` — nothing is acknowledged before it was applied.

Main results:

* `Session.acks_of_not_applied`, `Session.acks_of_applied` — what one turn writes and says;
* `Leads.seen` — the database has seen whatever a journal calls to acknowledge;
* `Streaming.Faithful.happen` — whatever happens next, it stays so;
* `Streaming.faithful_after` — so it is after whatever happens to a session.
-/

import HubReplication.Proofs.Exchange.Basic

set_option relaxedAutoImplicit false
set_option autoImplicit false

namespace HubReplication

/-- The acknowledgement that a frame is. -/
def Frame.ack? : Frame → Option Ack
  | .ack a => some a
  | _ => none

/-- The acknowledgements among frames, in order. -/
def acksOf (frames : List Frame) : List Ack := frames.filterMap Frame.ack?

theorem acksOf_append (a b : List Frame) : acksOf (a ++ b) = acksOf a ++ acksOf b :=
  List.filterMap_append

theorem acksOf_eq_nil_of_control {frames : List Frame}
    (h : ∀ f ∈ frames, f.isControl = true) : acksOf frames = [] := by
  rw [acksOf, List.filterMap_eq_nil_iff]
  intro f hf
  have hcontrol := h f hf
  cases f with
  | heartbeat | close => rfl
  | handshake | response | resume | batch | ack => cases hcontrol

/-- The batch that a frame is. -/
def Frame.batch? : Frame → Option Batch
  | .batch b => some b
  | _ => none

/-- The batches among frames, in order. -/
def batchesOf (frames : List Frame) : List Batch := frames.filterMap Frame.batch?

theorem batchesOf_append (a b : List Frame) : batchesOf (a ++ b) = batchesOf a ++ batchesOf b :=
  List.filterMap_append

theorem batchesOf_eq_nil_of_control {frames : List Frame}
    (h : ∀ f ∈ frames, f.isControl = true) : batchesOf frames = [] := by
  rw [batchesOf, List.filterMap_eq_nil_iff]
  intro f hf
  have hcontrol := h f hf
  cases f with
  | heartbeat | close => rfl
  | handshake | response | resume | batch | ack => cases hcontrol

/-! ### What was written to a store -/

/-- A batch that was applied to a store: under which source, and what applying it returned. -/
structure Application where
  source : String
  batch : Batch
  changeVector : ChangeVector
  store : Store

/-- The acknowledgement of a batch that was applied. -/
def Application.ack (a : Application) : Ack := ⟨a.batch.lastEtag, a.changeVector⟩

/-- What may be written to a store. -/
inductive JournalEntry where
  /-- A version that was written here. -/
  | written (item : Item)
  /-- A batch that was taken over through another session. -/
  | taken (origin : String) (items : List Item) (etag : Nat)
  /-- A batch that the session applied. -/
  | applied (a : Application)

/-- The acknowledgement that an entry calls for. -/
def JournalEntry.ack? : JournalEntry → Option Ack
  | .applied a => some a.ack
  | .written _ | .taken _ _ _ => none

/-- The acknowledgements that a journal calls for, in order. -/
def acksDue (journal : List JournalEntry) : List Ack := journal.filterMap JournalEntry.ack?

theorem acksDue_append (a b : List JournalEntry) : acksDue (a ++ b) = acksDue a ++ acksDue b :=
  List.filterMap_append

/-- What others write calls for no acknowledgement. -/
theorem acksDue_append_of_none {entry : JournalEntry} (h : entry.ack? = none)
    (journal : List JournalEntry) : acksDue (journal ++ [entry]) = acksDue journal := by
  simp [acksDue, h]

/-- The entries of a journal, each written to the store that those before it came to, lead from one
store to another. -/
inductive Leads (first : Store) : List JournalEntry → Store → Prop
  | nil : Leads first [] first
  | written {journal : List JournalEntry} {store : Store} (h : Leads first journal store)
      (item : Item) : Leads first (journal ++ [.written item]) (Exchange.written store item)
  | taken {journal : List JournalEntry} {store : Store} (h : Leads first journal store)
      (origin : String) (items : List Item) (etag : Nat) :
      Leads first (journal ++ [.taken origin items etag]) (Exchange.taken store origin items etag)
  | applied {journal : List JournalEntry} {store : Store} (h : Leads first journal store)
      {a : Application}
      (happly : store.applyBatch a.source a.batch.items a.batch.lastEtag =
        .ok (a.changeVector, a.store)) :
      Leads first (journal ++ [.applied a]) a.store

theorem written_dominates (store : Store) (item : Item) :
    (Exchange.written store item).changeVector.dominates store.changeVector = true := by
  unfold Exchange.written
  split
  · rename_i h
    exact Store.writeLocal_dominates h
  · exact ChangeVector.dominates_self _

theorem taken_dominates (store : Store) (origin : String) (items : List Item) (etag : Nat) :
    (Exchange.taken store origin items etag).changeVector.dominates store.changeVector = true := by
  unfold Exchange.taken
  split
  · rename_i h
    exact Store.applyBatch_dominates h
  · exact ChangeVector.dominates_self _

/-- The database has seen whatever the journal of its store calls to acknowledge. -/
theorem Leads.seen {first store : Store} {journal : List JournalEntry}
    (h : Leads first journal store) :
    ∀ ack ∈ acksDue journal, store.changeVector.dominates ack.changeVector = true := by
  induction h with
  | nil => exact fun _ hack => by cases hack
  | written _ item ih =>
      rw [acksDue_append_of_none rfl]
      exact fun ack hack => ChangeVector.dominates_trans (written_dominates _ item) (ih ack hack)
  | taken _ origin items etag ih =>
      rw [acksDue_append_of_none rfl]
      exact fun ack hack =>
        ChangeVector.dominates_trans (taken_dominates _ origin items etag) (ih ack hack)
  | @applied journal store _ a happly ih =>
      rw [acksDue_append]
      intro ack hack
      rcases List.mem_append.1 hack with hbefore | hlast
      · exact ChangeVector.dominates_trans (Store.applyBatch_dominates happly) (ih ack hbefore)
      · obtain rfl : ack = a.ack := by simpa [acksDue, JournalEntry.ack?] using hlast
        rw [Application.ack, Store.changeVector_applyBatch happly]
        exact ChangeVector.dominates_self _

namespace Session

/-! ### One turn -/

variable {s : Session} {side : LocalSide} {now : Nat} {wall : Instant} {event : SessionEvent}

/-- The batch that a session applies when it deals with an event, with what applying it returns. -/
def application? (s : Session) (store : Store) : SessionEvent → Option Application
  | .arrived (.batch batch) =>
    if s.writing.isSome || s.drainUntil.isSome then none
    else
      match s.checkBatch batch with
      | .error _ => none
      | .ok plan =>
        match store.applyBatch plan.sourceDatabaseId batch.items batch.lastEtag with
        | .error _ => none
        | .ok (cv, store') => some ⟨plan.sourceDatabaseId, batch, cv, store'⟩
  | _ => none

theorem map_application? (s : Session) (store : Store) (event : SessionEvent) :
    (s.application? store event).map (·.batch) = s.applied? store event := by
  unfold application?
  split
  · rename_i batch
    by_cases hbusy : s.writing.isSome || s.drainUntil.isSome
    · simp [applied?, hbusy]
    · cases hcheck : s.checkBatch batch with
      | error e => simp [applied?, hbusy, hcheck]
      | ok plan =>
          cases happly : store.applyBatch plan.sourceDatabaseId batch.items batch.lastEtag <;>
            simp [applied?, hbusy, hcheck, happly]
  · rename_i hevent
    unfold applied?
    split
    · exact absurd rfl (hevent _)
    · rfl

theorem application?_eq_some {store : Store} {a : Application}
    (h : s.application? store event = some a) :
    event = .arrived (.batch a.batch) ∧ s.writing = none ∧ s.drainUntil = none ∧
      ∃ plan, s.checkBatch a.batch = .ok plan ∧ a.source = plan.sourceDatabaseId ∧
        store.applyBatch a.source a.batch.items a.batch.lastEtag =
          .ok (a.changeVector, a.store) := by
  unfold application? at h
  split at h
  · split at h
    · cases h
    · rename_i hfree
      split at h
      · cases h
      · rename_i plan hcheck
        split at h
        · cases h
        · rename_i happly
          cases h
          have hfree : s.writing = none ∧ s.drainUntil = none := by simpa using hfree
          exact ⟨rfl, hfree.1, hfree.2, plan, hcheck, rfl, happly⟩
  · cases h

theorem application?_of_ok {store store' : Store} {batch : Batch} {plan : InboundPlan}
    {cv : ChangeVector} (hwriting : s.writing = none) (hdrain : s.drainUntil = none)
    (hcheck : s.checkBatch batch = .ok plan)
    (happly : store.applyBatch plan.sourceDatabaseId batch.items batch.lastEtag =
      .ok (cv, store')) :
    s.application? store (.arrived (.batch batch)) =
      some ⟨plan.sourceDatabaseId, batch, cv, store'⟩ := by
  simp [application?, hwriting, hdrain, hcheck, happly]

/-- A turn that applies nothing leaves the store as it is, and acknowledges nothing. -/
theorem acks_of_not_applied (hsent : side.sent = [])
    (hnone : s.application? side.site.store event = none) :
    (s.handle side now wall event).side.site.store = side.site.store ∧
      acksOf ((s.handle side now wall event).side.sent.map (·.frame)) = [] := by
  have hnone : s.applied? side.site.store event = none := by
    rw [← map_application?, hnone, Option.map_none]
  rcases handle_cases s side now wall event with hdoes | ⟨rfl, hscan⟩
  · obtain ⟨said, hsaid, heffect⟩ := hdoes.effect
    rw [hsaid, hsent, List.nil_append]
    generalize said.map (·.frame) = frames at heffect ⊢
    generalize (s.handle side now wall event).side.site.store = store at heffect ⊢
    generalize (s.handle side now wall event).session.cursor = cursor at heffect
    cases heffect with
    | quiet _ hcontrol => exact ⟨rfl, acksOf_eq_nil_of_control hcontrol⟩
    | sent _ _ _ => exact ⟨rfl, by simp [acksOf, Frame.ack?]⟩
    | acknowledged _ hcontrol => exact ⟨rfl, acksOf_eq_nil_of_control hcontrol⟩
    | applied _ happlied _ _ _ =>
        rw [hnone] at happlied
        cases happlied
  · rw [hscan]
    rcases send_cases s side now wall with hidles | ⟨_, chosen, bytes, -, -, -, -, -, hside⟩
    · obtain ⟨said, hsaid, hcontrol⟩ := hidles.said
      refine ⟨hidles.store_eq, ?_⟩
      rw [hsaid, hsent, List.nil_append]
      refine acksOf_eq_nil_of_control fun f hf => ?_
      obtain ⟨w, hw, rfl⟩ := List.mem_map.1 hf
      exact hcontrol w hw
    · rw [hside, hsent]
      exact ⟨rfl, by simp [acksOf, Frame.ack?]⟩

/-- Why an acknowledgement was not written: no frame holds it, or the peer is gone. -/
def AckFailed (s : Session) (ack : Ack) (e : ReplicationError) : Prop :=
  (Frame.ack ack).write s.terms.compression = .error e ∨ e = LocalSide.gone

/-- An acknowledgement is said, or the session ends because it could not be written. -/
def Answered (ack : Ack) (t : SessionTurn) : Prop :=
  acksOf (t.side.sent.map (·.frame)) = [ack] ∨
    acksOf (t.side.sent.map (·.frame)) = [] ∧
      ∃ e, t.verdict = .over (.error e) ∧ t.session.AckFailed ack e

theorem take_answered {batch : Batch} {plan : InboundPlan} {cv : ChangeVector} {store : Store}
    (hsent : side.sent = []) (hcheck : s.checkBatch batch = .ok plan)
    (happly : side.site.store.applyBatch plan.sourceDatabaseId batch.items batch.lastEtag =
      .ok (cv, store)) :
    (s.take side batch).side.site.store = store ∧
      Answered ⟨batch.lastEtag, cv⟩ (s.take side batch) := by
  generalize hside : (side.onSite fun site => { site with store }) = applied
  have hstore : applied.site.store = store := by rw [← hside]; rfl
  have hsaid : applied.sent = [] := by rw [← hside]; exact hsent
  cases hwrite : applied.write (.ack ⟨batch.lastEtag, cv⟩) s.terms.compression with
  | error e =>
      have htake : s.take side batch = ⟨s, applied, .over (.error e)⟩ := by
        simp only [take, hcheck, happly, hside, hwrite]
      rw [htake]
      refine ⟨hstore, .inr ⟨by simp [hsaid, acksOf], e, rfl, ?_⟩⟩
      unfold LocalSide.write at hwrite
      split at hwrite
      · rename_i herror
        cases hwrite
        exact .inl herror
      · split at hwrite <;> cases hwrite
        exact .inr rfl
  | ok result =>
      obtain ⟨n, side'⟩ := result
      have htake : s.take side batch =
          ⟨{ s with writing := some (.ack batch.items.length cv) }, side', .going⟩ := by
        simp only [take, hcheck, happly, hside, hwrite]
      obtain ⟨bytes, -, rfl⟩ := LocalSide.write_eq_ok hwrite
      rw [htake]
      refine ⟨hstore, .inl ?_⟩
      simp [hsaid, acksOf, Frame.ack?]

theorem handle_arrived (hwriting : s.writing = none) (hdrain : s.drainUntil = none)
    (frame : Frame) :
    s.handle side now wall (.arrived frame) = { s with lastSeen := now }.receive side frame := by
  simp [handle, stream, hwriting, hdrain]

/-- A turn that applies a batch leaves the store that applying it returned, and answers with the
change vector that it returned. -/
theorem acks_of_applied {a : Application} (hsent : side.sent = [])
    (happlied : s.application? side.site.store event = some a) :
    (s.handle side now wall event).side.site.store = a.store ∧
      Answered a.ack (s.handle side now wall event) := by
  obtain ⟨rfl, hwriting, hdrain, plan, hcheck, hsource, happly⟩ := application?_eq_some happlied
  rw [handle_arrived hwriting hdrain, receive]
  rw [hsource] at happly
  exact take_answered (s := { s with lastSeen := now }) hsent hcheck happly

/-! ### Batches that are refused -/

/-- A batch that a session may not apply: it takes none, or not those paths, or an item has no id. -/
def Refuses (s : Session) (batch : Batch) : Prop :=
  s.terms.inbound = none ∨
    (∃ plan, s.terms.inbound = some plan ∧
      ∃ item ∈ batch.items, PathFilter.allows plan.allowedPaths item.id = false) ∨
    ∃ item ∈ batch.items, Text.isBlankText item.id = true

/-- A batch that is refused leaves no trace but the end of the session. -/
theorem take_of_refuses {batch : Batch} (h : s.Refuses batch) (side : LocalSide) :
    ∃ e, s.take side batch = ⟨s, side, .over (.error e)⟩ := by
  cases hcheck : s.checkBatch batch with
  | error e => exact ⟨e, take_rejected hcheck⟩
  | ok plan =>
      obtain ⟨hplan, hallowed⟩ := checkBatch_eq_ok hcheck
      -- It passed the check, so an item has no id, and nothing of the batch is applied.
      obtain ⟨item, hitem, hblank⟩ : ∃ item ∈ batch.items, Text.isBlankText item.id = true := by
        rcases h with hnone | ⟨plan', hplan', item, hitem, houtside⟩ | hblank
        · rw [hplan] at hnone
          cases hnone
        · rw [hplan] at hplan'
          cases hplan'
          rw [hallowed item hitem] at houtside
          cases houtside
        · exact hblank
      cases happly : side.site.store.applyBatch plan.sourceDatabaseId batch.items batch.lastEtag with
      | error e => exact ⟨e, by simp only [take, hcheck, happly]⟩
      | ok result =>
          have hnamed := Store.named_of_applyBatch happly item hitem
          rw [hblank] at hnamed
          cases hnamed

theorem handle_of_refuses {batch : Batch} (hwriting : s.writing = none)
    (hdrain : s.drainUntil = none) (h : s.Refuses batch) :
    (s.handle side now wall (.arrived (.batch batch))).side = side ∧
      ∃ e, (s.handle side now wall (.arrived (.batch batch))).verdict = .over (.error e) := by
  rw [handle_arrived hwriting hdrain]
  obtain ⟨e, htake⟩ := take_of_refuses (s := { s with lastSeen := now }) h side
  rw [receive, htake]
  exact ⟨rfl, e, rfl⟩

/-- A cancelled session passes over whatever is no acknowledgement. -/
theorem handle_of_drain (hwriting : s.writing = none) (hdrain : s.drainUntil.isSome = true)
    {frame : Frame} (hframe : frame.ack? = none) :
    s.handle side now wall (.arrived frame) = ⟨s, side, .going⟩ := by
  simp only [handle, hwriting, hdrain, if_true]
  cases frame with
  | ack a => cases hframe
  | handshake | response | resume | batch | heartbeat | close => rfl

end Session

/-! ### Whatever happens to a session -/

/-- A session and its store, what the session said so far, and what was written to the store since
it started. -/
structure Streaming where
  session : Session
  store : Store
  verdict : Verdict
  said : List Frame
  journal : List JournalEntry

namespace Streaming

/-- What may happen around a session. -/
inductive Happening where
  /-- The session takes a turn, given the frames that are on their way to it, whatever they are. -/
  | turn (m : Moment) (coming : List Frame)
  /-- A version is written at the store. -/
  | written (item : Item)
  /-- The store takes over a batch through another session. -/
  | taken (origin : String) (items : List Item) (etag : Nat)

/-- What a turn adds to the journal: the batch that may be applied, if one arrived. -/
def entered (r : Streaming) (event : SessionEvent) : List JournalEntry :=
  ((r.session.application? r.store event).map JournalEntry.applied).toList

def happen (r : Streaming) : Happening → Streaming
  | .turn m coming =>
    match r.verdict, m.turn r.session r.store coming with
    | .going, some (event, t) =>
      { session := t.session
        store := t.side.site.store
        verdict := t.verdict
        said := r.said ++ t.side.sent.map (·.frame)
        journal := r.journal ++ r.entered event }
    | _, _ => r
  | .written item =>
    { r with
      store := Exchange.written r.store item
      journal := r.journal ++ [.written item] }
  | .taken origin items etag =>
    { r with
      store := Exchange.taken r.store origin items etag
      journal := r.journal ++ [.taken origin items etag] }

/-- A session with its store, after whatever happened to them. -/
def after (s : Session) (store : Store) (happenings : List Happening) : Streaming :=
  happenings.foldl happen ⟨s, store, .going, [], []⟩

/-- What was said answers a journal: all the acknowledgements that it calls for, or all but the
last one, which could not be written, so that the session ended. -/
def Answers (r : Streaming) (journal : List JournalEntry) : Prop :=
  acksOf r.said = acksDue journal ∨
    ∃ last e, acksDue journal = acksOf r.said ++ [last] ∧
      r.verdict = .over (.error e) ∧ r.session.AckFailed last e

/-- Nothing is acknowledged before it was applied, and what may not be applied leaves no trace. -/
structure Faithful (first : Store) (r : Streaming) : Prop where
  /-- The journal accounts for the store: whatever was written to it stands there, and every batch
  that stands there was applied. -/
  leads : Leads first r.journal r.store
  /-- The acknowledgements are those of the batches that were applied, in order, each with the
  change vector that applying it returned. -/
  acks : r.Answers r.journal
  /-- The database has still seen all that it had seen when a batch was applied. -/
  seen : ∀ ack ∈ acksDue r.journal, r.store.changeVector.dominates ack.changeVector = true
  /-- A batch that may be applied is applied as it arrives, and answered with what the database has
  seen then. -/
  applies : ∀ {m : Moment} {coming batch plan cv store t}, r.session.drainUntil = none →
    r.session.checkBatch batch = .ok plan →
    r.store.applyBatch plan.sourceDatabaseId batch.items batch.lastEtag = .ok (cv, store) →
    m.turn r.session r.store coming = some (.arrived (.batch batch), t) →
    t.side.site.store = store ∧ cv = store.changeVector ∧
      Session.Answered ⟨batch.lastEtag, cv⟩ t
  /-- A batch that may not be applied changes nothing and is not answered, and ends the session. -/
  refused : ∀ {m : Moment} {coming batch t}, r.session.drainUntil = none →
    r.session.Refuses batch →
    m.turn r.session r.store coming = some (.arrived (.batch batch), t) →
    t.side = m.side r.store ∧ ∃ e, t.verdict = .over (.error e)
  /-- A cancelled session neither applies nor answers anything but an acknowledgement. -/
  drained : ∀ {m : Moment} {coming frame t}, r.session.drainUntil.isSome = true →
    frame.ack? = none → m.turn r.session r.store coming = some (.arrived frame, t) →
    t = ⟨r.session, m.side r.store, .going⟩

/-! ### What a turn keeps -/

variable {first : Store} {r : Streaming}

/-- What is said of single turns holds whatever happened before. -/
theorem applies_of_turn {s : Session} {store store' : Store} {m : Moment} {coming : List Frame}
    {batch : Batch} {plan : InboundPlan} {cv : ChangeVector} {t : SessionTurn}
    (hdrain : s.drainUntil = none) (hcheck : s.checkBatch batch = .ok plan)
    (happly : store.applyBatch plan.sourceDatabaseId batch.items batch.lastEtag =
      .ok (cv, store'))
    (hturn : m.turn s store coming = some (.arrived (.batch batch), t)) :
    t.side.site.store = store' ∧ cv = store'.changeVector ∧
      Session.Answered ⟨batch.lastEtag, cv⟩ t := by
  obtain ⟨event, hnext, heq⟩ := Option.map_eq_some_iff.1 hturn
  cases heq
  have hwriting := Session.writing_of_next?_arrived hnext
  obtain ⟨hstore, hanswered⟩ := @Session.acks_of_applied s (m.side store) m.now m.wall _ _ rfl
    (Session.application?_of_ok hwriting hdrain hcheck happly)
  exact ⟨hstore, (Store.changeVector_applyBatch happly).symm, hanswered⟩

theorem refused_of_turn {s : Session} {store : Store} {m : Moment} {coming : List Frame}
    {batch : Batch} {t : SessionTurn} (hdrain : s.drainUntil = none) (h : s.Refuses batch)
    (hturn : m.turn s store coming = some (.arrived (.batch batch), t)) :
    t.side = m.side store ∧ ∃ e, t.verdict = .over (.error e) := by
  obtain ⟨event, hnext, heq⟩ := Option.map_eq_some_iff.1 hturn
  cases heq
  exact Session.handle_of_refuses (Session.writing_of_next?_arrived hnext) hdrain h

theorem drained_of_turn {s : Session} {store : Store} {m : Moment} {coming : List Frame}
    {frame : Frame} {t : SessionTurn} (hdrain : s.drainUntil.isSome = true)
    (hframe : frame.ack? = none) (hturn : m.turn s store coming = some (.arrived frame, t)) :
    t = ⟨s, m.side store, .going⟩ := by
  obtain ⟨event, hnext, heq⟩ := Option.map_eq_some_iff.1 hturn
  cases heq
  exact Session.handle_of_drain (Session.writing_of_next?_arrived hnext) hdrain hframe

/-- A journal that accounts for the store and is answered makes all of it hold. -/
theorem Faithful.of_leads (hleads : Leads first r.journal r.store) (hacks : r.Answers r.journal) :
    r.Faithful first :=
  ⟨hleads, hacks, hleads.seen, applies_of_turn, refused_of_turn, drained_of_turn⟩

/-- A session that goes on acknowledged all that it applied. -/
theorem Answers.of_going {journal : List JournalEntry} (h : r.Answers journal)
    (hgoing : r.verdict = .going) : acksOf r.said = acksDue journal := by
  rcases h with hacks | ⟨_, _, -, hover, -⟩
  · exact hacks
  · rw [hgoing] at hover
    cases hover

theorem Faithful.turn (h : r.Faithful first) (m : Moment) (coming : List Frame) :
    (r.happen (.turn m coming)).Faithful first := by
  simp only [happen]
  split
  · rename_i event t hgoing hturn
    have hacks := h.acks.of_going hgoing
    obtain ⟨event, hnext, heq⟩ := Option.map_eq_some_iff.1 hturn
    cases heq
    cases happlied : r.session.application? r.store event with
    | none =>
        obtain ⟨hstore, hsaid⟩ := @Session.acks_of_not_applied r.session (m.side r.store) m.now
          m.wall event rfl happlied
        simp only [entered, happlied, Option.map_none, Option.toList_none, List.append_nil]
        refine .of_leads ?_ (.inl ?_)
        · simp only [hstore]
          exact h.leads
        · simp only [acksOf_append, hsaid, hacks, List.append_nil]
    | some a =>
        obtain ⟨hstore, hanswered⟩ := @Session.acks_of_applied r.session (m.side r.store) m.now
          m.wall event a rfl happlied
        obtain ⟨-, -, -, -, -, -, happly⟩ := Session.application?_eq_some happlied
        simp only [entered, happlied, Option.map_some, Option.toList_some]
        have hdue : acksDue (r.journal ++ [.applied a]) = acksOf r.said ++ [a.ack] := by
          rw [acksDue_append, hacks]
          rfl
        refine .of_leads ?_ ?_
        · simp only [hstore]
          exact h.leads.applied happly
        · rcases hanswered with hsaid | ⟨hsaid, e, hover, hfailed⟩
          · exact .inl (by simp only [acksOf_append, hsaid, hdue])
          · refine .inr ⟨a.ack, e, ?_, hover, hfailed⟩
            simp only [acksOf_append, hsaid, List.append_nil, hdue]
  · exact h

/-- A write of others leaves the acknowledgements as they are. -/
theorem Faithful.written (h : r.Faithful first) {store : Store} {entry : JournalEntry}
    (hleads : Leads first (r.journal ++ [entry]) store) (hentry : entry.ack? = none) :
    { r with store, journal := r.journal ++ [entry] }.Faithful first := by
  refine .of_leads hleads ?_
  simpa only [Answers, acksDue_append_of_none hentry] using h.acks

theorem Faithful.happen (h : r.Faithful first) (happening : Happening) :
    (r.happen happening).Faithful first := by
  cases happening with
  | turn m coming => exact h.turn m coming
  | written item => exact h.written (h.leads.written item) rfl
  | taken origin items etag => exact h.written (h.leads.taken origin items etag) rfl

/-- Whatever happens to a session and to its store, nothing is acknowledged before it was applied,
and what may not be applied leaves no trace. -/
theorem faithful_after (s : Session) (store : Store) (happenings : List Happening) :
    (after s store happenings).Faithful store := by
  suffices h : ∀ {start : Streaming}, start.Faithful store →
      (happenings.foldl Streaming.happen start).Faithful store from
    h (.of_leads .nil (.inl rfl))
  induction happenings with
  | nil => exact id
  | cons happening rest ih => exact fun hstart => ih (hstart.happen happening)

end Streaming

end HubReplication
