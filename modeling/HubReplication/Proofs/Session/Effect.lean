/-
**What a turn of a session does.**

A session has many events to deal with, and little that others see of it: it may build a batch, move
its cursor over an acknowledgement, or apply a batch and acknowledge it.  In every other turn cursor
and store stay as they are, and at most a heartbeat or a goodbye is said.  All proofs about sessions
go by these four cases.

Main definitions:

* `Session.applied?` — the batch that a turn applies, if it applies one;
* `Session.Effect` — cursor, store and what was said after a turn.

Main results:

* `Session.handle_effect` — every turn is one of the four;
* `Session.share_handle` — no turn touches what chance decides;
* `Session.Effect.store_cases`, `Session.Effect.cursor_cases`, `Session.Effect.excerpt_of_mem`,
  `Session.Effect.applied_of_ack_mem` — what they say of store, cursor, batches and
  acknowledgements;
* `Session.cursor_start`, `Session.terms_start` — where a session begins.
-/

import HubReplication.Proofs.Session.Selection
import HubReplication.Proofs.Store.Growth
import HubReplication.Session.Turn

set_option relaxedAutoImplicit false
set_option autoImplicit false

namespace HubReplication

/-- A frame that carries no data: a heartbeat or a goodbye. -/
def Frame.isControl : Frame → Bool
  | .heartbeat | .close _ => true
  | _ => false

namespace Session

/-! ### The four cases -/

/-- The batch that a session applies when it deals with an event. -/
def applied? (s : Session) (store : Store) : SessionEvent → Option Batch
  | .arrived (.batch batch) =>
    if s.writing.isSome || s.drainUntil.isSome then none
    else
      match s.checkBatch batch with
      | .error _ => none
      | .ok plan =>
        match store.applyBatch plan.sourceDatabaseId batch.items batch.lastEtag with
        | .error _ => none
        | .ok _ => some batch
  | _ => none

/-- Cursor, store and what was said after a turn. -/
inductive Effect (s : Session) (store : Store) (event : SessionEvent) :
    Nat → Store → List Frame → Prop
  /-- Nothing but heartbeats and goodbyes. -/
  | quiet {said : List Frame} (happlied : s.applied? store event = none)
      (hsaid : ∀ f ∈ said, f.isControl = true) : Effect s store event s.cursor store said
  /-- An excerpt of the store after the cursor was sent. -/
  | sent {plan : OutboundPlan} {batch : Batch} (happlied : s.applied? store event = none)
      (hplan : s.terms.outbound = some plan)
      (hbatch : store.Excerpt plan.allowedPaths s.cursor batch) :
      Effect s store event s.cursor store [.batch batch]
  /-- The cursor moved over an acknowledgement. -/
  | acknowledged {ack : Ack} {said : List Frame} (hevent : event = .arrived (.ack ack))
      (hsaid : ∀ f ∈ said, f.isControl = true) : Effect s store event ack.lastEtag store said
  /-- A batch was applied, and acknowledged unless the line broke. -/
  | applied {plan : InboundPlan} {batch : Batch} {cv : ChangeVector} {store' : Store}
      {said : List Frame} (hevent : event = .arrived (.batch batch))
      (happlied : s.applied? store event = some batch) (hplan : s.terms.inbound = some plan)
      (happly : store.applyBatch plan.sourceDatabaseId batch.items batch.lastEtag =
        .ok (cv, store'))
      (hsaid : said = [] ∨ said = [.ack ⟨batch.lastEtag, cv⟩]) :
      Effect s store event s.cursor store' said

/-- A turn keeps to the terms, says something after what was said before, and has an effect. -/
structure Does (s : Session) (side : LocalSide) (event : SessionEvent) (t : SessionTurn) : Prop where
  terms_eq : t.session.terms = s.terms
  effect : ∃ said, t.side.sent = side.sent ++ said ∧
    Effect s side.site.store event t.session.cursor t.side.site.store (said.map (·.frame))

/-- When a session last heard of its peer has no part in what a turn does. -/
theorem Effect.of_bookkeeping {s : Session} {now : Nat} {store store' : Store}
    {event : SessionEvent} {cursor : Nat} {said : List Frame}
    (h : Effect { s with lastSeen := now } store event cursor store' said) :
    Effect s store event cursor store' said := by
  cases h with
  | quiet happlied hsaid => exact .quiet happlied hsaid
  | sent happlied hplan hbatch => exact .sent happlied hplan hbatch
  | acknowledged hevent hsaid => exact .acknowledged hevent hsaid
  | applied hevent happlied hplan happly hsaid =>
      exact .applied hevent happlied hplan happly hsaid

/-! ### Turns without an effect -/

/-- A turn that leaves cursor and store as they are and says no more than a goodbye. -/
structure Idles (s : Session) (side : LocalSide) (t : SessionTurn) : Prop where
  terms_eq : t.session.terms = s.terms
  cursor_eq : t.session.cursor = s.cursor
  store_eq : t.side.site.store = side.site.store
  said : ∃ said, t.side.sent = side.sent ++ said ∧ ∀ w ∈ said, w.frame.isControl = true

theorem Idles.does {s : Session} {side : LocalSide} {t : SessionTurn} (h : s.Idles side t)
    {event : SessionEvent} (happlied : s.applied? side.site.store event = none) :
    s.Does side event t := by
  obtain ⟨said, hsent, hcontrol⟩ := h.said
  refine ⟨h.terms_eq, said, hsent, ?_⟩
  rw [h.cursor_eq, h.store_eq]
  refine .quiet happlied fun f hf => ?_
  obtain ⟨w, hw, rfl⟩ := List.mem_map.1 hf
  exact hcontrol w hw

section Idle

variable {s s' : Session} {side : LocalSide}

/-- Bookkeeping has no effect. -/
theorem idles_of_eq {t : SessionTurn} (hterms : t.session.terms = s.terms)
    (hcursor : t.session.cursor = s.cursor) (hstore : t.side.site.store = side.site.store)
    (hsent : t.side.sent = side.sent) : s.Idles side t :=
  ⟨hterms, hcursor, hstore, [], by simp [hsent], by simp⟩

/-- Saying something without data has no effect. -/
theorem idles_of_write {t : SessionTurn} {frame : Frame} {c : FrameCompression} {n : Nat}
    (hwrite : side.write frame c = .ok (n, t.side)) (hframe : frame.isControl = true)
    (hterms : t.session.terms = s.terms) (hcursor : t.session.cursor = s.cursor) :
    s.Idles side t := by
  obtain ⟨bytes, -, hside⟩ := LocalSide.write_eq_ok hwrite
  refine ⟨hterms, hcursor, by rw [hside], [⟨frame, bytes⟩], by rw [hside], ?_⟩
  simpa using hframe

theorem idles_finish (s : Session) (side : LocalSide) : s.Idles side (s.finish side) := by
  unfold finish
  split
  · rename_i hwrite
    exact idles_of_write hwrite rfl rfl rfl
  · exact idles_of_eq rfl rfl rfl rfl

theorem idles_finishIfIdle (s : Session) (side : LocalSide) :
    s.Idles side (s.finishIfIdle side) := by
  unfold finishIfIdle
  split
  · exact idles_finish s side
  · exact idles_of_eq rfl rfl rfl rfl

theorem idles_beat (s : Session) (side : LocalSide) (now : Nat) :
    s.Idles side (s.beat side now) := by
  unfold beat
  simp only
  split
  · exact idles_of_eq rfl rfl rfl rfl
  · split
    · exact idles_of_eq rfl rfl rfl rfl
    · rename_i hwrite
      exact idles_of_write hwrite rfl rfl rfl

theorem idles_written (s : Session) (side : LocalSide) (w : Writing) :
    s.Idles side (s.written side w) := by
  cases w <;> exact idles_of_eq rfl rfl rfl rfl

theorem idles_severed (s : Session) (side : LocalSide) (w : Writing) :
    s.Idles side (s.severed side w) := by
  cases w <;> exact idles_of_eq rfl rfl rfl rfl

/-- What starts from a session that differs in its bookkeeping starts from the session. -/
theorem Idles.of_eq {t : SessionTurn} (h : s'.Idles side t) (hterms : s'.terms = s.terms)
    (hcursor : s'.cursor = s.cursor) : s.Idles side t :=
  ⟨h.terms_eq.trans hterms, h.cursor_eq.trans hcursor, h.store_eq, h.said⟩

end Idle

/-- A turn that is bookkeeping alone. -/
theorem does_of_eq {s : Session} {side : LocalSide} {event : SessionEvent} {t : SessionTurn}
    (happlied : s.applied? side.site.store event = none) (hterms : t.session.terms = s.terms)
    (hcursor : t.session.cursor = s.cursor) (hstore : t.side.site.store = side.site.store)
    (hsent : t.side.sent = side.sent) : s.Does side event t :=
  (idles_of_eq hterms hcursor hstore hsent).does happlied

/-! ### Sending -/

/-- Looking for something to send is bookkeeping, or it writes what the plan chooses of the change
stream after the cursor. -/
theorem send_cases (s : Session) (side : LocalSide) (now : Nat) (wall : Instant) :
    s.Idles side (s.send side now wall) ∨
      ∃ plan chosen bytes, s.terms.outbound = some plan ∧
        plan.select wall s.cursor
          (side.site.store.changesAfter s.cursor s.terms.maxBatchSize) = some chosen ∧
        chosen.lastEtag ≠ s.cursor ∧
        (s.send side now wall).session.terms = s.terms ∧
        (s.send side now wall).session.cursor = s.cursor ∧
        (s.send side now wall).side =
          { side with sent := side.sent ++ [⟨.batch ⟨chosen.items, chosen.lastEtag⟩, bytes⟩] } := by
  unfold send
  simp only
  split
  · exact .inl (idles_of_eq rfl rfl rfl rfl)
  · rename_i plan hplan
    split
    · exact .inl (idles_of_eq rfl rfl rfl rfl)
    · rename_i chosen hchosen
      -- When the next item is old enough is bookkeeping, in either case.
      cases chosen.readyIn <;> simp only
      all_goals
        split
        · exact .inl (idles_of_eq rfl rfl rfl rfl)
        · rename_i hne
          split
          · exact .inl (idles_of_eq rfl rfl rfl rfl)
          · rename_i hwrite
            obtain ⟨bytes, -, rfl⟩ := LocalSide.write_eq_ok hwrite
            exact .inr ⟨plan, chosen, bytes, hplan, hchosen, hne, rfl, rfl, rfl⟩

theorem does_send {s : Session} {side : LocalSide} (hstore : side.site.store.WellIndexed)
    (now : Nat) (wall : Instant) : s.Does side .scan (s.send side now wall) := by
  rcases send_cases s side now wall with
    hidles | ⟨plan, chosen, bytes, hplan, hchosen, hne, hterms, hcursor, hside⟩
  · exact hidles.does rfl
  · have hbatch := OutboundPlan.excerpt_of_select hstore hchosen hne
    refine ⟨hterms, [⟨_, bytes⟩], by rw [hside], ?_⟩
    rw [hcursor, hside]
    exact .sent rfl hplan hbatch

/-! ### Receiving -/

theorem acknowledge_of_inFlight {s : Session} {ack : Ack} (h : s.inFlight = some ack.lastEtag)
    (side : LocalSide) : s.acknowledge side ack =
      ⟨{ s with cursor := ack.lastEtag, inFlight := none, scan := true },
        side.onRuntime fun r => { r with lastSent := ack.changeVector }, .going⟩ := by
  rw [acknowledge, if_pos h]

theorem does_acknowledge (s : Session) (side : LocalSide) (ack : Ack) :
    s.Does side (.arrived (.ack ack)) (s.acknowledge side ack) := by
  by_cases h : s.inFlight = some ack.lastEtag
  · rw [acknowledge_of_inFlight h]
    exact ⟨rfl, [], by simp [LocalSide.onRuntime], .acknowledged rfl (by simp)⟩
  · rw [acknowledge, if_neg h]
    exact does_of_eq rfl rfl rfl rfl rfl

/-- A batch that may be applied is within the paths of the plan. -/
theorem checkBatch_eq_ok {s : Session} {batch : Batch} {plan : InboundPlan}
    (h : s.checkBatch batch = .ok plan) :
    s.terms.inbound = some plan ∧
      ∀ item ∈ batch.items, PathFilter.allows plan.allowedPaths item.id = true := by
  unfold checkBatch at h
  split at h
  · cases h
  · rename_i inbound hinbound
    split at h
    · cases h
    · rename_i hnone
      cases h
      refine ⟨hinbound, fun item hitem => ?_⟩
      simpa using List.find?_eq_none.1 hnone item hitem

theorem does_take {s : Session} {side : LocalSide} (hwriting : s.writing = none)
    (hdrain : s.drainUntil = none) (batch : Batch) :
    s.Does side (.arrived (.batch batch)) (s.take side batch) := by
  unfold take
  split
  · rename_i e hcheck
    exact does_of_eq (by simp [applied?, hcheck]) rfl rfl rfl rfl
  · rename_i plan hcheck
    have hplan := (checkBatch_eq_ok hcheck).1
    split
    · rename_i e happly
      exact does_of_eq (by simp [applied?, hcheck, happly]) rfl rfl rfl rfl
    · rename_i cv store happly
      have happlied : s.applied? side.site.store (.arrived (.batch batch)) = some batch := by
        simp [applied?, hwriting, hdrain, hcheck, happly]
      simp only
      split
      · refine ⟨rfl, [], by simp [LocalSide.onSite], ?_⟩
        exact .applied rfl happlied hplan happly (.inl rfl)
      · rename_i hwrite
        obtain ⟨bytes, -, rfl⟩ := LocalSide.write_eq_ok hwrite
        refine ⟨rfl, [⟨_, bytes⟩], rfl, ?_⟩
        exact .applied rfl happlied hplan happly (.inr rfl)

theorem does_receive {s : Session} (side : LocalSide) (hwriting : s.writing = none)
    (hdrain : s.drainUntil = none) (frame : Frame) :
    s.Does side (.arrived frame) (s.receive side frame) := by
  cases frame with
  | ack ack => exact does_acknowledge s side ack
  | batch batch => exact does_take hwriting hdrain batch
  | heartbeat => exact does_of_eq rfl rfl rfl rfl rfl
  | close reason => exact does_of_eq rfl rfl rfl rfl rfl
  | handshake h => exact does_of_eq rfl rfl rfl rfl rfl
  | response r => exact does_of_eq rfl rfl rfl rfl rfl
  | resume etag => exact does_of_eq rfl rfl rfl rfl rfl

/-! ### Any event -/

theorem applied?_of_drain {s : Session} (h : s.drainUntil.isSome = true) (store : Store)
    (event : SessionEvent) : s.applied? store event = none := by
  unfold applied?
  split <;> simp [h]

theorem applied?_of_writing {s : Session} {w : Writing} (h : s.writing = some w) (store : Store)
    (event : SessionEvent) : s.applied? store event = none := by
  unfold applied?
  split <;> simp [h]

/-- A cancelled session still moves its cursor over an acknowledgement that it waited for. -/
theorem does_drain {s : Session} (hdrain : s.drainUntil.isSome = true) (side : LocalSide)
    (event : SessionEvent) : s.Does side event (s.drain side event) := by
  have hnone := applied?_of_drain hdrain side.site.store event
  unfold drain
  split
  · rename_i ack
    by_cases h : s.inFlight = some ack.lastEtag
    · rw [acknowledge_of_inFlight h]
      simp only
      have hidles := idles_finishIfIdle
        { s with cursor := ack.lastEtag, inFlight := none, scan := true }
        (side.onRuntime fun r => { r with lastSent := ack.changeVector })
      obtain ⟨said, hsent, hcontrol⟩ := hidles.said
      refine ⟨hidles.terms_eq, said, hsent, ?_⟩
      rw [hidles.cursor_eq, hidles.store_eq]
      refine .acknowledged rfl fun f hf => ?_
      obtain ⟨w, hw, rfl⟩ := List.mem_map.1 hf
      exact hcontrol w hw
    · rw [acknowledge, if_neg h]
      exact (idles_finish s side).does hnone
  · exact (idles_finish s side).does hnone
  · exact (idles_finish s side).does hnone
  · exact (idles_finish s side).does hnone
  · exact does_of_eq hnone rfl rfl rfl rfl

/-- Of what comes up while a session streams, only what there is to send asks for the store. -/
theorem does_stream {s : Session} (hwriting : s.writing = none) (hdrain : s.drainUntil = none)
    (side : LocalSide) (now : Nat) (wall : Instant) {event : SessionEvent} (hscan : event ≠ .scan) :
    s.Does side event (s.stream side now wall event) := by
  cases event with
  | scan => exact absurd rfl hscan
  | cancelled =>
      have h := idles_finishIfIdle { s with drainUntil := some (now + s.patience) } side
      have hidles : s.Idles side _ := h.of_eq rfl rfl
      exact hidles.does rfl
  | arrived frame =>
      have h := does_receive (s := { s with lastSeen := now }) side hwriting hdrain frame
      exact ⟨h.terms_eq, h.effect.imp fun said hsaid => ⟨hsaid.1, hsaid.2.of_bookkeeping⟩⟩
  | unreadable e => exact does_of_eq rfl rfl rfl rfl rfl
  | ended => exact does_of_eq rfl rfl rfl rfl rfl
  | changed => exact does_of_eq rfl rfl rfl rfl rfl
  | woke => exact does_of_eq rfl rfl rfl rfl rfl
  | beat => exact (idles_beat s side now).does rfl
  | drained => exact does_of_eq rfl rfl rfl rfl rfl
  | written => exact does_of_eq rfl rfl rfl rfl rfl
  | severed => exact does_of_eq rfl rfl rfl rfl rfl

/-- Whatever the store is like, a turn has one of the four effects, or looks for something to
send. -/
theorem handle_cases (s : Session) (side : LocalSide) (now : Nat) (wall : Instant)
    (event : SessionEvent) :
    s.Does side event (s.handle side now wall event) ∨
      event = .scan ∧ s.handle side now wall event = s.send side now wall := by
  cases hwriting : s.writing with
  | some w =>
      have hnone := applied?_of_writing hwriting side.site.store
      cases event with
      | written =>
          simp only [handle, hwriting]
          exact .inl ((idles_written s side w).does (hnone _))
      | severed =>
          simp only [handle, hwriting]
          exact .inl ((idles_severed s side w).does (hnone _))
      | _ =>
          rw [handle_of_writing hwriting side now wall (by simp) (by simp)]
          exact .inl (does_of_eq (hnone _) rfl rfl rfl rfl)
  | none =>
      simp only [handle, hwriting]
      split
      · rename_i hdrain
        exact .inl (does_drain hdrain side event)
      · rename_i hdrain
        by_cases hscan : event = .scan
        · subst hscan
          exact .inr ⟨rfl, rfl⟩
        · exact .inl (does_stream hwriting (by simpa using hdrain) side now wall hscan)

/-- Every turn of a session is quiet, sends an excerpt of the store, moves the cursor over an
acknowledgement, or applies a batch. -/
theorem handle_effect {s : Session} {side : LocalSide} (hstore : side.site.store.WellIndexed)
    (now : Nat) (wall : Instant) (event : SessionEvent) :
    s.Does side event (s.handle side now wall event) := by
  rcases handle_cases s side now wall event with hdoes | ⟨rfl, hsend⟩
  · exact hdoes
  · rw [hsend]
    exact does_send hstore now wall

/-! ### What a turn leaves alone -/

theorem share_write {side side' : LocalSide} {frame : Frame} {compression : FrameCompression}
    {n : Nat} (h : side.write frame compression = .ok (n, side')) :
    side'.site.share = side.site.share := by
  obtain ⟨_, -, rfl⟩ := LocalSide.write_eq_ok h
  rfl

section Share

variable (s : Session) (side : LocalSide) (now : Nat) (wall : Instant)

theorem share_finish : (s.finish side).side.site.share = side.site.share := by
  unfold finish
  split
  · rename_i hwrite
    exact share_write hwrite
  · rfl

theorem share_finishIfIdle : (s.finishIfIdle side).side.site.share = side.site.share := by
  unfold finishIfIdle
  split
  · exact share_finish s side
  · rfl

theorem share_acknowledge (ack : Ack) :
    (s.acknowledge side ack).side.site.share = side.site.share := by
  unfold acknowledge
  split <;> rfl

theorem share_drain (event : SessionEvent) :
    (s.drain side event).side.site.share = side.site.share := by
  unfold drain
  split
  · rename_i ack
    have hack := share_acknowledge s side ack
    split
    · rename_i hgoing
      rw [hgoing] at hack
      exact (share_finishIfIdle _ _).trans hack
    · rename_i hover
      rw [hover] at hack
      exact (share_finish _ _).trans hack
  all_goals first | exact share_finish s side | rfl

theorem share_take (batch : Batch) : (s.take side batch).side.site.share = side.site.share := by
  unfold take
  split
  · rfl
  · split
    · rfl
    · simp only
      split
      · rfl
      · rename_i hwrite
        exact (share_write hwrite).trans rfl

theorem share_send : (s.send side now wall).side.site.share = side.site.share := by
  unfold send
  simp only
  split
  · rfl
  · split
    · rfl
    · rename_i chosen _
      cases chosen.readyIn <;> simp only
      all_goals
        split
        · rfl
        · split
          · rfl
          · rename_i hwrite
            exact share_write hwrite

theorem share_stream (event : SessionEvent) :
    (s.stream side now wall event).side.site.share = side.site.share := by
  cases event with
  | scan => exact share_send s side now wall
  | cancelled => exact share_finishIfIdle _ side
  | arrived frame =>
      cases frame with
      | ack ack => exact share_acknowledge _ side ack
      | batch batch => exact share_take _ side batch
      | _ => rfl
  | beat =>
      simp only [stream, beat]
      split
      · rfl
      · split
        · rfl
        · rename_i hwrite
          exact share_write hwrite
  | _ => rfl

/-- Whatever a session deals with, it leaves to chance what was left to it. -/
theorem share_handle (event : SessionEvent) :
    (s.handle side now wall event).side.site.share = side.site.share := by
  unfold handle
  split
  · rename_i w _
    cases w <;> rfl
  · rename_i w _
    cases w <;> rfl
  · rfl
  · split
    · exact share_drain s side _
    · exact share_stream s side now wall _

end Share

/-! ### What an effect says -/

/-- A batch that is applied was checked against the plan. -/
theorem checkBatch_of_applied? {s : Session} {store : Store} {event : SessionEvent} {batch : Batch}
    (h : s.applied? store event = some batch) : ∃ plan, s.checkBatch batch = .ok plan := by
  unfold applied? at h
  split at h
  · split at h
    · cases h
    · split at h
      · cases h
      · rename_i plan hcheck
        split at h
        · cases h
        · cases h
          exact ⟨plan, hcheck⟩
  · cases h

section Effect

variable {s : Session} {store store' : Store} {event : SessionEvent} {cursor : Nat}
  {said : List Frame}

/-- The store is as it was, or a batch that arrived was applied to it. -/
theorem Effect.store_cases (h : s.Effect store event cursor store' said) :
    (s.applied? store event = none ∧ store' = store) ∨
      ∃ batch plan cv, event = .arrived (.batch batch) ∧ s.applied? store event = some batch ∧
        s.terms.inbound = some plan ∧
        store.applyBatch plan.sourceDatabaseId batch.items batch.lastEtag = .ok (cv, store') := by
  cases h with
  | quiet happlied _ => exact .inl ⟨happlied, rfl⟩
  | sent happlied _ _ => exact .inl ⟨happlied, rfl⟩
  | acknowledged hevent _ =>
      subst hevent
      exact .inl ⟨rfl, rfl⟩
  | applied hevent happlied hplan happly _ =>
      exact .inr ⟨_, _, _, hevent, happlied, hplan, happly⟩

theorem Effect.later (h : s.Effect store event cursor store' said) : store.Later store' := by
  rcases h.store_cases with ⟨-, rfl⟩ | ⟨batch, plan, cv, -, -, -, happly⟩
  · exact Store.Later.refl _
  · exact Store.applyBatch_later happly

/-- The cursor is where it was, or an acknowledgement arrived. -/
theorem Effect.cursor_cases (h : s.Effect store event cursor store' said) :
    cursor = s.cursor ∨ ∃ ack, event = .arrived (.ack ack) ∧ cursor = ack.lastEtag := by
  cases h with
  | quiet _ _ => exact .inl rfl
  | sent _ _ _ => exact .inl rfl
  | acknowledged hevent _ => exact .inr ⟨_, hevent, rfl⟩
  | applied _ _ _ _ _ => exact .inl rfl

/-- A batch that was said is an excerpt of the store. -/
theorem Effect.excerpt_of_mem (h : s.Effect store event cursor store' said) {batch : Batch}
    (hmem : .batch batch ∈ said) :
    ∃ plan, s.terms.outbound = some plan ∧
      store.Excerpt plan.allowedPaths s.cursor batch := by
  cases h with
  | quiet _ hsaid => cases hsaid _ hmem
  | sent _ hplan hbatch =>
      rw [List.mem_singleton] at hmem
      cases hmem
      exact ⟨_, hplan, hbatch⟩
  | acknowledged _ hsaid => cases hsaid _ hmem
  | applied _ _ _ _ hsaid => rcases hsaid with rfl | rfl <;> simp at hmem

/-- An acknowledgement that was said is that of the batch that was applied. -/
theorem Effect.applied_of_ack_mem (h : s.Effect store event cursor store' said) {ack : Ack}
    (hmem : .ack ack ∈ said) :
    ∃ batch, s.applied? store event = some batch ∧ ack.lastEtag = batch.lastEtag := by
  cases h with
  | quiet _ hsaid => cases hsaid _ hmem
  | sent _ _ _ => simp at hmem
  | acknowledged _ hsaid => cases hsaid _ hmem
  | applied _ happlied _ _ hsaid =>
      rcases hsaid with rfl | rfl
      · cases hmem
      · rw [List.mem_singleton] at hmem
        cases hmem
        exact ⟨_, happlied, rfl⟩

end Effect

/-! ### The start -/

theorem terms_start {terms : SessionTerms} {now announcements : Nat} {s : Session}
    (h : start? terms now announcements = some s) : s.terms = terms := by
  unfold start? at h
  split at h <;> cases h
  rfl

theorem cursor_start {terms : SessionTerms} {now announcements : Nat} {s : Session}
    (h : start? terms now announcements = some s) {plan : OutboundPlan}
    (hplan : terms.outbound = some plan) : s.cursor = plan.startEtag := by
  unfold start? at h
  split at h <;> cases h
  simp [hplan]

theorem cursor_start_of_none {terms : SessionTerms} {now announcements : Nat} {s : Session}
    (h : start? terms now announcements = some s) (hplan : terms.outbound = none) :
    s.cursor = 0 := by
  unfold start? at h
  split at h <;> cases h
  simp [hplan]

end Session

end HubReplication
