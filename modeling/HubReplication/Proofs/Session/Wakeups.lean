/-
**Wake-ups.**

A session sends what its store has, and its store is written to while it does: here, and by others
that the session knows nothing of.  Writes, acknowledgements, timers and turns of the session come
in any order.  A session that waits is never left behind: if there is anything above its cursor, a
timer is set, or it has yet to look, or the store has told of a write that it has not heard of, or a
batch is in flight, whose acknowledgement lets it look again.  And it is never ahead: at most one
batch is in flight, its cursor never goes back, and when it sends a batch, everything that the store
has from where it started up to the etag that the batch covers is old enough.

What was sent is listed with the time and the store it was built from.  Nothing reads the list; it
is there to speak of the past.

Main definitions:

* `Dispatch`, `Sender` — a session that sends, its store, its clocks, and what it sent;
* `Sender.Step`, `Sender.Reaches` — one thing that happens, and anything that happens;
* `Sender.Alert`, `Sender.Ordered`, `Sender.Ripe` — what holds after anything;
* `Sender.Vigilant` — no wake-up is lost, and nothing is jumped over.

Main results:

* `Sender.Alert.moved`, `Sender.Ordered.moved`, `Sender.Ripe.moved` — what one step keeps;
* `Sender.vigilant_of_reaches` — no wake-up is lost, and nothing is jumped over.
-/

import HubReplication.Proofs.Session.Pace

set_option relaxedAutoImplicit false
set_option autoImplicit false

namespace HubReplication

/-! ### What may happen -/

/-- A batch that was sent, with the time and the store it was built from. -/
structure Dispatch where
  batch : Batch
  wall : Instant
  store : Store

/-- A session that sends, its store, the clock of its timers and that of the calendar, and what was
sent so far. -/
structure Sender where
  session : Session
  store : Store
  now : Nat
  wall : Instant
  sent : List Dispatch

namespace Sender

/-- After a turn of the session. -/
def turned (p : Sender) (t : SessionTurn) : Sender :=
  { p with
    session := t.session
    store := t.side.site.store
    sent := p.sent ++ (Session.sentIn t).map fun batch => ⟨batch, p.wall, p.store⟩ }

/-- What may happen next, as long as the session goes on. -/
inductive Step (p : Sender) : Sender → Prop
  /-- A version is written at the store, and readers are told of it. -/
  | written {item : Item} {store : Store} (h : p.store.LocalWrite item store) :
      Step p { p with store }
  /-- The store takes over a batch through another session. -/
  | taken {source : String} {items : List Item} {etag : Nat} {cv : ChangeVector} {store : Store}
      (h : p.store.applyBatch source items etag = .ok (cv, store)) : Step p { p with store }
  /-- Time goes by. -/
  | passed {now : Nat} {wall : Instant} (hnow : p.now ≤ now) (hwall : p.wall ≤ wall)
      (hplain : wall.Plain) : Step p { p with now, wall }
  /-- The session deals with anything that it may deal with. -/
  | turn {event : SessionEvent} {side : LocalSide} (hstore : side.site.store = p.store)
      (hside : side.sent = []) (hready : p.session.Ready p.now p.store.announcements event)
      (hgoing : (p.session.handle side p.now p.wall event).verdict = .going) :
      Step p (p.turned (p.session.handle side p.now p.wall event))

/-- Anything that may happen. -/
inductive Reaches (p : Sender) : Sender → Prop
  | refl : Reaches p p
  | step {q r : Sender} (h : Reaches p q) (hstep : q.Step r) : Reaches p r

/-- A session that sends under a plan begins. -/
structure Starts (p : Sender) (plan : OutboundPlan) : Prop where
  starts : ∃ terms, Session.start? terms p.now p.store.announcements = some p.session
  plan_eq : p.session.terms.outbound = some plan
  max_pos : 0 < p.session.terms.maxBatchSize
  wellIndexed : p.store.WellIndexed
  plain : p.wall.Plain
  sent_eq : p.sent = []

/-! ### What a step does -/

variable {plan : OutboundPlan} {p q r : Sender}

/-- All that matters of a step. -/
inductive Moved (p : Sender) : Sender → Prop
  | stored {store : Store} (hlater : p.store.Later store) (htells : p.store.Tells store) :
      Moved p { p with store }
  | passed {now : Nat} {wall : Instant} (hwall : p.wall ≤ wall) (hplain : wall.Plain) :
      Moved p { p with now, wall }
  | turned {t : SessionTurn} (hpace : p.session.Pace p.store p.wall t) : Moved p (p.turned t)

theorem Step.moved (hplan : p.session.terms.outbound = some plan) (h : p.Step q) : p.Moved q := by
  cases h with
  | written h =>
      obtain ⟨_, hwrite⟩ := h.exists_writeLocal
      exact .stored (Store.writeLocal_later hwrite) (Store.tells_writeLocal hwrite)
  | taken h => exact .stored (Store.applyBatch_later h) (Store.tells_applyBatch h)
  | passed _ hwall hplain => exact .passed hwall hplain
  | turn hstore hside hready hgoing =>
      rw [← hstore] at hready
      have hpace := Session.pace_of_going hside hplan hready hgoing
      rw [hstore] at hpace
      exact .turned hpace

/-- A turn keeps the terms, and the store grows at most. -/
theorem store_of_pace {t : SessionTurn} (h : p.session.Pace p.store p.wall t) :
    t.session.terms = p.session.terms ∧ p.store.Later t.side.site.store ∧
      p.store.Tells t.side.site.store := by
  have hsame : ∀ {store : Store}, store = p.store → p.store.Later store ∧ p.store.Tells store := by
    rintro _ rfl
    exact ⟨.refl _, .inr ⟨rfl, rfl⟩⟩
  cases h with
  | rests h => exact ⟨h.steady.terms_eq, hsame h.store_eq⟩
  | applied h happly _ =>
      exact ⟨h.terms_eq, Store.applyBatch_later happly, Store.tells_applyBatch happly⟩
  | woken h | acknowledged h | searched h | sent h => exact ⟨h.terms_eq, hsame h.store_eq⟩

/-- What no step changes. -/
structure Fits (plan : OutboundPlan) (p : Sender) : Prop where
  plan_eq : p.session.terms.outbound = some plan
  max_pos : 0 < p.session.terms.maxBatchSize
  wellIndexed : p.store.WellIndexed
  plain : p.wall.Plain

theorem Fits.moved (h : p.Fits plan) (hmoved : p.Moved q) : q.Fits plan := by
  cases hmoved with
  | stored hlater _ => exact ⟨h.plan_eq, h.max_pos, hlater.wellIndexed h.wellIndexed, h.plain⟩
  | passed _ hplain => exact ⟨h.plan_eq, h.max_pos, h.wellIndexed, hplain⟩
  | @turned t hpace =>
      obtain ⟨hterms, hlater, -⟩ := store_of_pace hpace
      refine ⟨?_, ?_, hlater.wellIndexed h.wellIndexed, h.plain⟩
      · exact (congrArg SessionTerms.outbound hterms).trans h.plan_eq
      · rw [turned, hterms]
        exact h.max_pos

/-! ### No wake-up is lost -/

/-- There is nothing in the store above the cursor. -/
def Exhausted (p : Sender) : Prop :=
  ∀ ⦃k item⦄, p.store.items.get? k = some item → item.etag ≤ p.session.cursor

/-- While a session streams, it will look at its store, or there is nothing to send. -/
structure Alert (p : Sender) : Prop where
  seen_le : p.session.seen ≤ p.store.announcements
  driven : p.session.drainUntil = none →
    p.session.scan = true ∨ p.session.owed ≠ [] ∨ p.session.seen ≠ p.store.announcements ∨
      p.session.wakeAt.isSome = true ∨ p.Exhausted

/-- A store that tells of its writes keeps a session alert that has not heard of them. -/
theorem Alert.stored (h : p.Alert) (hsteady : p.session.Steady q.session)
    (htells : p.store.Tells q.store) : q.Alert := by
  have hseen := hsteady.seen_eq
  have hle := h.seen_le
  rcases htells with hnews | ⟨hnews, hitems⟩
  · exact ⟨by omega, fun _ => .inr (.inr (.inl (by omega)))⟩
  · refine ⟨by omega, fun hstreams => ?_⟩
    rw [hsteady.scan_eq, hsteady.owed_eq, hsteady.seen_eq, hsteady.wakeAt_eq, hnews]
    rcases h.driven (hsteady.streams hstreams) with h | h | h | h | h
    · exact .inl h
    · exact .inr (.inl h)
    · exact .inr (.inr (.inl h))
    · exact .inr (.inr (.inr (.inl h)))
    · refine .inr (.inr (.inr (.inr fun k item hitem => ?_)))
      rw [hsteady.cursor_eq]
      exact h (hitems ▸ hitem)

theorem Alert.turned (hfits : p.Fits plan) (h : p.Alert) {t : SessionTurn}
    (hpace : p.session.Pace p.store p.wall t) : (p.turned t).Alert := by
  have hadvances : p.session.Advances p.store t →
      t.session.seen ≤ t.side.site.store.announcements := by
    intro hadvances
    have hle := h.seen_le
    rw [hadvances.store_eq]
    rcases hadvances.seen_cases with hseen | hseen <;> omega
  obtain ⟨-, -, htells⟩ := store_of_pace hpace
  cases hpace with
  | rests hrests => exact h.stored hrests.steady htells
  | applied hsteady _ _ => exact h.stored hsteady htells
  | woken hwoken _ _ hscan _ => exact ⟨hadvances hwoken, fun _ => .inl hscan⟩
  | acknowledged hack _ _ hscan _ => exact ⟨hadvances hack, fun _ => .inl hscan⟩
  | sent hsent _ _ _ _ _ howed _ =>
      refine ⟨hadvances hsent, fun _ => .inr (.inl ?_)⟩
      simp [Sender.turned, howed]
  | @searched plan' chosen hsearched hplan hchosen hlast hcursor howed hwake _ =>
      refine ⟨hadvances hsearched, fun _ => .inr (.inr (.inr ?_))⟩
      rcases hwake with hready | hwake
      · -- All that there is above the cursor was looked at, and there was nothing.
        refine .inr fun k item hitem => ?_
        simp only [Sender.turned, hsearched.store_eq] at hitem ⊢
        rw [hcursor]
        exact OutboundPlan.le_of_select hfits.wellIndexed hfits.max_pos hchosen hready hlast
          (hfits.wellIndexed.get?_key hitem)
      · exact .inl hwake

theorem Alert.moved (hfits : p.Fits plan) (h : p.Alert) (hmoved : p.Moved q) : q.Alert := by
  cases hmoved with
  | stored _ htells => exact h.stored ⟨rfl, rfl, rfl, rfl, rfl, rfl, id⟩ htells
  | passed => exact ⟨h.seen_le, h.driven⟩
  | turned hpace => exact h.turned hfits hpace

/-! ### One batch at a time -/

/-- The etags that were covered by the batches sent so far. -/
def covered (p : Sender) : List Nat := p.sent.map (·.batch.lastEtag)

/-- The batches cover ascending etags, and those above the cursor are owed an acknowledgement. -/
structure Ordered (plan : OutboundPlan) (p : Sender) : Prop where
  start_le : plan.startEtag ≤ p.session.cursor
  ascending : (plan.startEtag :: p.covered).Pairwise (· < ·)
  owed_eq : p.covered.filter (p.session.cursor < ·) = p.session.owed

theorem covered_turned (p : Sender) (t : SessionTurn) :
    (p.turned t).covered = p.covered ++ (Session.sentIn t).map (·.lastEtag) := by
  simp [covered, turned]

/-- Where cursor and debts stay and nothing is sent, the order stays. -/
theorem Ordered.of_eq (h : p.Ordered plan) (hcursor : q.session.cursor = p.session.cursor)
    (howed : q.session.owed = p.session.owed) (hcovered : q.covered = p.covered) :
    q.Ordered plan := by
  refine ⟨?_, ?_, ?_⟩
  · rw [hcursor]
    exact h.start_le
  · rw [hcovered]
    exact h.ascending
  · rw [hcovered, hcursor, howed]
    exact h.owed_eq

/-- What is owed is above the cursor. -/
theorem Ordered.cursor_lt (h : p.Ordered plan) {etag : Nat} (howed : p.session.owed = [etag]) :
    p.session.cursor < etag := by
  have hmem : etag ∈ p.covered.filter (p.session.cursor < ·) := by
    rw [h.owed_eq, howed]
    exact List.mem_cons_self
  exact of_decide_eq_true (List.mem_filter.1 hmem).2

/-- Once nothing is owed, every batch is at most at the cursor. -/
theorem Ordered.le_cursor (h : p.Ordered plan) (howed : p.session.owed = []) :
    ∀ etag ∈ p.covered, etag ≤ p.session.cursor := by
  intro etag hetag
  have hfilter := h.owed_eq
  rw [howed, List.filter_eq_nil_iff] at hfilter
  simpa using hfilter etag hetag

/-- Then a batch that covers more than the cursor covers more than all of them. -/
theorem Ordered.ascending_append (h : p.Ordered plan) (howed : p.session.owed = []) {last : Nat}
    (hlast : p.session.cursor < last) :
    (plan.startEtag :: (p.covered ++ [last])).Pairwise (· < ·) := by
  have hall : ∀ etag ∈ plan.startEtag :: p.covered, etag < last :=
    List.forall_mem_cons.2 ⟨Nat.lt_of_le_of_lt h.start_le hlast,
      fun etag hetag => Nat.lt_of_le_of_lt (h.le_cursor howed etag hetag) hlast⟩
  rw [← List.cons_append, List.pairwise_append]
  refine ⟨h.ascending, List.pairwise_singleton _ _, fun etag hetag last' hmem => ?_⟩
  obtain rfl := List.mem_singleton.1 hmem
  exact hall etag hetag

/-- What was above the old cursor is the batch that is acknowledged. -/
theorem Ordered.acknowledged (h : p.Ordered plan) {etag : Nat} (howed : p.session.owed = [etag]) :
    p.covered.filter (etag < ·) = [] := by
  refine List.filter_eq_nil_iff.2 fun other hother habove => ?_
  have habove : etag < other := of_decide_eq_true habove
  have hmem : other ∈ p.covered.filter (p.session.cursor < ·) :=
    List.mem_filter.2 ⟨hother, decide_eq_true (Nat.lt_trans (h.cursor_lt howed) habove)⟩
  rw [h.owed_eq, howed, List.mem_singleton] at hmem
  omega

theorem Ordered.turned (h : p.Ordered plan) (hfits : p.Fits plan) {t : SessionTurn}
    (hflight : p.session.Flight p.store p.wall t) : (p.turned t).Ordered plan := by
  have hquiet : Session.sentIn t = [] → (p.turned t).covered = p.covered := by
    intro hsent
    rw [covered_turned, hsent, List.map_nil, List.append_nil]
  cases hflight with
  | kept hcursor howed hsent => exact h.of_eq hcursor howed (hquiet hsent)
  | acknowledged howed hsettled hsent =>
      refine ⟨Nat.le_trans h.start_le (Nat.le_of_lt (h.cursor_lt howed)), ?_, ?_⟩
      · rw [hquiet hsent]
        exact h.ascending
      · rw [hquiet hsent]
        exact (h.acknowledged howed).trans hsettled.symm
  | @sent plan' chosen _ _ hidle hchosen hlast hcursor howed hsent =>
      have hexcerpt := OutboundPlan.excerpt_of_select hfits.wellIndexed hchosen hlast
      have habove : p.session.cursor < chosen.lastEtag := hexcerpt.above_lt
      have hcovered : (p.turned t).covered = p.covered ++ [chosen.lastEtag] := by
        rw [covered_turned, hsent, List.map_singleton]
      refine ⟨?_, ?_, ?_⟩
      · simp only [Sender.turned, hcursor]
        exact h.start_le
      · rw [hcovered]
        exact h.ascending_append hidle habove
      · rw [hcovered, List.filter_append]
        simp only [Sender.turned, hcursor, howed]
        rw [h.owed_eq, hidle, List.nil_append]
        simp [habove]

theorem Ordered.moved (hfits : p.Fits plan) (h : p.Ordered plan) (hmoved : p.Moved q) :
    q.Ordered plan := by
  cases hmoved with
  | stored => exact h.of_eq rfl rfl rfl
  | passed => exact h.of_eq rfl rfl rfl
  | turned hpace => exact h.turned hfits hpace.flight

/-- The cursor never goes back. -/
theorem Ordered.cursor_le (h : p.Ordered plan) (hmoved : p.Moved q) :
    p.session.cursor ≤ q.session.cursor := by
  cases hmoved with
  | stored => exact Nat.le_refl _
  | passed => exact Nat.le_refl _
  | turned hpace =>
      cases hpace.flight with
      | kept hcursor => exact Nat.le_of_eq hcursor.symm
      | acknowledged howed => exact Nat.le_of_lt (h.cursor_lt howed)
      | sent _ _ _ _ _ hcursor => exact Nat.le_of_eq hcursor.symm

/-! ### Nothing is jumped over -/

/-- The etag up to which batches were sent. -/
def reach (p : Sender) : Nat := p.session.owed.headD p.session.cursor

theorem Ordered.cursor_le_reach (h : p.Ordered plan) : p.session.cursor ≤ p.reach := by
  unfold reach
  cases howed : p.session.owed with
  | nil => exact Nat.le_refl _
  | cons etag rest =>
      have hrest : rest = [] := by
        have hlength := p.session.length_owed_le
        rw [howed, List.length_cons] at hlength
        exact List.length_eq_zero_iff.1 (by omega)
      exact Nat.le_of_lt (h.cursor_lt (hrest ▸ howed))

/-- All that a store has above an etag, up to another, is old enough. -/
def AgedUpTo (store : Store) (wall : Instant) (delay above upTo : Nat) : Prop :=
  ∀ ⦃k item⦄, store.items.get? k = some item → above < item.etag → item.etag ≤ upTo →
    item.Aged wall delay

/-- All that batches were sent over is old enough, and was when they were sent. -/
structure Ripe (plan : OutboundPlan) (p : Sender) : Prop where
  reach_le : p.reach ≤ plan.startEtag ∨ p.reach ≤ p.store.lastEtag
  aged : AgedUpTo p.store p.wall plan.delay plan.startEtag p.reach
  sent : ∀ d ∈ p.sent,
    AgedUpTo d.store d.wall plan.delay plan.startEtag d.batch.lastEtag ∧
      ∀ item ∈ d.batch.items, item.Aged d.wall plan.delay

/-- What is written later is above all that was sent. -/
theorem Ripe.stored (h : p.Ripe plan) (hlater : p.store.Later q.store) (hwall : q.wall = p.wall)
    (hreach : q.reach = p.reach) (hsent : q.sent = p.sent) : q.Ripe plan := by
  have hgrows := hlater.lastEtag_le
  have hle := h.reach_le
  refine ⟨by omega, ?_, hsent ▸ h.sent⟩
  intro k item hitem habove hupTo
  rw [hreach] at hupTo
  rw [hwall]
  exact h.aged (hlater.old hitem (by omega)) habove hupTo

theorem Ripe.passed (h : p.Ripe plan) {now : Nat} {wall : Instant} (hwall : p.wall ≤ wall)
    (hplain : wall.Plain) : Ripe plan { p with now, wall } :=
  ⟨h.reach_le, fun _ _ hitem habove hupTo => (h.aged hitem habove hupTo).mono hplain hwall, h.sent⟩

/-- Up to the cursor all was old enough before, and above it is what would be chosen now. -/
theorem Ripe.of_select (hfits : p.Fits plan) (hordered : p.Ordered plan) (h : p.Ripe plan)
    {chosen : Selection}
    (hchosen : plan.select p.wall p.session.cursor
      (p.store.changesAfter p.session.cursor p.session.terms.maxBatchSize) = some chosen) :
    AgedUpTo p.store p.wall plan.delay plan.startEtag chosen.lastEtag := by
  intro k item hitem habove hupTo
  rcases Nat.lt_or_ge p.session.cursor item.etag with hlt | hle
  · exact OutboundPlan.aged_of_select hfits.wellIndexed hfits.plain hchosen
      (hfits.wellIndexed.get?_key hitem) hlt hupTo
  · exact h.aged hitem habove (Nat.le_trans hle hordered.cursor_le_reach)

theorem Ripe.turned (hfits : p.Fits plan) (hordered : p.Ordered plan) (h : p.Ripe plan)
    {t : SessionTurn} (hpace : p.session.Pace p.store p.wall t) : (p.turned t).Ripe plan := by
  obtain ⟨-, hlater, -⟩ := store_of_pace hpace
  have hquiet : Session.sentIn t = [] → (p.turned t).sent = p.sent := by
    intro hsent
    simp [Sender.turned, hsent]
  cases hpace.flight with
  | kept hcursor howed hsent =>
      refine h.stored hlater rfl ?_ (hquiet hsent)
      simp only [reach, Sender.turned, hcursor, howed]
  | acknowledged howed hsettled hsent =>
      refine h.stored hlater rfl ?_ (hquiet hsent)
      simp only [reach, Sender.turned, howed, hsettled, List.headD_nil, List.headD_cons]
  | @sent plan' chosen hstore hplan _ hchosen hlast _ howed hsent =>
      obtain rfl : plan' = plan := Option.some.inj (hplan.symm.trans hfits.plan_eq)
      have hexcerpt := OutboundPlan.excerpt_of_select hfits.wellIndexed hchosen hlast
      have haged := h.of_select hfits hordered hchosen
      have hnew : (p.turned t).reach = chosen.lastEtag := by
        simp only [reach, Sender.turned, howed, List.headD_cons]
      have hstore : (p.turned t).store = p.store := hstore
      refine ⟨?_, ?_, ?_⟩
      · rw [hnew, hstore]
        exact .inr hexcerpt.lastEtag_le
      · rw [hnew, hstore]
        exact haged
      · intro d hd
        simp only [Sender.turned, hsent, List.map_singleton, List.mem_append,
          List.mem_singleton] at hd
        rcases hd with hd | rfl
        · exact h.sent d hd
        · refine ⟨haged, fun item hitem => ?_⟩
          have hlt : p.session.cursor < item.etag := hexcerpt.above_lt_etag hitem
          exact haged (hexcerpt.stored hitem) (Nat.lt_of_le_of_lt hordered.start_le hlt)
            (hexcerpt.etag_le hitem)

theorem Ripe.moved (hfits : p.Fits plan) (hordered : p.Ordered plan) (h : p.Ripe plan)
    (hmoved : p.Moved q) : q.Ripe plan := by
  cases hmoved with
  | stored hlater _ => exact h.stored hlater rfl rfl rfl
  | passed hwall hplain => exact h.passed hwall hplain
  | turned hpace => exact h.turned hfits hordered hpace

/-! ### Everything that happens -/

/-- What holds after anything that happens. -/
structure Sound (plan : OutboundPlan) (p : Sender) : Prop where
  fits : p.Fits plan
  alert : p.Alert
  ordered : p.Ordered plan
  ripe : p.Ripe plan

theorem Sound.step (h : p.Sound plan) (hstep : p.Step q) :
    q.Sound plan ∧ p.session.cursor ≤ q.session.cursor := by
  have hmoved := hstep.moved h.fits.plan_eq
  exact ⟨⟨h.fits.moved hmoved, h.alert.moved h.fits hmoved, h.ordered.moved h.fits hmoved,
    h.ripe.moved h.fits h.ordered hmoved⟩, h.ordered.cursor_le hmoved⟩

theorem Sound.reaches (h : p.Sound plan) (hreaches : p.Reaches q) :
    q.Sound plan ∧ p.session.cursor ≤ q.session.cursor := by
  induction hreaches with
  | refl => exact ⟨h, Nat.le_refl _⟩
  | step _ hstep ih =>
      obtain ⟨hsound, hle⟩ := ih
      obtain ⟨hsound', hle'⟩ := hsound.step hstep
      exact ⟨hsound', Nat.le_trans hle hle'⟩

/-- Where a session starts, it is about to look, and nothing was sent. -/
theorem Starts.sound (h : p.Starts plan) : p.Sound plan := by
  obtain ⟨terms, hstart⟩ := h.starts
  have hplan : terms.outbound = some plan := by
    rw [← Session.terms_start hstart]
    exact h.plan_eq
  have hcursor : p.session.cursor = plan.startEtag := Session.cursor_start hstart hplan
  obtain ⟨hscan, hseen, howed⟩ : p.session.scan = true ∧ p.session.seen = p.store.announcements ∧
      p.session.owed = [] := by
    unfold Session.start? at hstart
    split at hstart
    · cases hstart
    · rw [← Option.some.inj hstart]
      simp [hplan, Session.owed]
  have hcovered : p.covered = [] := by rw [covered, h.sent_eq, List.map_nil]
  have hreach : p.reach = plan.startEtag := by rw [reach, howed, List.headD_nil, hcursor]
  refine ⟨⟨h.plan_eq, h.max_pos, h.wellIndexed, h.plain⟩, ⟨Nat.le_of_eq hseen, fun _ => .inl hscan⟩,
    ⟨Nat.le_of_eq hcursor.symm, ?_, ?_⟩, ⟨.inl (Nat.le_of_eq hreach), ?_, ?_⟩⟩
  · rw [hcovered]
    exact List.pairwise_singleton _ _
  · rw [hcovered, howed]
    rfl
  · intro k item _ habove hupTo
    omega
  · rw [h.sent_eq]
    exact List.forall_mem_nil _

/-- A session is neither left behind nor ahead. -/
structure Vigilant (plan : OutboundPlan) (p : Sender) : Prop where
  /-- A session that waits for nothing but its peer has sent everything. -/
  exhausted : p.session.writing = none → p.session.drainUntil = none →
    p.session.inFlight = none → p.session.scan = false →
    p.session.seen = p.store.announcements → p.session.wakeAt = none → p.Exhausted
  /-- While there is anything above the cursor, something will wake the session. -/
  driven : p.session.writing = none → p.session.drainUntil = none →
    ∀ ⦃k item⦄, p.store.items.get? k = some item → p.session.cursor < item.etag →
      p.session.wakeAt.isSome = true ∨ p.session.scan = true ∨
        p.session.seen ≠ p.store.announcements ∨ p.session.inFlight.isSome = true
  /-- Of the batches sent, at most one is above the cursor. -/
  single : (p.sent.filter fun d => p.session.cursor < d.batch.lastEtag).length ≤ 1
  /-- Each batch covers more than the last, from where the session started. -/
  ascending : (plan.startEtag :: p.sent.map (·.batch.lastEtag)).Pairwise (· < ·)
  /-- Whatever would be chosen for a batch now, all up to there is old enough. -/
  built : ∀ ⦃chosen⦄, plan.select p.wall p.session.cursor
      (p.store.changesAfter p.session.cursor p.session.terms.maxBatchSize) = some chosen →
    AgedUpTo p.store p.wall plan.delay plan.startEtag chosen.lastEtag
  /-- When a batch was sent, all that it and those before it cover was old enough. -/
  ripe : ∀ d ∈ p.sent, AgedUpTo d.store d.wall plan.delay plan.startEtag d.batch.lastEtag ∧
    ∀ item ∈ d.batch.items, item.Aged d.wall plan.delay

theorem Alert.will_wake (h : p.Alert) (hwriting : p.session.writing = none)
    (hstreams : p.session.drainUntil = none) {k : ItemKey} {item : Item}
    (hitem : p.store.items.get? k = some item) (hlt : p.session.cursor < item.etag) :
    p.session.wakeAt.isSome = true ∨ p.session.scan = true ∨
      p.session.seen ≠ p.store.announcements ∨ p.session.inFlight.isSome = true := by
  rcases h.driven hstreams with h | h | h | h | h
  · exact .inr (.inl h)
  · refine .inr (.inr (.inr ?_))
    rw [Session.owed_of_not_writing hwriting] at h
    simpa [Option.isSome_iff_ne_none] using h
  · exact .inr (.inr (.inl h))
  · exact .inl h
  · exact absurd (h hitem) (Nat.not_le.2 hlt)

theorem Sound.vigilant (h : p.Sound plan) : p.Vigilant plan := by
  refine ⟨?_, fun hwriting hstreams _ _ => h.alert.will_wake hwriting hstreams, ?_,
    h.ordered.ascending, fun _ => h.ripe.of_select h.fits h.ordered, h.ripe.sent⟩
  · intro hwriting hstreams hflight hscan hseen hwake k item hitem
    refine Nat.not_lt.1 fun hlt => ?_
    have hdriven := h.alert.will_wake hwriting hstreams hitem hlt
    simp [hflight, hscan, hseen, hwake] at hdriven
  · have howed := congrArg List.length h.ordered.owed_eq
    rw [covered, List.filter_map, List.length_map] at howed
    exact Nat.le_trans (Nat.le_of_eq howed) (Session.length_owed_le p.session)

/-- No wake-up is lost and nothing is jumped over, whatever happens in whatever order, and the
cursor only moves forward. -/
theorem vigilant_of_reaches (hstart : p.Starts plan) (hreaches : p.Reaches q) :
    q.Vigilant plan ∧ ∀ {r : Sender}, q.Reaches r → q.session.cursor ≤ r.session.cursor := by
  obtain ⟨hsound, -⟩ := hstart.sound.reaches hreaches
  exact ⟨hsound.vigilant, fun hon => (hsound.reaches hon).2⟩

/-- Everything is sent once it is a second old. -/
def afterSecond : OutboundPlan := { startEtag := 0, allowedPaths := .empty, delay := 1000 }

/-- A side with a document in its store that was written at the start of 1970. -/
def freshSide : LocalSide :=
  { site := {
      store := (Chronicle.after "src" [.put "users/1" "Users" .null ⟨0, 0⟩]).store
      failures := .empty 1, activity := .empty, metrics := default, share := 0, entries := [] }
    runtime := .initial, reachable := true, sent := [] }

/-- A session that starts a quarter of a second after the document was written. -/
def eager : Sender :=
  { session := {
      terms := {
        peer := "sink", compression := ⟨false, 0⟩, heartbeat := 5000, maxBatchSize := 10
        outbound := some afterSecond, inbound := none }
      cursor := 0, inFlight := none, wakeAt := none, scan := true, lastSeen := 0, nextBeat := 5000
      seen := 1, drainUntil := none, writing := none }
    store := freshSide.site.store, now := 0, wall := ⟨0, 250000000⟩, sent := [] }

/-- The same session once it looked at its store. -/
def patient : Sender := eager.turned (eager.session.handle freshSide eager.now eager.wall .scan)

/-- A document that is too young sets a timer. -/
theorem vigilant_patient :
    eager.Starts afterSecond ∧ eager.Reaches patient ∧ patient.session.wakeAt = some 750 ∧
      patient.Vigilant afterSecond ∧
        ∀ {r : Sender}, patient.Reaches r → patient.session.cursor ≤ r.session.cursor := by
  have hstarts : eager.Starts afterSecond :=
    { starts := ⟨eager.session.terms, rfl⟩
      plan_eq := rfl
      max_pos := by decide
      wellIndexed := Chronicle.wellIndexed_after "src" _
      plain := ⟨by decide, by decide⟩
      sent_eq := rfl }
  have hstep : eager.Step patient := .turn rfl rfl (.scan rfl rfl) rfl
  have hreaches : eager.Reaches patient := .step .refl hstep
  exact ⟨hstarts, hreaches, rfl, vigilant_of_reaches hstarts hreaches⟩

end Sender

end HubReplication
