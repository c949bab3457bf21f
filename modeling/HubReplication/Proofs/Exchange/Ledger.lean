/-
**The ledger of an exchange.**

The cursor of an exchange lives at both ends and moves at different moments: when the target applies
a batch, when the source hears of it, and when a new link starts.  What ties these together is the
list of the batches that were taken over.  It covers every etag up to the one the target reached,
and whatever one of its batches covers and was built for, the target has seen; a batch on its way
will keep that true when it arrives, whatever happens meanwhile, since new versions stand above it.

Main definitions:

* `Exchange.Ships` — steps that send for given paths only, and take nothing over under the id of the
  source but from its sessions;
* `Parcel.Sound`, `Link.Sound`, `Exchange.Sound` — the ledger and what is on its way agree with the
  stores.

Main results:

* `Exchange.Sound.step` — every step keeps the ledger sound;
* `Exchange.sound_of_reached` — so it is sound in every exchange that is reached.
-/

import HubReplication.Proofs.Exchange.Basic

set_option relaxedAutoImplicit false
set_option autoImplicit false

namespace HubReplication

/-! ### Agreement with the stores -/

/-- A batch on its way holds all that the source has for its paths between its cursor, which the
target reached, and the etag it covers. -/
structure Parcel.Sound (used : TextSet → Prop) (e : Exchange) (p : Parcel) (b : Batch) : Prop where
  paths_used : used p.paths
  above_lt : p.above < b.lastEtag
  above_le : p.above ≤ e.reached
  lastEtag_le : b.lastEtag ≤ e.source.lastEtag
  complete : ∀ {k item}, e.source.items.get? k = some item → p.above < item.etag →
    item.etag ≤ b.lastEtag → PathFilter.allows p.paths item.id = true → item ∈ b.items

/-- The sessions of a link and what is on it do not go beyond what the target reached. -/
structure Link.Sound (used : TextSet → Prop) (e : Exchange) (link : Link) : Prop where
  near_cursor : ∀ {s}, link.near = some s → s.cursor ≤ e.reached
  near_paths : ∀ {s plan}, link.near = some s → s.terms.outbound = some plan →
    used plan.allowedPaths
  far_source : ∀ {s plan}, link.far = some s → s.terms.inbound = some plan →
    plan.sourceDatabaseId = e.source.databaseId
  acks : ∀ {ack}, .ack ack ∈ link.back → ack.lastEtag ≤ e.reached
  parcels : ∀ {p b}, p ∈ link.out → p.frame = .batch b → p.Sound used e b

namespace Exchange

/-- The ledger agrees with the stores, and so does what is on its way. -/
structure Sound (used : TextSet → Prop) (e : Exchange) : Prop where
  source_wellIndexed : e.source.WellIndexed
  target_wellIndexed : e.target.WellIndexed
  links : ∀ {link}, link ∈ e.links → link.Sound used e
  reached_le : e.reached ≤ e.source.lastEtag
  /-- The ledger covers every etag that the target reached. -/
  covered : ∀ {etag}, 0 < etag → etag ≤ e.reached → ∃ r ∈ e.shipments, r.Covers etag
  shipment_used : ∀ {r}, r ∈ e.shipments → used r.paths
  shipment_le : ∀ {r}, r ∈ e.shipments → r.upTo ≤ e.source.lastEtag
  /-- What a batch of the ledger covers and was built for was seen. -/
  delivered : ∀ {r}, r ∈ e.shipments → ∀ {k item}, e.source.items.get? k = some item →
    r.Covers item.etag → PathFilter.allows r.paths item.id = true → e.target.HasSeen item

/-- Steps that send for given paths only, and take nothing over under the id of the source but from
its sessions. -/
def Ships (used : TextSet → Prop) (e : Exchange) : Action → Prop
  | .connect near _ _ => ∀ plan, near.outbound = some plan → used plan.allowedPaths
  | .takeFar origin _ _ => origin ≠ e.source.databaseId
  | _ => True

end Exchange

/-! ### What later states keep -/

section Later

variable {used : TextSet → Prop} {e e' : Exchange}

theorem Exchange.reached_le_reached (hsource : e.source.Later e'.source)
    (htarget : e.target.Later e'.target) : e.reached ≤ e'.reached := by
  unfold Exchange.reached
  rw [hsource.databaseId_eq]
  exact htarget.accepted_le _

theorem Parcel.Sound.later {p : Parcel} {b : Batch} (h : p.Sound used e b)
    (hsource : e.source.Later e'.source) (htarget : e.target.Later e'.target) :
    p.Sound used e' b where
  paths_used := h.paths_used
  above_lt := h.above_lt
  above_le := Nat.le_trans h.above_le (Exchange.reached_le_reached hsource htarget)
  lastEtag_le := Nat.le_trans h.lastEtag_le hsource.lastEtag_le
  complete := by
    intro k item hitem hlt hle hpath
    -- What the source got meanwhile stands above the batch.
    have hold := hsource.old hitem (Nat.le_trans hle h.lastEtag_le)
    exact h.complete hold hlt hle hpath

theorem Link.Sound.later {link : Link} (h : link.Sound used e)
    (hsource : e.source.Later e'.source) (htarget : e.target.Later e'.target) :
    link.Sound used e' where
  near_cursor hs := Nat.le_trans (h.near_cursor hs) (Exchange.reached_le_reached hsource htarget)
  near_paths := h.near_paths
  far_source hs hplan := (h.far_source hs hplan).trans hsource.databaseId_eq.symm
  acks hack := Nat.le_trans (h.acks hack) (Exchange.reached_le_reached hsource htarget)
  parcels hp hb := (h.parcels hp hb).later hsource htarget

theorem Link.sound_dead : Link.dead.Sound used e where
  near_cursor h := by cases h
  near_paths h := by cases h
  far_source h := by cases h
  acks h := by cases h
  parcels h := by cases h

/-- Later stores alone change nothing, as long as the target is not told of another etag and what is
new among the links is sound. -/
theorem Exchange.Sound.later (h : e.Sound used) (hsource : e.source.Later e'.source)
    (htarget : e.target.Later e'.target) (hreached : e'.reached = e.reached)
    (hshipments : e'.shipments = e.shipments)
    (hlinks : ∀ {link}, link ∈ e'.links → link ∈ e.links ∨ link.Sound used e') :
    e'.Sound used where
  source_wellIndexed := hsource.wellIndexed h.source_wellIndexed
  target_wellIndexed := htarget.wellIndexed h.target_wellIndexed
  links hl := (hlinks hl).elim (fun hl => (h.links hl).later hsource htarget) id
  reached_le := hreached ▸ Nat.le_trans h.reached_le hsource.lastEtag_le
  covered hpos hle := hshipments ▸ h.covered hpos (hreached ▸ hle)
  shipment_used hr := h.shipment_used (hshipments ▸ hr)
  shipment_le hr := Nat.le_trans (h.shipment_le (hshipments ▸ hr)) hsource.lastEtag_le
  delivered := by
    intro r hr k item hitem hcovers hpath
    have hr' : r ∈ e.shipments := hshipments ▸ hr
    have hold := hsource.old hitem (Nat.le_trans hcovers.2 (h.shipment_le hr'))
    exact htarget.hasSeen (h.delivered hr' hold hcovers hpath)

end Later

namespace Exchange

variable {used : TextSet → Prop} {e : Exchange}

/-- Where a link takes the place of another one, the others are old. -/
theorem mem_or_sound_of_mem_set {e' : Exchange} {links : List Link} {i : Nat} {link l : Link}
    (hlink : link.Sound used e') (hl : l ∈ links.set i link) : l ∈ links ∨ l.Sound used e' := by
  rcases List.mem_or_eq_of_mem_set hl with hl | rfl
  · exact .inl hl
  · exact .inr hlink

/-! ### Links -/

theorem agree_outbound {own peer : Store} {terms : SessionTerms} {plan : OutboundPlan}
    (h : (agree own peer terms).outbound = some plan) :
    plan.startEtag = peer.lastReplicatedEtag own.databaseId ∧
      ∃ plan', terms.outbound = some plan' ∧ plan.allowedPaths = plan'.allowedPaths := by
  obtain ⟨plan', hplan', rfl⟩ := Option.map_eq_some_iff.1 h
  exact ⟨rfl, plan', hplan', rfl⟩

theorem agree_inbound {own peer : Store} {terms : SessionTerms} {plan : InboundPlan}
    (h : (agree own peer terms).inbound = some plan) :
    plan.sourceDatabaseId = peer.databaseId := by
  obtain ⟨plan', -, rfl⟩ := Option.map_eq_some_iff.1 h
  rfl

/-- Two sessions that have just started between the stores, and nothing between them. -/
theorem link_sound_of_start {near far : SessionTerms} {now : Nat} {s t : Session}
    (hpaths : ∀ plan, near.outbound = some plan → used plan.allowedPaths)
    (hs : Session.start? (agree e.source e.target near) now e.source.announcements = some s)
    (ht : Session.start? (agree e.target e.source far) now e.target.announcements = some t) :
    Link.Sound used e ⟨some s, some t, [], []⟩ where
  near_cursor := by
    rintro _ ⟨⟩
    cases hplan : (agree e.source e.target near).outbound with
    | none =>
        have hcursor : s.cursor = 0 := Session.cursor_start_of_none hs hplan
        omega
    | some plan =>
        rw [Session.cursor_start hs hplan, (agree_outbound hplan).1]
        exact Nat.le_refl _
  near_paths := by
    rintro _ plan ⟨⟩ hplan
    rw [Session.terms_start hs] at hplan
    obtain ⟨-, plan', hplan', hallowed⟩ := agree_outbound hplan
    exact hallowed ▸ hpaths plan' hplan'
  far_source := by
    rintro _ plan ⟨⟩ hplan
    rw [Session.terms_start ht] at hplan
    exact agree_inbound hplan
  acks h := by cases h
  parcels h := by cases h

theorem Sound.join (h : e.Sound used) {near far : SessionTerms}
    (hpaths : ∀ plan, near.outbound = some plan → used plan.allowedPaths) (now : Nat) :
    (e.join near far now).Sound used := by
  unfold Exchange.join
  split
  · rename_i s t hs ht
    refine h.later (Store.Later.refl _) (Store.Later.refl _) rfl rfl fun {link} hlink => ?_
    rcases List.mem_append.1 hlink with hlink | hlink
    · exact .inl hlink
    · rw [List.mem_singleton.1 hlink]
      exact .inr ((link_sound_of_start hpaths hs ht).later (Store.Later.refl _) (Store.Later.refl _))
  · exact h

/-! ### Turns -/

/-- What a session says of its store becomes a sound batch on its way. -/
theorem sound_of_excerpt {s : Session} {plan : OutboundPlan} {b : Batch}
    (hsource : e.source.WellIndexed) (hcursor : s.cursor ≤ e.reached)
    (hplan : s.terms.outbound = some plan) (hused : used plan.allowedPaths)
    (hb : e.source.Excerpt plan.allowedPaths s.cursor b) :
    Parcel.Sound used e ⟨.batch b, s.cursor, s.sendPaths⟩ b := by
  have hpaths : s.sendPaths = plan.allowedPaths := by simp [Session.sendPaths, hplan]
  rw [hpaths]
  refine ⟨hused, hb.above_lt, hcursor, hb.lastEtag_le, ?_⟩
  intro k item hitem hlt hle hpath
  exact hb.complete (hsource.get?_key hitem) hlt hle hpath

theorem Sound.afterNear (h : e.Sound used) {i : Nat} {link : Link} {s : Session}
    {event : SessionEvent} {t : SessionTurn} (hlink : link ∈ e.links) (hs : link.near = some s)
    (ht : Turned s e.source link.back event t) : (e.afterNear i link s event t).Sound used := by
  have hlater := ht.effect.later
  have hsame := Store.Later.refl e.target
  have hreached : (e.afterNear i link s event t).reached = e.reached := by
    simp only [reached, Exchange.afterNear, hlater.databaseId_eq]
  refine h.later hlater hsame hreached rfl fun hl => mem_or_sound_of_mem_set ?_ hl
  have hold := h.links hlink
  have hnew : link.Sound used (e.afterNear i link s event t) := hold.later hlater hsame
  constructor
  case near_cursor =>
    intro s' hs'
    rw [session?_eq_some hs']
    rcases ht.effect.cursor_cases with hc | ⟨ack, hevent, hc⟩
    · exact hc ▸ hnew.near_cursor hs
    · obtain ⟨rest, hback⟩ := ht.arrived hevent
      exact hc ▸ hnew.acks (hback ▸ List.mem_cons_self)
  case near_paths =>
    intro s' plan hs' hplan
    rw [session?_eq_some hs', ht.terms_eq] at hplan
    exact hold.near_paths hs hplan
  case far_source =>
    exact hnew.far_source
  case acks =>
    exact fun hack => hnew.acks (mem_of_mem_leaves hack)
  case parcels =>
    intro p b hp hb
    rcases List.mem_append.1 hp with hp | hp
    · exact hnew.parcels hp hb
    · obtain ⟨w, hw, rfl⟩ := List.mem_map.1 hp
      have hsaid : .batch b ∈ t.side.sent.map (·.frame) := hb ▸ List.mem_map_of_mem hw
      obtain ⟨plan, hplan, hexcerpt⟩ := ht.effect.excerpt_of_mem hsaid
      have hsound := sound_of_excerpt h.source_wellIndexed (hold.near_cursor hs) hplan
        (hold.near_paths hs hplan) hexcerpt
      simp only at hb
      rw [hb]
      exact hsound.later hlater hsame

theorem shipped_of_none {s : Session} {store : Store} {event : SessionEvent}
    (h : s.applied? store event = none) (coming : List Parcel) :
    shipped s store event coming = [] := by
  simp [shipped, h]

theorem shipped_of_some {s : Session} {store : Store} {event : SessionEvent} {batch : Batch}
    (h : s.applied? store event = some batch) (p : Parcel) (rest : List Parcel) :
    shipped s store event (p :: rest) = [⟨p.above, batch.lastEtag, p.paths⟩] := by
  simp [shipped, h]

/-- The link of a session on the side of the target after a turn, once the ledger is known. -/
theorem Link.Sound.afterFar {e' : Exchange} {link : Link} {s : Session} {event : SessionEvent}
    {t : SessionTurn} (hlink : link.Sound used e') (hs : link.far = some s)
    (ht : Turned s e.target (link.out.map (·.frame)) event t)
    (happlied : ∀ {batch}, s.applied? e.target event = some batch →
      batch.lastEtag ≤ e'.reached) :
    Link.Sound used e' { link with
      far := t.session?
      out := event.leaves link.out
      back := link.back ++ t.side.sent.map (·.frame) } where
  near_cursor := hlink.near_cursor
  near_paths := hlink.near_paths
  far_source := by
    intro s' plan hs' hplan
    rw [session?_eq_some hs', ht.terms_eq] at hplan
    exact hlink.far_source hs hplan
  acks := by
    intro ack hack
    rcases List.mem_append.1 hack with hack | hack
    · exact hlink.acks hack
    · obtain ⟨batch, hbatch, hetag⟩ := ht.effect.applied_of_ack_mem hack
      exact hetag ▸ happlied hbatch
  parcels hp hb := hlink.parcels (mem_of_mem_leaves hp) hb

/-- A batch that arrives carries the cursor over all that it covers. -/
theorem Sound.afterFar_of_applied (h : e.Sound used) {i : Nat} {link : Link} {s : Session}
    {event : SessionEvent} {t : SessionTurn} (hlink : link ∈ e.links) (hs : link.far = some s)
    (ht : Turned s e.target (link.out.map (·.frame)) event t) {batch : Batch}
    {plan : InboundPlan} {cv : ChangeVector} (hevent : event = .arrived (.batch batch))
    (happlied : s.applied? e.target event = some batch) (hplan : s.terms.inbound = some plan)
    (happly : e.target.applyBatch plan.sourceDatabaseId batch.items batch.lastEtag =
      .ok (cv, t.side.site.store)) :
    (e.afterFar i link s event t).Sound used := by
  have hsame := Store.Later.refl e.source
  have hlater := ht.effect.later
  obtain ⟨frames, hout⟩ := ht.arrived hevent
  obtain ⟨p, rest, hrest, hframe, -⟩ := List.map_eq_cons_iff.1 hout
  have hp : p.Sound used e batch := (h.links hlink).parcels (hrest ▸ List.mem_cons_self) hframe
  have hshipments : (e.afterFar i link s event t).shipments =
      e.shipments ++ [⟨p.above, batch.lastEtag, p.paths⟩] := by
    simp only [Exchange.afterFar, hrest, shipped_of_some happlied]
  have hreached : (e.afterFar i link s event t).reached = max e.reached batch.lastEtag := by
    have hid := (h.links hlink).far_source hs hplan
    simp only [reached, Exchange.afterFar, Store.lastReplicatedEtag_applyBatch happly, hid, if_true]
  constructor
  case source_wellIndexed =>
    exact h.source_wellIndexed
  case target_wellIndexed =>
    exact hlater.wellIndexed h.target_wellIndexed
  case links =>
    intro l hl
    refine (mem_or_sound_of_mem_set ?_ hl).elim (fun hl => (h.links hl).later hsame hlater) id
    refine Link.Sound.afterFar ((h.links hlink).later hsame hlater) hs ht ?_
    intro b hb
    rw [happlied] at hb
    cases hb
    rw [hreached]
    exact Nat.le_max_right _ _
  case reached_le =>
    rw [hreached]
    exact Nat.max_le.2 ⟨h.reached_le, hp.lastEtag_le⟩
  case covered =>
    intro etag hpos hle
    rw [hreached] at hle
    rw [hshipments]
    by_cases hbefore : etag ≤ e.reached
    · obtain ⟨r, hr, hcovers⟩ := h.covered hpos hbefore
      exact ⟨r, List.mem_append_left _ hr, hcovers⟩
    · -- The batch starts at or below what was reached, so it leaves no gap.
      have := hp.above_le
      refine ⟨_, List.mem_append_right _ List.mem_cons_self, ?_, ?_⟩ <;> simp only <;> omega
  case shipment_used =>
    intro r hr
    rw [hshipments] at hr
    rcases List.mem_append.1 hr with hr | hr
    · exact h.shipment_used hr
    · rw [List.mem_singleton.1 hr]
      exact hp.paths_used
  case shipment_le =>
    intro r hr
    rw [hshipments] at hr
    rcases List.mem_append.1 hr with hr | hr
    · exact h.shipment_le hr
    · rw [List.mem_singleton.1 hr]
      exact hp.lastEtag_le
  case delivered =>
    intro r hr k item hitem hcovers hpath
    rw [hshipments] at hr
    rcases List.mem_append.1 hr with hr | hr
    · exact hlater.hasSeen (h.delivered hr hitem hcovers hpath)
    · rw [List.mem_singleton] at hr
      subst hr
      have hmem := hp.complete hitem hcovers.1 hcovers.2 hpath
      exact Store.hasSeen_of_applyBatch happly hmem

theorem Sound.afterFar (h : e.Sound used) {i : Nat} {link : Link} {s : Session}
    {event : SessionEvent} {t : SessionTurn} (hlink : link ∈ e.links) (hs : link.far = some s)
    (ht : Turned s e.target (link.out.map (·.frame)) event t) :
    (e.afterFar i link s event t).Sound used := by
  rcases ht.effect.store_cases with ⟨hnone, hstore⟩ | ⟨batch, plan, cv, hevent, happlied, hplan, happly⟩
  · have hsame := Store.Later.refl e.source
    have hlater := ht.effect.later
    have hreached : (e.afterFar i link s event t).reached = e.reached := by
      simp only [reached, Exchange.afterFar, hstore]
    have hshipments : (e.afterFar i link s event t).shipments = e.shipments := by
      simp only [Exchange.afterFar, shipped_of_none hnone, List.append_nil]
    refine h.later hsame hlater hreached hshipments fun hl => mem_or_sound_of_mem_set ?_ hl
    refine Link.Sound.afterFar ((h.links hlink).later hsame hlater) hs ht ?_
    intro b hb
    rw [hnone] at hb
    cases hb
  · exact h.afterFar_of_applied hlink hs ht hevent happlied hplan happly

/-! ### Runs -/

/-- Every step keeps the ledger sound. -/
theorem Sound.step (h : e.Sound used) {a : Action} (ha : Ships used e a) :
    (e.step a).Sound used := by
  have hsource := Store.Later.refl e.source
  have htarget := Store.Later.refl e.target
  cases a with
  | write item =>
      have hlater := written_later e.source item
      refine h.later hlater htarget ?_ rfl .inl
      simp only [reached, Exchange.step, hlater.databaseId_eq]
  | take origin items etag =>
      have hlater := taken_later e.source origin items etag
      refine h.later hlater htarget ?_ rfl .inl
      simp only [reached, Exchange.step, hlater.databaseId_eq]
  | writeFar item =>
      have hlater := written_later e.target item
      refine h.later hsource hlater ?_ rfl .inl
      simp only [reached, Exchange.step, lastReplicatedEtag_written]
  | takeFar origin items etag =>
      have hlater := taken_later e.target origin items etag
      refine h.later hsource hlater ?_ rfl .inl
      have hne : e.source.databaseId ≠ origin := fun heq => ha heq.symm
      simp only [reached, Exchange.step, lastReplicatedEtag_taken _ _ _ hne]
  | connect near far now => exact h.join ha now
  | near i m =>
      rw [Exchange.step]
      rcases nearTurn_cases h.source_wellIndexed i m with heq | ⟨link, s, event, t, hl, hs, ht, heq⟩
      · rw [heq]
        exact h
      · rw [heq]
        exact h.afterNear hl hs ht
  | far i m =>
      rw [Exchange.step]
      rcases farTurn_cases h.target_wellIndexed i m with heq | ⟨link, s, event, t, hl, hs, ht, heq⟩
      · rw [heq]
        exact h
      · rw [heq]
        exact h.afterFar hl hs ht
  | cut i =>
      exact h.later hsource htarget rfl rfl fun hl => mem_or_sound_of_mem_set Link.sound_dead hl

theorem sound_start (source target : String) : (start source target).Sound used where
  source_wellIndexed := Store.wellIndexed_empty source
  target_wellIndexed := Store.wellIndexed_empty target
  links h := by cases h
  reached_le := Nat.le_refl _
  covered hpos hle := absurd hle (Nat.not_le.2 hpos)
  shipment_used h := by cases h
  shipment_le h := by cases h
  delivered h := by cases h

/-- The ledger is sound in every exchange that is reached. -/
theorem sound_of_reached {source target : String}
    (h : Reached (start source target) (Ships used) e) : e.Sound used := by
  induction h with
  | start => exact sound_start source target
  | step _ a ha ih => exact ih.step ha

end Exchange

end HubReplication
