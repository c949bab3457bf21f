/-
**Versions in an exchange.**

When nobody but the source gives anything to the target, all that the target has, and all that is on
its way to it, are versions that the source kept at some time, and each version came with a batch
that covers its etag and was built for paths that allow it.  The target may send what it has back;
the source has seen all of it.

Main definitions:

* `Exchange.OneSource` — steps in which nobody but the source gives anything to the target;
* `Exchange.Shipped` — a version of the past that a batch of the ledger covers and allows;
* `Exchange.TracedBy` — stores and links agree with the past of the source.

Main results:

* `Exchange.traced_of_reached` — in every exchange that is reached there is such a past.
-/

import HubReplication.Proofs.Exchange.Ledger
import HubReplication.Proofs.Store.History

set_option relaxedAutoImplicit false
set_option autoImplicit false

namespace HubReplication.Exchange

/-- Steps in which nobody but the source gives anything to the target; what others give to the
source does not claim to have seen etags that the source does not have yet. -/
def OneSource (e : Exchange) : Action → Prop
  | .take _ items _ => ∀ item ∈ items, e.source.Honest item
  | .writeFar _ | .takeFar _ _ _ => False
  | _ => True

/-- A version of the past that a batch of the ledger covers and was built for. -/
def Shipped (e : Exchange) (past : List Item) (v : Item) : Prop :=
  v ∈ past ∧ ∃ r ∈ e.shipments, r.Covers v.etag ∧ PathFilter.allows r.paths v.id = true

/-- Stores and links agree with the past of the source. -/
structure TracedBy (past : List Item) (e : Exchange) : Prop where
  recorded : e.source.RecordedIn past
  drawn : e.target.DrawnFrom (e.Shipped past)
  /-- What is on its way to the target was kept by the source, and is what its label says. -/
  parcels : ∀ {link p b item}, link ∈ e.links → p ∈ link.out → p.frame = .batch b →
    item ∈ b.items → item ∈ past ∧ p.above < item.etag ∧ item.etag ≤ b.lastEtag ∧
      PathFilter.allows p.paths item.id = true
  /-- What is on its way back is honest. -/
  back : ∀ {link b item}, link ∈ e.links → .batch b ∈ link.back → item ∈ b.items →
    e.source.Honest item

variable {e e' : Exchange} {past past' : List Item}

theorem inLine_shipped (h : e.source.RecordedIn past) : Store.InLine (e'.Shipped past) :=
  fun _ _ hv hw hk => h.total hv.1 hw.1 hk

/-- A longer past and a longer ledger, with old links or links that agree with them. -/
theorem TracedBy.later (h : e.TracedBy past) (hsub : past ⊆ past')
    (hsource : e.source.Later e'.source) (hrecorded : e'.source.RecordedIn past')
    (htarget : e'.target = e.target) (hshipments : e'.shipments = e.shipments)
    (hparcels : ∀ {link p b item}, link ∈ e'.links → p ∈ link.out → p.frame = .batch b →
      item ∈ b.items → (∃ l ∈ e.links, p ∈ l.out) ∨ (item ∈ past ∧ p.above < item.etag ∧
        item.etag ≤ b.lastEtag ∧ PathFilter.allows p.paths item.id = true))
    (hback : ∀ {link b}, link ∈ e'.links → .batch b ∈ link.back →
      ∃ l ∈ e.links, .batch b ∈ l.back) : e'.TracedBy past' where
  recorded := hrecorded
  drawn := by
    rw [htarget]
    refine h.drawn.mono fun {v} hv => ⟨hsub hv.1, ?_⟩
    rw [hshipments]
    exact hv.2
  parcels := by
    intro link p b item hlink hp hb hitem
    rcases hparcels hlink hp hb hitem with ⟨l, hl, hp⟩ | hnew
    · have hold := h.parcels hl hp hb hitem
      exact ⟨hsub hold.1, hold.2⟩
    · exact ⟨hsub hnew.1, hnew.2⟩
  back := by
    intro link b item hlink hb hitem
    obtain ⟨l, hl, hb⟩ := hback hlink hb
    exact (h.back hl hb hitem).later hsource

/-! ### Writes at the source -/

theorem TracedBy.write (h : e.TracedBy past) (item : Item) :
    ∃ past', (e.step (.write item)).TracedBy past' := by
  have hlater := written_later e.source item
  have hrecorded : ∃ past', past ⊆ past' ∧ (written e.source item).RecordedIn past' := by
    unfold written
    split
    · rename_i hwrite
      exact h.recorded.writeLocal hwrite
    · exact ⟨past, List.Subset.refl _, h.recorded⟩
  obtain ⟨past', hsub, hrecorded⟩ := hrecorded
  exact ⟨past', h.later hsub hlater hrecorded rfl rfl (fun hl hp _ _ => .inl ⟨_, hl, hp⟩)
    fun hl hb => ⟨_, hl, hb⟩⟩

theorem TracedBy.take (h : e.TracedBy past) {origin : String} {items : List Item} {etag : Nat}
    (hitems : ∀ item ∈ items, e.source.Honest item) :
    ∃ past', (e.step (.take origin items etag)).TracedBy past' := by
  have hlater := taken_later e.source origin items etag
  have hrecorded : ∃ past', past ⊆ past' ∧
      (taken e.source origin items etag).RecordedIn past' := by
    unfold taken
    split
    · rename_i happly
      exact h.recorded.applyBatch hitems happly
    · exact ⟨past, List.Subset.refl _, h.recorded⟩
  obtain ⟨past', hsub, hrecorded⟩ := hrecorded
  exact ⟨past', h.later hsub hlater hrecorded rfl rfl (fun hl hp _ _ => .inl ⟨_, hl, hp⟩)
    fun hl hb => ⟨_, hl, hb⟩⟩

/-! ### Links -/

theorem TracedBy.join (h : e.TracedBy past) (near far : SessionTerms) (now : Nat) :
    (e.join near far now).TracedBy past := by
  unfold Exchange.join
  split
  · refine h.later (List.Subset.refl _) (Store.Later.refl _) h.recorded rfl rfl ?_ ?_
    · intro link p b item hlink hp _ _
      rcases List.mem_append.1 hlink with hlink | hlink
      · exact .inl ⟨link, hlink, hp⟩
      · rw [List.mem_singleton] at hlink
        subst hlink
        cases hp
    · intro link b hlink hb
      rcases List.mem_append.1 hlink with hlink | hlink
      · exact ⟨link, hlink, hb⟩
      · rw [List.mem_singleton] at hlink
        subst hlink
        cases hb
  · exact h

theorem TracedBy.cut (h : e.TracedBy past) (i : Nat) : (e.step (.cut i)).TracedBy past := by
  refine h.later (List.Subset.refl _) (Store.Later.refl _) h.recorded rfl rfl ?_ ?_
  · intro link p b item hlink hp _ _
    rcases List.mem_or_eq_of_mem_set hlink with hlink | rfl
    · exact .inl ⟨link, hlink, hp⟩
    · cases hp
  · intro link b hlink hb
    rcases List.mem_or_eq_of_mem_set hlink with hlink | rfl
    · exact ⟨link, hlink, hb⟩
    · cases hb

/-! ### Turns -/

theorem TracedBy.afterNear (h : e.TracedBy past) {i : Nat} {link : Link} {s : Session}
    {event : SessionEvent} {t : SessionTurn} (hlink : link ∈ e.links)
    (ht : Turned s e.source link.back event t) :
    ∃ past', (e.afterNear i link s event t).TracedBy past' := by
  -- What comes back is honest, so the past is only prolonged by it.
  have hrecorded : ∃ past', past ⊆ past' ∧ t.side.site.store.RecordedIn past' := by
    rcases ht.effect.store_cases with ⟨-, hstore⟩ | ⟨batch, plan, cv, hevent, -, -, happly⟩
    · rw [hstore]
      exact ⟨past, List.Subset.refl _, h.recorded⟩
    · obtain ⟨rest, hback⟩ := ht.arrived hevent
      refine h.recorded.applyBatch (fun item hitem => ?_) happly
      exact h.back hlink (hback ▸ List.mem_cons_self) hitem
  obtain ⟨past', hsub, hrecorded⟩ := hrecorded
  refine ⟨past', h.later hsub ht.effect.later hrecorded rfl rfl ?_ ?_⟩
  · intro l p b item hl hp hb hitem
    rcases List.mem_or_eq_of_mem_set hl with hl | rfl
    · exact .inl ⟨l, hl, hp⟩
    · rcases List.mem_append.1 hp with hp | hp
      · exact .inl ⟨link, hlink, hp⟩
      · obtain ⟨w, hw, rfl⟩ := List.mem_map.1 hp
        have hsaid : .batch b ∈ t.side.sent.map (·.frame) := hb ▸ List.mem_map_of_mem hw
        obtain ⟨plan, hplan, hexcerpt⟩ := ht.effect.excerpt_of_mem hsaid
        have hpaths : s.sendPaths = plan.allowedPaths := by simp [Session.sendPaths, hplan]
        refine .inr ⟨h.recorded.current (hexcerpt.stored hitem), hexcerpt.above_lt_etag hitem,
          hexcerpt.etag_le hitem, ?_⟩
        simp only [hpaths]
        exact hexcerpt.allowed hitem
  · intro l b hl hb
    rcases List.mem_or_eq_of_mem_set hl with hl | rfl
    · exact ⟨l, hl, hb⟩
    · exact ⟨link, hlink, mem_of_mem_leaves hb⟩

/-- What the target has is honest towards the source that it all came from. -/
theorem TracedBy.honest (h : e.TracedBy past) {k : ItemKey} {item : Item}
    (hget : e.target.items.get? k = some item) : e.source.Honest item := by
  obtain ⟨v, hv, -, hsame⟩ := h.drawn hget
  have hle := ChangeVector.dominates_iff.1 hsame.dominated e.source.databaseId
  exact Nat.le_trans hle (h.recorded.own_le hv.1)

/-- The target after a turn draws from the past, and from a ledger that lists what arrived. -/
theorem TracedBy.drawn_afterFar (h : e.TracedBy past) {i : Nat} {link : Link} {s : Session}
    {event : SessionEvent} {t : SessionTurn} (hlink : link ∈ e.links)
    (ht : Turned s e.target (link.out.map (·.frame)) event t) :
    (e.afterFar i link s event t).target.DrawnFrom
      ((e.afterFar i link s event t).Shipped past) := by
  have hshipments : ∀ {v}, e.Shipped past v → (e.afterFar i link s event t).Shipped past v := by
    rintro v ⟨hv, r, hr, hcovers⟩
    exact ⟨hv, r, List.mem_append_left _ hr, hcovers⟩
  rcases ht.effect.store_cases with ⟨-, hstore⟩ | ⟨batch, plan, cv, hevent, happlied, -, happly⟩
  · rw [Exchange.afterFar, hstore]
    exact h.drawn.mono hshipments
  · refine (h.drawn.mono hshipments).applyBatch (inLine_shipped h.recorded) ?_ happly
    intro item hitem
    obtain ⟨frames, hout⟩ := ht.arrived hevent
    obtain ⟨p, rest, hrest, hframe, -⟩ := List.map_eq_cons_iff.1 hout
    obtain ⟨hpast, hlt, hle, hpath⟩ :=
      h.parcels hlink (hrest ▸ List.mem_cons_self) hframe hitem
    refine ⟨hpast, ⟨p.above, batch.lastEtag, p.paths⟩, ?_, ⟨hlt, hle⟩, hpath⟩
    simp only [Exchange.afterFar, hrest, shipped_of_some happlied]
    exact List.mem_append_right _ List.mem_cons_self

theorem TracedBy.afterFar (h : e.TracedBy past) {i : Nat} {link : Link} {s : Session}
    {event : SessionEvent} {t : SessionTurn} (hlink : link ∈ e.links)
    (ht : Turned s e.target (link.out.map (·.frame)) event t) :
    (e.afterFar i link s event t).TracedBy past where
  recorded := h.recorded
  drawn := h.drawn_afterFar hlink ht
  parcels := by
    intro l p b item hl hp hb hitem
    rcases List.mem_or_eq_of_mem_set hl with hl | rfl
    · exact h.parcels hl hp hb hitem
    · exact h.parcels hlink (mem_of_mem_leaves hp) hb hitem
  back := by
    intro l b item hl hb hitem
    rcases List.mem_or_eq_of_mem_set hl with hl | rfl
    · exact h.back hl hb hitem
    · rcases List.mem_append.1 hb with hb | hb
      · exact h.back hlink hb hitem
      · obtain ⟨plan, -, hexcerpt⟩ := ht.effect.excerpt_of_mem hb
        exact h.honest (hexcerpt.stored hitem)

/-! ### Runs -/

/-- Every step of the kind leaves a past behind that stores and links agree with. -/
theorem TracedBy.step {used : TextSet → Prop} (h : e.TracedBy past) (hsound : e.Sound used)
    {a : Action} (ha : e.OneSource a) : ∃ past', (e.step a).TracedBy past' := by
  cases a with
  | write item => exact h.write item
  | take origin items etag => exact h.take ha
  | writeFar item => cases ha
  | takeFar origin items etag => cases ha
  | connect near far now => exact ⟨past, h.join near far now⟩
  | near i m =>
      rw [Exchange.step]
      rcases nearTurn_cases hsound.source_wellIndexed i m with
        heq | ⟨link, s, event, t, hl, -, ht, heq⟩
      · rw [heq]
        exact ⟨past, h⟩
      · rw [heq]
        exact h.afterNear hl ht
  | far i m =>
      rw [Exchange.step]
      rcases farTurn_cases hsound.target_wellIndexed i m with
        heq | ⟨link, s, event, t, hl, -, ht, heq⟩
      · rw [heq]
        exact ⟨past, h⟩
      · rw [heq]
        exact ⟨past, h.afterFar hl ht⟩
  | cut i => exact ⟨past, h.cut i⟩

theorem tracedBy_start (source target : String) : (start source target).TracedBy [] where
  recorded := Store.recordedIn_empty source
  drawn := by
    intro k item hget
    cases hget
  parcels h := by cases h
  back h := by cases h

/-- In every exchange that is reached there is a past that stores and links agree with. -/
theorem traced_of_reached {used : TextSet → Prop} {source target : String}
    (h : Reached (start source target) (fun e a => Ships used e a ∧ OneSource e a) e) :
    ∃ past, e.TracedBy past := by
  induction h with
  | start => exact ⟨[], tracedBy_start source target⟩
  | step hreached a ha ih =>
      obtain ⟨past, ih⟩ := ih
      have hsound := sound_of_reached (hreached.mono fun _ _ h => h.1)
      exact ih.step hsound ha.2

end HubReplication.Exchange
