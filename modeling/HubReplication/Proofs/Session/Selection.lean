/-
**Batches as excerpts of a store.**

A batch is built from the change stream after the cursor: the items up to the first one that is too
young, those outside the paths left out.  Seen from the store, the batch is an excerpt: it holds
every version between the cursor and the etag it covers that the paths allow, and nothing else.
Delay and batch size only decide how far the excerpt reaches.

Main definitions:

* `Store.Excerpt` — a batch holds what a store has for some paths after an etag.

Main results:

* `OutboundPlan.exists_split_of_select` — what is sent is a prefix of the change stream, filtered;
* `OutboundPlan.excerpt_of_select` — so it is an excerpt of the store.
-/

import HubReplication.Proofs.Store.Index
import HubReplication.Session.Batches

set_option relaxedAutoImplicit false
set_option autoImplicit false

namespace HubReplication

/-- A batch holds what a store has for some paths after an etag, up to the etag it covers. -/
structure Store.Excerpt (s : Store) (paths : TextSet) (above : Nat) (batch : Batch) : Prop where
  above_lt : above < batch.lastEtag
  lastEtag_le : batch.lastEtag ≤ s.lastEtag
  stored : ∀ {item}, item ∈ batch.items → s.items.get? item.key = some item
  allowed : ∀ {item}, item ∈ batch.items → PathFilter.allows paths item.id = true
  above_lt_etag : ∀ {item}, item ∈ batch.items → above < item.etag
  etag_le : ∀ {item}, item ∈ batch.items → item.etag ≤ batch.lastEtag
  /-- Nothing of the store is left out but what the paths do not allow. -/
  complete : ∀ {item}, s.items.get? item.key = some item → above < item.etag →
    item.etag ≤ batch.lastEtag → PathFilter.allows paths item.id = true → item ∈ batch.items

namespace OutboundPlan

/-- The etag that some items cover after an etag. -/
def covered (etag : Nat) (items : List Item) : Nat := (items.getLast?.map Item.etag).getD etag

theorem covered_cons (etag : Nat) (item : Item) (items : List Item) :
    covered etag (item :: items) = covered item.etag items := by
  unfold covered
  rw [List.getLast?_cons]
  cases items.getLast? <;> rfl

theorem covered_eq_or_mem (etag : Nat) (items : List Item) :
    covered etag items = etag ∨ ∃ last ∈ items, covered etag items = last.etag := by
  unfold covered
  cases h : items.getLast? with
  | none => exact .inl rfl
  | some last => exact .inr ⟨last, List.mem_of_getLast? h, rfl⟩

/-- What is chosen splits the items: those before the first one that is too young are covered, and
sent unless they are outside the paths. -/
theorem exists_split_of_select {plan : OutboundPlan} {now : Instant} {etag : Nat}
    {items : List Item} {chosen : Selection} (h : plan.select now etag items = some chosen) :
    ∃ sent left, items = sent ++ left ∧
      (∀ item ∈ sent, item.isOlderThan? now plan.delay = some true) ∧
      (chosen.readyIn = none → left = []) ∧
      chosen.items = sent.filter (fun item => PathFilter.allows plan.allowedPaths item.id) ∧
      chosen.lastEtag = covered etag sent := by
  induction items generalizing etag chosen with
  | nil =>
      simp only [select, Option.some.injEq] at h
      subst h
      exact ⟨[], [], rfl, by simp, fun _ => rfl, rfl, rfl⟩
  | cons item rest ih =>
      unfold select at h
      split at h
      · cases h
      · obtain ⟨ms, -, rfl⟩ := Option.map_eq_some_iff.1 h
        exact ⟨[], item :: rest, rfl, by simp, fun hnone => (by cases hnone), rfl, rfl⟩
      · rename_i hold
        obtain ⟨chosen', h', rfl⟩ := Option.map_eq_some_iff.1 h
        obtain ⟨sent, left, hitems, hsent, hready, hchosen, hlast⟩ := ih h'
        refine ⟨item :: sent, left, by rw [hitems, List.cons_append],
          List.forall_mem_cons.2 ⟨hold, hsent⟩, fun hnone => hready ?_, ?_, ?_⟩
        · rw [← hnone]
          split <;> rfl
        · rw [List.filter_cons]
          split <;> simp [hchosen]
        · rw [covered_cons, ← hlast]
          split <;> rfl

/-- What is sent is a prefix of the items, without those outside the paths. -/
theorem exists_prefix_of_select {plan : OutboundPlan} {now : Instant} {etag : Nat}
    {items : List Item} {chosen : Selection} (h : plan.select now etag items = some chosen) :
    ∃ sent left, items = sent ++ left ∧
      chosen.items = sent.filter (fun item => PathFilter.allows plan.allowedPaths item.id) ∧
      chosen.lastEtag = covered etag sent := by
  obtain ⟨sent, left, hitems, -, -, hchosen, hlast⟩ := exists_split_of_select h
  exact ⟨sent, left, hitems, hchosen, hlast⟩

/-- In ascending order, what stands at most as high as the last item sent was sent. -/
theorem mem_of_le_covered {etag : Nat} {sent left : List Item}
    (hord : (sent ++ left).Pairwise fun a b => a.etag < b.etag) {item : Item}
    (hitem : item ∈ sent ++ left) (hlt : etag < item.etag)
    (hle : item.etag ≤ covered etag sent) : item ∈ sent := by
  rw [List.mem_append] at hitem
  refine hitem.resolve_right fun hleft => ?_
  rcases covered_eq_or_mem etag sent with hc | ⟨last, hlast, hc⟩
  · omega
  · have := (List.pairwise_append.1 hord).2.2 last hlast item hleft
    omega

theorem le_covered {etag : Nat} {items : List Item}
    (hord : items.Pairwise fun a b => a.etag < b.etag) {item : Item} (hitem : item ∈ items) :
    item.etag ≤ covered etag items := by
  induction items generalizing etag with
  | nil => cases hitem
  | cons first rest ih =>
      rw [covered_cons]
      rw [List.pairwise_cons] at hord
      rcases List.mem_cons.1 hitem with rfl | hrest
      · rcases covered_eq_or_mem item.etag rest with hc | ⟨last, hlast, hc⟩
        · exact Nat.le_of_eq hc.symm
        · have := hord.1 last hlast
          omega
      · exact ih hord.2 hrest

/-- What is sent is an excerpt of the store, unless it covers nothing. -/
theorem excerpt_of_select {plan : OutboundPlan} {now : Instant} {store : Store}
    (hstore : store.WellIndexed) {etag max : Nat} {chosen : Selection}
    (h : plan.select now etag (store.changesAfter etag max) = some chosen)
    (hne : chosen.lastEtag ≠ etag) :
    store.Excerpt plan.allowedPaths etag ⟨chosen.items, chosen.lastEtag⟩ := by
  obtain ⟨sent, left, hitems, hsent, hlast⟩ := exists_prefix_of_select h
  have hord := Store.changesAfter_ascending hstore etag max
  have hstream : ∀ {item}, item ∈ sent → item ∈ store.changesAfter etag max := fun hitem =>
    hitems ▸ List.mem_append_left left hitem
  have hchosen : ∀ {item}, item ∈ chosen.items →
      item ∈ sent ∧ PathFilter.allows plan.allowedPaths item.id = true := fun hitem =>
    List.mem_filter.1 (hsent ▸ hitem)
  -- The batch covers the etag of an item that is in the change stream.
  obtain ⟨last, hmem, hetag⟩ := (covered_eq_or_mem etag sent).resolve_left (hlast ▸ hne)
  have hlaststored := Store.mem_changesAfter hstore (hstream hmem)
  constructor
  case above_lt =>
    have := hlaststored.2
    simp only
    omega
  case lastEtag_le =>
    have := hstore.etag_le hlaststored.1
    simp only
    omega
  case stored =>
    exact fun hitem => (Store.mem_changesAfter hstore (hstream (hchosen hitem).1)).1
  case allowed =>
    exact fun hitem => (hchosen hitem).2
  case above_lt_etag =>
    exact fun hitem => (Store.mem_changesAfter hstore (hstream (hchosen hitem).1)).2
  case etag_le =>
    intro item hitem
    rw [hitems] at hord
    simp only [hlast]
    exact le_covered (List.pairwise_append.1 hord).1 (hchosen hitem).1
  case complete =>
    intro item hitem hlt hle hpath
    simp only [hlast] at hle
    have hin : item ∈ store.changesAfter etag max :=
      Store.changesAfter_complete hstore hitem hlt (hstream hmem) (by omega)
    rw [hitems] at hord hin
    have hmemsent : item ∈ sent := mem_of_le_covered hord hin hlt hle
    exact hsent ▸ List.mem_filter.2 ⟨hmemsent, hpath⟩

end OutboundPlan

end HubReplication
