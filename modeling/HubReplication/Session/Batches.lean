/-
**What a session sends.**

A batch holds the items after the cursor, in the order of their etags, up to the first one that is
too young.  Items outside the paths are left out, but the batch covers their etags too, so that the
cursor moves past them.

Main definitions:

* `Selection`, `OutboundPlan.select` — what goes into a batch;
* `Session.send` — build the next batch and begin to write it.

Main results:

* `OutboundPlan.le_lastEtag_of_mem` — no item of a batch is above the etag the batch covers, when
  the items come in the order of their etags.
-/

import HubReplication.Session.Basic

set_option relaxedAutoImplicit false
set_option autoImplicit false

namespace HubReplication

/-- What goes into a batch. -/
structure Selection where
  items : List Item
  /-- The etag that the batch covers, items left out included. -/
  lastEtag : Nat
  /-- In how many milliseconds the first item that is too young is old enough. -/
  readyIn : Option Nat

namespace OutboundPlan

/-- Nanoseconds as milliseconds, rounded up. -/
def millisUp (nanos : Nat) : Nat := (nanos + 999999) / 1000000

/-- In how many milliseconds an item is old enough; `none` when the calendar ends before. -/
def readyIn? (item : Item) (now : Instant) (delay : Nat) : Option Nat :=
  if Span.maxMillis < delay then some delay
  else
    (item.lastModified.add? (Span.ofMillis delay)).map fun due =>
      if (due.since now).nanos < 0 then delay else millisUp (due.since now).nanos.toNat

/-- What of some items goes into a batch after an etag; `none` when the calendar is left. -/
def select (plan : OutboundPlan) (now : Instant) : Nat → List Item → Option Selection
  | etag, [] => some ⟨[], etag, none⟩
  | etag, item :: rest =>
    match item.isOlderThan? now plan.delay with
    | none => none
    | some false => (readyIn? item now plan.delay).map fun ms => ⟨[], etag, some ms⟩
    | some true =>
      (plan.select now item.etag rest).map fun s =>
        if PathFilter.allows plan.allowedPaths item.id then { s with items := item :: s.items }
        else s

theorem le_lastEtag {plan : OutboundPlan} {now : Instant} {etag : Nat} {items : List Item}
    {s : Selection} (hs : plan.select now etag items = some s)
    (hle : ∀ i ∈ items, etag ≤ i.etag) (hord : items.Pairwise fun i j => i.etag ≤ j.etag) :
    etag ≤ s.lastEtag := by
  induction items generalizing etag s with
  | nil => simp only [select, Option.some.injEq] at hs; subst hs; exact Nat.le_refl _
  | cons item rest ih =>
    have hle' := hle item List.mem_cons_self
    have hord' := List.pairwise_cons.1 hord
    unfold select at hs
    split at hs
    · cases hs
    · obtain ⟨ms, -, rfl⟩ := Option.map_eq_some_iff.1 hs
      exact Nat.le_refl _
    · obtain ⟨s', hs', rfl⟩ := Option.map_eq_some_iff.1 hs
      have h := ih hs' hord'.1 hord'.2
      split <;> exact Nat.le_trans hle' h

theorem le_lastEtag_of_mem {plan : OutboundPlan} {now : Instant} {etag : Nat} {items : List Item}
    {s : Selection} (hs : plan.select now etag items = some s)
    (hord : items.Pairwise fun i j => i.etag ≤ j.etag) {item : Item} (hitem : item ∈ s.items) :
    item ∈ items ∧ item.etag ≤ s.lastEtag := by
  induction items generalizing etag s with
  | nil =>
    simp only [select, Option.some.injEq] at hs
    subst hs
    cases hitem
  | cons first rest ih =>
    have hord' := List.pairwise_cons.1 hord
    unfold select at hs
    split at hs
    · cases hs
    · obtain ⟨ms, -, rfl⟩ := Option.map_eq_some_iff.1 hs
      cases hitem
    · obtain ⟨s', hs', rfl⟩ := Option.map_eq_some_iff.1 hs
      have hlast := le_lastEtag hs' hord'.1 hord'.2
      split at hitem
      · rcases List.mem_cons.1 hitem with rfl | h
        · rename_i hp
          simp only [hp, if_true]
          exact ⟨List.mem_cons_self, hlast⟩
        · rename_i hp
          simp only [hp, if_true]
          exact ⟨List.mem_cons_of_mem _ (ih hs' hord'.2 h).1, (ih hs' hord'.2 h).2⟩
      · rename_i hp
        simp only [hp]
        exact ⟨List.mem_cons_of_mem _ (ih hs' hord'.2 hitem).1, (ih hs' hord'.2 hitem).2⟩

end OutboundPlan

namespace Session

/-- Build the next batch and begin to write it, if there is one. -/
def send (s : Session) (side : LocalSide) (now : Nat) (wall : Instant) : SessionTurn :=
  let s := { s with scan := false }
  match s.terms.outbound with
  | none => ⟨s, side, .going⟩
  | some plan =>
    let candidates := side.site.store.changesAfter s.cursor s.terms.maxBatchSize
    match plan.select wall s.cursor candidates with
    | none => ⟨s, side, .beyondCalendar⟩
    | some chosen =>
      let s := match chosen.readyIn with
        | some ms => { s with wakeAt := some (now + ms) }
        | none => s
      if chosen.lastEtag = s.cursor then ⟨s, side, .going⟩
      else
        match side.write (.batch ⟨chosen.items, chosen.lastEtag⟩) s.terms.compression with
        | .error e => ⟨s, side, .over (.error e)⟩
        | .ok (bytes, side) =>
          ⟨{ s with writing := some (.batch chosen.items.length bytes chosen.lastEtag) }, side,
            .going⟩

end Session

end HubReplication
