/-
**Instants on a line.**

An instant stands at a number of nanoseconds from the start of 1970.  A leap second has no place of
its own on that line: when instants are compared it stands at its end, so it is later than the whole
second before it, and when a span is added it stands where the second before it does.  A sum of an
instant and a span is in the calendar or it is not, and that is all that decides whether the move
succeeds: neither the whole seconds of the span nor its rest matter on their own.

Main definitions:

* `Instant.Valid`, `Instant.Plain` — instants of the calendar, in a leap second or not;
* `Instant.position`, `Instant.ticks` — where an instant stands, compared and added to;
* `Instant.Overshoots`, `Instant.Undershoots` — a delay that is counted leaves the calendar.

Main results:

* `Instant.add?_eq` — what a move of an instant comes to;
* `Instant.add?_eq_none_iff` — a delay after an instant is in the calendar, or it overshoots;
* `Item.isOlderThan?_eq` — an item is old enough where its delay is over on the line;
* `OutboundPlan.readyIn?_eq_none_iff` — when it will be is told unless the delay overshoots.
-/

import HubReplication.Session.Batches

set_option relaxedAutoImplicit false
set_option autoImplicit false

namespace HubReplication

namespace Instant

/-! ### The line -/

/-- An instant of the calendar. -/
structure Valid (t : Instant) : Prop where
  inRange : Instant.inRange t.seconds = true
  nanos_lt : t.nanos < 2000000000

/-- An instant of the calendar that is in no leap second, such as a clock shows. -/
structure Plain (t : Instant) : Prop where
  inRange : Instant.inRange t.seconds = true
  nanos_lt : t.nanos < 1000000000

/-- Where an instant stands when it is compared: a leap second stands at its end. -/
def position (t : Instant) : Int := t.seconds * 1000000000 + min t.nanos 1000000000

/-- Where an instant stands when a span is added: a leap second stands where the second before it
does. -/
def ticks (t : Instant) : Int := t.seconds * 1000000000 + (t.nanos % 1000000000 : Nat)

/-- The instant at a place on the line. -/
def ofTicks (n : Int) : Instant := ⟨n / 1000000000, (n % 1000000000).toNat⟩

/-- The first nanosecond of the calendar. -/
def firstTick : Int := firstSecond * 1000000000

/-- The nanosecond after the last one of the calendar. -/
def lastTick : Int := (lastSecond + 1) * 1000000000

variable {t now : Instant} {delay : Nat}

theorem inRange_iff {seconds : Int} :
    inRange seconds = true ↔ firstSecond ≤ seconds ∧ seconds ≤ lastSecond := by
  simp [inRange]

theorem nanos_ofTicks_lt (n : Int) : (ofTicks n).nanos < 1000000000 := by
  simp only [ofTicks]
  omega

@[simp] theorem position_ofTicks (n : Int) : (ofTicks n).position = n := by
  simp only [position, ofTicks]
  omega

theorem Plain.valid (h : t.Plain) : t.Valid := ⟨h.inRange, by have := h.nanos_lt; omega⟩

theorem Plain.position_eq (h : t.Plain) : t.position = t.ticks := by
  have := h.nanos_lt
  unfold position ticks
  omega

theorem Valid.firstTick_le (h : t.Valid) : firstTick ≤ t.ticks ∧ firstTick ≤ t.position := by
  have := inRange_iff.1 h.inRange
  unfold firstTick ticks position
  omega

theorem Valid.lt_lastTick (h : t.Valid) : t.ticks < lastTick := by
  have := inRange_iff.1 h.inRange
  unfold lastTick ticks
  omega

/-! ### Moving along the line -/

/-- A delay that is counted ends beyond the calendar. -/
def Overshoots (t : Instant) (delay : Nat) : Prop :=
  delay ≤ Span.maxMillis ∧ lastTick ≤ t.ticks + delay * 1000000

/-- A delay that is counted began before the calendar. -/
def Undershoots (t : Instant) (delay : Nat) : Prop :=
  delay ≤ Span.maxMillis ∧ t.ticks - delay * 1000000 < firstTick

instance : Decidable (t.Overshoots delay) := inferInstanceAs (Decidable (_ ∧ _))
instance : Decidable (t.Undershoots delay) := inferInstanceAs (Decidable (_ ∧ _))

/-- The whole seconds of a span and the rest of it make up the span. -/
theorem span_parts (s : Span) : s.wholeSeconds * 1000000000 + s.subNanos = s.nanos ∧
    -1000000000 < s.subNanos ∧ s.subNanos < 1000000000 ∧
    (0 ≤ s.nanos → 0 ≤ s.wholeSeconds ∧ 0 ≤ s.subNanos) := by
  unfold Span.wholeSeconds Span.subNanos
  refine ⟨?_, ?_, ?_, fun hs => ⟨?_, ?_⟩⟩
  · rw [Int.mul_comm]
    exact Int.mul_tdiv_add_tmod _ _
  · exact Int.lt_tmod_of_pos _ (by decide)
  · exact Int.tmod_lt_of_pos _ (by decide)
  · exact Int.tdiv_nonneg hs (by decide)
  · exact Int.tmod_nonneg _ hs

/-- Nanoseconds as a second of the calendar and what is left of it. -/
theorem eq_ofTicks {n secs frac : Int} (h : n = secs * 1000000000 + frac) (hlow : 0 ≤ frac)
    (hhigh : frac < 1000000000) :
    (if inRange secs = true then some (⟨secs, frac.toNat⟩ : Instant) else none) =
      if firstTick ≤ n ∧ n < lastTick then some (ofTicks n) else none := by
  have hsecs : n / 1000000000 = secs := by omega
  have hfrac : n % 1000000000 = frac := by omega
  have hrange : inRange secs = true ↔ firstTick ≤ n ∧ n < lastTick := by
    rw [inRange_iff]
    unfold firstTick lastTick
    omega
  simp only [ofTicks, hsecs, hfrac, hrange]

/-- An instant that is in no leap second moves along the line, as far as the calendar goes. -/
theorem add?_eq (h : t.Plain) (s : Span) :
    t.add? s =
      if firstTick ≤ t.ticks + s.nanos ∧ t.ticks + s.nanos < lastTick then
        some (ofTicks (t.ticks + s.nanos))
      else none := by
  obtain ⟨hspan, hlow, hhigh, -⟩ := span_parts s
  have hnanos := h.nanos_lt
  have hleap : ¬1000000000 ≤ (t.nanos : Int) := by omega
  have hticks : t.ticks = t.seconds * 1000000000 + t.nanos := by
    unfold ticks
    omega
  unfold add?
  simp only [hleap, decide_false, Bool.false_and, Bool.false_eq_true, if_false]
  -- The nanoseconds of the sum may borrow a second, or carry one.
  split
  · exact eq_ofTicks (by omega) (by omega) (by omega)
  · split
    · exact eq_ofTicks (by omega) (by omega) (by omega)
    · exact eq_ofTicks (by omega) (by omega) (by omega)

/-- A move into the future that does not leave a leap second stays in it. -/
theorem add?_of_stays (hleap : 1000000000 ≤ t.nanos) {s : Span} (hs : 0 ≤ s.nanos)
    (hshort : ¬(0 < s.wholeSeconds ∨ 0 < s.subNanos ∧ 2000000000 - s.subNanos ≤ (t.nanos : Int))) :
    t.add? s = some ⟨t.seconds, (t.nanos + s.subNanos).toNat⟩ := by
  obtain ⟨-, -, -, hpos⟩ := span_parts s
  have hleap' : 1000000000 ≤ (t.nanos : Int) := by omega
  have hds : ¬s.wholeSeconds < 0 := by omega
  have hshort' : (decide (0 < s.wholeSeconds) ||
      decide (0 < s.subNanos) && decide (2000000000 - s.subNanos ≤ (t.nanos : Int))) = false := by
    simpa using hshort
  unfold add?
  simp only [hleap', hds, hshort', decide_true, decide_false, Bool.not_false, Bool.and_true,
    if_true]

/-- One that leaves it starts from the second before. -/
theorem add?_of_leaves {rest : Nat} (hleap : t.nanos = rest + 1000000000)
    (hrest : rest < 1000000000) {s : Span}
    (hfar : 0 < s.wholeSeconds ∨ 0 < s.subNanos ∧ 2000000000 - s.subNanos ≤ (t.nanos : Int)) :
    t.add? s = (⟨t.seconds, rest⟩ : Instant).add? s := by
  have hleap' : 1000000000 ≤ (t.nanos : Int) := by omega
  have hcast : (t.nanos : Int) - 1000000000 = rest := by omega
  have hplain : ¬1000000000 ≤ (rest : Int) := by omega
  have hfar' : (decide (0 < s.wholeSeconds) ||
      decide (0 < s.subNanos) && decide (2000000000 - s.subNanos ≤ (t.nanos : Int))) = true := by
    simpa using hfar
  unfold add?
  simp only [hleap', hfar', hcast, hplain, decide_true, decide_false, Bool.not_true,
    Bool.and_false, Bool.false_and, Bool.false_eq_true, if_false, if_true]

/-- An instant moved by a span that is not negative leaves the calendar at its end, or not at
all. -/
theorem add?_eq_none_iff (h : t.Valid) {s : Span} (hs : 0 ≤ s.nanos) :
    t.add? s = none ↔ lastTick ≤ t.ticks + s.nanos := by
  have hplain_iff : ∀ {u : Instant}, u.Plain →
      (u.add? s = none ↔ lastTick ≤ u.ticks + s.nanos) := by
    intro u hu
    have hfirst := hu.valid.firstTick_le.1
    rw [add?_eq hu]
    split <;> simp <;> omega
  have hnanos := h.nanos_lt
  by_cases hleap : 1000000000 ≤ t.nanos
  · by_cases hfar : 0 < s.wholeSeconds ∨ 0 < s.subNanos ∧ 2000000000 - s.subNanos ≤ (t.nanos : Int)
    · obtain ⟨rest, hrest⟩ := Nat.exists_eq_add_of_le' hleap
      have hlt : rest < 1000000000 := by omega
      have hticks : (⟨t.seconds, rest⟩ : Instant).ticks = t.ticks := by
        unfold ticks
        simp only
        omega
      have hplain : (⟨t.seconds, rest⟩ : Instant).Plain := ⟨h.inRange, hlt⟩
      rw [add?_of_leaves hrest hlt hfar, hplain_iff hplain, hticks]
    · rw [add?_of_stays hleap hs hfar]
      obtain ⟨hspan, -, -, hpos⟩ := span_parts s
      have hrange := inRange_iff.1 h.inRange
      unfold lastTick ticks
      simp
      omega
  · exact hplain_iff ⟨h.inRange, by omega⟩

/-- So does one moved back, at its beginning. -/
theorem sub?_eq (h : t.Plain) {s : Span} (hs : 0 ≤ s.nanos) :
    t.sub? s =
      if firstTick ≤ t.ticks - s.nanos then
        some (ofTicks (t.ticks - s.nanos))
      else none := by
  have hlast := h.valid.lt_lastTick
  have hneg : t.ticks + -s.nanos = t.ticks - s.nanos := rfl
  have hin : firstTick ≤ t.ticks - s.nanos ∧ t.ticks - s.nanos < lastTick ↔
      firstTick ≤ t.ticks - s.nanos := by omega
  rw [sub?, add?_eq h]
  simp only [hneg, hin]

/-- An instant is not later than another where its position is not. -/
theorem le_iff_position {u : Instant} (h : t.nanos < 1000000000) :
    u ≤ t ↔ u.position ≤ t.position := by
  have hle : u ≤ t ↔ u.seconds < t.seconds ∨ u.seconds = t.seconds ∧ u.nanos ≤ t.nanos := by
    change le u t = true ↔ _
    simp [le]
  rw [hle]
  unfold position
  omega

end Instant

/-! ### Delays -/

/-- The delay of an item is over. -/
def Item.Aged (item : Item) (now : Instant) (delay : Nat) : Prop :=
  item.lastModified.position + delay * 1000000 ≤ now.position

instance (item : Item) (now : Instant) (delay : Nat) : Decidable (item.Aged now delay) :=
  inferInstanceAs (Decidable (_ ≤ _))

variable {item : Item} {now : Instant} {delay : Nat}

/-- A delay that is not counted is longer than the calendar. -/
theorem Item.not_aged_of_maxMillis_lt (hitem : item.lastModified.Valid) (hnow : now.Plain)
    (hdelay : Span.maxMillis < delay) : ¬item.Aged now delay := by
  have hlength : Instant.lastTick - Instant.firstTick ≤ Span.maxMillis * 1000000 := by decide
  have hfirst := hitem.firstTick_le.2
  have hlast := hnow.valid.lt_lastTick
  unfold Item.Aged
  rw [hnow.position_eq]
  omega

/-- Nothing was written before the calendar. -/
theorem Item.not_aged_of_undershoots (hitem : item.lastModified.Valid) (hnow : now.Plain)
    (h : now.Undershoots delay) : ¬item.Aged now delay := by
  have hfirst := hitem.firstTick_le.2
  have hunder := h.2
  unfold Item.Aged
  rw [hnow.position_eq]
  omega

/-- An item that is not later than its delay before now has its delay behind it. -/
theorem Item.le_due_iff (hnow : now.Plain) :
    item.lastModified ≤ Instant.ofTicks (now.ticks - (Span.ofMillis delay).nanos) ↔
      item.Aged now delay := by
  rw [Instant.le_iff_position (Instant.nanos_ofTicks_lt _), Instant.position_ofTicks, Item.Aged,
    hnow.position_eq]
  simp only [Span.ofMillis]
  omega

/-- Under a delay that is counted, whether an item is old enough is whether its delay is over,
unless the delay began before the calendar. -/
theorem Item.isOlderThan?_of_le (item : Item) (hnow : now.Plain) (hdelay : delay ≤ Span.maxMillis) :
    item.isOlderThan? now delay =
      if now.Undershoots delay then none else some (decide (item.Aged now delay)) := by
  have hunder : now.Undershoots delay ↔
      ¬Instant.firstTick ≤ now.ticks - (Span.ofMillis delay).nanos := by
    simp only [Instant.Undershoots, Span.ofMillis]
    omega
  unfold Item.isOlderThan?
  rw [if_neg (Nat.not_lt.2 hdelay), Instant.sub?_eq hnow (by simp only [Span.ofMillis]; omega)]
  by_cases hfirst : Instant.firstTick ≤ now.ticks - (Span.ofMillis delay).nanos
  · rw [if_pos hfirst, if_neg (fun h => hunder.1 h hfirst), Option.map_some]
    simp only [Item.le_due_iff hnow]
  · rw [if_neg hfirst, if_pos (hunder.2 hfirst), Option.map_none]

/-- What is found old enough has its delay behind it. -/
theorem Item.aged_of_isOlderThan? (hnow : now.Plain) (h : item.isOlderThan? now delay = some true) :
    item.Aged now delay := by
  by_cases hdelay : Span.maxMillis < delay
  · simp [Item.isOlderThan?, hdelay] at h
  · rw [Item.isOlderThan?_of_le item hnow (Nat.not_lt.1 hdelay)] at h
    split at h
    · cases h
    · exact of_decide_eq_true (Option.some.inj h)

/-- Whether an item is old enough is whether its delay is over, unless the delay began before the
calendar. -/
theorem Item.isOlderThan?_eq (hitem : item.lastModified.Valid) (hnow : now.Plain) :
    item.isOlderThan? now delay =
      if now.Undershoots delay then none else some (decide (item.Aged now delay)) := by
  by_cases hdelay : Span.maxMillis < delay
  · have hcounted : ¬now.Undershoots delay := fun h => Nat.not_lt.2 h.1 hdelay
    have hyoung := Item.not_aged_of_maxMillis_lt hitem hnow hdelay
    simp only [Item.isOlderThan?, hdelay, hcounted, hyoung, if_true, if_false, decide_false]
  · exact Item.isOlderThan?_of_le item hnow (Nat.not_lt.1 hdelay)

/-- As time goes on, what was old enough stays so. -/
theorem Item.Aged.mono (h : item.Aged now delay) {later : Instant} (hlater : later.Plain)
    (hle : now ≤ later) : item.Aged later delay := by
  have hposition := (Instant.le_iff_position hlater.nanos_lt).1 hle
  unfold Item.Aged at *
  omega

/-- When an item will be old enough is told unless the delay ends beyond the calendar. -/
theorem OutboundPlan.readyIn?_eq_none_iff (hitem : item.lastModified.Valid) :
    OutboundPlan.readyIn? item now delay = none ↔ item.lastModified.Overshoots delay := by
  unfold OutboundPlan.readyIn? Instant.Overshoots
  split
  · simp
    omega
  · rw [Option.map_eq_none_iff,
      Instant.add?_eq_none_iff hitem (by simp only [Span.ofMillis]; omega)]
    simp only [Span.ofMillis]
    omega

end HubReplication
