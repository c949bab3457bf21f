/-
**Where the calendar ends.**

Delays, waits and validities are counted in milliseconds or days that nobody limits, and the
calendar has some 262000 years on either side of today.  A delay that no span can hold is looked
after: an item is then never old enough, and a wait is told as none.  But the longest span goes far
beyond the calendar, and between the two limits there are delays that a span holds and that no date
answers to.  Such a delay is accepted when a task or the settings are checked, and everything that
reckons with it fails.  Up to the ends of the calendar nothing fails, and whether an item is old
enough is exact.

Main definitions:

* `OutboundPlan.tooYoung?` — the first item that is not old enough;
* `Instant.Reckons` — what each date that is reckoned from a time comes to.

Main results:

* `OutboundPlan.select_eq_none_iff` — what to send is told unless the first item that is too young
  has no date;
* `Instant.reckons_of_plain` — dates are told exactly where the calendar has them;
* `Instant.dates_missing` — delays, settings and validities that are accepted and have none.
-/

import HubReplication.Cli.Run
import HubReplication.Connection.Dialer
import HubReplication.Proofs.Instant.Timeline
import HubReplication.Proofs.Session.Leave

set_option relaxedAutoImplicit false
set_option autoImplicit false

namespace HubReplication

variable {now : Instant}

/-! ### Batches -/

namespace OutboundPlan

/-- The first of some items that is not old enough. -/
def tooYoung? (plan : OutboundPlan) (now : Instant) (items : List Item) : Option Item :=
  items.find? fun item => !decide (item.Aged now plan.delay)

/-- There is nothing to choose from where the first item that is too young has no date: its delay
began before the calendar, or ends beyond it. -/
theorem select_eq_none_iff (plan : OutboundPlan) (hnow : now.Plain) {items : List Item}
    (hitems : ∀ item ∈ items, item.lastModified.Valid) (etag : Nat) :
    plan.select now etag items = none ↔
      ∃ young, plan.tooYoung? now items = some young ∧
        (now.Undershoots plan.delay ∨ young.lastModified.Overshoots plan.delay) := by
  induction items generalizing etag with
  | nil => simp [select, tooYoung?]
  | cons item rest ih =>
      obtain ⟨hitem, hrest⟩ := List.forall_mem_cons.1 hitems
      unfold select tooYoung?
      rw [Item.isOlderThan?_eq hitem hnow, List.find?_cons]
      by_cases hunder : now.Undershoots plan.delay
      · have hyoung := Item.not_aged_of_undershoots hitem hnow hunder
        simp [hunder, hyoung]
      · by_cases haged : item.Aged now plan.delay
        · simp only [hunder, haged, if_false, decide_true, Bool.not_true, Option.map_eq_none_iff]
          simpa only [hunder, tooYoung?] using ih hrest item.etag
        · simp only [hunder, haged, if_false, decide_false, Bool.not_false, Option.map_eq_none_iff,
            readyIn?_eq_none_iff hitem, Option.some.injEq, exists_eq_left', false_or]

end OutboundPlan

namespace Session

/-- A session breaks off where there is no telling what to send. -/
theorem verdict_send_eq_beyondCalendar_iff (s : Session) (side : LocalSide) (clock : Nat)
    (wall : Instant) :
    (s.send side clock wall).verdict = .beyondCalendar ↔
      ∃ plan, s.terms.outbound = some plan ∧
        plan.select wall s.cursor
          (side.site.store.changesAfter s.cursor s.terms.maxBatchSize) = none := by
  refine ⟨select_of_verdict_send, ?_⟩
  rintro ⟨plan, hplan, hnone⟩
  unfold send
  simp only [hplan, hnone]

end Session

/-! ### Waits and validities -/

namespace Dialer

theorem retryAt?_eq_none_iff (hnow : now.Plain) (delay : Nat) :
    retryAt? now delay = none ↔ now.Overshoots delay := by
  have hlast := hnow.valid.lt_lastTick
  unfold retryAt? Instant.Overshoots
  rw [Instant.add?_eq_none_iff hnow.valid (by simp only [Span.ofMillis]; omega)]
  simp only [Span.ofMillis]
  split <;> omega

/-- A dialer is lost where the end of its wait has no date. -/
theorem phase_wait_eq_lost_iff (d : Dialer) (side : LocalSide) (clock : Nat) (hnow : now.Plain) :
    (d.wait side clock now).dialer.phase = .lost none ↔
      now.Overshoots (d.assignment.settings.retryPolicy.spread d.round side.site.share) := by
  rw [← retryAt?_eq_none_iff hnow]
  unfold wait
  simp only
  split <;> rename_i heq <;> simp [heq]

end Dialer

namespace GeneratedCertificate

/-- The begin of a validity or the end of it has no date. -/
def Undated (now : Instant) (validity : Int) : Prop :=
  now.ticks - head.nanos < Instant.firstTick ∨ Instant.lastTick ≤ now.ticks + validity

theorem generate_eq_beyondCalendar_iff (hnow : now.Plain) {subject : String}
    (hsubject : Text.isBlankText subject = false) {validity : Span} (hvalidity : 0 ≤ validity.nanos)
    (entropy : Entropy) :
    generate subject validity now entropy = .error .beyondCalendar ↔
      Undated now validity.nanos := by
  unfold generate Undated
  rw [if_neg (by simp [hsubject]), Instant.sub?_eq hnow (by decide),
    ← Instant.add?_eq_none_iff hnow.valid hvalidity]
  by_cases hfirst : Instant.firstTick ≤ now.ticks - head.nanos
  · rw [if_pos hfirst, or_iff_right (Int.not_lt.2 hfirst)]
    cases now.add? validity <;> simp
  · rw [if_neg hfirst]
    exact iff_of_true rfl (.inl (Int.not_le.1 hfirst))

end GeneratedCertificate

theorem CommandLine.runGenerate_eq_beyondCalendar_iff (around : Surroundings)
    (hnow : around.now.Plain) {subject : String} (hsubject : Text.isBlankText subject = false)
    {days : Nat} (hdays : 0 < days) :
    runGenerate around subject days = .beyondCalendar ↔
      GeneratedCertificate.Undated around.now (days * 86400 * 1000000000) := by
  have hvalidity : (0 : Int) ≤ days * 86400 * 1000000000 := by omega
  rw [← GeneratedCertificate.generate_eq_beyondCalendar_iff hnow hsubject hvalidity around.entropy]
  unfold runGenerate
  rw [if_neg (by omega)]
  split <;> rename_i heq <;> simp [heq]

/-! ### All of it -/

/-- What each date that is reckoned from a time comes to. -/
structure Instant.Reckons (now : Instant) : Prop where
  /-- Whether an item is old enough is exact, unless its delay began before the calendar. -/
  older : ∀ (item : Item) (delay : Nat), item.lastModified.Valid →
    item.isOlderThan? now delay =
      if now.Undershoots delay then none
      else some (decide (item.lastModified.position + delay * 1000000 ≤ now.position))
  /-- When an item will be is told, unless its delay ends beyond the calendar. -/
  ready : ∀ (item : Item) (delay : Nat), item.lastModified.Valid →
    (OutboundPlan.readyIn? item now delay = none ↔ item.lastModified.Overshoots delay)
  /-- A session breaks off over the first item that is too young, if its delay does either. -/
  send : ∀ (s : Session) (side : LocalSide) (clock : Nat),
    let candidates := side.site.store.changesAfter s.cursor s.terms.maxBatchSize
    (∀ item ∈ candidates, item.lastModified.Valid) →
      ((s.send side clock now).verdict = .beyondCalendar ↔
        ∃ plan young, s.terms.outbound = some plan ∧
          plan.tooYoung? now candidates = some young ∧
          (now.Undershoots plan.delay ∨ young.lastModified.Overshoots plan.delay))
  /-- The end of a wait is told, whatever share of it is taken off, unless it is beyond the
  calendar. -/
  retry : ∀ (settings : ReplicationSettings) (round share : Nat),
    (Dialer.retryAt? now (settings.retryPolicy.spread round share) = none ↔
      now.Overshoots (settings.retryPolicy.spread round share))
  /-- A dialer is lost where it is. -/
  wait : ∀ (d : Dialer) (side : LocalSide) (clock : Nat),
    ((d.wait side clock now).dialer.phase = .lost none ↔
      now.Overshoots (d.assignment.settings.retryPolicy.spread d.round side.site.share))
  /-- A certificate is made, unless its validity begins or ends outside the calendar. -/
  certificate : ∀ (around : Surroundings) (subject : String) (days : Nat), around.now = now →
    Text.isBlankText subject = false → 0 < days →
      (CommandLine.runGenerate around subject days = .beyondCalendar ↔
        now.ticks - 300 * 1000000000 < Instant.firstTick ∨
          Instant.lastTick ≤ now.ticks + days * 86400 * 1000000000)

/-- **Dates are told exactly where the calendar has them.**  Nothing that the settings, a task or a
command line may ask for fails as long as it stays in the calendar, and everything that leaves the
calendar does, but for delays that no span holds. -/
theorem Instant.reckons_of_plain (hnow : now.Plain) : now.Reckons := by
  constructor
  case older => exact fun item delay hitem => Item.isOlderThan?_eq hitem hnow
  case ready => exact fun item delay hitem => OutboundPlan.readyIn?_eq_none_iff hitem
  case send =>
    intro s side clock candidates hitems
    rw [Session.verdict_send_eq_beyondCalendar_iff]
    constructor
    · rintro ⟨plan, hplan, hnone⟩
      obtain ⟨young, hyoung, hoff⟩ := (plan.select_eq_none_iff hnow hitems s.cursor).1 hnone
      exact ⟨plan, young, hplan, hyoung, hoff⟩
    · rintro ⟨plan, young, hplan, hyoung, hoff⟩
      exact ⟨plan, hplan, (plan.select_eq_none_iff hnow hitems s.cursor).2 ⟨young, hyoung, hoff⟩⟩
  case retry => exact fun settings round share => Dialer.retryAt?_eq_none_iff hnow _
  case wait => exact fun d side clock => Dialer.phase_wait_eq_lost_iff d side clock hnow
  case certificate =>
    rintro around subject days rfl hsubject hdays
    exact CommandLine.runGenerate_eq_beyondCalendar_iff around hnow hsubject hdays

/-! ### Dates that are missing -/

/-- The second of January 2024. -/
def newYear : Instant := ⟨1704153600, 0⟩

/-- A document that was written the day before. -/
def dayOld : Item :=
  { id := "users/1", kind := .document, collection := some "Users", etag := 1,
    changeVector := .single "src" 1, lastModified := ⟨1704067200, 0⟩, deleted := false,
    body := none }

/-- Settings with waits of three million years. -/
def patientSettings : ReplicationSettings :=
  { ReplicationSettings.default with
    initialBackoff := 100000000000000000, maxBackoff := 100000000000000000 }

/-- A command line on that day. -/
def onNewYear : Surroundings := ⟨fun _ => none, newYear, ⟨[], ""⟩⟩

/-- Delays, settings and validities that are accepted, and for which there is no date. -/
theorem Instant.dates_missing :
    newYear.Plain ∧
      dayOld.isOlderThan? newYear 10000000000000000 = none ∧
      dayOld.isOlderThan? newYear 8300000000000000 = some false ∧
      OutboundPlan.readyIn? dayOld newYear 8300000000000000 = none ∧
      patientSettings.validate = .ok () ∧
      Dialer.retryAt? newYear (patientSettings.retryPolicy.spread 1 1000) = none ∧
      CommandLine.runGenerate onNewYear "sink" 4294967295 = .beyondCalendar := by
  have hnow : newYear.Plain := ⟨by decide, by decide⟩
  have hitem : dayOld.lastModified.Valid := ⟨by decide, by decide⟩
  have hreckons := reckons_of_plain hnow
  refine ⟨hnow, ?_, ?_, (hreckons.ready _ _ hitem).2 (by decide), rfl,
    (hreckons.retry _ _ _).2 (by decide),
    (hreckons.certificate onNewYear _ _ rfl (by decide) (by decide)).2 (by decide)⟩
  · rw [hreckons.older _ _ hitem]
    decide
  · rw [hreckons.older _ _ hitem]
    decide

end HubReplication
