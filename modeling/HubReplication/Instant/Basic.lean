/-
**Instants and spans.**

An instant is a second of the proleptic Gregorian calendar in universal time and a number of
nanoseconds within it.  A leap second is the second before it with 10^9 or more nanoseconds.
Instants range from the year -262143 to the year 262142; moving beyond that range fails.

Main definitions:

* `Instant` — an instant, ordered by second and nanosecond;
* `Span` — a span of time in nanoseconds;
* `Instant.add?`, `Instant.sub?` — an instant moved by a span, if it stays in range;
* `Instant.since` — the span between two instants.
-/

set_option relaxedAutoImplicit false
set_option autoImplicit false

namespace HubReplication

/-- Days from 1970-01-01 to a date of the proleptic Gregorian calendar. -/
def daysFromCivil (year : Int) (month day : Nat) : Int :=
  let y : Int := if month ≤ 2 then year - 1 else year
  let era : Int := Int.fdiv y 400
  let yearOfEra : Int := y - era * 400
  let shifted : Nat := if month > 2 then month - 3 else month + 9
  let dayOfYear : Int := ((153 * shifted + 2) / 5 + day - 1 : Nat)
  let dayOfEra : Int := yearOfEra * 365 + yearOfEra / 4 - yearOfEra / 100 + dayOfYear
  era * 146097 + dayOfEra - 719468

/-- The year, month and day of a number of days since 1970-01-01. -/
def civilFromDays (days : Int) : Int × Nat × Nat :=
  let z := days + 719468
  let era := Int.fdiv z 146097
  let dayOfEra := z - era * 146097
  let yearOfEra := (dayOfEra - dayOfEra / 1460 + dayOfEra / 36524 - dayOfEra / 146096) / 365
  let dayOfYear := dayOfEra - (365 * yearOfEra + yearOfEra / 4 - yearOfEra / 100)
  let mp := (5 * dayOfYear + 2) / 153
  let day := (dayOfYear - (153 * mp + 2) / 5 + 1).toNat
  let month := (if mp < 10 then mp + 3 else mp - 9).toNat
  let year := yearOfEra + era * 400
  (if month ≤ 2 then year + 1 else year, month, day)

/-- An instant of universal time. -/
structure Instant where
  /-- Seconds since the start of 1970, leap seconds not counted. -/
  seconds : Int
  /-- Nanoseconds within the second; 10^9 and more in a leap second. -/
  nanos : Nat
deriving DecidableEq, Repr, Inhabited

/-- A span of time in nanoseconds. -/
structure Span where
  nanos : Int
deriving DecidableEq, Repr

namespace Span

/-- Milliseconds as a span. -/
def ofMillis (ms : Nat) : Span := ⟨ms * 1000000⟩

/-- Whole seconds of a span, toward zero. -/
def wholeSeconds (s : Span) : Int := s.nanos.tdiv 1000000000

/-- Nanoseconds beyond the whole seconds, with the sign of the span. -/
def subNanos (s : Span) : Int := s.nanos.tmod 1000000000

/-- The longest delay, in milliseconds, that calendar arithmetic takes. -/
def maxMillis : Nat := 0x7FFFFFFFFFFFFFFF

end Span

namespace Instant

/-- Seconds in a day. -/
def secondsPerDay : Int := 86400

/-- The first second in range. -/
def firstSecond : Int := daysFromCivil (-262143) 1 1 * secondsPerDay

/-- The last second in range. -/
def lastSecond : Int := daysFromCivil 262142 12 31 * secondsPerDay + 86399

/-- Whether a second is in range. -/
def inRange (seconds : Int) : Bool := firstSecond ≤ seconds && seconds ≤ lastSecond

/-- Earlier or equal: by second, then by nanosecond. -/
def le (a b : Instant) : Bool :=
  a.seconds < b.seconds || (a.seconds == b.seconds && a.nanos ≤ b.nanos)

instance : LE Instant := ⟨fun a b => le a b = true⟩
instance : DecidableRel ((· ≤ ·) : Instant → Instant → Prop) := fun a b =>
  inferInstanceAs (Decidable (le a b = true))

/-- An instant moved by a span.  A move that ends inside a leap second stays in it; one that leaves
a leap second starts from its nearer end. -/
def add? (t : Instant) (s : Span) : Option Instant :=
  let ds := s.wholeSeconds
  let dn := s.subNanos
  let frac : Int := t.nanos
  let leap := 1000000000 ≤ frac
  if leap && !(0 < ds || (0 < dn && 2000000000 - dn ≤ frac)) && !(ds < 0) then
    some ⟨t.seconds, (frac + dn).toNat⟩
  else
    let (secs, frac) :=
      if leap then
        if 0 < ds || (0 < dn && 2000000000 - dn ≤ frac) then (t.seconds, frac - 1000000000)
        else (t.seconds + 1, frac - 1000000000)
      else (t.seconds, frac)
    let secs := secs + ds
    let frac := frac + dn
    let (secs, frac) :=
      if frac < 0 then (secs - 1, frac + 1000000000)
      else if 1000000000 ≤ frac then (secs + 1, frac - 1000000000)
      else (secs, frac)
    if inRange secs then some ⟨secs, frac.toNat⟩ else none

/-- An instant moved back by a span. -/
def sub? (t : Instant) (s : Span) : Option Instant := t.add? ⟨-s.nanos⟩

/-- The span from one instant to another. -/
def since (later earlier : Instant) : Span :=
  ⟨(later.seconds - earlier.seconds) * 1000000000 + ((later.nanos : Int) - earlier.nanos)⟩

end Instant

end HubReplication
