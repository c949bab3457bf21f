/-
**Backoff.**

After a failed round a dialer waits before the next one, twice as long as before each round it
fails, up to a cap.  The wait may be shortened by a random share, never lengthened, so that the cap
holds and peers that failed together do not return together.

Main definitions:

* `RetryPolicy` — base delay, cap and jitter;
* `RetryPolicy.delay` — the longest wait before an attempt;
* `RetryPolicy.spread` — the wait for a random share.

Main results:

* `RetryPolicy.delay_le_cap` — no wait is above the cap;
* `RetryPolicy.spread_le` — jitter only shortens.
-/

set_option relaxedAutoImplicit false
set_option autoImplicit false

namespace HubReplication

/-- How long to wait before trying again; times are in milliseconds. -/
structure RetryPolicy where
  base : Nat
  /-- No wait is longer; none where there is no cap. -/
  cap : Option Nat
  /-- By how many thousandths a wait may be shortened. -/
  jitter : Nat
deriving DecidableEq, Repr

namespace RetryPolicy

/-- The longest time that can be told, in milliseconds. -/
def longest : Nat := UInt64.size - 1

/-- Waits that double from a base delay on, without cap or jitter. -/
def exponential (base : Nat) : RetryPolicy := ⟨base, none, 0⟩

/-- The policy under a cap; a cap of nothing is no cap. -/
def withCap (p : RetryPolicy) (cap : Nat) : RetryPolicy :=
  { p with cap := if cap = 0 then none else some cap }

/-- The policy with a jitter, which is at most the whole wait. -/
def withJitter (p : RetryPolicy) (jitter : Nat) : RetryPolicy :=
  { p with jitter := min jitter 1000 }

/-- How often the base delay is doubled for an attempt; attempts count from one. -/
def doublings (attempt : Nat) : Nat := min (attempt - 1) 31

/-- The product of two words of 128 bits, or the greatest such word where it does not fit. -/
def mulSaturating (a b : BitVec 128) : BitVec 128 :=
  if a.umulOverflow b then .allOnes 128 else a * b

/-- The first 64 bits of a word of 128, after it was brought down to the longest time. -/
def truncate (a : BitVec 128) : BitVec 64 :=
  (if a ≤ .ofNat 128 longest then a else .ofNat 128 longest).setWidth 64

/-- The wait before an attempt, regardless of the cap.  It is reckoned in words of 128 bits and told
in one of 64. -/
def uncapped (p : RetryPolicy) (attempt : Nat) : Nat :=
  (truncate (mulSaturating (.ofNat 128 p.base) (1#128 <<< doublings attempt))).toNat

/-- The longest wait before an attempt. -/
def delay (p : RetryPolicy) (attempt : Nat) : Nat :=
  if p.base = 0 then 0
  else
    match p.cap with
    | some cap => min (p.uncapped attempt) cap
    | none => p.uncapped attempt

/-- The wait before an attempt when `share` thousandths of the jitter are taken off, to the nearest
millisecond. -/
def spread (p : RetryPolicy) (attempt share : Nat) : Nat :=
  p.delay attempt - (p.delay attempt * p.jitter * min share 1000 + 499999) / 1000000

/-- Whether a wait before an attempt, in whole milliseconds, is one that the jitter leaves. -/
def allows (p : RetryPolicy) (attempt wait : Nat) : Bool :=
  wait ≤ p.delay attempt && p.delay attempt * (1000 - p.jitter) ≤ (wait + 1) * 1000

theorem delay_le_cap {p : RetryPolicy} {cap : Nat} (h : p.cap = some cap) (attempt : Nat) :
    p.delay attempt ≤ cap := by
  simp only [delay, h]
  split
  · exact Nat.zero_le _
  · exact Nat.min_le_right _ _

theorem spread_le (p : RetryPolicy) (attempt share : Nat) :
    p.spread attempt share ≤ p.delay attempt := Nat.sub_le _ _

end RetryPolicy

end HubReplication
