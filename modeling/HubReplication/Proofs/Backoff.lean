/-
**The waits between attempts.**

A wait is doubled in words of 128 bits, told in one of 64, and put under the cap.  Three limits
follow one another, and each of them is met from below: how often a base delay is doubled is bounded
before it is doubled, a product that does not fit stands at the greatest word, and what is longer
than the longest time is brought down to it before it is cut to 64 bits.  So the waits are those
that exact numbers give, and a long backoff never turns into a short one.

Main definitions:

* `RetryPolicy.plain` — the policy of a base delay and of a cap, where one is set;
* `RetryPolicy.exactWait` — the wait before an attempt in exact numbers;
* `RetryPolicy.Steady` — what holds of the waits of a policy.

Main results:

* `RetryPolicy.toNat_mulSaturating`, `RetryPolicy.toNat_truncate` — the words as numbers;
* `RetryPolicy.delay_plain` — the waits are the exact ones;
* `RetryPolicy.steady_plain` — so they stay under the cap, never get shorter and are never nothing;
* `ReplicationSettings.delay_retryPolicy` — the waits that settings ask for.
-/

import Mathlib.Algebra.Order.Ring.Nat
import HubReplication.Settings

set_option relaxedAutoImplicit false
set_option autoImplicit false

namespace HubReplication

namespace RetryPolicy

/-- The policy of a base delay, and of a cap where one is set. -/
def plain (base : Nat) : Option Nat → RetryPolicy
  | none => exponential base
  | some cap => (exponential base).withCap cap

/-- The wait before an attempt in exact numbers, regardless of the cap. -/
def exactGrowth (base attempt : Nat) : Nat :=
  min (base * 2 ^ min (max attempt 1 - 1) 31) (2 ^ 64 - 1)

/-- The wait before an attempt in exact numbers; a cap of nothing is no cap. -/
def exactWait (base : Nat) (cap? : Option Nat) (attempt : Nat) : Nat :=
  match cap? with
  | none => exactGrowth base attempt
  | some cap => if cap = 0 then exactGrowth base attempt else min cap (exactGrowth base attempt)

/-- What holds of the waits of a policy without jitter. -/
structure Steady (base : Nat) (cap? : Option Nat) : Prop where
  exact : ∀ attempt, (plain base cap?).delay attempt = exactWait base cap? attempt
  /-- Nothing is taken off a wait without jitter, and the longest wait is the same with it. -/
  jitter : ∀ attempt, (∀ share, (plain base cap?).spread attempt share = exactWait base cap? attempt) ∧
    ∀ jitter, ((plain base cap?).withJitter jitter).delay attempt = exactWait base cap? attempt
  le_cap : ∀ {cap}, cap? = some cap → cap ≠ 0 → ∀ attempt, (plain base cap?).delay attempt ≤ cap
  mono : ∀ {attempt later}, attempt ≤ later →
    (plain base cap?).delay attempt ≤ (plain base cap?).delay later
  pos : 0 < base → ∀ attempt, 0 < (plain base cap?).delay attempt

/-! ### Words as numbers -/

theorem toNat_mulSaturating (a b : BitVec 128) :
    (mulSaturating a b).toNat = min (a.toNat * b.toNat) (2 ^ 128 - 1) := by
  unfold mulSaturating
  split
  · rename_i hover
    have hle : 2 ^ 128 ≤ a.toNat * b.toNat := by simpa [BitVec.umulOverflow] using hover
    rw [BitVec.toNat_allOnes, Nat.min_eq_right (by omega)]
  · rename_i hfits
    have hlt : a.toNat * b.toNat < 2 ^ 128 := by simpa [BitVec.umulOverflow] using hfits
    rw [BitVec.toNat_mul_of_not_umulOverflow hfits, Nat.min_eq_left (by omega)]

/-- A word is cut to 64 bits only once it fits into them. -/
theorem toNat_truncate (a : BitVec 128) : (truncate a).toNat = min a.toNat longest := by
  have hlongest : (BitVec.ofNat 128 longest).toNat = longest := by decide
  have hfits : longest < 2 ^ 64 := by decide
  unfold truncate
  rw [BitVec.toNat_setWidth]
  split
  · rename_i hle
    rw [BitVec.le_def, hlongest] at hle
    rw [Nat.mod_eq_of_lt (by omega), Nat.min_eq_left hle]
  · rename_i hgt
    rw [BitVec.le_def, hlongest] at hgt
    rw [hlongest, Nat.mod_eq_of_lt hfits, Nat.min_eq_right (by omega)]

theorem doublings_eq (attempt : Nat) : doublings attempt = min (max attempt 1 - 1) 31 := by
  unfold doublings
  omega

/-- A base delay is doubled too few times for the doubling itself not to fit. -/
theorem toNat_doubling (attempt : Nat) :
    (1#128 <<< doublings attempt).toNat = 2 ^ doublings attempt := by
  have hfew : doublings attempt ≤ 31 := Nat.min_le_right _ _
  have hfits : 2 ^ doublings attempt < 2 ^ 128 :=
    Nat.pow_lt_pow_right (by omega) (by omega)
  rw [BitVec.toNat_shiftLeft, Nat.shiftLeft_eq]
  change 1 * 2 ^ doublings attempt % 2 ^ 128 = _
  rw [Nat.one_mul, Nat.mod_eq_of_lt hfits]

theorem uncapped_eq {p : RetryPolicy} (hbase : p.base < 2 ^ 128) (attempt : Nat) :
    p.uncapped attempt = exactGrowth p.base attempt := by
  have hword : (BitVec.ofNat 128 p.base).toNat = p.base := by
    rw [BitVec.toNat_ofNat, Nat.mod_eq_of_lt hbase]
  rw [uncapped, toNat_truncate, toNat_mulSaturating, hword, toNat_doubling, doublings_eq,
    exactGrowth]
  -- The greatest word is far above the longest time.
  have hlongest : longest = 2 ^ 64 - 1 := rfl
  omega

/-! ### Waits -/

variable {base : Nat}

theorem base_plain (base : Nat) (cap? : Option Nat) : (plain base cap?).base = base := by
  cases cap? <;> rfl

theorem exactGrowth_zero (attempt : Nat) : exactGrowth 0 attempt = 0 := by
  simp [exactGrowth]

theorem delay_plain (hbase : base < 2 ^ 128) (cap? : Option Nat) (attempt : Nat) :
    (plain base cap?).delay attempt = exactWait base cap? attempt := by
  have hgrowth := uncapped_eq (p := plain base cap?) (by rwa [base_plain]) attempt
  rw [base_plain] at hgrowth
  unfold delay
  rw [base_plain, hgrowth]
  split
  · rename_i hzero
    subst hzero
    unfold exactWait
    rw [exactGrowth_zero]
    split <;> simp
  · cases cap? with
    | none => rfl
    | some cap =>
        by_cases hcap : cap = 0
        · simp [plain, exponential, withCap, exactWait, hcap]
        · simp [plain, exponential, withCap, exactWait, hcap, Nat.min_comm]

theorem spread_of_jitter_eq_zero {p : RetryPolicy} (h : p.jitter = 0) (attempt share : Nat) :
    p.spread attempt share = p.delay attempt := by
  simp [spread, h]

theorem jitter_plain (base : Nat) (cap? : Option Nat) : (plain base cap?).jitter = 0 := by
  cases cap? <;> rfl

theorem delay_withJitter (p : RetryPolicy) (jitter attempt : Nat) :
    (p.withJitter jitter).delay attempt = p.delay attempt := rfl

/-! ### Exact numbers -/

theorem exactGrowth_mono (base : Nat) {attempt later : Nat} (h : attempt ≤ later) :
    exactGrowth base attempt ≤ exactGrowth base later := by
  have hdoublings : min (max attempt 1 - 1) 31 ≤ min (max later 1 - 1) 31 := by omega
  have hpow := Nat.mul_le_mul_left base (Nat.pow_le_pow_right (n := 2) (by omega) hdoublings)
  unfold exactGrowth
  omega

theorem exactGrowth_pos (hbase : 0 < base) (attempt : Nat) : 0 < exactGrowth base attempt := by
  have hpow : 0 < base * 2 ^ min (max attempt 1 - 1) 31 :=
    Nat.mul_pos hbase (Nat.pow_pos (by omega))
  unfold exactGrowth
  omega

theorem exactWait_mono (cap? : Option Nat) {attempt later : Nat} (h : attempt ≤ later) :
    exactWait base cap? attempt ≤ exactWait base cap? later := by
  have hgrowth := exactGrowth_mono base h
  unfold exactWait
  split
  · exact hgrowth
  · split <;> omega

theorem exactWait_pos (hbase : 0 < base) (cap? : Option Nat) (attempt : Nat) :
    0 < exactWait base cap? attempt := by
  have hgrowth := exactGrowth_pos hbase attempt
  unfold exactWait
  split
  · exact hgrowth
  · split <;> omega

/-- Whatever the base delay and the cap, the waits are those of exact numbers: nothing wraps, no
wait is above the cap or shorter than the one before it, and none is nothing unless the base is. -/
theorem steady_plain (hbase : base < 2 ^ 128) (cap? : Option Nat) : Steady base cap? where
  exact := delay_plain hbase cap?
  jitter attempt := by
    refine ⟨fun share => ?_, fun jitter => ?_⟩
    · rw [spread_of_jitter_eq_zero (jitter_plain base cap?), delay_plain hbase]
    · rw [delay_withJitter, delay_plain hbase]
  le_cap := by
    rintro cap rfl hcap attempt
    exact delay_le_cap (by simp [plain, exponential, withCap, hcap]) attempt
  mono h := by
    rw [delay_plain hbase, delay_plain hbase]
    exact exactWait_mono cap? h
  pos hpos attempt := by
    rw [delay_plain hbase]
    exact exactWait_pos hpos cap? attempt

/-- A base delay whose double does not fit into 64 bits. -/
theorem steady_plain_huge :
    2 ^ 63 + 1 < 2 ^ 128 ∧ Steady (2 ^ 63 + 1) (some (2 ^ 64 - 2)) ∧
      (plain (2 ^ 63 + 1) none).delay 2 = 2 ^ 64 - 1 ∧
      (plain (2 ^ 63 + 1) (some (2 ^ 64 - 2))).delay 4294967295 = 2 ^ 64 - 2 := by
  have hbase : 2 ^ 63 + 1 < 2 ^ 128 := by decide
  exact ⟨hbase, steady_plain hbase _, by decide, by decide⟩

end RetryPolicy

namespace ReplicationSettings

variable {s : ReplicationSettings}

theorem backoff_of_validate (h : s.validate = .ok ()) :
    s.initialBackoff ≠ 0 ∧ s.initialBackoff ≤ s.maxBackoff := by
  unfold validate at h
  split at h
  · cases h
  · rename_i hpos
    split at h
    · cases h
    · exact ⟨hpos, by omega⟩

/-- The waits that sound settings ask for: the first is the one they name, and none of the later
ones is shorter than that or above the cap. -/
theorem delay_retryPolicy (h : s.validate = .ok ()) (hword : s.maxBackoff < UInt64.size) :
    s.retryPolicy.delay 1 = s.initialBackoff ∧
      ∀ attempt, 1 ≤ attempt → s.initialBackoff ≤ s.retryPolicy.delay attempt ∧
        s.retryPolicy.delay attempt ≤ s.maxBackoff := by
  obtain ⟨hpos, hle⟩ := backoff_of_validate h
  have hsize : UInt64.size = 2 ^ 64 := rfl
  have hsteady : RetryPolicy.Steady s.initialBackoff (some s.maxBackoff) :=
    RetryPolicy.steady_plain (by omega) _
  -- The jitter of the settings is nothing to the longest wait.
  have hpolicy : s.retryPolicy =
      (RetryPolicy.plain s.initialBackoff (some s.maxBackoff)).withJitter 200 := rfl
  have hfirst : s.retryPolicy.delay 1 = s.initialBackoff := by
    have hgrowth : RetryPolicy.exactGrowth s.initialBackoff 1 = s.initialBackoff := by
      rw [RetryPolicy.exactGrowth, show min (max 1 1 - 1) 31 = 0 from rfl]
      omega
    rw [hpolicy, (hsteady.jitter 1).2, RetryPolicy.exactWait, if_neg (by omega), hgrowth]
    omega
  refine ⟨hfirst, fun attempt hattempt => ⟨?_, ?_⟩⟩
  · rw [← hfirst, hpolicy, RetryPolicy.delay_withJitter, RetryPolicy.delay_withJitter]
    exact hsteady.mono hattempt
  · rw [hpolicy, RetryPolicy.delay_withJitter]
    exact hsteady.le_cap rfl (by omega) attempt

end ReplicationSettings

end HubReplication
