/-
**The shortest decimal of a double.**

A finite double stands for `m * 2 ^ q`.  The reals that round to it form an interval, closed when
`m` is even.  Its shortest decimal is the point of the coarsest power-of-ten grid inside that
interval, the nearest one when there are two.

Main definitions:

* `Decimal.Binary` — a positive double as `m * 2 ^ q` with its rounding interval;
* `Decimal.digitsAt` — the grid point next to the double on one grid, if it rounds to the double;
* `Decimal.shortest` — the digits and the exponent of the shortest decimal.
-/

set_option relaxedAutoImplicit false
set_option autoImplicit false

namespace HubReplication.Decimal

/-- A positive double: the value `mantissa * 2 ^ exponent`, and whether the next smaller double is
only half as far away as the next larger one. -/
structure Binary where
  mantissa : Nat
  exponent : Int
  narrowBelow : Bool
deriving Repr

/-- The value of the bits of a positive finite double. -/
def Binary.ofBits (bits : UInt64) : Binary :=
  let fraction : Nat := bits.toNat % 0x10000000000000
  let biased : Nat := bits.toNat / 0x10000000000000 % 0x800
  if biased = 0 then ⟨fraction, -1074, false⟩
  else ⟨fraction + 0x10000000000000, (biased : Int) - 1075, fraction = 0 && 1 < biased⟩

/-- The double and its rounding interval as multiples of one unit `1 / scale`. -/
structure Interval where
  value : Nat
  low : Nat
  high : Nat
  scale : Nat
  closed : Bool

/-- Four units per step of the mantissa keep both half-way points whole. -/
def Binary.interval (b : Binary) : Interval :=
  let unit := 4 <<< b.exponent.toNat
  { value := b.mantissa * unit
    low := b.mantissa * unit - (if b.narrowBelow then unit / 4 else unit / 2)
    high := b.mantissa * unit + unit / 2
    scale := 4 <<< (-b.exponent).toNat
    closed := b.mantissa % 2 = 0 }

/-- Whether `n / d` units lie in the interval. -/
def Interval.holds (i : Interval) (n d : Nat) : Bool :=
  if i.closed then i.low * d ≤ n && n ≤ i.high * d else i.low * d < n && n < i.high * d

/-- The multiple of `10 ^ e` that rounds to the double, the nearest one if both neighbours do. -/
def digitsAt (i : Interval) (e : Int) : Option Nat :=
  let up := i.scale * Nat.pow 10 e.toNat
  let down := Nat.pow 10 (-e).toNat
  let below := i.value * down / up
  let fits := fun n : Nat => i.holds (n * up) down
  match fits below, fits (below + 1) with
  | true, true =>
    let fromBelow := i.value * down - below * up
    let fromAbove := (below + 1) * up - i.value * down
    if fromBelow < fromAbove then some below
    else if fromAbove < fromBelow then some (below + 1)
    else if below % 2 = 0 then some below else some (below + 1)
  | true, false => some below
  | false, true => some (below + 1)
  | false, false => none

/-- The first grid, coarsest first, that holds a point of the interval. -/
def searchGrid (i : Interval) : Nat → Int → Nat × Int
  | 0, e => (0, e)
  | fuel + 1, e =>
    match digitsAt i e with
    | some n => if n = 0 then searchGrid i fuel (e - 1) else (n, e)
    | none => searchGrid i fuel (e - 1)

/-- Move trailing zeros of the digits into the exponent. -/
def stripZeros : Nat → Nat → Int → Nat × Int
  | 0, n, e => (n, e)
  | fuel + 1, n, e => if n ≠ 0 ∧ n % 10 = 0 then stripZeros fuel (n / 10) (e + 1) else (n, e)

/-- Digits `n` and exponent `e` of the shortest decimal `n * 10 ^ e` of a positive finite double. -/
def shortest (bits : UInt64) : Nat × Int :=
  let found := searchGrid (Binary.ofBits bits).interval 700 310
  stripZeros 20 found.1 found.2

end HubReplication.Decimal
