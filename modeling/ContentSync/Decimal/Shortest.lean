import ContentSync.Decimal.Binary64

/-!
# Shortest decimal digits

The fewest decimal digits that still read back as a given binary floating point number, and of
those the nearest to it.

A finite number is `m · 2 ^ q`.  All reals between the midpoints to its two neighbours round to it,
the midpoints themselves exactly when `m` is even.  For each grid of multiples of `10 ^ e`, from
one significant digit to seventeen, only the two grid points next to the number can lie in that
interval and be nearest; the first grid on which one of them does gives the answer.  When both do
and are equally near, the tie is decided by a parameter.
-/

namespace ContentSync

/-- What happens to a decimal exactly half way between two candidates. -/
inductive Tie where
  /-- The candidate with the even last digit. -/
  | toEven
  /-- The candidate further from zero. -/
  | away
  deriving DecidableEq

/-- The number `digits · 10 ^ exponent`. -/
structure Decimal where
  digits : Nat
  exponent : Int
  deriving DecidableEq

namespace Decimal

/-- The reals that round to `m · 2 ^ q`, in quarters of `2 ^ q`: the number itself and the two ends.
Below a power of two the lower neighbour is only half as far away. -/
structure Interval where
  value : Nat
  low : Nat
  high : Nat
  /-- Whether the ends belong to the interval. -/
  closed : Bool

/-- The interval of a finite number. -/
def Interval.of (m : Nat) (q : Int) : Interval :=
  let low := if m = Nat.pow 2 52 ∧ -1074 < q then 4 * m - 1 else 4 * m - 2
  ⟨4 * m, low, 4 * m + 2, m % 2 == 0⟩

/-- A quarter of `2 ^ q` measured in `10 ^ e`, as a fraction of two natural numbers. -/
def quarterPer (q e : Int) : Nat × Nat :=
  (Nat.pow 2 (q - 2).toNat * Nat.pow 10 (-e).toNat,
    Nat.pow 10 e.toNat * Nat.pow 2 (2 - q).toNat)

/-- Whether the grid point `d · 10 ^ e` lies in the interval. -/
def Interval.holds (i : Interval) (unit : Nat × Nat) (d : Nat) : Bool :=
  let x := d * unit.2
  if i.closed then i.low * unit.1 ≤ x && x ≤ i.high * unit.1
  else i.low * unit.1 < x && x < i.high * unit.1

/-- The nearest point of the grid `10 ^ e` that lies in the interval. -/
def onGrid (tie : Tie) (i : Interval) (q e : Int) : Option Nat :=
  let unit := quarterPer q e
  let x := i.value * unit.1
  let d := x / unit.2
  let below := 0 < d && i.holds unit d
  let above := i.holds unit (d + 1)
  if below && above then
    let twice := 2 * (x - d * unit.2)
    if twice < unit.2 then some d
    else if unit.2 < twice then some (d + 1)
    else match tie with
      | .away => some (d + 1)
      | .toEven => if d % 2 = 0 then some d else some (d + 1)
  else if below then some d
  else if above then some (d + 1)
  else none

/-- The exponent of the leading decimal digit of `m · 2 ^ q`, for positive `m`.  The binary
logarithm gives it up to one. -/
def leadingExponent (m : Nat) (q : Int) : Int :=
  let p : Int := ((Nat.log2 m + q) * 30103).fdiv 100000
  let next := p + 1
  let bound := Nat.pow 10 next.toNat * Nat.pow 2 (-q).toNat
  if bound ≤ m * Nat.pow 2 q.toNat * Nat.pow 10 (-next).toNat then next else p

/-- Tries the grids in turn, from coarse to fine. -/
def firstGrid (tie : Tie) (i : Interval) (q : Int) : Nat → Int → Decimal
  | 0, e => ⟨i.value * (quarterPer q e).1 / (quarterPer q e).2, e⟩
  | n + 1, e =>
      match onGrid tie i q e with
      | some d => ⟨d, e⟩
      | none => firstGrid tie i q n (e - 1)

/-- Moves trailing zeros of the digits into the exponent. -/
def normalize : Nat → Decimal → Decimal
  | 0, d => d
  | n + 1, d =>
      if d.digits % 10 = 0 ∧ d.digits ≠ 0 then normalize n ⟨d.digits / 10, d.exponent + 1⟩ else d

/-- **The shortest decimal** that reads back as `m · 2 ^ q`, for positive `m`. -/
def shortest (tie : Tie) (m : Nat) (q : Int) : Decimal :=
  normalize 20 (firstGrid tie (Interval.of m q) q 18 (leadingExponent m q))

example : shortest .toEven (Nat.pow 2 52) (-52) = ⟨1, 0⟩ := by decide +kernel
example : shortest .toEven 1 (-1074) = ⟨5, -324⟩ := by decide +kernel
example : shortest .toEven 0x1999999999999A (-56) = ⟨1, -1⟩ := by decide +kernel
example : shortest .toEven (Nat.pow 2 52) 12 = ⟨18446744073709552, 3⟩ := by decide +kernel

end Decimal

end ContentSync
