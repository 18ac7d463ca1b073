/-!
# Binary floating point numbers of 64 bits

A number that is not an integer is held as the 64 bits of its binary floating point form, so that
two numbers are told apart exactly when their bits differ.  All arithmetic is exact arithmetic on
natural numbers followed by one rounding.

* `Binary64.magnitude?` — a finite number as `m · 2 ^ q`, its sign apart.
* `Binary64.ofRatio` — the number nearest to a fraction, a tie going to the even neighbour.
* `Binary64.mul`, `Binary64.div` — the exact product or quotient, rounded once.
* `Binary64.sameValue` — equality as numbers: the two zeros are equal, a NaN equals nothing.
-/

namespace ContentSync

/-- The quotient of two natural numbers rounded to the nearest integer, a tie going to the even
one. -/
def roundDiv (num den : Nat) : Nat :=
  let q := num / den
  let r := num % den
  if 2 * r < den then q
  else if den < 2 * r then q + 1
  else if q % 2 = 0 then q else q + 1

/-- The bits of a binary floating point number: sign, eleven bits of exponent, fifty-two of
fraction. -/
structure Binary64 where
  bits : UInt64
  deriving DecidableEq, Inhabited

namespace Binary64

/-- Whether the sign bit is set. -/
def isNegative (x : Binary64) : Bool := Nat.pow 2 63 ≤ x.bits.toNat

/-- The bits without the sign. -/
def magnitudeBits (x : Binary64) : Nat := x.bits.toNat % Nat.pow 2 63

/-- The stored exponent. -/
def exponentField (x : Binary64) : Nat := x.magnitudeBits / Nat.pow 2 52

/-- The stored fraction. -/
def fractionField (x : Binary64) : Nat := x.magnitudeBits % Nat.pow 2 52

/-- Neither an infinity nor a NaN. -/
def isFinite (x : Binary64) : Bool := x.exponentField < 2047

/-- Not a number. -/
def isNaN (x : Binary64) : Bool := x.exponentField = 2047 && x.fractionField ≠ 0

/-- One of the two zeros. -/
def isZero (x : Binary64) : Bool := x.magnitudeBits = 0

/-- **Decoding.**  A finite number is `m · 2 ^ q` with `m < 2 ^ 53` and `-1074 ≤ q`. -/
def magnitude? (x : Binary64) : Option (Nat × Int) :=
  if x.isFinite then
    if x.exponentField = 0 then some (x.fractionField, -1074)
    else some (Nat.pow 2 52 + x.fractionField, (x.exponentField : Int) - 1075)
  else none

/-- The number with given sign and magnitude bits. -/
def ofParts (negative : Bool) (magnitude : Nat) : Binary64 :=
  ⟨UInt64.ofNat (magnitude + if negative then Nat.pow 2 63 else 0)⟩

/-- Positive or negative infinity. -/
def infinity (negative : Bool) : Binary64 := ofParts negative (2047 * Nat.pow 2 52)

/-- Positive or negative zero. -/
def zero (negative : Bool) : Binary64 := ofParts negative 0

/-- The number nearest to `num · 2 ^ (-e) / den`, as a count of units `2 ^ e`. -/
def unitsOf (num den : Nat) (e : Int) : Nat :=
  roundDiv (num * Nat.pow 2 (-e).toNat) (den * Nat.pow 2 e.toNat)

/-- **Rounding.**  The number nearest to the fraction `num / den`, of two equally near ones the one
with an even fraction; what is too large becomes an infinity.  The unit is chosen so that the
quotient has 53 bits, but never below the smallest unit `2 ^ -1074`. -/
def ofRatio (negative : Bool) (num den : Nat) : Binary64 :=
  if num = 0 then zero negative
  else
    let estimate : Int := (Nat.log2 num : Int) - Nat.log2 den - 52
    let fits := den * Nat.pow 2 estimate.toNat * Nat.pow 2 52 ≤ num * Nat.pow 2 (-estimate).toNat
    let e := max (if fits then estimate else estimate - 1) (-1074)
    let magnitude := (e + 1074).toNat * Nat.pow 2 52 + unitsOf num den e
    if 2047 * Nat.pow 2 52 ≤ magnitude then infinity negative else ofParts negative magnitude

/-- The number nearest to an integer. -/
def ofInt (n : Int) : Binary64 := ofRatio (n < 0) n.natAbs 1

/-- The number nearest to the product of two finite numbers. -/
def mul (x y : Binary64) : Binary64 :=
  match x.magnitude?, y.magnitude? with
  | some (m, p), some (n, q) =>
      ofRatio (x.isNegative != y.isNegative) (m * n * Nat.pow 2 (p + q).toNat)
        (Nat.pow 2 (-(p + q)).toNat)
  | _, _ => infinity (x.isNegative != y.isNegative)

/-- The number nearest to the quotient of two finite numbers. -/
def div (x y : Binary64) : Binary64 :=
  match x.magnitude?, y.magnitude? with
  | some (m, p), some (n, q) =>
      if n = 0 then infinity (x.isNegative != y.isNegative)
      else
        ofRatio (x.isNegative != y.isNegative) (m * Nat.pow 2 (p - q).toNat)
          (n * Nat.pow 2 (q - p).toNat)
  | _, _ => infinity (x.isNegative != y.isNegative)

/-- Equality as numbers. -/
def sameValue (x y : Binary64) : Bool :=
  if x.isNaN || y.isNaN then false else x == y || (x.isZero && y.isZero)

example : ofRatio false 1 10 = ⟨0x3FB999999999999A⟩ := by decide +kernel
example : ofRatio true 3 2 = ⟨0xBFF8000000000000⟩ := by decide +kernel
example : ofRatio false 1 (Nat.pow 2 1074) = ⟨1⟩ := by decide +kernel
example : ofRatio false (Nat.pow 10 400) 1 = infinity false := by decide +kernel

end Binary64

end ContentSync
