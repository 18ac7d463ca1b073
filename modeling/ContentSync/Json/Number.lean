import ContentSync.Decimal.Binary64

/-!
# Numbers of JSON text

A number without point and exponent that fits 64 bits, signed or unsigned, is an integer; every
other number is a binary floating point number.

The value of a floating point number is computed from at most 64 bits of significand, scaled by
powers of ten of at most `1e308` with one rounding each.  Digits that do not fit the significand
are dropped, and those before the point counted into the exponent.  A number too large for the
format has no value; one too small is zero.

* `Number` — the two kinds of number.
* `Numeral` — a number as it is spelled.
* `Numeral.value?` — the number that a spelling stands for.
-/

namespace ContentSync.Json

/-- A number of JSON text. -/
inductive Number where
  /-- An integer from `-2 ^ 63` to `2 ^ 64 - 1`. -/
  | int (value : Int)
  | float (value : Binary64)
  deriving DecidableEq

/-- A spelled number: sign, digits before and after the point, and the exponent.  `point` and
`exponent` are absent when the spelling has none. -/
structure Numeral where
  negative : Bool
  whole : List Nat
  point : Option (List Nat)
  exponent : Option (Bool × List Nat)

/-- The largest significand. -/
def maxSignificand : Nat := Nat.pow 2 64 - 1

/-- A significand and the power of ten to scale it by. -/
structure Scaled where
  significand : Nat
  exponent : Int

/-- Takes up digits before the point.  Once one does not fit, it and all later ones only count. -/
def takeWhole : List Nat → Nat → Scaled
  | [], n => ⟨n, 0⟩
  | d :: rest, n =>
      if maxSignificand < n * 10 + d then ⟨n, rest.length + 1⟩ else takeWhole rest (n * 10 + d)

/-- Takes up digits after the point, until one does not fit. -/
def takeFraction : List Nat → Scaled → Scaled
  | [], s => s
  | d :: rest, s =>
      if maxSignificand < s.significand * 10 + d then s
      else takeFraction rest ⟨s.significand * 10 + d, s.exponent - 1⟩

/-- The natural number that decimal digits spell, if it fits the significand. -/
def wholeValue? (ds : List Nat) : Option Nat :=
  let s := takeWhole ds 0
  if s.exponent = 0 then some s.significand else none

/-- A power of ten as a floating point number. -/
def powerOfTen (n : Nat) : Binary64 := Binary64.ofRatio false (Nat.pow 10 n) 1

/-- **Scaling.**  One multiplication or division when a power of ten of the format suffices;
otherwise divisions by `1e308` until one does or nothing is left. -/
def scale (x : Binary64) (exponent : Int) : Option Binary64 :=
  if exponent.natAbs ≤ 308 then
    if 0 ≤ exponent then
      let y := x.mul (powerOfTen exponent.natAbs)
      if y.isFinite then some y else none
    else some (x.div (powerOfTen exponent.natAbs))
  else if x.isZero then some x
  else if 0 ≤ exponent then none
  else scale (x.div (powerOfTen 308)) (exponent + 308)
termination_by exponent.natAbs

/-- The exponent as far as it matters: from `2 ^ 31` on only its sign does. -/
def Numeral.exponentValue (n : Numeral) : Option Int :=
  match n.exponent with
  | none => some 0
  | some (negative, ds) =>
      ((wholeValue? ds).filter (· < Nat.pow 2 31)).map fun e => if negative then -e else e

/-- A magnitude with its sign. -/
def withSign (negative : Bool) (x : Binary64) : Binary64 :=
  Binary64.ofParts negative x.magnitudeBits

/-- The floating point value of a spelled number, if it is in range. -/
def Numeral.float? (n : Numeral) : Option Binary64 :=
  let s := takeFraction (n.point.getD []) (takeWhole n.whole 0)
  match n.exponentValue with
  | none =>
      if s.significand = 0 ∨ (n.exponent.map Prod.fst).getD false then
        some (Binary64.zero n.negative)
      else none
  | some e =>
      (scale (Binary64.ofInt s.significand) (s.exponent + e)).map (withSign n.negative)

/-- **The value of a spelled number.**  A spelling without point and exponent is an integer when it
fits 64 bits; minus zero is a floating point number, for only those have two zeros. -/
def Numeral.value? (n : Numeral) : Option Number :=
  match n.point, n.exponent, n.negative, wholeValue? n.whole with
  | none, none, false, some m => some (.int m)
  | none, none, true, some m =>
      if 0 < m ∧ m ≤ Nat.pow 2 63 then some (.int (-m)) else n.float?.map .float
  | _, _, _, _ => n.float?.map .float

end ContentSync.Json
