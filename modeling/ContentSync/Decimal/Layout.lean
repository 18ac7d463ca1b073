import ContentSync.Decimal.Shortest

/-!
# Floating point numbers as text

A format decides how the shortest digits of a number are laid out: between which magnitudes the
point is written in place, how the exponent is written otherwise, and where a tie goes.
A number written in place always has at least one digit on either side of the point.
-/

namespace ContentSync

/-- The decisions of a format. -/
structure DecimalLayout where
  /-- The lowest exponent of the leading digit that is written with the point in place. -/
  lowest : Int
  /-- The highest such exponent. -/
  highest : Int
  /-- What is written between `e` and a non-negative exponent. -/
  plus : String
  /-- Where a tie goes. -/
  tie : Tie

namespace DecimalLayout

/-- **JSON text.**  In place from `1e-5` to below `1e16`; other exponents carry a sign. -/
def json : DecimalLayout := ⟨-5, 15, "+", .toEven⟩

/-- **Argument literals.**  In place from `1e-4` to below `1e16`; no plus sign. -/
def argument : DecimalLayout := ⟨-4, 15, "", .away⟩

/-- Digits with a point after the first `whole` of them, zeros filling either side. -/
def inPlace (ds : List Char) (whole : Int) : String :=
  if whole ≤ 0 then
    "0." ++ String.ofList (List.replicate (-whole).toNat '0' ++ ds)
  else
    let n := whole.toNat
    let front := ds.take n ++ List.replicate (n - ds.length) '0'
    let back := ds.drop n
    String.ofList front ++ "." ++ (if back.isEmpty then "0" else String.ofList back)

/-- Digits with the point after the first one, and an exponent. -/
def scientific (layout : DecimalLayout) (ds : List Char) (exponent : Int) : String :=
  let mantissa := match ds with
    | [] => "0"
    | [d] => String.ofList [d]
    | d :: rest => String.ofList (d :: '.' :: rest)
  mantissa ++ "e" ++ (if exponent < 0 then "-" else layout.plus) ++ toString exponent.natAbs

/-- The text of a finite number; absent for infinities and NaNs. -/
def render? (layout : DecimalLayout) (x : Binary64) : Option String :=
  match x.magnitude? with
  | none => none
  | some (m, q) =>
      let sign := if x.isNegative then "-" else ""
      if m = 0 then some (sign ++ "0.0")
      else
        let d := Decimal.shortest layout.tie m q
        let ds := Nat.toDigits 10 d.digits
        let exponent := d.exponent + ds.length - 1
        if layout.lowest ≤ exponent && exponent ≤ layout.highest then
          some (sign ++ inPlace ds (exponent + 1))
        else some (sign ++ layout.scientific ds exponent)

end DecimalLayout

end ContentSync
