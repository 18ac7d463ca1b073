/-!
# Spans of time

A span is a natural number of nanoseconds.  In descriptions it is written in the largest of
seconds, milliseconds, microseconds and nanoseconds that gives it a whole part, with as many
decimals as are exact.
-/

namespace ContentSync

/-- A span of time in nanoseconds. -/
structure Duration where
  nanos : Nat
  deriving DecidableEq, Inhabited

namespace Duration

/-- The empty span. -/
def zero : Duration := ⟨0⟩

/-- A number of seconds. -/
def seconds (n : Nat) : Duration := ⟨n * 1000000000⟩

/-- A number of milliseconds. -/
def millis (n : Nat) : Duration := ⟨n * 1000000⟩

/-- The whole milliseconds in a span. -/
def toMillis (d : Duration) : Nat := d.nanos / 1000000

/-- Whether the span is empty. -/
def isZero (d : Duration) : Bool := d.nanos == 0

/-- Two spans after one another. -/
def add (a b : Duration) : Duration := ⟨a.nanos + b.nanos⟩

/-- The shorter of two spans. -/
def min (a b : Duration) : Duration := if a.nanos ≤ b.nanos then a else b

/-- The longer of two spans. -/
def max (a b : Duration) : Duration := if a.nanos ≤ b.nanos then b else a

@[simp] theorem toMillis_millis (n : Nat) : (millis n).toMillis = n := by
  simp [millis, toMillis]

/-- The exact decimals of `part / 10 ^ width`, with the point, or nothing for zero. -/
def decimals (part width : Nat) : String :=
  let ds := Nat.toDigits 10 part
  let padded := List.replicate (width - ds.length) '0' ++ ds
  let kept := (padded.reverse.dropWhile (· == '0')).reverse
  if kept.isEmpty then "" else "." ++ String.ofList kept

/-- **A span in its largest unit.** -/
def describe (d : Duration) : String :=
  let n := d.nanos
  if 1000000000 ≤ n then toString (n / 1000000000) ++ decimals (n % 1000000000) 9 ++ "s"
  else if 1000000 ≤ n then toString (n / 1000000) ++ decimals (n % 1000000) 6 ++ "ms"
  else if 1000 ≤ n then toString (n / 1000) ++ decimals (n % 1000) 3 ++ "µs"
  else toString n ++ "ns"

example : (millis 1500).describe = "1.5s" := by decide +kernel
example : (millis 999).describe = "999ms" := by decide +kernel
example : zero.describe = "0ns" := by decide +kernel

end Duration

end ContentSync
