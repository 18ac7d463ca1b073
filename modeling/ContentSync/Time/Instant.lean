import ContentSync.Time.Calendar
import ContentSync.Text.Blank
import ContentSync.Text.Pieces

/-!
# Points in time

A point in time is a number of seconds since the start of 1970 in universal time and a number of
nanoseconds.  A leap second is held as the second before it with a thousand million nanoseconds
more, so that points are ordered by seconds first and nanoseconds second.

* `Instant.render` — the written form, in universal time.
* `Instant.parse?` — reads the written form and laxer ones, with any zone.
* `Instant.ofMillis?` — a point given in milliseconds.

Only years from `minYear` to `maxYear` exist.
-/

namespace ContentSync

/-- A point in time. -/
structure Instant where
  seconds : Int
  nanos : Nat
  deriving DecidableEq

namespace Instant

open Time

/-- The first year. -/
def minYear : Int := -262143

/-- The last year. -/
def maxYear : Int := 262142

/-- Seconds of a day. -/
def daySeconds : Int := 86400

/-- The day that a number of seconds falls on. -/
def dayOf (seconds : Int) : Int := seconds.fdiv daySeconds

/-- Whether a number of seconds falls into a year that exists. -/
def inRange (seconds : Int) : Bool :=
  let y := (dateOfDays (dayOf seconds)).year
  minYear ≤ y && y ≤ maxYear

/-- Whether one point is before another. -/
def before (a b : Instant) : Bool :=
  a.seconds < b.seconds || (a.seconds == b.seconds && a.nanos < b.nanos)

/-- Milliseconds since the start of 1970. -/
def toMillis (t : Instant) : Int := t.seconds * 1000 + (t.nanos / 1000000 : Nat)

/-- The point a number of milliseconds after the start of 1970. -/
def ofMillis? (ms : Int) : Option Instant :=
  let s := ms.fdiv 1000
  if inRange s then some ⟨s, (ms.fmod 1000).toNat * 1000000⟩ else none

/-! ## Writing -/

/-- A natural number with at least `width` digits. -/
def padded (width n : Nat) : String :=
  let ds := Nat.toDigits 10 n
  String.ofList (List.replicate (width - ds.length) '0' ++ ds)

/-- Four digits, and a sign outside the years 0 to 9999. -/
def renderYear (y : Int) : String :=
  if 0 ≤ y ∧ y ≤ 9999 then padded 4 y.toNat
  else (if y < 0 then "-" else "+") ++ padded 4 y.natAbs

/-- The shortest of no, three, six and nine decimals that is exact. -/
def renderFraction (nanos : Nat) : String :=
  if nanos = 0 then ""
  else if nanos % 1000000 = 0 then "." ++ padded 3 (nanos / 1000000)
  else if nanos % 1000 = 0 then "." ++ padded 6 (nanos / 1000)
  else "." ++ padded 9 nanos

/-- **The written form.** -/
def render (t : Instant) : String :=
  let d := dateOfDays (dayOf t.seconds)
  let s := (t.seconds.fmod daySeconds).toNat
  let leap := 1000000000 ≤ t.nanos
  let second := s % 60 + if leap then 1 else 0
  let nanos := if leap then t.nanos - 1000000000 else t.nanos
  renderYear d.year ++ "-" ++ padded 2 d.month ++ "-" ++ padded 2 d.day ++ "T" ++
    padded 2 (s / 3600) ++ ":" ++ padded 2 (s / 60 % 60) ++ ":" ++ padded 2 second ++
    renderFraction nanos ++ "Z"

/-! ## Reading

Each step reads off the front of a text and returns what it read and the rest. -/

/-- One to `most` digits. -/
def takeNumber (most : Nat) (cs : List Char) : Option (Nat × List Char) :=
  let ds := (cs.take most).takeWhile Char.isDigit
  if ds.isEmpty then none else some (Text.digitsValue ds, cs.drop ds.length)

/-- Any number of digits, at least one. -/
def takeLongNumber (cs : List Char) : Option (Nat × List Char) := takeNumber cs.length cs

/-- A number of one or two digits after blanks. -/
def takeShort (cs : List Char) : Option (Nat × List Char) := takeNumber 2 (Text.trimStart cs)

/-- A given character after blanks. -/
def takeMark (c : Char) (cs : List Char) : Option (List Char) :=
  match Text.trimStart cs with
  | d :: rest => if d = c then some rest else none
  | [] => none

/-- A year after blanks: up to four digits, or a sign and any number. -/
def takeYear (cs : List Char) : Option (Int × List Char) :=
  match Text.trimStart cs with
  | '-' :: rest => (takeLongNumber rest).map fun p => (-p.1, p.2)
  | '+' :: rest => (takeLongNumber rest).map fun p => (p.1, p.2)
  | rest => (takeNumber 4 rest).map fun p => (p.1, p.2)

/-- A fraction of a second in nanoseconds: a point and digits, of which nine count. -/
def takeFraction : List Char → Option (Nat × List Char)
  | '.' :: rest =>
      let ds := rest.takeWhile Char.isDigit
      if ds.isEmpty then none
      else
        let kept := ds.take 9
        some (Text.digitsValue kept * Nat.pow 10 (9 - kept.length), rest.drop ds.length)
  | rest => some (0, rest)

/-- The sign of a zone; the typographic minus counts. -/
def takeSign : List Char → Option (Bool × List Char)
  | '+' :: rest => some (false, rest)
  | '-' :: rest => some (true, rest)
  | c :: rest => if c.toNat = 0x2212 then some (true, rest) else none
  | [] => none

/-- Two digits. -/
def takePair : List Char → Option (Nat × List Char)
  | a :: b :: rest =>
      if a.isDigit && b.isDigit then some (Text.digitsValue [a, b], rest) else none
  | _ => none

/-- Whether a character may stand between the hours and minutes of a zone. -/
def isZoneGap (c : Char) : Bool := c = ':' || Text.isBlank c

/-- An offset from universal time in seconds: a sign, two digits of hours, two of minutes. -/
def takeOffset (cs : List Char) : Option (Int × List Char) := do
  let (negative, cs) ← takeSign cs
  let (hours, cs) ← takePair cs
  let (minutes, cs) ← takePair (cs.dropWhile isZoneGap)
  if minutes < 60 then
    let s : Int := hours * 3600 + minutes * 60
    some (if negative then -s else s, cs)
  else none

/-- **A zone** after blanks, as an offset in seconds: `Z`, `UTC` in any case, or an offset. -/
def takeZone (cs : List Char) : Option (Int × List Char) :=
  match Text.trimStart cs with
  | 'Z' :: rest => some (0, rest)
  | 'z' :: rest => some (0, rest)
  | a :: b :: c :: rest =>
      if [a, b, c].map Char.toUpper = ['U', 'T', 'C'] then some (0, rest)
      else takeOffset (a :: b :: c :: rest)
  | rest => takeOffset rest

/-- **Reads a point in time**: a date, `T` or a space, a time of day with seconds, a zone.  Nothing
but blanks may follow. -/
def parse? (s : String) : Option Instant := do
  let (year, cs) ← takeYear s.toList
  let cs ← takeMark '-' cs
  let (month, cs) ← takeShort cs
  let cs ← takeMark '-' cs
  let (day, cs) ← takeShort cs
  let cs ← match cs with
    | c :: rest => if c = 'T' ∨ c = 't' ∨ c = ' ' then some rest else none
    | [] => none
  let (hour, cs) ← takeShort cs
  let cs ← takeMark ':' cs
  let (minute, cs) ← takeShort cs
  let cs ← takeMark ':' cs
  let (second, cs) ← takeShort cs
  let (nanos, cs) ← takeFraction cs
  let (offset, cs) ← takeZone cs
  guard (cs.all Text.isBlank)
  guard (isDate ⟨year, month, day⟩ && minYear ≤ year && year ≤ maxYear)
  guard (hour < 24 && minute < 60 && second ≤ 60 && offset.natAbs < 86400)
  let leap := second = 60
  let clock : Int := hour * 3600 + minute * 60 + (if leap then 59 else second)
  let local_ := daysOfDate ⟨year, month, day⟩ * daySeconds + clock
  guard (inRange (local_ - offset))
  return ⟨local_ - offset, nanos + if leap then 1000000000 else 0⟩

example : (parse? "2024-05-01T12:30:00+02:30").map render = some "2024-05-01T10:00:00Z" := by
  decide +kernel
example : (parse? "2016-12-31T23:59:60.5Z").map render = some "2016-12-31T23:59:60.500Z" := by
  decide +kernel
example : parse? "2023-02-29T00:00:00Z" = none := by decide +kernel

end Instant

end ContentSync
