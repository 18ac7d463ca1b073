import ContentSync.Proofs.CalendarDays
import ContentSync.Proofs.TextPieces
import ContentSync.Time.Instant
import Mathlib.Data.Nat.Digits.Defs

/-!
# Points in time that are written and read

Reading takes one part after another off the front of a text: a year, two digits, a mark, and so
on.  What is written is such parts put together, so each is found where it was put; what is left
is arithmetic with seconds.

* `Instant.Proper` — the points in time that exist.
* `takeNumber_append`, `takeYear_renderYear`, `takeFraction_renderFraction` — one part each.
* `parse?_render` — what is written is read back.
* `proper_of_parse?` — what is read exists.
-/

namespace ContentSync.Instant

open Time

/-- **A point in time that exists.**  More than a thousand million nanoseconds are those of a leap
second, which follows the last second of a minute. -/
structure Proper (t : Instant) : Prop where
  year : inRange t.seconds = true
  nanos : t.nanos < 2000000000
  leap : 1000000000 ≤ t.nanos → t.seconds % 60 = 59

/-! ## Digits -/

section Digits

lemma digitsValue_replicate (k : Nat) (ds : List Char) :
    Text.digitsValue (List.replicate k '0' ++ ds) = Text.digitsValue ds := by
  induction k with
  | zero => rfl
  | succ k ih => exact ih

/-- A number in a field of digits. -/
structure Field (ds : List Char) (width n : Nat) : Prop where
  digits : Text.isDigits ds
  value : Text.digitsValue ds = n
  length : n < 10 ^ width → ds.length = width

/-- A number that is filled up with zeros. -/
lemma field_padded {width : Nat} (hwidth : 0 < width) (n : Nat) :
    Field (padded width n).toList width n := by
  rw [padded, String.toList_ofList]
  have hdigits := Text.isDigits_toDigits n
  refine ⟨?_, by rw [digitsValue_replicate, Text.digitsValue_toDigits], fun hn => ?_⟩
  · simp only [Text.isDigits, Bool.and_eq_true, Bool.not_eq_true', List.isEmpty_eq_false_iff,
      List.all_eq_true] at hdigits ⊢
    refine ⟨List.append_ne_nil_of_right_ne_nil _ hdigits.1, fun c hc => ?_⟩
    rcases List.mem_append.mp hc with hc | hc
    · rw [List.eq_of_mem_replicate hc]
      rfl
    · exact hdigits.2 c hc
  · have := Nat.toDigits_length 10 n width hwidth hn
    rw [List.length_append, List.length_replicate]
    omega

/-- Digits are taken up to the first character that is none, or up to the most that may be taken. -/
lemma takeNumber_append {most : Nat} {ds : List Char} (hds : Text.isDigits ds)
    (hle : ds.length ≤ most) (rest : List Char)
    (hend : ds.length = most ∨ ∀ c, rest.head? = some c → c.isDigit = false) :
    takeNumber most (ds ++ rest) = some (Text.digitsValue ds, rest) := by
  simp only [Text.isDigits, Bool.and_eq_true, Bool.not_eq_true', List.all_eq_true] at hds
  have htaken : ((ds ++ rest).take most).takeWhile Char.isDigit = ds := by
    rw [List.take_append, List.take_of_length_le hle,
      List.takeWhile_append_of_pos hds.2]
    rcases hend with hmost | hstop
    · simp [hmost]
    · cases hk : most - ds.length with
      | zero => simp
      | succ k =>
          cases rest with
          | nil => simp
          | cons c cs => simp [hstop c rfl]
  rw [takeNumber, htaken, hds.1, if_neg Bool.false_ne_true, List.drop_left]

/-- A digit is not blank. -/
lemma isBlank_of_isDigit {c : Char} (h : c.isDigit) : Text.isBlank c = false := by
  simp only [Char.isDigit, Bool.and_eq_true, decide_eq_true_eq] at h
  have hcode : 48 ≤ c.toNat ∧ c.toNat ≤ 57 := h
  simp only [Text.isBlank]
  simp
  omega

lemma exists_digit {ds : List Char} (h : Text.isDigits ds) :
    ∃ c cs, ds = c :: cs ∧ c.isDigit = true := by
  cases ds with
  | nil => cases h
  | cons c cs =>
      simp only [Text.isDigits, Bool.and_eq_true, List.all_cons] at h
      exact ⟨c, cs, rfl, h.2.1⟩

lemma trimStart_append {ds : List Char} (h : Text.isDigits ds) (rest : List Char) :
    Text.trimStart (ds ++ rest) = ds ++ rest := by
  obtain ⟨c, cs, rfl, hc⟩ := exists_digit h
  rw [List.cons_append, Text.trimStart,
    List.dropWhile_cons_of_neg (Bool.eq_false_iff.mp (isBlank_of_isDigit hc))]

/-- Two digits. -/
lemma takeShort_padded {n : Nat} (hn : n < 100) (rest : List Char) :
    takeShort ((padded 2 n).toList ++ rest) = some (n, rest) := by
  obtain ⟨hdigits, hvalue, hlength⟩ := field_padded (by decide : 0 < 2) n
  have htwo := hlength hn
  rw [takeShort, trimStart_append hdigits, takeNumber_append hdigits (Nat.le_of_eq htwo) rest
    (.inl htwo), hvalue]

lemma takeMark_cons {c : Char} (h : Text.isBlank c = false) (rest : List Char) :
    takeMark c (c :: rest) = some rest := by
  rw [takeMark, Text.trimStart, List.dropWhile_cons_of_neg (Bool.eq_false_iff.mp h)]
  exact if_pos rfl

end Digits

/-! ## The parts of a point in time -/

section Parts

lemma takeLongNumber_append {ds : List Char} (hds : Text.isDigits ds) (rest : List Char)
    (hend : ∀ c, rest.head? = some c → c.isDigit = false) :
    takeLongNumber (ds ++ rest) = some (Text.digitsValue ds, rest) :=
  takeNumber_append hds (by simp) rest (.inr hend)

lemma takeYear_minus (cs : List Char) :
    takeYear ('-' :: cs) = (takeLongNumber cs).map fun p => (-(p.1 : Int), p.2) := rfl

lemma takeYear_plus (cs : List Char) :
    takeYear ('+' :: cs) = (takeLongNumber cs).map fun p => ((p.1 : Int), p.2) := rfl

/-- **The year**, with four digits or with a sign. -/
lemma takeYear_renderYear (y : Int) (rest : List Char) :
    takeYear ((renderYear y).toList ++ '-' :: rest) = some (y, '-' :: rest) := by
  have hend : ∀ c, ('-' :: rest).head? = some c → c.isDigit = false := by
    rintro c ⟨⟩
    rfl
  rw [renderYear]
  split
  · next hfour =>
      obtain ⟨hdigits, hvalue, hlength⟩ := field_padded (by decide : 0 < 4) y.toNat
      have hwidth := hlength (by omega)
      have hread := takeNumber_append hdigits (Nat.le_of_eq hwidth) ('-' :: rest) (.inl hwidth)
      obtain ⟨c, cs, hcons, hc⟩ := exists_digit hdigits
      have hminus : c ≠ '-' := by
        rintro rfl
        cases hc
      have hplus : c ≠ '+' := by
        rintro rfl
        cases hc
      rw [takeYear, trimStart_append hdigits]
      rw [hvalue] at hread
      rw [hcons] at hread ⊢
      rw [List.cons_append] at hread ⊢
      split
      · next heq => exact absurd (List.cons.inj heq).1 hminus
      · next heq => exact absurd (List.cons.inj heq).1 hplus
      · rw [hread]
        simp [Int.toNat_of_nonneg hfour.1]
  · obtain ⟨hdigits, hvalue, -⟩ := field_padded (by decide : 0 < 4) y.natAbs
    have hread := takeLongNumber_append hdigits ('-' :: rest) hend
    rw [hvalue] at hread
    rw [String.toList_append, List.append_assoc]
    split
    · next hneg =>
        have hsign : -(y.natAbs : Int) = y := by omega
        have hminus : "-".toList = ['-'] := rfl
        rw [hminus, List.singleton_append, takeYear_minus, hread, Option.map_some, hsign]
    · next hpos =>
        have hsign : (y.natAbs : Int) = y := by omega
        have hplus : "+".toList = ['+'] := rfl
        rw [hplus, List.singleton_append, takeYear_plus, hread, Option.map_some, hsign]

/-- Digits behind a point. -/
lemma takeFraction_padded {width n : Nat} (hwidth : 0 < width) (hle : width ≤ 9)
    (hn : n < 10 ^ width) (rest : List Char) :
    takeFraction (("." ++ padded width n).toList ++ 'Z' :: rest) =
      some (n * 10 ^ (9 - width), 'Z' :: rest) := by
  obtain ⟨hdigits, hvalue, hlength⟩ := field_padded hwidth n
  replace hlength := hlength hn
  simp only [Text.isDigits, Bool.and_eq_true, Bool.not_eq_true', List.all_eq_true] at hdigits
  have htaken : ((padded width n).toList ++ 'Z' :: rest).takeWhile Char.isDigit =
      (padded width n).toList := by
    rw [List.takeWhile_append_of_pos hdigits.2, List.takeWhile_cons_of_neg (by decide),
      List.append_nil]
  have hkept : (padded width n).toList.take 9 = (padded width n).toList :=
    List.take_of_length_le (hlength.trans_le hle)
  have hpoint : ("." ++ padded width n).toList ++ 'Z' :: rest =
      '.' :: ((padded width n).toList ++ 'Z' :: rest) := by
    rw [String.toList_append]
    rfl
  rw [hpoint, takeFraction]
  simp only [htaken, hdigits.1, Bool.false_eq_true, if_false, hkept, hvalue, List.drop_left]
  rw [hlength]
  rfl

/-- **The fraction of a second**, in front of the zone. -/
lemma takeFraction_renderFraction {nanos : Nat} (h : nanos < 1000000000) (rest : List Char) :
    takeFraction ((renderFraction nanos).toList ++ 'Z' :: rest) = some (nanos, 'Z' :: rest) := by
  rw [renderFraction]
  split
  · next hzero =>
      rw [hzero]
      rfl
  · split
    · next hmillis =>
        have hexact : nanos / 1000000 * 10 ^ (9 - 3) = nanos := by omega
        rw [takeFraction_padded (by decide) (by decide) (by omega) rest, hexact]
    · split
      · next hmicros =>
          have hexact : nanos / 1000 * 10 ^ (9 - 6) = nanos := by omega
          rw [takeFraction_padded (by decide) (by decide) (by omega) rest, hexact]
      · rw [takeFraction_padded (by decide) (by decide) h rest, Nat.pow_zero, Nat.mul_one]

end Parts

/-! ## A point in time and its parts -/

section Steps

variable {α β : Type} {x : Option α} {f : α → Option β} {b : β} {p : Prop} [Decidable p]

lemma bind_of_some {a : α} (h : x = some a) (f : α → Option β) : (x >>= f) = f a := by
  rw [h]
  rfl

lemma of_bind_eq_some (h : (x >>= f) = some b) : ∃ a, x = some a ∧ f a = some b :=
  Option.bind_eq_some_iff.mp h

lemma bind_of_guard (h : p) (f : Unit → Option β) : (guard p >>= f) = f () :=
  bind_of_some (if_pos h) f

lemma of_guard_eq_some {f : Unit → Option β} (h : (guard p >>= f) = some b) :
    p ∧ f () = some b := by
  by_cases hp : p
  · exact ⟨hp, bind_of_guard hp f ▸ h⟩
  · have hnone : (guard p : Option Unit) = none := if_neg hp
    rw [hnone] at h
    cases h

end Steps

/-- The seconds that the parts of a point in time make up.  A clock shows a leap second in the place
of the last second of its minute. -/
def secondsOf (date : Date) (hour minute second : Nat) (offset : Int) : Int :=
  daysOfDate date * daySeconds +
    (hour * 3600 + minute * 60 + ((if second = 60 then 59 else second : Nat) : Int)) - offset

/-- **The parts of a point in time**: date and time of day, and the offset of the zone. -/
structure Parts (t : Instant) (date : Date) (hour minute second nanos : Nat) (offset : Int) :
    Prop where
  isDate : isDate date = true
  year_le : minYear ≤ date.year ∧ date.year ≤ maxYear
  clock : hour < 24 ∧ minute < 60 ∧ second ≤ 60
  offset_lt : offset.natAbs < 86400
  inRange : inRange t.seconds = true
  seconds_eq : t.seconds = secondsOf date hour minute second offset
  nanos_eq : t.nanos = nanos + if second = 60 then 1000000000 else 0

/-- **What is read** has parts, the last two of which are those of a fraction and of a zone. -/
lemma parts_of_parse? {s : String} {t : Instant} (h : parse? s = some t) :
    ∃ date hour minute second nanos offset, Parts t date hour minute second nanos offset ∧
      (∃ cs rest, takeFraction cs = some (nanos, rest)) ∧
      ∃ cs rest, takeZone cs = some (offset, rest) := by
  rw [parse?] at h
  obtain ⟨⟨year, cs₁⟩, -, h⟩ := of_bind_eq_some h
  obtain ⟨cs₂, -, h⟩ := of_bind_eq_some h
  obtain ⟨⟨month, cs₃⟩, -, h⟩ := of_bind_eq_some h
  obtain ⟨cs₄, -, h⟩ := of_bind_eq_some h
  obtain ⟨⟨day, cs₅⟩, -, h⟩ := of_bind_eq_some h
  -- a mark stands between the date and the time of day
  dsimp only at h
  split at h
  swap
  · cases h
  split at h
  swap
  · cases h
  obtain ⟨cs₆, -, h⟩ := of_bind_eq_some h
  obtain ⟨⟨hour, cs₇⟩, -, h⟩ := of_bind_eq_some h
  obtain ⟨cs₈, -, h⟩ := of_bind_eq_some h
  obtain ⟨⟨minute, cs₉⟩, -, h⟩ := of_bind_eq_some h
  obtain ⟨cs₁₀, -, h⟩ := of_bind_eq_some h
  obtain ⟨⟨second, cs₁₁⟩, -, h⟩ := of_bind_eq_some h
  obtain ⟨⟨nanos, cs₁₂⟩, hfraction, h⟩ := of_bind_eq_some h
  obtain ⟨⟨offset, cs₁₃⟩, hzone, h⟩ := of_bind_eq_some h
  obtain ⟨-, h⟩ := of_guard_eq_some h
  obtain ⟨hdate, h⟩ := of_guard_eq_some h
  obtain ⟨hclock, h⟩ := of_guard_eq_some h
  obtain ⟨hyear, h⟩ := of_guard_eq_some h
  cases h
  simp only [Bool.and_eq_true, decide_eq_true_eq] at hdate hclock
  exact ⟨⟨year, month, day⟩, hour, minute, second, nanos, offset,
    ⟨hdate.1.1, ⟨hdate.1.2, hdate.2⟩, ⟨hclock.1.1.1, hclock.1.1.2, hclock.1.2⟩, hclock.2, hyear,
      rfl, rfl⟩, ⟨_, _, hfraction⟩, _, _, hzone⟩

/-! ## What is written -/

/-- A point in time as it is written with given parts, in universal time. -/
def written (date : Date) (hour minute second nanos : Nat) : List Char :=
  (renderYear date.year).toList ++ '-' :: ((padded 2 date.month).toList ++ '-' ::
    ((padded 2 date.day).toList ++ 'T' :: ((padded 2 hour).toList ++ ':' ::
      ((padded 2 minute).toList ++ ':' :: ((padded 2 second).toList ++
        ((renderFraction nanos).toList ++ ['Z']))))))

/-- **The parts that are written are read.** -/
lemma parse?_written {t : Instant} {date : Date} {hour minute second nanos : Nat}
    (h : Parts t date hour minute second nanos 0) (hnanos : nanos < 1000000000) :
    parse? (String.ofList (written date hour minute second nanos)) = some t := by
  have hdays : date.month < 100 ∧ date.day < 100 := by
    have hdate := h.isDate
    have hlength : daysInMonth date.year date.month ≤ 31 := by
      rw [daysInMonth]
      split <;> split <;> decide
    simp only [isDate, Bool.and_eq_true, decide_eq_true_eq] at hdate
    omega
  obtain ⟨hhour, hminute, hsecond⟩ := h.clock
  have hdash : Text.isBlank '-' = false := rfl
  have hcolon : Text.isBlank ':' = false := rfl
  rw [parse?, String.toList_ofList, written, bind_of_some (takeYear_renderYear _ _)]
  dsimp only
  rw [bind_of_some (takeMark_cons hdash _), bind_of_some (takeShort_padded hdays.1 _)]
  dsimp only
  rw [bind_of_some (takeMark_cons hdash _), bind_of_some (takeShort_padded hdays.2 _)]
  dsimp only
  rw [if_pos (.inl rfl), bind_of_some rfl, bind_of_some (takeShort_padded (by omega) _)]
  dsimp only
  rw [bind_of_some (takeMark_cons hcolon _), bind_of_some (takeShort_padded (by omega) _)]
  dsimp only
  rw [bind_of_some (takeMark_cons hcolon _), bind_of_some (takeShort_padded (by omega) _)]
  dsimp only
  rw [bind_of_some (takeFraction_renderFraction hnanos _)]
  dsimp only
  have hzone : takeZone ['Z'] = some (0, []) := rfl
  rw [bind_of_some hzone]
  dsimp only
  rw [bind_of_guard (List.all_eq_true.mpr fun c hc => absurd hc List.not_mem_nil),
    bind_of_guard (by simp [h.isDate, h.year_le]),
    bind_of_guard (by simp [hhour, hminute, hsecond])]
  obtain ⟨seconds, nanos'⟩ := t
  obtain ⟨rfl, rfl⟩ : seconds = secondsOf date hour minute second 0 ∧
    nanos' = nanos + if second = 60 then 1000000000 else 0 := ⟨h.seconds_eq, h.nanos_eq⟩
  exact bind_of_guard h.inRange _

/-- The second that is written: the sixtieth for a leap second. -/
def writtenSecond (t : Instant) : Nat :=
  (t.seconds.fmod daySeconds).toNat % 60 + if 1000000000 ≤ t.nanos then 1 else 0

/-- The nanoseconds that are written. -/
def writtenNanos (t : Instant) : Nat :=
  if 1000000000 ≤ t.nanos then t.nanos - 1000000000 else t.nanos

lemma render_eq (t : Instant) : t.render =
    String.ofList (written (dateOfDays (dayOf t.seconds)) ((t.seconds.fmod daySeconds).toNat / 3600)
      ((t.seconds.fmod daySeconds).toNat / 60 % 60) t.writtenSecond t.writtenNanos) := by
  refine String.toList_inj.mp ?_
  simp only [render, written, String.toList_append, String.toList_ofList, List.append_assoc]
  simp [writtenSecond, writtenNanos]

/-- The day and the time of day of a number of seconds. -/
lemma seconds_split (s : Int) : s = dayOf s * daySeconds + (s.fmod daySeconds).toNat ∧
    (s.fmod daySeconds).toNat < 86400 ∧ ((s.fmod daySeconds).toNat : Int) % 60 = s % 60 := by
  rw [dayOf, daySeconds, Int.fdiv_eq_ediv_of_nonneg _ (by decide),
    Int.fmod_eq_emod_of_nonneg _ (by decide)]
  omega

/-- A point in time that exists has the parts that are written. -/
lemma Proper.parts {t : Instant} (h : t.Proper) : Parts t (dateOfDays (dayOf t.seconds))
    ((t.seconds.fmod daySeconds).toNat / 3600) ((t.seconds.fmod daySeconds).toNat / 60 % 60)
    t.writtenSecond t.writtenNanos 0 := by
  obtain ⟨hseconds, hday, hminute⟩ := seconds_split t.seconds
  have hyear := h.year
  have hleap := h.leap
  simp only [Instant.inRange, Bool.and_eq_true, decide_eq_true_eq] at hyear
  have hsecond : t.writtenSecond = 60 ↔ 1000000000 ≤ t.nanos := by
    rw [writtenSecond]
    split <;> omega
  refine ⟨isDate_dateOfDays _, hyear, ⟨by omega, by omega, ?_⟩, by decide, h.year, ?_, ?_⟩
  · rw [writtenSecond]
    split <;> omega
  · rw [secondsOf, daysOfDate_dateOfDays]
    simp only [hsecond]
    rw [writtenSecond]
    split <;> omega
  · simp only [hsecond]
    rw [writtenNanos]
    split <;> omega

/-- **What is written is read back.** -/
theorem parse?_render {t : Instant} (h : t.Proper) : parse? t.render = some t := by
  rw [render_eq]
  refine parse?_written h.parts ?_
  have := h.nanos
  rw [writtenNanos]
  split <;> omega

/-! ## What is read -/

section Read

lemma digitsValue_lt {ds : List Char} (h : ∀ c ∈ ds, c.isDigit) :
    Text.digitsValue ds < 10 ^ ds.length := by
  induction ds using List.reverseRecOn with
  | nil => decide
  | append_singleton ds c ih =>
      have hc : c.toNat - '0'.toNat < 10 := by
        have hdigit := h c (by simp)
        simp only [Char.isDigit, Bool.and_eq_true, decide_eq_true_eq] at hdigit
        have hcode : 48 ≤ c.toNat ∧ c.toNat ≤ 57 := hdigit
        have hzero : '0'.toNat = 48 := rfl
        omega
      have hds := ih fun d hd => h d (List.mem_append_left _ hd)
      have hstep : Text.digitsValue (ds ++ [c]) =
          Text.digitsValue ds * 10 + (c.toNat - '0'.toNat) := by
        simp [Text.digitsValue]
      rw [hstep, List.length_append, List.length_singleton, Nat.pow_succ]
      omega

/-- A fraction that is read is one of a second. -/
lemma takeFraction_lt {cs rest : List Char} {nanos : Nat}
    (h : takeFraction cs = some (nanos, rest)) : nanos < 1000000000 := by
  rw [takeFraction.eq_def] at h
  split at h
  · next digits =>
      dsimp only at h
      split at h
      · cases h
      · cases h
        have hlt : Text.digitsValue ((digits.takeWhile Char.isDigit).take 9) <
            10 ^ ((digits.takeWhile Char.isDigit).take 9).length :=
          digitsValue_lt fun c hc => List.mem_takeWhile_imp (List.mem_of_mem_take hc)
        have hle : ((digits.takeWhile Char.isDigit).take 9).length ≤ 9 := List.length_take_le _ _
        generalize (digits.takeWhile Char.isDigit).take 9 = kept at hlt hle ⊢
        calc Text.digitsValue kept * 10 ^ (9 - kept.length)
            < 10 ^ kept.length * 10 ^ (9 - kept.length) :=
              Nat.mul_lt_mul_of_pos_right hlt (Nat.pow_pos (by decide))
          _ = 1000000000 := by
              rw [← Nat.pow_add, Nat.add_sub_cancel' hle]
  · cases h
    decide

/-- A zone is off by whole minutes. -/
lemma takeOffset_minutes {cs rest : List Char} {offset : Int}
    (h : takeOffset cs = some (offset, rest)) : offset % 60 = 0 := by
  rw [takeOffset] at h
  obtain ⟨⟨negative, cs₁⟩, -, h⟩ := of_bind_eq_some h
  obtain ⟨⟨hours, cs₂⟩, -, h⟩ := of_bind_eq_some h
  obtain ⟨⟨minutes, cs₃⟩, -, h⟩ := of_bind_eq_some h
  dsimp only at h
  split at h
  · obtain ⟨rfl, -⟩ := Prod.mk.inj (Option.some.inj h)
    split <;> omega
  · cases h

lemma takeZone_minutes {cs rest : List Char} {offset : Int}
    (h : takeZone cs = some (offset, rest)) : offset % 60 = 0 := by
  rw [takeZone] at h
  split at h
  · cases h
    rfl
  · cases h
    rfl
  · split at h
    · cases h
      rfl
    · exact takeOffset_minutes h
  · exact takeOffset_minutes h

/-- **What is read exists.** -/
theorem proper_of_parse? {s : String} {t : Instant} (h : parse? s = some t) : t.Proper := by
  obtain ⟨date, hour, minute, second, nanos, offset, hparts, ⟨_, _, hfraction⟩, _, _, hzone⟩ :=
    parts_of_parse? h
  have hnanos := takeFraction_lt hfraction
  have hoffset := takeZone_minutes hzone
  have hsum := hparts.nanos_eq
  refine ⟨hparts.inRange, by split at hsum <;> omega, fun hleap => ?_⟩
  have hsecond : second = 60 := by
    by_contra hne
    rw [if_neg hne] at hsum
    omega
  rw [hparts.seconds_eq, secondsOf, if_pos hsecond, daySeconds]
  omega

end Read

end ContentSync.Instant
