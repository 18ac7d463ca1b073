import ContentSync.Proofs.RetryLoop
import Mathlib.Algebra.Order.Ring.Nat

/-!
# Words do not show in the delays

A delay that doubles from attempt to attempt is computed with words: an exponent of 32 bits, and a
power and a product of 64 bits, each replaced by the largest word where it does not fit.  The bound
of the delays is a word too, so a power or product that was cut off is one that the bound cuts off
anyway (`min_saturated`), and the delay is what exact arithmetic gives.

* `Duration.IsWord` — spans of whole milliseconds that fit a word.
* `Backoff.exactMillis` — the delay before an attempt in exact arithmetic.
* `plainDelay_exact` — the delay without its random part is the exact one.
* `decide_eq_max` — the pause that a policy decides on is the longer one of two.
* `delayBefore_exact` — delays and decisions of a policy.
-/

namespace ContentSync

/-! ## Spans of whole milliseconds -/

namespace Duration

/-- **A span of whole milliseconds**, no more of them than fit a word of 64 bits. -/
def IsWord (d : Duration) : Prop := ∃ n < 2 ^ 64, d = .millis n

variable {d : Duration}

lemma IsWord.toMillis_lt (h : d.IsWord) : d.toMillis < 2 ^ 64 := by
  obtain ⟨n, hn, rfl⟩ := h
  rwa [toMillis_millis]

lemma IsWord.millis_toMillis (h : d.IsWord) : .millis d.toMillis = d := by
  obtain ⟨n, -, rfl⟩ := h
  rw [toMillis_millis]

lemma nanos_millis_le {m n : Nat} : (millis m).nanos ≤ (millis n).nanos ↔ m ≤ n :=
  Nat.mul_le_mul_right_iff (by decide)

lemma millis_min (m n : Nat) : (millis m).min (millis n) = millis (Min.min m n) := by
  by_cases h : m ≤ n
  · rw [Duration.min, if_pos (nanos_millis_le.mpr h), Nat.min_eq_left h]
  · rw [Duration.min, if_neg (mt nanos_millis_le.mp h), Nat.min_eq_right (Nat.le_of_not_le h)]

lemma millis_add (m n : Nat) : (millis m).add (millis n) = millis (m + n) := by
  simp [add, millis, Nat.add_mul]

end Duration

namespace GraphQL

/-! ## Words -/

lemma wordMillis_of_isWord {d : Duration} (h : d.IsWord) : wordMillis d = d.toMillis :=
  Nat.min_eq_left (Nat.le_sub_one_of_lt h.toMillis_lt)

/-- **Below a bound that fits a word, saturation does not show.**  A power of two that is too large
is taken for the largest word; times anything but zero, that is no less than the bound. -/
lemma min_saturated {bound : Nat} (hbound : bound < 2 ^ 64) (base exponent : Nat) :
    min (min (base * powerOfTwo (min exponent maxHalfWord)) maxWord) bound =
      min (base * 2 ^ exponent) bound := by
  have hword : bound ≤ maxWord := Nat.le_sub_one_of_lt hbound
  rw [Nat.min_assoc, Nat.min_eq_right hword]
  by_cases hsmall : exponent < 64
  · have hhalf : exponent ≤ maxHalfWord := by
      have : 64 ≤ maxHalfWord := by decide
      omega
    rw [Nat.min_eq_left hhalf, powerOfTwo, if_pos hsmall]
    rfl
  · have hlarge : ¬ min exponent maxHalfWord < 64 := by
      have : 64 ≤ maxHalfWord := by decide
      omega
    rw [powerOfTwo, if_neg hlarge]
    rcases Nat.eq_zero_or_pos base with rfl | hbase
    · simp
    · have hpower : 2 ^ 64 ≤ 2 ^ exponent := Nat.pow_le_pow_right (by decide) (by omega)
      have hleft : bound ≤ base * maxWord := Nat.le_trans hword (Nat.le_mul_of_pos_left _ hbase)
      have hright : bound ≤ base * 2 ^ exponent := by
        calc bound ≤ 2 ^ 64 := hbound.le
          _ ≤ 2 ^ exponent := hpower
          _ ≤ base * 2 ^ exponent := Nat.le_mul_of_pos_left _ hbase
      rw [Nat.min_eq_right hleft, Nat.min_eq_right hright]

/-! ## Exact delays -/

namespace Backoff

/-- The delays are whole milliseconds that fit a word. -/
def IsWhole : Backoff → Prop
  | .fixed delay => delay.IsWord
  | .exponential base bound => base.IsWord ∧ bound.IsWord

/-- What the delays never exceed. -/
def longest : Backoff → Duration
  | .fixed delay => delay
  | .exponential _ bound => bound

/-- The milliseconds of the delay that follows `earlier` others, in exact arithmetic. -/
def growth : Backoff → Nat → Nat
  | .fixed delay, _ => delay.toMillis
  | .exponential base bound, earlier => min (base.toMillis * 2 ^ earlier) bound.toMillis

/-- **The milliseconds before an attempt in exact arithmetic.**  The first attempt does not wait. -/
def exactMillis (b : Backoff) (attempt : Nat) : Nat :=
  if attempt ≤ 1 then 0 else b.growth (attempt - 2)

variable {b : Backoff}

lemma growth_le (b : Backoff) (earlier : Nat) : b.growth earlier ≤ b.longest.toMillis := by
  cases b with
  | fixed delay => exact Nat.le_refl _
  | exponential base bound => exact Nat.min_le_right _ _

lemma growth_mono (b : Backoff) {m n : Nat} (h : m ≤ n) : b.growth m ≤ b.growth n := by
  cases b with
  | fixed delay => exact Nat.le_refl _
  | exponential base bound =>
      have hpower : 2 ^ m ≤ 2 ^ n := Nat.pow_le_pow_right (by decide) h
      exact inf_le_inf_right _ (Nat.mul_le_mul_left _ hpower)

lemma exactMillis_le (b : Backoff) (attempt : Nat) :
    b.exactMillis attempt ≤ b.longest.toMillis := by
  rw [exactMillis]
  split
  · exact Nat.zero_le _
  · exact b.growth_le _

lemma exactMillis_mono (b : Backoff) {m n : Nat} (h : m ≤ n) :
    b.exactMillis m ≤ b.exactMillis n := by
  by_cases hm : m ≤ 1
  · rw [exactMillis, if_pos hm]
    exact Nat.zero_le _
  · rw [exactMillis, if_neg hm, exactMillis, if_neg (by omega)]
    exact b.growth_mono (Nat.sub_le_sub_right h 2)

lemma IsWhole.longest (h : b.IsWhole) : b.longest.IsWord := by
  cases b with
  | fixed delay => exact h
  | exponential base bound => exact h.2

end Backoff

namespace RetryPolicy

variable {p : RetryPolicy}

/-- **The delay without its random part** is the exact one. -/
lemma plainDelay_exact (h : p.backoff.IsWhole) (attempt : Nat) :
    p.plainDelay attempt = .millis (p.backoff.exactMillis attempt) := by
  rw [plainDelay, Backoff.exactMillis]
  split
  · rfl
  · cases hbackoff : p.backoff with
    | fixed delay =>
        rw [hbackoff] at h
        exact h.millis_toMillis.symm
    | exponential base bound =>
        rw [hbackoff] at h
        obtain ⟨hbase, hbound⟩ := h
        have hgrowth : min (min (wordMillis base *
            powerOfTwo (min (attempt - 2) maxHalfWord)) maxWord) bound.toMillis =
              (Backoff.exponential base bound).growth (attempt - 2) := by
          rw [min_saturated hbound.toMillis_lt, wordMillis_of_isWord hbase]
          rfl
        rw [← hgrowth, ← Duration.millis_min, hbound.millis_toMillis]

/-- The random part is a number of whole milliseconds, and at most the largest one. -/
lemma exists_jitter {largest : Nat} (hlargest : largest < 2 ^ 64)
    (hjitter : p.maxJitter = .millis largest) (draw : Nat) :
    ∃ extra ≤ largest, p.jitter draw = .millis extra := by
  rw [jitter, hjitter]
  split
  · exact ⟨0, Nat.zero_le _, rfl⟩
  · rw [wordMillis_of_isWord ⟨largest, hlargest, rfl⟩, Duration.toMillis_millis]
    exact ⟨_, Nat.le_of_lt_succ (Nat.mod_lt _ (Nat.succ_pos _)), rfl⟩

/-- The delay before an attempt is the exact one and a random part. -/
lemma exists_delayBefore (h : p.backoff.IsWhole) {largest : Nat} (hlargest : largest < 2 ^ 64)
    (hjitter : p.maxJitter = .millis largest) (attempt draw : Nat) :
    ∃ extra ≤ largest,
      p.delayBefore attempt draw = .millis (p.backoff.exactMillis attempt + extra) := by
  by_cases hfirst : attempt ≤ 1
  · refine ⟨0, Nat.zero_le _, ?_⟩
    rw [delayBefore, if_pos hfirst, Backoff.exactMillis, if_pos hfirst]
    rfl
  · obtain ⟨extra, hextra, hdraw⟩ := exists_jitter hlargest hjitter draw
    refine ⟨extra, hextra, ?_⟩
    rw [delayBefore, if_neg hfirst, plainDelay_exact h, hdraw, Duration.millis_add]

/-- **The pause that is decided on** is the delay before the next attempt, or the one that the
server asked for if that is longer. -/
lemma decide_eq_max (p : RetryPolicy) (error : ClientError) (n : Nat) (idempotent : Bool)
    (draw : Nat) :
    p.decide error n idempotent draw =
      if n < p.maxAttempts ∧ error.isRetryable ∧ p.Permits idempotent then
        .retryAfter ⟨max (p.delayBefore (n + 1) draw).nanos
          ((error.retryAfter.map Duration.nanos).getD 0)⟩
      else .stop := by
  have hpause : p.pauseAfter error n draw =
      ⟨max (p.delayBefore (n + 1) draw).nanos ((error.retryAfter.map Duration.nanos).getD 0)⟩ := by
    rw [pauseAfter]
    cases error.retryAfter with
    | none => simp
    | some hint =>
        simp only [Duration.max, Option.map_some, Option.getD_some]
        split
        · next hle => rw [Nat.max_eq_left hle]
        · next hlt => rw [Nat.max_eq_right (Nat.le_of_not_le hlt)]
  rw [decide_eq, hpause]
  simp only [and_left_comm]

/-- **Delays are exact.**  Let the delays of a policy and its largest random part be whole
milliseconds that fit a word.

* Without a random part the delay is the one of exact arithmetic: none before the first attempt,
  then the fixed delay, or the first one doubled from attempt to attempt and cut off at the bound.
  It never gets shorter from one attempt to a later one, and never exceeds the bound.
* A random part adds whole milliseconds, no more than the largest one, and nothing before the first
  attempt.  The sum fits a span whose seconds are counted by a word.
* A failed attempt is followed by another exactly when attempts are left, the failure is one that
  may pass, and the strategy allows it.  The pause is the longer one of the delay and the pause that
  the server asked for. -/
theorem delayBefore_exact (hbackoff : p.backoff.IsWhole) {largest : Nat}
    (hlargest : largest < 2 ^ 64) (hjitter : p.maxJitter = .millis largest) :
    (largest = 0 → ∀ n draw,
      p.delayBefore n draw = .millis (p.backoff.exactMillis n) ∧
      (p.delayBefore n draw).nanos ≤ p.backoff.longest.nanos ∧
      ∀ m ≤ n, ∀ draw', (p.delayBefore m draw').nanos ≤ (p.delayBefore n draw).nanos) ∧
    (∀ n draw,
      (n ≤ 1 → p.delayBefore n draw = .zero) ∧
      (2 ≤ n → ∃ extra ≤ largest,
        p.delayBefore n draw = .millis (p.backoff.exactMillis n + extra)) ∧
      (p.delayBefore n draw).nanos < 2 ^ 64 * 1000000000) ∧
    ∀ error n idempotent draw, p.decide error n idempotent draw =
      if n < p.maxAttempts ∧ error.isRetryable ∧
          (p.strategy = .always ∨ (p.strategy = .idempotentOnly ∧ idempotent = true)) then
        .retryAfter ⟨max (p.delayBefore (n + 1) draw).nanos
          ((error.retryAfter.map Duration.nanos).getD 0)⟩
      else .stop := by
  have hsum := exists_delayBefore hbackoff hlargest hjitter
  refine ⟨?_, ?_, decide_eq_max p⟩
  · rintro rfl
    have hexact : ∀ n draw, p.delayBefore n draw = .millis (p.backoff.exactMillis n) := by
      intro n draw
      obtain ⟨extra, hextra, hdelay⟩ := hsum n draw
      rw [hdelay, Nat.le_zero.mp hextra, Nat.add_zero]
    intro n draw
    refine ⟨hexact n draw, ?_, fun m hm draw' => ?_⟩
    · rw [hexact, ← hbackoff.longest.millis_toMillis, Duration.nanos_millis_le]
      exact p.backoff.exactMillis_le n
    · rw [hexact, hexact, Duration.nanos_millis_le]
      exact p.backoff.exactMillis_mono hm
  · intro n draw
    refine ⟨fun hfirst => ?_, fun _ => hsum n draw, ?_⟩
    · rw [delayBefore, if_pos hfirst]
    · obtain ⟨extra, hextra, hdelay⟩ := hsum n draw
      have hle := p.backoff.exactMillis_le n
      have hlongest := hbackoff.longest.toMillis_lt
      rw [hdelay, Duration.millis]
      show (p.backoff.exactMillis n + extra) * 1000000 < 2 ^ 64 * 1000000000
      omega

/-- Delays that triple the power: the attempt before the bound is met, the one that meets it, and
one whose exponent fits no word of 32 bits. -/
theorem delayBefore_exact_tripled :
    let longest := 2 ^ 64 - 1
    let p : RetryPolicy := ⟨3, .exponential (.millis 3) (.millis longest), .millis 0, .always⟩
    p.backoff.IsWhole ∧ 0 < 2 ^ 64 ∧ p.maxJitter = .millis 0 ∧
      p.delayBefore 64 0 = .millis (3 * 2 ^ 62) ∧ p.delayBefore 65 0 = .millis longest ∧
      p.delayBefore (2 ^ 40) 0 = .millis longest := by
  intro longest p
  have hwhole : p.backoff.IsWhole := ⟨⟨3, by decide, rfl⟩, ⟨longest, by decide, rfl⟩⟩
  obtain ⟨hplain, -, -⟩ := delayBefore_exact hwhole (by decide : 0 < 2 ^ 64) rfl
  have hplain := hplain rfl
  have hlast : p.delayBefore 65 0 = .millis longest := (hplain 65 0).1.trans (by decide +kernel)
  refine ⟨hwhole, by decide, rfl, (hplain 64 0).1.trans (by decide +kernel), hlast, ?_⟩
  obtain ⟨-, hle, hmono⟩ := hplain (2 ^ 40) 0
  have hge := hmono 65 (by decide) 0
  rw [hlast] at hge
  cases hdelay : p.delayBefore (2 ^ 40) 0 with
  | mk nanos =>
      rw [hdelay] at hle hge
      exact congrArg Duration.mk (Nat.le_antisymm hle hge)

end RetryPolicy

end GraphQL

end ContentSync
