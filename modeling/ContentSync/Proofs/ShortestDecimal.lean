import ContentSync.Decimal.Shortest
import Mathlib.Algebra.Order.Field.Power
import Mathlib.Algebra.Order.Field.Rat
import Mathlib.Data.Int.Log
import Mathlib.Data.Rat.Floor
import Mathlib.Tactic.FieldSimp
import Mathlib.Tactic.Lemma
import Mathlib.Tactic.Linarith
import Mathlib.Tactic.Ring

/-!
# Shortest digits read back

The shortest digits of a floating point number lie among the reals that round to it, and rounding
any of these gives the number again.

* `Decimal.Interval.Contains` — the reals that round to a number.
* `Decimal.shortest_contains` — the shortest digits are among them.
* `Binary64.ofRatio_contains` — rounding one of them gives the number.
-/

namespace ContentSync

/-! ## Powers -/

lemma zpow_eq_div {b : Nat} (hb : 0 < b) (z : ℤ) :
    (b : ℚ) ^ z = (Nat.pow b z.toNat : Nat) / (Nat.pow b (-z).toNat : Nat) := by
  have hne : (b : ℚ) ≠ 0 := Nat.cast_ne_zero.mpr (Nat.pos_iff_ne_zero.mp hb)
  rcases Int.le_total 0 z with hz | hz
  · obtain ⟨n, rfl⟩ := Int.eq_ofNat_of_zero_le hz
    have hneg : (-(n : ℤ)).toNat = 0 := by omega
    rw [hneg, Int.toNat_natCast, zpow_natCast]
    simp
  · obtain ⟨n, hn⟩ := Int.eq_ofNat_of_zero_le (Int.neg_nonneg.mpr hz)
    have hpos : z.toNat = 0 := by omega
    have hz' : z = -(n : ℤ) := by omega
    rw [hn, hpos, Int.toNat_natCast, hz', zpow_neg, zpow_natCast]
    simp

lemma two_zpow_eq_div (z : ℤ) :
    (2 : ℚ) ^ z = (Nat.pow 2 z.toNat : Nat) / (Nat.pow 2 (-z).toNat : Nat) :=
  mod_cast zpow_eq_div (by decide : 0 < 2) z

lemma ten_zpow_eq_div (z : ℤ) :
    (10 : ℚ) ^ z = (Nat.pow 10 z.toNat : Nat) / (Nat.pow 10 (-z).toNat : Nat) :=
  mod_cast zpow_eq_div (by decide : 0 < 10) z

lemma cast_pow_pos {b : Nat} (hb : 0 < b) (n : Nat) : (0 : ℚ) < (Nat.pow b n : Nat) :=
  Nat.cast_pos.mpr (Nat.pow_pos hb)

namespace Decimal

/-- The number that a decimal is. -/
def value (d : Decimal) : ℚ := d.digits * (10 : ℚ) ^ d.exponent

/-- The reals of an interval around `m · 2 ^ q`. -/
structure Interval.Contains (i : Interval) (q : ℤ) (v : ℚ) : Prop where
  low : i.low * (2 : ℚ) ^ (q - 2) ≤ v
  high : v ≤ i.high * (2 : ℚ) ^ (q - 2)
  inside : i.closed = false → i.low * (2 : ℚ) ^ (q - 2) < v ∧ v < i.high * (2 : ℚ) ^ (q - 2)

/-! ## Grids -/

/-- The two terms of `quarterPer` measure a quarter and the unit of the grid alike. -/
lemma quarterPer_scale (q e : ℤ) :
    ∃ c : ℚ, 0 < c ∧ (2 : ℚ) ^ (q - 2) = (quarterPer q e).1 * c ∧
      (10 : ℚ) ^ e = (quarterPer q e).2 * c := by
  have htwo := two_zpow_eq_div (q - 2)
  rw [Int.neg_sub] at htwo
  have h1 := cast_pow_pos (by decide : 0 < 10) (-e).toNat
  have h2 := cast_pow_pos (by decide : 0 < 2) (2 - q).toNat
  refine ⟨1 / ((Nat.pow 10 (-e).toNat : Nat) * (Nat.pow 2 (2 - q).toNat : Nat)),
    one_div_pos.mpr (mul_pos h1 h2), ?_, ?_⟩
  · rw [htwo, quarterPer, Nat.cast_mul]
    field_simp
  · rw [ten_zpow_eq_div, quarterPer, Nat.cast_mul]
    field_simp

section Grid

variable {q e : ℤ} {m d : Nat}

lemma le_grid : m * (2 : ℚ) ^ (q - 2) ≤ d * (10 : ℚ) ^ e ↔
    m * (quarterPer q e).1 ≤ d * (quarterPer q e).2 := by
  obtain ⟨c, hc, htwo, hten⟩ := quarterPer_scale q e
  rw [htwo, hten, ← mul_assoc, ← mul_assoc, mul_le_mul_iff_left₀ hc]
  exact_mod_cast Iff.rfl

lemma grid_le : d * (10 : ℚ) ^ e ≤ m * (2 : ℚ) ^ (q - 2) ↔
    d * (quarterPer q e).2 ≤ m * (quarterPer q e).1 := by
  obtain ⟨c, hc, htwo, hten⟩ := quarterPer_scale q e
  rw [htwo, hten, ← mul_assoc, ← mul_assoc, mul_le_mul_iff_left₀ hc]
  exact_mod_cast Iff.rfl

end Grid

lemma Interval.contains_of_holds {i : Interval} {q e : ℤ} {d : Nat}
    (h : i.holds (quarterPer q e) d) : i.Contains q (d * (10 : ℚ) ^ e) := by
  rw [holds] at h
  cases hclosed : i.closed with
  | true =>
      rw [hclosed, if_pos rfl, Bool.and_eq_true, decide_eq_true_eq, decide_eq_true_eq] at h
      exact ⟨le_grid.mpr h.1, grid_le.mpr h.2,
        fun hopen => absurd (hopen.symm.trans hclosed) Bool.false_ne_true⟩
  | false =>
      rw [hclosed, if_neg Bool.false_ne_true, Bool.and_eq_true, decide_eq_true_eq,
        decide_eq_true_eq] at h
      have hlow := lt_of_not_ge fun hle => absurd (grid_le.mp hle) (not_le.mpr h.1)
      have hhigh := lt_of_not_ge fun hle => absurd (le_grid.mp hle) (not_le.mpr h.2)
      exact ⟨hlow.le, hhigh.le, fun _ => ⟨hlow, hhigh⟩⟩

lemma holds_of_onGrid {tie : Tie} {i : Interval} {q e : ℤ} {d : Nat}
    (h : onGrid tie i q e = some d) : i.holds (quarterPer q e) d := by
  unfold onGrid at h
  dsimp only at h
  split at h
  · next hboth =>
      rw [Bool.and_eq_true, Bool.and_eq_true] at hboth
      split at h
      · exact Option.some.inj h ▸ hboth.1.2
      · split at h
        · exact Option.some.inj h ▸ hboth.2
        · split at h
          · exact Option.some.inj h ▸ hboth.2
          · split at h
            · exact Option.some.inj h ▸ hboth.1.2
            · exact Option.some.inj h ▸ hboth.2
  · split at h
    · next hbelow =>
        rw [Bool.and_eq_true] at hbelow
        exact Option.some.inj h ▸ hbelow.2
    · split at h
      · next habove => exact Option.some.inj h ▸ habove
      · cases h

lemma Interval.low_lt {m : Nat} (hm : 0 < m) (q : ℤ) : (Interval.of m q).low < 4 * m := by
  unfold Interval.of
  dsimp only
  split <;> omega

lemma Interval.low_pos {m : Nat} (hm : 0 < m) (q : ℤ) : 0 < (Interval.of m q).low := by
  unfold Interval.of
  dsimp only
  split <;> omega

/-- Where the unit of the grid is no larger than a quarter, rounding down stays in the interval. -/
lemma contains_below {m : Nat} {q e : ℤ} (hm : 0 < m) (he : (10 : ℚ) ^ e ≤ (2 : ℚ) ^ (q - 2)) :
    (Interval.of m q).Contains q
      ((4 * m * (quarterPer q e).1 / (quarterPer q e).2 : Nat) * (10 : ℚ) ^ e) := by
  have hunit : (quarterPer q e).2 ≤ (quarterPer q e).1 := by
    have h : 1 * (quarterPer q e).2 ≤ 1 * (quarterPer q e).1 :=
      grid_le.mp (by rwa [Nat.cast_one, one_mul, one_mul])
    omega
  have hpos : 0 < (quarterPer q e).2 :=
    Nat.mul_pos (Nat.pow_pos (by decide)) (Nat.pow_pos (by decide))
  generalize hd : 4 * m * (quarterPer q e).1 / (quarterPer q e).2 = d
  have hle : d * (quarterPer q e).2 ≤ 4 * m * (quarterPer q e).1 := hd ▸ Nat.div_mul_le_self _ _
  have hlt : 4 * m * (quarterPer q e).1 < d * (quarterPer q e).2 + (quarterPer q e).2 :=
    hd ▸ Nat.lt_div_mul_add hpos
  have hlow : ((Interval.of m q).low + 1) * (quarterPer q e).1 ≤ 4 * m * (quarterPer q e).1 :=
    Nat.mul_le_mul_right _ (Interval.low_lt hm q)
  have hhigh : (Interval.of m q).high * (quarterPer q e).1 =
      4 * m * (quarterPer q e).1 + 2 * (quarterPer q e).1 := Nat.add_mul _ _ _
  rw [Nat.add_mul, Nat.one_mul] at hlow
  refine Interval.contains_of_holds ?_
  rw [Interval.holds]
  split
  · rw [Bool.and_eq_true, decide_eq_true_eq, decide_eq_true_eq]
    exact ⟨by omega, by omega⟩
  · rw [Bool.and_eq_true, decide_eq_true_eq, decide_eq_true_eq]
    exact ⟨by omega, by omega⟩

lemma firstGrid_contains {tie : Tie} {m : Nat} {q : ℤ} (hm : 0 < m) : ∀ {n : Nat} {e : ℤ},
    (10 : ℚ) ^ (e - n) ≤ (2 : ℚ) ^ (q - 2) →
    (Interval.of m q).Contains q (firstGrid tie (Interval.of m q) q n e).value
  | 0, e, he => by
      rw [Nat.cast_zero, sub_zero] at he
      exact contains_below hm he
  | n + 1, e, he => by
      rw [firstGrid]
      split
      · next d hd => exact Interval.contains_of_holds (holds_of_onGrid hd)
      · refine firstGrid_contains hm ?_
        rw [Nat.cast_succ] at he
        rwa [sub_sub, add_comm 1]

/-! ## The leading digit -/

/-- The binary logarithm bounds the decimal one: upwards `10 ^ 59 ≤ 2 ^ 196` is close enough, and
downwards `2 ^ 93 ≤ 10 ^ 28`. -/
lemma ten_zpow_le {p l : ℤ} (h : 100000 * p ≤ 30103 * l) (hlow : -1200 ≤ l) (hhigh : l ≤ 1200) :
    (10 : ℚ) ^ p ≤ (2 : ℚ) ^ (l + 1) := by
  rcases Int.le_total 0 p with hp | hp
  · obtain ⟨n, rfl⟩ := Int.eq_ofNat_of_zero_le hp
    have hpow : ((10 : ℚ) ^ n) ^ 59 ≤ ((2 : ℚ) ^ (l + 1)) ^ 59 := by
      calc ((10 : ℚ) ^ n) ^ 59 = ((10 : ℚ) ^ 59) ^ n := pow_right_comm _ _ _
        _ ≤ ((2 : ℚ) ^ 196) ^ n := pow_le_pow_left₀ (by norm_num) (by norm_num) n
        _ = (2 : ℚ) ^ (196 * (n : ℤ)) := by rw [zpow_mul, zpow_natCast]; norm_cast
        _ ≤ (2 : ℚ) ^ ((l + 1) * 59) := zpow_le_zpow_right₀ (by norm_num) (by omega)
        _ = ((2 : ℚ) ^ (l + 1)) ^ 59 := by rw [zpow_mul]; norm_cast
    rw [zpow_natCast]
    exact le_of_pow_le_pow_left₀ (by decide) (by positivity) hpow
  · obtain ⟨n, hn⟩ := Int.eq_ofNat_of_zero_le (Int.neg_nonneg.mpr hp)
    have hpow : ((2 : ℚ) ^ (-(l + 1))) ^ 28 ≤ ((10 : ℚ) ^ n) ^ 28 := by
      calc ((2 : ℚ) ^ (-(l + 1))) ^ 28 = (2 : ℚ) ^ (-(l + 1) * 28) := by rw [zpow_mul]; norm_cast
        _ ≤ (2 : ℚ) ^ (93 * (n : ℤ)) := zpow_le_zpow_right₀ (by norm_num) (by omega)
        _ = ((2 : ℚ) ^ 93) ^ n := by rw [zpow_mul, zpow_natCast]; norm_cast
        _ ≤ ((10 : ℚ) ^ 28) ^ n := pow_le_pow_left₀ (by norm_num) (by norm_num) n
        _ = ((10 : ℚ) ^ n) ^ 28 := pow_right_comm _ _ _
    have hle := le_of_pow_le_pow_left₀ (by decide) (by positivity) hpow
    have hp' : p = -(n : ℤ) := by omega
    rw [hp', zpow_neg, zpow_natCast, ← inv_inv ((2 : ℚ) ^ (l + 1)), ← zpow_neg]
    exact inv_anti₀ (by positivity) hle

/-- The leading digit is not placed too high by more than a factor of two. -/
lemma ten_zpow_leadingExponent {m : Nat} {q : ℤ} (hm : 0 < m) (hlow : -1200 ≤ Nat.log2 m + q)
    (hhigh : Nat.log2 m + q ≤ 1200) :
    (10 : ℚ) ^ leadingExponent m q ≤ 2 * (m * (2 : ℚ) ^ q) := by
  have hpos : (0 : ℚ) < m * (2 : ℚ) ^ q := by positivity
  unfold leadingExponent
  dsimp only
  split
  · next hnext =>
      have hle : (10 : ℚ) ^ (((Nat.log2 m + q) * 30103).fdiv 100000 + 1) ≤ m * (2 : ℚ) ^ q := by
        rw [ten_zpow_eq_div, two_zpow_eq_div q, ← mul_div_assoc,
          div_le_div_iff₀ (cast_pow_pos (by decide) _) (cast_pow_pos (by decide) _)]
        exact_mod_cast hnext
      linarith
  · have hlog : (2 : ℚ) ^ (Nat.log2 m + q) ≤ m * (2 : ℚ) ^ q := by
      rw [zpow_add₀ (by norm_num), zpow_natCast]
      exact mul_le_mul_of_nonneg_right (mod_cast Nat.log2_self_le hm.ne') (by positivity)
    have hdiv : 100000 * ((Nat.log2 m + q) * 30103).fdiv 100000 ≤ 30103 * (Nat.log2 m + q) := by
      rw [Int.fdiv_eq_ediv_of_nonneg _ (by decide)]
      omega
    calc (10 : ℚ) ^ ((Nat.log2 m + q) * 30103).fdiv 100000
        ≤ (2 : ℚ) ^ (Nat.log2 m + q + 1) := ten_zpow_le hdiv hlow hhigh
      _ = 2 * (2 : ℚ) ^ (Nat.log2 m + q) := by rw [zpow_add_one₀ (by norm_num), mul_comm]
      _ ≤ 2 * (m * (2 : ℚ) ^ q) := by linarith

lemma value_normalize : ∀ (n : Nat) (d : Decimal), (normalize n d).value = d.value
  | 0, _ => rfl
  | n + 1, d => by
      rw [normalize]
      split
      · next h =>
          have hdigits : d.digits = d.digits / 10 * 10 := by omega
          rw [value_normalize n, value, value]
          conv_rhs => rw [hdigits]
          rw [zpow_add₀ (by norm_num)]
          push_cast
          ring
      · rfl

/-- **The shortest digits round to the number.** -/
theorem shortest_contains (tie : Tie) {m : Nat} {q : ℤ} (hm : 0 < m) (hsmall : m ≤ Nat.pow 2 53)
    (hlow : -1074 ≤ q) (hhigh : q ≤ 971) :
    (Interval.of m q).Contains q (shortest tie m q).value := by
  have hlog : Nat.log2 m < 54 := by
    rw [Nat.log2_lt hm.ne']
    exact Nat.lt_of_le_of_lt hsmall (by decide)
  have hle : (m : ℚ) ≤ 2 ^ 53 := mod_cast hsmall
  have hlead : (10 : ℚ) ^ leadingExponent m q ≤ 2 * (m * (2 : ℚ) ^ q) :=
    ten_zpow_leadingExponent hm (by omega) (by omega)
  have hunit : (10 : ℚ) ^ (leadingExponent m q - (18 : Nat)) ≤ (2 : ℚ) ^ (q - 2) := by
    have hpos : (0 : ℚ) < (2 : ℚ) ^ q := by positivity
    rw [zpow_sub₀ (by norm_num), zpow_sub₀ (by norm_num), zpow_natCast,
      div_le_div_iff₀ (by norm_num) (by norm_num)]
    nlinarith
  rw [shortest, value_normalize]
  exact firstGrid_contains hm hunit

lemma shortest_ne_zero (tie : Tie) {m : Nat} {q : ℤ} (hm : 0 < m) (hsmall : m ≤ Nat.pow 2 53)
    (hlow : -1074 ≤ q) (hhigh : q ≤ 971) : (shortest tie m q).digits ≠ 0 := by
  intro hzero
  have hcontains := (shortest_contains tie hm hsmall hlow hhigh).low
  have hpos : (0 : ℚ) < (Interval.of m q).low := Nat.cast_pos.mpr (Interval.low_pos hm q)
  have hu : (0 : ℚ) < (2 : ℚ) ^ (q - 2) := by positivity
  rw [value, hzero, Nat.cast_zero, zero_mul] at hcontains
  exact absurd hcontains (not_le.mpr (mul_pos hpos hu))

end Decimal

/-! ## Rounding -/

/-- A quotient is rounded to what is at most half a unit away, and less if that is odd. -/
lemma roundDiv_eq {num den k : Nat} (hden : 0 < den) (hlow : 2 * (k * den) ≤ 2 * num + den)
    (hhigh : 2 * num ≤ 2 * (k * den) + den)
    (hodd : k % 2 = 1 → 2 * (k * den) < 2 * num + den ∧ 2 * num < 2 * (k * den) + den) :
    roundDiv num den = k := by
  have hdiv : num / den * den + num % den = num := Nat.div_add_mod' num den
  have hmod := Nat.mod_lt num hden
  have hle : num / den ≤ k := by
    by_contra hlt
    have hmul : (k + 1) * den ≤ num / den * den := Nat.mul_le_mul_right den (not_le.mp hlt)
    rw [Nat.add_mul, Nat.one_mul] at hmul
    omega
  have hge : k ≤ num / den + 1 := by
    by_contra hlt
    have hmul : (num / den + 1 + 1) * den ≤ k * den := Nat.mul_le_mul_right den (not_le.mp hlt)
    rw [Nat.add_mul, Nat.add_mul, Nat.one_mul] at hmul
    omega
  unfold roundDiv
  dsimp only
  rcases Nat.lt_or_ge (num / den) k with hlt | hge'
  · have hk : k = num / den + 1 := by omega
    subst hk
    rw [Nat.add_mul, Nat.one_mul] at hlow hhigh hodd
    split
    · omega
    · split
      · rfl
      · split
        · next heven =>
            have := hodd (by omega)
            omega
        · rfl
  · have hk : k = num / den := by omega
    subst hk
    split
    · rfl
    · split
      · omega
      · split
        · rfl
        · next heven =>
            have := hodd (by omega)
            omega

namespace Binary64

lemma units_scale (num : Nat) {den : Nat} (hden : 0 < den) (e : ℤ) :
    ∃ c : ℚ, 0 < c ∧ (num : ℚ) / den = (num * Nat.pow 2 (-e).toNat : Nat) * c ∧
      (2 : ℚ) ^ e = (den * Nat.pow 2 e.toNat : Nat) * c := by
  have hden' : (0 : ℚ) < den := Nat.cast_pos.mpr hden
  have hpow := cast_pow_pos (by decide : 0 < 2) (-e).toNat
  refine ⟨1 / (den * (Nat.pow 2 (-e).toNat : Nat)), one_div_pos.mpr (mul_pos hden' hpow), ?_, ?_⟩
  · rw [Nat.cast_mul]
    field_simp
  · rw [two_zpow_eq_div, Nat.cast_mul]
    field_simp

/-- A fraction is `k` units when it is at most half a unit away from that, and less if `k` is
odd. -/
lemma unitsOf_eq {num den k : Nat} {e : ℤ} (hden : 0 < den)
    (hlow : (2 * k - 1) * (2 : ℚ) ^ e ≤ 2 * (num / den))
    (hhigh : 2 * ((num : ℚ) / den) ≤ (2 * k + 1) * (2 : ℚ) ^ e)
    (hodd : k % 2 = 1 → (2 * k - 1) * (2 : ℚ) ^ e < 2 * (num / den) ∧
      2 * ((num : ℚ) / den) < (2 * k + 1) * (2 : ℚ) ^ e) :
    unitsOf num den e = k := by
  obtain ⟨c, hc, hv, hunit⟩ := units_scale num hden e
  rw [hv, hunit] at hlow hhigh hodd
  rw [unitsOf]
  generalize num * Nat.pow 2 (-e).toNat = n at *
  generalize hd : den * Nat.pow 2 e.toNat = d at *
  have hpos : 0 < d := hd ▸ Nat.mul_pos hden (Nat.pow_pos (by decide))
  refine roundDiv_eq hpos ?_ ?_ fun hk => ⟨?_, ?_⟩
  · have h : (2 * (k * d) : ℚ) ≤ 2 * n + d := le_of_mul_le_mul_right (by linarith) hc
    exact_mod_cast h
  · have h : (2 * n : ℚ) ≤ 2 * (k * d) + d := le_of_mul_le_mul_right (by linarith) hc
    exact_mod_cast h
  · have h : (2 * (k * d) : ℚ) < 2 * n + d :=
      lt_of_mul_lt_mul_right (by linarith [(hodd hk).1]) hc.le
    exact_mod_cast h
  · have h : (2 * n : ℚ) < 2 * (k * d) + d :=
      lt_of_mul_lt_mul_right (by linarith [(hodd hk).2]) hc.le
    exact_mod_cast h

lemma log_div {num den : Nat} (hnum : 0 < num) (hden : 0 < den) :
    (2 : ℚ) ^ ((Nat.log2 num : ℤ) - Nat.log2 den - 1) ≤ num / den ∧
      (num : ℚ) / den < (2 : ℚ) ^ ((Nat.log2 num : ℤ) - Nat.log2 den + 1) := by
  have hnum1 : (2 : ℚ) ^ Nat.log2 num ≤ num := mod_cast Nat.log2_self_le hnum.ne'
  have hnum2 : (num : ℚ) < (2 : ℚ) ^ (Nat.log2 num + 1) := mod_cast Nat.lt_log2_self
  have hden1 : (2 : ℚ) ^ Nat.log2 den ≤ den := mod_cast Nat.log2_self_le hden.ne'
  have hden2 : (den : ℚ) < (2 : ℚ) ^ (Nat.log2 den + 1) := mod_cast Nat.lt_log2_self
  have hpos : (0 : ℚ) < den := Nat.cast_pos.mpr hden
  constructor
  · rw [sub_sub, zpow_sub₀ (by norm_num), zpow_natCast, ← Nat.cast_succ, zpow_natCast]
    gcongr
  · rw [sub_add_eq_add_sub, zpow_sub₀ (by norm_num), zpow_natCast, ← Nat.cast_succ, zpow_natCast]
    gcongr

/-- Rounding goes by the binary logarithm of the fraction. -/
lemma ofRatio_eq {num den : Nat} (hnum : 0 < num) (hden : 0 < den) (negative : Bool) :
    ofRatio negative num den =
      let e := max (Int.log 2 ((num : ℚ) / den) - 52) (-1074)
      let magnitude := (e + 1074).toNat * Nat.pow 2 52 + unitsOf num den e
      if 2047 * Nat.pow 2 52 ≤ magnitude then infinity negative
      else ofParts negative magnitude := by
  obtain ⟨hlow, hhigh⟩ := log_div hnum hden
  have hden' : (0 : ℚ) < den := Nat.cast_pos.mpr hden
  have hpos : (0 : ℚ) < num / den := div_pos (Nat.cast_pos.mpr hnum) hden'
  have hlog : ∀ {t : ℤ}, (2 : ℚ) ^ t ≤ num / den → (num : ℚ) / den < (2 : ℚ) ^ (t + 1) →
      Int.log 2 ((num : ℚ) / den) = t := by
    intro t hle hlt
    have h1 := (Int.zpow_le_iff_le_log (by decide : 1 < 2) hpos).mp (mod_cast hle)
    have h2 := (Int.lt_zpow_iff_log_lt (by decide : 1 < 2) hpos).mp (mod_cast hlt)
    omega
  have hfits : ∀ e : ℤ, den * Nat.pow 2 e.toNat * Nat.pow 2 52 ≤ num * Nat.pow 2 (-e).toNat ↔
      (2 : ℚ) ^ (e + 52) ≤ num / den := by
    intro e
    obtain ⟨c, hc, hv, hunit⟩ := units_scale num hden e
    rw [hv, zpow_add₀ (by norm_num), hunit, mul_right_comm _ c, mul_le_mul_iff_left₀ hc]
    norm_cast
  unfold ofRatio
  rw [if_neg hnum.ne']
  dsimp only
  split
  · next h =>
      have hle := (hfits _).mp h
      rw [sub_add_cancel] at hle
      rw [hlog hle hhigh]
  · next h =>
      have hlt := not_le.mp (mt (hfits _).mpr h)
      rw [sub_add_cancel] at hlt
      rw [hlog hlow (by rwa [sub_add_cancel]), sub_right_comm]

/-- `m · 2 ^ q` is a number of the format with the exponent it is stored with. -/
structure IsMagnitude (m : Nat) (q : ℤ) : Prop where
  lt : m < Nat.pow 2 53
  low : -1074 ≤ q
  high : q ≤ 971
  normal : m < Nat.pow 2 52 → q = -1074

section Rounding

variable {m : Nat} {q : ℤ} {v : ℚ}

lemma four_quarters (q : ℤ) : (2 : ℚ) ^ q = 4 * (2 : ℚ) ^ (q - 2) := by
  rw [zpow_sub₀ (by norm_num)]
  ring

/-- The interval of a number reaches half a unit to either side at most. -/
lemma halves_of_contains (hm : 0 < m) (h : (Decimal.Interval.of m q).Contains q v) :
    (2 * m - 1) * (2 : ℚ) ^ q ≤ 2 * v ∧ 2 * v ≤ (2 * m + 1) * (2 : ℚ) ^ q ∧
      (m % 2 = 1 → (2 * m - 1) * (2 : ℚ) ^ q < 2 * v ∧ 2 * v < (2 * m + 1) * (2 : ℚ) ^ q) := by
  have hlow : 4 * m ≤ (Decimal.Interval.of m q).low + 2 := by
    unfold Decimal.Interval.of
    dsimp only
    split <;> omega
  have hlow' : (4 * m - 2 : ℚ) ≤ (Decimal.Interval.of m q).low := by
    have hcast : ((4 * m : Nat) : ℚ) ≤ ((Decimal.Interval.of m q).low + 2 : Nat) := mod_cast hlow
    push_cast at hcast
    linarith
  have hhigh : ((Decimal.Interval.of m q).high : ℚ) = 4 * m + 2 := by
    unfold Decimal.Interval.of
    push_cast
    rfl
  have hu : (0 : ℚ) < (2 : ℚ) ^ (q - 2) := by positivity
  have hends := mul_le_mul_of_nonneg_right hlow' hu.le
  obtain ⟨h1, h2, hinside⟩ := h
  rw [hhigh] at h2 hinside
  rw [four_quarters q]
  refine ⟨by linarith, by linarith, fun hodd => ?_⟩
  have hopen : (Decimal.Interval.of m q).closed = false := by
    show (m % 2 == 0) = false
    rw [hodd]
    rfl
  obtain ⟨h3, h4⟩ := hinside hopen
  exact ⟨by linarith, by linarith⟩

/-- Below a power of two the interval reaches only a quarter of a unit down. -/
lemma quarter_of_contains (hq : -1074 < q)
    (h : (Decimal.Interval.of (Nat.pow 2 52) q).Contains q v) :
    (2 * (Nat.pow 2 53 : Nat) - 1) * (2 : ℚ) ^ (q - 1) ≤ 2 * v := by
  have hlow := h.low
  have heq : (Decimal.Interval.of (Nat.pow 2 52) q).low = Nat.pow 2 54 - 1 := by
    unfold Decimal.Interval.of
    rw [if_pos ⟨rfl, hq⟩]
  have hhalf : (2 : ℚ) ^ (q - 1) = 2 * (2 : ℚ) ^ (q - 2) := by
    rw [zpow_sub₀ (by norm_num), zpow_sub₀ (by norm_num)]
    ring
  have hcast : ((Nat.pow 2 54 - 1 : Nat) : ℚ) = 2 * (Nat.pow 2 53 : Nat) - 1 := by norm_num
  rw [heq, hcast] at hlow
  rw [hhalf]
  linarith

/-- The binary logarithm is that of the leading digit, except just below a power of two. -/
lemma log_of_contains (hm : IsMagnitude m q) (hpos : 0 < m)
    (h : (Decimal.Interval.of m q).Contains q v) :
    max (Int.log 2 v - 52) (-1074) = q ∨
      max (Int.log 2 v - 52) (-1074) = q - 1 ∧ m = Nat.pow 2 52 ∧ -1074 < q ∧
        v < (2 : ℚ) ^ (q + 52) := by
  obtain ⟨hlow, hhigh, -⟩ := halves_of_contains hpos h
  have hu : (0 : ℚ) < (2 : ℚ) ^ q := by positivity
  have hone : (1 : ℚ) ≤ m := mod_cast hpos
  have hv : 0 < v := by nlinarith
  have hle : ∀ t : ℤ, (2 : ℚ) ^ t ≤ v ↔ t ≤ Int.log 2 v := fun t =>
    mod_cast Int.zpow_le_iff_le_log (by decide : 1 < 2) hv
  have hpow : ∀ n : Nat, (2 : ℚ) ^ (q + n) = (2 : ℚ) ^ q * 2 ^ n := fun n => by
    rw [zpow_add₀ (by norm_num), zpow_natCast]
  have hsmall : (m : ℚ) + 1 ≤ 2 ^ 53 := mod_cast hm.lt
  have hbelow : ¬ q + 53 ≤ Int.log 2 v := by
    rw [← hle, not_le]
    refine lt_of_lt_of_eq ?_ (hpow 53).symm
    nlinarith
  by_cases hbig : q + 52 ≤ Int.log 2 v
  · have hq := hm.low
    exact .inl (by omega)
  rcases Int.lt_or_le (-1074) q with hq | hq
  · have hm' : Nat.pow 2 52 ≤ m := by
      by_contra hlt
      have := hm.normal (not_le.mp hlt)
      omega
    have hv' : v < (2 : ℚ) ^ (q + 52) := not_le.mp (mt (hle _).mp hbig)
    have hm2 : m = Nat.pow 2 52 := by
      refine Nat.le_antisymm ?_ hm'
      by_contra hlt
      have hcast : ((2 : ℚ) ^ 52) + 1 ≤ m := mod_cast not_le.mp hlt
      have hv2 : v < (2 : ℚ) ^ q * 2 ^ 52 := lt_of_lt_of_eq hv' (hpow 52)
      nlinarith
    have habove : q + 51 ≤ Int.log 2 v := by
      rw [← hle]
      refine le_of_eq_of_le (hpow 51) ?_
      have hcast : (m : ℚ) = 2 ^ 52 := mod_cast hm2
      rw [hcast] at hlow
      nlinarith
    exact .inr ⟨by omega, hm2, hq, hv'⟩
  · have hq' := hm.low
    exact .inl (by omega)

end Rounding

/-- **Rounding what lies in the interval of a number gives the number.** -/
theorem ofRatio_contains {m : Nat} {q : ℤ} (hm : IsMagnitude m q) (hpos : 0 < m) {num den : Nat}
    (hden : 0 < den) (h : (Decimal.Interval.of m q).Contains q (num / den)) (negative : Bool) :
    ofRatio negative num den = ofParts negative ((q + 1074).toNat * Nat.pow 2 52 + m) := by
  obtain ⟨hlow, hhigh, hodd⟩ := halves_of_contains hpos h
  have hnum : 0 < num := by
    rcases Nat.eq_zero_or_pos num with rfl | hnum
    · have hu : (0 : ℚ) < (2 : ℚ) ^ q := by positivity
      have hone : (1 : ℚ) ≤ m := mod_cast hpos
      rw [Nat.cast_zero, zero_div] at hlow
      nlinarith
    · exact hnum
  have hlt : (q + 1074).toNat * Nat.pow 2 52 + m < 2047 * Nat.pow 2 52 := by
    have hm' : m < 2 * Nat.pow 2 52 := hm.lt
    have hq : (q + 1074).toNat ≤ 2045 := by
      have := hm.high
      omega
    have hmul := Nat.mul_le_mul_right (Nat.pow 2 52) hq
    omega
  rw [ofRatio_eq hnum hden]
  dsimp only
  rcases log_of_contains hm hpos h with he | ⟨he, rfl, hq, hv⟩
  · rw [he, unitsOf_eq hden hlow hhigh hodd, if_neg (not_le.mpr hlt)]
  · have hunits : unitsOf num den (q - 1) = Nat.pow 2 53 := by
      refine unitsOf_eq hden (quarter_of_contains hq h) ?_ fun hodd => absurd hodd (by decide)
      have hpow : (2 : ℚ) ^ (q + 52) = (2 : ℚ) ^ (q - 1) * 2 ^ 53 := by
        rw [← zpow_natCast, ← zpow_add₀ (by norm_num)]
        congr 1
        push_cast
        ring
      have hu : (0 : ℚ) < (2 : ℚ) ^ (q - 1) := by positivity
      rw [hpow] at hv
      push_cast
      linarith
    have hmagnitude : (q - 1 + 1074).toNat * Nat.pow 2 52 + Nat.pow 2 53 =
        (q + 1074).toNat * Nat.pow 2 52 + Nat.pow 2 52 := by
      have hsucc : (q + 1074).toNat = (q - 1 + 1074).toNat + 1 := by omega
      have htwo : Nat.pow 2 53 = Nat.pow 2 52 + Nat.pow 2 52 := rfl
      rw [hsucc, htwo, Nat.add_mul, Nat.one_mul, Nat.add_assoc]
    rw [he, hunits, hmagnitude, if_neg (not_le.mpr hlt)]

/-! ## Decoding -/

lemma ofParts_magnitudeBits (x : Binary64) : ofParts x.isNegative x.magnitudeBits = x := by
  have hlt : x.bits.toNat < 2 * Nat.pow 2 63 := x.bits.toNat_lt
  have hsum : x.magnitudeBits + (if x.isNegative then Nat.pow 2 63 else 0) = x.bits.toNat := by
    rw [magnitudeBits, isNegative]
    by_cases h : Nat.pow 2 63 ≤ x.bits.toNat
    · rw [decide_eq_true h, if_pos rfl, Nat.mod_eq_sub_mod h, Nat.mod_eq_of_lt (by omega)]
      omega
    · rw [decide_eq_false h, if_neg Bool.false_ne_true, Nat.mod_eq_of_lt (not_le.mp h)]
      rfl
  rw [ofParts, hsum, UInt64.ofNat_toNat]

/-- A finite number is its sign and its magnitude. -/
lemma magnitude?_of_isFinite {x : Binary64} (hx : x.isFinite) :
    ∃ m q, x.magnitude? = some (m, q) ∧ IsMagnitude m q ∧
      ofParts x.isNegative ((q + 1074).toNat * Nat.pow 2 52 + m) = x := by
  have hfield : x.exponentField < 2047 := of_decide_eq_true hx
  have hfraction : x.fractionField < Nat.pow 2 52 := Nat.mod_lt _ (by decide)
  have hbits : x.exponentField * Nat.pow 2 52 + x.fractionField = x.magnitudeBits :=
    Nat.div_add_mod' _ _
  have hparts := ofParts_magnitudeBits x
  have htwo : Nat.pow 2 53 = 2 * Nat.pow 2 52 := rfl
  rw [magnitude?, if_pos hx]
  split
  · next hzero =>
      refine ⟨_, _, rfl, ⟨by omega, by omega, by omega, fun _ => rfl⟩, ?_⟩
      rw [hzero, Nat.zero_mul, Nat.zero_add] at hbits
      rw [hbits]
      show ofParts x.isNegative (0 * Nat.pow 2 52 + x.magnitudeBits) = x
      rw [Nat.zero_mul, Nat.zero_add]
      exact hparts
  · next hnormal =>
      refine ⟨_, _, rfl, ⟨by omega, by omega, by omega, by omega⟩, ?_⟩
      have hexponent : ((x.exponentField : ℤ) - 1075 + 1074).toNat + 1 = x.exponentField := by omega
      rw [← hexponent, Nat.add_mul, Nat.one_mul, Nat.add_assoc] at hbits
      rw [hbits]
      exact hparts

/-- **The shortest digits of a number give it back.** -/
theorem ofRatio_shortest (tie : Tie) {x : Binary64} {m : Nat} {q : ℤ}
    (hx : x.magnitude? = some (m, q)) (hpos : 0 < m) {num den : Nat} (hden : 0 < den)
    (h : (num : ℚ) / den = (Decimal.shortest tie m q).value) :
    ofRatio x.isNegative num den = x := by
  have hfinite : x.isFinite := by
    cases hx' : x.isFinite with
    | true => rfl
    | false =>
        rw [magnitude?, hx', if_neg Bool.false_ne_true] at hx
        cases hx
  obtain ⟨m', q', hx', hm, hparts⟩ := magnitude?_of_isFinite hfinite
  cases hx.symm.trans hx'
  have hcontains := Decimal.shortest_contains tie hpos hm.lt.le hm.low hm.high
  rw [← h] at hcontains
  rw [ofRatio_contains hm hpos hden hcontains, hparts]

end Binary64

end ContentSync
