import ContentSync.Proofs.DocumentTokens
import ContentSync.Proofs.ShortestDecimal

/-!
# Floating point literals read back

The literal of a finite floating point number is a spelled number with a point or an exponent, and
the number nearest to what it spells is the number itself.

* `Syntax.Spelling.decimal` — the decimal that a spelled number is.
* `Syntax.exists_spelling` — the text of a number, as a literal or in JSON, spells its shortest
  digits.
* `Syntax.tokens_float` — it is read as the number.
-/

namespace ContentSync.GraphQL.Syntax

/-! ## The value of a spelled number -/

/-- The decimal that a number without its sign spells. -/
def Spelling.decimal (n : Spelling) : Decimal where
  digits := Nat.ofDigitChars 10 (n.whole ++ n.point.getD []) 0
  exponent := (match n.exponent with
    | none => 0
    | some (sign, ds) => signed (sign == ['-']) (Nat.ofDigitChars 10 ds 0)) - (n.point.getD []).length

lemma decimalExponent_numeral (n : Spelling) (negative : Bool) :
    decimalExponent (n.numeral negative) = n.decimal.exponent := by
  rw [decimalExponent, Spelling.decimal, Spelling.numeral]
  cases n.point <;> cases n.exponent <;> simp [digitsValue_map]

lemma digitsValue_numeral (n : Spelling) (negative : Bool) :
    digitsValue ((n.numeral negative).whole ++ (n.numeral negative).point.getD []) =
      n.decimal.digits := by
  rw [Spelling.decimal, Spelling.numeral]
  cases n.point <;> simp [← digitsValue_map]

/-- The number nearest to a spelled one is rounded from the decimal. -/
lemma nearest_numeral (n : Spelling) (negative : Bool) :
    nearest (n.numeral negative) =
      .ofRatio negative (n.decimal.digits * Nat.pow 10 n.decimal.exponent.toNat)
        (Nat.pow 10 (-n.decimal.exponent).toNat) := by
  rw [nearest, digitsValue_numeral, decimalExponent_numeral]
  rfl

/-- A spelled number that is the shortest decimal of a number is read as that. -/
lemma nearest_shortest (tie : Tie) {x : Binary64} {m : Nat} {q : ℤ}
    (hx : x.magnitude? = some (m, q)) (hpos : 0 < m) {n : Spelling}
    (h : n.decimal.value = (Decimal.shortest tie m q).value) :
    nearest (n.numeral x.isNegative) = x := by
  rw [nearest_numeral]
  refine Binary64.ofRatio_shortest tie hx hpos (Nat.pow_pos (by decide)) ?_
  rw [← h, Decimal.value, ten_zpow_eq_div, Nat.cast_mul, mul_div_assoc]

/-! ## Digits with a point -/

/-- The characters spell the decimal, with a point or an exponent. -/
def Spelled (cs : List Char) (d : Decimal) : Prop :=
  ∃ n : Spelling, n.Valid ∧ (n.point.isSome || n.exponent.isSome) ∧ cs = n.chars ∧
    n.decimal.value = d.value

/-- Digits of a number without leading zeros. -/
structure DigitsOf (ds : List Char) (n : Nat) : Prop where
  digits : IsDigits ds
  head : ds.head? ≠ some '0'
  value : Nat.ofDigitChars 10 ds 0 = n

lemma digitsOf_toDigits {n : Nat} (hn : n ≠ 0) : DigitsOf (Nat.toDigits 10 n) n where
  digits := isDigits_toDigits n
  head := fun h => hn (toDigits_head n h)
  value := Nat.ofDigitChars_ten_toDigits

section Layout

variable {ds : List Char} {n : Nat}

lemma isDigit_of_mem_zeros {k : Nat} {c : Char} (hc : c ∈ List.replicate k '0') : c.isDigit := by
  rw [List.eq_of_mem_replicate hc]
  rfl

lemma spelled_behind (h : DigitsOf ds n) (k : Nat) :
    Spelled ('0' :: '.' :: (List.replicate k '0' ++ ds)) ⟨n, -(k + ds.length : Nat)⟩ := by
  refine ⟨⟨['0'], some (List.replicate k '0' ++ ds), none⟩, ⟨?_, ?_, ?_, ?_⟩, rfl, ?_, ?_⟩
  · exact ⟨by simp, List.cons_ne_nil _ _⟩
  · exact fun _ => rfl
  · rintro ds' ⟨⟩
    refine ⟨?_, by simp [h.digits.nonempty]⟩
    intro c hc
    rcases List.mem_append.mp hc with hc | hc
    · exact isDigit_of_mem_zeros hc
    · exact h.digits.all c hc
  · exact fun _ he => absurd he (by simp)
  · simp [Spelling.chars, Spelling.pointChars, Spelling.exponentChars]
  · have hvalue := h.value
    simp [Spelling.decimal, Nat.ofDigitChars_append, Nat.ofDigitChars_cons,
      Nat.ofDigitChars_replicate_zero, hvalue]

lemma spelled_between {front back : List Char} (h : DigitsOf (front ++ back) n)
    (hfront : front ≠ []) (hback : back ≠ []) :
    Spelled (front ++ '.' :: back) ⟨n, -(back.length : Nat)⟩ := by
  refine ⟨⟨front, some back, none⟩, ⟨?_, ?_, ?_, ?_⟩, rfl, ?_, ?_⟩
  · exact ⟨fun c hc => h.digits.all c (List.mem_append_left _ hc), hfront⟩
  · intro hzero
    refine absurd ?_ h.head
    rw [List.head?_append, hzero]
    rfl
  · rintro ds' ⟨⟩
    exact ⟨fun c hc => h.digits.all c (List.mem_append_right _ hc), hback⟩
  · exact fun _ he => absurd he (by simp)
  · simp [Spelling.chars, Spelling.pointChars, Spelling.exponentChars]
  · simp [Spelling.decimal, h.value]

lemma spelled_before (h : DigitsOf ds n) (k : Nat) :
    Spelled (ds ++ List.replicate k '0' ++ ['.', '0']) ⟨n, k⟩ := by
  refine ⟨⟨ds ++ List.replicate k '0', some ['0'], none⟩, ⟨⟨?_, ?_⟩, ?_, ?_, ?_⟩, rfl, ?_, ?_⟩
  · intro c hc
    rcases List.mem_append.mp hc with hc | hc
    · exact h.digits.all c hc
    · exact isDigit_of_mem_zeros hc
  · simp [h.digits.nonempty]
  · intro hzero
    refine absurd ?_ h.head
    rw [List.head?_append_of_ne_nil _ h.digits.nonempty] at hzero
    exact hzero
  · rintro ds' ⟨⟩
    exact ⟨by simp, List.cons_ne_nil _ _⟩
  · exact fun _ he => absurd he (by simp)
  · simp [Spelling.chars, Spelling.pointChars, Spelling.exponentChars]
  · have hdecimal : Spelling.decimal ⟨ds ++ List.replicate k '0', some ['0'], none⟩ =
        ⟨10 * (10 ^ k * n), -1⟩ := by
      simp [Spelling.decimal, Nat.ofDigitChars_append, Nat.ofDigitChars_cons,
        Nat.ofDigitChars_replicate_zero, h.value]
    rw [hdecimal, Decimal.value, Decimal.value, zpow_neg_one, zpow_natCast]
    push_cast
    ring

/-- An exponent after the digits, with a point behind the first one if there are more. -/
lemma spelled_scientific {c : Char} {rest sign : List Char} (h : DigitsOf (c :: rest) n) (e : Int)
    (hsign : IsSign sign) (hminus : (sign == ['-']) = decide (e < 0)) :
    Spelled (c :: ((if rest = [] then [] else '.' :: rest) ++
      'e' :: (sign ++ Nat.toDigits 10 e.natAbs))) ⟨n, e - rest.length⟩ := by
  obtain ⟨hc, hrest⟩ := List.forall_mem_cons.mp h.digits.all
  refine ⟨⟨[c], if rest = [] then none else some rest, some (sign, Nat.toDigits 10 e.natAbs)⟩,
    ⟨?_, ?_, ?_, ?_⟩, ?_, ?_, ?_⟩
  · exact ⟨by simpa using hc, List.cons_ne_nil _ _⟩
  · exact fun _ => rfl
  · intro ds' hds'
    dsimp only at hds'
    split at hds'
    · cases hds'
    · cases hds'
      exact ⟨hrest, by assumption⟩
  · rintro p ⟨⟩
    exact ⟨hsign, isDigits_toDigits _⟩
  · simp
  · by_cases hempty : rest = []
    · simp [hempty, Spelling.chars, Spelling.pointChars, Spelling.exponentChars]
    · simp [hempty, Spelling.chars, Spelling.pointChars, Spelling.exponentChars]
  · have hvalue := h.value
    by_cases hempty : rest = []
    · subst hempty
      simp [Spelling.decimal, hvalue, hminus, signed_natAbs]
    · simp [hempty, Spelling.decimal, hvalue, hminus, signed_natAbs]

end Layout

/-! ## Literals -/

lemma spelled_inPlace {ds : List Char} {n : Nat} (h : DigitsOf ds n) (e : Int) :
    Spelled (DecimalLayout.inPlace ds (e + ds.length)).toList ⟨n, e⟩ := by
  have hexponent : ∀ {cs : List Char} {e' : Int}, Spelled cs ⟨n, e'⟩ → e' = e → Spelled cs ⟨n, e⟩ :=
    fun hs he => he ▸ hs
  rw [DecimalLayout.inPlace]
  split
  · next hwhole =>
      simp only [String.toList_append, String.toList_ofList]
      exact hexponent (spelled_behind h (-(e + ds.length)).toNat) (by omega)
  · next hwhole =>
      dsimp only
      simp only [String.toList_append, String.toList_ofList]
      rcases Nat.lt_or_ge (e + ds.length).toNat ds.length with hlt | hge
      · have hsplit :
            DigitsOf (ds.take (e + ds.length).toNat ++ ds.drop (e + ds.length).toNat) n := by
          rwa [List.take_append_drop]
        have hfront : ds.take (e + ds.length).toNat ≠ [] := by
          rw [ne_eq, List.take_eq_nil_iff]
          exact fun hnil => hnil.elim (by omega) h.digits.nonempty
        have hback : ds.drop (e + ds.length).toNat ≠ [] := by
          rw [ne_eq, List.drop_eq_nil_iff]
          omega
        have hfill : (e + ds.length).toNat - ds.length = 0 := by omega
        have hempty : (ds.drop (e + ds.length).toNat).isEmpty = false := by
          rwa [Bool.eq_false_iff, ne_eq, List.isEmpty_iff]
        rw [hfill, hempty, if_neg Bool.false_ne_true]
        simp only [String.toList_ofList, List.replicate_zero, List.append_nil, List.append_assoc]
        have hbetween := spelled_between hsplit hfront hback
        rw [List.length_drop] at hbetween
        exact hexponent hbetween (by omega)
      · have htake : ds.take (e + ds.length).toNat = ds := List.take_of_length_le hge
        have hdrop : ds.drop (e + ds.length).toNat = [] := List.drop_of_length_le hge
        rw [htake, hdrop, List.append_assoc]
        exact hexponent (spelled_before h ((e + ds.length).toNat - ds.length)) (by omega)

lemma toList_sign (negative : Bool) :
    (if negative then "-" else "").toList = if negative then ['-'] else [] := by
  cases negative <;> simp

section Formats

variable {layout : DecimalLayout} (hplus : layout.plus = "" ∨ layout.plus = "+")

include hplus

lemma spelled_layout_scientific {ds : List Char} {n : Nat} (h : DigitsOf ds n) (e : Int) :
    Spelled (layout.scientific ds (e + ds.length - 1)).toList ⟨n, e⟩ := by
  cases ds with
  | nil => exact absurd rfl h.digits.nonempty
  | cons c rest =>
      have hexponent : e + ((c :: rest).length : Int) - 1 - (rest.length : Int) = e := by
        rw [List.length_cons]
        omega
      generalize e + ((c :: rest).length : Int) - 1 = e' at *
      have hsign : IsSign (if e' < 0 then "-" else layout.plus).toList ∧
          ((if e' < 0 then "-" else layout.plus).toList == ['-']) = decide (e' < 0) := by
        by_cases he : e' < 0
        · simp [he, IsSign]
        · rcases hplus with hplus | hplus <;> simp [he, hplus, IsSign]
      have hscientific := spelled_scientific h e' hsign.1 hsign.2
      rw [hexponent] at hscientific
      have htext : (layout.scientific (c :: rest) e').toList =
          c :: ((if rest = [] then [] else '.' :: rest) ++
            'e' :: ((if e' < 0 then "-" else layout.plus).toList ++
              Nat.toDigits 10 e'.natAbs)) := by
        cases rest <;> simp [DecimalLayout.scientific]
      rw [htext]
      exact hscientific

/-- The text of a positive magnitude spells its shortest digits. -/
lemma spelled_render {x : Binary64} {m : Nat} {q : ℤ} (hx : x.magnitude? = some (m, q))
    (hpos : 0 < m) {d : Decimal} (hd : Decimal.shortest layout.tie m q = d) (hne : d.digits ≠ 0) :
    ∃ text : String, layout.render? x = some ((if x.isNegative then "-" else "") ++ text) ∧
      Spelled text.toList d := by
  have hdigits := digitsOf_toDigits hne
  rw [DecimalLayout.render?, hx]
  dsimp only
  rw [if_neg hpos.ne', hd, sub_add_cancel]
  by_cases hfits : layout.lowest ≤ d.exponent + (Nat.toDigits 10 d.digits).length - 1 ∧
      d.exponent + (Nat.toDigits 10 d.digits).length - 1 ≤ layout.highest
  · refine ⟨_, if_pos ?_, spelled_inPlace hdigits d.exponent⟩
    rwa [Bool.and_eq_true, decide_eq_true_eq, decide_eq_true_eq]
  · refine ⟨_, if_neg ?_, spelled_layout_scientific hplus hdigits d.exponent⟩
    rwa [Bool.and_eq_true, decide_eq_true_eq, decide_eq_true_eq]

/-- **The text of a finite number spells a number that is read as it.** -/
lemma exists_spelling {x : Binary64} (hx : x.isFinite) : ∃ n : Spelling, n.Valid ∧
    (n.point.isSome || n.exponent.isSome) ∧ nearest (n.numeral x.isNegative) = x ∧
    ∃ text : String, layout.render? x = some text ∧
      text.toList = (if x.isNegative then ['-'] else []) ++ n.chars := by
  obtain ⟨m, q, hmagnitude, hm, hparts⟩ := Binary64.magnitude?_of_isFinite hx
  rcases Nat.eq_zero_or_pos m with rfl | hpos
  · refine ⟨⟨['0'], some ['0'], none⟩, ⟨?_, fun _ => rfl, ?_, ?_⟩, rfl, ?_,
      (if x.isNegative then "-" else "") ++ "0.0", ?_, ?_⟩
    · exact ⟨by simp, List.cons_ne_nil _ _⟩
    · rintro ds ⟨⟩
      exact ⟨by simp, List.cons_ne_nil _ _⟩
    · exact fun _ he => absurd he (by simp)
    · rw [hm.normal (by decide)] at hparts
      exact hparts
    · rw [DecimalLayout.render?, hmagnitude]
      exact if_pos rfl
    · rw [String.toList_append, toList_sign]
      rfl
  · have hd := Decimal.shortest_ne_zero layout.tie hpos hm.lt.le hm.low hm.high
    obtain ⟨text, hrender, n, hn, hfloat, hchars, hvalue⟩ :=
      spelled_render hplus hmagnitude hpos rfl hd
    refine ⟨n, hn, hfloat, nearest_shortest layout.tie hmagnitude hpos hvalue, _, hrender, ?_⟩
    rw [String.toList_append, toList_sign, hchars]

end Formats

/-- **A finite floating point literal is read back.** -/
theorem tokens_float {x : Binary64} (hx : x.isFinite) {rest : List Char} (hrest : endsToken rest) :
    tokens ((Argument.float x).chars ++ rest) = (tokens rest).map (.float x :: ·) := by
  obtain ⟨n, hn, hfloat, hnearest, text, hrender, htext⟩ :=
    exists_spelling (.inl (rfl : DecimalLayout.argument.plus = "")) hx
  have hchars : (Argument.float x).chars = (if x.isNegative then ['-'] else []) ++ n.chars := by
    rw [Argument.chars, hrender, Option.getD_some, htext]
  have htoken : numberToken (n.numeral x.isNegative) = .float x := by
    rw [numberToken, if_neg, hnearest]
    rw [Spelling.numeral]
    intro hnone
    rw [Option.isNone_map, Option.isNone_map] at hnone
    cases hpoint : n.point <;> cases hexponent : n.exponent <;>
      simp [hpoint, hexponent] at hnone hfloat
  rw [hchars, tokens_number hn x.isNegative hrest, htoken]

end ContentSync.GraphQL.Syntax
