import ContentSync.Text.Blank
import ContentSync.Text.Pieces
import Mathlib.Data.List.DropRight
import Mathlib.Tactic.Lemma

/-!
# Texts that were put together

Blanks at the ends, separators and decimal digits are how a text is put together from parts, and
taking it apart gives the parts back.

* `blankFreeEnds_trimList` — trimming leaves nothing to trim.
* `Trimmed`, `trimmed_iff` — what is left of a text without the blanks around it.
* `pieces_append`, `splitFirst_append` — what stands before a separator; `notMem_of_mem_pieces` —
  pieces hold none.
* `toString_int_inj` — integers are told by their decimal digits.
* `IsInt64`, `int64?_toString` — an integer of 64 bits is read back from its decimal digits.
-/

namespace ContentSync.Text

/-! ## Trimming -/

lemma trimEnd_eq_rdropWhile (cs : List Char) : trimEnd cs = cs.rdropWhile isBlank := rfl

/-- After trimming, neither end is blank. -/
lemma blankFreeEnds_trimList (cs : List Char) : BlankFreeEnds (trimList cs) := by
  rw [trimList, trimEnd_eq_rdropWhile]
  constructor
  · intro c hc
    have hstart : (trimStart cs).head? = some c := by
      obtain ⟨rest, hrest⟩ := List.rdropWhile_prefix isBlank (trimStart cs)
      rw [← hrest, List.head?_append, hc, Option.some_or]
    have hnot := List.head?_dropWhile_not isBlank cs
    rw [trimStart] at hstart
    rw [hstart] at hnot
    simpa using hnot
  · intro c hc
    have hne : (trimStart cs).rdropWhile isBlank ≠ [] := by
      intro hnil
      rw [hnil] at hc
      cases hc
    have hlast := List.rdropWhile_last_not isBlank (trimStart cs) hne
    rw [List.getLast?_eq_some_getLast hne] at hc
    cases hc
    simpa using hlast

instance (cs : List Char) : Decidable (BlankFreeEnds cs) :=
  decidable_of_iff _ trimList_eq_self_iff

/-- Blanks at the end do not count. -/
lemma trimEnd_append (cs : List Char) {after : List Char} (h : ∀ c ∈ after, isBlank c) :
    trimEnd (cs ++ after) = trimEnd cs := by
  rw [trimEnd, List.reverse_append, List.dropWhile_append_of_pos (by simpa using h), trimEnd]

/-- **What is left of a text without the blanks around it**: before and behind it there are only
blanks, and it has none at its own ends. -/
structure Trimmed (cs rest : List Char) : Prop where
  around : ∃ before after, cs = before ++ rest ++ after ∧
    (∀ c ∈ before, isBlank c) ∧ ∀ c ∈ after, isBlank c
  ends : BlankFreeEnds rest

lemma trimmed_trimList (cs : List Char) : Trimmed cs (trimList cs) := by
  refine ⟨⟨cs.takeWhile isBlank, (trimStart cs).rtakeWhile isBlank, ?_, ?_, ?_⟩,
    blankFreeEnds_trimList cs⟩
  · rw [List.append_assoc, trimList, trimEnd_eq_rdropWhile, List.rdropWhile_append_rtakeWhile,
      trimStart, List.takeWhile_append_dropWhile]
  · exact fun c hc => List.mem_takeWhile_imp hc
  · exact fun c hc => List.mem_rtakeWhile_imp hc

lemma Trimmed.eq_trimList {cs rest : List Char} (h : Trimmed cs rest) : rest = trimList cs := by
  obtain ⟨⟨before, after, rfl, hbefore, hafter⟩, hends⟩ := h
  have hstart : trimStart (before ++ (rest ++ after)) = trimStart (rest ++ after) :=
    List.dropWhile_append_of_pos hbefore
  rw [List.append_assoc, trimList, hstart]
  -- an empty rest has no first character to stop at, so the blanks behind it go with the others
  cases rest with
  | nil =>
      have hnone : trimStart after = [] := List.dropWhile_eq_nil_iff.mpr hafter
      rw [List.nil_append, hnone]
      rfl
  | cons c rest =>
      have hkept : ∀ ds, trimStart (c :: ds) = c :: ds := fun _ => dropWhile_eq_self_iff.mpr hends.1
      have hself := trimList_eq_self_iff.mpr hends
      rw [trimList, hkept] at hself
      rw [List.cons_append, hkept, ← List.cons_append, trimEnd_append _ hafter, hself]

/-- **Trimming** leaves just that. -/
lemma trimmed_iff {s t : String} : Trimmed s.toList t.toList ↔ t = trim s := by
  rw [trim, ← String.toList_inj, String.toList_ofList]
  refine ⟨Trimmed.eq_trimList, fun h => ?_⟩
  rw [h]
  exact trimmed_trimList s.toList

lemma trimList_subset (cs : List Char) : trimList cs ⊆ cs := by
  intro c hc
  rw [trimList, trimEnd_eq_rdropWhile] at hc
  exact (List.dropWhile_sublist isBlank).subset ((List.rdropWhile_prefix isBlank _).subset hc)

/-- A blank at the start does not count. -/
lemma trimList_cons {c : Char} (h : isBlank c) (cs : List Char) :
    trimList (c :: cs) = trimList cs := by
  rw [trimList, trimStart, List.dropWhile_cons_of_pos h]
  rfl

lemma blankFreeEnds_of_forall {cs : List Char} (h : ∀ c ∈ cs, isBlank c = false) :
    BlankFreeEnds cs :=
  ⟨fun c hc => h c (List.mem_of_head? hc), fun c hc => h c (List.mem_of_getLast? hc)⟩

/-- A text is put behind another one that ends with a character. -/
lemma BlankFreeEnds.append {c : Char} {before cs : List Char}
    (hbefore : BlankFreeEnds (before ++ [c])) (hcs : BlankFreeEnds cs) :
    BlankFreeEnds (before ++ c :: cs) := by
  have hsplit : before ++ c :: cs = (before ++ [c]) ++ cs := by simp
  constructor
  · intro d hd
    refine hbefore.1 d ?_
    cases before <;> simpa using hd
  · intro d hd
    cases cs with
    | nil => exact hbefore.2 d hd
    | cons e rest =>
        refine hcs.2 d ?_
        rw [hsplit, List.getLast?_append, List.getLast?_cons, Option.some_or] at hd
        rw [List.getLast?_cons, hd]

/-! ## Separators -/

lemma pieces_of_notMem {sep : Char} {cs : List Char} (h : sep ∉ cs) : pieces sep cs = [cs] := by
  induction cs with
  | nil => rfl
  | cons c rest ih =>
      obtain ⟨hc, hrest⟩ := not_or.mp (mt List.mem_cons.mpr h)
      rw [pieces, if_neg (Ne.symm hc), ih hrest]

/-- What stands before the first separator is the first piece. -/
lemma pieces_append {sep : Char} {cs : List Char} (h : sep ∉ cs) (rest : List Char) :
    pieces sep (cs ++ sep :: rest) = cs :: pieces sep rest := by
  induction cs with
  | nil => rw [List.nil_append, pieces, if_pos rfl]
  | cons c cs ih =>
      obtain ⟨hc, hcs⟩ := not_or.mp (mt List.mem_cons.mpr h)
      rw [List.cons_append, pieces, if_neg (Ne.symm hc), ih hcs]

lemma splitFirst_append {sep : Char} {cs : List Char} (h : sep ∉ cs) (rest : List Char) :
    splitFirst sep (cs ++ sep :: rest) = some (cs, rest) := by
  induction cs with
  | nil => rw [List.nil_append, splitFirst, if_pos rfl]
  | cons c cs ih =>
      obtain ⟨hc, hcs⟩ := not_or.mp (mt List.mem_cons.mpr h)
      rw [List.cons_append, splitFirst, if_neg (Ne.symm hc), ih hcs]
      rfl

lemma notMem_of_mem_pieces {sep : Char} {cs piece : List Char} (h : piece ∈ pieces sep cs) :
    sep ∉ piece := by
  induction cs generalizing piece with
  | nil =>
      obtain rfl := List.mem_singleton.mp h
      exact List.not_mem_nil
  | cons c rest ih =>
      rw [pieces] at h
      split at h
      · rcases List.mem_cons.mp h with rfl | h
        · exact List.not_mem_nil
        · exact ih h
      · next hc =>
          split at h
          · next hnil => exact absurd hnil (pieces_ne_nil sep rest)
          · next p ps hpieces =>
              rw [hpieces] at ih
              rcases List.mem_cons.mp h with rfl | h
              · simp [Ne.symm hc, ih List.mem_cons_self]
              · exact ih (List.mem_cons_of_mem p h)

lemma eq_append_of_splitFirst {sep : Char} {cs before after : List Char}
    (h : splitFirst sep cs = some (before, after)) : cs = before ++ sep :: after := by
  induction cs generalizing before with
  | nil => cases h
  | cons c rest ih =>
      rw [splitFirst] at h
      split at h
      · next hc =>
          cases h
          rw [hc, List.nil_append]
      · obtain ⟨⟨start, after⟩, hsplit, hpair⟩ := Option.map_eq_some_iff.mp h
        cases hpair
        rw [List.cons_append, ← ih hsplit]

/-! ## Integers -/

lemma toList_toString_int (n : Int) :
    (toString n).toList = (if n < 0 then ['-'] else []) ++ Nat.toDigits 10 n.natAbs := by
  cases n with
  | ofNat m => exact Nat.toList_repr
  | negSucc m =>
      have hneg : Int.negSucc m < 0 := Int.negSucc_lt_zero m
      rw [if_pos hneg]
      exact (String.toList_append (s := "-")).trans (congrArg ('-' :: ·) Nat.toList_repr)

lemma isDigit_of_mem_toDigits {n : Nat} {c : Char} (h : c ∈ Nat.toDigits 10 n) : c.isDigit :=
  Nat.isDigit_of_mem_toDigits (by decide) (by decide) h

lemma mem_toString_int {n : Int} {c : Char} (h : c ∈ (toString n).toList) :
    c = '-' ∨ c.isDigit := by
  rw [toList_toString_int, List.mem_append] at h
  rcases h with h | h
  · split at h
    · exact .inl (List.mem_singleton.mp h)
    · cases h
  · exact .inr (isDigit_of_mem_toDigits h)

lemma isDigits_toDigits (n : Nat) : isDigits (Nat.toDigits 10 n) := by
  have hall : (Nat.toDigits 10 n).all Char.isDigit :=
    List.all_eq_true.mpr fun c hc => isDigit_of_mem_toDigits hc
  have hne : Nat.toDigits 10 n ≠ [] := Nat.toDigits_ne_nil
  simp [isDigits, hall, hne]

lemma digitsValue_toDigits (n : Nat) : digitsValue (Nat.toDigits 10 n) = n := by
  have hfold : digitsValue (Nat.toDigits 10 n) = Nat.ofDigitChars 10 (Nat.toDigits 10 n) 0 := by
    simp only [digitsValue, Nat.ofDigitChars, Nat.mul_comm]
  rw [hfold, Nat.ofDigitChars_ten_toDigits]

/-- A sign is no digit. -/
lemma ne_cons_of_isDigits {c : Char} (hc : c.isDigit = false) {ds : List Char} (h : isDigits ds)
    (rest : List Char) : ds ≠ c :: rest := by
  rintro rfl
  simp [isDigits, hc] at h

/-- Integers are told by their decimal digits. -/
lemma toString_int_inj {m n : Int} (h : toString m = toString n) : m = n := by
  have hchars := congrArg String.toList h
  rw [toList_toString_int, toList_toString_int] at hchars
  have hdigits : Nat.toDigits 10 m.natAbs = Nat.toDigits 10 n.natAbs → m.natAbs = n.natAbs := by
    intro heq
    rw [← digitsValue_toDigits m.natAbs, heq, digitsValue_toDigits]
  by_cases hm : m < 0 <;> by_cases hn : n < 0
  · rw [if_pos hm, if_pos hn] at hchars
    have habs := hdigits (List.append_cancel_left hchars)
    omega
  · rw [if_pos hm, if_neg hn] at hchars
    exact absurd hchars.symm (ne_cons_of_isDigits rfl (isDigits_toDigits _) _)
  · rw [if_neg hm, if_pos hn] at hchars
    exact absurd hchars (ne_cons_of_isDigits rfl (isDigits_toDigits _) _)
  · rw [if_neg hm, if_neg hn] at hchars
    have habs := hdigits hchars
    omega

/-- An integer of 64 bits. -/
def IsInt64 (n : Int) : Prop := -(Nat.pow 2 63 : Int) ≤ n ∧ n < (Nat.pow 2 63 : Int)

instance (n : Int) : Decidable (IsInt64 n) := inferInstanceAs (Decidable (_ ∧ _))

/-- **An integer of 64 bits** is read back from its decimal digits. -/
lemma int64?_toString {n : Int} (hrange : IsInt64 n) : int64? (toString n).toList = some n := by
  have hdigits := isDigits_toDigits n.natAbs
  have hvalue := digitsValue_toDigits n.natAbs
  rw [toList_toString_int]
  by_cases hneg : n < 0
  · have habs : -(n.natAbs : Int) = n := by omega
    rw [if_pos hneg, List.singleton_append, int64?]
    simp only [hdigits, hvalue, if_true, habs]
    exact if_pos hrange
  · have habs : (n.natAbs : Int) = n := by omega
    rw [if_neg hneg, List.nil_append, int64?]
    · simp only [hdigits, hvalue, if_true, Bool.false_eq_true, if_false, habs]
      exact if_pos hrange
    · exact ne_cons_of_isDigits rfl hdigits
    · exact ne_cons_of_isDigits rfl hdigits

end ContentSync.Text
