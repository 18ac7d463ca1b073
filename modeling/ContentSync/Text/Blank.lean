/-!
# Blank characters

A character is *blank* when it has the Unicode property `White_Space`: the five control characters
from tab to carriage return, the space, next line, the no-break spaces, the typographic spaces and
the two separators.  Header parts, tokens and dates are trimmed of blanks at both ends.

Main statements: `isBlank_of_isWhitespace` (ASCII white space is blank) and
`trimList_eq_self_iff` (trimming changes nothing exactly when neither end is blank).
-/

namespace ContentSync.Text

/-- The property `White_Space`. -/
def isBlank (c : Char) : Bool :=
  let n := c.toNat
  (0x09 ≤ n && n ≤ 0x0D) || n == 0x20 || n == 0x85 || n == 0xA0 || n == 0x1680 ||
    (0x2000 ≤ n && n ≤ 0x200A) || n == 0x2028 || n == 0x2029 || n == 0x202F || n == 0x205F ||
    n == 0x3000

/-- Every ASCII white space character is blank. -/
theorem isBlank_of_isWhitespace {c : Char} (h : c.isWhitespace = true) : isBlank c = true := by
  simp only [Char.isWhitespace, Bool.or_eq_true, decide_eq_true_eq] at h
  rcases h with ((rfl | rfl) | rfl) | rfl <;> decide

/-- Drops the blanks at the start. -/
def trimStart (cs : List Char) : List Char := cs.dropWhile isBlank

/-- Drops the blanks at the end. -/
def trimEnd (cs : List Char) : List Char := (cs.reverse.dropWhile isBlank).reverse

/-- Drops the blanks at both ends. -/
def trimList (cs : List Char) : List Char := trimEnd (trimStart cs)

/-- A text without the blanks at its two ends. -/
def trim (s : String) : String := String.ofList (trimList s.toList)

/-- Neither the first nor the last character is blank. -/
def BlankFreeEnds (cs : List Char) : Prop :=
  (∀ c, cs.head? = some c → isBlank c = false) ∧ (∀ c, cs.getLast? = some c → isBlank c = false)

theorem dropWhile_eq_self_iff {p : Char → Bool} {cs : List Char} :
    cs.dropWhile p = cs ↔ ∀ c, cs.head? = some c → p c = false := by
  cases cs with
  | nil => simp
  | cons c rest =>
    by_cases h : p c = true
    · have hlen : (rest.dropWhile p).length ≤ rest.length := (List.dropWhile_sublist p).length_le
      constructor
      · intro he
        rw [List.dropWhile_cons_of_pos h] at he
        have := congrArg List.length he
        simp only [List.length_cons] at this
        omega
      · intro hc
        have := hc c rfl
        simp [h] at this
    · simp [h]

/-- **Trimming changes nothing exactly when neither end is blank.** -/
theorem trimList_eq_self_iff {cs : List Char} : trimList cs = cs ↔ BlankFreeEnds cs := by
  have hstart : (trimStart cs).length ≤ cs.length := (List.dropWhile_sublist isBlank).length_le
  have hend : ∀ l : List Char, (trimEnd l).length ≤ l.length := fun l => by
    simpa [trimEnd] using (List.dropWhile_sublist (l := l.reverse) isBlank).length_le
  have hrev : trimEnd cs = cs ↔ ∀ c, cs.getLast? = some c → isBlank c = false := by
    rw [← List.head?_reverse, ← dropWhile_eq_self_iff, trimEnd]
    constructor
    · intro h
      have := congrArg List.reverse h
      simpa using this
    · intro h
      rw [h, List.reverse_reverse]
  constructor
  · intro h
    have h1 : trimStart cs = cs := by
      have hl : (trimStart cs).length = cs.length := by
        have := congrArg List.length h
        have h2 := hend (trimStart cs)
        simp only [trimList] at this
        omega
      exact (List.dropWhile_sublist isBlank).eq_of_length hl
    refine ⟨dropWhile_eq_self_iff.1 h1, hrev.1 ?_⟩
    have h2 : trimEnd (trimStart cs) = cs := h
    rw [h1] at h2
    exact h2
  · rintro ⟨h1, h2⟩
    have h3 : trimStart cs = cs := dropWhile_eq_self_iff.2 h1
    show trimEnd (trimStart cs) = cs
    rw [h3]
    exact hrev.2 h2

end ContentSync.Text
