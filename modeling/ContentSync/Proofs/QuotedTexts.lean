import ContentSync.Json.Parser
import ContentSync.Json.Printer
import Mathlib.Tactic.Lemma

/-!
# Quoted texts of JSON

A text between quotes ends where it says it ends: whatever characters it holds, reading gives them
back and stops at the closing quote.  So of two texts that begin with a quoted one, neither can pass
for the other.

* `lexText_flatMap` — a quoted text is read back, whatever follows it.
* `quoteChars_append_inj` — what is quoted and what follows it are told by the characters.
-/

namespace ContentSync.Json

/-! ## Hexadecimal digits -/

lemma hexValue_digitChar : ∀ d, d < 16 → hexValue? (Nat.digitChar d) = some d := by
  decide

lemma hexValue4_hexDigits {n : Nat} (h : n < 65536) :
    ∃ a b c d, hexDigits 4 n = [a, b, c, d] ∧ hexValue4? a b c d = some n := by
  refine ⟨Nat.digitChar (n / 16 / 16 / 16 % 16), Nat.digitChar (n / 16 / 16 % 16),
    Nat.digitChar (n / 16 % 16), Nat.digitChar (n % 16), rfl, ?_⟩
  rw [hexValue4?, hexValue_digitChar _ (Nat.mod_lt _ (by decide)),
    hexValue_digitChar _ (Nat.mod_lt _ (by decide)),
    hexValue_digitChar _ (Nat.mod_lt _ (by decide)),
    hexValue_digitChar _ (Nat.mod_lt _ (by decide))]
  dsimp only
  congr 1
  omega

/-! ## Reading back -/

/-- A character is read back from its spelling.  The cases are those of `escapeChar`. -/
lemma lexText_escapeChar (c : Char) (rest acc : List Char) (fit : Bool) :
    lexText (escapeChar c ++ rest) acc fit = lexText rest (c :: acc) fit := by
  have hshort : ∀ e, shortEscape? e = some c → e ≠ 'u' →
      lexText ('\\' :: e :: rest) acc fit = lexText rest (c :: acc) fit := by
    intro e he hu
    rw [lexText, he]
    rintro a b c' d rest' rfl
    exact absurd rfl hu
  rw [escapeChar]
  split
  · next h => subst h; exact hshort '"' rfl (by decide)
  split
  · next h => subst h; exact hshort '\\' rfl (by decide)
  split
  · next h => subst h; exact hshort 'n' rfl (by decide)
  split
  · next h => subst h; exact hshort 'r' rfl (by decide)
  split
  · next h => subst h; exact hshort 't' rfl (by decide)
  split
  · next h =>
      have hc : c = Char.ofNat 0x08 := by rw [← h, Char.ofNat_toNat]
      exact hshort 'b' (by rw [hc]; rfl) (by decide)
  split
  · next h =>
      have hc : c = Char.ofNat 0x0C := by rw [← h, Char.ofNat_toNat]
      exact hshort 'f' (by rw [hc]; rfl) (by decide)
  split
  · next hcontrol =>
      obtain ⟨x, y, z, w, hdigits, hvalue⟩ := hexValue4_hexDigits (by omega : c.toNat < 65536)
      rw [hdigits]
      simp only [List.cons_append, List.nil_append]
      rw [lexText, hvalue]
      dsimp only
      rw [if_neg (by omega), if_neg (by omega), Char.ofNat_toNat]
  · next hquote hback _ _ _ _ _ hcontrol =>
      rw [List.cons_append, List.nil_append, lexText]
      · rw [if_neg (by simp [hcontrol, hback])]
      · exact hquote
      · exact fun _ _ _ _ _ h => absurd h hback
      · exact fun _ _ h => absurd h hback

/-- **A quoted text is read back**, and what follows it is left. -/
lemma lexText_flatMap (cs rest acc : List Char) (fit : Bool) :
    lexText (cs.flatMap escapeChar ++ '"' :: rest) acc fit =
      some (if fit then some (String.ofList (acc.reverse ++ cs)) else none, rest) := by
  induction cs generalizing acc with
  | nil => rw [List.flatMap_nil, List.nil_append, lexText, List.append_nil]
  | cons c cs ih =>
      rw [List.flatMap_cons, List.append_assoc, lexText_escapeChar, ih, List.reverse_cons,
        List.append_assoc, List.singleton_append]

/-- **A quoted text ends where it says it ends**: from a text that begins with one, it can be told
what is quoted and what follows. -/
lemma quoteChars_append_inj {cs cs' rest rest' : List Char}
    (h : quoteChars cs ++ rest = quoteChars cs' ++ rest') : cs = cs' ∧ rest = rest' := by
  have hsplit : ∀ ds tail : List Char,
      quoteChars ds ++ tail = '"' :: (ds.flatMap escapeChar ++ '"' :: tail) := by
    intro ds tail
    rw [quoteChars, List.append_assoc, List.singleton_append, List.cons_append]
  rw [hsplit, hsplit] at h
  have hread := congrArg (lexText · [] true) (List.cons.inj h).2
  simp only [lexText_flatMap, if_true, Option.some.injEq, Prod.mk.injEq, List.reverse_nil,
    List.nil_append] at hread
  exact ⟨String.ofList_inj.mp hread.1, hread.2⟩

end ContentSync.Json
