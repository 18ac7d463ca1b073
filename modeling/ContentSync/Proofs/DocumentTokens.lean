import ContentSync.GraphQL.Printer
import ContentSync.Proofs.QuotedTexts
import ContentSync.Proofs.TextPieces

/-!
# The tokens of GraphQL text

What a GraphQL text consists of before its structure is looked at: punctuators, names, numbers and
texts, with blanks, commas and comments between them.  A token is as long as possible, and a number
is not followed by anything that could go on with it.

* `Token` — numbers and texts are tokens by their value.
* `nextToken` — the token at the start of a text.
* `tokens` — the tokens of a whole text.
-/

namespace ContentSync.GraphQL.Syntax

/-- A token. -/
inductive Token where
  | bang
  | dollar
  | ampersand
  | openParen
  | closeParen
  | spread
  | colon
  | equals
  | at
  | openBracket
  | closeBracket
  | openBrace
  | pipe
  | closeBrace
  | name (text : String)
  | int (value : Int)
  | float (value : Binary64)
  | text (value : String)
  deriving DecidableEq

/-! ## Characters -/

/-- What a name begins with. -/
def isNameStart (c : Char) : Bool := c.isAlpha || c = '_'

/-- What a name goes on with. -/
def isNameContinue (c : Char) : Bool := isNameStart c || c.isDigit

/-- Blanks, ends of lines, commas and the mark of the byte order stand between tokens. -/
def isIgnored (c : Char) : Bool :=
  c = ' ' || c = '\n' || c = ',' || c = '\t' || c = '\r' || c.toNat = 0xFEFF

/-- Skips what stands between tokens; a comment goes on to the end of its line. -/
def skipIgnored : (comment : Bool) → List Char → List Char
  | _, [] => []
  | true, c :: rest => skipIgnored (c != '\n' && c != '\r') rest
  | false, c :: rest =>
      if isIgnored c then skipIgnored false rest
      else if c = '#' then skipIgnored true rest
      else c :: rest

/-- The punctuators of one character. -/
def punctuator? : Char → Option Token
  | '!' => some .bang
  | '$' => some .dollar
  | '&' => some .ampersand
  | '(' => some .openParen
  | ')' => some .closeParen
  | ':' => some .colon
  | '=' => some .equals
  | '@' => some .at
  | '[' => some .openBracket
  | ']' => some .closeBracket
  | '\x7b' => some .openBrace
  | '|' => some .pipe
  | '\x7d' => some .closeBrace
  | _ => none

/-! ## Numbers -/

/-- The number that decimal digits spell. -/
def digitsValue (ds : List Nat) : Nat := ds.foldl (fun n d => 10 * n + d) 0

/-- A magnitude with its sign. -/
def signed (negative : Bool) (n : Nat) : Int := if negative then -n else n

/-- The power of ten that the digits of a spelled number count. -/
def decimalExponent (n : Json.Numeral) : Int :=
  (match n.exponent with
    | none => 0
    | some (negative, ds) => signed negative (digitsValue ds)) - (n.point.getD []).length

/-- The floating point number nearest to a spelled number. -/
def nearest (n : Json.Numeral) : Binary64 :=
  .ofRatio n.negative
    (digitsValue (n.whole ++ n.point.getD []) * Nat.pow 10 (decimalExponent n).toNat)
    (Nat.pow 10 (-decimalExponent n).toNat)

/-- The token of a spelled number: one without point and exponent is an integer. -/
def numberToken (n : Json.Numeral) : Token :=
  if n.point.isNone && n.exponent.isNone then .int (signed n.negative (digitsValue n.whole))
  else .float (nearest n)

/-- Whether a number would go on here. -/
def numberGoesOn : List Char → Bool
  | [] => false
  | c :: _ => c.isDigit || c = '.' || isNameStart c

/-- A number after its sign. -/
def lexNumber (negative : Bool) (cs : List Char) : Option (Token × List Char) :=
  match Json.lexNumber negative cs with
  | none => none
  | some (n, rest) => if numberGoesOn rest then none else some (numberToken n, rest)

/-! ## Texts -/

/-- A text after its opening quote, as the code points it spells; those of two escapes may be the
halves of a surrogate pair. -/
def lexText : List Char → Option (List Nat × List Char)
  | [] => none
  | '"' :: rest => some ([], rest)
  | '\\' :: 'u' :: a :: b :: c :: d :: rest =>
      match Json.hexValue4? a b c d, lexText rest with
      | some n, some (points, rest') => some (n :: points, rest')
      | _, _ => none
  | '\\' :: e :: rest =>
      match Json.shortEscape? e, lexText rest with
      | some c, some (points, rest') => some (c.toNat :: points, rest')
      | _, _ => none
  | c :: rest =>
      if c = '\\' ∨ c = '\n' ∨ c = '\r' then none
      else (lexText rest).map fun p => (c.toNat :: p.1, p.2)

/-- The first half of a surrogate pair. -/
def isHighHalf (n : Nat) : Bool := 0xD800 ≤ n && n ≤ 0xDBFF

/-- The second half of a surrogate pair. -/
def isLowHalf (n : Nat) : Bool := 0xDC00 ≤ n && n ≤ 0xDFFF

/-- The characters of code points; absent when half a surrogate pair stands alone. -/
def scalars? : List Nat → Option (List Char)
  | [] => some []
  | [n] => if isHighHalf n || isLowHalf n then none else some [Char.ofNat n]
  | n :: m :: rest =>
      if isHighHalf n && isLowHalf m then
        (scalars? rest).map (Char.ofNat (0x10000 + (n - 0xD800) * 0x400 + (m - 0xDC00)) :: ·)
      else if isHighHalf n || isLowHalf n then none
      else (scalars? (m :: rest)).map (Char.ofNat n :: ·)

/-- A block of text after its three opening quotes, as it is spelled. -/
def lexBlock : List Char → Option (List Char × List Char)
  | [] => none
  | '"' :: '"' :: '"' :: rest => some ([], rest)
  | '\\' :: '"' :: '"' :: '"' :: rest =>
      (lexBlock rest).map fun p => ('"' :: '"' :: '"' :: p.1, p.2)
  | c :: rest => (lexBlock rest).map fun p => (c :: p.1, p.2)

/-- The lines of a text. -/
def lines : List Char → List (List Char)
  | [] => [[]]
  | '\r' :: '\n' :: rest => [] :: lines rest
  | c :: rest =>
      if c = '\n' ∨ c = '\r' then [] :: lines rest
      else
        match lines rest with
        | [] => [[c]]
        | line :: others => (c :: line) :: others

/-- Whether a character may indent a line. -/
def isIndent (c : Char) : Bool := c = ' ' || c = '\t'

/-- The indent that all lines but the first have in common, blank lines aside. -/
def commonIndent (ls : List (List Char)) : Nat :=
  let indented := (ls.drop 1).filter fun l => !l.all isIndent
  (indented.map fun l => (l.takeWhile isIndent).length).min?.getD 0

/-- **What a block of text means**: without the common indent and the blank lines at either end. -/
def blockValue (raw : List Char) : List Char :=
  let ls := lines raw
  let shifted := ls.take 1 ++ (ls.drop 1).map (List.drop (commonIndent ls))
  let begun := shifted.dropWhile fun l => l.all isIndent
  let ended := begun.reverse.dropWhile fun l => l.all isIndent
  ['\n'].intercalate ended.reverse

/-! ## Tokens -/

/-- The token at the start of a text. -/
def nextToken : List Char → Option (Token × List Char)
  | [] => none
  | '.' :: '.' :: '.' :: rest => some (.spread, rest)
  | '"' :: '"' :: '"' :: rest =>
      (lexBlock rest).map fun p => (.text (String.ofList (blockValue p.1)), p.2)
  | '"' :: rest =>
      (lexText rest).bind fun p => (scalars? p.1).map fun s => (.text (String.ofList s), p.2)
  | '-' :: rest => lexNumber true rest
  | c :: rest =>
      if c.isDigit then lexNumber false (c :: rest)
      else if isNameStart c then
        some (.name (String.ofList ((c :: rest).takeWhile isNameContinue)),
          (c :: rest).dropWhile isNameContinue)
      else (punctuator? c).map fun t => (t, rest)

lemma skipIgnored_length : ∀ (comment : Bool) (cs : List Char),
    (skipIgnored comment cs).length ≤ cs.length
  | true, [] => Nat.le_refl _
  | false, [] => Nat.le_refl _
  | true, c :: rest => Nat.le_succ_of_le (skipIgnored_length _ rest)
  | false, c :: rest => by
      rw [skipIgnored]
      split
      · exact Nat.le_succ_of_le (skipIgnored_length _ rest)
      · split
        · exact Nat.le_succ_of_le (skipIgnored_length _ rest)
        · exact Nat.le_refl _

lemma lexNumber_shorter {negative : Bool} {cs rest : List Char} {t : Token}
    (h : lexNumber negative cs = some (t, rest)) : rest.length < cs.length := by
  rw [lexNumber] at h
  split at h
  · cases h
  · next n rest' hlex =>
      split at h
      · cases h
      · cases h
        exact Json.lexNumber_shorter hlex

lemma lexText_shorter {cs rest : List Char} {points : List Nat}
    (h : lexText cs = some (points, rest)) : rest.length < cs.length := by
  fun_induction lexText cs generalizing points rest <;>
    simp only [List.length_cons, List.length_nil] <;> grind [Option.map_eq_some_iff]

lemma lexBlock_shorter {cs rest raw : List Char}
    (h : lexBlock cs = some (raw, rest)) : rest.length < cs.length := by
  fun_induction lexBlock cs generalizing raw rest <;>
    simp only [List.length_cons, List.length_nil] <;> grind [Option.map_eq_some_iff]

lemma nextToken_shorter {cs rest : List Char} {t : Token} (h : nextToken cs = some (t, rest)) :
    rest.length < cs.length := by
  unfold nextToken at h
  split at h
  · cases h
  · cases h
    simp only [List.length_cons]
    omega
  · obtain ⟨p, hp, hpair⟩ := Option.map_eq_some_iff.mp h
    cases hpair
    have hlt := lexBlock_shorter hp
    simp only [List.length_cons]
    omega
  · obtain ⟨p, hp, hs⟩ := Option.bind_eq_some_iff.mp h
    obtain ⟨s, -, hpair⟩ := Option.map_eq_some_iff.mp hs
    cases hpair
    exact Nat.lt_succ_of_lt (lexText_shorter hp)
  · exact Nat.lt_succ_of_lt (lexNumber_shorter h)
  · next c cs' _ _ _ _ =>
      split at h
      · exact lexNumber_shorter h
      · split at h
        · next hstart =>
            cases h
            have hcontinue : isNameContinue c = true := by
              rw [isNameContinue, hstart, Bool.true_or]
            rw [List.dropWhile_cons_of_pos hcontinue]
            exact Nat.lt_succ_of_le (List.dropWhile_sublist _).length_le
        · obtain ⟨t', -, hpair⟩ := Option.map_eq_some_iff.mp h
          cases hpair
          exact Nat.lt_succ_self _

/-- **The tokens of a text.** -/
def tokens (cs : List Char) : Option (List Token) :=
  match hskip : skipIgnored false cs with
  | [] => some []
  | c :: rest =>
      match hnext : nextToken (c :: rest) with
      | none => none
      | some (t, rest') =>
          have := nextToken_shorter hnext
          have := hskip ▸ skipIgnored_length false cs
          (tokens rest').map (t :: ·)
termination_by cs.length
decreasing_by omega

/-! ## Reading one token after another -/

/-- Whether names, numbers and texts end before this. -/
def endsToken : List Char → Bool
  | [] => true
  | c :: _ => !(c.isDigit || c = '.' || isNameStart c || c = '"')

lemma tokens_eq (cs : List Char) :
    tokens cs =
      match skipIgnored false cs with
      | [] => some []
      | c :: rest => (nextToken (c :: rest)).bind fun p => (tokens p.2).map (p.1 :: ·) := by
  rw [tokens]
  split
  · next hskip => rw [hskip]
  · next c rest hskip =>
      split
      · next hnext => simp only [hskip, hnext, Option.bind_none]
      · next t rest' hnext => simp only [hskip, hnext, Option.bind_some]

lemma tokens_nil : tokens [] = some [] := by
  rw [tokens_eq]
  rfl

lemma tokens_ignored {c : Char} (h : isIgnored c) (rest : List Char) :
    tokens (c :: rest) = tokens rest := by
  rw [tokens_eq, tokens_eq rest, skipIgnored, if_pos h]

lemma tokens_cons {c : Char} {rest rest' : List Char} {t : Token}
    (hskip : skipIgnored false (c :: rest) = c :: rest)
    (hnext : nextToken (c :: rest) = some (t, rest')) :
    tokens (c :: rest) = (tokens rest').map (t :: ·) := by
  rw [tokens_eq, hskip]
  dsimp only
  rw [hnext, Option.bind_some]

lemma tokens_punctuator {c : Char} {t : Token} (h : punctuator? c = some t) (rest : List Char) :
    tokens (c :: rest) = (tokens rest).map (t :: ·) := by
  unfold punctuator? at h
  split at h <;> cases h <;> exact tokens_cons rfl rfl

lemma tokens_spread (rest : List Char) :
    tokens ('.' :: '.' :: '.' :: rest) = (tokens rest).map (.spread :: ·) :=
  tokens_cons rfl rfl

/-! ### Names -/

/-- A name begins with a letter or an underscore and goes on with these and digits. -/
def IsName (s : String) : Prop :=
  ∃ c rest, s.toList = c :: rest ∧ isNameStart c ∧ ∀ d ∈ rest, isNameContinue d

instance (s : String) : Decidable (IsName s) :=
  decidable_of_iff ((match s.toList with
      | [] => false
      | c :: rest => isNameStart c && rest.all isNameContinue) = true) <| by
    rw [IsName]
    cases s.toList with
    | nil => simp
    | cons c rest =>
        rw [Bool.and_eq_true, List.all_eq_true]
        constructor
        · exact fun h => ⟨c, rest, rfl, h⟩
        · rintro ⟨d, rest', ⟨⟩, h⟩
          exact h

/-- What stands between tokens begins none. -/
lemma skipIgnored_of_begins {c : Char} {p : Char → Bool} (h : p c)
    (hp : [' ', '\n', ',', '\t', '\r', Char.ofNat 0xFEFF, '#'].all fun d => !p d)
    (rest : List Char) : skipIgnored false (c :: rest) = c :: rest := by
  have hne : ∀ d ∈ [' ', '\n', ',', '\t', '\r', Char.ofNat 0xFEFF, '#'], c ≠ d := by
    rintro d hd rfl
    have hfalse := List.all_eq_true.mp hp c hd
    rw [h] at hfalse
    exact Bool.false_ne_true hfalse
  simp only [List.forall_mem_cons] at hne
  obtain ⟨h1, h2, h3, h4, h5, h6, h7, -⟩ := hne
  have hmark : c.toNat ≠ 0xFEFF := fun hmark => h6 (by rw [← hmark, Char.ofNat_toNat])
  have hignored : isIgnored c = false := by
    simp only [isIgnored, h1, h2, h3, h4, h5, hmark, decide_false, Bool.or_false]
  rw [skipIgnored, hignored, if_neg Bool.false_ne_true, if_neg h7]

lemma not_isDigit_of_isNameStart {c : Char} (h : isNameStart c) : c.isDigit = false := by
  cases hdigit : c.isDigit with
  | false => rfl
  | true =>
      have hletter : (decide ('A'.val ≤ c.val ∧ c.val ≤ 'Z'.val) ||
          (decide ('a'.val ≤ c.val) && decide (c.val ≤ 'z'.val)) || decide (c = '_')) = true := h
      simp only [Bool.or_eq_true, Bool.and_eq_true, decide_eq_true_eq, UInt32.le_iff_toNat_le]
        at hletter
      simp only [Char.isDigit, Bool.and_eq_true, decide_eq_true_eq, UInt32.le_iff_toNat_le]
        at hdigit
      have h0 : '9'.val.toNat = 57 := rfl
      have hA : 'A'.val.toNat = 65 := rfl
      have ha : 'a'.val.toNat = 97 := rfl
      rcases hletter with hletter | rfl
      · omega
      · exact absurd hdigit (by decide)

lemma nextToken_nameStart {c : Char} (h : isNameStart c) (rest : List Char) :
    nextToken (c :: rest) =
      some (.name (String.ofList ((c :: rest).takeWhile isNameContinue)),
        (c :: rest).dropWhile isNameContinue) := by
  have hdigit := not_isDigit_of_isNameStart h
  unfold nextToken
  split
  · next heq => cases heq
  · next heq => cases heq; exact absurd h (by decide)
  · next heq => cases heq; exact absurd h (by decide)
  · next heq => cases heq; exact absurd h (by decide)
  · next heq => cases heq; exact absurd h (by decide)
  · next heq =>
      cases heq
      rw [hdigit, h]
      rfl

lemma not_isNameContinue_of_endsToken {rest : List Char} (h : endsToken rest) :
    ∀ c ∈ rest.head?, isNameContinue c = false := by
  intro c hc
  cases rest with
  | nil => cases hc
  | cons d rest =>
      cases hc
      simp only [endsToken, Bool.not_eq_true', Bool.or_eq_false_iff] at h
      rw [isNameContinue, h.1.2, h.1.1.1]
      rfl

lemma takeWhile_append {p : Char → Bool} {cs rest : List Char} (hcs : ∀ c ∈ cs, p c)
    (hrest : ∀ c ∈ rest.head?, p c = false) : (cs ++ rest).takeWhile p = cs := by
  rw [List.takeWhile_append_of_pos hcs]
  cases rest with
  | nil => exact List.append_nil cs
  | cons c rest =>
      rw [List.takeWhile_cons_of_neg (Bool.eq_false_iff.mp (hrest c rfl)), List.append_nil]

lemma dropWhile_append {p : Char → Bool} {cs rest : List Char} (hcs : ∀ c ∈ cs, p c)
    (hrest : ∀ c ∈ rest.head?, p c = false) : (cs ++ rest).dropWhile p = rest := by
  rw [List.dropWhile_append_of_pos hcs]
  cases rest with
  | nil => rfl
  | cons c rest => exact List.dropWhile_cons_of_neg (Bool.eq_false_iff.mp (hrest c rfl))

/-- A name is read up to where it ends. -/
theorem tokens_name {s : String} (hs : IsName s) {rest : List Char} (hrest : endsToken rest) :
    tokens (s.toList ++ rest) = (tokens rest).map (.name s :: ·) := by
  obtain ⟨c, cs, hlist, hstart, hcontinue⟩ := hs
  have hall : ∀ d ∈ c :: cs, isNameContinue d := by
    intro d hd
    rcases List.mem_cons.mp hd with rfl | hd
    · rw [isNameContinue, hstart]
      rfl
    · exact hcontinue d hd
  have hnext : nextToken (c :: (cs ++ rest)) = some (.name s, rest) := by
    rw [nextToken_nameStart hstart, ← List.cons_append,
      takeWhile_append hall (not_isNameContinue_of_endsToken hrest),
      dropWhile_append hall (not_isNameContinue_of_endsToken hrest), ← hlist, String.ofList_toList]
  rw [hlist, List.cons_append]
  exact tokens_cons (skipIgnored_of_begins hstart (by decide) _) hnext

/-! ### Numbers -/

lemma digitsValue_map (cs : List Char) :
    digitsValue (cs.map Json.digitValue) = Nat.ofDigitChars 10 cs 0 := by
  rw [digitsValue, List.foldl_map]
  rfl

/-- Decimal digits, at least one. -/
structure IsDigits (ds : List Char) : Prop where
  all : ∀ c ∈ ds, c.isDigit
  nonempty : ds ≠ []

/-- A number without its sign as it is spelled; the exponent has a sign of its own. -/
structure Spelling where
  whole : List Char
  point : Option (List Char)
  exponent : Option (List Char × List Char)

/-- The signs of an exponent. -/
def IsSign (sign : List Char) : Prop := sign = [] ∨ sign = ['+'] ∨ sign = ['-']

namespace Spelling

def pointChars : Option (List Char) → List Char
  | none => []
  | some ds => '.' :: ds

def exponentChars : Option (List Char × List Char) → List Char
  | none => []
  | some (sign, ds) => 'e' :: (sign ++ ds)

def chars (n : Spelling) : List Char := n.whole ++ (pointChars n.point ++ exponentChars n.exponent)

def numeral (negative : Bool) (n : Spelling) : Json.Numeral where
  negative := negative
  whole := n.whole.map Json.digitValue
  point := n.point.map fun ds => ds.map Json.digitValue
  exponent := n.exponent.map fun e => (e.1 == ['-'], e.2.map Json.digitValue)

/-- There are digits wherever there may be some, and a zero at the front stands alone. -/
structure Valid (n : Spelling) : Prop where
  whole : IsDigits n.whole
  leading : n.whole.head? = some '0' → n.whole.length = 1
  point : ∀ ds ∈ n.point, IsDigits ds
  exponent : ∀ e ∈ n.exponent, IsSign e.1 ∧ IsDigits e.2

end Spelling

lemma lexDigits_append {ds rest : List Char} (hds : ∀ c ∈ ds, c.isDigit)
    (hrest : ∀ c ∈ rest.head?, c.isDigit = false) :
    Json.lexDigits (ds ++ rest) = (ds.map Json.digitValue, rest) := by
  rw [Json.lexDigits, takeWhile_append hds hrest, dropWhile_append hds hrest]

lemma digitValue_eq_zero {c : Char} (hc : c.isDigit) (h : Json.digitValue c = 0) : c = '0' := by
  simp only [Char.isDigit, Bool.and_eq_true, decide_eq_true_eq, UInt32.le_iff_toNat_le] at hc
  have hzero : '0'.val.toNat = 48 := rfl
  have hvalue : c.val.toNat - 48 = 0 := h
  have hval : c.val.toNat = '0'.val.toNat := by omega
  exact Char.ext (UInt32.toNat_inj.mp hval)

lemma isEmpty_map {ds : List Char} (h : ds ≠ []) : (ds.map Json.digitValue).isEmpty = false := by
  cases ds with
  | nil => exact absurd rfl h
  | cons c ds => rfl

lemma endsToken_head {rest : List Char} (h : endsToken rest) {c : Char} (hc : c ∈ rest.head?) :
    c.isDigit = false ∧ c ≠ '.' ∧ isNameStart c = false := by
  cases rest with
  | nil => cases hc
  | cons d rest =>
      cases hc
      simp only [endsToken, Bool.not_eq_true', Bool.or_eq_false_iff, decide_eq_false_iff_not] at h
      exact ⟨h.1.1.1, h.1.1.2, h.1.2⟩

/-- A sign is taken off the digits that follow it. -/
lemma lexSign_append {sign ds rest : List Char} (hsign : IsSign sign) (hds : IsDigits ds) :
    Json.lexSign (sign ++ ds ++ rest) = (sign == ['-'], ds ++ rest) := by
  rcases hsign with rfl | rfl | rfl
  · obtain ⟨d, ds, rfl⟩ := List.exists_cons_of_ne_nil hds.nonempty
    have hd : d.isDigit := hds.all d List.mem_cons_self
    rw [List.nil_append, List.cons_append]
    unfold Json.lexSign
    split
    · next heq => cases heq; exact absurd hd (by decide)
    · next heq => cases heq; exact absurd hd (by decide)
    · rfl
  · rfl
  · rfl

lemma lexExponent_append {e : Option (List Char × List Char)}
    (he : ∀ p ∈ e, IsSign p.1 ∧ IsDigits p.2) {rest : List Char} (hrest : endsToken rest) :
    Json.lexExponent (Spelling.exponentChars e ++ rest) =
      some (e.map fun p => (p.1 == ['-'], p.2.map Json.digitValue), rest) := by
  cases e with
  | none =>
      cases rest with
      | nil => rfl
      | cons c rest =>
          have hstart := (endsToken_head hrest rfl).2.2
          have hmark : ¬ (c = 'e' ∨ c = 'E') := by
            rintro (rfl | rfl)
            · exact absurd hstart (by decide)
            · exact absurd hstart (by decide)
          rw [Spelling.exponentChars, List.nil_append, Json.lexExponent, if_neg hmark]
          rfl
  | some p =>
      obtain ⟨sign, ds⟩ := p
      obtain ⟨hsign, hds⟩ := he (sign, ds) rfl
      have hdigits : Json.lexDigits (ds ++ rest) = (ds.map Json.digitValue, rest) :=
        lexDigits_append hds.all fun c hc => (endsToken_head hrest hc).1
      have hempty := isEmpty_map hds.nonempty
      dsimp only at hempty
      rw [Spelling.exponentChars, List.cons_append, Json.lexExponent, if_pos (Or.inl rfl),
        lexSign_append hsign hds, hdigits]
      dsimp only
      rw [hempty]
      rfl

lemma lexPoint_append {point : Option (List Char)} (hpoint : ∀ ds ∈ point, IsDigits ds)
    {rest : List Char} (hrest : ∀ c ∈ rest.head?, c.isDigit = false ∧ c ≠ '.') :
    Json.lexPoint (Spelling.pointChars point ++ rest) =
      some (point.map fun ds => ds.map Json.digitValue, rest) := by
  cases point with
  | none =>
      rw [Spelling.pointChars, List.nil_append]
      unfold Json.lexPoint
      split
      · next heq => exact absurd rfl (hrest '.' (by rfl)).2
      · rfl
  | some ds =>
      obtain ⟨hall, hne⟩ := hpoint ds rfl
      rw [Spelling.pointChars, List.cons_append, Json.lexPoint,
        lexDigits_append hall fun c hc => (hrest c hc).1, isEmpty_map hne]
      rfl

/-- What stands after the digits before the point is not a digit. -/
lemma head_exponentChars {e : Option (List Char × List Char)} {rest : List Char}
    (hrest : endsToken rest) :
    ∀ c ∈ (Spelling.exponentChars e ++ rest).head?, c.isDigit = false ∧ c ≠ '.' := by
  intro c hc
  cases e with
  | none => exact ⟨(endsToken_head hrest hc).1, (endsToken_head hrest hc).2.1⟩
  | some p =>
      cases hc
      exact ⟨rfl, by decide⟩

lemma lexNumber_spelling {n : Spelling} (hn : n.Valid) (negative : Bool) {rest : List Char}
    (hrest : endsToken rest) :
    Json.lexNumber negative (n.chars ++ rest) = some (n.numeral negative, rest) := by
  have hafter : ∀ c ∈ (Spelling.pointChars n.point ++
      (Spelling.exponentChars n.exponent ++ rest)).head?, c.isDigit = false := by
    intro c hc
    cases hpoint : n.point with
    | none =>
        rw [hpoint] at hc
        exact (head_exponentChars hrest c hc).1
    | some ds =>
        rw [hpoint] at hc
        cases hc
        rfl
  have hleading : ((n.whole.map Json.digitValue).head? == some 0 &&
      decide (1 < (n.whole.map Json.digitValue).length)) = false := by
    rw [Bool.and_eq_false_iff, beq_eq_false_iff_ne, decide_eq_false_iff_not, List.length_map]
    by_cases hzero : n.whole.head? = some '0'
    · exact Or.inr (by rw [hn.leading hzero]; exact Nat.lt_irrefl 1)
    · refine Or.inl fun hhead => hzero ?_
      rw [List.head?_map] at hhead
      obtain ⟨c, hc, hvalue⟩ := Option.map_eq_some_iff.mp hhead
      rw [hc, digitValue_eq_zero (hn.whole.all c (List.mem_of_mem_head? hc)) hvalue]
  rw [Spelling.chars, List.append_assoc, List.append_assoc, Json.lexNumber,
    lexDigits_append hn.whole.all hafter]
  dsimp only
  rw [isEmpty_map hn.whole.nonempty, hleading, lexPoint_append hn.point (head_exponentChars hrest)]
  dsimp only
  rw [lexExponent_append hn.exponent hrest]
  rfl

lemma nextToken_digit {c : Char} (h : c.isDigit) (rest : List Char) :
    nextToken (c :: rest) = lexNumber false (c :: rest) := by
  unfold nextToken
  split
  · next heq => cases heq
  · next heq => cases heq; exact absurd h (by decide)
  · next heq => cases heq; exact absurd h (by decide)
  · next heq => cases heq; exact absurd h (by decide)
  · next heq => cases heq; exact absurd h (by decide)
  · next heq =>
      cases heq
      rw [if_pos h]

/-- A number is read up to where it ends. -/
theorem tokens_number {n : Spelling} (hn : n.Valid) (negative : Bool) {rest : List Char}
    (hrest : endsToken rest) :
    tokens ((if negative then ['-'] else []) ++ n.chars ++ rest) =
      (tokens rest).map (numberToken (n.numeral negative) :: ·) := by
  have hends : numberGoesOn rest = false := by
    cases rest with
    | nil => rfl
    | cons c rest =>
        obtain ⟨hdigit, hpoint, hstart⟩ := endsToken_head hrest rfl
        rw [numberGoesOn, hdigit, hstart, decide_eq_false hpoint]
        rfl
  have hlex : lexNumber negative (n.chars ++ rest) =
      some (numberToken (n.numeral negative), rest) := by
    rw [lexNumber, lexNumber_spelling hn negative hrest]
    dsimp only
    rw [hends]
    rfl
  cases negative with
  | true => exact tokens_cons rfl hlex
  | false =>
      obtain ⟨c, cs, hwhole⟩ := List.exists_cons_of_ne_nil hn.whole.nonempty
      have hc : c.isDigit := hn.whole.all c (hwhole ▸ List.mem_cons_self)
      have hcons : n.chars ++ rest = c :: (cs ++ (Spelling.pointChars n.point ++
          Spelling.exponentChars n.exponent) ++ rest) := by
        rw [Spelling.chars, hwhole]
        rfl
      rw [if_neg Bool.false_ne_true, List.nil_append]
      rw [hcons] at hlex ⊢
      exact tokens_cons (skipIgnored_of_begins hc (by decide) _)
        ((nextToken_digit hc _).trans hlex)

lemma isDigits_toDigits (n : Nat) : IsDigits (Nat.toDigits 10 n) :=
  ⟨fun _ => Nat.isDigit_of_mem_toDigits (by decide) (by decide), Nat.toDigits_ne_nil⟩

/-- Only zero begins with a zero. -/
lemma toDigits_head (n : Nat) (h : (Nat.toDigits 10 n).head? = some '0') : n = 0 := by
  induction n using Nat.strongRecOn with
  | _ n ih =>
      rw [Nat.toDigits_eq_if (by decide)] at h
      split at h
      · exact Nat.digitChar_eq_zero.mp (Option.some.inj h)
      · next hn =>
          obtain ⟨c, cs, hcs⟩ :=
            List.exists_cons_of_ne_nil (isDigits_toDigits (n / 10)).nonempty
          rw [hcs] at h
          have hdiv := ih (n / 10) (by omega) (by rw [hcs]; exact h)
          omega

lemma valid_toDigits (n : Nat) : Spelling.Valid ⟨Nat.toDigits 10 n, none, none⟩ where
  whole := isDigits_toDigits n
  leading := fun h => by rw [toDigits_head n h]; rfl
  point := fun ds h => by cases h
  exponent := fun e h => by cases h

lemma signed_natAbs (n : Int) : signed (decide (n < 0)) n.natAbs = n := by
  by_cases hneg : n < 0
  · rw [decide_eq_true hneg, signed, if_pos rfl]
    omega
  · rw [decide_eq_false hneg, signed, if_neg Bool.false_ne_true]
    omega

/-- An integer is read back. -/
theorem tokens_int (n : Int) {rest : List Char} (hrest : endsToken rest) :
    tokens ((toString n).toList ++ rest) = (tokens rest).map (.int n :: ·) := by
  have hnumber := tokens_number (valid_toDigits n.natAbs) (decide (n < 0)) hrest
  have hvalue : digitsValue ((Nat.toDigits 10 n.natAbs).map Json.digitValue) = n.natAbs := by
    rw [digitsValue_map, Nat.ofDigitChars_ten_toDigits]
  have htoken : numberToken (Spelling.numeral (decide (n < 0))
      ⟨Nat.toDigits 10 n.natAbs, none, none⟩) = .int n := by
    rw [numberToken, Spelling.numeral, hvalue, signed_natAbs]
    rfl
  rw [htoken] at hnumber
  rw [Text.toList_toString_int, ← hnumber, Spelling.chars]
  simp only [Spelling.pointChars, Spelling.exponentChars, List.append_nil, decide_eq_true_eq]

/-! ### Texts -/

lemma lexText_escapeChar (c : Char) (rest : List Char) :
    lexText (escapeChar c ++ rest) = (lexText rest).map fun p => (c.toNat :: p.1, p.2) := by
  have hshort : ∀ e, Json.shortEscape? e = some c → e ≠ 'u' →
      lexText ('\\' :: e :: rest) = (lexText rest).map fun p => (c.toNat :: p.1, p.2) := by
    intro e he hu
    rw [lexText, he]
    · cases lexText rest <;> rfl
    · rintro a b c' d rest' rfl
      exact absurd rfl hu
  rw [escapeChar]
  split
  · next h => subst h; exact hshort '"' rfl (by decide)
  split
  · next h => subst h; exact hshort '\\' rfl (by decide)
  split
  · next h => subst h; exact hshort 'n' rfl (by decide)
  split
  · next h => subst h; exact hshort 'r' rfl (by decide)
  split
  · next h => subst h; exact hshort 't' rfl (by decide)
  split
  · next h =>
      have hc : c = Char.ofNat 0x08 := by rw [← h, Char.ofNat_toNat]
      exact hshort 'b' (by rw [hc]; rfl) (by decide)
  split
  · next h =>
      have hc : c = Char.ofNat 0x0C := by rw [← h, Char.ofNat_toNat]
      exact hshort 'f' (by rw [hc]; rfl) (by decide)
  split
  · next hcontrol =>
      have hlt : c.toNat < 65536 := by
        simp only [isControl, Bool.or_eq_true, Bool.and_eq_true, decide_eq_true_eq] at hcontrol
        omega
      obtain ⟨x, y, z, w, hdigits, hvalue⟩ := Json.hexValue4_hexDigits hlt
      rw [hdigits, List.cons_append, List.cons_append, List.cons_append, List.cons_append,
        List.cons_append, List.cons_append, List.nil_append, lexText, hvalue]
      cases lexText rest <;> rfl
  · next hquote hback hline hreturn _ _ _ _ =>
      rw [List.cons_append, List.nil_append, lexText]
      · rw [if_neg]
        rintro (h | h | h)
        · exact hback h
        · exact hline h
        · exact hreturn h
      · exact hquote
      · exact fun _ _ _ _ _ h => absurd h hback
      · exact fun _ _ h => absurd h hback

lemma lexText_flatMap (cs rest : List Char) :
    lexText (cs.flatMap escapeChar ++ '"' :: rest) = some (cs.map Char.toNat, rest) := by
  induction cs with
  | nil => rfl
  | cons c cs ih =>
      rw [List.flatMap_cons, List.append_assoc, lexText_escapeChar, ih]
      rfl

lemma not_isHalf (c : Char) : isHighHalf c.toNat = false ∧ isLowHalf c.toNat = false := by
  have hvalid : c.toNat < 0xD800 ∨ 0xDFFF < c.toNat ∧ c.toNat < 0x110000 := c.valid
  simp only [isHighHalf, isLowHalf, Bool.and_eq_false_iff, decide_eq_false_iff_not]
  omega

lemma scalars_map : ∀ cs : List Char, scalars? (cs.map Char.toNat) = some cs
  | [] => rfl
  | [c] => by
      obtain ⟨hhigh, hlow⟩ := not_isHalf c
      rw [List.map_cons, List.map_nil, scalars?, hhigh, hlow, Char.ofNat_toNat]
      rfl
  | c :: d :: cs => by
      obtain ⟨hhigh, hlow⟩ := not_isHalf c
      have ih := scalars_map (d :: cs)
      rw [List.map_cons] at ih
      rw [List.map_cons, List.map_cons, scalars?, hhigh, hlow, ih, Char.ofNat_toNat]
      rfl

lemma nextToken_quote {cs : List Char} (h : ∀ rest, cs ≠ '"' :: '"' :: rest) :
    nextToken ('"' :: cs) =
      (lexText cs).bind fun p => (scalars? p.1).map fun s => (.text (String.ofList s), p.2) := by
  rw [nextToken]
  exact h

/-- A character that is spelled does not begin with a quote. -/
lemma escapeChar_cons (c : Char) : ∃ d cs, escapeChar c = d :: cs ∧ d ≠ '"' := by
  rw [escapeChar]
  split
  · exact ⟨_, _, rfl, by decide⟩
  split
  · exact ⟨_, _, rfl, by decide⟩
  split
  · exact ⟨_, _, rfl, by decide⟩
  split
  · exact ⟨_, _, rfl, by decide⟩
  split
  · exact ⟨_, _, rfl, by decide⟩
  split
  · exact ⟨_, _, rfl, by decide⟩
  split
  · exact ⟨_, _, rfl, by decide⟩
  split
  · exact ⟨_, _, rfl, by decide⟩
  · next hquote _ _ _ _ _ _ _ => exact ⟨_, _, rfl, hquote⟩

/-- A text is read back, whatever characters it holds. -/
theorem tokens_text (s : String) {rest : List Char} (hrest : endsToken rest) :
    tokens (renderText s ++ rest) = (tokens rest).map (.text s :: ·) := by
  have hbody : ∀ rest', s.toList.flatMap escapeChar ++ '"' :: rest ≠ '"' :: '"' :: rest' := by
    intro rest' heq
    cases hs : s.toList with
    | nil =>
        rw [hs] at heq
        cases heq
        exact absurd hrest Bool.false_ne_true
    | cons c cs =>
        obtain ⟨d, ds, hescape, hne⟩ := escapeChar_cons c
        rw [hs, List.flatMap_cons, hescape] at heq
        exact hne (List.cons.inj heq).1
  have hrender : renderText s ++ rest = '"' :: (s.toList.flatMap escapeChar ++ '"' :: rest) := by
    rw [renderText, List.append_assoc]
    rfl
  rw [hrender]
  refine tokens_cons rfl ?_
  rw [nextToken_quote hbody, lexText_flatMap, Option.bind_some, scalars_map, Option.map_some,
    String.ofList_toList]

end ContentSync.GraphQL.Syntax
