import ContentSync.Proofs.FloatText
import ContentSync.Proofs.Insertion
import ContentSync.Proofs.JsonText

/-!
# JSON text read back

A reader of JSON text that gives up nothing: there is no bound on how deep a value is nested, and a
number is the one nearest to what is spelled.  It gives back every value that JSON text can denote.

* `Proper` — the values that JSON text denotes.
* `Numeral.exact` — the number nearest to a spelled one.
* `read?` — the value that a text stands for.
* `read?_render` — a value that is written is read back.
-/

namespace ContentSync.Json

open GraphQL.Syntax (Spelling digitsValue endsToken nearest signed)

/-! ## Values -/

/-- Whether an integer is read as one: it fits 64 bits, signed or unsigned. -/
def fitsWord (n : Int) : Prop := -(2 ^ 63) ≤ n ∧ n < 2 ^ 64

instance (n : Int) : Decidable (fitsWord n) := inferInstanceAs (Decidable (_ ∧ _))

/-- **The values that JSON text denotes**: integers of 64 bits, finite floating point numbers, and
objects with distinct keys. -/
inductive Proper : Json → Prop
  | null : Proper .null
  | bool (b : Bool) : Proper (.bool b)
  | int {n : Int} : fitsWord n → Proper (.number (.int n))
  | float {x : Binary64} : x.isFinite → Proper (.number (.float x))
  | string (s : String) : Proper (.string s)
  | array {items : List Json} : (∀ item ∈ items, Proper item) → Proper (.array items)
  | object {members : List (String × Json)} : (Entries.keys members).Nodup →
      (∀ m ∈ members, Proper m.2) → Proper (.object members)

/-! ## Reading -/

/-- **The number nearest to a spelled one**, an integer if it is spelled as one and fits. -/
def Numeral.exact (n : Numeral) : Number :=
  let value := signed n.negative (digitsValue n.whole)
  if n.point.isNone ∧ n.exponent.isNone ∧ fitsWord value ∧ ¬ (n.negative ∧ value = 0) then
    .int value
  else .float (nearest n)

/-- A number after its sign. -/
def readNumber (negative : Bool) (cs : List Char) : Option (Json × List Char) :=
  (lexNumber negative cs).map fun p => (.number p.1.exact, p.2)

/-- A text after its opening quote. -/
def readText (cs : List Char) : Option (String × List Char) :=
  match lexText cs [] true with
  | some (some s, rest) => some (s, rest)
  | _ => none

mutual

/-- A value off the front of a text.  `fuel` is more than the characters there are. -/
def readValue : (fuel : Nat) → List Char → Option (Json × List Char)
  | 0, _ => none
  | fuel + 1, cs =>
      match cs.dropWhile isSpace with
      | 'n' :: 'u' :: 'l' :: 'l' :: rest => some (.null, rest)
      | 't' :: 'r' :: 'u' :: 'e' :: rest => some (.bool true, rest)
      | 'f' :: 'a' :: 'l' :: 's' :: 'e' :: rest => some (.bool false, rest)
      | '"' :: rest => (readText rest).map fun p => (.string p.1, p.2)
      | '[' :: rest =>
          match rest.dropWhile isSpace with
          | ']' :: rest => some (.array [], rest)
          | rest => (readItems fuel rest).map fun p => (.array p.1, p.2)
      | '\x7b' :: rest =>
          match rest.dropWhile isSpace with
          | '\x7d' :: rest => some (.object [], rest)
          | rest => (readMembers fuel rest).map fun p => (ofMembers p.1, p.2)
      | '-' :: rest => readNumber true rest
      | rest => readNumber false rest

/-- Items up to the end of their array. -/
def readItems : (fuel : Nat) → List Char → Option (List Json × List Char)
  | 0, _ => none
  | fuel + 1, cs =>
      match readValue fuel cs with
      | none => none
      | some (v, rest) =>
          match rest.dropWhile isSpace with
          | ',' :: rest => (readItems fuel rest).map fun p => (v :: p.1, p.2)
          | ']' :: rest => some ([v], rest)
          | _ => none

/-- Members up to the end of their object. -/
def readMembers : (fuel : Nat) → List Char → Option (List (String × Json) × List Char)
  | 0, _ => none
  | fuel + 1, cs =>
      match cs.dropWhile isSpace with
      | '"' :: rest =>
          match readText rest with
          | none => none
          | some (key, rest) =>
              match rest.dropWhile isSpace with
              | ':' :: rest =>
                  match readValue fuel rest with
                  | none => none
                  | some (v, rest) =>
                      match rest.dropWhile isSpace with
                      | ',' :: rest => (readMembers fuel rest).map fun p => ((key, v) :: p.1, p.2)
                      | '\x7d' :: rest => some ([(key, v)], rest)
                      | _ => none
              | _ => none
      | _ => none

end

/-- **The value that a text stands for**, if it is JSON. -/
def read? (s : String) : Option Json :=
  match readValue (s.toList.length + 1) s.toList with
  | some (v, rest) => if rest.all isSpace then some v else none
  | none => none

/-! ## Numbers -/

lemma readNumber_spelling {n : Spelling} (hn : n.Valid) (negative : Bool) {rest : List Char}
    (hrest : endsToken rest) :
    readNumber negative (n.chars ++ rest) =
      some (.number (n.numeral negative).exact, rest) := by
  rw [readNumber, GraphQL.Syntax.lexNumber_spelling hn negative hrest]
  rfl

/-- **A number is written so that it is the one nearest to what is spelled.** -/
lemma exists_numeral {n : Number} (h : Proper (.number n)) :
    ∃ (negative : Bool) (spelling : Spelling), spelling.Valid ∧
      n.render.toList = (if negative then ['-'] else []) ++ spelling.chars ∧
      (spelling.numeral negative).exact = n := by
  cases h with
  | @int n hfits =>
      refine ⟨decide (n < 0), ⟨Nat.toDigits 10 n.natAbs, none, none⟩,
        GraphQL.Syntax.valid_toDigits n.natAbs, ?_, ?_⟩
      · rw [Number.render, Text.toList_toString_int]
        simp [Spelling.chars, Spelling.pointChars, Spelling.exponentChars]
      · have hvalue : signed (decide (n < 0))
            (digitsValue ((Nat.toDigits 10 n.natAbs).map digitValue)) = n := by
          rw [GraphQL.Syntax.digitsValue_map, Nat.ofDigitChars_ten_toDigits,
            GraphQL.Syntax.signed_natAbs]
        rw [Numeral.exact, Spelling.numeral]
        dsimp only
        rw [hvalue, if_pos]
        refine ⟨rfl, rfl, hfits, ?_⟩
        rintro ⟨hneg, rfl⟩
        exact absurd hneg (by decide)
  | @float x hfinite =>
      have hplus : DecimalLayout.json.plus = "+" := rfl
      obtain ⟨spelling, hvalid, hfloat, hnearest, text, hrender, htext⟩ :=
        GraphQL.Syntax.exists_spelling (.inr hplus) hfinite
      refine ⟨x.isNegative, spelling, hvalid, ?_, ?_⟩
      · rw [Number.render, hrender, Option.getD_some, htext]
      · rw [Numeral.exact, if_neg, hnearest]
        rw [Spelling.numeral]
        rintro ⟨hpoint, hexponent, -⟩
        rw [Option.isNone_map] at hpoint hexponent
        cases hp : spelling.point <;> cases he : spelling.exponent <;>
          simp [hp, he] at hpoint hexponent hfloat

lemma isSpace_of_isDigit {c : Char} (h : c.isDigit) : isSpace c = false := by
  have hne : ∀ d ∈ [' ', '\n', '\t', '\r'], c ≠ d := by
    rintro d hd rfl
    simp only [List.mem_cons, List.not_mem_nil, or_false] at hd
    rcases hd with rfl | rfl | rfl | rfl <;> exact absurd h (by decide)
  simp only [List.forall_mem_cons] at hne
  obtain ⟨h1, h2, h3, h4, -⟩ := hne
  simp [isSpace, h1, h2, h3, h4]

/-- What begins with a digit is read as a number. -/
lemma readValue_digit {c : Char} (h : c.isDigit) (fuel : Nat) (cs : List Char) :
    readValue (fuel + 1) (c :: cs) = readNumber false (c :: cs) := by
  rw [readValue, List.dropWhile_cons_of_neg (Bool.eq_false_iff.mp (isSpace_of_isDigit h))]
  split <;> first | rfl | (next heq => cases heq; exact absurd h (by decide))

lemma readValue_number {n : Number} (h : Proper (.number n)) (fuel : Nat) {rest : List Char}
    (hrest : endsToken rest) :
    readValue (fuel + 1) (chars (.number n) ++ rest) = some (.number n, rest) := by
  obtain ⟨negative, spelling, hvalid, hrender, hexact⟩ := exists_numeral h
  have hread := readNumber_spelling hvalid negative hrest
  rw [hexact] at hread
  rw [chars, hrender, List.append_assoc]
  cases negative with
  | true => exact hread
  | false =>
      obtain ⟨c, cs, hwhole⟩ := List.exists_cons_of_ne_nil hvalid.whole.nonempty
      have hc : c.isDigit := hvalid.whole.all c (hwhole ▸ List.mem_cons_self)
      have hcons : spelling.chars ++ rest = c :: (cs ++ (Spelling.pointChars spelling.point ++
          Spelling.exponentChars spelling.exponent) ++ rest) := by
        rw [Spelling.chars, hwhole]
        rfl
      rw [if_neg Bool.false_ne_true, List.nil_append]
      rw [hcons] at hread ⊢
      rw [readValue_digit hc, hread]

/-! ## Texts -/

lemma readText_quoted (s : String) (rest : List Char) :
    readText (s.toList.flatMap escapeChar ++ '"' :: rest) = some (s, rest) := by
  rw [readText, lexText_flatMap]
  simp

/-- A quoted text with its quotes. -/
lemma quoteChars_append (cs rest : List Char) :
    quoteChars cs ++ rest = '"' :: (cs.flatMap escapeChar ++ '"' :: rest) := by
  rw [quoteChars, List.append_assoc, List.cons_append]
  rfl

/-! ## What is written -/

lemma intercalate_cons {a b : List Char} {rest : List (List Char)} :
    [','].intercalate (a :: b :: rest) = a ++ ',' :: [','].intercalate (b :: rest) := by
  simp [List.intercalate]

/-- A value begins with neither a blank nor a closing bracket. -/
lemma exists_chars_cons {v : Json} (h : v.Proper) :
    ∃ c cs, v.chars = c :: cs ∧ isSpace c = false ∧ c ≠ ']' := by
  cases v with
  | null => exact ⟨_, _, rfl, rfl, by decide⟩
  | bool b => cases b <;> exact ⟨_, _, rfl, rfl, by decide⟩
  | string s => exact ⟨_, _, rfl, rfl, by decide⟩
  | array items => exact ⟨_, _, rfl, rfl, by decide⟩
  | object members => exact ⟨_, _, rfl, rfl, by decide⟩
  | number n =>
      obtain ⟨negative, spelling, hvalid, hrender, -⟩ := exists_numeral h
      rw [chars, hrender]
      cases negative with
      | true => exact ⟨_, _, rfl, rfl, by decide⟩
      | false =>
          obtain ⟨c, cs, hwhole⟩ := List.exists_cons_of_ne_nil hvalid.whole.nonempty
          have hc : c.isDigit := hvalid.whole.all c (hwhole ▸ List.mem_cons_self)
          refine ⟨c, cs ++ (Spelling.pointChars spelling.point ++
            Spelling.exponentChars spelling.exponent), ?_, isSpace_of_isDigit hc, ?_⟩
          · rw [Spelling.chars, hwhole]
            rfl
          · rintro rfl
            exact absurd hc (by decide)

/-- An array that does not end at once has items. -/
lemma readValue_array {c : Char} (hspace : isSpace c = false) (hclose : c ≠ ']') (fuel : Nat)
    (cs : List Char) :
    readValue (fuel + 1) ('[' :: c :: cs) =
      (readItems fuel (c :: cs)).map fun p => (.array p.1, p.2) := by
  have hdrop : (c :: cs).dropWhile isSpace = c :: cs :=
    List.dropWhile_cons_of_neg (Bool.eq_false_iff.mp hspace)
  change (match (c :: cs).dropWhile isSpace with
    | ']' :: rest => some (Json.array [], rest)
    | rest => Option.map (fun p : List Json × List Char => (Json.array p.1, p.2))
        (readItems fuel rest)) = _
  rw [hdrop]
  split
  · next heq => cases heq; exact absurd rfl hclose
  · rfl

/-- The items of an array as they are written. -/
def itemsText (items : List Json) : List Char := [','].intercalate (charsItems items)

/-- The members of an object as they are written. -/
def membersText (members : List (String × Json)) : List Char :=
  [','].intercalate (charsMembers members)

lemma itemsText_singleton (v : Json) : itemsText [v] = v.chars := by
  simp [itemsText, charsItems, List.intercalate]

lemma membersText_singleton (m : String × Json) :
    membersText [m] = quoteChars m.1.toList ++ ':' :: m.2.chars := by
  simp [membersText, charsMembers, List.intercalate]

lemma itemsText_cons (v w : Json) (items : List Json) :
    itemsText (v :: w :: items) = v.chars ++ ',' :: itemsText (w :: items) := intercalate_cons

lemma membersText_cons (m m' : String × Json) (members : List (String × Json)) :
    membersText (m :: m' :: members) =
      (quoteChars m.1.toList ++ ':' :: m.2.chars) ++ ',' :: membersText (m' :: members) :=
  intercalate_cons

/-- Items begin with what their first one begins with. -/
lemma exists_itemsText_cons {v : Json} (items : List Json) (h : v.Proper) :
    ∃ c cs, itemsText (v :: items) = c :: cs ∧ isSpace c = false ∧ c ≠ ']' := by
  obtain ⟨c, cs, hc, hspace, hclose⟩ := exists_chars_cons h
  cases items with
  | nil => exact ⟨c, cs, by rw [itemsText_singleton, hc], hspace, hclose⟩
  | cons w rest =>
      exact ⟨c, _, by rw [itemsText_cons, hc, List.cons_append], hspace, hclose⟩

/-- An object that has members begins with a quote. -/
lemma readValue_object (fuel : Nat) (m : String × Json) (members : List (String × Json))
    (rest : List Char) :
    readValue (fuel + 1) ('\x7b' :: (membersText (m :: members) ++ rest)) =
      (readMembers fuel (membersText (m :: members) ++ rest)).map
        fun p => (ofMembers p.1, p.2) := by
  obtain ⟨cs, hcs⟩ : ∃ cs, membersText (m :: members) = '"' :: cs := by
    cases members with
    | nil => exact ⟨_, by rw [membersText_singleton]; rfl⟩
    | cons m' members => exact ⟨_, by rw [membersText_cons]; rfl⟩
  rw [hcs]
  rfl

/-- A member is read up to what follows its value. -/
lemma readMembers_quoted (fuel : Nat) (key : String) (cs : List Char) :
    readMembers (fuel + 1) (quoteChars key.toList ++ ':' :: cs) =
      match readValue fuel cs with
      | none => none
      | some (v, rest) =>
          match rest.dropWhile isSpace with
          | ',' :: rest => (readMembers fuel rest).map fun p => ((key, v) :: p.1, p.2)
          | '\x7d' :: rest => some ([(key, v)], rest)
          | _ => none := by
  rw [quoteChars_append]
  change (match readText (key.toList.flatMap escapeChar ++ '"' :: ':' :: cs) with
    | none => none
    | some (key, rest) => _) = _
  rw [readText_quoted]
  rfl

mutual

/-- **A value that is written is read back**, and what follows it is left. -/
theorem readValue_chars : ∀ (v : Json), v.Proper → ∀ (fuel : Nat) (rest : List Char),
    endsToken rest → v.chars.length < fuel → readValue fuel (v.chars ++ rest) = some (v, rest)
  | v, _, 0, rest, _, hfuel => absurd hfuel (Nat.not_lt_zero _)
  | .null, _, fuel + 1, rest, _, _ => rfl
  | .bool true, _, fuel + 1, rest, _, _ => rfl
  | .bool false, _, fuel + 1, rest, _, _ => rfl
  | .number n, h, fuel + 1, rest, hrest, _ => readValue_number h fuel hrest
  | .string s, _, fuel + 1, rest, _, _ => by
      rw [chars, quoteChars_append]
      change (readText _).map _ = _
      rw [readText_quoted]
      rfl
  | .array [], _, fuel + 1, rest, _, _ => rfl
  | .array (v :: items), h, fuel + 1, rest, _, hfuel => by
      cases h with
      | array hitems =>
          have hchars : chars (.array (v :: items)) ++ rest =
              '[' :: (itemsText (v :: items) ++ ']' :: rest) := by
            rw [chars, itemsText, List.append_assoc]
            rfl
          have hlength : (itemsText (v :: items)).length + 1 < fuel := by
            rw [chars, ← itemsText, List.length_append, List.length_cons] at hfuel
            exact Nat.lt_of_succ_lt_succ hfuel
          have hread := readItems_chars v items hitems fuel rest hlength
          obtain ⟨c, cs, hc, hspace, hclose⟩ :=
            exists_itemsText_cons items (hitems v List.mem_cons_self)
          rw [hc] at hread hchars
          rw [hchars, List.cons_append, readValue_array hspace hclose]
          rw [List.cons_append] at hread
          rw [hread]
          rfl
  | .object [], _, fuel + 1, rest, _, _ => rfl
  | .object ((key, v) :: members), h, fuel + 1, rest, _, hfuel => by
      cases h with
      | object hkeys hmembers =>
          have hchars : chars (.object ((key, v) :: members)) ++ rest =
              '\x7b' :: (membersText ((key, v) :: members) ++ '\x7d' :: rest) := by
            rw [chars, membersText, List.append_assoc]
            rfl
          have hlength : (membersText ((key, v) :: members)).length + 1 < fuel := by
            rw [chars, ← membersText, List.length_append, List.length_cons] at hfuel
            exact Nat.lt_of_succ_lt_succ hfuel
          have hread := readMembers_chars key v members hmembers fuel rest hlength
          rw [hchars, readValue_object, hread]
          exact congrArg (fun object => some (Json.object object, rest))
            (Entries.ofList_of_nodup hkeys)

theorem readItems_chars : ∀ (v : Json) (items : List Json), (∀ w ∈ v :: items, w.Proper) →
    ∀ (fuel : Nat) (rest : List Char), (itemsText (v :: items)).length + 1 < fuel →
      readItems fuel (itemsText (v :: items) ++ ']' :: rest) = some (v :: items, rest)
  | v, items, _, 0, rest, hfuel => absurd hfuel (Nat.not_lt_zero _)
  | v, [], h, fuel + 1, rest, hfuel => by
      rw [itemsText_singleton] at hfuel ⊢
      rw [readItems, readValue_chars v (h v List.mem_cons_self) fuel (']' :: rest) rfl (by omega)]
      rfl
  | v, w :: items, h, fuel + 1, rest, hfuel => by
      rw [itemsText_cons] at hfuel ⊢
      rw [List.length_append, List.length_cons] at hfuel
      obtain ⟨hv, hitems⟩ := List.forall_mem_cons.mp h
      have hrest := readItems_chars w items hitems fuel rest (by omega)
      rw [List.append_assoc, List.cons_append, readItems,
        readValue_chars v hv fuel _ rfl (by omega)]
      change (readItems fuel _).map _ = _
      rw [hrest]
      rfl

theorem readMembers_chars : ∀ (key : String) (v : Json) (members : List (String × Json)),
    (∀ m ∈ (key, v) :: members, m.2.Proper) → ∀ (fuel : Nat) (rest : List Char),
      (membersText ((key, v) :: members)).length + 1 < fuel →
      readMembers fuel (membersText ((key, v) :: members) ++ '\x7d' :: rest) =
        some ((key, v) :: members, rest)
  | key, v, members, _, 0, rest, hfuel => absurd hfuel (Nat.not_lt_zero _)
  | key, v, [], h, fuel + 1, rest, hfuel => by
      rw [membersText_singleton] at hfuel ⊢
      rw [List.length_append, List.length_cons] at hfuel
      dsimp only at hfuel ⊢
      rw [List.append_assoc, List.cons_append, readMembers_quoted,
        readValue_chars v (h _ List.mem_cons_self) fuel _ rfl (by omega)]
      rfl
  | key, v, (key', w) :: members, h, fuel + 1, rest, hfuel => by
      rw [membersText_cons] at hfuel ⊢
      simp only [List.length_append, List.length_cons] at hfuel
      obtain ⟨hv, hmembers⟩ := List.forall_mem_cons.mp h
      have hrest := readMembers_chars key' w members hmembers fuel rest (by omega)
      rw [List.append_assoc, List.cons_append, List.append_assoc, List.cons_append,
        readMembers_quoted, readValue_chars v hv fuel _ rfl (by omega)]
      change (readMembers fuel _).map _ = _
      rw [hrest]
      rfl

end

/-- **A value that is written is read back.** -/
theorem read?_render {v : Json} (h : v.Proper) : read? v.render = some v := by
  have hread := readValue_chars v h (v.chars.length + 1) [] rfl (Nat.lt_succ_self _)
  rw [List.append_nil] at hread
  rw [read?, toList_render, hread]
  rfl

end ContentSync.Json
