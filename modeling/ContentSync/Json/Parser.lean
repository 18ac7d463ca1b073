import ContentSync.Json.Input
import ContentSync.Json.Octets

/-!
# Reading JSON text

Text is cut into tokens, and the tokens drive a stack of open arrays and objects.

* `nextToken` — the first token of a text.  It always uses up at least one character
  (`nextToken_shorter`), which is why reading ends.
* `Frame` — an array or object whose end has not been seen.
* `Input.ofText` — the input that a text stands for, for typed readers.
* `parse?` — the value that a text stands for.

Containers nested deeper than `maxDepth` have the form of a value and denote none.
-/

namespace ContentSync.Json

/-! ## Tokens -/

/-- A token of JSON text. -/
inductive Token where
  | openArray
  | closeArray
  | openObject
  | closeObject
  | comma
  | colon
  /-- A text; absent when it holds half a surrogate pair. -/
  | text (value : Option String)
  /-- `null`, a truth value or a number. -/
  | scalar (value : Input)

/-- The value of a hexadecimal digit. -/
def hexValue? (c : Char) : Option Nat :=
  if '0' ≤ c ∧ c ≤ '9' then some (c.toNat - '0'.toNat)
  else if 'a' ≤ c ∧ c ≤ 'f' then some (c.toNat - 'a'.toNat + 10)
  else if 'A' ≤ c ∧ c ≤ 'F' then some (c.toNat - 'A'.toNat + 10)
  else none

/-- The value of four hexadecimal digits. -/
def hexValue4? (a b c d : Char) : Option Nat :=
  match hexValue? a, hexValue? b, hexValue? c, hexValue? d with
  | some a, some b, some c, some d => some (((a * 16 + b) * 16 + c) * 16 + d)
  | _, _, _, _ => none

/-- The character after a backslash that stands for a character by itself. -/
def shortEscape? : Char → Option Char
  | '"' => some '"'
  | '\\' => some '\\'
  | '/' => some '/'
  | 'b' => some (Char.ofNat 0x08)
  | 'f' => some (Char.ofNat 0x0C)
  | 'n' => some '\n'
  | 'r' => some '\r'
  | 't' => some '\t'
  | _ => none

/-- A second half of a surrogate pair, escaped, at the start of a text. -/
def lowHalf? : List Char → Option (Nat × List Char)
  | '\\' :: 'u' :: a :: b :: c :: d :: rest =>
      match hexValue4? a b c d with
      | some n => if 0xDC00 ≤ n ∧ n ≤ 0xDFFF then some (n, rest) else none
      | none => none
  | _ => none

theorem lowHalf?_shorter {cs rest : List Char} {n : Nat} (h : lowHalf? cs = some (n, rest)) :
    rest.length < cs.length := by
  unfold lowHalf? at h
  split at h
  · split at h
    · split at h
      · cases h
        simp only [List.length_cons]
        omega
      · exact absurd h (by simp)
    · exact absurd h (by simp)
  · exact absurd h (by simp)

/-- **A text after its opening quote.**  `acc` holds the characters so far, last one first; `fit`
says that no half of a surrogate pair stood alone.  Absent when the text is malformed. -/
def lexText (cs : List Char) (acc : List Char) (fit : Bool) :
    Option (Option String × List Char) :=
  match cs with
  | [] => none
  | '"' :: rest => some (if fit then some (String.ofList acc.reverse) else none, rest)
  | '\\' :: 'u' :: a :: b :: c :: d :: rest =>
      match hexValue4? a b c d with
      | none => none
      | some n =>
          if 0xD800 ≤ n ∧ n ≤ 0xDBFF then
            match h : lowHalf? rest with
            | some (low, rest') =>
                have := lowHalf?_shorter h
                lexText rest' (Char.ofNat (0x10000 + (n - 0xD800) * 0x400 + (low - 0xDC00)) :: acc)
                  fit
            | none => lexText rest acc false
          else if 0xDC00 ≤ n ∧ n ≤ 0xDFFF then lexText rest acc false
          else lexText rest (Char.ofNat n :: acc) fit
  | '\\' :: e :: rest =>
      match shortEscape? e with
      | some c => lexText rest (c :: acc) fit
      | none => none
  | c :: rest => if c.toNat < 0x20 ∨ c = '\\' then none else lexText rest (c :: acc) fit
termination_by cs.length
decreasing_by all_goals (simp only [List.length_cons]; omega)

theorem lexText_shorter {cs acc rest : List Char} {fit : Bool} {s : Option String}
    (h : lexText cs acc fit = some (s, rest)) : rest.length < cs.length := by
  fun_induction lexText cs acc fit <;> simp only [List.length_cons, List.length_nil] <;>
    grind [lowHalf?_shorter]

/-- The value of a decimal digit. -/
def digitValue (c : Char) : Nat := c.toNat - '0'.toNat

/-- The decimal digits at the start of a text, and the rest. -/
def lexDigits (cs : List Char) : List Nat × List Char :=
  ((cs.takeWhile Char.isDigit).map digitValue, cs.dropWhile Char.isDigit)

theorem lexDigits_shorter (cs : List Char) : (lexDigits cs).2.length ≤ cs.length :=
  (List.dropWhile_sublist _).length_le

/-- A point and the digits after it, if there is a point; absent when no digit follows one. -/
def lexPoint : List Char → Option (Option (List Nat) × List Char)
  | '.' :: rest =>
      if (lexDigits rest).1.isEmpty then none
      else some (some (lexDigits rest).1, (lexDigits rest).2)
  | cs => some (none, cs)

theorem lexPoint_shorter {cs rest : List Char} {p : Option (List Nat)}
    (h : lexPoint cs = some (p, rest)) : rest.length ≤ cs.length := by
  unfold lexPoint at h
  split at h
  · next r =>
    have := lexDigits_shorter r
    grind
  · grind

/-- The sign of an exponent and the rest. -/
def lexSign : List Char → Bool × List Char
  | '-' :: rest => (true, rest)
  | '+' :: rest => (false, rest)
  | cs => (false, cs)

theorem lexSign_shorter (cs : List Char) : (lexSign cs).2.length ≤ cs.length := by
  unfold lexSign
  split <;> simp

/-- An exponent, if there is one; absent when no digit follows its mark. -/
def lexExponent : List Char → Option (Option (Bool × List Nat) × List Char)
  | [] => some (none, [])
  | c :: rest =>
      if c = 'e' ∨ c = 'E' then
        let digits := lexDigits (lexSign rest).2
        if digits.1.isEmpty then none else some (some ((lexSign rest).1, digits.1), digits.2)
      else some (none, c :: rest)

theorem lexExponent_shorter {cs rest : List Char} {e : Option (Bool × List Nat)}
    (h : lexExponent cs = some (e, rest)) : rest.length ≤ cs.length := by
  unfold lexExponent at h
  split at h
  · grind
  · next c r =>
    have := lexSign_shorter r
    have := lexDigits_shorter (lexSign r).2
    grind

/-- **A number after its sign.**  A zero at the front stands alone. -/
def lexNumber (negative : Bool) (cs : List Char) : Option (Numeral × List Char) :=
  let (whole, rest) := lexDigits cs
  if whole.isEmpty || (whole.head? == some 0 && 1 < whole.length) then none
  else
    match lexPoint rest with
    | none => none
    | some (point, rest) =>
        match lexExponent rest with
        | none => none
        | some (exponent, rest) => some (⟨negative, whole, point, exponent⟩, rest)

/-- What stands before and after the end of the digits makes up the text. -/
theorem lexDigits_length (cs : List Char) :
    (lexDigits cs).1.length + (lexDigits cs).2.length = cs.length := by
  simp only [lexDigits, List.length_map, ← List.length_append, List.takeWhile_append_dropWhile]

theorem lexNumber_shorter {negative : Bool} {cs rest : List Char} {n : Numeral}
    (h : lexNumber negative cs = some (n, rest)) : rest.length < cs.length := by
  have hd := lexDigits_length cs
  unfold lexNumber at h
  simp only at h
  split at h
  · exact absurd h (by simp)
  · next hw =>
    have hpos : 0 < (lexDigits cs).1.length := by
      cases hl : (lexDigits cs).1 <;> simp_all
    split at h
    · exact absurd h (by simp)
    · next hp =>
      split at h
      · exact absurd h (by simp)
      · next he =>
        have := lexPoint_shorter hp
        have := lexExponent_shorter he
        grind

/-- The token of a spelled number. -/
def Token.ofNumeral (n : Numeral) : Token :=
  .scalar ((n.value?.map Input.number).getD .unfit)

/-- Blanks between tokens. -/
def isSpace (c : Char) : Bool := c = ' ' || c = '\n' || c = '\t' || c = '\r'

/-- The first token of a text that does not begin with a blank. -/
def lexToken : List Char → Option (Token × List Char)
  | [] => none
  | '[' :: rest => some (.openArray, rest)
  | ']' :: rest => some (.closeArray, rest)
  | '\x7b' :: rest => some (.openObject, rest)
  | '\x7d' :: rest => some (.closeObject, rest)
  | ',' :: rest => some (.comma, rest)
  | ':' :: rest => some (.colon, rest)
  | '"' :: rest => (lexText rest [] true).map fun p => (.text p.1, p.2)
  | 'n' :: 'u' :: 'l' :: 'l' :: rest => some (.scalar .null, rest)
  | 't' :: 'r' :: 'u' :: 'e' :: rest => some (.scalar (.bool true), rest)
  | 'f' :: 'a' :: 'l' :: 's' :: 'e' :: rest => some (.scalar (.bool false), rest)
  | '-' :: rest => (lexNumber true rest).map fun p => (.ofNumeral p.1, p.2)
  | c :: rest =>
      if c.isDigit then
        (lexNumber false (c :: rest)).map fun p => (.ofNumeral p.1, p.2)
      else none

theorem lexToken_shorter {cs rest : List Char} {t : Token} (h : lexToken cs = some (t, rest)) :
    rest.length < cs.length := by
  unfold lexToken at h
  split at h <;> simp only [List.length_cons, List.length_nil] <;>
    grind [→ lexText_shorter, → lexNumber_shorter, Option.map_eq_some_iff]

/-- **The first token of a text** and what follows it; absent when the text has no further token or
does not go on with one. -/
def nextToken (cs : List Char) : Option (Token × List Char) := lexToken (cs.dropWhile isSpace)

theorem nextToken_shorter {cs rest : List Char} {t : Token}
    (h : nextToken cs = some (t, rest)) : rest.length < cs.length :=
  Nat.lt_of_lt_of_le (lexToken_shorter h) (List.dropWhile_sublist _).length_le

/-! ## Open containers -/

/-- An array or object whose end has not been seen.  What was read is held last one first; an
object also holds a key that still lacks its value. -/
inductive Frame where
  | array (done : List Input)
  | object (done : List (Option String × Input)) (key : Option (Option String))

/-- What may come next. -/
inductive Expect where
  | value
  | firstItem
  | firstKey
  | key
  | colon
  | separator

/-- The state between two tokens: something is still open, the value is complete, or the text is no
JSON at this place. -/
inductive Progress where
  | more (stack : List Frame) (expect : Expect)
  | complete (value : Input)
  | stuck

/-- The deepest nesting of arrays and objects that still denotes a value. -/
def maxDepth : Nat := 127

/-- Hands a complete value to the innermost open container. -/
def deliver (v : Input) : List Frame → Progress
  | [] => .complete v
  | .array done :: rest => .more (.array (v :: done) :: rest) .separator
  | .object done (some k) :: rest => .more (.object ((k, v) :: done) none :: rest) .separator
  | .object _ none :: _ => .stuck

/-- Whether a container inside these open ones denotes a value.  Only as many of them are counted as
matter. -/
def shallow (around : List Frame) : Bool := (around.drop (maxDepth - 1)).isEmpty

/-- Closes the innermost open container. -/
def close (f : Frame) (rest : List Frame) : Progress :=
  if shallow rest then
    match f with
    | .array done => deliver (.array .text done.reverse) rest
    | .object done _ => deliver (.object done.reverse) rest
  else deliver .unfit rest

/-- **One token.** -/
def step : List Frame → Expect → Token → Progress
  | stack, .value, .openArray => .more (.array [] :: stack) .firstItem
  | stack, .value, .openObject => .more (.object [] none :: stack) .firstKey
  | stack, .value, .scalar v => deliver v stack
  | stack, .value, .text s => deliver ((s.map Input.string).getD .unfit) stack
  | .array done :: rest, .firstItem, .closeArray => close (.array done) rest
  | stack, .firstItem, .openArray => .more (.array [] :: stack) .firstItem
  | stack, .firstItem, .openObject => .more (.object [] none :: stack) .firstKey
  | stack, .firstItem, .scalar v => deliver v stack
  | stack, .firstItem, .text s => deliver ((s.map Input.string).getD .unfit) stack
  | .object done _ :: rest, .firstKey, .closeObject => close (.object done none) rest
  | .object done _ :: rest, .firstKey, .text s => .more (.object done (some s) :: rest) .colon
  | .object done _ :: rest, .key, .text s => .more (.object done (some s) :: rest) .colon
  | stack, .colon, .colon => .more stack .value
  | .array done :: rest, .separator, .comma => .more (.array done :: rest) .value
  | .array done :: rest, .separator, .closeArray => close (.array done) rest
  | .object done k :: rest, .separator, .comma => .more (.object done k :: rest) .key
  | .object done _ :: rest, .separator, .closeObject => close (.object done none) rest
  | _, _, _ => .stuck

/-- The value that breaks off inside these open containers, the innermost first. -/
def unfinished : List Frame → Input → Input
  | [], i => i
  | .array done :: rest, i => unfinished rest (.array .text (i :: done).reverse)
  | .object done (some k) :: rest, i => unfinished rest (.object ((k, i) :: done).reverse)
  | .object done none :: rest, _ => unfinished rest (.object ((none, .broken) :: done).reverse)

/-- What is known of a text that is malformed while these containers are open.  Those deeper than
`maxDepth` denote no value anyway, so nothing of them is kept. -/
def giveUp (stack : List Frame) : Input :=
  unfinished (stack.drop (stack.length - maxDepth)) .broken

/-- Reads tokens until the value is complete; also returns what follows it. -/
def run (stack : List Frame) (expect : Expect) (cs : List Char) : Input × List Char :=
  match h : nextToken cs with
  | none => (giveUp stack, [])
  | some (t, rest) =>
      have := nextToken_shorter h
      match step stack expect t with
      | .more stack expect => run stack expect rest
      | .complete v => (v, rest)
      | .stuck => (giveUp stack, [])
termination_by cs.length

/-! ## Reading -/

/-- The input of a text, and whether nothing but blanks follows it. -/
def Input.ofText (s : String) : Input × Bool :=
  let (i, rest) := run [] .value s.toList
  (i, rest.all isSpace)

/-- The input of a sequence of octets, and whether nothing but blanks follows it.  An ill-formed
piece of UTF-8 spoils the quoted text that it stands in, or else ends the text. -/
def Input.ofBytes (bytes : ByteArray) : Input × Bool :=
  match Text.decode? bytes with
  | some s => Input.ofText s
  | none =>
      let (cs, whole) := spell .outside (Text.characters bytes.toList)
      let (i, ends) := Input.ofText (String.ofList cs)
      (i, ends && whole)

/-- **The value that a text stands for**, if it is JSON. -/
def parse? (s : String) : Option Json :=
  match Input.ofText s with
  | (i, true) => i.toJson?
  | (_, false) => none

/-- The value that a sequence of octets stands for, if it is JSON. -/
def parseBytes? (bytes : ByteArray) : Option Json :=
  match Input.ofBytes bytes with
  | (i, true) => i.toJson?
  | (_, false) => none

end ContentSync.Json
