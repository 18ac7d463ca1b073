/-!
# Octets as text

A reply or a delivery arrives as octets.  Three readings of them are needed.

* `decode?` — the text, if the octets are well-formed UTF-8.
* `characters` — the characters one by one, each ill-formed piece marked.  A piece is the longest
  start of a character that the next octet breaks off, or a single octet that starts no character;
  so nothing well formed is ever swallowed.
* `decodeLossy` — the text in which each ill-formed piece is one replacement character.

`malformed` is the first ill-formed piece, for those who are told why their octets are no text.

`takeOctets` cuts a text to a number of octets without cutting a character in two; its statements
(`takeOctets_isPrefix`, `octets_takeOctets_le`, `takeOctets_eq_self`) say that the cut is a start of
the text, fits, and is the whole text when that fits.
-/

namespace ContentSync.Text

/-- What stands for an ill-formed piece of UTF-8. -/
def replacement : Char := Char.ofNat 0xFFFD

/-- What the first octet of a character announces: how many octets follow, the range of the next
one, and the bits it contributes. -/
structure Lead where
  following : Nat
  low : UInt8
  high : UInt8
  bits : Nat

/-- **First octets.**  The ranges of the second octet leave out overlong forms, surrogates and
numbers beyond the last code point. -/
def Lead.of? (b : UInt8) : Option Lead :=
  let n := b.toNat
  if n < 0x80 then some ⟨0, 0x80, 0xBF, n⟩
  else if n < 0xC2 then none
  else if n < 0xE0 then some ⟨1, 0x80, 0xBF, n - 0xC0⟩
  else if n == 0xE0 then some ⟨2, 0xA0, 0xBF, 0⟩
  else if n == 0xED then some ⟨2, 0x80, 0x9F, 0xD⟩
  else if n < 0xF0 then some ⟨2, 0x80, 0xBF, n - 0xE0⟩
  else if n == 0xF0 then some ⟨3, 0x90, 0xBF, 0⟩
  else if n < 0xF4 then some ⟨3, 0x80, 0xBF, n - 0xF0⟩
  else if n == 0xF4 then some ⟨3, 0x80, 0x8F, 4⟩
  else none

/-- Reads the octets that a first octet announced.  The character is absent when one of them does
not fit; the octets that did fit are used up either way. -/
def readFollowing : Nat → UInt8 → UInt8 → Nat → List UInt8 → Option Char × List UInt8
  | 0, _, _, bits, rest => (some (Char.ofNat bits), rest)
  | _ + 1, _, _, _, [] => (none, [])
  | n + 1, low, high, bits, b :: rest =>
      if low ≤ b && b ≤ high then
        readFollowing n 0x80 0xBF (bits * 64 + b.toNat % 64) rest
      else (none, b :: rest)

theorem readFollowing_length (n : Nat) (low high : UInt8) (bits : Nat) (rest : List UInt8) :
    (readFollowing n low high bits rest).2.length ≤ rest.length := by
  induction n generalizing low high bits rest with
  | zero => simp [readFollowing]
  | succ n ih =>
    cases rest with
    | nil => simp [readFollowing]
    | cons b rest =>
      simp only [readFollowing]
      split
      · exact Nat.le_trans (ih _ _ _ rest) (Nat.le_succ _)
      · exact Nat.le_refl _

/-- Reads one character off a non-empty sequence of octets. -/
def readChar (b : UInt8) (rest : List UInt8) : Option Char × List UInt8 :=
  match Lead.of? b with
  | some l => readFollowing l.following l.low l.high l.bits rest
  | none => (none, rest)

theorem readChar_length (b : UInt8) (rest : List UInt8) :
    (readChar b rest).2.length ≤ rest.length := by
  unfold readChar
  split
  · exact readFollowing_length _ _ _ _ _
  · exact Nat.le_refl _

/-- The characters of a sequence of octets; an ill-formed piece is none. -/
def characters : List UInt8 → List (Option Char)
  | [] => []
  | b :: rest =>
      have := readChar_length b rest
      (readChar b rest).1 :: characters (readChar b rest).2
termination_by bs => bs.length
decreasing_by simp only [List.length_cons]; omega

/-- The text whose UTF-8 form these octets are, if there is one. -/
def decode? (bytes : ByteArray) : Option String := String.fromUTF8? bytes

/-- The text with each ill-formed piece replaced. -/
def decodeLossy (bytes : ByteArray) : String :=
  match decode? bytes with
  | some s => s
  | none => String.ofList ((characters bytes.toList).map (·.getD replacement))

/-! ## The first ill-formed piece -/

/-- An ill-formed piece: how many octets stand before it, and how many it has itself, unless the end
breaks off a character there. -/
structure Malformed where
  index : Nat
  length : Option Nat
  deriving DecidableEq

/-- The wording of what is wrong. -/
def Malformed.message (m : Malformed) : String :=
  match m.length with
  | some length =>
      "invalid utf-8 sequence of " ++ toString length ++ " bytes from index " ++ toString m.index
  | none => "incomplete utf-8 byte sequence from index " ++ toString m.index

/-- The first ill-formed piece of some octets that stand behind `index` others. -/
def firstMalformed? (index : Nat) : List UInt8 → Option Malformed
  | [] => none
  | b :: rest =>
      have := readChar_length b rest
      let used := rest.length + 1 - (readChar b rest).2.length
      if (readChar b rest).1.isSome then firstMalformed? (index + used) (readChar b rest).2
      else if (Lead.of? b).isSome && (readChar b rest).2.isEmpty then some ⟨index, none⟩
      else some ⟨index, some used⟩
termination_by bs => bs.length
decreasing_by simp only [List.length_cons]; omega

/-- **What is wrong with octets that are no text**: their first ill-formed piece. -/
def malformed (bytes : ByteArray) : Malformed :=
  (firstMalformed? 0 bytes.toList).getD ⟨0, none⟩

/-! ## Cutting a text to a number of octets -/

/-- Number of octets of some characters. -/
def octets (cs : List Char) : Nat := cs.foldr (fun c n => c.utf8Size + n) 0

@[simp] theorem octets_nil : octets [] = 0 := rfl

@[simp] theorem octets_cons (c : Char) (cs : List Char) :
    octets (c :: cs) = c.utf8Size + octets cs := rfl

/-- The longest start of at most `limit` octets. -/
def takeOctets : Nat → List Char → List Char
  | _, [] => []
  | limit, c :: rest =>
      if c.utf8Size ≤ limit then c :: takeOctets (limit - c.utf8Size) rest else []

theorem takeOctets_isPrefix (limit : Nat) (cs : List Char) : takeOctets limit cs <+: cs := by
  induction cs generalizing limit with
  | nil => simp [takeOctets]
  | cons c rest ih =>
    simp only [takeOctets]
    split
    · exact List.cons_prefix_cons.2 ⟨rfl, ih _⟩
    · exact List.nil_prefix

theorem octets_takeOctets_le (limit : Nat) (cs : List Char) :
    octets (takeOctets limit cs) ≤ limit := by
  induction cs generalizing limit with
  | nil => simp [takeOctets]
  | cons c rest ih =>
    simp only [takeOctets]
    split
    · have := ih (limit - c.utf8Size)
      simp only [octets_cons]
      omega
    · simp

theorem takeOctets_eq_self {limit : Nat} {cs : List Char} (h : octets cs ≤ limit) :
    takeOctets limit cs = cs := by
  induction cs generalizing limit with
  | nil => rfl
  | cons c rest ih =>
    simp only [octets_cons] at h
    have hc : c.utf8Size ≤ limit := by omega
    have hr : octets rest ≤ limit - c.utf8Size := by omega
    simp [takeOctets, hc, ih hr]

end ContentSync.Text
