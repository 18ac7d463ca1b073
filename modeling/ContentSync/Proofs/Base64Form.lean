import ContentSync.Digest.Base64
import Mathlib.Algebra.Order.Ring.Nat
import Mathlib.Tactic.Lemma

/-!
# Base64 by its bits

What a base64 text is can be said without groups of three octets.  The bits of the octets are read
six at a time, with zeros behind them up to the end of the last six; each six are a letter of the
alphabet, and equals signs make the letters a multiple of four.  Three octets and four letters are
the same 24 bits, so the text that is written group by group is this one.

* `bits` — a number by its lowest bits; `bits_append`, `bits_inj`.
* `IsBase64` — the base64 texts of octets; `SpelledBy.text_unique`, `SpelledBy.octets_unique` — the
  octets tell the text, and the text tells the octets.
* `isBase64_iff` — the base64 text is the text that is written; `base64Chars_inj`.
-/

namespace ContentSync.Digest

/-! ## Numbers by their bits -/

/-- The lowest bits of a number, the highest of them first. -/
def bits (width n : Nat) : List Bool := (List.range width).reverse.map n.testBit

@[simp] lemma length_bits (width n : Nat) : (bits width n).length = width := by
  simp [bits]

lemma bits_zero (width : Nat) : bits width 0 = List.replicate width false := by
  refine List.eq_replicate_iff.mpr ⟨length_bits width 0, fun b hb => ?_⟩
  obtain ⟨i, -, rfl⟩ := List.mem_map.mp hb
  exact Nat.zero_testBit i

lemma bits_add (v w n : Nat) : bits (v + w) n = bits v (n / 2 ^ w) ++ bits w (n % 2 ^ w) := by
  have hlow : bits w (n % 2 ^ w) = bits w n := by
    refine List.map_congr_left fun i hi => ?_
    have hi : i < w := by simpa using hi
    simp [Nat.testBit_mod_two_pow, hi]
  have hhigh : bits v (n / 2 ^ w) = (List.range v).reverse.map fun i => n.testBit (w + i) :=
    List.map_congr_left fun i _ => by rw [Nat.testBit_div_two_pow, Nat.add_comm]
  rw [hlow, hhigh, bits, Nat.add_comm, List.range_add]
  simp [bits, Function.comp_def]

/-- The bits of two numbers behind each other are those of one number. -/
lemma bits_append (v m : Nat) {w n : Nat} (h : n < 2 ^ w) :
    bits v m ++ bits w n = bits (v + w) (m * 2 ^ w + n) := by
  have hhigh : (m * 2 ^ w + n) / 2 ^ w = m := by
    rw [Nat.add_comm, Nat.add_mul_div_right _ _ (Nat.two_pow_pos w), Nat.div_eq_of_lt h,
      Nat.zero_add]
  have hlow : (m * 2 ^ w + n) % 2 ^ w = n := by
    rw [Nat.add_comm, Nat.add_mul_mod_self_right, Nat.mod_eq_of_lt h]
  rw [bits_add, hhigh, hlow]

/-- A number that has no more bits is told by them. -/
lemma bits_inj {w m n : Nat} (hm : m < 2 ^ w) (hn : n < 2 ^ w) (h : bits w m = bits w n) :
    m = n := by
  have hzero : ∀ k < 2 ^ w, ∀ i, w ≤ i → k.testBit i = false := fun k hk i hi =>
    Nat.testBit_lt_two_pow (hk.trans_le (Nat.pow_le_pow_right (by decide) hi))
  refine Nat.eq_of_testBit_eq fun i => ?_
  by_cases hi : i < w
  · exact List.map_inj_left.mp h i (by simpa using hi)
  · rw [hzero m hm i (by omega), hzero n hn i (by omega)]

/-! ## Octets and digits -/

/-- The eight bits of an octet. -/
def octetBits (o : UInt8) : List Bool := bits 8 o.toNat

/-- The six bits of a digit. -/
def digitBits (d : Fin 64) : List Bool := bits 6 d.val

lemma length_octetBits (o : UInt8) : (octetBits o).length = 8 := length_bits 8 o.toNat

lemma length_digitBits (d : Fin 64) : (digitBits d).length = 6 := length_bits 6 d.val

lemma octetBits_inj {a b : UInt8} (h : octetBits a = octetBits b) : a = b :=
  UInt8.toNat.inj (bits_inj a.toNat_lt b.toNat_lt h)

lemma digitBits_inj {d e : Fin 64} (h : digitBits d = digitBits e) : d = e :=
  Fin.ext (bits_inj d.isLt e.isLt h)

section Words

variable {α : Type} {word : α → List Bool} {width : Nat}

lemma length_flatMap_word (hwidth : ∀ a, (word a).length = width) (as : List α) :
    (as.flatMap word).length = as.length * width := by
  simp [List.length_flatMap, hwidth, List.map_const']

/-- Words of one width are told by their bits when there are as many of them. -/
lemma flatMap_word_inj (hwidth : ∀ a, (word a).length = width)
    (hword : ∀ a b, word a = word b → a = b) {as bs : List α} (hlength : as.length = bs.length)
    (h : as.flatMap word = bs.flatMap word) : as = bs := by
  have hwords : as.map word = bs.map word := by
    rw [List.flatMap_def, List.flatMap_def] at h
    refine List.eq_iff_flatten_eq.mpr ⟨h, ?_⟩
    simp [Function.comp_def, hwidth, List.map_const', hlength]
  exact (List.map_inj_right hword).mp hwords

end Words

lemma bits_append_digit (v m : Nat) (d : Fin 64) :
    bits v m ++ digitBits d = bits (v + 6) (m * 64 + d.val) :=
  bits_append (w := 6) v m d.isLt

lemma bits_append_octet (v m : Nat) (o : UInt8) :
    bits v m ++ octetBits o = bits (v + 8) (m * 256 + o.toNat) :=
  bits_append (w := 8) v m o.toNat_lt

/-- **Three octets are four digits** when they are the same number. -/
lemma flatMap_digitBits_group {a b c : UInt8} {d e f g : Fin 64}
    (h : d.val * 262144 + e.val * 4096 + f.val * 64 + g.val =
      a.toNat * 65536 + b.toNat * 256 + c.toNat) :
    [d, e, f, g].flatMap digitBits = [a, b, c].flatMap octetBits := by
  calc [d, e, f, g].flatMap digitBits
      = bits 6 d.val ++ digitBits e ++ digitBits f ++ digitBits g := by simp [digitBits]
    _ = bits 24 (((d.val * 64 + e.val) * 64 + f.val) * 64 + g.val) := by
        rw [bits_append_digit, bits_append_digit, bits_append_digit]
    _ = bits 24 ((a.toNat * 256 + b.toNat) * 256 + c.toNat) := congrArg (bits 24) (by omega)
    _ = bits 8 a.toNat ++ octetBits b ++ octetBits c := by
        rw [bits_append_octet, bits_append_octet]
    _ = [a, b, c].flatMap octetBits := by simp [octetBits]

/-- Where octets are missing in a group, as many digits are, and the bits that are left over are
zeros. -/
lemma flatMap_digitBits_short (missing : Nat) {digits : List (Fin 64)} {octets : List UInt8}
    (h : (digits ++ List.replicate missing 0).flatMap digitBits =
      (octets ++ List.replicate missing 0).flatMap octetBits) :
    digits.flatMap digitBits = octets.flatMap octetBits ++ List.replicate (missing * 2) false := by
  have hdigits : (List.replicate missing 0).flatMap digitBits =
      List.replicate (missing * 6) false := by
    rw [List.flatMap_replicate, digitBits, Fin.val_zero, bits_zero,
      List.flatten_replicate_replicate]
  have hoctets : (List.replicate missing 0).flatMap octetBits =
      List.replicate (missing * 2) false ++ List.replicate (missing * 6) false := by
    rw [List.flatMap_replicate, octetBits, UInt8.toNat_zero, bits_zero,
      List.flatten_replicate_replicate, List.replicate_append_replicate, ← Nat.mul_add]
  rw [List.flatMap_append, List.flatMap_append, hdigits, hoctets, ← List.append_assoc] at h
  exact List.append_cancel_right h

/-! ## Base64 texts -/

/-- The letters of base64 in their order. -/
def alphabet : String := "ABCDEFGHIJKLMNOPQRSTUVWXYZabcdefghijklmnopqrstuvwxyz0123456789+/"

lemma length_alphabet : alphabet.toList.length = 64 := by decide

/-- The letter of a digit. -/
def letter (d : Fin 64) : Char := alphabet.toList.get (d.cast length_alphabet.symm)

lemma letter_eq : ∀ d : Fin 64, letter d = base64Char d.val := by decide +kernel

lemma letter_inj {d e : Fin 64} (h : letter d = letter e) : d = e := by
  have hnodup : alphabet.toList.Nodup := by decide
  exact Fin.ext ((List.getElem_inj hnodup).mp h)

/-- Filling up is told from letters. -/
lemma letter_ne_pad (d : Fin 64) : letter d ≠ '=' := by
  have hpad : '=' ∉ alphabet.toList := by decide
  exact fun h => hpad (h ▸ List.get_mem _ _)

/-- **How octets are spelled in base64**: what their digits are, and what their text is. -/
structure SpelledBy (octets : List UInt8) (digits : List (Fin 64)) (cs : List Char) : Prop where
  /-- The digits have the bits of the octets and fewer than six zeros behind them. -/
  bits : ∃ zeros < 6,
    digits.flatMap digitBits = octets.flatMap octetBits ++ List.replicate zeros false
  /-- The text has the letters of the digits and fewer than four equals signs behind them. -/
  text : ∃ signs < 4, cs = digits.map letter ++ List.replicate signs '='
  /-- The text has whole groups of four characters. -/
  whole : 4 ∣ cs.length

/-- **The base64 texts of octets.** -/
def IsBase64 (octets : List UInt8) (cs : List Char) : Prop :=
  ∃ digits, SpelledBy octets digits cs

section Unique

variable {octets octets' : List UInt8} {digits digits' : List (Fin 64)} {cs cs' : List Char}

lemma length_of_bits {zeros : Nat} (h : digits.flatMap digitBits =
    octets.flatMap octetBits ++ List.replicate zeros false) :
    digits.length * 6 = octets.length * 8 + zeros := by
  have hlength := congrArg List.length h
  rwa [List.length_append, length_flatMap_word length_digitBits,
    length_flatMap_word length_octetBits, List.length_replicate] at hlength

/-- Octets have one base64 text: the numbers of digits and of equals signs are told by the lengths,
and the digits by their bits. -/
lemma SpelledBy.text_unique (h : SpelledBy octets digits cs) (h' : SpelledBy octets digits' cs') :
    cs = cs' := by
  obtain ⟨⟨zeros, hzeros, hbits⟩, ⟨signs, hsigns, htext⟩, hwhole⟩ := h
  obtain ⟨⟨zeros', hzeros', hbits'⟩, ⟨signs', hsigns', htext'⟩, hwhole'⟩ := h'
  have hlength := length_of_bits hbits
  have hlength' := length_of_bits hbits'
  obtain rfl : zeros = zeros' := by omega
  obtain rfl : digits = digits' := flatMap_word_inj length_digitBits (fun _ _ => digitBits_inj)
    (by omega) (hbits.trans hbits'.symm)
  simp only [htext, htext', List.length_append, List.length_map, List.length_replicate]
    at hwhole hwhole'
  obtain rfl : signs = signs' := by omega
  rw [htext, htext']

/-- The letters are what stands before the equals signs. -/
lemma takeWhile_letters (digits : List (Fin 64)) (signs : Nat) :
    (digits.map letter ++ List.replicate signs '=').takeWhile (· != '=') = digits.map letter := by
  rw [List.takeWhile_append_of_pos, List.takeWhile_replicate]
  · simp
  · intro c hc
    obtain ⟨d, -, rfl⟩ := List.mem_map.mp hc
    exact bne_iff_ne.mpr (letter_ne_pad d)

/-- A base64 text belongs to one sequence of octets: the digits are told by their letters, and the
octets by their bits. -/
lemma SpelledBy.octets_unique (h : SpelledBy octets digits cs)
    (h' : SpelledBy octets' digits' cs) : octets = octets' := by
  obtain ⟨⟨zeros, hzeros, hbits⟩, ⟨signs, -, htext⟩, -⟩ := h
  obtain ⟨⟨zeros', hzeros', hbits'⟩, ⟨signs', -, htext'⟩, -⟩ := h'
  have hletters : digits.map letter = digits'.map letter := by
    rw [← takeWhile_letters digits signs, ← htext, htext', takeWhile_letters]
  obtain rfl := (List.map_inj_right fun _ _ => letter_inj).mp hletters
  have hlength := length_of_bits hbits
  have hlength' := length_of_bits hbits'
  obtain rfl : zeros = zeros' := by omega
  exact flatMap_word_inj length_octetBits (fun _ _ => octetBits_inj) (by omega)
    (List.append_cancel_right (hbits.symm.trans hbits'))

end Unique

/-! ## The text that is written -/

section Groups

variable {a b c : UInt8} {d e f g : Fin 64}

/-- A whole group comes before a base64 text. -/
lemma IsBase64.cons {octets : List UInt8} {cs : List Char}
    (h : d.val * 262144 + e.val * 4096 + f.val * 64 + g.val =
      a.toNat * 65536 + b.toNat * 256 + c.toNat) (hrest : IsBase64 octets cs) :
    IsBase64 (a :: b :: c :: octets) (letter d :: letter e :: letter f :: letter g :: cs) := by
  obtain ⟨digits, ⟨zeros, hzeros, hbits⟩, ⟨signs, hsigns, htext⟩, hwhole⟩ := hrest
  refine ⟨[d, e, f, g] ++ digits, ⟨zeros, hzeros, ?_⟩, ⟨signs, hsigns, ?_⟩, ?_⟩
  · rw [List.flatMap_append, flatMap_digitBits_group h, hbits, ← List.append_assoc,
      ← List.flatMap_append]
    rfl
  · simp [htext]
  · simpa using hwhole

/-- Two octets are three digits and an equals sign. -/
lemma isBase64_two (h : d.val * 262144 + e.val * 4096 + f.val * 64 =
    a.toNat * 65536 + b.toNat * 256) :
    IsBase64 [a, b] [letter d, letter e, letter f, '='] := by
  have hgroup : [d, e, f, 0].flatMap digitBits = [a, b, 0].flatMap octetBits :=
    flatMap_digitBits_group (by simpa using h)
  exact ⟨[d, e, f], ⟨2, by decide, flatMap_digitBits_short 1 hgroup⟩, ⟨1, by decide, rfl⟩,
    by simp⟩

/-- One octet is two digits and two equals signs. -/
lemma isBase64_one (h : d.val * 262144 + e.val * 4096 = a.toNat * 65536) :
    IsBase64 [a] [letter d, letter e, '=', '='] := by
  have hgroup : [d, e, 0, 0].flatMap digitBits = [a, 0, 0].flatMap octetBits :=
    flatMap_digitBits_group (by simpa using h)
  exact ⟨[d, e], ⟨4, by decide, flatMap_digitBits_short 2 hgroup⟩, ⟨2, by decide, rfl⟩, by simp⟩

end Groups

/-- The text that is written is a base64 text.  The cases are the lengths of the last groups. -/
lemma isBase64_base64Chars (octets : List UInt8) : IsBase64 octets (base64Chars octets) := by
  fun_induction base64Chars octets with
  | case1 a b c rest n ih =>
      have ha := a.toNat_lt
      have hb := b.toNat_lt
      have hc := c.toNat_lt
      have hgroup := ih.cons (a := a) (b := b) (c := c) (d := ⟨n / 262144, by omega⟩)
        (e := ⟨n / 4096 % 64, by omega⟩) (f := ⟨n / 64 % 64, by omega⟩) (g := ⟨n % 64, by omega⟩)
        (by simp only; omega)
      simpa only [letter_eq] using hgroup
  | case2 a b n =>
      have ha := a.toNat_lt
      have hb := b.toNat_lt
      have hgroup := isBase64_two (a := a) (b := b) (d := ⟨n / 262144, by omega⟩)
        (e := ⟨n / 4096 % 64, by omega⟩) (f := ⟨n / 64 % 64, by omega⟩) (by simp only; omega)
      simpa only [letter_eq] using hgroup
  | case3 a n =>
      have ha := a.toNat_lt
      have hgroup := isBase64_one (a := a) (d := ⟨n / 262144, by omega⟩)
        (e := ⟨n / 4096 % 64, by omega⟩) (by simp only; omega)
      simpa only [letter_eq] using hgroup
  | case4 => exact ⟨[], ⟨0, by decide, rfl⟩, ⟨0, by decide, rfl⟩, by decide⟩

/-- **The base64 text of octets** is the text that is written. -/
lemma isBase64_iff {octets : List UInt8} {cs : List Char} :
    IsBase64 octets cs ↔ cs = base64Chars octets := by
  constructor
  · rintro ⟨digits, h⟩
    obtain ⟨digits', h'⟩ := isBase64_base64Chars octets
    exact h.text_unique h'
  · rintro rfl
    exact isBase64_base64Chars octets

/-- **Octets are told by their characters.** -/
lemma base64Chars_inj {as bs : List UInt8} (h : base64Chars as = base64Chars bs) : as = bs := by
  obtain ⟨digits, hspelled⟩ := isBase64_base64Chars as
  obtain ⟨digits', hspelled'⟩ := isBase64_base64Chars bs
  rw [← h] at hspelled'
  exact hspelled.octets_unique hspelled'

end ContentSync.Digest
