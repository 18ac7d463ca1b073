import ContentSync.Proofs.Digests
import ContentSync.Proofs.JsonText
import Mathlib.Tactic.Common

/-!
# Octets that need not be a text

Octets are read as a text whatever they are.  Where a character stands it is read, and where none
does, the longest start of a character counts as one replacement character, or else a single octet.

* `Announces` — what a first octet says about those behind it.
* `makes_of_encode`, `Makes.encode` — the octets of a character, and its code point.
* `Begins` — the start of a character, and `begins_cons_iff` when octets are one.
* `Broken` — a piece that is no character, and `Lossy` — what octets are as text.
* `lossy_iff` — that a sequence of octets is one text, and that it is read as this text.
* `malformed_of_not_text` — which piece is told of when octets are no text.
-/

namespace ContentSync.Text

open String (utf8EncodeChar)

/-! ## The octets of a character -/

/-- **First octets**: what follows each of them. -/
inductive Announces (b : UInt8) : Lead → Prop where
  | alone (h : b.toNat < 0x80) : Announces b ⟨0, 0x80, 0xBF, b.toNat⟩
  | one (h : 0xC2 ≤ b.toNat) (h' : b.toNat < 0xE0) : Announces b ⟨1, 0x80, 0xBF, b.toNat - 0xC0⟩
  /-- The second octet makes the code point larger than two octets could. -/
  | twoFirst (h : b.toNat = 0xE0) : Announces b ⟨2, 0xA0, 0xBF, 0⟩
  | two (h : 0xE0 < b.toNat) (h' : b.toNat < 0xF0) (hne : b.toNat ≠ 0xED) :
      Announces b ⟨2, 0x80, 0xBF, b.toNat - 0xE0⟩
  /-- The second octet keeps the code point below the surrogates. -/
  | twoLast (h : b.toNat = 0xED) : Announces b ⟨2, 0x80, 0x9F, 0xD⟩
  | threeFirst (h : b.toNat = 0xF0) : Announces b ⟨3, 0x90, 0xBF, 0⟩
  | three (h : 0xF0 < b.toNat) (h' : b.toNat < 0xF4) : Announces b ⟨3, 0x80, 0xBF, b.toNat - 0xF0⟩
  /-- The second octet keeps the code point below the end. -/
  | threeLast (h : b.toNat = 0xF4) : Announces b ⟨3, 0x80, 0x8F, 4⟩

lemma lead_eq_some_iff {b : UInt8} {l : Lead} : Lead.of? b = some l ↔ Announces b l := by
  constructor
  · intro h
    simp only [Lead.of?, beq_iff_eq] at h
    split_ifs at h with h1 h2 h3 h4 h5 h6 h7 h8 h9 <;> cases h
    · exact .alone h1
    · exact .one (by omega) h3
    · exact .twoFirst h4
    · exact .twoLast h5
    · exact .two (by omega) h6 h5
    · exact .threeFirst h7
    · exact .three (by omega) h8
    · exact .threeLast h9
  · intro h
    simp only [Lead.of?, beq_iff_eq]
    cases h <;> grind

/-- The octets behind the first one of a character: the next one in a range of its own, and all
others in the usual one. -/
def Following (low high : UInt8) : List UInt8 → Prop
  | [] => True
  | b :: rest => (low ≤ b ∧ b ≤ high) ∧ Following 0x80 0xBF rest

/-- The code point that the bits of some octets make. -/
def assemble (bits : Nat) (following : List UInt8) : Nat :=
  following.foldl (fun n b => n * 64 + b.toNat % 64) bits

/-- The octets that make a code point. -/
def Makes (b : UInt8) (following : List UInt8) (n : Nat) : Prop :=
  ∃ l, Announces b l ∧ following.length = l.following ∧
    Following l.low l.high following ∧ assemble l.bits following = n

lemma encode_one {c : Char} (h : c.toNat < 0x80) : utf8EncodeChar c = [.ofNat c.toNat] :=
  if_pos (Nat.le_of_lt_succ h)

lemma encode_two {c : Char} (h : 0x80 ≤ c.toNat) (h' : c.toNat < 0x800) :
    utf8EncodeChar c = [.ofNat (c.toNat / 64 % 0x20 + 0xC0), .ofNat (c.toNat % 64 + 0x80)] :=
  (if_neg (Nat.not_le_of_gt h)).trans (if_pos (Nat.le_of_lt_succ h'))

lemma encode_three {c : Char} (h : 0x800 ≤ c.toNat) (h' : c.toNat < 0x10000) :
    utf8EncodeChar c = [.ofNat (c.toNat / 4096 % 0x10 + 0xE0),
      .ofNat (c.toNat / 64 % 64 + 0x80), .ofNat (c.toNat % 64 + 0x80)] :=
  (if_neg (by change ¬ c.toNat ≤ _; omega)).trans
    ((if_neg (Nat.not_le_of_gt h)).trans (if_pos (Nat.le_of_lt_succ h')))

lemma encode_four {c : Char} (h : 0x10000 ≤ c.toNat) :
    utf8EncodeChar c = [.ofNat (c.toNat / 262144 % 0x08 + 0xF0),
      .ofNat (c.toNat / 4096 % 64 + 0x80), .ofNat (c.toNat / 64 % 64 + 0x80),
      .ofNat (c.toNat % 64 + 0x80)] :=
  (if_neg (by change ¬ c.toNat ≤ _; omega)).trans
    ((if_neg (by change ¬ c.toNat ≤ _; omega)).trans (if_neg (Nat.not_le_of_gt h)))

lemma ofNat_eq_iff {n : Nat} {b : UInt8} : UInt8.ofNat n = b ↔ n % 256 = b.toNat := by
  rw [← UInt8.toNat_inj, UInt8.toNat_ofNat']

/-- **A character is told by its octets.**  Its code point is in one of eight intervals. -/
lemma makes_of_encode {c : Char} {b : UInt8} {following : List UInt8}
    (h : utf8EncodeChar c = b :: following) : Makes b following c.toNat := by
  have hvalid : c.toNat < 0xD800 ∨ (0xDFFF < c.toNat ∧ c.toNat < 0x110000) := c.valid
  rcases lt_or_ge c.toNat 0x80 with h1 | h1
  · cases (encode_one h1).symm.trans h
    refine ⟨_, .alone ?_, rfl, trivial, ?_⟩ <;>
      simp only [assemble, List.foldl, UInt8.toNat_ofNat'] <;> omega
  rcases lt_or_ge c.toNat 0x800 with h2 | h2
  · cases (encode_two h1 h2).symm.trans h
    refine ⟨_, .one ?_ ?_, rfl, ⟨?_, trivial⟩, ?_⟩ <;>
      simp only [assemble, List.foldl, UInt8.le_iff_toNat_le, UInt8.toNat_ofNat',
        UInt8.reduceToNat] <;> omega
  rcases lt_or_ge c.toNat 0x10000 with h3 | h3
  · cases (encode_three h2 h3).symm.trans h
    rcases lt_or_ge c.toNat 0x1000 with hfirst | hfirst
    · refine ⟨_, .twoFirst ?_, rfl, ⟨?_, ?_, trivial⟩, ?_⟩ <;>
        simp only [assemble, List.foldl, UInt8.le_iff_toNat_le, UInt8.toNat_ofNat',
          UInt8.reduceToNat] <;> omega
    by_cases hlast : c.toNat / 0x1000 = 0xD
    · refine ⟨_, .twoLast ?_, rfl, ⟨?_, ?_, trivial⟩, ?_⟩ <;>
        simp only [assemble, List.foldl, UInt8.le_iff_toNat_le, UInt8.toNat_ofNat',
          UInt8.reduceToNat] <;> omega
    · refine ⟨_, .two ?_ ?_ ?_, rfl, ⟨?_, ?_, trivial⟩, ?_⟩ <;>
        simp only [assemble, List.foldl, UInt8.le_iff_toNat_le, UInt8.toNat_ofNat',
          UInt8.reduceToNat] <;> omega
  · cases (encode_four h3).symm.trans h
    rcases lt_or_ge c.toNat 0x40000 with hfirst | hfirst
    · refine ⟨_, .threeFirst ?_, rfl, ⟨?_, ?_, ?_, trivial⟩, ?_⟩ <;>
        simp only [assemble, List.foldl, UInt8.le_iff_toNat_le, UInt8.toNat_ofNat',
          UInt8.reduceToNat] <;> omega
    rcases lt_or_ge c.toNat 0x100000 with hlast | hlast
    · refine ⟨_, .three ?_ ?_, rfl, ⟨?_, ?_, ?_, trivial⟩, ?_⟩ <;>
        simp only [assemble, List.foldl, UInt8.le_iff_toNat_le, UInt8.toNat_ofNat',
          UInt8.reduceToNat] <;> omega
    · refine ⟨_, .threeLast ?_, rfl, ⟨?_, ?_, ?_, trivial⟩, ?_⟩ <;>
        simp only [assemble, List.foldl, UInt8.le_iff_toNat_le, UInt8.toNat_ofNat',
          UInt8.reduceToNat] <;> omega

lemma Makes.valid_and_encode {b : UInt8} {following : List UInt8} {n : Nat}
    (h : Makes b following n) :
    n.isValidChar ∧ ∀ c : Char, c.toNat = n → utf8EncodeChar c = b :: following := by
  obtain ⟨l, hrow, hlength, hfollowing, rfl⟩ := h
  cases hrow with
  | alone hb =>
      cases List.length_eq_zero_iff.mp hlength
      simp only [assemble, List.foldl, Nat.isValidChar]
      refine ⟨by omega, fun c hc => ?_⟩
      rw [encode_one (by omega)]
      simp only [List.cons.injEq, ofNat_eq_iff, and_true]
      omega
  | one hb hb' =>
      obtain ⟨x, rfl⟩ := List.length_eq_one_iff.mp hlength
      simp only [Following, UInt8.le_iff_toNat_le, UInt8.reduceToNat] at hfollowing
      simp only [assemble, List.foldl, Nat.isValidChar]
      refine ⟨by omega, fun c hc => ?_⟩
      rw [encode_two (by omega) (by omega)]
      simp only [List.cons.injEq, ofNat_eq_iff, and_true]
      omega
  | twoFirst hb | two hb hb' hne | twoLast hb =>
      obtain ⟨x, y, rfl⟩ := List.length_eq_two.mp hlength
      simp only [Following, UInt8.le_iff_toNat_le, UInt8.reduceToNat] at hfollowing
      simp only [assemble, List.foldl, Nat.isValidChar]
      refine ⟨by omega, fun c hc => ?_⟩
      rw [encode_three (by omega) (by omega)]
      simp only [List.cons.injEq, ofNat_eq_iff, and_true]
      omega
  | threeFirst hb | three hb hb' | threeLast hb =>
      obtain ⟨x, y, z, rfl⟩ := List.length_eq_three.mp hlength
      simp only [Following, UInt8.le_iff_toNat_le, UInt8.reduceToNat] at hfollowing
      simp only [assemble, List.foldl, Nat.isValidChar]
      refine ⟨by omega, fun c hc => ?_⟩
      rw [encode_four (by omega)]
      simp only [List.cons.injEq, ofNat_eq_iff, and_true]
      omega

/-- Octets that make a code point are the character with this code point. -/
lemma Makes.encode {b : UInt8} {following : List UInt8} {n : Nat} (h : Makes b following n) :
    utf8EncodeChar (Char.ofNat n) = b :: following := by
  obtain ⟨hvalid, hencode⟩ := h.valid_and_encode
  obtain ⟨c, rfl⟩ : ∃ c : Char, c.toNat = n := ⟨Char.ofNatAux n hvalid, rfl⟩
  rw [Char.ofNat_toNat]
  exact hencode c rfl

/-- The octets of one character are not the start of those of another. -/
lemma encode_append_inj {c d : Char} {rest rest' : List UInt8}
    (h : utf8EncodeChar c ++ rest = utf8EncodeChar d ++ rest') : c = d ∧ rest = rest' := by
  obtain ⟨b, following, hc⟩ := List.exists_cons_of_ne_nil (String.utf8EncodeChar_ne_nil (c := c))
  obtain ⟨b', following', hd⟩ := List.exists_cons_of_ne_nil (String.utf8EncodeChar_ne_nil (c := d))
  rw [hc, hd, List.cons_append, List.cons_append] at h
  obtain ⟨rfl, htail⟩ := List.cons.inj h
  obtain ⟨l, hl, hlength, -, hmakes⟩ := makes_of_encode hc
  obtain ⟨l', hl', hlength', -, hmakes'⟩ := makes_of_encode hd
  obtain rfl : l = l' :=
    Option.some.inj ((lead_eq_some_iff.mpr hl).symm.trans (lead_eq_some_iff.mpr hl'))
  obtain ⟨rfl, rfl⟩ := List.append_inj htail (hlength.trans hlength'.symm)
  exact ⟨Char.toNat_inj.mp (hmakes.symm.trans hmakes'), rfl⟩

/-! ## Starts of characters -/

/-- **Octets that begin a character**, or are all of it. -/
def Begins (piece : List UInt8) : Prop := ∃ c, piece <+: utf8EncodeChar c

lemma Following.of_append {low high : UInt8} {start more : List UInt8}
    (h : Following low high (start ++ more)) : Following low high start := by
  induction start generalizing low high with
  | nil => trivial
  | cons b start ih => exact ⟨h.1, ih h.2⟩

/-- Octets that follow can be followed by more of them. -/
lemma exists_following {low high : UInt8} (hrange : low ≤ high) {start : List UInt8}
    (h : Following low high start) {n : Nat} (hlength : start.length ≤ n) :
    ∃ more, (start ++ more).length = n ∧ Following low high (start ++ more) := by
  have husual : (0x80 : UInt8) ≤ 0xBF := by decide
  induction start generalizing low high n with
  | nil =>
      induction n generalizing low high with
      | zero => exact ⟨[], rfl, trivial⟩
      | succ n ih =>
          obtain ⟨more, hmore, hfollowing⟩ := ih husual trivial (Nat.zero_le n)
          exact ⟨low :: more, congrArg (· + 1) hmore, ⟨UInt8.le_refl low, hrange⟩, hfollowing⟩
  | cons b start ih =>
      cases n with
      | zero => cases hlength
      | succ n =>
          obtain ⟨more, hmore, hfollowing⟩ := ih husual h.2 (Nat.le_of_succ_le_succ hlength)
          exact ⟨more, congrArg (· + 1) hmore, h.1, hfollowing⟩

lemma Announces.low_le {b : UInt8} {l : Lead} (h : Announces b l) : l.low ≤ l.high := by
  cases h <;> (dsimp only; decide)

/-- **Octets begin a character** when what follows the first one is what it announces. -/
theorem begins_cons_iff {b : UInt8} {following : List UInt8} :
    Begins (b :: following) ↔ ∃ l, Announces b l ∧ following.length ≤ l.following ∧
      Following l.low l.high following := by
  constructor
  · rintro ⟨c, more, hc⟩
    rw [List.cons_append] at hc
    obtain ⟨l, hl, hlength, hfollowing, -⟩ := makes_of_encode hc.symm
    rw [List.length_append] at hlength
    exact ⟨l, hl, by omega, hfollowing.of_append⟩
  · rintro ⟨l, hl, hlength, hfollowing⟩
    obtain ⟨more, hmore, hall⟩ := exists_following hl.low_le hfollowing hlength
    have hmakes : Makes b (following ++ more) (assemble l.bits (following ++ more)) :=
      ⟨l, hl, hmore, hall, rfl⟩
    exact ⟨_, more, hmakes.encode.symm⟩

/-! ## Pieces -/

/-- **A piece that is no character**, before what comes behind it: the longest start of a character,
or a single octet where no start is longer. -/
structure Broken (piece rest : List UInt8) : Prop where
  ne_nil : piece ≠ []
  unreadable : ∀ c, ¬ utf8EncodeChar c <+: piece ++ rest
  start : Begins piece ∨ piece.length = 1
  longest : ∀ longer, longer <+: piece ++ rest → Begins longer → longer.length ≤ piece.length

/-- **What octets are as text**: characters where they stand, and replacements for other pieces. -/
inductive Lossy : List UInt8 → List Char → Prop where
  | nil : Lossy [] []
  | char (c : Char) {rest : List UInt8} {cs : List Char} (h : Lossy rest cs) :
      Lossy (utf8EncodeChar c ++ rest) (c :: cs)
  | broken {piece rest : List UInt8} {cs : List Char} (hpiece : Broken piece rest)
      (h : Lossy rest cs) : Lossy (piece ++ rest) (replacement :: cs)

/-- Where there is a piece that is no character, it is the only one. -/
lemma Broken.unique {piece piece' rest rest' : List UInt8} (h : Broken piece rest)
    (h' : Broken piece' rest') (heq : piece ++ rest = piece' ++ rest') :
    piece = piece' ∧ rest = rest' := by
  have hle : ∀ {p p' r r' : List UInt8}, Broken p r → Broken p' r' → p ++ r = p' ++ r' →
      p.length ≤ p'.length := by
    intro p p' r r' hp hp' heq
    rcases hp.start with hstart | hone
    · exact hp'.longest p (heq ▸ List.prefix_append p r) hstart
    · rw [hone]
      exact List.length_pos_iff.mpr hp'.ne_nil
  exact List.append_inj heq (Nat.le_antisymm (hle h h' heq) (hle h' h heq.symm))

/-- Octets are one text at most. -/
theorem Lossy.unique {bytes : List UInt8} {cs ds : List Char} (h : Lossy bytes cs)
    (h' : Lossy bytes ds) : cs = ds := by
  induction h generalizing ds with
  | nil =>
      generalize hbytes : ([] : List UInt8) = bytes at h'
      cases h' with
      | nil => rfl
      | char c h' =>
          exact absurd (List.append_eq_nil_iff.mp hbytes.symm).1 String.utf8EncodeChar_ne_nil
      | broken hpiece h' =>
          exact absurd (List.append_eq_nil_iff.mp hbytes.symm).1 hpiece.ne_nil
  | @char c rest cs h ih =>
      generalize hbytes : utf8EncodeChar c ++ rest = bytes at h'
      cases h' with
      | nil => exact absurd (List.append_eq_nil_iff.mp hbytes).1 String.utf8EncodeChar_ne_nil
      | char d h' =>
          obtain ⟨rfl, rfl⟩ := encode_append_inj hbytes
          rw [ih h']
      | broken hpiece h' =>
          exact absurd (hbytes ▸ List.prefix_append _ rest) (hpiece.unreadable c)
  | @broken piece rest cs hpiece h ih =>
      generalize hbytes : piece ++ rest = bytes at h'
      cases h' with
      | nil => exact absurd (List.append_eq_nil_iff.mp hbytes).1 hpiece.ne_nil
      | char d h' =>
          exact absurd (hbytes ▸ List.prefix_append _ _) (hpiece.unreadable d)
      | broken hpiece' h' =>
          obtain ⟨rfl, rfl⟩ := hpiece.unique hpiece' hbytes
          rw [ih h']

/-! ## Reading -/

/-- **Octets are read as far as they follow.** -/
lemma readFollowing_spec (n : Nat) (low high : UInt8) (bits : Nat) (rest : List UInt8) :
    ∃ read left, rest = read ++ left ∧ Following low high read ∧
      ((read.length = n ∧ readFollowing n low high bits rest =
          (some (Char.ofNat (assemble bits read)), left)) ∨
        (read.length < n ∧ readFollowing n low high bits rest = (none, left) ∧
          ∀ b more, left = b :: more → ¬ Following low high (read ++ [b]))) := by
  induction n generalizing low high bits rest with
  | zero => exact ⟨[], rest, rfl, trivial, .inl ⟨rfl, rfl⟩⟩
  | succ n ih =>
      cases rest with
      | nil => exact ⟨[], [], rfl, trivial, .inr ⟨n.succ_pos, rfl, fun _ _ h => nomatch h⟩⟩
      | cons b rest =>
          rw [readFollowing]
          by_cases hb : low ≤ b ∧ b ≤ high
          · obtain ⟨read, left, rfl, hread, hcases⟩ := ih 0x80 0xBF (bits * 64 + b.toNat % 64) rest
            rw [if_pos (by simpa using hb)]
            refine ⟨b :: read, left, rfl, ⟨hb, hread⟩, ?_⟩
            rcases hcases with ⟨hlength, heq⟩ | ⟨hlength, heq, hnext⟩
            · exact .inl ⟨congrArg (· + 1) hlength, heq⟩
            · exact .inr ⟨Nat.succ_lt_succ hlength, heq, fun d more hleft hall =>
                hnext d more hleft hall.2⟩
          · rw [if_neg (by simpa using hb)]
            refine ⟨[], b :: rest, rfl, trivial, .inr ⟨n.succ_pos, rfl, ?_⟩⟩
            rintro d more hleft ⟨hd, -⟩
            cases hleft
            exact hb hd

/-- A piece is told by the starts that it is the longest of. -/
lemma broken_of_longest {b : UInt8} {read left : List UInt8}
    (hstart : Begins (b :: read) ∨ read = [])
    (hlongest : ∀ following, following <+: read ++ left → ∀ l, Announces b l →
      Following l.low l.high following → following.length ≤ l.following →
        following.length ≤ read.length ∧ read.length < l.following) :
    Broken (b :: read) left := by
  have hlonger : ∀ longer, longer <+: b :: read ++ left → Begins longer →
      longer.length ≤ (b :: read).length := by
    intro longer hprefix hbegins
    cases longer with
    | nil => exact Nat.zero_le _
    | cons b' following =>
        obtain ⟨rfl, hfollowing⟩ := List.cons_prefix_cons.mp hprefix
        obtain ⟨l, hl, hlength, hall⟩ := begins_cons_iff.mp hbegins
        exact Nat.succ_le_succ (hlongest following hfollowing l hl hall hlength).1
  refine ⟨List.cons_ne_nil _ _, fun c hc => ?_, ?_, hlonger⟩
  · obtain ⟨b', following, hencode⟩ :=
      List.exists_cons_of_ne_nil (String.utf8EncodeChar_ne_nil (c := c))
    rw [hencode] at hc
    obtain ⟨rfl, hfollowing⟩ := List.cons_prefix_cons.mp hc
    obtain ⟨l, hl, hlength, hall, -⟩ := makes_of_encode hencode
    obtain ⟨hle, hlt⟩ := hlongest following hfollowing l hl hall hlength.le
    omega
  · exact hstart.imp id fun hread => by rw [hread]; rfl

/-- **One step of reading**: a character that stands there, or a piece that is none. -/
theorem readChar_spec (b : UInt8) (rest : List UInt8) :
    (∃ c left, readChar b rest = (some c, left) ∧ b :: rest = utf8EncodeChar c ++ left) ∨
      ∃ piece left, readChar b rest = (none, left) ∧ b :: rest = piece ++ left ∧
        Broken piece left := by
  cases hlead : Lead.of? b with
  | none =>
      have hnone (l : Lead) : ¬ Announces b l := fun hl => by
        rw [lead_eq_some_iff.mpr hl] at hlead
        cases hlead
      refine .inr ⟨[b], rest, by rw [readChar, hlead], rfl, broken_of_longest (.inr rfl) ?_⟩
      exact fun _ _ l hl => absurd hl (hnone l)
  | some l =>
      have hl := lead_eq_some_iff.mp hlead
      obtain ⟨read, left, rfl, hread, hcases⟩ :=
        readFollowing_spec l.following l.low l.high l.bits rest
      rw [readChar, hlead]
      rcases hcases with ⟨hlength, heq⟩ | ⟨hlength, heq, hnext⟩
      · have hmakes : Makes b read (assemble l.bits read) := ⟨l, hl, hlength, hread, rfl⟩
        exact .inl ⟨_, left, heq, by rw [hmakes.encode, List.cons_append]⟩
      · refine .inr ⟨b :: read, left, heq, rfl, broken_of_longest (.inl ?_) ?_⟩
        · exact begins_cons_iff.mpr ⟨l, hl, hlength.le, hread⟩
        · intro following hprefix l' hl' hall _
          obtain rfl : l = l' := Option.some.inj (hlead.symm.trans (lead_eq_some_iff.mpr hl'))
          refine ⟨?_, hlength⟩
          by_contra hlonger
          obtain ⟨more, rfl⟩ := List.prefix_of_prefix_length_le (List.prefix_append read left)
            hprefix (by omega)
          cases more with
          | nil => exact hlonger (by simp)
          | cons d more =>
              obtain ⟨after, hafter⟩ := (List.prefix_append_right_inj read).mp hprefix
              have hstep : Following l.low l.high (read ++ [d]) := by
                rw [← List.singleton_append, ← List.append_assoc] at hall
                exact hall.of_append
              exact hnext d (more ++ after) hafter.symm hstep

/-- Octets are what their characters are, piece by piece. -/
lemma lossy_characters (bytes : List UInt8) :
    Lossy bytes ((characters bytes).map (·.getD replacement)) := by
  induction bytes using characters.induct with
  | case1 =>
      rw [characters]
      exact .nil
  | case2 b rest _ ih =>
      rw [characters, List.map_cons]
      rcases readChar_spec b rest with
        ⟨c, left, hread, hbytes⟩ | ⟨piece, left, hread, hbytes, hpiece⟩
      · rw [hread] at ih ⊢
        rw [hbytes]
        exact .char c ih
      · rw [hread] at ih ⊢
        rw [hbytes]
        exact .broken hpiece ih

lemma lossy_encode (cs : List Char) : Lossy (cs.flatMap utf8EncodeChar) cs := by
  induction cs with
  | nil => exact .nil
  | cons c rest ih => exact .char c ih

lemma toList_toUTF8 (s : String) : s.toUTF8.toList = s.toList.flatMap utf8EncodeChar := by
  obtain ⟨cs, rfl⟩ := s.exists_eq_ofList
  rw [toList_eq_data, String.toUTF8_eq_toByteArray, String.toByteArray_ofList, List.utf8Encode,
    List.toList_data_toByteArray, String.toList_ofList]

/-- **A sequence of octets is one text**, and it is read as this text. -/
theorem lossy_iff (bytes : ByteArray) (t : String) :
    Lossy bytes.toList t.toList ↔ decodeLossy bytes = t := by
  have hread : Lossy bytes.toList (decodeLossy bytes).toList := by
    rw [decodeLossy]
    cases hdecode : decode? bytes with
    | none =>
        rw [String.toList_ofList]
        exact lossy_characters bytes.toList
    | some s =>
        rw [← Json.toUTF8_of_decode? hdecode, toList_toUTF8]
        exact lossy_encode s.toList
  constructor
  · exact fun h => String.toList_inj.mp (hread.unique h)
  · rintro rfl
    exact hread

/-! ## The first piece that is no character -/

/-- A piece that is no character is the start of one just when its first octet announces one. -/
lemma Broken.begins_iff {b : UInt8} {read rest : List UInt8} (h : Broken (b :: read) rest) :
    Begins (b :: read) ↔ (Lead.of? b).isSome := by
  rw [Option.isSome_iff_exists]
  constructor
  · intro hbegins
    obtain ⟨l, hl, -⟩ := begins_cons_iff.mp hbegins
    exact ⟨l, lead_eq_some_iff.mpr hl⟩
  · rintro ⟨l, hl⟩
    rcases h.start with hbegins | hone
    · exact hbegins
    · obtain rfl : read = [] := by simpa using hone
      exact begins_cons_iff.mpr ⟨l, lead_eq_some_iff.mp hl, Nat.zero_le _, trivial⟩

/-- **What is told of a piece** with so many octets before it: where it begins, and how long it is,
unless the octets end within a character. -/
structure Malformed.Tells (m : Malformed) (before : Nat) (piece rest : List UInt8) : Prop where
  index : m.index = before
  length : ∀ length, m.length = some length ↔
    length = piece.length ∧ ¬ (Begins piece ∧ rest = [])

lemma firstMalformed?_char {b : UInt8} {rest left : List UInt8} {c : Char} (index : Nat)
    (hread : readChar b rest = (some c, left)) (hbytes : b :: rest = utf8EncodeChar c ++ left) :
    firstMalformed? index (b :: rest) =
      firstMalformed? (index + (utf8EncodeChar c).length) left := by
  have hlength := congrArg List.length hbytes
  rw [List.length_cons, List.length_append] at hlength
  rw [firstMalformed?, hread]
  dsimp only
  rw [if_pos Option.isSome_some, hlength, Nat.add_sub_cancel]

lemma firstMalformed?_broken {b : UInt8} {rest piece left : List UInt8} (index : Nat)
    (hread : readChar b rest = (none, left)) (hbytes : b :: rest = piece ++ left)
    (hpiece : Broken piece left) :
    ∃ m, firstMalformed? index (b :: rest) = some m ∧ m.Tells index piece left := by
  obtain ⟨b', read, rfl⟩ := List.exists_cons_of_ne_nil hpiece.ne_nil
  obtain ⟨rfl, rfl⟩ := List.cons.inj hbytes
  have hlength : (read ++ left).length + 1 - left.length = (b :: read).length := by
    rw [List.length_append, List.length_cons]
    omega
  rw [List.append_eq] at hread ⊢
  rw [firstMalformed?, hread]
  dsimp only
  rw [if_neg (by decide), hlength]
  by_cases hends : (Lead.of? b).isSome ∧ left = []
  · refine ⟨⟨index, none⟩, if_pos (by simpa using hends), rfl, fun length => ?_⟩
    simp [hpiece.begins_iff.mpr hends.1, hends.2]
  · refine ⟨⟨index, some (b :: read).length⟩, if_neg (by simpa using hends), rfl, fun length => ?_⟩
    rw [← hpiece.begins_iff] at hends
    simp [hends, eq_comm]

/-- Octets are characters only, or there is a first piece that is none. -/
lemma firstMalformed?_cases (bytes : List UInt8) (index : Nat) :
    (∃ cs : List Char, bytes = cs.flatMap utf8EncodeChar) ∨
      ∃ (cs : List Char) (piece rest : List UInt8) (m : Malformed),
        bytes = cs.flatMap utf8EncodeChar ++ (piece ++ rest) ∧ Broken piece rest ∧
        firstMalformed? index bytes = some m ∧
        m.Tells (index + (cs.flatMap utf8EncodeChar).length) piece rest := by
  induction bytes using characters.induct generalizing index with
  | case1 => exact .inl ⟨[], rfl⟩
  | case2 b rest _ ih =>
      rcases readChar_spec b rest with
        ⟨c, left, hread, hbytes⟩ | ⟨piece, left, hread, hbytes, hpiece⟩
      · rw [hread] at ih
        rw [firstMalformed?_char index hread hbytes, hbytes]
        rcases ih (index + (utf8EncodeChar c).length) with
          ⟨cs, rfl⟩ | ⟨cs, piece, rest, m, rfl, hpiece, hfirst, htells⟩
        · exact .inl ⟨c :: cs, rfl⟩
        · refine .inr ⟨c :: cs, piece, rest, m, ?_, hpiece, hfirst, ?_⟩
          · rw [List.flatMap_cons, List.append_assoc]
          · rwa [List.flatMap_cons, List.length_append, ← Nat.add_assoc]
      · obtain ⟨m, hfirst, htells⟩ := firstMalformed?_broken index hread hbytes hpiece
        exact .inr ⟨[], piece, left, m, hbytes, hpiece, hfirst, htells⟩

/-- **Octets that are no text** have a first piece that is no character, and this is the one that
they are refused for. -/
theorem malformed_of_not_text {bytes : ByteArray} (h : decode? bytes = none) :
    ∃ (cs : List Char) (piece rest : List UInt8),
      bytes.toList = cs.flatMap utf8EncodeChar ++ (piece ++ rest) ∧ Broken piece rest ∧
      (malformed bytes).Tells (cs.flatMap utf8EncodeChar).length piece rest := by
  rcases firstMalformed?_cases bytes.toList 0 with
    ⟨cs, hcs⟩ | ⟨cs, piece, rest, m, hbytes, hpiece, hfirst, htells⟩
  · -- characters only are a text
    have htext : bytes = (String.ofList cs).toUTF8 := by
      rw [← toList_inj, hcs, toList_toUTF8, String.toList_ofList]
    rw [htext, Json.decode?_toUTF8] at h
    cases h
  · refine ⟨cs, piece, rest, hbytes, hpiece, ?_⟩
    rwa [malformed, hfirst, Option.getD_some, ← Nat.zero_add (List.length _)]

end ContentSync.Text
