import ContentSync.Proofs.Base64Form
import ContentSync.Proofs.TextPieces
import ContentSync.Webhook.Signature
import Mathlib.Data.List.Forall2

/-!
# Digests as texts

A digest is written in base64, and a signature is accepted when it is the digest letter by letter.

* `equalOctets_iff` — the comparison octet by octet is equality.
* `isPlain_of_mem` — the characters of a base64 text.
* `base64_inj` — a base64 text tells its octets.
* `compute_ne` — a digest is not empty.
* `accepts_iff` — which signatures are accepted.
-/

namespace ContentSync

/-! ## Octets -/

lemma toList_loop (bytes : ByteArray) (i : Nat) (r : List UInt8) :
    ByteArray.toList.loop bytes i r = r.reverse ++ bytes.data.toList.drop i := by
  fun_induction ByteArray.toList.loop bytes i r with
  | case1 i r hi ih =>
      have hlen : i < bytes.data.toList.length := hi
      have hget : bytes.get! i = bytes.data.toList[i] := getElem!_pos bytes.data i hi
      rw [ih, List.drop_eq_getElem_cons hlen, hget, List.reverse_cons, List.append_assoc]
      rfl
  | case2 i r hi =>
      rw [List.drop_eq_nil_of_le (by simpa using Nat.le_of_not_lt hi), List.append_nil]

/-- The octets of a sequence are the items of the array that holds them. -/
lemma toList_eq_data (bytes : ByteArray) : bytes.toList = bytes.data.toList := by
  rw [ByteArray.toList, toList_loop]
  rfl

lemma toList_inj {a b : ByteArray} : a.toList = b.toList ↔ a = b := by
  refine ⟨fun h => ?_, fun h => h ▸ rfl⟩
  rw [toList_eq_data, toList_eq_data] at h
  exact ByteArray.ext (Array.toList_inj.mp h)

lemma toList_toUTF8_inj {a b : String} : a.toUTF8.toList = b.toUTF8.toList ↔ a = b :=
  toList_inj.trans String.toByteArray_inj

namespace Webhook

/-- Differences are only ever added. -/
lemma foldl_differences_iff (ps : List (UInt8 × UInt8)) (acc : UInt8) :
    ps.foldl (fun acc p => acc ||| (p.1 ^^^ p.2)) acc = 0 ↔ acc = 0 ∧ ∀ p ∈ ps, p.1 = p.2 := by
  induction ps generalizing acc with
  | nil => simp
  | cons p ps ih =>
      rw [List.foldl_cons, ih, UInt8.or_eq_zero_iff, UInt8.xor_eq_zero_iff, List.forall_mem_cons,
        and_assoc]

/-- **The comparison octet by octet is equality.** -/
lemma equalOctets_iff {a b : List UInt8} : equalOctets a b ↔ a = b := by
  rw [equalOctets, Bool.and_eq_true, beq_iff_eq, beq_iff_eq, foldl_differences_iff]
  constructor
  · rintro ⟨hlength, -, hsame⟩
    have hall : List.Forall₂ Eq a b :=
      List.forall₂_iff_zip.mpr ⟨hlength, fun hmem => hsame _ hmem⟩
    rwa [List.forall₂_eq_eq_eq] at hall
  · rintro rfl
    refine ⟨rfl, rfl, fun p hp => ?_⟩
    have hall : List.Forall₂ Eq a a := by rw [List.forall₂_eq_eq_eq]
    exact (List.forall₂_iff_zip.mp hall).2 hp

end Webhook

/-! ## Base64 -/

namespace Digest

/-- The characters that stand for themselves wherever they are: visible, and no comma. -/
def isPlain (c : Char) : Bool := 33 ≤ c.toNat && c.toNat < 127 && c != ','

lemma isPlain_of_isDigit {c : Char} (h : c.isDigit) : isPlain c := by
  simp only [Char.isDigit, Bool.and_eq_true, decide_eq_true_eq, ge_iff_le,
    UInt32.le_iff_toNat_le] at h
  have hlow : 48 ≤ c.toNat := h.1
  have hhigh : c.toNat ≤ 57 := h.2
  have hcomma : c ≠ ',' := by
    rintro rfl
    exact absurd hlow (by decide)
  simp [isPlain, hcomma]
  omega

lemma isPlain_letter : ∀ d : Fin 64, isPlain (letter d) := by decide +kernel

lemma isPlain_of_mem_base64Chars {c : Char} (bs : List UInt8) (h : c ∈ base64Chars bs) :
    isPlain c := by
  obtain ⟨digits, -, ⟨signs, -, htext⟩, -⟩ := isBase64_base64Chars bs
  rw [htext, List.mem_append] at h
  rcases h with hletter | hsign
  · obtain ⟨d, -, rfl⟩ := List.mem_map.mp hletter
    exact isPlain_letter d
  · rw [List.eq_of_mem_replicate hsign]
    rfl

/-- **A base64 text** consists of plain characters. -/
lemma isPlain_of_mem {bytes : ByteArray} {c : Char} (h : c ∈ (base64 bytes).toList) :
    isPlain c := by
  rw [base64, String.toList_ofList] at h
  exact isPlain_of_mem_base64Chars bytes.toList h

lemma ne_comma_of_isPlain {c : Char} (h : isPlain c) : c ≠ ',' := by
  rintro rfl
  exact absurd h (by decide)

lemma isBlank_of_isPlain {c : Char} (h : isPlain c) : Text.isBlank c = false := by
  simp only [isPlain, Bool.and_eq_true, decide_eq_true_eq] at h
  simp only [Text.isBlank, Bool.or_eq_false_iff, Bool.and_eq_false_iff, decide_eq_false_iff_not,
    beq_eq_false_iff_ne]
  omega

/-- **A base64 text tells the octets** that it was written for. -/
lemma base64_inj {a b : ByteArray} (h : base64 a = base64 b) : a = b := by
  have hoctets := base64Chars_inj (String.ofList_inj.mp h)
  rw [toList_eq_data, toList_eq_data] at hoctets
  exact ByteArray.ext (Array.toList_inj.mp hoctets)

/-- Only the empty sequence is written as the empty text. -/
lemma base64_ne {bytes : ByteArray} (h : bytes.toList ≠ []) : base64 bytes ≠ "" := by
  intro hempty
  have hchars : base64Chars bytes.toList = base64Chars [] := String.ofList_inj.mp hempty
  exact h (base64Chars_inj hchars)

lemma toList_sha256_ne (message : ByteArray) : (sha256 message).toList ≠ [] := by
  rw [sha256, toList_eq_data]
  simp [State.octets, bigEndian]

end Digest

namespace Webhook.Verifier

variable (v : Verifier) (message : ByteArray)

lemma compute_ne : v.compute message ≠ "" :=
  Digest.base64_ne (Digest.toList_sha256_ne _)

/-- A digest has no blanks at its ends. -/
lemma blankFreeEnds_compute : Text.BlankFreeEnds (v.compute message).toList :=
  Text.blankFreeEnds_of_forall fun _ hc => Digest.isBlank_of_isPlain (Digest.isPlain_of_mem hc)

lemma trim_compute : Text.trim (v.compute message) = v.compute message := by
  rw [Text.trim, Text.trimList_eq_self_iff.mpr (v.blankFreeEnds_compute message),
    String.ofList_toList]

/-- **A signature is accepted** when it is the digest, blanks around it aside. -/
lemma accepts_iff (signature : String) :
    v.accepts message signature ↔ Text.trim signature = v.compute message := by
  rw [accepts, Webhook.equalOctets_iff, toList_toUTF8_inj, eq_comm]

end Webhook.Verifier

end ContentSync
