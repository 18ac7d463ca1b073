import ContentSync.Proofs.Digests

/-!
# Which texts are accepted as a digest

The comparison of two texts does not stop at the first difference: it collects the differences of
all octets that stand at the same place, and looks at the lengths besides.  What it collects is zero
only if nothing differs, so it is equality after all, and a signature is accepted exactly when it is
the base64 form of the digest, whatever blanks there are around it.

* `Verifier.IsDigest` — what a signature of a message has to be; `isDigest_iff`.
* `verify_iff_isDigest` — the comparison is equality, and what this means for signatures.
-/

namespace ContentSync.Webhook

namespace Verifier

variable (v : Verifier) (message : ByteArray)

/-- **A signature that is the digest of a message** under the secret: what is left of it without the
blanks around it is the base64 form of the digest. -/
def IsDigest (signature : String) : Prop :=
  ∃ text : String, Text.Trimmed signature.toList text.toList ∧
    Digest.IsBase64 (Digest.hmacSha256 v.secret message).toList text.toList

/-- The text that is computed for a message is the base64 form of its digest. -/
lemma isBase64_iff_eq_compute (text : String) :
    Digest.IsBase64 (Digest.hmacSha256 v.secret message).toList text.toList ↔
      text = v.compute message := by
  rw [Digest.isBase64_iff, compute, Digest.base64, ← String.toList_inj, String.toList_ofList]

lemma isDigest_iff (signature : String) :
    v.IsDigest message signature ↔ Text.trim signature = v.compute message := by
  constructor
  · rintro ⟨text, htrimmed, hdigest⟩
    rw [← Text.trimmed_iff.mp htrimmed]
    exact (v.isBase64_iff_eq_compute message text).mp hdigest
  · intro h
    exact ⟨Text.trim signature, Text.trimmed_iff.mpr rfl,
      (v.isBase64_iff_eq_compute message _).mpr h⟩

lemma verify_of_isDigest {signature : String} (h : v.IsDigest message signature) :
    v.verify message signature = .ok () :=
  if_pos ((v.accepts_iff message signature).mpr ((v.isDigest_iff message signature).mp h))

lemma verify_of_not_isDigest {signature : String} (h : ¬ v.IsDigest message signature) :
    v.verify message signature = .error .invalidSignature :=
  if_neg fun haccepts =>
    h ((v.isDigest_iff message signature).mpr ((v.accepts_iff message signature).mp haccepts))

end Verifier

/-- **Digests are compared as a whole.**  The comparison octet by octet is equality, whatever the
octets and the lengths are.  So a signature is accepted for a message when it is the digest of the
message, which is the text that is computed for it with any blanks around, and each other text is
refused as an invalid signature. -/
theorem verify_iff_isDigest :
    (∀ a b : List UInt8, equalOctets a b ↔ a = b) ∧
    ∀ (v : Verifier) (message : ByteArray) (signature : String),
      (v.IsDigest message signature ↔ Text.trim signature = v.compute message) ∧
      (v.verify message signature = .ok () ↔ v.IsDigest message signature) ∧
      (v.verify message signature = .error .invalidSignature ↔
        ¬ v.IsDigest message signature) := by
  refine ⟨fun a b => equalOctets_iff, fun v message signature => ⟨v.isDigest_iff message signature,
    ⟨fun haccepted => ?_, v.verify_of_isDigest message⟩,
    ⟨fun hrefused hdigest => ?_, v.verify_of_not_isDigest message⟩⟩⟩
  · by_contra hother
    cases haccepted.symm.trans (v.verify_of_not_isDigest message hother)
  · cases hrefused.symm.trans (v.verify_of_isDigest message hdigest)

/-- Octets are not taken for longer ones that begin with them. -/
example : equalOctets [0x68, 0x65] [0x68, 0x65, 0x6c] = false := by decide

end ContentSync.Webhook
