import ContentSync.Proofs.SignatureHeader

/-!
# Which signatures survive their header

A header gives back only values that could be written in one: no comma, no blanks at the ends, and a
signature that is not empty.  These are also all that it takes.  Equals signs inside a value do no
harm, since a part is split at the first one, and a signature that was made for a body is never in
the way.

* `IsValue` — what can be the value of a part; `isValue_of_lastPart` — what a header says is one.
* `toHeader_readBack` — the signatures that are read back, and that signing makes such ones.
-/

namespace ContentSync.Webhook

/-! ## Values of parts -/

/-- **What can be the value of a part**: there is no comma in it and no blank at its ends. -/
def IsValue (value : String) : Prop :=
  ',' ∉ value.toList ∧ Text.BlankFreeEnds value.toList

instance (value : String) : Decidable (IsValue value) := inferInstanceAs (Decidable (_ ∧ _))

/-- The value of a part is taken from its piece. -/
lemma subset_of_valueNamed {name : String} {piece value : List Char}
    (h : valueNamed name piece = some value) : value ⊆ piece := by
  rw [valueNamed] at h
  split at h
  · next key after hsplit =>
      split at h
      · cases h
        have hafter : after ⊆ Text.trimList piece := by
          rw [Text.eq_append_of_splitFirst hsplit]
          simp
        exact fun c hc => Text.trimList_subset piece (hafter (Text.trimList_subset after hc))
      · cases h
  · cases h

lemma isValue_of_lastPart {name header value : String}
    (h : lastPart name header = some value.toList) : IsValue value := by
  refine ⟨?_, blankFreeEnds_of_lastPart h⟩
  obtain ⟨piece, hpiece, hvalue⟩ := List.mem_filterMap.mp (List.mem_of_getLast? h)
  exact fun hcomma => Text.notMem_of_mem_pieces hpiece (subset_of_valueNamed hvalue hcomma)

/-! ## Reading the written form -/

namespace StampedSignature

/-- **Reading back.**  A signature is read back from its header exactly when it is not empty and
both texts can be values of parts; the time may be any integer of 64 bits.  A signature that was
made for a body, in an environment whose name can be a value, is read back, and is found to be the
one for this body. -/
theorem toHeader_readBack :
    (∀ s : StampedSignature, Text.IsInt64 s.timestamp →
      (parse s.toHeader = .ok s ↔ s.digest ≠ "" ∧ IsValue s.digest ∧ IsValue s.environment)) ∧
    ∀ (v : Verifier) (body : ByteArray) (text environment : String) (timestamp : Int),
      Text.decode? body = some text → IsValue environment → Text.IsInt64 timestamp →
      ∃ signed, sign v body environment timestamp = .ok signed ∧
        parse signed.toHeader = .ok signed ∧ signed.verify v body = .ok () := by
  refine ⟨fun s htimestamp => ⟨fun h => ?_, ?_⟩, ?_⟩
  · have hsaid := parse_eq_ok_iff.mp h
    exact ⟨hsaid.digest_ne, isValue_of_lastPart hsaid.digest, isValue_of_lastPart hsaid.environment⟩
  · rintro ⟨hne, ⟨hdigest, hends⟩, ⟨henvironment, hends'⟩⟩
    exact parse_of_saidBy (saidBy_toHeader hne hdigest hends henvironment hends' htimestamp)
  · intro v body text environment timestamp htext ⟨henvironment, hends⟩ htimestamp
    obtain rfl := Json.toUTF8_of_decode? htext
    have hsaid := saidBy_ofText v text henvironment hends htimestamp
    exact ⟨ofText v text environment timestamp, sign_toUTF8 v text environment timestamp,
      parse_of_saidBy hsaid, verify_of_genuine hsaid (genuine_ofText v text environment timestamp)⟩

/-- Equals signs, an empty environment and the least time are read back, an environment with a comma
is not; and a body is signed for an environment without a name. -/
theorem toHeader_readBack_edges :
    let s : StampedSignature := ⟨"a=b==", "", -9223372036854775808⟩
    let listed : StampedSignature := ⟨"a=b==", "one, two", 9223372036854775807⟩
    Text.IsInt64 s.timestamp ∧ Text.IsInt64 listed.timestamp ∧
      parse s.toHeader = .ok s ∧ parse listed.toHeader ≠ .ok listed ∧
      Text.decode? "\x7b\x7d".toUTF8 = some "\x7b\x7d" ∧ IsValue "" ∧
      ∃ signed, sign ⟨"secret".toUTF8⟩ "\x7b\x7d".toUTF8 "" s.timestamp = .ok signed ∧
        parse signed.toHeader = .ok signed ∧
        signed.verify ⟨"secret".toUTF8⟩ "\x7b\x7d".toUTF8 = .ok () := by
  intro s listed
  have hs : Text.IsInt64 s.timestamp := by decide
  have hlisted : Text.IsInt64 listed.timestamp := by decide
  have htext : Text.decode? "\x7b\x7d".toUTF8 = some "\x7b\x7d" := Json.decode?_toUTF8 _
  refine ⟨hs, hlisted, (toHeader_readBack.1 s hs).mpr (by decide), ?_, htext, by decide,
    toHeader_readBack.2 _ _ _ "" _ htext (by decide) hs⟩
  rw [Ne, toHeader_readBack.1 listed hlisted]
  decide

end StampedSignature

end ContentSync.Webhook
