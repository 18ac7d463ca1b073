import ContentSync.Proofs.QuotedTexts
import ContentSync.Proofs.SignatureHeader

/-!
# The signed envelope is unambiguous

What is signed holds a body and the name of an environment, two texts that the sender is free to
choose, one behind the other in one text.  Neither can imitate the marks between them: each is quoted,
and a quoted text ends where it says it ends.

* `toList_render_envelope` — the signed text, character by character.
* `envelope_inj` — it tells body, environment and time.
* `Verifier.Collides` — different messages with one digest.
* `signedMessage_unambiguous` — for what a signature is accepted.
-/

namespace ContentSync.Webhook

namespace StampedSignature

/-! ## The signed text -/

/-- The signed text, character by character. -/
lemma toList_render_envelope (body environment : String) (timestamp : Int) :
    (envelope body environment timestamp).render.toList =
      '\x7b' :: (Json.quoteChars "Body".toList ++ ':' :: (Json.quoteChars body.toList ++
        ',' :: (Json.quoteChars "EnvironmentName".toList ++ ':' ::
          (Json.quoteChars environment.toList ++ ',' :: (Json.quoteChars "TimeStamp".toList ++ ':' ::
            ((toString timestamp).toList ++ ['\x7d'])))))) := by
  rw [Json.toList_render]
  simp [envelope, Json.chars, Json.charsMembers, Json.int, Json.Number.render, List.intercalate,
    List.intersperse]

/-- **The signed text tells body, environment and time.**  It is read from the front: the names are
fixed, and each of the two texts ends where it says it ends. -/
lemma envelope_inj {body body' environment environment' : String} {timestamp timestamp' : Int}
    (h : (envelope body environment timestamp).render =
      (envelope body' environment' timestamp').render) :
    body = body' ∧ environment = environment' ∧ timestamp = timestamp' := by
  have hchars := congrArg String.toList h
  rw [toList_render_envelope, toList_render_envelope] at hchars
  simp only [List.cons.injEq, true_and, List.append_cancel_left_eq] at hchars
  obtain ⟨hbody, hafter⟩ := Json.quoteChars_append_inj hchars
  simp only [List.cons.injEq, true_and, List.append_cancel_left_eq] at hafter
  obtain ⟨henvironment, hlast⟩ := Json.quoteChars_append_inj hafter
  simp only [List.cons.injEq, true_and, List.append_cancel_left_eq] at hlast
  exact ⟨String.toList_inj.mp hbody, String.toList_inj.mp henvironment,
    Text.toString_int_inj (String.toList_inj.mp (List.append_cancel_right hlast))⟩

/-- The message that is signed for a body that is UTF-8. -/
lemma signedMessage_of_text {body : ByteArray} {text : String}
    (htext : Text.decode? body = some text) (environment : String) (timestamp : Int) :
    signedMessage environment timestamp body = .ok (envelope text environment timestamp).render := by
  rw [signedMessage, htext]

end StampedSignature

/-! ## Altered deliveries -/

/-- **Different messages with one digest** under a secret. -/
def Verifier.Collides (v : Verifier) (message message' : String) : Prop :=
  message ≠ message' ∧
    Digest.hmacSha256 v.secret message.toUTF8 = Digest.hmacSha256 v.secret message'.toUTF8

namespace StampedSignature

/-- A digest is accepted for a message when it was made for it, or for one that collides with it. -/
lemma accepts_compute_iff (v : Verifier) (message message' : String) :
    v.accepts message'.toUTF8 (v.compute message.toUTF8) ↔
      message = message' ∨ v.Collides message message' := by
  rw [Verifier.accepts_iff, Verifier.trim_compute]
  constructor
  · intro hsame
    by_cases hmessage : message = message'
    · exact .inl hmessage
    · exact .inr ⟨hmessage, Digest.base64_inj hsame⟩
  · rintro (rfl | ⟨-, hdigest⟩)
    · rfl
    · exact congrArg Digest.base64 hdigest

/-- **The signed envelope is unambiguous.**  Two bodies that are UTF-8, with environments and times,
have one signed message only if all three agree, whatever the texts contain.  So a signature that was
made for one of them is accepted for the other only if they are the same or their messages collide;
else it is refused as invalid. -/
theorem signedMessage_unambiguous {body body' : ByteArray} {text text' : String}
    (htext : Text.decode? body = some text) (htext' : Text.decode? body' = some text')
    (environment environment' : String) (timestamp timestamp' : Int) :
    ∃ message message',
      signedMessage environment timestamp body = .ok message ∧
      signedMessage environment' timestamp' body' = .ok message' ∧
      (message = message' ↔
        body = body' ∧ environment = environment' ∧ timestamp = timestamp') ∧
      ∀ v : Verifier, ∃ s, sign v body environment timestamp = .ok s ∧
        let altered := { s with environment := environment', timestamp := timestamp' }
        (altered.verify v body' = .ok () ↔
          (body = body' ∧ environment = environment' ∧ timestamp = timestamp') ∨
            v.Collides message message') ∧
        (altered.verify v body' ≠ .ok () →
          altered.verify v body' = .error .invalidSignature) := by
  have hmessage := signedMessage_of_text htext environment timestamp
  have hmessage' := signedMessage_of_text htext' environment' timestamp'
  have hsame : (envelope text environment timestamp).render =
      (envelope text' environment' timestamp').render ↔
        body = body' ∧ environment = environment' ∧ timestamp = timestamp' := by
    constructor
    · intro heq
      obtain ⟨rfl, rfl, rfl⟩ := envelope_inj heq
      exact ⟨(Json.toUTF8_of_decode? htext).symm.trans (Json.toUTF8_of_decode? htext'), rfl, rfl⟩
    · rintro ⟨rfl, rfl, rfl⟩
      cases htext.symm.trans htext'
      rfl
  refine ⟨_, _, hmessage, hmessage', hsame, fun v => ⟨_, by rw [sign, hmessage], ?_⟩⟩
  intro altered
  have hverify : altered.verify v body' =
      v.verify (envelope text' environment' timestamp').render.toUTF8
        (v.compute (envelope text environment timestamp).render.toUTF8) := by
    rw [verify, hmessage']
  rw [hverify, Verifier.verify, ← hsame, ← accepts_compute_iff]
  split
  · next haccepts => exact ⟨iff_of_true rfl haccepts, fun hne => absurd rfl hne⟩
  · next hrefused => exact ⟨iff_of_false (fun h => by cases h) hrefused, fun _ => rfl⟩

/-- A body that imitates the marks: without quotes around it, the two messages would be one. -/
theorem signedMessage_unambiguous_imitation :
    let text := "a\",\"EnvironmentName\":\"b"
    let environment := "b\",\"EnvironmentName\":\"c"
    Text.decode? text.toUTF8 = some text ∧ Text.decode? "a".toUTF8 = some "a" ∧
      ∃ message message', signedMessage "c" 0 text.toUTF8 = .ok message ∧
        signedMessage environment 0 "a".toUTF8 = .ok message' ∧ message ≠ message' ∧
        ∀ v : Verifier, ¬ v.Collides message message' → ∃ s, sign v text.toUTF8 "c" 0 = .ok s ∧
          { s with environment := environment, timestamp := 0 }.verify v "a".toUTF8 =
            .error .invalidSignature := by
  intro text environment
  have htext := Json.decode?_toUTF8 text
  have htext' := Json.decode?_toUTF8 "a"
  have hdiffer : ¬ (text.toUTF8 = "a".toUTF8 ∧ "c" = environment ∧ (0 : Int) = 0) :=
    fun h => absurd h.2.1 (by decide)
  obtain ⟨message, message', hmessage, hmessage', hsame, hrefused⟩ :=
    signedMessage_unambiguous htext htext' "c" environment 0 0
  refine ⟨htext, htext', message, message', hmessage, hmessage', fun h => hdiffer (hsame.mp h), ?_⟩
  intro v hcollides
  obtain ⟨s, hsign, haccepted, herror⟩ := hrefused v
  exact ⟨s, hsign, herror fun hok => (haccepted.mp hok).elim hdiffer hcollides⟩

end StampedSignature

end ContentSync.Webhook
