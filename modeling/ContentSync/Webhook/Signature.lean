import ContentSync.Digest.Base64
import ContentSync.Digest.Hmac
import ContentSync.Json.Printer
import ContentSync.Text.Blank
import ContentSync.Text.Pieces
import ContentSync.Text.Utf8
import ContentSync.Webhook.Error

/-!
# Signatures of deliveries

What is signed is not the body but a JSON object that holds the body as a text, the name of an
environment and the time of signing.  The base64 HMAC of that text travels in a header together with
the environment and the time, as `sign=…, env=…, t=…`.

* `Verifier` — a shared secret: `Verifier.compute` makes a digest, `Verifier.verify` checks one.
* `StampedSignature` — the contents of the header: `parse?` and `toHeader`, `sign` and `verify`.
* `equalOctets` — a comparison that looks at every octet whatever the outcome.
-/

namespace ContentSync.Webhook

/-- **Comparison octet by octet.**  The time it takes depends only on the lengths. -/
def equalOctets (a b : List UInt8) : Bool :=
  a.length == b.length &&
    (List.zip a b).foldl (fun acc p => acc ||| (p.1 ^^^ p.2)) (0 : UInt8) == 0

/-! ## Digests under a shared secret -/

/-- A shared secret. -/
structure Verifier where
  secret : ByteArray

namespace Verifier

/-- The base64 digest of a message. -/
def compute (v : Verifier) (message : ByteArray) : String :=
  Digest.base64 (Digest.hmacSha256 v.secret message)

/-- Whether a text is the digest of a message, blanks around it aside. -/
def accepts (v : Verifier) (message : ByteArray) (signature : String) : Bool :=
  equalOctets (v.compute message).toUTF8.toList (Text.trim signature).toUTF8.toList

/-- Refuses a text that is not the digest of a message. -/
def verify (v : Verifier) (message : ByteArray) (signature : String) : Except Error Unit :=
  if v.accepts message signature then .ok () else .error .invalidSignature

/-- A secret as it is shown. -/
def describe (_ : Verifier) : String :=
  "HmacSha256Verifier \x7b secret: \"[REDACTED]\" \x7d"

end Verifier

/-! ## The header -/

/-- What the header of a signed delivery says. -/
structure StampedSignature where
  /-- The base64 signature. -/
  digest : String
  environment : String
  /-- The time of signing in milliseconds. -/
  timestamp : Int
  deriving DecidableEq

/-- The parts of a header met so far. -/
structure Parts where
  sign : Option (List Char)
  environment : Option (List Char)
  timestamp : Option Int

/-- Takes up one piece of the header.  A later part replaces an earlier one of the same name; other
pieces do not count. -/
def Parts.take (p : Parts) (piece : List Char) : Parts :=
  match Text.splitFirst '=' (Text.trimList piece) with
  | none => p
  | some (key, value) =>
      let name := Text.trimList key
      let value := Text.trimList value
      if name = "sign".toList then { p with sign := some value }
      else if name = "env".toList then { p with environment := some value }
      else if name = "t".toList then { p with timestamp := Text.int64? value }
      else p

/-- The parts of a header. -/
def Parts.ofHeader (cs : List Char) : Parts :=
  (Text.pieces ',' cs).foldl Parts.take ⟨none, none, none⟩

namespace StampedSignature

/-- What is said of a header that has not its parts. -/
def expectedHeader : String := "expected sign=<b64>, env=<env>, t=<millis>"

/-- **Reads a header.**  All three parts must be there, and the signature must not be empty. -/
def parse (header : String) : Except Error StampedSignature :=
  match Parts.ofHeader header.toList with
  | ⟨some (c :: cs), some environment, some timestamp⟩ =>
      .ok ⟨String.ofList (c :: cs), String.ofList environment, timestamp⟩
  | _ => .error (.malformedSignature expectedHeader)

/-- The text of a header. -/
def toHeader (s : StampedSignature) : String :=
  "sign=" ++ s.digest ++ ", env=" ++ s.environment ++ ", t=" ++ toString s.timestamp

/-- **What is signed**: body, environment and time as one JSON object. -/
def envelope (body environment : String) (timestamp : Int) : Json :=
  .object [("Body", .string body), ("EnvironmentName", .string environment),
    ("TimeStamp", .int timestamp)]

/-- What is said of a body that is no text. -/
def notText (body : ByteArray) : String := "body is not UTF-8: " ++ (Text.malformed body).message

/-- The text that is signed for a body.  The body must be UTF-8. -/
def signedMessage (environment : String) (timestamp : Int) (body : ByteArray) :
    Except Error String :=
  match Text.decode? body with
  | some text => .ok (envelope text environment timestamp).render
  | none => .error (.invalidPayload (notText body))

/-- Refuses a body that was not signed with this signature. -/
def verify (s : StampedSignature) (v : Verifier) (body : ByteArray) : Except Error Unit :=
  match signedMessage s.environment s.timestamp body with
  | .error e => .error e
  | .ok message => v.verify message.toUTF8 s.digest

/-- Signs a body. -/
def sign (v : Verifier) (body : ByteArray) (environment : String) (timestamp : Int) :
    Except Error StampedSignature :=
  match signedMessage environment timestamp body with
  | .error e => .error e
  | .ok message => .ok ⟨v.compute message.toUTF8, environment, timestamp⟩

end StampedSignature

end ContentSync.Webhook
