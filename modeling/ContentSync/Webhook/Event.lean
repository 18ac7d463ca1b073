import ContentSync.Json.Reading
import ContentSync.Text.Pieces
import ContentSync.Time.Reading
import ContentSync.Webhook.Error

/-!
# Events

An event is a delivery that was accepted: its payload, and what its signature said if it had one.
-/

namespace ContentSync.Webhook

open Json (Reader)

/-- A delivery that was accepted. -/
structure Event where
  /-- The signature; for unsigned deliveries a name made from the time. -/
  id : String
  receivedAt : Instant
  /-- The environment that was signed, if any. -/
  environment : Option String
  /-- The time of signing, if any. -/
  signedAt : Option Instant
  payload : Json

/-- The value at the end of a path of keys. -/
def valueAt : Json → List (List Char) → Option Json
  | v, [] => some v
  | v, key :: rest =>
      match v.get? (String.ofList key) with
      | some w => valueAt w rest
      | none => none

namespace Event

/-- An event without signature. -/
def unsigned (id : String) (receivedAt : Instant) (payload : Json) : Event :=
  ⟨id, receivedAt, none, none, payload⟩

/-- The event with what its signature said.  A time that no calendar year holds is left out. -/
def withSignature (e : Event) (environment : String) (signedAtMillis : Int) : Event :=
  { e with environment := some environment, signedAt := Instant.ofMillis? signedAtMillis }

/-- The value at a dotted path of the payload. -/
def get? (e : Event) (path : String) : Option Json :=
  valueAt e.payload (Text.pieces '.' path.toList)

/-- The text at a dotted path of the payload. -/
def getString? (e : Event) (path : String) : Option String := (e.get? path).bind Json.string?

/-- The payload read as a typed value. -/
def read {α : Type} (e : Event) (r : Reader α) : Except Error α :=
  match r.ofJson e.payload with
  | .ok v => .ok v
  | .error err => .error (.json err.message)

/-- Reads an event. -/
def reader : Reader Event :=
  Reader.record [
    .needed "id" .string fun e s => { e with id := s },
    .needed "received_at" Instant.reader fun e t => { e with receivedAt := t },
    .nullable "environment" .string fun e s => { e with environment := s },
    .nullable "signed_at" Instant.reader fun e t => { e with signedAt := t },
    .needed "payload" .json fun e v => { e with payload := v }]
    ⟨"", ⟨0, 0⟩, none, none, .null⟩

end Event

end ContentSync.Webhook
