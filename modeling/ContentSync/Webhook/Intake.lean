import ContentSync.Json.Parser
import ContentSync.Warning
import ContentSync.Webhook.Event
import ContentSync.Webhook.Signature

/-!
# Accepting deliveries

A delivery is checked in this order: its size, the presence and form of the signature header, the
time of signing, the signature, the JSON of the body, and that the signature was not accepted
before.  Without a secret only the size and the JSON count.

* `IntakeConfig` — the limits.
* `ReplayGuard` — the signatures accepted lately; `ReplayGuard.accept` records one or refuses it.
* `Handler.receive` — all checks.

A signature is recorded only when everything else is in order, so a delivery that is refused leaves
the guard's verdict on later ones as it was.
-/

namespace ContentSync.Webhook

/-- The header that carries the signature. -/
def signatureHeader : String := "gcms-signature"

/-- Limits for deliveries. -/
structure IntakeConfig where
  /-- Most octets of a body. -/
  maxPayloadSize : Nat
  /-- Allowed distance between the time of signing and the clock. -/
  timestampTolerance : Duration
  /-- Whether a signature is refused when it comes again within `replayTtl`. -/
  replayProtection : Bool
  replayTtl : Duration
  deriving DecidableEq

namespace IntakeConfig

/-- Five mebibytes, five minutes, and a memory of a quarter of an hour. -/
def default : IntakeConfig := ⟨5 * 1024 * 1024, .seconds 300, true, .seconds 900⟩

/-- The limits as they are shown. -/
def describe (c : IntakeConfig) : String :=
  "WebhookConfig \x7b max_payload_size: " ++ toString c.maxPayloadSize ++
    ", timestamp_tolerance: " ++ c.timestampTolerance.describe ++
    ", replay_protection: " ++ (if c.replayProtection then "true" else "false") ++
    ", replay_ttl: " ++ c.replayTtl.describe ++ " \x7d"

end IntakeConfig

/-- The clocks at one moment: the time of day, and a time that only ever grows. -/
structure Clock where
  now : Instant
  elapsed : Duration

/-! ## Signatures accepted lately -/

/-- The accepted signatures and when they were accepted. -/
structure ReplayGuard where
  accepted : List (String × Duration)

namespace ReplayGuard

/-- Nothing was accepted yet. -/
def empty : ReplayGuard := ⟨[]⟩

/-- Forgets what was accepted `ttl` ago or earlier. -/
def refresh (g : ReplayGuard) (ttl : Duration) (elapsed : Duration) : ReplayGuard :=
  ⟨g.accepted.filter fun p => elapsed.nanos - p.2.nanos < ttl.nanos⟩

/-- Whether a signature is remembered. -/
def remembers (g : ReplayGuard) (id : String) : Bool := g.accepted.any fun p => p.1 == id

/-- **Records a signature**, or refuses one that is still remembered. -/
def accept (g : ReplayGuard) (ttl : Duration) (elapsed : Duration) (id : String) :
    Except Error Unit × ReplayGuard :=
  let fresh := g.refresh ttl elapsed
  if fresh.remembers id then (.error (.replayDetected id), fresh)
  else (.ok (), ⟨(id, elapsed) :: fresh.accepted⟩)

end ReplayGuard

/-! ## The handler -/

/-- The rules for deliveries.  Without a verifier signatures are not looked at. -/
structure Handler where
  verifier : Option Verifier
  config : IntakeConfig
  /-- What is said of a body that is no JSON. -/
  complaint : Json.Complaint

/-- A delivery: headers and body. -/
structure Delivery where
  headers : Entries String
  body : ByteArray

/-- The value of a header; upper and lower case of its name are the same. -/
def headerValue? : Entries String → String → Option String
  | [], _ => none
  | (k, v) :: rest, name =>
      if k.toList.map Char.toLower = name.toList.map Char.toLower then some v
      else headerValue? rest name

namespace Handler

/-- The handler for a secret.  No secret and an empty one are the same. -/
def new (secret : Option String) (config : IntakeConfig) (complaint : Json.Complaint := .plain) :
    Handler :=
  ⟨match secret with
    | some s => if s.isEmpty then none else some ⟨s.toUTF8⟩
    | none => none, config, complaint⟩

/-- Whether deliveries must be signed. -/
def requiresSignature (h : Handler) : Bool := h.verifier.isSome

/-- A handler as it is shown. -/
def describe (h : Handler) : String :=
  "WebhookHandler \x7b verifier: " ++
    (match h.verifier with
      | some v => "Some(" ++ v.describe ++ ")"
      | none => "None") ++
    ", config: " ++ h.config.describe ++ ", .. \x7d"

/-- Refuses a time of signing that is too far from the clock. -/
def checkTimestamp (config : IntakeConfig) (now : Instant) (timestamp : Int) :
    Except Error Unit :=
  if config.timestampTolerance.toMillis < (now.toMillis - timestamp).natAbs then
    .error (.staleTimestamp timestamp now.toMillis config.timestampTolerance)
  else .ok ()

/-- The JSON of a body. -/
def readBody (complaint : Json.Complaint) (body : ByteArray) : Except Error Json :=
  match Json.parseBytes? body with
  | some v => .ok v
  | none => .error (.json (complaint body))

/-- The header of a delivery. -/
def readHeader (headers : Entries String) : Except Error StampedSignature :=
  match headerValue? headers signatureHeader with
  | some text => StampedSignature.parse text
  | none => .error (.missingSignature signatureHeader)

/-- What the checks say before the guard is asked. -/
structure Verdict where
  result : Except Error (StampedSignature × Json)
  warnings : List Warning

/-- **The checks of a signed delivery** but for the guard. -/
def checkSigned (v : Verifier) (config : IntakeConfig) (complaint : Json.Complaint) (now : Instant)
    (d : Delivery) : Verdict :=
  match readHeader d.headers with
  | .error e => ⟨.error e, []⟩
  | .ok stamped =>
      match checkTimestamp config now stamped.timestamp with
      | .error e => ⟨.error e, []⟩
      | .ok () =>
          match stamped.verify v d.body with
          | .error e => ⟨.error e, [.signatureRejected]⟩
          | .ok () =>
              match readBody complaint d.body with
              | .error e => ⟨.error e, []⟩
              | .ok payload => ⟨.ok (stamped, payload), []⟩

/-- What becomes of a delivery: the event or the reason to refuse it, the guard afterwards, and
what is warned of. -/
structure Receipt where
  result : Except Error Event
  guard : ReplayGuard
  warnings : List Warning

/-- **Accepts or refuses a delivery.** -/
def receive (h : Handler) (g : ReplayGuard) (clock : Clock) (d : Delivery) : Receipt :=
  if h.config.maxPayloadSize < d.body.size then
    ⟨.error (.payloadTooLarge d.body.size h.config.maxPayloadSize), g, []⟩
  else
    match h.verifier with
    | none =>
        match readBody h.complaint d.body with
        | .error e => ⟨.error e, g, []⟩
        | .ok payload =>
            ⟨.ok (Event.unsigned ("unsigned-" ++ toString clock.now.toMillis) clock.now payload),
              g, []⟩
    | some v =>
        match checkSigned v h.config h.complaint clock.now d with
        | ⟨.error e, warnings⟩ => ⟨.error e, g, warnings⟩
        | ⟨.ok (stamped, payload), warnings⟩ =>
            let event := (Event.unsigned stamped.digest clock.now payload).withSignature
              stamped.environment stamped.timestamp
            if h.config.replayProtection then
              match g.accept h.config.replayTtl clock.elapsed stamped.digest with
              | (.error e, g) => ⟨.error e, g, warnings⟩
              | (.ok (), g) => ⟨.ok event, g, warnings⟩
            else ⟨.ok event, g, warnings⟩

end Handler

end ContentSync.Webhook
