import ContentSync.Time.Duration

/-!
# Why a delivery is refused
-/

namespace ContentSync.Webhook

/-- Why a delivery is refused. -/
inductive Error where
  /-- The signature is not that of the body. -/
  | invalidSignature
  /-- The header that carries the signature is missing. -/
  | missingSignature (header : String)
  /-- The header has not the expected parts. -/
  | malformedSignature (reason : String)
  /-- The time of signing is too far from the clock; times in milliseconds. -/
  | staleTimestamp (timestamp now : Int) (tolerance : Duration)
  /-- The same signature was accepted a short time ago. -/
  | replayDetected (id : String)
  | payloadTooLarge (size limit : Nat)
  | invalidPayload (reason : String)
  /-- The body is not JSON, or not JSON of the expected shape. -/
  | json (reason : String)
  deriving DecidableEq

namespace Error

/-- The wording of an error. -/
def message : Error → String
  | .invalidSignature => "signature does not match payload"
  | .missingSignature header => "request is unsigned: no `" ++ header ++ "` header"
  | .malformedSignature reason => "unreadable signature header: " ++ reason
  | .staleTimestamp timestamp now tolerance =>
      "signed at " ++ toString timestamp ++ " ms but now is " ++ toString now ++
        " ms (tolerance " ++ tolerance.describe ++ ")"
  | .replayDetected id => "event " ++ id ++ " was already delivered"
  | .payloadTooLarge size limit =>
      "body of " ++ toString size ++ " bytes over the " ++ toString limit ++ " byte limit"
  | .invalidPayload reason => "invalid payload: " ++ reason
  | .json reason => "payload is not valid JSON: " ++ reason

/-- Whether the sender could not be authenticated, as opposed to having sent a bad body. -/
def isAuthFailure : Error → Bool
  | .payloadTooLarge _ _ => false
  | .invalidPayload _ => false
  | .json _ => false
  | _ => true

end Error

end ContentSync.Webhook
