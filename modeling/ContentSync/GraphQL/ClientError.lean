import ContentSync.GraphQL.Response
import ContentSync.Http.Exchange
import ContentSync.Http.Status

/-!
# Why a request failed

Either no complete reply came back, or it was not a success, or it could not be read, or it reports
errors.  Only failures that may pass by themselves are worth another try: no connection, no reply in
time, a server error, too many requests.
-/

namespace ContentSync.GraphQL

open Http (Failure)

/-- Why a request failed. -/
inductive ClientError where
  /-- There was no complete reply. -/
  | noReply (failure : Failure) (detail : Option String)
  /-- The reply was not a success.  The body is shortened. -/
  | status (code : Nat) (body : String) (retryAfter : Option Duration)
  /-- A body could not be read as the JSON that was expected. -/
  | json (reason : String)
  /-- The reply lists errors. -/
  | reported (errors : List ResponseError)
  /-- A value set for a header cannot be sent. -/
  | invalidHeader (name : String)
  /-- The reply has not the expected shape. -/
  | protocol (reason : String)

/-- The name of a failure in messages. -/
def failureName : Failure → String
  | .timeout => "Timeout"
  | .connect => "Connect"
  | .other => "Other"

/-- Reads the kind of a failure. -/
def failureReader : Json.Reader Failure :=
  Json.Reader.variant fun
    | "timeout" => some .timeout
    | "connect" => some .connect
    | "other" => some .other
    | _ => none

namespace ClientError

/-- The wording of an error. -/
def message : ClientError → String
  | .noReply failure detail =>
      "request failed (" ++ failureName failure ++ ")" ++
        (match detail with
          | some text => ": " ++ text
          | none => "")
  | .status code body _ => "HTTP " ++ Http.describeStatus code ++ ": " ++ body
  | .json reason => "invalid JSON: " ++ reason
  | .reported errors => "GraphQL errors: " ++ "; ".intercalate (errors.map ResponseError.message)
  | .invalidHeader name => "invalid value for header `" ++ name ++ "`"
  | .protocol reason => "unexpected response: " ++ reason

/-- **Whether another try may succeed.** -/
def isRetryable : ClientError → Bool
  | .noReply failure _ => failure != .other
  | .status code _ _ => code == Http.tooManyRequests || Http.isServerError code
  | _ => false

/-- Whether the failure lies below the contents of the reply. -/
def isTransport : ClientError → Bool
  | .noReply _ _ => true
  | .status _ _ _ => true
  | _ => false

/-- The delay the server asked for. -/
def retryAfter : ClientError → Option Duration
  | .status _ _ hint => hint
  | _ => none

/-- A failure given as JSON, with its detail. -/
def noReplyReader : Json.Reader ClientError :=
  (Json.Reader.record [
    .needed "kind" failureReader fun (p : Failure × String) k => (k, p.2),
    .needed "message" .string fun p m => (p.1, m)] (.other, "")).andThen
    fun p => .ok (.noReply p.1 (some p.2))

end ClientError

end ContentSync.GraphQL
