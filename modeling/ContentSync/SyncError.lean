import ContentSync.GraphQL.ClientError
import ContentSync.Webhook.Error

/-!
# Why an operation of the source failed
-/

namespace ContentSync

/-- Why an operation failed. -/
inductive SyncError where
  /-- A read failed. -/
  | graphql (error : GraphQL.ClientError)
  /-- A write failed: the field of the mutation, and why. -/
  | mutation (operation reason : String)
  /-- A delivery was refused. -/
  | webhook (error : Webhook.Error)
  /-- A payload is no change notification. -/
  | notification (reason : String)
  /-- The configuration cannot be worked with. -/
  | config (reason : String)
  /-- There is no model of this name. -/
  | unknownModel (name : String)

namespace SyncError

/-- The wording of an error. -/
def message : SyncError → String
  | .graphql e => e.message
  | .mutation operation reason => operation ++ " failed: " ++ reason
  | .webhook e => "webhook rejected: " ++ e.message
  | .notification reason => "invalid change notification: " ++ reason
  | .config reason => "invalid configuration: " ++ reason
  | .unknownModel name => "unknown model '" ++ name ++ "'"

/-- Whether another try may succeed. -/
def isRetryable : SyncError → Bool
  | .graphql e => e.isRetryable
  | _ => false

end SyncError

end ContentSync
