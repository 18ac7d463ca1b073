import ContentSync.Config
import ContentSync.GraphQL.Client

/-!
# The two sides of a project

Content is read and written on one side of a project; its content model and its deliveries are
managed on the other.  Both are spoken to with the same token.

* `Api` — the clients of both sides, `Api.of?` with the checks of the configuration.
* `ApiAction` — an action that may fail and leaves a log of requests and warnings.
-/

namespace ContentSync

open GraphQL (Client ClientError ClientSettings Exchange Journal)

/-- The clients of the two sides. -/
structure Api where
  content : Client
  management : Client
  config : Config

/-- The settings of the client for an address. -/
def Config.clientSettings (c : Config) (url : String) : ClientSettings :=
  { ClientSettings.default url with
    token := some c.token
    timeout := .seconds c.timeoutSeconds }

/-- **The two sides as a configuration gives them.** -/
def Api.of? (c : Config) : Except SyncError Api := do
  c.validate
  let content ← (Client.of? (c.clientSettings c.contentUrl)).mapError .graphql
  let management ← (Client.of? (c.clientSettings c.managementUrl)).mapError .graphql
  return ⟨content, management, c⟩

/-- What was done and what was warned of. -/
structure ApiLog where
  journal : Journal
  warnings : List Warning

/-- Nothing was done yet. -/
def ApiLog.empty : ApiLog := ⟨.empty, []⟩

/-- An action on the two sides. -/
abbrev ApiAction (α : Type) := ExceptT SyncError (StateM ApiLog) α

/-- Warns of something. -/
def warn (w : Warning) : StateM ApiLog Unit :=
  modify fun log => { log with warnings := log.warnings ++ [w] }

namespace ApiAction

variable {α : Type}

/-- An exchange as an action; `explain` says what its failure means. -/
def ofExchange (explain : ClientError → SyncError) (x : Exchange α) : ApiAction α := fun log =>
  let (result, journal) := x log.journal
  (result.mapError explain, { log with journal := journal })

/-- An exchange that reads. -/
def reading (x : Exchange α) : ApiAction α := ofExchange .graphql x

/-- An exchange that writes: the failure names the operation. -/
def writing (operation : String) (x : Exchange α) : ApiAction α :=
  ofExchange (fun e => .mutation operation e.message) x

end ApiAction

end ContentSync
