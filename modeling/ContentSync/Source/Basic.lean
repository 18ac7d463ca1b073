import ContentSync.Api.Content
import ContentSync.Api.Management
import ContentSync.Webhook.Intake

/-!
# A source of content

A source keeps the content of a project in a cache.  It loads the schema when it is first needed,
and reads everything on demand.

* `Source`, `Source.of?` — what does not change over the life of a source.
* `SourceState` — what does: the cache, the signatures accepted lately, and a log.
* `Source.schema`, `Source.refreshSchema` — the schema that is kept, or a new one.
* `Source.syncAll` — reads everything.

A schema without types is never kept: it would stand in the way of a better one.
-/

namespace ContentSync

open GraphQL (RetryPolicy)

/-- **A source of content.** -/
structure Source where
  api : Api
  handler : Webhook.Handler
  /-- How often, and after what delay, an item is read again. -/
  policy : RetryPolicy

/-- The source for a configuration. -/
def Source.of? (c : Config) : Except SyncError Source := do
  let api ← Api.of? c
  return ⟨api, .new c.webhookSecret c.webhook.toIntake, c.reconcile.policy⟩

/-- **The state of a source.** -/
structure SourceState where
  cache : Cache
  guard : Webhook.ReplayGuard
  log : ApiLog
  /-- The waits between reads of one item, in order. -/
  waits : List Duration

/-- Nothing is kept and nothing was done. -/
def SourceState.empty : SourceState := ⟨.empty, .empty, .empty, []⟩

/-- An operation of a source that cannot fail. -/
abbrev SourceM (α : Type) := StateM SourceState α

/-- An operation of a source. -/
abbrev SourceAction (α : Type) := ExceptT SyncError (StateM SourceState) α

namespace SourceM

variable {α : Type}

/-- Carries out what touches nothing but the log. -/
def logging (x : StateM ApiLog α) : SourceM α := fun s =>
  let (a, log) := x s.log
  (a, { s with log := log })

/-- Changes the cache. -/
def changeCache (f : Cache → Cache) : SourceM Unit :=
  modify fun s => { s with cache := f s.cache }

end SourceM

/-- An action on the two sides as an operation of the source. -/
def SourceAction.ofApi {α : Type} (x : ApiAction α) : SourceAction α := SourceM.logging x.run

/-! ## The schema -/

/-- Keeps a schema unless it has no types. -/
def Cache.learn (c : Cache) (schema : Schema) : Cache :=
  if schema.isEmpty then c else c.storeSchema schema

namespace Source

/-- **Loads the schema**; an empty one when that fails, in which case the one before is kept. -/
def refreshSchema (source : Source) (net : Http.Network) : SourceM Schema := do
  let schema ← .logging (source.api.fetchSchema net)
  .changeCache (·.learn schema)
  return schema

/-- **The schema that is kept**, or a new one when there is none. -/
def schema (source : Source) (net : Http.Network) : SourceM Schema := do
  match (← get).cache.schema with
  | some schema => return schema
  | none => source.refreshSchema net

/-! ## Everything -/

/-- **Reads everything** and writes it to the cache.  Absent when the given number of rounds does
not suffice; nothing is written then. -/
def syncAll (source : Source) (net : Http.Network) (rounds : Nat) : SourceM (Option Update) := do
  let schema ← source.schema net
  let update ← .logging (source.api.fetchAll net rounds schema)
  .changeCache (·.applyOption update)
  return update

/-- Makes sure that changes are delivered. -/
def ensureWebhook (source : Source) (net : Http.Network) : SourceM Api.WebhookSetup :=
  .logging (source.api.ensureWebhook net)

end Source

end ContentSync
