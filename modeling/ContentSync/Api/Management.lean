import ContentSync.Api.Basic
import ContentSync.Schema.ContentModel

/-!
# The management side

The content model is read, and deliveries are asked for, with documents that do not depend on the
project.

* `Api.tryFetchSchema`, `Api.fetchSchema` — the schema of the project.
* `Api.ensureWebhook` — makes sure that changes are delivered to the configured address; at most one
  request creates something, and none does if the address is already known.
-/

namespace ContentSync

open GraphQL (Operation)
open Json (Reader)

/-- Lines as one text. -/
def lines (ls : List String) : String := "\n".intercalate ls

/-! ## Documents -/

/-- Asks for the content model of an environment. -/
def contentModelQuery : String := lines [
  "query ContentModel($projectId: ID!, $environment: String!) \x7b",
  "  viewer \x7b",
  "    project(id: $projectId) \x7b",
  "      environment(name: $environment) \x7b",
  "        contentModel \x7b",
  "          models \x7b",
  "            apiId",
  "            apiIdPlural",
  "            isSystem",
  "            fields \x7b ...FieldShape \x7d",
  "          \x7d",
  "          components \x7b",
  "            apiId",
  "            apiIdPlural",
  "            fields \x7b ...FieldShape \x7d",
  "          \x7d",
  "        \x7d",
  "      \x7d",
  "    \x7d",
  "  \x7d",
  "\x7d",
  "",
  "fragment FieldShape on IField \x7b",
  "  __typename",
  "  apiId",
  "  isList",
  "  ... on SimpleField \x7b type \x7d",
  "  ... on RelationalField \x7b relatedModel \x7b apiId \x7d \x7d",
  "  ... on UniDirectionalRelationalField \x7b relatedModel \x7b apiId \x7d \x7d",
  "  ... on UnionField \x7b union \x7b memberTypes \x7b parent \x7b apiId \x7d \x7d \x7d \x7d",
  "  ... on ComponentField \x7b component \x7b apiId \x7d \x7d",
  "  ... on ComponentUnionField \x7b components \x7b apiId \x7d \x7d",
  "\x7d"]

/-- Asks for the deliveries of an environment. -/
def environmentWebhooksQuery : String := lines [
  "query EnvironmentWebhooks($projectId: ID!, $environment: String!) \x7b",
  "  viewer \x7b",
  "    project(id: $projectId) \x7b",
  "      environment(name: $environment) \x7b",
  "        id",
  "        webhooks \x7b id url \x7d",
  "      \x7d",
  "    \x7d",
  "  \x7d",
  "\x7d"]

/-- Asks for a new delivery. -/
def createWebhookMutation : String := lines [
  "mutation CreateWebhook($data: CreateWebhookInput!) \x7b",
  "  createWebhook(data: $data) \x7b",
  "    createdWebhook \x7b id url \x7d",
  "  \x7d",
  "\x7d"]

/-! ## Replies -/

/-- Reads what is said of the environment; absent when there is no such project or environment. -/
def environmentReader {α : Type} (r : Reader α) : Reader (Option α) :=
  let project : Reader (Option α) :=
    Reader.record [.nullable "environment" r fun _ e => e] none
  let viewer : Reader (Option α) :=
    Reader.record [.nullable "project" project fun _ p => p.join] none
  Reader.record [.needed "viewer" viewer fun _ e => e] none

/-- A delivery that is set up: its identity and address. -/
structure WebhookSummary where
  id : String
  url : String
  deriving DecidableEq

/-- Reads a delivery that is set up. -/
def WebhookSummary.reader : Reader WebhookSummary :=
  Reader.record [
    .needed "id" .string fun w s => { w with id := s },
    .needed "url" .string fun w s => { w with url := s }] ⟨"", ""⟩

/-- An environment and its deliveries. -/
structure WebhookEnvironment where
  id : String
  webhooks : List WebhookSummary
  deriving DecidableEq

/-- Reads an environment and its deliveries. -/
def WebhookEnvironment.reader : Reader WebhookEnvironment :=
  Reader.record [
    .needed "id" .string fun e s => { e with id := s },
    .default "webhooks" (.list WebhookSummary.reader) fun e ws => { e with webhooks := ws }]
    ⟨"", []⟩

/-- Reads the delivery that was set up. -/
def createdWebhookReader : Reader WebhookSummary :=
  let payload := Reader.record [
    .needed "createdWebhook" WebhookSummary.reader fun _ w => w] ⟨"", ""⟩
  Reader.record [.needed "createWebhook" payload fun _ w => w] ⟨"", ""⟩

/-- Reads a content model. -/
def contentModel : Operation (Option ContentModel) where
  query := contentModelQuery
  name := "ContentModel"
  idempotent := true
  reader := environmentReader <|
    Reader.record [.needed "contentModel" ContentModel.reader fun _ m => m] ⟨[], []⟩

/-- Lists the deliveries of an environment. -/
def environmentWebhooks : Operation (Option WebhookEnvironment) where
  query := environmentWebhooksQuery
  name := "EnvironmentWebhooks"
  idempotent := true
  reader := environmentReader WebhookEnvironment.reader

/-- Sets up a delivery. -/
def createWebhook : Operation WebhookSummary where
  query := createWebhookMutation
  name := "CreateWebhook"
  idempotent := false
  reader := createdWebhookReader

namespace Api

/-- The values that name the environment. -/
def environmentVariables (api : Api) : Json :=
  .object [("projectId", .string api.config.projectId),
    ("environment", .string api.config.environment)]

/-! ## The schema -/

/-- Reads the schema. -/
def tryFetchSchema (api : Api) (net : Http.Network) : ApiAction Schema := do
  match ← .reading (api.management.executeStrict net contentModel api.environmentVariables) with
  | some model => return .ofContentModel model
  | none =>
      throw (.config ("environment '" ++ api.config.environment ++ "' not found in project '" ++
        api.config.projectId ++ "'"))

/-- **Reads the schema**; an empty one and a warning when that fails. -/
def fetchSchema (api : Api) (net : Http.Network) : StateM ApiLog Schema := do
  match ← (api.tryFetchSchema net).run with
  | .ok schema => return schema
  | .error _ =>
      warn .contentModelUnavailable
      return .empty

/-! ## Deliveries -/

/-- How the setup of deliveries ended. -/
inductive WebhookSetup where
  /-- There is no address to deliver to. -/
  | disabled
  /-- Changes are already delivered to the address. -/
  | existing (id : String)
  | created (id : String)
  | failed (reason : String)
  deriving DecidableEq

/-- What a new delivery is to be like. -/
def webhookInput (config : Config) (environmentId url : String) : Json :=
  .object ([
    ("environmentId", .string environmentId),
    ("name", .string ("cms-hygraph sync (" ++ config.environment ++ ")")),
    ("url", .string url),
    ("isActive", .bool true),
    ("includePayload", .bool true),
    ("method", .string "POST"),
    ("triggerType", .string "CONTENT_MODEL"),
    ("triggerActions",
      .array (["CREATE", "UPDATE", "DELETE", "PUBLISH", "UNPUBLISH"].map .string)),
    ("models", .array []),
    ("stages", .array [])] ++ Config.optionalMember "secretKey" config.webhookSecret)

/-- Sets up deliveries to an address, unless it is among those that are set up already. -/
def tryEnsureWebhook (api : Api) (net : Http.Network) (url : String) : ApiAction WebhookSetup := do
  match ← .reading (api.management.executeStrict net environmentWebhooks
      api.environmentVariables) with
  | none => throw (.config ("environment '" ++ api.config.environment ++ "' not found"))
  | some environment =>
      match environment.webhooks.find? fun w => w.url == url with
      | some known => return .existing known.id
      | none =>
          let made ← .writing "createWebhook" (api.management.executeStrict net createWebhook
            (.object [("data", webhookInput api.config environment.id url)]))
          return .created made.id

/-- **Makes sure that changes are delivered.**  Never fails: trouble is part of the answer. -/
def ensureWebhook (api : Api) (net : Http.Network) : StateM ApiLog WebhookSetup := do
  match api.config.webhookUrl with
  | none => return .disabled
  | some url =>
      match ← (api.tryEnsureWebhook net url).run with
      | .ok setup => return setup
      | .error e =>
          warn .webhookSetupFailed
          return .failed e.message

end Api

end ContentSync
