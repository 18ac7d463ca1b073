import ContentSync.GraphQL.Retry
import ContentSync.Json.Reading
import ContentSync.SyncError
import ContentSync.Text.Quoted
import ContentSync.Webhook.Intake

/-!
# Configuration

What the source needs to know of a project: the addresses of its two sides, a token, the
environment, and limits for reading, reconciling and deliveries.

* `Config.reader`, `Config.toJson` — the configuration in JSON; most of it has defaults.
* `Config.validate` — refuses what cannot be worked with.
* `Config.describe` — the configuration as it is shown, without its secrets.
-/

namespace ContentSync

open Json (Reader)

/-- How often and after what delay an item is read again. -/
structure ReconcileConfig where
  maxAttempts : Nat
  delayMillis : Nat
  deriving DecidableEq

/-- Limits for deliveries as they are configured. -/
structure IntakeLimits where
  maxPayloadSize : Nat
  toleranceSeconds : Nat
  deriving DecidableEq

/-- The configuration of a source. -/
structure Config where
  /-- The address content is read from and written to. -/
  contentUrl : String
  /-- The address of the management side. -/
  managementUrl : String
  token : String
  projectId : String
  environment : String
  /-- Where deliveries are to be sent; without it none are asked for. -/
  webhookUrl : Option String
  /-- The secret that deliveries are signed with; without it signatures do not matter. -/
  webhookSecret : Option String
  /-- Items per list and round. -/
  pageSize : Nat
  /-- The time for one attempt in seconds. -/
  timeoutSeconds : Nat
  reconcile : ReconcileConfig
  webhook : IntakeLimits
  deriving DecidableEq

/-- Ten reads, half a second apart. -/
def ReconcileConfig.default : ReconcileConfig := ⟨10, 500⟩

/-- The delay between reads. -/
def ReconcileConfig.delay (c : ReconcileConfig) : Duration := .millis c.delayMillis

/-- The policy of repeated reads. -/
def ReconcileConfig.policy (c : ReconcileConfig) : GraphQL.RetryPolicy :=
  .fixed c.maxAttempts c.delay

/-- The size and tolerance of the usual limits for deliveries. -/
def IntakeLimits.default : IntakeLimits := ⟨5 * 1024 * 1024, 300⟩

/-- The limits that a handler works with. -/
def IntakeLimits.toIntake (l : IntakeLimits) : Webhook.IntakeConfig :=
  { Webhook.IntakeConfig.default with
    maxPayloadSize := l.maxPayloadSize
    timestampTolerance := .seconds l.toleranceSeconds }

/-! ## Reading -/

/-- Reads how often an item is read again. -/
def ReconcileConfig.reader : Reader ReconcileConfig :=
  Reader.record [
    .default "max_attempts" (.natBelow 64) fun c n => { c with maxAttempts := n },
    .default "delay_ms" (.natBelow 64) fun c n => { c with delayMillis := n }] .default

/-- Reads limits for deliveries. -/
def IntakeLimits.reader : Reader IntakeLimits :=
  Reader.record [
    .default "max_payload_size" (.natBelow 64) fun c n => { c with maxPayloadSize := n },
    .default "timestamp_tolerance_secs" (.natBelow 64)
      fun c n => { c with toleranceSeconds := n }] .default

namespace Config

/-- The defaults, with nothing where there is none. -/
def start : Config :=
  ⟨"", "", "", "", "master", none, none, 100, 30, .default, .default⟩

/-- Reads a configuration. -/
def reader : Reader Config :=
  Reader.record [
    .needed "content_api_url" .string fun c s => { c with contentUrl := s },
    .needed "management_api_url" .string fun c s => { c with managementUrl := s },
    .needed "auth_token" .string fun c s => { c with token := s },
    .needed "project_id" .string fun c s => { c with projectId := s },
    .default "environment" .string fun c s => { c with environment := s },
    .default "webhook_url" (.optional .string) fun c s => { c with webhookUrl := s },
    .default "webhook_secret" (.optional .string) fun c s => { c with webhookSecret := s },
    .default "page_size" (.natBelow 32) fun c n => { c with pageSize := n },
    .default "timeout" (.natBelow 64) fun c n => { c with timeoutSeconds := n },
    .default "reconcile" ReconcileConfig.reader fun c r => { c with reconcile := r },
    .default "webhook" IntakeLimits.reader fun c l => { c with webhook := l }] start

/-- A text that may be absent, as a member of an object. -/
def optionalMember (name : String) : Option String → List (String × Json)
  | some s => [(name, .string s)]
  | none => []

/-- A configuration as JSON. -/
def toJson (c : Config) : Json :=
  .object ([
    ("content_api_url", .string c.contentUrl),
    ("management_api_url", .string c.managementUrl),
    ("auth_token", .string c.token),
    ("project_id", .string c.projectId),
    ("environment", .string c.environment)] ++
    optionalMember "webhook_url" c.webhookUrl ++
    optionalMember "webhook_secret" c.webhookSecret ++ [
    ("page_size", .int c.pageSize),
    ("timeout", .int c.timeoutSeconds),
    ("reconcile", .object [
      ("max_attempts", .int c.reconcile.maxAttempts),
      ("delay_ms", .int c.reconcile.delayMillis)]),
    ("webhook", .object [
      ("max_payload_size", .int c.webhook.maxPayloadSize),
      ("timestamp_tolerance_secs", .int c.webhook.toleranceSeconds)])])

/-! ## Validation -/

/-- Whether a text holds nothing but blanks. -/
def isBlankText (s : String) : Bool := s.toList.all Text.isBlank

/-- Whether a text begins like an address that can be posted to. -/
def isHttpUrl (s : String) : Bool :=
  "http://".toList.isPrefixOf s.toList || "https://".toList.isPrefixOf s.toList

/-- What is wrong with an address. -/
def urlFault (name url : String) : Option String :=
  if isHttpUrl url then none
  else some (name ++ " must be an http(s) URL, got '" ++ url ++ "'")

/-- What is wrong with a text that must not be blank. -/
def blankFault (name text : String) : Option String :=
  if isBlankText text then some (name ++ " is required") else none

/-- What is wrong with a configuration, in order of importance. -/
def faults (c : Config) : List (Option String) := [
  urlFault "content_api_url" c.contentUrl,
  urlFault "management_api_url" c.managementUrl,
  blankFault "auth_token" c.token,
  blankFault "project_id" c.projectId,
  blankFault "environment" c.environment,
  if c.pageSize = 0 then some "page_size must be positive" else none,
  if c.reconcile.maxAttempts = 0 then some "reconcile.max_attempts must be positive" else none,
  match c.webhookUrl with
    | some url => if isBlankText url then some "webhook_url must not be empty" else none
    | none => none]

/-- **Refuses a configuration that cannot be worked with**, for the first fault. -/
def validate (c : Config) : Except SyncError Unit :=
  match c.faults.findSome? id with
  | some reason => .error (.config reason)
  | none => .ok ()

/-! ## Description -/

/-- What stands for a secret. -/
def redacted : String := Text.quoted "[REDACTED]"

/-- A text that may be absent, as it is shown. -/
def describeOption : Option String → String
  | some text => "Some(" ++ text ++ ")"
  | none => "None"

/-- A group of named parts, as it is shown. -/
def describeParts (name : String) (parts : List (String × String)) : String :=
  name ++ " \x7b " ++ ", ".intercalate (parts.map fun p => p.1 ++ ": " ++ p.2) ++ " \x7d"

/-- **The configuration as it is shown.** -/
def describe (c : Config) : String :=
  describeParts "HygraphConfig" [
    ("content_api_url", Text.quoted c.contentUrl),
    ("management_api_url", Text.quoted c.managementUrl),
    ("auth_token", redacted),
    ("project_id", Text.quoted c.projectId),
    ("environment", Text.quoted c.environment),
    ("webhook_url", describeOption (c.webhookUrl.map Text.quoted)),
    ("webhook_secret", describeOption (c.webhookSecret.map fun _ => redacted)),
    ("page_size", toString c.pageSize),
    ("timeout", (Duration.seconds c.timeoutSeconds).describe),
    ("reconcile", describeParts "ReconcileConfig" [
      ("max_attempts", toString c.reconcile.maxAttempts),
      ("delay_ms", toString c.reconcile.delayMillis)]),
    ("webhook", describeParts "WebhookIntakeConfig" [
      ("max_payload_size", toString c.webhook.maxPayloadSize),
      ("timestamp_tolerance_secs", toString c.webhook.toleranceSeconds)])]

end Config

end ContentSync
