import ContentSync.GraphQL.Retry
import ContentSync.Text.Utf8

/-!
# Sending operations

A client posts request bodies to one endpoint.  A failed attempt is repeated as the retry policy
says; errors that a reply lists are never a reason to repeat.

* `Client.of?` — the client with given settings, if its token can be sent.
* `Exchange` — an action on the network: it may fail, and it leaves a journal of all attempts, of
  the pauses between them and of counts.
* `Client.send` — one request and its reply; `Client.execute` an operation with a fixed document,
  `Client.executeDocument` and its variants a document that was built.
-/

namespace ContentSync.GraphQL

open Json (Reader)
open Http (Network)

/-! ## Actions on the network -/

/-- Counts over the requests of a client. -/
structure Stats where
  /-- Requests, retries not counted. -/
  sent : Nat
  /-- Requests whose reply could be read and lists no errors. -/
  succeeded : Nat
  /-- All other requests. -/
  failed : Nat
  /-- Further attempts after a failed one. -/
  retried : Nat
  deriving DecidableEq

/-- What has happened on the network. -/
structure Journal where
  /-- All attempts, first one first. -/
  attempts : List Http.Attempt
  /-- The pauses before further attempts, first one first. -/
  pauses : List Duration
  stats : Stats

/-- Nothing has happened yet. -/
def Journal.empty : Journal := ⟨[], [], ⟨0, 0, 0, 0⟩⟩

/-- **An action on the network.**  A failure keeps the journal. -/
abbrev Exchange (α : Type) := ExceptT ClientError (StateM Journal) α

/-- Changes the counts. -/
def count (change : Stats → Stats) : StateM Journal Unit :=
  modify fun j => { j with stats := change j.stats }

/-! ## Clients -/

/-- The settings of a client. -/
structure ClientSettings where
  endpoint : String
  /-- The token that authorizes requests. -/
  token : Option String
  /-- Further headers; their values can be sent. -/
  headers : Entries String
  /-- The time for one attempt. -/
  timeout : Duration
  retry : RetryPolicy

/-- Settings with the default limits and no token. -/
def ClientSettings.default (endpoint : String) : ClientSettings :=
  ⟨endpoint, none, [], .seconds 30, .default⟩

/-- The name a client gives itself. -/
def userAgent : String := "cms-graphql/0.1.0"

/-- A client of one endpoint. -/
structure Client where
  endpoint : String
  headers : Entries String
  timeout : Duration
  retry : RetryPolicy

/-- The header that carries the token. -/
def authorization : String := "authorization"

/-- **The client with given settings.**  A token with a control character cannot be sent. -/
def Client.of? (s : ClientSettings) : Except ClientError Client :=
  let json := [("content-type", "application/json")]
  let build (headers : Entries String) : Client :=
    ⟨s.endpoint, Entries.insert (Entries.insertAll headers s.headers) "user-agent" userAgent,
      s.timeout, s.retry⟩
  match s.token with
  | none => .ok (build json)
  | some token =>
      let value := "Bearer " ++ token
      if Http.isHeaderValue value then .ok (build (Entries.insert json authorization value))
      else .error (.invalidHeader authorization)

/-! ## One request -/

/-- Most octets of a body that an error keeps. -/
def maxErrorBody : Nat := 4096

/-- **The body of a failed reply as an error shows it**: as text, and when it is too long cut
between two characters and marked. -/
def shortenBody (bytes : ByteArray) : String :=
  let text := Text.decodeLossy bytes
  if Text.octets text.toList ≤ maxErrorBody then text
  else String.ofList (Text.takeOctets maxErrorBody text.toList ++ ['…'])

/-- What an outcome means for the request: the body of a successful reply, or an error. -/
def readOutcome : Http.Outcome → Except ClientError ByteArray
  | .replied r =>
      if Http.isSuccess r.status then .ok r.body
      else .error (.status r.status (shortenBody r.body) r.pause)
  | .lost failure => .error (.noReply failure none)
  | .unsent failure => .error (.noReply failure none)

namespace Client

/-- The request that carries a body. -/
def request (c : Client) (body : String) : Http.Request := ⟨c.endpoint, c.headers, body⟩

/-- **Attempts one after another.**  `further` is the number of attempts that may follow this one,
and `number` the number of this one. -/
def attempts (c : Client) (net : Network) (req : Http.Request) (idempotent : Bool) :
    (further number : Nat) → Exchange ByteArray
  | 0, _ => fun j =>
      let outcome := net.answer j.attempts req
      (readOutcome outcome, { j with attempts := j.attempts ++ [⟨req, outcome⟩] })
  | further + 1, number => fun j =>
      let outcome := net.answer j.attempts req
      let tried := { j with attempts := j.attempts ++ [⟨req, outcome⟩] }
      match readOutcome outcome with
      | .ok body => (.ok body, tried)
      | .error e =>
          match c.retry.decide e number idempotent (net.draw tried.attempts) with
          | .retryAfter pause =>
              attempts c net req idempotent further (number + 1)
                { tried with
                  pauses := tried.pauses ++ [pause]
                  stats := { tried.stats with retried := tried.stats.retried + 1 } }
          | .stop => (.error e, tried)

/-- Posts a body until a reply succeeds or the policy says to stop. -/
def post (c : Client) (net : Network) (body : String) (idempotent : Bool) : Exchange ByteArray :=
  c.attempts net (c.request body) idempotent (c.retry.maxAttempts - 1) 1

variable {α : Type}

/-- Posts a request and reads the reply. -/
def roundTrip (c : Client) (net : Network) (e : Envelope) (r : Reader α) (idempotent : Bool) :
    Exchange (Response α) := do
  let bytes ← c.post net e.render idempotent
  match (Response.reader r).ofBytes bytes with
  | .ok response => return response
  | .error err => throw (.json err.message)

/-- Whether a request counts as succeeded. -/
def succeeds : Except ClientError (Response α) → Bool
  | .ok response => response.isOk
  | .error _ => false

/-- **One request and its reply.**  Every request is counted once as sent, and once as succeeded or
failed. -/
def send (c : Client) (net : Network) (e : Envelope) (r : Reader α) (idempotent : Bool) :
    Exchange (Response α) := fun j =>
  let j := { j with stats := { j.stats with sent := j.stats.sent + 1 } }
  let (result, j) := c.roundTrip net e r idempotent j
  (result,
    { j with
      stats :=
        if succeeds result then { j.stats with succeeded := j.stats.succeeded + 1 }
        else { j.stats with failed := j.stats.failed + 1 } })

end Client

/-- **The data of a reply.**  Listed errors make it fail, and so does missing data. -/
def Response.intoData {α : Type} (p : Response α) : Except ClientError α :=
  if p.errors.isEmpty then
    match p.data with
    | some d => .ok d
    | none => .error (.protocol "missing GraphQL data")
  else .error (.reported p.errors)

/-! ## Operations -/

/-- An operation with a fixed document. -/
structure Operation (α : Type) where
  query : String
  name : String
  /-- Whether it may be carried out twice without harm. -/
  idempotent : Bool
  reader : Reader α

namespace Client

variable {α : Type}

/-- Carries out an operation with a fixed document. -/
def execute (c : Client) (net : Network) (op : Operation α) (values : Json) :
    Exchange (Response α) :=
  c.send net ⟨op.query, values, some op.name⟩ op.reader op.idempotent

/-- Carries out an operation with a fixed document; listed errors make it fail. -/
def executeStrict (c : Client) (net : Network) (op : Operation α) (values : Json) :
    Exchange α := do
  (← c.execute net op values).intoData

/-- Carries out a document. -/
def executeDocument (c : Client) (net : Network) (d : Document) (idempotent : Bool) :
    Exchange (Response Json) :=
  c.send net (Envelope.ofDocument d) .json idempotent

/-- Carries out a document; listed errors make it fail. -/
def executeDocumentStrict (c : Client) (net : Network) (d : Document) (idempotent : Bool) :
    Exchange Json := do
  (← c.executeDocument net d idempotent).intoData

/-- Carries out a document with values for its variables; listed errors make it fail. -/
def executeDocumentWith (c : Client) (net : Network) (d : Document) (values : Json)
    (idempotent : Bool) : Exchange Json := do
  (← c.send net { Envelope.ofDocument d with values := values } .json idempotent).intoData

end Client

end ContentSync.GraphQL
