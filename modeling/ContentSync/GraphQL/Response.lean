import ContentSync.Json.Reading
import ContentSync.Json.Printer
import ContentSync.GraphQL.Printer

/-!
# Request and reply bodies

A request body carries the text of a document, the values of its variables and, if the operation is
to be named, its name.  A reply carries data, errors or both.

* `Envelope` — a request body, `Envelope.render` its text.
* `Response` — a reply body, `Response.reader` how it is read.
* `ResponseError` — an entry of the list of errors.
-/

namespace ContentSync.GraphQL

open Json (Reader)

/-! ## Requests -/

/-- A request body. -/
structure Envelope where
  query : String
  /-- The values of the variables. -/
  values : Json
  operationName : Option String

namespace Envelope

/-- The body for a document without values for variables. -/
def ofDocument (d : Document) : Envelope := ⟨d.render, .object [], d.name⟩

/-- A request body as JSON; the name only when there is one. -/
def toJson (e : Envelope) : Json :=
  .object ([("query", .string e.query), ("variables", e.values)] ++
    match e.operationName with
    | some name => [("operationName", .string name)]
    | none => [])

/-- The text of a request body. -/
def render (e : Envelope) : String := e.toJson.render

/-- Reads a request body. -/
def reader : Reader Envelope :=
  Reader.record [
    .needed "query" .string fun e q => { e with query := q },
    .needed "variables" .json fun e v => { e with values := v },
    .default "operationName" (.optional .string) fun e n => { e with operationName := n }]
    ⟨"", .null, none⟩

end Envelope

/-! ## Replies -/

/-- A place in the text of a document. -/
structure Location where
  line : Nat
  column : Nat

/-- A step of the path to the value that an error concerns. -/
inductive PathStep where
  | key (name : String)
  | index (position : Int)

/-- An entry of the list of errors. -/
structure ResponseError where
  message : String
  locations : List Location
  path : List PathStep
  extensions : Option Json

/-- A reply body with data read as `α`. -/
structure Response (α : Type) where
  data : Option α
  errors : List ResponseError
  extensions : Option Json

/-- Reads a place. -/
def Location.reader : Reader Location :=
  Reader.record [
    .needed "line" (.natBelow 32) fun l n => { l with line := n },
    .needed "column" (.natBelow 32) fun l n => { l with column := n }]
    ⟨0, 0⟩

/-- Reads a step: a text or an integer of 64 bits. -/
def PathStep.reader : Reader PathStep
  | .string s => .ok (.key s)
  | .number (.int n) => if n < Nat.pow 2 63 then .ok (.index n) else .error .other
  | _ => .error .other

/-- A step as JSON. -/
def PathStep.toJson : PathStep → Json
  | .key s => .string s
  | .index n => .int n

namespace ResponseError

/-- Reads an error. -/
def reader : Reader ResponseError :=
  Reader.record [
    .needed "message" .string fun e m => { e with message := m },
    .default "locations" (.list Location.reader) fun e ls => { e with locations := ls },
    .default "path" (.list PathStep.reader) fun e p => { e with path := p },
    .default "extensions" (.optional .json) fun e x => { e with extensions := x }]
    ⟨"", [], [], none⟩

/-- An error as JSON; extensions only when there are some. -/
def toJson (e : ResponseError) : Json :=
  .object ([("message", .string e.message),
    ("locations", .array (e.locations.map fun l =>
      .object [("line", .int l.line), ("column", .int l.column)])),
    ("path", .array (e.path.map PathStep.toJson))] ++
    match e.extensions with
    | some x => [("extensions", x)]
    | none => [])

end ResponseError

namespace Response

variable {α : Type}

/-- Reads a reply whose data is read by `r`. -/
def reader (r : Reader α) : Reader (Response α) :=
  Reader.record [
    .default "data" (.optional r) fun p d => { p with data := d },
    .default "errors" (.list ResponseError.reader) fun p es => { p with errors := es },
    .default "extensions" (.optional .json) fun p x => { p with extensions := x }]
    ⟨none, [], none⟩

/-- Whether the list of errors is empty. -/
def isOk (p : Response α) : Bool := p.errors.isEmpty

/-- A reply as JSON; extensions only when there are some. -/
def toJson (p : Response Json) : Json :=
  .object ([("data", p.data.getD .null), ("errors", .array (p.errors.map ResponseError.toJson))] ++
    match p.extensions with
    | some x => [("extensions", x)]
    | none => [])

end Response

end ContentSync.GraphQL
