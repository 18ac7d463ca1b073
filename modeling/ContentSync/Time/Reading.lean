import ContentSync.Json.Reading
import ContentSync.Time.Instant

/-!
# Points in time in JSON

A point in time stands in JSON as a text in its written form.
-/

namespace ContentSync.Instant

/-- Reads a point in time. -/
def reader : Json.Reader Instant :=
  Json.Reader.string.andThen fun s =>
    match parse? s with
    | some t => .ok t
    | none => .error .other

/-- A point in time as JSON. -/
def toJson (t : Instant) : Json := .string t.render

/-- A point in time or `null`. -/
def optionToJson : Option Instant → Json
  | some t => t.toJson
  | none => .null

end ContentSync.Instant
