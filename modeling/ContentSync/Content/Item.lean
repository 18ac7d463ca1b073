import ContentSync.Schema.ContentModel
import ContentSync.Time.Reading

/-!
# Documents and assets

An item is a document or an asset as it is read: its identity and type, when it was last changed, in
which stages it is present, and all its other fields in order.

* `Item` — a document or asset, `Item.reader` and `Item.toJson`.
* `StageRecord` — the presence of an item in a stage.
* `Reference` — the type and identity of an item.
-/

namespace ContentSync

open Json (Reader)

/-- A stage.  Stages that a project adds are not told apart. -/
inductive Stage where
  | draft
  | published
  | other
  deriving DecidableEq

/-- The presence of an item in a stage. -/
structure StageRecord where
  stage : Stage
  /-- When the item was last changed in that stage. -/
  updatedAt : Option Instant
  deriving DecidableEq

/-- The type and identity of an item. -/
structure Reference where
  typename : String
  id : String
  deriving DecidableEq

/-- A document or asset. -/
structure Item where
  id : String
  typename : String
  /-- When the draft was last changed. -/
  updatedAt : Option Instant
  /-- The stages the item is present in, if they were asked for. -/
  stages : Option (List StageRecord)
  /-- All other fields in order. -/
  fields : Entries Json

/-! ## Stages -/

/-- Reads a stage. -/
def Stage.reader : Reader Stage :=
  Reader.variant fun
    | "DRAFT" => some .draft
    | "PUBLISHED" => some .published
    | _ => some .other

/-- The name of a stage in JSON. -/
def Stage.name : Stage → String
  | .draft => "DRAFT"
  | .published => "PUBLISHED"
  | .other => "OTHER"

/-- Reads the presence in a stage. -/
def StageRecord.reader : Reader StageRecord :=
  Reader.record [
    .needed "stage" Stage.reader fun r s => { r with stage := s },
    .default "updatedAt" (.optional Instant.reader) fun r t => { r with updatedAt := t }]
    ⟨.other, none⟩

/-- The presence in a stage as JSON. -/
def StageRecord.toJson (r : StageRecord) : Json :=
  .object [("stage", .string r.stage.name), ("updatedAt", Instant.optionToJson r.updatedAt)]

/-- Stages as a member of an object; none when they were not asked for. -/
def stagesMember : Option (List StageRecord) → List (String × Json)
  | some records => [("documentInStages", .array (records.map StageRecord.toJson))]
  | none => []

/-! ## Items -/

namespace Item

/-- Reads an item.  It must be an object. -/
def reader : Reader Item :=
  Reader.openRecord [
    .needed "id" .string fun d s => { d with id := s },
    .needed "__typename" .string fun d s => { d with typename := s },
    .default "updatedAt" (.optional Instant.reader) fun d t => { d with updatedAt := t },
    .default "documentInStages" (.optional (.list StageRecord.reader))
      fun d rs => { d with stages := rs }]
    (fun d key value => { d with fields := Entries.insert d.fields key value })
    ⟨"", "", none, none, []⟩

/-- An item as JSON. -/
def toJson (d : Item) : Json :=
  .object ([("id", .string d.id), ("__typename", .string d.typename),
    ("updatedAt", Instant.optionToJson d.updatedAt)] ++ stagesMember d.stages ++ d.fields)

/-- Whether this is an asset. -/
def isAsset (d : Item) : Bool := d.typename == assetTypename

/-- The presence in the published stage. -/
def publishedRecord? (d : Item) : Option StageRecord :=
  (d.stages.getD []).find? fun r => r.stage == .published

/-- The type and identity. -/
def reference (d : Item) : Reference := ⟨d.typename, d.id⟩

end Item

end ContentSync
