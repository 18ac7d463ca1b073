import ContentSync.Schema.Alias
import ContentSync.Schema.ContentModel
import ContentSync.Schema.Ledger

/-!
# The selection of a whole document

A document is read with everything it holds: plain fields by name, structured values with all their
parts, references with the whole document they refer to.  A reference is followed as long as the
ledger of the path allows it, and left out if its type is not in the schema.  A polymorphic field
has one branch for each type that can be followed, and is left out when there is none.

* `fieldNode` — the node of a field, given the selections of the types it refers to.
* `follow` — the selection of a type that is referred to, if the path may go on to it.
* `typeSelection` — the selection of a type at the end of a path.
* `rootSelection`, `assetSelection` — the selection of a whole document or asset.

The recursion is over the headroom of the ledger, which every reference that is followed lowers.
-/

namespace ContentSync

open GraphQL

/-! ## Structured values -/

/-- The forms of a formatted text. -/
def richTextSelection : SelectionSet := .ofNames ["raw", "html", "markdown", "text"]

/-- The forms of a color. -/
def colorSelection : SelectionSet :=
  .ofList [.field "hex", .field "css",
    .object "rgba" none [] (SelectionSet.ofNames ["r", "g", "b", "a"])]

/-- The parts of a place. -/
def locationSelection : SelectionSet := .ofNames ["latitude", "longitude"]

/-- What is read of an asset that a document refers to. -/
def imageSelection : SelectionSet :=
  .ofNames ["id", "url", "fileName", "mimeType", "width", "height"]

/-- The published stage of a document and when it was last changed there. -/
def stageNode : Selection :=
  .object "documentInStages" none [("stages", .list [.enum "PUBLISHED"])]
    (SelectionSet.ofNames ["stage", "updatedAt"])

/-- What is read of an asset by itself. -/
def assetSelection : SelectionSet :=
  .ofList ([typenameField, "id", "updatedAt", "url", "fileName", "mimeType", "size", "width",
    "height"].map Selection.field ++ [stageNode])

/-! ## Types -/

/-- The branches of a polymorphic field: one for each type that can be followed. -/
def branchesOf (follow : String → Option SelectionSet) (targets : List String) : Branches :=
  Entries.ofList <| targets.filterMap fun t =>
    (follow t).map fun selection => (t, aliasBranch t selection)

/-- **The node of a field.**  `follow` gives the selection of a type that is referred to, if it can
be followed. -/
def fieldNode (follow : String → Option SelectionSet) (f : Field) : Option Selection :=
  match f.kind with
  | .scalar => some (.leaf f.name none)
  | .richText => some (.object f.name none [] richTextSelection)
  | .color => some (.object f.name none [] colorSelection)
  | .location => some (.object f.name none [] locationSelection)
  | .image => some (.object f.name none [] imageSelection)
  | .relation target => (follow target).map fun s => .object f.name none [] s
  | .polymorphic targets =>
      let branches := branchesOf follow targets
      if branches.isEmpty then none
      else some (.object f.name none [] (SelectionSet.ofList [.field typenameField, .on branches]))

/-- The name of the type, then every field that has a node. -/
def selectionOfFields (follow : String → Option SelectionSet) (fields : List Field) :
    SelectionSet :=
  .ofList (.field typenameField :: fields.filterMap (fieldNode follow))

/-- The selection of a type that is referred to: absent if the type is not in the schema or would
occur once too often.  `below` gives the selections at the end of longer paths. -/
def follow (schema : Schema) (below : String → Ledger → SelectionSet) (ledger : Ledger)
    (target : String) : Option SelectionSet :=
  match schema.get? target with
  | none => none
  | some _ => (ledger.visit target).map (below target)

/-- The selection of a type, if it is in the schema; else only the name of the type. -/
def selectionOfType (schema : Schema) (type : String) (follow : String → Option SelectionSet) :
    SelectionSet :=
  match schema.get? type with
  | none => .ofList [.field typenameField]
  | some t => selectionOfFields follow t.fields

/-- The selection of a type when at most `depth` references in a row are followed. -/
def selectionWithin (schema : Schema) : (depth : Nat) → String → Ledger → SelectionSet
  | 0, type, _ => selectionOfType schema type fun _ => none
  | depth + 1, type, ledger =>
      selectionOfType schema type (follow schema (selectionWithin schema depth) ledger)

/-- **The selection of a type** at the end of a path with the given ledger. -/
def typeSelection (schema : Schema) (type : String) (ledger : Ledger) : SelectionSet :=
  selectionWithin schema (ledger.headroom schema.types.keys) type ledger

/-- **The selection of a whole document.**  Documents also have an identity, a time of their last
change and stages; parts of documents have only the identity. -/
def rootSelection (schema : Schema) (type : String) : SelectionSet :=
  let base := (typeSelection schema type (.root type)).insert (.field "id")
  if (schema.model? type).isSome then (base.insert (.field "updatedAt")).insert stageNode
  else base

end ContentSync
