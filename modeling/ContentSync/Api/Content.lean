import ContentSync.Api.Basic
import ContentSync.Content.Cache
import ContentSync.GraphQL.Pagination
import ContentSync.Schema.Selection

/-!
# The content side

Items are read and written with documents that are made from the schema.

* `Api.tryFetchAll`, `Api.fetchAll` — all documents and assets.
* `Api.fetchItem` — one document or asset.
* `Api.createDocument`, `Api.updateDocument`, `Api.deleteDocument`, `Api.publishDocument`,
  `Api.unpublishDocument` — single writes.
* `Api.publishMany`, `Api.unpublishMany` — many in one request.

Writes are never repeated: a reply that was lost may stand for a write that was done.
-/

namespace ContentSync

open GraphQL

/-! ## Nodes -/

/-- The selection of a node whose contents do not matter. -/
def idSelection : SelectionSet := .ofNames ["id"]

/-- The stage that holds drafts. -/
def draftStage : Argument := .enum "DRAFT"

/-- The stage that holds what is published. -/
def publishedStage : Argument := .enum "PUBLISHED"

/-- The condition that picks out an identity. -/
def whereId (id : String) : Argument := .object [("id", .string id)]

/-- The node of a field that publishes a document. -/
def publishNode (field : String) (label : Option String) (id : String) : Selection :=
  .object field label [("where", whereId id), ("to", publishedStage)] idSelection

/-- The node of a field that takes a document back. -/
def unpublishNode (field : String) (label : Option String) (id : String) : Selection :=
  .object field label [("where", whereId id), ("from", publishedStage)] idSelection

/-- The field that publishes a document of a type. -/
def publishField (typename : String) : String := "publish" ++ typename

/-- The field that takes a document of a type back. -/
def unpublishField (typename : String) : String := "unpublish" ++ typename

/-! ## Reading everything -/

/-- The list of all documents of a model. -/
def modelStream (schema : Schema) (model : ContentType) : PageStream where
  name := Text.lowerFirst model.plural
  rootField := model.connectionField
  arguments := [("stage", draftStage)]
  selection := rootSelection schema model.name

/-- The list of all assets. -/
def assetStream : PageStream where
  name := "assets"
  rootField := "assetsConnection"
  arguments := [("stage", draftStage)]
  selection := assetSelection

/-- The lists of all documents and assets. -/
def contentStreams (schema : Schema) : List PageStream :=
  schema.models.map (modelStream schema) ++ [assetStream]

/-- The item that a node of a response stands for. -/
def readItem (node : Json) : Except Json.ReadError Item := Item.reader.ofJson (stripAliases node)

/-- The update that stores what was read.  A node that is no item is passed over. -/
def updateOfNodes (nodes : List Json) : Update :=
  (nodes.filterMap fun n => (readItem n).toOption).foldl Update.push .empty

namespace Api

/-- Reads all documents and assets.  Absent when the given number of rounds does not suffice. -/
def tryFetchAll (api : Api) (net : Http.Network) (rounds : Nat) (schema : Schema) :
    ApiAction (Option Update) := do
  let items ← .reading
    (api.content.paginate net (contentStreams schema) api.config.pageSize rounds)
  return items.map fun items => updateOfNodes (items.map PagedItem.node)

/-- **Reads all documents and assets**; an empty update and a warning when that fails. -/
def fetchAll (api : Api) (net : Http.Network) (rounds : Nat) (schema : Schema) :
    StateM ApiLog (Option Update) := do
  match ← (api.tryFetchAll net rounds schema).run with
  | .ok update => return update
  | .error _ =>
      warn .contentUnavailable
      return some .empty

/-! ## Reading one item -/

/-- The root field and selection that read one item of a type.  The type must be a model. -/
def itemSelection (schema : Schema) (typename : String) :
    Except SyncError (String × SelectionSet) :=
  if typename = assetTypename then .ok ("asset", assetSelection)
  else
    match schema.model? typename with
    | some t => .ok (t.singleField, rootSelection schema typename)
    | none => .error (.unknownModel typename)

/-- The query that reads one item. -/
def itemDocument (field : String) (selection : SelectionSet) (id : String) : Document :=
  .single .query (.object field none [("where", whereId id), ("stage", draftStage)] selection)

/-- **Reads the draft of one item**; absent when there is none. -/
def fetchItem (api : Api) (net : Http.Network) (schema : Schema) (typename id : String) :
    ApiAction (Option Item) := do
  let (field, selection) ← itemSelection schema typename
  let data ← .reading
    (api.content.executeDocumentStrict net (itemDocument field selection id) true)
  match data.get? field with
  | none => return none
  | some .null => return none
  | some node =>
      match readItem node with
      | .ok d => return some d
      | .error e => throw (.graphql (.json e.message))

/-! ## Writing -/

/-- Carries out a mutation; its result is the value of `field`, `null` when there is none. -/
def mutate (api : Api) (net : Http.Network) (field : String) (d : Document) (values : Json) :
    ApiAction Json := do
  let data ← .writing field (api.content.executeDocumentWith net d values false)
  return (data.get? field).getD .null

/-- Carries out a mutation with data for a variable of the given type; its result is the document
that was written. -/
def mutateDocument (api : Api) (net : Http.Network) (field : String)
    (arguments : Arguments) (selection : SelectionSet) (inputType : String) (data : Json) :
    ApiAction Item := do
  let node := Selection.object field none (Entries.insert arguments "data" (.var "data")) selection
  let d := (Document.single .mutation node).declaring "data" (inputType ++ "!")
  let value ← api.mutate net field d (.object [("data", data)])
  if value.isNull then throw (.mutation field "no document returned")
  match readItem value with
  | .ok item => return item
  | .error e => throw (.mutation field e.message)

/-- The model of a name. -/
def model (schema : Schema) (typename : String) : Except SyncError ContentType :=
  match schema.model? typename with
  | some t => .ok t
  | none => .error (.unknownModel typename)

/-- Creates a document. -/
def createDocument (api : Api) (net : Http.Network) (schema : Schema) (typename : String)
    (data : Json) : ApiAction Item := do
  let t ← model schema typename
  api.mutateDocument net ("create" ++ t.name) [] (rootSelection schema typename)
    (t.name ++ "CreateInput") data

/-- Changes the draft of a document. -/
def updateDocument (api : Api) (net : Http.Network) (schema : Schema) (typename id : String)
    (data : Json) : ApiAction Item := do
  let t ← model schema typename
  api.mutateDocument net ("update" ++ t.name) [("where", whereId id)]
    (rootSelection schema typename) (t.name ++ "UpdateInput") data

/-- Carries out a mutation of one node whose result does not matter. -/
def mutateNode (api : Api) (net : Http.Network) (field : String) (node : Selection) :
    ApiAction Unit := do
  let _ ← api.mutate net field (.single .mutation node) (.object [])

/-- Deletes a document or asset. -/
def deleteDocument (api : Api) (net : Http.Network) (typename id : String) : ApiAction Unit :=
  let field := "delete" ++ typename
  api.mutateNode net field (.object field none [("where", whereId id)] idSelection)

/-- Publishes a document. -/
def publishDocument (api : Api) (net : Http.Network) (typename id : String) : ApiAction Unit :=
  api.mutateNode net (publishField typename) (publishNode (publishField typename) none id)

/-- Takes a document back. -/
def unpublishDocument (api : Api) (net : Http.Network) (typename id : String) : ApiAction Unit :=
  api.mutateNode net (unpublishField typename) (unpublishNode (unpublishField typename) none id)

/-- The nodes for several items, each under an alias that tells its place. -/
def bulkNodes (node : Reference → Option String → Selection) (refs : List Reference) :
    List Selection :=
  refs.zipIdx.map fun p => node p.1 (some ("item" ++ toString p.2))

/-- **Carries out the same mutation for several items** in one request, or in none if there are no
items. -/
def bulk (api : Api) (net : Http.Network) (operation : String)
    (node : Reference → Option String → Selection) (refs : List Reference) : ApiAction Unit :=
  if refs.isEmpty then pure ()
  else do
    let d := Document.anonymous .mutation (SelectionSet.ofList (bulkNodes node refs))
    let _ ← api.mutate net operation d (.object [])

/-- Publishes several documents. -/
def publishMany (api : Api) (net : Http.Network) (refs : List Reference) : ApiAction Unit :=
  api.bulk net "publishMany" (fun r label => publishNode (publishField r.typename) label r.id) refs

/-- Takes several documents back. -/
def unpublishMany (api : Api) (net : Http.Network) (refs : List Reference) : ApiAction Unit :=
  api.bulk net "unpublishMany"
    (fun r label => unpublishNode (unpublishField r.typename) label r.id) refs

end Api

end ContentSync
