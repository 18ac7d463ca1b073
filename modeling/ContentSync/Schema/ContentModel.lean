import ContentSync.Json.Reading
import ContentSync.Schema.Basic

/-!
# Content models

A content model is the description of a project that its management side gives: the models and the
components with their fields.  Fields of a kind that is not known are left out, and so are models
that belong to the system.

* `ContentModel` — a content model, `ContentModel.reader` how it is read.
* `Schema.ofContentModel` — the schema it describes.
-/

namespace ContentSync

open Json (Reader)

/-- The type name of assets. -/
def assetTypename : String := "Asset"

/-- A field as a content model describes it. -/
inductive ManagedField where
  /-- A field with a value of the named type. -/
  | simple (name : String) (isList : Bool) (type : String)
  | enumerable (name : String) (isList : Bool)
  /-- A reference to the documents of one model; the other side may or may not refer back. -/
  | relational (name : String) (isList : Bool) (model : String)
  | union (name : String) (isList : Bool) (members : List String)
  | component (name : String) (isList : Bool) (component : String)
  | componentUnion (name : String) (isList : Bool) (components : List String)
  | unsupported
  deriving DecidableEq

/-- A model or component as a content model describes it. -/
structure ManagedType where
  name : String
  plural : String
  isSystem : Bool
  fields : List ManagedField
  deriving DecidableEq

/-- A content model. -/
structure ContentModel where
  models : List ManagedType
  components : List ManagedType
  deriving DecidableEq

/-! ## Reading -/

/-- Reads the name of a type out of a reference to it. -/
def typeReference : Reader String :=
  Reader.record [.needed "apiId" .string fun _ s => s] ""

/-- Reads the members of a union. -/
def unionMembers : Reader (List String) :=
  Reader.record [.default "memberTypes"
    (.list (Reader.record [.needed "parent" typeReference fun _ s => s] "")) fun _ ms => ms] []

namespace ManagedField

/-- What is read of a field: its name, whether it holds a list, and one part of its own. -/
structure Draft (α : Type) where
  name : String
  isList : Bool
  part : α

/-- Reads a field with parts of its own, which come after the name and the list mark. -/
def readDraft {α : Type} (parts : List (Json.Reader.Field (Draft α))) (start : α) :
    Reader (Draft α) :=
  Reader.record ([
    .needed "apiId" .string fun d s => { d with name := s },
    .default "isList" .bool fun d b => { d with isList := b }] ++ parts) ⟨"", false, start⟩

/-- Reads a field with one part that must be given. -/
def withPart {α : Type} (name : String) (r : Reader α) (start : α)
    (make : String → Bool → α → ManagedField) : Reader ManagedField :=
  (readDraft [.needed name r fun d v => { d with part := v }] start).andThen
    fun d => .ok (make d.name d.isList d.part)

/-- The alternatives by their names. -/
def known : String → Option (Reader ManagedField)
  | "SimpleField" => some (withPart "type" .string "" .simple)
  | "EnumerableField" => some <| (readDraft [] ()).andThen
      fun d => .ok (.enumerable d.name d.isList)
  | "RelationalField" => some (withPart "relatedModel" typeReference "" .relational)
  | "UniDirectionalRelationalField" => some (withPart "relatedModel" typeReference "" .relational)
  | "UnionField" => some (withPart "union" unionMembers [] .union)
  | "ComponentField" => some (withPart "component" typeReference "" .component)
  | "ComponentUnionField" => some <|
      (readDraft [.default "components" (.list typeReference) fun d v => { d with part := v }]
        []).andThen fun d => .ok (.componentUnion d.name d.isList d.part)
  | _ => none

/-- Reads a field; one of an unknown kind is read as unsupported. -/
def reader : Reader ManagedField := Reader.tagged "__typename" known .unsupported

end ManagedField

/-- Reads a model or component. -/
def ManagedType.reader : Reader ManagedType :=
  Reader.record [
    .needed "apiId" .string fun t s => { t with name := s },
    .needed "apiIdPlural" .string fun t s => { t with plural := s },
    .default "isSystem" .bool fun t b => { t with isSystem := b },
    .default "fields" (.list ManagedField.reader) fun t fs => { t with fields := fs }]
    ⟨"", "", false, []⟩

/-- Reads a content model. -/
def ContentModel.reader : Reader ContentModel :=
  Reader.record [
    .default "models" (.list ManagedType.reader) fun m ts => { m with models := ts },
    .default "components" (.list ManagedType.reader) fun m ts => { m with components := ts }]
    ⟨[], []⟩

/-! ## The schema -/

/-- The kind of a field with a value of the named type. -/
def FieldKind.ofSimple : String → FieldKind
  | "RICHTEXT" => .richText
  | "COLOR" => .color
  | "LOCATION" => .location
  | _ => .scalar

/-- The kind of a reference to a model; a reference to assets is an image. -/
def FieldKind.ofModel (model : String) : FieldKind :=
  if model = assetTypename then .image else .relation model

/-- The field that is described, if its kind is supported. -/
def ManagedField.field? : ManagedField → Option Field
  | .simple name isList type => some ⟨name, .ofSimple type, isList⟩
  | .enumerable name isList => some ⟨name, .scalar, isList⟩
  | .relational name isList model => some ⟨name, .ofModel model, isList⟩
  | .union name isList types => some ⟨name, .polymorphic types, isList⟩
  | .component name isList type => some ⟨name, .relation type, isList⟩
  | .componentUnion name isList types => some ⟨name, .polymorphic types, isList⟩
  | .unsupported => none

/-- The type that is described. -/
def ManagedType.toType (kind : TypeKind) (t : ManagedType) : ContentType :=
  .ofFields t.name t.plural kind (t.fields.filterMap ManagedField.field?)

/-- **The schema that a content model describes**: its models but for those of the system, then its
components. -/
def Schema.ofContentModel (m : ContentModel) : Schema :=
  .ofTypes ((m.models.filter fun t => !t.isSystem).map (ManagedType.toType .model) ++
    m.components.map (ManagedType.toType .component))

end ContentSync
