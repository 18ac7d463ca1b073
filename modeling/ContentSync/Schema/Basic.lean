import ContentSync.OrderedMap
import ContentSync.Text.Lowercase

/-!
# Schemas

A schema is the set of content types of a project.  Fields refer to other types by name, so types
may refer to each other in circles, and to types that are not there.

* `Field`, `FieldKind` — what a field holds.
* `ContentType` — a type with its fields and a table of its relations.
* `Schema` — the types by name, in order of declaration.
-/

namespace ContentSync

/-- What a field holds. -/
inductive FieldKind where
  /-- A plain value. -/
  | scalar
  /-- Formatted text. -/
  | richText
  | color
  /-- A place on the map. -/
  | location
  /-- A reference to an asset. -/
  | image
  /-- A reference to one type. -/
  | relation (target : String)
  /-- A reference to one of several types. -/
  | polymorphic (targets : List String)
  deriving DecidableEq

/-- A field of a type. -/
structure Field where
  name : String
  kind : FieldKind
  isList : Bool
  deriving DecidableEq

/-- What a field refers to. -/
structure Relation where
  /-- The types it may refer to. -/
  targets : List String
  /-- Whether there may be more than one. -/
  polymorphic : Bool
  isList : Bool
  deriving DecidableEq

/-- What a field refers to, if anything. -/
def Field.relation? (f : Field) : Option Relation :=
  match f.kind with
  | .relation target => some ⟨[target], false, f.isList⟩
  | .polymorphic targets => some ⟨targets, true, f.isList⟩
  | _ => none

/-- Whether a type can be asked for or only occurs inside others. -/
inductive TypeKind where
  /-- A type of documents, which have stages. -/
  | model
  /-- A type of parts of documents. -/
  | component
  deriving DecidableEq

/-- A content type. -/
structure ContentType where
  name : String
  /-- The name of many. -/
  plural : String
  kind : TypeKind
  /-- The fields in order of declaration. -/
  fields : List Field
  /-- What the fields refer to, by name of the field. -/
  relations : OrderedMap Relation
  deriving DecidableEq

namespace ContentType

/-- A type without fields. -/
def empty (name plural : String) (kind : TypeKind) : ContentType :=
  ⟨name, plural, kind, [], .empty⟩

/-- The type with one more field, entered in the table of relations if it refers to something. -/
def push (t : ContentType) (f : Field) : ContentType :=
  { t with
    fields := t.fields ++ [f]
    relations := match f.relation? with
      | some r => t.relations.insert f.name r
      | none => t.relations }

/-- A type with the given fields. -/
def ofFields (name plural : String) (kind : TypeKind) (fields : List Field) : ContentType :=
  fields.foldl push (empty name plural kind)

/-- The table entry of a field. -/
def relation? (t : ContentType) (field : String) : Option Relation := t.relations.get? field

/-- The first field of a name. -/
def field? (t : ContentType) (name : String) : Option Field :=
  t.fields.find? fun f => f.name == name

/-- The root field of a single document. -/
def singleField (t : ContentType) : String := Text.lowerFirst t.name

/-- The root field of the list of all documents. -/
def connectionField (t : ContentType) : String := Text.lowerFirst t.plural ++ "Connection"

/-- Whether this is a type of documents. -/
def isModel (t : ContentType) : Bool := t.kind == .model

end ContentType

/-- The types of a project. -/
structure Schema where
  types : OrderedMap ContentType
  deriving DecidableEq

namespace Schema

/-- A schema without types. -/
def empty : Schema := ⟨.empty⟩

/-- Adds a type; one of the same name is replaced in its place. -/
def insert (s : Schema) (t : ContentType) : Schema := ⟨s.types.insert t.name t⟩

/-- The schema of given types, inserted in order. -/
def ofTypes (types : List ContentType) : Schema := types.foldl insert empty

/-- The type of a name. -/
def get? (s : Schema) (name : String) : Option ContentType := s.types.get? name

/-- The type of documents of a name. -/
def model? (s : Schema) (name : String) : Option ContentType :=
  (s.get? name).filter ContentType.isModel

/-- All types in order of declaration. -/
def all (s : Schema) : List ContentType := s.types.values

/-- The types of documents in order of declaration. -/
def models (s : Schema) : List ContentType := s.all.filter ContentType.isModel

/-- Number of types. -/
def size (s : Schema) : Nat := s.types.size

/-- Whether there are no types. -/
def isEmpty (s : Schema) : Bool := s.types.isEmpty

end Schema

end ContentSync
