import ContentSync.Content.Item

/-!
# Change notifications

A notification says that an item was created, changed, published, unpublished or deleted.
-/

namespace ContentSync

open Json (Reader)

/-- What happened to an item. -/
inductive Change where
  | create
  | update
  | publish
  | unpublish
  | delete
  deriving DecidableEq

/-- The name of a change. -/
def Change.name : Change → String
  | .create => "create"
  | .update => "update"
  | .publish => "publish"
  | .unpublish => "unpublish"
  | .delete => "delete"

/-- Reads a change. -/
def Change.reader : Reader Change :=
  Reader.variant fun
    | "create" => some .create
    | "update" => some .update
    | "publish" => some .publish
    | "unpublish" => some .unpublish
    | "delete" => some .delete
    | _ => none

/-- The item a notification is about, as it was when it was sent. -/
structure Subject where
  typename : String
  id : String
  updatedAt : Option Instant
  stages : Option (List StageRecord)
  deriving DecidableEq

/-- A change notification. -/
structure Notification where
  change : Change
  subject : Subject
  deriving DecidableEq

/-- Reads the item a notification is about. -/
def Subject.reader : Reader Subject :=
  Reader.record [
    .needed "__typename" .string fun d s => { d with typename := s },
    .needed "id" .string fun d s => { d with id := s },
    .default "updatedAt" (.optional Instant.reader) fun d t => { d with updatedAt := t },
    .default "documentInStages" (.optional (.list StageRecord.reader))
      fun d rs => { d with stages := rs }]
    ⟨"", "", none, none⟩

/-- The item a notification is about as JSON. -/
def Subject.toJson (d : Subject) : Json :=
  .object ([("__typename", .string d.typename), ("id", .string d.id),
    ("updatedAt", Instant.optionToJson d.updatedAt)] ++ stagesMember d.stages)

namespace Notification

/-- Reads a notification. -/
def reader : Reader Notification :=
  Reader.record [
    .needed "operation" Change.reader fun n c => { n with change := c },
    .needed "data" Subject.reader fun n s => { n with subject := s }]
    ⟨.create, "", "", none, none⟩

/-- A notification as JSON. -/
def toJson (n : Notification) : Json :=
  .object [("operation", .string n.change.name), ("data", n.subject.toJson)]

/-- Whether the notification is about an asset. -/
def isAsset (n : Notification) : Bool := n.subject.typename == assetTypename

/-- The type and identity of the item. -/
def reference (n : Notification) : Reference := ⟨n.subject.typename, n.subject.id⟩

end Notification

end ContentSync
