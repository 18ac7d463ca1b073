import ContentSync.Content.Item

/-!
# The cache

The cache keeps the schema, the documents and the assets that were read.  It is written by updates:
items to be stored and identities to be removed.

* `Update` — what is to be written; `Update.push` sorts an item to the documents or assets.
* `Cache` — what is kept; `Cache.apply` writes an update, all items before all removals.
-/

namespace ContentSync

/-- What is to be written. -/
structure Update where
  documents : List Item
  assets : List Item
  deletedDocuments : List String
  deletedAssets : List String

namespace Update

/-- Nothing is written. -/
def empty : Update := ⟨[], [], [], []⟩

/-- Adds an item to the documents or to the assets. -/
def push (u : Update) (d : Item) : Update :=
  if d.isAsset then { u with assets := u.assets ++ [d] }
  else { u with documents := u.documents ++ [d] }

/-- The update that stores one item. -/
def ofItem (d : Item) : Update := empty.push d

/-- The update that removes one item. -/
def deleting (r : Reference) : Update :=
  if r.typename == assetTypename then { empty with deletedAssets := [r.id] }
  else { empty with deletedDocuments := [r.id] }

/-- Whether nothing is written. -/
def isEmpty (u : Update) : Bool :=
  u.documents.isEmpty && u.assets.isEmpty && u.deletedDocuments.isEmpty && u.deletedAssets.isEmpty

end Update

/-- What is kept.  Items are kept under their identity. -/
structure Cache where
  schema : Option Schema
  documents : OrderedMap Item
  assets : OrderedMap Item

/-- Stores items under their identity, the last one of an identity for good. -/
def storeItems (m : OrderedMap Item) (items : List Item) : OrderedMap Item :=
  items.foldl (fun m d => m.insert d.id d) m

/-- Removes identities. -/
def removeItems (m : OrderedMap Item) (ids : List String) : OrderedMap Item :=
  ids.foldl OrderedMap.erase m

namespace Cache

/-- Nothing is kept. -/
def empty : Cache := ⟨none, .empty, .empty⟩

/-- Keeps a schema in place of the one before. -/
def storeSchema (c : Cache) (s : Schema) : Cache := { c with schema := some s }

/-- **Writes an update.** -/
def apply (c : Cache) (u : Update) : Cache :=
  { c with
    documents := removeItems (storeItems c.documents u.documents) u.deletedDocuments
    assets := removeItems (storeItems c.assets u.assets) u.deletedAssets }

/-- Writes an update if there is one. -/
def applyOption (c : Cache) : Option Update → Cache
  | some u => c.apply u
  | none => c

/-- The document of an identity. -/
def document? (c : Cache) (id : String) : Option Item := c.documents.get? id

/-- The asset of an identity. -/
def asset? (c : Cache) (id : String) : Option Item := c.assets.get? id

/-- The type of a name in the schema that is kept. -/
def type? (c : Cache) (name : String) : Option ContentType := c.schema.bind (·.get? name)

end Cache

end ContentSync
