import ContentSync.Source.Basic

/-!
# Writing through a source

Single writes go to the content side first and change the cache only when they were carried out.
Publishing changes nothing that is kept: the notification that follows does.

* `Source.createDocument`, `Source.updateDocument`, `Source.deleteDocument`
* `Source.publishDocument`, `Source.unpublishDocument`
* `Source.publishDocuments`, `Source.unpublishDocuments` — many at once; a failure is a warning.
-/

namespace ContentSync

namespace Source

/-- Writes a document to the cache. -/
def keep (d : Item) : SourceM Unit := .changeCache (·.apply (.ofItem d))

/-- Creates a document and keeps it. -/
def createDocument (source : Source) (net : Http.Network) (typename : String) (data : Json) :
    SourceAction Item := do
  let schema ← source.schema net
  let d ← .ofApi (source.api.createDocument net schema typename data)
  keep d
  return d

/-- Changes the draft of a document and keeps the result. -/
def updateDocument (source : Source) (net : Http.Network) (typename id : String) (data : Json) :
    SourceAction Item := do
  let schema ← source.schema net
  let d ← .ofApi (source.api.updateDocument net schema typename id data)
  keep d
  return d

/-- Deletes a document or asset, also from the cache. -/
def deleteDocument (source : Source) (net : Http.Network) (typename id : String) :
    SourceAction Unit := do
  .ofApi (source.api.deleteDocument net typename id)
  (SourceM.changeCache (·.apply (.deleting ⟨typename, id⟩)) : SourceM Unit)

/-- Publishes a document. -/
def publishDocument (source : Source) (net : Http.Network) (typename id : String) :
    SourceAction Unit :=
  .ofApi (source.api.publishDocument net typename id)

/-- Takes a document back. -/
def unpublishDocument (source : Source) (net : Http.Network) (typename id : String) :
    SourceAction Unit :=
  .ofApi (source.api.unpublishDocument net typename id)

/-- Carries out an action; its failure is only warned of. -/
def attempt (w : Warning) (x : ApiAction Unit) : SourceM Unit :=
  .logging do
    match ← x.run with
    | .ok () => return ()
    | .error _ => warn w

/-- Publishes several documents. -/
def publishDocuments (source : Source) (net : Http.Network) (refs : List Reference) :
    SourceM Unit :=
  attempt .bulkPublishFailed (source.api.publishMany net refs)

/-- Takes several documents back. -/
def unpublishDocuments (source : Source) (net : Http.Network) (refs : List Reference) :
    SourceM Unit :=
  attempt .bulkUnpublishFailed (source.api.unpublishMany net refs)

end Source

end ContentSync
