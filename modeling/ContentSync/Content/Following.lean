import ContentSync.Content.Cache
import ContentSync.Content.Reconcile
import ContentSync.SyncError

/-!
# Following a notification

To follow a notification is to bring the cache up to date with the item it is about.  A removal is
written at once.  Any other change takes three steps: the copy that is kept is looked up, the item
is read until it shows the change, and the copy read is written.  The steps are separate, so that
notifications about different items can be followed at the same time.

* `Notification.lookup` — the first step, which refuses what is neither an asset nor of a model.
* `reconcile` — the second step.
* `Reconciled.update?` — what the third step writes.
* `Notification.follow` — all steps, over any source of reads.
-/

namespace ContentSync

open GraphQL (RetryPolicy)

/-- The copy that is kept of an item: assets and documents are kept apart. -/
def Cache.kept? (c : Cache) (r : Reference) : Option Item :=
  if r.typename == assetTypename then c.asset? r.id else c.document? r.id

/-- Whether a name is that of a model.  The schema that is kept comes first. -/
def Cache.knowsModel (c : Cache) (schema : Schema) (name : String) : Bool :=
  ((c.type? name).or (schema.get? name)).any ContentType.isModel

/-- **The copy that the reads are compared with**, if there is one.  An item that is no asset must
be of a model. -/
def Notification.lookup (n : Notification) (schema : Schema) (c : Cache) :
    Except SyncError (Option Item) :=
  if n.isAsset || c.knowsModel schema n.subject.typename then .ok (c.kept? n.reference)
  else .error (.unknownModel n.subject.typename)

/-- What is written in the end, if anything. -/
def Reconciled.update? (r : Reconciled) : Option Update := r.item?.map Update.ofItem

/-- What following a notification gives: the update that was written, the cache with it, the waits
and what is warned of. -/
structure Followed where
  update : Option Update
  cache : Cache
  waits : List Duration
  warnings : List Warning

/-- Follows a removal: no read is needed. -/
def Cache.followRemoval (c : Cache) (r : Reference) : Followed :=
  ⟨some (.deleting r), c.apply (.deleting r), [], []⟩

/-- Follows any other change from the copy that was looked up on. -/
def Cache.followReads (c : Cache) (report : Report) : Followed :=
  ⟨report.result.update?, c.applyOption report.result.update?, report.waits, report.warnings⟩

/-- **Follows a notification** with the reads that `read` gives.  The schema is needed only when the
change is no removal. -/
def Notification.follow {σ : Type} (n : Notification) (p : RetryPolicy) (schema : Schema)
    (read : σ → Read × σ) (c : Cache) (s : σ) : Except SyncError Followed × σ :=
  match n.change with
  | .delete => (.ok (c.followRemoval n.reference), s)
  | change =>
      match n.lookup schema c with
      | .error e => (.error e, s)
      | .ok cached =>
          let (report, s) := reconcile p change cached read s
          (.ok (c.followReads report), s)

end ContentSync
