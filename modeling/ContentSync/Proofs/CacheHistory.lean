import ContentSync.Content.Cache
import ContentSync.Proofs.LastValues

/-!
# What a history of updates leaves in the cache

An update writes items to a map of the cache and then removes identities from it, so an identity
that it both writes and removes is gone.  After any number of updates there is, under each identity,
what was written last since it was last removed, and the identities stand in the order in which they
were first written since then.

* `Batch` — what an update does to one of the two maps.
* `lasting` — the writes of a history that nothing removes.
* `Batch.keys_apply`, `Batch.get?_apply` — one batch; `keys_applyAll`, `get?_applyAll` — a history.
* `Batch.apply_apply` — a batch that comes twice.
* `applyAll_lastWriter` — the cache after any history.
-/

namespace ContentSync

/-! ## One batch -/

/-- **What an update does to one of the two maps**: items are written to it, and then identities are
removed from it. -/
structure Batch where
  written : List Item
  removed : List String

/-- The item that was written last under an identity. -/
def lastWritten? (items : List Item) (id : String) : Option Item :=
  (items.filter fun d => d.id = id).getLast?

lemma lastWritten?_append (items more : List Item) (id : String) :
    lastWritten? (items ++ more) id = (lastWritten? more id).or (lastWritten? items id) := by
  rw [lastWritten?, List.filter_append, List.getLast?_append]
  rfl

section Store

variable (m : OrderedMap Item) (items : List Item) (ids : List String)

lemma entries_storeItems :
    (storeItems m items).entries = Entries.insertAll m.entries (items.map fun d => (d.id, d)) := by
  induction items generalizing m with
  | nil => rfl
  | cons d rest ih => exact ih (m.insert d.id d)

lemma keys_storeItems : (storeItems m items).keys = (m.keys ++ items.map Item.id).eraseDups := by
  have hkeys : Entries.keys (items.map fun d => (d.id, d)) = items.map Item.id := by
    rw [Entries.keys, List.map_map]
    rfl
  rw [OrderedMap.keys, entries_storeItems, Entries.keys_insertAll m.nodup, hkeys]
  rfl

lemma get?_storeItems (id : String) :
    (storeItems m items).get? id = (lastWritten? items id).or (m.get? id) := by
  have hlast : Entries.lastOf? (items.map fun d => (d.id, d)) id = lastWritten? items id := by
    rw [Entries.lastOf?, List.filter_map, List.getLast?_map, Option.map_map]
    exact Option.map_id'
  rw [OrderedMap.get?, entries_storeItems, Entries.get?_insertAll, hlast]
  rfl

lemma keys_removeItems : (removeItems m ids).keys = m.keys.filter fun id => id ∉ ids := by
  induction ids generalizing m with
  | nil => simp [removeItems]
  | cons first rest ih =>
      have hstep : removeItems m (first :: rest) = removeItems (m.erase first) rest := rfl
      rw [hstep, ih, OrderedMap.keys_erase, List.filter_filter]
      exact List.filter_congr fun id _ => by simp [Bool.and_comm]

lemma get?_removeItems (id : String) :
    (removeItems m ids).get? id = if id ∈ ids then none else m.get? id := by
  induction ids generalizing m with
  | nil => rfl
  | cons first rest ih =>
      have hstep : removeItems m (first :: rest) = removeItems (m.erase first) rest := rfl
      rw [hstep, ih, OrderedMap.get?_erase]
      by_cases hfirst : first = id
      · simp [hfirst]
      · simp [hfirst, Ne.symm hfirst]

end Store

namespace Batch

/-- The map after a batch. -/
def apply (b : Batch) (m : OrderedMap Item) : OrderedMap Item :=
  removeItems (storeItems m b.written) b.removed

variable (b : Batch) (m : OrderedMap Item)

/-- New identities come behind the old ones, and those that are removed leave no gap. -/
theorem keys_apply : (b.apply m).keys =
    ((m.keys ++ b.written.map Item.id).filter fun id => id ∉ b.removed).eraseDups := by
  rw [apply, keys_removeItems, keys_storeItems, filter_eraseDups]

/-- Nothing is found under an identity that is removed, and the last write is found under another.
-/
theorem get?_apply (id : String) : (b.apply m).get? id =
    if id ∈ b.removed then none else (lastWritten? b.written id).or (m.get? id) := by
  rw [apply, get?_removeItems, get?_storeItems]

/-- **A batch that comes twice** does nothing the second time, whatever there was before. -/
theorem apply_apply : b.apply (b.apply m) = b.apply m := by
  apply OrderedMap.ext_get?
  · -- all that the second batch could add stands already where the first one put it
    have hold : (b.apply m).keys.filter (fun id => id ∉ b.removed) = (b.apply m).keys := by
      rw [keys_apply, filter_eraseDups, List.filter_filter]
      simp
    have hnew : ∀ id ∈ (b.written.map Item.id).filter (fun id => id ∉ b.removed),
        id ∈ (b.apply m).keys := by
      intro id hid
      rw [keys_apply, List.mem_eraseDups, List.filter_append]
      exact List.mem_append_right _ hid
    rw [keys_apply b (b.apply m), List.filter_append, hold, eraseDups_append_of_subset hnew]
    exact eraseDups_of_nodup (b.apply m).nodup_keys
  · intro id
    rw [get?_apply, get?_apply]
    split
    · rfl
    · cases lastWritten? b.written id <;> rfl

end Batch

/-! ## Histories -/

/-- An identity that no batch removes. -/
def Spared (history : List Batch) (id : String) : Prop := ∀ b ∈ history, id ∉ b.removed

instance (history : List Batch) : DecidablePred (Spared history) := fun _ =>
  inferInstanceAs (Decidable (∀ b ∈ history, _))

/-- **The writes that last**: those of an identity that neither their own batch nor a later one
removes. -/
def lasting : List Batch → List Item
  | [] => []
  | b :: later => (b.written.filter fun d => Spared (b :: later) d.id) ++ lasting later

/-- The map after a history. -/
def applyAll (m : OrderedMap Item) (history : List Batch) : OrderedMap Item :=
  history.foldl (fun m b => b.apply m) m

lemma spared_cons {b : Batch} {later : List Batch} {id : String} :
    Spared (b :: later) id ↔ id ∉ b.removed ∧ Spared later id := List.forall_mem_cons

lemma filter_spared_cons (b : Batch) (later : List Batch) (ids : List String) :
    (ids.filter fun id => id ∉ b.removed).filter (fun id => Spared later id) =
      ids.filter fun id => Spared (b :: later) id := by
  rw [List.filter_filter]
  exact List.filter_congr fun id _ => by simp [spared_cons, Bool.and_comm]

/-- The writes of an identity last together or not at all. -/
lemma lastWritten?_spared (history : List Batch) (items : List Item) (id : String) :
    lastWritten? (items.filter fun d => Spared history d.id) id =
      if Spared history id then lastWritten? items id else none := by
  have hhere : (items.filter fun d => Spared history d.id).filter (fun d => d.id = id) =
      (items.filter fun d => d.id = id).filter fun _ => Spared history id := by
    rw [List.filter_filter, List.filter_filter]
    refine List.filter_congr fun d _ => ?_
    by_cases hd : d.id = id <;> simp [hd]
  rw [lastWritten?, hhere]
  split
  · next hspared => simp [hspared, lastWritten?]
  · next hnot => simp [hnot]

/-- **The order after a history**: what was there and is spared, and then the lasting writes. -/
theorem keys_applyAll (m : OrderedMap Item) (history : List Batch) : (applyAll m history).keys =
    (m.keys.filter (fun id => Spared history id) ++ (lasting history).map Item.id).eraseDups := by
  induction history generalizing m with
  | nil =>
      have hkept : m.keys.filter (fun id => Spared [] id) = m.keys :=
        List.filter_eq_self.mpr fun id _ => by simp [Spared]
      rw [hkept, lasting, List.map_nil, List.append_nil, eraseDups_of_nodup m.nodup_keys]
      rfl
  | cons b later ih =>
      have hwritten : (b.written.filter fun d => Spared (b :: later) d.id).map Item.id =
          (b.written.map Item.id).filter fun id => Spared (b :: later) id := by
        rw [List.filter_map]
        rfl
      rw [applyAll, List.foldl_cons, ← applyAll, ih, Batch.keys_apply, filter_eraseDups,
        filter_spared_cons, eraseDups_append_left, List.filter_append, lasting, List.map_append,
        hwritten, List.append_assoc]

/-- **What is found after a history**: the last of the lasting writes, else what was there, if it is
spared. -/
theorem get?_applyAll (m : OrderedMap Item) (history : List Batch) (id : String) :
    (applyAll m history).get? id =
      (lastWritten? (lasting history) id).or (if Spared history id then m.get? id else none) := by
  induction history generalizing m with
  | nil => simp [applyAll, lasting, lastWritten?, Spared]
  | cons b later ih =>
      rw [applyAll, List.foldl_cons, ← applyAll, ih, Batch.get?_apply, lasting,
        lastWritten?_append, lastWritten?_spared, Option.or_assoc]
      by_cases hlater : Spared later id
      · by_cases hremoved : id ∈ b.removed <;> simp [spared_cons, hlater, hremoved]
      · simp [spared_cons, hlater]

/-! ## The cache -/

/-- What an update does to the documents. -/
def Update.documentBatch (u : Update) : Batch := ⟨u.documents, u.deletedDocuments⟩

/-- What an update does to the assets. -/
def Update.assetBatch (u : Update) : Batch := ⟨u.assets, u.deletedAssets⟩

/-- The cache after several updates. -/
def Cache.applyAll (c : Cache) (us : List Update) : Cache := us.foldl Cache.apply c

/-- **What a map shows that remembers the last writes** of a history: what is found under an
identity, for how many identities something is found, and in which order they stand. -/
structure LastWriter (history : List Batch) (find : String → Option Item) (count : Nat)
    (order : List String) : Prop where
  find : ∀ id, find id = lastWritten? (lasting history) id
  count : count = {id | (lastWritten? (lasting history) id).isSome}.ncard
  order : order = ((lasting history).map Item.id).eraseDups

lemma lastWriter_applyAll (history : List Batch) :
    LastWriter history (applyAll .empty history).get? (applyAll .empty history).size
      (applyAll .empty history).keys := by
  have hfind (id : String) :
      (applyAll .empty history).get? id = lastWritten? (lasting history) id := by
    rw [get?_applyAll, OrderedMap.get?_empty, ite_self, Option.or_none]
  refine ⟨hfind, ?_, ?_⟩
  · simp only [OrderedMap.size_eq_ncard, hfind]
  · rw [keys_applyAll]
    rfl

lemma Cache.documents_applyAll (c : Cache) (us : List Update) : (c.applyAll us).documents =
    ContentSync.applyAll c.documents (us.map Update.documentBatch) := by
  induction us generalizing c with
  | nil => rfl
  | cons u rest ih => exact ih (c.apply u)

lemma Cache.assets_applyAll (c : Cache) (us : List Update) : (c.applyAll us).assets =
    ContentSync.applyAll c.assets (us.map Update.assetBatch) := by
  induction us generalizing c with
  | nil => rfl
  | cons u rest ih => exact ih (c.apply u)

/-- An update that comes twice changes nothing the second time. -/
lemma Cache.apply_apply (c : Cache) (u : Update) : (c.apply u).apply u = c.apply u := by
  have hdocuments : ((c.apply u).apply u).documents = (c.apply u).documents :=
    u.documentBatch.apply_apply c.documents
  have hassets : ((c.apply u).apply u).assets = (c.apply u).assets :=
    u.assetBatch.apply_apply c.assets
  exact congrArg₂ (Cache.mk c.schema) hdocuments hassets

/-- **The cache remembers the last writes.**  After any updates of an empty cache, the documents are
the last of those writes of documents that no update removes, in the order of the first of them, and
so are the assets, whatever is done to the documents.  An update that comes twice in a row leaves
what it left the first time. -/
theorem applyAll_lastWriter (us : List Update) :
    let c := Cache.empty.applyAll us
    LastWriter (us.map Update.documentBatch) c.document? c.documents.size c.documents.keys ∧
      LastWriter (us.map Update.assetBatch) c.asset? c.assets.size c.assets.keys ∧
      ∀ (c : Cache) (u : Update), (c.apply u).apply u = c.apply u := by
  intro c
  have hdocuments : c.documents = applyAll .empty (us.map Update.documentBatch) :=
    Cache.documents_applyAll .empty us
  have hassets : c.assets = applyAll .empty (us.map Update.assetBatch) :=
    Cache.assets_applyAll .empty us
  have hdocument : c.document? = c.documents.get? := rfl
  have hasset : c.asset? = c.assets.get? := rfl
  rw [hdocument, hasset, hdocuments, hassets]
  exact ⟨lastWriter_applyAll _, lastWriter_applyAll _, Cache.apply_apply⟩

end ContentSync
