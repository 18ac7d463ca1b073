import ContentSync.Proofs.FullSync
import ContentSync.Source.Writing

/-!
# Runs of a source

Whatever is called, the cache changes in two ways only: a schema is kept, unless it has no types,
and an update is written in which every item stands where its type belongs.  So what these two keep
holds after every call, and after any number of calls, whatever the network replies.

* `SourceCall`, `Source.perform`, `Source.performAll` — a call of an operation, and calls in a row.
* `Update.Sorted`, `CacheStep` — an update with every item in its place, and a change of the cache.
* `Stable`, `Keeps` — what all changes of the cache keep, and what an operation keeps.
* `perform_keeps`, `performAll_keeps` — one call, and the induction over a run.
-/

namespace ContentSync

open GraphQL
open Http (Network)

/-! ## Calls -/

/-- A call of an operation of a source. -/
inductive SourceCall where
  | schema
  | refreshSchema
  | syncAll (rounds : Nat)
  | ensureWebhook
  | handleWebhook (clock : Webhook.Clock) (d : Webhook.Delivery)
  | applyNotification (n : Notification)
  | createDocument (typename : String) (data : Json)
  | updateDocument (typename id : String) (data : Json)
  | deleteDocument (typename id : String)
  | publishDocument (typename id : String)
  | unpublishDocument (typename id : String)
  | publishDocuments (refs : List Reference)
  | unpublishDocuments (refs : List Reference)

namespace Source

/-- The state after a call. -/
def perform (source : Source) (net : Network) (call : SourceCall) (s : SourceState) :
    SourceState :=
  match call with
  | .schema => (source.schema net s).2
  | .refreshSchema => (source.refreshSchema net s).2
  | .syncAll rounds => (source.syncAll net rounds s).2
  | .ensureWebhook => (source.ensureWebhook net s).2
  | .handleWebhook clock d => (source.handleWebhook net clock d s).2
  | .applyNotification n => (source.applyNotification net n s).2
  | .createDocument typename data => (source.createDocument net typename data s).2
  | .updateDocument typename id data => (source.updateDocument net typename id data s).2
  | .deleteDocument typename id => (source.deleteDocument net typename id s).2
  | .publishDocument typename id => (source.publishDocument net typename id s).2
  | .unpublishDocument typename id => (source.unpublishDocument net typename id s).2
  | .publishDocuments refs => (source.publishDocuments net refs s).2
  | .unpublishDocuments refs => (source.unpublishDocuments net refs s).2

/-- **The state after calls in a row**, each with a network of its own. -/
def performAll (source : Source) (calls : List (Network × SourceCall)) (s : SourceState) :
    SourceState :=
  calls.foldl (fun s c => source.perform c.1 c.2 s) s

end Source

/-! ## Changes of the cache -/

/-- **An update with every item where its type belongs.** -/
structure Update.Sorted (u : Update) : Prop where
  documents : ∀ d ∈ u.documents, d.typename ≠ assetTypename
  assets : ∀ d ∈ u.assets, d.typename = assetTypename

/-- **One change of the cache.** -/
inductive CacheStep (c : Cache) : Cache → Prop
  | learn (schema : Schema) : CacheStep c (c.learn schema)
  | write {u : Update} (h : u.Sorted) : CacheStep c (c.apply u)

/-- **What every change of the cache keeps.** -/
def Stable (holds : Cache → Prop) : Prop := ∀ {c c'}, CacheStep c c' → holds c → holds c'

namespace Update

lemma sorted_empty : Sorted .empty :=
  ⟨fun _ h => absurd h List.not_mem_nil, fun _ h => absurd h List.not_mem_nil⟩

lemma Sorted.push {u : Update} (h : u.Sorted) (d : Item) : (u.push d).Sorted := by
  rw [Update.push, Item.isAsset]
  split
  · next hasset =>
      refine ⟨h.documents, List.forall_mem_append.mpr ⟨h.assets, ?_⟩⟩
      exact List.forall_mem_singleton.mpr (beq_iff_eq.mp hasset)
  · next hother =>
      refine ⟨List.forall_mem_append.mpr ⟨h.documents, ?_⟩, h.assets⟩
      exact List.forall_mem_singleton.mpr (by simpa using hother)

lemma sorted_ofItem (d : Item) : (ofItem d).Sorted := sorted_empty.push d

/-- What removes an item stores none. -/
lemma sorted_deleting (r : Reference) : (deleting r).Sorted := by
  rw [deleting]
  split <;> exact ⟨sorted_empty.documents, sorted_empty.assets⟩

lemma sorted_ofNodes (nodes : List Json) : (updateOfNodes nodes).Sorted := by
  rw [updateOfNodes_eq]
  exact ⟨fun d hd => by simpa using (List.mem_filter.mp hd).2,
    fun d hd => by simpa using (List.mem_filter.mp hd).2⟩

/-- What a full read gives, if it gives anything. -/
lemma sorted_fetchAll {api : Api} {net : Network} {rounds : Nat} {schema : Schema} {log : ApiLog}
    {u : Update} (h : (api.fetchAll net rounds schema log).1 = some u) : u.Sorted := by
  rw [fetchAll_eq] at h
  rcases hrun : contentRun api net rounds schema log.journal with ⟨_ | found, j⟩
  · rw [hrun] at h
    cases h
    exact sorted_empty
  · rw [hrun] at h
    obtain ⟨items, -, rfl⟩ := Option.map_eq_some_iff.mp h
    exact sorted_ofNodes _

end Update

lemma Stable.applyOption {holds : Cache → Prop} (hstable : Stable holds) {u : Option Update}
    (h : ∀ w, u = some w → w.Sorted) {c : Cache} (hc : holds c) : holds (c.applyOption u) := by
  cases u with
  | none => exact hc
  | some w => exact hstable (.write (h w rfl)) hc

/-! ## One call -/

/-- **What an operation keeps.** -/
def Keeps {α : Type} (holds : Cache → Prop) (x : SourceState → α × SourceState) : Prop :=
  ∀ s, holds s.cache → holds (x s).2.cache

section Operations

variable {α β : Type} {source : Source} {net : Network} {holds : Cache → Prop}

lemma keeps_bind {x : SourceAction α} {f : α → SourceAction β} (hx : Keeps holds x)
    (hf : ∀ a, Keeps holds (f a)) : Keeps holds (x >>= f) := by
  intro s hs
  have hfirst := hx s hs
  rcases hrun : x s with ⟨_ | a, s₁⟩
  · rw [hrun] at hfirst
    rw [bind_of_error hrun]
    exact hfirst
  · rw [hrun] at hfirst
    rw [bind_of_ok hrun]
    exact hf a s₁ hfirst

/-- What touches nothing but the log. -/
lemma keeps_logging (x : StateM ApiLog α) : Keeps holds (SourceM.logging x) := fun _ hs => hs

section Stable

variable (hstable : Stable holds)

include hstable

lemma keeps_schema (source : Source) (net : Network) : Keeps holds (source.schema net) := by
  intro s hs
  rcases schema_cases source net s with ⟨schema, -, hload⟩ | ⟨-, hload⟩
  · rw [hload]
    exact hs
  · rw [hload]
    exact hstable (.learn _) hs

lemma keeps_syncAll (rounds : Nat) : Keeps holds (source.syncAll net rounds) := by
  intro s hs
  exact hstable.applyOption (fun _ hu => Update.sorted_fetchAll hu)
    (keeps_schema hstable source net s hs)

lemma keeps_applyNotification (n : Notification) :
    Keeps holds (source.applyNotification net n) := by
  intro s hs
  by_cases hdelete : n.change = .delete
  · rw [applyNotification_delete source net s hdelete]
    exact hstable (.write (Update.sorted_deleting _)) hs
  · have hload := keeps_schema hstable source net s hs
    rcases hschema : source.schema net s with ⟨schema, s₁⟩
    rw [hschema] at hload
    rw [applyNotification_cases hschema hdelete]
    cases n.lookup schema s₁.cache with
    | error e => exact hload
    | ok cached =>
        refine hstable.applyOption (fun u hu => ?_) hload
        rw [Reconciled.update?] at hu
        obtain ⟨copy, -, rfl⟩ := Option.map_eq_some_iff.mp hu
        exact Update.sorted_ofItem copy

lemma keeps_handleWebhook (clock : Webhook.Clock) (d : Webhook.Delivery) :
    Keeps holds (source.handleWebhook net clock d) := by
  intro s hs
  rw [handleWebhook_eq]
  cases (source.handler.receive s.guard clock d).result with
  | error e => exact hs
  | ok event =>
      dsimp only
      cases Notification.reader.ofJson event.payload with
      | error e => exact hs
      | ok n => exact keeps_applyNotification hstable n _ hs

/-- A write whose result is stored. -/
lemma keeps_write (x : Schema → ApiAction Item) :
    Keeps holds (do
      let schema ← source.schema net
      let d ← .ofApi (x schema)
      Source.keep d
      return d : SourceAction Item) := by
  refine keeps_bind (keeps_schema hstable source net) fun schema => ?_
  refine keeps_bind (keeps_logging _) fun d => ?_
  exact keeps_bind (fun _ => hstable (.write (Update.sorted_ofItem d))) fun _ _ hs => hs

lemma keeps_deleteDocument (typename id : String) :
    Keeps holds (source.deleteDocument net typename id) :=
  keeps_bind (keeps_logging _) fun _ _ => hstable (.write (Update.sorted_deleting _))

/-- **A call keeps what every change of the cache keeps**, whatever the network replies. -/
theorem perform_keeps (source : Source) (net : Network) (call : SourceCall) (s : SourceState)
    (hs : holds s.cache) : holds (source.perform net call s).cache := by
  cases call with
  | schema => exact keeps_schema hstable source net s hs
  | refreshSchema => exact hstable (.learn _) hs
  | syncAll rounds => exact keeps_syncAll hstable rounds s hs
  | handleWebhook clock d => exact keeps_handleWebhook hstable clock d s hs
  | applyNotification n => exact keeps_applyNotification hstable n s hs
  | createDocument typename data => exact keeps_write hstable _ s hs
  | updateDocument typename id data => exact keeps_write hstable _ s hs
  | deleteDocument typename id => exact keeps_deleteDocument hstable typename id s hs
  -- The others leave the cache alone.
  | ensureWebhook => exact hs
  | publishDocument typename id => exact hs
  | unpublishDocument typename id => exact hs
  | publishDocuments refs => exact hs
  | unpublishDocuments refs => exact hs

/-! ## A run -/

/-- **A run keeps it, too.**  The induction is on the calls. -/
theorem performAll_keeps (source : Source) (calls : List (Network × SourceCall)) :
    ∀ s : SourceState, holds s.cache → holds (source.performAll calls s).cache := by
  induction calls with
  | nil => exact fun _ hs => hs
  | cons call rest ih => exact fun s hs => ih _ (perform_keeps hstable source call.1 call.2 s hs)

end Stable

end Operations

end ContentSync
