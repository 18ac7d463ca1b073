import ContentSync.Proofs.CacheWrites
import ContentSync.Proofs.ItemReading
import ContentSync.Proofs.Reconciliation

/-!
# What a delivery does to the cache

A delivery is checked, its payload is read, and the notification in it is followed.  Whatever goes
wrong on the way leaves the entries of the cache as they were; a removal takes out one entry; and a
copy that was read is stored where it belongs.

* `schema_cases` — loading the schema.
* `applyNotification_delete`, `applyNotification_cases` — following a notification.
* `SameEntries`, `RemovedItem`, `StoredCopy` — what can become of the cache.
* `ShownLast` — a copy that the last request shows.
* `handleWebhook_effect` — what becomes of the cache for which delivery.
-/

namespace ContentSync

open GraphQL
open Http (Attempt Network)

section Following

variable {source : Source} {net : Network} {s : SourceState} {n : Notification}

/-! ## Following a notification -/

/-- The steps of loading the schema. -/
lemma schema_eq (source : Source) (net : Network) (s : SourceState) :
    source.schema net s =
      (match s.cache.schema with
        | some schema => pure schema
        | none => source.refreshSchema net : SourceM Schema) s := rfl

/-- The schema that is kept is given, and nothing changes. -/
lemma schema_of_kept {schema : Schema} (h : s.cache.schema = some schema) :
    source.schema net s = (schema, s) := by
  rw [schema_eq, h]
  rfl

/-- **Loading the schema** gives the one that is kept and changes nothing; when none is kept, it
changes only the kept schema and the log. -/
lemma schema_cases (source : Source) (net : Network) (s : SourceState) :
    (∃ schema, s.cache.schema = some schema ∧ source.schema net s = (schema, s)) ∨
    (s.cache.schema = none ∧ source.schema net s =
      ((source.api.fetchSchema net s.log).1, { s with
        cache := s.cache.learn (source.api.fetchSchema net s.log).1
        log := (source.api.fetchSchema net s.log).2 })) := by
  cases h : s.cache.schema with
  | some schema => exact .inl ⟨schema, rfl, schema_of_kept h⟩
  | none =>
      refine .inr ⟨rfl, ?_⟩
      rw [schema_eq, h]
      rfl

/-- A removal asks for nothing. -/
lemma applyNotification_delete (source : Source) (net : Network) (s : SourceState)
    (h : n.change = .delete) :
    source.applyNotification net n s = (.ok (some (.deleting n.reference)),
      { s with cache := s.cache.apply (.deleting n.reference) }) := by
  rw [Source.applyNotification, h]
  simp only [Source.followWith, Notification.follow, h, Cache.followRemoval, Source.record,
    List.append_nil]

/-- The run of reads that follows a notification from a state on. -/
def runOfReads (source : Source) (net : Network) (schema : Schema) (n : Notification)
    (cached : Option Item) (log : ApiLog) : Report × ApiLog :=
  reconcile source.policy n.change cached (source.readOnce net schema n.reference) log

/-- A state after a run of reads. -/
def SourceState.afterRun (s : SourceState) (run : Report × ApiLog) : SourceState :=
  { s with
    cache := s.cache.applyOption run.1.result.update?
    log := { run.2 with warnings := run.2.warnings ++ run.1.warnings }
    waits := s.waits ++ run.1.waits }

/-- **Any other change** needs a schema.  It is refused without a read, or leads to a run of reads
whose copy is written. -/
lemma applyNotification_cases {schema : Schema} {s₁ : SourceState}
    (hschema : source.schema net s = (schema, s₁)) (h : n.change ≠ .delete) :
    source.applyNotification net n s =
      match n.lookup schema s₁.cache with
      | .error e => (.error e, s₁)
      | .ok cached =>
          (.ok (runOfReads source net schema n cached s₁.log).1.result.update?,
            s₁.afterRun (runOfReads source net schema n cached s₁.log)) := by
  have hstep : source.applyNotification net n s =
      source.followWith net (source.schema net s).1 n (source.schema net s).2 := by
    rw [Source.applyNotification]
    cases hchange : n.change with
    | delete => exact absurd hchange h
    | create | update | publish | unpublish => rfl
  have hfollow : ∀ read : ApiLog → Read × ApiLog,
      n.follow source.policy schema read s₁.cache s₁.log =
        match n.lookup schema s₁.cache with
        | .error e => (.error e, s₁.log)
        | .ok cached =>
            (.ok (s₁.cache.followReads (reconcile source.policy n.change cached read s₁.log).1),
              (reconcile source.policy n.change cached read s₁.log).2) := by
    intro read
    rw [Notification.follow]
    cases hchange : n.change with
    | delete => exact absurd hchange h
    | create | update | publish | unpublish => rfl
  rw [hstep, hschema, Source.followWith, hfollow]
  cases n.lookup schema s₁.cache with
  | error e => rfl
  | ok cached => rfl

end Following

/-! ## What can become of a cache -/

/-- The same documents and assets are kept, in the same order. -/
structure SameEntries (before after : Cache) : Prop where
  documents : after.documents = before.documents
  assets : after.assets = before.assets

/-- **An identity was removed** from the map that its type tells, and nothing else changed. -/
structure RemovedItem (r : Reference) (before after : Cache) : Prop where
  entries :
    if r.typename = assetTypename then
      Removed r.id before.assets after.assets ∧ after.documents = before.documents
    else Removed r.id before.documents after.documents ∧ after.assets = before.assets
  schema : after.schema = before.schema

/-- **A copy was stored** in the map that its own type tells. -/
structure StoredCopy (copy : Item) (before after : Cache) : Prop where
  entries :
    if copy.typename = assetTypename then
      Stored copy before.assets after.assets ∧ after.documents = before.documents
    else Stored copy before.documents after.documents ∧ after.assets = before.assets
  /-- A schema that was kept is kept; one may have been loaded if there was none. -/
  schema : before.schema.isSome → after.schema = before.schema

/-- An update that stores one copy and does nothing else. -/
structure Update.Carries (u : Update) (copy : Item) : Prop where
  items : u.documents ++ u.assets = [copy]
  deletedDocuments : u.deletedDocuments = []
  deletedAssets : u.deletedAssets = []

/-- **The last of the new requests shows a copy**: it asks the content side for the item, and its
reply has the copy. -/
def ShownLast (api : Api) (r : Reference) (before after : List Attempt) (copy : Item) : Prop :=
  ∃ schema earlier a, after = before ++ earlier ++ [a] ∧ Shows api schema r a copy

section Effect

variable {source : Source} {net : Network} {s : SourceState} {n : Notification}

lemma removedItem_delete (c : Cache) (r : Reference) :
    RemovedItem r c (c.apply (.deleting r)) := by
  rw [Cache.apply_deleting]
  by_cases hasset : r.typename = assetTypename
  · rw [if_pos hasset]
    refine ⟨?_, rfl⟩
    rw [if_pos hasset]
    exact ⟨removed_erase _ _, rfl⟩
  · rw [if_neg hasset]
    refine ⟨?_, rfl⟩
    rw [if_neg hasset]
    exact ⟨removed_erase _ _, rfl⟩

lemma storedCopy_ofItem (c : Cache) (copy : Item) :
    StoredCopy copy c (c.apply (.ofItem copy)) := by
  rw [Cache.apply_ofItem, Item.isAsset]
  by_cases hasset : copy.typename = assetTypename
  · rw [if_pos (beq_iff_eq.mpr hasset)]
    refine ⟨?_, fun _ => rfl⟩
    rw [if_pos hasset]
    exact ⟨stored_insert _ _, rfl⟩
  · rw [if_neg (by simpa using hasset)]
    refine ⟨?_, fun _ => rfl⟩
    rw [if_neg hasset]
    exact ⟨stored_insert _ _, rfl⟩

lemma carries_ofItem (copy : Item) : (Update.ofItem copy).Carries copy := by
  rw [Update.ofItem, Update.push]
  split <;> exact ⟨rfl, rfl, rfl⟩

/-- Loading the schema leaves the entries and the earlier attempts alone. -/
lemma afterSchema {schema : Schema} {s₁ : SourceState}
    (hschema : source.schema net s = (schema, s₁)) :
    SameEntries s.cache s₁.cache ∧ s.log.attempts <+: s₁.log.attempts ∧
      (s.cache.schema.isSome → s₁.cache.schema = s.cache.schema) := by
  rcases schema_cases source net s with ⟨kept, -, hload⟩ | ⟨hnone, hload⟩
  · obtain ⟨rfl, rfl⟩ := Prod.mk.inj (hschema.symm.trans hload)
    exact ⟨⟨rfl, rfl⟩, List.prefix_rfl, fun _ => rfl⟩
  · obtain ⟨rfl, rfl⟩ := Prod.mk.inj (hschema.symm.trans hload)
    refine ⟨⟨Cache.learn_documents _ _, Cache.learn_assets _ _⟩,
      extends_fetchSchema source.api s.log, fun hsome => ?_⟩
    rw [hnone] at hsome
    cases hsome

/-- Stale reads only add attempts: each of them has read an item. -/
lemma attempts_afterReads {schema : Schema} {r : Reference} {change : Change}
    {cached : Option Item} (stale : Nat) : ∀ {log : ApiLog},
      (∀ i < stale, (answer (source.readOnce net schema r) log i).isStale change cached) →
      log.attempts <+: (afterReads (source.readOnce net schema r) log stale).attempts := by
  induction stale with
  | zero => exact fun _ => List.prefix_rfl
  | succ stale ih =>
      intro log h
      have hrest := ih fun i hi => h (i + 1) (Nat.succ_lt_succ hi)
      refine List.IsPrefix.trans ?_ hrest
      have hfirst := h 0 (Nat.succ_pos stale)
      rcases hread : source.readOnce net schema r log with ⟨_ | _ | _, log₁⟩
      · obtain ⟨before, a, hattempts, -⟩ := readOnce_item hread
        rw [hattempts, List.append_assoc]
        exact List.prefix_append _ _
      · simp [answer_zero, hread, Read.isStale] at hfirst
      · simp [answer_zero, hread, Read.isStale] at hfirst

/-- **A copy that a run of reads gives** is shown by the reply to the last request. -/
lemma shows_of_run {schema : Schema} {cached : Option Item} {log : ApiLog} {copy : Item}
    (h : (runOfReads source net schema n cached log).1.result.item? = some copy) :
    ∃ before a, (runOfReads source net schema n cached log).2.attempts =
      log.attempts ++ before ++ [a] ∧ Shows source.api schema n.reference a copy := by
  obtain ⟨stale, hlast, hrun⟩ := reconcile_eq (source.readOnce net schema n.reference)
    source.policy n.change cached log
  rw [runOfReads, hrun] at h ⊢
  have hread := read_afterReads (source.readOnce net schema n.reference) log stale
  cases hanswer : answer (source.readOnce net schema n.reference) log stale with
  | missing => simp [runOf, hanswer, Read.outcome_item?] at h
  | failed => simp [runOf, hanswer, Read.outcome_item?] at h
  | item shown =>
      simp only [runOf, hanswer, Read.outcome_item?, Option.some.injEq] at h
      subst h
      rw [hanswer] at hread
      obtain ⟨before, a, hattempts, hshows⟩ := readOnce_item hread
      obtain ⟨earlier, hearlier⟩ := attempts_afterReads stale hlast.before
      refine ⟨earlier ++ before, a, ?_, hshows⟩
      rw [runOf, hattempts, ← hearlier, List.append_assoc log.attempts]

/-- **Following any change but a removal**: entries change only when a copy is written. -/
lemma applyNotification_effect (source : Source) (net : Network) (s : SourceState)
    (h : n.change ≠ .delete) :
    match source.applyNotification net n s with
    | (.error _, s') => SameEntries s.cache s'.cache
    | (.ok none, s') => SameEntries s.cache s'.cache
    | (.ok (some update), s') => ∃ copy, update.Carries copy ∧
        ShownLast source.api n.reference s.log.attempts s'.log.attempts copy ∧
        StoredCopy copy s.cache s'.cache := by
  rcases hschema : source.schema net s with ⟨schema, s₁⟩
  obtain ⟨hentries, ⟨earlier, hearlier⟩, hkept⟩ := afterSchema hschema
  rw [applyNotification_cases hschema h]
  cases n.lookup schema s₁.cache with
  | error e => exact hentries
  | ok cached =>
      have hafter : (s₁.afterRun (runOfReads source net schema n cached s₁.log)).cache =
          s₁.cache.applyOption
            (runOfReads source net schema n cached s₁.log).1.result.update? := rfl
      dsimp only
      rw [Reconciled.update?] at hafter ⊢
      cases hitem : (runOfReads source net schema n cached s₁.log).1.result.item? with
      | none =>
          rw [hitem] at hafter
          exact ⟨hafter ▸ hentries.documents, hafter ▸ hentries.assets⟩
      | some copy =>
          rw [hitem] at hafter
          obtain ⟨before, a, hlast, hshows⟩ := shows_of_run hitem
          have hstored := storedCopy_ofItem s₁.cache copy
          refine ⟨copy, carries_ofItem copy, ⟨schema, earlier ++ before, a, ?_, hshows⟩, ?_⟩
          · rw [← List.append_assoc, hearlier]
            exact hlast
          · have hcopy := hstored.entries
            rw [hentries.documents, hentries.assets] at hcopy
            refine ⟨hafter ▸ hcopy, fun hsome => ?_⟩
            rw [hafter]
            exact (hstored.schema ((hkept hsome).symm ▸ hsome)).trans (hkept hsome)

/-! ## Deliveries -/

/-- A state after the checks of a delivery. -/
def SourceState.afterIntake (s : SourceState) (receipt : Webhook.Handler.Receipt) : SourceState :=
  { s with
    guard := receipt.guard
    log := { s.log with warnings := s.log.warnings ++ receipt.warnings } }

/-- The steps of a delivery. -/
lemma handleWebhook_eq (source : Source) (net : Network) (clock : Webhook.Clock)
    (d : Webhook.Delivery) (s : SourceState) :
    source.handleWebhook net clock d s =
      match (source.handler.receive s.guard clock d).result with
      | .error e => (.error (.webhook e), s.afterIntake (source.handler.receive s.guard clock d))
      | .ok event =>
          match Notification.reader.ofJson event.payload with
          | .error e => (.error (.notification e.message),
              s.afterIntake (source.handler.receive s.guard clock d))
          | .ok n => source.applyNotification net n
              (s.afterIntake (source.handler.receive s.guard clock d)) := by
  rw [Source.handleWebhook]
  simp only [bind, ExceptT.bind, ExceptT.mk, ExceptT.bindCont, StateT.bind, Source.acceptDelivery]
  cases (source.handler.receive s.guard clock d).result with
  | error e => rfl
  | ok event =>
      dsimp only [Except.mapError, Source.readNotification]
      cases Notification.reader.ofJson event.payload with
      | error e => rfl
      | ok n => rfl

/-- **What a delivery does to the cache.**

* One that the checks refuse, or that carries no notification, is an error; neither side is asked
  for anything and the cache stays as it is.
* A removal asks for nothing either and takes exactly one identity out of the map that its type
  tells.
* After any other notification, the entries of the cache are as before unless an update is the
  result.  The update then carries one copy, which is what the reply to the last request shows, and
  which is stored in the map that its own type tells. -/
theorem handleWebhook_effect (source : Source) (net : Network) (clock : Webhook.Clock)
    (d : Webhook.Delivery) (s : SourceState) :
    let (result, s') := source.handleWebhook net clock d s
    match (source.handler.receive s.guard clock d).result with
    | .error e => result = .error (.webhook e) ∧
        s'.log.attempts = s.log.attempts ∧ s'.cache = s.cache
    | .ok event =>
        match Notification.reader.ofJson event.payload with
        | .error e => result = .error (.notification e.message) ∧
            s'.log.attempts = s.log.attempts ∧ s'.cache = s.cache
        | .ok n =>
            if n.change = .delete then
              result = .ok (some (.deleting n.reference)) ∧
                s'.log.attempts = s.log.attempts ∧ RemovedItem n.reference s.cache s'.cache
            else
              match result with
              | .error _ => SameEntries s.cache s'.cache
              | .ok none => SameEntries s.cache s'.cache
              | .ok (some update) => ∃ copy, update.Carries copy ∧
                  ShownLast source.api n.reference s.log.attempts s'.log.attempts copy ∧
                  StoredCopy copy s.cache s'.cache := by
  rw [handleWebhook_eq]
  cases (source.handler.receive s.guard clock d).result with
  | error e => exact ⟨rfl, rfl, rfl⟩
  | ok event =>
      dsimp only
      cases Notification.reader.ofJson event.payload with
      | error e => exact ⟨rfl, rfl, rfl⟩
      | ok n =>
          dsimp only
          by_cases hdelete : n.change = .delete
          · rw [applyNotification_delete source net _ hdelete]
            dsimp only
            rw [if_pos hdelete]
            exact ⟨rfl, rfl, removedItem_delete s.cache n.reference⟩
          · have heffect := applyNotification_effect source net
              (s.afterIntake (source.handler.receive s.guard clock d)) hdelete
            rcases hresult : source.applyNotification net n
              (s.afterIntake (source.handler.receive s.guard clock d)) with ⟨_ | _ | update, s'⟩ <;>
              (rw [hresult] at heffect; dsimp only; rw [if_neg hdelete]; exact heffect)

end Effect

end ContentSync
