import ContentSync.Proofs.SingleWrites
import ContentSync.Proofs.SourceRuns

/-!
# A schema that is kept stays

A source asks the management side for its schema when there is none, or when it is told to load a
new one.  A schema without types is never kept.  So once a schema is kept, it stays until a refresh
brings a better one, and nothing but a refresh asks the management side.

* `Posts` — an action whose requests all go to one client.
* `ContentOnly` — a step that asks only the content side and leaves the kept schema alone.
* `perform_contentOnly`, `perform_anyManagement` — every call other than a refresh is one, and does
  not depend on the management side at all.
* `Refreshed`, `refreshSchema_refreshed` — what a refresh does.
* `keptSchema_stays` — all of it in every state that calls can lead to.
-/

namespace ContentSync

open GraphQL
open Http (Attempt Network Outcome)

/-! ## Requests to one client -/

section Posts

variable {ε σ α β : Type} {c : Client} {view : σ → List Attempt}

/-- **Attempts that are all requests of a client**, added to others. -/
def PostedBy (c : Client) (before after : List Attempt) : Prop :=
  ∃ tries, after = before ++ tries ∧ ∀ a ∈ tries, ∃ body, a.request = c.request body

lemma PostedBy.refl (before : List Attempt) : PostedBy c before before :=
  ⟨[], (List.append_nil _).symm, fun _ h => by cases h⟩

lemma PostedBy.trans {as bs cs : List Attempt} (h : PostedBy c as bs) (h' : PostedBy c bs cs) :
    PostedBy c as cs := by
  obtain ⟨first, rfl, hfirst⟩ := h
  obtain ⟨second, rfl, hsecond⟩ := h'
  exact ⟨first ++ second, List.append_assoc ..,
    List.forall_mem_append.mpr ⟨hfirst, hsecond⟩⟩

/-- The attempts of one request. -/
lemma GraphQL.Requested.postedBy {net : Network} {body : String} {idempotent : Bool}
    {before failed : List Attempt} {outcome : Outcome}
    (h : Requested c net body idempotent before failed outcome) :
    PostedBy c before (before ++ (failed ++ [⟨c.request body, outcome⟩])) :=
  ⟨_, rfl, List.forall_mem_append.mpr ⟨fun a ha => ⟨body, (h.transient a ha).1⟩,
    List.forall_mem_singleton.mpr ⟨body, rfl⟩⟩⟩

/-- **An action whose requests all go to one client.** -/
def Posts (c : Client) (view : σ → List Attempt) (x : σ → α × σ) : Prop :=
  ∀ s, PostedBy c (view s) (view (x s).2)

lemma posts_of_eq {x : σ → α × σ} (h : ∀ s, view (x s).2 = view s) : Posts c view x :=
  fun s => (h s).symm ▸ .refl _

lemma posts_bind {x : ExceptT ε (StateM σ) α} {f : α → ExceptT ε (StateM σ) β}
    (hx : Posts c view x) (hf : ∀ a, Posts c view (f a)) : Posts c view (x >>= f) := by
  intro s
  have hfirst := hx s
  rcases hrun : x s with ⟨_ | a, s₁⟩
  · rw [hrun] at hfirst
    rw [bind_of_error hrun]
    exact hfirst
  · rw [hrun] at hfirst
    rw [bind_of_ok hrun]
    exact hfirst.trans (hf a s₁)

/-- What does not depend on the state touches nothing. -/
lemma posts_pure (r : Except ε α) : Posts c view (fun s => (r, s)) := posts_of_eq fun _ => rfl

end Posts

/-! ## The content side -/

section Content

variable {c : Client} {net : Network}

lemma posts_ask {α : Type} (c : Client) (net : Network) (e : Envelope) (r : Json.Reader α)
    (idempotent : Bool) : Posts c Journal.attempts (c.ask net e r idempotent) := by
  intro j
  obtain ⟨failed, outcome, hrequested, -, hattempts⟩ := ask_requested c net e r idempotent j
  rw [hattempts]
  exact hrequested.postedBy

lemma posts_ofExchange {α : Type} {explain : ClientError → SyncError} {x : Exchange α}
    (h : Posts c Journal.attempts x) : Posts c ApiLog.attempts (ApiAction.ofExchange explain x) :=
  fun log => h log.journal

/-- The rounds of a run over pages. -/
lemma posts_pageRounds {ask : Document → Exchange Json} (pageSize rounds : Nat)
    (h : ∀ d, Posts c Journal.attempts (ask d)) (positions : List (PageStream × Cursor))
    (items : List PagedItem) :
    Posts c Journal.attempts (pageRounds ask pageSize rounds positions items) :=
  pageRounds_related (R := fun j j' : Journal => PostedBy c j.attempts j'.attempts)
    (fun _ => .refl _) (fun _ _ _ => .trans) h pageSize rounds positions items

/-- A run of reads, by induction on the reads that may follow. -/
lemma posts_readsFrom {σ : Type} {view : σ → List Attempt} {read : σ → Read × σ}
    (h : Posts c view read) (p : RetryPolicy) (change : Change) (cached : Option Item)
    (further : Nat) : ∀ attempt, Posts c view (readsFrom p change cached read further attempt) := by
  induction further with
  | zero =>
      intro attempt s
      rw [readsFrom]
      dsimp only
      cases judge change cached 0 (read s).1 <;> exact h s
  | succ further ih =>
      intro attempt s
      rw [readsFrom]
      dsimp only
      cases judge change cached (further + 1) (read s).1 with
      | done result warnings => exact h s
      | again => exact (h s).trans (ih (attempt + 1) (read s).2)

variable {api : Api}

lemma posts_fetchAll (rounds : Nat) (schema : Schema) :
    Posts api.content ApiLog.attempts (api.fetchAll net rounds schema) := by
  intro log
  have hrun : PostedBy api.content log.attempts
      (contentRun api net rounds schema log.journal).2.attempts :=
    posts_pageRounds _ _ (fun d => posts_ask _ _ _ _ _) _ _ log.journal
  rw [fetchAll_eq]
  rcases hcontent : contentRun api net rounds schema log.journal with ⟨_ | items, j⟩ <;>
    (rw [hcontent] at hrun; exact hrun)

lemma posts_readOnce (source : Source) (schema : Schema) (r : Reference) :
    Posts source.api.content ApiLog.attempts (source.readOnce net schema r) := by
  intro log
  rw [readOnce_eq, fetchItem_eq]
  cases Api.itemSelection schema r.typename with
  | error e => exact .refl _
  | ok item =>
      have hask := posts_ask source.api.content net
        (Envelope.ofDocument (Api.itemDocument item.1 item.2 r.id)) .json true log.journal
      dsimp only
      split <;> exact hask

lemma posts_mutate (field : String) (d : Document) (values : Json) :
    Posts api.content ApiLog.attempts (api.mutate net field d values) :=
  posts_bind (posts_ofExchange (posts_ask _ _ _ _ _)) fun _ => posts_pure _

lemma posts_mutateDocument (field : String) (arguments : Arguments) (selection : SelectionSet)
    (inputType : String) (data : Json) :
    Posts api.content ApiLog.attempts
      (api.mutateDocument net field arguments selection inputType data) := by
  refine posts_bind (posts_mutate _ _ _) fun value => ?_
  refine posts_of_eq fun log => ?_
  cases value.isNull <;> cases readItem value <;> rfl

lemma posts_mutateNode (field : String) (node : Selection) :
    Posts api.content ApiLog.attempts (api.mutateNode net field node) :=
  posts_bind (posts_mutate _ _ _) fun _ => posts_pure _

lemma posts_bulk (operation : String) (node : Reference → Option String → Selection)
    (refs : List Reference) :
    Posts api.content ApiLog.attempts (api.bulk net operation node refs) := by
  rw [Api.bulk]
  split
  · exact posts_pure _
  · exact posts_bind (posts_mutate _ _ _) fun _ => posts_pure _

end Content

/-! ## Calls with a schema that is kept -/

/-- The calls that are meant for the management side. -/
def SourceCall.Manages : SourceCall → Prop
  | .refreshSchema => True
  | .ensureWebhook => True
  | _ => False

/-- The source with another client for the management side. -/
def Source.managedBy (source : Source) (management : Client) : Source :=
  { source with api := { source.api with management := management } }

/-- **A step that asks only one side and leaves the kept schema alone.** -/
structure ContentOnly (c : Client) (s s' : SourceState) : Prop where
  schema : s'.cache.schema = s.cache.schema
  posted : PostedBy c s.log.attempts s'.log.attempts

section Steps

variable {α β : Type} {c : Client} {s : SourceState}

/-- What touches nothing but the log. -/
lemma contentOnly_logging {x : StateM ApiLog α} (h : Posts c ApiLog.attempts x)
    (s : SourceState) : ContentOnly c s (SourceM.logging x s).2 :=
  ⟨rfl, h s.log⟩

lemma contentOnly_bind {x : SourceAction α} {f : α → SourceAction β}
    (hx : ContentOnly c s (x s).2) (hf : ∀ a s₁, ContentOnly c s₁ (f a s₁).2) :
    ContentOnly c s ((x >>= f) s).2 := by
  rcases hrun : x s with ⟨_ | a, s₁⟩
  · rw [hrun] at hx
    rw [bind_of_error hrun]
    exact hx
  · rw [hrun] at hx
    rw [bind_of_ok hrun]
    exact ⟨(hf a s₁).schema.trans hx.schema, hx.posted.trans (hf a s₁).posted⟩

/-- Writing to the cache leaves the schema alone. -/
lemma applyOption_schema (cache : Cache) (u : Option Update) :
    (cache.applyOption u).schema = cache.schema := by
  cases u <;> rfl

lemma contentOnly_keep (d : Item) (s : SourceState) :
    ContentOnly c s ((do Source.keep d; return d : SourceAction Item) s).2 := ⟨rfl, .refl _⟩

/-- An action whose failure is only warned of. -/
lemma contentOnly_attempt {x : ApiAction Unit} (h : Posts c ApiLog.attempts x) (w : Warning) :
    ContentOnly c s (Source.attempt w x s).2 := by
  refine contentOnly_logging (fun log => ?_) s
  have hlog := h log
  simp only [bind, StateT.bind, ExceptT.run]
  rcases hrun : x log with ⟨_ | _, log₁⟩ <;>
    (rw [hrun] at hlog; exact hlog)

end Steps

section Calls

variable {source : Source} {net : Network} {s : SourceState} {schema : Schema}

/-- A notification, when a schema is kept. -/
lemma applyNotification_contentOnly (source : Source) (net : Network)
    (hschema : s.cache.schema = some schema) (n : Notification) :
    ContentOnly source.api.content s (source.applyNotification net n s).2 := by
  by_cases hdelete : n.change = .delete
  · rw [applyNotification_delete source net s hdelete]
    exact ⟨rfl, .refl _⟩
  · rw [applyNotification_cases (schema_of_kept hschema) hdelete]
    cases n.lookup schema s.cache with
    | error e => exact ⟨rfl, .refl _⟩
    | ok cached =>
        exact ⟨applyOption_schema _ _, posts_readsFrom (posts_readOnce source schema n.reference)
          source.policy n.change cached _ _ s.log⟩

/-- A write whose result is stored, when a schema is kept. -/
lemma write_contentOnly (hschema : s.cache.schema = some schema) {x : Schema → ApiAction Item}
    (hx : Posts source.api.content ApiLog.attempts (x schema)) :
    ContentOnly source.api.content s ((do
      let schema ← source.schema net
      let d ← .ofApi (x schema)
      Source.keep d
      return d : SourceAction Item) s).2 := by
  rw [bind_schema hschema]
  exact contentOnly_bind (contentOnly_logging hx s) fun d s₁ => contentOnly_keep d s₁

/-- **With a schema that is kept, no call asks the management side** but those that are meant for
it, and none of them changes the schema. -/
theorem perform_contentOnly (hschema : s.cache.schema = some schema) (call : SourceCall)
    (hcall : ¬ call.Manages) :
    ContentOnly source.api.content s (source.perform net call s) := by
  cases call with
  | refreshSchema => exact absurd trivial hcall
  | ensureWebhook => exact absurd trivial hcall
  | schema =>
      rw [Source.perform, schema_of_kept hschema]
      exact ⟨rfl, .refl _⟩
  | syncAll rounds =>
      rw [Source.perform, syncAll_eq hschema]
      exact ⟨applyOption_schema _ _, posts_fetchAll rounds schema s.log⟩
  | handleWebhook clock d =>
      rw [Source.perform, handleWebhook_eq]
      cases (source.handler.receive s.guard clock d).result with
      | error e => exact ⟨rfl, .refl _⟩
      | ok event =>
          dsimp only
          cases Notification.reader.ofJson event.payload with
          | error e => exact ⟨rfl, .refl _⟩
          | ok n =>
              have hkept : (s.afterIntake (source.handler.receive s.guard clock d)).cache.schema =
                some schema := hschema
              obtain ⟨hsame, hposted⟩ := applyNotification_contentOnly source net hkept n
              exact ⟨hsame, hposted⟩
  | applyNotification n => exact applyNotification_contentOnly source net hschema n
  | createDocument typename data =>
      refine write_contentOnly hschema (x := fun schema =>
        source.api.createDocument net schema typename data) ?_
      exact posts_bind (posts_pure _) fun t => posts_mutateDocument _ _ _ _ _
  | updateDocument typename id data =>
      refine write_contentOnly hschema (x := fun schema =>
        source.api.updateDocument net schema typename id data) ?_
      exact posts_bind (posts_pure _) fun t => posts_mutateDocument _ _ _ _ _
  | deleteDocument typename id =>
      exact contentOnly_bind (contentOnly_logging (posts_mutateNode _ _) s)
        fun _ _ => ⟨rfl, .refl _⟩
  | publishDocument typename id => exact contentOnly_logging (posts_mutateNode _ _) s
  | unpublishDocument typename id => exact contentOnly_logging (posts_mutateNode _ _) s
  | publishDocuments refs => exact contentOnly_attempt (posts_bulk _ _ _) _
  | unpublishDocuments refs => exact contentOnly_attempt (posts_bulk _ _ _) _

lemma applyNotification_anyManagement (hschema : s.cache.schema = some schema)
    (management : Client) (n : Notification) :
    (source.managedBy management).applyNotification net n s = source.applyNotification net n s := by
  by_cases hdelete : n.change = .delete
  · rw [applyNotification_delete _ net s hdelete, applyNotification_delete _ net s hdelete]
  · rw [applyNotification_cases (schema_of_kept hschema) hdelete,
      applyNotification_cases (schema_of_kept hschema) hdelete]
    rfl

/-- **What such a call does, it does with any client for the management side.** -/
theorem perform_anyManagement (hschema : s.cache.schema = some schema) (call : SourceCall)
    (hcall : ¬ call.Manages) (management : Client) :
    (source.managedBy management).perform net call s = source.perform net call s := by
  cases call with
  | refreshSchema => exact absurd trivial hcall
  | ensureWebhook => exact absurd trivial hcall
  | schema => rw [Source.perform, Source.perform, schema_of_kept hschema, schema_of_kept hschema]
  | syncAll rounds =>
      rw [Source.perform, Source.perform, syncAll_eq hschema, syncAll_eq hschema]
      rfl
  | handleWebhook clock d =>
      rw [Source.perform, Source.perform, handleWebhook_eq, handleWebhook_eq]
      have hkept : (s.afterIntake (source.handler.receive s.guard clock d)).cache.schema =
        some schema := hschema
      have hhandler : (source.managedBy management).handler = source.handler := rfl
      rw [hhandler]
      cases (source.handler.receive s.guard clock d).result with
      | error e => rfl
      | ok event =>
          dsimp only
          cases Notification.reader.ofJson event.payload with
          | error e => rfl
          | ok n => exact congrArg Prod.snd (applyNotification_anyManagement hkept management n)
  | applyNotification n =>
      exact congrArg Prod.snd (applyNotification_anyManagement hschema management n)
  | createDocument typename data =>
      rw [Source.perform, Source.perform, Source.createDocument, Source.createDocument,
        bind_schema hschema, bind_schema hschema]
      rfl
  | updateDocument typename id data =>
      rw [Source.perform, Source.perform, Source.updateDocument, Source.updateDocument,
        bind_schema hschema, bind_schema hschema]
      rfl
  -- The others need no schema.
  | deleteDocument typename id => rfl
  | publishDocument typename id => rfl
  | unpublishDocument typename id => rfl
  | publishDocuments refs => rfl
  | unpublishDocuments refs => rfl

end Calls

/-! ## A refresh -/

/-- The request for the content model. -/
def Api.modelRequest (api : Api) : Envelope :=
  ⟨contentModel.query, api.environmentVariables, some contentModel.name⟩

/-- **The schema that an outcome of this request brings**: one with types. -/
def schemaIn (outcome : Outcome) : Option Schema :=
  match answerTo contentModel.reader outcome with
  | .ok (some model) =>
      if (Schema.ofContentModel model).isEmpty then none else some (Schema.ofContentModel model)
  | .ok none => none
  | .error _ => none

/-- **What a refresh does.**  It asks the management side for the content model, with one request.
A schema with types takes the place of the one that is kept; else the cache stays as it is. -/
structure Refreshed (source : Source) (net : Network) (s s' : SourceState)
    (failed : List Attempt) (outcome : Outcome) : Prop where
  asked : Requested source.api.management net source.api.modelRequest.render true s.log.attempts
    failed outcome
  attempts : s'.log.attempts = s.log.attempts ++
    (failed ++ [⟨source.api.management.request source.api.modelRequest.render, outcome⟩])
  cache : s'.cache = match schemaIn outcome with
    | some schema => { s.cache with schema := some schema }
    | none => s.cache

/-- A refresh asks once, and its outcome decides what is kept. -/
lemma refreshSchema_refreshed (source : Source) (net : Network) (s : SourceState) :
    ∃ failed outcome, Refreshed source net s (source.refreshSchema net s).2 failed outcome := by
  obtain ⟨failed, outcome, journal, hrequested, hrun, hattempts⟩ :=
    ofExchange_requested source.api.management net .graphql source.api.modelRequest
      contentModel.reader true s.log
  have hread : ApiAction.reading (source.api.management.executeStrict net contentModel
      source.api.environmentVariables) s.log = _ := hrun
  have hfetch : (source.api.fetchSchema net s.log).2.journal = journal ∧
      s.cache.learn (source.api.fetchSchema net s.log).1 = match schemaIn outcome with
        | some schema => { s.cache with schema := some schema }
        | none => s.cache := by
    rw [Api.fetchSchema, schemaIn]
    simp only [bind, StateT.bind, ExceptT.run]
    rw [Api.tryFetchSchema]
    cases hanswer : answerTo contentModel.reader outcome with
    | error e =>
        rw [hanswer] at hread
        rw [bind_of_error hread]
        exact ⟨rfl, rfl⟩
    | ok found =>
        rw [hanswer] at hread
        rw [bind_of_ok hread]
        cases found with
        | none => exact ⟨rfl, rfl⟩
        | some model =>
            refine ⟨rfl, ?_⟩
            change s.cache.learn (Schema.ofContentModel model) = _
            dsimp only
            rw [Cache.learn]
            cases (Schema.ofContentModel model).isEmpty <;> rfl
  exact ⟨failed, outcome, hrequested, (congrArg Journal.attempts hfetch.1).trans hattempts,
    hfetch.2⟩

/-! ## Runs -/

/-- The schema that is kept, if any, has types. -/
lemma stable_types : Stable fun c => ∀ schema, c.schema = some schema → schema.isEmpty = false := by
  intro c c' hstep hc
  cases hstep with
  | write h => exact hc
  | learn schema =>
      rw [Cache.learn]
      split
      · exact hc
      · next htypes =>
          intro kept hkept
          cases hkept
          exact Bool.eq_false_iff.mpr htypes

/-- A schema is kept. -/
lemma stable_isSome : Stable fun c => c.schema.isSome := by
  intro c c' hstep hc
  cases hstep with
  | write h => exact hc
  | learn schema =>
      rw [Cache.learn]
      split
      · exact hc
      · rfl

/-- **A schema that is kept stays.**  Whatever was called on a source that kept no schema at first,
and whatever was replied:

* The schema that is kept, if any, has types.
* Once one is kept, there is one after any further calls.  No call but a refresh changes it, and no
  call but those that are meant for the management side asks it anything: all requests go to the
  content side, and the result would be the same with any other management side.
* A refresh that fails in any way, or brings no types, leaves the cache as it is, and one that
  brings types puts the new schema in the place of the old one. -/
theorem keptSchema_stays (source : Source) (calls : List (Network × SourceCall))
    {s₀ : SourceState} (h₀ : s₀.cache.schema = none) :
    let s := source.performAll calls s₀
    (∀ schema, s.cache.schema = some schema → schema.isEmpty = false) ∧
    (∀ schema, s.cache.schema = some schema →
      (∀ more, (source.performAll more s).cache.schema.isSome) ∧
      (∀ net call, call ≠ .refreshSchema →
        (source.perform net call s).cache.schema = some schema) ∧
      ∀ net call, ¬ call.Manages →
        PostedBy source.api.content s.log.attempts (source.perform net call s).log.attempts ∧
        ∀ management, (source.managedBy management).perform net call s =
          source.perform net call s) ∧
    ∀ net, ∃ failed outcome,
      Refreshed source net s (source.refreshSchema net s).2 failed outcome := by
  intro s
  have htypes := performAll_keeps stable_types source calls s₀ fun schema h => by
    rw [h₀] at h
    cases h
  refine ⟨htypes, fun schema hschema => ⟨fun more => ?_, fun net call hcall => ?_,
    fun net call hcall => ?_⟩, fun net => refreshSchema_refreshed source net s⟩
  · exact performAll_keeps stable_isSome source more s (by rw [hschema]; rfl)
  · by_cases hmanages : call.Manages
    · cases call with
      | refreshSchema => exact absurd rfl hcall
      | ensureWebhook => exact hschema
      | _ => cases hmanages
    · exact (perform_contentOnly hschema call hmanages).schema.trans hschema
  · exact ⟨(perform_contentOnly hschema call hcall).posted,
      perform_anyManagement hschema call hcall⟩

section Posts

/-- A content model whose only model is that of posts. -/
def postModelReply : Outcome :=
  let posts := Json.object [("apiId", .string "Post"), ("apiIdPlural", .string "Posts")]
  let model := Json.object [("models", .array [posts])]
  let project := Json.object [("environment", .object [("contentModel", model)])]
  .replied ⟨200, none,
    (Json.object [("data", .object [("viewer", .object [("project", project)])])]).render.toUTF8⟩

/-- A network on which every request is answered with it. -/
def postModelNetwork : Network := ⟨fun _ _ => postModelReply, fun _ => 0⟩

lemma schemaIn_postModelReply : (schemaIn postModelReply).isSome := by
  rw [schemaIn, postModelReply, answerTo_rendered]
  decide +kernel

/-- When every outcome is the same, it is the one of a refresh. -/
lemma Refreshed.outcome_eq {source : Source} {s s' : SourceState} {failed : List Attempt}
    {reply outcome : Outcome} (h : Refreshed source ⟨fun _ _ => reply, fun _ => 0⟩ s s' failed
      outcome) : outcome = reply := (answered_append.mp h.asked.answered).2.1

/-- The schema that was loaded first outlives a refresh that is turned away. -/
theorem keptSchema_stays_posts : ∃ source schema, Source.of? plainConfig = .ok source ∧
    SourceState.empty.cache.schema = none ∧
    let s := source.performAll [(postModelNetwork, .schema)] .empty
    s.cache.schema = some schema ∧
      (source.refreshSchema busyNetwork s).2.cache.schema = some schema := by
  obtain ⟨source, hsource⟩ : ∃ source, Source.of? plainConfig = .ok source := ⟨_, rfl⟩
  obtain ⟨schema, hloaded⟩ := Option.isSome_iff_exists.mp schemaIn_postModelReply
  have hempty : SourceState.empty.cache.schema = none := rfl
  refine ⟨source, schema, hsource, hempty, ?_⟩
  intro s
  have hfirst : s.cache.schema = some schema := by
    obtain ⟨failed, outcome, hrefreshed⟩ :=
      (keptSchema_stays source [] hempty).2.2 postModelNetwork
    obtain rfl := hrefreshed.outcome_eq
    have hcache := hrefreshed.cache
    rw [hloaded] at hcache
    exact congrArg Cache.schema hcache
  refine ⟨hfirst, ?_⟩
  obtain ⟨failed, outcome, hrefreshed⟩ :=
    (keptSchema_stays source [(postModelNetwork, .schema)] hempty).2.2 busyNetwork
  obtain rfl := hrefreshed.outcome_eq
  rw [hrefreshed.cache]
  exact hfirst

end Posts

end ContentSync
