import ContentSync.Proofs.CacheHistory
import ContentSync.Proofs.NotificationEffect
import ContentSync.Proofs.PageRounds

/-!
# A full read is all or nothing

Everything is read in rounds, each of which asks for the lists that go on after the one before.  The
run of rounds is followed from outside: which lists a round asked for, and what the reply says.  As
soon as one round fails, nothing of what was read so far is kept; else all nodes of all replies are
read, in order, and those that are items are stored.

* `RunsTo`, `pageRounds_run` — what becomes of a run of rounds.
* `StoredAll` — a map with several items stored.
* `syncAll_allOrNothing` — what becomes of the cache.
-/

namespace ContentSync.GraphQL

open Http (Attempt Network Outcome)

/-! ## The run of rounds -/

section Run

variable {c : Client} {net : Network} {pageSize : Nat}

/-- **What becomes of a run**: a failure if a round of it fails, else all nodes of its replies,
after the items that were there before. -/
def RunsTo (c : Client) (net : Network) (keys : List String) (items : List PagedItem) (j : Journal)
    (ending : Except ClientError (Option (List PagedItem)) × Journal) : Prop :=
  ∃ fetches, FetchRun c net keys j.attempts fetches ending.2.attempts ∧
    if fetches.any Fetch.fails then ∃ e, ending.1 = .error e
    else ∃ found, ending.1 = .ok (some (items ++ found)) ∧
      found.map PagedItem.node = fetches.flatMap Fetch.nodes

/-- **The run of rounds.**  A failure in any round is one of the run, whatever the rounds before it
brought. -/
theorem pageRounds_run (rounds : Nat) {positions : List (PageStream × Cursor)}
    (items : List PagedItem) (j : Journal) (hnames : (positions.map fun p => p.1.name).Nodup)
    (hends : (pageRounds (asking c net) pageSize rounds positions items j).1 ≠ .ok none) :
    RunsTo c net (activeNames positions) items j
      (pageRounds (asking c net) pageSize rounds positions items j) := by
  obtain ⟨fetches, hrun, hresult, -⟩ := exists_ranAs c net pageSize rounds positions items j hnames
  rw [hresult] at hends
  refine ⟨fetches, hrun.fetchRun hnames hends, ?_⟩
  have hfails : fetches.any Fetch.fails = (fetches.findSome? Fetch.failure).isSome := by
    rw [List.isSome_findSome?]
    exact congrArg (List.any fetches) (funext fun f => f.isSome_failure.symm)
  rw [hfails, hresult, runResult_of_ends hends]
  cases fetches.findSome? Fetch.failure with
  | some e => exact ⟨e, rfl⟩
  | none =>
      refine (if_neg Bool.false_ne_true).mpr ⟨_, rfl, ?_⟩
      simp only [List.map_flatMap, Fetch.map_node_items]

end Run

end ContentSync.GraphQL

namespace ContentSync

open GraphQL
open Http (Attempt Network Outcome)

/-! ## Several items -/

/-- **A map with several items stored** under their identities, the last one of an identity for
good.  What was kept under other identities stays, and all identities that were there keep their
places. -/
structure StoredAll (items : List Item) (before after : OrderedMap Item) : Prop where
  get? : ∀ id, after.get? id = ((items.filter fun d => d.id = id).getLast?).or (before.get? id)
  keys : before.keys <+: after.keys

lemma storedAll_storeItems (items : List Item) (m : OrderedMap Item) :
    StoredAll items m (storeItems m items) where
  get? id := get?_storeItems m items id
  keys := by
    rw [keys_storeItems, List.eraseDups_append, eraseDups_of_nodup m.nodup_keys]
    exact List.prefix_append _ _

/-- The items among the nodes of replies, in order. -/
def itemsOf (nodes : List Json) : List Item := nodes.filterMap fun node => (readItem node).toOption

lemma foldl_push (items : List Item) (u : Update) :
    items.foldl Update.push u = { u with
      documents := u.documents ++ items.filter fun d => d.typename ≠ assetTypename
      assets := u.assets ++ items.filter fun d => d.typename = assetTypename } := by
  induction items generalizing u with
  | nil => simp
  | cons d rest ih =>
      rw [List.foldl_cons, ih, Update.push, Item.isAsset]
      by_cases h : d.typename = assetTypename <;> simp [h]

/-! ## Everything -/

/-- **Nothing was read**: the update is empty, there is one more warning, and the cache stays as it
is. -/
structure NothingRead (s : SourceState) (update : Update) (s' : SourceState) : Prop where
  update : update = .empty
  warnings : s'.log.warnings = s.log.warnings ++ [.contentUnavailable]
  cache : s'.cache = s.cache

/-- **All these nodes were read**: the update has the items among them, in order, assets apart from
documents, and they are stored.  There is no warning, and a node that is no item changes nothing. -/
structure EverythingRead (nodes : List Json) (s : SourceState) (update : Update)
    (s' : SourceState) : Prop where
  documents : update.documents = (itemsOf nodes).filter fun d => d.typename ≠ assetTypename
  assets : update.assets = (itemsOf nodes).filter fun d => d.typename = assetTypename
  deletedDocuments : update.deletedDocuments = []
  deletedAssets : update.deletedAssets = []
  warnings : s'.log.warnings = s.log.warnings
  storedDocuments : StoredAll update.documents s.cache.documents s'.cache.documents
  storedAssets : StoredAll update.assets s.cache.assets s'.cache.assets
  schema : s'.cache.schema = s.cache.schema

section Everything

variable {source : Source} {net : Network} {rounds : Nat} {schema : Schema} {s s' : SourceState}

lemma updateOfNodes_eq (nodes : List Json) :
    updateOfNodes nodes = ⟨(itemsOf nodes).filter fun d => d.typename ≠ assetTypename,
      (itemsOf nodes).filter fun d => d.typename = assetTypename, [], []⟩ := by
  rw [updateOfNodes, foldl_push]
  rfl

/-- Writing the items among some nodes to the cache. -/
lemma everythingRead_apply (nodes : List Json) (s : SourceState) (j : Journal) :
    EverythingRead nodes s (updateOfNodes nodes) { s with
      cache := s.cache.apply (updateOfNodes nodes)
      log := { s.log with journal := j } } := by
  rw [updateOfNodes_eq]
  exact ⟨rfl, rfl, rfl, rfl, rfl, storedAll_storeItems _ _, storedAll_storeItems _ _, rfl⟩

/-- The run of rounds that reads everything. -/
def contentRun (api : Api) (net : Network) (rounds : Nat) (schema : Schema) (j : Journal) :
    Except ClientError (Option (List PagedItem)) × Journal :=
  api.content.paginate net (contentStreams schema) api.config.pageSize rounds j

lemma contentRun_run (api : Api) (net : Network) (rounds : Nat) (j : Journal)
    (hnames : ((contentStreams schema).map PageStream.name).Nodup)
    (hends : (contentRun api net rounds schema j).1 ≠ .ok none) :
    RunsTo api.content net ((contentStreams schema).map PageStream.name) [] j
      (contentRun api net rounds schema j) := by
  rw [← map_name_startStreams] at hnames
  exact activeNames_startStreams (contentStreams schema) ▸ pageRounds_run rounds [] j hnames hends

lemma tryFetchAll_eq (api : Api) (net : Network) (rounds : Nat) (schema : Schema) (log : ApiLog) :
    api.tryFetchAll net rounds schema log =
      match contentRun api net rounds schema log.journal with
      | (.ok items, j) => (.ok (items.map fun items => updateOfNodes (items.map PagedItem.node)),
          { log with journal := j })
      | (.error e, j) => (.error (.graphql e), { log with journal := j }) := by
  rw [Api.tryFetchAll]
  simp only [bind, ExceptT.bind, ExceptT.mk, ExceptT.bindCont, StateT.bind, ApiAction.reading,
    ApiAction.ofExchange]
  rw [contentRun]
  rcases api.content.paginate net (contentStreams schema) api.config.pageSize rounds log.journal
    with ⟨_ | items, j⟩ <;> rfl

lemma fetchAll_eq (api : Api) (net : Network) (rounds : Nat) (schema : Schema) (log : ApiLog) :
    api.fetchAll net rounds schema log =
      match contentRun api net rounds schema log.journal with
      | (.ok items, j) => (items.map fun items => updateOfNodes (items.map PagedItem.node),
          { log with journal := j })
      | (.error _, j) => (some .empty, ⟨j, log.warnings ++ [.contentUnavailable]⟩) := by
  rw [Api.fetchAll]
  simp only [bind, StateT.bind, ExceptT.run, tryFetchAll_eq]
  rcases contentRun api net rounds schema log.journal with ⟨_ | items, j⟩ <;> rfl

/-- With a schema that is kept, everything is read with it and written to the cache. -/
lemma syncAll_eq (hschema : s.cache.schema = some schema) :
    source.syncAll net rounds s =
      ((source.api.fetchAll net rounds schema s.log).1, { s with
        cache := s.cache.applyOption (source.api.fetchAll net rounds schema s.log).1
        log := (source.api.fetchAll net rounds schema s.log).2 }) := by
  rw [Source.syncAll]
  simp only [bind, StateT.bind, schema_eq, hschema]
  rfl

/-- **A full read is all or nothing.**  With a schema that is kept, and whose lists have different
names, the run of rounds that ends is one that asks for all lists first.  If a round of it fails,
nothing was read, however many pages the rounds before it brought; else everything was. -/
theorem syncAll_allOrNothing (hschema : s.cache.schema = some schema)
    (hnames : ((contentStreams schema).map PageStream.name).Nodup) {update : Update}
    (hrun : source.syncAll net rounds s = (some update, s')) :
    ∃ fetches, FetchRun source.api.content net ((contentStreams schema).map PageStream.name)
        s.log.attempts fetches s'.log.attempts ∧
      if fetches.any Fetch.fails then NothingRead s update s'
      else EverythingRead (fetches.flatMap Fetch.nodes) s update s' := by
  rw [syncAll_eq hschema, fetchAll_eq] at hrun
  have hfollowed := contentRun_run source.api net rounds s.log.journal hnames
  rcases hcontent : contentRun source.api net rounds schema s.log.journal with ⟨_ | _ | items, j⟩
  · rw [hcontent] at hrun hfollowed
    obtain ⟨fetches, hfetches, hresult⟩ := hfollowed (by simp)
    obtain ⟨hupdate, rfl⟩ := Prod.mk.inj hrun
    cases hupdate
    refine ⟨fetches, hfetches, ?_⟩
    split at hresult
    · next hfails =>
        rw [if_pos hfails]
        exact ⟨rfl, rfl, rfl⟩
    · obtain ⟨_, hok, -⟩ := hresult
      cases hok
  · rw [hcontent] at hrun
    cases hrun
  · rw [hcontent] at hrun hfollowed
    obtain ⟨fetches, hfetches, hresult⟩ := hfollowed (by simp)
    obtain ⟨hupdate, rfl⟩ := Prod.mk.inj hrun
    refine ⟨fetches, hfetches, ?_⟩
    split at hresult
    · obtain ⟨_, herror⟩ := hresult
      cases herror
    · next hnever =>
        obtain ⟨found, hok, hnodes⟩ := hresult
        cases hok
        rw [if_neg hnever, ← hnodes]
        cases hupdate
        exact everythingRead_apply (found.map PagedItem.node) s j

end Everything

section Assets

/-- A schema without types is kept, and nothing else. -/
def bareState : SourceState := { SourceState.empty with cache := ⟨some .empty, .empty, .empty⟩ }

/-- An edge with an asset. -/
def assetEdge (id : Json) : Json :=
  .object [("node", .object [("id", id), ("__typename", .string "Asset")])]

/-- Two assets, with a node between them whose identity is a number. -/
def assetPage : Json :=
  .object [("assets", .object [("edges",
    .array [assetEdge (.string "a"), assetEdge (.int 1), assetEdge (.string "b")])])]

/-- The reply with the page. -/
def assetReply : Outcome :=
  .replied ⟨200, none, (Json.object [("data", assetPage)]).render.toUTF8⟩

/-- The content side gives the page of assets. -/
def assetNetwork : Network := ⟨fun _ _ => assetReply, fun _ => 0⟩

lemma dataOf_assetReply : dataOf assetReply = some assetPage := by
  rw [← toOption_answerTo_json, assetReply, answerTo_rendered]
  decide +kernel

lemma contentRun_assets (api : Api) : ∃ j found,
    contentRun api assetNetwork 1 .empty .empty = (.ok (some found), j) ∧
      found.map PagedItem.node = nodesUnder assetPage "assets" := by
  have hdata : dataOf (assetNetwork.answer [] (api.content.requestFor
      (pageDocument (startStreams (contentStreams .empty)) api.config.pageSize))) =
        some assetPage := dataOf_assetReply
  have hask := executeDocumentStrict_of_dataOf .empty _ true hdata
  have hedges : ∀ key ∈ activeNames (startStreams (contentStreams .empty)),
      edgesUnder? assetPage key ≠ none := by decide
  obtain ⟨found, next, htake, hfound, hnext, -⟩ := takePages_of_edges api.config.pageSize hedges
  refine ⟨_, found, (pageRounds_succ (by decide) hask htake).trans (pageRounds_of_done ?_), ?_⟩
  · have hover : activeNames next = [] := by
      rw [hnext]
      decide +kernel
    intro p hp
    by_contra hactive
    exact activeNames_ne_nil ⟨p, hp, by simpa using hactive⟩ hover
  · have hnames : activeNames (startStreams (contentStreams .empty)) = ["assets"] := rfl
    rw [hfound, hnames, List.flatMap_cons, List.flatMap_nil, List.append_nil]

/-- The node that is no asset hides neither of the others. -/
theorem syncAll_allOrNothing_assets :
    ∃ source update s', Source.of? plainConfig = .ok source ∧
      bareState.cache.schema = some .empty ∧
      ((contentStreams .empty).map PageStream.name).Nodup ∧
      source.syncAll assetNetwork 1 bareState = (some update, s') ∧
      update.assets.map Item.id = ["a", "b"] ∧
      ∃ fetches, FetchRun source.api.content assetNetwork ["assets"] [] fetches s'.log.attempts ∧
        if fetches.any Fetch.fails then NothingRead bareState update s'
        else EverythingRead (fetches.flatMap Fetch.nodes) bareState update s' := by
  obtain ⟨source, hsource⟩ : ∃ source, Source.of? plainConfig = .ok source := ⟨_, rfl⟩
  have hschema : bareState.cache.schema = some .empty := rfl
  obtain ⟨j, found, hcontent, hnodes⟩ := contentRun_assets source.api
  have hfetch : source.api.fetchAll assetNetwork 1 .empty .empty =
      (some (updateOfNodes (nodesUnder assetPage "assets")), ⟨j, []⟩) := by
    rw [fetchAll_eq, ← hnodes]
    simp only [ApiLog.empty, hcontent]
    rfl
  have hrun : (source.syncAll assetNetwork 1 bareState).1 =
      some (updateOfNodes (nodesUnder assetPage "assets")) := by
    rw [syncAll_eq hschema]
    exact congrArg Prod.fst hfetch
  refine ⟨source, _, _, hsource, hschema, by decide, Prod.ext hrun rfl, ?_,
    syncAll_allOrNothing hschema (by decide) (Prod.ext hrun rfl)⟩
  rw [updateOfNodes_eq]
  decide +kernel

end Assets

end ContentSync
