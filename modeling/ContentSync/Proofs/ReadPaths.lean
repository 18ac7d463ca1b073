import ContentSync.Proofs.ContentQuery
import ContentSync.Proofs.FieldSelection

/-!
# Reading everything and reading one item agree

An item comes into the cache with everything else, as a node of a page, or by itself, under a root
field of its own.  Both ways make the same of what they are given.  They also ask for the same
selection, unless another list has the name of its list and a selection of its own: then the last
list of that name has the field, and its selection is asked of the items of both.

* `readLists` — the lists whose items can also be read one by one.
* `descend_pageDocument`, `descend_itemDocument` — what either query asks of an item, the first one
  for lists whose names may clash.
* `Api.deliveredEdges` — the edges in the replies to a run of rounds.
* `tryFetchAll_ok` — the update that is made of them.
* `MeansTheSame` — what a node means to both ways.
* `AskedAlike` — where the selection of a list is asked for.
* `readPaths_agree` — both for every list; `readPaths_agree_twins` — two lists of one name.
-/

namespace ContentSync.GraphQL

/-! ## The queries -/

namespace SelectionSet

/-- The selection at the end of a path of keys. -/
def descend : SelectionSet → List String → Option SelectionSet
  | s, [] => some s
  | s, key :: path => (s.children? key).bind fun children => descend children path

end SelectionSet

/-- What a page is asked for. -/
lemma descend_pageSelection (stream : PageStream) :
    (pageSelection stream).descend ["edges", "node"] = some stream.selection := rfl

/-- Under the field of a list stands what is asked of its items. -/
lemma descend_of_get? {s : SelectionSet} {name : String} {stream : PageStream}
    {offset pageSize : Nat}
    (h : SelectionSet.get? s name = some (pageNode stream offset pageSize)) :
    s.descend [name, "edges", "node"] = some stream.selection := by
  rw [SelectionSet.descend, SelectionSet.children?, h]
  exact descend_pageSelection stream

/-- **What the query of a round asks of an item**: what the last list of that name asks of it. -/
lemma descend_pageDocument (positions : List (PageStream × Cursor)) (pageSize : Nat)
    (name : String) :
    (pageDocument positions pageSize).selection.descend [name, "edges", "node"] =
      (askedUnder? positions name).map PageStream.selection := by
  have hfield := get?_round positions pageSize name
  rw [askedUnder?]
  cases hlast : (positions.filter fun p => p.2.active && p.1.name == name).getLast? with
  | none =>
      rw [hlast] at hfield
      rw [SelectionSet.descend, SelectionSet.children?, hfield]
      rfl
  | some p =>
      rw [hlast] at hfield
      exact descend_of_get? hfield

/-! ## The edges of a run -/

/-- The edges of all lists that go on, in order. -/
def edgesOf (data : Json) (positions : List (PageStream × Cursor)) : List Json :=
  (activeNames positions).flatMap fun key => (edgesUnder? data key).getD []

/-- **The edges in the replies to a run of rounds**, round by round. -/
def deliveredEdges (ask : Document → Exchange Json) (pageSize : Nat) :
    (rounds : Nat) → List (PageStream × Cursor) → Journal → List Json
  | 0, _, _ => []
  | rounds + 1, positions, j =>
      if positions.any fun p => p.2.active then
        match ask (pageDocument positions pageSize) j with
        | (.error _, _) => []
        | (.ok data, j) =>
            edgesOf data positions ++
              match takePages data pageSize positions with
              | .error _ => []
              | .ok (_, next) => deliveredEdges ask pageSize rounds next j
      else []

lemma filterMap_edgesOf (data : Json) (positions : List (PageStream × Cursor)) :
    (edgesOf data positions).filterMap edgeNode? =
      (activeNames positions).flatMap (nodesUnder data) := by
  rw [edgesOf]
  induction activeNames positions with
  | nil => rfl
  | cons key rest ih =>
      rw [List.flatMap_cons, List.filterMap_append, ih, List.flatMap_cons, nodesUnder_eq]

/-- The items of a reply are the nodes of its edges. -/
lemma takePages_nodes {data : Json} {pageSize : Nat} {positions next : List (PageStream × Cursor)}
    {found : List PagedItem} (h : takePages data pageSize positions = .ok (found, next)) :
    found.map PagedItem.node = (edgesOf data positions).filterMap edgeNode? := by
  rw [filterMap_edgesOf]
  by_cases hmissing : ∃ key ∈ activeNames positions, edgesUnder? data key = none
  · obtain ⟨e, herror⟩ := takePages_of_missing pageSize hmissing
    rw [h] at herror
    cases herror
  · obtain ⟨found', next', htake, hfound, -⟩ :=
      takePages_of_edges pageSize (by simpa using hmissing)
    rw [h] at htake
    cases htake
    exact hfound

/-- **The items of a run are the nodes of its edges**, by induction on the number of rounds. -/
lemma pageRounds_nodes {ask : Document → Exchange Json} {pageSize : Nat} (rounds : Nat) :
    ∀ {positions : List (PageStream × Cursor)} {items found : List PagedItem} {j j' : Journal},
      pageRounds ask pageSize rounds positions items j = (.ok (some found), j') →
      found.map PagedItem.node = items.map PagedItem.node ++
        (deliveredEdges ask pageSize rounds positions j).filterMap edgeNode? := by
  induction rounds with
  | zero =>
      intro positions items found j j' h
      rw [pageRounds] at h
      split at h
      · cases h
      · cases h
        rw [deliveredEdges, List.filterMap_nil, List.append_nil]
  | succ rounds ih =>
      intro positions items found j j' h
      rw [pageRounds] at h
      rw [deliveredEdges]
      split at h
      · next hgoes =>
          rw [if_pos hgoes]
          rcases hask : ask (pageDocument positions pageSize) j with ⟨_ | data, j₁⟩
          · rw [bind_of_error hask] at h
            cases h
          · rw [bind_of_ok hask] at h
            cases htake : takePages data pageSize positions with
            | error e =>
                rw [htake] at h
                cases h
            | ok taken =>
                rw [htake] at h
                have hrest := ih h
                dsimp only
                rw [hrest, List.map_append, takePages_nodes htake, htake, List.filterMap_append,
                  List.append_assoc]
      · next hdone =>
          cases h
          rw [if_neg hdone, List.filterMap_nil, List.append_nil]

end ContentSync.GraphQL

namespace ContentSync

open GraphQL
open Http (Attempt Network)

/-! ## Lists and single items -/

/-- In a schema every type is found under its own name. -/
lemma Schema.get?_of_mem_all {types : List ContentType} {t : ContentType}
    (h : t ∈ (Schema.ofTypes types).all) : (Schema.ofTypes types).get? t.name = some t := by
  obtain ⟨⟨name, t'⟩, he, rfl⟩ := List.mem_map.mp h
  obtain rfl : name = t'.name := Schema.name_of_mem_entries he
  exact (Entries.get?_eq_some_iff (Schema.ofTypes types).types.nodup).mpr he

/-- **The lists whose items can be read one by one**, each with the type of its items. -/
def readLists (schema : Schema) : List (String × PageStream) :=
  ((schema.models.filter fun t => t.name ≠ assetTypename).map fun t =>
    (t.name, modelStream schema t)) ++ [(assetTypename, assetStream)]

/-- They are lists of the full read, and an item of one is asked for with the same selection. -/
lemma itemSelection_of_readLists {types : List ContentType} {typename : String}
    {stream : PageStream} (h : (typename, stream) ∈ readLists (.ofTypes types)) :
    stream ∈ contentStreams (.ofTypes types) ∧
      ∃ field, Api.itemSelection (.ofTypes types) typename = .ok (field, stream.selection) := by
  rcases List.mem_append.mp h with h | h
  · obtain ⟨t, ht, heq⟩ := List.mem_map.mp h
    obtain ⟨rfl, rfl⟩ := Prod.mk.inj heq
    obtain ⟨hmodel, hother⟩ := List.mem_filter.mp ht
    obtain ⟨hall, hkind⟩ := List.mem_filter.mp hmodel
    have hfound : (Schema.ofTypes types).model? t.name = some t := by
      rw [Schema.model?, Schema.get?_of_mem_all hall, Option.filter_some, if_pos hkind]
    refine ⟨List.mem_append_left _ (List.mem_map.mpr ⟨t, hmodel, rfl⟩), t.singleField, ?_⟩
    rw [Api.itemSelection, if_neg (by simpa using hother), hfound]
    rfl
  · obtain ⟨rfl, rfl⟩ := Prod.mk.inj (List.mem_singleton.mp h)
    exact ⟨List.mem_append_right _ List.mem_cons_self, "asset", rfl⟩

/-- The query for one item has one root field, with the selection that is asked of the item. -/
lemma descend_itemDocument (field : String) (selection : SelectionSet) (id : String) :
    SelectionSet.keys (Api.itemDocument field selection id).selection = [field] ∧
      (Api.itemDocument field selection id).selection.descend [field] = some selection := by
  have hnodes : (Api.itemDocument field selection id).selection =
      [.object field none [("where", whereId id), ("stage", draftStage)] selection] := rfl
  rw [hnodes]
  refine ⟨rfl, ?_⟩
  simp [SelectionSet.descend, SelectionSet.children?, SelectionSet.get?, Selection.key,
    Selection.children?]

/-! ## What is made of a node -/

/-- The update that stores some items. -/
def updateOfItems (items : List Item) : Update := items.foldl Update.push .empty

/-- The items among the nodes of some edges. -/
def itemsOfEdges (edges : List Json) : List Item := itemsOf (edges.filterMap edgeNode?)

/-- What a node is worth to an update. -/
def itemOfNode? (node : Json) : Option Item :=
  if node.isNull then none else (readItem node).toOption

lemma itemsOf_append (nodes nodes' : List Json) :
    itemsOf (nodes ++ nodes') = itemsOf nodes ++ itemsOf nodes' := List.filterMap_append

lemma itemsOf_cons (node : Json) (nodes : List Json) :
    itemsOf (node :: nodes) = (readItem node).toOption.toList ++ itemsOf nodes := by
  rw [itemsOf, List.filterMap_cons]
  cases (readItem node).toOption <;> rfl

lemma itemsOfEdges_split (before after : List Json) {edge node : Json}
    (hnode : edge.get? "node" = some node) :
    itemsOfEdges (before ++ edge :: after) =
      itemsOfEdges before ++ (itemOfNode? node).toList ++ itemsOfEdges after := by
  have hedge : edgeNode? edge = if node.isNull then none else some node := by
    rw [edgeNode?, hnode]
  rw [itemsOfEdges, List.filterMap_append, itemsOf_append, List.append_assoc, itemOfNode?,
    List.filterMap_cons, hedge]
  cases node.isNull with
  | true => rfl
  | false => exact congrArg _ (itemsOf_cons node _)

/-- An update tells whether an item was stored at a place, and which one. -/
lemma updateOfItems_inj {before after : List Item} {item item' : Option Item} :
    updateOfItems (before ++ item.toList ++ after) =
      updateOfItems (before ++ item'.toList ++ after) ↔ item = item' := by
  refine ⟨fun h => ?_, fun h => h ▸ rfl⟩
  rw [updateOfItems, updateOfItems, foldl_push, foldl_push] at h
  obtain ⟨hdocuments, hassets, -, -⟩ := Update.mk.inj h
  simp only [List.filter_append, List.append_assoc, List.append_cancel_left_eq,
    List.append_cancel_right_eq] at hdocuments hassets
  have hsorted : ∀ o : Option Item, o.toList =
      o.toList.filter (fun d => d.typename ≠ assetTypename) ++
        o.toList.filter fun d => d.typename = assetTypename := by
    intro o
    cases o with
    | none => rfl
    | some d => by_cases hasset : d.typename = assetTypename <;> simp [hasset]
  have hlists : item.toList = item'.toList := by
    rw [hsorted item, hsorted item', hdocuments, hassets]
  simpa using congrArg List.head? hlists

/-- **A node means the same to both ways.**  `single` is what came of the item that was read by
itself, `update` what came of reading everything; `before` and `after` are the other items there.

* Null is no item, and nothing is stored.
* A document comes of it in one way exactly when it does in the other.
* It is refused in one way exactly when it is passed over in the other. -/
structure MeansTheSame (node : Json) (single : Except SyncError (Option Item)) (update : Update)
    (before after : List Item) : Prop where
  absent : node = .null → single = .ok none ∧ update = updateOfItems (before ++ after)
  item : node ≠ .null → ∀ d,
    (single = .ok (some d) ↔ update = updateOfItems (before ++ d :: after))
  malformed : node ≠ .null →
    ((∃ reason, single = .error (.graphql (.json reason))) ↔
      update = updateOfItems (before ++ after))

lemma itemOfNode?_eq {node : Json} (h : node ≠ .null) :
    itemOfNode? node = (readItem node).toOption := by
  rw [itemOfNode?, if_neg]
  cases node <;> simp_all [Json.isNull]

/-- **One node**, under its root field and in the place of its edge. -/
lemma meansTheSame {field : String} {data node : Json} (hnode : data.get? field = some node)
    (before after : List Item) :
    MeansTheSame node (itemUnder field data)
      (updateOfItems (before ++ (itemOfNode? node).toList ++ after)) before after := by
  have hnone : before ++ after = before ++ (none : Option Item).toList ++ after := by simp
  have hsome (d : Item) : before ++ d :: after = before ++ (some d).toList ++ after := by simp
  refine ⟨fun hnull => ?_, fun hnull d => ?_, fun hnull => ?_⟩
  · subst hnull
    refine ⟨by rw [itemUnder, hnode], ?_⟩
    rw [hnone]
    rfl
  · rw [hsome, updateOfItems_inj, itemOfNode?_eq hnull, itemUnder_eq hnode hnull]
    cases readItem node <;> simp [Except.toOption]
  · rw [hnone, updateOfItems_inj, itemOfNode?_eq hnull, itemUnder_eq hnode hnull]
    cases readItem node <;> simp [Except.toOption]

/-! ## Both ways -/

/-- The edges in the replies to a full read. -/
def Api.deliveredEdges (api : Api) (net : Network) (rounds : Nat) (schema : Schema)
    (log : ApiLog) : List Json :=
  GraphQL.deliveredEdges (asking api.content net) api.config.pageSize rounds
    (startStreams (contentStreams schema)) log.journal

/-- **The update of a full read** stores the items among the nodes of all edges. -/
lemma tryFetchAll_ok {api : Api} {net : Network} {rounds : Nat} {schema : Schema}
    {log log' : ApiLog} {update : Update}
    (h : api.tryFetchAll net rounds schema log = (.ok (some update), log')) :
    update = updateOfItems (itemsOfEdges (api.deliveredEdges net rounds schema log)) := by
  rw [tryFetchAll_eq] at h
  rcases hrun : contentRun api net rounds schema log.journal with ⟨_ | _ | found, j⟩
  · rw [hrun] at h
    cases h
  · rw [hrun] at h
    cases h
  · rw [hrun] at h
    cases h
    have hnodes := pageRounds_nodes rounds hrun
    rw [List.map_nil, List.nil_append] at hnodes
    exact congrArg updateOfNodes hnodes

/-- The result of reading one item, when the reply has data. -/
lemma fetchItem_of_data {api : Api} {net : Network} {schema : Schema} {typename id field : String}
    {selection : SelectionSet} {log : ApiLog} {data : Json}
    (hselection : Api.itemSelection schema typename = .ok (field, selection))
    (hdata : (api.content.executeDocumentStrict net (Api.itemDocument field selection id) true
      log.journal).1 = .ok data) :
    (api.fetchItem net schema typename id log).1 = itemUnder field data := by
  rw [fetchItem_eq api net schema ⟨typename, id⟩ log, hselection]
  dsimp only
  rw [hdata]

/-- **How far both ways ask the same of the items of a list.**  The query for an item has one root
field, with the selection of the list under it.  In the field of the list this selection stands
under the edges.

The query of a round has it under the name of the list just when the last list of that name that
goes on asks the same of an item.  So it is with the first query of a full read, which is sent first
and in which all lists go on; there it is under that name whenever the names of all lists differ. -/
structure AskedAlike (schema : Schema) (stream : PageStream) (field : String) : Prop where
  single : ∀ id,
    SelectionSet.keys (Api.itemDocument field stream.selection id).selection = [field] ∧
      (Api.itemDocument field stream.selection id).selection.descend [field] =
        some stream.selection
  listed : ∀ offset pageSize,
    SelectionSet.descend [pageNode stream offset pageSize] [stream.name, "edges", "node"] =
      some stream.selection
  round_iff : ∀ positions pageSize,
    (pageDocument positions pageSize).selection.descend [stream.name, "edges", "node"] =
        some stream.selection ↔
      (askedUnder? positions stream.name).map PageStream.selection = some stream.selection
  first_iff : ∀ pageSize,
    (contentQuery schema pageSize).selection.descend [stream.name, "edges", "node"] =
        some stream.selection ↔
      ((contentStreams schema).filter fun s => s.name == stream.name).getLast?.map
        PageStream.selection = some stream.selection
  first_of_nodup : ((contentStreams schema).map PageStream.name).Nodup → ∀ pageSize,
    (contentQuery schema pageSize).selection.descend [stream.name, "edges", "node"] =
      some stream.selection
  sent : ∀ (api : Api) (net : Network) (rounds : Nat) (log : ApiLog),
    ((api.tryFetchAll net (rounds + 1) schema log).2.attempts[log.attempts.length]?).map
        Attempt.request =
      some (api.content.requestFor (contentQuery schema api.config.pageSize))

lemma askedAlike {schema : Schema} {stream : PageStream} (h : stream ∈ contentStreams schema)
    (field : String) : AskedAlike schema stream field where
  single := descend_itemDocument field stream.selection
  listed offset pageSize := by
    have hfield : SelectionSet.get? [pageNode stream offset pageSize] stream.name =
        some (pageNode stream offset pageSize) := if_pos rfl
    exact descend_of_get? hfield
  round_iff positions pageSize := by rw [descend_pageDocument]
  first_iff pageSize := by rw [contentQuery, descend_pageDocument, askedUnder?_startStreams]
  first_of_nodup hnames pageSize :=
    descend_of_get? (((ownFields_startStreams_iff _ pageSize).mpr hnames).2 stream h)
  sent := tryFetchAll_first schema

/-- **How far reading everything and reading one item agree**, for every list whose items can be
read one by one.

* One selection belongs to both, and `AskedAlike` says where it is asked for.
* A node that is delivered both ways, as the node of an edge in the replies to a full read and under
  the root field in the reply to the query for an item, means the same to both. -/
theorem readPaths_agree (types : List ContentType) {typename : String} {stream : PageStream}
    (hlist : (typename, stream) ∈ readLists (.ofTypes types)) :
    stream ∈ contentStreams (.ofTypes types) ∧
    ∃ field, Api.itemSelection (.ofTypes types) typename = .ok (field, stream.selection) ∧
      AskedAlike (.ofTypes types) stream field ∧
      ∀ (api : Api) (net : Network) (rounds : Nat) (log log' : ApiLog) (update : Update),
        api.tryFetchAll net rounds (.ofTypes types) log = (.ok (some update), log') →
      ∀ (before after : List Json) (edge node : Json),
        api.deliveredEdges net rounds (.ofTypes types) log = before ++ edge :: after →
        edge.get? "node" = some node →
      ∀ (net₁ : Network) (log₁ : ApiLog) (id : String) (data : Json),
        (api.content.executeDocumentStrict net₁ (Api.itemDocument field stream.selection id) true
          log₁.journal).1 = .ok data →
        data.get? field = some node →
        MeansTheSame node (api.fetchItem net₁ (.ofTypes types) typename id log₁).1 update
          (itemsOfEdges before) (itemsOfEdges after) := by
  obtain ⟨hstream, field, hselection⟩ := itemSelection_of_readLists hlist
  refine ⟨hstream, field, hselection, askedAlike hstream field, ?_⟩
  intro api net rounds log log' update hrun before after edge node hedges hedge net₁ log₁ id data
    hdata hnode
  rw [fetchItem_of_data hselection hdata, tryFetchAll_ok hrun, hedges,
    itemsOfEdges_split before after hedge]
  exact meansTheSame hnode _ _

section Assets

/-- The node of an asset. -/
def assetNode (id : Json) : Json := .object [("id", id), ("__typename", .string "Asset")]

/-- The content side gives one asset. -/
def assetItemNetwork (id : Json) : Network where
  answer _ _ := .replied ⟨200, none,
    (Json.object [("data", .object [("asset", assetNode id)])]).render.toUTF8⟩
  draw _ := 0

lemma assetItem_data (c : Client) (d : Document) {id : Json} (h : id = .string "a" ∨ id = .int 1) :
    (c.executeDocumentStrict (assetItemNetwork id) d true ApiLog.empty.journal).1 =
      .ok (.object [("asset", assetNode id)]) := by
  have hdata : dataOf ((assetItemNetwork id).answer [] (c.requestFor d)) =
      some (.object [("asset", assetNode id)]) := by
    rw [← toOption_answerTo_json, assetItemNetwork, answerTo_rendered]
    rcases h with rfl | rfl <;> decide +kernel
  rw [executeDocumentStrict_of_dataOf ApiLog.empty.journal d true hdata]

lemma deliveredEdges_assets (api : Api) :
    api.deliveredEdges assetNetwork 1 .empty .empty =
      [assetEdge (.string "a"), assetEdge (.int 1), assetEdge (.string "b")] := by
  have hdata : dataOf (assetNetwork.answer [] (api.content.requestFor
      (pageDocument (startStreams (contentStreams .empty)) api.config.pageSize))) =
        some assetPage := dataOf_assetReply
  have hask : asking api.content assetNetwork
      (pageDocument (startStreams (contentStreams .empty)) api.config.pageSize) .empty = _ :=
    executeDocumentStrict_of_dataOf .empty _ true hdata
  have hstart : ((startStreams (contentStreams .empty)).any fun p => p.2.active) = true := rfl
  rw [Api.deliveredEdges, GraphQL.deliveredEdges, if_pos hstart]
  simp only [ApiLog.empty, hask]
  cases takePages assetPage api.config.pageSize (startStreams (contentStreams .empty)) <;> rfl

/-- Without models both ways ask the same of an asset.  Of the assets of a page, one comes of both
ways, and one whose identity is a number of neither. -/
theorem readPaths_agree_assets :
    (∀ pageSize, (contentQuery .empty pageSize).selection.descend ["assets", "edges", "node"] =
      some assetSelection) ∧
    ∃ api update log, Api.of? plainConfig = .ok api ∧
      api.tryFetchAll assetNetwork 1 .empty .empty = (.ok (some update), log) ∧
      MeansTheSame (assetNode (.string "a"))
        (api.fetchItem (assetItemNetwork (.string "a")) .empty assetTypename "a" .empty).1 update
        [] (itemsOfEdges [assetEdge (.int 1), assetEdge (.string "b")]) ∧
      MeansTheSame (assetNode (.int 1))
        (api.fetchItem (assetItemNetwork (.int 1)) .empty assetTypename "1" .empty).1 update
        (itemsOfEdges [assetEdge (.string "a")]) (itemsOfEdges [assetEdge (.string "b")]) := by
  obtain ⟨api, hapi⟩ : ∃ api, Api.of? plainConfig = .ok api := ⟨_, rfl⟩
  obtain ⟨j, found, hcontent, -⟩ := contentRun_assets api
  have hrun : api.tryFetchAll assetNetwork 1 .empty .empty =
      (.ok (some (updateOfNodes (found.map PagedItem.node))),
        { ApiLog.empty with journal := j }) := by
    rw [tryFetchAll_eq]
    simp only [ApiLog.empty, hcontent]
    rfl
  have hlist : (assetTypename, assetStream) ∈ readLists (.ofTypes []) := List.mem_cons_self
  obtain ⟨-, field, hselection, halike, hagree⟩ := readPaths_agree [] hlist
  obtain ⟨rfl, -⟩ : "asset" = field ∧ assetSelection = assetStream.selection := by
    have hasset : Api.itemSelection (.ofTypes []) assetTypename = .ok ("asset", assetSelection) :=
      rfl
    exact Prod.mk.inj (Except.ok.inj (hasset.symm.trans hselection))
  have hedges := deliveredEdges_assets api
  refine ⟨halike.first_of_nodup (List.nodup_singleton _), api, _, _, hapi, hrun, ?_, ?_⟩
  · exact hagree api _ 1 _ _ _ hrun [] _ _ _ hedges rfl _ _ "a" _
      (assetItem_data api.content _ (.inl rfl)) rfl
  · exact hagree api _ 1 _ _ _ hrun [_] _ _ _ hedges rfl _ _ "1" _
      (assetItem_data api.content _ (.inr rfl)) rfl

end Assets

section Twins

/-- A model of documents with a title. -/
def postModel : ManagedType := ⟨"Post", "Posts", false, [.simple "title" false "STRING"]⟩

/-- A model of documents with a summary, whose plural name differs in its first letter only. -/
def entryModel : ManagedType := ⟨"Entry", "posts", false, [.simple "summary" false "STRING"]⟩

/-- The schema with both. -/
def twinSchema : Schema := .ofContentModel ⟨[postModel, entryModel], []⟩

/-- The title is asked of a post that is read by itself, the summary of a post that is read with
everything else: the list of posts has the name of the list of entries, which comes after it. -/
theorem readPaths_agree_twins :
    twinSchema.model? "Post" = some (postModel.toType .model) ∧
      (modelStream twinSchema (postModel.toType .model)).name = "posts" ∧
    ∃ single combined, Api.itemSelection twinSchema "Post" = .ok ("post", single) ∧
      (contentQuery twinSchema 100).selection.descend ["posts", "edges", "node"] = some combined ∧
      "title" ∈ SelectionSet.keys single ∧ "title" ∉ SelectionSet.keys combined ∧
      combined ≠ single := by
  have hmodels : twinSchema.models = [postModel.toType .model, entryModel.toType .model] := by
    decide +kernel
  have hpost : twinSchema.model? "Post" = some (postModel.toType .model) := by
    decide +kernel
  have htitle : "title" ∈ SelectionSet.keys (rootSelection twinSchema "Post") := by
    decide +kernel
  have hsummary : "title" ∉ SelectionSet.keys (rootSelection twinSchema "Entry") := by
    decide +kernel
  refine ⟨hpost, by decide +kernel, rootSelection twinSchema "Post",
    rootSelection twinSchema "Entry", ?_, ?_, htitle, hsummary,
    fun hsame => hsummary (hsame ▸ htitle)⟩
  · rw [Api.itemSelection, if_neg (by decide), hpost]
    rfl
  · rw [contentQuery, descend_pageDocument, askedUnder?_startStreams, contentStreams, hmodels]
    rfl

end Twins

end ContentSync
