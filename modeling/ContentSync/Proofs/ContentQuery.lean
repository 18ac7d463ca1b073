import ContentSync.Proofs.FullSync
import ContentSync.Proofs.SelectionBuilding
import ContentSync.Schema.ContentModel

/-!
# Whether every model has its own list

A full read asks for the documents of every model and for the assets in one query, in which a list
is known by the plural name of its model with a small first letter.  A schema keeps the names of its
types apart, but not their plural names, so two lists may have the same name.  Then the field of the
later one stands in the place of the earlier one, and the page that comes back for it is read for
both.

* `SelectionSet.length_ofList_iff` — nodes are kept beside each other just when their keys differ.
* `askedUnder?` — the list whose field stands under a name in the query of a round, for names that
  may clash.
* `OwnFields` — every model and the assets have a field of their own.
* `tryFetchAll_ownFields_iff` — the first query of a full read.
-/

namespace ContentSync.GraphQL

open Http (Attempt Network Outcome)

/-! ## Nodes with the same key -/

namespace SelectionSet

/-- **Nodes are kept beside each other** just when their keys differ. -/
theorem length_ofList_iff (nodes : List Selection) :
    (ofList nodes).length = nodes.length ↔ (keys nodes).Nodup := by
  have hlength (s : SelectionSet) : s.length = (keys s).length := (List.length_map _).symm
  rw [hlength, hlength nodes, keys_ofList, length_eraseDups_iff]

end SelectionSet

/-! ## The query of a round -/

/-- **The list that a round asks for under a name**: the last one of that name that goes on. -/
def askedUnder? (positions : List (PageStream × Cursor)) (name : String) : Option PageStream :=
  (positions.filter fun p => p.2.active && p.1.name == name).getLast?.map Prod.fst

/-- **Of several lists with the same name the last one has the field.** -/
theorem get?_round (positions : List (PageStream × Cursor)) (pageSize : Nat) (name : String) :
    SelectionSet.get? (pageDocument positions pageSize).selection name =
      (positions.filter fun p => p.2.active && p.1.name == name).getLast?.map
        fun p => pageNode p.1 p.2.offset pageSize := by
  have hfields : ∀ n ∈ (positions.filter fun p => p.2.active).map fun p =>
      pageNode p.1 p.2.offset pageSize, n.isGroup → name ≠ groupKey := by
    intro n hn hgroup
    obtain ⟨p, -, rfl⟩ := List.mem_map.mp hn
    cases hgroup
  have hnodes : (pageDocument positions pageSize).selection =
      SelectionSet.ofList ((positions.filter fun p => p.2.active).map fun p =>
        pageNode p.1 p.2.offset pageSize) := rfl
  rw [hnodes, SelectionSet.get?_ofList _ hfields, List.filter_map, List.getLast?_map,
    List.filter_filter]
  refine congrArg (fun keep => ((positions.filter keep).getLast?).map _) (funext fun p => ?_)
  exact Bool.and_comm _ _

/-- At the beginning all lists go on. -/
lemma askedUnder?_startStreams (streams : List PageStream) (name : String) :
    askedUnder? (startStreams streams) name =
      (streams.filter fun s => s.name == name).getLast? := by
  rw [askedUnder?, startStreams, List.filter_map, List.getLast?_map, Option.map_map]
  exact Option.map_id'

/-! ## The first query of any lists -/

section First

variable {streams : List PageStream} {pageSize : Nat}

lemma selection_startStreams (streams : List PageStream) (pageSize : Nat) :
    (pageDocument (startStreams streams) pageSize).selection =
      SelectionSet.ofList (streams.map fun s => pageNode s 0 pageSize) := by
  have hall : ((startStreams streams).filter fun p => p.2.active) = startStreams streams := by
    refine List.filter_eq_self.mpr fun p hp => ?_
    obtain ⟨s, -, rfl⟩ := List.mem_map.mp hp
    rfl
  have hnodes : ((startStreams streams).map fun p => pageNode p.1 p.2.offset pageSize) =
      streams.map fun s => pageNode s 0 pageSize := by
    rw [startStreams, List.map_map]
    rfl
  rw [← hnodes]
  exact congrArg (fun positions : List (PageStream × Cursor) => SelectionSet.ofList
    (positions.map fun p => pageNode p.1 p.2.offset pageSize)) hall

lemma keys_pageNodes (streams : List PageStream) (pageSize : Nat) :
    SelectionSet.keys (streams.map fun s => pageNode s 0 pageSize) =
      streams.map PageStream.name := by
  rw [SelectionSet.keys, List.map_map]
  rfl

/-- Every list has its own field just when their names differ; with a clash there are fewer fields
than lists. -/
theorem ownFields_startStreams_iff (streams : List PageStream) (pageSize : Nat) :
    ((pageDocument (startStreams streams) pageSize).selection.length = streams.length ∧
      ∀ s ∈ streams, SelectionSet.get? (pageDocument (startStreams streams) pageSize).selection
        s.name = some (pageNode s 0 pageSize)) ↔ (streams.map PageStream.name).Nodup := by
  have hlength := SelectionSet.length_ofList_iff (streams.map fun s => pageNode s 0 pageSize)
  rw [List.length_map, keys_pageNodes, ← selection_startStreams] at hlength
  refine ⟨fun h => hlength.mp h.1, fun hnames => ⟨hlength.mpr hnames, fun s hs => ?_⟩⟩
  have hstart := nodup_startStreams hnames
  have hmem : (s, Cursor.start) ∈ startStreams streams := List.mem_map.mpr ⟨s, hs, rfl⟩
  exact get?_pageDocument hstart hmem rfl

end First

/-! ## The first query that is sent -/

section Sent

lemma extends_asking (c : Client) (net : Network) (d : Document) :
    Extends Journal.attempts (asking c net d) := by
  intro j
  obtain ⟨f, j', hasked⟩ := exists_asked c net d j
  rw [hasked.result, hasked.attempts]
  exact List.prefix_append _ _

/-- Reading a reply sends nothing. -/
lemma extends_taken (data : Json) (pageSize : Nat) (positions : List (PageStream × Cursor)) :
    Extends Journal.attempts (liftM (takePages data pageSize positions) : Exchange _) := by
  refine extends_of_eq fun j => ?_
  cases takePages data pageSize positions <;> rfl

lemma extends_pageRounds (c : Client) (net : Network) (pageSize rounds : Nat)
    (positions : List (PageStream × Cursor)) (items : List PagedItem) :
    Extends Journal.attempts (pageRounds (asking c net) pageSize rounds positions items) :=
  pageRounds_related (R := fun j j' : Journal => j.attempts <+: j'.attempts)
    (fun _ => List.prefix_rfl) (fun _ _ _ => .trans) (extends_asking c net) pageSize rounds
    positions items

/-- The first attempt of a round carries its query. -/
lemma Asked.request_of {c : Client} {net : Network} {d : Document} {j j' : Journal} {f : Fetch}
    (h : Asked c net d j f j') :
    ∃ a rest, f.attempts c = a :: rest ∧ a.request = c.requestFor d := by
  have hdocument := h.document
  have htransient := h.requested.transient
  rw [Fetch.attempts]
  cases hfailed : f.failed with
  | nil => exact ⟨_, [], rfl, congrArg c.requestFor hdocument⟩
  | cons a rest =>
      rw [hfailed, hdocument] at htransient
      exact ⟨a, _, rfl, (htransient a List.mem_cons_self).1⟩

/-- **The first attempt of a run** carries the query for the beginnings of all lists. -/
theorem pageRounds_first (c : Client) (net : Network) (pageSize : Nat)
    {positions : List (PageStream × Cursor)} (hgoes : ∃ p ∈ positions, p.2.active = true)
    (rounds : Nat) (items : List PagedItem) (j : Journal) :
    ((pageRounds (asking c net) pageSize (rounds + 1) positions items j).2.attempts[
      j.attempts.length]?).map Attempt.request =
        some (c.requestFor (pageDocument positions pageSize)) := by
  obtain ⟨f, j', hasked⟩ := exists_asked c net (pageDocument positions pageSize) j
  obtain ⟨a, rest, hattempts, hrequest⟩ := hasked.request_of
  have hextends : j'.attempts <+:
      (pageRounds (asking c net) pageSize (rounds + 1) positions items j).2.attempts := by
    rw [pageRounds, if_pos (by simpa using hgoes)]
    have hnext := prefix_bind (asking c net (pageDocument positions pageSize))
      (fun data => extends_bind (extends_taken data pageSize positions) fun found =>
        extends_pageRounds c net pageSize rounds found.2 (items ++ found.1)) j
    rw [hasked.result] at hnext
    exact hnext
  obtain ⟨later, hlater⟩ := hextends
  rw [← hlater, hasked.attempts, hattempts]
  simp [hrequest]

end Sent

end ContentSync.GraphQL

namespace ContentSync

open GraphQL
open Http (Attempt Network Outcome)

/-! ## Everything -/

/-- The first query of a full read. -/
def contentQuery (schema : Schema) (pageSize : Nat) : Document :=
  pageDocument (startStreams (contentStreams schema)) pageSize

/-- **Every model has a field of its own** in a query, and the assets have one: there is no other
field, and the one under the name of a list asks for the first page of that list. -/
structure OwnFields (schema : Schema) (pageSize : Nat) (d : Document) : Prop where
  count : d.selection.length = schema.models.length + 1
  field_of : ∀ t ∈ schema.models, SelectionSet.get? d.selection (Text.lowerFirst t.plural) =
    some (pageNode (modelStream schema t) 0 pageSize)
  assets : SelectionSet.get? d.selection "assets" = some (pageNode assetStream 0 pageSize)

section Streams

variable (schema : Schema) (pageSize : Nat)

lemma names_contentStreams : (contentStreams schema).map PageStream.name =
    (schema.models.map fun t => Text.lowerFirst t.plural) ++ ["assets"] := by
  rw [contentStreams, List.map_append, List.map_map]
  rfl

/-- The names of the lists differ just when the plural names do, whatever their first letter, and
none of them is the name of the assets. -/
lemma nodup_names_contentStreams_iff : ((contentStreams schema).map PageStream.name).Nodup ↔
    (schema.models.map fun t => Text.lowerFirst t.plural).Nodup ∧
      ∀ t ∈ schema.models, Text.lowerFirst t.plural ≠ "assets" := by
  rw [names_contentStreams, List.nodup_append_comm, List.singleton_append, List.nodup_cons,
    and_comm, List.mem_map]
  simp only [not_exists, not_and, ne_eq]

lemma ownFields_contentQuery_iff :
    OwnFields schema pageSize (contentQuery schema pageSize) ↔
      ((contentStreams schema).map PageStream.name).Nodup := by
  rw [← ownFields_startStreams_iff (contentStreams schema) pageSize, contentQuery]
  have hlength : (contentStreams schema).length = schema.models.length + 1 := by
    rw [contentStreams, List.length_append, List.length_map, List.length_singleton]
  rw [hlength]
  constructor
  · rintro ⟨hcount, hmodels, hassets⟩
    refine ⟨hcount, fun s hs => ?_⟩
    rcases List.mem_append.mp hs with hmodel | hasset
    · obtain ⟨t, ht, rfl⟩ := List.mem_map.mp hmodel
      exact hmodels t ht
    · obtain rfl := List.mem_singleton.mp hasset
      exact hassets
  · rintro ⟨hcount, hfields⟩
    exact ⟨hcount, fun t ht => hfields _ (List.mem_append_left _ (List.mem_map_of_mem ht)),
      hfields _ (List.mem_append_right _ (List.mem_singleton.mpr rfl))⟩

/-- The first attempt of a full read carries its first query. -/
lemma tryFetchAll_first (api : Api) (net : Network) (rounds : Nat) (log : ApiLog) :
    ((api.tryFetchAll net (rounds + 1) schema log).2.attempts[log.attempts.length]?).map
        Attempt.request =
      some (api.content.requestFor (contentQuery schema api.config.pageSize)) := by
  have hgoes : ∃ p ∈ startStreams (contentStreams schema), p.2.active = true :=
    ⟨(assetStream, Cursor.start), List.mem_map.mpr ⟨assetStream,
      List.mem_append_right _ (List.mem_singleton.mpr rfl), rfl⟩, rfl⟩
  have hlog : (api.tryFetchAll net (rounds + 1) schema log).2.attempts =
      (contentRun api net (rounds + 1) schema log.journal).2.attempts := by
    rw [tryFetchAll_eq]
    rcases contentRun api net (rounds + 1) schema log.journal with ⟨_ | items, j⟩ <;> rfl
  rw [hlog]
  exact pageRounds_first api.content net api.config.pageSize hgoes rounds [] log.journal

end Streams

/-- **Whether every model has its own list.**  The first query of a full read has a field of its own
for every model and one for the assets just when the names of the lists differ, which are the plural
names of the models with a small first letter, and the name of the assets.  Else there are fewer
fields than lists. -/
theorem tryFetchAll_ownFields_iff (api : Api) (net : Network) (rounds : Nat) (log : ApiLog)
    (m : ContentModel) :
    let schema := Schema.ofContentModel m
    let query := contentQuery schema api.config.pageSize
    ((api.tryFetchAll net (rounds + 1) schema log).2.attempts[log.attempts.length]?).map
        Attempt.request = some (api.content.requestFor query) ∧
      (OwnFields schema api.config.pageSize query ↔
        ((contentStreams schema).map PageStream.name).Nodup) ∧
      (((contentStreams schema).map PageStream.name).Nodup ↔
        (schema.models.map fun t => Text.lowerFirst t.plural).Nodup ∧
          ∀ t ∈ schema.models, Text.lowerFirst t.plural ≠ "assets") :=
  ⟨tryFetchAll_first _ api net rounds log, ownFields_contentQuery_iff _ _,
    nodup_names_contentStreams_iff _⟩

/-! ### Two models with one name for many -/

section Twins

/-- Two models whose plural names differ in their first letter only. -/
def twinModels : ContentModel :=
  ⟨[⟨"Post", "Posts", false, []⟩, ⟨"Entry", "posts", false, []⟩], []⟩

/-- Three lists and two fields: the lists of both models go by the name `posts`. -/
theorem tryFetchAll_ownFields_twins :
    let schema := Schema.ofContentModel twinModels
    schema.models.map ContentType.name = ["Post", "Entry"] ∧
    SelectionSet.keys (contentQuery schema 100).selection = ["posts", "assets"] ∧
    ¬ OwnFields schema 100 (contentQuery schema 100) := by
  have hnames : ¬ ((contentStreams (.ofContentModel twinModels)).map PageStream.name).Nodup := by
    rw [names_contentStreams]
    decide +kernel
  refine ⟨by decide +kernel, ?_, fun h => hnames ((ownFields_contentQuery_iff _ _).mp h)⟩
  decide +kernel

end Twins

end ContentSync
