import ContentSync.Proofs.Pagination
import ContentSync.Proofs.Requests

/-!
# Rounds of pages

A list is read page by page in rounds, each of which asks for the lists that go on after the one
before.  Nothing is assumed of the server here: what a round gives, and where it leaves the lists,
is read off its reply whatever that is.

* `Fetch` — a round with its attempts; `Fetch.failure`, `Fetch.items`, `Fetch.moves` say what comes
  of it.
* `takePages_eq`, `Asked.round` — one round.
* `pageRounds_related` — what every query keeps, a run keeps.
* `PageRun`, `runResult` — rounds from given positions on, and what they give.
* `RanAs` — the rounds of a run; `exists_ranAs` finds them, by induction on the rounds that it may
  take.
* `FetchRun` — the rounds of a run that comes to its end, seen from outside.
-/

namespace ContentSync.GraphQL

open Http (Attempt Network Outcome)

/-! ## Replies from outside -/

/-- The edges of the list under a key, if the reply has them. -/
def edgesUnder? (data : Json) (key : String) : Option (List Json) :=
  ((data.get? key).bind fun connection => connection.get? "edges").bind Json.array?

/-- The nodes of the list under a key.  Null is none. -/
def nodesUnder (data : Json) (key : String) : List Json :=
  (itemsUnder data key).filter fun node => !node.isNull

/-- Whether the list under a key goes on: the page says so, and it has a node. -/
def goesOn (data : Json) (key : String) : Bool :=
  (((data.get? key).bind fun connection => pageInfo? connection "hasNextPage").bind
    Json.bool?).getD false && !(nodesUnder data key).isEmpty

/-- What is wrong with the list under a key, if the reply has no page of it. -/
def failureUnder? (data : Json) (key : String) : Option ClientError :=
  match data.get? key with
  | none => some (.protocol ("missing connection '" ++ key ++ "'"))
  | some connection =>
      match (connection.get? "edges").bind Json.array? with
      | none => some (.protocol ("stream '" ++ key ++ "' has no edges"))
      | some _ => none

/-- The number of items that the page under a key says it has, if that is positive. -/
def sizeUnder? (data : Json) (key : String) : Option Nat :=
  (((data.get? key).bind fun connection => pageInfo? connection "pageSize").bind
    Json.nat?).filter (0 < ·)

/-- Where the list under a key goes on after a reply. -/
def Cursor.next (c : Cursor) (data : Json) (key : String) (pageSize : Nat) : Cursor :=
  if c.active && goesOn data key then
    { c with offset := offsetPast c.offset ((sizeUnder? data key).getD pageSize) }
  else { c with active := false }

/-- **A round**: its query, the attempts that failed, and the outcome of the last one. -/
structure Fetch where
  document : Document
  failed : List Attempt
  outcome : Outcome

namespace Fetch

/-- All attempts of a round. -/
def attempts (c : Client) (f : Fetch) : List Attempt :=
  f.failed ++ [⟨c.requestFor f.document, f.outcome⟩]

/-- The lists that a round asks for. -/
def keys (f : Fetch) : List String := SelectionSet.keys f.document.selection

/-- **Whether a round fails**: its last reply has no data, or no edges of a list that was asked
for. -/
def fails (f : Fetch) : Bool :=
  match dataOf f.outcome with
  | none => true
  | some data => f.keys.any fun key => (edgesUnder? data key).isNone

/-- What a round fails with: what is wrong with its last reply, or with the first list that was
asked for and has no page. -/
def failure (f : Fetch) : Option ClientError :=
  match answerTo .json f.outcome with
  | .error e => some e
  | .ok data => f.keys.findSome? (failureUnder? data)

/-- The nodes that a round received, list by list. -/
def nodes (f : Fetch) : List Json :=
  match dataOf f.outcome with
  | none => []
  | some data => f.keys.flatMap (nodesUnder data)

/-- The items that a round received, list by list. -/
def items (f : Fetch) : List PagedItem :=
  match dataOf f.outcome with
  | none => []
  | some data => f.keys.flatMap fun key => (nodesUnder data key).map (PagedItem.mk key)

/-- Where a round leaves the lists.  Without data none goes on. -/
def moves (f : Fetch) (pageSize : Nat) (positions : List (PageStream × Cursor)) :
    List (PageStream × Cursor) :=
  positions.map fun p => (p.1,
    match dataOf f.outcome with
    | none => { p.2 with active := false }
    | some data => p.2.next data p.1.name pageSize)

/-- The lists that go on after a round. -/
def more (f : Fetch) : List String :=
  match dataOf f.outcome with
  | none => []
  | some data => f.keys.filter (goesOn data)

end Fetch

/-! ## One round -/

/-- The names of the lists that go on. -/
def activeNames (positions : List (PageStream × Cursor)) : List String :=
  (positions.filter fun p => p.2.active).map fun p => p.1.name

section Round

variable {data connection : Json}

lemma nodesUnder_eq (data : Json) (key : String) :
    nodesUnder data key = ((edgesUnder? data key).getD []).filterMap edgeNode? := by
  rw [nodesUnder, itemsUnder, ← List.filterMap_eq_filter, List.filterMap_filterMap]
  refine congrArg (fun f => List.filterMap f _) (funext fun edge => ?_)
  rw [edgeNode?_eq]
  cases edge.get? "node" with
  | none => rfl
  | some node => cases h : node.isNull <;> simp [Option.filter, Option.guard, h]

/-- **What a page means** for a list that goes on: a failure just without edges, else its nodes and
where the list goes on. -/
lemma readPage_cases (pageSize : Nat) {key : String} (hget : data.get? key = some connection) :
    match failureUnder? data key with
    | some e => readPage connection key = .error e
    | none => ∃ page, readPage connection key = .ok page ∧ page.nodes = nodesUnder data key ∧
        ∀ c : Cursor, c.active = true → c.after page pageSize = c.next data key pageSize := by
  have hnodes := nodesUnder_eq data key
  rw [edgesUnder?, hget, Option.bind_some] at hnodes
  rw [failureUnder?, hget, readPage]
  dsimp only
  cases hedges : (connection.get? "edges").bind Json.array? with
  | none => rfl
  | some edges =>
      rw [hedges, Option.getD_some] at hnodes
      refine ⟨_, rfl, hnodes.symm, fun c hactive => ?_⟩
      rw [Cursor.after, Cursor.next, goesOn, sizeUnder?, hget, hactive, hnodes]
      rfl

lemma activeNames_cons (p : PageStream × Cursor) (rest : List (PageStream × Cursor)) :
    activeNames (p :: rest) =
      if p.2.active then p.1.name :: activeNames rest else activeNames rest := by
  rw [activeNames, List.filter_cons]
  split <;> rfl

lemma activeNames_ne_nil {positions : List (PageStream × Cursor)}
    (h : ∃ p ∈ positions, p.2.active = true) : activeNames positions ≠ [] := by
  obtain ⟨p, hp, hactive⟩ := h
  exact List.ne_nil_of_mem (List.mem_map.mpr ⟨p, List.mem_filter.mpr ⟨hp, hactive⟩, rfl⟩)

lemma failureUnder?_eq_none_iff {key : String} :
    failureUnder? data key = none ↔ edgesUnder? data key ≠ none := by
  rw [failureUnder?, edgesUnder?]
  cases data.get? key with
  | none => simp
  | some connection =>
      rw [Option.bind_some]
      dsimp only
      cases (connection.get? "edges").bind Json.array? <;> simp

lemma Cursor.next_of_not_active {c : Cursor} (h : c.active = false) (data : Json) (key : String)
    (pageSize : Nat) : c.next data key pageSize = c := by
  rw [Cursor.next, h, Bool.false_and, if_neg Bool.false_ne_true]
  cases c
  simp_all

/-- **What a reply means**: the first failure under a list that goes on, or else the nodes of all
these lists, and where all lists go on. -/
theorem takePages_eq (data : Json) (pageSize : Nat) (positions : List (PageStream × Cursor)) :
    takePages data pageSize positions =
      match (activeNames positions).findSome? (failureUnder? data) with
      | some e => .error e
      | none => .ok ((activeNames positions).flatMap fun key =>
            (nodesUnder data key).map (PagedItem.mk key),
          positions.map fun p => (p.1, p.2.next data p.1.name pageSize)) := by
  induction positions with
  | nil => rfl
  | cons p rest ih =>
      obtain ⟨s, c⟩ := p
      rw [takePages, activeNames_cons, List.map_cons]
      cases hactive : c.active with
      | false =>
          rw [if_neg Bool.false_ne_true, if_neg Bool.false_ne_true, ih,
            Cursor.next_of_not_active hactive]
          cases (activeNames rest).findSome? (failureUnder? data) <;> rfl
      | true =>
          rw [if_pos rfl, if_pos rfl, List.findSome?_cons, List.flatMap_cons, ih]
          cases hget : data.get? s.name with
          | none => rw [failureUnder?, hget]
          | some connection =>
              have hread := readPage_cases pageSize hget
              cases hfailure : failureUnder? data s.name with
              | some e =>
                  rw [hfailure] at hread
                  dsimp only at hread ⊢
                  rw [hread]
              | none =>
                  rw [hfailure] at hread
                  obtain ⟨page, hpage, hnodes, hafter⟩ := hread
                  dsimp only
                  rw [hpage, ← hnodes, ← hafter c hactive]
                  cases (activeNames rest).findSome? (failureUnder? data) <;> rfl

lemma activeNames_of_done {positions : List (PageStream × Cursor)}
    (h : ∀ p ∈ positions, p.2.active = false) : activeNames positions = [] := by
  rw [activeNames, List.filter_eq_nil_iff.mpr (by simpa using h)]
  rfl

lemma map_name_startStreams (streams : List PageStream) :
    (startStreams streams).map (fun p => p.1.name) = streams.map PageStream.name := by
  rw [startStreams, List.map_map]
  rfl

lemma nodup_startStreams {streams : List PageStream} (h : (streams.map PageStream.name).Nodup) :
    ((startStreams streams).map fun p => p.1.name).Nodup := by
  rwa [map_name_startStreams]

lemma activeNames_startStreams (streams : List PageStream) :
    activeNames (startStreams streams) = streams.map PageStream.name := by
  rw [← map_name_startStreams, activeNames, List.filter_eq_self.mpr]
  intro p hp
  obtain ⟨s, -, rfl⟩ := List.mem_map.mp hp
  rfl

/-- A reply without the edges of a list that goes on fails. -/
lemma takePages_of_missing (pageSize : Nat) {positions : List (PageStream × Cursor)}
    (h : ∃ key ∈ activeNames positions, edgesUnder? data key = none) :
    ∃ e, takePages data pageSize positions = .error e := by
  obtain ⟨key, hkey, hmissing⟩ := h
  have hsome : (activeNames positions).findSome? (failureUnder? data) ≠ none := fun hnone =>
    failureUnder?_eq_none_iff.mp (List.findSome?_eq_none_iff.mp hnone key hkey) hmissing
  obtain ⟨e, he⟩ := Option.ne_none_iff_exists'.mp hsome
  exact ⟨e, by rw [takePages_eq, he]⟩

lemma activeNames_next (data : Json) (pageSize : Nat) (positions : List (PageStream × Cursor)) :
    activeNames (positions.map fun p => (p.1, p.2.next data p.1.name pageSize)) =
      (activeNames positions).filter (goesOn data) := by
  induction positions with
  | nil => rfl
  | cons p rest ih =>
      rw [List.map_cons, activeNames_cons, ih, activeNames_cons, Cursor.next]
      cases p.2.active <;> cases hmore : goesOn data p.1.name <;> simp [hmore]

/-- **A reply with the edges of every list that goes on** brings the nodes of all these lists, and
the lists that it says so of go on. -/
lemma takePages_of_edges (pageSize : Nat) {positions : List (PageStream × Cursor)}
    (h : ∀ key ∈ activeNames positions, edgesUnder? data key ≠ none) :
    ∃ found next, takePages data pageSize positions = .ok (found, next) ∧
      found.map PagedItem.node = (activeNames positions).flatMap (nodesUnder data) ∧
      activeNames next = (activeNames positions).filter (goesOn data) ∧
      next.map (fun p => p.1.name) = positions.map fun p => p.1.name := by
  have hnone : (activeNames positions).findSome? (failureUnder? data) = none :=
    List.findSome?_eq_none_iff.mpr fun key hkey => failureUnder?_eq_none_iff.mpr (h key hkey)
  refine ⟨_, _, by rw [takePages_eq, hnone], ?_, activeNames_next data pageSize positions, ?_⟩
  · have hnode (key : String) : PagedItem.node ∘ PagedItem.mk key = id := rfl
    simp only [List.map_flatMap, List.map_map, hnode, List.map_id]
  · rw [List.map_map]
    rfl

end Round

/-! ## What every query keeps -/

/-- **What relates the states before and after every query** relates those before and after a run.
The induction is on the rounds; reading a reply leaves the state as it is. -/
lemma pageRounds_related {σ : Type} {ask : Document → ExceptT ClientError (StateM σ) Json}
    {R : σ → σ → Prop} (hrefl : ∀ s, R s s) (htrans : ∀ s t u, R s t → R t u → R s u)
    (hask : ∀ d s, R s (ask d s).2) (pageSize rounds : Nat) :
    ∀ (positions : List (PageStream × Cursor)) (items : List PagedItem) (s : σ),
      R s (pageRounds ask pageSize rounds positions items s).2 := by
  induction rounds with
  | zero =>
      intro positions items s
      rw [pageRounds]
      split <;> exact hrefl s
  | succ rounds ih =>
      intro positions items s
      rw [pageRounds]
      split
      · have hfirst := hask (pageDocument positions pageSize) s
        rcases hrun : ask (pageDocument positions pageSize) s with ⟨_ | data, t⟩
        · rw [hrun] at hfirst
          rw [bind_of_error hrun]
          exact hfirst
        · rw [hrun] at hfirst
          rw [bind_of_ok hrun]
          dsimp only
          cases takePages data pageSize positions with
          | error e => exact hfirst
          | ok taken => exact htrans s t _ hfirst (ih taken.2 (items ++ taken.1) t)
      · exact hrefl s

/-! ## The run of rounds -/

/-- **A run of rounds from given positions on**, cut after any of them.  A round asks for the pages
at the positions where the round before it left the lists, and nothing follows a round that
fails. -/
def PageRun (c : Client) (net : Network) (pageSize : Nat) :
    List (PageStream × Cursor) → List Attempt → List Fetch → List Attempt → Prop
  | _, before, [], after => after = before
  | positions, before, f :: rest, after =>
      (∃ p ∈ positions, p.2.active = true) ∧ f.document = pageDocument positions pageSize ∧
      Requested c net (Envelope.ofDocument f.document).render true before f.failed f.outcome ∧
      (f.fails = true → rest = []) ∧
      PageRun c net pageSize (f.moves pageSize positions) (before ++ f.attempts c) rest after

/-- The lists that are to be asked for after these rounds, when `keys` are asked for first. -/
def pending : List String → List Fetch → List String
  | keys, [] => keys
  | _, f :: rest => pending f.more rest

/-- **What rounds give**: the first failure and no items, nothing while there are lists to be asked
for, and else the items of all replies, after those that were there before. -/
def runResult (keys : List String) (items : List PagedItem) (fetches : List Fetch) :
    Except ClientError (Option (List PagedItem)) :=
  match fetches.findSome? Fetch.failure with
  | some e => .error e
  | none =>
      .ok (if pending keys fetches = [] then some (items ++ fetches.flatMap Fetch.items) else none)

/-- **A run of rounds** that asks for these lists first.  A round asks for the lists that go on
after the one before; the run ends with a round that fails, or when no list goes on. -/
def FetchRun (c : Client) (net : Network) :
    List String → List Attempt → List Fetch → List Attempt → Prop
  | keys, before, [], after => keys = [] ∧ after = before
  | keys, before, f :: rest, after =>
      keys ≠ [] ∧ f.keys = keys ∧
      Requested c net (Envelope.ofDocument f.document).render true before f.failed f.outcome ∧
      if f.fails then rest = [] ∧ after = before ++ f.attempts c
      else FetchRun c net f.more (before ++ f.attempts c) rest after

section Run

variable {c : Client} {net : Network} {pageSize : Nat} {positions : List (PageStream × Cursor)}
  {f : Fetch}

lemma Fetch.isSome_failure (f : Fetch) : f.failure.isSome = f.fails := by
  have hdata := toOption_answerTo_json f.outcome
  rw [Fetch.failure, Fetch.fails, ← hdata]
  cases answerTo .json f.outcome with
  | error e => rfl
  | ok data =>
      dsimp only [Except.toOption]
      rw [List.isSome_findSome?]
      refine congrArg (List.any f.keys) (funext fun key => ?_)
      rw [Bool.eq_iff_iff, Option.isSome_iff_ne_none, Ne, failureUnder?_eq_none_iff]
      simp

lemma Fetch.map_node_items (f : Fetch) : f.items.map PagedItem.node = f.nodes := by
  rw [Fetch.items, Fetch.nodes]
  have hnode (key : String) : PagedItem.node ∘ PagedItem.mk key = id := rfl
  cases dataOf f.outcome with
  | none => rfl
  | some data => simp only [List.map_flatMap, List.map_map, hnode, List.map_id]

lemma Fetch.map_name_moves (f : Fetch) (pageSize : Nat) (positions : List (PageStream × Cursor)) :
    (f.moves pageSize positions).map (fun p => p.1.name) = positions.map fun p => p.1.name := by
  rw [Fetch.moves, List.map_map]
  rfl

lemma Fetch.nodup_moves (f : Fetch) (pageSize : Nat) {positions : List (PageStream × Cursor)}
    (h : (positions.map fun p => p.1.name).Nodup) :
    ((f.moves pageSize positions).map fun p => p.1.name).Nodup := by
  rwa [f.map_name_moves]

lemma activeNames_moves (pageSize : Nat) (hkeys : f.keys = activeNames positions) :
    activeNames (f.moves pageSize positions) = f.more := by
  rw [Fetch.moves, Fetch.more, hkeys]
  cases dataOf f.outcome with
  | none =>
      refine activeNames_of_done fun p hp => ?_
      obtain ⟨q, -, rfl⟩ := List.mem_map.mp hp
      rfl
  | some data => exact activeNames_next data pageSize positions

lemma Fetch.keys_of_document (hnames : (positions.map fun p => p.1.name).Nodup)
    (hdocument : f.document = pageDocument positions pageSize) :
    f.keys = activeNames positions := by
  rw [Fetch.keys, hdocument]
  exact keys_pageDocument hnames pageSize

/-- **A round that was asked for**: its attempts are those of one request, and its reply is the
result of the query. -/
structure Asked (c : Client) (net : Network) (d : Document) (j : Journal) (f : Fetch)
    (j' : Journal) : Prop where
  document : f.document = d
  requested : Requested c net (Envelope.ofDocument f.document).render true j.attempts f.failed
    f.outcome
  attempts : j'.attempts = j.attempts ++ f.attempts c
  result : asking c net d j = (answerTo .json f.outcome, j')

lemma exists_asked (c : Client) (net : Network) (d : Document) (j : Journal) :
    ∃ f j', Asked c net d j f j' := by
  obtain ⟨failed, outcome, hrequested, hresult, hattempts⟩ :=
    ask_requested c net (Envelope.ofDocument d) .json true j
  exact ⟨⟨d, failed, outcome⟩, _, rfl, hrequested, hattempts, Prod.ext hresult rfl⟩

/-- **One round**: it ends the run with what it fails with, or the run goes on where it leaves the
lists, with its items. -/
theorem Asked.round {j j' : Journal} (h : Asked c net (pageDocument positions pageSize) j f j')
    (hnames : (positions.map fun p => p.1.name).Nodup)
    (hgoes : ∃ p ∈ positions, p.2.active = true) (rounds : Nat) (items : List PagedItem) :
    pageRounds (asking c net) pageSize (rounds + 1) positions items j =
      match f.failure with
      | some e => (.error e, j')
      | none => pageRounds (asking c net) pageSize rounds (f.moves pageSize positions)
          (items ++ f.items) j' := by
  have hask := h.result
  rw [Fetch.failure, Fetch.items, Fetch.moves, f.keys_of_document hnames h.document,
    ← toOption_answerTo_json f.outcome]
  cases hanswer : answerTo .json f.outcome with
  | error e =>
      rw [hanswer] at hask
      rw [pageRounds, if_pos (by simpa using hgoes), bind_of_error hask]
  | ok data =>
      rw [hanswer] at hask
      have htake := takePages_eq data pageSize positions
      dsimp only [Except.toOption]
      cases hfailure : (activeNames positions).findSome? (failureUnder? data) with
      | some e =>
          rw [hfailure] at htake
          rw [pageRounds, if_pos (by simpa using hgoes), bind_of_ok hask, htake]
          rfl
      | none =>
          rw [hfailure] at htake
          exact pageRounds_succ hgoes hask htake

/-- When no list is asked for, the items that were there before are the result. -/
lemma runResult_over (items : List PagedItem) : runResult [] items [] = .ok (some items) := by
  rw [runResult, List.findSome?_nil, pending, if_pos rfl, List.flatMap_nil, List.append_nil]

lemma runResult_cut {keys : List String} (hne : keys ≠ []) (items : List PagedItem) :
    runResult keys items [] = .ok none := by
  rw [runResult, List.findSome?_nil, pending, if_neg hne]

/-- One more round in front. -/
lemma runResult_cons (keys : List String) (items : List PagedItem) (f : Fetch)
    (rest : List Fetch) :
    runResult keys items (f :: rest) =
      match f.failure with
      | some e => .error e
      | none => runResult f.more (items ++ f.items) rest := by
  rw [runResult, List.findSome?_cons]
  cases f.failure with
  | some e => rfl
  | none => rw [runResult, pending, List.flatMap_cons, List.append_assoc]

/-- What a run gives that has come to its end. -/
lemma runResult_of_ends {keys : List String} {items : List PagedItem} {fetches : List Fetch}
    (hends : runResult keys items fetches ≠ .ok none) :
    runResult keys items fetches =
      match fetches.findSome? Fetch.failure with
      | some e => .error e
      | none => .ok (some (items ++ fetches.flatMap Fetch.items)) := by
  rw [runResult] at hends ⊢
  cases hfailure : fetches.findSome? Fetch.failure with
  | some e => rfl
  | none =>
      rw [hfailure] at hends
      dsimp only at hends ⊢
      split at hends
      · next hdone => rw [if_pos hdone]
      · exact absurd rfl hends

/-- **The rounds of a run** that may take so many: its attempts are theirs, and its result is what
they give.  A run without result used up what it was allowed. -/
structure RanAs (c : Client) (net : Network) (pageSize rounds : Nat)
    (positions : List (PageStream × Cursor)) (items : List PagedItem) (j : Journal)
    (fetches : List Fetch) : Prop where
  run : PageRun c net pageSize positions j.attempts fetches
    (pageRounds (asking c net) pageSize rounds positions items j).2.attempts
  result : (pageRounds (asking c net) pageSize rounds positions items j).1 =
    runResult (activeNames positions) items fetches
  cut : (pageRounds (asking c net) pageSize rounds positions items j).1 = .ok none →
    fetches.length = rounds

/-- No list goes on. -/
lemma RanAs.over (hdone : ∀ p ∈ positions, p.2.active = false) (rounds : Nat)
    (items : List PagedItem) (j : Journal) : RanAs c net pageSize rounds positions items j [] := by
  have hrun : pageRounds (asking c net) pageSize rounds positions items j = (.ok (some items), j) :=
    pageRounds_of_done hdone
  refine ⟨by rw [hrun]; rfl, ?_, by simp [hrun]⟩
  rw [hrun, activeNames_of_done hdone, runResult_over]

/-- No round is left. -/
lemma RanAs.zero (items : List PagedItem) (j : Journal) :
    RanAs c net pageSize 0 positions items j [] := by
  by_cases hgoes : ∃ p ∈ positions, p.2.active = true
  · have hrun : pageRounds (asking c net) pageSize 0 positions items j = (.ok none, j) := by
      rw [pageRounds, if_pos (by simpa using hgoes)]
      rfl
    refine ⟨by rw [hrun]; rfl, ?_, fun _ => rfl⟩
    rw [hrun, runResult_cut (activeNames_ne_nil hgoes)]
  · exact .over (by simpa using hgoes) 0 items j

/-- A round that fails. -/
lemma RanAs.failed {j j' : Journal} (h : Asked c net (pageDocument positions pageSize) j f j')
    (hnames : (positions.map fun p => p.1.name).Nodup)
    (hgoes : ∃ p ∈ positions, p.2.active = true) {e : ClientError} (hfailure : f.failure = some e)
    (rounds : Nat) (items : List PagedItem) :
    RanAs c net pageSize (rounds + 1) positions items j [f] := by
  have hround := h.round hnames hgoes rounds items
  rw [hfailure] at hround
  refine ⟨?_, ?_, by simp [hround]⟩
  · rw [hround]
    exact ⟨hgoes, h.document, h.requested, fun _ => rfl, h.attempts⟩
  · rw [hround, runResult_cons, hfailure]

/-- A round that does not fail, before a run. -/
lemma RanAs.round {j j' : Journal} (h : Asked c net (pageDocument positions pageSize) j f j')
    (hnames : (positions.map fun p => p.1.name).Nodup)
    (hgoes : ∃ p ∈ positions, p.2.active = true) (hfailure : f.failure = none) {rounds : Nat}
    {items : List PagedItem} {fetches : List Fetch}
    (hrest : RanAs c net pageSize rounds (f.moves pageSize positions) (items ++ f.items) j'
      fetches) :
    RanAs c net pageSize (rounds + 1) positions items j (f :: fetches) := by
  have hround := h.round hnames hgoes rounds items
  have hfails := f.isSome_failure
  rw [hfailure] at hround hfails
  obtain ⟨hrun, hresult, hcut⟩ := hrest
  rw [h.attempts] at hrun
  rw [activeNames_moves pageSize (f.keys_of_document hnames h.document)] at hresult
  refine ⟨?_, ?_, ?_⟩
  · rw [hround]
    exact ⟨hgoes, h.document, h.requested, by simp [← hfails], hrun⟩
  · rw [hround, runResult_cons, hfailure]
    exact hresult
  · rw [hround]
    exact fun hnone => congrArg Nat.succ (hcut hnone)

/-- **Whatever the server does, a run is one of rounds.**  By induction on the number of rounds that
it may take. -/
theorem exists_ranAs (c : Client) (net : Network) (pageSize rounds : Nat)
    (positions : List (PageStream × Cursor)) (items : List PagedItem) (j : Journal)
    (hnames : (positions.map fun p => p.1.name).Nodup) :
    ∃ fetches, RanAs c net pageSize rounds positions items j fetches := by
  induction rounds generalizing positions items j with
  | zero => exact ⟨[], .zero items j⟩
  | succ rounds ih =>
      by_cases hgoes : ∃ p ∈ positions, p.2.active = true
      · obtain ⟨f, j', hasked⟩ := exists_asked c net (pageDocument positions pageSize) j
        cases hfailure : f.failure with
        | some e => exact ⟨[f], .failed hasked hnames hgoes hfailure rounds items⟩
        | none =>
            obtain ⟨fetches, hrest⟩ := ih (f.moves pageSize positions) (items ++ f.items) j'
              (f.nodup_moves pageSize hnames)
            exact ⟨f :: fetches, hrest.round hasked hnames hgoes hfailure⟩
      · exact ⟨[], .over (by simpa using hgoes) _ items j⟩

/-- A run that comes to its end, seen from outside. -/
lemma PageRun.fetchRun {before after : List Attempt} {fetches : List Fetch}
    {items : List PagedItem} (h : PageRun c net pageSize positions before fetches after)
    (hnames : (positions.map fun p => p.1.name).Nodup)
    (hends : runResult (activeNames positions) items fetches ≠ .ok none) :
    FetchRun c net (activeNames positions) before fetches after := by
  induction fetches generalizing positions before items with
  | nil => exact ⟨Classical.byContradiction fun hne => hends (runResult_cut hne items), h⟩
  | cons f rest ih =>
      obtain ⟨hgoes, hdocument, hrequested, hlast, hrest⟩ := h
      have hkeys := f.keys_of_document hnames hdocument
      have hfails := f.isSome_failure
      rw [runResult_cons] at hends
      refine ⟨activeNames_ne_nil hgoes, hkeys, hrequested, ?_⟩
      cases hfailure : f.failure with
      | some e =>
          rw [hfailure] at hfails
          obtain rfl := hlast hfails.symm
          rw [← hfails]
          exact ⟨rfl, hrest⟩
      | none =>
          rw [hfailure] at hfails hends
          rw [← hfails, ← activeNames_moves pageSize hkeys]
          rw [← activeNames_moves pageSize hkeys] at hends
          exact ih hrest (f.nodup_moves pageSize hnames) hends

end Run

end ContentSync.GraphQL
