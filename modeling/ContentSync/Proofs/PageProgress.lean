import ContentSync.Api.Content
import ContentSync.Proofs.PageRounds

/-!
# Reading page by page makes progress against every server

A server may say that more follows when nothing does, tell any length of a page or none, and leave
out what it was asked for.  A run may be cut after any number of rounds here, so a run that never
ends is covered by all its beginnings.

* `reached` — how far some rounds move a list.
* `PageRun.keys_of`, `PageRun.dropped`, `PageRun.get?_of` — the queries of a run, by induction on
  the run.
* `Progress` — what the queries of a run have in common; `RunEnds` — what comes of it.
* `paginate_progress` — the whole run.
-/

namespace ContentSync.GraphQL

open Http (Attempt Network Outcome)

/-! ## The queries of a run -/

/-- **How far a round moves a list** that goes on: by the length that its page tells, if that is
positive, and else by the length that was asked for. -/
def Fetch.step (f : Fetch) (pageSize : Nat) (key : String) : Nat :=
  ((dataOf f.outcome).bind fun data => sizeUnder? data key).getD pageSize

/-- How far these rounds move a list. -/
def reached (pageSize : Nat) (key : String) : List Fetch → Nat
  | [] => 0
  | f :: rest => f.step pageSize key + reached pageSize key rest

section Queries

variable {c : Client} {net : Network} {pageSize : Nat} {positions : List (PageStream × Cursor)}
  {before after : List Attempt} {fetches : List Fetch}

lemma Fetch.step_pos (f : Fetch) (hpos : 0 < pageSize) (key : String) :
    0 < f.step pageSize key := by
  rw [Fetch.step]
  cases h : (dataOf f.outcome).bind fun data => sizeUnder? data key with
  | none => exact hpos
  | some size =>
      obtain ⟨data, -, hsize⟩ := Option.bind_eq_some_iff.mp h
      rw [sizeUnder?, Option.filter_eq_some_iff] at hsize
      simpa using hsize.2

lemma reached_append (pageSize : Nat) (key : String) (fetches later : List Fetch) :
    reached pageSize key (fetches ++ later) =
      reached pageSize key fetches + reached pageSize key later := by
  induction fetches with
  | nil => exact (Nat.zero_add _).symm
  | cons f rest ih => rw [List.cons_append, reached, reached, ih, Nat.add_assoc]

/-- With every round a list is moved. -/
lemma reached_lt (hpos : 0 < pageSize) (key : String) {m n : Nat} (hmn : m < n)
    (hn : n < fetches.length) :
    reached pageSize key (fetches.take m) < reached pageSize key (fetches.take n) := by
  obtain ⟨k, rfl⟩ : ∃ k, n = m + (k + 1) := ⟨n - (m + 1), by omega⟩
  have hm : m < fetches.length := by omega
  rw [List.take_add, List.drop_eq_getElem_cons hm, List.take_succ_cons, reached_append, reached]
  have hstep := fetches[m].step_pos hpos key
  omega

/-- A list that goes on after a round went on before it, and was moved by a step. -/
lemma offset_moves {f : Fetch} {p : PageStream × Cursor} (hp : p ∈ f.moves pageSize positions)
    (hactive : p.2.active = true) :
    ∃ q ∈ positions, q.1 = p.1 ∧ q.2.active = true ∧
      p.2.offset = offsetPast q.2.offset (f.step pageSize p.1.name) := by
  obtain ⟨q, hq, rfl⟩ := List.mem_map.mp hp
  refine ⟨q, hq, rfl, ?_⟩
  dsimp only at hactive ⊢
  cases hdata : dataOf f.outcome with
  | none =>
      rw [hdata] at hactive
      cases hactive
  | some data =>
      rw [hdata] at hactive
      rw [Fetch.step, hdata]
      dsimp only at hactive ⊢
      rw [Cursor.next] at hactive ⊢
      split at hactive
      · next hmore =>
          rw [if_pos hmore]
          exact ⟨(Bool.and_eq_true_iff.mp hmore).1, rfl⟩
      · cases hactive

/-- Positions stay words. -/
lemma words_moves (hwords : ∀ p ∈ positions, p.2.offset < Nat.pow 2 64) (f : Fetch)
    (pageSize : Nat) : ∀ p ∈ f.moves pageSize positions, p.2.offset < Nat.pow 2 64 := by
  intro p hp
  obtain ⟨q, hq, rfl⟩ := List.mem_map.mp hp
  dsimp only
  cases dataOf f.outcome with
  | none => exact hwords q hq
  | some data =>
      dsimp only
      rw [Cursor.next]
      split
      · exact Nat.mod_lt _ (Nat.pow_pos (by decide))
      · exact hwords q hq

/-- A round asks for the lists that are to be asked for after the rounds before it. -/
lemma PageRun.keys_of (h : PageRun c net pageSize positions before fetches after)
    (hnames : (positions.map fun p => p.1.name).Nodup) :
    ∀ (n : Nat) (hn : n < fetches.length),
      fetches[n].keys = pending (activeNames positions) (fetches.take n) := by
  induction fetches generalizing positions before with
  | nil => exact fun n hn => absurd hn (Nat.not_lt_zero n)
  | cons f rest ih =>
      obtain ⟨-, hdocument, -, -, hrest⟩ := h
      have hkeys := f.keys_of_document hnames hdocument
      intro n hn
      cases n with
      | zero => exact hkeys
      | succ n =>
          rw [List.getElem_cons_succ, List.take_succ_cons, pending,
            ← activeNames_moves pageSize hkeys]
          exact ih hrest (f.nodup_moves pageSize hnames) n _

lemma Fetch.more_sublist (f : Fetch) : f.more.Sublist f.keys := by
  rw [Fetch.more]
  cases dataOf f.outcome with
  | none => exact List.nil_sublist _
  | some data => exact List.filter_sublist

/-- All rounds ask for lists that the first one asks for, in the same order. -/
lemma PageRun.keys_sublist (h : PageRun c net pageSize positions before fetches after)
    (hnames : (positions.map fun p => p.1.name).Nodup) :
    ∀ f ∈ fetches, f.keys.Sublist (activeNames positions) := by
  induction fetches generalizing positions before with
  | nil => exact fun f hf => absurd hf List.not_mem_nil
  | cons f rest ih =>
      obtain ⟨-, hdocument, -, -, hrest⟩ := h
      have hkeys := f.keys_of_document hnames hdocument
      refine List.forall_mem_cons.mpr ⟨hkeys ▸ List.Sublist.refl _, fun later hlater => ?_⟩
      have hlist := ih hrest (f.nodup_moves pageSize hnames) later hlater
      rw [activeNames_moves pageSize hkeys] at hlist
      exact hkeys ▸ hlist.trans f.more_sublist

/-- A list that is left out of one round is in none of the later ones. -/
lemma PageRun.dropped (h : PageRun c net pageSize positions before fetches after)
    (hnames : (positions.map fun p => p.1.name).Nodup) :
    fetches.Pairwise fun f later => later.keys.Sublist f.keys := by
  induction fetches generalizing positions before with
  | nil => exact .nil
  | cons f rest ih =>
      obtain ⟨-, hdocument, -, -, hrest⟩ := h
      have hmoved := f.nodup_moves pageSize hnames
      refine .cons (fun later hlater => ?_) (ih hrest hmoved)
      have hlist := hrest.keys_sublist hmoved later hlater
      rw [activeNames_moves pageSize (f.keys_of_document hnames hdocument)] at hlist
      exact hlist.trans f.more_sublist

/-- **The field of a list in the query of a round**: its own, from the position that the rounds
before it reached. -/
lemma PageRun.get?_of (h : PageRun c net pageSize positions before fetches after)
    (hnames : (positions.map fun p => p.1.name).Nodup)
    (hwords : ∀ p ∈ positions, p.2.offset < Nat.pow 2 64) :
    ∀ (n : Nat) (hn : n < fetches.length), ∀ key ∈ fetches[n].keys,
      ∃ p ∈ positions, p.1.name = key ∧ p.2.active = true ∧
        SelectionSet.get? fetches[n].document.selection key =
          some (pageNode p.1 (offsetPast p.2.offset (reached pageSize key (fetches.take n)))
            pageSize) := by
  induction fetches generalizing positions before with
  | nil => exact fun n hn => absurd hn (Nat.not_lt_zero n)
  | cons f rest ih =>
      obtain ⟨-, hdocument, -, -, hrest⟩ := h
      have hkeys := f.keys_of_document hnames hdocument
      have hmoved := f.nodup_moves pageSize hnames
      intro n hn key hkey
      cases n with
      | zero =>
          rw [List.getElem_cons_zero, hkeys] at hkey
          obtain ⟨p, hp, rfl⟩ := List.mem_map.mp hkey
          obtain ⟨hmem, hactive⟩ := List.mem_filter.mp hp
          refine ⟨p, hmem, rfl, hactive, ?_⟩
          rw [List.getElem_cons_zero, hdocument, List.take_zero, reached,
            offsetPast_of_lt (hwords p hmem), Nat.add_zero]
          exact get?_pageDocument hnames hmem hactive
      | succ n =>
          obtain ⟨p, hp, rfl, hactive, hget⟩ :=
            ih hrest hmoved (words_moves hwords f pageSize) n (Nat.lt_of_succ_lt_succ hn) key hkey
          -- the list goes on after the first round, so it was moved by it
          obtain ⟨q, hq, hstream, hbefore, hoffset⟩ := offset_moves hp hactive
          refine ⟨q, hq, congrArg PageStream.name hstream, hbefore, ?_⟩
          rw [hstream, List.getElem_cons_succ, List.take_succ_cons, reached,
            ← offsetPast_offsetPast, ← hoffset]
          exact hget

end Queries

/-! ## The whole run -/

/-- **What the queries of a run have in common** when its lists have different names.

* A round asks for the lists that are to be asked for: all of them at first, and then those that go
  on.  They stand in the order of their declaration, and a list that is left out of one round is in
  none of the later ones.
* Every list has its own field, under its own name.  It asks for `pageSize` items from the position
  that the rounds before it reached, as a word.  That is the front at first, and it moves with every
  round, as long as it fits an argument. -/
structure Progress (streams : List PageStream) (pageSize : Nat) (fetches : List Fetch) : Prop where
  keys_of : ∀ (n : Nat) (hn : n < fetches.length),
    fetches[n].keys = pending (streams.map PageStream.name) (fetches.take n)
  ordered : ∀ f ∈ fetches, f.keys.Sublist (streams.map PageStream.name)
  dropped : fetches.Pairwise fun f later => later.keys.Sublist f.keys
  field_of : ∀ (n : Nat) (hn : n < fetches.length), ∀ s ∈ streams, s.name ∈ fetches[n].keys →
    SelectionSet.get? fetches[n].document.selection s.name =
      some (pageNode s (reached pageSize s.name (fetches.take n) % Nat.pow 2 64) pageSize)
  asked_of : ∀ (n : Nat) (hn : n < fetches.length), ∀ s ∈ streams, s.name ∈ fetches[n].keys →
    reached pageSize s.name (fetches.take n) < Nat.pow 2 63 →
    fetches[n].document.asked? s.name =
      some (↑pageSize, ↑(reached pageSize s.name (fetches.take n)))
  starts : ∀ (h : 0 < fetches.length), ∀ s ∈ streams,
    fetches[0].document.asked? s.name = some (↑pageSize, 0)
  climbs : ∀ (m n : Nat) (hmn : m < n) (hn : n < fetches.length), ∀ s ∈ streams,
    s.name ∈ fetches[n].keys → reached pageSize s.name (fetches.take n) < Nat.pow 2 63 →
    ∃ skip skip' : Nat, skip < skip' ∧
      fetches[m].document.asked? s.name = some (↑pageSize, ↑skip) ∧
      fetches[n].document.asked? s.name = some (↑pageSize, ↑skip')

/-- **What comes of a run** of at most so many rounds: what its rounds give.  A run without result
used up its rounds; a run with a result had the edges of every list that it asked for; and a run
with a round that fails has none. -/
structure RunEnds (keys : List String) (rounds : Nat) (fetches : List Fetch)
    (result : Except ClientError (Option (List PagedItem))) : Prop where
  result_eq : result = runResult keys [] fetches
  cut : result = .ok none → fetches.length = rounds
  edges_of : ∀ items, result = .ok (some items) → ∀ f ∈ fetches, ∃ data,
    dataOf f.outcome = some data ∧ ∀ key ∈ f.keys, edgesUnder? data key ≠ none
  fails : (∃ f ∈ fetches, f.fails = true) → ∃ e, result = .error e

section Whole

variable {c : Client} {net : Network} {pageSize : Nat} {streams : List PageStream}
  {before after : List Attempt} {fetches : List Fetch}

lemma PageRun.progress
    (h : PageRun c net pageSize (startStreams streams) before fetches after)
    (hnames : (streams.map PageStream.name).Nodup)
    (hargs : ∀ s ∈ streams, "first" ∉ Entries.keys s.arguments ∧ "skip" ∉ Entries.keys s.arguments)
    (hpos : 0 < pageSize) : Progress streams pageSize fetches := by
  have hstart := nodup_startStreams hnames
  have hkeys := h.keys_of hstart
  rw [activeNames_startStreams] at hkeys
  have hdropped := h.dropped hstart
  have hwords : ∀ p ∈ startStreams streams, p.2.offset < Nat.pow 2 64 := by
    intro p hp
    obtain ⟨s, -, rfl⟩ := List.mem_map.mp hp
    exact Nat.pow_pos (by decide)
  have hfield : ∀ (n : Nat) (hn : n < fetches.length), ∀ s ∈ streams, s.name ∈ fetches[n].keys →
      SelectionSet.get? fetches[n].document.selection s.name =
        some (pageNode s (reached pageSize s.name (fetches.take n) % Nat.pow 2 64) pageSize) := by
    intro n hn s hs hkey
    obtain ⟨p, hp, hname, -, hget⟩ := h.get?_of hstart hwords n hn s.name hkey
    obtain ⟨t, ht, rfl⟩ := List.mem_map.mp hp
    obtain rfl : t = s := List.inj_on_of_nodup_map hnames ht hs hname
    dsimp only [Cursor.start] at hget
    rwa [offsetPast, Nat.zero_add] at hget
  have hasked : ∀ (n : Nat) (hn : n < fetches.length), ∀ s ∈ streams, s.name ∈ fetches[n].keys →
      reached pageSize s.name (fetches.take n) < Nat.pow 2 63 →
      fetches[n].document.asked? s.name =
        some (↑pageSize, ↑(reached pageSize s.name (fetches.take n))) := by
    intro n hn s hs hkey hfits
    have hget := hfield n hn s hs hkey
    rw [Nat.mod_eq_of_lt (Nat.lt_trans hfits (by decide))] at hget
    exact asked?_of_get? hget (hargs s hs) hfits
  refine ⟨hkeys, ?_, hdropped, hfield, hasked, ?_, ?_⟩
  case refine_1 =>
    intro f hf
    have hlist := h.keys_sublist hstart f hf
    rwa [activeNames_startStreams] at hlist
  case refine_2 =>
    intro hlength s hs
    refine hasked 0 hlength s hs ?_ (Nat.pow_pos (by decide))
    rw [hkeys 0 hlength]
    exact List.mem_map.mpr ⟨s, hs, rfl⟩
  case refine_3 =>
    intro m n hmn hn s hs hkey hfits
    have hm : m < fetches.length := Nat.lt_trans hmn hn
    have hlt := reached_lt hpos s.name hmn hn
    -- what is asked for later was asked for before
    have hearlier : s.name ∈ fetches[m].keys :=
      (List.pairwise_iff_getElem.mp hdropped m n hm hn hmn).subset hkey
    exact ⟨_, _, hlt, hasked m hm s hs hearlier (Nat.lt_trans hlt hfits),
      hasked n hn s hs hkey hfits⟩

/-- A round that does not fail has the edges of every list that it asked for. -/
lemma Fetch.edges_of_failure {f : Fetch} (h : f.failure = none) :
    ∃ data, dataOf f.outcome = some data ∧ ∀ key ∈ f.keys, edgesUnder? data key ≠ none := by
  rw [Fetch.failure] at h
  cases hanswer : answerTo .json f.outcome with
  | error e =>
      rw [hanswer] at h
      cases h
  | ok data =>
      rw [hanswer] at h
      exact ⟨data, answerTo_json_iff.mp hanswer, fun key hkey =>
        failureUnder?_eq_none_iff.mp (List.findSome?_eq_none_iff.mp h key hkey)⟩

lemma runEnds_of_result {keys : List String} {rounds : Nat}
    {result : Except ClientError (Option (List PagedItem))}
    (hresult : result = runResult keys [] fetches)
    (hcut : result = .ok none → fetches.length = rounds) : RunEnds keys rounds fetches result := by
  refine ⟨hresult, hcut, fun items hitems f hf => ?_, ?_⟩
  · rw [hresult, runResult] at hitems
    split at hitems
    · cases hitems
    · next hnone => exact Fetch.edges_of_failure (List.findSome?_eq_none_iff.mp hnone f hf)
  · rintro ⟨f, hf, hfails⟩
    rw [hresult, runResult]
    split
    · exact ⟨_, rfl⟩
    · next hnone =>
        rw [← f.isSome_failure, List.findSome?_eq_none_iff.mp hnone f hf] at hfails
        cases hfails

end Whole

/-- **Reading page by page makes progress against every server.**  Whatever it answers, and after
however many rounds the run is cut, the queries of its rounds ask for every list from its front on,
each time from a later position, and for none that was left out once.  A query that is sent again
after a failed attempt belongs to the same round.

The run fails, and gives no items, just when a round of it fails: its request, or a list without
edges.  If it comes to an end, its items are the nodes of all replies, round by round and in order
of the lists. -/
theorem paginate_progress (c : Client) (net : Network) (streams : List PageStream)
    (pageSize rounds : Nat) (j : Journal) (hnames : (streams.map PageStream.name).Nodup)
    (hargs : ∀ s ∈ streams, "first" ∉ Entries.keys s.arguments ∧ "skip" ∉ Entries.keys s.arguments)
    (hpos : 0 < pageSize) :
    ∃ fetches,
      PageRun c net pageSize (startStreams streams) j.attempts fetches
        (c.paginate net streams pageSize rounds j).2.attempts ∧
      Progress streams pageSize fetches ∧
      RunEnds (streams.map PageStream.name) rounds fetches
        (c.paginate net streams pageSize rounds j).1 := by
  have hstart := nodup_startStreams hnames
  obtain ⟨fetches, hrun, hresult, hcut⟩ :=
    exists_ranAs c net pageSize rounds (startStreams streams) [] j hstart
  rw [activeNames_startStreams] at hresult
  exact ⟨fetches, hrun, hrun.progress hnames hargs hpos, runEnds_of_result hresult hcut⟩

section Stubborn

/-- A post and an author.  There are always more posts, on pages of negative length, and nothing is
said of more authors. -/
def stubbornData : Json :=
  .object [
    ("posts", .object [("edges", .array [smallEdge "a"]),
      ("pageInfo", .object [("hasNextPage", .bool true), ("pageSize", .int (-1))])]),
    ("authors", .object [("edges", .array [smallEdge "b"])])]

/-- The content side gives these pages whatever it is asked. -/
def stubbornNetwork : Network where
  answer _ _ := .replied ⟨200, none, (Json.object [("data", stubbornData)]).render.toUTF8⟩
  draw _ := 0

lemma dataOf_stubborn (history : List Attempt) (request : Http.Request) :
    dataOf (stubbornNetwork.answer history request) = some stubbornData := by
  simp only [stubbornNetwork, dataOf, Json.ofBytes_render]
  decide +kernel

/-- Every round is given these pages. -/
lemma PageRun.dataOf_stubborn {positions : List (PageStream × Cursor)}
    {before after : List Attempt} {fetches : List Fetch}
    (h : PageRun smallClient stubbornNetwork 2 positions before fetches after) :
    ∀ f ∈ fetches, dataOf f.outcome = some stubbornData := by
  induction fetches generalizing positions before with
  | nil => exact fun f hf => absurd hf List.not_mem_nil
  | cons f rest ih =>
      obtain ⟨-, -, hrequested, -, hrest⟩ := h
      obtain ⟨-, houtcome, -⟩ := answered_append.mp hrequested.answered
      refine List.forall_mem_cons.mpr ⟨?_, ih hrest⟩
      rw [show f.outcome = _ from houtcome]
      exact GraphQL.dataOf_stubborn _ _

/-- The posts from a position on, and the authors while they go on. -/
def stubbornPositions (skip : Nat) (authors : Bool) : List (PageStream × Cursor) :=
  smallStreams.zip [⟨skip, true⟩, ⟨0, authors⟩]

/-- A round moves the posts by the length that was asked for, and ends the authors. -/
lemma takePages_stubborn (skip : Nat) (authors : Bool) : ∃ found,
    takePages stubbornData 2 (stubbornPositions skip authors) =
      .ok (found, stubbornPositions (offsetPast skip 2) false) := by
  cases authors <;> exact ⟨_, rfl⟩

/-- However many rounds there are, they do not suffice. -/
lemma pageRounds_stubborn (rounds : Nat) : ∀ (skip : Nat) (authors : Bool)
    (items : List PagedItem) (j : Journal),
    (pageRounds (asking smallClient stubbornNetwork) 2 rounds (stubbornPositions skip authors)
      items j).1 = .ok none := by
  induction rounds with
  | zero => exact fun skip authors items j => rfl
  | succ rounds ih =>
      intro skip authors items j
      obtain ⟨found, htake⟩ := takePages_stubborn skip authors
      have hask : asking smallClient stubbornNetwork _ j = _ :=
        executeDocumentStrict_of_dataOf j (pageDocument (stubbornPositions skip authors) 2) true
          (dataOf_stubborn _ _)
      have hgoes : ∃ p ∈ stubbornPositions skip authors, p.2.active = true :=
        ⟨_, List.mem_cons_self, rfl⟩
      rw [pageRounds_succ hgoes hask htake]
      exact ih _ _ _ _

/-- The posts are asked for in all three rounds, each time from a later position, and the authors
once. -/
theorem paginate_progress_stubborn :
    (smallStreams.map PageStream.name).Nodup ∧
    (∀ s ∈ smallStreams, "first" ∉ Entries.keys s.arguments ∧ "skip" ∉ Entries.keys s.arguments) ∧
    0 < 2 ∧
    ∃ fetches,
      PageRun smallClient stubbornNetwork 2 (startStreams smallStreams) Journal.empty.attempts
        fetches (smallClient.paginate stubbornNetwork smallStreams 2 3 .empty).2.attempts ∧
      (smallClient.paginate stubbornNetwork smallStreams 2 3 .empty).1 = .ok none ∧
      fetches.map Fetch.keys = [["posts", "authors"], ["posts"], ["posts"]] ∧
      fetches.map (fun f => f.document.asked? "posts") = [some (2, 0), some (2, 2), some (2, 4)] ∧
      fetches.head?.bind (fun f => f.document.asked? "authors") = some (2, 0) := by
  have hnames : (smallStreams.map PageStream.name).Nodup := by decide
  obtain ⟨fetches, hrun, hprogress, hends⟩ := paginate_progress smallClient stubbornNetwork
    smallStreams 2 3 .empty hnames smallStreams_arguments (by decide)
  have hresult : (smallClient.paginate stubbornNetwork smallStreams 2 3 .empty).1 = .ok none :=
    pageRounds_stubborn 3 0 true [] .empty
  refine ⟨hnames, smallStreams_arguments, by decide, fetches, hrun, hresult, ?_⟩
  obtain ⟨first, second, third, rfl⟩ := List.length_eq_three.mp (hends.cut hresult)
  obtain ⟨hfirst, hsecond, -⟩ : dataOf first.outcome = some stubbornData ∧
      dataOf second.outcome = some stubbornData ∧ dataOf third.outcome = some stubbornData := by
    simpa using hrun.dataOf_stubborn
  -- the lists of a round are those that went on after the one before
  have hkeys : first.keys = ["posts", "authors"] := hprogress.keys_of 0 (by simp)
  have hkeys' : second.keys = ["posts"] := by
    have hmore : first.more = ["posts"] := by
      rw [Fetch.more, hfirst, hkeys]
      rfl
    exact (hprogress.keys_of 1 (by simp)).trans hmore
  have hkeys'' : third.keys = ["posts"] := by
    have hmore : second.more = ["posts"] := by
      rw [Fetch.more, hsecond, hkeys']
      rfl
    exact (hprogress.keys_of 2 (by simp)).trans hmore
  have hreached : reached 2 "posts" [first] = 2 ∧ reached 2 "posts" [first, second] = 4 := by
    rw [reached, reached, reached, reached, Fetch.step, Fetch.step, hfirst, hsecond]
    exact ⟨rfl, rfl⟩
  have hfits : reached 2 "posts" [first] < Nat.pow 2 63 ∧
      reached 2 "posts" [first, second] < Nat.pow 2 63 := by
    rw [hreached.1, hreached.2]
    decide
  have hstarts := hprogress.starts (by simp)
  have hposts : first.document.asked? "posts" = some (2, 0) := hstarts smallStreams[0] (by simp)
  have hposts' : second.document.asked? "posts" = some (2, ↑(reached 2 "posts" [first])) :=
    hprogress.asked_of 1 (by simp) smallStreams[0] (by simp) (hkeys' ▸ List.mem_cons_self) hfits.1
  have hposts'' : third.document.asked? "posts" =
      some (2, ↑(reached 2 "posts" [first, second])) :=
    hprogress.asked_of 2 (by simp) smallStreams[0] (by simp) (hkeys'' ▸ List.mem_cons_self) hfits.2
  refine ⟨?_, ?_, hstarts smallStreams[1] (by simp)⟩
  · rw [List.map_cons, List.map_cons, List.map_singleton, hkeys, hkeys', hkeys'']
  · rw [List.map_cons, List.map_cons, List.map_singleton, hposts, hposts', hposts'', hreached.1,
      hreached.2]
    rfl

end Stubborn

end ContentSync.GraphQL
