import ContentSync.Proofs.PageRounds
import Mathlib.Data.List.Forall2

/-!
# What a null node costs

Two runs are followed side by side whose replies differ only in that some nodes of the first are
null in the second.  A null node is left out; but whether a list goes on is decided by the nodes
that are left, so a page that is emptied in this way ends its list although it says that more
follows.  As long as no page is emptied, the runs send the same queries, and the null nodes are all
that is lost; with the first page that is emptied they part.

* `DataNulled`, `OutcomeNulled` — replies that differ in null nodes.
* `Beside` — a round of each run, with the same query; `Beside.failure`, `Beside.items`,
  `Beside.moves` compare what comes of them.
* `Asked.beside` — the same query is tried equally often in both runs.
* `Alongside` — the rounds of both runs up to the first page that is emptied; `exists_alongside` by
  induction on the rounds that the runs may take.
* `paginate_nulled_iff` — when both runs send the same queries.
-/

namespace ContentSync.GraphQL

open Http (Attempt Network Outcome)

/-! ## Replies with null nodes -/

/-- An edge that is the same, or whose node is null instead of an item. -/
def EdgeNulled (edge edge' : Json) : Prop :=
  edge' = edge ∨ ((edgeNode? edge).isSome ∧ edge'.get? "node" = some .null)

/-- A page that is the same but for nodes that are null. -/
structure PageNulled (connection connection' : Json) : Prop where
  edges : Option.Rel (List.Forall₂ EdgeNulled)
    ((connection.get? "edges").bind Json.array?) ((connection'.get? "edges").bind Json.array?)
  pageInfo : connection'.get? "pageInfo" = connection.get? "pageInfo"

/-- **Data that are the same** but for nodes that are null. -/
def DataNulled (data data' : Json) : Prop :=
  ∀ key, Option.Rel PageNulled (data.get? key) (data'.get? key)

/-- **Outcomes that are the same** but for nodes of their data that are null. -/
def OutcomeNulled (outcome outcome' : Outcome) : Prop :=
  match dataOf outcome with
  | none => outcome' = outcome
  | some data => ∃ data', dataOf outcome' = some data' ∧ DataNulled data data'

/-- The nodes of the list under a key whose edges have a node in the second reply, too. -/
def sparedUnder (data data' : Json) (key : String) : List Json :=
  (((edgesUnder? data key).getD []).zip ((edgesUnder? data' key).getD [])).filterMap fun edges =>
    if (edgeNode? edges.2).isSome then edgeNode? edges.1 else none

lemma OutcomeNulled.refl (outcome : Outcome) : OutcomeNulled outcome outcome := by
  rw [OutcomeNulled]
  cases dataOf outcome with
  | none => rfl
  | some data =>
      refine ⟨data, rfl, fun key => ?_⟩
      cases data.get? key with
      | none => exact .none
      | some connection =>
          refine .some ⟨?_, rfl⟩
          cases (connection.get? "edges").bind Json.array? with
          | none => exact .none
          | some edges => exact .some (List.forall₂_same.mpr fun edge _ => .inl rfl)

section Replies

variable {data data' : Json} (h : DataNulled data data')

include h

lemma DataNulled.edges (key : String) :
    Option.Rel (List.Forall₂ EdgeNulled) (edgesUnder? data key) (edgesUnder? data' key) := by
  rw [edgesUnder?, edgesUnder?]
  have hpage := h key
  revert hpage
  cases data.get? key <;> cases data'.get? key <;> intro hpage <;> cases hpage
  case none.none => exact .none
  case some.some hpage => exact hpage.edges

lemma DataNulled.pageInfo? (key field : String) :
    ((data'.get? key).bind fun connection => pageInfo? connection field) =
      (data.get? key).bind fun connection => pageInfo? connection field := by
  have hpage := h key
  revert hpage
  cases data.get? key <;> cases data'.get? key <;> intro hpage <;> cases hpage
  case none.none => rfl
  case some.some hpage =>
    rw [Option.bind_some, Option.bind_some, GraphQL.pageInfo?, GraphQL.pageInfo?, hpage.pageInfo]

/-- What is wrong with a page does not depend on its nodes. -/
lemma DataNulled.failureUnder? (key : String) :
    failureUnder? data' key = failureUnder? data key := by
  rw [GraphQL.failureUnder?, GraphQL.failureUnder?]
  have hpage := h key
  revert hpage
  cases data.get? key <;> cases data'.get? key <;> intro hpage <;> cases hpage
  case none.none => rfl
  case some.some connection connection' hpage =>
    have hedges := hpage.edges
    revert hedges
    dsimp only
    cases (connection.get? "edges").bind Json.array? <;>
      cases (connection'.get? "edges").bind Json.array? <;> intro hedges <;> cases hedges <;> rfl

lemma DataNulled.sizeUnder? (key : String) : sizeUnder? data' key = sizeUnder? data key := by
  rw [GraphQL.sizeUnder?, GraphQL.sizeUnder?, h.pageInfo?]

omit h in
lemma filterMap_nulled {edges edges' : List Json} (hedges : List.Forall₂ EdgeNulled edges edges') :
    edges'.filterMap edgeNode? = (edges.zip edges').filterMap fun edges =>
      if (edgeNode? edges.2).isSome then edgeNode? edges.1 else none := by
  induction hedges with
  | nil => rfl
  | @cons edge edge' rest rest' hedge _ ih =>
      rw [List.zip_cons_cons, List.filterMap_cons, List.filterMap_cons, ih]
      rcases hedge with rfl | ⟨-, hnull⟩
      · cases edgeNode? edge' <;> rfl
      · have hnone : edgeNode? edge' = none := by
          rw [edgeNode?, hnull]
          rfl
        simp only [hnone, Option.isSome_none, Bool.false_eq_true, if_false]

/-- **The nodes of the second reply** are those of the first without the ones that are null now. -/
lemma DataNulled.nodesUnder (key : String) : nodesUnder data' key = sparedUnder data data' key := by
  rw [nodesUnder_eq, sparedUnder]
  have hedges := h.edges key
  revert hedges
  cases edgesUnder? data key <;> cases edgesUnder? data' key <;> intro hedges <;> cases hedges
  case none.none => rfl
  case some.some hedges => exact filterMap_nulled hedges

/-- A page that has a node in the second reply has one in the first. -/
lemma DataNulled.nodesUnder_ne_nil {key : String} (hne : GraphQL.nodesUnder data' key ≠ []) :
    GraphQL.nodesUnder data key ≠ [] := by
  rw [h.nodesUnder] at hne
  obtain ⟨node, hnode⟩ := List.exists_mem_of_ne_nil _ hne
  obtain ⟨⟨edge, edge'⟩, hedges, hkept⟩ := List.mem_filterMap.mp hnode
  dsimp only at hkept
  split at hkept
  · rw [nodesUnder_eq]
    exact List.ne_nil_of_mem (List.mem_filterMap.mpr ⟨edge, (List.of_mem_zip hedges).1, hkept⟩)
  · cases hkept

/-- A list goes on with the second reply just when it does with the first, and its page is not
emptied. -/
lemma DataNulled.goesOn (key : String) :
    goesOn data' key = (goesOn data key && !(GraphQL.nodesUnder data' key).isEmpty) := by
  rw [GraphQL.goesOn, GraphQL.goesOn, h.pageInfo?, Bool.and_assoc]
  refine congrArg _ ?_
  have hne : GraphQL.nodesUnder data' key ≠ [] → GraphQL.nodesUnder data key ≠ [] :=
    h.nodesUnder_ne_nil
  cases hnodes : GraphQL.nodesUnder data' key with
  | nil => simp
  | cons node rest =>
      rw [hnodes] at hne
      simpa using hne (List.cons_ne_nil _ _)

end Replies

/-! ## Rounds side by side -/

/-- The nodes of a list that a round received. -/
def Fetch.nodesOf (f : Fetch) (key : String) : List Json :=
  match dataOf f.outcome with
  | none => []
  | some data => nodesUnder data key

/-- The items of a round whose edges have a node in the other round, too. -/
def Fetch.spared (f f' : Fetch) : List PagedItem :=
  match dataOf f.outcome, dataOf f'.outcome with
  | some data, some data' =>
      f.keys.flatMap fun key => (sparedUnder data data' key).map (PagedItem.mk key)
  | _, _ => []

/-- **Whether a page is emptied**: its list goes on after the first of two rounds, and has no node
left in the other one. -/
def Fetch.EmptiedBy (f f' : Fetch) : Prop :=
  f.fails = false ∧ ∃ key ∈ f.more, f'.nodesOf key = []

/-- **Two rounds with the same query** whose outcomes differ only in null nodes. -/
structure Beside (f f' : Fetch) : Prop where
  document : f'.document = f.document
  outcome : OutcomeNulled f.outcome f'.outcome

namespace Beside

variable {f f' : Fetch} (h : Beside f f')

include h

lemma keys : f'.keys = f.keys := by rw [Fetch.keys, Fetch.keys, h.document]

/-- Either both outcomes are the same without data, or the data differ only in null nodes. -/
lemma cases_data :
    (dataOf f.outcome = none ∧ f'.outcome = f.outcome) ∨
      ∃ data data', dataOf f.outcome = some data ∧ dataOf f'.outcome = some data' ∧
        DataNulled data data' := by
  have houtcome := h.outcome
  rw [OutcomeNulled] at houtcome
  cases hdata : dataOf f.outcome with
  | none =>
      rw [hdata] at houtcome
      exact .inl ⟨rfl, houtcome⟩
  | some data =>
      rw [hdata] at houtcome
      obtain ⟨data', hdata', hnulled⟩ := houtcome
      exact .inr ⟨data, data', rfl, hdata', hnulled⟩

lemma failure : f'.failure = f.failure := by
  rw [Fetch.failure, Fetch.failure, h.keys]
  obtain ⟨-, houtcome⟩ | ⟨data, data', hdata, hdata', hnulled⟩ := h.cases_data
  · rw [houtcome]
  · rw [answerTo_json_iff.mpr hdata, answerTo_json_iff.mpr hdata']
    exact congrArg (fun f => List.findSome? f _) (funext hnulled.failureUnder?)

lemma items : f'.items = f.spared f' := by
  rw [Fetch.items, Fetch.spared, h.keys]
  obtain ⟨hnone, houtcome⟩ | ⟨data, data', hdata, hdata', hnulled⟩ := h.cases_data
  · rw [houtcome, hnone]
  · rw [hdata, hdata']
    simp only [hnulled.nodesUnder]

/-- A list goes on in the second run just when it does in the first, and its page is not emptied. -/
lemma more : f'.more = f.more.filter fun key => !(f'.nodesOf key).isEmpty := by
  rw [Fetch.more, Fetch.more, h.keys]
  simp only [Fetch.nodesOf]
  obtain ⟨hnone, houtcome⟩ | ⟨data, data', hdata, hdata', hnulled⟩ := h.cases_data
  · rw [houtcome, hnone]
    rfl
  · rw [hdata, hdata', List.filter_filter]
    refine List.filter_congr fun key _ => ?_
    rw [hnulled.goesOn, Bool.and_comm]

/-- As long as no page is emptied, both rounds leave the lists at the same positions. -/
lemma moves (hkept : ∀ key ∈ f.more, f'.nodesOf key ≠ []) {pageSize : Nat}
    {positions : List (PageStream × Cursor)} (hkeys : f.keys = activeNames positions) :
    f'.moves pageSize positions = f.moves pageSize positions := by
  rw [Fetch.moves, Fetch.moves]
  obtain ⟨hnone, houtcome⟩ | ⟨data, data', hdata, hdata', hnulled⟩ := h.cases_data
  · rw [houtcome]
  · rw [hdata, hdata']
    refine List.map_congr_left fun p hp => ?_
    dsimp only
    cases hactive : p.2.active with
    | false => rw [Cursor.next_of_not_active hactive, Cursor.next_of_not_active hactive]
    | true =>
        have hgoes : goesOn data' p.1.name = goesOn data p.1.name := by
          rw [hnulled.goesOn]
          cases hmore : goesOn data p.1.name with
          | false => rfl
          | true =>
              have hkey : p.1.name ∈ f.more := by
                rw [Fetch.more, hdata, hkeys]
                exact List.mem_filter.mpr
                  ⟨List.mem_map.mpr ⟨p, List.mem_filter.mpr ⟨hp, hactive⟩, rfl⟩, hmore⟩
              have hnodes := hkept _ hkey
              rw [Fetch.nodesOf, hdata'] at hnodes
              simpa using hnodes
        rw [Cursor.next, Cursor.next, hgoes, hnulled.sizeUnder?]

end Beside

/-! ## Queries side by side -/

/-- The network that answers the attempts one after another, whatever they ask. -/
def scripted (script : Nat → Outcome) (draw : List Attempt → Nat) : Network where
  answer before _ := script before.length
  draw := draw

section Asking

variable {c : Client} {script script' : Nat → Outcome} {draw draw' : List Attempt → Nat}

lemma outcomeOf_scripted (request : Http.Request) (before : List Attempt) (n : Nat) :
    outcomeOf (scripted script draw) request before n = script (before.length + (n - 1)) := by
  have hlength : (before ++ repeated (scripted script draw) request before (n - 1)).length =
      before.length + (n - 1) := by
    rw [List.length_append, length_repeated]
  exact congrArg script hlength

/-- A reply with data is the last one in both runs. -/
lemma endsAt_nulled {outcome outcome' : Outcome} (h : OutcomeNulled outcome outcome')
    (p : RetryPolicy) (idempotent : Bool) (n : Nat) :
    p.EndsAt idempotent n outcome' ↔ p.EndsAt idempotent n outcome := by
  rw [OutcomeNulled] at h
  cases hdata : dataOf outcome with
  | none =>
      rw [hdata] at h
      rw [h]
  | some data =>
      rw [hdata] at h
      obtain ⟨data', hdata', -⟩ := h
      obtain ⟨body, -, hbody, -⟩ := dataOf_eq_some hdata
      obtain ⟨body', -, hbody', -⟩ := dataOf_eq_some hdata'
      rw [RetryPolicy.EndsAt, RetryPolicy.EndsAt, hbody, hbody']

/-- A round that was asked for has the first attempts of its request, up to the one after which
there is a reason to stop. -/
lemma Asked.attempts_eq {net : Network} {d : Document} {j j' : Journal} {f : Fetch}
    (h : Asked c net d j f j') :
    ∃ k, IsLeast {n | 1 ≤ n ∧ c.retry.EndsAt true n
        (outcomeOf net (c.requestFor d) j.attempts n)} k ∧
      f.failed.length + 1 = k ∧ f.outcome = outcomeOf net (c.requestFor d) j.attempts k := by
  obtain ⟨k, counted, posted, hrun, -, hattempts⟩ :=
    ask_attempts c net (Envelope.ofDocument d) .json true j
  have hjournal : (asking c net d j).2 = j' := by rw [h.result]
  have htried : (asking c net d j).2.attempts =
      j.attempts ++ repeated net (c.requestFor d) j.attempts k := hattempts
  rw [hjournal, h.attempts] at htried
  obtain ⟨n, rfl⟩ : ∃ n, k = n + 1 := ⟨k - 1, (Nat.sub_add_cancel hrun.first_le).symm⟩
  have htries := List.append_cancel_left htried
  rw [Fetch.attempts, repeated] at htries
  obtain ⟨hfailed, hlast⟩ := List.append_inj' htries (by simp only [List.length_singleton])
  refine ⟨n + 1, hrun.isLeast, by rw [hfailed, length_repeated], ?_⟩
  exact congrArg Attempt.outcome (List.head_eq_of_cons_eq hlast)

/-- **The same query is tried equally often** in both runs, and the last outcomes differ only in
null nodes. -/
lemma Asked.beside (hnulled : ∀ n, OutcomeNulled (script n) (script' n)) {d : Document}
    {j j' j₁ j₁' : Journal} {f f' : Fetch} (h : Asked c (scripted script draw) d j f j₁)
    (h' : Asked c (scripted script' draw') d j' f' j₁')
    (hlength : j'.attempts.length = j.attempts.length) :
    Beside f f' ∧ j₁'.attempts.length = j₁.attempts.length := by
  obtain ⟨k, hleast, hfailed, houtcome⟩ := h.attempts_eq
  obtain ⟨k', hleast', hfailed', houtcome'⟩ := h'.attempts_eq
  simp only [outcomeOf_scripted, hlength, endsAt_nulled (hnulled _)] at hleast hleast' houtcome'
  obtain rfl : k' = k := Nat.le_antisymm (hleast'.2 hleast.1) (hleast.2 hleast'.1)
  rw [outcomeOf_scripted] at houtcome
  refine ⟨⟨h'.document.trans h.document.symm, ?_⟩, ?_⟩
  · rw [houtcome, houtcome']
    exact hnulled _
  · rw [h.attempts, h'.attempts, Fetch.attempts, Fetch.attempts]
    simp only [List.length_append, List.length_singleton]
    omega

end Asking

/-! ## Runs side by side -/

/-- **The rounds of two runs** with the same queries, up to the first page that is emptied. -/
inductive Alongside : List Fetch → List Fetch → Prop
  | nil : Alongside [] []
  | cons {f f' : Fetch} {rest rest' : List Fetch} (beside : Beside f f')
      (next : ¬ f.EmptiedBy f' → Alongside rest rest') : Alongside (f :: rest) (f' :: rest')

section Runs

variable {c : Client} {script script' : Nat → Outcome} {positions : List (PageStream × Cursor)}
  {fetches fetches' : List Fetch}

/-- **Two runs from the same positions**, by induction on the number of rounds that they may take.
After a page that is emptied each of them goes on by itself. -/
theorem exists_alongside (c : Client) (draw draw' : List Attempt → Nat) (pageSize : Nat)
    (hnulled : ∀ n, OutcomeNulled (script n) (script' n)) (rounds : Nat)
    (items items' : List PagedItem) (j j' : Journal)
    (hnames : (positions.map fun p => p.1.name).Nodup)
    (hlength : j'.attempts.length = j.attempts.length) :
    ∃ fetches fetches',
      RanAs c (scripted script draw) pageSize rounds positions items j fetches ∧
      RanAs c (scripted script' draw') pageSize rounds positions items' j' fetches' ∧
      Alongside fetches fetches' := by
  induction rounds generalizing positions items items' j j' with
  | zero => exact ⟨[], [], .zero items j, .zero items' j', .nil⟩
  | succ rounds ih =>
      by_cases hgoes : ∃ p ∈ positions, p.2.active = true
      · obtain ⟨f, j₁, hasked⟩ :=
          exists_asked c (scripted script draw) (pageDocument positions pageSize) j
        obtain ⟨f', j₁', hasked'⟩ :=
          exists_asked c (scripted script' draw') (pageDocument positions pageSize) j'
        obtain ⟨hbeside, hlength₁⟩ := hasked.beside hnulled hasked' hlength
        have hkeys := f.keys_of_document hnames hasked.document
        cases hfailure : f.failure with
        | some e =>
            exact ⟨[f], [f'], .failed hasked hnames hgoes hfailure rounds items,
              .failed hasked' hnames hgoes (hbeside.failure.trans hfailure) rounds items',
              .cons hbeside fun _ => .nil⟩
        | none =>
            have hnames₁ := f.nodup_moves pageSize hnames
            have hfailure' := hbeside.failure.trans hfailure
            by_cases hemptied : f.EmptiedBy f'
            · obtain ⟨rest, hrest⟩ := exists_ranAs c (scripted script draw) pageSize rounds
                (f.moves pageSize positions) (items ++ f.items) j₁ hnames₁
              obtain ⟨rest', hrest'⟩ := exists_ranAs c (scripted script' draw') pageSize rounds
                (f'.moves pageSize positions) (items' ++ f'.items) j₁'
                (f'.nodup_moves pageSize hnames)
              exact ⟨f :: rest, f' :: rest', hrest.round hasked hnames hgoes hfailure,
                hrest'.round hasked' hnames hgoes hfailure',
                .cons hbeside fun hkept => absurd hemptied hkept⟩
            · have hfails : f.fails = false := by
                rw [← f.isSome_failure, hfailure]
                rfl
              have hkept : ∀ key ∈ f.more, f'.nodesOf key ≠ [] := fun key hkey hnone =>
                hemptied ⟨hfails, key, hkey, hnone⟩
              obtain ⟨rest, rest', hrest, hrest', halongside⟩ :=
                ih (items ++ f.items) (items' ++ f'.items) j₁ j₁' hnames₁ hlength₁
              rw [← hbeside.moves hkept hkeys] at hrest'
              exact ⟨f :: rest, f' :: rest', hrest.round hasked hnames hgoes hfailure,
                hrest'.round hasked' hnames hgoes hfailure', .cons hbeside fun _ => halongside⟩
      · have hdone : ∀ p ∈ positions, p.2.active = false := by simpa using hgoes
        exact ⟨[], [], .over hdone _ items j, .over hdone _ items' j', .nil⟩

/-- As long as no page is emptied the rounds stay side by side. -/
lemma Alongside.forall₂ (h : Alongside fetches fetches')
    (hkept : ∀ p ∈ fetches.zip fetches', ¬ p.1.EmptiedBy p.2) :
    List.Forall₂ Beside fetches fetches' := by
  induction h with
  | nil => exact .nil
  | cons beside _ ih =>
      rw [List.zip_cons_cons, List.forall_mem_cons] at hkept
      exact .cons beside (ih hkept.1 hkept.2)

/-- Runs with the same queries ask for the same lists first. -/
lemma FetchRun.keys_eq {net net' : Network} {keys keys' : List String}
    {before before' after after' : List Attempt} (h : FetchRun c net keys before fetches after)
    (h' : FetchRun c net' keys' before' fetches' after')
    (hsame : fetches'.map Fetch.document = fetches.map Fetch.document) : keys' = keys := by
  cases fetches with
  | nil =>
      obtain rfl := List.map_eq_nil_iff.mp hsame
      rw [h.1, h'.1]
  | cons f rest =>
      cases fetches' with
      | nil => cases hsame
      | cons f' rest' =>
          obtain ⟨-, hkeys, -⟩ := h
          obtain ⟨-, hkeys', -⟩ := h'
          rw [← hkeys, ← hkeys', Fetch.keys, Fetch.keys, List.head_eq_of_cons_eq hsame]

/-- **With the first page that is emptied the runs part**: the first one asks for the list again,
and the second does not. -/
lemma Alongside.parted {net net' : Network} {keys keys' : List String}
    {before before' after after' : List Attempt} (h : Alongside fetches fetches')
    (hrun : FetchRun c net keys before fetches after)
    (hrun' : FetchRun c net' keys' before' fetches' after')
    (hsame : fetches'.map Fetch.document = fetches.map Fetch.document) :
    ∀ p ∈ fetches.zip fetches', ¬ p.1.EmptiedBy p.2 := by
  induction h generalizing keys keys' before before' with
  | nil => exact fun p hp => absurd hp List.not_mem_nil
  | @cons f f' rest rest' beside _ ih =>
      obtain ⟨-, -, -, hrest⟩ := hrun
      obtain ⟨-, -, -, hrest'⟩ := hrun'
      rw [← f'.isSome_failure, beside.failure, f.isSome_failure] at hrest'
      have hsame' := List.tail_eq_of_cons_eq hsame
      rw [List.zip_cons_cons]
      cases hfails : f.fails with
      | true =>
          rw [hfails, if_pos rfl] at hrest
          have hkept : ¬ f.EmptiedBy f' := fun hemptied => by
            rw [hemptied.1] at hfails
            cases hfails
          rw [hrest.1, List.zip_nil_left]
          exact List.forall_mem_singleton.mpr hkept
      | false =>
          rw [hfails] at hrest hrest'
          have hkept : ¬ f.EmptiedBy f' := by
            rintro ⟨-, key, hkey, hnone⟩
            rw [← hrest.keys_eq hrest' hsame', beside.more] at hkey
            simp [hnone] at hkey
          exact List.forall_mem_cons.mpr ⟨hkept, ih hkept hrest hrest' hsame'⟩

/-- Rounds side by side fail together and with the same failure, and the items of the second ones
are what is spared of the first. -/
lemma runResult_beside (h : List.Forall₂ Beside fetches fetches') :
    fetches'.map Fetch.document = fetches.map Fetch.document ∧
      fetches'.findSome? Fetch.failure = fetches.findSome? Fetch.failure ∧
      fetches'.flatMap Fetch.items =
        (fetches.zip fetches').flatMap fun p => p.1.spared p.2 := by
  induction h with
  | nil => exact ⟨rfl, rfl, rfl⟩
  | cons beside _ ih =>
      obtain ⟨hdocuments, hfailure, hitems⟩ := ih
      refine ⟨?_, ?_, ?_⟩
      · rw [List.map_cons, List.map_cons, hdocuments, beside.document]
      · rw [List.findSome?_cons, List.findSome?_cons, hfailure, beside.failure]
      · rw [List.flatMap_cons, List.zip_cons_cons, List.flatMap_cons, hitems, beside.items]

end Runs

/-! ## The whole runs -/

/-- **The second result is the first one without the items that are null now**: both are the same
failure, or the first one has the items of all its rounds, and the second one those of them whose
edges have a node in the other replies, too. -/
def WithoutNulled (fetches fetches' : List Fetch) :
    Except ClientError (Option (List PagedItem)) → Except ClientError (Option (List PagedItem)) →
      Prop
  | .error e, .error e' => e' = e
  | .ok (some items), .ok (some items') =>
      items = fetches.flatMap Fetch.items ∧
        items' = (fetches.zip fetches').flatMap fun p => p.1.spared p.2
  | _, _ => False

lemma withoutNulled_of_beside {keys : List String} {fetches fetches' : List Fetch}
    (h : List.Forall₂ Beside fetches fetches') (hends : runResult keys [] fetches ≠ .ok none)
    (hends' : runResult keys [] fetches' ≠ .ok none) :
    WithoutNulled fetches fetches' (runResult keys [] fetches) (runResult keys [] fetches') := by
  obtain ⟨-, hfailure, hitems⟩ := runResult_beside h
  rw [runResult_of_ends hends, runResult_of_ends hends', hfailure]
  cases fetches.findSome? Fetch.failure with
  | some e => exact rfl
  | none => exact ⟨rfl, hitems⟩

/-- **When a null node costs only itself.**  Of two runs that come to their ends, on replies that
differ only in null nodes, both send the same queries and the second gives what the first gives
without the items that are null now, just when no page that is followed by another one is emptied.
A page without a node left ends its list, and all its later pages are lost. -/
theorem paginate_nulled_iff (c : Client) (script script' : Nat → Outcome)
    (draw draw' : List Attempt → Nat) (streams : List PageStream) (pageSize rounds : Nat)
    (j : Journal) (hnames : (streams.map PageStream.name).Nodup)
    (hnulled : ∀ n, OutcomeNulled (script n) (script' n))
    (hends : (c.paginate (scripted script draw) streams pageSize rounds j).1 ≠ .ok none)
    (hends' : (c.paginate (scripted script' draw') streams pageSize rounds j).1 ≠ .ok none) :
    let first := c.paginate (scripted script draw) streams pageSize rounds j
    let second := c.paginate (scripted script' draw') streams pageSize rounds j
    ∃ fetches fetches',
      FetchRun c (scripted script draw) (streams.map PageStream.name) j.attempts fetches
        first.2.attempts ∧
      FetchRun c (scripted script' draw') (streams.map PageStream.name) j.attempts fetches'
        second.2.attempts ∧
      ((fetches'.map Fetch.document = fetches.map Fetch.document ∧
          WithoutNulled fetches fetches' first.1 second.1) ↔
        ∀ p ∈ fetches.zip fetches', ¬ p.1.EmptiedBy p.2) := by
  have hstart := nodup_startStreams hnames
  obtain ⟨fetches, fetches', hran, hran', halongside⟩ :=
    exists_alongside c draw draw' pageSize hnulled rounds [] [] j j hstart rfl
  have hresult : (c.paginate (scripted script draw) streams pageSize rounds j).1 =
    runResult (activeNames (startStreams streams)) [] fetches := hran.result
  have hresult' : (c.paginate (scripted script' draw') streams pageSize rounds j).1 =
    runResult (activeNames (startStreams streams)) [] fetches' := hran'.result
  rw [hresult] at hends
  rw [hresult'] at hends'
  have hrun := hran.run.fetchRun hstart hends
  have hrun' := hran'.run.fetchRun hstart hends'
  intro first second
  refine ⟨fetches, fetches', ?_, ?_, ?_, ?_⟩
  case refine_1 => exact activeNames_startStreams streams ▸ hrun
  case refine_2 => exact activeNames_startStreams streams ▸ hrun'
  case refine_3 => exact fun hsame => halongside.parted hrun hrun' hsame.1
  case refine_4 =>
    intro hkept
    have hbeside := halongside.forall₂ hkept
    refine ⟨(runResult_beside hbeside).1, ?_⟩
    rw [hresult, hresult']
    exact withoutNulled_of_beside hbeside hends hends'

/-! ### Two pages of posts

The first page says that more follows, and the second one has a post.
-/

section Posts

/-- The posts. -/
def postsStream : PageStream := ⟨"posts", "postsConnection", [], [.field "id"]⟩

/-- A post. -/
def post (id : String) : Json := .object [("id", .string id)]

/-- A page of posts. -/
def postsPage (nodes : List Json) (more : Bool) : Json :=
  .object [("posts", .object [
    ("edges", .array (nodes.map fun node => .object [("node", node)])),
    ("pageInfo", .object [("hasNextPage", .bool more)])])]

/-- The reply with a page of posts. -/
def postsReply (nodes : List Json) (more : Bool) : Outcome :=
  .replied ⟨200, none, (Json.object [("data", postsPage nodes more)]).render.toUTF8⟩

/-- These posts on the first page, and one more on the second. -/
def postsScript (nodes : List Json) : Nat → Outcome
  | 0 => postsReply nodes true
  | _ + 1 => postsReply [post "b"] false

lemma nodesUnder_postsPage (nodes : List Json) (more : Bool) :
    nodesUnder (postsPage nodes more) "posts" = nodes.filter fun node => !node.isNull := by
  have hedges : edgesUnder? (postsPage nodes more) "posts" =
      some (nodes.map fun node => .object [("node", node)]) := rfl
  rw [nodesUnder_eq, hedges, Option.getD_some, List.filterMap_map, ← List.filterMap_eq_filter]
  refine congrArg (fun f => List.filterMap f nodes) (funext fun node => ?_)
  cases hnull : node.isNull <;> simp [edgeNode?, Json.get?, Entries.get?, Option.guard, hnull]

lemma takePages_posts (nodes : List Json) (more : Bool) (offset : Nat) :
    takePages (postsPage nodes more) 1 [(postsStream, ⟨offset, true⟩)] =
      .ok ((nodes.filter fun node => !node.isNull).map (PagedItem.mk "posts"),
        [(postsStream, if more && !(nodes.filter fun node => !node.isNull).isEmpty then
          ⟨offsetPast offset 1, true⟩ else ⟨offset, false⟩)]) := by
  have hactive : activeNames [(postsStream, Cursor.mk offset true)] = ["posts"] := rfl
  have hfailure : failureUnder? (postsPage nodes more) "posts" = none := rfl
  have hname : postsStream.name = "posts" := rfl
  have hgoes : goesOn (postsPage nodes more) "posts" =
      (more && !(nodes.filter fun node => !node.isNull).isEmpty) := by
    rw [goesOn, nodesUnder_postsPage]
    rfl
  rw [takePages_eq, hactive, List.findSome?_cons, hfailure, List.flatMap_cons,
    nodesUnder_postsPage, List.map_cons, Cursor.next, hname, hgoes]
  simp [sizeUnder?, postsPage, pageInfo?, Json.get?, Entries.get?]

/-- A page without a node is the last one. -/
lemma paginate_posts_emptied (c : Client) (draw : List Attempt → Nat) {nodes : List Json}
    (hdata : dataOf (postsReply nodes true) = some (postsPage nodes true))
    (hnodes : (nodes.filter fun node => !node.isNull) = []) :
    ∃ j, c.paginate (scripted (postsScript nodes) draw) [postsStream] 1 2 .empty =
      (.ok (some []), j) ∧ j.stats.sent = 1 := by
  have hask : asking c (scripted (postsScript nodes) draw) _ .empty = _ :=
    executeDocumentStrict_of_dataOf .empty (pageDocument (startStreams [postsStream]) 1) true hdata
  have htake := takePages_posts nodes true 0
  rw [hnodes] at htake
  exact ⟨_, (pageRounds_succ (by decide) hask htake).trans (pageRounds_of_done (by decide)), rfl⟩

/-- After a page with a node the second page is read. -/
lemma paginate_posts_full (c : Client) (draw : List Attempt → Nat) {nodes : List Json}
    (hdata : dataOf (postsReply nodes true) = some (postsPage nodes true))
    (hlast : dataOf (postsReply [post "b"] false) = some (postsPage [post "b"] false))
    (hnodes : (nodes.filter fun node => !node.isNull) ≠ []) :
    ∃ j, c.paginate (scripted (postsScript nodes) draw) [postsStream] 1 2 .empty =
      (.ok (some ((nodes.filter fun node => !node.isNull).map (PagedItem.mk "posts") ++
        [⟨"posts", post "b"⟩])), j) ∧ j.stats.sent = 2 := by
  have hask : asking c (scripted (postsScript nodes) draw) _ .empty = _ :=
    executeDocumentStrict_of_dataOf .empty (pageDocument (startStreams [postsStream]) 1) true hdata
  have hask' : asking c (scripted (postsScript nodes) draw) _ _ = _ :=
    executeDocumentStrict_of_dataOf
      (Journal.empty.answered ⟨c.requestFor (pageDocument (startStreams [postsStream]) 1),
        postsReply nodes true⟩) (pageDocument [(postsStream, ⟨1, true⟩)] 1) true hlast
  have htake := takePages_posts nodes true 0
  rw [if_pos (by simpa using hnodes)] at htake
  refine ⟨_, (pageRounds_succ (by decide) hask htake).trans
    ((pageRounds_succ (by simp) hask' (takePages_posts [post "b"] false 1)).trans
      (pageRounds_of_done (by decide))), rfl⟩

lemma dataOf_postsReply : ∀ nodes ∈ [[post "a"], [.null], [post "a", post "c"], [.null, post "c"]],
    dataOf (postsReply nodes true) = some (postsPage nodes true) := by
  simp only [postsReply, dataOf, Json.ofBytes_render]
  decide +kernel

lemma dataOf_postsReply_last :
    dataOf (postsReply [post "b"] false) = some (postsPage [post "b"] false) := by
  simp only [postsReply, dataOf, Json.ofBytes_render]
  decide +kernel

lemma outcomeNulled_postsScript {nodes nodes' : List Json}
    (hdata : dataOf (postsReply nodes true) = some (postsPage nodes true))
    (hdata' : dataOf (postsReply nodes' true) = some (postsPage nodes' true))
    (hnodes : List.Forall₂ (fun node node' => node' = node ∨ node.isNull = false ∧ node' = .null)
      nodes nodes') (n : Nat) :
    OutcomeNulled (postsScript nodes n) (postsScript nodes' n) := by
  cases n with
  | succ n => exact OutcomeNulled.refl _
  | zero =>
      rw [OutcomeNulled, postsScript, postsScript, hdata]
      refine ⟨_, hdata', fun key => ?_⟩
      by_cases hkey : key = "posts"
      · subst hkey
        refine .some ⟨.some ?_, rfl⟩
        refine List.forall₂_map_left_iff.mpr (List.forall₂_map_right_iff.mpr (hnodes.imp ?_))
        rintro node node' (rfl | ⟨hnode, rfl⟩)
        · exact .inl rfl
        · refine .inr ⟨?_, rfl⟩
          simp [edgeNode?, Json.get?, Entries.get?, hnode]
      · have hnone (nodes : List Json) : (postsPage nodes true).get? key = none := by
          simp [postsPage, Json.get?, Entries.get?, Ne.symm hkey]
        rw [hnone, hnone]
        exact .none

/-- A page that keeps another post is read on, and only the null node is lost. -/
theorem paginate_nulled_iff_posts :
    let script := postsScript [post "a", post "c"]
    let script' := postsScript [.null, post "c"]
    let first := smallClient.paginate (scripted script fun _ => 0) [postsStream] 1 2 .empty
    let second := smallClient.paginate (scripted script' fun _ => 0) [postsStream] 1 2 .empty
    ([postsStream].map PageStream.name).Nodup ∧
    (∀ n, OutcomeNulled (script n) (script' n)) ∧
    first.1 ≠ .ok none ∧ second.1 ≠ .ok none ∧
    second.1 = .ok (some [⟨"posts", post "c"⟩, ⟨"posts", post "b"⟩]) ∧
    ∃ fetches fetches',
      FetchRun smallClient (scripted script fun _ => 0) ([postsStream].map PageStream.name)
        Journal.empty.attempts fetches first.2.attempts ∧
      FetchRun smallClient (scripted script' fun _ => 0) ([postsStream].map PageStream.name)
        Journal.empty.attempts fetches' second.2.attempts ∧
      ((fetches'.map Fetch.document = fetches.map Fetch.document ∧
          WithoutNulled fetches fetches' first.1 second.1) ↔
        ∀ p ∈ fetches.zip fetches', ¬ p.1.EmptiedBy p.2) := by
  have hdata := dataOf_postsReply [post "a", post "c"] (by simp)
  have hdata' := dataOf_postsReply [.null, post "c"] (by simp)
  have hnulled := outcomeNulled_postsScript hdata hdata'
    (.cons (.inr ⟨rfl, rfl⟩) (.cons (.inl rfl) .nil))
  obtain ⟨j, hfirst, -⟩ := paginate_posts_full smallClient (fun _ => 0) hdata
    dataOf_postsReply_last (by decide)
  obtain ⟨j', hsecond, -⟩ := paginate_posts_full smallClient (fun _ => 0) hdata'
    dataOf_postsReply_last (by decide)
  have hends := congrArg Prod.fst hfirst
  have hends' := congrArg Prod.fst hsecond
  exact ⟨by decide, hnulled, by simp [hends], by simp [hends'], hends',
    paginate_nulled_iff smallClient (postsScript [post "a", post "c"])
      (postsScript [.null, post "c"]) (fun _ => 0) (fun _ => 0) [postsStream] 1 2 .empty (by decide)
      hnulled (by simp [hends]) (by simp [hends'])⟩

/-- **A null node that costs another one.**  The only post of the first page is null, and the post
of the second page, which is there, is never asked for. -/
theorem paginate_nulled_lost :
    (∀ n, OutcomeNulled (postsScript [post "a"] n) (postsScript [.null] n)) ∧
    (∃ j, smallClient.paginate (scripted (postsScript [post "a"]) fun _ => 0) [postsStream] 1 2
        .empty = (.ok (some [⟨"posts", post "a"⟩, ⟨"posts", post "b"⟩]), j) ∧ j.stats.sent = 2) ∧
    ∃ j, smallClient.paginate (scripted (postsScript [.null]) fun _ => 0) [postsStream] 1 2
        .empty = (.ok (some []), j) ∧ j.stats.sent = 1 := by
  have hdata := dataOf_postsReply [post "a"] (by simp)
  have hdata' := dataOf_postsReply [.null] (by simp)
  have hfull := paginate_posts_full smallClient (fun _ => 0) hdata dataOf_postsReply_last
    (by decide)
  have hemptied := paginate_posts_emptied smallClient (fun _ => 0) hdata' rfl
  exact ⟨outcomeNulled_postsScript hdata hdata' (.cons (.inr ⟨rfl, rfl⟩) .nil), hfull, hemptied⟩

end Posts

end ContentSync.GraphQL
