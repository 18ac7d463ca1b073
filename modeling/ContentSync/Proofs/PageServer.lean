import ContentSync.GraphQL.Pagination
import ContentSync.Proofs.Exchange

/-!
# Servers of pages

What a run of rounds can rely on, and what can be seen of it from outside.

A server holds a list of items under each key.  Asked for some items from a position on, it gives a
page: at least one item while there are any, never more than asked for, but possibly fewer, since
it may cap its pages.

* `Document.asked?` — what a query asks of the list under a key.
* `IsPage` — a connection that is a page of a list.
* `Serves` — a network whose replies are pages of what it holds.
* `Round`, `pages` — a query with its reply, and the pages that a run received of one list.
-/

namespace ContentSync.GraphQL

open Http (Attempt Network Outcome)

/-! ## What is asked and what is given -/

/-- **What a document asks of the list under a key**: how many items, and from which position on. -/
def Document.asked? (d : Document) (key : String) : Option (Int × Int) :=
  match SelectionSet.get? d.selection key with
  | some (.object _ _ arguments _) =>
      match Entries.get? arguments "first", Entries.get? arguments "skip" with
      | some (.int first), some (.int skip) => some (first, skip)
      | _, _ => none
  | _ => none

/-- What a connection says about its page. -/
def pageInfo? (connection : Json) (key : String) : Option Json :=
  (connection.get? "pageInfo").bind fun info => info.get? key

/-- The items of the page under a key. -/
def itemsUnder (data : Json) (key : String) : List Json :=
  ((((data.get? key).bind fun connection => connection.get? "edges").bind Json.array?).getD
    []).filterMap fun edge => edge.get? "node"

/-- **A page**: `count` of the `items` from position `skip` on, when `first` were asked for.  The
length of the page need not be told when it is the length that was asked for. -/
structure IsPage (items : List Json) (first skip count : Nat) (connection : Json) : Prop where
  capped : count ≤ first
  within : count ≤ items.length - skip
  nonempty : skip < items.length → 0 < count
  edges : ∃ edges, connection.get? "edges" = some (.array edges) ∧
    edges.map (fun edge => edge.get? "node") = ((items.drop skip).take count).map some
  more : pageInfo? connection "hasNextPage" = some (.bool true) ↔ skip + count < items.length
  size : pageInfo? connection "pageSize" = some (Json.int count) ∨
    count = first ∧ ∀ n : Nat, 0 < n → pageInfo? connection "pageSize" ≠ some (Json.int n)

/-- **A server of pages.**  `held` are the items under each key.  Whatever was sent before, a query
for any positions inside the lists is answered by a page for every list that it asks for. -/
structure Serves (c : Client) (net : Network) (streams : List PageStream) (pageSize : Nat)
    (held : String → List Json) : Prop where
  present : ∀ s ∈ streams, ∀ item ∈ held s.name, item.isNull = false
  /-- Every position fits an argument. -/
  addressable : ∀ s ∈ streams, (held s.name).length ≤ Nat.pow 2 63
  answers : ∀ (history : List Attempt) (positions : List (PageStream × Cursor)),
    positions.map Prod.fst = streams →
    (∀ p ∈ positions, p.2.offset = 0 ∨ p.2.offset < (held p.1.name).length) →
    ∃ data,
      dataOf (net.answer history (c.requestFor (pageDocument positions pageSize))) = some data ∧
      ∀ (key : String) (first skip : Nat),
        (pageDocument positions pageSize).asked? key = some (↑first, ↑skip) →
        ∃ connection count,
          data.get? key = some connection ∧ IsPage (held key) first skip count connection

/-! ## Runs from outside -/

/-- A query and what came of it. -/
structure Round where
  document : Document
  outcome : Outcome
  data : Json

/-- The attempt that a round is. -/
def Round.attempt (c : Client) (r : Round) : Attempt := ⟨c.requestFor r.document, r.outcome⟩

/-- The page of a list that a round received, if it asked for one. -/
def Round.page? (r : Round) (key : String) : Option (List Json) :=
  (r.document.asked? key).map fun _ => itemsUnder r.data key

/-- **The pages of a list** that a run received, in order. -/
def pages (rounds : List Round) (key : String) : List (List Json) :=
  rounds.filterMap fun r => r.page? key

/-- **What the journal shows of a run**: one attempt for each round and no pause, and each reply
has the data of its round. -/
structure Recorded (c : Client) (before : Journal) (rounds : List Round) (after : Journal) :
    Prop where
  attempts : after.attempts = before.attempts ++ rounds.map (Round.attempt c)
  pauses : after.pauses = before.pauses
  sent : after.stats.sent = before.stats.sent + rounds.length
  data : ∀ r ∈ rounds, dataOf r.outcome = some r.data

/-- **A run that loses and repeats nothing.**  The items of every list are exactly what is held,
and every round asks exactly the lists that have a page left, each from the end of its last one. -/
structure CompleteRun (streams : List PageStream) (pageSize : Nat) (held : String → List Json)
    (rounds : List Round) (items : List PagedItem) : Prop where
  items_of : ∀ s ∈ streams,
    (items.filter fun i => i.stream = s.name).map PagedItem.node = held s.name
  stream_of : ∀ i ∈ items, ∃ s ∈ streams, i.stream = s.name
  /-- The pages make up the list; only an empty list has an empty page, and only one. -/
  pages_of : ∀ s ∈ streams, (pages rounds s.name).flatten = held s.name ∧
    (∀ page ∈ pages rounds s.name, page.length ≤ pageSize) ∧
    if held s.name = [] then pages rounds s.name = [[]]
    else [] ∉ pages rounds s.name
  keys_of : ∀ (n : Nat) (h : n < rounds.length),
    SelectionSet.keys (rounds[n]).document.selection =
      (streams.filter fun s => n < (pages rounds s.name).length).map PageStream.name
  asked_of : ∀ (n : Nat) (h : n < rounds.length), ∀ s ∈ streams,
    n < (pages rounds s.name).length →
    (rounds[n]).document.asked? s.name =
      some (↑pageSize, ↑(((pages rounds s.name).take n).flatten.length))
  /-- As many rounds as the list with most pages has pages. -/
  rounds_of : rounds.length = (streams.map fun s => (pages rounds s.name).length).foldr max 0

end ContentSync.GraphQL
