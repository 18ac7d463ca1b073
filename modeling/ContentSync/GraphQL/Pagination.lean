import ContentSync.GraphQL.Client

/-!
# Reading many lists page by page

Several lists, each under its own root field, are read together.  Every round sends one query for
the next page of each list that has one, so the number of rounds is the largest number of pages and
not their sum.

* `PageStream` — a list: its name in the response, its root field, further arguments and the
  selection for one item.
* `pageDocument` — the query of a round, `readPage` a page of its reply.
* `takePages` — what a reply means for all lists, `paginate` the whole run.

A list goes on when its page says so and holds an item; it goes on behind the number of items the
page says it has, or the number asked for if it does not say.  A run is given a number of rounds and
has no result if they do not suffice.
-/

namespace ContentSync.GraphQL

/-- A list to be read page by page. -/
structure PageStream where
  /-- The key of the list in the response. -/
  name : String
  /-- The root field that gives a page. -/
  rootField : String
  /-- Arguments beside the position and length of the page. -/
  arguments : Arguments
  /-- The selection for one item. -/
  selection : SelectionSet

/-- An item of a list. -/
structure PagedItem where
  stream : String
  node : Json

/-- How far a list has been read. -/
structure Cursor where
  offset : Nat
  active : Bool
  deriving DecidableEq

/-- Where every list begins. -/
def Cursor.start : Cursor := ⟨0, true⟩

/-! ## The query of a round -/

/-- What is asked of a page: its items and whether more follow. -/
def pageSelection (s : PageStream) : SelectionSet :=
  SelectionSet.ofList [
    .object "edges" none [] (SelectionSet.ofList [.object "node" none [] s.selection]),
    .object "pageInfo" none [] (SelectionSet.ofNames ["hasNextPage", "pageSize"])]

/-- The largest integer an argument can hold. -/
def maxInt : Nat := Nat.pow 2 63 - 1

/-- The root field that asks for the page of a list from `offset` on. -/
def pageNode (s : PageStream) (offset pageSize : Nat) : Selection :=
  .object s.rootField (some s.name)
    (Entries.insertAll [("first", .int pageSize), ("skip", .int (min offset maxInt))] s.arguments)
    (pageSelection s)

/-- **The query of a round**: a root field for every list that goes on. -/
def pageDocument (streams : List (PageStream × Cursor)) (pageSize : Nat) : Document :=
  .anonymous .query <| SelectionSet.ofList <|
    (streams.filter fun p => p.2.active).map fun p => pageNode p.1 p.2.offset pageSize

/-! ## A page of a reply -/

/-- A page of a list. -/
structure Page where
  nodes : List Json
  hasNext : Bool
  /-- The number of items the page says it has, if that is positive. -/
  size : Option Nat

/-- The item of an edge; an absent or null one does not count. -/
def edgeNode? (edge : Json) : Option Json :=
  match edge.get? "node" with
  | some node => if node.isNull then none else some node
  | none => none

/-- Reads a page.  Without a list of edges it is no page. -/
def readPage (connection : Json) (stream : String) : Except ClientError Page :=
  match (connection.get? "edges").bind Json.array? with
  | none => .error (.protocol ("stream '" ++ stream ++ "' has no edges"))
  | some edges =>
      let info := connection.get? "pageInfo"
      .ok {
        nodes := edges.filterMap edgeNode?
        hasNext := ((info.bind (·.get? "hasNextPage")).bind Json.bool?).getD false
        size := ((info.bind (·.get? "pageSize")).bind Json.nat?).filter (0 < ·) }

/-- The offset so many items further on.  Offsets are words, so beyond the last one they begin again
at zero. -/
def offsetPast (offset count : Nat) : Nat := (offset + count) % Nat.pow 2 64

theorem offsetPast_of_lt {offset count : Nat} (h : offset + count < Nat.pow 2 64) :
    offsetPast offset count = offset + count := Nat.mod_eq_of_lt h

/-- Two steps are one. -/
theorem offsetPast_offsetPast (offset count more : Nat) :
    offsetPast (offsetPast offset count) more = offsetPast offset (count + more) := by
  rw [offsetPast, offsetPast, Nat.mod_add_mod, Nat.add_assoc, offsetPast]

/-- Where a list goes on after a page. -/
def Cursor.after (c : Cursor) (page : Page) (pageSize : Nat) : Cursor :=
  if page.hasNext && !page.nodes.isEmpty then
    { c with offset := offsetPast c.offset (page.size.getD pageSize) }
  else { c with active := false }

/-- **What a reply means**: the items of all pages in order of the lists, and how far each list has
been read.  A list that was asked for and has no page makes it fail. -/
def takePages (data : Json) (pageSize : Nat) :
    List (PageStream × Cursor) → Except ClientError (List PagedItem × List (PageStream × Cursor))
  | [] => .ok ([], [])
  | (s, c) :: rest =>
      if c.active then
        match data.get? s.name with
        | none => .error (.protocol ("missing connection '" ++ s.name ++ "'"))
        | some connection =>
            match readPage connection s.name with
            | .error e => .error e
            | .ok page =>
                match takePages data pageSize rest with
                | .error e => .error e
                | .ok (items, cursors) =>
                    .ok (page.nodes.map (PagedItem.mk s.name) ++ items,
                      (s, c.after page pageSize) :: cursors)
      else
        match takePages data pageSize rest with
        | .error e => .error e
        | .ok (items, cursors) => .ok (items, (s, c) :: cursors)

/-! ## Rounds -/

/-- Rounds until no list goes on.  The items so far come first.  Absent when `rounds` do not
suffice. -/
def pageRounds {σ : Type} (ask : Document → ExceptT ClientError (StateM σ) Json)
    (pageSize : Nat) :
    (rounds : Nat) → List (PageStream × Cursor) → List PagedItem →
      ExceptT ClientError (StateM σ) (Option (List PagedItem))
  | rounds, streams, items =>
      if streams.any fun p => p.2.active then
        match rounds with
        | 0 => pure none
        | rounds + 1 => do
            let data ← ask (pageDocument streams pageSize)
            let (found, streams) ← takePages data pageSize streams
            pageRounds ask pageSize rounds streams (items ++ found)
      else pure (some items)

/-- All lists at their beginning. -/
def startStreams (streams : List PageStream) : List (PageStream × Cursor) :=
  streams.map fun s => (s, Cursor.start)

/-- **Reads all lists to their end.**  Any failure ends the run without items. -/
def Client.paginate (c : Client) (net : Http.Network) (streams : List PageStream)
    (pageSize rounds : Nat) : Exchange (Option (List PagedItem)) :=
  pageRounds (fun d => c.executeDocumentStrict net d true) pageSize rounds (startStreams streams) []

end ContentSync.GraphQL
