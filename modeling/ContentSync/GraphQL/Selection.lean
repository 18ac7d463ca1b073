import ContentSync.GraphQL.Argument

/-!
# Selections

A selection set holds its nodes in order of insertion, each under the key it has in the response:
the alias of a field if it has one, else its name.  A node inserted under a key that is taken
replaces the old node in its place, so two selections that would meet in the response never stand
side by side.

All conditions on the runtime type form one group.  Groups inserted into the same set merge branch
by branch; a branch given again for a type replaces the old one in its place.

* `Selection` — a field without selection, a field with arguments and a selection, or the group.
* `SelectionSet.insert` — adding a node, and `SelectionSet.get?`, `SelectionSet.keys`.
* `SelectionSet.equal` — equality that disregards order.
-/

namespace ContentSync.GraphQL

/-- A node of a selection set. -/
inductive Selection where
  /-- A field without arguments and selection. -/
  | leaf (name : String) (label : Option String)
  /-- A field with arguments or a selection of its own. -/
  | object (name : String) (label : Option String) (arguments : List (String × Argument))
      (children : List Selection)
  /-- Selections that apply only to objects of a type, in order of first appearance. -/
  | on (branches : List (String × List Selection))
  deriving Inhabited

/-- Nodes in order of first insertion of their keys. -/
abbrev SelectionSet := List Selection

/-- The branches of a group. -/
abbrev Branches := Entries (List Selection)

/-- The key under which the group of a selection set lives. -/
def groupKey : String := "..."

namespace Selection

/-- The place of a node in a selection set: for a field its key in the response. -/
def key : Selection → String
  | .leaf name label => label.getD name
  | .object name label _ _ => label.getD name
  | .on _ => groupKey

/-- A field without alias, arguments and selection. -/
def field (name : String) : Selection := .leaf name none

end Selection

namespace SelectionSet

/-! ## Look-up -/

/-- The keys in order. -/
def keys (s : SelectionSet) : List String := s.map Selection.key

/-- The node under a key. -/
def get? : SelectionSet → String → Option Selection
  | [], _ => none
  | n :: rest, key => if n.key = key then some n else get? rest key

/-- The branches of the group, if there is one. -/
def group? (s : SelectionSet) : Option Branches :=
  match get? s groupKey with
  | some (.on branches) => some branches
  | _ => none

/-! ## Insertion -/

/-- Puts a node under its key: in the place of the node with that key, else at the end. -/
def place : SelectionSet → Selection → SelectionSet
  | [], n => [n]
  | m :: rest, n => if m.key = n.key then n :: rest else m :: place rest n

/-- **Adds a node.**  A group is merged into the group that is already there. -/
def insert (s : SelectionSet) : Selection → SelectionSet
  | .on branches =>
      match group? s with
      | some old => place s (.on (Entries.insertAll old branches))
      | none => place s (.on branches)
  | n => place s n

/-- The selection set built by inserting nodes one after another. -/
def ofList (nodes : List Selection) : SelectionSet := nodes.foldl insert []

/-- A selection of fields without arguments and selections. -/
def ofNames (names : List String) : SelectionSet := ofList (names.map Selection.field)

/-! ## What insertion does to keys and look-ups -/

/-- The keys after a node is put in place. -/
theorem keys_place (s : SelectionSet) (n : Selection) :
    keys (place s n) = if n.key ∈ keys s then keys s else keys s ++ [n.key] := by
  induction s with
  | nil => simp [place, keys]
  | cons m rest ih =>
    by_cases hm : m.key = n.key
    · simp [place, keys, hm]
    · have hm' : ¬ n.key = m.key := fun h => hm h.symm
      simp only [keys] at ih
      by_cases hr : n.key ∈ rest.map Selection.key
      · simp only [place, if_neg hm, keys, List.map_cons, ih, List.mem_cons, hr,
          or_true, if_true]
      · simp only [place, if_neg hm, keys, List.map_cons, ih, List.mem_cons, hm', hr,
          or_self, if_false, List.cons_append]

/-- A node put in place is found under its key, all others as before. -/
theorem get?_place (s : SelectionSet) (n : Selection) (key : String) :
    get? (place s n) key = if n.key = key then some n else get? s key := by
  induction s with
  | nil => simp [place, get?]
  | cons m rest ih =>
    by_cases hm : m.key = n.key
    · by_cases hk : n.key = key
      · simp [place, hm, get?, hk]
      · simp [place, hm, get?, hk]
    · by_cases hk : m.key = key
      · subst hk
        simp [place, hm, get?, Ne.symm hm]
      · simp [place, hm, get?, hk, ih]

/-- The keys after an insertion: a new key goes to the end, an old one stays. -/
theorem keys_insert (s : SelectionSet) (n : Selection) :
    keys (insert s n) = if n.key ∈ keys s then keys s else keys s ++ [n.key] := by
  cases n with
  | leaf name label => exact keys_place s _
  | object name label arguments children => exact keys_place s _
  | on branches =>
    simp only [insert]
    cases group? s with
    | none => exact keys_place s _
    | some old => exact keys_place s (.on (Entries.insertAll old branches))

/-! ## Equality -/

mutual

/-- Equality of nodes. -/
def equalNode : Selection → Selection → Bool
  | .leaf n a, .leaf m b => n == m && a == b
  | .object n a as cs, .object m b bs ds =>
      n == m && a == b && Argument.equalEntries as bs && cs.length == ds.length && within cs ds
  | .on as, .on bs => as.length == bs.length && branchesWithin as bs
  | _, _ => false

/-- Whether every node of the first set is found in the second. -/
def within : List Selection → List Selection → Bool
  | [], _ => true
  | n :: rest, ms =>
      (match get? ms n.key with
        | some m => equalNode n m
        | none => false) && within rest ms

/-- Whether every branch of the first group is found in the second. -/
def branchesWithin : List (String × List Selection) → List (String × List Selection) → Bool
  | [], _ => true
  | (t, cs) :: rest, bs =>
      (match Entries.get? bs t with
        | some ds => cs.length == ds.length && within cs ds
        | none => false) && branchesWithin rest bs

end

/-- **Equality as maps**: the same keys with equal nodes, in any order. -/
def equal (a b : SelectionSet) : Bool := a.length == b.length && within a b

end SelectionSet

end ContentSync.GraphQL
