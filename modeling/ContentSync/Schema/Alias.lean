import ContentSync.GraphQL.Selection

/-!
# Aliases of branches

The branches of a polymorphic field are merged into one object of the response, and fields of the
same name may have different shapes in different branches.  So the fields of a branch are aliased by
a name that tells their type, and the aliases are taken off again when the response is there: every
object says by its `__typename` which branch it comes from.

* `aliasFor` — the alias of a field of a type.
* `aliasBranch` — the selection of a branch with its fields aliased.
* `stripAliases` — a response without the aliases.
-/

namespace ContentSync

open GraphQL

/-- The field that names the type of an object. -/
def typenameField : String := "__typename"

/-- What the aliases of a type begin with. -/
def aliasStart (type : String) : List Char := "__".toList ++ type.toList ++ "_alias__".toList

/-- The alias of a field inside the branch of a type. -/
def aliasFor (type field : String) : String :=
  String.ofList (aliasStart type ++ field.toList)

/-- A node of a branch with its alias.  The name of the type is asked for outside the branch. -/
def aliasNode (type : String) : Selection → Option Selection
  | .leaf name _ =>
      if name = typenameField then none else some (.leaf name (some (aliasFor type name)))
  | .object name _ arguments children =>
      some (.object name (some (aliasFor type name)) arguments children)
  | .on branches => some (.on branches)

/-- The selection of a branch with its fields aliased. -/
def aliasBranch (type : String) (branch : SelectionSet) : SelectionSet :=
  SelectionSet.ofList (branch.filterMap (aliasNode type))

/-! ## Taking aliases off -/

/-- A key without the start of an alias, if it begins with it. -/
def stripKey (start : Option (List Char)) (key : String) : String :=
  match start with
  | none => key
  | some start =>
      match start.isPrefixOf? key.toList with
      | some rest => String.ofList rest
      | none => key

/-- What the aliases in an object begin with, if it names its type. -/
def startOf (members : List (String × Json)) : Option (List Char) :=
  ((Entries.get? members typenameField).bind Json.string?).map aliasStart

mutual

/-- **A response without aliases.**  In every object that names its type, keys that begin with the
alias of that type lose it. -/
def stripAliases : Json → Json
  | .array items => .array (stripItems items)
  | .object members => .object (Entries.ofList (stripMembers (startOf members) members))
  | .null => .null
  | .bool b => .bool b
  | .number n => .number n
  | .string s => .string s

/-- Several values without aliases. -/
def stripItems : List Json → List Json
  | [] => []
  | v :: rest => stripAliases v :: stripItems rest

/-- Several members without aliases. -/
def stripMembers (start : Option (List Char)) : List (String × Json) → List (String × Json)
  | [] => []
  | (k, v) :: rest => (stripKey start k, stripAliases v) :: stripMembers start rest

end

end ContentSync
