import ContentSync.GraphQL.Selection

/-!
# Documents

A document is one query or mutation: its name, the variables it declares and its selection.
-/

namespace ContentSync.GraphQL

/-- The kind of an operation. -/
inductive OperationKind where
  | query
  | mutation
  deriving DecidableEq

/-- The keyword a document begins with. -/
def OperationKind.keyword : OperationKind → String
  | .query => "query"
  | .mutation => "mutation"

/-- A query or mutation. -/
structure Document where
  kind : OperationKind
  name : Option String
  /-- Declared variables and their types, in order. -/
  declared : Entries String
  selection : SelectionSet

namespace Document

/-- A document without name and variables. -/
def anonymous (kind : OperationKind) (selection : SelectionSet) : Document :=
  ⟨kind, none, [], selection⟩

/-- An anonymous document with one node. -/
def single (kind : OperationKind) (node : Selection) : Document :=
  anonymous kind (SelectionSet.ofList [node])

/-- The document with one more declared variable. -/
def declaring (d : Document) (name type : String) : Document :=
  { d with declared := Entries.insert d.declared name type }

end Document

end ContentSync.GraphQL
