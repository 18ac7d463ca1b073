import ContentSync.Json.Basic

/-!
# Arguments of fields

An argument is a literal or a reference to a variable of the operation.  Objects and argument lists
keep their entries in order of insertion.

* `Argument.ofJson` — any JSON value is a literal.
* `Argument.equal` — equality as literals: floating point numbers are compared as numbers, and the
  order of the entries of an object does not matter.
-/

namespace ContentSync.GraphQL

/-- An argument literal. -/
inductive Argument where
  | null
  | bool (value : Bool)
  /-- An integer of 64 bits. -/
  | int (value : Int)
  | float (value : Binary64)
  | string (value : String)
  /-- The name of an enum value, written without quotes. -/
  | enum (name : String)
  /-- A variable of the operation, which the document must declare. -/
  | var (name : String)
  | list (items : List Argument)
  | object (entries : List (String × Argument))
  deriving Inhabited

/-- The arguments of a field in order. -/
abbrev Arguments := Entries Argument

namespace Argument

/-- An object literal from pairs; a repeated key keeps its place and takes the last value. -/
def ofPairs (pairs : List (String × Argument)) : Argument := .object (Entries.ofList pairs)

mutual

/-- **A JSON value as a literal.**  An integer that does not fit 64 signed bits becomes a floating
point number. -/
def ofJson : Json → Argument
  | .null => .null
  | .bool b => .bool b
  | .number (.int n) => if n < Nat.pow 2 63 then .int n else .float (Binary64.ofInt n)
  | .number (.float x) => .float x
  | .string s => .string s
  | .array items => .list (ofItems items)
  | .object members => .object (ofMembers members)

/-- The literals of several items. -/
def ofItems : List Json → List Argument
  | [] => []
  | v :: rest => ofJson v :: ofItems rest

/-- The literals of several members. -/
def ofMembers : List (String × Json) → List (String × Argument)
  | [] => []
  | (k, v) :: rest => (k, ofJson v) :: ofMembers rest

end

mutual

/-- Equality as literals. -/
def equal : Argument → Argument → Bool
  | .null, .null => true
  | .bool a, .bool b => a == b
  | .int a, .int b => a == b
  | .float a, .float b => a.sameValue b
  | .string a, .string b => a == b
  | .enum a, .enum b => a == b
  | .var a, .var b => a == b
  | .list a, .list b => equalItems a b
  | .object a, .object b => a.length == b.length && within a b
  | _, _ => false

/-- Equality of lists item by item. -/
def equalItems : List Argument → List Argument → Bool
  | [], [] => true
  | a :: as, b :: bs => equal a b && equalItems as bs
  | _, _ => false

/-- Whether every entry of the first list is found in the second. -/
def within : List (String × Argument) → List (String × Argument) → Bool
  | [], _ => true
  | (k, a) :: rest, bs =>
      (match Entries.get? bs k with
        | some b => equal a b
        | none => false) && within rest bs

end

/-- Equality of argument lists as maps. -/
def equalEntries (a b : Arguments) : Bool := a.length == b.length && within a b

end Argument

end ContentSync.GraphQL
