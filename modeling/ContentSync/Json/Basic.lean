import ContentSync.OrderedMap
import ContentSync.Json.Number

/-!
# JSON values

Values as trees.  An object keeps its members in order of insertion; the functions of this library
build objects with `Entries.insert`, so no key occurs twice in one.
-/

namespace ContentSync

/-- A JSON value. -/
inductive Json where
  | null
  | bool (value : Bool)
  | number (value : Json.Number)
  | string (value : String)
  | array (items : List Json)
  | object (members : List (String × Json))
  deriving Inhabited

namespace Json

/-- An integer. -/
def int (n : Int) : Json := .number (.int n)

/-- An object with the given members; a repeated key keeps its place and takes the last value. -/
def ofMembers (members : List (String × Json)) : Json := .object (Entries.ofList members)

/-- The member of an object under a key; other values have none. -/
def get? : Json → String → Option Json
  | .object members, key => Entries.get? members key
  | _, _ => none

/-- Whether this is `null`. -/
def isNull : Json → Bool
  | .null => true
  | _ => false

/-- The text of a string. -/
def string? : Json → Option String
  | .string s => some s
  | _ => none

/-- The truth value of a boolean. -/
def bool? : Json → Option Bool
  | .bool b => some b
  | _ => none

/-- The items of an array. -/
def array? : Json → Option (List Json)
  | .array items => some items
  | _ => none

/-- The value of a non-negative integer. -/
def nat? : Json → Option Nat
  | .number (.int n) => if 0 ≤ n then some n.toNat else none
  | _ => none

end Json

end ContentSync
