import ContentSync.Json.Basic

/-!
# What a typed reader sees

Typed readers take values out of JSON in the order of the text, and the first thing that is wrong
decides the error.  They therefore see more than a value:

* members of an object are still in the order of the text, repeated keys included;
* a place where the text has the form of a value that denotes none — a number out of range, half a
  surrogate pair, octets that are no UTF-8 in a quoted text, nesting too deep — is marked `unfit`:
  skipping it is fine, reading it is not;
* a place where the text breaks off or is no JSON is marked `broken`; nothing follows it, and every
  container around it ends there.

`Input.toJson?` is the value of an input without such marks, and `Input.ofJson` the input of a
value.  `Input.wellFormed` says whether an input can be skipped.
-/

namespace ContentSync.Json

/-- Where an array comes from.  Items of a text are read one by one, so what follows the last
expected one is a question of form; those of a value are counted. -/
inductive Origin where
  | text
  | value
  deriving DecidableEq

/-- A value as a typed reader sees it.  A member whose key cannot be read has the key `none`. -/
inductive Input where
  | null
  | bool (value : Bool)
  | number (value : Number)
  | string (value : String)
  | array (origin : Origin) (items : List Input)
  | object (members : List (Option String × Input))
  /-- The form of a value that denotes none. -/
  | unfit
  /-- The text ends or is malformed here. -/
  | broken
  deriving Inhabited

namespace Input

mutual

/-- Whether nothing is malformed anywhere inside. -/
def wellFormed : Input → Bool
  | .broken => false
  | .array _ items => wellFormedItems items
  | .object members => wellFormedMembers members
  | _ => true

/-- Whether nothing is malformed inside several items. -/
def wellFormedItems : List Input → Bool
  | [] => true
  | i :: rest => wellFormed i && wellFormedItems rest

/-- Whether nothing is malformed inside several members. -/
def wellFormedMembers : List (Option String × Input) → Bool
  | [] => true
  | (_, i) :: rest => wellFormed i && wellFormedMembers rest

end

mutual

/-- **The value of an input.**  A repeated key keeps its place and takes the last value. -/
def toJson? : Input → Option Json
  | .null => some .null
  | .bool b => some (.bool b)
  | .number n => some (.number n)
  | .string s => some (.string s)
  | .array _ items => (toItems? items).map .array
  | .object members => (toMembers? members).map fun ms => .object (Entries.ofList ms)
  | .unfit => none
  | .broken => none

/-- The values of several items. -/
def toItems? : List Input → Option (List Json)
  | [] => some []
  | i :: rest =>
      match toJson? i, toItems? rest with
      | some v, some vs => some (v :: vs)
      | _, _ => none

/-- The values of several members, repeated keys still apart. -/
def toMembers? : List (Option String × Input) → Option (List (String × Json))
  | [] => some []
  | (key, i) :: rest =>
      match key, toJson? i, toMembers? rest with
      | some k, some v, some vs => some ((k, v) :: vs)
      | _, _, _ => none

end

mutual

/-- An input taken up as a whole before it is read: nothing in it may be unfit or malformed, and
its arrays are counted like those of a value. -/
def buffer? : Input → Option Input
  | .array _ items => (bufferItems? items).map (.array .value)
  | .object members => (bufferMembers? members).map .object
  | .unfit => none
  | .broken => none
  | i => some i

/-- Several items taken up as a whole. -/
def bufferItems? : List Input → Option (List Input)
  | [] => some []
  | i :: rest =>
      match buffer? i, bufferItems? rest with
      | some v, some vs => some (v :: vs)
      | _, _ => none

/-- Several members taken up as a whole. -/
def bufferMembers? : List (Option String × Input) → Option (List (Option String × Input))
  | [] => some []
  | (key, i) :: rest =>
      match key, buffer? i, bufferMembers? rest with
      | some k, some v, some vs => some ((some k, v) :: vs)
      | _, _, _ => none

end

mutual

/-- The input of a value. -/
def ofJson : Json → Input
  | .null => .null
  | .bool b => .bool b
  | .number n => .number n
  | .string s => .string s
  | .array items => .array .value (ofItems items)
  | .object members => .object (ofMembers members)

/-- The inputs of several items. -/
def ofItems : List Json → List Input
  | [] => []
  | v :: rest => ofJson v :: ofItems rest

/-- The inputs of several members. -/
def ofMembers : List (String × Json) → List (Option String × Input)
  | [] => []
  | (k, v) :: rest => (some k, ofJson v) :: ofMembers rest

end

end Input

end ContentSync.Json
