import ContentSync.Proofs.DocumentTokens

/-!
# The grammar of GraphQL documents

A reader for executable documents: operations and fragments with everything that may stand in them.
It looks one token ahead, two where an alias may stand, and never goes back, so a text is read in
one way only.

* `value`, `typeRef`, `selections`, `document` — the readers of the parts of a document; each gives
  what it has read and the tokens that follow.  They carry the number of tokens as a bound on how
  often they call each other.
* `parse?` — the document that a text spells.
* `readDocument?` — the query or mutation that a text spells, where it uses nothing but what a
  `Document` holds.
-/

namespace ContentSync.GraphQL.Syntax

/-! ## Trees -/

/-- The type of a variable; `required` types are followed by a `!`. -/
inductive TypeRef where
  | named (name : String) (required : Bool)
  | list (item : TypeRef) (required : Bool)

/-- The type as it is written without blanks. -/
def TypeRef.chars : TypeRef → List Char
  | .named name required => name.toList ++ (if required then ['!'] else [])
  | .list item required => '[' :: (item.chars ++ ']' :: (if required then ['!'] else []))

structure Directive where
  name : String
  arguments : List (String × Argument)

/-- A selection; a field without braces has no children. -/
inductive Node where
  | field (label : Option String) (name : String) (arguments : List (String × Argument))
      (directives : List Directive) (children : List Node)
  | spread (fragment : String) (directives : List Directive)
  | inline (type : Option String) (directives : List Directive) (children : List Node)

structure Variable where
  name : String
  type : TypeRef
  default : Option Argument
  directives : List Directive

inductive Definition where
  | operation (keyword : String) (name : Option String) (declared : List Variable)
      (directives : List Directive) (children : List Node)
  | fragment (name type : String) (directives : List Directive) (children : List Node)

/-- Reads something off the front of a list of tokens. -/
abbrev Reader (α : Type) := List Token → Option (α × List Token)

/-! ## Values -/

/-- The value of a name: three of them are no enum values. -/
def nameValue (name : String) : Argument :=
  if name = "true" then .bool true
  else if name = "false" then .bool false
  else if name = "null" then .null
  else .enum name

mutual

/-- A value; a `constant` one has no variables. -/
def value (constant : Bool) : Nat → Reader Argument
  | _ + 1, .dollar :: .name name :: rest => if constant then none else some (.var name, rest)
  | _ + 1, .int n :: rest => some (.int n, rest)
  | _ + 1, .float x :: rest => some (.float x, rest)
  | _ + 1, .text s :: rest => some (.string s, rest)
  | _ + 1, .name name :: rest => some (nameValue name, rest)
  | fuel + 1, .openBracket :: rest => (items constant fuel rest).map fun p => (.list p.1, p.2)
  | fuel + 1, .openBrace :: rest =>
      (entries constant .closeBrace fuel rest).map fun p => (.object p.1, p.2)
  | _, _ => none

/-- The items of a list up to its end. -/
def items (constant : Bool) : Nat → Reader (List Argument)
  | 0, _ => none
  | _ + 1, .closeBracket :: rest => some ([], rest)
  | fuel + 1, ts =>
      match value constant fuel ts with
      | none => none
      | some (v, rest) => (items constant fuel rest).map fun p => (v :: p.1, p.2)

/-- Named values up to a closing token. -/
def entries (constant : Bool) (close : Token) : Nat → Reader (List (String × Argument))
  | fuel + 1, .name key :: .colon :: rest =>
      match value constant fuel rest with
      | none => none
      | some (v, rest') =>
          (entries constant close fuel rest').map fun p => ((key, v) :: p.1, p.2)
  | _ + 1, t :: rest => if t = close then some ([], rest) else none
  | _, _ => none

end

/-- Arguments between parentheses, at least one, or none. -/
def arguments (constant : Bool) (fuel : Nat) : Reader (List (String × Argument))
  | .openParen :: rest =>
      match entries constant .closeParen fuel rest with
      | some (e :: es, rest') => some (e :: es, rest')
      | _ => none
  | ts => some ([], ts)

/-- Directives, as many as there are. -/
def directives (constant : Bool) : Nat → Reader (List Directive)
  | fuel + 1, .at :: .name name :: rest =>
      match arguments constant fuel rest with
      | none => none
      | some (as, rest') => (directives constant fuel rest').map fun p => (⟨name, as⟩ :: p.1, p.2)
  | _, .at :: _ => none
  | _, ts => some ([], ts)

/-! ## Types and variables -/

/-- Whether a type is followed by a `!`. -/
def required : List Token → Bool × List Token
  | .bang :: rest => (true, rest)
  | ts => (false, ts)

/-- A type. -/
def typeRef : Nat → Reader TypeRef
  | _ + 1, .name name :: rest => some (.named name (required rest).1, (required rest).2)
  | fuel + 1, .openBracket :: rest =>
      match typeRef fuel rest with
      | some (item, .closeBracket :: rest') =>
          some (.list item (required rest').1, (required rest').2)
      | _ => none
  | _, _ => none

/-- The default value of a variable, if it has one. -/
def defaultValue (fuel : Nat) : Reader (Option Argument)
  | .equals :: rest => (value true fuel rest).map fun p => (some p.1, p.2)
  | ts => some (none, ts)

/-- Declared variables up to the closing parenthesis. -/
def variableList : Nat → Reader (List Variable)
  | fuel + 1, .dollar :: .name name :: .colon :: rest =>
      match typeRef fuel rest with
      | none => none
      | some (type, rest) =>
          match defaultValue fuel rest with
          | none => none
          | some (default, rest) =>
              match directives true fuel rest with
              | none => none
              | some (ds, rest) =>
                  (variableList fuel rest).map fun p => (⟨name, type, default, ds⟩ :: p.1, p.2)
  | _ + 1, .closeParen :: rest => some ([], rest)
  | _, _ => none

/-- Variables between parentheses, at least one, or none. -/
def declarations (fuel : Nat) : Reader (List Variable)
  | .openParen :: rest =>
      match variableList fuel rest with
      | some (v :: vs, rest') => some (v :: vs, rest')
      | _ => none
  | ts => some ([], ts)

/-! ## Selections -/

/-- Selections between braces, at least one; `inside` reads what follows the opening brace. -/
def braces (inside : Reader (List Node)) : Reader (List Node)
  | .openBrace :: rest =>
      match inside rest with
      | some (n :: ns, rest') => some (n :: ns, rest')
      | _ => none
  | _ => none

/-- What may follow the name of a field. -/
def fieldRest (inside : Reader (List Node)) (fuel : Nat) (label : Option String) (name : String) :
    Reader Node := fun ts =>
  match arguments false fuel ts with
  | none => none
  | some (as, rest) =>
      match directives false fuel rest with
      | none => none
      | some (ds, .openBrace :: rest) =>
          (braces inside (.openBrace :: rest)).map fun p => (.field label name as ds p.1, p.2)
      | some (ds, rest) => some (.field label name as ds [], rest)

/-- What follows the type of an inline fragment. -/
def inlineRest (inside : Reader (List Node)) (fuel : Nat) (type : Option String) :
    Reader Node := fun ts =>
  match directives false fuel ts with
  | none => none
  | some (ds, rest) => (braces inside rest).map fun p => (.inline type ds p.1, p.2)

mutual

/-- One selection. -/
def node : Nat → Reader Node
  | fuel + 1, .spread :: .name name :: rest =>
      if name = "on" then
        match rest with
        | .name type :: rest => inlineRest (selections fuel) fuel (some type) rest
        | _ => none
      else (directives false fuel rest).map fun p => (.spread name p.1, p.2)
  | fuel + 1, .spread :: rest => inlineRest (selections fuel) fuel none rest
  | fuel + 1, .name label :: .colon :: .name name :: rest =>
      fieldRest (selections fuel) fuel (some label) name rest
  | fuel + 1, .name name :: rest => fieldRest (selections fuel) fuel none name rest
  | _, _ => none

/-- Selections up to the closing brace. -/
def selections : Nat → Reader (List Node)
  | 0, _ => none
  | _ + 1, .closeBrace :: rest => some ([], rest)
  | fuel + 1, ts =>
      match node fuel ts with
      | none => none
      | some (n, rest) => (selections fuel rest).map fun p => (n :: p.1, p.2)

end

/-! ## Documents -/

/-- The name of an operation, if it has one. -/
def operationName : List Token → Option String × List Token
  | .name name :: rest => (some name, rest)
  | ts => (none, ts)

/-- An operation after its keyword. -/
def operation (fuel : Nat) (keyword : String) : Reader Definition := fun ts =>
  match declarations fuel (operationName ts).2 with
  | none => none
  | some (vs, rest) =>
      match directives false fuel rest with
      | none => none
      | some (ds, rest) =>
          (braces (selections fuel) rest).map fun p =>
            (.operation keyword (operationName ts).1 vs ds p.1, p.2)

/-- A fragment after its keyword. -/
def fragment (fuel : Nat) : Reader Definition
  | .name name :: .name on :: .name type :: rest =>
      if name = "on" ∨ on ≠ "on" then none
      else
        match directives false fuel rest with
        | none => none
        | some (ds, rest) =>
            (braces (selections fuel) rest).map fun p => (.fragment name type ds p.1, p.2)
  | _ => none

/-- One definition; a selection without keyword is a query. -/
def definition (fuel : Nat) : Reader Definition
  | .openBrace :: rest =>
      (braces (selections fuel) (.openBrace :: rest)).map fun p =>
        (.operation "query" none [] [] p.1, p.2)
  | .name keyword :: rest =>
      if keyword = "query" ∨ keyword = "mutation" ∨ keyword = "subscription" then
        operation fuel keyword rest
      else if keyword = "fragment" then fragment fuel rest
      else none
  | _ => none

/-- Definitions up to the end. -/
def document : Nat → List Token → Option (List Definition)
  | _, [] => some []
  | 0, _ => none
  | fuel + 1, ts =>
      match definition fuel ts with
      | none => none
      | some (d, rest) => (document fuel rest).map (d :: ·)

/-- **The document that a text spells**, if it is one: at least one definition. -/
def parse? (text : String) : Option (List Definition) :=
  match tokens text.toList with
  | none => none
  | some ts => (document (ts.length + 1) ts).filter fun ds => !ds.isEmpty

/-! ## Documents of one query or mutation -/

mutual

/-- A field or an inline fragment without directives.  Fields without arguments and children are
leaves. -/
def ofNode? : Node → Option Selection
  | .field label name as [] children =>
      match as, children with
      | [], [] => some (.leaf name label)
      | as, children => (ofNodes? children).map fun cs => .object name label as cs
  | .inline (some type) [] children => (ofNodes? children).map fun cs => .on [(type, cs)]
  | _ => none

/-- Selections one after another; inline fragments that stand side by side make up one group. -/
def ofNodes? : List Node → Option (List Selection)
  | [] => some []
  | n :: rest =>
      match ofNode? n, ofNodes? rest with
      | some (.on branches), some (.on others :: s) => some (.on (branches ++ others) :: s)
      | some n, some s => some (n :: s)
      | _, _ => none

end

/-- A variable without default value and directives. -/
def ofVariable? : Variable → Option (String × String)
  | ⟨name, type, none, []⟩ => some (name, String.ofList type.chars)
  | _ => none

/-- The kind of an operation, subscriptions aside. -/
def kind? (keyword : String) : Option OperationKind :=
  if keyword = "query" then some .query
  else if keyword = "mutation" then some .mutation
  else none

/-- A document of one query or mutation that uses nothing but what a `Document` holds. -/
def ofDefinitions? : List Definition → Option Document
  | [.operation keyword name vs [] children] =>
      match kind? keyword, vs.mapM ofVariable?, ofNodes? children with
      | some kind, some declared, some selection => some ⟨kind, name, declared, selection⟩
      | _, _, _ => none
  | _ => none

/-- **The query or mutation that a text spells.** -/
def readDocument? (text : String) : Option Document := (parse? text).bind ofDefinitions?

end ContentSync.GraphQL.Syntax
