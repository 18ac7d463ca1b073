import ContentSync.GraphQL.Document
import ContentSync.Json.Printer

/-!
# Documents as text

Each node of a selection stands on a line of its own, two blanks deeper than the braces around it.
Arguments and variables stand on the line of their field, separated by a comma and a blank.

* `Argument.render` — a literal.
* `Document.render` — a whole document.

In a text literal every control character is escaped, those beyond ASCII included.  Infinities and
NaNs have no literal and are written `null`.
-/

namespace ContentSync.GraphQL

/-! ## Literals -/

/-- Whether a character is a control character. -/
def isControl (c : Char) : Bool := c.toNat < 0x20 || (0x7F ≤ c.toNat && c.toNat ≤ 0x9F)

/-- One character of a text literal. -/
def escapeChar (c : Char) : List Char :=
  if c = '"' then ['\\', '"']
  else if c = '\\' then ['\\', '\\']
  else if c = '\n' then ['\\', 'n']
  else if c = '\r' then ['\\', 'r']
  else if c = '\t' then ['\\', 't']
  else if c.toNat = 0x08 then ['\\', 'b']
  else if c.toNat = 0x0C then ['\\', 'f']
  else if isControl c then '\\' :: 'u' :: Json.hexDigits 4 c.toNat
  else [c]

/-- A text literal. -/
def renderText (s : String) : List Char := '"' :: s.toList.flatMap escapeChar ++ ['"']

/-- What stands between two arguments. -/
def comma : List Char := [',', ' ']

/-- A separator before every piece but the first. -/
def joined (sep : List Char) : List (List Char) → List Char
  | [] => []
  | [p] => p
  | p :: rest => p ++ sep ++ joined sep rest

mutual

/-- A literal as characters. -/
def Argument.chars : Argument → List Char
  | .null => "null".toList
  | .bool b => (if b then "true" else "false").toList
  | .int n => (toString n).toList
  | .float x => ((DecimalLayout.argument.render? x).getD "null").toList
  | .string s => renderText s
  | .enum name => name.toList
  | .var name => '$' :: name.toList
  | .list items => '[' :: joined comma (itemChars items) ++ [']']
  | .object [] => ['\x7b', '\x7d']
  | .object (e :: rest) =>
      '\x7b' :: ' ' :: joined comma (entryChars (e :: rest)) ++ [' ', '\x7d']

/-- Several literals. -/
def itemChars : List Argument → List (List Char)
  | [] => []
  | v :: rest => v.chars :: itemChars rest

/-- Several named literals. -/
def entryChars : List (String × Argument) → List (List Char)
  | [] => []
  | (k, v) :: rest => (k.toList ++ ':' :: ' ' :: v.chars) :: entryChars rest

end

/-- The text of a literal. -/
def Argument.render (v : Argument) : String := String.ofList v.chars

/-- The arguments of a field between parentheses; nothing when there are none. -/
def argumentChars : List (String × Argument) → List Char
  | [] => []
  | e :: rest => '(' :: joined comma (entryChars (e :: rest)) ++ [')']

/-! ## Selections -/

/-- The blanks at the start of a line. -/
def indent (depth : Nat) : List Char := List.replicate (2 * depth) ' '

/-- The alias of a field with its colon. -/
def aliasChars : Option String → List Char
  | none => []
  | some a => a.toList ++ [':', ' ']

/-- The end of a line that opens a brace. -/
def openBrace : List Char := [' ', '\x7b', '\n']

/-- The end of a line that closes a brace. -/
def closeBrace : List Char := ['\x7d', '\n']

mutual

/-- The lines of a node. -/
def nodeChars (depth : Nat) : Selection → List Char
  | .leaf name label => indent depth ++ aliasChars label ++ name.toList ++ ['\n']
  | .object name label arguments [] =>
      indent depth ++ aliasChars label ++ name.toList ++ argumentChars arguments ++ ['\n']
  | .object name label arguments (c :: cs) =>
      indent depth ++ aliasChars label ++ name.toList ++ argumentChars arguments ++ openBrace ++
        (selectionChars (depth + 1) (c :: cs) ++ (indent depth ++ closeBrace))
  | .on branches => branchChars depth branches

/-- The lines of several nodes. -/
def selectionChars (depth : Nat) : List Selection → List Char
  | [] => []
  | n :: rest => nodeChars depth n ++ selectionChars depth rest

/-- The lines of several branches. -/
def branchChars (depth : Nat) : List (String × List Selection) → List Char
  | [] => []
  | (type, children) :: rest =>
      indent depth ++ "... on ".toList ++ type.toList ++ openBrace ++
        (selectionChars (depth + 1) children ++ (indent depth ++ closeBrace ++
          branchChars depth rest))

end

/-! ## Documents -/

/-- A declared variable. -/
def declarationChars (p : String × String) : List Char :=
  '$' :: p.1.toList ++ ':' :: ' ' :: p.2.toList

/-- The declared variables between parentheses; nothing when there are none. -/
def declarationsChars : List (String × String) → List Char
  | [] => []
  | p :: rest => '(' :: joined comma ((p :: rest).map declarationChars) ++ [')']

/-- The name of an operation with the blank before it. -/
def nameChars : Option String → List Char
  | none => []
  | some name => ' ' :: name.toList

/-- A document as characters. -/
def Document.chars (d : Document) : List Char :=
  d.kind.keyword.toList ++ nameChars d.name ++ declarationsChars d.declared ++ openBrace ++
    selectionChars 1 d.selection ++ ['\x7d']

/-- **The text of a document.** -/
def Document.render (d : Document) : String := String.ofList d.chars

end ContentSync.GraphQL
