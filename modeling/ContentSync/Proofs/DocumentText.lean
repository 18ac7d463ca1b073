import ContentSync.Proofs.DocumentSyntax
import ContentSync.Proofs.FloatText

/-!
# The tokens of a written document

The text of a document whose names are names consists of the tokens that its parts stand for, one
after another: nothing that is written runs together with what follows it.

* `Document.Printable` — the documents whose text is GraphQL, `Selection.Named` what the tokens of
  a selection need of that.
* `Spells` — characters that are certain tokens, before whatever may follow them.
* `spells_argument`, `spells_selection` — literals and selections.
* `tokens_of_named` — a whole document.
-/

namespace ContentSync.GraphQL

open Syntax (Token IsName)

/-! ## Documents whose text is GraphQL -/

mutual

/-- Names are names, enum values are none of the three words with a meaning of their own, and
floating point numbers are finite. -/
def Argument.Printable : Argument → Prop
  | .float x => x.isFinite
  | .enum name => IsName name ∧ name ≠ "true" ∧ name ≠ "false" ∧ name ≠ "null"
  | .var name => IsName name
  | .list items => PrintableItems items
  | .object entries => PrintableEntries entries
  | .null | .bool _ | .int _ | .string _ => True

def PrintableItems : List Argument → Prop
  | [] => True
  | v :: rest => v.Printable ∧ PrintableItems rest

def PrintableEntries : List (String × Argument) → Prop
  | [] => True
  | (key, v) :: rest => IsName key ∧ v.Printable ∧ PrintableEntries rest

end

mutual

/-- Names are names, no two selections of a set have the same key, and whatever is written between
braces has at least one line. -/
def Selection.Printable : Selection → Prop
  | .leaf name label => IsName name ∧ ∀ a ∈ label, IsName a
  | .object name label as children =>
      IsName name ∧ (∀ a ∈ label, IsName a) ∧ PrintableEntries as ∧
        (SelectionSet.keys children).Nodup ∧ PrintableNodes children ∧
          (children ≠ [] → selectionChars 0 children ≠ [])
  | .on branches => PrintableBranches branches

def PrintableNodes : List Selection → Prop
  | [] => True
  | n :: rest => n.Printable ∧ PrintableNodes rest

def PrintableBranches : List (String × List Selection) → Prop
  | [] => True
  | (type, children) :: rest =>
      IsName type ∧ (SelectionSet.keys children).Nodup ∧ PrintableNodes children ∧
        selectionChars 0 children ≠ [] ∧ PrintableBranches rest

end

mutual

/-- **What the tokens of a node need**: names are names, and floating point numbers are finite. -/
def Selection.Named : Selection → Prop
  | .leaf name label => IsName name ∧ ∀ a ∈ label, IsName a
  | .object name label as children =>
      IsName name ∧ (∀ a ∈ label, IsName a) ∧ PrintableEntries as ∧ NamedNodes children
  | .on branches => NamedBranches branches

def NamedNodes : List Selection → Prop
  | [] => True
  | n :: rest => n.Named ∧ NamedNodes rest

def NamedBranches : List (String × List Selection) → Prop
  | [] => True
  | (type, children) :: rest => IsName type ∧ NamedNodes children ∧ NamedBranches rest

end

mutual

lemma Selection.Printable.named : ∀ n : Selection, n.Printable → n.Named
  | .leaf _ _, h => by rwa [Selection.Printable] at h
  | .object name label as children, h => by
      rw [Selection.Printable] at h
      rw [Selection.Named]
      exact ⟨h.1, h.2.1, h.2.2.1, PrintableNodes.named children h.2.2.2.2.1⟩
  | .on branches, h => by
      rw [Selection.Printable] at h
      rw [Selection.Named]
      exact PrintableBranches.named branches h

lemma PrintableNodes.named : ∀ ns : List Selection, PrintableNodes ns → NamedNodes ns
  | [], _ => trivial
  | n :: rest, h => by
      rw [PrintableNodes] at h
      exact ⟨Selection.Printable.named n h.1, PrintableNodes.named rest h.2⟩

lemma PrintableBranches.named :
    ∀ bs : List (String × List Selection), PrintableBranches bs → NamedBranches bs
  | [], _ => trivial
  | (type, children) :: rest, h => by
      rw [PrintableBranches] at h
      exact ⟨h.1, PrintableNodes.named children h.2.2.1, PrintableBranches.named rest h.2.2.2.2⟩

end

/-- The names in a type are names. -/
def Syntax.TypeRef.Printable : Syntax.TypeRef → Prop
  | .named name _ => IsName name
  | .list item _ => item.Printable

/-- **Documents whose text is GraphQL.** -/
structure Document.Printable (d : Document) : Prop where
  name : ∀ name ∈ d.name, IsName name
  declared : ∀ p ∈ d.declared, IsName p.1 ∧
    ∃ type : Syntax.TypeRef, type.Printable ∧ p.2.toList = type.chars
  keys : (SelectionSet.keys d.selection).Nodup
  nodes : PrintableNodes d.selection
  lines : selectionChars 0 d.selection ≠ []

/-! ## Tokens of the parts -/

mutual

/-- The tokens of a literal. -/
def Argument.tokens : Argument → List Token
  | .null => [.name "null"]
  | .bool b => [.name (if b then "true" else "false")]
  | .int n => [.int n]
  | .float x => [.float x]
  | .string s => [.text s]
  | .enum name => [.name name]
  | .var name => [.dollar, .name name]
  | .list items => .openBracket :: (itemTokens items ++ [.closeBracket])
  | .object entries => .openBrace :: (entryTokens entries ++ [.closeBrace])

def itemTokens : List Argument → List Token
  | [] => []
  | v :: rest => v.tokens ++ itemTokens rest

def entryTokens : List (String × Argument) → List Token
  | [] => []
  | (key, v) :: rest => .name key :: .colon :: (v.tokens ++ entryTokens rest)

end

def argumentTokens : List (String × Argument) → List Token
  | [] => []
  | e :: rest => .openParen :: (entryTokens (e :: rest) ++ [.closeParen])

def aliasTokens : Option String → List Token
  | none => []
  | some a => [.name a, .colon]

mutual

/-- The tokens of a node. -/
def nodeTokens : Selection → List Token
  | .leaf name label => aliasTokens label ++ [.name name]
  | .object name label as [] => aliasTokens label ++ .name name :: argumentTokens as
  | .object name label as (c :: cs) =>
      aliasTokens label ++ .name name ::
        (argumentTokens as ++ .openBrace :: (selectionTokens (c :: cs) ++ [.closeBrace]))
  | .on branches => branchTokens branches

def selectionTokens : List Selection → List Token
  | [] => []
  | n :: rest => nodeTokens n ++ selectionTokens rest

def branchTokens : List (String × List Selection) → List Token
  | [] => []
  | (type, children) :: rest =>
      .spread :: .name "on" :: .name type :: .openBrace ::
        (selectionTokens children ++ .closeBrace :: branchTokens rest)

end

/-- The tokens of a type. -/
def Syntax.TypeRef.tokens : Syntax.TypeRef → List Token
  | .named name required => .name name :: (if required then [.bang] else [])
  | .list item required =>
      .openBracket :: (item.tokens ++ .closeBracket :: (if required then [.bang] else []))

/-! ## Characters that spell tokens -/

namespace Syntax

/-- The characters are the tokens, before everything of which `after` holds. -/
def Spells (after : List Char → Prop) (cs : List Char) (ts : List Token) : Prop :=
  ∀ rest, after rest → tokens (cs ++ rest) = (tokens rest).map (ts ++ ·)

/-- What ends a name, a number or a text. -/
abbrev Ends (rest : List Char) : Prop := endsToken rest

/-- Anything at all. -/
abbrev Anything (_ : List Char) : Prop := True

namespace Spells

variable {after after' : List Char → Prop} {cs cs' : List Char} {ts ts' : List Token}

lemma nil : Spells after [] [] := by
  intro rest _
  cases h : tokens rest <;> simp [h]

lemma append (h : Spells after cs ts) (h' : Spells after' cs' ts')
    (hafter : ∀ rest, after' rest → after (cs' ++ rest)) :
    Spells after' (cs ++ cs') (ts ++ ts') := by
  intro rest hrest
  rw [List.append_assoc, h _ (hafter rest hrest), h' rest hrest, Option.map_map]
  congr 1
  funext ts''
  exact (List.append_assoc ts ts' ts'').symm

lemma punctuator {c : Char} {t : Token} (hc : punctuator? c = some t) (h : Spells after cs ts) :
    Spells after (c :: cs) (t :: ts) := by
  intro rest hrest
  rw [List.cons_append, tokens_punctuator hc, h rest hrest, Option.map_map]
  rfl

lemma spread (h : Spells after cs ts) : Spells after ('.' :: '.' :: '.' :: cs) (.spread :: ts) := by
  intro rest hrest
  rw [List.cons_append, List.cons_append, List.cons_append, tokens_spread, h rest hrest,
    Option.map_map]
  rfl

lemma ignored {c : Char} (hc : isIgnored c) (h : Spells after cs ts) :
    Spells after (c :: cs) ts := by
  intro rest hrest
  rw [List.cons_append, tokens_ignored hc, h rest hrest]

lemma indent (depth : Nat) (h : Spells after cs ts) :
    Spells after (GraphQL.indent depth ++ cs) ts := by
  rw [GraphQL.indent]
  induction 2 * depth with
  | zero => exact h
  | succ n ih => exact ignored (c := ' ') rfl ih

lemma name {s : String} (hs : IsName s) : Spells Ends s.toList [.name s] :=
  fun _ hrest => tokens_name hs hrest

end Spells

/-! ## Literals -/

lemma isName_null : IsName "null" := by decide

lemma isName_bool (b : Bool) : IsName (if b then "true" else "false") := by
  cases b <;> decide

mutual

/-- **A literal is spelled**, whatever characters its texts hold. -/
theorem spells_argument : ∀ v : Argument, v.Printable → Spells Ends v.chars v.tokens
  | .null, _ => by
      rw [Argument.chars, Argument.tokens]
      exact .name isName_null
  | .bool b, _ => by
      rw [Argument.chars, Argument.tokens]
      exact .name (isName_bool b)
  | .int n, _ => by
      rw [Argument.chars, Argument.tokens]
      exact fun _ hrest => tokens_int n hrest
  | .float x, h => by
      rw [Argument.Printable] at h
      rw [Argument.tokens]
      exact fun _ hrest => tokens_float h hrest
  | .string s, _ => by
      rw [Argument.chars, Argument.tokens]
      exact fun _ hrest => tokens_text s hrest
  | .enum name, h => by
      rw [Argument.Printable] at h
      rw [Argument.chars, Argument.tokens]
      exact .name h.1
  | .var name, h => by
      rw [Argument.Printable] at h
      rw [Argument.chars, Argument.tokens]
      exact .punctuator rfl (.name h)
  | .list items, h => by
      rw [Argument.Printable] at h
      rw [Argument.chars, Argument.tokens]
      exact .punctuator rfl ((spells_items items h).append (.punctuator rfl .nil) fun _ _ => rfl)
  | .object [], _ => by
      rw [Argument.chars, Argument.tokens]
      exact .punctuator rfl (.punctuator rfl .nil)
  | .object (e :: rest), h => by
      rw [Argument.Printable] at h
      rw [Argument.chars, Argument.tokens]
      refine .punctuator rfl (.ignored rfl ?_)
      exact (spells_entries (e :: rest) h).append (.ignored rfl (.punctuator rfl .nil))
        fun _ _ => rfl

theorem spells_items : ∀ items : List Argument, PrintableItems items →
    Spells Ends (joined comma (itemChars items)) (itemTokens items)
  | [], _ => .nil
  | [v], h => by
      rw [PrintableItems] at h
      rw [itemTokens, itemTokens, List.append_nil]
      exact spells_argument v h.1
  | v :: w :: rest, h => by
      rw [PrintableItems] at h
      have hrest := spells_items (w :: rest) h.2
      rw [itemTokens, itemChars, itemChars, joined, List.append_assoc, ← itemChars]
      · exact (spells_argument v h.1).append (.ignored rfl (.ignored rfl hrest)) fun _ _ => rfl
      · exact List.cons_ne_nil _ _

theorem spells_entries : ∀ entries : List (String × Argument), PrintableEntries entries →
    Spells Ends (joined comma (entryChars entries)) (entryTokens entries)
  | [], _ => .nil
  | [(key, v)], h => by
      rw [PrintableEntries] at h
      rw [entryTokens, entryTokens, List.append_nil]
      exact (Spells.name h.1).append (.punctuator rfl (.ignored rfl (spells_argument v h.2.1)))
        fun _ _ => rfl
  | (key, v) :: (key', w) :: rest, h => by
      rw [PrintableEntries] at h
      have hrest := spells_entries ((key', w) :: rest) h.2.2
      have hnext := Spells.ignored (c := ',') rfl (Spells.ignored (c := ' ') rfl hrest)
      have hvalue := (spells_argument v h.2.1).append hnext fun _ _ => rfl
      rw [entryTokens, entryChars, entryChars, joined, List.append_assoc, ← entryChars,
        List.append_assoc]
      · exact (Spells.name h.1).append (.punctuator rfl (.ignored rfl hvalue)) fun _ _ => rfl
      · exact List.cons_ne_nil _ _

end

/-! ## Selections -/

section Selections

variable {after : List Char → Prop} {cs : List Char} {ts : List Token}

lemma spells_alias {label : Option String} (hlabel : ∀ a ∈ label, IsName a)
    (h : Spells after cs ts) :
    Spells after (aliasChars label ++ cs) (aliasTokens label ++ ts) := by
  cases label with
  | none => exact h
  | some a =>
      rw [aliasChars, List.append_assoc]
      exact (Spells.name (hlabel a rfl)).append (.punctuator rfl (.ignored rfl h)) fun _ _ => rfl

lemma spells_field {name : String} (hname : IsName name) {as : List (String × Argument)}
    (has : PrintableEntries as) :
    Spells Ends (name.toList ++ argumentChars as) (.name name :: argumentTokens as) := by
  cases as with
  | nil =>
      rw [argumentChars, List.append_nil]
      exact .name hname
  | cons e rest =>
      refine (Spells.name hname).append (.punctuator rfl ?_) fun _ _ => rfl
      exact (spells_entries (e :: rest) has).append (.punctuator rfl .nil) fun _ _ => rfl

lemma spells_braces (depth : Nat) {children : List Selection}
    (hchildren : Spells Anything (selectionChars (depth + 1) children) (selectionTokens children))
    (h : Spells Anything cs ts) :
    Spells Anything
      (openBrace ++ (selectionChars (depth + 1) children ++ (indent depth ++ (closeBrace ++ cs))))
      (.openBrace :: (selectionTokens children ++ .closeBrace :: ts)) := by
  refine .ignored rfl (.punctuator rfl (.ignored rfl ?_))
  exact hchildren.append (.indent depth (.punctuator rfl (.ignored rfl h))) fun _ _ => trivial

lemma isName_on : IsName "on" := by decide

/-- What stands before the braces of a branch. -/
lemma spells_condition {type : String} (htype : IsName type) :
    Spells Ends ("... on ".toList ++ type.toList) [.spread, .name "on", .name type] := by
  have hon : Spells Ends ('o' :: 'n' :: ' ' :: type.toList) [.name "on", .name type] :=
    (Spells.name isName_on).append (.ignored rfl (Spells.name htype)) fun _ _ => rfl
  exact .spread (.ignored rfl hon)

mutual

/-- **The lines of a node are spelled**, whatever follows them. -/
theorem spells_node (depth : Nat) : ∀ n : Selection, n.Named →
    Spells Anything (nodeChars depth n) (nodeTokens n)
  | .leaf name label, h => by
      rw [Selection.Named] at h
      rw [nodeChars, nodeTokens, List.append_assoc, List.append_assoc]
      refine .indent depth (spells_alias h.2 ?_)
      exact (Spells.name h.1).append (.ignored rfl .nil) fun _ _ => rfl
  | .object name label as [], h => by
      rw [Selection.Named] at h
      rw [nodeChars, nodeTokens, List.append_assoc, List.append_assoc, List.append_assoc]
      refine .indent depth (spells_alias h.2.1 ?_)
      rw [← List.append_assoc, ← List.append_nil (.name name :: argumentTokens as)]
      exact (spells_field h.1 h.2.2.1).append (.ignored rfl .nil) fun _ _ => rfl
  | .object name label as (c :: cs), h => by
      rw [Selection.Named] at h
      have hchildren := spells_selection (depth + 1) (c :: cs) h.2.2.2
      rw [nodeChars, nodeTokens]
      simp only [List.append_assoc]
      refine .indent depth (spells_alias h.2.1 ?_)
      rw [← List.append_assoc, ← List.append_nil closeBrace]
      exact (spells_field h.1 h.2.2.1).append (spells_braces depth hchildren .nil) fun _ _ => rfl
  | .on branches, h => by
      rw [Selection.Named] at h
      rw [nodeChars, nodeTokens]
      exact spells_branches depth branches h

theorem spells_selection (depth : Nat) : ∀ s : List Selection, NamedNodes s →
    Spells Anything (selectionChars depth s) (selectionTokens s)
  | [], _ => .nil
  | n :: rest, h => by
      rw [NamedNodes] at h
      rw [selectionChars, selectionTokens]
      exact (spells_node depth n h.1).append (spells_selection depth rest h.2) fun _ _ => trivial

theorem spells_branches (depth : Nat) : ∀ branches : List (String × List Selection),
    NamedBranches branches →
    Spells Anything (branchChars depth branches) (branchTokens branches)
  | [], _ => .nil
  | (type, children) :: rest, h => by
      rw [NamedBranches] at h
      have hchildren := spells_selection (depth + 1) children h.2.1
      have hrest := spells_branches depth rest h.2.2
      rw [branchChars, branchTokens]
      simp only [List.append_assoc]
      refine .indent depth ?_
      rw [← List.append_assoc]
      exact (spells_condition h.1).append (spells_braces depth hchildren hrest) fun _ _ => rfl

end

end Selections

/-! ## Documents -/

lemma spells_typeRef : ∀ type : TypeRef, type.Printable → Spells Ends type.chars type.tokens
  | .named name required, h => by
      rw [TypeRef.Printable] at h
      rw [TypeRef.chars, TypeRef.tokens]
      cases required with
      | false => exact (Spells.name h).append .nil fun _ hrest => hrest
      | true => exact (Spells.name h).append (.punctuator rfl .nil) fun _ _ => rfl
  | .list item required, h => by
      rw [TypeRef.Printable] at h
      rw [TypeRef.chars, TypeRef.tokens]
      have hend : Spells Ends (']' :: (if required then ['!'] else []))
          (.closeBracket :: (if required then [.bang] else [])) := by
        cases required with
        | false => exact .punctuator rfl .nil
        | true => exact .punctuator rfl (.punctuator rfl .nil)
      exact .punctuator rfl ((spells_typeRef item h).append hend fun _ _ => rfl)

/-- Declared variables with their types. -/
abbrev Declared := List (String × TypeRef)

/-- Declared variables as the text has them. -/
def Declared.entries (ps : Declared) : Entries String :=
  ps.map fun p => (p.1, String.ofList p.2.chars)

def Declared.tokens : Declared → List Token
  | [] => []
  | (name, type) :: rest => .dollar :: .name name :: .colon :: (type.tokens ++ tokens rest)

def Declared.listTokens : Declared → List Token
  | [] => []
  | p :: rest => .openParen :: (Declared.tokens (p :: rest) ++ [.closeParen])

/-- The names of variables and types are names. -/
def Declared.Printable (ps : Declared) : Prop := ∀ p ∈ ps, IsName p.1 ∧ p.2.Printable

lemma exists_declared : ∀ {declared : Entries String},
    (∀ p ∈ declared, IsName p.1 ∧ ∃ type : TypeRef, type.Printable ∧ p.2.toList = type.chars) →
    ∃ ps : Declared, ps.Printable ∧ declared = ps.entries
  | [], _ => ⟨[], fun _ h => absurd h List.not_mem_nil, rfl⟩
  | (name, text) :: rest, h => by
      obtain ⟨hname, type, htype, htext⟩ := h (name, text) List.mem_cons_self
      obtain ⟨ps, hps, hentries⟩ := exists_declared fun p hp => h p (List.mem_cons_of_mem _ hp)
      refine ⟨(name, type) :: ps, ?_, ?_⟩
      · intro p hp
        rcases List.mem_cons.mp hp with rfl | hp
        · exact ⟨hname, htype⟩
        · exact hps p hp
      · rw [Declared.entries, List.map_cons, ← htext, String.ofList_toList, hentries]
        rfl

lemma spells_declarations : ∀ {ps : Declared}, ps.Printable →
    Spells Ends (joined comma (ps.entries.map declarationChars)) ps.tokens
  | [], _ => .nil
  | [(name, type)], h => by
      obtain ⟨hname, htype⟩ := h (name, type) List.mem_cons_self
      have hchars : joined comma ((Declared.entries [(name, type)]).map declarationChars) =
          '$' :: (name.toList ++ ':' :: ' ' :: type.chars) := by
        simp [Declared.entries, joined, declarationChars]
      rw [hchars, Declared.tokens, Declared.tokens, List.append_nil]
      refine .punctuator rfl ((Spells.name hname).append (.punctuator rfl (.ignored rfl ?_)) ?_)
      · exact spells_typeRef type htype
      · exact fun _ _ => rfl
  | (name, type) :: p :: rest, h => by
      obtain ⟨hname, htype⟩ := h (name, type) List.mem_cons_self
      have hrest : Declared.Printable (p :: rest) := fun q hq => h q (List.mem_cons_of_mem _ hq)
      have ih := spells_declarations hrest
      have hchars : joined comma ((Declared.entries ((name, type) :: p :: rest)).map
          declarationChars) = '$' :: (name.toList ++ ':' :: ' ' :: (type.chars ++ ',' :: ' ' ::
            joined comma ((Declared.entries (p :: rest)).map declarationChars))) := by
        simp [Declared.entries, joined, declarationChars, comma]
      have hnext : Spells Ends (',' :: ' ' :: joined comma
          ((Declared.entries (p :: rest)).map declarationChars)) (Declared.tokens (p :: rest)) :=
        .ignored rfl (.ignored rfl ih)
      rw [hchars, Declared.tokens]
      refine .punctuator rfl ((Spells.name hname).append (.punctuator rfl (.ignored rfl ?_)) ?_)
      · exact (spells_typeRef type htype).append hnext fun _ _ => rfl
      · exact fun _ _ => rfl

end Syntax

open Syntax in
/-- The tokens of a document whose variables have the given types. -/
def Document.tokens (d : Document) (ps : Declared) : List Token :=
  .name d.kind.keyword :: ((d.name.map Token.name).toList ++ (ps.listTokens ++
    .openBrace :: (selectionTokens d.selection ++ [.closeBrace])))

namespace Syntax

lemma isName_keyword (kind : OperationKind) : IsName kind.keyword := by
  cases kind <;> decide

/-- What begins with a blank, a parenthesis or a brace ends a name. -/
lemma endsToken_declarationsChars (entries : Entries String) (cs : List Char) :
    endsToken (declarationsChars entries ++ (openBrace ++ cs)) := by
  cases entries with
  | nil => rfl
  | cons p rest => rfl

lemma spells_declarationsChars {ps : Declared} (hps : ps.Printable) {cs : List Char}
    {ts : List Token} (h : Spells Anything (openBrace ++ cs) ts) :
    Spells Anything (declarationsChars ps.entries ++ (openBrace ++ cs)) (ps.listTokens ++ ts) := by
  cases ps with
  | nil => exact h
  | cons p rest =>
      have hends := (spells_declarations hps).append (.punctuator (c := ')') rfl h) fun _ _ => rfl
      have hchars : declarationsChars (Declared.entries (p :: rest)) =
          '(' :: (joined comma ((Declared.entries (p :: rest)).map declarationChars) ++ [')']) :=
        rfl
      rw [Declared.listTokens, List.cons_append, List.append_assoc, hchars, List.cons_append,
        List.append_assoc]
      exact .punctuator rfl hends

lemma spells_nameChars {name : Option String} (hname : ∀ n ∈ name, IsName n) {cs : List Char}
    {ts : List Token} (h : Spells Anything cs ts) (hcs : ∀ rest, endsToken (cs ++ rest)) :
    Spells Anything (nameChars name ++ cs) ((name.map Token.name).toList ++ ts) := by
  cases name with
  | none => exact h
  | some n => exact .ignored rfl ((Spells.name (hname n rfl)).append h fun rest _ => hcs rest)

/-- **The text of a document consists of the tokens of its parts**, also where braces enclose
nothing. -/
theorem tokens_of_named {d : Document} (hname : ∀ name ∈ d.name, IsName name) {ps : Declared}
    (hps : ps.Printable) (hdeclared : d.declared = ps.entries) (hnodes : NamedNodes d.selection) :
    tokens d.chars = some (d.tokens ps) := by
  have hbody : Spells Anything (openBrace ++ (selectionChars 1 d.selection ++ ['\x7d']))
      (.openBrace :: (selectionTokens d.selection ++ [.closeBrace])) := by
    refine .ignored rfl (.punctuator rfl (.ignored rfl ?_))
    exact (spells_selection 1 d.selection hnodes).append (.punctuator rfl .nil) fun _ _ => trivial
  have hends : ∀ rest, endsToken (declarationsChars ps.entries ++
      (openBrace ++ (selectionChars 1 d.selection ++ ['\x7d'])) ++ rest) := by
    intro rest
    rw [List.append_assoc, List.append_assoc]
    exact endsToken_declarationsChars _ _
  have hbegin := spells_nameChars hname (spells_declarationsChars hps hbody) hends
  have hkeyword := (Spells.name (isName_keyword d.kind)).append hbegin fun rest _ => by
    cases d.name with
    | none => exact hends rest
    | some name => rfl
  have htext := hkeyword [] trivial
  rw [List.append_nil, tokens_nil, Option.map_some, List.append_nil] at htext
  rw [Document.chars, Document.tokens, hdeclared]
  simp only [List.append_assoc] at htext ⊢
  exact htext

/-- The tokens of a document whose text is GraphQL. -/
lemma tokens_chars {d : Document} (h : d.Printable) {ps : Declared} (hps : ps.Printable)
    (hdeclared : d.declared = ps.entries) : tokens d.chars = some (d.tokens ps) :=
  tokens_of_named h.name hps hdeclared (PrintableNodes.named d.selection h.nodes)

end Syntax

end ContentSync.GraphQL
