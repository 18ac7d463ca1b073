import ContentSync.Proofs.DocumentText

/-!
# Reading back a written document

The tokens of a document are read as the nodes that stand for it, and those as the document itself,
but for what leaves no trace in the text: an object without arguments and children is written as a
leaf is, and a group without branches is not written at all.

* `value_tokens`, `typeRef_tokens`, `readsAs_selection` — every reader gives back what the tokens
  stand for and leaves what follows; `document_tokens` — so does that of a document.
* `Document.normal` — a document as it is read back.
* `readDocument_render` — the text of a document determines it.
-/

namespace ContentSync.GraphQL

open Syntax

/-! ## Literals -/

lemma nameValue_enum {name : String} (h : name ≠ "true" ∧ name ≠ "false" ∧ name ≠ "null") :
    nameValue name = .enum name := by
  rw [nameValue, if_neg h.1, if_neg h.2.1, if_neg h.2.2]

/-- A literal has at least one token, and that does not end a list. -/
lemma tokens_cons_of_argument : ∀ v : Argument, ∃ t ts, v.tokens = t :: ts ∧ t ≠ .closeBracket
  | .null => ⟨_, _, by rw [Argument.tokens], by simp⟩
  | .bool _ => ⟨_, _, by rw [Argument.tokens], by simp⟩
  | .int _ => ⟨_, _, by rw [Argument.tokens], by simp⟩
  | .float _ => ⟨_, _, by rw [Argument.tokens], by simp⟩
  | .string _ => ⟨_, _, by rw [Argument.tokens], by simp⟩
  | .enum _ => ⟨_, _, by rw [Argument.tokens], by simp⟩
  | .var _ => ⟨_, _, by rw [Argument.tokens], by simp⟩
  | .list _ => ⟨_, _, by rw [Argument.tokens], by simp⟩
  | .object _ => ⟨_, _, by rw [Argument.tokens], by simp⟩

mutual

/-- **A literal is read back**, and what follows it is left. -/
theorem value_tokens : ∀ (v : Argument), v.Printable → ∀ {fuel : Nat} (rest : List Token),
    v.tokens.length ≤ fuel → value false fuel (v.tokens ++ rest) = some (v, rest)
  | v, _, 0, _, h => by
      obtain ⟨t, ts, htokens, -⟩ := tokens_cons_of_argument v
      rw [htokens] at h
      exact absurd h (Nat.not_succ_le_zero _)
  | .null, _, fuel + 1, rest, _ => by
      rw [Argument.tokens, List.cons_append, List.nil_append, value]
      rfl
  | .bool b, _, fuel + 1, rest, _ => by
      rw [Argument.tokens, List.cons_append, List.nil_append, value]
      cases b <;> rfl
  | .int n, _, fuel + 1, rest, _ => by
      rw [Argument.tokens, List.cons_append, List.nil_append, value]
  | .float x, _, fuel + 1, rest, _ => by
      rw [Argument.tokens, List.cons_append, List.nil_append, value]
  | .string s, _, fuel + 1, rest, _ => by
      rw [Argument.tokens, List.cons_append, List.nil_append, value]
  | .enum name, hv, fuel + 1, rest, _ => by
      rw [Argument.Printable] at hv
      rw [Argument.tokens, List.cons_append, List.nil_append, value, nameValue_enum hv.2]
  | .var name, _, fuel + 1, rest, _ => by
      rw [Argument.tokens, List.cons_append, List.cons_append, List.nil_append, value,
        if_neg Bool.false_ne_true]
  | .list vs, hv, fuel + 1, rest, h => by
      rw [Argument.Printable] at hv
      rw [Argument.tokens, List.length_cons, List.length_append, List.length_singleton] at h
      rw [Argument.tokens, List.cons_append, List.append_assoc, value,
        items_tokens vs hv rest (by omega)]
      rfl
  | .object es, hv, fuel + 1, rest, h => by
      rw [Argument.Printable] at hv
      rw [Argument.tokens, List.length_cons, List.length_append, List.length_singleton] at h
      rw [Argument.tokens, List.cons_append, List.append_assoc, value,
        entries_tokens es hv (by simp) rest (by omega)]
      rfl

theorem items_tokens : ∀ (vs : List Argument), PrintableItems vs → ∀ {fuel : Nat}
    (rest : List Token), (itemTokens vs).length < fuel →
    items false fuel (itemTokens vs ++ ([.closeBracket] ++ rest)) = some (vs, rest)
  | vs, _, 0, _, h => absurd h (Nat.not_lt_zero _)
  | [], _, fuel + 1, rest, _ => by rw [itemTokens, List.nil_append, List.singleton_append, items]
  | v :: vs, hvs, fuel + 1, rest, h => by
      obtain ⟨t, ts, htokens, hopen⟩ := tokens_cons_of_argument v
      rw [PrintableItems] at hvs
      rw [itemTokens, List.length_append, htokens, List.length_cons] at h
      have hlength : v.tokens.length ≤ fuel := by
        rw [htokens, List.length_cons]
        omega
      have hvalue := value_tokens v hvs.1 (itemTokens vs ++ ([.closeBracket] ++ rest)) hlength
      rw [itemTokens, List.append_assoc, items, hvalue]
      · dsimp only
        rw [items_tokens vs hvs.2 rest (by omega)]
        rfl
      · rw [htokens]
        rintro rest' heq
        exact hopen (List.cons.inj heq).1

theorem entries_tokens : ∀ (es : List (String × Argument)), PrintableEntries es →
    ∀ {close : Token}, (∀ name, close ≠ .name name) → ∀ {fuel : Nat} (rest : List Token),
    (entryTokens es).length < fuel →
    entries false close fuel (entryTokens es ++ ([close] ++ rest)) = some (es, rest)
  | es, _, _, _, 0, _, h => absurd h (Nat.not_lt_zero _)
  | [], _, close, hclose, fuel + 1, rest, _ => by
      rw [entryTokens, List.nil_append, List.singleton_append, entries, if_pos rfl]
      intro key ts hname
      exact absurd hname (hclose key)
  | (key, v) :: es, hes, close, hclose, fuel + 1, rest, h => by
      rw [PrintableEntries] at hes
      rw [entryTokens, List.length_cons, List.length_cons, List.length_append] at h
      have hlength : v.tokens.length ≤ fuel := by omega
      have hvalue := value_tokens v hes.2.1 (entryTokens es ++ ([close] ++ rest)) hlength
      rw [entryTokens, List.cons_append, List.cons_append, List.append_assoc, entries, hvalue]
      dsimp only
      rw [entries_tokens es hes.2.2 hclose rest (by omega)]
      rfl

end

/-- Arguments are read back where nothing but arguments could begin with a parenthesis. -/
lemma arguments_tokens {as : List (String × Argument)} (has : PrintableEntries as) {fuel : Nat}
    {rest : List Token} (hrest : ∀ ts, rest ≠ .openParen :: ts)
    (h : (argumentTokens as).length ≤ fuel) :
    arguments false fuel (argumentTokens as ++ rest) = some (as, rest) := by
  cases as with
  | nil =>
      rw [argumentTokens, List.nil_append, arguments]
      exact hrest
  | cons e es =>
      rw [argumentTokens, List.length_cons, List.length_append, List.length_singleton] at h
      rw [argumentTokens, List.cons_append, List.append_assoc, arguments,
        entries_tokens (e :: es) has (by simp) rest (by omega)]

/-! ## Types and variables -/

lemma required_tokens (needed : Bool) {rest : List Token} (hrest : ∀ ts, rest ≠ .bang :: ts) :
    required ((if needed then [.bang] else []) ++ rest) = (needed, rest) := by
  cases needed with
  | true => rfl
  | false =>
      rw [if_neg Bool.false_ne_true, List.nil_append, required]
      exact hrest

/-- A type is read back. -/
theorem typeRef_tokens : ∀ (type : TypeRef) {fuel : Nat} {rest : List Token},
    (∀ ts, rest ≠ .bang :: ts) → type.tokens.length ≤ fuel →
    typeRef fuel (type.tokens ++ rest) = some (type, rest)
  | .named name needed, 0, rest, _, h => absurd h (Nat.not_succ_le_zero _)
  | .list item needed, 0, rest, _, h => absurd h (Nat.not_succ_le_zero _)
  | .named name needed, fuel + 1, rest, hrest, _ => by
      rw [TypeRef.tokens, List.cons_append, typeRef, required_tokens needed hrest]
  | .list item needed, fuel + 1, rest, hrest, h => by
      rw [TypeRef.tokens, List.length_cons, List.length_append] at h
      rw [TypeRef.tokens, List.cons_append, List.append_assoc, typeRef, List.cons_append,
        typeRef_tokens item (by simp) (by omega)]
      dsimp only
      rw [required_tokens needed hrest]

lemma defaultValue_none {fuel : Nat} {ts : List Token} (h : ∀ rest, ts ≠ .equals :: rest) :
    defaultValue fuel ts = some (none, ts) := by
  rw [defaultValue]
  exact h

lemma directives_none {constant : Bool} {fuel : Nat} {ts : List Token}
    (h : ∀ rest, ts ≠ .at :: rest) : directives constant fuel ts = some ([], ts) := by
  rw [directives]
  · exact h
  · exact fun _ name rest _ => h (.name name :: rest)

/-- Declared variables as they are read. -/
def Syntax.Declared.asRead (ps : Declared) : List Variable :=
  ps.map fun p => ⟨p.1, p.2, none, []⟩

lemma variableList_tokens : ∀ (ps : Declared) {fuel : Nat} (rest : List Token),
    (Declared.tokens ps).length < fuel →
    variableList fuel (Declared.tokens ps ++ ([.closeParen] ++ rest)) =
      some (Declared.asRead ps, rest)
  | ps, 0, _, h => absurd h (Nat.not_lt_zero _)
  | [], fuel + 1, rest, _ => rfl
  | (name, type) :: ps, fuel + 1, rest, h => by
      rw [Declared.tokens, List.length_cons, List.length_cons, List.length_cons,
        List.length_append] at h
      -- A type is followed by the next variable or by the closing parenthesis.
      have hnext : ∀ t ∈ [Token.bang, .equals, .at], ∀ ts,
          Declared.tokens ps ++ ([.closeParen] ++ rest) ≠ t :: ts := by
        cases ps <;> simp [Declared.tokens]
      rw [Declared.tokens, List.cons_append, List.cons_append, List.cons_append, List.append_assoc,
        variableList, typeRef_tokens type (hnext .bang (by simp)) (by omega)]
      dsimp only
      rw [defaultValue_none (hnext .equals (by simp))]
      dsimp only
      rw [directives_none (hnext .at (by simp))]
      dsimp only
      rw [variableList_tokens ps rest (by omega)]
      rfl

lemma declarations_tokens (ps : Declared) {fuel : Nat} {rest : List Token}
    (hrest : ∀ ts, rest ≠ .openParen :: ts) (h : (Declared.listTokens ps).length ≤ fuel) :
    declarations fuel (Declared.listTokens ps ++ rest) = some (Declared.asRead ps, rest) := by
  cases ps with
  | nil =>
      rw [Declared.listTokens, List.nil_append, declarations]
      · rfl
      · exact hrest
  | cons p ps =>
      rw [Declared.listTokens, List.length_cons, List.length_append, List.length_singleton] at h
      rw [Declared.listTokens, List.cons_append, List.append_assoc, declarations,
        variableList_tokens (p :: ps) rest (by omega)]
      rfl

/-! ## Selections -/

mutual

/-- The nodes as which a node is read. -/
def treesOf : Selection → List Node
  | .leaf name label => [.field label name [] [] []]
  | .object name label as children => [.field label name as [] (selectionTrees children)]
  | .on branches => branchTrees branches

def selectionTrees : List Selection → List Node
  | [] => []
  | n :: rest => treesOf n ++ selectionTrees rest

def branchTrees : List (String × List Selection) → List Node
  | [] => []
  | (type, children) :: rest => .inline (some type) [] (selectionTrees children) :: branchTrees rest

end

/-- What may follow a selection: another one, or the closing brace. -/
def FollowsNode : List Token → Prop
  | .name _ :: _ => True
  | .spread :: _ => True
  | .closeBrace :: _ => True
  | _ => False

/-- The tokens are these nodes, before whatever selections may follow them. -/
structure ReadsAs (ts : List Token) (ns : List Node) : Prop where
  follows : ∀ tail, FollowsNode tail → FollowsNode (ts ++ tail)
  reads : ∀ {fuel : Nat} {tail : List Token} {ms : List Node} {rest : List Token},
    FollowsNode tail → (ts ++ tail).length < fuel →
    (∀ fuel', tail.length < fuel' → selections fuel' tail = some (ms, rest)) →
    selections fuel (ts ++ tail) = some (ns ++ ms, rest)

namespace ReadsAs

variable {ts ts' : List Token} {ns ns' : List Node}

lemma nil : ReadsAs [] [] where
  follows _ h := h
  reads _ hfuel h := h _ hfuel

lemma append (h : ReadsAs ts ns) (h' : ReadsAs ts' ns') : ReadsAs (ts ++ ts') (ns ++ ns') where
  follows tail htail := by
    rw [List.append_assoc]
    exact h.follows _ (h'.follows tail htail)
  reads := by
    intro fuel tail ms rest htail hfuel hread
    rw [List.append_assoc] at hfuel ⊢
    rw [List.append_assoc]
    exact h.reads (h'.follows tail htail) hfuel fun fuel' hfuel' => h'.reads htail hfuel' hread

lemma single {t : Token} {n : Node} (ht : ∀ tail, FollowsNode (t :: tail))
    (hclose : t ≠ .closeBrace)
    (h : ∀ {fuel : Nat} {tail : List Token}, FollowsNode tail → (ts ++ tail).length < fuel →
      node fuel (t :: (ts ++ tail)) = some (n, tail)) : ReadsAs (t :: ts) [n] where
  follows _ _ := ht _
  reads := by
    intro fuel tail ms rest htail hfuel hread
    rw [List.cons_append, List.length_cons] at hfuel
    cases fuel with
    | zero => exact absurd hfuel (Nat.not_lt_zero _)
    | succ fuel =>
        have hlength : tail.length < fuel := by
          rw [List.length_append] at hfuel
          omega
        rw [List.cons_append, selections, h htail (Nat.lt_of_succ_lt_succ hfuel)]
        · dsimp only
          rw [hread fuel hlength]
          rfl
        · rintro rest' heq
          exact hclose (List.cons.inj heq).1

end ReadsAs

lemma FollowsNode.ne {ts : List Token} (h : FollowsNode ts) {t : Token}
    (ht : t ∈ [Token.colon, .openParen, .at, .openBrace]) (rest : List Token) : ts ≠ t :: rest := by
  rintro rfl
  simp only [List.mem_cons, List.not_mem_nil, or_false] at ht
  rcases ht with rfl | rfl | rfl | rfl <;> exact h

/-- A field with what follows its name. -/
lemma reads_field {label : Option String} {name : String} {body : List Token} {n : Node}
    (hcolon : ∀ {tail}, FollowsNode tail → ∀ rest, body ++ tail ≠ .colon :: rest)
    (h : ∀ {fuel : Nat} {tail : List Token}, FollowsNode tail → (body ++ tail).length ≤ fuel →
      fieldRest (selections fuel) fuel label name (body ++ tail) = some (n, tail)) :
    ReadsAs (aliasTokens label ++ .name name :: body) [n] := by
  cases label with
  | none =>
      refine .single (fun _ => trivial) (by simp) ?_
      intro fuel tail htail hfuel
      cases fuel with
      | zero => exact absurd hfuel (Nat.not_lt_zero _)
      | succ fuel =>
          rw [node]
          · exact h htail (Nat.le_of_lt_succ hfuel)
          · exact fun other rest => hcolon htail (.name other :: rest)
  | some a =>
      show ReadsAs (.name a :: (.colon :: .name name :: body)) [n]
      refine .single (fun _ => trivial) (by simp) ?_
      intro fuel tail htail hfuel
      rw [List.cons_append, List.cons_append, List.length_cons, List.length_cons] at hfuel
      cases fuel with
      | zero => exact absurd hfuel (Nat.not_lt_zero _)
      | succ fuel =>
          rw [List.cons_append, List.cons_append, node]
          exact h htail (by omega)

/-- Selections between braces are read back where there are any. -/
lemma braces_tokens {ts : List Token} {ns : List Node} (h : ReadsAs ts ns) (hne : ns ≠ [])
    {fuel : Nat} {tail : List Token} (hfuel : (ts ++ .closeBrace :: tail).length < fuel) :
    braces (selections fuel) (.openBrace :: (ts ++ .closeBrace :: tail)) = some (ns, tail) := by
  have hclose : ∀ fuel', (Token.closeBrace :: tail).length < fuel' →
      selections fuel' (.closeBrace :: tail) = some ([], tail) := by
    intro fuel' hfuel'
    cases fuel' with
    | zero => exact absurd hfuel' (Nat.not_lt_zero _)
    | succ fuel' => rw [selections]
  obtain ⟨n, ns, rfl⟩ := List.exists_cons_of_ne_nil hne
  have hfollows : FollowsNode (.closeBrace :: tail) := trivial
  rw [braces, h.reads hfollows hfuel hclose, List.append_nil]

lemma selectionTrees_ne_nil {depth : Nat} : ∀ {s : List Selection}, selectionChars depth s ≠ [] →
    selectionTrees s ≠ []
  | [], h => absurd rfl h
  | .leaf _ _ :: rest, _ => by simp [selectionTrees, treesOf]
  | .object _ _ _ _ :: rest, _ => by simp [selectionTrees, treesOf]
  | .on (_ :: _) :: rest, _ => by simp [selectionTrees, treesOf, branchTrees]
  | .on [] :: rest, h => by
      rw [selectionChars, nodeChars, branchChars, List.nil_append] at h
      rw [selectionTrees, treesOf, branchTrees, List.nil_append]
      exact selectionTrees_ne_nil h

/-- A field that nothing between braces follows. -/
lemma fieldRest_bare {inside : Reader (List Node)} {fuel : Nat} {label : Option String}
    {name : String} {as : List (String × Argument)} {ts rest : List Token}
    (has : arguments false fuel ts = some (as, rest)) (hrest : FollowsNode rest) :
    fieldRest inside fuel label name ts = some (.field label name as [] [], rest) := by
  rw [fieldRest, has]
  dsimp only
  rw [directives_none (hrest.ne (by simp))]
  split
  · next heq => cases heq
  · next heq =>
      cases heq
      exact hrest.elim
  · next heq =>
      cases heq
      rfl

lemma argumentTokens_append_ne {as : List (String × Argument)} {rest : List Token}
    (hrest : ∀ ts, rest ≠ .colon :: ts) : ∀ ts, argumentTokens as ++ rest ≠ .colon :: ts := by
  cases as with
  | nil => exact hrest
  | cons e es => simp [argumentTokens]

mutual

/-- **A node is read back**, whatever selections follow it. -/
theorem readsAs_node : ∀ n : Selection, n.Printable → ReadsAs (nodeTokens n) (treesOf n)
  | .leaf name label, _ => by
      rw [nodeTokens, treesOf]
      refine reads_field (fun htail => htail.ne (by simp)) ?_
      intro fuel tail htail _
      refine fieldRest_bare ?_ htail
      rw [List.nil_append, arguments]
      exact htail.ne (by simp)
  | .object name label as [], h => by
      rw [Selection.Printable] at h
      rw [nodeTokens, treesOf, selectionTrees]
      refine reads_field (fun htail => argumentTokens_append_ne (htail.ne (by simp))) ?_
      intro fuel tail htail hfuel
      rw [List.length_append] at hfuel
      exact fieldRest_bare (arguments_tokens h.2.2.1 (htail.ne (by simp)) (by omega)) htail
  | .object name label as (c :: cs), h => by
      rw [Selection.Printable] at h
      have hchildren := readsAs_selection (c :: cs) h.2.2.2.2.1
      have hne := selectionTrees_ne_nil (h.2.2.2.2.2 (List.cons_ne_nil _ _))
      rw [nodeTokens, treesOf]
      refine reads_field (fun htail => ?_) ?_
      · rw [List.append_assoc]
        exact argumentTokens_append_ne (by simp)
      · intro fuel tail htail hfuel
        simp only [List.append_assoc, List.cons_append, List.nil_append, List.length_append,
          List.length_cons] at hfuel ⊢
        rw [fieldRest, arguments_tokens h.2.2.1 (by simp) (by omega)]
        dsimp only
        rw [directives_none (by simp)]
        dsimp only
        rw [braces_tokens hchildren hne (by simp; omega)]
        rfl
  | .on branches, h => by
      rw [Selection.Printable] at h
      rw [nodeTokens, treesOf]
      exact readsAs_branches branches h

theorem readsAs_selection : ∀ s : List Selection, PrintableNodes s →
    ReadsAs (selectionTokens s) (selectionTrees s)
  | [], _ => .nil
  | n :: rest, h => by
      rw [PrintableNodes] at h
      rw [selectionTokens, selectionTrees]
      exact (readsAs_node n h.1).append (readsAs_selection rest h.2)

theorem readsAs_branches : ∀ branches : List (String × List Selection),
    PrintableBranches branches → ReadsAs (branchTokens branches) (branchTrees branches)
  | [], _ => .nil
  | (type, children) :: rest, h => by
      rw [PrintableBranches] at h
      have hchildren := readsAs_selection children h.2.2.1
      have hne := selectionTrees_ne_nil h.2.2.2.1
      have hbranch : ReadsAs (.spread :: (.name "on" :: .name type :: .openBrace ::
          (selectionTokens children ++ [.closeBrace])))
            [.inline (some type) [] (selectionTrees children)] := by
        refine .single (fun _ => trivial) (by simp) ?_
        intro fuel tail htail hfuel
        simp only [List.append_assoc, List.cons_append, List.nil_append, List.length_append,
          List.length_cons] at hfuel ⊢
        cases fuel with
        | zero => exact absurd hfuel (Nat.not_lt_zero _)
        | succ fuel =>
            rw [node, if_pos rfl, inlineRest, directives_none (by simp)]
            dsimp only
            rw [braces_tokens hchildren hne (by simp; omega)]
            rfl
      have happend := hbranch.append (readsAs_branches rest h.2.2.2.2)
      rw [branchTokens, branchTrees]
      simp only [List.append_assoc, List.cons_append, List.nil_append] at happend
      exact happend

end

/-! ## What is read back -/

mutual

/-- **A node as it is read back.**  An object without arguments and children is a leaf. -/
def Selection.normal : Selection → Selection
  | .leaf name label => .leaf name label
  | .object name label [] [] => .leaf name label
  | .object name label as children => .object name label as (normalNodes children)
  | .on branches => .on (normalBranches branches)

/-- Selections as they are read back: a group without branches is gone. -/
def normalNodes : List Selection → List Selection
  | [] => []
  | .on [] :: rest => normalNodes rest
  | n :: rest => n.normal :: normalNodes rest

def normalBranches : List (String × List Selection) → List (String × List Selection)
  | [] => []
  | (type, children) :: rest => (type, normalNodes children) :: normalBranches rest

end

/-- **A document as it is read back.** -/
def Document.normal (d : Document) : Document := { d with selection := normalNodes d.selection }

/-- The selections do not begin with a group. -/
def NoGroup (s : List Selection) : Prop := ∀ branches rest, s ≠ .on branches :: rest

lemma normalNodes_cons (n : Selection) (rest : List Selection) :
    normalNodes (n :: rest) = normalNodes [n] ++ normalNodes rest := by
  cases n with
  | leaf name label => simp [normalNodes]
  | object name label as children => simp [normalNodes]
  | on branches => cases branches <;> simp [normalNodes]

/-- Only a group is read back as a group. -/
lemma noGroup_normalNodes {s : List Selection} (h : groupKey ∉ SelectionSet.keys s) :
    NoGroup (normalNodes s) := by
  intro branches rest
  cases s with
  | nil => simp [normalNodes]
  | cons n s =>
      cases n with
      | leaf name label => simp [normalNodes, Selection.normal]
      | object name label as children =>
          cases as <;> cases children <;> simp [normalNodes, Selection.normal]
      | on bs => exact absurd List.mem_cons_self h

lemma Selection.normal_object {name : String} {label : Option String}
    {as : List (String × Argument)} {children : List Selection} (h : as ≠ [] ∨ children ≠ []) :
    (Selection.object name label as children).normal =
      .object name label as (normalNodes children) := by
  rw [Selection.normal]
  rintro rfl rfl
  exact h.elim (absurd rfl) (absurd rfl)

lemma ofNode?_bare (label : Option String) (name : String) :
    ofNode? (.field label name [] [] []) = some (.leaf name label) := by
  rw [ofNode?]

lemma ofNode?_field {label : Option String} {name : String} {as : List (String × Argument)}
    {ns : List Node} {s : List Selection} (h : as ≠ [] ∨ ns ≠ []) (hs : ofNodes? ns = some s) :
    ofNode? (.field label name as [] ns) = some (.object name label as s) := by
  rw [ofNode?, hs]
  · rfl
  · rintro rfl rfl
    exact h.elim (absurd rfl) (absurd rfl)

/-- A node that no group follows, or that is none, stands on its own. -/
lemma ofNodes?_single {n : Node} {m : Selection} {ns : List Node} {s : List Selection}
    (hn : ofNode? n = some m) (hs : ofNodes? ns = some s)
    (hm : ∀ branches, m = .on branches → NoGroup s) : ofNodes? (n :: ns) = some (m :: s) := by
  rw [ofNodes?, hn, hs]
  split
  · next heq heq' =>
      cases heq
      cases heq'
      exact absurd rfl (hm _ rfl _ _)
  · next heq heq' =>
      cases heq
      cases heq'
      rfl
  · next hnone => exact absurd rfl (hnone m s rfl)

/-- The branches of a group, read before selections that do not begin with another one. -/
lemma ofNodes?_branch {type : String} {trees ns : List Node} {children : List Selection}
    {bs : List (String × List Selection)} {s : List Selection}
    (hchildren : ofNodes? trees = some children) (hs : ofNodes? ns = some (.on bs :: s)) :
    ofNodes? (.inline (some type) [] trees :: ns) = some (.on ((type, children) :: bs) :: s) := by
  rw [ofNodes?, ofNode?, hchildren, hs]
  rfl

mutual

theorem ofNodes?_node : ∀ n : Selection, n.Printable → ∀ {ns : List Node} {s : List Selection},
    ofNodes? ns = some s → (∀ branches, n = .on branches → NoGroup s) →
    ofNodes? (treesOf n ++ ns) = some (normalNodes [n] ++ s)
  | .leaf name label, _, ns, s, hs, _ => by
      have hnormal : normalNodes [.leaf name label] = [.leaf name label] := by
        simp [normalNodes, Selection.normal]
      rw [treesOf, hnormal]
      exact ofNodes?_single (ofNode?_bare label name) hs (by simp)
  | .object name label [] [], _, ns, s, hs, _ => by
      have hnormal : normalNodes [.object name label [] []] = [.leaf name label] := by
        simp [normalNodes, Selection.normal]
      rw [treesOf, hnormal]
      exact ofNodes?_single (ofNode?_bare label name) hs (by simp)
  | .object name label (e :: es) [], _, ns, s, hs, _ => by
      have hnormal : normalNodes [.object name label (e :: es) []] =
          [.object name label (e :: es) []] := by
        simp [normalNodes, Selection.normal]
      rw [treesOf, hnormal]
      exact ofNodes?_single (ofNode?_field (.inl (List.cons_ne_nil _ _)) rfl) hs (by simp)
  | .object name label as (c :: cs), h, ns, s, hs, _ => by
      rw [Selection.Printable] at h
      have hchildren := ofNodes?_selection (c :: cs) h.2.2.2.2.1 h.2.2.2.1
      have hne := selectionTrees_ne_nil (h.2.2.2.2.2 (List.cons_ne_nil _ _))
      have hnormal : normalNodes [.object name label as (c :: cs)] =
          [.object name label as (normalNodes (c :: cs))] := by
        rw [normalNodes, normalNodes, Selection.normal_object (.inr (List.cons_ne_nil _ _))]
        simp
      rw [treesOf, hnormal]
      exact ofNodes?_single (ofNode?_field (.inr hne) hchildren) hs (by simp)
  | .on [], _, ns, s, hs, _ => hs
  | .on (b :: bs), h, ns, s, hs, hgroup => by
      rw [Selection.Printable] at h
      have hbranches := ofNodes?_branches (b :: bs) h (List.cons_ne_nil _ _) hs (hgroup _ rfl)
      have hnormal : normalNodes [.on (b :: bs)] = [.on (normalBranches (b :: bs))] := by
        simp [normalNodes, Selection.normal]
      rw [treesOf, hnormal]
      exact hbranches

theorem ofNodes?_selection : ∀ s : List Selection, PrintableNodes s →
    (SelectionSet.keys s).Nodup → ofNodes? (selectionTrees s) = some (normalNodes s)
  | [], _, _ => by
      rw [selectionTrees, normalNodes, ofNodes?]
  | n :: rest, h, hkeys => by
      rw [PrintableNodes] at h
      obtain ⟨hkey, hrest⟩ := List.nodup_cons.mp hkeys
      rw [selectionTrees, normalNodes_cons]
      refine ofNodes?_node n h.1 (ofNodes?_selection rest h.2 hrest) ?_
      rintro branches rfl
      exact noGroup_normalNodes hkey

theorem ofNodes?_branches : ∀ bs : List (String × List Selection), PrintableBranches bs → bs ≠ [] →
    ∀ {ns : List Node} {s : List Selection}, ofNodes? ns = some s → NoGroup s →
    ofNodes? (branchTrees bs ++ ns) = some (.on (normalBranches bs) :: s)
  | [], _, hne, _, _, _, _ => absurd rfl hne
  | [(type, children)], h, _, ns, s, hs, hgroup => by
      rw [PrintableBranches] at h
      have hchildren := ofNodes?_selection children h.2.2.1 h.2.1
      have hbranch : ofNode? (.inline (some type) [] (selectionTrees children)) =
          some (.on [(type, normalNodes children)]) := by
        rw [ofNode?, hchildren]
        rfl
      rw [branchTrees, branchTrees, normalBranches, normalBranches]
      exact ofNodes?_single hbranch hs fun _ _ => hgroup
  | (type, children) :: b :: bs, h, _, ns, s, hs, hgroup => by
      rw [PrintableBranches] at h
      have hchildren := ofNodes?_selection children h.2.2.1 h.2.1
      have hrest := ofNodes?_branches (b :: bs) h.2.2.2.2 (List.cons_ne_nil _ _) hs hgroup
      rw [branchTrees, normalBranches]
      exact ofNodes?_branch hchildren hrest

end

/-! ## Whole documents -/

/-- The operation as which a document is read. -/
def Document.definition (d : Document) (ps : Declared) : Definition :=
  .operation d.kind.keyword d.name (Declared.asRead ps) [] (selectionTrees d.selection)

lemma operationName_tokens (name : Option String) {ts : List Token}
    (hts : ∀ text rest, ts ≠ .name text :: rest) :
    operationName ((name.map Token.name).toList ++ ts) = (name, ts) := by
  cases name with
  | some name => rfl
  | none =>
      rw [Option.map_none, Option.toList_none, List.nil_append, operationName]
      exact hts

/-- **The tokens of a document are one operation.** -/
theorem document_tokens {d : Document} (h : d.Printable) (ps : Declared) :
    document ((d.tokens ps).length + 1) (d.tokens ps) = some [d.definition ps] := by
  have hlength : (d.tokens ps).length = (d.name.map Token.name).toList.length +
      ((Declared.listTokens ps).length + ((selectionTokens d.selection).length + 2)) + 1 := by
    simp [Document.tokens]
  have hbraces : braces (selections (d.tokens ps).length)
      (.openBrace :: (selectionTokens d.selection ++ [.closeBrace])) =
        some (selectionTrees d.selection, []) := by
    refine braces_tokens (readsAs_selection d.selection h.nodes) (selectionTrees_ne_nil h.lines) ?_
    rw [List.length_append, List.length_singleton]
    omega
  have hname : operationName ((d.name.map Token.name).toList ++ (Declared.listTokens ps ++
      .openBrace :: (selectionTokens d.selection ++ [.closeBrace]))) = (d.name,
        Declared.listTokens ps ++ .openBrace :: (selectionTokens d.selection ++ [.closeBrace])) :=
    operationName_tokens d.name (by cases ps <;> simp [Declared.listTokens])
  have hkeyword : d.kind.keyword = "query" ∨ d.kind.keyword = "mutation" ∨
      d.kind.keyword = "subscription" := by
    cases d.kind
    · exact .inl rfl
    · exact .inr (.inl rfl)
  have hoperation : definition (d.tokens ps).length (d.tokens ps) =
      some (d.definition ps, []) := by
    rw [Document.tokens, definition, if_pos hkeyword, operation, hname]
    dsimp only
    rw [← Document.tokens, declarations_tokens ps (by simp) (by omega)]
    dsimp only
    rw [directives_none (by simp)]
    dsimp only
    rw [hbraces]
    rfl
  rw [document, hoperation]
  · rfl
  · simp [Document.tokens]

lemma kind?_keyword (kind : OperationKind) : kind? kind.keyword = some kind := by
  cases kind <;> rfl

lemma mapM_ofVariable? : ∀ ps : Declared, (Declared.asRead ps).mapM ofVariable? = some ps.entries
  | [] => rfl
  | p :: ps => by
      have ih := mapM_ofVariable? ps
      rw [Declared.asRead] at ih
      rw [Declared.asRead, List.map_cons, List.mapM_cons, ih]
      rfl

/-- **The text of a document determines it.**  A document whose names are names, whose numbers are
finite and which writes something between any two braces is read back from its text, in order and
with all its values, but for objects that could as well be leaves and for empty groups.  So two such
documents with the same text differ in nothing else. -/
theorem readDocument_render {d : Document} (h : d.Printable) :
    readDocument? d.render = some d.normal ∧
      ∀ d' : Document, d'.Printable → d'.render = d.render → d'.normal = d.normal := by
  have hread : ∀ d : Document, d.Printable → readDocument? d.render = some d.normal := by
    intro d h
    obtain ⟨ps, hps, hdeclared⟩ := exists_declared h.declared
    have hparse : parse? d.render = some [d.definition ps] := by
      rw [parse?, Document.render, String.toList_ofList, tokens_chars h hps hdeclared]
      dsimp only
      rw [document_tokens h ps]
      rfl
    rw [readDocument?, hparse, Option.bind_some, Document.definition, ofDefinitions?,
      kind?_keyword, mapM_ofVariable?, ofNodes?_selection d.selection h.nodes h.keys]
    dsimp only
    rw [← hdeclared]
    rfl
  refine ⟨hread d h, ?_⟩
  intro d' h' htext
  have hnormal := hread d' h'
  rw [htext, hread d h] at hnormal
  exact (Option.some.inj hnormal).symm

/-- A search whose hits say something of their author. -/
def searching (author : Selection) : Document where
  kind := .query
  name := some "Search"
  declared := [("first", "Int!"), ("tags", "[String!]")]
  selection := [
    .object "articles" (some "hits")
      [("first", .var "first"),
        ("where", .object [("title", .string "\"\\n\x7d"), ("score", .float ⟨0x3FB999999999999A⟩),
          ("tags", .list [.enum "NEWS", .int (-1), .null])])]
      [author, .on [("Post", [.leaf "body" (some "text")])]],
    .leaf "total" none]

theorem readDocument_render_searching :
    readDocument? (searching (.object "author" none [] [])).render =
        some (searching (.leaf "author" none)) ∧
      (searching (.leaf "author" none)).normal =
        (searching (.object "author" none [] [])).normal := by
  have hprintable : ∀ author : Selection, author.Printable → author.key = "author" →
      (searching author).Printable := by
    intro author hauthor hkey
    refine ⟨?_, ?_, ?_, ?_, ?_⟩
    · rintro name ⟨⟩
      decide
    · intro p hp
      simp only [searching, List.mem_cons, List.not_mem_nil, or_false] at hp
      rcases hp with rfl | rfl
      · refine ⟨by decide, .named "Int" true, ?_, by simp [TypeRef.chars]⟩
        rw [TypeRef.Printable]
        decide
      · refine ⟨by decide, .list (.named "String" true) false, ?_, by simp [TypeRef.chars]⟩
        rw [TypeRef.Printable, TypeRef.Printable]
        decide
    · show ["hits", "total"].Nodup
      decide
    · simp +decide [searching, PrintableNodes, Selection.Printable, PrintableEntries,
        Argument.Printable, PrintableItems, PrintableBranches, hauthor, SelectionSet.keys, hkey,
        selectionChars, nodeChars, branchChars]
    · simp [searching, selectionChars, nodeChars]
  have hbare := hprintable (.object "author" none [] []) (by
    simp +decide [Selection.Printable, PrintableEntries, PrintableNodes]) rfl
  have hleaf := hprintable (.leaf "author" none) (by simp +decide [Selection.Printable]) rfl
  have hnormal : (searching (.object "author" none [] [])).normal =
      searching (.leaf "author" none) := by
    simp [searching, Document.normal, normalNodes, Selection.normal, normalBranches]
  have hread := readDocument_render hbare
  rw [hnormal] at hread
  rw [hnormal]
  refine ⟨hread.1, hread.2 _ hleaf ?_⟩
  simp [searching, Document.render, Document.chars, selectionChars, nodeChars, argumentChars]

end ContentSync.GraphQL
