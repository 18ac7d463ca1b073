import ContentSync.Proofs.DocumentText

/-!
# Braces that enclose nothing

Between the braces of a selection there must be at least one selection.  A text is scanned for
braces that enclose nothing, and what the scan finds in a written document is told by its tree:
nothing else that is written brings braces with it.

* `EmptyBraces` — braces with nothing between them but what stands between tokens.
* `BraceScan` — the scan, `found_scan_iff` what it finds.
* `Selection.hasEmptyBraces` — the same of a tree.
* `emptyBraces_render_iff` — the text of a document has empty braces exactly when its tree has.
* `printable_of_written` — without them the text is GraphQL.
-/

namespace ContentSync.GraphQL

open Syntax (IsName isIgnored)

/-! ## Scanning a text -/

/-- **A text with empty braces**: a closing brace follows an opening one, with nothing between them
but what stands between tokens. -/
def EmptyBraces (text : List Char) : Prop :=
  ∃ before between after, text = before ++ '\x7b' :: (between ++ '\x7d' :: after) ∧
    ∀ c ∈ between, isIgnored c

/-- A text that goes on with a closing brace. -/
def Closes (text : List Char) : Prop :=
  ∃ between after, text = between ++ '\x7d' :: after ∧ ∀ c ∈ between, isIgnored c

/-- What a scan remembers: whether nothing has followed the last opening brace yet, and whether
empty braces were found. -/
structure BraceScan where
  isOpen : Bool
  found : Bool

namespace BraceScan

/-- One more character. -/
def step (b : BraceScan) (c : Char) : BraceScan :=
  if c = '\x7b' then ⟨true, b.found⟩
  else if c = '\x7d' then ⟨false, b.found || b.isOpen⟩
  else if isIgnored c then b
  else ⟨false, b.found⟩

/-- A whole text. -/
def scan (b : BraceScan) (text : List Char) : BraceScan := text.foldl step b

lemma scan_append (b : BraceScan) (text rest : List Char) :
    b.scan (text ++ rest) = (b.scan text).scan rest := List.foldl_append

end BraceScan

section Scan

variable {c : Char} {rest : List Char}

lemma emptyBraces_cons_iff :
    EmptyBraces (c :: rest) ↔ (c = '\x7b' ∧ Closes rest) ∨ EmptyBraces rest := by
  constructor
  · rintro ⟨_ | ⟨d, before⟩, between, after, htext, hbetween⟩
    · obtain ⟨rfl, rfl⟩ := List.cons.inj htext
      exact .inl ⟨rfl, between, after, rfl, hbetween⟩
    · obtain ⟨rfl, rfl⟩ := List.cons.inj htext
      exact .inr ⟨before, between, after, rfl, hbetween⟩
  · rintro (⟨rfl, between, after, rfl, hbetween⟩ | ⟨before, between, after, rfl, hbetween⟩)
    · exact ⟨[], between, after, rfl, hbetween⟩
    · exact ⟨c :: before, between, after, rfl, hbetween⟩

lemma closes_cons_iff : Closes (c :: rest) ↔ c = '\x7d' ∨ (isIgnored c ∧ Closes rest) := by
  constructor
  · rintro ⟨_ | ⟨d, between⟩, after, htext, hbetween⟩
    · exact .inl (List.cons.inj htext).1
    · obtain ⟨rfl, rfl⟩ := List.cons.inj htext
      rw [List.forall_mem_cons] at hbetween
      exact .inr ⟨hbetween.1, between, after, rfl, hbetween.2⟩
  · rintro (rfl | ⟨hc, between, after, rfl, hbetween⟩)
    · exact ⟨[], rest, rfl, by simp⟩
    · exact ⟨c :: between, after, rfl, List.forall_mem_cons.mpr ⟨hc, hbetween⟩⟩

lemma not_emptyBraces_nil : ¬ EmptyBraces [] := by
  rintro ⟨before, between, after, htext, -⟩
  simp at htext

lemma not_closes_nil : ¬ Closes [] := by
  rintro ⟨between, after, htext, -⟩
  simp at htext

/-- **What a scan finds**: what it had found, a closing brace for the one that is open, or empty
braces in what it reads. -/
lemma found_scan_iff (text : List Char) : ∀ b : BraceScan,
    (b.scan text).found ↔ b.found ∨ (b.isOpen ∧ Closes text) ∨ EmptyBraces text := by
  induction text with
  | nil =>
      intro b
      simp [BraceScan.scan, not_closes_nil, not_emptyBraces_nil]
  | cons c rest ih =>
      intro b
      have hstep : b.scan (c :: rest) = (b.step c).scan rest := rfl
      rw [hstep, ih, emptyBraces_cons_iff, closes_cons_iff, BraceScan.step]
      by_cases hopen : c = '\x7b'
      · subst hopen
        have hignored : isIgnored '\x7b' = false := by decide
        simp [hignored]
      · by_cases hclose : c = '\x7d'
        · subst hclose
          simp [or_assoc]
        · by_cases hignored : isIgnored c <;> simp [hopen, hclose, hignored]

/-- The scan decides. -/
theorem found_scan (text : List Char) :
    (BraceScan.scan ⟨false, false⟩ text).found ↔ EmptyBraces text := by
  simp [found_scan_iff]

instance (text : List Char) : Decidable (EmptyBraces text) :=
  decidable_of_iff _ (found_scan text)

end Scan

/-! ## Characters without braces -/

/-- Characters none of which is a brace. -/
def BraceFree (text : List Char) : Prop := ∀ c ∈ text, c ≠ '\x7b' ∧ c ≠ '\x7d'

instance (text : List Char) : Decidable (BraceFree text) := List.decidableBAll _ text

section BraceFree

variable {text rest : List Char}

lemma braceFree_nil : BraceFree [] := fun _ hc => (List.not_mem_nil hc).elim

lemma BraceFree.append (h : BraceFree text) (hrest : BraceFree rest) : BraceFree (text ++ rest) :=
  fun c hc => (List.mem_append.mp hc).elim (h c) (hrest c)

lemma braceFree_indent (depth : Nat) : BraceFree (indent depth) := by
  intro c hc
  rw [List.eq_of_mem_replicate hc]
  decide

lemma not_brace_of_isNameContinue {c : Char} (h : Syntax.isNameContinue c) :
    c ≠ '\x7b' ∧ c ≠ '\x7d' := by
  constructor
  · rintro rfl
    exact absurd h (by decide)
  · rintro rfl
    exact absurd h (by decide)

lemma Syntax.IsName.isNameContinue_of_mem {s : String} (h : IsName s) :
    ∀ c ∈ s.toList, Syntax.isNameContinue c := by
  obtain ⟨c, rest, hs, hstart, hrest⟩ := h
  rw [hs]
  refine List.forall_mem_cons.mpr ⟨?_, hrest⟩
  rw [Syntax.isNameContinue, hstart, Bool.true_or]

lemma Syntax.IsName.braceFree {s : String} (h : IsName s) : BraceFree s.toList :=
  fun c hc => not_brace_of_isNameContinue (h.isNameContinue_of_mem c hc)

lemma braceFree_aliasChars {label : Option String} (h : ∀ a ∈ label, IsName a) :
    BraceFree (aliasChars label) := by
  cases label with
  | none => exact braceFree_nil
  | some a => exact (h a rfl).braceFree.append (by simp [BraceFree])

/-- No name stands between tokens. -/
lemma Syntax.IsName.not_all_isIgnored {s : String} (h : IsName s) :
    s.toList.all isIgnored = false := by
  obtain ⟨c, rest, hs, hstart, -⟩ := h
  have hc : isIgnored c = false := by
    by_contra hignored
    simp only [Bool.not_eq_false, isIgnored, Bool.or_eq_true, decide_eq_true_eq] at hignored
    rcases hignored with ((((rfl | rfl) | rfl) | rfl) | rfl) | hmark
    iterate 5 exact absurd hstart (by decide)
    rw [← Char.ofNat_toNat c, hmark] at hstart
    exact absurd hstart (by decide)
  rw [hs, List.all_cons, hc, Bool.false_and]

/-- The scan of characters without braces: nothing is found, and whatever does not just stand
between tokens stands between braces. -/
lemma BraceScan.scan_braceFree (hfree : BraceFree text) (b : BraceScan) :
    b.scan text = ⟨b.isOpen && text.all isIgnored, b.found⟩ := by
  induction text generalizing b with
  | nil => simp [scan]
  | cons c rest ih =>
      obtain ⟨hc, hrest⟩ := List.forall_mem_cons.mp hfree
      have hstep : b.scan (c :: rest) = (b.step c).scan rest := rfl
      rw [hstep, ih hrest, step, if_neg hc.1, if_neg hc.2]
      by_cases hignored : isIgnored c <;> simp [hignored]

lemma all_isIgnored_indent (depth : Nat) : (indent depth).all isIgnored = true := by
  rw [List.all_eq_true]
  intro c hc
  rw [List.eq_of_mem_replicate hc]
  decide

end BraceFree

/-! ## Written selections -/

mutual

/-- Names are names, no two selections of a set have the same key, and arguments are written without
braces. -/
def Selection.Written : Selection → Prop
  | .leaf name label => IsName name ∧ ∀ a ∈ label, IsName a
  | .object name label as children =>
      IsName name ∧ (∀ a ∈ label, IsName a) ∧ PrintableEntries as ∧ BraceFree (argumentChars as) ∧
        (SelectionSet.keys children).Nodup ∧ WrittenNodes children
  | .on branches => WrittenBranches branches

def WrittenNodes : List Selection → Prop
  | [] => True
  | n :: rest => n.Written ∧ WrittenNodes rest

def WrittenBranches : List (String × List Selection) → Prop
  | [] => True
  | (type, children) :: rest =>
      IsName type ∧ (SelectionSet.keys children).Nodup ∧ WrittenNodes children ∧
        WrittenBranches rest

end

/-- A node without a line: a group without branches. -/
def Selection.isSilent : Selection → Bool
  | .on branches => branches.isEmpty
  | _ => false

mutual

/-- **Whether a node is written with empty braces.**  A field without selections is written without
braces. -/
def Selection.hasEmptyBraces : Selection → Bool
  | .leaf _ _ => false
  | .object _ _ _ children =>
      (!children.isEmpty && children.all Selection.isSilent) || nodesHaveEmptyBraces children
  | .on branches => branchesHaveEmptyBraces branches

/-- Whether one of several nodes is. -/
def nodesHaveEmptyBraces : List Selection → Bool
  | [] => false
  | n :: rest => n.hasEmptyBraces || nodesHaveEmptyBraces rest

/-- Whether one of several branches is; a branch always has braces. -/
def branchesHaveEmptyBraces : List (String × List Selection) → Bool
  | [] => false
  | (_, children) :: rest =>
      (children.all Selection.isSilent || nodesHaveEmptyBraces children) ||
        branchesHaveEmptyBraces rest

end

lemma writtenNodes_iff {ns : List Selection} : WrittenNodes ns ↔ ∀ n ∈ ns, n.Written := by
  induction ns with
  | nil => simp [WrittenNodes]
  | cons n rest ih => rw [WrittenNodes, List.forall_mem_cons, ih]

lemma nodesHaveEmptyBraces_iff {ns : List Selection} :
    nodesHaveEmptyBraces ns ↔ ∃ n ∈ ns, n.hasEmptyBraces := by
  induction ns with
  | nil => simp [nodesHaveEmptyBraces]
  | cons n rest ih => simp [nodesHaveEmptyBraces, ih]

lemma writtenBranches_iff {bs : List (String × List Selection)} :
    WrittenBranches bs ↔
      ∀ p ∈ bs, IsName p.1 ∧ (SelectionSet.keys p.2).Nodup ∧ WrittenNodes p.2 := by
  induction bs with
  | nil => simp [WrittenBranches]
  | cons p rest ih =>
      obtain ⟨type, children⟩ := p
      rw [WrittenBranches, List.forall_mem_cons, ih, and_assoc, and_assoc]

lemma branchesHaveEmptyBraces_iff {bs : List (String × List Selection)} :
    branchesHaveEmptyBraces bs ↔
      ∃ p ∈ bs, p.2.all Selection.isSilent ∨ nodesHaveEmptyBraces p.2 := by
  induction bs with
  | nil => simp [branchesHaveEmptyBraces]
  | cons p rest ih =>
      obtain ⟨type, children⟩ := p
      simp [branchesHaveEmptyBraces, ih]

/-- The braces around fields enclose something. -/
lemma hasEmptyBraces_object {name : String} {label : Option String}
    {arguments : List (String × Argument)} {children : List Selection} {n : Selection}
    (hn : n ∈ children) (hsilent : n.isSilent = false) :
    (Selection.object name label arguments children).hasEmptyBraces =
      nodesHaveEmptyBraces children := by
  have hall : children.all Selection.isSilent = false := by
    rw [List.all_eq_false]
    exact ⟨n, hn, by simp [hsilent]⟩
  rw [Selection.hasEmptyBraces, hall, Bool.and_false, Bool.false_or]

namespace BraceScan

lemma scan_openBrace (b : BraceScan) : b.scan openBrace = ⟨true, b.found⟩ := by
  simp [scan, openBrace, step, isIgnored]

lemma scan_closeBrace (b : BraceScan) : b.scan closeBrace = ⟨false, b.found || b.isOpen⟩ := by
  simp [scan, closeBrace, step, isIgnored]

lemma scan_indent (depth : Nat) (b : BraceScan) : b.scan (indent depth) = b := by
  rw [scan_braceFree (braceFree_indent depth), all_isIgnored_indent, Bool.and_true]

/-- A line up to the braces it may open. -/
lemma scan_line {before after : List Char} {name : String} (hbefore : BraceFree before)
    (hname : IsName name) (hafter : BraceFree after) (b : BraceScan) :
    b.scan (before ++ name.toList ++ after) = ⟨false, b.found⟩ := by
  rw [scan_braceFree ((hbefore.append hname.braceFree).append hafter), List.all_append,
    List.all_append, hname.not_all_isIgnored, Bool.and_false, Bool.false_and, Bool.and_false]

/-- A line with braces and what they enclose. -/
lemma scan_block {line inner : List Char} {silent found : Bool}
    (hline : ∀ b : BraceScan, b.scan line = ⟨false, b.found⟩)
    (hinner : ∀ b : BraceScan, b.scan inner = ⟨b.isOpen && silent, b.found || found⟩)
    (depth : Nat) (b : BraceScan) :
    b.scan (line ++ openBrace ++ (inner ++ (indent depth ++ closeBrace))) =
      ⟨false, b.found || (silent || found)⟩ := by
  simp only [scan_append, hline, scan_openBrace, hinner, scan_indent, scan_closeBrace,
    Bool.true_and, Bool.or_assoc, Bool.or_comm found]

mutual

/-- **The scan of a node**: its lines stand between braces, and its empty braces are found. -/
theorem scan_node : ∀ (n : Selection), n.Written → ∀ (depth : Nat) (b : BraceScan),
    b.scan (nodeChars depth n) = ⟨b.isOpen && n.isSilent, b.found || n.hasEmptyBraces⟩
  | .leaf name label, h, depth, b => by
      rw [Selection.Written] at h
      have hhead := (braceFree_indent depth).append (braceFree_aliasChars h.2)
      rw [nodeChars, scan_line hhead h.1 (by simp [BraceFree])]
      simp [Selection.isSilent, Selection.hasEmptyBraces]
  | .object name label as [], h, depth, b => by
      rw [Selection.Written] at h
      have hhead := (braceFree_indent depth).append (braceFree_aliasChars h.2.1)
      rw [nodeChars, List.append_assoc,
        scan_line hhead h.1 (h.2.2.2.1.append (by simp [BraceFree]))]
      simp [Selection.isSilent, Selection.hasEmptyBraces, nodesHaveEmptyBraces]
  | .object name label as (c :: cs), h, depth, b => by
      rw [Selection.Written] at h
      have hhead := (braceFree_indent depth).append (braceFree_aliasChars h.2.1)
      rw [nodeChars, scan_block (scan_line hhead h.1 h.2.2.2.1)
        (scan_selection (c :: cs) h.2.2.2.2.2 (depth + 1))]
      simp [Selection.isSilent, Selection.hasEmptyBraces]
  | .on branches, h, depth, b => by
      rw [Selection.Written] at h
      rw [nodeChars, scan_branches branches h, Selection.isSilent, Selection.hasEmptyBraces]

theorem scan_selection : ∀ (ns : List Selection), WrittenNodes ns → ∀ (depth : Nat)
    (b : BraceScan), b.scan (selectionChars depth ns) =
      ⟨b.isOpen && ns.all Selection.isSilent, b.found || nodesHaveEmptyBraces ns⟩
  | [], _, depth, b => by simp [selectionChars, nodesHaveEmptyBraces, scan]
  | n :: rest, h, depth, b => by
      rw [WrittenNodes] at h
      rw [selectionChars, scan_append, scan_node n h.1, scan_selection rest h.2,
        nodesHaveEmptyBraces, List.all_cons, Bool.and_assoc, Bool.or_assoc]

theorem scan_branches : ∀ (bs : List (String × List Selection)), WrittenBranches bs →
    ∀ (depth : Nat) (b : BraceScan), b.scan (branchChars depth bs) =
      ⟨b.isOpen && bs.isEmpty, b.found || branchesHaveEmptyBraces bs⟩
  | [], _, depth, b => by simp [branchChars, branchesHaveEmptyBraces, scan]
  | (type, children) :: rest, h, depth, b => by
      rw [WrittenBranches] at h
      have hhead : BraceFree (indent depth ++ "... on ".toList) :=
        (braceFree_indent depth).append (by simp [BraceFree])
      have hline := scan_line hhead h.1 braceFree_nil
      rw [List.append_nil] at hline
      have hblock := scan_block hline (scan_selection children h.2.2.1 (depth + 1)) depth b
      have hlines : branchChars depth ((type, children) :: rest) =
          (indent depth ++ "... on ".toList ++ type.toList ++ openBrace ++
            (selectionChars (depth + 1) children ++ (indent depth ++ closeBrace))) ++
              branchChars depth rest := by
        simp only [branchChars, List.append_assoc]
      rw [hlines, scan_append, hblock, scan_branches rest h.2.2.2, branchesHaveEmptyBraces,
        Bool.or_assoc]
      simp

end

end BraceScan

/-- **The text of a document has empty braces exactly when its tree has.** -/
theorem emptyBraces_render_iff (kind : OperationKind) {s : SelectionSet} (h : WrittenNodes s) :
    EmptyBraces (Document.anonymous kind s).render.toList ↔
      s.all Selection.isSilent ∨ nodesHaveEmptyBraces s := by
  have hchars : (Document.anonymous kind s).render.toList =
      kind.keyword.toList ++ openBrace ++ (selectionChars 1 s ++ ['\x7d']) := by
    simp [Document.render, Document.chars, Document.anonymous, nameChars, declarationsChars]
  have hkeyword : ∀ b : BraceScan, b.scan kind.keyword.toList = ⟨false, b.found⟩ := by
    intro b
    rw [BraceScan.scan_braceFree (Syntax.isName_keyword kind).braceFree,
      (Syntax.isName_keyword kind).not_all_isIgnored, Bool.and_false]
  have hlast : ∀ b : BraceScan, b.scan ['\x7d'] = ⟨false, b.found || b.isOpen⟩ := fun _ => rfl
  rw [← found_scan, hchars]
  simp only [BraceScan.scan_append, hkeyword, BraceScan.scan_openBrace,
    BraceScan.scan_selection s h, hlast]
  simp [or_comm]

/-! ## Documents without empty braces -/

/-- Nodes with a line are written. -/
lemma selectionChars_ne_nil {s : List Selection} (hwritten : WrittenNodes s)
    (h : s.all Selection.isSilent = false) (depth : Nat) : selectionChars depth s ≠ [] := by
  intro hnil
  have hscan := BraceScan.scan_selection s hwritten depth ⟨true, false⟩
  rw [hnil, h] at hscan
  have hopen : true = false := congrArg BraceScan.isOpen hscan
  cases hopen

mutual

/-- **Without empty braces, what is written is GraphQL.** -/
theorem printable_of_written : ∀ n : Selection, n.Written → n.hasEmptyBraces = false → n.Printable
  | .leaf name label, h, _ => h
  | .object name label as children, h, hnone => by
      rw [Selection.Written] at h
      rw [Selection.hasEmptyBraces, Bool.or_eq_false_iff, Bool.and_eq_false_iff] at hnone
      rw [Selection.Printable]
      refine ⟨h.1, h.2.1, h.2.2.1, h.2.2.2.2.1,
        printableNodes_of_written children h.2.2.2.2.2 hnone.2, fun hchildren => ?_⟩
      refine selectionChars_ne_nil h.2.2.2.2.2 (hnone.1.resolve_left ?_) 0
      simpa using hchildren
  | .on branches, h, hnone => by
      rw [Selection.Written] at h
      rw [Selection.hasEmptyBraces] at hnone
      rw [Selection.Printable]
      exact printableBranches_of_written branches h hnone

theorem printableNodes_of_written : ∀ ns : List Selection, WrittenNodes ns →
    nodesHaveEmptyBraces ns = false → PrintableNodes ns
  | [], _, _ => trivial
  | n :: rest, h, hnone => by
      rw [WrittenNodes] at h
      rw [nodesHaveEmptyBraces, Bool.or_eq_false_iff] at hnone
      exact ⟨printable_of_written n h.1 hnone.1, printableNodes_of_written rest h.2 hnone.2⟩

theorem printableBranches_of_written : ∀ bs : List (String × List Selection),
    WrittenBranches bs → branchesHaveEmptyBraces bs = false → PrintableBranches bs
  | [], _, _ => trivial
  | (type, children) :: rest, h, hnone => by
      rw [WrittenBranches] at h
      rw [branchesHaveEmptyBraces, Bool.or_eq_false_iff, Bool.or_eq_false_iff] at hnone
      have hchildren := printableNodes_of_written children h.2.2.1 hnone.1.2
      have hrest := printableBranches_of_written rest h.2.2.2 hnone.2
      exact ⟨h.1, h.2.1, hchildren, selectionChars_ne_nil h.2.2.1 hnone.1.1 0, hrest⟩

end

/-- A document without name and variables is GraphQL when its text has no empty braces. -/
theorem printable_anonymous {kind : OperationKind} {s : SelectionSet} (hkeys : s.keys.Nodup)
    (h : WrittenNodes s) (hnone : ¬ EmptyBraces (Document.anonymous kind s).render.toList) :
    (Document.anonymous kind s).Printable := by
  rw [emptyBraces_render_iff kind h, not_or, Bool.not_eq_true, Bool.not_eq_true] at hnone
  exact ⟨fun _ hname => (Option.not_mem_none _ hname).elim,
    fun _ hp => (List.not_mem_nil hp).elim, hkeys, printableNodes_of_written s h hnone.2,
    selectionChars_ne_nil h hnone.1 0⟩

end ContentSync.GraphQL
