import ContentSync.Proofs.EmptyBranches

/-!
# Which queries are grammatical

The query for a whole document asks for the fields of its type, and beside them for the identity of
the document and its stages.  Its text is GraphQL unless it has an empty branch, and it has one
exactly when the schema leads to it.

* `typeSelection_induction` — what holds of the selection of every type.
* `Schema.Named` — the names of a schema are names of GraphQL.
* `written_typeSelection`, `written_rootSelection` — what is written then.
* `mem_rootSelection` — what a query asks for.
* `HasEmptyBranch` — the path to an empty branch.
* `emptyBraces_rootSelection_iff` — the text of a query.
-/

namespace ContentSync

open GraphQL
open GraphQL.Syntax (IsName)

/-! ## Selections of types -/

/-- **What a reference is followed to**: a type of the schema, and a selection of which something is
known. -/
structure FollowedTo (schema : Schema) (P : SelectionSet → Prop) (target : String)
    (s : SelectionSet) : Prop where
  known : target ∈ schema.types.keys
  plain : ∀ n ∈ s, n.Plain
  keys : s.keys.Nodup
  holds : P s

section Following

variable {schema : Schema} {P : SelectionSet → Prop}

/-- **Induction over the selections of types**: what holds of the fields of a type when it holds of
what its references are followed to, holds of the selection of every type.  It is the induction over
the paths that go on from a type. -/
theorem typeSelection_induction
    (step : ∀ (follow : String → Option SelectionSet) (t : ContentType), t ∈ schema.all →
      (∀ target s, follow target = some s → FollowedTo schema P target s) →
        P (selectionOfFields follow t.fields))
    (ledger : Ledger) : ∀ {type : String} {t : ContentType}, schema.get? type = some t →
      P (typeSelection schema type ledger) := by
  induction ledger using Ledger.visit_induction schema with
  | step ledger ih =>
      intro type t ht
      rw [typeSelection_of_get? ht]
      refine step _ t (Schema.mem_all ht) fun target s hs => ?_
      obtain ⟨hsome, next, hvisit, rfl⟩ := follow_eq_some_iff.mp hs
      obtain ⟨t', ht'⟩ := Option.isSome_iff_exists.mp hsome
      exact ⟨mem_keys_of_get? ht', plain_typeSelection ht', nodup_keys_typeSelection ht',
        ih ht' hvisit ht'⟩

/-- A branch holds the aliased nodes of the selection of its candidate. -/
lemma of_mem_branchesOf {follow : String → Option SelectionSet}
    (hfollow : ∀ target s, follow target = some s → FollowedTo schema P target s)
    {targets : List String} {b : String × List Selection} (hb : b ∈ branchesOf follow targets) :
    ∃ s, FollowedTo schema P b.1 s ∧ (SelectionSet.keys b.2).Nodup ∧
      ∀ m ∈ b.2, ∃ n ∈ s, aliasNode b.1 n = some m := by
  obtain ⟨-, s, hs, hbranch⟩ := mem_branchesOf_iff.mp hb
  have hfollowed := hfollow b.1 s hs
  rw [← hbranch]
  refine ⟨s, hfollowed, SelectionSet.nodup_keys_ofList _, fun m hm => ?_⟩
  rw [aliasBranch_eq b.1 hfollowed.plain hfollowed.keys] at hm
  exact List.mem_filterMap.mp hm

end Following

/-! ## Written selections -/

/-- **The names of a schema are names**: those of its types, and those of their fields. -/
structure Schema.Named (schema : Schema) : Prop where
  types : ∀ type ∈ schema.types.keys, IsName type
  fields : ∀ t ∈ schema.all, ∀ f ∈ t.fields, IsName f.name

section Written

variable {type : String} {n m : Selection}

lemma isName_aliasFor {field : String} (htype : IsName type) (hfield : IsName field) :
    IsName (aliasFor type field) := by
  have hmark : IsName "_alias__" := by decide
  refine ⟨'_', '_' :: type.toList ++ "_alias__".toList ++ field.toList, ?_, rfl, ?_⟩
  · rw [aliasFor, String.toList_ofList]
    rfl
  · intro c hc
    simp only [List.mem_append, List.mem_cons] at hc
    rcases hc with ((rfl | hc) | hc) | hc
    · rfl
    · exact htype.isNameContinue_of_mem c hc
    · exact hmark.isNameContinue_of_mem c hc
    · exact hfield.isNameContinue_of_mem c hc

lemma written_aliasNode (htype : IsName type) (hplain : n.Plain) (h : n.Written)
    (hm : aliasNode type n = some m) : m.Written := by
  cases n with
  | leaf name label =>
      rw [aliasNode] at hm
      split at hm
      · cases hm
      · cases hm
        rw [Selection.Written] at h ⊢
        refine ⟨h.1, ?_⟩
        rintro a ⟨⟩
        exact isName_aliasFor htype h.1
  | object name label arguments children =>
      cases hm
      rw [Selection.Written] at h ⊢
      refine ⟨h.1, ?_, h.2.2⟩
      rintro a ⟨⟩
      exact isName_aliasFor htype h.1
  | on branches => exact hplain.elim

/-- A field with a selection of its own and without arguments. -/
lemma written_object {name : String} {children : SelectionSet} (hname : IsName name)
    (hkeys : children.keys.Nodup) (h : WrittenNodes children) :
    (Selection.object name none [] children).Written := by
  rw [Selection.Written]
  exact ⟨hname, fun _ ha => (Option.not_mem_none _ ha).elim, trivial, braceFree_nil, hkeys, h⟩

lemma written_field {name : String} (hname : IsName name) : (Selection.field name).Written :=
  ⟨hname, fun _ ha => (Option.not_mem_none _ ha).elim⟩

/-- Fields that are inserted are written when each of them is. -/
lemma written_ofList {nodes : List Selection} (hplain : ∀ n ∈ nodes, n.Plain)
    (h : ∀ n ∈ nodes, n.Written) : WrittenNodes (SelectionSet.ofList nodes) := by
  rw [writtenNodes_iff]
  exact fun n hn => h n (SelectionSet.mem_of_mem_ofList hplain hn)

lemma written_ofNames {names : List String} (h : ∀ name ∈ names, IsName name) :
    WrittenNodes (SelectionSet.ofNames names) := by
  rw [writtenNodes_iff]
  intro n hn
  obtain ⟨name, hname, rfl⟩ := SelectionSet.exists_of_mem_ofNames hn
  exact written_field (h name hname)

lemma written_colorSelection : WrittenNodes colorSelection := by
  have hparts : (Selection.object "rgba" none []
      (SelectionSet.ofNames ["r", "g", "b", "a"])).Written :=
    written_object (by decide) (SelectionSet.nodup_keys_ofList _) (written_ofNames (by decide))
  refine written_ofList ?_ ?_
  · simp [Selection.field, Selection.Plain]
  · simp only [List.forall_mem_cons, List.not_mem_nil, false_implies, implies_true, and_true]
    exact ⟨written_field (by decide), written_field (by decide), hparts⟩

lemma written_structured {s : SelectionSet} (hs : s ∈ structuredSelections) :
    s.keys.Nodup ∧ WrittenNodes s := by
  simp only [structuredSelections, List.mem_cons, List.not_mem_nil, or_false] at hs
  rcases hs with rfl | rfl | rfl | rfl
  · exact ⟨SelectionSet.nodup_keys_ofList _, written_ofNames (by decide)⟩
  · exact ⟨SelectionSet.nodup_keys_ofList _, written_colorSelection⟩
  · exact ⟨SelectionSet.nodup_keys_ofList _, written_ofNames (by decide)⟩
  · exact ⟨SelectionSet.nodup_keys_ofList _, written_ofNames (by decide)⟩

section Fields

variable {schema : Schema} (hnamed : schema.Named) {follow : String → Option SelectionSet}
  (hfollow : ∀ target s, follow target = some s → FollowedTo schema WrittenNodes target s)

include hnamed hfollow

/-- The branches of a polymorphic field are written when the selections of the candidates are. -/
lemma written_branchesOf (targets : List String) :
    WrittenBranches (branchesOf follow targets) := by
  rw [writtenBranches_iff]
  intro b hb
  obtain ⟨s, hfollowed, hkeys, hnodes⟩ := of_mem_branchesOf hfollow hb
  have htarget : IsName b.1 := hnamed.types b.1 hfollowed.known
  refine ⟨htarget, hkeys, writtenNodes_iff.mpr fun m hm => ?_⟩
  obtain ⟨n, hn, hnm⟩ := hnodes m hm
  exact written_aliasNode htarget (hfollowed.plain n hn)
    (writtenNodes_iff.mp hfollowed.holds n hn) hnm

/-- The node of a field is written when the selections of the types it refers to are. -/
lemma written_fieldNode {f : Field} (hname : IsName f.name) (h : fieldNode follow f = some n) :
    n.Written := by
  rcases fieldNode_forms h with rfl | ⟨children, rfl, hs | ⟨target, hs⟩ | ⟨targets, rfl⟩⟩
  · exact written_field hname
  · obtain ⟨hkeys, hwritten⟩ := written_structured hs
    exact written_object hname hkeys hwritten
  · exact written_object hname (hfollow target children hs).keys (hfollow target children hs).holds
  · have hkeys :
        (SelectionSet.keys [.field typenameField, .on (branchesOf follow targets)]).Nodup := by
      rw [← ofList_typename_on]
      exact SelectionSet.nodup_keys_ofList _
    exact written_object hname hkeys
      ⟨written_field (by decide), written_branchesOf hnamed hfollow targets, trivial⟩

end Fields

/-- **The selection of a type is written.** -/
theorem written_typeSelection {schema : Schema} (hnamed : schema.Named) (ledger : Ledger)
    {t : ContentType} (ht : schema.get? type = some t) :
    WrittenNodes (typeSelection schema type ledger) := by
  refine typeSelection_induction (fun follow t ht hfollow => ?_) ledger ht
  rw [writtenNodes_iff]
  intro n hn
  rcases of_mem_selectionOfFields hn with rfl | ⟨f, hf, hfn⟩
  · exact written_field (by decide)
  · exact written_fieldNode hnamed hfollow (hnamed.fields t ht f hf) hfn

end Written

/-! ## Whole queries -/

/-- What a query asks for beside the fields of its type. -/
def rootNodes (t : ContentType) : List Selection :=
  if t.isModel then [.field "id", .field "updatedAt", stageNode] else [.field "id"]

/-- The keys of what a query asks for beside the fields of its type. -/
def rootKeys (t : ContentType) : List String := SelectionSet.keys (rootNodes t)

section Root

variable {schema : Schema} {root : String} {t : ContentType}

lemma rootSelection_eq (ht : schema.get? root = some t) :
    rootSelection schema root =
      (rootNodes t).foldl SelectionSet.insert (typeSelection schema root (.root root)) := by
  rw [rootSelection, Schema.model?, ht, rootNodes, Option.filter]
  split <;> simp_all

lemma written_stageNode : stageNode.Written := by
  rw [stageNode, Selection.Written]
  refine ⟨by decide, fun _ ha => (Option.not_mem_none _ ha).elim, ?_, ?_,
    SelectionSet.nodup_keys_ofList _, written_ofNames (by decide)⟩
  · simp +decide [PrintableEntries, Argument.Printable, PrintableItems]
  · decide +kernel

lemma rootNodes_subset (t : ContentType) :
    rootNodes t ⊆ [.field "id", .field "updatedAt", stageNode] := by
  rw [rootNodes]
  split
  · exact List.Subset.refl _
  · exact List.cons_subset_cons _ (List.nil_subset _)

/-- What is asked for beside the fields has a line and brings no empty braces. -/
lemma of_mem_rootNodes {n : Selection} (h : n ∈ rootNodes t) :
    n.Plain ∧ n.Written ∧ n.hasEmptyBraces = false := by
  have hall : ∀ m ∈ [.field "id", .field "updatedAt", stageNode],
      Selection.Plain m ∧ m.Written ∧ m.hasEmptyBraces = false := by
    simp only [List.forall_mem_cons, List.not_mem_nil, false_implies, implies_true, and_true]
    exact ⟨⟨rfl, written_field (by decide), rfl⟩, ⟨rfl, written_field (by decide), rfl⟩,
      rfl, written_stageNode, rfl⟩
  exact hall n (rootNodes_subset t h)

lemma exists_isLast_rootNodes (t : ContentType) :
    ∃ n, SelectionSet.IsLast (rootNodes t) n ∧ n.isSilent = false := by
  rw [rootNodes]
  split
  · exact ⟨stageNode, ⟨[_, _], [], rfl, List.not_mem_nil⟩, rfl⟩
  · exact ⟨.field "id", ⟨[], [], rfl, List.not_mem_nil⟩, rfl⟩

/-- A query asks for what is beside the fields, and for the fields under other keys. -/
lemma mem_rootSelection (ht : schema.get? root = some t) {n : Selection} :
    n ∈ rootSelection schema root ↔ SelectionSet.IsLast (rootNodes t) n ∨
      (n ∈ typeSelection schema root (.root root) ∧ n.key ∉ rootKeys t) := by
  rw [rootSelection_eq ht]
  exact SelectionSet.mem_foldl_insert (fun m hm => (of_mem_rootNodes hm).1)
    (nodup_keys_typeSelection ht)

lemma written_rootSelection (hnamed : schema.Named) (ht : schema.get? root = some t) :
    WrittenNodes (rootSelection schema root) := by
  have htype : WrittenNodes (typeSelection schema root (.root root)) :=
    written_typeSelection hnamed _ ht
  rw [writtenNodes_iff] at htype ⊢
  intro n hn
  rcases (mem_rootSelection ht).mp hn with hlast | ⟨hn, -⟩
  · exact (of_mem_rootNodes hlast.mem).2.1
  · exact htype n hn

lemma nodup_keys_rootSelection (ht : schema.get? root = some t) :
    (rootSelection schema root).keys.Nodup := by
  rw [rootSelection_eq ht]
  exact SelectionSet.nodup_keys_foldl_insert _ (nodup_keys_typeSelection ht)

lemma all_isSilent_rootSelection (ht : schema.get? root = some t) :
    (rootSelection schema root).all Selection.isSilent = false := by
  obtain ⟨n, hlast, hsilent⟩ := exists_isLast_rootNodes t
  exact List.all_eq_false.mpr ⟨n, (mem_rootSelection ht).mpr (.inl hlast), by simp [hsilent]⟩

/-- **Where a query has an empty branch**: a field of its type that is shown leads to it, under a
key that the query does not use otherwise. -/
def HasEmptyBranch (schema : Schema) (root : String) (t : ContentType) : Prop :=
  ∃ f, Shown schema (.root root) t.fields f ∧ f.name ∉ rootKeys t ∧
    LeadsToEmpty schema (.root root) f

lemma nodesHaveEmptyBraces_rootSelection (ht : schema.get? root = some t) :
    nodesHaveEmptyBraces (rootSelection schema root) ↔ HasEmptyBranch schema root t := by
  rw [HasEmptyBranch, ← exists_hasEmptyBraces_iff (· ∉ rootKeys t) ht
    (hasEmptyBraces_fieldNode _), nodesHaveEmptyBraces_iff]
  constructor
  · rintro ⟨n, hn, hempty⟩
    rcases (mem_rootSelection ht).mp hn with hlast | ⟨hn, hkey⟩
    · rw [(of_mem_rootNodes hlast.mem).2.2] at hempty
      cases hempty
    · exact ⟨n, hn, hempty, hkey⟩
  · rintro ⟨n, hn, hempty, hkey⟩
    exact ⟨n, (mem_rootSelection ht).mpr (.inr ⟨hn, hkey⟩), hempty⟩

/-! ## The text of a query -/

/-- **Which queries are grammatical.**  In a schema whose types and fields have names of GraphQL,
the query for a whole document of a type has braces that enclose nothing exactly when one of the
fields it shows leads to a candidate of a polymorphic field that has nothing to show there: every
field of that candidate is left out, because it does not resolve or because the path is cut off.  In
all other cases the text is GraphQL. -/
theorem emptyBraces_rootSelection_iff (hnamed : schema.Named) (ht : schema.get? root = some t)
    (kind : OperationKind) :
    (EmptyBraces (Document.anonymous kind (rootSelection schema root)).render.toList ↔
      HasEmptyBranch schema root t) ∧
    (¬ HasEmptyBranch schema root t →
      (Document.anonymous kind (rootSelection schema root)).Printable) := by
  have hwritten := written_rootSelection hnamed ht
  have hiff : EmptyBraces (Document.anonymous kind (rootSelection schema root)).render.toList ↔
      HasEmptyBranch schema root t := by
    rw [emptyBraces_render_iff kind hwritten, all_isSilent_rootSelection ht,
      nodesHaveEmptyBraces_rootSelection ht]
    simp
  refine ⟨hiff, fun hnone => ?_⟩
  exact printable_anonymous (nodup_keys_rootSelection ht) hwritten fun h => hnone (hiff.mp h)

end Root

/-! ### Letters and their signatures -/

private def letter : ContentType :=
  .ofFields "Letter" "Letters" .model
    [⟨"title", .scalar, false⟩, ⟨"blocks", .polymorphic ["Paragraph", "Signature"], true⟩]

private def paragraph : ContentType :=
  .ofFields "Paragraph" "Paragraphs" .component [⟨"text", .scalar, false⟩]

private def signedBy : Field := ⟨"signedBy", .relation "Author", false⟩

/-- Letters with signatures of authors, who are not in the schema. -/
private def letters : Schema :=
  .ofTypes [letter, paragraph, .ofFields "Signature" "Signatures" .component [signedBy]]

/-- The same letters with a date in their signatures. -/
private def datedLetters : Schema :=
  .ofTypes [letter, paragraph,
    .ofFields "Signature" "Signatures" .component [signedBy, ⟨"date", .scalar, false⟩]]

/-- With a date in the signatures, the query for a letter is GraphQL. -/
theorem emptyBraces_rootSelection_iff_dated :
    datedLetters.Named ∧ datedLetters.get? "Letter" = some letter ∧
      ¬ EmptyBraces (Document.anonymous .query
        (rootSelection datedLetters "Letter")).render.toList ∧
      (Document.anonymous .query (rootSelection datedLetters "Letter")).Printable := by
  have hnamed : datedLetters.Named := ⟨by decide, by decide⟩
  have hletter : datedLetters.get? "Letter" = some letter := rfl
  have hown : datedLetters.OwnFields := by decide
  have hnone : ¬ HasEmptyBranch datedLetters "Letter" letter := by
    rintro ⟨f, -, -, h⟩
    exact not_leadsToEmpty_of_ownFields hown h
  obtain ⟨hiff, hprintable⟩ := emptyBraces_rootSelection_iff hnamed hletter .query
  exact ⟨hnamed, hletter, fun h => hnone (hiff.mp h), hprintable hnone⟩

/-- **Without it, the branch of a signature is left empty.** -/
theorem emptyBraces_rootSelection_letters :
    letters.Named ∧ letters.get? "Letter" = some letter ∧
      EmptyBraces (Document.anonymous .query (rootSelection letters "Letter")).render.toList := by
  refine ⟨⟨by decide, by decide⟩, rfl, ?_⟩
  rw [Document.render, String.toList_ofList]
  decide +kernel

end ContentSync
