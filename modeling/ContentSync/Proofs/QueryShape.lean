import ContentSync.Proofs.ReadPaths
import ContentSync.Proofs.RequestBodies
import ContentSync.Proofs.WholeQueries

/-!
# Identities do not change the shape of a query

The identity of an item comes from outside and stands in the text of a query.  It is one token
there, a text that means the identity itself, and all other tokens are the same for every identity:
whatever characters it holds, nothing of it is read as anything else.

* `Selection.Written.named` — what is written is made of tokens.
* `ItemQuery` — a query that picks out one item; `tokens_document` its tokens.
* `ItemOperation`, `Api.operate` — the operations on one item.
* `operate_sentWith` — what they send.
* `operate_tokens` — the tokens of the text that is sent, for every identity.
-/

namespace ContentSync

open GraphQL
open GraphQL.Syntax (IsName Token)
open Http (Attempt Network Outcome)

/-! ## Names -/

namespace GraphQL

mutual

/-- What is written is made of tokens. -/
lemma Selection.Written.named : ∀ n : Selection, n.Written → n.Named
  | .leaf _ _, h => by rwa [Selection.Written] at h
  | .object name label as children, h => by
      rw [Selection.Written] at h
      rw [Selection.Named]
      exact ⟨h.1, h.2.1, h.2.2.1, WrittenNodes.named children h.2.2.2.2.2⟩
  | .on branches, h => by
      rw [Selection.Written] at h
      rw [Selection.Named]
      exact WrittenBranches.named branches h

lemma WrittenNodes.named : ∀ ns : List Selection, WrittenNodes ns → NamedNodes ns
  | [], _ => trivial
  | n :: rest, h => by
      rw [WrittenNodes] at h
      exact ⟨Selection.Written.named n h.1, WrittenNodes.named rest h.2⟩

lemma WrittenBranches.named :
    ∀ bs : List (String × List Selection), WrittenBranches bs → NamedBranches bs
  | [], _ => trivial
  | (type, children) :: rest, h => by
      rw [WrittenBranches] at h
      exact ⟨h.1, WrittenNodes.named children h.2.2.1, WrittenBranches.named rest h.2.2.2⟩

end

end GraphQL

/-- What begins a name, in lower case. -/
lemma lowerChar_ofNat : ∀ n < 128, Syntax.isNameStart (Char.ofNat n) →
    (Text.lowerChar (Char.ofNat n)).length = 1 ∧
      (Text.lowerChar (Char.ofNat n)).all Syntax.isNameStart := by
  decide +kernel

lemma lowerChar_of_isNameStart {c : Char} (h : Syntax.isNameStart c) :
    ∃ d, Text.lowerChar c = [d] ∧ Syntax.isNameStart d := by
  have hsmall : c.toNat < 128 := by
    have hletter : (decide ('A'.val ≤ c.val ∧ c.val ≤ 'Z'.val) ||
        (decide ('a'.val ≤ c.val) && decide (c.val ≤ 'z'.val)) || decide (c = '_')) = true := h
    simp only [Bool.or_eq_true, Bool.and_eq_true, decide_eq_true_eq, UInt32.le_iff_toNat_le]
      at hletter
    have hZ : 'Z'.val.toNat = 90 := rfl
    have hz : 'z'.val.toNat = 122 := rfl
    rcases hletter with (hupper | hlower) | rfl
    · exact Nat.lt_of_le_of_lt hupper.2 (by rw [hZ]; decide)
    · exact Nat.lt_of_le_of_lt hlower.2 (by rw [hz]; decide)
    · decide
  obtain ⟨hlength, hall⟩ := lowerChar_ofNat c.toNat hsmall (by rwa [Char.ofNat_toNat])
  rw [Char.ofNat_toNat] at hlength hall
  obtain ⟨d, hd⟩ := List.length_eq_one_iff.mp hlength
  rw [hd, List.all_cons, Bool.and_eq_true] at hall
  exact ⟨d, hd, hall.1⟩

/-- A name with its first letter in lower case is a name. -/
lemma isName_lowerFirst {name : String} (h : IsName name) : IsName (Text.lowerFirst name) := by
  obtain ⟨c, rest, hname, hstart, hrest⟩ := h
  obtain ⟨d, hd, hdstart⟩ := lowerChar_of_isNameStart hstart
  refine ⟨d, rest, ?_, hdstart, hrest⟩
  rw [Text.lowerFirst, hname]
  dsimp only
  rw [hd, String.toList_ofList]
  rfl

/-- A name goes on with another one. -/
lemma isName_append {first second : String} (hfirst : IsName first) (hsecond : IsName second) :
    IsName (first ++ second) := by
  obtain ⟨c, rest, hname, hstart, hrest⟩ := hfirst
  refine ⟨c, rest ++ second.toList, ?_, hstart, ?_⟩
  · rw [String.toList_append, hname, List.cons_append]
  · exact List.forall_mem_append.mpr ⟨hrest, hsecond.isNameContinue_of_mem⟩

/-! ## Queries for one item -/

/-- **A query that picks out one item**: all of it but the identity. -/
structure ItemQuery where
  kind : OperationKind
  declared : Syntax.Declared
  field : String
  /-- The arguments behind the condition. -/
  arguments : Arguments
  selection : SelectionSet

namespace ItemQuery

/-- The query for an identity. -/
def document (q : ItemQuery) (id : String) : Document where
  kind := q.kind
  name := none
  declared := q.declared.entries
  selection := [.object q.field none (("where", whereId id) :: q.arguments) q.selection]

lemma document_single (kind : OperationKind) (field : String) (arguments : Arguments)
    (selection : SelectionSet) (id : String) :
    document ⟨kind, [], field, arguments, selection⟩ id =
      .single kind (.object field none (("where", whereId id) :: arguments) selection) := rfl

lemma document_data (field input : String) (selection : SelectionSet) (id : String) :
    document ⟨.mutation, [("data", .named input true)], field, [("data", .var "data")], selection⟩
        id =
      dataDocument field [("where", whereId id)] selection input := by
  have htype : String.ofList (Syntax.TypeRef.named input true).chars = input ++ "!" :=
    String.toList_inj.mp (by simp [Syntax.TypeRef.chars])
  rw [document, Syntax.Declared.entries, List.map_singleton, htype]
  rfl

/-- What its tokens need. -/
structure Named (q : ItemQuery) : Prop where
  declared : q.declared.Printable
  field : IsName q.field
  arguments : PrintableEntries q.arguments
  selection : NamedNodes q.selection

/-- The tokens before the identity. -/
def tokensBefore (q : ItemQuery) : List Token :=
  .name q.kind.keyword :: (q.declared.listTokens ++
    [.openBrace, .name q.field, .openParen, .name "where", .colon, .openBrace, .name "id", .colon])

/-- The tokens behind the identity. -/
def tokensAfter (q : ItemQuery) : List Token :=
  .closeBrace :: (entryTokens q.arguments ++ .closeParen ::
    ((match q.selection with
      | [] => []
      | c :: cs => .openBrace :: (selectionTokens (c :: cs) ++ [.closeBrace])) ++ [.closeBrace]))

/-- **The tokens of a query for an item**: the identity is one of them, and the others do not depend
on it. -/
lemma tokens_document {q : ItemQuery} (h : q.Named) (id : String) :
    Syntax.tokens (q.document id).render.toList =
      some (q.tokensBefore ++ .text id :: q.tokensAfter) := by
  have hnodes : NamedNodes (q.document id).selection := by
    rw [document, NamedNodes, Selection.Named]
    refine ⟨⟨h.field, fun _ ha => (Option.not_mem_none _ ha).elim, ?_, h.selection⟩, trivial⟩
    rw [PrintableEntries, whereId, Argument.Printable, PrintableEntries, Argument.Printable]
    exact ⟨by decide, ⟨by decide, trivial, trivial⟩, h.arguments⟩
  rw [Document.render, String.toList_ofList, Syntax.tokens_of_named
    (fun _ hname => (Option.not_mem_none _ hname).elim) h.declared rfl hnodes]
  rw [Document.tokens, document, tokensBefore, tokensAfter]
  cases q.selection <;>
    simp [selectionTokens, nodeTokens, aliasTokens, argumentTokens, entryTokens, whereId,
      Argument.tokens]

end ItemQuery

/-! ## Operations on one item -/

/-- An operation on one item. -/
inductive ItemOperation where
  | fetch
  | update (data : Json)
  | delete
  | publish
  | unpublish

/-- What an operation leaves in the log. -/
def Api.operate (api : Api) (net : Network) (schema : Schema) (typename id : String)
    (log : ApiLog) : ItemOperation → ApiLog
  | .fetch => (api.fetchItem net schema typename id log).2
  | .update data => (api.updateDocument net schema typename id data log).2
  | .delete => (api.deleteDocument net typename id log).2
  | .publish => (api.publishDocument net typename id log).2
  | .unpublish => (api.unpublishDocument net typename id log).2

namespace ItemOperation

/-- **Whether an operation sends a request**: what is read or changed must be of a known type. -/
def Sends (schema : Schema) (typename : String) : ItemOperation → Prop
  | .fetch => typename = assetTypename ∨ (schema.model? typename).isSome
  | .update _ => (schema.model? typename).isSome
  | .delete => True
  | .publish => True
  | .unpublish => True

/-- The query of an operation, if it sends one. -/
def query? (schema : Schema) (typename : String) : ItemOperation → Option ItemQuery
  | .fetch =>
      match Api.itemSelection schema typename with
      | .ok (field, selection) => some ⟨.query, [], field, [("stage", draftStage)], selection⟩
      | .error _ => none
  | .update _ =>
      (schema.model? typename).map fun t => {
        kind := .mutation
        declared := [("data", .named (t.name ++ "UpdateInput") true)]
        field := "update" ++ t.name
        arguments := [("data", .var "data")]
        selection := rootSelection schema typename }
  | .delete => some ⟨.mutation, [], "delete" ++ typename, [], idSelection⟩
  | .publish =>
      some ⟨.mutation, [], publishField typename, [("to", publishedStage)], idSelection⟩
  | .unpublish =>
      some ⟨.mutation, [], unpublishField typename, [("from", publishedStage)], idSelection⟩

section Queries

variable {schema : Schema} {typename : String} {op : ItemOperation}

lemma sends_iff : op.Sends schema typename ↔ (op.query? schema typename).isSome := by
  cases op with
  | fetch =>
      rw [Sends, query?, Api.itemSelection]
      by_cases hasset : typename = assetTypename
      · simp [hasset]
      · cases hmodel : schema.model? typename <;> simp [hasset]
  | update data => rw [Sends, query?, Option.isSome_map]
  | delete | publish | unpublish => simp [Sends, query?]

end Queries

end ItemOperation

section Operations

variable {schema : Schema} {typename : String} {op : ItemOperation}

/-- **What an operation sends** is its query, and without one it sends nothing. -/
lemma operate_sentWith (api : Api) (net : Network) (schema : Schema) (typename id : String)
    (log : ApiLog) (op : ItemOperation) :
    match op.query? schema typename with
    | some q => ∃ values,
        SentWith (Envelope.mk (q.document id).render values none).render log.attempts
          (api.operate net schema typename id log op).attempts
    | none => api.operate net schema typename id log op = log := by
  cases op with
  | fetch =>
      rw [ItemOperation.query?]
      cases hselection : Api.itemSelection schema typename with
      | ok item => exact ⟨.object [], sentWith_fetchItem hselection id log⟩
      | error e => rw [Api.operate, fetchItem_eq api net schema ⟨typename, id⟩ log, hselection]
  | update data =>
      rw [ItemOperation.query?]
      cases hmodel : schema.model? typename with
      | none =>
          rw [Api.operate, Api.updateDocument, bind_noModel hmodel]
          rfl
      | some t =>
          rw [Api.operate, Api.updateDocument, bind_model hmodel]
          refine ⟨.object [("data", data)], ?_⟩
          have hsent := sentWith_mutateDocument api net ("update" ++ t.name)
            [("where", whereId id)] (rootSelection schema typename) (t.name ++ "UpdateInput") data
            log
          rw [← ItemQuery.document_data] at hsent
          exact hsent
  | delete =>
      have hsent := sentWith_mutateNode api net ("delete" ++ typename)
        (.object ("delete" ++ typename) none [("where", whereId id)] idSelection) log
      rw [← ItemQuery.document_single] at hsent
      exact ⟨.object [], hsent⟩
  | publish =>
      have hsent := sentWith_mutateNode api net (publishField typename)
        (publishNode (publishField typename) none id) log
      rw [publishNode, ← ItemQuery.document_single] at hsent
      exact ⟨.object [], hsent⟩
  | unpublish =>
      have hsent := sentWith_mutateNode api net (unpublishField typename)
        (unpublishNode (unpublishField typename) none id) log
      rw [unpublishNode, ← ItemQuery.document_single] at hsent
      exact ⟨.object [], hsent⟩

/-! ## The queries of a schema with names -/

section Named

lemma isName_data : IsName "data" := by decide

lemma named_idSelection : NamedNodes idSelection :=
  WrittenNodes.named _ (written_ofNames (by decide))

lemma named_assetSelection : NamedNodes assetSelection := by
  refine WrittenNodes.named _ (written_ofList ?_ ?_) <;>
    simp only [List.forall_mem_append, List.forall_mem_map, List.forall_mem_singleton]
  · exact ⟨fun _ _ => rfl, rfl⟩
  · exact ⟨fun name hname => written_field ((by decide : ∀ name ∈ _, IsName name) name hname),
      written_stageNode⟩

/-- A single argument behind the condition that is the name of a stage. -/
lemma printable_stage {name : String} (hname : IsName name) {stage : Argument}
    (hstage : stage = draftStage ∨ stage = publishedStage) : PrintableEntries [(name, stage)] := by
  rw [PrintableEntries, PrintableEntries]
  refine ⟨hname, ?_, trivial⟩
  rcases hstage with rfl | rfl
  · rw [draftStage, Argument.Printable]
    decide
  · rw [publishedStage, Argument.Printable]
    decide

variable {types : List ContentType} (hnamed : (Schema.ofTypes types).Named)

include hnamed

/-- A model has a name, and what is asked for of it is made of tokens. -/
lemma named_model {t : ContentType} (h : (Schema.ofTypes types).model? typename = some t) :
    IsName t.name ∧ NamedNodes (rootSelection (.ofTypes types) typename) := by
  have hget : (Schema.ofTypes types).get? typename = some t := (Option.filter_eq_some_iff.mp h).1
  have hown := Schema.get?_of_mem_all (Schema.mem_all hget)
  exact ⟨hnamed.types _ (mem_keys_of_get? hown),
    WrittenNodes.named _ (written_rootSelection hnamed hget)⟩

/-- Every query for an item is made of tokens. -/
lemma named_query (htypename : IsName typename) {q : ItemQuery}
    (h : op.query? (.ofTypes types) typename = some q) : q.Named := by
  have hprefix : ∀ verb, IsName verb → IsName (verb ++ typename) :=
    fun _ hverb => isName_append hverb htypename
  have hnothing : Syntax.Declared.Printable [] := fun _ hp => by cases hp
  cases op with
  | fetch =>
      rw [ItemOperation.query?] at h
      cases hselection : Api.itemSelection (.ofTypes types) typename with
      | error e =>
          rw [hselection] at h
          cases h
      | ok item =>
          rw [hselection] at h
          cases h
          have hstage : PrintableEntries [("stage", draftStage)] :=
            printable_stage (by decide) (.inl rfl)
          rw [Api.itemSelection] at hselection
          split at hselection
          · cases hselection
            exact ⟨hnothing, by decide, hstage, named_assetSelection⟩
          · split at hselection
            · next t hmodel =>
                cases hselection
                obtain ⟨hname, hnodes⟩ := named_model hnamed hmodel
                exact ⟨hnothing, isName_lowerFirst hname, hstage, hnodes⟩
            · cases hselection
  | update data =>
      obtain ⟨t, hmodel, rfl⟩ := Option.map_eq_some_iff.mp h
      obtain ⟨hname, hselection⟩ := named_model hnamed hmodel
      refine ⟨List.forall_mem_singleton.mpr ⟨isName_data, ?_⟩, isName_append (by decide) hname, ?_,
        hselection⟩
      · exact isName_append hname (by decide)
      · rw [PrintableEntries, PrintableEntries, Argument.Printable]
        exact ⟨isName_data, isName_data, trivial⟩
  | delete =>
      cases h
      exact ⟨hnothing, hprefix _ (by decide), trivial, named_idSelection⟩
  | publish =>
      cases h
      exact ⟨hnothing, hprefix _ (by decide), printable_stage (by decide) (.inr rfl),
        named_idSelection⟩
  | unpublish =>
      cases h
      exact ⟨hnothing, hprefix _ (by decide), printable_stage (by decide) (.inr rfl),
        named_idSelection⟩

end Named

/-- **Identities do not change the shape of a query.**  In a schema whose types and fields have
names of GraphQL, and for a type name that is one, an operation on an item that sends a request
sends the text of one query.  Its tokens are the same for every identity but for one: that is a text
and means the identity, whatever characters it holds.  An operation that sends no request for one
identity sends none for any. -/
theorem operate_tokens {types : List ContentType} (hnamed : (Schema.ofTypes types).Named)
    {typename : String} (htypename : IsName typename) (api : Api) (op : ItemOperation) :
    (op.Sends (.ofTypes types) typename →
      ∃ before after : List Token, ∀ (net : Network) (id : String) (log : ApiLog),
        ∃ query tries,
          (api.operate net (.ofTypes types) typename id log op).attempts = log.attempts ++ tries ∧
          tries ≠ [] ∧
          (∀ a ∈ tries, ∀ text, CarriesQuery a.request.body text ↔ text = query) ∧
          Syntax.tokens query.toList = some (before ++ .text id :: after)) ∧
    (¬ op.Sends (.ofTypes types) typename → ∀ (net : Network) (id : String) (log : ApiLog),
        api.operate net (.ofTypes types) typename id log op = log) := by
  constructor
  · intro hsends
    obtain ⟨q, hq⟩ := Option.isSome_iff_exists.mp (ItemOperation.sends_iff.mp hsends)
    refine ⟨q.tokensBefore, q.tokensAfter, fun net id log => ?_⟩
    have hsent := operate_sentWith api net (.ofTypes types) typename id log op
    rw [hq] at hsent
    obtain ⟨values, tries, hattempts, hne, hbodies⟩ := hsent
    refine ⟨_, tries, hattempts, hne, fun a ha => ?_,
      ItemQuery.tokens_document (named_query hnamed htypename hq) id⟩
    exact CarriesQuery.iff ⟨values, none, hbodies a ha⟩
  · intro hsilent net id log
    have hsent := operate_sentWith api net (.ofTypes types) typename id log op
    cases hq : op.query? (.ofTypes types) typename with
    | some q => exact absurd (ItemOperation.sends_iff.mpr (by rw [hq]; rfl)) hsilent
    | none =>
        rw [hq] at hsent
        exact hsent

/-- An identity that looks like the rest of a query is a text like any other. -/
theorem operate_tokens_imitation : ∃ api, Api.of? plainConfig = .ok api ∧
    postSchema.Named ∧ IsName "Post" ∧ ItemOperation.Sends postSchema "Post" .fetch ∧
    ∃ before after : List Token, ∀ id ∈ ["a", "\"\x7d) \x7b id \x7d \x7d #\n"],
      ∃ query,
        (∀ a ∈ (api.operate busyNetwork postSchema "Post" id .empty .fetch).attempts,
          CarriesQuery a.request.body query) ∧
        Syntax.tokens query.toList = some (before ++ .text id :: after) := by
  obtain ⟨api, hapi⟩ : ∃ api, Api.of? plainConfig = .ok api := ⟨_, rfl⟩
  have hnamed : postSchema.Named := ⟨by decide, by decide⟩
  have hname : IsName "Post" := by decide
  have hsends : ItemOperation.Sends postSchema "Post" .fetch := .inr rfl
  obtain ⟨before, after, hall⟩ := (operate_tokens hnamed hname api .fetch).1 hsends
  refine ⟨api, hapi, hnamed, hname, hsends, before, after, fun id _ => ?_⟩
  obtain ⟨query, tries, hattempts, -, hcarries, htokens⟩ := hall busyNetwork id .empty
  refine ⟨query, fun a ha => ?_, htokens⟩
  rw [postSchema, hattempts] at ha
  exact (hcarries a ha query).mpr rfl

end Operations

end ContentSync
