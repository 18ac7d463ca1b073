import ContentSync.Proofs.WholeQueries

/-!
# When branches share a key

The keys of a branch are aliases: the name of its type, a mark, and the name of a field.  Neither
name is escaped, so an alias can be read in two ways, but only where the name of one type goes on
behind the name of another one with the mark.  The mark overlaps itself by its last character alone,
so all of it but that character has to be there.

* `GoesOn`, `HasMark` — names with the mark in them.
* `goesOn_of_aliasFor_eq` — an alias that can be read in two ways.
* `GroupIn` — the branches of a polymorphic field, at any depth of a node.
* `Aliased` — branches of types of a schema whose keys are aliases; `AllAliased` — selections in
  which all branches are so, as `allAliased_compiled` says of every selection made for a schema.
* `sharedKey_goesOn` — which branches share a key.
-/

namespace ContentSync

open GraphQL

/-! ## Aliases -/

/-- **A name that goes on** behind another one with the mark of an alias. -/
def GoesOn (name longer : String) : Prop := ∃ rest, longer = name ++ ("_alias_" ++ rest)

/-- A name that has the mark of an alias in it. -/
def HasMark (name : String) : Prop := ∃ before after, name = before ++ ("_alias_" ++ after)

lemma hasMark_iff {name : String} : HasMark name ↔ "_alias_".toList <:+: name.toList := by
  constructor
  · rintro ⟨before, after, rfl⟩
    exact ⟨before.toList, after.toList, by simp⟩
  · rintro ⟨before, after, h⟩
    refine ⟨String.ofList before, String.ofList after, String.toList_inj.mp ?_⟩
    simp [← h]

lemma GoesOn.hasMark {name longer : String} (h : GoesOn name longer) : HasMark longer := by
  obtain ⟨rest, hlonger⟩ := h
  exact ⟨name, rest, hlonger⟩

/-- What stands between the type and the field in an alias. -/
def aliasMark : List Char := "_alias__".toList

lemma toList_aliasFor (type field : String) :
    (aliasFor type field).toList =
      "__".toList ++ (type.toList ++ (aliasMark ++ field.toList)) := by
  have hstart : aliasStart type = "__".toList ++ type.toList ++ aliasMark := rfl
  rw [aliasFor, String.toList_ofList, hstart, List.append_assoc, List.append_assoc]

/-- **The mark overlaps itself by its last character only**: where it begins again behind something,
what is before it begins with all other characters of the mark. -/
lemma isPrefix_of_aliasMark {rest field field' : List Char} (hne : rest ≠ [])
    (h : aliasMark ++ field = rest ++ (aliasMark ++ field')) : "_alias_".toList <+: rest := by
  have hmark : aliasMark = "_alias_".toList ++ ['_'] := by decide
  have hstart : "_alias_".toList <+: aliasMark ++ field := by
    rw [hmark, List.append_assoc]
    exact List.prefix_append _ _
  by_cases hlong : 7 ≤ rest.length
  · exact List.prefix_of_prefix_length_le hstart ⟨aliasMark ++ field', h.symm⟩ hlong
  · -- a shorter text would be a beginning of the mark behind which the mark begins once more
    have hshort : rest.length ≤ aliasMark.length := by
      have : aliasMark.length = 8 := rfl
      omega
    have hagain : aliasMark.drop rest.length ++ field = aliasMark ++ field' := by
      rw [← List.drop_append_of_le_length hshort, h, List.drop_left]
    have hdrop : aliasMark.drop rest.length <+: aliasMark :=
      List.prefix_of_prefix_length_le ⟨field, hagain⟩ (List.prefix_append _ _)
        (List.drop_sublist _ _).length_le
    have hnever : ∀ k < 7, 0 < k → ¬ aliasMark.drop k <+: aliasMark := by decide
    exact absurd hdrop (hnever _ (by omega) (List.length_pos_of_ne_nil hne))

/-- A name that is longer by something behind which the mark begins again. -/
lemma goesOn_of_rest {name longer : String} {rest field field' : List Char} (hne : name ≠ longer)
    (hlonger : longer.toList = name.toList ++ rest)
    (hrest : aliasMark ++ field = rest ++ (aliasMark ++ field')) : GoesOn name longer := by
  have hsome : rest ≠ [] := by
    rintro rfl
    rw [List.append_nil] at hlonger
    exact hne (String.toList_inj.mp hlonger.symm)
  obtain ⟨after, rfl⟩ := isPrefix_of_aliasMark hsome hrest
  refine ⟨String.ofList after, String.toList_inj.mp ?_⟩
  simp [hlonger]

/-- **An alias that can be read in two ways**: one type goes on behind the other. -/
theorem goesOn_of_aliasFor_eq {type type' field field' : String} (hne : type ≠ type')
    (h : aliasFor type field = aliasFor type' field') : GoesOn type type' ∨ GoesOn type' type := by
  have hchars := congrArg String.toList h
  rw [toList_aliasFor, toList_aliasFor] at hchars
  rcases List.append_eq_append_iff.mp (List.append_cancel_left hchars) with
    ⟨rest, hlonger, hrest⟩ | ⟨rest, hlonger, hrest⟩
  · exact .inl (goesOn_of_rest hne hlonger hrest)
  · exact .inr (goesOn_of_rest (Ne.symm hne) hlonger hrest)

/-! ## Groups of branches -/

/-- **The branches of a polymorphic field**, in a node or in what is selected below it. -/
inductive GroupIn : Selection → Branches → Prop where
  | here (branches : Branches) : GroupIn (.on branches) branches
  | field {name : String} {label : Option String} {arguments : Arguments}
      {children : List Selection} {n : Selection} {branches : Branches} (hn : n ∈ children)
      (hin : GroupIn n branches) : GroupIn (.object name label arguments children) branches
  | branch {outer : Branches} {b : String × List Selection} {n : Selection} {branches : Branches}
      (hb : b ∈ outer) (hn : n ∈ b.2) (hin : GroupIn n branches) : GroupIn (.on outer) branches

/-- An alias does not change what is selected below a node. -/
lemma groupIn_of_aliasNode {type : String} {n m : Selection} {branches : Branches}
    (hm : aliasNode type n = some m) (hin : GroupIn m branches) : GroupIn n branches := by
  cases n with
  | leaf name label =>
      rw [aliasNode] at hm
      split at hm
      · cases hm
      · cases hm
        cases hin
  | object name label arguments children =>
      cases hm
      cases hin with
      | field hn hin => exact .field hn hin
  | on outer =>
      cases hm
      exact hin

/-- **Branches under aliases**: each is that of another type of the schema, and its keys are aliases
of that type. -/
structure Aliased (schema : Schema) (branches : Branches) : Prop where
  distinct : (Entries.keys branches).Nodup
  known : ∀ b ∈ branches, b.1 ∈ schema.types.keys
  keys : ∀ b ∈ branches, ∀ key ∈ SelectionSet.keys b.2, ∃ field, key = aliasFor b.1 field

/-- Branches of two types share a key only where one of the types goes on behind the other. -/
lemma Aliased.goesOn {schema : Schema} {branches : Branches} (h : Aliased schema branches)
    {a b : String × List Selection} (ha : a ∈ branches) (hb : b ∈ branches) (hne : a.1 ≠ b.1)
    {key : String} (hkey : key ∈ SelectionSet.keys a.2) (hkey' : key ∈ SelectionSet.keys b.2) :
    GoesOn a.1 b.1 ∨ GoesOn b.1 a.1 := by
  obtain ⟨field, rfl⟩ := h.keys a ha key hkey
  obtain ⟨field', heq⟩ := h.keys b hb _ hkey'
  exact goesOn_of_aliasFor_eq hne heq

/-- Without the mark in the names of types, no key is shared. -/
lemma Aliased.disjoint {schema : Schema} {branches : Branches} (h : Aliased schema branches)
    (hmark : ∀ type ∈ schema.types.keys, ¬ HasMark type) :
    branches.Pairwise fun a b => (SelectionSet.keys a.2).Disjoint (SelectionSet.keys b.2) := by
  have hdistinct : branches.Pairwise fun a b => a.1 ≠ b.1 := List.pairwise_map.mp h.distinct
  refine hdistinct.imp_of_mem fun {a b} ha hb hne key hkey hkey' => ?_
  rcases h.goesOn ha hb hne hkey hkey' with hlonger | hlonger
  · exact hmark b.1 (h.known b hb) hlonger.hasMark
  · exact hmark a.1 (h.known a ha) hlonger.hasMark

/-! ## Selections of a schema -/

/-- **A selection in which all branches are aliased**, at any depth. -/
def AllAliased (schema : Schema) (s : SelectionSet) : Prop :=
  ∀ n ∈ s, ∀ branches, GroupIn n branches → Aliased schema branches

section Compiled

variable {schema : Schema} {n : Selection} {branches : Branches}

lemma allAliased_ofNames (schema : Schema) (names : List String) :
    AllAliased schema (SelectionSet.ofNames names) := by
  intro n hn branches hin
  obtain ⟨name, -, rfl⟩ := SelectionSet.exists_of_mem_ofNames hn
  cases hin

lemma aliased_object {name : String} {label : Option String} {arguments : Arguments}
    {children : SelectionSet} (h : AllAliased schema children)
    (hin : GroupIn (.object name label arguments children) branches) :
    Aliased schema branches := by
  cases hin with
  | field hn hin => exact h _ hn _ hin

lemma allAliased_colorSelection (schema : Schema) : AllAliased schema colorSelection := by
  have hplain : ∀ m ∈ [.field "hex", .field "css", .object "rgba" none []
      (SelectionSet.ofNames ["r", "g", "b", "a"])], Selection.Plain m := by
    simp [Selection.field, Selection.Plain]
  intro n hn branches hin
  have hnode := SelectionSet.mem_of_mem_ofList hplain hn
  simp only [List.mem_cons, List.not_mem_nil, or_false] at hnode
  rcases hnode with rfl | rfl | rfl
  · cases hin
  · cases hin
  · exact aliased_object (allAliased_ofNames schema _) hin

lemma allAliased_structured (schema : Schema) {s : SelectionSet} (hs : s ∈ structuredSelections) :
    AllAliased schema s := by
  simp only [structuredSelections, List.mem_cons, List.not_mem_nil, or_false] at hs
  rcases hs with rfl | rfl | rfl | rfl
  · exact allAliased_ofNames schema _
  · exact allAliased_colorSelection schema
  · exact allAliased_ofNames schema _
  · exact allAliased_ofNames schema _

section Fields

variable {follow : String → Option SelectionSet}
  (hfollow : ∀ target s, follow target = some s →
    FollowedTo schema (AllAliased schema) target s)

include hfollow

/-- The branches of a polymorphic field are aliased. -/
lemma aliased_branchesOf (targets : List String) : Aliased schema (branchesOf follow targets) := by
  refine ⟨Entries.nodup_keys_ofList _, fun b hb => ?_, fun b hb key hkey => ?_⟩
  · obtain ⟨s, hfollowed, -⟩ := of_mem_branchesOf hfollow hb
    exact hfollowed.known
  · obtain ⟨s, hfollowed, -, hnodes⟩ := of_mem_branchesOf hfollow hb
    obtain ⟨m, hm, rfl⟩ := List.mem_map.mp hkey
    obtain ⟨n, hn, hnm⟩ := hnodes m hm
    exact ⟨n.key, key_aliasNode (hfollowed.plain n hn) hnm⟩

/-- All branches below a field are aliased when those of the types it refers to are. -/
lemma aliased_fieldNode {f : Field} (h : fieldNode follow f = some n)
    (hin : GroupIn n branches) : Aliased schema branches := by
  rcases fieldNode_forms h with rfl | ⟨children, rfl, hs | ⟨target, hs⟩ | ⟨targets, rfl⟩⟩
  · cases hin
  · exact aliased_object (allAliased_structured schema hs) hin
  · exact aliased_object (hfollow target children hs).holds hin
  · refine aliased_object (fun m hm inner hin => ?_) hin
    simp only [List.mem_cons, List.not_mem_nil, or_false] at hm
    rcases hm with rfl | rfl
    · cases hin
    · cases hin with
      | here => exact aliased_branchesOf hfollow targets
      | branch hb hn hin =>
          -- a node of a branch has below it what the node of the candidate has
          obtain ⟨s, hfollowed, -, hnodes⟩ := of_mem_branchesOf hfollow hb
          obtain ⟨k, hk, hkm⟩ := hnodes _ hn
          exact hfollowed.holds k hk inner (groupIn_of_aliasNode hkm hin)

end Fields

/-- **The selections that are made for a schema**: of a type at the end of a path, and of a whole
document. -/
inductive Schema.Compiles (schema : Schema) : SelectionSet → Prop where
  | type (type : String) (ledger : Ledger) : Compiles schema (typeSelection schema type ledger)
  | root (type : String) : Compiles schema (rootSelection schema type)

lemma allAliased_typeSelection (schema : Schema) (type : String) (ledger : Ledger) :
    AllAliased schema (typeSelection schema type ledger) := by
  cases ht : schema.get? type with
  | none =>
      rw [typeSelection_eq, selectionOfType, ht]
      exact allAliased_ofNames schema [typenameField]
  | some t =>
      refine typeSelection_induction (fun follow t _ hfollow n hn branches hin => ?_) ledger ht
      rcases of_mem_selectionOfFields hn with rfl | ⟨f, -, hfn⟩
      · cases hin
      · exact aliased_fieldNode hfollow hfn hin

lemma allAliased_rootSelection (schema : Schema) (type : String) :
    AllAliased schema (rootSelection schema type) := by
  cases ht : schema.get? type with
  | none =>
      rw [rootSelection, typeSelection_eq, selectionOfType, Schema.model?, ht]
      exact allAliased_ofNames schema [typenameField, "id"]
  | some t =>
      intro n hn branches hin
      rcases (mem_rootSelection ht).mp hn with hlast | ⟨hn, -⟩
      · have hnode := rootNodes_subset t hlast.mem
        simp only [List.mem_cons, List.not_mem_nil, or_false] at hnode
        rcases hnode with rfl | rfl | rfl
        · cases hin
        · cases hin
        · exact aliased_object (allAliased_ofNames schema _) hin
      · exact allAliased_typeSelection schema type _ n hn branches hin

/-- **All branches that are asked for are aliased.** -/
lemma allAliased_compiled {s : SelectionSet} (h : schema.Compiles s) : AllAliased schema s := by
  cases h with
  | type type ledger => exact allAliased_typeSelection schema type ledger
  | root type => exact allAliased_rootSelection schema type

/-- **Which branches share a key.**  In the selections that are made for a schema, at any depth, the
branches of two types share a key only where the name of one of the types goes on behind the other
with the mark of an alias.  When no type of the schema has the mark in its name, no two branches of
a polymorphic field share a key. -/
theorem sharedKey_goesOn {s : SelectionSet} (hs : schema.Compiles s) (hn : n ∈ s)
    (hin : GroupIn n branches) :
    (∀ a ∈ branches, ∀ b ∈ branches, a.1 ≠ b.1 →
      ∀ key, key ∈ SelectionSet.keys a.2 → key ∈ SelectionSet.keys b.2 →
        GoesOn a.1 b.1 ∨ GoesOn b.1 a.1) ∧
    ((∀ type ∈ schema.types.keys, ¬ HasMark type) →
      branches.Pairwise fun a b => (SelectionSet.keys a.2).Disjoint (SelectionSet.keys b.2)) := by
  have haliased := allAliased_compiled hs n hn branches hin
  exact ⟨fun a ha b hb hne key => haliased.goesOn ha hb hne, haliased.disjoint⟩

end Compiled

/-! ### Boxes in a crate -/

private def crate (targets : List String) : ContentType :=
  .ofFields "Crate" "Crates" .model [⟨"content", .polymorphic targets, true⟩]

private def boxOf (field : String) : ContentType :=
  .ofFields "Box" "Boxes" .component [⟨field, .scalar, false⟩]

/-- A type that goes on behind the name of another one. -/
private def clashingCrates : Schema :=
  .ofTypes [crate ["Box", "Box_alias_"], boxOf "alias__size",
    .ofFields "Box_alias_" "Others" .component [⟨"size", .scalar, false⟩]]

/-- Types whose fields have the same name. -/
private def plainCrates : Schema :=
  .ofTypes [crate ["Box", "Bag"], boxOf "size",
    .ofFields "Bag" "Bags" .component [⟨"size", .scalar, false⟩]]

/-- The branch of a box or bag with one field under a key. -/
private def branchOf (type field key : String) : String × List Selection :=
  (type, [.leaf field (some key)])

/-- The node of the content of a crate. -/
private def contentOf (branches : Branches) : Selection :=
  .object "content" none [] [.field typenameField, .on branches]

private lemma groupIn_contentOf (branches : Branches) : GroupIn (contentOf branches) branches :=
  .field (List.mem_cons_of_mem _ List.mem_cons_self) (.here branches)

/-- **Two types share a key** where one goes on behind the other with the mark.  Without the mark,
fields of the same name have keys of their own. -/
theorem sharedKey_goesOn_crates :
    (∃ n ∈ rootSelection clashingCrates "Crate", ∃ branches, GroupIn n branches ∧
      ∃ a ∈ branches, ∃ b ∈ branches, a.1 = "Box" ∧ b.1 = "Box_alias_" ∧
        "__Box_alias__alias__size" ∈ SelectionSet.keys a.2 ∧
        "__Box_alias__alias__size" ∈ SelectionSet.keys b.2 ∧
        (GoesOn "Box" "Box_alias_" ∨ GoesOn "Box_alias_" "Box")) ∧
    (∀ type ∈ plainCrates.types.keys, ¬ HasMark type) ∧
    ∃ n ∈ rootSelection plainCrates "Crate", ∃ branches, GroupIn n branches ∧
      Entries.keys branches = ["Box", "Bag"] ∧
      branches.Pairwise fun a b => (SelectionSet.keys a.2).Disjoint (SelectionSet.keys b.2) := by
  have hmark : ∀ type ∈ plainCrates.types.keys, ¬ HasMark type := by
    simp only [hasMark_iff]
    decide
  refine ⟨?_, hmark, ?_⟩
  · let box := branchOf "Box" "alias__size" "__Box_alias__alias__size"
    let other := branchOf "Box_alias_" "size" "__Box_alias__alias__size"
    have hnode : contentOf [box, other] ∈ rootSelection clashingCrates "Crate" :=
      List.mem_cons_of_mem _ List.mem_cons_self
    have hbox : box ∈ [box, other] := List.mem_cons_self
    have hother : other ∈ [box, other] := List.mem_cons_of_mem _ List.mem_cons_self
    obtain ⟨hshared, -⟩ := sharedKey_goesOn (.root "Crate") hnode (groupIn_contentOf _)
    exact ⟨_, hnode, _, groupIn_contentOf _, box, hbox, other, hother, rfl, rfl,
      List.mem_cons_self, List.mem_cons_self, hshared box hbox other hother
        (by simp [box, other, branchOf]) _ List.mem_cons_self List.mem_cons_self⟩
  · let box := branchOf "Box" "size" "__Box_alias__size"
    let bag := branchOf "Bag" "size" "__Bag_alias__size"
    have hnode : contentOf [box, bag] ∈ rootSelection plainCrates "Crate" :=
      List.mem_cons_of_mem _ List.mem_cons_self
    obtain ⟨-, hdisjoint⟩ := sharedKey_goesOn (.root "Crate") hnode (groupIn_contentOf _)
    exact ⟨_, hnode, _, groupIn_contentOf _, rfl, hdisjoint hmark⟩

end ContentSync
