import ContentSync.Proofs.Insertion
import ContentSync.Schema.Selection

/-!
# What the selection of a type holds

The selection of a type is made over the headroom of its ledger, and its nodes are inserted one by
one.  Here it is read as what it means: a reference is followed exactly when its type is in the
schema and its ledger allows the visit (`typeSelection_eq`), every field has its node under its own
name (`get?_selectionOfFields`), and every candidate of a polymorphic field that can be followed has
its branch (`get?_branchesOf`), in which every field stands under its alias (`get?_aliasBranch`).

* `typeSelection_eq` — the selection of a type without the headroom.
* `Ledger.visit_induction` — induction over the paths of a schema.
* `Selection.Plain` — a field under its own name, as the nodes of a type are.
* `fieldNode_forms` — the forms of the node of a field.
* `get?_selectionOfFields`, `get?_aliasBranch`, `get?_branchesOf` — what is found under a key.
* `selectionOfFields_congr` — the selection of a type depends only on the types it refers to.
-/

namespace ContentSync

open GraphQL

/-! ## Schemas -/

namespace Schema

/-- The fields of every type have distinct names. -/
def DistinctFields (schema : Schema) : Prop :=
  ∀ t ∈ schema.all, (t.fields.map Field.name).Nodup

instance (schema : Schema) : Decidable schema.DistinctFields :=
  inferInstanceAs (Decidable (∀ t ∈ schema.all, (t.fields.map Field.name).Nodup))

lemma mem_all {schema : Schema} {type : String} {t : ContentType}
    (h : schema.get? type = some t) : t ∈ schema.all :=
  List.mem_map.mpr ⟨(type, t), Entries.mem_of_get? h, rfl⟩

lemma entries_ofTypes (types : List ContentType) : (Schema.ofTypes types).types.entries =
    Entries.ofList (types.map fun t => (t.name, t)) := by
  have hfold : ∀ (types : List ContentType) (s : Schema),
      (types.foldl Schema.insert s).types.entries =
        Entries.insertAll s.types.entries (types.map fun t => (t.name, t)) := by
    intro types
    induction types with
    | nil => exact fun s => rfl
    | cons t rest ih => exact fun s => ih (s.insert t)
  exact hfold types .empty

/-- Every type stands under its own name. -/
lemma name_of_mem_entries {types : List ContentType} {e : String × ContentType}
    (h : e ∈ (Schema.ofTypes types).types.entries) : e.1 = e.2.name := by
  rw [entries_ofTypes] at h
  obtain ⟨t, -, rfl⟩ := List.mem_map.mp (Entries.mem_ofList h)
  rfl

lemma DistinctFields.nodup {schema : Schema} (hdistinct : schema.DistinctFields) {type : String}
    {t : ContentType} (ht : schema.get? type = some t) : (t.fields.map Field.name).Nodup :=
  hdistinct t (mem_all ht)

end Schema

/-! ## The headroom is enough -/

section Headroom

variable {schema : Schema}

lemma mem_keys_of_get? {type : String} {t : ContentType} (h : schema.get? type = some t) :
    type ∈ schema.types.keys := by
  by_contra hnot
  have hnone : schema.get? type = none := Entries.get?_eq_none_iff.mpr hnot
  rw [hnone] at h
  cases h

/-- A reference is followed into a type of the schema that may be visited once more. -/
theorem follow_eq_some_iff {below : String → Ledger → SelectionSet} {ledger : Ledger}
    {target : String} {s : SelectionSet} :
    follow schema below ledger target = some s ↔
      (schema.get? target).isSome ∧ ∃ next, ledger.visit target = some next ∧
        below target next = s := by
  rw [follow]
  cases schema.get? target with
  | none => simp
  | some t => simp [Option.map_eq_some_iff]

/-- Following depends only on the selections at the end of paths that are one visit longer. -/
lemma follow_congr {below below' : String → Ledger → SelectionSet} {ledger : Ledger}
    (h : ∀ target next, target ∈ schema.types.keys → ledger.visit target = some next →
      below target next = below' target next) :
    follow schema below ledger = follow schema below' ledger := by
  funext target
  rw [follow, follow]
  cases hget : schema.get? target with
  | none => rfl
  | some t =>
      cases hvisit : ledger.visit target with
      | none => rfl
      | some next => exact congrArg some (h target next (mem_keys_of_get? hget) hvisit)

lemma follow_eq_none {below : String → Ledger → SelectionSet} {ledger : Ledger}
    (h : ledger.headroom schema.types.keys = 0) :
    follow schema below ledger = fun _ => none := by
  funext target
  rw [follow]
  cases hget : schema.get? target with
  | none => rfl
  | some t =>
      cases hvisit : ledger.visit target with
      | none => rfl
      | some next =>
          have hlt := Ledger.headroom_visit hvisit (mem_keys_of_get? hget)
          omega

/-- With enough headroom, the selection within a depth follows every reference it meets. -/
lemma selectionWithin_eq (depth : Nat) : ∀ (type : String) (ledger : Ledger),
    ledger.headroom schema.types.keys ≤ depth →
    selectionWithin schema depth type ledger =
      selectionOfType schema type (follow schema (typeSelection schema) ledger) := by
  induction depth using Nat.strongRecOn with
  | _ depth ih =>
      intro type ledger hdepth
      cases depth with
      | zero => rw [selectionWithin, follow_eq_none (Nat.le_zero.mp hdepth)]
      | succ depth =>
          rw [selectionWithin]
          refine congrArg _ (follow_congr fun target next htarget hvisit => ?_)
          have hlt := Ledger.headroom_visit hvisit htarget
          rw [ih depth (Nat.lt_succ_self _) target next (by omega), typeSelection,
            ih _ (by omega) target next (Nat.le_refl _)]

/-- **The selection of a type**: every field, and a reference with the selection of its type at the
end of the path that is longer by it. -/
theorem typeSelection_eq (schema : Schema) (type : String) (ledger : Ledger) :
    typeSelection schema type ledger =
      selectionOfType schema type (follow schema (typeSelection schema) ledger) :=
  selectionWithin_eq _ type ledger (Nat.le_refl _)

lemma typeSelection_of_get? {type : String} {t : ContentType} (h : schema.get? type = some t)
    (ledger : Ledger) :
    typeSelection schema type ledger =
      selectionOfFields (follow schema (typeSelection schema) ledger) t.fields := by
  rw [typeSelection_eq, selectionOfType, h]

/-- **Induction over the paths of a schema**: what holds at the end of a path whenever it holds at
the ends of the paths that are one visit longer, holds at the end of every path. -/
theorem Ledger.visit_induction (schema : Schema) {motive : Ledger → Prop}
    (step : ∀ ledger : Ledger, (∀ {target t next}, schema.get? target = some t →
      ledger.visit target = some next → motive next) → motive ledger) (ledger : Ledger) :
    motive ledger := by
  induction hroom : ledger.headroom schema.types.keys using Nat.strongRecOn generalizing ledger with
  | _ room ih =>
      subst hroom
      refine step ledger fun ht hvisit => ih _ ?_ _ rfl
      exact Ledger.headroom_visit hvisit (mem_keys_of_get? ht)

end Headroom

/-! ## Nodes under their own names -/

namespace GraphQL.Selection

/-- A field without alias. -/
def Plain : Selection → Prop
  | .leaf _ label => label = none
  | .object _ label _ _ => label = none
  | .on _ => False

/-- The selection of a node. -/
def children? : Selection → Option (List Selection)
  | .object _ _ _ children => some children
  | _ => none

end GraphQL.Selection

namespace GraphQL.SelectionSet

/-- The selection of the object under a key. -/
def children? (s : SelectionSet) (key : String) : Option SelectionSet :=
  (s.get? key).bind Selection.children?

lemma nodup_keys_insert {s : SelectionSet} (h : (keys s).Nodup) (n : Selection) :
    (keys (insert s n)).Nodup := by
  rw [keys_insert]
  split
  · exact h
  · next hn =>
      refine List.nodup_append.mpr ⟨h, List.nodup_singleton _, ?_⟩
      intro a ha b hb hab
      rw [List.mem_singleton.mp hb] at hab
      exact hn (hab ▸ ha)

lemma nodup_keys_foldl_insert (nodes : List Selection) : ∀ {s : SelectionSet}, (keys s).Nodup →
    (keys (nodes.foldl insert s)).Nodup := by
  induction nodes with
  | nil => exact fun h => h
  | cons n rest ih => exact fun h => ih (nodup_keys_insert h n)

/-- No key occurs twice in a selection set that is built by inserting nodes. -/
theorem nodup_keys_ofList (nodes : List Selection) : (keys (ofList nodes)).Nodup :=
  nodup_keys_foldl_insert nodes List.nodup_nil

lemma insert_of_plain {s : SelectionSet} {n : Selection} (h : n.Plain) :
    insert s n = place s n := by
  cases n with
  | leaf name label => rfl
  | object name label arguments children => rfl
  | on branches => exact h.elim

/-- Inserted fields with distinct keys are found before those that were there. -/
lemma get?_foldl_insert {nodes : List Selection} (hplain : ∀ n ∈ nodes, n.Plain)
    (hnodup : (keys nodes).Nodup) (s : SelectionSet) (key : String) :
    get? (nodes.foldl insert s) key = (get? nodes key).or (get? s key) := by
  induction nodes generalizing s with
  | nil => rfl
  | cons n rest ih =>
      obtain ⟨hn, hrest⟩ := List.nodup_cons.mp hnodup
      rw [List.foldl_cons, ih (fun m hm => hplain m (List.mem_cons_of_mem _ hm)) hrest,
        insert_of_plain (hplain n List.mem_cons_self), get?_place, get?]
      by_cases hkey : n.key = key
      · have hnone : get? rest key = none := get?_eq_none_iff.mpr (hkey ▸ hn)
        simp [hkey, hnone]
      · simp [hkey]

/-- The last of some nodes with its key. -/
def IsLast (nodes : List Selection) (n : Selection) : Prop :=
  ∃ before after, nodes = before ++ n :: after ∧ n.key ∉ keys after

lemma IsLast.mem {nodes : List Selection} {n : Selection} (h : IsLast nodes n) : n ∈ nodes := by
  obtain ⟨before, after, rfl, -⟩ := h
  exact List.mem_append_right before List.mem_cons_self

lemma isLast_cons_iff {m n : Selection} {rest : List Selection} :
    IsLast (m :: rest) n ↔ (n = m ∧ n.key ∉ keys rest) ∨ IsLast rest n := by
  constructor
  · rintro ⟨_ | ⟨k, before⟩, after, hnodes, hafter⟩
    · obtain ⟨rfl, rfl⟩ := List.cons.inj hnodes
      exact .inl ⟨rfl, hafter⟩
    · obtain ⟨rfl, rfl⟩ := List.cons.inj hnodes
      exact .inr ⟨before, after, rfl, hafter⟩
  · rintro (⟨rfl, hrest⟩ | ⟨before, after, rfl, hafter⟩)
    · exact ⟨[], rest, rfl, hrest⟩
    · exact ⟨m :: before, after, rfl, hafter⟩

/-- **Of inserted fields the last one of each key is there**, beside what was there under other
keys. -/
theorem mem_foldl_insert {nodes : List Selection} (hplain : ∀ m ∈ nodes, m.Plain)
    {s : SelectionSet} (h : (keys s).Nodup) {n : Selection} :
    n ∈ nodes.foldl insert s ↔ IsLast nodes n ∨ (n ∈ s ∧ n.key ∉ keys nodes) := by
  induction nodes generalizing s with
  | nil => simp [IsLast, keys]
  | cons m rest ih =>
      obtain ⟨hm, hrest⟩ := List.forall_mem_cons.mp hplain
      rw [List.foldl_cons, ih hrest (nodup_keys_insert h m), insert_of_plain hm, mem_place h,
        isLast_cons_iff, keys, keys, List.map_cons, List.mem_cons]
      constructor
      · rintro (hlast | ⟨rfl | ⟨hn, hne⟩, hkey⟩)
        · exact .inl (.inr hlast)
        · exact .inl (.inl ⟨rfl, hkey⟩)
        · exact .inr ⟨hn, not_or.mpr ⟨hne, hkey⟩⟩
      · rintro ((⟨rfl, hkey⟩ | hlast) | ⟨hn, hkey⟩)
        · exact .inr ⟨.inl rfl, hkey⟩
        · exact .inl hlast
        · exact .inr ⟨.inr ⟨hn, (not_or.mp hkey).1⟩, (not_or.mp hkey).2⟩

/-- Nothing is made up when fields are inserted. -/
lemma mem_of_mem_ofList {nodes : List Selection} (hplain : ∀ m ∈ nodes, m.Plain) {n : Selection}
    (hn : n ∈ ofList nodes) : n ∈ nodes := by
  have hstart : (keys []).Nodup := List.nodup_nil
  rcases (mem_foldl_insert hplain hstart).mp hn with hlast | ⟨hn, -⟩
  · exact hlast.mem
  · exact absurd hn List.not_mem_nil

/-- A selection of names holds the fields of these names. -/
lemma exists_of_mem_ofNames {names : List String} {n : Selection} (hn : n ∈ ofNames names) :
    ∃ name ∈ names, n = .field name := by
  have hplain : ∀ m ∈ names.map Selection.field, m.Plain := by
    intro m hm
    obtain ⟨name, -, rfl⟩ := List.mem_map.mp hm
    rfl
  obtain ⟨name, hname, rfl⟩ := List.mem_map.mp (mem_of_mem_ofList hplain hn)
  exact ⟨name, hname, rfl⟩

end GraphQL.SelectionSet

/-! ## Fields -/

section Fields

variable {follow : String → Option SelectionSet} {f : Field} {fields : List Field}

/-- The selection of a polymorphic field: the name of the type and the branches. -/
lemma ofList_typename_on (branches : Branches) :
    SelectionSet.ofList [.field typenameField, .on branches] =
      [.field typenameField, .on branches] :=
  SelectionSet.ofList_of_nodup (by simp [SelectionSet.keys, Selection.key, Selection.field,
    typenameField, groupKey])

/-- What is read of a value that has parts. -/
def structuredSelections : List SelectionSet :=
  [richTextSelection, colorSelection, locationSelection, imageSelection]

/-- **The forms of the node of a field**: a plain field, a value with all its parts, a reference
with the selection that it is followed to, or branches for the candidates. -/
theorem fieldNode_forms {n : Selection} (h : fieldNode follow f = some n) :
    n = .field f.name ∨ ∃ children, n = .object f.name none [] children ∧
      (children ∈ structuredSelections ∨ (∃ target, follow target = some children) ∨
        ∃ targets, children = [.field typenameField, .on (branchesOf follow targets)]) := by
  cases hkind : f.kind with
  | scalar =>
      rw [fieldNode, hkind] at h
      exact .inl (Option.some.inj h).symm
  | richText | color | location | image =>
      rw [fieldNode, hkind] at h
      exact .inr ⟨_, (Option.some.inj h).symm, .inl (by simp [structuredSelections])⟩
  | relation target =>
      rw [fieldNode, hkind] at h
      obtain ⟨s, hs, rfl⟩ := Option.map_eq_some_iff.mp h
      exact .inr ⟨s, rfl, .inr (.inl ⟨target, hs⟩)⟩
  | polymorphic targets =>
      rw [fieldNode, hkind] at h
      dsimp only at h
      split at h
      · cases h
      · cases h
        exact .inr ⟨_, rfl, .inr (.inr ⟨targets, ofList_typename_on _⟩)⟩

lemma fieldNode_cases {n : Selection} (h : fieldNode follow f = some n) :
    n = .leaf f.name none ∨ ∃ children, n = .object f.name none [] children :=
  (fieldNode_forms h).imp_right fun ⟨children, hn, _⟩ => ⟨children, hn⟩

lemma key_fieldNode {n : Selection} (h : fieldNode follow f = some n) : n.key = f.name := by
  rcases fieldNode_cases h with rfl | ⟨children, rfl⟩ <;> rfl

lemma plain_fieldNode {n : Selection} (h : fieldNode follow f = some n) : n.Plain := by
  rcases fieldNode_cases h with rfl | ⟨children, rfl⟩ <;> rfl

lemma keys_filterMap_fieldNode (follow : String → Option SelectionSet) (fields : List Field) :
    (SelectionSet.keys (fields.filterMap (fieldNode follow))).Sublist (fields.map Field.name) := by
  induction fields with
  | nil => exact List.Sublist.slnil
  | cons f rest ih =>
      cases h : fieldNode follow f with
      | none =>
          rw [List.filterMap_cons_none h, List.map_cons]
          exact ih.cons _
      | some n =>
          rw [List.filterMap_cons_some h, SelectionSet.keys, List.map_cons, List.map_cons,
            key_fieldNode h]
          exact ih.cons_cons _

lemma plain_of_mem_filterMap {n : Selection} (h : n ∈ fields.filterMap (fieldNode follow)) :
    n.Plain := by
  obtain ⟨f, -, hf⟩ := List.mem_filterMap.mp h
  exact plain_fieldNode hf

lemma get?_filterMap_fieldNode (hnames : (fields.map Field.name).Nodup) (hf : f ∈ fields) :
    SelectionSet.get? (fields.filterMap (fieldNode follow)) f.name = fieldNode follow f := by
  have hnodup := hnames.sublist (keys_filterMap_fieldNode follow fields)
  cases h : fieldNode follow f with
  | some n =>
      rw [← key_fieldNode h]
      exact SelectionSet.get?_of_mem hnodup (List.mem_filterMap.mpr ⟨f, hf, h⟩)
  | none =>
      refine SelectionSet.get?_eq_none_iff.mpr fun hmem => ?_
      obtain ⟨n, hn, hkey⟩ := List.mem_map.mp hmem
      obtain ⟨g, hg, hgn⟩ := List.mem_filterMap.mp hn
      have hfg : f = g :=
        List.inj_on_of_nodup_map hnames hf hg (hkey.symm.trans (key_fieldNode hgn))
      rw [hfg, hgn] at h
      cases h

/-- **Every field stands under its name.**  Where a field is left out, only the name of the type can
be found instead, and only if the field has that name. -/
theorem get?_selectionOfFields (hnames : (fields.map Field.name).Nodup) (hf : f ∈ fields) :
    SelectionSet.get? (selectionOfFields follow fields) f.name =
      (fieldNode follow f).or
        (if f.name = typenameField then some (.field typenameField) else none) := by
  have hfold : selectionOfFields follow fields =
      (fields.filterMap (fieldNode follow)).foldl SelectionSet.insert [.field typenameField] := rfl
  rw [hfold, SelectionSet.get?_foldl_insert (fun _ => plain_of_mem_filterMap)
    (hnames.sublist (keys_filterMap_fieldNode follow fields)), get?_filterMap_fieldNode hnames hf]
  congr 1
  by_cases h : f.name = typenameField
  · simp [SelectionSet.get?, Selection.key, Selection.field, h]
  · simp [SelectionSet.get?, Selection.key, Selection.field, h, Ne.symm h]

lemma nodup_keys_selectionOfFields (follow : String → Option SelectionSet) (fields : List Field) :
    (SelectionSet.keys (selectionOfFields follow fields)).Nodup :=
  SelectionSet.nodup_keys_ofList _

/-- A selection holds the name of the type and the last kept field of each name. -/
lemma mem_selectionOfFields {n : Selection} :
    n ∈ selectionOfFields follow fields ↔
      SelectionSet.IsLast (fields.filterMap (fieldNode follow)) n ∨
        (n = .field typenameField ∧
          n.key ∉ SelectionSet.keys (fields.filterMap (fieldNode follow))) := by
  have hfold : selectionOfFields follow fields =
      (fields.filterMap (fieldNode follow)).foldl SelectionSet.insert [.field typenameField] := rfl
  have hstart : (SelectionSet.keys [.field typenameField]).Nodup := List.nodup_singleton _
  rw [hfold, SelectionSet.mem_foldl_insert (fun _ => plain_of_mem_filterMap) hstart,
    List.mem_singleton]

/-- What is selected of fields: the name of the type, and nodes of fields. -/
lemma of_mem_selectionOfFields {n : Selection} (hn : n ∈ selectionOfFields follow fields) :
    n = .field typenameField ∨ ∃ f ∈ fields, fieldNode follow f = some n := by
  rcases mem_selectionOfFields.mp hn with hlast | ⟨rfl, -⟩
  · exact .inr (List.mem_filterMap.mp hlast.mem)
  · exact .inl rfl

lemma plain_selectionOfFields {n : Selection} (hn : n ∈ selectionOfFields follow fields) :
    n.Plain := by
  rcases mem_selectionOfFields.mp hn with hlast | ⟨rfl, -⟩
  · exact plain_of_mem_filterMap hlast.mem
  · rfl

/-- The types that a field refers to. -/
def FieldKind.targets : FieldKind → List String
  | .relation target => [target]
  | .polymorphic targets => targets
  | _ => []

lemma fieldNode_congr {follow' : String → Option SelectionSet}
    (h : ∀ target ∈ f.kind.targets, follow target = follow' target) :
    fieldNode follow f = fieldNode follow' f := by
  rw [fieldNode, fieldNode]
  cases hkind : f.kind with
  | scalar | richText | color | location | image => rfl
  | relation target =>
      rw [hkind] at h
      dsimp only
      rw [h target (List.mem_singleton_self target)]
  | polymorphic targets =>
      rw [hkind] at h
      have hbranches : branchesOf follow targets = branchesOf follow' targets := by
        rw [branchesOf, branchesOf]
        refine congrArg _ (List.filterMap_congr fun target htarget => ?_)
        rw [h target htarget]
      dsimp only
      rw [hbranches]

lemma selectionOfFields_congr {follow' : String → Option SelectionSet}
    (h : ∀ f ∈ fields, ∀ target ∈ f.kind.targets, follow target = follow' target) :
    selectionOfFields follow fields = selectionOfFields follow' fields := by
  rw [selectionOfFields, selectionOfFields]
  have hnodes : fields.filterMap (fieldNode follow) = fields.filterMap (fieldNode follow') :=
    List.filterMap_congr fun f hf => fieldNode_congr (h f hf)
  rw [hnodes]

end Fields

/-! ## Branches -/

section Branches

variable {follow : String → Option SelectionSet} {targets : List String}

lemma aliasFor_injective (type : String) : Function.Injective (aliasFor type) := by
  intro a b h
  have hlist := String.ofList_injective h
  exact String.toList_injective (List.append_cancel_left hlist)

lemma key_aliasNode {type : String} {n m : Selection} (hplain : n.Plain)
    (h : aliasNode type n = some m) : m.key = aliasFor type n.key := by
  cases n with
  | leaf name label =>
      cases hplain
      rw [aliasNode] at h
      split at h
      · cases h
      · cases h
        rfl
  | object name label arguments children =>
      cases hplain
      cases h
      rfl
  | on branches => exact hplain.elim

lemma children?_aliasNode (type : String) (n : Selection) :
    (aliasNode type n).bind Selection.children? = n.children? := by
  cases n with
  | leaf name label =>
      rw [aliasNode]
      split <;> rfl
  | object name label arguments children => rfl
  | on branches => rfl

lemma keys_filterMap_aliasNode (type : String) : ∀ {s : SelectionSet}, (∀ n ∈ s, n.Plain) →
    (SelectionSet.keys (s.filterMap (aliasNode type))).Sublist (s.keys.map (aliasFor type))
  | [], _ => List.Sublist.slnil
  | n :: rest, hplain => by
      have ih := keys_filterMap_aliasNode type fun m hm => hplain m (List.mem_cons_of_mem n hm)
      cases h : aliasNode type n with
      | none =>
          rw [List.filterMap_cons_none h]
          exact ih.cons _
      | some m =>
          rw [List.filterMap_cons_some h, SelectionSet.keys, List.map_cons,
            key_aliasNode (hplain n List.mem_cons_self) h]
          exact ih.cons_cons _

/-- A branch consists of the aliased nodes. -/
theorem aliasBranch_eq (type : String) {s : SelectionSet} (hplain : ∀ n ∈ s, n.Plain)
    (hnodup : s.keys.Nodup) : aliasBranch type s = s.filterMap (aliasNode type) := by
  refine SelectionSet.ofList_of_nodup ?_
  exact (hnodup.map (aliasFor_injective type)).sublist (keys_filterMap_aliasNode type hplain)

lemma get?_filterMap_aliasNode (type key : String) : ∀ {s : SelectionSet},
    (∀ n ∈ s, n.Plain) → s.keys.Nodup →
    SelectionSet.get? (s.filterMap (aliasNode type)) (aliasFor type key) =
      (s.get? key).bind (aliasNode type)
  | [], _, _ => rfl
  | n :: rest, hplain, hnodup => by
      obtain ⟨hn, hrest⟩ := List.nodup_cons.mp hnodup
      have ih := get?_filterMap_aliasNode type key
        (fun m hm => hplain m (List.mem_cons_of_mem n hm)) hrest
      have hout : n.key = key → SelectionSet.get? rest key = none := by
        rintro rfl
        exact SelectionSet.get?_eq_none_iff.mpr hn
      cases h : aliasNode type n with
      | none =>
          rw [List.filterMap_cons_none h, ih, SelectionSet.get?]
          split
          · next hkey => rw [hout hkey, Option.bind_some, h, Option.bind_none]
          · rfl
      | some m =>
          rw [List.filterMap_cons_some h, SelectionSet.get?, SelectionSet.get?, ih,
            key_aliasNode (hplain n List.mem_cons_self) h]
          by_cases hkey : n.key = key
          · rw [if_pos hkey, if_pos (congrArg _ hkey), Option.bind_some, h]
          · rw [if_neg hkey, if_neg fun he => hkey (aliasFor_injective type he)]

/-- **In a branch every field stands under its alias**; only the name of the type is left out. -/
theorem get?_aliasBranch (type key : String) {s : SelectionSet} (hplain : ∀ n ∈ s, n.Plain)
    (hnodup : s.keys.Nodup) :
    SelectionSet.get? (aliasBranch type s) (aliasFor type key) =
      (s.get? key).bind (aliasNode type) := by
  rw [aliasBranch_eq type hplain hnodup, get?_filterMap_aliasNode type key hplain hnodup]

/-- **Every candidate that can be followed has its branch**, and no other type has one. -/
theorem get?_branchesOf (follow : String → Option SelectionSet) (targets : List String)
    (type : String) :
    Entries.get? (branchesOf follow targets) type =
      if type ∈ targets then (follow type).map (aliasBranch type) else none := by
  rw [branchesOf, Entries.ofList, Entries.get?_insertAll_filterMap]
  · rw [Option.map_map]
    simp only [Entries.get?_nil, Option.or_none]
    rfl
  · intro target pair h
    obtain ⟨selection, -, rfl⟩ := Option.map_eq_some_iff.mp h
    rfl

lemma branchesOf_isEmpty_iff :
    (branchesOf follow targets).isEmpty ↔ ∀ target ∈ targets, follow target = none := by
  rw [Entries.isEmpty_iff_get?]
  constructor
  · intro h target htarget
    have hget := h target
    rw [get?_branchesOf, if_pos htarget] at hget
    exact Option.map_eq_none_iff.mp hget
  · intro h type
    rw [get?_branchesOf]
    split
    · next htype => rw [h type htype, Option.map_none]
    · rfl

end Branches

end ContentSync
