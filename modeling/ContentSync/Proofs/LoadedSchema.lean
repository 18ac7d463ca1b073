import ContentSync.Proofs.FieldSelection
import ContentSync.Proofs.LastValues
import ContentSync.Proofs.ModelDescriptions

/-!
# What a content model says about the schema

A schema has one type for every name that a content model defines, models and components alike, and
the last definition of a name counts.  A type has the fields of its definition that are of a
supported kind, and its table of relations says of its fields what their kinds say.

* `Describes` — what a described field becomes; `describes_iff` says that nothing else does.
* `RefersTo` — what the kind of a field says about what it refers to.
* `Defines` — a type as its definition describes it, and `Loaded` a schema of such types.
* `relation?_ofFields` — the table of relations of fields with different names.
* `ofContentModel_loaded` — the schema of any content model, and that the model is read.
-/

namespace ContentSync

/-! ## Fields -/

/-- **What a described field becomes.**  The kind of a plain field depends on the name of the type
of its values, and a reference to assets is an image. -/
inductive Describes : ManagedField → Field → Prop where
  | richText (name : String) (isList : Bool) :
      Describes (.simple name isList "RICHTEXT") ⟨name, .richText, isList⟩
  | color (name : String) (isList : Bool) :
      Describes (.simple name isList "COLOR") ⟨name, .color, isList⟩
  | location (name : String) (isList : Bool) :
      Describes (.simple name isList "LOCATION") ⟨name, .location, isList⟩
  | scalar (name : String) (isList : Bool) {type : String}
      (h : type ∉ ["RICHTEXT", "COLOR", "LOCATION"]) :
      Describes (.simple name isList type) ⟨name, .scalar, isList⟩
  | enumerable (name : String) (isList : Bool) :
      Describes (.enumerable name isList) ⟨name, .scalar, isList⟩
  | image (name : String) (isList : Bool) :
      Describes (.relational name isList assetTypename) ⟨name, .image, isList⟩
  | relation (name : String) (isList : Bool) {model : String} (h : model ≠ assetTypename) :
      Describes (.relational name isList model) ⟨name, .relation model, isList⟩
  | union (name : String) (isList : Bool) (members : List String) :
      Describes (.union name isList members) ⟨name, .polymorphic members, isList⟩
  | component (name : String) (isList : Bool) (component : String) :
      Describes (.component name isList component) ⟨name, .relation component, isList⟩
  | componentUnion (name : String) (isList : Bool) (components : List String) :
      Describes (.componentUnion name isList components) ⟨name, .polymorphic components, isList⟩

lemma ofSimple_of_notMem {type : String} (h : type ∉ ["RICHTEXT", "COLOR", "LOCATION"]) :
    FieldKind.ofSimple type = .scalar := by
  simp only [List.mem_cons, List.not_mem_nil, or_false, not_or] at h
  obtain ⟨hrich, hcolor, hlocation⟩ := h
  rw [FieldKind.ofSimple]
  · exact hrich
  · exact hcolor
  · exact hlocation

/-- **A described field becomes what it describes**, and nothing else. -/
theorem describes_iff {d : ManagedField} {f : Field} : Describes d f ↔ d.field? = some f := by
  constructor
  · intro h
    cases h with
    | scalar name isList htype => rw [ManagedField.field?, ofSimple_of_notMem htype]
    | relation name isList hmodel => rw [ManagedField.field?, FieldKind.ofModel, if_neg hmodel]
    | _ => rfl
  · intro h
    cases d with
    | simple name isList type =>
        cases h
        by_cases htype : type ∈ ["RICHTEXT", "COLOR", "LOCATION"]
        · simp only [List.mem_cons, List.not_mem_nil, or_false] at htype
          rcases htype with rfl | rfl | rfl
          · exact .richText name isList
          · exact .color name isList
          · exact .location name isList
        · rw [ofSimple_of_notMem htype]
          exact .scalar name isList htype
    | enumerable name isList =>
        cases h
        exact .enumerable name isList
    | relational name isList model =>
        cases h
        rw [FieldKind.ofModel]
        split
        · next hasset =>
            subst hasset
            exact .image name isList
        · next hmodel => exact .relation name isList hmodel
    | union name isList members =>
        cases h
        exact .union name isList members
    | component name isList component =>
        cases h
        exact .component name isList component
    | componentUnion name isList components =>
        cases h
        exact .componentUnion name isList components
    | unsupported => cases h

lemma field?_eq_none_iff {d : ManagedField} : d.field? = none ↔ d = .unsupported := by
  cases d <;> simp [ManagedField.field?]

/-- The supported fields become fields one by one, in order. -/
lemma describes_filterMap (described : List ManagedField) :
    List.Forall₂ Describes (described.filter fun d => d ≠ .unsupported)
      (described.filterMap ManagedField.field?) := by
  induction described with
  | nil => exact .nil
  | cons d rest ih =>
      cases h : d.field? with
      | none =>
          obtain rfl := field?_eq_none_iff.mp h
          rwa [List.filterMap_cons_none h, List.filter_cons_of_neg (by simp)]
      | some f =>
          have hsupported : d ≠ .unsupported := fun hd => by
            rw [field?_eq_none_iff.mpr hd] at h
            cases h
          rw [List.filterMap_cons_some h, List.filter_cons_of_pos (by simpa using hsupported)]
          exact .cons (describes_iff.mpr h) ih

/-! ## Relations -/

/-- **What the kind of a field says about what it refers to.** -/
inductive RefersTo : Field → Relation → Prop where
  | one (name target : String) (isList : Bool) :
      RefersTo ⟨name, .relation target, isList⟩ ⟨[target], false, isList⟩
  | several (name : String) (targets : List String) (isList : Bool) :
      RefersTo ⟨name, .polymorphic targets, isList⟩ ⟨targets, true, isList⟩

lemma refersTo_iff {f : Field} {r : Relation} : RefersTo f r ↔ f.relation? = some r := by
  constructor
  · rintro (_ | _) <;> rfl
  · obtain ⟨name, kind, isList⟩ := f
    intro h
    cases kind with
    | relation target =>
        cases h
        exact .one name target isList
    | polymorphic targets =>
        cases h
        exact .several name targets isList
    | _ => cases h

namespace ContentType

/-- A field is entered in a table of relations if it refers to something. -/
def enter (table : OrderedMap Relation) (f : Field) : OrderedMap Relation :=
  match f.relation? with
  | some r => table.insert f.name r
  | none => table

/-- The entries of some fields in a table of relations. -/
def relationEntries (fields : List Field) : List (String × Relation) :=
  fields.filterMap fun f => f.relation?.map (f.name, ·)

lemma entries_foldl_enter (fields : List Field) (table : OrderedMap Relation) :
    (fields.foldl enter table).entries =
      Entries.insertAll table.entries (relationEntries fields) := by
  induction fields generalizing table with
  | nil => rfl
  | cons f rest ih =>
      rw [List.foldl_cons, ih, enter, relationEntries, relationEntries, List.filterMap_cons]
      cases f.relation? <;> rfl

lemma foldl_push (fields : List Field) (t : ContentType) :
    fields.foldl push t = { t with
      fields := t.fields ++ fields
      relations := fields.foldl enter t.relations } := by
  induction fields generalizing t with
  | nil => simp
  | cons f rest ih =>
      rw [List.foldl_cons, ih, push, List.append_assoc]
      rfl

variable (name plural : String) (kind : TypeKind)

/-- A type holds its fields as they are given, and what they refer to. -/
lemma ofFields_eq (fields : List Field) :
    ofFields name plural kind fields = ⟨name, plural, kind, fields, fields.foldl enter .empty⟩ :=
  foldl_push fields (empty name plural kind)

lemma relationEntries_keys_sublist (fields : List Field) :
    (Entries.keys (relationEntries fields)).Sublist (fields.map Field.name) := by
  induction fields with
  | nil => exact .slnil
  | cons f rest ih =>
      rw [relationEntries, List.filterMap_cons]
      cases f.relation? with
      | none => exact ih.cons f.name
      | some r => exact ih.cons_cons f.name

/-- Among fields with different names, a field is found under its own name. -/
lemma field?_eq_some_iff {t : ContentType} (h : (t.fields.map Field.name).Nodup) {name : String}
    {f : Field} : t.field? name = some f ↔ f ∈ t.fields ∧ f.name = name := by
  constructor
  · intro hf
    exact ⟨List.mem_of_find?_eq_some hf, by simpa using List.find?_some hf⟩
  · rintro ⟨hf, rfl⟩
    exact find?_of_nodup_map h hf

/-- **The table of relations agrees with the fields** when these have different names. -/
theorem relation?_ofFields {fields : List Field} (h : (fields.map Field.name).Nodup)
    (field : String) (r : Relation) :
    (ofFields name plural kind fields).relation? field = some r ↔
      ∃ f, (ofFields name plural kind fields).field? field = some f ∧ RefersTo f r := by
  have hkeys : (Entries.keys (relationEntries fields)).Nodup :=
    h.sublist (relationEntries_keys_sublist fields)
  have hentries : (fields.foldl enter .empty).entries = relationEntries fields :=
    (entries_foldl_enter fields .empty).trans (Entries.ofList_of_nodup hkeys)
  rw [ofFields_eq, relation?, OrderedMap.get?, hentries, Entries.get?_eq_some_iff hkeys,
    relationEntries, List.mem_filterMap]
  simp only [field?_eq_some_iff (t := ⟨name, plural, kind, fields, fields.foldl enter .empty⟩) h,
    refersTo_iff, Option.map_eq_some_iff, Prod.mk.injEq]
  constructor
  · rintro ⟨f, hf, _, hr, hname, rfl⟩
    exact ⟨f, ⟨hf, hname⟩, hr⟩
  · rintro ⟨f, ⟨hf, hname⟩, hr⟩
    exact ⟨f, hf, r, hr, hname, rfl⟩

end ContentType

/-! ## Types -/

/-- **A type as its definition describes it.**  When its fields have different names, the table of
relations and the fields agree. -/
structure Defines (kind : TypeKind) (d : ManagedType) (t : ContentType) : Prop where
  name : t.name = d.name
  plural : t.plural = d.plural
  kind : t.kind = kind
  fields : List.Forall₂ Describes (d.fields.filter fun f => f ≠ .unsupported) t.fields
  relations : (t.fields.map Field.name).Nodup → ∀ field r,
    t.relation? field = some r ↔ ∃ f, t.field? field = some f ∧ RefersTo f r

lemma defines_toType (kind : TypeKind) (d : ManagedType) : Defines kind d (d.toType kind) := by
  have hparts := ContentType.ofFields_eq d.name d.plural kind
    (d.fields.filterMap ManagedField.field?)
  have hfields : (d.toType kind).fields = d.fields.filterMap ManagedField.field? :=
    congrArg ContentType.fields hparts
  refine ⟨congrArg ContentType.name hparts, congrArg ContentType.plural hparts,
    congrArg ContentType.kind hparts, ?_, fun hnames => ?_⟩
  · rw [hfields]
    exact describes_filterMap d.fields
  · rw [hfields] at hnames
    exact ContentType.relation?_ofFields d.name d.plural kind hnames

/-! ## Schemas -/

/-- The definitions of a content model, each with the kind of type that it defines: the models but
for those of the system, and then the components. -/
def ContentModel.definitions (m : ContentModel) : List (TypeKind × ManagedType) :=
  (m.models.filter fun d => !d.isSystem).map (.model, ·) ++ m.components.map (.component, ·)

/-- **The schema of some definitions.**  Its types stand in the order in which their names are first
defined, and each is as its name is last defined. -/
structure Loaded (definitions : List (TypeKind × ManagedType)) (schema : Schema) : Prop where
  order : schema.all.map ContentType.name = (definitions.map fun d => d.2.name).eraseDups
  type : ∀ name, Option.Rel (fun d t => Defines d.1 d.2 t)
    ((definitions.filter fun d => d.2.name = name).getLast?) (schema.get? name)

/-- The last definition of a name defines the type of that name. -/
lemma Loaded.exists_get? {definitions : List (TypeKind × ManagedType)} {schema : Schema}
    (h : Loaded definitions schema) (name : String) {d : TypeKind × ManagedType}
    (hlast : (definitions.filter fun d => d.2.name = name).getLast? = some d) :
    ∃ t, schema.get? name = some t ∧ Defines d.1 d.2 t := by
  have htype := h.type name
  rw [hlast] at htype
  generalize schema.get? name = found at htype ⊢
  cases htype with
  | some hdefines => exact ⟨_, rfl, hdefines⟩

section Types

variable (types : List ContentType)

/-- The types of a schema stand in the order in which their names occur first. -/
lemma Schema.names_ofTypes :
    (Schema.ofTypes types).all.map ContentType.name = (types.map ContentType.name).eraseDups := by
  have hkeys : Entries.keys (types.map fun t => (t.name, t)) = types.map ContentType.name := by
    rw [Entries.keys, List.map_map]
    rfl
  have hnamed : (Schema.ofTypes types).all.map ContentType.name =
      Entries.keys (Schema.ofTypes types).types.entries := by
    rw [Schema.all, OrderedMap.values, List.map_map, Entries.keys]
    exact List.map_congr_left fun e he => (Schema.name_of_mem_entries he).symm
  rw [hnamed, Schema.entries_ofTypes, (Entries.lastValues_ofList _).keys, hkeys]

/-- A name has the last type of that name. -/
lemma Schema.get?_ofTypes (name : String) :
    (Schema.ofTypes types).get? name = (types.filter fun t => t.name = name).getLast? := by
  rw [Schema.get?, OrderedMap.get?, Schema.entries_ofTypes, (Entries.lastValues_ofList _).get?,
    Entries.lastOf?, List.filter_map, List.getLast?_map, Option.map_map]
  exact Option.map_id'

end Types

lemma ofContentModel_eq (m : ContentModel) : Schema.ofContentModel m =
    .ofTypes (m.definitions.map fun d => d.2.toType d.1) := by
  rw [Schema.ofContentModel, ContentModel.definitions, List.map_append, List.map_map, List.map_map]
  rfl

/-- **The schema of a content model**: the types that its models and components define, in order,
the last definition of a name for good, each with its fields of supported kinds, in order, and a
table of relations that agrees with them.  What is written of a content model is read as that model.
-/
theorem ofContentModel_loaded (m : ContentModel) :
    Loaded m.definitions (Schema.ofContentModel m) ∧
      ∀ v, WrittenModel v m → ContentModel.reader.ofJson v = .ok m := by
  refine ⟨?_, fun v hv => hv.read⟩
  have hname (d : TypeKind × ManagedType) : (d.2.toType d.1).name = d.2.name :=
    (defines_toType d.1 d.2).name
  rw [ofContentModel_eq]
  refine ⟨?_, fun name => ?_⟩
  · rw [Schema.names_ofTypes, List.map_map]
    exact congrArg List.eraseDups (List.map_congr_left fun d _ => hname d)
  · have hlast : (m.definitions.filter ((fun t => t.name = name) ∘ fun d => d.2.toType d.1)) =
        m.definitions.filter fun d => d.2.name = name :=
      List.filter_congr fun d _ => by simp [hname]
    rw [Schema.get?_ofTypes, List.filter_map, List.getLast?_map, hlast]
    cases (m.definitions.filter fun d => d.2.name = name).getLast? with
    | none => exact .none
    | some d => exact .some (defines_toType d.1 d.2)

/-! ### A component with the name of a model -/

section Quotes

/-- The fields of posts, one of which is of a kind that is not supported. -/
def postFields : List ManagedField :=
  [.relational "cover" false "Asset", .unsupported, .component "quote" false "Quote",
    .union "related" true ["Post", "Quote"]]

/-- Posts with a quote, and two definitions of what a quote is. -/
def quoteModel : ContentModel where
  models := [⟨"Asset", "Assets", true, []⟩, ⟨"Quote", "Quotes", false, []⟩,
    ⟨"Post", "Posts", false, postFields⟩]
  components := [⟨"Quote", "Quotations", false, [.simple "text" false "RICHTEXT"]⟩]

/-- It can be written down. -/
lemma exists_written_quoteModel : ∃ v, WrittenModel v quoteModel := by
  have hfields : List.Forall₂ WrittenField _ postFields :=
    .cons (.uniDirectional "cover" false "Asset") <|
      .cons (.unsupported (show "RemoteField" ∉ supportedKinds by decide)
        (show "__typename" ∉ Entries.keys [] from List.not_mem_nil)) <|
        .cons (.component "quote" false "Quote") <|
          .cons (.union "related" true ["Post", "Quote"]) .nil
  have hmodels : List.Forall₂ WrittenType _ quoteModel.models :=
    .cons (.fields "Asset" "Assets" true .nil) <|
      .cons (.fields "Quote" "Quotes" false .nil) <|
        .cons (.fields "Post" "Posts" false hfields) .nil
  have hcomponents : List.Forall₂ WrittenType _ quoteModel.components :=
    .cons (.fields "Quote" "Quotations" false (.cons (.simple "text" false "RICHTEXT") .nil)) .nil
  exact ⟨_, .parts hmodels hcomponents⟩

/-- The component takes the place of the model, and posts refer to quotes and related items, but not
to their cover. -/
theorem ofContentModel_loaded_quotes :
    let schema := Schema.ofContentModel quoteModel
    (∃ v, WrittenModel v quoteModel ∧ ContentModel.reader.ofJson v = .ok quoteModel) ∧
    schema.all.map ContentType.name = ["Quote", "Post"] ∧
    (∃ t, schema.get? "Quote" = some t ∧ t.kind = .component ∧ t.plural = "Quotations") ∧
    ∃ t, schema.get? "Post" = some t ∧ (t.fields.map Field.name).Nodup ∧
      t.relation? "quote" = some ⟨["Quote"], false, false⟩ ∧
      t.relation? "related" = some ⟨["Post", "Quote"], true, true⟩ ∧
      t.relation? "cover" = none := by
  intro schema
  obtain ⟨hloaded, hread⟩ := ofContentModel_loaded quoteModel
  obtain ⟨v, hv⟩ := exists_written_quoteModel
  have horder : schema.all.map ContentType.name = ["Quote", "Post"] := by
    rw [hloaded.order]
    decide +kernel
  obtain ⟨quote, hquote, hquoteDef⟩ := hloaded.exists_get? "Quote" (d := (.component, _)) rfl
  obtain ⟨post, hpost, hpostDef⟩ := hloaded.exists_get? "Post" (d := (.model, _)) rfl
  have hfields : post.fields = [⟨"cover", .image, false⟩, ⟨"quote", .relation "Quote", false⟩,
      ⟨"related", .polymorphic ["Post", "Quote"], true⟩] := by
    have hdescribed := hpostDef.fields
    simpa [postFields, List.forall₂_cons_left_iff, describes_iff, ManagedField.field?,
      FieldKind.ofModel, assetTypename] using hdescribed
  have hnames : (post.fields.map Field.name).Nodup := by
    rw [hfields]
    decide
  have hrelations := hpostDef.relations hnames
  simp only [ContentType.field?, hfields] at hrelations
  refine ⟨⟨v, hv, hread v hv⟩, horder, ⟨quote, hquote, hquoteDef.kind, hquoteDef.plural⟩,
    post, hpost, hnames, ?_, ?_, ?_⟩
  · exact (hrelations _ _).mpr ⟨_, rfl, .one "quote" "Quote" false⟩
  · exact (hrelations _ _).mpr ⟨_, rfl, .several "related" ["Post", "Quote"] true⟩
  · refine Option.eq_none_iff_forall_ne_some.mpr fun r hr => ?_
    obtain ⟨f, hf, hrefers⟩ := (hrelations _ _).mp hr
    cases hf
    cases hrefers

end Quotes

end ContentSync
