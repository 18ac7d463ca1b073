import ContentSync.Proofs.LastValues
import ContentSync.Proofs.TypedReading
import ContentSync.Schema.ContentModel

/-!
# How content models are written

A content model is written as JSON: the models and the components, and their fields, each with the
name of its kind.  Seven kinds are supported, and the fields of each of them have a part of their
own.  A field of another kind is read whatever it consists of, and then it is left out.

* `Reader.tagged_ofJson` — an alternative that is named by the first member of an object.
* `WrittenField`, `WrittenType`, `WrittenModel` — what is written, and what it stands for.
* `WrittenModel.read` — that it is read so.
-/

namespace ContentSync.Json

/-! ## Alternatives -/

namespace Input

mutual

/-- A value is taken up as it is. -/
lemma buffer?_ofJson : ∀ v : Json, (ofJson v).buffer? = some (ofJson v)
  | .null => rfl
  | .bool _ => rfl
  | .number _ => rfl
  | .string _ => rfl
  | .array items => by rw [ofJson, buffer?, bufferItems?_ofItems items, Option.map_some]
  | .object members => by rw [ofJson, buffer?, bufferMembers?_ofMembers members, Option.map_some]

lemma bufferItems?_ofItems : ∀ items : List Json,
    bufferItems? (ofItems items) = some (ofItems items)
  | [] => rfl
  | v :: rest => by simp only [ofItems, bufferItems?, buffer?_ofJson v, bufferItems?_ofItems rest]

lemma bufferMembers?_ofMembers : ∀ members : List (String × Json),
    bufferMembers? (ofMembers members) = some (ofMembers members)
  | [] => rfl
  | (_, v) :: rest => by
      simp only [ofMembers, bufferMembers?, buffer?_ofJson v, bufferMembers?_ofMembers rest]

end

end Input

namespace Reader

variable {α : Type}

lemma takeTag_ofMembers {tag : String} {members : List (String × Json)}
    (h : tag ∉ Entries.keys members) (found : Option String) :
    takeTag tag (Input.ofMembers members) found = .ok (found, Input.ofMembers members) := by
  induction members with
  | nil => rfl
  | cons m rest ih =>
      obtain ⟨key, v⟩ := m
      obtain ⟨hkey, hrest⟩ := not_or.mp (List.mem_cons.not.mp h)
      rw [Input.ofMembers, takeTag, if_neg (Ne.symm hkey), Input.buffer?_ofJson]
      dsimp only
      rw [ih hrest]

/-- **An alternative that is named by the first member** is read from the others. -/
theorem tagged_ofJson {tag : String} (known : String → Option (Reader α)) (other : α)
    (kind : String) {members : List (String × Json)} (h : tag ∉ Entries.keys members) :
    (tagged tag known other).ofJson (.object ((tag, .string kind) :: members)) =
      match known kind with
      | some r => r.ofJson (.object members)
      | none => .ok other := by
  have htag : takeTag tag (Input.ofMembers ((tag, .string kind) :: members)) none =
      .ok (some kind, Input.ofMembers members) := by
    rw [Input.ofMembers, takeTag, if_pos rfl]
    exact takeTag_ofMembers h (some kind)
  rw [ofJson, Input.ofJson, tagged, htag]
  rfl

lemma andThen_ofJson {β : Type} {r : Reader α} {v : Json} {a : α} (h : r.ofJson v = .ok a)
    (f : α → Except ReadError β) : (r.andThen f).ofJson v = f a := by
  have hread : r (Input.ofJson v) = .ok a := h
  rw [ofJson, andThen, hread]

section InFull

variable {start a : α}

lemma members_inFull {given : List (Field α × Json)} {fields : List (Field α)}
    (hfields : ∀ g ∈ given, (fields.find? fun f => f.name == g.1.name) = some g.1)
    (hnames : (given.map fun g => g.1.name).Nodup) {seen : List String}
    (hseen : ∀ g ∈ given, g.1.name ∉ seen)
    (htake : given.foldlM (fun a g => g.1.take a (Input.ofJson g.2)) start = .ok a) :
    members fields skipMember (Input.ofMembers (given.map fun g => (g.1.name, g.2))) seen start =
      .ok ((given.map fun g => g.1.name).reverse ++ seen, a) := by
  induction given generalizing seen start with
  | nil =>
      cases htake
      rfl
  | cons g rest ih =>
      obtain ⟨hfield, hfields⟩ := List.forall_mem_cons.mp hfields
      obtain ⟨hnew, hnames⟩ := List.nodup_cons.mp hnames
      obtain ⟨hunseen, hseen⟩ := List.forall_mem_cons.mp hseen
      rw [List.foldlM_cons] at htake
      cases hfirst : g.1.take start (Input.ofJson g.2) with
      | error e =>
          rw [hfirst] at htake
          cases htake
      | ok next =>
          rw [hfirst] at htake
          have hlater : ∀ other ∈ rest, other.1.name ∉ g.1.name :: seen := by
            intro other hother
            have hne : other.1.name ≠ g.1.name := fun heq =>
              hnew (List.mem_map.mpr ⟨_, hother, heq⟩)
            exact List.not_mem_cons_of_ne_of_not_mem hne (hseen other hother)
          rw [List.map_cons, Input.ofMembers, members, hfield]
          dsimp only
          rw [if_neg hunseen, hfirst]
          dsimp only
          rw [ih hfields hnames hlater htake, List.map_cons, List.reverse_cons,
            List.append_assoc, List.singleton_append]

/-- **A record that is given in full**, its fields in order of declaration. -/
theorem record_inFull (given : List (Field α × Json)) (hnames : (given.map fun g => g.1.name).Nodup)
    (htake : given.foldlM (fun a g => g.1.take a (Input.ofJson g.2)) start = .ok a) :
    (record (given.map Prod.fst) start).ofJson
      (.object (given.map fun g => (g.1.name, g.2))) = .ok a := by
  have hfields : ∀ g ∈ given,
      ((given.map Prod.fst).find? fun f => f.name == g.1.name) = some g.1 := by
    intro g hg
    exact find?_of_nodup_map (by rwa [List.map_map]) (List.mem_map_of_mem hg)
  have hmembers := members_inFull hfields hnames (fun _ _ => List.not_mem_nil (α := String)) htake
  have hmissing : firstMissing (given.map Prod.fst)
      ((given.map fun g => g.1.name).reverse ++ []) = none := by
    rw [firstMissing, Option.map_eq_none_iff, List.find?_eq_none]
    intro f hf
    obtain ⟨g, hg, rfl⟩ := List.mem_map.mp hf
    have hmet : g.1.name ∈ given.map fun g => g.1.name := List.mem_map_of_mem hg
    simp [hmet]
  change object (given.map Prod.fst) skipMember start
    (Input.ofMembers (given.map fun g => (g.1.name, g.2))) = .ok a
  rw [object, hmembers]
  dsimp only
  rw [hmissing]

end InFull

/-- A list that is one part of a record. -/
lemma take_list {σ : Type} {r : Reader α} {listed : List Json} {values : List α}
    (h : List.Forall₂ (fun v a => r.ofJson v = .ok a) listed values) (set : σ → List α → σ)
    (name : String) (s : σ) :
    (Field.default name (.list r) set).take s (Input.ofJson (.array listed)) =
      .ok (set s values) :=
  congrArg (Except.map (set s)) (list_ofJson h)

end Reader

end ContentSync.Json

namespace ContentSync

open Json (Reader Input)

/-! ## Fields -/

/-- The names of the kinds of fields that are supported. -/
def supportedKinds : List String :=
  ["SimpleField", "EnumerableField", "RelationalField", "UniDirectionalRelationalField",
    "UnionField", "ComponentField", "ComponentUnionField"]

/-- A reference to a model or component. -/
def referenceTo (name : String) : Json := .object [("apiId", .string name)]

/-- A field of some kind, with the part that fields of this kind have. -/
def fieldOf (kind name : String) (isList : Bool) (part : List (String × Json)) : Json :=
  .object (("__typename", .string kind) ::
    ("apiId", .string name) :: ("isList", .bool isList) :: part)

/-- **How a field is written**, and what it stands for. -/
inductive WrittenField : Json → ManagedField → Prop where
  | simple (name : String) (isList : Bool) (type : String) :
      WrittenField (fieldOf "SimpleField" name isList [("type", .string type)])
        (.simple name isList type)
  | enumerable (name : String) (isList : Bool) :
      WrittenField (fieldOf "EnumerableField" name isList []) (.enumerable name isList)
  | relational (name : String) (isList : Bool) (model : String) :
      WrittenField (fieldOf "RelationalField" name isList [("relatedModel", referenceTo model)])
        (.relational name isList model)
  /-- The other side does not refer back. -/
  | uniDirectional (name : String) (isList : Bool) (model : String) :
      WrittenField
        (fieldOf "UniDirectionalRelationalField" name isList [("relatedModel", referenceTo model)])
        (.relational name isList model)
  | union (name : String) (isList : Bool) (members : List String) :
      WrittenField
        (fieldOf "UnionField" name isList [("union", .object [("memberTypes",
          .array (members.map fun member => .object [("parent", referenceTo member)]))])])
        (.union name isList members)
  | component (name : String) (isList : Bool) (component : String) :
      WrittenField (fieldOf "ComponentField" name isList [("component", referenceTo component)])
        (.component name isList component)
  | componentUnion (name : String) (isList : Bool) (components : List String) :
      WrittenField
        (fieldOf "ComponentUnionField" name isList
          [("components", .array (components.map referenceTo))])
        (.componentUnion name isList components)
  | unsupported {kind : String} (hkind : kind ∉ supportedKinds) {members : List (String × Json)}
      (hmembers : "__typename" ∉ Entries.keys members) :
      WrittenField (.object (("__typename", .string kind) :: members)) .unsupported

namespace ManagedField

lemma known_of_notMem {kind : String} (h : kind ∉ supportedKinds) : known kind = none := by
  simp only [supportedKinds, List.mem_cons, List.not_mem_nil, or_false, not_or] at h
  rw [known] <;> simp only [h, false_implies]

/-- A field of a kind with one part. -/
lemma reader_fieldOf {α : Type} {kind name : String} {isList : Bool} {v : Json} {start : α}
    {d : Draft α} (part : Reader.Field (Draft α))
    (make : Draft α → Except Json.ReadError ManagedField)
    (hknown : known kind = some ((readDraft [part] start).andThen make))
    (hpart : part.name ∉ ["__typename", "apiId", "isList"])
    (htake : part.take ⟨name, isList, start⟩ (Input.ofJson v) = .ok d) :
    reader.ofJson (fieldOf kind name isList [(part.name, v)]) = make d := by
  simp only [List.mem_cons, List.not_mem_nil, or_false, not_or] at hpart
  obtain ⟨htag, hname, hlist⟩ := hpart
  have hkeys : "__typename" ∉ Entries.keys
      [("apiId", .string name), ("isList", .bool isList), (part.name, v)] := by
    simp [Entries.keys, Ne.symm htag]
  have hdraft : (readDraft [part] start).ofJson
      (.object [("apiId", .string name), ("isList", .bool isList), (part.name, v)]) = .ok d := by
    refine Reader.record_inFull [
      (.needed "apiId" .string fun d s => { d with name := s }, .string name),
      (.default "isList" .bool fun d b => { d with isList := b }, .bool isList),
      (part, v)] ?_ ?_
    · simp [Reader.Field.needed, Reader.Field.default, Ne.symm hname, Ne.symm hlist]
    · change (part.take ⟨name, isList, start⟩ (Input.ofJson v) >>= pure) = .ok d
      rw [htake]
      rfl
  rw [reader, fieldOf, Reader.tagged_ofJson _ _ _ hkeys, hknown]
  exact Reader.andThen_ofJson hdraft make

end ManagedField

lemma references_read (names : List String) :
    List.Forall₂ (fun v name => typeReference.ofJson v = .ok name) (names.map referenceTo) names :=
  List.forall₂_map_left_iff.mpr (List.forall₂_same.mpr fun _ _ => rfl)

lemma unionMembers_read (members : List String) :
    unionMembers.ofJson (.object [("memberTypes",
      .array (members.map fun member => .object [("parent", referenceTo member)]))]) =
        .ok members := by
  have hmembers : List.Forall₂
      (fun v name => (Reader.record [.needed "parent" typeReference fun _ s => s] "").ofJson v =
        .ok name)
      (members.map fun member => Json.object [("parent", referenceTo member)]) members :=
    List.forall₂_map_left_iff.mpr (List.forall₂_same.mpr fun _ _ => rfl)
  refine Reader.record_inFull [(.default "memberTypes" (.list _) fun _ ms => ms, .array _)]
    (List.nodup_singleton _) ?_
  rw [List.foldlM_cons, Reader.take_list hmembers]
  rfl

/-- **A field is read as what it stands for.** -/
theorem WrittenField.read {v : Json} {d : ManagedField} (h : WrittenField v d) :
    ManagedField.reader.ofJson v = .ok d := by
  cases h with
  | union name isList members =>
      exact ManagedField.reader_fieldOf
        (.needed "union" unionMembers fun d v => { d with part := v })
        (fun d => .ok (.union d.name d.isList d.part))
        rfl (by decide) (congrArg (Except.map _) (unionMembers_read members))
  | componentUnion name isList components =>
      exact ManagedField.reader_fieldOf
        (.default "components" (.list typeReference) fun d v => { d with part := v })
        (fun d => .ok (.componentUnion d.name d.isList d.part))
        rfl (by decide) (Reader.take_list (references_read components) _ _ _)
  | unsupported hkind hmembers =>
      rw [ManagedField.reader, Reader.tagged_ofJson _ _ _ hmembers,
        ManagedField.known_of_notMem hkind]
  | _ => rfl

/-! ## Types and models -/

/-- **How a model or component is written**, and what it stands for. -/
inductive WrittenType : Json → ManagedType → Prop where
  | fields (name plural : String) (isSystem : Bool) {listed : List Json}
      {fields : List ManagedField} (h : List.Forall₂ WrittenField listed fields) :
      WrittenType (.object [("apiId", .string name), ("apiIdPlural", .string plural),
        ("isSystem", .bool isSystem), ("fields", .array listed)]) ⟨name, plural, isSystem, fields⟩

theorem WrittenType.read {v : Json} {d : ManagedType} (h : WrittenType v d) :
    ManagedType.reader.ofJson v = .ok d := by
  obtain ⟨name, plural, isSystem, hfields⟩ := h
  have hlist := Reader.take_list (hfields.imp fun _ _ => WrittenField.read)
    (fun (t : ManagedType) fs => { t with fields := fs }) "fields" ⟨name, plural, isSystem, []⟩
  refine Reader.record_inFull ([
    (.needed "apiId" .string fun t s => { t with name := s }, .string name),
    (.needed "apiIdPlural" .string fun t s => { t with plural := s }, .string plural),
    (.default "isSystem" .bool fun t b => { t with isSystem := b }, .bool isSystem),
    (.default "fields" (.list ManagedField.reader) fun t fs => { t with fields := fs },
      .array _)] : List (Reader.Field ManagedType × Json)) ?_ ?_
  · simp [Reader.Field.needed, Reader.Field.default]
  · change (Reader.Field.take _ _ _ >>= pure) = _
    rw [hlist]
    rfl

/-- **How a content model is written**, and what it stands for. -/
inductive WrittenModel : Json → ContentModel → Prop where
  | parts {models components : List Json} {m : ContentModel}
      (hmodels : List.Forall₂ WrittenType models m.models)
      (hcomponents : List.Forall₂ WrittenType components m.components) :
      WrittenModel (.object [("models", .array models), ("components", .array components)]) m

/-- **A content model is read as what it stands for.** -/
theorem WrittenModel.read {v : Json} {m : ContentModel} (h : WrittenModel v m) :
    ContentModel.reader.ofJson v = .ok m := by
  obtain ⟨hmodels, hcomponents⟩ := h
  have hmodels := Reader.take_list (hmodels.imp fun _ _ => WrittenType.read)
    (fun (m : ContentModel) ts => { m with models := ts }) "models" ⟨[], []⟩
  have hcomponents := Reader.take_list (hcomponents.imp fun _ _ => WrittenType.read)
    (fun (m : ContentModel) ts => { m with components := ts }) "components" ⟨m.models, []⟩
  refine Reader.record_inFull ([
    (.default "models" (.list ManagedType.reader) fun m ts => { m with models := ts }, .array _),
    (.default "components" (.list ManagedType.reader) fun m ts => { m with components := ts },
      .array _)] : List (Reader.Field ContentModel × Json)) ?_ ?_
  · simp [Reader.Field.default]
  · rw [List.foldlM_cons, hmodels]
    change (Reader.Field.take _ _ _ >>= pure) = _
    rw [hcomponents]
    rfl

end ContentSync
