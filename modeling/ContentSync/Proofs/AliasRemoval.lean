import ContentSync.Proofs.FieldSelection
import Mathlib.Data.List.Perm.Basic

/-!
# Taking the aliases off gives back the names

The aliases of a selection are made from the types of the schema, and taken off again by what the
objects of a response say about themselves.  A response that answers the selection of a type comes
out with every field under its own name: nothing else is changed, and no key meets another.

* `Answers` — the responses to a selection.
* `ownNames` — a response with every key replaced by the name of its field.
* `stripKey_aliasFor`, `stripKey_of_public` — what happens to one key.
* `Tidy` — the selections whose keys can be told apart; that of a type is one
  (`ownKeys_typeSelection`).
* `stripAliases_answer` — the main result.
-/

namespace ContentSync

open GraphQL

/-! ## Responses to a selection -/

namespace Json

/-- In every object the keys are distinct, as they are in every value that is built or read. -/
inductive DistinctKeys : Json → Prop
  | null : DistinctKeys .null
  | bool (b : Bool) : DistinctKeys (.bool b)
  | number (n : Number) : DistinctKeys (.number n)
  | string (s : String) : DistinctKeys (.string s)
  | array {items : List Json} : (∀ item ∈ items, DistinctKeys item) → DistinctKeys (.array items)
  | object {members : List (String × Json)} : (Entries.keys members).Nodup →
      (∀ m ∈ members, DistinctKeys m.2) → DistinctKeys (.object members)

/-- No object in the value names its type. -/
inductive Untyped : Json → Prop
  | null : Untyped .null
  | bool (b : Bool) : Untyped (.bool b)
  | number (n : Number) : Untyped (.number n)
  | string (s : String) : Untyped (.string s)
  | array {items : List Json} : (∀ item ∈ items, Untyped item) → Untyped (.array items)
  | object {members : List (String × Json)} : (∀ type, (typenameField, .string type) ∉ members) →
      (∀ m ∈ members, Untyped m.2) → Untyped (.object members)

end Json

/-- The fields that are asked of an object: the branch of its type stands for the group. -/
def fieldsFor (type : String) (s : SelectionSet) : List Selection :=
  s.flatMap fun n =>
    match n with
    | .on branches => (Entries.get? branches type).getD []
    | n => [n]

/-- **The responses to a selection.**  An object has exactly the fields that are asked of it, each
under its key in the response, in any order.  A field with a selection of its own is null, an answer
to that selection, or a list of such values; `__typename` is the type of the object; all other
fields are values in which no object names a type. -/
inductive Answers : SelectionSet → Json → Prop
  | null {s : SelectionSet} : Answers s .null
  | list {s : SelectionSet} {items : List Json} :
      (∀ item ∈ items, Answers s item) → Answers s (.array items)
  | object {s : SelectionSet} {type : String} {members : List (String × Json)} :
      (Entries.keys members).Perm (SelectionSet.keys (fieldsFor type s)) →
      (∀ name label value, .leaf name label ∈ fieldsFor type s →
        (label.getD name, value) ∈ members →
          if name = typenameField then value = .string type else value.Untyped) →
      (∀ name label arguments children value,
        .object name label arguments children ∈ fieldsFor type s →
          (label.getD name, value) ∈ members → Answers children value) →
      Answers s (.object members)

/-! ## The response under the names of the fields -/

/-- The name of a field. -/
def GraphQL.Selection.name : Selection → String
  | .leaf name _ => name
  | .object name _ _ _ => name
  | .on _ => groupKey

/-- The type that an object says it has. -/
def typeOf (members : List (String × Json)) : String :=
  ((Entries.get? members typenameField).bind Json.string?).getD ""

/-- The name of the field with a key in the response. -/
def nameOf (fields : List Selection) (key : String) : String :=
  ((SelectionSet.get? fields key).map Selection.name).getD key

mutual

/-- **The same response with every key replaced by the name of its field.**  Nothing is moved or
left out. -/
def ownNames (s : SelectionSet) : Json → Json
  | .array items => .array (ownNamesOfItems s items)
  | .object members => .object (ownNamesOfMembers (fieldsFor (typeOf members) s) members)
  | .null => .null
  | .bool b => .bool b
  | .number n => .number n
  | .string s => .string s

def ownNamesOfItems (s : SelectionSet) : List Json → List Json
  | [] => []
  | v :: rest => ownNames s v :: ownNamesOfItems s rest

def ownNamesOfMembers (fields : List Selection) : List (String × Json) → List (String × Json)
  | [] => []
  | (key, v) :: rest =>
      (nameOf fields key,
        match SelectionSet.children? fields key with
        | some children => ownNames children v
        | none => v) :: ownNamesOfMembers fields rest

end

/-! ## One key -/

/-- A name that does not begin like the names that are set aside. -/
def Public (name : String) : Prop := ¬ "__".toList <+: name.toList

instance (name : String) : Decidable (Public name) :=
  inferInstanceAs (Decidable (¬ "__".toList <+: name.toList))

lemma isPrefixOf?_append (start rest : List Char) :
    start.isPrefixOf? (start ++ rest) = some rest := by
  induction start with
  | nil => rfl
  | cons c start ih =>
      rw [List.cons_append, List.isPrefixOf?, if_pos (beq_self_eq_true c)]
      exact ih

lemma prefix_of_isPrefixOf? : ∀ {start key rest : List Char},
    start.isPrefixOf? key = some rest → start <+: key
  | [], key, rest, _ => List.nil_prefix
  | c :: start, [], rest, h => by cases h
  | c :: start, d :: key, rest, h => by
      rw [List.isPrefixOf?] at h
      split at h
      · next heq => exact List.cons_prefix_cons.mpr ⟨beq_iff_eq.mp heq, prefix_of_isPrefixOf? h⟩
      · cases h

/-- An alias of a type becomes the name of its field. -/
theorem stripKey_aliasFor (type field : String) :
    stripKey (some (aliasStart type)) (aliasFor type field) = field := by
  rw [stripKey, aliasFor, String.toList_ofList, isPrefixOf?_append]
  exact String.ofList_toList

/-- A key that is not an alias of the type stays. -/
lemma stripKey_of_not_prefix {start : List Char} {key : String} (h : ¬ start <+: key.toList) :
    stripKey (some start) key = key := by
  rw [stripKey]
  cases hstart : start.isPrefixOf? key.toList with
  | none => rfl
  | some rest => exact absurd (prefix_of_isPrefixOf? hstart) h

/-- What the aliases in an object begin with, if anything, is the start of the aliases of a type. -/
lemma startOf_cases (members : List (String × Json)) :
    startOf members = none ∨ ∃ type, startOf members = some (aliasStart type) := by
  rw [startOf]
  cases (Entries.get? members typenameField).bind Json.string? with
  | none => exact Or.inl rfl
  | some type => exact Or.inr ⟨type, rfl⟩

/-- The name of a field of a schema is no alias. -/
theorem stripKey_of_public {key : String} (hpublic : Public key)
    (members : List (String × Json)) : stripKey (startOf members) key = key := by
  rcases startOf_cases members with h | ⟨type, h⟩
  · rw [h, stripKey]
  · rw [h]
    refine stripKey_of_not_prefix fun hprefix => hpublic ?_
    exact (List.prefix_append _ _).trans ((List.prefix_append _ _).trans hprefix)

/-- The name of the type is no alias: after the first two there is no underscore in it. -/
lemma not_prefix_typename (type : String) : ¬ aliasStart type <+: typenameField.toList := by
  intro hprefix
  rw [aliasStart, List.append_assoc] at hprefix
  have htail : type.toList ++ "_alias__".toList <+: "typename".toList :=
    (List.prefix_append_right_inj "__".toList).mp hprefix
  have hmem : '_' ∈ "typename".toList :=
    htail.subset (List.mem_append_right _ List.mem_cons_self)
  exact absurd hmem (by decide)

lemma stripKey_typename (members : List (String × Json)) :
    stripKey (startOf members) typenameField = typenameField := by
  rcases startOf_cases members with h | ⟨type, h⟩
  · rw [h, stripKey]
  · rw [h]
    exact stripKey_of_not_prefix (not_prefix_typename type)

lemma aliasFor_ne_typename (type field : String) : aliasFor type field ≠ typenameField := by
  intro h
  refine not_prefix_typename type ?_
  rw [← h, aliasFor, String.toList_ofList]
  exact List.prefix_append _ _

lemma aliasFor_ne_groupKey (type field : String) : aliasFor type field ≠ groupKey := by
  intro h
  have hhead := congrArg (fun key => key.toList.head?) h
  rw [aliasFor, String.toList_ofList] at hhead
  cases hhead

lemma Public.ne_typename {name : String} (h : Public name) : name ≠ typenameField := by
  rintro rfl
  exact h (by decide)

/-! ## One object -/

/-- The fields of an object whose keys become their names when the aliases are taken off. -/
structure Renamed (fields : List Selection) (start : Option (List Char)) : Prop where
  names : (fields.map Selection.name).Nodup
  keys : (SelectionSet.keys fields).Nodup
  strip : ∀ n ∈ fields, stripKey start n.key = n.name

section Members

variable {fields : List Selection} {start : Option (List Char)} {members : List (String × Json)}

lemma Renamed.nameOf_eq (h : Renamed fields start) {key : String}
    (hkey : key ∈ SelectionSet.keys fields) : nameOf fields key = stripKey start key := by
  obtain ⟨n, hn, rfl⟩ := List.mem_map.mp hkey
  rw [nameOf, SelectionSet.get?_of_mem h.keys hn, h.strip n hn]
  rfl

/-- Stripping the members one by one gives each the name of its field. -/
lemma stripMembers_eq (h : Renamed fields start) : ∀ {members : List (String × Json)},
    (∀ m ∈ members, m.1 ∈ SelectionSet.keys fields) →
    (∀ m ∈ members, stripAliases m.2 =
      match SelectionSet.children? fields m.1 with
      | some children => ownNames children m.2
      | none => m.2) →
    stripMembers start members = ownNamesOfMembers fields members
  | [], _, _ => rfl
  | (key, v) :: rest, hkeys, hvalues => by
      rw [stripMembers, ownNamesOfMembers, h.nameOf_eq (hkeys (key, v) List.mem_cons_self),
        hvalues (key, v) List.mem_cons_self,
        stripMembers_eq h (fun m hm => hkeys m (List.mem_cons_of_mem _ hm))
          fun m hm => hvalues m (List.mem_cons_of_mem _ hm)]

lemma keys_stripMembers (start : Option (List Char)) (members : List (String × Json)) :
    Entries.keys (stripMembers start members) = (Entries.keys members).map (stripKey start) := by
  induction members with
  | nil => rfl
  | cons m rest ih => exact congrArg (stripKey start m.1 :: ·) ih

/-- No key meets another: what stands under distinct names is not merged. -/
lemma ofList_stripMembers (h : Renamed fields start)
    (hkeys : (Entries.keys members).Perm (SelectionSet.keys fields)) :
    Entries.ofList (stripMembers start members) = stripMembers start members := by
  refine Entries.ofList_of_nodup ?_
  have hnames : (SelectionSet.keys fields).map (stripKey start) = fields.map Selection.name := by
    rw [SelectionSet.keys, List.map_map]
    exact List.map_congr_left h.strip
  rw [keys_stripMembers, (hkeys.map (stripKey start)).nodup_iff, hnames]
  exact h.names

end Members

/-! ## Values -/

lemma stripItems_eq_map (items : List Json) : stripItems items = items.map stripAliases := by
  induction items with
  | nil => rfl
  | cons v rest ih => exact congrArg (stripAliases v :: ·) ih

lemma ownNamesOfItems_eq_map (s : SelectionSet) (items : List Json) :
    ownNamesOfItems s items = items.map (ownNames s) := by
  induction items with
  | nil => rfl
  | cons v rest ih => exact congrArg (ownNames s v :: ·) ih

lemma stripMembers_none : ∀ {members : List (String × Json)},
    (∀ m ∈ members, stripAliases m.2 = m.2) → stripMembers none members = members
  | [], _ => rfl
  | (key, v) :: rest, h => by
      rw [stripMembers, h (key, v) List.mem_cons_self,
        stripMembers_none fun m hm => h m (List.mem_cons_of_mem _ hm)]
      rfl

/-- **A value that names no types is left alone.** -/
theorem stripAliases_of_untyped {v : Json} (h : v.Untyped) :
    v.DistinctKeys → stripAliases v = v := by
  induction h with
  | null | bool b | number n | string s => exact fun _ => rfl
  | array hitems ih =>
      rintro (_ | _ | _ | _ | hdistinct | _)
      rw [stripAliases, stripItems_eq_map]
      exact congrArg _ ((List.map_congr_left fun v hv => ih v hv (hdistinct v hv)).trans
        (List.map_id _))
  | object htype hmembers ih =>
      rintro (_ | _ | _ | _ | _ | ⟨hnodup, hdistinct⟩)
      rename_i members
      have hstart : startOf members = none := by
        rw [startOf]
        cases hget : Entries.get? members typenameField with
        | none => rfl
        | some v =>
            cases v with
            | string type => exact absurd (Entries.mem_of_get? hget) (htype type)
            | null | bool _ | number _ | array _ | object _ => rfl
      rw [stripAliases, hstart, stripMembers_none fun m hm => ih m hm (hdistinct m hm),
        Entries.ofList_of_nodup hnodup]

mutual

/-- Taking aliases off gives values with distinct keys. -/
theorem distinctKeys_stripAliases : ∀ v : Json, (stripAliases v).DistinctKeys
  | .null => .null
  | .bool b => .bool b
  | .number n => .number n
  | .string s => .string s
  | .array items => .array (distinctKeys_stripItems items)
  | .object members => .object (Entries.nodup_keys_ofList _) fun m hm =>
      distinctKeys_stripMembers (startOf members) members m (Entries.mem_ofList hm)

lemma distinctKeys_stripItems : ∀ items : List Json, ∀ v ∈ stripItems items, v.DistinctKeys
  | [], _, hv => absurd hv List.not_mem_nil
  | first :: rest, v, hv => by
      rcases List.mem_cons.mp hv with rfl | hv
      · exact distinctKeys_stripAliases first
      · exact distinctKeys_stripItems rest v hv

lemma distinctKeys_stripMembers (start : Option (List Char)) :
    ∀ members : List (String × Json), ∀ m ∈ stripMembers start members, m.2.DistinctKeys
  | [], _, hm => absurd hm List.not_mem_nil
  | (key, v) :: rest, m, hm => by
      rcases List.mem_cons.mp hm with rfl | hm
      · exact distinctKeys_stripAliases v
      · exact distinctKeys_stripMembers start rest m hm

end

/-! ## Selections whose keys can be told apart -/

/-- In every object that answers the selection, keys become names when the aliases are taken off:
the fields of a type stand under their names, and the fields of a branch under their aliases, beside
the name of the type. -/
inductive Tidy : SelectionSet → Prop
  | fields {s : SelectionSet} : s.keys.Nodup →
      (∀ n ∈ s, n = .field typenameField ∨ n.Plain ∧ Public n.name) →
      (∀ n ∈ s, ∀ children, n.children? = some children → Tidy children) → Tidy s
  | branches {b : Branches} :
      (∀ type s, Entries.get? b type = some s → (SelectionSet.keys s).Nodup) →
      (∀ type s, Entries.get? b type = some s →
        ∀ n ∈ s, n.key = aliasFor type n.name ∧ Public n.name) →
      (∀ type s, Entries.get? b type = some s →
        ∀ n ∈ s, ∀ children, n.children? = some children → Tidy children) →
      Tidy [.field typenameField, .on b]

lemma key_eq_name {n : Selection} (h : n.Plain) : n.key = n.name := by
  cases n with
  | leaf name label => cases h; rfl
  | object name label arguments children => cases h; rfl
  | on branches => rfl

lemma name_aliasNode {type : String} {n m : Selection} (h : aliasNode type n = some m) :
    m.name = n.name := by
  cases n with
  | leaf name label =>
      rw [aliasNode] at h
      split at h
      · cases h
      · cases h
        rfl
  | object name label arguments children => cases h; rfl
  | on branches => cases h; rfl

lemma fieldsFor_of_fields (type : String) : ∀ {s : SelectionSet}, (∀ n ∈ s, ∀ b, n ≠ .on b) →
    fieldsFor type s = s
  | [], _ => rfl
  | .leaf _ _ :: _, h =>
      congrArg _ (fieldsFor_of_fields type fun n hn => h n (List.mem_cons_of_mem _ hn))
  | .object _ _ _ _ :: _, h =>
      congrArg _ (fieldsFor_of_fields type fun n hn => h n (List.mem_cons_of_mem _ hn))
  | .on b :: _, h => absurd rfl (h (.on b) List.mem_cons_self b)

lemma fieldsFor_branches (type : String) (b : Branches) :
    fieldsFor type [.field typenameField, .on b] =
      .field typenameField :: (Entries.get? b type).getD [] :=
  congrArg (Selection.field typenameField :: ·) (List.append_nil _)

section Answer

variable {s : SelectionSet} {type : String} {members : List (String × Json)}

lemma get?_typename (hnodup : (Entries.keys members).Nodup)
    (hkeys : (Entries.keys members).Perm (SelectionSet.keys (fieldsFor type s)))
    (hname : ∀ value, (typenameField, value) ∈ members → value = .string type)
    (hasked : .field typenameField ∈ fieldsFor type s) :
    Entries.get? members typenameField = some (.string type) := by
  have hmem : typenameField ∈ Entries.keys members :=
    hkeys.mem_iff.mpr (List.mem_map.mpr ⟨_, hasked, rfl⟩)
  obtain ⟨⟨key, value⟩, hm, rfl⟩ := List.mem_map.mp hmem
  rw [Entries.get?_eq_some_iff hnodup, ← hname value hm]
  exact hm

lemma renamed_of_fields (hkeys : s.keys.Nodup)
    (hown : ∀ n ∈ s, n = .field typenameField ∨ n.Plain ∧ Public n.name)
    (members : List (String × Json)) : Renamed s (startOf members) := by
  have hname : ∀ n ∈ s, n.key = n.name := by
    intro n hn
    rcases hown n hn with rfl | ⟨hplain, -⟩
    · rfl
    · exact key_eq_name hplain
  refine ⟨?_, hkeys, ?_⟩
  · rwa [← List.map_congr_left hname]
  · intro n hn
    rcases hown n hn with rfl | ⟨hplain, hpublic⟩
    · exact stripKey_typename members
    · rw [hname n hn, stripKey_of_public hpublic]

lemma renamed_of_branch {branch : SelectionSet} (hkeys : branch.keys.Nodup)
    (hown : ∀ n ∈ branch, n.key = aliasFor type n.name ∧ Public n.name) :
    Renamed (.field typenameField :: branch) (some (aliasStart type)) := by
  have hmap : branch.keys = (branch.map Selection.name).map (aliasFor type) := by
    rw [List.map_map]
    exact List.map_congr_left fun n hn => (hown n hn).1
  refine ⟨?_, ?_, ?_⟩
  · rw [hmap] at hkeys
    refine List.nodup_cons.mpr ⟨fun hmem => ?_, hkeys.of_map _⟩
    obtain ⟨n, hn, hname⟩ := List.mem_map.mp hmem
    exact (hown n hn).2.ne_typename hname
  · refine List.nodup_cons.mpr ⟨fun hmem => ?_, hkeys⟩
    obtain ⟨n, hn, hkey⟩ := List.mem_map.mp hmem
    exact aliasFor_ne_typename type n.name ((hown n hn).1.symm.trans hkey)
  · intro n hn
    rcases List.mem_cons.mp hn with rfl | hn
    · exact stripKey_of_not_prefix (not_prefix_typename type)
    · rw [(hown n hn).1, stripKey_aliasFor]

/-- What is asked of an object by a tidy selection is renamed by taking the aliases off. -/
lemma Tidy.fieldsFor (htidy : Tidy s) (hnodup : (Entries.keys members).Nodup)
    (hkeys : (Entries.keys members).Perm (SelectionSet.keys (fieldsFor type s)))
    (hname : .field typenameField ∈ fieldsFor type s →
      ∀ value, (typenameField, value) ∈ members → value = .string type) :
    Renamed (fieldsFor type s) (startOf members) ∧
      fieldsFor (typeOf members) s = fieldsFor type s ∧
      (∀ n ∈ fieldsFor type s, ∀ b, n ≠ .on b) ∧
      (∀ n ∈ fieldsFor type s, ∀ children, n.children? = some children → Tidy children) := by
  cases htidy with
  | fields hown hplain hbelow =>
      have hgroup : ∀ n ∈ s, ∀ b, n ≠ .on b := by
        rintro n hn b rfl
        rcases hplain _ hn with h | ⟨h, -⟩
        · cases h
        · exact h
      rw [fieldsFor_of_fields type hgroup, fieldsFor_of_fields _ hgroup]
      exact ⟨renamed_of_fields hown hplain members, rfl, hgroup, hbelow⟩
  | @branches b hown halias hbelow =>
      have hasked :
          .field typenameField ∈ ContentSync.fieldsFor type [.field typenameField, .on b] := by
        rw [fieldsFor_branches]
        exact List.mem_cons_self
      have hget := get?_typename hnodup hkeys (hname hasked) hasked
      have hstart : startOf members = some (aliasStart type) := by
        rw [startOf, hget]
        rfl
      have htype : typeOf members = type := by
        rw [typeOf, hget]
        rfl
      rw [hstart, htype, fieldsFor_branches]
      cases hbranch : Entries.get? b type with
      | none =>
          refine ⟨renamed_of_branch List.nodup_nil (by simp), rfl, ?_, ?_⟩
          · intro n hn
            rw [List.mem_singleton.mp hn]
            exact fun b => nofun
          · intro n hn children hchildren
            rw [List.mem_singleton.mp hn] at hchildren
            cases hchildren
      | some branch =>
          refine ⟨renamed_of_branch (hown type branch hbranch) (halias type branch hbranch), rfl,
            ?_, ?_⟩
          · intro n hn b' heq
            rcases List.mem_cons.mp hn with rfl | hn
            · cases heq
            · subst heq
              exact aliasFor_ne_groupKey _ _ (halias type branch hbranch _ hn).1.symm
          · intro n hn children hchildren
            rcases List.mem_cons.mp hn with rfl | hn
            · cases hchildren
            · exact hbelow type branch hbranch n hn children hchildren

end Answer

/-- **A response to a tidy selection comes out under the names of its fields.** -/
theorem stripAliases_eq_ownNames {s : SelectionSet} {v : Json} (h : Answers s v) :
    Tidy s → v.DistinctKeys → stripAliases v = ownNames s v := by
  induction h with
  | null => exact fun _ _ => rfl
  | list hitems ih =>
      intro htidy hdistinct
      rw [stripAliases, ownNames, stripItems_eq_map, ownNamesOfItems_eq_map]
      cases hdistinct with
      | array hdistinct =>
          exact congrArg _ (List.map_congr_left fun v hv => ih v hv htidy (hdistinct v hv))
  | @object s type members hkeys hleaf hobject ih =>
      intro htidy hdistinct
      cases hdistinct with
      | object hnodup hvalues =>
          have hname : .field typenameField ∈ fieldsFor type s →
              ∀ value, (typenameField, value) ∈ members → value = .string type := by
            intro hasked value hm
            have hvalue := hleaf typenameField none value hasked hm
            rwa [if_pos rfl] at hvalue
          obtain ⟨hrenamed, htype, hgroup, hbelow⟩ := htidy.fieldsFor hnodup hkeys hname
          have hmem : ∀ m ∈ members, m.1 ∈ SelectionSet.keys (fieldsFor type s) := fun m hm =>
            hkeys.mem_iff.mp (List.mem_map_of_mem hm)
          rw [stripAliases, ownNames, htype, ofList_stripMembers hrenamed hkeys,
            stripMembers_eq hrenamed hmem]
          rintro ⟨key, v⟩ hm
          obtain ⟨n, hn, rfl⟩ := List.mem_map.mp (hmem _ hm)
          rw [SelectionSet.children?, SelectionSet.get?_of_mem hrenamed.keys hn, Option.bind_some]
          cases n with
          | leaf name label =>
              have hvalue := hleaf name label v hn hm
              split at hvalue
              · rw [hvalue]
                rfl
              · exact stripAliases_of_untyped hvalue (hvalues _ hm)
          | object name label arguments children =>
              exact ih name label arguments children v hn hm (hbelow _ hn children rfl)
                (hvalues _ hm)
          | on b => exact absurd rfl (hgroup _ hn b)

/-! ## The selection of a type is tidy -/

/-- No field of a type has a name that is set aside. -/
def Schema.PublicFields (schema : Schema) : Prop :=
  ∀ t ∈ schema.all, ∀ f ∈ t.fields, Public f.name

instance (schema : Schema) : Decidable schema.PublicFields :=
  inferInstanceAs (Decidable (∀ t ∈ schema.all, ∀ f ∈ t.fields, Public f.name))

/-- The fields of a type, and everything below them. -/
structure OwnKeys (s : SelectionSet) : Prop where
  nodup : s.keys.Nodup
  own : ∀ n ∈ s, n = .field typenameField ∨ n.Plain ∧ Public n.name
  below : ∀ n ∈ s, ∀ children, n.children? = some children → Tidy children

lemma OwnKeys.tidy {s : SelectionSet} (h : OwnKeys s) : Tidy s := .fields h.nodup h.own h.below

lemma ownKeys_ofNames {names : List String} (hnodup : names.Nodup)
    (hpublic : ∀ name ∈ names, Public name) : OwnKeys (SelectionSet.ofNames names) := by
  have hkeys : SelectionSet.keys (names.map Selection.field) = names := by
    rw [SelectionSet.keys, List.map_map]
    exact List.map_id names
  rw [SelectionSet.ofNames, SelectionSet.ofList_of_nodup (by rwa [hkeys])]
  refine ⟨by rwa [hkeys], ?_, ?_⟩
  · intro n hn
    obtain ⟨name, hname, rfl⟩ := List.mem_map.mp hn
    exact Or.inr ⟨rfl, hpublic name hname⟩
  · intro n hn children hchildren
    obtain ⟨name, -, rfl⟩ := List.mem_map.mp hn
    cases hchildren

lemma tidy_colorSelection : Tidy colorSelection := by
  have hcolor : colorSelection = [.field "hex", .field "css",
      .object "rgba" none [] (SelectionSet.ofNames ["r", "g", "b", "a"])] :=
    SelectionSet.ofList_of_nodup (by simp [SelectionSet.keys, Selection.key, Selection.field])
  rw [hcolor]
  refine .fields (by simp [SelectionSet.keys, Selection.key, Selection.field]) ?_ ?_
  · simp only [List.forall_mem_cons]
    exact ⟨Or.inr ⟨rfl, by decide⟩, Or.inr ⟨rfl, by decide⟩, Or.inr ⟨rfl, by decide⟩,
      fun _ hn => absurd hn List.not_mem_nil⟩
  · simp only [List.forall_mem_cons]
    refine ⟨?_, ?_, ?_, fun _ hn => absurd hn List.not_mem_nil⟩
    · rintro children ⟨⟩
    · rintro children ⟨⟩
    · rintro children ⟨⟩
      exact (ownKeys_ofNames (by decide) (by decide)).tidy

section Types

variable {follow : String → Option SelectionSet} {fields : List Field}

lemma tidy_branches (hfollow : ∀ target s, follow target = some s → OwnKeys s)
    (targets : List String) :
    Tidy [.field typenameField, .on (branchesOf follow targets)] := by
  have hbranch : ∀ type b, Entries.get? (branchesOf follow targets) type = some b →
      ∃ s, follow type = some s ∧ aliasBranch type s = b := by
    intro type b h
    rw [get?_branchesOf] at h
    split at h
    · exact Option.map_eq_some_iff.mp h
    · cases h
  have hnode : ∀ type b, Entries.get? (branchesOf follow targets) type = some b → ∀ m ∈ b,
      ∃ s n, follow type = some s ∧ n ∈ s ∧ aliasNode type n = some m ∧
        n.Plain ∧ Public n.name := by
    intro type b h m hm
    obtain ⟨s, hs, rfl⟩ := hbranch type b h
    have hown := hfollow type s hs
    have hplain : ∀ n ∈ s, n.Plain := by
      intro n hn
      rcases hown.own n hn with rfl | ⟨hplain, -⟩
      · rfl
      · exact hplain
    rw [aliasBranch_eq type hplain hown.nodup] at hm
    obtain ⟨n, hn, hnm⟩ := List.mem_filterMap.mp hm
    rcases hown.own n hn with rfl | ⟨hplain, hpublic⟩
    · cases hnm
    · exact ⟨s, n, hs, hn, hnm, hplain, hpublic⟩
  refine .branches ?_ ?_ ?_
  · intro type b h
    obtain ⟨s, -, rfl⟩ := hbranch type b h
    exact SelectionSet.nodup_keys_ofList _
  · intro type b h m hm
    obtain ⟨s, n, -, -, hnm, hplain, hpublic⟩ := hnode type b h m hm
    have hname : m.name = n.name := name_aliasNode hnm
    rw [key_aliasNode hplain hnm, key_eq_name hplain, hname]
    exact ⟨rfl, hpublic⟩
  · intro type b h m hm children hchildren
    obtain ⟨s, n, hs, hn, hnm, -⟩ := hnode type b h m hm
    have hsame := children?_aliasNode type n
    rw [hnm, Option.bind_some] at hsame
    exact (hfollow type s hs).below n hn children (hsame ▸ hchildren)

lemma tidy_structured {s : SelectionSet} (hs : s ∈ structuredSelections) : Tidy s := by
  simp only [structuredSelections, List.mem_cons, List.not_mem_nil, or_false] at hs
  rcases hs with rfl | rfl | rfl | rfl
  · exact (ownKeys_ofNames (by decide) (by decide)).tidy
  · exact tidy_colorSelection
  · exact (ownKeys_ofNames (by decide) (by decide)).tidy
  · exact (ownKeys_ofNames (by decide) (by decide)).tidy

lemma tidy_fieldNode (hfollow : ∀ target s, follow target = some s → OwnKeys s) {f : Field}
    {n : Selection} (hn : fieldNode follow f = some n) {children : SelectionSet}
    (hchildren : n.children? = some children) : Tidy children := by
  rcases fieldNode_forms hn with rfl | ⟨parts, rfl, hs | ⟨target, hs⟩ | ⟨targets, rfl⟩⟩
  · cases hchildren
  · cases hchildren
    exact tidy_structured hs
  · cases hchildren
    exact (hfollow target children hs).tidy
  · cases hchildren
    exact tidy_branches hfollow targets

lemma ownKeys_selectionOfFields (hfollow : ∀ target s, follow target = some s → OwnKeys s)
    (hnames : (fields.map Field.name).Nodup) (hpublic : ∀ f ∈ fields, Public f.name) :
    OwnKeys (selectionOfFields follow fields) := by
  have hkeys : SelectionSet.keys
      (.field typenameField :: fields.filterMap (fieldNode follow)) |>.Nodup := by
    refine List.nodup_cons.mpr ⟨fun hmem => ?_,
      hnames.sublist (keys_filterMap_fieldNode follow fields)⟩
    obtain ⟨f, hf, hname⟩ :=
      List.mem_map.mp ((keys_filterMap_fieldNode follow fields).subset hmem)
    exact (hpublic f hf).ne_typename hname
  rw [selectionOfFields, SelectionSet.ofList_of_nodup hkeys]
  refine ⟨hkeys, ?_, ?_⟩
  · intro n hn
    rcases List.mem_cons.mp hn with rfl | hn
    · exact Or.inl rfl
    · obtain ⟨f, hf, hnode⟩ := List.mem_filterMap.mp hn
      have hplain := plain_fieldNode hnode
      rw [← key_eq_name hplain, key_fieldNode hnode]
      exact Or.inr ⟨hplain, hpublic f hf⟩
  · intro n hn children hchildren
    rcases List.mem_cons.mp hn with rfl | hn
    · cases hchildren
    · obtain ⟨f, -, hnode⟩ := List.mem_filterMap.mp hn
      exact tidy_fieldNode hfollow hnode hchildren

end Types

/-- **The selection of a type is tidy**, at the end of every path. -/
theorem ownKeys_typeSelection {schema : Schema} (hdistinct : schema.DistinctFields)
    (hpublic : schema.PublicFields) (room : Nat) : ∀ (type : String) (ledger : Ledger),
    ledger.headroom schema.types.keys ≤ room → OwnKeys (typeSelection schema type ledger) := by
  induction room using Nat.strongRecOn with
  | _ room ih =>
      intro type ledger hroom
      rw [typeSelection_eq, selectionOfType]
      cases ht : schema.get? type with
      | none =>
          have hnone : SelectionSet.ofList [.field typenameField] =
              selectionOfFields (fun _ => none) [] := rfl
          dsimp only
          rw [hnone]
          refine ownKeys_selectionOfFields ?_ List.nodup_nil ?_
          · rintro target s ⟨⟩
          · exact fun f hf => absurd hf List.not_mem_nil
      | some t =>
          refine ownKeys_selectionOfFields ?_ (hdistinct.nodup ht) (hpublic t (Schema.mem_all ht))
          intro target s hs
          obtain ⟨hget, next, hvisit, rfl⟩ := follow_eq_some_iff.mp hs
          obtain ⟨t', ht'⟩ := Option.isSome_iff_exists.mp hget
          have hlt := Ledger.headroom_visit hvisit (mem_keys_of_get? ht')
          exact ih _ (by omega) target next (Nat.le_refl _)

/-- **Taking the aliases off a response undoes what the selection put on.**  For every schema whose
types have fields with distinct names that are not set aside, and every response to the selection of
a type, at any depth and inside lists: every key becomes the name of its field, everything else
stays as it is, and no key meets another. -/
theorem stripAliases_answer (schema : Schema) (hdistinct : schema.DistinctFields)
    (hpublic : schema.PublicFields) (type : String) (response : Json)
    (hanswers : Answers (typeSelection schema type (.root type)) response)
    (hkeys : response.DistinctKeys) :
    stripAliases response = ownNames (typeSelection schema type (.root type)) response ∧
      (ownNames (typeSelection schema type (.root type)) response).DistinctKeys := by
  have htidy : Tidy (typeSelection schema type (.root type)) :=
    (ownKeys_typeSelection hdistinct hpublic _ type (.root type) (Nat.le_refl _)).tidy
  have heq := stripAliases_eq_ownNames hanswers htidy hkeys
  exact ⟨heq, heq ▸ distinctKeys_stripAliases response⟩

/-! ### A post of quotes -/

/-- The blocks of a post are quotes and notes, whose texts have different shapes. -/
private def quoting : Schema :=
  .ofTypes [
    .ofFields "Post" "Posts" .model
      [⟨"title", .scalar, false⟩, ⟨"blocks", .polymorphic ["Quote", "Note"], true⟩],
    .ofFields "Quote" "Quotes" .component [⟨"text", .scalar, false⟩],
    .ofFields "Note" "Notes" .component [⟨"text", .richText, false⟩]]

private def quotingBlocks : SelectionSet :=
  [.field "__typename", .on [
    ("Quote", [.leaf "text" (some "__Quote_alias__text")]),
    ("Note", [.object "text" (some "__Note_alias__text") [] richTextSelection])]]

private def quote (key : String) : Json :=
  .object [("__typename", .string "Quote"), (key, .string "Two")]

/-- A post with a quote whose text stands under a key. -/
private def quotingPost (key : String) : Json :=
  .object [("__typename", .string "Post"), ("title", .string "One"),
    ("blocks", .array [quote key, .null])]

private lemma answers_quote : Answers quotingBlocks (quote "__Quote_alias__text") := by
  have hfields : fieldsFor "Quote" quotingBlocks =
      [.leaf "__typename" none, .leaf "text" (some "__Quote_alias__text")] := rfl
  refine @Answers.object _ "Quote" _ (hfields ▸ List.Perm.refl _) ?_ ?_
  · rw [hfields]
    intro name label value hn hm
    simp only [List.mem_cons, Selection.leaf.injEq, List.not_mem_nil, or_false] at hn
    rcases hn with ⟨rfl, rfl⟩ | ⟨rfl, rfl⟩
    · have hvalue : value = .string "Quote" := by simpa using hm
      exact hvalue
    · have hvalue : value = .string "Two" := by simpa using hm
      exact hvalue ▸ .string "Two"
  · rw [hfields]
    intro name label arguments children value hn
    simp at hn

/-- The quote of a post gets its text back. -/
theorem stripAliases_answer_quote :
    stripAliases (quotingPost "__Quote_alias__text") = quotingPost "text" := by
  have hselection : typeSelection quoting "Post" (.root "Post") =
      [.leaf "__typename" none, .leaf "title" none, .object "blocks" none [] quotingBlocks] := rfl
  have hanswers : Answers (typeSelection quoting "Post" (.root "Post"))
      (quotingPost "__Quote_alias__text") := by
    rw [hselection]
    refine @Answers.object _ "Post" _ (List.Perm.refl _) ?_ ?_
    · intro name label value hn hm
      simp only [fieldsFor, List.flatMap_cons, List.flatMap_nil, List.cons_append, List.nil_append,
        List.mem_cons, Selection.leaf.injEq, reduceCtorEq, List.not_mem_nil, or_false] at hn
      rcases hn with ⟨rfl, rfl⟩ | ⟨rfl, rfl⟩
      · have hvalue : value = .string "Post" := by simpa using hm
        exact hvalue
      · have hvalue : value = .string "One" := by simpa using hm
        exact hvalue ▸ .string "One"
    · intro name label arguments children value hn hm
      simp only [fieldsFor, List.flatMap_cons, List.flatMap_nil, List.cons_append, List.nil_append,
        List.mem_cons, Selection.object.injEq, reduceCtorEq, List.not_mem_nil, or_false,
        false_or] at hn
      obtain ⟨rfl, rfl, rfl, rfl⟩ := hn
      have hvalue : value = .array [quote "__Quote_alias__text", .null] := by simpa using hm
      rw [hvalue]
      refine .list ?_
      rintro item hitem
      rcases List.mem_pair.mp hitem with rfl | rfl
      · exact answers_quote
      · exact .null
  have hkeys : (quotingPost "__Quote_alias__text").DistinctKeys := by
    refine .object (by decide) ?_
    simp only [List.forall_mem_cons]
    refine ⟨.string _, .string _, .array ?_, List.forall_mem_nil _⟩
    simp only [List.forall_mem_cons]
    refine ⟨.object (by decide) ?_, .null, List.forall_mem_nil _⟩
    simp only [List.forall_mem_cons]
    exact ⟨.string _, .string _, List.forall_mem_nil _⟩
  have hpost := stripAliases_answer quoting (by decide) (by decide) "Post" _ hanswers hkeys
  exact hpost.1.trans rfl

end ContentSync
