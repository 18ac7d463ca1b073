import ContentSync.Content.Item
import ContentSync.Proofs.TypedReading
import ContentSync.Proofs.InstantText

/-!
# Items that are written and read

The members of an object are read one after another into an item.  With distinct keys each of them
decides one part of the item, wherever it stands: what has no part of its own goes to the end of the
other fields.  An item can therefore be told from the members by looking up four of them, and what
it is written as can be read in the same way.

* `Item.foldlM_takeMember_iff` — the members one after another, by induction on them.
* `Item.ReadFrom`, `Item.ofJson_object_iff` — which item an object is read as.
* `Item.Writable`, `Item.readFrom_written` — what is needed of an item to be read back.
* `Item.toJson_readBack` — reading, writing and reading again.
-/

namespace ContentSync

open Json (DistinctKeys Input ReadError Reader)

/-! ## What one part of an item is read from -/

section Decides

variable {α : Type} {r : Reader α} {ms : Entries Json} {key : String} {before after : α}

/-- **A part of an item before and after some members**: the member of that key decides it. -/
def Decides (r : Reader α) (ms : Entries Json) (key : String) (before after : α) : Prop :=
  match Entries.get? ms key with
  | none => after = before
  | some v => r.ofJson v = .ok after

lemma decides_cons (m : String × Json) : Decides r (m :: ms) key before after ↔
    if m.1 = key then r.ofJson m.2 = .ok after else Decides r ms key before after := by
  rw [Decides, Entries.get?]
  by_cases hkey : m.1 = key
  · rw [if_pos hkey, if_pos hkey]
  · rw [if_neg hkey, if_neg hkey, Decides]

lemma decides_of_notMem (h : key ∉ Entries.keys ms) :
    Decides r ms key before after ↔ after = before := by
  rw [Decides, Entries.get?_eq_none_iff.mpr h]

end Decides

namespace Item

/-- The parts of an item that have a key of their own. -/
def parts : List (Reader.Field Item) := [
  .needed "id" .string fun d s => { d with id := s },
  .needed "__typename" .string fun d s => { d with typename := s },
  .default "updatedAt" (.optional Instant.reader) fun d t => { d with updatedAt := t },
  .default "documentInStages" (.optional (.list StageRecord.reader))
    fun d rs => { d with stages := rs }]

/-- The keys of these parts. -/
def partKeys : List String := ["id", "__typename", "updatedAt", "documentInStages"]

/-- An item of which nothing was read yet. -/
def blank : Item := ⟨"", "", none, none, []⟩

/-- An item with one more of the other fields. -/
def keepField (d : Item) (key : String) (v : Json) : Item :=
  { d with fields := Entries.insert d.fields key v }

lemma reader_eq : reader = Reader.openRecord parts keepField blank := rfl

/-- The members that have no part of their own. -/
def otherMembers (ms : Entries Json) : Entries Json := ms.filter fun m => m.1 ∉ partKeys

/-- **An item before and after some members.** -/
structure ReadInto (ms : Entries Json) (s d : Item) : Prop where
  id : Decides Reader.string ms "id" s.id d.id
  typename : Decides Reader.string ms "__typename" s.typename d.typename
  updatedAt : Decides (Reader.optional Instant.reader) ms "updatedAt" s.updatedAt d.updatedAt
  stages : Decides (Reader.optional (.list StageRecord.reader)) ms "documentInStages"
    s.stages d.stages
  fields : d.fields = s.fields ++ otherMembers ms

section Read

variable {ms rest : Entries Json} {s d : Item}

lemma readInto_iff : ReadInto ms s d ↔
    Decides Reader.string ms "id" s.id d.id ∧
    Decides Reader.string ms "__typename" s.typename d.typename ∧
    Decides (Reader.optional Instant.reader) ms "updatedAt" s.updatedAt d.updatedAt ∧
    Decides (Reader.optional (.list StageRecord.reader)) ms "documentInStages" s.stages d.stages ∧
    d.fields = s.fields ++ otherMembers ms :=
  ⟨fun ⟨a, b, c, d, e⟩ => ⟨a, b, c, d, e⟩, fun ⟨a, b, c, d, e⟩ => ⟨a, b, c, d, e⟩⟩

lemma find?_parts {key : String} (h : key ∉ partKeys) :
    (parts.find? fun f => f.name == key) = none := by
  simp only [partKeys, List.mem_cons, List.not_mem_nil, or_false, not_or] at h
  refine List.find?_eq_none.mpr fun f hf => ?_
  simp only [parts, List.mem_cons, List.not_mem_nil, or_false] at hf
  rcases hf with rfl | rfl | rfl | rfl <;>
    simp [Reader.Field.needed, Reader.Field.default, Ne.symm h.1, Ne.symm h.2.1,
      Ne.symm h.2.2.1, Ne.symm h.2.2.2]

/-- **Members with distinct keys** are read into an item one after another. -/
lemma foldlM_takeMember_iff (hkeys : (Entries.keys ms).Nodup)
    (hfields : ∀ key ∈ Entries.keys s.fields, key ∉ Entries.keys ms) :
    ms.foldlM (Reader.takeMember parts keepField) s = .ok d ↔ ReadInto ms s d := by
  induction ms generalizing s with
  | nil =>
      rw [readInto_iff]
      obtain ⟨id, typename, updatedAt, stages, fields⟩ := s
      obtain ⟨id', typename', updatedAt', stages', fields'⟩ := d
      simp [Decides, otherMembers, pure, Except.pure, eq_comm]
  | cons m rest ih =>
      obtain ⟨key, v⟩ := m
      obtain ⟨hkey, hrest⟩ := List.nodup_cons.mp hkeys
      have hlater : ∀ k ∈ Entries.keys s.fields, k ∉ Entries.keys rest := fun k hk hmem =>
        hfields k hk (List.mem_cons_of_mem _ hmem)
      rw [List.foldlM_cons]
      by_cases hpart : key ∈ partKeys
      · have hothers : otherMembers ((key, v) :: rest) = otherMembers rest := by
          simp [otherMembers, hpart]
        -- the member decides its part, and no later one has its key
        simp only [partKeys, List.mem_cons, List.not_mem_nil, or_false] at hpart
        rcases hpart with rfl | rfl | rfl | rfl
        · have htake : Reader.takeMember parts keepField s ("id", v) =
              (Reader.string.ofJson v).map fun a => { s with id := a } := rfl
          have hread (a : String) := ih (s := { s with id := a }) hrest hlater
          simp only [htake, Json.map_bind_eq_ok, hread, readInto_iff, decides_cons,
            decides_of_notMem hkey, hothers]
          grind
        · have htake : Reader.takeMember parts keepField s ("__typename", v) =
              (Reader.string.ofJson v).map fun a => { s with typename := a } := rfl
          have hread (a : String) := ih (s := { s with typename := a }) hrest hlater
          simp only [htake, Json.map_bind_eq_ok, hread, readInto_iff, decides_cons,
            decides_of_notMem hkey, hothers]
          grind
        · have htake : Reader.takeMember parts keepField s ("updatedAt", v) =
              ((Reader.optional Instant.reader).ofJson v).map fun a => { s with updatedAt := a } :=
            rfl
          have hread (a : Option Instant) := ih (s := { s with updatedAt := a }) hrest hlater
          simp only [htake, Json.map_bind_eq_ok, hread, readInto_iff, decides_cons,
            decides_of_notMem hkey, hothers]
          grind
        · have htake : Reader.takeMember parts keepField s ("documentInStages", v) =
              ((Reader.optional (.list StageRecord.reader)).ofJson v).map
                fun a => { s with stages := a } := rfl
          have hread (a : Option (List StageRecord)) :=
            ih (s := { s with stages := a }) hrest hlater
          simp only [htake, Json.map_bind_eq_ok, hread, readInto_iff, decides_cons,
            decides_of_notMem hkey, hothers]
          grind
      · have htake : Reader.takeMember parts keepField s (key, v) = .ok (keepField s key v) := by
          rw [Reader.takeMember, find?_parts hpart]
        have hnew : key ∉ Entries.keys s.fields := fun hmem =>
          hfields key hmem List.mem_cons_self
        have hkept : (keepField s key v).fields = s.fields ++ [(key, v)] :=
          Entries.insert_of_notMem hnew v
        have hread := ih (s := keepField s key v) hrest fun k hk hmem => by
          rw [hkept, Entries.keys, List.map_append, List.mem_append] at hk
          rcases hk with hk | hk
          · exact hlater k hk hmem
          · exact hkey (List.mem_singleton.mp hk ▸ hmem)
        have hothers : otherMembers ((key, v) :: rest) = (key, v) :: otherMembers rest := by
          simp [otherMembers, hpart]
        have hne : ∀ k ∈ partKeys, key ≠ k := fun k hk heq => hpart (heq ▸ hk)
        simp only [partKeys, List.forall_mem_cons] at hne
        rw [htake]
        change rest.foldlM (Reader.takeMember parts keepField) (keepField s key v) = Except.ok d ↔ _
        rw [hread, readInto_iff, readInto_iff, hkept, hothers]
        simp [decides_cons, hne, keepField]

/-- **Which item an object is read as.**  A part that has a key of its own is read from the member
of that key; absent is null, but identity and type must not be absent.  All other members are kept,
in order. -/
structure ReadFrom (ms : Entries Json) (d : Item) : Prop where
  id : Entries.get? ms "id" = some (.string d.id)
  typename : Entries.get? ms "__typename" = some (.string d.typename)
  updatedAt : (Reader.optional Instant.reader).ofJson
    ((Entries.get? ms "updatedAt").getD .null) = .ok d.updatedAt
  stages : (Reader.optional (.list StageRecord.reader)).ofJson
    ((Entries.get? ms "documentInStages").getD .null) = .ok d.stages
  fields : d.fields = otherMembers ms

lemma string_ofJson_eq_ok {v : Json} {t : String} :
    Reader.string.ofJson v = .ok t ↔ v = .string t := by
  cases v <;> simp [Reader.ofJson, Input.ofJson, Reader.string]

lemma firstMissing_parts {seen : List String} :
    Reader.firstMissing parts seen = none ↔ "id" ∈ seen ∧ "__typename" ∈ seen := by
  simp [Reader.firstMissing, parts, Reader.Field.needed, Reader.Field.default]

lemma mem_named {key : String} (h : key ∈ partKeys) :
    key ∈ Reader.named parts ms ↔ key ∈ Entries.keys ms := by
  have hfound : (parts.find? fun f => f.name == key).isSome = true := by
    simp only [partKeys, List.mem_cons, List.not_mem_nil, or_false] at h
    rcases h with rfl | rfl | rfl | rfl <;> rfl
  simp [Reader.named, hfound]

/-- A part that may be absent is read as null then. -/
lemma decides_optional_iff {α : Type} {r : Reader α} {key : String} {after : Option α} :
    Decides (Reader.optional r) ms key none after ↔
      (Reader.optional r).ofJson ((Entries.get? ms key).getD .null) = .ok after := by
  rw [Decides]
  cases Entries.get? ms key with
  | some v => exact Iff.rfl
  | none =>
      change after = none ↔ Except.ok none = Except.ok after
      rw [Except.ok.injEq, eq_comm]

/-- A part that must not be absent. -/
lemma decides_string_iff {key before after : String} :
    (key ∈ Entries.keys ms ∧ Decides Reader.string ms key before after) ↔
      Entries.get? ms key = some (.string after) := by
  rw [Decides]
  cases hget : Entries.get? ms key with
  | none => simp [Entries.get?_eq_none_iff.mp hget]
  | some v =>
      have hmem : key ∈ Entries.keys ms := by
        by_contra hnot
        rw [Entries.get?_eq_none_iff.mpr hnot] at hget
        cases hget
      simp [hmem, string_ofJson_eq_ok]

/-- **Reading an object with distinct keys.** -/
theorem ofJson_object_iff (h : (Json.object ms).DistinctKeys) :
    reader.ofJson (.object ms) = .ok d ↔ ReadFrom ms d := by
  cases h with
  | object hkeys hvalues =>
      have hread : reader.ofJson (.object ms) = .ok d ↔
          ms.foldlM (Reader.takeMember parts keepField) blank = .ok d ∧
            "id" ∈ Entries.keys ms ∧ "__typename" ∈ Entries.keys ms := by
        rw [reader_eq]
        change Reader.object parts (fun s key i => (Reader.json i).map (keepField s key)) blank
          (Input.ofMembers ms) = .ok d ↔ _
        rw [Reader.object, Reader.members_eq parts keepField hkeys hvalues [] blank (by simp)]
        cases ms.foldlM (Reader.takeMember parts keepField) blank with
        | error e => simp [Except.map]
        | ok s' =>
            have hfound : Reader.firstMissing parts (Reader.named parts ms ++ []) = none ↔
                "id" ∈ Entries.keys ms ∧ "__typename" ∈ Entries.keys ms := by
              rw [List.append_nil, firstMissing_parts, mem_named (by decide), mem_named (by decide)]
            rw [← hfound]
            dsimp only [Except.map]
            cases Reader.firstMissing parts (Reader.named parts ms ++ []) <;> simp
      rw [hread, foldlM_takeMember_iff hkeys (fun key hkey => by cases hkey), readInto_iff]
      constructor
      · rintro ⟨⟨hid, htypename, htime, hstages, hfields⟩, hneeded⟩
        exact ⟨decides_string_iff.mp ⟨hneeded.1, hid⟩, decides_string_iff.mp ⟨hneeded.2, htypename⟩,
          decides_optional_iff.mp htime, decides_optional_iff.mp hstages, hfields⟩
      · rintro ⟨hid, htypename, htime, hstages, hfields⟩
        obtain ⟨hidKey, hid⟩ := decides_string_iff.mpr hid
        obtain ⟨htypenameKey, htypename⟩ := decides_string_iff.mpr htypename
        exact ⟨⟨hid, htypename, decides_optional_iff.mpr htime, decides_optional_iff.mpr hstages,
          hfields⟩, hidKey, htypenameKey⟩

end Read

end Item

/-! ## Points in time that exist -/

section Times

lemma proper_of_reader {i : Input} {t : Instant} (h : Instant.reader i = .ok t) : t.Proper := by
  rw [Instant.reader, Reader.andThen] at h
  split at h
  · cases h
  · next s _ =>
      split at h
      · next t' hparse =>
          cases h
          exact Instant.proper_of_parse? hparse
      · cases h

lemma of_optional {α : Type} {r : Reader α} {i : Input} {o : Option α}
    (h : Reader.optional r i = .ok o) : ∀ a ∈ o, r i = .ok a := by
  intro a ha
  unfold Reader.optional at h
  split at h
  · cases h
    cases ha
  · obtain ⟨a', hread, rfl⟩ := Json.of_map_eq_ok h
    cases ha
    exact hread

lemma proper_of_optional {i : Input} {o : Option Instant}
    (h : Reader.optional Instant.reader i = .ok o) : ∀ t ∈ o, t.Proper :=
  fun t ht => proper_of_reader (of_optional h t ht)

namespace StageRecord

/-- The point in time of a presence that is read exists. -/
lemma proper_of_reader {i : Input} {r : StageRecord} (h : StageRecord.reader i = .ok r) :
    ∀ t ∈ r.updatedAt, t.Proper := by
  refine Reader.keeps_record (P := fun r : StageRecord => ∀ t ∈ r.updatedAt, t.Proper)
    (fun f hf => ?_) (fun t ht => by cases ht) h
  simp only [List.mem_cons, List.not_mem_nil, or_false] at hf
  rcases hf with rfl | rfl
  · intro s i s' hs htake
    obtain ⟨stage, -, rfl⟩ := Json.of_map_eq_ok htake
    exact hs
  · intro s i s' hs htake
    obtain ⟨time, htime, rfl⟩ := Json.of_map_eq_ok htake
    exact proper_of_optional htime

end StageRecord

/-! ## What is written is read back -/

lemma optional_ofJson {α : Type} {r : Reader α} {v : Json} {a : α} (hv : v ≠ .null)
    (h : r.ofJson v = .ok a) : (Reader.optional r).ofJson v = .ok (some a) := by
  have hread : (Reader.optional r).ofJson v = (r.ofJson v).map some := by
    cases v with
    | null => exact absurd rfl hv
    | bool | number | string | array | object => rfl
  rw [hread, h]
  rfl

lemma Instant.ofJson_string {text : String} {t : Instant} (h : Instant.parse? text = some t) :
    Instant.reader.ofJson (.string text) = .ok t := by
  rw [Reader.ofJson, Instant.reader, Reader.andThen, Input.ofJson]
  simp only [Reader.string, h]

lemma optional_optionToJson {o : Option Instant} (h : ∀ t ∈ o, t.Proper) :
    (Reader.optional Instant.reader).ofJson (Instant.optionToJson o) = .ok o := by
  cases o with
  | none => rfl
  | some t =>
      rw [Instant.optionToJson]
      exact optional_ofJson (by rintro ⟨⟩) (Instant.ofJson_string (Instant.parse?_render (h t rfl)))

lemma Stage.ofJson_name (stage : Stage) : Stage.reader.ofJson (.string stage.name) = .ok stage := by
  cases stage <;> rfl

/-- A presence in a stage is read back; a stage that is not told apart stays one. -/
lemma StageRecord.ofJson_toJson {r : StageRecord} (h : ∀ t ∈ r.updatedAt, t.Proper) :
    StageRecord.reader.ofJson r.toJson = .ok r := by
  have htime : Reader.optional Instant.reader (Input.ofJson (Instant.optionToJson r.updatedAt)) =
      .ok r.updatedAt := optional_optionToJson h
  have hstage : Stage.reader (Input.ofJson (.string r.stage.name)) = .ok r.stage :=
    r.stage.ofJson_name
  rw [Reader.ofJson, StageRecord.reader, StageRecord.toJson, Input.ofJson]
  simp only [Reader.record, Reader.object, Input.ofMembers, Reader.members,
    Reader.Field.needed, Reader.Field.default]
  simp [hstage, htime, Except.map, Reader.firstMissing]

end Times

namespace Item

section Written

variable {ms : Entries Json} {d : Item}

/-- The parts of an item that have a key of their own, as they are written. -/
def partMembers (d : Item) : Entries Json :=
  [("id", .string d.id), ("__typename", .string d.typename),
    ("updatedAt", Instant.optionToJson d.updatedAt)] ++ stagesMember d.stages

lemma toJson_eq (d : Item) : d.toJson = .object (d.partMembers ++ d.fields) := rfl

lemma keys_partMembers (d : Item) : (Entries.keys d.partMembers).Sublist partKeys := by
  rw [partMembers]
  cases d.stages with
  | none => exact List.sublist_append_left ["id", "__typename", "updatedAt"] ["documentInStages"]
  | some records => exact List.Sublist.refl partKeys

/-- **Whether an item can be written and read back**: its points in time exist, and its other fields
have distinct keys that are no part of their own. -/
structure Writable (d : Item) : Prop where
  updatedAt : ∀ t ∈ d.updatedAt, t.Proper
  stages : ∀ records ∈ d.stages, ∀ r ∈ records, ∀ t ∈ r.updatedAt, t.Proper
  keys : (Entries.keys d.fields).Nodup
  others : ∀ m ∈ d.fields, m.1 ∉ partKeys
  values : ∀ m ∈ d.fields, m.2.DistinctKeys

lemma ReadFrom.writable (hms : (Json.object ms).DistinctKeys) (h : ReadFrom ms d) : d.Writable := by
  cases hms with
  | object hkeys hvalues =>
      refine ⟨proper_of_optional h.updatedAt, fun records hrecords r hr => ?_, ?_, ?_, ?_⟩
      · have hlist := of_optional h.stages records hrecords
        obtain ⟨item, hitem⟩ := Reader.mem_list hlist r hr
        exact StageRecord.proper_of_reader hitem
      · rw [h.fields]
        exact hkeys.sublist (List.filter_sublist.map _)
      · rw [h.fields]
        exact fun m hm => of_decide_eq_true (List.mem_filter.mp hm).2
      · rw [h.fields]
        exact fun m hm => hvalues m (List.mem_filter.mp hm).1

lemma distinctKeys_optionToJson (o : Option Instant) : (Instant.optionToJson o).DistinctKeys := by
  cases o with
  | none => exact .null
  | some t => exact .string _

lemma distinctKeys_stageRecord (r : StageRecord) : r.toJson.DistinctKeys := by
  have hkeys : (Entries.keys [("stage", Json.string r.stage.name),
      ("updatedAt", Instant.optionToJson r.updatedAt)]).Nodup := by
    simp [Entries.keys]
  refine .object hkeys ?_
  rw [List.forall_mem_cons, List.forall_mem_singleton]
  exact ⟨.string _, distinctKeys_optionToJson _⟩

lemma distinctKeys_partMembers (d : Item) : ∀ m ∈ d.partMembers, m.2.DistinctKeys := by
  rw [partMembers]
  simp only [List.forall_mem_append, List.forall_mem_cons]
  refine ⟨⟨.string _, .string _, distinctKeys_optionToJson _, by simp⟩, fun m hm => ?_⟩
  cases hstages : d.stages with
  | none =>
      rw [hstages] at hm
      cases hm
  | some records =>
      rw [hstages] at hm
      obtain rfl := List.mem_singleton.mp hm
      refine .array fun item hitem => ?_
      obtain ⟨r, -, rfl⟩ := List.mem_map.mp hitem
      exact distinctKeys_stageRecord r

/-- No key is written twice. -/
lemma distinctKeys_toJson (h : d.Writable) : d.toJson.DistinctKeys := by
  rw [toJson_eq]
  refine .object ?_ fun m hm => ?_
  · rw [Entries.keys, List.map_append, List.nodup_append]
    refine ⟨(show partKeys.Nodup by decide).sublist d.keys_partMembers, h.keys, ?_⟩
    rintro key hpart other hother rfl
    obtain ⟨m, hm, rfl⟩ := List.mem_map.mp hother
    exact h.others m hm (d.keys_partMembers.subset hpart)
  · rcases List.mem_append.mp hm with hm | hm
    · exact distinctKeys_partMembers d m hm
    · exact h.values m hm

lemma otherMembers_append (h : d.Writable) :
    otherMembers (d.partMembers ++ d.fields) = d.fields := by
  have hparts : otherMembers d.partMembers = [] :=
    List.filter_eq_nil_iff.mpr fun m hm => by
      simpa using d.keys_partMembers.subset (List.mem_map.mpr ⟨m, hm, rfl⟩)
  have hothers : otherMembers d.fields = d.fields :=
    List.filter_eq_self.mpr fun m hm => decide_eq_true (h.others m hm)
  rw [otherMembers, List.filter_append, ← otherMembers, ← otherMembers, hparts, hothers,
    List.nil_append]

/-- The stages that are written are read back, and so is that there are none. -/
lemma stages_readBack (h : d.Writable) : (Reader.optional (.list StageRecord.reader)).ofJson
    ((Entries.get? (d.partMembers ++ d.fields) "documentInStages").getD .null) = .ok d.stages := by
  have hfields : Entries.get? d.fields "documentInStages" = none :=
    Entries.get?_eq_none_iff.mpr fun hmem => by
      obtain ⟨m, hm, hkey⟩ := List.mem_map.mp hmem
      exact h.others m hm (hkey ▸ by decide)
  rw [partMembers]
  cases hstages : d.stages with
  | none =>
      have hget : Entries.get? ([("id", Json.string d.id), ("__typename", .string d.typename),
          ("updatedAt", Instant.optionToJson d.updatedAt)] ++ stagesMember none ++ d.fields)
          "documentInStages" = none := hfields
      rw [hget]
      rfl
  | some records =>
      refine optional_ofJson (v := .array (records.map StageRecord.toJson)) (by rintro ⟨⟩) ?_
      refine Reader.list_ofJson (List.forall₂_map_left_iff.mpr (List.forall₂_same.mpr ?_))
      exact fun r hr => StageRecord.ofJson_toJson (h.stages records hstages r hr)

/-- **An item that is written** is read from its members. -/
lemma readFrom_written (h : d.Writable) : ReadFrom (d.partMembers ++ d.fields) d where
  id := rfl
  typename := rfl
  updatedAt := optional_optionToJson h.updatedAt
  stages := stages_readBack h
  fields := (otherMembers_append h).symm

end Written

/-- **An item that was read is written so that it is read again.**  It has the parts that the
members of its object say, and all other members in order; and writing it once settles its written
form. -/
theorem toJson_readBack {ms : Entries Json} {d : Item} (hms : (Json.object ms).DistinctKeys)
    (h : reader.ofJson (.object ms) = .ok d) :
    ReadFrom ms d ∧ reader.ofJson d.toJson = .ok d ∧
      (reader.ofJson d.toJson).map toJson = .ok d.toJson := by
  have hfrom := (ofJson_object_iff hms).mp h
  have hwritable := hfrom.writable hms
  have hback : reader.ofJson d.toJson = .ok d :=
    (ofJson_object_iff (distinctKeys_toJson hwritable)).mpr (readFrom_written hwritable)
  exact ⟨hfrom, hback, by rw [hback]; rfl⟩

/-- A post whose parts stand between its other fields.  It was published in a leap second, is in a
stage that the project added, and its last presence is given as an array. -/
def reviewedPost : Entries Json := [
  ("title", .string "Hello"),
  ("documentInStages", .array [
    .object [("updatedAt", .string "2016-12-31T23:59:60.5Z"), ("stage", .string "PUBLISHED")],
    .object [("stage", .string "QA"), ("note", .null)],
    .array [.string "DRAFT"]]),
  ("id", .string "p1"),
  ("updatedAt", .string "2024-05-01T12:30:00+02:30"),
  ("__typename", .string "Post"),
  ("seo", .null)]

/-- The item that it is read as. -/
def reviewedItem : Item where
  id := "p1"
  typename := "Post"
  updatedAt := some ⟨1714557600, 0⟩
  stages := some [⟨.published, some ⟨1483228799, 1500000000⟩⟩, ⟨.other, none⟩, ⟨.draft, none⟩]
  fields := [("title", .string "Hello"), ("seo", .null)]

lemma distinctKeys_reviewedPost : (Json.object reviewedPost).DistinctKeys := by
  refine .object (by decide) ?_
  simp only [reviewedPost, List.forall_mem_cons]
  refine ⟨.string _, .array ?_, .string _, .string _, .string _, .null, by simp⟩
  simp only [List.forall_mem_cons]
  refine ⟨.object (by decide) ?_, .object (by decide) ?_, .array ?_, by simp⟩
  · simp only [List.forall_mem_cons]
    exact ⟨.string _, .string _, by simp⟩
  · simp only [List.forall_mem_cons]
    exact ⟨.string _, .null, by simp⟩
  · simp only [List.forall_mem_cons]
    exact ⟨.string _, by simp⟩

lemma ofJson_reviewedPost : reader.ofJson (.object reviewedPost) = .ok reviewedItem := by
  have hchanged : Instant.parse? "2024-05-01T12:30:00+02:30" = some ⟨1714557600, 0⟩ := by
    decide +kernel
  have hleap : Instant.parse? "2016-12-31T23:59:60.5Z" = some ⟨1483228799, 1500000000⟩ := by
    decide +kernel
  refine (ofJson_object_iff distinctKeys_reviewedPost).mpr ⟨rfl, rfl, ?_, ?_, by rfl⟩
  · exact optional_ofJson (by rintro ⟨⟩) (Instant.ofJson_string hchanged)
  · have htime : Reader.optional Instant.reader (.string "2016-12-31T23:59:60.5Z") =
        .ok (some ⟨1483228799, 1500000000⟩) :=
      optional_ofJson (by rintro ⟨⟩) (Instant.ofJson_string hleap)
    have hpublished : StageRecord.reader.ofJson (.object
        [("updatedAt", .string "2016-12-31T23:59:60.5Z"), ("stage", .string "PUBLISHED")]) =
          .ok ⟨.published, some ⟨1483228799, 1500000000⟩⟩ := by
      rw [Reader.ofJson, StageRecord.reader, Input.ofJson]
      simp only [Reader.record, Reader.object, Input.ofMembers, Reader.members,
        Reader.Field.needed, Reader.Field.default, Input.ofJson]
      simp [htime, Except.map, Reader.firstMissing]
      rfl
    refine optional_ofJson (by rintro ⟨⟩) (Reader.list_ofJson ?_)
    exact .cons hpublished (.cons rfl (.cons rfl .nil))

/-- What was not told apart or had no part of its own does not change when it is written. -/
theorem toJson_readBack_reviewed : (Json.object reviewedPost).DistinctKeys ∧
    reader.ofJson (.object reviewedPost) = .ok reviewedItem ∧ ReadFrom reviewedPost reviewedItem ∧
    reader.ofJson reviewedItem.toJson = .ok reviewedItem ∧
    (reader.ofJson reviewedItem.toJson).map toJson = .ok reviewedItem.toJson :=
  ⟨distinctKeys_reviewedPost, ofJson_reviewedPost,
    toJson_readBack distinctKeys_reviewedPost ofJson_reviewedPost⟩

end Item

end ContentSync
