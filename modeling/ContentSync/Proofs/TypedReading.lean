import ContentSync.Json.Reading
import ContentSync.Proofs.AliasRemoval
import Mathlib.Data.List.Forall2

/-!
# What typed readers make of values

A value is taken up without loss when its keys are distinct, and a record that is read from it is
built one member after another.

* `Input.toJson?_ofJson` — a value is what its input denotes.
* `Reader.members_eq` — members with distinct keys, one after another.
* `Reader.list_ofJson` — a list, item by item.
* `Reader.keeps_record` — what every field keeps holds of a record, however it is given.
-/

namespace ContentSync.Json

/-! ## Results -/

section Results

variable {ε α β γ : Type} {x : Except ε α} {f : α → β}

lemma of_map_eq_ok {b : β} (h : x.map f = .ok b) : ∃ a, x = .ok a ∧ f a = b := by
  cases x with
  | error e => cases h
  | ok a => exact ⟨a, rfl, Except.ok.inj h⟩

/-- A result is worked on further exactly when it is there. -/
lemma map_bind_eq_ok {g : β → Except ε γ} {c : γ} :
    (x.map f >>= g) = .ok c ↔ ∃ a, x = .ok a ∧ g (f a) = .ok c := by
  constructor
  · intro h
    cases x with
    | error e => cases h
    | ok a => exact ⟨a, rfl, h⟩
  · rintro ⟨a, rfl, h⟩
    exact h

end Results

/-! ## Values -/

namespace Input

mutual

/-- A value with distinct keys is what its input denotes. -/
lemma toJson?_ofJson : ∀ v : Json, v.DistinctKeys → (ofJson v).toJson? = some v
  | .null, _ => rfl
  | .bool _, _ => rfl
  | .number _, _ => rfl
  | .string _, _ => rfl
  | .array items, h => by
      cases h with
      | array hitems => rw [ofJson, toJson?, toItems?_ofItems items hitems, Option.map_some]
  | .object members, h => by
      cases h with
      | object hkeys hmembers =>
          rw [ofJson, toJson?, toMembers?_ofMembers members hmembers, Option.map_some,
            Entries.ofList_of_nodup hkeys]

lemma toItems?_ofItems : ∀ items : List Json, (∀ item ∈ items, item.DistinctKeys) →
    toItems? (ofItems items) = some items
  | [], _ => rfl
  | v :: rest, h => by
      obtain ⟨hv, hrest⟩ := List.forall_mem_cons.mp h
      simp only [ofItems, toItems?, toJson?_ofJson v hv, toItems?_ofItems rest hrest]

lemma toMembers?_ofMembers : ∀ members : List (String × Json),
    (∀ m ∈ members, m.2.DistinctKeys) → toMembers? (ofMembers members) = some members
  | [], _ => rfl
  | (key, v) :: rest, h => by
      obtain ⟨hv, hrest⟩ := List.forall_mem_cons.mp h
      simp only [ofMembers, toMembers?, toJson?_ofJson v hv, toMembers?_ofMembers rest hrest]

end

end Input

/-! ## Open records with distinct keys -/

namespace Reader

variable {σ : Type}

/-- What one member adds to a record. -/
def takeMember (fields : List (Field σ)) (keep : σ → String → Json → σ) (s : σ)
    (m : String × Json) : Except ReadError σ :=
  match fields.find? fun f => f.name == m.1 with
  | none => .ok (keep s m.1 m.2)
  | some f => f.take s (Input.ofJson m.2)

/-- The members that have a field, the last one first. -/
def named (fields : List (Field σ)) (ms : List (String × Json)) : List String :=
  ((Entries.keys ms).filter fun key => (fields.find? fun f => f.name == key).isSome).reverse

/-- **Members with distinct keys** are taken one after another. -/
lemma members_eq (fields : List (Field σ)) (keep : σ → String → Json → σ)
    {ms : List (String × Json)} (hkeys : (Entries.keys ms).Nodup)
    (hvalues : ∀ m ∈ ms, m.2.DistinctKeys) : ∀ (seen : List String) (s : σ),
    (∀ key ∈ seen, key ∉ Entries.keys ms) →
    members fields (fun s key i => (json i).map (keep s key)) (Input.ofMembers ms) seen s =
      (ms.foldlM (takeMember fields keep) s).map fun s' => (named fields ms ++ seen, s') := by
  induction ms with
  | nil => exact fun seen s _ => rfl
  | cons m rest ih =>
      intro seen s hseen
      obtain ⟨key, v⟩ := m
      obtain ⟨hkey, hrest⟩ := List.nodup_cons.mp hkeys
      obtain ⟨hv, hvalues⟩ := List.forall_mem_cons.mp hvalues
      have hseen' : ∀ k ∈ seen, k ∉ Entries.keys rest := fun k hk hmem =>
        hseen k hk (List.mem_cons_of_mem _ hmem)
      have hjson : json (Input.ofJson v) = .ok v := by
        rw [json, Input.toJson?_ofJson v hv]
      rw [Input.ofMembers, members, List.foldlM_cons, takeMember]
      dsimp only
      cases hfind : fields.find? fun f => f.name == key with
      | none =>
          have hnamed : named fields ((key, v) :: rest) = named fields rest := by
            simp [named, Entries.keys, hfind]
          dsimp only
          rw [hjson, hnamed]
          exact ih hrest hvalues seen _ hseen'
      | some f =>
          have hnew : key ∉ seen := fun hmem => hseen key hmem List.mem_cons_self
          have hnamed : named fields ((key, v) :: rest) = named fields rest ++ [key] := by
            simp [named, Entries.keys, hfind]
          dsimp only
          rw [if_neg hnew]
          cases htake : f.take s (Input.ofJson v) with
          | error e => rfl
          | ok s' =>
              refine (ih hrest hvalues (key :: seen) s' ?_).trans ?_
              · intro k hk
                rcases List.mem_cons.mp hk with rfl | hk
                · exact hkey
                · exact hseen' k hk
              · rw [hnamed, List.append_assoc]
                rfl

/-! ## Lists -/

section Lists

variable {α : Type} {r : Reader α}

/-- **A list is read** item by item. -/
lemma list_ofJson {listed : List Json} {values : List α}
    (h : List.Forall₂ (fun v a => r.ofJson v = .ok a) listed values) :
    (Reader.list r).ofJson (.array listed) = .ok values := by
  change Reader.items r (Input.ofItems listed) = .ok values
  induction h with
  | nil => rfl
  | @cons v a rest values hv _ ih =>
      have hv : r (Input.ofJson v) = .ok a := hv
      rw [Input.ofItems, items, hv]
      dsimp only
      rw [ih]
      rfl

/-- Every item of a list that is read was read. -/
lemma mem_list {i : Input} {values : List α} (h : Reader.list r i = .ok values) :
    ∀ a ∈ values, ∃ item, r item = .ok a := by
  have hitems : ∀ (is : List Input) (values : List α), items r is = .ok values →
      ∀ a ∈ values, ∃ item, r item = .ok a := by
    intro is
    induction is with
    | nil =>
        intro values h a ha
        cases h
        cases ha
    | cons item rest ih =>
        intro values h a ha
        rw [items] at h
        split at h
        · cases h
        · next first hfirst =>
            obtain ⟨later, hlater, rfl⟩ := of_map_eq_ok h
            rcases List.mem_cons.mp ha with rfl | ha
            · exact ⟨item, hfirst⟩
            · exact ih later hlater a ha
  unfold Reader.list at h
  split at h
  · exact hitems _ _ h
  · cases h

end Lists

/-! ## What every field keeps -/

section Keeps

variable {fields : List (Field σ)} {P : σ → Prop}

/-- Whether reading a field keeps something true of a record. -/
def Keeps (P : σ → Prop) (f : Field σ) : Prop := ∀ s i s', P s → f.take s i = .ok s' → P s'

lemma keeps_members (hfields : ∀ f ∈ fields, Keeps P f) {ms : List (Option String × Input)} :
    ∀ {seen seen' : List String} {s s' : σ}, P s →
      members fields skipMember ms seen s = .ok (seen', s') → P s' := by
  induction ms with
  | nil =>
      intro seen seen' s s' hs h
      cases h
      exact hs
  | cons m rest ih =>
      obtain ⟨key, i⟩ := m
      intro seen seen' s s' hs h
      cases key with
      | none => cases h
      | some key =>
          rw [members] at h
          split at h
          · split at h
            · cases h
            · next s₁ hskip =>
                obtain ⟨-, -, rfl⟩ := of_map_eq_ok hskip
                exact ih hs h
          · next f hfind =>
              split at h
              · cases h
              · split at h
                · cases h
                · next s₁ htake =>
                    exact ih (hfields f (List.mem_of_find?_eq_some hfind) s i s₁ hs htake) h

lemma keeps_positional (origin : Origin) (hfields : ∀ f ∈ fields, Keeps P f) :
    ∀ {is : List Input} {s s' : σ}, P s → positional origin fields is s = .ok s' → P s' := by
  induction fields with
  | nil =>
      intro is s s' hs h
      cases is with
      | nil =>
          cases h
          exact hs
      | cons i is => cases h
  | cons f fs ih =>
      intro is s s' hs h
      obtain ⟨hf, hfs⟩ := List.forall_mem_cons.mp hfields
      cases is with
      | nil =>
          rw [positional] at h
          split at h
          · exact ih hfs hs h
          · cases h
      | cons i is =>
          rw [positional] at h
          split at h
          · cases h
          · next s₁ htake => exact ih hfs (hf s i s₁ hs htake) h

/-- **What every field keeps holds of the record**, however it is given. -/
lemma keeps_record (hfields : ∀ f ∈ fields, Keeps P f) {start s : σ} (hstart : P start) {i : Input}
    (h : record fields start i = .ok s) : P s := by
  unfold record at h
  split at h
  · next ms =>
      rw [object] at h
      split at h
      · cases h
      · next seen s' hmembers =>
          split at h
          · cases h
          · cases h
            exact keeps_members hfields hstart hmembers
  · exact keeps_positional _ hfields hstart h
  · cases h

end Keeps

end Reader

end ContentSync.Json
