import ContentSync.Proofs.EmptyBraces
import ContentSync.Proofs.FieldSelection

/-!
# Branches that are left empty

A field that does not resolve is left out of a selection, and so is the name of the type at the
start of a branch.  Nothing keeps a branch that has lost all its fields this way from being written,
as braces that enclose nothing.  Which queries that happens to is told by the schema: a path over
fields that are shown has to lead to a candidate which has nothing to show at its end.

* `Kept`, `Shown`, `Bare` — what is left of the fields of a type at the end of a path.
* `LeadsToEmpty` — the paths to an empty branch.
* `hasEmptyBraces_fieldNode` — the node of a field has empty braces exactly on such a path.
* `not_leadsToEmpty_of_ownFields` — a field of its own keeps a branch from being empty.
-/

namespace ContentSync

open GraphQL

/-! ## What is left of the fields of a type -/

section Paths

variable (schema : Schema) (ledger : Ledger)

/-- **Whether a field is kept** at the end of a path: a reference must have a type in the schema to
which the path may go on. -/
def Kept (f : Field) : Prop :=
  match f.kind with
  | .relation target => (schema.get? target).isSome ∧ (ledger.visit target).isSome
  | .polymorphic targets =>
      ∃ target ∈ targets, (schema.get? target).isSome ∧ (ledger.visit target).isSome
  | _ => True

/-- **Whether one of some fields is shown**: it is kept, and no field behind it that is kept takes
its place. -/
def Shown (fields : List Field) (f : Field) : Prop :=
  ∃ before after, fields = before ++ f :: after ∧ Kept schema ledger f ∧
    ∀ g ∈ after, Kept schema ledger g → g.name ≠ f.name

/-- Fields of which a branch shows nothing: only the name of the type is left. -/
def Bare (fields : List Field) : Prop :=
  ∀ f, Shown schema ledger fields f → f.kind = .scalar ∧ f.name = typenameField

/-- **A field from which a path leads to an empty branch.**  The path may go on to a candidate that
has nothing to show there, or to a type that shows such a field in turn. -/
inductive LeadsToEmpty (schema : Schema) : Ledger → Field → Prop
  | branch {ledger next : Ledger} {f : Field} {targets : List String} {target : String}
      {t : ContentType} :
      f.kind = .polymorphic targets → target ∈ targets → schema.get? target = some t →
      ledger.visit target = some next → Bare schema next t.fields → LeadsToEmpty schema ledger f
  | step {ledger next : Ledger} {f g : Field} {target : String} {t : ContentType} :
      target ∈ f.kind.targets → schema.get? target = some t → ledger.visit target = some next →
      Shown schema next t.fields g → LeadsToEmpty schema next g → LeadsToEmpty schema ledger f

end Paths

/-! ## Nodes and branches -/

section Branches

variable {type : String} {n m : Selection} {s : SelectionSet}

lemma GraphQL.Selection.Plain.isSilent (h : n.Plain) : n.isSilent = false := by
  cases n with
  | leaf name label => rfl
  | object name label arguments children => rfl
  | on branches => exact h.elim

/-- An alias does not touch what is inside the braces of a node. -/
lemma hasEmptyBraces_aliasNode (h : aliasNode type n = some m) :
    m.hasEmptyBraces = n.hasEmptyBraces := by
  cases n with
  | leaf name label =>
      rw [aliasNode] at h
      split at h
      · cases h
      · cases h
        rfl
  | object name label arguments children =>
      cases h
      rfl
  | on branches =>
      cases h
      rfl

/-- Only the name of the type is left out of a branch. -/
lemma aliasNode_eq_none_iff (type : String) (n : Selection) :
    aliasNode type n = none ↔ ∃ label, n = .leaf typenameField label := by
  cases n with
  | leaf name label =>
      rw [aliasNode]
      split
      · next hname => simp [hname]
      · next hname => simp [hname]
  | object name label arguments children => simp [aliasNode]
  | on branches => simp [aliasNode]

lemma plain_isSilent_aliasNode (hplain : n.Plain) (h : aliasNode type n = some m) :
    m.isSilent = false := by
  cases n with
  | leaf name label =>
      rw [aliasNode] at h
      split at h
      · cases h
      · cases h
        rfl
  | object name label arguments children =>
      cases h
      rfl
  | on branches => exact hplain.elim

lemma nodesHaveEmptyBraces_aliasBranch (hplain : ∀ n ∈ s, n.Plain) (hnodup : s.keys.Nodup) :
    nodesHaveEmptyBraces (aliasBranch type s) ↔ nodesHaveEmptyBraces s := by
  rw [aliasBranch_eq type hplain hnodup, nodesHaveEmptyBraces_iff, nodesHaveEmptyBraces_iff]
  constructor
  · rintro ⟨m, hm, hempty⟩
    obtain ⟨n, hn, hnm⟩ := List.mem_filterMap.mp hm
    exact ⟨n, hn, hasEmptyBraces_aliasNode hnm ▸ hempty⟩
  · rintro ⟨n, hn, hempty⟩
    cases hnm : aliasNode type n with
    | none =>
        obtain ⟨label, rfl⟩ := (aliasNode_eq_none_iff type n).mp hnm
        cases hempty
    | some m =>
        exact ⟨m, List.mem_filterMap.mpr ⟨n, hn, hnm⟩, (hasEmptyBraces_aliasNode hnm).trans hempty⟩

/-- **A branch encloses nothing exactly when all it had was the name of the type.** -/
lemma all_isSilent_aliasBranch (hplain : ∀ n ∈ s, n.Plain) (hnodup : s.keys.Nodup) :
    (aliasBranch type s).all Selection.isSilent ↔
      ∀ n ∈ s, ∃ label, n = .leaf typenameField label := by
  rw [aliasBranch_eq type hplain hnodup, List.all_eq_true]
  constructor
  · intro h n hn
    rw [← aliasNode_eq_none_iff type]
    cases hnm : aliasNode type n with
    | none => rfl
    | some m =>
        have hsilent := h m (List.mem_filterMap.mpr ⟨n, hn, hnm⟩)
        rw [plain_isSilent_aliasNode (hplain n hn) hnm] at hsilent
        cases hsilent
  · intro h m hm
    obtain ⟨n, hn, hnm⟩ := List.mem_filterMap.mp hm
    rw [(aliasNode_eq_none_iff type n).mpr (h n hn)] at hnm
    cases hnm

lemma mem_branchesOf_iff {follow : String → Option SelectionSet} {targets : List String}
    {p : String × List Selection} :
    p ∈ branchesOf follow targets ↔
      p.1 ∈ targets ∧ ∃ s, follow p.1 = some s ∧ aliasBranch p.1 s = p.2 := by
  have hnodup : (Entries.keys (branchesOf follow targets)).Nodup := Entries.nodup_keys_ofList _
  obtain ⟨type, children⟩ := p
  rw [← Entries.get?_eq_some_iff hnodup, get?_branchesOf]
  split
  · next htarget => simp [htarget, Option.map_eq_some_iff]
  · next htarget => simp [htarget]

end Branches

/-! ## Fields -/

section Fields

variable {schema : Schema} {ledger : Ledger} {f : Field} {fields : List Field}

lemma follow_isSome_iff (below : String → Ledger → SelectionSet) {target : String} :
    (follow schema below ledger target).isSome ↔
      (schema.get? target).isSome ∧ (ledger.visit target).isSome := by
  rw [follow]
  cases schema.get? target <;> simp

/-- A field that is kept has a node. -/
lemma fieldNode_isSome_iff (below : String → Ledger → SelectionSet) :
    (fieldNode (follow schema below ledger) f).isSome ↔ Kept schema ledger f := by
  rw [fieldNode, Kept]
  cases f.kind with
  | scalar | richText | color | location | image => simp
  | relation target => simp only [Option.isSome_map, follow_isSome_iff]
  | polymorphic targets =>
      have hopen : ∀ target, follow schema below ledger target ≠ none ↔
          (schema.get? target).isSome ∧ (ledger.visit target).isSome := by
        intro target
        rw [← follow_isSome_iff below, Option.isSome_iff_ne_none]
      dsimp only
      split
      · next hempty =>
          rw [branchesOf_isEmpty_iff] at hempty
          refine iff_of_false Bool.false_ne_true ?_
          rintro ⟨target, htarget, h⟩
          exact (hopen target).mpr h (hempty target htarget)
      · next hempty =>
          rw [branchesOf_isEmpty_iff] at hempty
          push Not at hempty
          obtain ⟨target, htarget, h⟩ := hempty
          exact iff_of_true rfl ⟨target, htarget, (hopen target).mp h⟩

/-- A field that is shown has a node. -/
lemma Shown.exists_fieldNode (h : Shown schema ledger fields f)
    (below : String → Ledger → SelectionSet) :
    ∃ n, fieldNode (follow schema below ledger) f = some n := by
  obtain ⟨-, -, -, hkept, -⟩ := h
  exact Option.isSome_iff_exists.mp ((fieldNode_isSome_iff below).mpr hkept)

/-- **The last node of a name is that of the field that is shown.** -/
lemma isLast_filterMap_iff (below : String → Ledger → SelectionSet) {n : Selection} :
    SelectionSet.IsLast (fields.filterMap (fieldNode (follow schema below ledger))) n ↔
      ∃ f, Shown schema ledger fields f ∧ fieldNode (follow schema below ledger) f = some n := by
  constructor
  · rintro ⟨before, after, hnodes, hkey⟩
    obtain ⟨fs, gs, rfl, -, hafter⟩ := List.filterMap_eq_append_iff.mp hnodes
    obtain ⟨hs, f, gs, rfl, hskip, hf, rfl⟩ := List.filterMap_eq_cons_iff.mp hafter
    refine ⟨f, ⟨fs ++ hs, gs, by rw [List.append_assoc], ?_, fun g hg hkept hname => hkey ?_⟩, hf⟩
    · rw [← fieldNode_isSome_iff below, hf]
      rfl
    · obtain ⟨m, hm⟩ := Option.isSome_iff_exists.mp ((fieldNode_isSome_iff below).mpr hkept)
      rw [key_fieldNode hf, ← hname, ← key_fieldNode hm]
      exact List.mem_map_of_mem (List.mem_filterMap.mpr ⟨g, hg, hm⟩)
  · rintro ⟨f, ⟨before, after, rfl, -, hlast⟩, hf⟩
    have hnodes : (before ++ f :: after).filterMap (fieldNode (follow schema below ledger)) =
        before.filterMap (fieldNode (follow schema below ledger)) ++
          n :: after.filterMap (fieldNode (follow schema below ledger)) := by
      rw [List.filterMap_append, List.filterMap_cons_some hf]
    refine ⟨_, _, hnodes, fun hkey => ?_⟩
    obtain ⟨m, hm, hkey⟩ := List.mem_map.mp hkey
    obtain ⟨g, hg, hgm⟩ := List.mem_filterMap.mp hm
    have hkept : Kept schema ledger g := by
      rw [← fieldNode_isSome_iff below, hgm]
      rfl
    refine hlast g hg hkept ?_
    rw [← key_fieldNode hgm, hkey, key_fieldNode hf]

/-- What holds of some node that is not the name of the type holds of the node of a field that is
shown. -/
lemma exists_mem_selectionOfFields_iff (below : String → Ledger → SelectionSet)
    {p : Selection → Prop} (hp : ¬ p (.field typenameField)) :
    (∃ n ∈ selectionOfFields (follow schema below ledger) fields, p n) ↔
      ∃ f, Shown schema ledger fields f ∧
        ∃ n, fieldNode (follow schema below ledger) f = some n ∧ p n := by
  constructor
  · rintro ⟨n, hn, h⟩
    rcases mem_selectionOfFields.mp hn with hlast | ⟨rfl, -⟩
    · obtain ⟨f, hshown, hf⟩ := (isLast_filterMap_iff below).mp hlast
      exact ⟨f, hshown, n, hf, h⟩
    · exact absurd h hp
  · rintro ⟨f, hshown, n, hf, h⟩
    have hlast := (isLast_filterMap_iff below).mpr ⟨f, hshown, hf⟩
    exact ⟨n, mem_selectionOfFields.mpr (.inl hlast), h⟩

/-- A node of a field is the name of the type only if the field is a plain one of that name. -/
lemma fieldNode_eq_typename_iff {follow : String → Option SelectionSet} {n : Selection}
    (h : fieldNode follow f = some n) :
    (∃ label, n = .leaf typenameField label) ↔ f.kind = .scalar ∧ f.name = typenameField := by
  cases hkind : f.kind with
  | scalar | richText | color | location | image =>
      rw [fieldNode, hkind] at h
      cases h
      simp
  | relation target =>
      rw [fieldNode, hkind] at h
      obtain ⟨s, -, rfl⟩ := Option.map_eq_some_iff.mp h
      simp
  | polymorphic targets =>
      rw [fieldNode, hkind] at h
      dsimp only at h
      split at h
      · cases h
      · cases h
        simp

/-- The fields of a branch that has nothing but the name of the type. -/
lemma bare_iff (below : String → Ledger → SelectionSet) :
    (∀ n ∈ selectionOfFields (follow schema below ledger) fields,
      ∃ label, n = .leaf typenameField label) ↔ Bare schema ledger fields := by
  constructor
  · intro h f hshown
    obtain ⟨n, hn⟩ := hshown.exists_fieldNode below
    refine (fieldNode_eq_typename_iff hn).mp (h n (mem_selectionOfFields.mpr (.inl ?_)))
    exact (isLast_filterMap_iff below).mpr ⟨f, hshown, hn⟩
  · intro h n hn
    rcases mem_selectionOfFields.mp hn with hlast | ⟨rfl, -⟩
    · obtain ⟨f, hshown, hf⟩ := (isLast_filterMap_iff below).mp hlast
      exact (fieldNode_eq_typename_iff hf).mpr (h f hshown)
    · exact ⟨none, rfl⟩

/-- A selection is never empty. -/
lemma exists_mem_selectionOfFields (follow : String → Option SelectionSet) (fields : List Field) :
    ∃ n, n ∈ selectionOfFields follow fields := by
  rcases List.eq_nil_or_concat (fields.filterMap (fieldNode follow)) with hnil | ⟨init, n, hlast⟩
  · exact ⟨.field typenameField, mem_selectionOfFields.mpr (.inr ⟨rfl, by simp [hnil,
      SelectionSet.keys]⟩)⟩
  · exact ⟨n, mem_selectionOfFields.mpr (.inl ⟨init, [], by simpa using hlast, List.not_mem_nil⟩)⟩

end Fields

/-! ## Paths to an empty branch -/

section Schema

variable {schema : Schema} {ledger : Ledger}

/-- A path to an empty branch goes on to some type: the field of the path has a branch for it in
which nothing is shown, or the type shows a field from which the path goes on. -/
lemma leadsToEmpty_iff {f : Field} :
    LeadsToEmpty schema ledger f ↔
      ∃ target ∈ f.kind.targets, ∃ t next, schema.get? target = some t ∧
        ledger.visit target = some next ∧
          (((∃ targets, f.kind = .polymorphic targets) ∧ Bare schema next t.fields) ∨
            ∃ g, Shown schema next t.fields g ∧ LeadsToEmpty schema next g) := by
  constructor
  · intro h
    cases h with
    | branch hkind htarget ht hvisit hbare =>
        exact ⟨_, by rw [hkind]; exact htarget, _, _, ht, hvisit, .inl ⟨⟨_, hkind⟩, hbare⟩⟩
    | step htarget ht hvisit hshown h => exact ⟨_, htarget, _, _, ht, hvisit, .inr ⟨_, hshown, h⟩⟩
  · rintro ⟨target, htarget, t, next, ht, hvisit, ⟨⟨targets, hkind⟩, hbare⟩ | ⟨g, hshown, h⟩⟩
    · rw [hkind] at htarget
      exact .branch hkind htarget ht hvisit hbare
    · exact .step htarget ht hvisit hshown h

lemma plain_typeSelection {type : String} {t : ContentType} (ht : schema.get? type = some t) :
    ∀ n ∈ typeSelection schema type ledger, n.Plain := by
  rw [typeSelection_of_get? ht]
  exact fun n => plain_selectionOfFields

lemma nodup_keys_typeSelection {type : String} {t : ContentType}
    (ht : schema.get? type = some t) : (typeSelection schema type ledger).keys.Nodup := by
  rw [typeSelection_of_get? ht]
  exact nodup_keys_selectionOfFields _ _

/-- Structured values are written without empty braces. -/
lemma hasEmptyBraces_of_targets_eq_nil {follow : String → Option SelectionSet} {f : Field}
    {n : Selection} (h : fieldNode follow f = some n) (htargets : f.kind.targets = []) :
    n.hasEmptyBraces = false := by
  cases hkind : f.kind with
  | scalar | richText | color | location | image =>
      rw [fieldNode, hkind] at h
      cases h
      rfl
  | relation target =>
      rw [hkind] at htargets
      cases htargets
  | polymorphic targets =>
      rw [hkind] at htargets
      cases htargets
      rw [fieldNode, hkind] at h
      cases h

/-- A selection has a node with empty braces if a field that is shown leads to an empty branch; `p`
says which keys are looked at. -/
lemma exists_hasEmptyBraces_iff {type : String} {t : ContentType} (p : String → Prop)
    (ht : schema.get? type = some t)
    (hfields : ∀ f n, fieldNode (follow schema (typeSelection schema) ledger) f = some n →
      (n.hasEmptyBraces ↔ LeadsToEmpty schema ledger f)) :
    (∃ n ∈ typeSelection schema type ledger, n.hasEmptyBraces ∧ p n.key) ↔
      ∃ f, Shown schema ledger t.fields f ∧ p f.name ∧ LeadsToEmpty schema ledger f := by
  have htypename : ¬ ((Selection.field typenameField).hasEmptyBraces ∧
    p (Selection.field typenameField).key) := fun h => Bool.false_ne_true h.1
  rw [typeSelection_of_get? ht,
    exists_mem_selectionOfFields_iff (typeSelection schema) htypename]
  refine exists_congr fun f => and_congr_right fun hshown => ?_
  obtain ⟨n, hn⟩ := hshown.exists_fieldNode (typeSelection schema)
  rw [← hfields f n hn, ← key_fieldNode hn]
  constructor
  · rintro ⟨m, hm, hempty, hkey⟩
    cases hn.symm.trans hm
    exact ⟨hkey, hempty⟩
  · exact fun h => ⟨n, hn, h.2, h.1⟩

/-- The branch of a candidate is written with empty braces when its type is bare at the end of the
path, or when the selection of its type is. -/
lemma branch_hasEmptyBraces_iff {type : String} {t : ContentType}
    (ht : schema.get? type = some t) :
    ((aliasBranch type (typeSelection schema type ledger)).all Selection.isSilent ∨
        nodesHaveEmptyBraces (aliasBranch type (typeSelection schema type ledger))) ↔
      Bare schema ledger t.fields ∨ nodesHaveEmptyBraces (typeSelection schema type ledger) := by
  have hplain : ∀ n ∈ typeSelection schema type ledger, n.Plain := plain_typeSelection ht
  have hnodup : (typeSelection schema type ledger).keys.Nodup := nodup_keys_typeSelection ht
  rw [all_isSilent_aliasBranch hplain hnodup, nodesHaveEmptyBraces_aliasBranch hplain hnodup,
    typeSelection_of_get? ht, bare_iff]

/-- The branches of a polymorphic field are those of the candidates to which the path may go on. -/
lemma exists_mem_branchesOf_iff {targets : List String} {p : String × SelectionSet → Prop} :
    (∃ b ∈ branchesOf (follow schema (typeSelection schema) ledger) targets, p b) ↔
      ∃ target ∈ targets, ∃ t next, schema.get? target = some t ∧
        ledger.visit target = some next ∧
          p (target, aliasBranch target (typeSelection schema target next)) := by
  constructor
  · rintro ⟨⟨target, children⟩, hb, hp⟩
    obtain ⟨htarget, s, hfollow, hs⟩ := mem_branchesOf_iff.mp hb
    obtain ⟨hsome, next, hvisit, rfl⟩ := follow_eq_some_iff.mp hfollow
    obtain ⟨t, ht⟩ := Option.isSome_iff_exists.mp hsome
    dsimp only at hs
    subst hs
    exact ⟨target, htarget, t, next, ht, hvisit, hp⟩
  · rintro ⟨target, htarget, t, next, ht, hvisit, hp⟩
    refine ⟨_, mem_branchesOf_iff.mpr ⟨htarget, _, follow_eq_some_iff.mpr ?_, rfl⟩, hp⟩
    exact ⟨by rw [ht]; rfl, next, hvisit, rfl⟩

/-- A polymorphic field is written with empty braces when one of its branches is. -/
lemma hasEmptyBraces_branches (name : String) (branches : Branches) :
    (Selection.object name none [] (SelectionSet.ofList
        [.field typenameField, .on branches])).hasEmptyBraces ↔
      ∃ p ∈ branches, p.2.all Selection.isSilent ∨ nodesHaveEmptyBraces p.2 := by
  rw [ofList_typename_on, hasEmptyBraces_object List.mem_cons_self rfl,
    ← branchesHaveEmptyBraces_iff]
  simp [nodesHaveEmptyBraces, Selection.field, Selection.hasEmptyBraces]

/-- **The node of a field has empty braces exactly when a path leads from it to an empty branch.**
The induction is over the paths that go on from the field. -/
theorem hasEmptyBraces_fieldNode (ledger : Ledger) : ∀ f n,
    fieldNode (follow schema (typeSelection schema) ledger) f = some n →
      (n.hasEmptyBraces ↔ LeadsToEmpty schema ledger f) := by
  induction ledger using Ledger.visit_induction schema with
  | step ledger ih =>
      intro f n hn
      have hbelow : ∀ {target : String} {t : ContentType} {next : Ledger},
          schema.get? target = some t → ledger.visit target = some next →
          (nodesHaveEmptyBraces (typeSelection schema target next) ↔
            ∃ g, Shown schema next t.fields g ∧ LeadsToEmpty schema next g) := by
        intro target t next ht hvisit
        have hnodes := exists_hasEmptyBraces_iff (fun _ => True) ht (ih ht hvisit)
        simpa only [nodesHaveEmptyBraces_iff, and_true, true_and] using hnodes
      rw [leadsToEmpty_iff]
      cases hkind : f.kind with
      | scalar | richText | color | location | image =>
          have hnone := hasEmptyBraces_of_targets_eq_nil hn (by rw [hkind]; rfl)
          simp [hnone, FieldKind.targets]
      | relation target =>
          rw [fieldNode, hkind] at hn
          obtain ⟨s, hfollow, rfl⟩ := Option.map_eq_some_iff.mp hn
          obtain ⟨hsome, next, hvisit, rfl⟩ := follow_eq_some_iff.mp hfollow
          obtain ⟨t, ht⟩ := Option.isSome_iff_exists.mp hsome
          obtain ⟨m, hm⟩ : ∃ m, m ∈ typeSelection schema target next := by
            rw [typeSelection_of_get? ht]
            exact exists_mem_selectionOfFields _ _
          rw [hasEmptyBraces_object hm (plain_typeSelection ht m hm).isSilent, hbelow ht hvisit]
          simp [FieldKind.targets, ht, hvisit]
      | polymorphic targets =>
          rw [fieldNode, hkind] at hn
          dsimp only at hn
          split at hn
          · cases hn
          · cases hn
            rw [hasEmptyBraces_branches, exists_mem_branchesOf_iff]
            refine exists_congr fun target => and_congr_right fun _ => exists_congr fun t =>
              exists_congr fun next => and_congr_right fun ht => and_congr_right fun hvisit => ?_
            rw [branch_hasEmptyBraces_iff ht, hbelow ht hvisit]
            simp

end Schema

/-! ## Fields of one's own -/

section OwnFields

variable {schema : Schema}

/-- Every type has a field that refers to nothing and is not the name of the type. -/
def Schema.OwnFields (schema : Schema) : Prop :=
  ∀ t ∈ schema.all, ∃ f ∈ t.fields, f.relation? = none ∧ f.name ≠ typenameField

instance (schema : Schema) : Decidable schema.OwnFields :=
  inferInstanceAs (Decidable (∀ t ∈ schema.all, ∃ f ∈ t.fields, _))

lemma kept_of_relation?_eq_none {ledger : Ledger} {f : Field} (h : f.relation? = none) :
    Kept schema ledger f := by
  rw [Field.relation?] at h
  rw [Kept]
  cases hkind : f.kind with
  | scalar | richText | color | location | image => trivial
  | relation target | polymorphic targets =>
      rw [hkind] at h
      cases h

/-- Under the name of a field that is kept some field is shown. -/
lemma exists_shown {ledger : Ledger} {fields : List Field} {f : Field} (hf : f ∈ fields)
    (hkept : Kept schema ledger f) : ∃ g, Shown schema ledger fields g ∧ g.name = f.name := by
  induction fields generalizing f with
  | nil => exact absurd hf List.not_mem_nil
  | cons first rest ih =>
      have hrest : ∀ {g : Field}, g ∈ rest → Kept schema ledger g →
          ∃ h, Shown schema ledger (first :: rest) h ∧ h.name = g.name := by
        intro g hg hkept
        obtain ⟨h, ⟨before, after, rfl, hshown⟩, hname⟩ := ih hg hkept
        exact ⟨h, ⟨first :: before, after, rfl, hshown⟩, hname⟩
      rcases List.mem_cons.mp hf with rfl | hf
      · by_cases hlater : ∃ g ∈ rest, Kept schema ledger g ∧ g.name = f.name
        · obtain ⟨g, hg, hgkept, hgname⟩ := hlater
          obtain ⟨h, hshown, hname⟩ := hrest hg hgkept
          exact ⟨h, hshown, hname.trans hgname⟩
        · push Not at hlater
          exact ⟨f, ⟨[], rest, rfl, hkept, hlater⟩, rfl⟩
      · exact hrest hf hkept

/-- **A field of its own keeps a branch from being empty**, wherever a path is cut off. -/
theorem not_leadsToEmpty_of_ownFields (hown : schema.OwnFields) {ledger : Ledger} {f : Field} :
    ¬ LeadsToEmpty schema ledger f := by
  intro h
  induction h with
  | branch _ _ ht _ hbare =>
      obtain ⟨own, hmem, hrelation, hname⟩ := hown _ (Schema.mem_all ht)
      obtain ⟨g, hshown, hg⟩ := exists_shown hmem (kept_of_relation?_eq_none hrelation)
      exact hname (hg.symm.trans (hbare g hshown).2)
  | step _ _ _ _ _ ih => exact ih

end OwnFields

end ContentSync
