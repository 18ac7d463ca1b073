import ContentSync.Proofs.FieldSelection
import Mathlib.Algebra.Order.BigOperators.Group.Finset
import Mathlib.Data.List.ToFinsupp

/-!
# Which references are followed

A path through a schema goes from type to type, over relations and over candidates of polymorphic
fields.  The selection of a type contains what a path leads to exactly when every type on the path
is in the schema and none occurs on it more than `maxTypeDepth` times.

The ledger at the end of a path holds exactly the occurrences on that path (`count_along`), and the
selection there is that of the last type under this ledger (`reached_eq`).  So nothing else in the
selection has a say in it.

* `Step`, `IsPath` — the paths of a schema.
* `reached` — what a path leads to in a selection.
* `reached_eq` — what that is in the selection of a type.
* `typeSelection_expands` — the main result.
-/

namespace ContentSync

open GraphQL

/-! ## Paths -/

/-- A step from one type to another. -/
inductive Step where
  /-- Over a relation to its target. -/
  | relation (field target : String)
  /-- Over a polymorphic field to one of its candidates. -/
  | candidate (field target : String)
  deriving DecidableEq

namespace Step

/-- The type a step goes to. -/
def target : Step → String
  | .relation _ target => target
  | .candidate _ target => target

/-- The type whose branch a step enters. -/
def branch? : Step → Option String
  | .relation _ _ => none
  | .candidate _ target => some target

end Step

/-- **The steps of a path exist**: each is a field of the type where it begins. -/
inductive IsPath (schema : Schema) : String → List Step → Prop
  | nil (type : String) : IsPath schema type []
  | relation {type target : String} {t : ContentType} {f : Field} {rest : List Step} :
      schema.get? type = some t → f ∈ t.fields → f.kind = .relation target →
      IsPath schema target rest → IsPath schema type (.relation f.name target :: rest)
  | candidate {type target : String} {targets : List String} {t : ContentType} {f : Field}
      {rest : List Step} :
      schema.get? type = some t → f ∈ t.fields → f.kind = .polymorphic targets →
      target ∈ targets → IsPath schema target rest →
      IsPath schema type (.candidate f.name target :: rest)

/-- The types on a path, its beginning included. -/
def typesOn (root : String) (path : List Step) : List String := root :: path.map Step.target

/-- The type at the end of a path. -/
def endOf : String → List Step → String
  | type, [] => type
  | _, step :: rest => endOf step.target rest

/-- The type in whose branch a path ends, if it ends in one. -/
def branchAt : Option String → List Step → Option String
  | inside, [] => inside
  | _, step :: rest => branchAt step.branch? rest

/-! ## What a path leads to -/

namespace GraphQL.SelectionSet

/-- The branch of a type in the object under a key. -/
def branch? (s : SelectionSet) (key type : String) : Option SelectionSet :=
  ((s.children? key).bind group?).bind fun branches => Entries.get? branches type

end GraphQL.SelectionSet

/-- The key of a field: its name, or inside a branch its alias. -/
def keyInside : Option String → String → String
  | none, field => field
  | some type, field => aliasFor type field

/-- **What a path leads to in a selection**: over a relation the selection of its object, over a
candidate its branch. -/
def reached : (inside : Option String) → SelectionSet → List Step → Option SelectionSet
  | _, s, [] => some s
  | inside, s, .relation field _ :: rest =>
      (s.children? (keyInside inside field)).bind fun children => reached none children rest
  | inside, s, .candidate field target :: rest =>
      (s.branch? (keyInside inside field) target).bind fun branch =>
        reached (some target) branch rest

lemma reached_append : ∀ (path rest : List Step) (inside : Option String) (s : SelectionSet),
    reached inside s (path ++ rest) =
      (reached inside s path).bind fun s' => reached (branchAt inside path) s' rest
  | [], rest, inside, s => rfl
  | .relation field target :: path, rest, inside, s => by
      rw [List.cons_append, reached, reached, Option.bind_assoc]
      exact congrArg _ (funext fun children => reached_append path rest none children)
  | .candidate field target :: path, rest, inside, s => by
      rw [List.cons_append, reached, reached, Option.bind_assoc]
      exact congrArg _ (funext fun branch => reached_append path rest (some target) branch)

/-! ## The ledger along a path -/

namespace Ledger

/-- The ledger of the path that goes on to a type; absent if the type is not in the schema or would
occur once too often. -/
def enter (schema : Schema) (ledger : Ledger) (type : String) : Option Ledger :=
  (schema.get? type).bind fun _ => ledger.visit type

/-- The ledger at the end of a path. -/
def along (schema : Schema) : Ledger → List Step → Option Ledger
  | ledger, [] => some ledger
  | ledger, step :: rest =>
      (ledger.enter schema step.target).bind fun next => along schema next rest

variable {schema : Schema}

lemma enter_eq_some_iff {ledger next : Ledger} {type : String} :
    ledger.enter schema type = some next ↔
      (schema.get? type).isSome ∧ ledger.visit type = some next := by
  rw [enter]
  cases schema.get? type <;> simp

/-- A reference is followed with the ledger of the longer path. -/
lemma follow_eq_map (below : String → Ledger → SelectionSet) (ledger : Ledger)
    (target : String) :
    follow schema below ledger target = (ledger.enter schema target).map (below target) := by
  rw [follow, enter]
  cases schema.get? target <;> rfl

/-- Along a path, each type is counted as often as it occurs there. -/
theorem count_along {path : List Step} : ∀ {ledger last : Ledger},
    ledger.along schema path = some last → ∀ type,
      last.count type = ledger.count type + (path.map Step.target).count type := by
  induction path with
  | nil =>
      intro ledger last h type
      cases h
      simp
  | cons step rest ih =>
      intro ledger last h type
      obtain ⟨next, hnext, hrest⟩ := Option.bind_eq_some_iff.mp h
      rw [ih hrest type, count_visit (enter_eq_some_iff.mp hnext).2 type, List.map_cons,
        List.count_cons]
      simp only [beq_iff_eq]
      omega

/-- **How far a path goes**: as long as its types are in the schema and none occurs on it, together
with what is counted already, more than `maxTypeDepth` times. -/
theorem along_isSome_iff {path : List Step} : ∀ {ledger : Ledger},
    (∀ type, ledger.count type ≤ maxTypeDepth) →
    ((ledger.along schema path).isSome ↔
      (∀ type ∈ path.map Step.target, (schema.get? type).isSome) ∧
        ∀ type, ledger.count type + (path.map Step.target).count type ≤ maxTypeDepth) := by
  induction path with
  | nil =>
      intro ledger hledger
      simpa [along] using hledger
  | cons step rest ih =>
      intro ledger hledger
      rw [along, enter, List.map_cons, List.forall_mem_cons]
      cases hget : schema.get? step.target with
      | none => simp
      | some t =>
          cases hvisit : ledger.visit step.target with
          | none =>
              have hfull : ¬ ledger.count step.target < maxTypeDepth := by
                rw [← visit_isSome_iff, hvisit]
                exact Bool.false_ne_true
              refine iff_of_false (by simp) fun h => ?_
              have hbound := h.2 step.target
              rw [List.count_cons_self] at hbound
              omega
          | some next =>
              have hcount := count_visit hvisit
              have hroom : ledger.count step.target < maxTypeDepth :=
                visit_isSome_iff.mp (by simp [hvisit])
              have hnext : ∀ type, next.count type ≤ maxTypeDepth := by
                intro type
                rw [hcount type]
                split
                · next heq => exact heq ▸ hroom
                · exact hledger type
              have htotal : ∀ type, next.count type + (rest.map Step.target).count type =
                  ledger.count type + (step.target :: rest.map Step.target).count type := by
                intro type
                rw [hcount type, List.count_cons]
                simp only [beq_iff_eq]
                omega
              simp only [Option.bind_some, ih hnext, htotal, Option.isSome_some, true_and]

end Ledger

/-! ## What is reached in the selection of a type -/

/-- A selection as it stands where a path ends: aliased inside a branch. -/
def inBranch : Option String → SelectionSet → SelectionSet
  | none, s => s
  | some type, s => aliasBranch type s

section Reaching

variable {schema : Schema} {follow : String → Option SelectionSet} {f : Field}
  {fields : List Field}

/-- Aliases do not touch the selections of objects. -/
lemma children?_inBranch (inside : Option String) {s : SelectionSet} (hplain : ∀ n ∈ s, n.Plain)
    (hnodup : s.keys.Nodup) (key : String) :
    (inBranch inside s).children? (keyInside inside key) = s.children? key := by
  cases inside with
  | none => rfl
  | some type =>
      rw [inBranch, keyInside, SelectionSet.children?, get?_aliasBranch type key hplain hnodup,
        SelectionSet.children?, Option.bind_assoc]
      exact congrArg _ (funext fun n => children?_aliasNode type n)

lemma children?_selectionOfFields (hnames : (fields.map Field.name).Nodup) (hf : f ∈ fields) :
    (selectionOfFields follow fields).children? f.name =
      (fieldNode follow f).bind Selection.children? := by
  rw [SelectionSet.children?, get?_selectionOfFields hnames hf]
  cases fieldNode follow f with
  | some n => rfl
  | none =>
      rw [Option.none_or]
      split <;> rfl

lemma children?_of_relation (hnames : (fields.map Field.name).Nodup) (hf : f ∈ fields)
    {target : String} (hkind : f.kind = .relation target) :
    (selectionOfFields follow fields).children? f.name = follow target := by
  rw [children?_selectionOfFields hnames hf, fieldNode, hkind]
  cases h : follow target <;> simp [h, Selection.children?]

lemma children?_of_polymorphic (hnames : (fields.map Field.name).Nodup) (hf : f ∈ fields)
    {targets : List String} (hkind : f.kind = .polymorphic targets) :
    (selectionOfFields follow fields).children? f.name =
      if (branchesOf follow targets).isEmpty then none
      else some [.field typenameField, .on (branchesOf follow targets)] := by
  rw [children?_selectionOfFields hnames hf, fieldNode, hkind]
  dsimp only
  split
  · rfl
  · rw [ofList_typename_on]
    rfl

lemma branch?_of_polymorphic (hnames : (fields.map Field.name).Nodup) (hf : f ∈ fields)
    {target : String} {targets : List String} (hkind : f.kind = .polymorphic targets)
    (htarget : target ∈ targets) :
    ((((selectionOfFields follow fields).children? f.name).bind SelectionSet.group?).bind
      fun branches => Entries.get? branches target) =
        (follow target).map (aliasBranch target) := by
  have hget := get?_branchesOf follow targets target
  rw [if_pos htarget] at hget
  rw [children?_of_polymorphic hnames hf hkind]
  split
  · next hempty => rw [← hget, Entries.isEmpty_iff_get?.mp hempty]; rfl
  · rw [← hget]; rfl

end Reaching

section Schema

variable {schema : Schema}

lemma children?_typeSelection (inside : Option String) {type : String} {t : ContentType}
    (ht : schema.get? type = some t) (ledger : Ledger) (key : String) :
    (inBranch inside (typeSelection schema type ledger)).children? (keyInside inside key) =
      (selectionOfFields (follow schema (typeSelection schema) ledger) t.fields).children? key := by
  rw [typeSelection_of_get? ht]
  exact children?_inBranch inside (fun _ => plain_selectionOfFields)
    (nodup_keys_selectionOfFields _ _) key

/-- **What a path leads to** is the selection of its last type, under the ledger of the path. -/
theorem reached_eq (hdistinct : schema.DistinctFields) {type : String} {path : List Step}
    (hpath : IsPath schema type path) : ∀ (inside : Option String) (ledger : Ledger),
    reached inside (inBranch inside (typeSelection schema type ledger)) path =
      (ledger.along schema path).map fun last =>
        inBranch (branchAt inside path) (typeSelection schema (endOf type path) last) := by
  induction hpath with
  | nil type => exact fun inside ledger => rfl
  | relation ht hf hkind _ ih =>
      intro inside ledger
      rw [reached, children?_typeSelection inside ht,
        children?_of_relation (hdistinct.nodup ht) hf hkind, Ledger.follow_eq_map, Ledger.along,
        Option.bind_map, Option.map_bind]
      exact congrArg _ (funext fun next => ih none next)
  | candidate ht hf hkind htarget _ ih =>
      intro inside ledger
      rw [reached, SelectionSet.branch?, children?_typeSelection inside ht,
        branch?_of_polymorphic (hdistinct.nodup ht) hf hkind htarget, Ledger.follow_eq_map,
        Option.map_map, Ledger.along, Option.bind_map, Option.map_bind]
      exact congrArg _ (funext fun next => ih (some _) next)

end Schema

/-! ## Paths of a schema -/

section Paths

variable {schema : Schema} {type : String} {path : List Step}

lemma endOf_mem_typesOn (type : String) : ∀ path : List Step, endOf type path ∈ typesOn type path
  | [] => List.mem_cons_self
  | step :: rest => List.mem_cons_of_mem type (endOf_mem_typesOn step.target rest)

/-- All types on a path but the last have fields, so they are in the schema. -/
lemma forall_typesOn_iff (hpath : IsPath schema type path) :
    (∀ other ∈ typesOn type path, (schema.get? other).isSome) ↔
      (schema.get? (endOf type path)).isSome := by
  constructor
  · exact fun h => h _ (endOf_mem_typesOn type path)
  · intro h
    induction hpath with
    | nil type =>
        intro other hother
        rw [List.mem_singleton.mp hother]
        exact h
    | relation ht _ _ _ ih | candidate ht _ _ _ _ ih =>
        intro other hother
        rcases List.mem_cons.mp hother with rfl | hrest
        · rw [ht]
          rfl
        · exact ih h other hrest

lemma isSome_get?_of_isPath (hpath : IsPath schema type path) (hne : path ≠ []) :
    (schema.get? type).isSome := by
  cases hpath with
  | nil => exact absurd rfl hne
  | relation ht _ _ _ | candidate ht _ _ _ _ =>
      rw [ht]
      rfl

lemma exists_step {t : ContentType} {f : Field} (ht : schema.get? type = some t)
    (hf : f ∈ t.fields) {target : String} (htarget : target ∈ f.kind.targets) :
    ∃ step : Step, step.target = target ∧
      ∀ rest, IsPath schema target rest → IsPath schema type (step :: rest) := by
  cases hkind : f.kind with
  | scalar | richText | color | location | image =>
      rw [hkind] at htarget
      exact absurd htarget List.not_mem_nil
  | relation other =>
      rw [hkind] at htarget
      obtain rfl := List.mem_singleton.mp htarget
      exact ⟨.relation f.name target, rfl, fun rest hrest => .relation ht hf hkind hrest⟩
  | polymorphic targets =>
      rw [hkind] at htarget
      exact ⟨.candidate f.name target, rfl, fun rest hrest => .candidate ht hf hkind htarget hrest⟩

end Paths

/-! ## Nothing beside a path has a say -/

/-- From a type on, two schemas have the same types. -/
def SameBelow (schema schema' : Schema) (type : String) : Prop :=
  ∀ path, IsPath schema type path →
    schema'.get? (endOf type path) = schema.get? (endOf type path)

section Independence

variable {schema schema' : Schema}

lemma Ledger.visit_congr {ledger ledger' : Ledger}
    (h : ∀ type, ledger.count type = ledger'.count type) (type : String) :
    (ledger.visit type = none ∧ ledger'.visit type = none) ∨
      ∃ next next', ledger.visit type = some next ∧ ledger'.visit type = some next' ∧
        ∀ other, next.count other = next'.count other := by
  cases hvisit : ledger.visit type with
  | none =>
      refine Or.inl ⟨rfl, ?_⟩
      rw [← Option.not_isSome_iff_eq_none, visit_isSome_iff, ← h, ← visit_isSome_iff, hvisit]
      exact Bool.false_ne_true
  | some next =>
      have hroom : (ledger'.visit type).isSome := by
        rw [visit_isSome_iff, ← h, ← visit_isSome_iff, hvisit]
        rfl
      obtain ⟨next', hnext'⟩ := Option.isSome_iff_exists.mp hroom
      refine Or.inr ⟨next, next', rfl, hnext', fun other => ?_⟩
      rw [count_visit hvisit, count_visit hnext', h]

/-- **The selection of a type depends on nothing but the counts of its ledger** and the types that
can be reached from it. -/
theorem typeSelection_congr (room : Nat) : ∀ {type : String} {ledger ledger' : Ledger},
    ledger.headroom schema.types.keys ≤ room →
    (∀ other, ledger.count other = ledger'.count other) → SameBelow schema schema' type →
    typeSelection schema type ledger = typeSelection schema' type ledger' := by
  induction room using Nat.strongRecOn with
  | _ room ih =>
      intro type ledger ledger' hroom hcount hsame
      have htype : schema'.get? type = schema.get? type := hsame [] (.nil type)
      rw [typeSelection_eq schema, typeSelection_eq schema', selectionOfType, selectionOfType,
        htype]
      cases ht : schema.get? type with
      | none => rfl
      | some t =>
          refine selectionOfFields_congr fun f hf target htarget => ?_
          obtain ⟨step, rfl, hstep⟩ := exists_step ht hf htarget
          have hget : schema'.get? step.target = schema.get? step.target :=
            hsame [step] (hstep [] (.nil _))
          rw [follow, follow, hget]
          cases hstored : schema.get? step.target with
          | none => rfl
          | some t' =>
              rcases Ledger.visit_congr hcount step.target with
                ⟨hnone, hnone'⟩ | ⟨next, next', hnext, hnext', hcount'⟩
              · rw [hnone, hnone']
                rfl
              · have hlt := Ledger.headroom_visit hnext (mem_keys_of_get? hstored)
                rw [hnext, hnext']
                exact congrArg some (ih _ (by omega) (Nat.le_refl _) hcount'
                  fun rest hrest => hsame (step :: rest) (hstep rest hrest))

end Independence

/-! ## The whole selection -/

/-- What a path leads to in the selection of the type where it begins. -/
def reachedFrom (schema : Schema) (root : String) (path : List Step) : Option SelectionSet :=
  reached none (typeSelection schema root (.root root)) path

/-- Whether a path keeps to the types of the schema and meets none of them too often. -/
def WithinBounds (schema : Schema) (root : String) (path : List Step) : Prop :=
  (∀ type ∈ typesOn root path, (schema.get? type).isSome) ∧
    ∀ type, (typesOn root path).count type ≤ maxTypeDepth

section Whole

variable {schema : Schema} {root : String} {path : List Step}

lemma Ledger.count_root (root type : String) :
    (Ledger.root root).count type = [root].count type := by
  rw [Ledger.count, Ledger.root, Entries.get?, List.count_singleton]
  by_cases h : root = type <;> simp [h]

lemma count_along_root {last : Ledger} (h : (Ledger.root root).along schema path = some last)
    (type : String) : last.count type = (typesOn root path).count type := by
  rw [Ledger.count_along h, Ledger.count_root, typesOn, ← List.count_append]
  rfl

lemma reachedFrom_eq (hdistinct : schema.DistinctFields) (hpath : IsPath schema root path) :
    reachedFrom schema root path =
      ((Ledger.root root).along schema path).map fun last =>
        inBranch (branchAt none path) (typeSelection schema (endOf root path) last) :=
  reached_eq hdistinct hpath none (.root root)

/-- **A path leads somewhere exactly when it keeps within the bounds.** -/
lemma reachedFrom_isSome_iff (hdistinct : schema.DistinctFields) (hpath : IsPath schema root path)
    (hne : path ≠ []) : (reachedFrom schema root path).isSome ↔ WithinBounds schema root path := by
  have hroot : ∀ type, (Ledger.root root).count type ≤ maxTypeDepth := by
    intro type
    rw [Ledger.count_root]
    exact List.count_le_length.trans (Nat.le_add_left 1 4)
  have hcount : ∀ type, (Ledger.root root).count type + (path.map Step.target).count type =
      (typesOn root path).count type := by
    intro type
    rw [Ledger.count_root, ← List.count_append]
    rfl
  rw [reachedFrom_eq hdistinct hpath, Option.isSome_map, Ledger.along_isSome_iff hroot]
  simp only [hcount, WithinBounds, typesOn, List.forall_mem_cons,
    isSome_get?_of_isPath hpath hne, true_and]

lemma children?_isSome_iff_candidate (hdistinct : schema.DistinctFields)
    (hpath : IsPath schema root path) {s : SelectionSet}
    (hs : reachedFrom schema root path = some s) {t : ContentType} {f : Field}
    {targets : List String} (ht : schema.get? (endOf root path) = some t) (hf : f ∈ t.fields)
    (hkind : f.kind = .polymorphic targets) :
    (s.children? (keyInside (branchAt none path) f.name)).isSome ↔
      ∃ target ∈ targets,
        (reachedFrom schema root (path ++ [.candidate f.name target])).isSome := by
  have hnames := hdistinct.nodup ht
  rw [reachedFrom_eq hdistinct hpath] at hs
  obtain ⟨last, hlast, rfl⟩ := Option.map_eq_some_iff.mp hs
  have hchildren := children?_typeSelection (branchAt none path) ht last f.name
  have hbranch : ∀ target ∈ targets,
      ((reachedFrom schema root (path ++ [.candidate f.name target])).isSome ↔
        follow schema (typeSelection schema) last target ≠ none) := by
    intro target htarget
    rw [reachedFrom, reached_append]
    change (((reachedFrom schema root path).bind _).isSome ↔ _)
    rw [reachedFrom_eq hdistinct hpath, hlast, Option.map_some, Option.bind_some, reached,
      SelectionSet.branch?, hchildren, branch?_of_polymorphic hnames hf hkind htarget]
    cases follow schema (typeSelection schema) last target <;> simp [reached]
  rw [hchildren, children?_of_polymorphic hnames hf hkind]
  by_cases hempty : (branchesOf (follow schema (typeSelection schema) last) targets).isEmpty
  · rw [if_pos hempty]
    refine iff_of_false Bool.false_ne_true ?_
    rintro ⟨target, htarget, hreached⟩
    exact (hbranch target htarget).mp hreached (branchesOf_isEmpty_iff.mp hempty target htarget)
  · rw [if_neg hempty]
    refine iff_of_true rfl ?_
    simp only [branchesOf_isEmpty_iff, not_forall] at hempty
    obtain ⟨target, htarget, hfollow⟩ := hempty
    exact ⟨target, htarget, (hbranch target htarget).mpr hfollow⟩

/-- Paths with the same end and the same counts lead to the same. -/
lemma reachedFrom_congr (hdistinct : schema.DistinctFields) (hpath : IsPath schema root path)
    {schema' : Schema} {root' : String} {path' : List Step} (hdistinct' : schema'.DistinctFields)
    (hpath' : IsPath schema' root' path') (hend : endOf root path = endOf root' path')
    (hbranch : branchAt none path = branchAt none path')
    (hcount : ∀ type, (typesOn root path).count type = (typesOn root' path').count type)
    (hsame : SameBelow schema schema' (endOf root path)) :
    reachedFrom schema root path = reachedFrom schema' root' path' := by
  have hlength : path.length = path'.length := by
    have hperm := (List.perm_iff_count.mpr hcount).length_eq
    simpa [typesOn] using hperm
  have hsome :
      (reachedFrom schema root path).isSome = (reachedFrom schema' root' path').isSome := by
    by_cases hnil : path = []
    · have hnil' : path' = [] := by
        rw [← List.length_eq_zero_iff, ← hlength, hnil]
        rfl
      rw [hnil, hnil']
      rfl
    · have hnil' : path' ≠ [] := by
        rintro rfl
        exact hnil (List.length_eq_zero_iff.mp hlength)
      have hlast : schema'.get? (endOf root path) = schema.get? (endOf root path) :=
        hsame [] (.nil _)
      rw [Bool.eq_iff_iff, reachedFrom_isSome_iff hdistinct hpath hnil,
        reachedFrom_isSome_iff hdistinct' hpath' hnil', WithinBounds, WithinBounds,
        forall_typesOn_iff hpath, forall_typesOn_iff hpath', ← hend, hlast]
      simp only [hcount]
  rw [reachedFrom_eq hdistinct hpath, reachedFrom_eq hdistinct' hpath', Option.isSome_map,
    Option.isSome_map] at hsome
  rw [reachedFrom_eq hdistinct hpath, reachedFrom_eq hdistinct' hpath']
  cases hlast : (Ledger.root root).along schema path with
  | none =>
      rw [hlast] at hsome
      rw [Option.isNone_iff_eq_none.mp (Option.isSome_eq_false_iff.mp hsome.symm)]
      rfl
  | some last =>
      rw [hlast] at hsome
      obtain ⟨last', hlast'⟩ := Option.isSome_iff_exists.mp hsome.symm
      have hcounts : ∀ type, last.count type = last'.count type := by
        intro type
        rw [count_along_root hlast, count_along_root hlast', hcount]
      rw [hlast', Option.map_some, Option.map_some, ← hbranch, ← hend,
        typeSelection_congr _ (Nat.le_refl _) hcounts hsame]

/-- A list over some values with at most `n` of each is at most `n` times as long. -/
lemma length_le_of_count_le {values l : List String} {n : Nat} (hmem : ∀ x ∈ l, x ∈ values)
    (hcount : ∀ x, l.count x ≤ n) : l.length ≤ n * values.length := by
  have hsub : l.toFinset ⊆ values.toFinset := fun x hx =>
    List.mem_toFinset.mpr (hmem x (List.mem_toFinset.mp hx))
  calc l.length = ∑ x ∈ l.toFinset, l.count x := (List.sum_toFinset_count_eq_length l).symm
    _ ≤ l.toFinset.card * n := Finset.sum_le_card_nsmul _ _ n fun x _ => hcount x
    _ ≤ values.length * n :=
        Nat.mul_le_mul_right n ((Finset.card_le_card hsub).trans (List.toFinset_card_le values))
    _ = n * values.length := Nat.mul_comm _ _

lemma length_le_of_withinBounds (h : WithinBounds schema root path) :
    (typesOn root path).length ≤ maxTypeDepth * schema.size := by
  have hmem : ∀ type ∈ typesOn root path, type ∈ schema.types.keys := by
    intro type htype
    obtain ⟨t, ht⟩ := Option.isSome_iff_exists.mp (h.1 type htype)
    exact mem_keys_of_get? ht
  have hlength := length_le_of_count_le hmem h.2
  rwa [OrderedMap.keys, Entries.keys, List.length_map] at hlength

end Whole

/-- **The selection of a type follows exactly the paths within the bounds.**  For every schema whose
types have fields with distinct names, and every type where a path may begin:

* a path leads to an object or a branch exactly when all types on it are in the schema and none of
  them occurs on it more than five times;
* a polymorphic field is there exactly when one of its candidates is;
* where a path leads to depends only on how often it has met each type and on what can be reached
  from its end, so not on anything beside the path, even in another schema;
* no path that leads somewhere is longer than five times the number of types. -/
theorem typeSelection_expands (schema : Schema) (hdistinct : schema.DistinctFields)
    (root : String) :
    (∀ path, IsPath schema root path → path ≠ [] →
      ((reachedFrom schema root path).isSome ↔
        (∀ type ∈ typesOn root path, (schema.get? type).isSome) ∧
          ∀ type, (typesOn root path).count type ≤ 5)) ∧
    (∀ path s, IsPath schema root path → reachedFrom schema root path = some s →
      ∀ t f targets, schema.get? (endOf root path) = some t → f ∈ t.fields →
        f.kind = .polymorphic targets →
          ((s.children? (keyInside (branchAt none path) f.name)).isSome ↔
            ∃ target ∈ targets,
              (reachedFrom schema root (path ++ [.candidate f.name target])).isSome)) ∧
    (∀ path, IsPath schema root path →
      ∀ (schema' : Schema) (root' : String) (path' : List Step), schema'.DistinctFields →
        IsPath schema' root' path' → endOf root path = endOf root' path' →
        branchAt none path = branchAt none path' →
        (∀ type, (typesOn root path).count type = (typesOn root' path').count type) →
        SameBelow schema schema' (endOf root path) →
          reachedFrom schema root path = reachedFrom schema' root' path') ∧
    (∀ path, IsPath schema root path → (reachedFrom schema root path).isSome →
      path.length ≤ 5 * schema.size) := by
  refine ⟨?_, ?_, ?_, ?_⟩
  · intro path hpath hne
    exact reachedFrom_isSome_iff hdistinct hpath hne
  · intro path s hpath hs t f targets ht hf hkind
    exact children?_isSome_iff_candidate hdistinct hpath hs ht hf hkind
  · intro path hpath schema' root' path' hdistinct' hpath' hend hbranch hcount hsame
    exact reachedFrom_congr hdistinct hpath hdistinct' hpath' hend hbranch hcount hsame
  · intro path hpath hreached
    by_cases hne : path = []
    · rw [hne]
      exact Nat.zero_le _
    · have hlength := length_le_of_withinBounds
        ((reachedFrom_isSome_iff hdistinct hpath hne).mp hreached)
      rw [typesOn, List.length_cons, List.length_map] at hlength
      exact (Nat.le_succ path.length).trans hlength

/-! ### A circle -/

private def parent : Field := ⟨"parent", .relation "Page", false⟩

/-- Pages refer to a page above them, and are related to pages, to notes and to a type that is not
there. -/
private def page : ContentType :=
  .ofFields "Page" "Pages" .model
    [⟨"title", .scalar, false⟩, parent,
      ⟨"related", .polymorphic ["Note", "Gone", "Page"], true⟩]

private def note : ContentType :=
  .ofFields "Note" "Notes" .component [⟨"about", .relation "Page", false⟩]

private def circle : Schema := .ofTypes [page, note]

/-- A page is followed to the fourth page above it, and not to the fifth. -/
theorem typeSelection_expands_circle :
    (reachedFrom circle "Page" (List.replicate 4 (.relation "parent" "Page"))).isSome ∧
      ¬ (reachedFrom circle "Page" (List.replicate 5 (.relation "parent" "Page"))).isSome := by
  have hdistinct : circle.DistinctFields := by decide
  have hpage : circle.get? "Page" = some page := rfl
  have hparent : parent ∈ page.fields := by decide
  have hpath : ∀ n, IsPath circle "Page" (List.replicate n (.relation "parent" "Page")) := by
    intro n
    induction n with
    | zero => exact .nil _
    | succ n ih => exact .relation hpage hparent rfl ih
  have hexpands := (typeSelection_expands circle hdistinct "Page").1
  rw [hexpands _ (hpath 4) (by simp), hexpands _ (hpath 5) (by simp)]
  refine ⟨⟨by decide, fun type => ?_⟩, fun h => absurd (h.2 "Page") (by decide)⟩
  exact List.count_le_length

end ContentSync
