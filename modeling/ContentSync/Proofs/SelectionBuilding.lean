import ContentSync.Proofs.FieldSelection
import ContentSync.Proofs.LastValues

/-!
# Building a selection

A selection is built by adding fields and groups to it one after another.  What comes out is a map
that remembers the order of its keys, in which a field replaces an earlier one with its key, but a
group is poured into the one that is there.

* `Addition` — what is added.
* `SelectionSet.get?_insert`, `SelectionSet.get?_insert_on` — what one insertion changes.
* `SelectionSet.keys_ofList`, `SelectionSet.get?_ofList` — what any number of insertions leaves.
* `GroupOf.add_group`, `GroupOf.add_field` — the group after one more addition.
* `Built` — the selection that some additions make, as `ofList_built` says.
-/

namespace ContentSync.GraphQL

/-! ## Additions -/

/-- **What is added to a selection**: a field, or a group of conditions on the runtime type. -/
inductive Addition where
  | leaf (name : String) (label : Option String)
  | object (name : String) (label : Option String) (arguments : List (String × Argument))
      (children : SelectionSet)
  /-- The branches as they were given to the group.  Of two for the same type, the second one takes
  the place of the first. -/
  | group (given : List (String × SelectionSet))

namespace Addition

/-- The node that is inserted. -/
def node : Addition → Selection
  | leaf name label => .leaf name label
  | object name label arguments children => .object name label arguments children
  | group given => .on (Entries.ofList given)

/-- The branches of a group. -/
def branches : Addition → List (String × SelectionSet)
  | group given => given
  | _ => []

/-- Only groups stand under the key of the group. -/
def Proper (a : Addition) : Prop := a.node.key = groupKey → ∃ given, a = group given

/-- All branches of some additions. -/
def allBranches (additions : List Addition) : List (String × SelectionSet) :=
  additions.flatMap branches

lemma allBranches_concat (additions : List Addition) (a : Addition) :
    allBranches (additions ++ [a]) = allBranches additions ++ a.branches := by
  rw [allBranches, List.flatMap_append, List.flatMap_singleton]
  rfl

lemma mem_keys_allBranches {additions : List Addition} {type : String} :
    type ∈ Entries.keys (allBranches additions) ↔
      ∃ given, group given ∈ additions ∧ type ∈ Entries.keys given := by
  rw [Entries.keys, allBranches, List.map_flatMap, List.mem_flatMap]
  constructor
  · rintro ⟨a, ha, htype⟩
    cases a with
    | group given => exact ⟨given, ha, htype⟩
    | _ => exact absurd htype List.not_mem_nil
  · rintro ⟨given, ha, htype⟩
    exact ⟨group given, ha, htype⟩

lemma allBranches_eq_nil {additions : List Addition} (h : ∀ given, group given ∉ additions) :
    allBranches additions = [] := by
  refine List.flatMap_eq_nil_iff.mpr fun a ha => ?_
  cases a with
  | group given => exact absurd ha (h given)
  | _ => rfl

end Addition

/-- Whether a node is a group. -/
def Selection.isGroup : Selection → Bool
  | .on _ => true
  | _ => false

/-! ## One insertion -/

namespace SelectionSet

variable {s : SelectionSet}

lemma get?_eq_some_iff (h : (keys s).Nodup) {key : String} {n : Selection} :
    get? s key = some n ↔ n ∈ s ∧ n.key = key := by
  constructor
  · intro hn
    induction s with
    | nil => cases hn
    | cons m rest ih =>
        obtain ⟨-, hrest⟩ := List.nodup_cons.mp h
        rw [get?] at hn
        split at hn
        · next hkey =>
            cases hn
            exact ⟨List.mem_cons_self, hkey⟩
        · exact (ih hrest hn).imp_left (List.mem_cons_of_mem m)
  · rintro ⟨hn, rfl⟩
    exact get?_of_mem h hn

/-- Whatever stands under a key that is not the group's, is left alone or replaced. -/
lemma get?_insert {n : Selection} {key : String} (h : n.isGroup → key ≠ groupKey) :
    get? (insert s n) key = if n.key = key then some n else get? s key := by
  cases n with
  | on branches =>
      have hkey (bs : Branches) : (Selection.on bs).key ≠ key := (h rfl).symm
      rw [insert, if_neg (hkey branches)]
      cases group? s with
      | none => exact (get?_place s _ key).trans (if_neg (hkey branches))
      | some old => exact (get?_place s _ key).trans (if_neg (hkey _))
  | _ => exact get?_place s _ key

/-- A field does not touch the group. -/
lemma get?_insert_of_key_ne {n : Selection} (h : n.key ≠ groupKey) :
    get? (insert s n) groupKey = get? s groupKey := by
  have hfield : n.isGroup → groupKey ≠ groupKey := by
    cases n with
    | on branches => exact absurd rfl h
    | _ => exact fun hgroup => nomatch hgroup
  rw [get?_insert hfield, if_neg h]

/-- **A group is poured into the one that is there.** -/
lemma get?_insert_on (new : Branches) :
    get? (insert s (.on new)) groupKey = some (.on (match group? s with
      | some old => Entries.insertAll old new
      | none => new)) := by
  rw [insert]
  cases group? s with
  | none => exact (get?_place s _ groupKey).trans (if_pos rfl)
  | some old => exact (get?_place s _ groupKey).trans (if_pos rfl)

/-- The group of a selection is its only one. -/
lemma filter_isGroup (h : (keys s).Nodup) {branches : Branches}
    (hgroup : get? s groupKey = some (.on branches)) :
    s.filter Selection.isGroup = [.on branches] := by
  obtain ⟨hmem, -⟩ := (get?_eq_some_iff h).mp hgroup
  have hsame (n : Selection) : n ∈ s.filter Selection.isGroup ↔ n ∈ [.on branches] := by
    rw [List.mem_filter, List.mem_singleton]
    constructor
    · rintro ⟨hn, hkind⟩
      cases n with
      | on other => exact Option.some.inj ((get?_of_mem h hn).symm.trans hgroup)
      | _ => cases hkind
    · rintro rfl
      exact ⟨hmem, rfl⟩
  have hnodup : (s.filter Selection.isGroup).Nodup := h.of_map.filter _
  exact List.perm_singleton.mp
    ((List.perm_ext_iff_of_nodup hnodup (List.nodup_singleton _)).mpr hsame)

/-! ## Any number of insertions -/

variable (nodes : List Selection)

lemma ofList_concat (n : Selection) : ofList (nodes ++ [n]) = insert (ofList nodes) n :=
  List.foldl_concat _ _ _ _

/-- Keys stand in the order of their first insertion. -/
theorem keys_ofList : keys (ofList nodes) = (keys nodes).eraseDups := by
  induction nodes using List.reverseRecOn with
  | nil => rfl
  | append_singleton nodes n ih =>
      have hkeys : keys (nodes ++ [n]) = keys nodes ++ [n.key] := List.map_append
      rw [ofList_concat, keys_insert, ih, hkeys, eraseDups_concat]
      simp only [List.mem_eraseDups]

/-- A field is as it was inserted last. -/
theorem get?_ofList {key : String} (h : ∀ n ∈ nodes, n.isGroup → key ≠ groupKey) :
    get? (ofList nodes) key = (nodes.filter fun n => n.key = key).getLast? := by
  induction nodes using List.reverseRecOn with
  | nil => rfl
  | append_singleton nodes n ih =>
      have hlast := h n (List.mem_append_right nodes (List.mem_singleton.mpr rfl))
      rw [ofList_concat, get?_insert hlast, List.filter_append,
        ih fun m hm => h m (List.mem_append_left [n] hm)]
      by_cases hkey : n.key = key
      · simp [hkey]
      · simp [hkey]

end SelectionSet

/-! ## Additions one after another -/

/-- **The selection that some additions make.**  Its keys stand in the order in which they were
added first, each over its own node.  A field is as it was added last, and there is one group as
soon as one was added, with all branches of all groups. -/
structure Built (additions : List Addition) (s : SelectionSet) : Prop where
  keys : SelectionSet.keys s = (additions.map fun a => a.node.key).eraseDups
  found : ∀ key n, SelectionSet.get? s key = some n ↔ n ∈ s ∧ n.key = key
  field : ∀ key, key ≠ groupKey → SelectionSet.get? s key =
    ((additions.map Addition.node).filter fun n => n.key = key).getLast?
  group : ∀ given, .group given ∈ additions → ∃ branches,
    SelectionSet.get? s groupKey = some (.on branches) ∧
    s.filter Selection.isGroup = [.on branches] ∧
    Entries.LastValues (Addition.allBranches additions) branches ∧
    ∀ type, type ∈ Entries.keys branches ↔
      ∃ given, .group given ∈ additions ∧ type ∈ Entries.keys given

/-- **What stands under the key of the group**: nothing before a group is added, and then the group
with all branches. -/
def GroupOf (additions : List Addition) : Option Selection → Prop
  | none => ∀ given, .group given ∉ additions
  | some n => ∃ branches, n = .on branches ∧
      Entries.LastValues (Addition.allBranches additions) branches

section Step

variable {additions : List Addition} {s : SelectionSet}

lemma GroupOf.add_group (h : GroupOf additions (SelectionSet.get? s groupKey))
    (given : List (String × SelectionSet)) : GroupOf (additions ++ [.group given])
      (SelectionSet.get? (SelectionSet.insert s (.on (Entries.ofList given))) groupKey) := by
  rw [SelectionSet.get?_insert_on, SelectionSet.group?]
  refine ⟨_, rfl, ?_⟩
  rw [Addition.allBranches_concat]
  cases hfound : SelectionSet.get? s groupKey with
  | none =>
      rw [hfound] at h
      rw [Addition.allBranches_eq_nil h]
      exact Entries.lastValues_ofList given
  | some n =>
      rw [hfound] at h
      obtain ⟨branches, rfl, hbranches⟩ := h
      exact hbranches.insertAll (Entries.lastValues_ofList given)

lemma GroupOf.add_field (h : GroupOf additions (SelectionSet.get? s groupKey)) {a : Addition}
    (hfield : ∀ given, a ≠ .group given) (hkey : a.node.key ≠ groupKey) :
    GroupOf (additions ++ [a]) (SelectionSet.get? (SelectionSet.insert s a.node) groupKey) := by
  rw [SelectionSet.get?_insert_of_key_ne hkey]
  cases hfound : SelectionSet.get? s groupKey with
  | none =>
      rw [hfound] at h
      intro given hgiven
      rcases List.mem_append.mp hgiven with hbefore | hlast
      · exact h given hbefore
      · exact hfield given (List.mem_singleton.mp hlast).symm
  | some n =>
      rw [hfound] at h
      obtain ⟨branches, rfl, hbranches⟩ := h
      have hnothing : a.branches = [] := by
        cases a with
        | group given => exact absurd rfl (hfield given)
        | _ => rfl
      refine ⟨branches, rfl, ?_⟩
      rwa [Addition.allBranches_concat, hnothing, List.append_nil]

end Step

/-- **All groups become one**, which has the branches of all of them. -/
theorem groupOf_ofList {additions : List Addition} (hproper : ∀ a ∈ additions, a.Proper) :
    GroupOf additions
      (SelectionSet.get? (SelectionSet.ofList (additions.map Addition.node)) groupKey) := by
  induction additions using List.reverseRecOn with
  | nil => exact fun _ => List.not_mem_nil
  | append_singleton additions a ih =>
      have hbefore := ih fun b hb => hproper b (List.mem_append_left [a] hb)
      have hlast := hproper a (List.mem_append_right additions (List.mem_singleton.mpr rfl))
      rw [List.map_append, List.map_singleton, SelectionSet.ofList_concat]
      by_cases hgroup : ∃ given, a = .group given
      · obtain ⟨given, rfl⟩ := hgroup
        exact hbefore.add_group given
      · exact hbefore.add_field (not_exists.mp hgroup) fun hkey => hgroup (hlast hkey)

/-- **Building a selection**: fields replace each other, and groups become one. -/
theorem ofList_built {additions : List Addition} (hproper : ∀ a ∈ additions, a.Proper) :
    Built additions (SelectionSet.ofList (additions.map Addition.node)) := by
  have hnodup := SelectionSet.nodup_keys_ofList (additions.map Addition.node)
  refine ⟨?_, fun key n => SelectionSet.get?_eq_some_iff hnodup,
    fun key hkey => SelectionSet.get?_ofList _ fun _ _ _ => hkey, fun given hgiven => ?_⟩
  · rw [SelectionSet.keys_ofList, SelectionSet.keys, List.map_map]
    rfl
  · have hgroup := groupOf_ofList hproper
    cases hget : SelectionSet.get? (.ofList (additions.map Addition.node)) groupKey with
    | none =>
        rw [hget] at hgroup
        exact absurd hgiven (hgroup given)
    | some n =>
        rw [hget] at hgroup
        obtain ⟨branches, rfl, hbranches⟩ := hgroup
        refine ⟨branches, rfl, SelectionSet.filter_isGroup hnodup hget, hbranches, fun type => ?_⟩
        rw [hbranches.keys, List.mem_eraseDups]
        exact Addition.mem_keys_allBranches

/-! ### Two groups among fields -/

section Feed

/-- Two fields with the same key in the response, and two groups that both have videos. -/
def feedAdditions : List Addition :=
  [.leaf "id" none,
    .group [("Post", [.field "title"]), ("Video", [])],
    .object "author" none [] [.field "name"],
    .leaf "slug" (some "id"),
    .group [("Video", [.field "length"]), ("Image", [])]]

/-- The second field is where the first one was, and the group where its first part was. -/
theorem ofList_built_feed :
    let s := SelectionSet.ofList (feedAdditions.map Addition.node)
    (∀ a ∈ feedAdditions, a.Proper) ∧
    SelectionSet.keys s = ["id", "...", "author"] ∧
    SelectionSet.get? s "id" = some (.leaf "slug" (some "id")) ∧
    ∃ branches, s.filter Selection.isGroup = [.on branches] ∧
      Entries.keys branches = ["Post", "Video", "Image"] ∧
      Entries.get? branches "Video" = some [.field "length"] := by
  intro s
  have hproper : ∀ a ∈ feedAdditions, a.Proper := by
    simp [feedAdditions, Addition.Proper, Addition.node, Selection.key, groupKey]
  obtain ⟨hkeys, -, hfield, hgroup⟩ := ofList_built hproper
  obtain ⟨branches, -, hfilter, hlast, -⟩ :=
    hgroup [("Post", [.field "title"]), ("Video", [])] (.tail _ (.head _))
  refine ⟨hproper, hkeys.trans (by decide +kernel), (hfield "id" (by decide)).trans (by rfl),
    branches, hfilter, hlast.keys.trans (by decide +kernel), (hlast.get? "Video").trans (by rfl)⟩

end Feed

end ContentSync.GraphQL
