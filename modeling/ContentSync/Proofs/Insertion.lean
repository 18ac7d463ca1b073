import ContentSync.GraphQL.Selection
import Mathlib.Tactic.Lemma
import Mathlib.Data.List.Nodup

/-!
# Inserting entries whose keys are distinct

Maps and selection sets that are built by inserting one entry after another differ from the list of
their entries only where a key is repeated.  Most of them are built from entries with distinct
keys, and then nothing is replaced and nothing is merged.

* `Entries.ofList_of_nodup`, `SelectionSet.ofList_of_nodup` — the list itself is the result.
* `Entries.get?_eq_some_iff`, `SelectionSet.get?_of_mem` — looking up is being listed.
* `Entries.get?_insertAll_of_notMem` — inserting other keys does not disturb a look-up.
-/

namespace ContentSync

namespace Entries

variable {α : Type}

lemma insert_of_notMem {es : Entries α} {key : String} (h : key ∉ keys es) (value : α) :
    insert es key value = es ++ [(key, value)] := by
  induction es with
  | nil => rfl
  | cons e rest ih =>
      obtain ⟨k, v⟩ := e
      simp only [keys, List.map_cons, List.mem_cons, not_or] at h
      rw [insert, if_neg (Ne.symm h.1), ih h.2, List.cons_append]

lemma insertAll_of_nodup {es : Entries α} {pairs : List (String × α)}
    (h : (keys (es ++ pairs)).Nodup) : insertAll es pairs = es ++ pairs := by
  induction pairs generalizing es with
  | nil => simp [insertAll]
  | cons p rest ih =>
      have hp : p.1 ∉ keys es := by
        simp only [keys, List.map_append, List.map_cons, List.nodup_append, List.mem_cons] at h
        exact fun hm => h.2.2 p.1 hm p.1 (Or.inl rfl) rfl
      have hrest : (keys ((es ++ [p]) ++ rest)).Nodup := by simpa using h
      have step : insertAll es (p :: rest) = insertAll (es ++ [p]) rest := by
        simp only [insertAll, List.foldl_cons, insert_of_notMem hp]
      rw [step, ih hrest, List.append_assoc, List.singleton_append]

/-- **Distinct keys stay as they are.** -/
theorem ofList_of_nodup {pairs : List (String × α)} (h : (keys pairs).Nodup) :
    ofList pairs = pairs := by
  rw [ofList, insertAll_of_nodup (by simpa using h), List.nil_append]

lemma get?_insertAll_of_notMem {es : Entries α} {pairs : List (String × α)} {key : String}
    (h : key ∉ keys pairs) : get? (insertAll es pairs) key = get? es key := by
  induction pairs generalizing es with
  | nil => rfl
  | cons p rest ih =>
      simp only [keys, List.map_cons, List.mem_cons, not_or] at h
      have step : insertAll es (p :: rest) = insertAll (insert es p.1 p.2) rest := rfl
      rw [step, ih h.2, get?_insert, if_neg (Ne.symm h.1)]

/-- Among distinct keys, an entry is found exactly when it is listed. -/
theorem get?_eq_some_iff {es : Entries α} (h : (keys es).Nodup) {key : String} {value : α} :
    get? es key = some value ↔ (key, value) ∈ es := by
  induction es with
  | nil => simp
  | cons e rest ih =>
      obtain ⟨k, v⟩ := e
      obtain ⟨hk, hrest⟩ := List.nodup_cons.mp h
      rw [get?, List.mem_cons]
      by_cases hkey : k = key
      · subst hkey
        have hnot : (k, value) ∉ rest := fun hm => hk (List.mem_map.mpr ⟨_, hm, rfl⟩)
        simp [hnot, eq_comm]
      · simp [hkey, Ne.symm hkey, ih hrest]

lemma mem_of_get? {es : Entries α} {key : String} {value : α} (h : get? es key = some value) :
    (key, value) ∈ es := by
  induction es with
  | nil => simp at h
  | cons e rest ih =>
      obtain ⟨k, v⟩ := e
      rw [get?] at h
      split at h
      · next hk =>
          cases h
          subst hk
          exact List.mem_cons_self
      · exact List.mem_cons_of_mem _ (ih h)

theorem nodup_keys_ofList (pairs : List (String × α)) : (keys (ofList pairs)).Nodup :=
  nodup_keys_insertAll (show (keys ([] : Entries α)).Nodup from List.nodup_nil) pairs

lemma mem_insert {es : Entries α} {key : String} {value : α} {e : String × α}
    (h : e ∈ insert es key value) : e ∈ es ∨ e = (key, value) := by
  induction es with
  | nil => exact Or.inr (List.mem_singleton.mp h)
  | cons first rest ih =>
      obtain ⟨k, v⟩ := first
      rw [insert] at h
      split at h
      · rcases List.mem_cons.mp h with rfl | h
        · exact Or.inr rfl
        · exact Or.inl (List.mem_cons_of_mem _ h)
      · rcases List.mem_cons.mp h with rfl | h
        · exact Or.inl List.mem_cons_self
        · exact (ih h).imp (List.mem_cons_of_mem _) id

lemma mem_insertAll {pairs : List (String × α)} : ∀ {es : Entries α} {e : String × α},
    e ∈ insertAll es pairs → e ∈ es ∨ e ∈ pairs := by
  induction pairs with
  | nil => exact fun h => Or.inl h
  | cons p rest ih =>
      intro es e h
      rcases ih h with h | h
      · rcases mem_insert h with h | rfl
        · exact Or.inl h
        · exact Or.inr List.mem_cons_self
      · exact Or.inr (List.mem_cons_of_mem _ h)

/-- Nothing is made up. -/
lemma mem_ofList {pairs : List (String × α)} {e : String × α} (h : e ∈ ofList pairs) :
    e ∈ pairs :=
  (mem_insertAll h).resolve_left List.not_mem_nil

/-- Entries that are listed by their keys, one for each key that has any, are found under them. -/
lemma get?_insertAll_filterMap {entry : String → Option (String × α)}
    (hentry : ∀ key e, entry key = some e → e.1 = key) (key : String) (listed : List String) :
    ∀ es : Entries α, get? (insertAll es (listed.filterMap entry)) key =
      if key ∈ listed then ((entry key).map Prod.snd).or (get? es key) else get? es key := by
  induction listed with
  | nil => exact fun es => rfl
  | cons first rest ih =>
      intro es
      cases h : entry first with
      | none =>
          rw [List.filterMap_cons_none h, ih]
          by_cases hkey : key = first
          · subst hkey
            simp [h]
          · simp [hkey]
      | some e =>
          have step : insertAll es (e :: rest.filterMap entry) =
              insertAll (insert es e.1 e.2) (rest.filterMap entry) := rfl
          rw [List.filterMap_cons_some h, step, ih, get?_insert, hentry first e h]
          by_cases hkey : key = first
          · subst hkey
            simp [h]
          · simp [hkey, Ne.symm hkey]

lemma isEmpty_iff_get? {es : Entries α} : es.isEmpty ↔ ∀ key, get? es key = none := by
  cases es with
  | nil => simp
  | cons e rest =>
      constructor
      · intro h
        cases h
      · intro h
        simpa [get?] using h e.1

end Entries

namespace GraphQL.SelectionSet

lemma get?_eq_none_iff {s : SelectionSet} {key : String} : get? s key = none ↔ key ∉ keys s := by
  induction s with
  | nil => simp [get?, keys]
  | cons n rest ih =>
      simp only [keys] at ih
      by_cases hn : n.key = key
      · simp [get?, keys, hn]
      · simp [get?, keys, hn, Ne.symm hn, ih]

lemma get?_of_mem {s : SelectionSet} (h : (keys s).Nodup) {n : Selection} (hn : n ∈ s) :
    get? s n.key = some n := by
  induction s with
  | nil => simp at hn
  | cons m rest ih =>
      obtain ⟨hm, hrest⟩ := List.nodup_cons.mp h
      rcases List.mem_cons.mp hn with rfl | hn
      · simp [get?]
      · have hne : m.key ≠ n.key := fun he => hm (he ▸ List.mem_map_of_mem hn)
        rw [get?, if_neg hne, ih hrest hn]

lemma place_of_notMem {s : SelectionSet} {n : Selection} (h : n.key ∉ keys s) :
    place s n = s ++ [n] := by
  induction s with
  | nil => rfl
  | cons m rest ih =>
      simp only [keys, List.map_cons, List.mem_cons, not_or] at h
      rw [place, if_neg (Ne.symm h.1), ih h.2, List.cons_append]

lemma insert_of_notMem {s : SelectionSet} {n : Selection} (h : n.key ∉ keys s) :
    insert s n = s ++ [n] := by
  cases n with
  | leaf name label => exact place_of_notMem h
  | object name label arguments children => exact place_of_notMem h
  | on branches =>
      have hgroup : group? s = none := by
        have hkey : groupKey ∉ keys s := h
        rw [group?, get?_eq_none_iff.mpr hkey]
      simp only [insert, hgroup]
      exact place_of_notMem h

lemma foldl_insert_of_nodup {s : SelectionSet} {nodes : List Selection}
    (h : (keys (s ++ nodes)).Nodup) : nodes.foldl insert s = s ++ nodes := by
  induction nodes generalizing s with
  | nil => simp
  | cons n rest ih =>
      have hn : n.key ∉ keys s := by
        simp only [keys, List.map_append, List.map_cons, List.nodup_append, List.mem_cons] at h
        exact fun hm => h.2.2 n.key hm n.key (Or.inl rfl) rfl
      have hrest : (keys ((s ++ [n]) ++ rest)).Nodup := by simpa using h
      rw [List.foldl_cons, insert_of_notMem hn, ih hrest, List.append_assoc,
        List.singleton_append]

/-- A node put in place stands beside all nodes with other keys. -/
lemma mem_place {s : SelectionSet} (h : (keys s).Nodup) {m n : Selection} :
    n ∈ place s m ↔ n = m ∨ (n ∈ s ∧ n.key ≠ m.key) := by
  induction s with
  | nil => simp [place]
  | cons k rest ih =>
      obtain ⟨hk, hrest⟩ := List.nodup_cons.mp h
      rw [place, List.mem_cons]
      split
      · next hkey =>
          have hothers : n ∈ rest → n.key ≠ m.key := fun hn hm =>
            hk (List.mem_map.mpr ⟨n, hn, hm.trans hkey.symm⟩)
          rw [List.mem_cons]
          constructor
          · exact Or.imp_right fun hn => ⟨.inr hn, hothers hn⟩
          · rintro (hm | ⟨rfl | hn, hne⟩)
            · exact .inl hm
            · exact absurd hkey hne
            · exact .inr hn
      · next hkey =>
          rw [List.mem_cons, ih hrest]
          constructor
          · rintro (rfl | rfl | ⟨hn, hne⟩)
            · exact .inr ⟨.inl rfl, hkey⟩
            · exact .inl rfl
            · exact .inr ⟨.inr hn, hne⟩
          · rintro (rfl | ⟨rfl | hn, hne⟩)
            · exact .inr (.inl rfl)
            · exact .inl rfl
            · exact .inr (.inr ⟨hn, hne⟩)

/-- **Nodes with distinct keys stay as they are.** -/
theorem ofList_of_nodup {nodes : List Selection} (h : (keys nodes).Nodup) :
    ofList nodes = nodes := by
  rw [ofList, foldl_insert_of_nodup (by simpa using h), List.nil_append]

end GraphQL.SelectionSet

end ContentSync
