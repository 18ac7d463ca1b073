import ContentSync.Proofs.Insertion
import Mathlib.Data.List.Induction
import Mathlib.Data.Set.Card

/-!
# Last value, first place

Pairs are inserted one after another into a map.  Each key stands where it was inserted first, and
holds what was inserted last.  That is all there is to a map: two maps with the same keys in the
same order and the same values are equal.

* `eraseDups_concat`, `filter_eraseDups` — keeping the first occurrence of everything in a list.
* `find?_of_nodup_map` — looking for the only thing of a name.
* `Entries.lastOf?` — the value given last for a key.
* `Entries.keys_insertAll`, `Entries.get?_insertAll` — pairs inserted into any map.
* `Entries.LastValues` — the map that the pairs make, as `lastValues_ofList` says.
* `OrderedMap.ext_get?` — when two maps are equal.
-/

namespace ContentSync

/-! ## First occurrences -/

section FirstOccurrences

variable {α : Type} [DecidableEq α]

lemma eraseDups_concat (as : List α) (a : α) :
    (as ++ [a]).eraseDups = if a ∈ as then as.eraseDups else as.eraseDups ++ [a] := by
  rw [List.eraseDups_append, List.removeAll]
  by_cases ha : a ∈ as <;> simp [ha, List.eraseDups_cons]

lemma nodup_eraseDups (as : List α) : as.eraseDups.Nodup := by
  induction as using List.reverseRecOn with
  | nil => exact List.nodup_nil
  | append_singleton as a ih =>
      rw [eraseDups_concat]
      split
      · exact ih
      · next ha =>
          rw [← List.concat_eq_append]
          exact ih.concat fun h => ha (List.mem_eraseDups.mp h)

lemma eraseDups_of_nodup {as : List α} (h : as.Nodup) : as.eraseDups = as := by
  induction as using List.reverseRecOn with
  | nil => rfl
  | append_singleton as a ih =>
      have ha : a ∉ as := fun hmem =>
        List.disjoint_of_nodup_append h hmem (List.mem_singleton.mpr rfl)
      rw [eraseDups_concat, if_neg ha, ih h.of_append_left]

lemma eraseDups_sublist (as : List α) : as.eraseDups.Sublist as := by
  induction as using List.reverseRecOn with
  | nil => exact .slnil
  | append_singleton as a ih =>
      rw [eraseDups_concat]
      split
      · exact ih.trans (List.sublist_append_left as [a])
      · exact ih.append (List.Sublist.refl [a])

lemma length_eraseDups_iff {as : List α} : as.eraseDups.length = as.length ↔ as.Nodup := by
  constructor
  · intro h
    exact (eraseDups_sublist as).eq_of_length h ▸ nodup_eraseDups as
  · intro h
    rw [eraseDups_of_nodup h]

lemma filter_eraseDups (p : α → Bool) (as : List α) :
    as.eraseDups.filter p = (as.filter p).eraseDups := by
  induction as using List.reverseRecOn with
  | nil => rfl
  | append_singleton as a ih =>
      rw [eraseDups_concat, List.filter_append]
      by_cases ha : p a
      · rw [List.filter_cons_of_pos ha, List.filter_nil, eraseDups_concat]
        by_cases hmem : a ∈ as
        · rw [if_pos hmem, if_pos (List.mem_filter.mpr ⟨hmem, ha⟩), ih]
        · rw [if_neg hmem, if_neg fun h => hmem (List.mem_filter.mp h).1, List.filter_append,
            List.filter_cons_of_pos ha, List.filter_nil, ih]
      · rw [List.filter_cons_of_neg ha, List.filter_nil, List.append_nil, ← ih]
        split
        · rfl
        · rw [List.filter_append, List.filter_cons_of_neg ha, List.filter_nil, List.append_nil]

/-- What comes first may be thinned out first. -/
lemma eraseDups_append_left (as bs : List α) :
    (as.eraseDups ++ bs).eraseDups = (as ++ bs).eraseDups := by
  have hsame : bs.removeAll as.eraseDups = bs.removeAll as :=
    List.filter_congr fun b _ => by simp
  rw [List.eraseDups_append, List.eraseDups_append, eraseDups_of_nodup (nodup_eraseDups as), hsame]

/-- What comes later may be thinned out first. -/
lemma eraseDups_append_right (as bs : List α) :
    (as ++ bs.eraseDups).eraseDups = (as ++ bs).eraseDups := by
  rw [List.eraseDups_append, List.eraseDups_append, List.removeAll, filter_eraseDups,
    eraseDups_of_nodup (nodup_eraseDups _), List.removeAll]

/-- Nothing is added by what occurs before. -/
lemma eraseDups_append_of_subset {as bs : List α} (h : ∀ b ∈ bs, b ∈ as) :
    (as ++ bs).eraseDups = as.eraseDups := by
  have hnone : bs.removeAll as = [] := List.filter_eq_nil_iff.mpr fun b hb => by simp [h b hb]
  rw [List.eraseDups_append, hnone, List.eraseDups_nil, List.append_nil]

end FirstOccurrences

/-- Among things with different names, each is the first one of its name. -/
lemma find?_of_nodup_map {α : Type} {name : α → String} {as : List α} (h : (as.map name).Nodup)
    {a : α} (ha : a ∈ as) : (as.find? fun b => name b == name a) = some a := by
  obtain ⟨b, hb⟩ : ∃ b, (as.find? fun b => name b == name a) = some b :=
    Option.isSome_iff_exists.mp (List.find?_isSome.mpr ⟨a, ha, beq_self_eq_true _⟩)
  have hname : name b = name a := by simpa using List.find?_some hb
  rw [hb, List.inj_on_of_nodup_map h (List.mem_of_find?_eq_some hb) ha hname]

/-! ## Pairs inserted one after another -/

namespace Entries

variable {α : Type}

/-- **The value given last** for a key. -/
def lastOf? (pairs : List (String × α)) (key : String) : Option α :=
  ((pairs.filter fun p => p.1 = key).getLast?).map Prod.snd

lemma lastOf?_append (pairs more : List (String × α)) (key : String) :
    lastOf? (pairs ++ more) key = (lastOf? more key).or (lastOf? pairs key) := by
  rw [lastOf?, lastOf?, lastOf?, List.filter_append, List.getLast?_append]
  cases (more.filter fun p => p.1 = key).getLast? <;> rfl

lemma lastOf?_concat (pairs : List (String × α)) (p : String × α) (key : String) :
    lastOf? (pairs ++ [p]) key = if p.1 = key then some p.2 else lastOf? pairs key := by
  rw [lastOf?_append]
  by_cases hp : p.1 = key <;> simp [lastOf?, hp]

lemma keys_append (pairs more : List (String × α)) :
    keys (pairs ++ more) = keys pairs ++ keys more := List.map_append

lemma insertAll_concat (es : Entries α) (pairs : List (String × α)) (p : String × α) :
    insertAll es (pairs ++ [p]) = insert (insertAll es pairs) p.1 p.2 := by
  rw [insertAll, List.foldl_concat]
  rfl

/-- Pairs inserted into a map: the last value of a key is found, else what was there. -/
theorem get?_insertAll (es : Entries α) (pairs : List (String × α)) (key : String) :
    get? (insertAll es pairs) key = (lastOf? pairs key).or (get? es key) := by
  induction pairs using List.reverseRecOn with
  | nil => rfl
  | append_singleton pairs p ih =>
      rw [insertAll_concat, get?_insert, lastOf?_concat, ih]
      split <;> rfl

/-- Pairs inserted into a map: new keys come behind the old ones, in the order of their first
occurrence. -/
theorem keys_insertAll {es : Entries α} (h : (keys es).Nodup) (pairs : List (String × α)) :
    keys (insertAll es pairs) = (keys es ++ keys pairs).eraseDups := by
  induction pairs using List.reverseRecOn with
  | nil =>
      have hnone : keys es ++ keys ([] : List (String × α)) = keys es := List.append_nil _
      rw [hnone, eraseDups_of_nodup h]
      rfl
  | append_singleton pairs p ih =>
      have hkeys : keys (pairs ++ [p]) = keys pairs ++ [p.1] := keys_append pairs [p]
      rw [insertAll_concat, keys_insert, ih, hkeys, ← List.append_assoc, eraseDups_concat]
      simp only [List.mem_eraseDups]

/-- **The map that some pairs make**: their keys in the order of first occurrence, each with the
value given for it last. -/
structure LastValues (pairs : List (String × α)) (es : Entries α) : Prop where
  keys : Entries.keys es = (Entries.keys pairs).eraseDups
  get? : ∀ key, Entries.get? es key = lastOf? pairs key

/-- **Inserting pairs into nothing** makes their map. -/
theorem lastValues_ofList (pairs : List (String × α)) : LastValues pairs (ofList pairs) where
  keys := keys_insertAll (show (Entries.keys ([] : Entries α)).Nodup from List.nodup_nil) pairs
  get? key := (get?_insertAll [] pairs key).trans Option.or_none

namespace LastValues

variable {pairs more : List (String × α)} {es new : Entries α}

lemma nodup (h : LastValues pairs es) : (Entries.keys es).Nodup := h.keys ▸ nodup_eraseDups _

/-- The values of a map are those that it finds under its own keys. -/
lemma lastOf?_eq (h : LastValues pairs es) (key : String) : lastOf? es key = lastOf? pairs key := by
  rw [← h.get? key, ← (lastValues_ofList es).get? key, ofList_of_nodup h.nodup]

/-- One map poured into another. -/
lemma insertAll (h : LastValues pairs es) (hnew : LastValues more new) :
    LastValues (pairs ++ more) (Entries.insertAll es new) where
  keys := by
    rw [keys_insertAll h.nodup, h.keys, hnew.keys, eraseDups_append_left, eraseDups_append_right,
      keys_append]
  get? key := by
    rw [get?_insertAll, h.get? key, hnew.lastOf?_eq key, lastOf?_append]

end LastValues

/-! ## Equal maps -/

/-- Entries with the same keys in the same order and the same values. -/
lemma eq_of_get? {es es' : Entries α} (h : (keys es).Nodup) (hkeys : keys es = keys es')
    (hget : ∀ key, get? es key = get? es' key) : es = es' := by
  induction es generalizing es' with
  | nil => exact (List.map_eq_nil_iff.mp hkeys.symm).symm
  | cons e rest ih =>
      obtain ⟨hk, hrest⟩ := List.nodup_cons.mp h
      cases es' with
      | nil => cases hkeys
      | cons e' rest' =>
          obtain ⟨hfirst, hothers⟩ : e.1 = e'.1 ∧ keys rest = keys rest' := List.cons.inj hkeys
          have hvalue : some e.2 = some e'.2 := by
            have hhere := hget e.1
            rwa [get?, get?, if_pos rfl, if_pos hfirst.symm] at hhere
          have hlater (key : String) : get? rest key = get? rest' key := by
            by_cases hkey : e.1 = key
            · subst hkey
              have hk' : e.1 ∉ keys rest' := hothers ▸ hk
              rw [get?_eq_none_iff.mpr hk, get?_eq_none_iff.mpr hk']
            · have hthere := hget key
              rwa [get?, get?, if_neg hkey, if_neg (hfirst ▸ hkey)] at hthere
          rw [ih hrest hothers hlater, Prod.ext hfirst (Option.some.inj hvalue)]

end Entries

namespace OrderedMap

variable {α : Type}

lemma nodup_keys (m : OrderedMap α) : m.keys.Nodup := m.nodup

lemma keys_erase (m : OrderedMap α) (key : String) :
    (m.erase key).keys = m.keys.filter fun k => k ≠ key := by
  have hkeys : (m.erase key).keys = m.keys.erase key := Entries.keys_erase m.entries key
  rw [hkeys, m.nodup_keys.erase_eq_filter]
  exact List.filter_congr fun k _ => (decide_not ..).symm

/-- As many entries as there are keys under which something is found. -/
lemma size_eq_ncard (m : OrderedMap α) : m.size = {key | (m.get? key).isSome}.ncard := by
  have hfound : {key | (m.get? key).isSome} = (m.keys.toFinset : Set String) := by
    ext key
    rw [List.coe_toFinset]
    exact Entries.contains_iff
  rw [hfound, Set.ncard_coe_finset, List.toFinset_card_of_nodup m.nodup_keys]
  exact (List.length_map _).symm

/-- **Two maps are equal** when they have the same keys in the same order and the same values. -/
theorem ext_get? {a b : OrderedMap α} (hkeys : a.keys = b.keys)
    (hget : ∀ key, a.get? key = b.get? key) : a = b :=
  OrderedMap.ext (Entries.eq_of_get? a.nodup hkeys hget)

end OrderedMap

end ContentSync
