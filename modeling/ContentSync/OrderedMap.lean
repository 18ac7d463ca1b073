/-!
# Maps that remember insertion order

Objects of JSON, arguments of a field, types of a schema and entries of the cache are all maps
from text to values whose order shows in what is printed.  A key keeps the position of its first
insertion; inserting it again replaces the value in place, and removal closes the gap without
moving any other entry.

* `Entries` — the operations on a bare list of pairs.  Trees (JSON values, arguments, selections)
  hold such lists directly, because a tree cannot carry a proof about its own children.
* `OrderedMap` — a list of pairs together with the proof that no key occurs twice.

Main statements: `Entries.get?_insert` and `Entries.get?_erase` say what each operation does to
look-ups, `Entries.keys_insert` and `Entries.keys_erase` what it does to the order of the keys.
-/

namespace ContentSync

/-- Pairs of a key and its value, in order of first insertion. -/
abbrev Entries (α : Type) := List (String × α)

namespace Entries

variable {α β : Type}

/-! ## Operations -/

/-- The keys in order. -/
def keys (es : Entries α) : List String := es.map Prod.fst

/-- The value of the first entry under `key`. -/
def get? : Entries α → String → Option α
  | [], _ => none
  | (k, v) :: rest, key => if k = key then some v else get? rest key

/-- Whether some entry has this key. -/
def contains (es : Entries α) (key : String) : Bool := (get? es key).isSome

/-- **Last value, first place.**  An existing key keeps its position and takes the new value; a new
key goes to the end. -/
def insert : Entries α → String → α → Entries α
  | [], key, value => [(key, value)]
  | (k, v) :: rest, key, value =>
      if k = key then (key, value) :: rest else (k, v) :: insert rest key value

/-- Removes the first entry under `key`; every other entry keeps its value and order. -/
def erase : Entries α → String → Entries α
  | [], _ => []
  | (k, v) :: rest, key => if k = key then rest else (k, v) :: erase rest key

/-- Inserts all pairs of a list, from left to right. -/
def insertAll (es : Entries α) (pairs : List (String × α)) : Entries α :=
  pairs.foldl (fun acc p => insert acc p.1 p.2) es

/-- The entries of a list of pairs: a repeated key keeps its place and takes the last value. -/
def ofList (pairs : List (String × α)) : Entries α := insertAll [] pairs

/-! ## What the operations do to look-ups and keys -/

@[simp] theorem get?_nil (key : String) : get? ([] : Entries α) key = none := rfl

@[simp] theorem insert_nil (key : String) (value : α) :
    insert [] key value = [(key, value)] := rfl

@[simp] theorem erase_nil (key : String) : erase ([] : Entries α) key = [] := rfl

/-- An inserted key is found with its new value, all others are as before. -/
theorem get?_insert (es : Entries α) (key other : String) (value : α) :
    get? (insert es key value) other = if key = other then some value else get? es other := by
  induction es with
  | nil => simp [insert, get?]
  | cons e rest ih =>
    obtain ⟨k, v⟩ := e
    by_cases hk : k = key
    · subst hk
      simp only [insert, if_true, get?]
      by_cases ho : k = other <;> simp [ho]
    · simp only [insert, if_neg hk, get?, ih]
      by_cases ho : k = other
      · subst ho
        simp [Ne.symm hk]
      · simp [ho]

/-- The keys after an insertion: unchanged when the key was there, else with the key at the end. -/
theorem keys_insert (es : Entries α) (key : String) (value : α) :
    keys (insert es key value) = if key ∈ keys es then keys es else keys es ++ [key] := by
  induction es with
  | nil => simp [insert, keys]
  | cons e rest ih =>
    obtain ⟨k, v⟩ := e
    by_cases hk : k = key
    · subst hk
      simp [insert, keys]
    · have hk' : ¬ key = k := fun h => hk h.symm
      simp only [keys] at ih
      by_cases hm : key ∈ rest.map Prod.fst
      · simp [insert, hk, keys, ih, hm]
      · simp [insert, hk, hk', keys, ih, hm]

/-- Insertion never makes a key occur twice. -/
theorem nodup_keys_insert {es : Entries α} (h : (keys es).Nodup) (key : String) (value : α) :
    (keys (insert es key value)).Nodup := by
  rw [keys_insert]
  split
  · exact h
  · next hk =>
    refine List.nodup_append.2 ⟨h, by simp, ?_⟩
    intro a ha b hb hab
    simp only [List.mem_singleton] at hb
    exact hk (hb ▸ hab ▸ ha)

theorem get?_eq_none_iff {es : Entries α} {key : String} :
    get? es key = none ↔ key ∉ keys es := by
  induction es with
  | nil => simp [keys]
  | cons e rest ih =>
    obtain ⟨k, v⟩ := e
    simp only [keys] at ih
    by_cases hk : k = key
    · simp [get?, hk, keys]
    · have hk' : ¬ key = k := fun h => hk h.symm
      simp [get?, hk, hk', keys, ih]

theorem contains_iff {es : Entries α} {key : String} :
    contains es key = true ↔ key ∈ keys es := by
  have h : get? es key = none ↔ key ∉ keys es := get?_eq_none_iff
  cases hg : get? es key with
  | none => simp [contains, hg, h.1 hg]
  | some v =>
    have : key ∈ keys es := Classical.byContradiction fun hn => by simp [h.2 hn] at hg
    simp [contains, hg, this]

/-- The keys after a removal: the first occurrence of the key is gone. -/
theorem keys_erase (es : Entries α) (key : String) :
    keys (erase es key) = (keys es).erase key := by
  induction es with
  | nil => rfl
  | cons e rest ih =>
    obtain ⟨k, v⟩ := e
    simp only [keys] at ih
    by_cases hk : k = key
    · simp [erase, keys, hk]
    · simp [erase, keys, hk, ih]

theorem nodup_keys_erase {es : Entries α} (h : (keys es).Nodup) (key : String) :
    (keys (erase es key)).Nodup := by
  rw [keys_erase]
  exact h.erase key

/-- A removed key is absent, all others are as before. -/
theorem get?_erase {es : Entries α} (h : (keys es).Nodup) (key other : String) :
    get? (erase es key) other = if key = other then none else get? es other := by
  induction es with
  | nil => simp
  | cons e rest ih =>
    obtain ⟨k, v⟩ := e
    have hn : k ∉ keys rest ∧ (keys rest).Nodup := List.nodup_cons.1 h
    by_cases hk : k = key
    · subst hk
      by_cases ho : k = other
      · subst ho
        simp [erase, get?_eq_none_iff.2 hn.1]
      · simp [erase, get?, ho]
    · by_cases ho : k = other
      · subst ho
        simp [erase, get?, hk, Ne.symm hk]
      · simp [erase, get?, hk, ho, ih hn.2]

theorem nodup_keys_insertAll {es : Entries α} (h : (keys es).Nodup)
    (pairs : List (String × α)) : (keys (insertAll es pairs)).Nodup := by
  induction pairs generalizing es with
  | nil => exact h
  | cons p rest ih => exact ih (nodup_keys_insert h p.1 p.2)

end Entries

/-! ## Maps without repeated keys -/

/-- Entries in order of first insertion, no key twice. -/
structure OrderedMap (α : Type) where
  entries : Entries α
  nodup : entries.keys.Nodup

namespace OrderedMap

variable {α : Type}

@[ext] theorem ext {a b : OrderedMap α} (h : a.entries = b.entries) : a = b := by
  cases a; cases b; cases h; rfl

instance [BEq α] : BEq (OrderedMap α) := ⟨fun a b => a.entries == b.entries⟩

instance [DecidableEq α] : DecidableEq (OrderedMap α) := fun a b =>
  if h : a.entries = b.entries then isTrue (ext h) else isFalse fun e => h (e ▸ rfl)

/-- The map without entries. -/
def empty : OrderedMap α := ⟨[], by simp [Entries.keys]⟩

instance : Inhabited (OrderedMap α) := ⟨empty⟩

/-- Stores `value` under `key`, in the key's old place if it has one, else at the end. -/
def insert (m : OrderedMap α) (key : String) (value : α) : OrderedMap α :=
  ⟨Entries.insert m.entries key value, Entries.nodup_keys_insert m.nodup key value⟩

/-- Removes `key`; all other entries keep value and order. -/
def erase (m : OrderedMap α) (key : String) : OrderedMap α :=
  ⟨Entries.erase m.entries key, Entries.nodup_keys_erase m.nodup key⟩

/-- The value stored under `key`. -/
def get? (m : OrderedMap α) (key : String) : Option α := Entries.get? m.entries key

/-- The keys in order of first insertion. -/
def keys (m : OrderedMap α) : List String := Entries.keys m.entries

/-- The values in order of first insertion of their keys. -/
def values (m : OrderedMap α) : List α := m.entries.map Prod.snd

/-- Number of entries. -/
def size (m : OrderedMap α) : Nat := m.entries.length

/-- Whether there is no entry. -/
def isEmpty (m : OrderedMap α) : Bool := m.entries.isEmpty

@[simp] theorem get?_empty (key : String) : (empty : OrderedMap α).get? key = none := rfl

theorem get?_insert (m : OrderedMap α) (key other : String) (value : α) :
    (m.insert key value).get? other = if key = other then some value else m.get? other :=
  Entries.get?_insert m.entries key other value

theorem get?_erase (m : OrderedMap α) (key other : String) :
    (m.erase key).get? other = if key = other then none else m.get? other :=
  Entries.get?_erase m.nodup key other

end OrderedMap

end ContentSync
