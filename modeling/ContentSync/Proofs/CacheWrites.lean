import ContentSync.Source.Notifying
import Mathlib.Tactic.Lemma

/-!
# What an update does to the cache

An update that stores one item changes one entry of one of the two maps of the cache, and an update
that removes one takes one entry out.  All other entries keep their values and their order.

* `Stored`, `Removed` — a map with an item stored, or with an identity removed.
* `apply_ofItem`, `apply_deleting` — which of the two maps it is.
* `kept?_apply_ofItem` — what is kept of an item after another one was stored.
* `ChangesOnly` — a change of what is held under one identity.
-/

namespace ContentSync

/-! ## One map -/

/-- **A map with an item stored** under its identity: in the place of the one before, else at the
end. -/
structure Stored (d : Item) (before after : OrderedMap Item) : Prop where
  here : after.get? d.id = some d
  others : ∀ id, id ≠ d.id → after.get? id = before.get? id
  keys : after.keys = if d.id ∈ before.keys then before.keys else before.keys ++ [d.id]

/-- **A map with an identity removed**: what is left stands as it stood. -/
def Removed (id : String) (before after : OrderedMap Item) : Prop :=
  after.entries = before.entries.filter fun e => e.1 ≠ id

lemma stored_insert (m : OrderedMap Item) (d : Item) : Stored d m (m.insert d.id d) where
  here := by rw [OrderedMap.get?_insert, if_pos rfl]
  others id h := by rw [OrderedMap.get?_insert, if_neg (Ne.symm h)]
  keys := Entries.keys_insert m.entries d.id d

/-- The first entry of a key is its only one. -/
lemma Entries.erase_eq_filter {α : Type} {es : Entries α} (h : (keys es).Nodup) (key : String) :
    erase es key = es.filter fun e => e.1 ≠ key := by
  induction es with
  | nil => rfl
  | cons e rest ih =>
      obtain ⟨k, v⟩ := e
      obtain ⟨hk, hrest⟩ := List.nodup_cons.mp h
      by_cases hkey : k = key
      · subst hkey
        have hothers : rest.filter (fun e => e.1 ≠ k) = rest := by
          refine List.filter_eq_self.mpr fun e he => ?_
          have hne : e.1 ≠ k := fun heq => hk (List.mem_map.mpr ⟨e, he, heq⟩)
          simpa using hne
        rw [erase, if_pos rfl, List.filter_cons_of_neg (by simp), hothers]
      · rw [erase, if_neg hkey, List.filter_cons_of_pos (by simpa using hkey), ih hrest]

lemma removed_erase (m : OrderedMap Item) (id : String) : Removed id m (m.erase id) :=
  Entries.erase_eq_filter m.nodup id

/-! ## The cache -/

namespace Cache

variable (c : Cache)

/-- An item is stored in the map of its kind. -/
lemma apply_ofItem (d : Item) :
    c.apply (.ofItem d) =
      if d.isAsset then { c with assets := c.assets.insert d.id d }
      else { c with documents := c.documents.insert d.id d } := by
  rw [Update.ofItem, Update.push]
  split <;> rfl

/-- An identity is removed from the map that its type tells. -/
lemma apply_deleting (r : Reference) :
    c.apply (.deleting r) =
      if r.typename = assetTypename then { c with assets := c.assets.erase r.id }
      else { c with documents := c.documents.erase r.id } := by
  rw [Update.deleting]
  by_cases h : r.typename = assetTypename
  · rw [if_pos (beq_iff_eq.mpr h), if_pos h]
    rfl
  · rw [if_neg (by simpa using h), if_neg h]
    rfl

/-- Only an item of the same kind and identity takes the place of what was kept. -/
lemma kept?_apply_ofItem (d : Item) (r : Reference) :
    (c.apply (.ofItem d)).kept? r =
      if d.id = r.id ∧ (d.typename = assetTypename ↔ r.typename = assetTypename) then some d
      else c.kept? r := by
  rw [apply_ofItem, Item.isAsset, kept?, kept?]
  by_cases hd : d.typename = assetTypename <;> by_cases hr : r.typename = assetTypename <;>
    simp [hd, hr, asset?, document?, OrderedMap.get?_insert]

@[simp] lemma learn_documents (schema : Schema) : (c.learn schema).documents = c.documents := by
  rw [learn]
  split <;> rfl

@[simp] lemma learn_assets (schema : Schema) : (c.learn schema).assets = c.assets := by
  rw [learn]
  split <;> rfl

/-- What is held under an identity: a document, an asset, both or neither. -/
def heldAt (id : String) : Option Item × Option Item := (c.document? id, c.asset? id)

lemma heldAt_apply_ofItem (d : Item) (id : String) :
    (c.apply (.ofItem d)).heldAt id =
      if d.id = id then
        if d.isAsset then ((c.heldAt id).1, some d) else (some d, (c.heldAt id).2)
      else c.heldAt id := by
  rw [apply_ofItem]
  by_cases hid : d.id = id <;> by_cases hasset : d.isAsset <;>
    simp [heldAt, document?, asset?, OrderedMap.get?_insert, hid, hasset]

lemma heldAt_apply_deleting (r : Reference) (id : String) :
    (c.apply (.deleting r)).heldAt id =
      if r.id = id then
        if r.typename = assetTypename then ((c.heldAt id).1, none) else (none, (c.heldAt id).2)
      else c.heldAt id := by
  rw [apply_deleting]
  by_cases hid : r.id = id <;> by_cases hasset : r.typename = assetTypename <;>
    simp [heldAt, document?, asset?, OrderedMap.get?_erase, hid, hasset]

end Cache

/-- **A change of what is held under one identity.**  It depends on nothing else that is held. -/
structure ChangesOnly (id : String) (f : Cache → Cache) : Prop where
  here : ∀ {c c' : Cache}, c.heldAt id = c'.heldAt id → (f c).heldAt id = (f c').heldAt id
  elsewhere : ∀ (c : Cache) {other : String}, other ≠ id → (f c).heldAt other = c.heldAt other
  schema : ∀ c : Cache, (f c).schema = c.schema

lemma changesOnly_id (id : String) : ChangesOnly id fun c => c where
  here h := h
  elsewhere _ _ _ := rfl
  schema _ := rfl

lemma changesOnly_ofItem (d : Item) : ChangesOnly d.id fun c => c.apply (.ofItem d) where
  here h := by simp only [Cache.heldAt_apply_ofItem, h]
  elsewhere c other h := by rw [Cache.heldAt_apply_ofItem, if_neg (Ne.symm h)]
  schema _ := rfl

lemma changesOnly_deleting (r : Reference) : ChangesOnly r.id fun c => c.apply (.deleting r) where
  here h := by simp only [Cache.heldAt_apply_deleting, h]
  elsewhere c other h := by rw [Cache.heldAt_apply_deleting, if_neg (Ne.symm h)]
  schema _ := rfl

end ContentSync
