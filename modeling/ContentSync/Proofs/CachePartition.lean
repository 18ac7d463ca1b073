import ContentSync.Proofs.SingleWrites
import ContentSync.Proofs.SourceRuns

/-!
# Every item has one place in the cache

Items reach the cache through updates that were sorted by the types of the items; identities leave
it through updates that were sorted by the type that a caller or a notification gives.  Both are the
same sorting as long as every entry stands under its own identity in the map of its own type, and a
source that starts with nothing keeps it that way.  Then a removal leaves nothing behind.

* `Filed`, `Cache.Partitioned` — every entry in its place, in one map and in both.
* `stable_partitioned` — every change of the cache keeps that.
* `Cache.Holds`, `not_holds_deleting` — an item in either map, and that a removal leaves none.
* `deleteDocument_cache`, `handleWebhook_delete` — the ways to a removal.
* `performAll_partitioned` — every run, and the removals after it.
-/

namespace ContentSync

open GraphQL
open Http (Network)

/-! ## One map -/

/-- **A map in which every entry is in its place**: under its own identity, and of the kind that the
map is for. -/
def Filed (kind : Item → Prop) (m : OrderedMap Item) : Prop :=
  ∀ e ∈ m.entries, e.1 = e.2.id ∧ kind e.2

section Filed

variable {kind : Item → Prop} {m : OrderedMap Item}

lemma filed_empty (kind : Item → Prop) : Filed kind .empty := fun _ he => absurd he List.not_mem_nil

lemma Filed.insert (h : Filed kind m) {d : Item} (hd : kind d) : Filed kind (m.insert d.id d) := by
  intro e he
  rcases Entries.mem_insert he with he | rfl
  · exact h e he
  · exact ⟨rfl, hd⟩

lemma Filed.erase (h : Filed kind m) (id : String) : Filed kind (m.erase id) := by
  intro e he
  have hentries : (m.erase id).entries = m.entries.filter fun e => e.1 ≠ id := removed_erase m id
  rw [hentries] at he
  exact h e (List.mem_filter.mp he).1

lemma Filed.storeItems {items : List Item} (hitems : ∀ d ∈ items, kind d) :
    ∀ {m : OrderedMap Item}, Filed kind m → Filed kind (ContentSync.storeItems m items) := by
  induction items with
  | nil => exact fun h => h
  | cons d rest ih =>
      obtain ⟨hd, hrest⟩ := List.forall_mem_cons.mp hitems
      exact fun h => ih hrest (h.insert hd)

lemma Filed.removeItems (ids : List String) :
    ∀ {m : OrderedMap Item}, Filed kind m → Filed kind (ContentSync.removeItems m ids) := by
  induction ids with
  | nil => exact fun h => h
  | cons id rest ih => exact fun h => ih (h.erase id)

/-- An item in the map is what is found under its identity. -/
lemma Filed.get? (h : Filed kind m) {d : Item} (hd : d ∈ m.values) :
    m.get? d.id = some d ∧ kind d := by
  obtain ⟨⟨id, d'⟩, he, rfl⟩ := List.mem_map.mp hd
  obtain ⟨hid, hkind⟩ := h _ he
  obtain rfl : id = d'.id := hid
  exact ⟨(Entries.get?_eq_some_iff m.nodup).mpr he, hkind⟩

end Filed

/-! ## The cache -/

namespace Cache

/-- **Every item is in its place**: under its own identity, assets apart from documents. -/
structure Partitioned (c : Cache) : Prop where
  documents : Filed (fun d => d.typename ≠ assetTypename) c.documents
  assets : Filed (fun d => d.typename = assetTypename) c.assets

/-- Either map has an item with this type and identity. -/
def Holds (c : Cache) (r : Reference) : Prop :=
  ∃ d, d.reference = r ∧ (d ∈ c.documents.values ∨ d ∈ c.assets.values)

lemma partitioned_empty : Partitioned .empty := ⟨filed_empty _, filed_empty _⟩

/-- An item that is held is the one that is looked up. -/
lemma Partitioned.kept? {c : Cache} (h : c.Partitioned) {r : Reference} (hr : c.Holds r) :
    ∃ d, c.kept? r = some d := by
  obtain ⟨d, rfl, hd | hd⟩ := hr
  · obtain ⟨hget, hkind⟩ := h.documents.get? hd
    exact ⟨d, by rw [Cache.kept?, if_neg (by simpa [Item.reference] using hkind)]; exact hget⟩
  · obtain ⟨hget, hkind⟩ := h.assets.get? hd
    exact ⟨d, by rw [Cache.kept?, if_pos (by simpa [Item.reference] using hkind)]; exact hget⟩

/-- After a removal, nothing is found where the item would be looked up. -/
lemma kept?_apply_deleting (c : Cache) (r : Reference) :
    (c.apply (.deleting r)).kept? r = none := by
  rw [apply_deleting, kept?]
  by_cases hasset : r.typename = assetTypename
  · simp [hasset, asset?, OrderedMap.get?_erase]
  · simp [hasset, document?, OrderedMap.get?_erase]

end Cache

/-- **Every change of the cache leaves every item in its place.** -/
theorem stable_partitioned : Stable Cache.Partitioned := by
  intro c c' hstep h
  cases hstep with
  | learn schema =>
      refine ⟨?_, ?_⟩
      · rw [Cache.learn_documents]
        exact h.documents
      · rw [Cache.learn_assets]
        exact h.assets
  | write hsorted =>
      exact ⟨(h.documents.storeItems hsorted.documents).removeItems _,
        (h.assets.storeItems hsorted.assets).removeItems _⟩

/-- **A removal leaves nothing behind** when every item is in its place. -/
theorem not_holds_deleting {c : Cache} (h : c.Partitioned) (r : Reference) :
    ¬ (c.apply (.deleting r)).Holds r := by
  intro hholds
  have hafter : (c.apply (.deleting r)).Partitioned :=
    stable_partitioned (.write (Update.sorted_deleting r)) h
  obtain ⟨d, hkept⟩ := hafter.kept? hholds
  rw [Cache.kept?_apply_deleting] at hkept
  cases hkept

/-! ## Ways to a removal -/

section Removal

variable {source : Source} {net : Network} {s s' : SourceState}

/-- A deletion that succeeds removes the item that the caller names. -/
lemma deleteDocument_cache {typename id : String}
    (h : source.deleteDocument net typename id s = (.ok (), s')) :
    s'.cache = s.cache.apply (.deleting ⟨typename, id⟩) := by
  obtain ⟨done, s₁, hdelete, hkeep⟩ := ok_of_bind h
  have hlogged : s₁.cache = s.cache := (congrArg (fun run => run.2.cache) hdelete).symm
  rw [← hlogged]
  exact (congrArg (fun run => run.2.cache) hkeep).symm

/-- A delivery that is accepted and carries the removal of an item removes it. -/
lemma handleWebhook_delete {clock : Webhook.Clock} {d : Webhook.Delivery} {event : Webhook.Event}
    {n : Notification} (haccepted : (source.handler.receive s.guard clock d).result = .ok event)
    (hread : Notification.reader.ofJson event.payload = .ok n) (hdelete : n.change = .delete) :
    (source.handleWebhook net clock d s).2.cache = s.cache.apply (.deleting n.reference) := by
  rw [handleWebhook_eq, haccepted]
  dsimp only
  rw [hread]
  dsimp only
  rw [applyNotification_delete source net _ hdelete]
  rfl

end Removal

/-! ## Runs -/

/-- **Every item is in its place after every run** of a source that starts with nothing, whatever is
called and whatever the network replies.  So an item is removed for good: there is one cache without
it that all removals lead to,

* a notification of its removal,
* a delivery that is accepted and carries such a notification, and
* its deletion, when that succeeds. -/
theorem performAll_partitioned (source : Source) (calls : List (Network × SourceCall))
    {s : SourceState} (hstart : s.cache = .empty) :
    let reached := source.performAll calls s
    reached.cache.Partitioned ∧
    ∀ r : Reference, ∃ c : Cache, ¬ c.Holds r ∧
      (∀ net n, n.change = .delete → n.reference = r →
        (source.applyNotification net n reached).2.cache = c) ∧
      (∀ net clock d event n,
        (source.handler.receive reached.guard clock d).result = .ok event →
        Notification.reader.ofJson event.payload = .ok n → n.change = .delete → n.reference = r →
        (source.handleWebhook net clock d reached).2.cache = c) ∧
      (∀ net s', source.deleteDocument net r.typename r.id reached = (.ok (), s') →
        s'.cache = c) := by
  have hpartitioned : (source.performAll calls s).cache.Partitioned :=
    performAll_keeps stable_partitioned source calls s (hstart ▸ Cache.partitioned_empty)
  refine ⟨hpartitioned, fun r => ⟨_, not_holds_deleting hpartitioned r, ?_, ?_, ?_⟩⟩
  · intro net n hdelete hn
    rw [applyNotification_delete source net _ hdelete, hn]
  · intro net clock d event n haccepted hread hdelete hn
    rw [handleWebhook_delete haccepted hread hdelete, hn]
  · exact fun net s' hdeleted => deleteDocument_cache hdeleted

/-- Everything was read from a page with two assets. -/
def afterAssets (source : Source) : SourceState :=
  source.performAll [(assetNetwork, .syncAll 1)] .empty

/-- Its reply lets a deletion succeed. -/
lemma deleteDocument_assets {source : Source} (hretry : source.api.content.retry = .default)
    (typename id : String) (s : SourceState) :
    ∃ s', source.deleteDocument assetNetwork typename id s = (.ok (), s') := by
  obtain ⟨body, outcome, -, hsent, hresult⟩ :=
    writesOnce_deleteDocument (s := s) hretry assetNetwork typename id
  have hreply : outcome = assetReply := hsent.answer
  have hcarried : carriedOut outcome = some () := by
    rw [carriedOut, hreply, dataOf_assetReply]
    rfl
  rw [hcarried] at hresult
  exact ⟨_, Prod.ext hresult.1 rfl⟩

/-- One of the assets is removed, and both ways leave the same. -/
theorem performAll_partitioned_assets :
    ∃ source s', Source.of? plainConfig = .ok source ∧
      source.deleteDocument assetNetwork assetTypename "a" (afterAssets source) = (.ok (), s') ∧
      ¬ s'.cache.Holds ⟨assetTypename, "a"⟩ ∧
      (source.applyNotification assetNetwork ⟨.delete, assetTypename, "a", none, none⟩
        (afterAssets source)).2.cache = s'.cache := by
  obtain ⟨source, hsource⟩ : ∃ source, Source.of? plainConfig = .ok source := ⟨_, rfl⟩
  have hretry : source.api.content.retry = .default := by
    cases hsource
    rfl
  obtain ⟨-, hremoval⟩ := performAll_partitioned source [(assetNetwork, .syncAll 1)]
    (rfl : SourceState.empty.cache = .empty)
  obtain ⟨c, hnone, hnotified, -, hdeleted⟩ := hremoval ⟨assetTypename, "a"⟩
  obtain ⟨s', hs'⟩ := deleteDocument_assets hretry assetTypename "a" (afterAssets source)
  obtain rfl : s'.cache = c := hdeleted assetNetwork s' hs'
  exact ⟨source, s', hsource, hs', hnone, hnotified _ _ rfl rfl⟩

end ContentSync
