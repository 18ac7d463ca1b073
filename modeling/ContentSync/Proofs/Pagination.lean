import ContentSync.Proofs.Insertion
import ContentSync.Proofs.JsonEquality
import ContentSync.Proofs.JsonText
import ContentSync.Proofs.PageServer
import Mathlib.Data.List.Basic

/-!
# Reading page by page loses and repeats nothing

The run is followed round by round.  Before a round every list has a position, and what remains of
it are its items from there on, or nothing when the list is at its end.  A round takes a page off
the front of what remains of every list that goes on (`remaining_eq`), and its position moves to the
end of that page (`Cursor.past`), so what remains gets shorter until nothing does.

* `asked?_pageDocument` — the query of a round, as the server sees it.
* `takePages_served` — what a reply means when it consists of pages.
* `RunFrom`, `run_served` — the run from any positions on, and that it ends.
* `paginate_complete` — the whole run.
-/

namespace ContentSync.GraphQL

open Http (Attempt Network Outcome)

/-! ## The query of a round -/

section Query

variable {positions : List (PageStream × Cursor)} {pageSize : Nat}

lemma selection_pageDocument (hnames : (positions.map fun p => p.1.name).Nodup) :
    (pageDocument positions pageSize).selection =
      (positions.filter fun p => p.2.active).map fun p => pageNode p.1 p.2.offset pageSize := by
  refine SelectionSet.ofList_of_nodup ?_
  have hkeys : SelectionSet.keys ((positions.filter fun p => p.2.active).map fun p =>
      pageNode p.1 p.2.offset pageSize) =
        (positions.filter fun p => p.2.active).map fun p => p.1.name := by
    rw [SelectionSet.keys, List.map_map]
    rfl
  rw [hkeys]
  exact hnames.sublist (List.filter_sublist.map _)

lemma keys_pageDocument (hnames : (positions.map fun p => p.1.name).Nodup) (pageSize : Nat) :
    SelectionSet.keys (pageDocument positions pageSize).selection =
      (positions.filter fun p => p.2.active).map fun p => p.1.name := by
  rw [selection_pageDocument hnames, SelectionSet.keys, List.map_map]
  rfl

lemma eq_of_name_eq (hnames : (positions.map fun p => p.1.name).Nodup)
    {p q : PageStream × Cursor} (hp : p ∈ positions) (hq : q ∈ positions)
    (h : p.1.name = q.1.name) : p = q :=
  List.inj_on_of_nodup_map hnames hp hq h

/-- Every list that goes on has its own field under its own name. -/
lemma get?_pageDocument (hnames : (positions.map fun p => p.1.name).Nodup)
    {p : PageStream × Cursor} (hp : p ∈ positions) (hactive : p.2.active = true) :
    SelectionSet.get? (pageDocument positions pageSize).selection p.1.name =
      some (pageNode p.1 p.2.offset pageSize) := by
  have hmem : pageNode p.1 p.2.offset pageSize ∈
      (pageDocument positions pageSize).selection := by
    rw [selection_pageDocument hnames]
    exact List.mem_map.mpr ⟨p, List.mem_filter.mpr ⟨hp, hactive⟩, rfl⟩
  have hnodup : (SelectionSet.keys (pageDocument positions pageSize).selection).Nodup := by
    rw [keys_pageDocument hnames]
    exact hnames.sublist (List.filter_sublist.map _)
  exact SelectionSet.get?_of_mem hnodup hmem

/-- What the field of a list asks, as long as its position fits an argument. -/
lemma asked?_of_get? {d : Document} {s : PageStream} {offset : Nat}
    (hget : SelectionSet.get? d.selection s.name = some (pageNode s offset pageSize))
    (hargs : "first" ∉ Entries.keys s.arguments ∧ "skip" ∉ Entries.keys s.arguments)
    (hfits : offset < Nat.pow 2 63) : d.asked? s.name = some (↑pageSize, ↑offset) := by
  have hmin : min (offset : Int) maxInt = offset :=
    Int.min_eq_left (Int.ofNat_le.mpr (Nat.le_pred_of_lt hfits))
  simp only [Document.asked?, hget, pageNode, hmin,
    Entries.get?_insertAll_of_notMem hargs.1, Entries.get?_insertAll_of_notMem hargs.2]
  rfl

/-- **The query as the server sees it**: every list that goes on is asked for from its position, and
no other list is asked for. -/
theorem asked?_pageDocument (hnames : (positions.map fun p => p.1.name).Nodup)
    {p : PageStream × Cursor} (hp : p ∈ positions)
    (hargs : "first" ∉ Entries.keys p.1.arguments ∧ "skip" ∉ Entries.keys p.1.arguments)
    (hfits : p.2.offset < Nat.pow 2 63) :
    (pageDocument positions pageSize).asked? p.1.name =
      if p.2.active then some (↑pageSize, ↑p.2.offset) else none := by
  split
  · next hactive => exact asked?_of_get? (get?_pageDocument hnames hp hactive) hargs hfits
  · next hactive =>
      have hnot : p.1.name ∉ SelectionSet.keys (pageDocument positions pageSize).selection := by
        rw [keys_pageDocument hnames]
        intro hm
        obtain ⟨q, hq, hname⟩ := List.mem_map.mp hm
        have hq' := List.mem_filter.mp hq
        exact hactive (eq_of_name_eq hnames hq'.1 hp hname ▸ hq'.2)
      rw [Document.asked?, SelectionSet.get?_eq_none_iff.mpr hnot]

lemma exists_of_asked? (hnames : (positions.map fun p => p.1.name).Nodup) {key : String}
    {asked : Int × Int} (h : (pageDocument positions pageSize).asked? key = some asked) :
    ∃ p ∈ positions, p.2.active = true ∧ p.1.name = key := by
  have hkey : key ∈ SelectionSet.keys (pageDocument positions pageSize).selection := by
    by_contra hnot
    rw [Document.asked?, SelectionSet.get?_eq_none_iff.mpr hnot] at h
    cases h
  rw [keys_pageDocument hnames] at hkey
  obtain ⟨p, hp, hname⟩ := List.mem_map.mp hkey
  exact ⟨p, (List.mem_filter.mp hp).1, (List.mem_filter.mp hp).2, hname⟩

end Query

/-! ## One page -/

/-- Where a list goes on after a page: at its end, as long as items remain. -/
def Cursor.past (items page : List Json) (c : Cursor) : Cursor :=
  if c.active ∧ c.offset + page.length < items.length then ⟨c.offset + page.length, true⟩
  else ⟨c.offset, false⟩

/-- What remains to be read of a list. -/
def Cursor.remaining (items : List Json) (c : Cursor) : List Json :=
  if c.active then items.drop c.offset else []

section Page

variable {items : List Json} {first skip count : Nat} {connection : Json}

lemma edgeNode?_eq (edge : Json) :
    edgeNode? edge = (edge.get? "node").filter fun node => !node.isNull := by
  rw [edgeNode?]
  cases edge.get? "node" with
  | none => rfl
  | some node => cases h : node.isNull <;> simp [Option.filter, h]

/-- The edges of a page count with the items that it is a page of. -/
lemma filterMap_edgeNode? {edges page : List Json} (hpresent : ∀ item ∈ page, item.isNull = false)
    (hedges : edges.map (fun edge => edge.get? "node") = page.map some) :
    edges.filterMap edgeNode? = page := by
  have hfilter : edges.filterMap edgeNode? =
      (edges.map fun edge => edge.get? "node").filterMap
        (Option.filter fun node => !node.isNull) := by
    rw [List.filterMap_map]
    exact congrArg (fun f => List.filterMap f edges) (funext edgeNode?_eq)
  rw [hfilter, hedges, List.filterMap_map, List.filterMap_eq_map_iff_forall_eq_some.mpr]
  · exact List.map_id page
  · intro item hitem
    simp [Option.filter, hpresent item hitem]

lemma itemsUnder_eq {data : Json} {key : String} (hdata : data.get? key = some connection)
    (h : IsPage items first skip count connection) :
    itemsUnder data key = (items.drop skip).take count := by
  obtain ⟨edges, hedges, hnodes⟩ := h.edges
  have hfound : itemsUnder data key =
      (edges.map fun edge => edge.get? "node").filterMap id := by
    simp [itemsUnder, hdata, hedges, Json.array?, List.filterMap_map]
  rw [hfound, hnodes, List.filterMap_map]
  simp

/-- Only `true` is read as more to come. -/
lemma getD_bool?_eq_true_iff {value : Option Json} :
    (value.bind Json.bool?).getD false = true ↔ value = some (.bool true) := by
  rcases value with _ | v
  · simp
  · cases v <;> simp [Json.bool?]

/-- The length of a page, told or not. -/
lemma IsPage.getD_size (h : IsPage items first skip count connection) (hpos : 0 < count) :
    (((pageInfo? connection "pageSize").bind Json.nat?).filter (0 < ·)).getD first = count := by
  rcases h.size with htold | ⟨hcount, hother⟩
  · have hnat : Json.nat? (Json.int count) = some count := by simp [Json.int, Json.nat?]
    simp [htold, hnat, Option.filter, hpos]
  · have hnone : ((pageInfo? connection "pageSize").bind Json.nat?).filter (0 < ·) = none := by
      refine Option.filter_eq_none_iff.mpr fun n hn hlt => ?_
      obtain ⟨value, hvalue, hnat⟩ := Option.bind_eq_some_iff.mp hn
      refine hother n (by simpa using hlt) ?_
      rw [hvalue]
      unfold Json.nat? at hnat
      split at hnat
      · split at hnat
        · next m hm =>
            cases hnat
            rw [Json.int, Int.toNat_of_nonneg hm]
        · cases hnat
      · cases hnat
    rw [hnone, hcount, Option.getD_none]

/-- **Reading a page** gives its items, and the list goes on past them. -/
lemma readPage_of_isPage (h : IsPage items first skip count connection)
    (hpresent : ∀ item ∈ items, item.isNull = false) (hlength : items.length ≤ Nat.pow 2 63)
    (name : String) :
    ∃ page, readPage connection name = .ok page ∧ page.nodes = (items.drop skip).take count ∧
      (Cursor.mk skip true).after page first = (Cursor.mk skip true).past items page.nodes := by
  obtain ⟨edges, hedges, hnodes⟩ := h.edges
  have hpage : edges.filterMap edgeNode? = (items.drop skip).take count :=
    filterMap_edgeNode? (fun item hitem =>
      hpresent item (List.mem_of_mem_drop (List.mem_of_mem_take hitem))) hnodes
  have hcount : ((items.drop skip).take count).length = count := by
    rw [List.length_take, List.length_drop]
    exact Nat.min_eq_left h.within
  refine ⟨_, by rw [readPage, hedges]; rfl, hpage, ?_⟩
  simp only [Cursor.after, Cursor.past, hpage, hcount, true_and]
  by_cases hmore : skip + count < items.length
  · have hpos : 0 < count := h.nonempty (by omega)
    have hnext := getD_bool?_eq_true_iff.mpr (h.more.mpr hmore)
    have hsize := h.getD_size hpos
    have hfull : ((items.drop skip).take count).isEmpty = false := by
      rw [List.isEmpty_eq_false_iff, ← List.length_pos_iff, hcount]
      exact hpos
    -- a position inside the list is no largest word
    have hword : offsetPast skip count = skip + count :=
      offsetPast_of_lt (Nat.lt_of_lt_of_le hmore (Nat.le_trans hlength (by decide)))
    simp only [pageInfo?] at hnext hsize
    simp [hnext, hfull, hmore, hsize, hword]
  · have hlast := mt getD_bool?_eq_true_iff.mp (mt h.more.mp hmore)
    simp only [pageInfo?] at hlast
    simp [hlast, hmore]

end Page

/-! ## One round -/

/-- The items that a reply brings. -/
def received (data : Json) (positions : List (PageStream × Cursor)) : List PagedItem :=
  positions.flatMap fun p =>
    if p.2.active then (itemsUnder data p.1.name).map (PagedItem.mk p.1.name) else []

/-- Where the lists stand after a reply. -/
def advanced (held : String → List Json) (data : Json) (positions : List (PageStream × Cursor)) :
    List (PageStream × Cursor) :=
  positions.map fun p => (p.1, p.2.past (held p.1.name) (itemsUnder data p.1.name))

/-- Whether a reply has a page for every list that goes on. -/
def Paged (held : String → List Json) (pageSize : Nat) (data : Json)
    (positions : List (PageStream × Cursor)) : Prop :=
  ∀ p ∈ positions, p.2.active = true → ∃ connection count,
    data.get? p.1.name = some connection ∧
      IsPage (held p.1.name) pageSize p.2.offset count connection

section Round

variable {held : String → List Json} {pageSize : Nat} {data : Json}

lemma Cursor.past_of_not_active {c : Cursor} (h : c.active = false) (items page : List Json) :
    c.past items page = c := by
  cases c
  simp_all [Cursor.past]

/-- **What a reply means** when it has a page for every list that goes on. -/
theorem takePages_served {positions : List (PageStream × Cursor)}
    (hpaged : Paged held pageSize data positions)
    (hpresent : ∀ p ∈ positions, ∀ item ∈ held p.1.name, item.isNull = false)
    (haddressable : ∀ p ∈ positions, (held p.1.name).length ≤ Nat.pow 2 63) :
    takePages data pageSize positions =
      .ok (received data positions, advanced held data positions) := by
  induction positions with
  | nil => rfl
  | cons p rest ih =>
      obtain ⟨s, c⟩ := p
      have hrest := ih (fun q hq => hpaged q (List.mem_cons_of_mem _ hq))
        (fun q hq => hpresent q (List.mem_cons_of_mem _ hq))
        (fun q hq => haddressable q (List.mem_cons_of_mem _ hq))
      cases hactive : c.active with
      | false =>
          simp [takePages, hactive, hrest, received, advanced, Cursor.past_of_not_active hactive]
      | true =>
          obtain ⟨connection, count, hget, hpage⟩ := hpaged (s, c) List.mem_cons_self hactive
          obtain ⟨page, hread, hnodes, hafter⟩ :=
            readPage_of_isPage hpage (hpresent (s, c) List.mem_cons_self)
              (haddressable (s, c) List.mem_cons_self) s.name
          have hitems := itemsUnder_eq hget hpage
          have hc : Cursor.mk c.offset true = c := by cases c; simp_all
          simp only at hget hnodes hafter hitems
          rw [hc, hnodes, ← hitems] at hafter
          simp [takePages, hactive, hget, hread, hrest, received, advanced, hafter, hnodes, hitems]

end Round

/-! ## What a round takes off each list

For one list that goes on at `c` the facts about its page are these four; the cursor after the round
and what remains then follow by arithmetic alone.
-/

/-- A page of a list, without the connection that carried it. -/
structure IsSlice (items : List Json) (pageSize : Nat) (c : Cursor) (page : List Json) : Prop where
  eq : page = (items.drop c.offset).take page.length
  capped : page.length ≤ pageSize
  within : page.length ≤ items.length - c.offset
  nonempty : c.offset < items.length → 0 < page.length

section Slice

variable {held : String → List Json} {pageSize : Nat} {data : Json} {items page : List Json}
  {c : Cursor} {positions : List (PageStream × Cursor)} {p : PageStream × Cursor}

lemma Paged.slice (h : Paged held pageSize data positions) (hp : p ∈ positions)
    (hactive : p.2.active = true) :
    IsSlice (held p.1.name) pageSize p.2 (itemsUnder data p.1.name) := by
  obtain ⟨connection, count, hget, hpage⟩ := h p hp hactive
  have hitems := itemsUnder_eq hget hpage
  have hlength : (itemsUnder data p.1.name).length = count := by
    rw [hitems, List.length_take, List.length_drop]
    exact Nat.min_eq_left hpage.within
  exact ⟨by rw [hlength]; exact hitems, hlength ▸ hpage.capped, hlength ▸ hpage.within,
    fun hlt => hlength ▸ hpage.nonempty hlt⟩

/-- A list that still goes on after a page went on before it, and stands at the end of the page. -/
lemma Cursor.past_active (h : (c.past items page).active = true) :
    c.active = true ∧ (c.past items page).offset = c.offset + page.length ∧
      c.offset + page.length < items.length := by
  unfold Cursor.past at h ⊢
  split at h
  · next hc => exact ⟨hc.1, by rw [if_pos hc], hc.2⟩
  · cases h

lemma Cursor.past_inside (h : c.offset = 0 ∨ c.offset < items.length) (page : List Json) :
    (c.past items page).offset = 0 ∨ (c.past items page).offset < items.length := by
  unfold Cursor.past
  split
  · next hc => exact Or.inr hc.2
  · exact h

/-- **A round takes a page off the front of what remains.** -/
theorem remaining_eq (h : IsSlice items pageSize c page) (hactive : c.active = true) :
    c.remaining items = page ++ (c.past items page).remaining items := by
  have hdrop : items.drop c.offset = page ++ items.drop (c.offset + page.length) := by
    have := List.take_append_drop page.length (items.drop c.offset)
    rw [← h.eq, List.drop_drop] at this
    exact this.symm
  rw [Cursor.remaining, if_pos hactive, hdrop, Cursor.remaining, Cursor.past]
  split
  · rfl
  · next hend =>
      have hle : items.length ≤ c.offset + page.length := by
        simpa [hactive] using hend
      simp [List.drop_eq_nil_of_le hle]

end Slice

/-! ## Rounds one after another -/

section Rounds

variable {ask : Document → Exchange Json} {pageSize fuel : Nat}
  {positions next : List (PageStream × Cursor)} {items found : List PagedItem} {j j' : Journal}

/-- When no list goes on, the run is over, however many rounds are left. -/
lemma pageRounds_of_done (h : ∀ p ∈ positions, p.2.active = false) :
    pageRounds ask pageSize fuel positions items j = (.ok (some items), j) := by
  have hnone : (positions.any fun p => p.2.active) = false := by
    simpa using h
  rw [pageRounds.eq_def]
  simp only [hnone, Bool.false_eq_true, if_false]
  rfl

lemma pageRounds_succ {data : Json} (h : ∃ p ∈ positions, p.2.active = true)
    (hask : ask (pageDocument positions pageSize) j = (.ok data, j'))
    (htake : takePages data pageSize positions = .ok (found, next)) :
    pageRounds ask pageSize (fuel + 1) positions items j =
      pageRounds ask pageSize fuel next (items ++ found) j' := by
  have hany : (positions.any fun p => p.2.active) = true := by
    simpa using h
  rw [pageRounds, if_pos hany, bind_of_ok hask, htake]
  rfl

end Rounds

/-! ## The run from any positions on -/

/-- **A run from given positions on** that reads what remains of every list, page by page. -/
structure RunFrom (held : String → List Json) (pageSize : Nat)
    (positions : List (PageStream × Cursor)) (rounds : List Round) (found : List PagedItem) :
    Prop where
  items_of : ∀ p ∈ positions, (found.filter fun i => i.stream = p.1.name).map PagedItem.node =
    p.2.remaining (held p.1.name)
  stream_of : ∀ i ∈ found, ∃ p ∈ positions, i.stream = p.1.name
  pages_of : ∀ p ∈ positions, (pages rounds p.1.name).flatten = p.2.remaining (held p.1.name)
  pages_nil : ∀ p ∈ positions, pages rounds p.1.name = [] ↔ p.2.active = false
  capped : ∀ p ∈ positions, ∀ page ∈ pages rounds p.1.name, page.length ≤ pageSize
  empty_of : ∀ p ∈ positions, [] ∈ pages rounds p.1.name → held p.1.name = []
  single_of : ∀ p ∈ positions, held p.1.name = [] → (pages rounds p.1.name).length ≤ 1
  keys_of : ∀ (n : Nat) (h : n < rounds.length),
    SelectionSet.keys (rounds[n]).document.selection =
      (positions.filter fun p => n < (pages rounds p.1.name).length).map fun p => p.1.name
  asked_of : ∀ (n : Nat) (h : n < rounds.length), ∀ p ∈ positions,
    n < (pages rounds p.1.name).length →
    (rounds[n]).document.asked? p.1.name =
      some (↑pageSize, ↑(p.2.offset + ((pages rounds p.1.name).take n).flatten.length))
  longest : rounds ≠ [] → ∃ p ∈ positions, (pages rounds p.1.name).length = rounds.length

lemma RunFrom.done {held : String → List Json} {pageSize : Nat}
    {positions : List (PageStream × Cursor)} (h : ∀ p ∈ positions, p.2.active = false) :
    RunFrom held pageSize positions [] [] where
  items_of p hp := by simp [Cursor.remaining, h p hp]
  stream_of i hi := by simp at hi
  pages_of p hp := by simp [pages, Cursor.remaining, h p hp]
  pages_nil p hp := by simp [pages, h p hp]
  capped p _ page hpage := by simp [pages] at hpage
  empty_of p _ hempty := by simp [pages] at hempty
  single_of p _ _ := by simp [pages]
  keys_of n hn := by simp at hn
  asked_of n hn := by simp at hn
  longest hne := absurd rfl hne

section Step

variable {held : String → List Json} {pageSize : Nat} {positions : List (PageStream × Cursor)}
  {data : Json}

lemma stream_of_received {i : PagedItem} (hi : i ∈ received data positions) :
    ∃ p ∈ positions, i.stream = p.1.name := by
  obtain ⟨p, hp, hi⟩ := List.mem_flatMap.mp hi
  split at hi
  · obtain ⟨node, _, rfl⟩ := List.mem_map.mp hi
    exact ⟨p, hp, rfl⟩
  · cases hi

lemma filter_received (hnames : (positions.map fun p => p.1.name).Nodup)
    {p : PageStream × Cursor} (hp : p ∈ positions) :
    ((received data positions).filter fun i => i.stream = p.1.name).map PagedItem.node =
      if p.2.active then itemsUnder data p.1.name else [] := by
  induction positions with
  | nil => cases hp
  | cons q rest ih =>
      obtain ⟨hq, hrest⟩ := List.nodup_cons.mp hnames
      have hsplit : received data (q :: rest) =
          (if q.2.active then (itemsUnder data q.1.name).map (PagedItem.mk q.1.name) else []) ++
            received data rest := List.flatMap_cons
      rw [hsplit, List.filter_append, List.map_append]
      rcases List.mem_cons.mp hp with rfl | hp
      · have hothers : (received data rest).filter (fun i => i.stream = p.1.name) = [] := by
          refine List.filter_eq_nil_iff.mpr fun i hi => ?_
          obtain ⟨q, hqm, hname⟩ := stream_of_received hi
          simp only [decide_eq_true_eq, hname]
          exact fun he => hq (List.mem_map.mpr ⟨q, hqm, he⟩)
        rw [hothers, List.map_nil, List.append_nil]
        cases p.2.active <;> simp [List.filter_map, Function.comp_def]
      · have hne : q.1.name ≠ p.1.name := fun he => hq (List.mem_map.mpr ⟨p, hp, he.symm⟩)
        rw [ih hrest hp]
        cases q.2.active <;> simp [List.filter_map, Function.comp_def, hne]

lemma advanced_map_fst (held : String → List Json) (data : Json)
    (positions : List (PageStream × Cursor)) :
    (advanced held data positions).map Prod.fst = positions.map Prod.fst := by
  rw [advanced, List.map_map]
  rfl

lemma mem_advanced {p : PageStream × Cursor} (hp : p ∈ positions) :
    (p.1, p.2.past (held p.1.name) (itemsUnder data p.1.name)) ∈ advanced held data positions :=
  List.mem_map.mpr ⟨p, hp, rfl⟩

lemma pages_cons (r : Round) (rounds : List Round) (key : String) :
    pages (r :: rounds) key = (r.page? key).toList ++ pages rounds key := by
  rw [pages, List.filterMap_cons]
  cases r.page? key <;> rfl

end Step

/-! ## One more round in front -/

/-- **A round before a run.**  Its query asks for the lists that go on, its reply has a page for
each of them, and the run starts where the reply leaves the lists. -/
structure RoundBefore (held : String → List Json) (pageSize : Nat)
    (positions : List (PageStream × Cursor)) (r : Round) (rounds : List Round)
    (found : List PagedItem) : Prop where
  names : (positions.map fun p => p.1.name).Nodup
  inside : ∀ p ∈ positions, p.2.offset = 0 ∨ p.2.offset < (held p.1.name).length
  goes : ∃ p ∈ positions, p.2.active = true
  keys : SelectionSet.keys r.document.selection =
    (positions.filter fun p => p.2.active).map fun p => p.1.name
  asked : ∀ p ∈ positions, r.document.asked? p.1.name =
    if p.2.active then some (↑pageSize, ↑p.2.offset) else none
  paged : Paged held pageSize r.data positions
  run : RunFrom held pageSize (advanced held r.data positions) rounds found

namespace RoundBefore

variable {held : String → List Json} {pageSize : Nat} {positions : List (PageStream × Cursor)}
  {r : Round} {rounds : List Round} {found : List PagedItem} {p : PageStream × Cursor}
  (h : RoundBefore held pageSize positions r rounds found)

include h

/-- The pages of a list: that of the round and the later ones, or none when it is at its end. -/
lemma pages_eq (hp : p ∈ positions) : pages (r :: rounds) p.1.name =
    if p.2.active then itemsUnder r.data p.1.name :: pages rounds p.1.name else [] := by
  rw [pages_cons, Round.page?, h.asked p hp]
  cases hactive : p.2.active with
  | true => rfl
  | false =>
      have hended : pages rounds p.1.name = [] := by
        refine (h.run.pages_nil _ (mem_advanced hp)).mpr ?_
        rw [Cursor.past_of_not_active hactive, hactive]
      simp [hended]

lemma pages_of_not_active (hp : p ∈ positions) (hactive : p.2.active = false) :
    pages (r :: rounds) p.1.name = [] := by
  rw [h.pages_eq hp, hactive, if_neg Bool.false_ne_true]

/-- A list with a page after the round went on before it and after it. -/
lemma past_active (hp : p ∈ positions) (hne : pages rounds p.1.name ≠ []) :
    p.2.active = true ∧
      (p.2.past (held p.1.name) (itemsUnder r.data p.1.name)).offset =
        p.2.offset + (itemsUnder r.data p.1.name).length ∧
      p.2.offset + (itemsUnder r.data p.1.name).length < (held p.1.name).length :=
  Cursor.past_active <| Bool.of_not_eq_false fun hend =>
    hne ((h.run.pages_nil _ (mem_advanced hp)).mpr hend)

lemma lt_pages_iff (hp : p ∈ positions) (n : Nat) :
    n + 1 < (pages (r :: rounds) p.1.name).length ↔ n < (pages rounds p.1.name).length := by
  rw [h.pages_eq hp]
  cases hactive : p.2.active with
  | true => simp
  | false =>
      have hended : pages rounds p.1.name = [] := by
        by_contra hne
        have hgoes := (h.past_active hp hne).1
        rw [hactive] at hgoes
        exact Bool.false_ne_true hgoes
      simp [hended]

/-- What remains of a list is the page of the round and what remains after it. -/
lemma remaining (hp : p ∈ positions) : p.2.remaining (held p.1.name) =
    (if p.2.active then itemsUnder r.data p.1.name else []) ++
      (p.2.past (held p.1.name) (itemsUnder r.data p.1.name)).remaining (held p.1.name) := by
  cases hactive : p.2.active with
  | true => exact remaining_eq (h.paged.slice hp hactive) hactive
  | false => simp [Cursor.remaining, Cursor.past_of_not_active hactive, hactive]

lemma items_of (hp : p ∈ positions) :
    (((received r.data positions ++ found).filter fun i => i.stream = p.1.name).map
      PagedItem.node) = p.2.remaining (held p.1.name) := by
  rw [List.filter_append, List.map_append, filter_received h.names hp,
    h.run.items_of _ (mem_advanced hp), h.remaining hp]

lemma pages_of (hp : p ∈ positions) :
    (pages (r :: rounds) p.1.name).flatten = p.2.remaining (held p.1.name) := by
  rw [h.pages_eq hp, h.remaining hp]
  cases hactive : p.2.active with
  | true =>
      rw [if_pos rfl, if_pos rfl, List.flatten_cons, h.run.pages_of _ (mem_advanced hp)]
  | false => simp [Cursor.remaining, Cursor.past_of_not_active hactive, hactive]

lemma stream_of {i : PagedItem} (hi : i ∈ received r.data positions ++ found) :
    ∃ p ∈ positions, i.stream = p.1.name := by
  rcases List.mem_append.mp hi with hi | hi
  · exact stream_of_received hi
  · obtain ⟨q, hq, hname⟩ := h.run.stream_of i hi
    obtain ⟨p, hp, rfl⟩ := List.mem_map.mp hq
    exact ⟨p, hp, hname⟩

/-- A page of a list is that of the round or a later one. -/
lemma mem_pages {page : List Json} (hp : p ∈ positions)
    (hpage : page ∈ pages (r :: rounds) p.1.name) :
    p.2.active = true ∧ (page = itemsUnder r.data p.1.name ∨ page ∈ pages rounds p.1.name) := by
  cases hactive : p.2.active with
  | true =>
      rw [h.pages_eq hp, hactive, if_pos rfl] at hpage
      exact ⟨rfl, List.mem_cons.mp hpage⟩
  | false =>
      rw [h.pages_of_not_active hp hactive] at hpage
      cases hpage

lemma capped {page : List Json} (hp : p ∈ positions)
    (hpage : page ∈ pages (r :: rounds) p.1.name) : page.length ≤ pageSize := by
  obtain ⟨hactive, rfl | hlater⟩ := h.mem_pages hp hpage
  · exact (h.paged.slice hp hactive).capped
  · exact h.run.capped _ (mem_advanced hp) page hlater

lemma empty_of (hp : p ∈ positions) (hempty : [] ∈ pages (r :: rounds) p.1.name) :
    held p.1.name = [] := by
  obtain ⟨hactive, hpage | hlater⟩ := h.mem_pages hp hempty
  · have hslice := h.paged.slice hp hactive
    rw [← hpage] at hslice
    have hend := mt hslice.nonempty (Nat.lt_irrefl 0)
    have hinside := h.inside p hp
    exact List.eq_nil_of_length_eq_zero (by omega)
  · have hrest := h.run.empty_of _ (mem_advanced hp)
    exact hrest hlater

lemma single_of (hp : p ∈ positions) (hheld : held p.1.name = []) :
    (pages (r :: rounds) p.1.name).length ≤ 1 := by
  have hlast : pages rounds p.1.name = [] := by
    by_contra hne
    have hlt := (h.past_active hp hne).2.2
    simp [hheld] at hlt
  rw [h.pages_eq hp, hlast]
  cases p.2.active <;> simp

lemma keys_of : ∀ (n : Nat) (hn : n < (r :: rounds).length),
    SelectionSet.keys ((r :: rounds)[n]).document.selection =
      (positions.filter fun p => n < (pages (r :: rounds) p.1.name).length).map fun p => p.1.name
  | 0, _ => by
      have hfirst : (positions.filter fun p => p.2.active) = positions.filter fun p =>
          0 < (pages (r :: rounds) p.1.name).length := by
        refine List.filter_congr fun p hp => ?_
        rw [h.pages_eq hp]
        cases p.2.active <;> simp
      rw [← hfirst]
      exact h.keys
  | n + 1, hn => by
      have hrest := h.run.keys_of n (Nat.lt_of_succ_lt_succ hn)
      have hsame : (positions.filter fun p =>
          n + 1 < (pages (r :: rounds) p.1.name).length) =
            positions.filter fun p => n < (pages rounds p.1.name).length :=
        List.filter_congr fun p hp => decide_eq_decide.mpr (h.lt_pages_iff hp n)
      rw [advanced, List.filter_map, List.map_map] at hrest
      rw [List.getElem_cons_succ, hrest, hsame]
      rfl

lemma asked_of (hp : p ∈ positions) : ∀ (n : Nat) (hn : n < (r :: rounds).length),
    n < (pages (r :: rounds) p.1.name).length →
    ((r :: rounds)[n]).document.asked? p.1.name = some (↑pageSize,
      ↑(p.2.offset + ((pages (r :: rounds) p.1.name).take n).flatten.length))
  | 0, _, hlt => by
      have hactive : p.2.active = true := by
        by_contra hne
        rw [h.pages_of_not_active hp (Bool.eq_false_iff.mpr hne)] at hlt
        exact Nat.not_lt_zero _ hlt
      simp [h.asked p hp, hactive]
  | n + 1, hn, hlt => by
      have hlt' := (h.lt_pages_iff hp n).mp hlt
      obtain ⟨hactive, hoffset, _⟩ :=
        h.past_active hp (List.ne_nil_of_length_pos (by omega))
      have hrest := h.run.asked_of n (Nat.lt_of_succ_lt_succ hn) _ (mem_advanced hp) hlt'
      rw [List.getElem_cons_succ, hrest, h.pages_eq hp, if_pos hactive, List.take_succ_cons,
        List.flatten_cons, List.length_append, hoffset, Nat.add_assoc]

lemma longest : ∃ p ∈ positions, (pages (r :: rounds) p.1.name).length = (r :: rounds).length := by
  by_cases hrounds : rounds = []
  · obtain ⟨p, hp, hactive⟩ := h.goes
    refine ⟨p, hp, ?_⟩
    rw [h.pages_eq hp, if_pos hactive, hrounds]
    rfl
  · obtain ⟨q, hq, hlength⟩ := h.run.longest hrounds
    obtain ⟨p, hp, rfl⟩ := List.mem_map.mp hq
    have hne : pages rounds p.1.name ≠ [] := by
      refine List.ne_nil_of_length_pos ?_
      rw [hlength]
      exact List.length_pos_iff.mpr hrounds
    refine ⟨p, hp, ?_⟩
    rw [h.pages_eq hp, if_pos (h.past_active hp hne).1, List.length_cons, hlength,
      List.length_cons]

/-- **The round and the run after it are one run.** -/
theorem runFrom : RunFrom held pageSize positions (r :: rounds)
    (received r.data positions ++ found) where
  items_of _ hp := h.items_of hp
  stream_of _ hi := h.stream_of hi
  pages_of _ hp := h.pages_of hp
  pages_nil p hp := by
    rw [h.pages_eq hp]
    cases p.2.active <;> simp
  capped _ hp _ hpage := h.capped hp hpage
  empty_of _ hp hempty := h.empty_of hp hempty
  single_of _ hp hheld := h.single_of hp hheld
  keys_of := h.keys_of
  asked_of n hn _ hp hlt := h.asked_of hp n hn hlt
  longest _ := h.longest

end RoundBefore

/-! ## The whole run -/

lemma Recorded.nil (c : Client) (j : Journal) : Recorded c j [] j :=
  ⟨by simp, rfl, rfl, fun r hr => by cases hr⟩

lemma Recorded.cons {c : Client} {j j' : Journal} {r : Round} {rounds : List Round}
    (hdata : dataOf r.outcome = some r.data)
    (h : Recorded c (j.answered (r.attempt c)) rounds j') : Recorded c j (r :: rounds) j' where
  attempts := by simp [h.attempts]
  pauses := by simp [h.pauses]
  sent := by
    rw [h.sent, Journal.answered_sent, List.length_cons]
    omega
  data q hq := by
    rcases List.mem_cons.mp hq with rfl | hq
    · exact hdata
    · exact h.data q hq

section Run

variable {c : Client} {net : Network} {streams : List PageStream} {pageSize : Nat}
  {held : String → List Json}

/-- The action that carries out the query of a round. -/
def asking (c : Client) (net : Network) : Document → Exchange Json :=
  fun d => c.executeDocumentStrict net d true

/-- From these positions on, the run ends after some rounds, however many more are allowed. -/
def EndsFrom (c : Client) (net : Network) (pageSize : Nat) (held : String → List Json)
    (positions : List (PageStream × Cursor)) (items : List PagedItem) (j : Journal) : Prop :=
  ∃ rounds found j',
    (∀ fuel, rounds.length ≤ fuel → pageRounds (asking c net) pageSize fuel positions items j =
      (.ok (some (items ++ found)), j')) ∧
    Recorded c j rounds j' ∧ RunFrom held pageSize positions rounds found

lemma EndsFrom.done {positions : List (PageStream × Cursor)} {items : List PagedItem} {j : Journal}
    (hdone : ∀ p ∈ positions, p.2.active = false) :
    EndsFrom c net pageSize held positions items j :=
  ⟨[], [], j, fun fuel _ => by simp [pageRounds_of_done hdone], Recorded.nil c j,
    RunFrom.done hdone⟩

/-- The round that a server carries out: its reply, and what it means. -/
lemma round_served (hserver : Serves c net streams pageSize held)
    (hnames : (streams.map PageStream.name).Nodup)
    (hargs : ∀ s ∈ streams, "first" ∉ Entries.keys s.arguments ∧ "skip" ∉ Entries.keys s.arguments)
    {positions : List (PageStream × Cursor)} (j : Journal)
    (hstreams : positions.map Prod.fst = streams)
    (hinside : ∀ p ∈ positions, p.2.offset = 0 ∨ p.2.offset < (held p.1.name).length) :
    ∃ data, dataOf (net.answer j.attempts (c.requestFor (pageDocument positions pageSize))) =
        some data ∧
      Paged held pageSize data positions ∧
      takePages data pageSize positions =
        .ok (received data positions, advanced held data positions) ∧
      SelectionSet.keys (pageDocument positions pageSize).selection =
        (positions.filter fun p => p.2.active).map (fun p => p.1.name) ∧
      ∀ p ∈ positions, (pageDocument positions pageSize).asked? p.1.name =
        if p.2.active then some (↑pageSize, ↑p.2.offset) else none := by
  have hmem : ∀ p ∈ positions, p.1 ∈ streams := fun p hp =>
    hstreams ▸ List.mem_map.mpr ⟨p, hp, rfl⟩
  have hnames' : (positions.map fun p => p.1.name).Nodup := by
    rwa [← hstreams, List.map_map] at hnames
  obtain ⟨data, hdata, hanswers⟩ := hserver.answers j.attempts positions hstreams hinside
  have hasked : ∀ p ∈ positions, (pageDocument positions pageSize).asked? p.1.name =
      if p.2.active then some (↑pageSize, ↑p.2.offset) else none := by
    intro p hp
    refine asked?_pageDocument hnames' hp (hargs p.1 (hmem p hp)) ?_
    have hlength := hserver.addressable p.1 (hmem p hp)
    have hpos : 0 < Nat.pow 2 63 := by decide
    have := hinside p hp
    omega
  have hpaged : Paged held pageSize data positions := fun p hp hactive =>
    hanswers p.1.name pageSize p.2.offset (by rw [hasked p hp, if_pos hactive])
  exact ⟨data, hdata, hpaged,
    takePages_served hpaged (fun p hp => hserver.present p.1 (hmem p hp))
      (fun p hp => hserver.addressable p.1 (hmem p hp)),
    keys_pageDocument hnames' pageSize, hasked⟩

/-- **The run ends.**  By induction on a bound for the number of items that remain of any list that
goes on: every such list loses an item in a round or comes to its end. -/
theorem run_served (hserver : Serves c net streams pageSize held)
    (hnames : (streams.map PageStream.name).Nodup)
    (hargs : ∀ s ∈ streams, "first" ∉ Entries.keys s.arguments ∧ "skip" ∉ Entries.keys s.arguments)
    (bound : Nat) (positions : List (PageStream × Cursor)) (items : List PagedItem) (j : Journal)
    (hstreams : positions.map Prod.fst = streams)
    (hinside : ∀ p ∈ positions, p.2.offset = 0 ∨ p.2.offset < (held p.1.name).length)
    (hbound : ∀ p ∈ positions, p.2.active = true →
      (held p.1.name).length - p.2.offset < bound) :
    EndsFrom c net pageSize held positions items j := by
  induction bound generalizing positions items j with
  | zero =>
      exact EndsFrom.done fun p hp =>
        Bool.eq_false_iff.mpr fun h => Nat.not_lt_zero _ (hbound p hp h)
  | succ bound ih =>
      by_cases hgoes : ∃ p ∈ positions, p.2.active = true
      · obtain ⟨data, hdata, hpaged, htake, hkeys, hasked⟩ :=
          round_served hserver hnames hargs j hstreams hinside
        have hask := executeDocumentStrict_of_dataOf j (pageDocument positions pageSize) true hdata
        have hinside' : ∀ q ∈ advanced held data positions,
            q.2.offset = 0 ∨ q.2.offset < (held q.1.name).length := by
          intro q hq
          obtain ⟨p, hp, rfl⟩ := List.mem_map.mp hq
          exact Cursor.past_inside (hinside p hp) _
        have hbound' : ∀ q ∈ advanced held data positions, q.2.active = true →
            (held q.1.name).length - q.2.offset < bound := by
          intro q hq hactive
          obtain ⟨p, hp, rfl⟩ := List.mem_map.mp hq
          obtain ⟨hbefore, hoffset, hlt⟩ := Cursor.past_active hactive
          have hpos := (hpaged.slice hp hbefore).nonempty (by omega)
          have := hbound p hp hbefore
          simp only [hoffset]
          omega
        obtain ⟨rounds, found, j', hrest, hrecorded, hrun⟩ :=
          ih (advanced held data positions) (items ++ received data positions) _
            (by rw [advanced_map_fst, hstreams]) hinside' hbound'
        have hnames' : (positions.map fun p => p.1.name).Nodup := by
          rwa [← hstreams, List.map_map] at hnames
        refine ⟨⟨pageDocument positions pageSize, _, data⟩ :: rounds,
          received data positions ++ found, j', ?_, Recorded.cons hdata hrecorded,
          RoundBefore.runFrom ⟨hnames', hinside, hgoes, hkeys, hasked, hpaged, hrun⟩⟩
        intro fuel hfuel
        obtain ⟨fuel, rfl⟩ : ∃ n, fuel = n + 1 := ⟨fuel - 1, by simp at hfuel; omega⟩
        rw [pageRounds_succ hgoes hask htake, ← List.append_assoc]
        exact hrest fuel (by simpa using hfuel)
      · exact EndsFrom.done fun p hp => Bool.eq_false_iff.mpr fun h => hgoes ⟨p, hp, h⟩

lemma le_foldr_max {lengths : List Nat} {l : Nat} (hl : l ∈ lengths) :
    l ≤ lengths.foldr max 0 := by
  induction lengths with
  | nil => cases hl
  | cons k rest ih =>
      rw [List.foldr_cons]
      rcases List.mem_cons.mp hl with rfl | hl
      · exact Nat.le_max_left _ _
      · exact Nat.le_trans (ih hl) (Nat.le_max_right _ _)

lemma foldr_max_le {lengths : List Nat} {n : Nat} (hle : ∀ l ∈ lengths, l ≤ n) :
    lengths.foldr max 0 ≤ n := by
  induction lengths with
  | nil => exact Nat.zero_le n
  | cons l rest ih =>
      exact Nat.max_le.mpr ⟨hle l List.mem_cons_self,
        ih fun k hk => hle k (List.mem_cons_of_mem _ hk)⟩

/-- A run from the front of all lists, seen from outside. -/
lemma RunFrom.complete {rounds : List Round} {items : List PagedItem}
    (h : RunFrom held pageSize (startStreams streams) rounds items) :
    CompleteRun streams pageSize held rounds items := by
  have hstart : ∀ s ∈ streams, (s, Cursor.start) ∈ startStreams streams := fun s hs =>
    List.mem_map.mpr ⟨s, hs, rfl⟩
  have hremaining : ∀ items : List Json, Cursor.start.remaining items = items := fun _ => rfl
  have hnonempty : ∀ s ∈ streams, pages rounds s.name ≠ [] := fun s hs hnil =>
    Bool.noConfusion ((h.pages_nil _ (hstart s hs)).mp hnil)
  constructor
  case items_of => exact fun s hs => (h.items_of _ (hstart s hs)).trans (hremaining _)
  case stream_of =>
    intro i hi
    obtain ⟨p, hp, hname⟩ := h.stream_of i hi
    obtain ⟨s, hs, rfl⟩ := List.mem_map.mp hp
    exact ⟨s, hs, hname⟩
  case pages_of =>
    intro s hs
    have hflatten : (pages rounds s.name).flatten = held s.name :=
      (h.pages_of _ (hstart s hs)).trans (hremaining _)
    refine ⟨hflatten, h.capped _ (hstart s hs), ?_⟩
    split
    · next hheld =>
        have hsingle := h.single_of _ (hstart s hs) hheld
        obtain ⟨page, hpage⟩ := List.length_eq_one_iff.mp
          (Nat.le_antisymm hsingle (List.length_pos_iff.mpr (hnonempty s hs)))
        rw [hpage, hheld, List.flatten_singleton] at hflatten
        rw [hpage, hflatten]
    · next hheld => exact fun hempty => hheld (h.empty_of _ (hstart s hs) hempty)
  case keys_of =>
    intro n hn
    rw [h.keys_of n hn, startStreams, List.filter_map, List.map_map]
    rfl
  case asked_of =>
    intro n hn s hs hlt
    rw [h.asked_of n hn _ (hstart s hs) hlt]
    simp [Cursor.start]
  case rounds_of =>
    refine Nat.le_antisymm ?_ (foldr_max_le fun l hl => ?_)
    · by_cases hrounds : rounds = []
      · simp [hrounds]
      · obtain ⟨p, hp, hlength⟩ := h.longest hrounds
        obtain ⟨s, hs, rfl⟩ := List.mem_map.mp hp
        exact le_foldr_max (List.mem_map.mpr ⟨s, hs, hlength⟩)
    · obtain ⟨s, _, rfl⟩ := List.mem_map.mp hl
      exact List.length_filterMap_le _ _

/-- **Reading page by page loses and repeats nothing.**  Against a server of pages the run ends
well, whatever its pages are.  Every list is read in full, in order and once; every round asks
exactly the lists that have a page left, each from the end of its last page; and there are as many
requests as the list with most pages has pages. -/
theorem paginate_complete (c : Client) (net : Network) (streams : List PageStream) (pageSize : Nat)
    (held : String → List Json) (j : Journal)
    (hnames : (streams.map PageStream.name).Nodup)
    (hargs : ∀ s ∈ streams, "first" ∉ Entries.keys s.arguments ∧ "skip" ∉ Entries.keys s.arguments)
    (hserver : Serves c net streams pageSize held) :
    ∃ rounds items j',
      (∀ fuel, rounds.length ≤ fuel →
        c.paginate net streams pageSize fuel j = (.ok (some items), j')) ∧
      Recorded c j rounds j' ∧ CompleteRun streams pageSize held rounds items := by
  have hfst : (startStreams streams).map Prod.fst = streams := by
    rw [startStreams, List.map_map]
    exact List.map_id streams
  have hinside : ∀ p ∈ startStreams streams,
      p.2.offset = 0 ∨ p.2.offset < (held p.1.name).length := by
    intro p hp
    obtain ⟨s, _, rfl⟩ := List.mem_map.mp hp
    exact Or.inl rfl
  have hbound : ∀ p ∈ startStreams streams, p.2.active = true →
      (held p.1.name).length - p.2.offset <
        (streams.map fun s => (held s.name).length).foldr max 0 + 1 := by
    intro p hp _
    obtain ⟨s, hs, rfl⟩ := List.mem_map.mp hp
    exact Nat.lt_succ_of_le (le_foldr_max (List.mem_map.mpr ⟨s, hs, rfl⟩))
  obtain ⟨rounds, items, j', hends, hrecorded, hrun⟩ :=
    run_served hserver hnames hargs _ (startStreams streams) [] j hfst hinside hbound
  exact ⟨rounds, items, j', hends, hrecorded, hrun.complete⟩

end Run

/-! ### A small server

It holds three posts and no authors.  Its first page of posts is capped to one post; the second has
the two posts that were asked for and does not say so.
-/

section Small

/-- Three posts and no authors. -/
def smallHeld (key : String) : List Json :=
  if key = "posts" then [.string "a", .string "b", .string "c"] else []

/-- The posts in draft, and the authors. -/
def smallStreams : List PageStream :=
  [⟨"posts", "postsConnection", [("stage", .enum "DRAFT")], [.field "id"]⟩,
    ⟨"authors", "authorsConnection", [], [.field "id"]⟩]

/-- An edge with a node. -/
def smallEdge (node : String) : Json := .object [("node", .string node)]

/-- The page of posts that begins at a position. -/
def smallPosts (skip : Nat) : Json :=
  if skip = 0 then
    .object [("edges", .array [smallEdge "a"]),
      ("pageInfo", .object [("hasNextPage", .bool true), ("pageSize", .int 1)])]
  else if skip = 1 then
    .object [("edges", .array [smallEdge "b", smallEdge "c"]),
      ("pageInfo", .object [("hasNextPage", .bool false)])]
  else
    .object [("edges", .array [smallEdge "c"]),
      ("pageInfo", .object [("hasNextPage", .bool false), ("pageSize", .int 1)])]

/-- The empty page of authors. -/
def smallAuthors : Json :=
  .object [("edges", .array []), ("pageInfo", .object [("pageSize", .int 0)])]

/-- The data of a reply about the posts from a position on. -/
def smallData (skip : Nat) : Json :=
  .object [("posts", smallPosts skip), ("authors", smallAuthors)]

/-- The first position that a request body asks for. -/
def smallSkip : List Char → Nat
  | 's' :: 'k' :: 'i' :: 'p' :: ':' :: ' ' :: c :: _ => c.toNat - '0'.toNat
  | _ :: rest => smallSkip rest
  | [] => 0

/-- A reply about the posts from a position on. -/
def smallReply (skip : Nat) : Outcome :=
  .replied ⟨200, none, (Json.object [("data", smallData skip)]).render.toUTF8⟩

/-- The server. -/
def smallNetwork : Network where
  answer _ request := smallReply (smallSkip request.body.toList)
  draw _ := 0

/-- A client of the server. -/
def smallClient : Client := ⟨"https://content", [], .seconds 30, .default⟩

lemma smallPosts_isPage {skip : Nat} (h : skip < 3) :
    ∃ count, IsPage (smallHeld "posts") 2 skip count (smallPosts skip) := by
  have hcases : skip = 0 ∨ skip = 1 ∨ skip = 2 := by omega
  rcases hcases with rfl | rfl | rfl
  · exact ⟨1, by decide, by decide, by decide, ⟨_, rfl, by decide⟩, by decide, Or.inl rfl⟩
  · exact ⟨2, by decide, by decide, by decide, ⟨_, rfl, by decide⟩, by decide,
      Or.inr ⟨rfl, fun n _ => by simp [smallPosts, pageInfo?, Json.get?, Entries.get?]⟩⟩
  · exact ⟨1, by decide, by decide, by decide, ⟨_, rfl, by decide⟩, by decide, Or.inl rfl⟩

lemma smallAuthors_isPage : IsPage (smallHeld "authors") 2 0 0 smallAuthors :=
  ⟨by decide, by decide, by decide, ⟨_, rfl, by decide⟩, by decide, Or.inl rfl⟩

/-- The position of the posts decides the reply, if they are asked for. -/
lemma smallSkip_body : ∀ (skip : Fin 3) (posts authors : Bool),
    smallSkip (Envelope.ofDocument (pageDocument
      (smallStreams.zip [⟨skip, posts⟩, ⟨0, authors⟩]) 2)).render.toList =
        if posts then skip else 0 := by
  intro skip posts authors
  rw [toList_render_ofDocument rfl]
  simp only [Json.chars, Json.charsMembers, Document.render, String.toList_ofList]
  decide +revert +kernel

lemma dataOf_smallReply : ∀ skip : Fin 3, dataOf (smallReply skip) = some (smallData skip) := by
  intro skip
  simp only [smallReply, dataOf, Json.ofBytes_render]
  decide +revert +kernel

lemma smallStreams_names {posts authors : Cursor} :
    ((smallStreams.zip [posts, authors]).map fun p => p.1.name).Nodup := by
  simp [smallStreams]

lemma smallStreams_arguments : ∀ s ∈ smallStreams,
    "first" ∉ Entries.keys s.arguments ∧ "skip" ∉ Entries.keys s.arguments := by
  simp [smallStreams, Entries.keys]

lemma smallNetwork_serves : Serves smallClient smallNetwork smallStreams 2 smallHeld where
  present := by decide
  addressable := by decide
  answers history positions hstreams hinside := by
    obtain ⟨⟨skip, posts⟩, ⟨start, authors⟩, rfl⟩ : ∃ posts authors,
        positions = smallStreams.zip [posts, authors] := by
      rcases positions with _ | ⟨⟨s, posts⟩, _ | ⟨⟨t, authors⟩, _ | ⟨p, rest⟩⟩⟩
      · cases hstreams
      · cases hstreams
      · cases hstreams
        exact ⟨posts, authors, rfl⟩
      · cases hstreams
    have hskip : skip < 3 := by
      have := hinside (smallStreams[0], ⟨skip, posts⟩) List.mem_cons_self
      simp [smallStreams, smallHeld] at this
      omega
    have hstart : start = 0 := by
      have := hinside (smallStreams[1], ⟨start, authors⟩) (by simp [smallStreams])
      simpa [smallStreams, smallHeld] using this
    subst hstart
    refine ⟨smallData (if posts then skip else 0), ?_, ?_⟩
    · have hbody := smallSkip_body ⟨skip, hskip⟩ posts authors
      simp only [smallNetwork, Client.requestFor, Client.request, hbody]
      cases posts
      · exact dataOf_smallReply 0
      · exact dataOf_smallReply ⟨skip, hskip⟩
    · intro key first position hasked
      obtain ⟨p, hp, hactive, rfl⟩ := exists_of_asked? smallStreams_names hasked
      have hargs : "first" ∉ Entries.keys p.1.arguments ∧ "skip" ∉ Entries.keys p.1.arguments :=
        smallStreams_arguments p.1 (List.of_mem_zip hp).1
      have hcases : p = (smallStreams[0], ⟨skip, posts⟩) ∨ p = (smallStreams[1], ⟨0, authors⟩) := by
        simpa [smallStreams] using hp
      rw [asked?_pageDocument smallStreams_names hp hargs (by
        rcases hcases with rfl | rfl
        · exact Nat.lt_trans hskip (by decide)
        · exact Nat.pow_pos (by decide)), if_pos hactive] at hasked
      rcases hcases with rfl | rfl
      · obtain ⟨rfl, rfl⟩ : first = 2 ∧ position = skip := by
          simp at hasked
          omega
        obtain ⟨count, hpage⟩ := smallPosts_isPage hskip
        simp only at hactive
        exact ⟨smallPosts position, count, by rw [hactive]; rfl, hpage⟩
      · obtain ⟨rfl, rfl⟩ : first = 2 ∧ position = 0 := by
          simp at hasked
          omega
        exact ⟨smallAuthors, 0, rfl, smallAuthors_isPage⟩

end Small

/-- The small server is read in full. -/
theorem paginate_complete_small :
    (smallStreams.map PageStream.name).Nodup ∧
    Serves smallClient smallNetwork smallStreams 2 smallHeld ∧
    ∃ rounds items j',
      (∀ fuel, rounds.length ≤ fuel →
        smallClient.paginate smallNetwork smallStreams 2 fuel .empty = (.ok (some items), j')) ∧
      Recorded smallClient .empty rounds j' ∧
      CompleteRun smallStreams 2 smallHeld rounds items :=
  ⟨by decide, smallNetwork_serves,
    paginate_complete smallClient smallNetwork smallStreams 2 smallHeld .empty (by decide)
      smallStreams_arguments smallNetwork_serves⟩

end ContentSync.GraphQL
