import ContentSync.Proofs.QuotedTexts
import ContentSync.Proofs.UpdateOrder
import Mathlib.Data.List.Induction
import Mathlib.Logic.Function.Iterate

/-!
# Notifications that are followed at the same time

Following a notification takes a step for the copy that is kept, one for each read, and one for the
copy that is written.  Between the steps of one notification those of another may take place.  When
the two are about different items, this changes nothing: neither writes what the other looks up, and
a read of one item does not count as a read of the other.

* `Progress`, `Source.advance` — how far a notification has been followed, and one more step.
* `advance_iterate` — all steps without a break are the whole operation.
* `SteadyReads` — reads that depend on the item and on how often it was read before.
* `advance_changes`, `advance_depends` — what one step changes and what it depends on.
* `Together`, `Source.takeTurns` — several notifications that take turns.
* `together_apart` — each of them goes as it would alone, by induction on the turns.
* `applyNotification_interleaved` — two notifications in either order and in any interleaving.
-/

namespace ContentSync

open Http (Network)

/-! ## Steps -/

/-- **How far a notification has been followed.** -/
inductive Progress where
  /-- Nothing was done yet. -/
  | waiting
  /-- The copy that is kept was looked up.  Read number `attempt` comes next, and `further` reads
  may follow it; `steps` were done before it. -/
  | reading (schema : Schema) (cached : Option Item) (further attempt : Nat) (steps : List RunStep)
  /-- An item is to be removed. -/
  | removing
  /-- What the reads gave is to be written. -/
  | writing (report : Report)
  | ended (result : Except SyncError (Option Update))

/-- What comes after a read that is judged. -/
def Progress.afterRead (schema : Schema) (cached : Option Item) (steps : List RunStep)
    (further attempt : Nat) : Judgement → Progress
  | .done result warnings => .writing ⟨result, steps, warnings⟩
  | .again =>
      match further with
      | 0 => .writing ⟨.absent, steps, []⟩
      | further + 1 => .reading schema cached further (attempt + 1) steps

namespace Source

/-- **One step of following a notification.** -/
def advance (source : Source) (net : Network) (n : Notification) :
    Progress × SourceState → Progress × SourceState
  | (.waiting, s) =>
      if n.change = .delete then (.removing, s)
      else
        let (schema, s) := source.schema net s
        match n.lookup schema s.cache with
        | .error e => (.ended (.error e), s)
        | .ok cached => (.reading schema cached (source.policy.maxAttempts - 1) 1 [], s)
  | (.reading schema cached further attempt steps, s) =>
      let read := source.readOnce net schema n.reference s.log
      (.afterRead schema cached (steps ++ stepsOfRead source.policy attempt) further attempt
        (judge n.change cached further read.1), { s with log := read.2 })
  | (.removing, s) =>
      (.ended (.ok (s.cache.followRemoval n.reference).update),
        record (s.cache.followRemoval n.reference) s)
  | (.writing report, s) =>
      (.ended (.ok (s.cache.followReads report).update), record (s.cache.followReads report) s)
  | (.ended result, s) => (.ended result, s)

/-- The number of steps that suffice: the look-up, the reads and the write. -/
def stepsAllowed (source : Source) : Nat := max source.policy.maxAttempts 1 + 2

end Source

section Alone

variable {source : Source} {net : Network} {n : Notification}

/-- Nothing comes after the end. -/
lemma advance_ended (result : Except SyncError (Option Update)) (s : SourceState) (k : Nat) :
    (source.advance net n)^[k] (.ended result, s) = (.ended result, s) :=
  Function.iterate_fixed rfl k

/-- An end that is reached after some steps is reached after more of them, too. -/
lemma advance_ended_of_le {x : Progress × SourceState} {result : Except SyncError (Option Update)}
    {s : SourceState} {k m : Nat} (h : (source.advance net n)^[k] x = (.ended result, s))
    (hle : k ≤ m) : (source.advance net n)^[m] x = (.ended result, s) := by
  obtain ⟨d, rfl⟩ := Nat.exists_eq_add_of_le' hle
  rw [Function.iterate_add_apply, h, advance_ended]

/-- One read. -/
lemma advance_reading {schema : Schema} {s : SourceState} {r : Read} {log : ApiLog}
    (hread : source.readOnce net schema n.reference s.log = (r, log)) (cached : Option Item)
    (further attempt : Nat) (steps : List RunStep) :
    source.advance net n (.reading schema cached further attempt steps, s) =
      (.afterRead schema cached (steps ++ stepsOfRead source.policy attempt) further attempt
        (judge n.change cached further r), { s with log := log }) := by
  rw [Source.advance, hread]

/-- **The steps of a run of reads.**  The induction is on the reads that may follow. -/
lemma advance_reads (schema : Schema) (cached : Option Item) (further : Nat) :
    ∀ (attempt : Nat) (steps : List RunStep) (s : SourceState) (report : Report) (log : ApiLog),
      readsFrom source.policy n.change cached (source.readOnce net schema n.reference)
        further attempt s.log = (report, log) →
      ∃ k ≤ further + 1,
        (source.advance net n)^[k] (.reading schema cached further attempt steps, s) =
          (.writing ⟨report.result, steps ++ report.steps, report.warnings⟩,
            { s with log := log }) := by
  induction further with
  | zero =>
      intro attempt steps s report log hrun
      rcases hread : source.readOnce net schema n.reference s.log with ⟨r, log₁⟩
      refine ⟨1, Nat.le_refl 1, ?_⟩
      rw [Function.iterate_one, advance_reading hread]
      rw [readsFrom, hread] at hrun
      dsimp only at hrun
      cases hjudge : judge n.change cached 0 r <;>
        (rw [hjudge] at hrun; cases hrun; rfl)
  | succ further ih =>
      intro attempt steps s report log hrun
      rcases hread : source.readOnce net schema n.reference s.log with ⟨r, log₁⟩
      rw [readsFrom, hread] at hrun
      dsimp only at hrun
      cases hjudge : judge n.change cached (further + 1) r with
      | done result warnings =>
          refine ⟨1, Nat.succ_pos _, ?_⟩
          rw [Function.iterate_one, advance_reading hread, hjudge]
          rw [hjudge] at hrun
          cases hrun
          rfl
      | again =>
          rw [hjudge] at hrun
          cases hrun
          obtain ⟨k, hk, hrest⟩ := ih (attempt + 1) (steps ++ stepsOfRead source.policy attempt)
            { s with log := log₁ } _ _ rfl
          refine ⟨k + 1, Nat.succ_le_succ hk, ?_⟩
          rw [Function.iterate_succ_apply, advance_reading hread, hjudge]
          refine hrest.trans ?_
          rw [List.append_assoc]

/-- **All steps without a break are the whole operation.** -/
theorem advance_iterate (source : Source) (net : Network) (n : Notification) (s : SourceState) :
    (source.advance net n)^[source.stepsAllowed] (.waiting, s) =
      (.ended (source.applyNotification net n s).1, (source.applyNotification net n s).2) := by
  by_cases hdelete : n.change = .delete
  · have hfirst : source.advance net n (.waiting, s) = (.removing, s) := by
      rw [Source.advance, if_pos hdelete]
    have hrun : (source.advance net n)^[2] (.waiting, s) =
        (.ended (source.applyNotification net n s).1, (source.applyNotification net n s).2) := by
      rw [applyNotification_delete source net s hdelete, Function.iterate_succ_apply, hfirst,
        Function.iterate_one, Source.advance, Source.record, Cache.followRemoval]
      simp only [List.append_nil]
    exact advance_ended_of_le hrun (by rw [Source.stepsAllowed]; omega)
  · rcases hschema : source.schema net s with ⟨schema, s₁⟩
    have hfirst : source.advance net n (.waiting, s) =
        match n.lookup schema s₁.cache with
        | .error e => (.ended (.error e), s₁)
        | .ok cached => (.reading schema cached (source.policy.maxAttempts - 1) 1 [], s₁) := by
      rw [Source.advance, if_neg hdelete, hschema]
    rw [applyNotification_cases hschema hdelete]
    cases hlookup : n.lookup schema s₁.cache with
    | error e =>
        rw [hlookup] at hfirst
        have hrun : (source.advance net n)^[1] (.waiting, s) = (.ended (.error e), s₁) := hfirst
        exact advance_ended_of_le hrun (by rw [Source.stepsAllowed]; omega)
    | ok cached =>
        rw [hlookup] at hfirst
        obtain ⟨k, hk, hreads⟩ := advance_reads schema cached (source.policy.maxAttempts - 1) 1 []
          s₁ _ _ (rfl : _ = runOfReads source net schema n cached s₁.log)
        have hrun : (source.advance net n)^[1 + (k + 1)] (.waiting, s) =
            (.ended (.ok (runOfReads source net schema n cached s₁.log).1.result.update?),
              s₁.afterRun (runOfReads source net schema n cached s₁.log)) := by
          rw [Nat.add_comm, Function.iterate_succ_apply, hfirst, Function.iterate_succ_apply',
            hreads]
          rfl
        exact advance_ended_of_le hrun (by rw [Source.stepsAllowed]; omega)

end Alone

/-! ## Steady reads -/

/-- The log after reads of some items. -/
def Source.readAll (source : Source) (net : Network) (schema : Schema) (log : ApiLog)
    (asked : List Reference) : ApiLog :=
  asked.foldl (fun log r => (source.readOnce net schema r log).2) log

/-- **Reads that depend on the item and on how often it was read before**, and that give the item
that was asked for.  This is about some items, from a log on. -/
structure SteadyReads (source : Source) (net : Network) (schema : Schema) (log : ApiLog)
    (items : List Reference) (reads : Reference → Nat → Read) : Prop where
  answer : ∀ asked ⊆ items, ∀ r ∈ items,
    (source.readOnce net schema r (source.readAll net schema log asked)).1 =
      reads r (asked.count r)
  own : ∀ r ∈ items, ∀ i copy, reads r i = .item copy → copy.reference = r

/-- A state in which a schema is kept and some items were read since a log. -/
structure StateAfter (source : Source) (net : Network) (schema : Schema) (log : ApiLog)
    (items asked : List Reference) (s : SourceState) : Prop where
  kept : s.cache.schema = some schema
  among : asked ⊆ items
  journal : s.log.journal = (source.readAll net schema log asked).journal

/-- What is still to be done for a notification fits it: the reads use the schema that is kept, and
only a copy of the item is written. -/
def Progress.Fits (schema : Schema) (n : Notification) : Progress → Prop
  | .reading own _ _ _ _ => own = schema
  | .writing report => ∀ copy, report.result.item? = some copy → copy.id = n.reference.id
  | _ => True

section Steps

variable {source : Source} {net : Network} {schema : Schema} {log : ApiLog}
  {items : List Reference} {reads : Reference → Nat → Read}

/-- The copy that is looked up is one that is held under the identity. -/
lemma lookup_congr {n : Notification} {c c' : Cache} (hschema : c.schema = c'.schema)
    (hheld : c.heldAt n.reference.id = c'.heldAt n.reference.id) :
    n.lookup schema c = n.lookup schema c' := by
  obtain ⟨hdocument, hasset⟩ := Prod.mk.inj hheld
  rw [Notification.lookup, Notification.lookup, Cache.knowsModel, Cache.knowsModel, Cache.type?,
    Cache.type?, hschema, Cache.kept?, Cache.kept?, hdocument, hasset]

/-- A read of an item in a state gives what the earlier reads of that item say. -/
lemma StateAfter.readOnce (hreads : SteadyReads source net schema log items reads)
    {asked : List Reference} {s : SourceState}
    (h : StateAfter source net schema log items asked s) {r : Reference} (hr : r ∈ items) :
    (source.readOnce net schema r s.log).1 = reads r (asked.count r) ∧
      (source.readOnce net schema r s.log).2.journal =
        (source.readAll net schema log (asked ++ [r])).journal := by
  obtain ⟨hread, hjournal⟩ := readOnce_of_journal source net schema r h.journal
  refine ⟨hread.trans (hreads.answer asked h.among r hr), hjournal.trans ?_⟩
  rw [Source.readAll, Source.readAll, List.foldl_append]
  rfl

/-- What is written at the end changes what is held of the item, if anything. -/
lemma changesOnly_applyOption {n : Notification} {report : Report}
    (h : (Progress.writing report).Fits schema n) :
    ChangesOnly n.reference.id fun c => c.applyOption report.result.update? := by
  rw [Reconciled.update?]
  cases hitem : report.result.item? with
  | none => exact changesOnly_id _
  | some copy => exact h copy hitem ▸ changesOnly_ofItem copy

lemma fits_afterRead {n : Notification} {cached : Option Item} {further attempt : Nat}
    {steps : List RunStep} {r : Read}
    (h : ∀ copy, r = .item copy → copy.reference = n.reference) :
    (Progress.afterRead schema cached steps further attempt
      (judge n.change cached further r)).Fits schema n := by
  cases hjudge : judge n.change cached further r with
  | again => cases further <;> simp [Progress.afterRead, Progress.Fits, Reconciled.item?]
  | done result warnings =>
      intro copy hcopy
      rw [judge_eq] at hjudge
      split at hjudge
      · cases hjudge
      · cases hjudge
        rw [Read.outcome_item?] at hcopy
        cases r with
        | item shown =>
            cases hcopy
            exact congrArg Reference.id (h copy rfl)
        | missing => cases hcopy
        | failed => cases hcopy

/-- **What one step changes**: at most what is held of the item, and one read of it is added.  What
is done next fits the notification again. -/
theorem advance_changes (hreads : SteadyReads source net schema log items reads)
    {n : Notification} (hn : n.reference ∈ items) {φ : Progress} (hφ : φ.Fits schema n) :
    ∃ f more, ChangesOnly n.reference.id f ∧ (more = [] ∨ more = [n.reference]) ∧
      ∀ asked s, StateAfter source net schema log items asked s →
        (source.advance net n (φ, s)).1.Fits schema n ∧
        (source.advance net n (φ, s)).2.cache = f s.cache ∧
        StateAfter source net schema log items (asked ++ more)
          (source.advance net n (φ, s)).2 := by
  cases φ with
  | waiting =>
      refine ⟨fun c => c, [], changesOnly_id _, .inl rfl, fun asked s h => ?_⟩
      rw [List.append_nil, Source.advance]
      split
      · exact ⟨trivial, rfl, h⟩
      · rw [schema_of_kept h.kept]
        dsimp only
        split
        · exact ⟨trivial, rfl, h⟩
        · exact ⟨rfl, rfl, h⟩
  | reading own cached further attempt steps =>
      obtain rfl : own = schema := hφ
      refine ⟨fun c => c, [n.reference], changesOnly_id _, .inr rfl, fun asked s h => ?_⟩
      obtain ⟨hread, hjournal⟩ := h.readOnce hreads hn
      refine ⟨fits_afterRead fun copy hcopy => ?_, rfl, h.kept, ?_, hjournal⟩
      · exact hreads.own n.reference hn _ copy (hread.symm.trans hcopy)
      · exact List.append_subset.mpr ⟨h.among, List.cons_subset.mpr ⟨hn, List.nil_subset _⟩⟩
  | removing =>
      refine ⟨_, [], changesOnly_deleting n.reference, .inl rfl, fun asked s h => ?_⟩
      rw [List.append_nil]
      exact ⟨trivial, rfl, h.kept, h.among, h.journal⟩
  | writing report =>
      have hwrite := changesOnly_applyOption hφ
      refine ⟨_, [], hwrite, .inl rfl, fun asked s h => ?_⟩
      rw [List.append_nil]
      exact ⟨trivial, rfl, (hwrite.schema s.cache).trans h.kept, h.among, h.journal⟩
  | ended result =>
      refine ⟨fun c => c, [], changesOnly_id _, .inl rfl, fun asked s h => ?_⟩
      rw [List.append_nil]
      exact ⟨trivial, rfl, h⟩

/-- **What one step depends on**: what is held of the item, and how often it was read. -/
theorem advance_depends (hreads : SteadyReads source net schema log items reads)
    {n : Notification} (hn : n.reference ∈ items) {φ : Progress} (hφ : φ.Fits schema n)
    {asked asked' : List Reference} {s s' : SourceState}
    (h : StateAfter source net schema log items asked s)
    (h' : StateAfter source net schema log items asked' s')
    (hheld : s.cache.heldAt n.reference.id = s'.cache.heldAt n.reference.id)
    (hcount : asked.count n.reference = asked'.count n.reference) :
    (source.advance net n (φ, s)).1 = (source.advance net n (φ, s')).1 := by
  cases φ with
  | waiting =>
      rw [Source.advance, Source.advance]
      split
      · rfl
      · rw [schema_of_kept h.kept, schema_of_kept h'.kept]
        dsimp only
        rw [lookup_congr (h.kept.trans h'.kept.symm) hheld]
        cases n.lookup schema s'.cache <;> rfl
  | reading own cached further attempt steps =>
      obtain rfl : own = schema := hφ
      rw [Source.advance, Source.advance]
      dsimp only
      rw [(h.readOnce hreads hn).1, (h'.readOnce hreads hn).1, hcount]
  | removing =>
      show Progress.ended (.ok (s.cache.followRemoval n.reference).update) =
        .ended (.ok (s'.cache.followRemoval n.reference).update)
      rw [Cache.followRemoval, Cache.followRemoval]
  | writing report =>
      show Progress.ended (.ok (s.cache.followReads report).update) =
        .ended (.ok (s'.cache.followReads report).update)
      rw [Cache.followReads, Cache.followReads]
  | ended result => rfl

/-! ## Two states that look alike to a notification -/

/-- **Two states that look alike** when a notification is followed: the same is held of its item,
and the item was read equally often. -/
def Alike (source : Source) (net : Network) (schema : Schema) (log : ApiLog)
    (items : List Reference) (r : Reference) (s s' : SourceState) : Prop :=
  ∃ asked asked', StateAfter source net schema log items asked s ∧
    StateAfter source net schema log items asked' s' ∧
    s.cache.heldAt r.id = s'.cache.heldAt r.id ∧ asked.count r = asked'.count r

/-- Its own steps lead to the same in both states, and they look alike again. -/
lemma Alike.advance (hreads : SteadyReads source net schema log items reads) {n : Notification}
    (hn : n.reference ∈ items) {φ : Progress} (hφ : φ.Fits schema n) {s s' : SourceState}
    (h : Alike source net schema log items n.reference s s') :
    (source.advance net n (φ, s)).1 = (source.advance net n (φ, s')).1 ∧
      (source.advance net n (φ, s')).1.Fits schema n ∧
      Alike source net schema log items n.reference (source.advance net n (φ, s)).2
        (source.advance net n (φ, s')).2 := by
  obtain ⟨asked, asked', hs, hs', hheld, hcount⟩ := h
  obtain ⟨f, more, hf, -, hstep⟩ := advance_changes hreads hn hφ
  obtain ⟨-, hcache, hafter⟩ := hstep asked s hs
  obtain ⟨hfits, hcache', hafter'⟩ := hstep asked' s' hs'
  refine ⟨advance_depends hreads hn hφ hs hs' hheld hcount, hfits, asked ++ more, asked' ++ more,
    hafter, hafter', ?_, ?_⟩
  · rw [hcache, hcache']
    exact hf.here hheld
  · rw [List.count_append, List.count_append, hcount]

/-- A step for an item with another identity is not noticed. -/
lemma Alike.advance_other (hreads : SteadyReads source net schema log items reads)
    {n : Notification} (hn : n.reference ∈ items) {φ : Progress} (hφ : φ.Fits schema n)
    {r : Reference} (hr : r.id ≠ n.reference.id) {s s' : SourceState}
    (h : Alike source net schema log items r s s') :
    Alike source net schema log items r s (source.advance net n (φ, s')).2 := by
  obtain ⟨asked, asked', hs, hs', hheld, hcount⟩ := h
  obtain ⟨f, more, hf, hmore, hstep⟩ := advance_changes hreads hn hφ
  obtain ⟨-, hcache, hafter⟩ := hstep asked' s' hs'
  have hnone : more.count r = 0 := by
    rcases hmore with rfl | rfl
    · rfl
    · exact List.count_eq_zero.mpr fun hmem => hr (List.mem_singleton.mp hmem ▸ rfl)
  refine ⟨asked, asked' ++ more, hs, hafter, ?_, ?_⟩
  · rw [hcache, hf.elsewhere s'.cache hr, hheld]
  · rw [List.count_append, hnone, Nat.add_zero, hcount]

end Steps

/-! ## Turns -/

/-- **Notifications that are followed together**: how far each of them has come, and the state they
share. -/
structure Together (ι : Type) where
  progress : ι → Progress
  state : SourceState

namespace Source

variable {ι : Type} [DecidableEq ι]

/-- One of the notifications takes its next step. -/
def take (source : Source) (net : Network) (n : ι → Notification) (run : Together ι) (i : ι) :
    Together ι :=
  let next := source.advance net (n i) (run.progress i, run.state)
  ⟨Function.update run.progress i next.1, next.2⟩

/-- **Notifications that take turns** from a state on. -/
def takeTurns (source : Source) (net : Network) (n : ι → Notification) (s : SourceState)
    (turns : List ι) : Together ι :=
  turns.foldl (source.take net n) ⟨fun _ => .waiting, s⟩

/-- A notification that is followed for some steps as if there were no other one. -/
def alone (source : Source) (net : Network) (n : Notification) (s : SourceState) (k : Nat) :
    Progress × SourceState :=
  (source.advance net n)^[k] (.waiting, s)

end Source

section Turns

variable {source : Source} {net : Network} {schema : Schema} {s : SourceState}
  {reads : Reference → Nat → Read} {ι : Type} [DecidableEq ι] {n : ι → Notification}
  {items : List Reference}

/-- **What holds after some turns**: every notification has come as far as it would have come alone
with as many steps, and the state looks the same to it.  No other identity was touched. -/
structure Apart (source : Source) (net : Network) (schema : Schema) (items : List Reference)
    (n : ι → Notification) (s : SourceState) (turns : List ι) (run : Together ι) : Prop where
  progress : ∀ i, run.progress i = (source.alone net (n i) s (turns.count i)).1
  fits : ∀ i, (run.progress i).Fits schema (n i)
  state : ∀ i, Alike source net schema s.log items (n i).reference
    (source.alone net (n i) s (turns.count i)).2 run.state
  others : ∀ id, (∀ i, id ≠ (n i).reference.id) → run.state.cache.heldAt id = s.cache.heldAt id

lemma take_progress_self (run : Together ι) (i : ι) :
    (source.take net n run i).progress i =
      (source.advance net (n i) (run.progress i, run.state)).1 :=
  Function.update_self ..

lemma take_progress_of_ne (run : Together ι) {i j : ι} (h : j ≠ i) :
    (source.take net n run i).progress j = run.progress j :=
  Function.update_of_ne h ..

lemma alone_succ (n : Notification) (k : Nat) :
    source.alone net n s (k + 1) = source.advance net n (source.alone net n s k) :=
  Function.iterate_succ_apply' _ k _

/-- One more turn. -/
lemma Apart.take (hids : ∀ i j, i ≠ j → (n i).reference.id ≠ (n j).reference.id)
    (hitems : ∀ i, (n i).reference ∈ items)
    (hreads : SteadyReads source net schema s.log items reads) {turns : List ι} {run : Together ι}
    (h : Apart source net schema items n s turns run) (i : ι) :
    Apart source net schema items n s (turns ++ [i]) (source.take net n run i) := by
  have hmine : (turns ++ [i]).count i = turns.count i + 1 := by
    rw [List.count_append, List.count_singleton_self]
  have hother : ∀ {j}, j ≠ i → (turns ++ [i]).count j = turns.count j := by
    intro j hj
    rw [List.count_append, List.count_eq_zero.mpr fun hmem => hj (List.mem_singleton.mp hmem),
      Nat.add_zero]
  obtain ⟨hprogress, hfits, hstate⟩ := (h.state i).advance hreads (hitems i) (h.fits i)
  have halone : source.alone net (n i) s (turns.count i) =
      (run.progress i, (source.alone net (n i) s (turns.count i)).2) :=
    Prod.ext (h.progress i).symm rfl
  refine ⟨fun j => ?_, fun j => ?_, fun j => ?_, fun id hid => ?_⟩
  · by_cases hj : j = i
    · subst hj
      rw [take_progress_self, hmine, alone_succ, halone, hprogress]
    · rw [take_progress_of_ne run hj, hother hj, h.progress j]
  · by_cases hj : j = i
    · subst hj
      rw [take_progress_self]
      exact hfits
    · rw [take_progress_of_ne run hj]
      exact h.fits j
  · by_cases hj : j = i
    · subst hj
      rw [hmine, alone_succ, halone]
      exact hstate
    · rw [hother hj]
      exact (h.state j).advance_other hreads (hitems i) (h.fits i) (hids j i hj)
  · obtain ⟨asked, asked', -, hafter, -⟩ := h.state i
    obtain ⟨f, more, hf, -, hstep⟩ := advance_changes hreads (hitems i) (h.fits i)
    obtain ⟨-, hcache, -⟩ := hstep asked' run.state hafter
    rw [← h.others id hid, Source.take, hcache]
    exact hf.elsewhere _ (hid i)

/-- **Every one goes as it would alone.**  The induction is on the turns. -/
theorem together_apart (hschema : s.cache.schema = some schema)
    (hids : ∀ i j, i ≠ j → (n i).reference.id ≠ (n j).reference.id)
    (hitems : ∀ i, (n i).reference ∈ items)
    (hreads : SteadyReads source net schema s.log items reads) (turns : List ι) :
    Apart source net schema items n s turns (source.takeTurns net n s turns) := by
  induction turns using List.reverseRecOn with
  | nil =>
      have hstart : StateAfter source net schema s.log items [] s :=
        ⟨hschema, List.nil_subset _, rfl⟩
      exact ⟨fun _ => rfl, fun _ => trivial, fun _ => ⟨[], [], hstart, hstart, rfl, rfl⟩,
        fun _ _ => rfl⟩
  | append_singleton turns i ih =>
      rw [Source.takeTurns, List.foldl_append]
      exact ih.take hids hitems hreads i

/-- What a notification gives that is followed alone. -/
lemma alone_of_le (n : Notification) {k : Nat} (h : source.stepsAllowed ≤ k) :
    source.alone net n s k =
      (.ended (source.applyNotification net n s).1, (source.applyNotification net n s).2) :=
  advance_ended_of_le (advance_iterate source net n s) h

/-- An end that is reached alone is the one of the whole operation. -/
lemma alone_ended (n : Notification) {k : Nat} {result : Except SyncError (Option Update)}
    (h : (source.alone net n s k).1 = .ended result) :
    source.alone net n s k =
      (.ended (source.applyNotification net n s).1, (source.applyNotification net n s).2) := by
  have hstay : source.alone net n s (max k source.stepsAllowed) = source.alone net n s k :=
    (advance_ended_of_le (Prod.ext h rfl) (Nat.le_max_left _ _)).trans (Prod.ext h.symm rfl)
  rw [← hstay, alone_of_le n (Nat.le_max_right _ _)]

section Ends

variable {turns : List ι} {run : Together ι}

/-- A notification that has been followed to its end gave what it gives alone. -/
lemma Apart.result (h : Apart source net schema items n s turns run) {i : ι}
    {result : Except SyncError (Option Update)} (hended : run.progress i = .ended result) :
    result = (source.applyNotification net (n i) s).1 := by
  have hown := (h.progress i).symm.trans hended
  have hwhole := congrArg Prod.fst (alone_ended (n i) hown)
  exact Progress.ended.inj (hown.symm.trans hwhole)

/-- It has been followed to its end after enough turns. -/
lemma Apart.ended (h : Apart source net schema items n s turns run) {i : ι}
    (henough : source.stepsAllowed ≤ turns.count i) :
    run.progress i = .ended (source.applyNotification net (n i) s).1 := by
  rw [h.progress i, alone_of_le (n i) henough]

/-- What is held under the identity of an item that has been followed to the end. -/
lemma Apart.held (h : Apart source net schema items n s turns run) {i : ι}
    {result : Except SyncError (Option Update)} (hended : run.progress i = .ended result) :
    run.state.cache.heldAt (n i).reference.id =
      (source.applyNotification net (n i) s).2.cache.heldAt (n i).reference.id := by
  obtain ⟨-, -, -, -, hheld, -⟩ := h.state i
  rw [← hheld, alone_ended (n i) ((h.progress i).symm.trans hended)]

/-- **All that is held in the end** does not depend on the turns. -/
lemma Apart.held_eq (h : Apart source net schema items n s turns run)
    (hended : ∀ i, ∃ result, run.progress i = .ended result) {turns' : List ι} {run' : Together ι}
    (h' : Apart source net schema items n s turns' run')
    (hended' : ∀ i, ∃ result, run'.progress i = .ended result) (id : String) :
    run.state.cache.heldAt id = run'.state.cache.heldAt id := by
  by_cases hid : ∃ i, id = (n i).reference.id
  · obtain ⟨i, rfl⟩ := hid
    obtain ⟨result, hi⟩ := hended i
    obtain ⟨result', hi'⟩ := hended' i
    rw [h.held hi, h'.held hi']
  · have hnone : ∀ i, id ≠ (n i).reference.id := fun i heq => hid ⟨i, heq⟩
    rw [h.others id hnone, h'.others id hnone]

end Ends

/-! ## One after the other -/

/-- Turns of one notification without a break. -/
lemma take_replicate (net : Network) (n : ι → Notification) (i : ι) (k : Nat) :
    ∀ run : Together ι, (List.replicate k i).foldl (source.take net n) run =
      ⟨Function.update run.progress i
          ((source.advance net (n i))^[k] (run.progress i, run.state)).1,
        ((source.advance net (n i))^[k] (run.progress i, run.state)).2⟩ := by
  induction k with
  | zero =>
      intro run
      rw [Function.iterate_zero, id, Function.update_eq_self]
      rfl
  | succ k ih =>
      intro run
      rw [List.replicate_succ, List.foldl_cons, ih, Function.iterate_succ_apply]
      simp only [Source.take, Function.update_self, Function.update_idem]

/-- **One notification after the other** is a way to take turns. -/
lemma takeTurns_sequence (source : Source) (net : Network) (n : ι → Notification)
    (s : SourceState) {i j : ι} (hij : i ≠ j) :
    let run := source.takeTurns net n s
      (List.replicate source.stepsAllowed i ++ List.replicate source.stepsAllowed j)
    let (first, s₁) := source.applyNotification net (n i) s
    let (second, s₂) := source.applyNotification net (n j) s₁
    run.progress i = .ended first ∧ run.progress j = .ended second ∧ run.state = s₂ := by
  rw [Source.takeTurns, List.foldl_append, take_replicate, take_replicate]
  simp only [Function.update_of_ne hij.symm, Function.update_of_ne hij, Function.update_self,
    advance_iterate]
  exact ⟨rfl, rfl, rfl⟩

end Turns

/-- **Notifications about different identities do not disturb each other.**  A schema is kept, and
what a read gives depends on the item and on how often it was read before.  There are a result for
each of two notifications, and contents of the cache, such that

* following one after the other, in either order, gives these results and leaves these contents;
* in whatever way the two take turns, each of them comes to an end after enough steps of its own,
  then has its result, and when both have ended, the cache has these contents. -/
theorem applyNotification_interleaved {source : Source} {net : Network} {s : SourceState}
    {schema : Schema} {n : Bool → Notification} {reads : Reference → Nat → Read}
    (hschema : s.cache.schema = some schema)
    (hids : (n true).subject.id ≠ (n false).subject.id)
    (hreads : SteadyReads source net schema s.log [(n true).reference, (n false).reference]
      reads) :
    ∃ (result : Bool → Except SyncError (Option Update))
      (held : String → Option Item × Option Item),
      (∀ i : Bool,
        let (first, s₁) := source.applyNotification net (n i) s
        let (second, s₂) := source.applyNotification net (n !i) s₁
        first = result i ∧ second = result (!i) ∧ ∀ id, s₂.cache.heldAt id = held id) ∧
      ∀ turns : List Bool,
        let run := source.takeTurns net n s turns
        (∀ i, source.stepsAllowed ≤ turns.count i → ∃ r, run.progress i = .ended r) ∧
        (∀ i r, run.progress i = .ended r → r = result i) ∧
        ((∀ i, ∃ r, run.progress i = .ended r) →
          ∀ id, run.state.cache.heldAt id = held id) := by
  have hpairwise : ∀ i j, i ≠ j → (n i).reference.id ≠ (n j).reference.id := by
    intro i j hij
    cases i <;> cases j
    · exact absurd rfl hij
    · exact hids.symm
    · exact hids
    · exact absurd rfl hij
  have hitems : ∀ i, (n i).reference ∈ [(n true).reference, (n false).reference] := by
    intro i
    cases i <;> simp
  have hapart := together_apart hschema hpairwise hitems hreads
  have hother : ∀ i : Bool, i ≠ !i := fun i => by cases i <;> decide
  -- The contents are read off one run in which both have ended.
  let sequence : Bool → List Bool := fun i =>
    List.replicate source.stepsAllowed i ++ List.replicate source.stepsAllowed !i
  have hended : ∀ i j, ∃ r, (source.takeTurns net n s (sequence i)).progress j = .ended r := by
    intro i j
    refine ⟨_, (hapart (sequence i)).ended ?_⟩
    cases i <;> cases j <;> simp [sequence, List.count_replicate]
  refine ⟨fun i => (source.applyNotification net (n i) s).1,
    (source.takeTurns net n s (sequence true)).state.cache.heldAt, fun i => ?_, fun turns => ?_⟩
  · obtain ⟨-, hsecond, hstate⟩ := takeTurns_sequence source net n s (hother i)
    refine ⟨rfl, (hapart (sequence i)).result hsecond, fun id => ?_⟩
    rw [← hstate]
    exact (hapart _).held_eq (hended i) (hapart _) (hended true) id
  · refine ⟨fun i henough => ⟨_, (hapart turns).ended henough⟩,
      fun i r hr => (hapart turns).result hr, fun hall id => ?_⟩
    exact (hapart turns).held_eq hall (hapart _) (hended true) id

/-! ## Two assets -/

/-- The text of a document can be told from the body that carries it. -/
lemma GraphQL.chars_of_body {d d' : GraphQL.Document}
    (h : (GraphQL.Envelope.ofDocument d).render = (GraphQL.Envelope.ofDocument d').render) :
    d.chars = d'.chars := by
  have hquery := GraphQL.Envelope.query_of_render h
  rw [GraphQL.Envelope.ofDocument, GraphQL.Envelope.ofDocument] at hquery
  exact String.ofList_inj.mp hquery

namespace TwoAssets

open GraphQL
open Logo (client source turning turning_or ten eleven)

/-- The identity of the asset that `true` or `false` stands for. -/
def name (i : Bool) : String := if i then "logo" else "banner"

/-- The asset as it was last changed at a time. -/
def copy (i : Bool) (time : Instant) : Item := ⟨name i, assetTypename, some time, none, []⟩

/-- The asset was changed. -/
def update (i : Bool) : Notification := ⟨.update, assetTypename, name i, some eleven, none⟩

/-- The request that reads the asset. -/
def request (i : Bool) : Http.Request :=
  client.requestFor (Api.itemDocument "asset" assetSelection (name i))

/-- The number of requests with a body. -/
def asked (attempts : List Http.Attempt) (body : String) : Nat :=
  attempts.countP fun a => a.request.body = body

/-- The data of a reply that shows the asset. -/
def data (i : Bool) (time : Instant) : Json := .object [("asset", (copy i time).toJson)]

/-- A network that shows an old copy of an asset the first time it is asked for it. -/
def network : Network where
  answer earlier r :=
    .replied ⟨200, none, (Json.object [("data",
      data (r.body = (request true).body) (turning (asked earlier r.body)))]).render.toUTF8⟩
  draw _ := 0

/-- Both assets of ten o'clock are kept. -/
def state : SourceState :=
  { SourceState.empty with
    cache := ((Cache.empty.storeSchema .empty).apply (.ofItem (copy true ten))).apply
      (.ofItem (copy false ten)) }

/-- What a read of an asset gives. -/
def reads (r : Reference) (i : Nat) : Read := .item (copy (r.id = name true) (turning i))

lemma body_inj {i j : Bool} (h : (request i).body = (request j).body) : i = j := by
  have hchars : (Api.itemDocument "asset" assetSelection (name i)).chars =
      (Api.itemDocument "asset" assetSelection (name j)).chars := chars_of_body h
  revert hchars
  cases i <;> cases j <;> decide +kernel

lemma dataOf_answer (i : Bool) (earlier : List Http.Attempt) :
    dataOf (network.answer earlier (request i)) =
      some (data i (turning (asked earlier (request i).body))) := by
  have hi : decide ((request i).body = (request true).body) = i := by
    cases i
    · exact decide_eq_false fun h => Bool.noConfusion (body_inj h)
    · exact decide_eq_true rfl
  simp only [network, dataOf, Json.ofBytes_render, hi]
  rcases turning_or (asked earlier (request i).body) with h | h <;> rw [h] <;> cases i <;>
    decide +kernel

lemma readItem_copy (i : Bool) (k : Nat) :
    readItem (copy i (turning k)).toJson = .ok (copy i (turning k)) := by
  rcases turning_or k with h | h <;> rw [h] <;> cases i <;> rfl

/-- Every read shows the asset and takes one request. -/
lemma readOnce_update (i : Bool) (log : ApiLog) :
    ∃ outcome, source.readOnce network .empty (update i).reference log =
      (.item (copy i (turning (asked log.attempts (request i).body))),
        { log with journal := log.journal.answered ⟨request i, outcome⟩ }) := by
  have hselection : Api.itemSelection .empty (update i).reference.typename =
    .ok ("asset", assetSelection) := rfl
  exact readOnce_of_dataOf hselection (dataOf_answer i _) rfl (readItem_copy i _)

lemma asked_request (attempts : List Http.Attempt) (i j : Bool) (outcome : Http.Outcome) :
    asked (attempts ++ [⟨request j, outcome⟩]) (request i).body =
      asked attempts (request i).body + if j = i then 1 else 0 := by
  rw [asked, List.countP_append, List.countP_singleton, asked]
  by_cases hij : j = i
  · subst hij
    simp
  · have hne : (request j).body ≠ (request i).body := fun h => hij (body_inj h)
    simp [hij, hne]

lemma reference_inj : ∀ {i j : Bool}, (update i).reference = (update j).reference ↔ i = j := by
  decide

/-- An asset among the two. -/
lemma exists_update {r : Reference}
    (h : r ∈ [(update true).reference, (update false).reference]) :
    ∃ i, r = (update i).reference := by
  rcases List.mem_cons.mp h with h | h
  · exact ⟨true, h⟩
  · exact ⟨false, List.mem_singleton.mp h⟩

/-- The requests for an asset are its reads. -/
lemma asked_readAll (i : Bool) (rs : List Reference) :
    ∀ log : ApiLog, rs ⊆ [(update true).reference, (update false).reference] →
      asked (source.readAll network .empty log rs).attempts (request i).body =
        asked log.attempts (request i).body + rs.count (update i).reference := by
  induction rs with
  | nil => exact fun _ _ => rfl
  | cons r rs ih =>
      intro log hrs
      obtain ⟨hr, hrest⟩ := List.cons_subset.mp hrs
      obtain ⟨j, rfl⟩ := exists_update hr
      obtain ⟨outcome, hread⟩ := readOnce_update j log
      rw [Source.readAll, List.foldl_cons, ← Source.readAll, ih _ hrest, hread, ApiLog.attempts,
        Journal.answered_attempts, asked_request, List.count_cons, ApiLog.attempts]
      simp only [beq_iff_eq, reference_inj]
      omega

lemma steadyReads : SteadyReads source network .empty SourceState.empty.log
    [(update true).reference, (update false).reference] reads where
  answer rs hrs r hr := by
    obtain ⟨i, rfl⟩ := exists_update hr
    obtain ⟨outcome, hread⟩ := readOnce_update i (source.readAll network .empty .empty rs)
    have hnone : asked ApiLog.empty.attempts (request i).body = 0 := rfl
    rw [asked_readAll i rs .empty hrs, hnone, Nat.zero_add] at hread
    have hi : decide ((update i).reference.id = name true) = i := by
      cases i <;> decide
    rw [reads, hi]
    exact congrArg Prod.fst hread
  own r hr k shown h := by
    obtain ⟨i, rfl⟩ := exists_update hr
    cases h
    cases i <;> rfl

end TwoAssets

/-- However the updates of two assets take turns, each of them gives the same and the same is
kept. -/
theorem applyNotification_interleaved_assets :
    ∃ (result : Bool → Except SyncError (Option Update))
      (held : String → Option Item × Option Item),
      ∀ turns : List Bool, (∀ i, 4 ≤ turns.count i) →
        (∀ i, (Logo.source.takeTurns TwoAssets.network TwoAssets.update TwoAssets.state
          turns).progress i = .ended (result i)) ∧
        ∀ id, (Logo.source.takeTurns TwoAssets.network TwoAssets.update TwoAssets.state
          turns).state.cache.heldAt id = held id := by
  obtain ⟨result, held, -, hturns⟩ := applyNotification_interleaved (n := TwoAssets.update)
    (s := TwoAssets.state) rfl (by decide) TwoAssets.steadyReads
  refine ⟨result, held, fun turns henough => ?_⟩
  obtain ⟨hends, hresult, hheld⟩ := hturns turns
  refine ⟨fun i => ?_, hheld fun i => hends i (henough i)⟩
  obtain ⟨r, hr⟩ := hends i (henough i)
  rw [hr, hresult i r hr]

end ContentSync
