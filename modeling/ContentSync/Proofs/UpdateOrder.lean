import ContentSync.Proofs.JsonEquality
import ContentSync.Proofs.JsonText
import ContentSync.Proofs.NotificationEffect

/-!
# How old the copy is that an update leaves

An update is followed until a copy is read that was changed later than the one that is kept.  When
the reads are used up before that, the copy of the last one is kept and a warning is given.  That
copy may have been changed earlier: a side that answers with old copies can take the cache back.

* `Item.OlderThan`, `Item.NewerThan` — when a copy was last changed.
* `NoneNewer` — reads that are used up in vain.
* `reconcile_update` — the read whose copy ends a run after an update.
* `applyNotification_update` — that copy is the one that is kept.
* `applyNotification_update_older` — when it is older than the one before, and what is warned of.
* `applyNotification_update_back` — a source that is taken back.
-/

namespace ContentSync

open GraphQL
open Http (Network Outcome)

/-! ## Times of copies -/

/-- No two points in time are before each other. -/
lemma Instant.not_before_of_before {a b : Instant} (h : a.before b) : ¬ b.before a := by
  simp only [Instant.before, Bool.or_eq_true, Bool.and_eq_true, decide_eq_true_eq,
    beq_iff_eq] at h ⊢
  omega

namespace Item

/-- A copy that was last changed before a time. -/
def OlderThan (d : Item) (time : Instant) : Prop :=
  ∃ own, d.updatedAt = some own ∧ own.before time

/-- A copy that was last changed after a time. -/
def NewerThan (d : Item) (time : Instant) : Prop :=
  ∃ own, d.updatedAt = some own ∧ time.before own

instance (d : Item) (time : Instant) : Decidable (d.NewerThan time) :=
  decidable_of_iff (d.updatedAt.any fun own => time.before own) (by
    rw [Option.any_eq_true]
    rfl)

lemma NewerThan.not_olderThan {d : Item} {time : Instant} (h : d.NewerThan time) :
    ¬ d.OlderThan time := by
  rintro ⟨own, hown, holder⟩
  obtain ⟨own', hown', hnewer⟩ := h
  cases hown.symm.trans hown'
  exact Instant.not_before_of_before hnewer holder

end Item

section Order

variable {old : Item} {time : Instant} {copies : Nat → Item}

/-- A copy shows an update when it was changed later than the copy that is kept. -/
lemma isFresh_update_iff (hold : old.updatedAt = some time) (copy : Item) :
    isFresh .update copy (some old) ↔ copy.NewerThan time := by
  rw [isFresh, Option.bind_some, hold, Item.NewerThan]
  cases copy.updatedAt <;> simp

/-! ## Runs of reads -/

/-- **None of so many reads gives a newer copy.** -/
def NoneNewer (copies : Nat → Item) (time : Instant) (reads : Nat) : Prop :=
  ∀ i < reads, ¬ (copies i).NewerThan time

instance (copies : Nat → Item) (time : Instant) (reads : Nat) :
    Decidable (NoneNewer copies time reads) :=
  inferInstanceAs (Decidable (∀ i < reads, ¬ (copies i).NewerThan time))

/-- The read whose copy ends a run after an update, of `reads` that are allowed: the first one whose
copy is newer, or the last one when there is none. -/
structure EndsAt (copies : Nat → Item) (time : Instant) (reads i : Nat) : Prop where
  within : i < reads
  before : ∀ j < i, ¬ (copies j).NewerThan time
  newer_or_last : (copies i).NewerThan time ∨ i + 1 = reads

/-- The copy is newer just when one of the reads gives a newer one. -/
lemma EndsAt.newerThan_iff {reads i : Nat} (h : EndsAt copies time reads i) :
    (copies i).NewerThan time ↔ ¬ NoneNewer copies time reads := by
  have hwithin := h.within
  refine ⟨fun hnewer hnone => hnone i hwithin hnewer, fun hsome => ?_⟩
  by_cases hnewer : (copies i).NewerThan time
  · exact hnewer
  · have hlast := h.newer_or_last.resolve_left hnewer
    refine absurd (fun j hj => ?_) hsome
    rcases Nat.lt_or_ge j i with hbefore | hafter
    · exact h.before j hbefore
    · have hj' : j = i := by omega
      exact hj' ▸ hnewer

/-- Reads that are used up in vain end with the last one. -/
lemma EndsAt.last {reads i : Nat} (h : EndsAt copies time reads i)
    (hnone : NoneNewer copies time reads) : i = reads - 1 := by
  have hlast := h.newer_or_last.resolve_left (hnone i h.within)
  omega

/-- The copy is older only if no read gives a newer one and the last read gives an older one. -/
lemma EndsAt.olderThan_iff {reads i : Nat} (h : EndsAt copies time reads i) :
    (copies i).OlderThan time ↔
      NoneNewer copies time reads ∧ (copies (reads - 1)).OlderThan time := by
  by_cases hnone : NoneNewer copies time reads
  · rw [h.last hnone]
    exact (and_iff_right hnone).symm
  · exact iff_of_false (h.newerThan_iff.mpr hnone).not_olderThan fun hboth => hnone hboth.1

/-- **A run after an update**, when every read gives a copy. -/
lemma reconcile_update {σ : Type} (read : σ → Read × σ) (p : RetryPolicy) (s : σ)
    (hold : old.updatedAt = some time)
    (hreads : ∀ i < max p.maxAttempts 1, answer read s i = .item (copies i)) :
    ∃ i, EndsAt copies time (max p.maxAttempts 1) i ∧
      (reconcile p .update (some old) read s).1.result.item? = some (copies i) ∧
      (reconcile p .update (some old) read s).1.warnings =
        if NoneNewer copies time (max p.maxAttempts 1) then [.staleAfterAllReads] else [] := by
  obtain ⟨i, hlast, hrun⟩ := reconcile_eq read p .update (some old) s
  have hwithin : i < max p.maxAttempts 1 := by
    have := hlast.within
    omega
  have hstale : ∀ j ≤ i, (answer read s j).isStale .update (some old) ↔
      ¬ (copies j).NewerThan time := by
    intro j hj
    rw [hreads j (Nat.lt_of_le_of_lt hj hwithin), ← isFresh_update_iff hold]
    simp [Read.isStale]
  have hends : EndsAt copies time (max p.maxAttempts 1) i := by
    refine ⟨hwithin, fun j hj => (hstale j (Nat.le_of_lt hj)).mp (hlast.before j hj), ?_⟩
    by_cases hnewer : (copies i).NewerThan time
    · exact .inl hnewer
    · have hdecisive := hlast.decisive ((hstale i (Nat.le_refl i)).mpr hnewer)
      exact .inr (by omega)
  have hfresh : isFresh .update (copies i) (some old) ↔
      ¬ NoneNewer copies time (max p.maxAttempts 1) :=
    (isFresh_update_iff hold (copies i)).trans hends.newerThan_iff
  refine ⟨i, hends, ?_, ?_⟩
  · rw [hrun, runOf, Read.outcome_item?, hreads i hwithin]
  · rw [hrun, runOf, hreads i hwithin]
    simp only [Read.warnings, hfresh, ite_not]

end Order

/-! ## Following an update -/

section Following

variable {source : Source} {net : Network} {s : SourceState} {n : Notification}

/-- The schema that is kept does not contradict the one that was loaded. -/
lemma knowsModel_loaded {schema : Schema} {s₁ : SourceState}
    (hschema : source.schema net s = (schema, s₁)) (name : String) :
    s₁.cache.knowsModel schema name = (schema.get? name).any ContentType.isModel := by
  have htype : s₁.cache.type? name = none ∨ s₁.cache.type? name = schema.get? name := by
    rcases schema_cases source net s with ⟨kept, hkept, hload⟩ | ⟨hnone, hload⟩
    · obtain ⟨rfl, rfl⟩ := Prod.mk.inj (hschema.symm.trans hload)
      exact .inr (by rw [Cache.type?, hkept, Option.bind_some])
    · obtain ⟨rfl, rfl⟩ := Prod.mk.inj (hschema.symm.trans hload)
      rw [Cache.learn]
      split
      · exact .inl (by rw [Cache.type?, hnone, Option.bind_none])
      · exact .inr rfl
  rw [Cache.knowsModel]
  rcases htype with htype | htype
  · rw [htype, Option.none_or]
  · rw [htype, Option.or_self]

/-- An item that can be read is an asset or of a model, so that its notification is not refused. -/
lemma lookup_of_readOnce {schema : Schema} {s₁ : SourceState} {log : ApiLog} {copy : Item}
    (hschema : source.schema net s = (schema, s₁))
    (hread : (source.readOnce net schema n.reference log).1 = .item copy) :
    n.lookup schema s₁.cache = .ok (s₁.cache.kept? n.reference) := by
  obtain ⟨-, -, -, field, selection, -, -, hselection, -⟩ :=
    readOnce_item (Prod.ext hread rfl : _ = (Read.item copy, _))
  rw [Notification.lookup, Notification.isAsset, knowsModel_loaded hschema]
  refine if_pos (Bool.or_eq_true_iff.mpr ?_)
  rw [Api.itemSelection] at hselection
  split at hselection
  · next hasset => exact .inl (beq_iff_eq.mpr hasset)
  · split at hselection
    · next t ht =>
        rw [Schema.model?, Option.filter_eq_some_iff] at ht
        exact .inr ((Option.any_eq_true _ _).mpr ⟨t, ht⟩)
    · cases hselection

/-- What a source answers when the item of a notification is read for it. -/
def Source.answers (source : Source) (net : Network) (s : SourceState) (n : Notification) :
    Nat → Read :=
  answer (source.readOnce net (source.schema net s).1 n.reference) (source.schema net s).2.log

variable {old : Item} {time : Instant} {copies : Nat → Item}

/-- The reads of a run warn of nothing by themselves. -/
lemma warnings_runOfReads (source : Source) (net : Network) (schema : Schema) (n : Notification)
    (cached : Option Item) (log : ApiLog) :
    (runOfReads source net schema n cached log).2.warnings = log.warnings := by
  obtain ⟨stale, -, hrun⟩ := reconcile_eq (source.readOnce net schema n.reference)
    source.policy n.change cached log
  rw [runOfReads, hrun]
  exact afterReads_same (warnings_readOnce source net schema n.reference) log (stale + 1)

/-- **The copy that an update leaves**, when every read gives a copy of the item: the one of the
first read that is newer than the one before, or else of the last read, with a warning. -/
lemma applyNotification_update (hchange : n.change = .update)
    (hold : s.cache.kept? n.reference = some old) (htime : old.updatedAt = some time)
    (hreads : ∀ i < max source.policy.maxAttempts 1, source.answers net s n i = .item (copies i))
    (hsame : ∀ i < max source.policy.maxAttempts 1, (copies i).reference = n.reference) :
    ∃ i, EndsAt copies time (max source.policy.maxAttempts 1) i ∧
      (source.applyNotification net n s).2.cache.kept? n.reference = some (copies i) ∧
      (source.applyNotification net n s).2.log.warnings =
        (source.schema net s).2.log.warnings ++
          if NoneNewer copies time (max source.policy.maxAttempts 1) then [.staleAfterAllReads]
          else [] := by
  rcases hschema : source.schema net s with ⟨schema, s₁⟩
  simp only [Source.answers, hschema] at hreads
  have hentries := (afterSchema hschema).1
  have hkept : s₁.cache.kept? n.reference = some old := by
    rw [← hold, Cache.kept?, Cache.kept?, Cache.asset?, Cache.asset?, Cache.document?,
      Cache.document?, hentries.assets, hentries.documents]
  have hlookup := lookup_of_readOnce hschema (hreads 0 (by omega))
  obtain ⟨i, hends, hitem, hwarnings⟩ := reconcile_update
    (source.readOnce net schema n.reference) source.policy s₁.log htime hreads
  rw [← hchange] at hitem hwarnings
  rw [applyNotification_cases hschema (by rw [hchange]; decide), hlookup, hkept]
  dsimp only
  refine ⟨i, hends, ?_, ?_⟩
  · have hcache : (s₁.afterRun (runOfReads source net schema n (some old) s₁.log)).cache =
        s₁.cache.apply (.ofItem (copies i)) := by
      rw [SourceState.afterRun, runOfReads, Reconciled.update?, hitem]
      rfl
    rw [hcache, Cache.kept?_apply_ofItem, ← hsame i hends.within]
    exact if_pos ⟨rfl, Iff.rfl⟩
  · rw [SourceState.afterRun, ← hwarnings, ← runOfReads, warnings_runOfReads]

/-- **An update makes the copy that is kept older only when the reads are used up.**  If every read
gives a copy of the item, one of these copies is kept afterwards.  It is older than the one before
exactly when no read that is allowed gives a newer copy and the last one gives an older copy.

When no read gives a newer copy, the one of the last read is kept, and a warning says so.  Otherwise
a newer one is kept, and nothing is warned of. -/
theorem applyNotification_update_older (hchange : n.change = .update)
    (hold : s.cache.kept? n.reference = some old) (htime : old.updatedAt = some time)
    (hreads : ∀ i < max source.policy.maxAttempts 1, source.answers net s n i = .item (copies i))
    (hsame : ∀ i < max source.policy.maxAttempts 1, (copies i).reference = n.reference) :
    let reads := max source.policy.maxAttempts 1
    ∃ copy warnings,
      (source.applyNotification net n s).2.cache.kept? n.reference = some copy ∧
      (source.applyNotification net n s).2.log.warnings =
        (source.schema net s).2.log.warnings ++ warnings ∧
      (copy.OlderThan time ↔
        NoneNewer copies time reads ∧ (copies (reads - 1)).OlderThan time) ∧
      if NoneNewer copies time reads then
        copy = copies (reads - 1) ∧ warnings = [.staleAfterAllReads]
      else copy.NewerThan time ∧ warnings = [] := by
  obtain ⟨i, hends, hkept, hwarnings⟩ := applyNotification_update hchange hold htime hreads hsame
  refine ⟨copies i, _, hkept, hwarnings, hends.olderThan_iff, ?_⟩
  by_cases hnone : NoneNewer copies time (max source.policy.maxAttempts 1)
  · rw [if_pos hnone, if_pos hnone]
    exact ⟨congrArg copies (hends.last hnone), rfl⟩
  · rw [if_neg hnone, if_neg hnone]
    exact ⟨hends.newerThan_iff.mpr hnone, rfl⟩

end Following

/-! ## One asset and its times -/

namespace Logo

/-- An asset as it was last changed at a time. -/
def copy (time : Instant) : Item := ⟨"logo", assetTypename, some time, none, []⟩

/-- Nine o'clock on the first of May 2024. -/
def nine : Instant := ⟨1714554000, 0⟩

/-- An hour later. -/
def ten : Instant := ⟨1714557600, 0⟩

/-- Two hours later. -/
def eleven : Instant := ⟨1714561200, 0⟩

/-- The data of a reply that shows the asset. -/
def data (time : Instant) : Json := .object [("asset", (copy time).toJson)]

/-- A network that shows the asset as of a time that depends on the number of earlier requests. -/
def network (times : Nat → Instant) : Network where
  answer earlier _ :=
    .replied ⟨200, none, (Json.object [("data", data (times earlier.length))]).render.toUTF8⟩
  draw _ := 0

/-- A client that tries once. -/
def client : Client := ⟨"https://content", [], .seconds 30, .noRetry⟩

/-- A source that reads an item at most twice. -/
def source : Source := ⟨⟨client, client, .start⟩, .new none .default, .fixed 2 .zero⟩

/-- The asset of ten o'clock is kept. -/
def state : SourceState :=
  { SourceState.empty with
    cache := (Cache.empty.storeSchema .empty).apply (.ofItem (copy ten)) }

/-- The asset was changed. -/
def update : Notification := ⟨.update, assetTypename, "logo", some eleven, none⟩

variable {times : Nat → Instant}

lemma dataOf_answer (h : ∀ k, times k = nine ∨ times k = eleven) (earlier : List Http.Attempt)
    (request : Http.Request) :
    dataOf ((network times).answer earlier request) = some (data (times earlier.length)) := by
  simp only [network, dataOf, Json.ofBytes_render]
  rcases h earlier.length with h | h <;> rw [h] <;> decide +kernel

lemma readItem_copy {time : Instant} (h : time = nine ∨ time = eleven) :
    readItem (copy time).toJson = .ok (copy time) := by
  rcases h with rfl | rfl <;> rfl

/-- Every read shows the asset. -/
lemma readOnce_update (h : ∀ k, times k = nine ∨ times k = eleven) (log : ApiLog) :
    ∃ a, source.readOnce (network times) .empty update.reference log =
      (.item (copy (times log.attempts.length)),
        { log with journal := log.journal.answered a }) := by
  have hselection : Api.itemSelection .empty update.reference.typename =
    .ok ("asset", assetSelection) := rfl
  obtain ⟨outcome, hread⟩ :=
    readOnce_of_dataOf hselection (dataOf_answer h _ _) rfl (readItem_copy (h _))
  exact ⟨_, hread⟩

lemma answer_update (h : ∀ k, times k = nine ∨ times k = eleven) (i : Nat) : ∀ log : ApiLog,
    answer (source.readOnce (network times) .empty update.reference) log i =
      .item (copy (times (log.attempts.length + i))) := by
  induction i with
  | zero =>
      intro log
      obtain ⟨a, hread⟩ := readOnce_update h log
      rw [answer_zero, hread, Nat.add_zero]
  | succ i ih =>
      intro log
      obtain ⟨a, hread⟩ := readOnce_update h log
      rw [answer_succ, hread, ih, ApiLog.attempts, Journal.answered_attempts,
        List.length_append, List.length_singleton, ApiLog.attempts, Nat.add_assoc, Nat.add_comm 1]

/-- What the source answers while the asset of ten o'clock is kept. -/
lemma answers_update (h : ∀ k, times k = nine ∨ times k = eleven) (i : Nat) :
    source.answers (network times) state update i = .item (copy (times i)) := by
  have hstart : ApiLog.empty.attempts.length + i = i := Nat.zero_add i
  exact (answer_update h i .empty).trans (by rw [hstart])

lemma kept?_state : state.cache.kept? update.reference = some (copy ten) := rfl

/-- An old copy first, and a new one from then on. -/
def turning (k : Nat) : Instant := if k = 0 then nine else eleven

lemma turning_or (k : Nat) : turning k = nine ∨ turning k = eleven := by
  rw [turning]
  split
  · exact .inl rfl
  · exact .inr rfl

end Logo

/-- One old copy does no harm when the next read gives a new one; two of them take the cache back,
with a warning. -/
theorem applyNotification_update_older_turning :
    (∃ copy, (Logo.source.applyNotification (Logo.network Logo.turning) Logo.update
        Logo.state).2.cache.kept? Logo.update.reference = some copy ∧
      (Logo.source.applyNotification (Logo.network Logo.turning) Logo.update
        Logo.state).2.log.warnings = [] ∧ copy.NewerThan Logo.ten) ∧
    (Logo.source.applyNotification (Logo.network fun _ => Logo.nine) Logo.update
        Logo.state).2.cache.kept? Logo.update.reference = some (Logo.copy Logo.nine) ∧
      (Logo.source.applyNotification (Logo.network fun _ => Logo.nine) Logo.update
        Logo.state).2.log.warnings = [.staleAfterAllReads] := by
  constructor
  · obtain ⟨copy, warnings, hkept, hwarnings, -, hend⟩ := applyNotification_update_older rfl
      Logo.kept?_state rfl (fun i _ => Logo.answers_update Logo.turning_or i) fun i _ => rfl
    rw [if_neg (by decide)] at hend
    obtain ⟨hnewer, rfl⟩ := hend
    exact ⟨copy, hkept, hwarnings, hnewer⟩
  · obtain ⟨copy, warnings, hkept, hwarnings, -, hend⟩ := applyNotification_update_older rfl
      Logo.kept?_state rfl (fun i _ => Logo.answers_update (fun _ => .inl rfl) i) fun i _ => rfl
    rw [if_pos (by decide)] at hend
    obtain ⟨rfl, rfl⟩ := hend
    exact ⟨hkept, hwarnings⟩

/-- **Old copies take the cache back**: ten o'clock is kept, every read gives the copy of nine, and
afterwards nine o'clock is kept. -/
theorem applyNotification_update_back :
    Logo.update.change = .update ∧
      Logo.state.cache.kept? Logo.update.reference = some (Logo.copy Logo.ten) ∧
      (Logo.copy Logo.nine).reference = Logo.update.reference ∧
      (∀ i, Logo.source.answers (Logo.network fun _ => Logo.nine) Logo.state Logo.update i =
        .item (Logo.copy Logo.nine)) ∧
      (Logo.source.applyNotification (Logo.network fun _ => Logo.nine) Logo.update
        Logo.state).2.cache.kept? Logo.update.reference = some (Logo.copy Logo.nine) ∧
      (Logo.copy Logo.nine).OlderThan Logo.ten := by
  have hanswers := Logo.answers_update fun _ => Or.inl (Eq.refl Logo.nine)
  obtain ⟨i, -, hkept, -⟩ := applyNotification_update rfl Logo.kept?_state rfl
    (fun i _ => hanswers i) fun _ _ => rfl
  exact ⟨rfl, Logo.kept?_state, rfl, hanswers, hkept, Logo.nine, rfl, by decide⟩

end ContentSync
