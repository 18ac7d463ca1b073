import ContentSync.Proofs.Insertion
import ContentSync.Proofs.SingleWrites
import ContentSync.Proofs.TextPieces

/-!
# Publishing many documents at once

Many documents are published, or taken back, by one mutation with a root field for each.  The fields
are told apart by aliases that count them, so a reference has its own field however often it is
listed and whatever else is listed.  The mutation is sent once; a source only warns of its failure.

* `Bulk` — publishing and taking back, with what differs between them.
* `Bulk.Covers` — a mutation with one root field for each reference.
* `Bulk.covers_document` — the mutation that is sent is one.
* `attempt_ok`, `attempt_error` — what a source makes of a result.
* `bulk_sentOnce` — the request, its result and the warnings.
-/

namespace ContentSync

open GraphQL
open Http (Network Outcome)

/-! ## Publishing and taking back -/

/-- **What is done with many documents**: they are published, or taken back. -/
inductive Bulk where
  | publish
  | unpublish

namespace Bulk

/-- What an error names. -/
def operation : Bulk → String
  | publish => "publishMany"
  | unpublish => "unpublishMany"

/-- What a source warns of. -/
def warning : Bulk → Warning
  | publish => .bulkPublishFailed
  | unpublish => .bulkUnpublishFailed

/-- The root field for a document of a type. -/
def field : Bulk → String → String
  | publish, typename => "publish" ++ typename
  | unpublish, typename => "unpublish" ++ typename

/-- The stage that a document gets to or is taken from. -/
def stage : Bulk → String × Argument
  | publish => ("to", .enum "PUBLISHED")
  | unpublish => ("from", .enum "PUBLISHED")

/-- The call to the content side. -/
def call : Bulk → Api → Network → List Reference → ApiAction Unit
  | publish, api => api.publishMany
  | unpublish, api => api.unpublishMany

/-- The operation of a source. -/
def run : Bulk → Source → Network → List Reference → SourceM Unit
  | publish, source => source.publishDocuments
  | unpublish, source => source.unpublishDocuments

/-- The root field for the reference at a place: its alias counts the fields, and its only condition
is the identity. -/
def nodeAt (op : Bulk) (place : Nat) (r : Reference) : Selection :=
  .object (op.field r.typename) (some ("item" ++ toString place))
    [("where", .object [("id", .string r.id)]), op.stage] [.field "id"]

/-- **A mutation for all references**: it has as many root fields as there are references, in their
order, and each is the one for its reference. -/
structure Covers (op : Bulk) (refs : List Reference) (d : Document) : Prop where
  kind : d.kind = .mutation
  name : d.name = none
  declared : d.declared = []
  length : d.selection.length = refs.length
  fields : ∀ i (hi : i < refs.length), d.selection[i]? = some (op.nodeAt i refs[i])

end Bulk

/-! ## The mutation -/

/-- The fields for a list of references. -/
def Bulk.nodes (op : Bulk) (refs : List Reference) : List Selection :=
  refs.zipIdx.map fun p => op.nodeAt p.2 p.1

/-- The mutation for a list of references. -/
def Bulk.document (op : Bulk) (refs : List Reference) : Document :=
  .anonymous .mutation (SelectionSet.ofList (op.nodes refs))

/-- Aliases that count differ, for numbers are told by their digits. -/
lemma item_injective : Function.Injective fun i : Nat => "item" ++ toString i := by
  intro i j h
  have hdigits : toString (i : Int) = toString (j : Int) := (String.append_right_inj "item").mp h
  exact Int.ofNat.inj (Text.toString_int_inj hdigits)

lemma Bulk.nodup_keys_nodes (op : Bulk) (refs : List Reference) :
    (SelectionSet.keys (op.nodes refs)).Nodup := by
  have hkeys : SelectionSet.keys (op.nodes refs) =
      (refs.zipIdx.map Prod.snd).map fun i => "item" ++ toString i := by
    rw [SelectionSet.keys, Bulk.nodes, List.map_map, List.map_map]
    rfl
  rw [hkeys, List.zipIdx_map_snd]
  exact List.Nodup.map item_injective List.nodup_range'

/-- **No reference is lost**: nothing is replaced when the fields are put together. -/
theorem Bulk.covers_document (op : Bulk) (refs : List Reference) :
    op.Covers refs (op.document refs) := by
  have hselection : (op.document refs).selection = op.nodes refs :=
    SelectionSet.ofList_of_nodup (op.nodup_keys_nodes refs)
  refine ⟨rfl, rfl, rfl, ?_, fun i hi => ?_⟩
  · rw [hselection]
    simp [Bulk.nodes]
  · rw [hselection]
    simp [Bulk.nodes, hi]

/-- Both operations carry out the mutation for their references, if there are any. -/
lemma Bulk.call_eq (op : Bulk) (api : Api) (net : Network) (refs : List Reference) :
    op.call api net refs =
      if refs.isEmpty then pure ()
      else api.mutate net op.operation (op.document refs) (.object []) >>= fun _ => pure () := by
  cases op <;> rfl

/-! ## What a source makes of it -/

section Attempt

variable {x : ApiAction Unit} {s : SourceState} {log : ApiLog}

/-- Success leaves no trace but its requests. -/
lemma attempt_ok (h : x s.log = (.ok (), log)) (w : Warning) :
    Source.attempt w x s = ((), { s with log := log }) := by
  simp only [Source.attempt, SourceM.logging, bind, StateT.bind, ExceptT.run, h]
  rfl

/-- A failure is warned of once. -/
lemma attempt_error {e : SyncError} (h : x s.log = (.error e, log)) (w : Warning) :
    Source.attempt w x s =
      ((), { s with log := { log with warnings := log.warnings ++ [w] } }) := by
  simp only [Source.attempt, SourceM.logging, bind, StateT.bind, ExceptT.run, h]
  rfl

end Attempt

lemma Bulk.run_eq (op : Bulk) (source : Source) (net : Network) (refs : List Reference) :
    op.run source net refs = Source.attempt op.warning (op.call source.api net refs) := by
  cases op <;> rfl

/-! ## The request -/

/-- **Many documents at once.**  Without references nothing is sent.  Else one request is sent to
the content side, whatever the reply, with a mutation that has a root field for each reference.
When the reply has data and no errors, the call succeeds and the source warns of nothing; in any
other case the call fails with an error that names the operation, and the source warns once and goes
on. -/
theorem bulk_sentOnce {c : Config} {source : Source} (hapi : Api.of? c = .ok source.api) (op : Bulk)
    (refs : List Reference) :
    (refs = [] → ∀ net s,
      op.call source.api net refs s.log = (.ok (), s.log) ∧
      op.run source net refs s = ((), s)) ∧
    (refs ≠ [] → ∃ d, op.Covers refs d ∧ ∀ net (s : SourceState), ∃ outcome journal,
      SentOnce source.api.content net (Envelope.ofDocument d).render s.log.attempts
        journal.attempts outcome ∧
      match dataOf outcome with
      | some _ =>
          op.call source.api net refs s.log = (.ok (), { s.log with journal := journal }) ∧
          op.run source net refs s = ((), { s with log := { s.log with journal := journal } })
      | none =>
          (∃ reason, op.call source.api net refs s.log =
            (.error (.mutation op.operation reason), { s.log with journal := journal })) ∧
          op.run source net refs s =
            ((), { s with log := ⟨journal, s.log.warnings ++ [op.warning]⟩ })) := by
  obtain ⟨hretry, -⟩ := retry_of_api hapi
  refine ⟨?_, fun hne => ⟨op.document refs, op.covers_document refs, fun net s => ?_⟩⟩
  · rintro rfl net s
    have hcall : op.call source.api net [] s.log = (.ok (), s.log) := by
      rw [Bulk.call_eq]
      rfl
    exact ⟨hcall, (congrFun (op.run_eq source net []) s).trans (attempt_ok hcall op.warning)⟩
  · obtain ⟨outcome, journal, hsent, hmutate⟩ := mutate_sentOnce hretry net op.operation
      (op.document refs) (.object []) s.log
    have hcall := op.call_eq source.api net refs
    rw [if_neg (by simpa using hne)] at hcall
    refine ⟨outcome, journal, hsent, ?_⟩
    cases hdata : dataOf outcome with
    | some data =>
        rw [hdata] at hmutate
        have hok : op.call source.api net refs s.log =
            (.ok (), { s.log with journal := journal }) :=
          (congrFun hcall s.log).trans (bind_of_ok hmutate)
        exact ⟨hok, (congrFun (op.run_eq source net refs) s).trans (attempt_ok hok op.warning)⟩
    | none =>
        rw [hdata] at hmutate
        obtain ⟨reason, hmutate⟩ := hmutate
        have herror : op.call source.api net refs s.log =
            (.error (.mutation op.operation reason), { s.log with journal := journal }) :=
          (congrFun hcall s.log).trans (bind_of_error hmutate)
        exact ⟨⟨reason, herror⟩,
          (congrFun (op.run_eq source net refs) s).trans (attempt_error herror op.warning)⟩

/-- A document that is listed twice, and one of another type, on a busy content side: one request
with three fields, and one warning. -/
theorem bulk_sentOnce_repeated :
    let refs : List Reference := [⟨"Post", "a"⟩, ⟨"Post", "a"⟩, ⟨"Video", "b"⟩]
    ∃ source, Source.of? plainConfig = .ok source ∧ Api.of? plainConfig = .ok source.api ∧
      refs ≠ [] ∧
      ∃ d : Document, d.selection.length = 3 ∧
        let s' := (source.publishDocuments busyNetwork refs SourceState.empty).2
        s'.log.attempts.map (·.request) =
          [source.api.content.request (Envelope.ofDocument d).render] ∧
        s'.log.warnings = [.bulkPublishFailed] := by
  intro refs
  obtain ⟨source, hsource⟩ : ∃ source, Source.of? plainConfig = .ok source := ⟨_, rfl⟩
  have hapi : Api.of? plainConfig = .ok source.api := by
    cases hsource
    rfl
  refine ⟨source, hsource, hapi, by simp [refs], ?_⟩
  obtain ⟨-, hsome⟩ := bulk_sentOnce hapi .publish refs
  obtain ⟨d, hcovers, hrun⟩ := hsome (by simp [refs])
  obtain ⟨_, journal, ⟨rfl, hattempts⟩, hresult⟩ := hrun busyNetwork SourceState.empty
  obtain ⟨-, hwarned⟩ := hresult
  refine ⟨d, hcovers.length, ?_⟩
  show (Bulk.publish.run source busyNetwork refs SourceState.empty).2.log.attempts.map _ = _ ∧
    (Bulk.publish.run source busyNetwork refs SourceState.empty).2.log.warnings = _
  rw [hwarned]
  exact ⟨congrArg (List.map _) hattempts, rfl⟩

end ContentSync
