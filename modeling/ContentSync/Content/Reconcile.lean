import ContentSync.Content.Notification
import ContentSync.GraphQL.Retry
import ContentSync.Warning

/-!
# Reading until a change shows

A notification may arrive before the change can be read.  The item is then read again, with a delay
before every read but the first, until it shows the change, cannot be read, or the reads are used
up; in the last case the last copy read is kept.

* `isFresh` — whether a copy shows the change.
* `judge` — what one read means.
* `reconcile` — the whole run, over any source of reads.
-/

namespace ContentSync

open GraphQL (RetryPolicy)

/-- What a read gives. -/
inductive Read where
  | item (copy : Item)
  /-- There is no such item. -/
  | missing
  | failed

/-- How the reads end. -/
inductive Reconciled where
  /-- The copy shows the change. -/
  | fresh (copy : Item)
  /-- The reads were used up; this is the last copy. -/
  | exhausted (copy : Item)
  /-- The item could not be read. -/
  | absent

/-- The copy to be written, if any. -/
def Reconciled.item? : Reconciled → Option Item
  | .fresh d => some d
  | .exhausted d => some d
  | .absent => none

/-- **Whether a copy shows a change.**  Only for an update does the copy that was kept before
matter: if that one has a time, the new one must have a later one. -/
def isFresh (change : Change) (fetched : Item) (cached : Option Item) : Bool :=
  match change with
  | .create => true
  | .update =>
      match cached.bind Item.updatedAt with
      | none => true
      | some old =>
          match fetched.updatedAt with
          | some new => old.before new
          | none => false
  | .publish =>
      match fetched.publishedRecord?, fetched.updatedAt with
      | some record, some t => record.updatedAt == some t
      | _, _ => false
  | .unpublish => fetched.publishedRecord?.isNone
  | .delete => false

/-- What one read means: read again, or an end and what is warned of. -/
inductive Judgement where
  | again
  | done (result : Reconciled) (warnings : List Warning)

/-- **What a read means** when `further` more reads are allowed. -/
def judge (change : Change) (cached : Option Item) (further : Nat) : Read → Judgement
  | .missing => .done .absent []
  | .failed => .done .absent [.readFailed]
  | .item d =>
      if isFresh change d cached then .done (.fresh d) []
      else if further = 0 then .done (.exhausted d) [.staleAfterAllReads]
      else .again

/-- What is done in a run of reads. -/
inductive RunStep where
  | wait (delay : Duration)
  | read
  deriving DecidableEq

/-- The delay of a step that waits. -/
def RunStep.delay? : RunStep → Option Duration
  | .wait delay => some delay
  | .read => none

/-- What a run of reads gives: how it ended, what was done in order, and the warnings. -/
structure Report where
  result : Reconciled
  steps : List RunStep
  warnings : List Warning

/-- The waits in order. -/
def Report.waits (r : Report) : List Duration := r.steps.filterMap RunStep.delay?

/-- The number of reads. -/
def Report.reads (r : Report) : Nat := r.steps.count .read

/-- A read and the wait before it; an empty wait is none. -/
def stepsOfRead (p : RetryPolicy) (attempt : Nat) : List RunStep :=
  if (p.delayBefore attempt 0).isZero then [.read] else [.wait (p.delayBefore attempt 0), .read]

/-- Reads from number `attempt` on, with `further` more reads after that one. -/
def readsFrom {σ : Type} (p : RetryPolicy) (change : Change) (cached : Option Item)
    (read : σ → Read × σ) : (further attempt : Nat) → σ → Report × σ
  | further, attempt, s =>
      let (r, s) := read s
      match judge change cached further r, further with
      | .done result warnings, _ => (⟨result, stepsOfRead p attempt, warnings⟩, s)
      | .again, 0 => (⟨.absent, stepsOfRead p attempt, []⟩, s)
      | .again, further + 1 =>
          let (rest, s) := readsFrom p change cached read further (attempt + 1) s
          (⟨rest.result, stepsOfRead p attempt ++ rest.steps, rest.warnings⟩, s)

/-- **Reads until the change shows.**  There is always at least one read. -/
def reconcile {σ : Type} (p : RetryPolicy) (change : Change) (cached : Option Item)
    (read : σ → Read × σ) (s : σ) : Report × σ :=
  readsFrom p change cached read (p.maxAttempts - 1) 1 s

end ContentSync
