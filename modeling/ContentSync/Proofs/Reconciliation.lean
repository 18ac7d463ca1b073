import ContentSync.Content.Reconcile
import Mathlib.Tactic.Lemma

/-!
# A run of reads ends at its first decisive read

What a run of reads does is decided by the answers that its source would give one after another.  A
read that shows an old copy is followed by another one while reads are left; the first read that
shows anything else is the last.

* `afterReads`, `answer` — a source after some reads, and what it answers then.
* `Read.isStale`, `Read.outcome`, `Read.warnings` — what a read means for the run.
* `LastRead` — the number of stale reads before the last one.
* `reconcile_eq` — a whole run in terms of the read that ends it.
* `reconcile_first_decisive` — the run at a fixed delay, with its waits.
-/

namespace ContentSync

open GraphQL (RetryPolicy)

section Answers

variable {σ : Type}

/-- A source after some reads. -/
def afterReads (read : σ → Read × σ) (s : σ) : Nat → σ
  | 0 => s
  | n + 1 => afterReads read (read s).2 n

/-- What a source answers after some reads. -/
def answer (read : σ → Read × σ) (s : σ) (n : Nat) : Read := (read (afterReads read s n)).1

lemma answer_zero (read : σ → Read × σ) (s : σ) : answer read s 0 = (read s).1 := rfl

lemma answer_succ (read : σ → Read × σ) (s : σ) (n : Nat) :
    answer read s (n + 1) = answer read (read s).2 n := rfl

/-- What no read changes, several reads do not change. -/
lemma afterReads_same {α : Type} {read : σ → Read × σ} {view : σ → α}
    (h : ∀ s, view (read s).2 = view s) (s : σ) (n : Nat) :
    view (afterReads read s n) = view s := by
  induction n generalizing s with
  | zero => rfl
  | succ n ih => exact (ih (read s).2).trans (h s)

/-- The read that comes next gives the answer and the source after it. -/
lemma read_afterReads (read : σ → Read × σ) (s : σ) (n : Nat) :
    read (afterReads read s n) = (answer read s n, afterReads read s (n + 1)) := by
  induction n generalizing s with
  | zero => rfl
  | succ n ih => exact ih (read s).2

end Answers

/-! ## What a read means -/

namespace Read

/-- Whether a read shows a copy without the change. -/
def isStale (change : Change) (cached : Option Item) : Read → Bool
  | .item copy => !isFresh change copy cached
  | .missing => false
  | .failed => false

/-- How a run ends that ends with this read. -/
def outcome (change : Change) (cached : Option Item) : Read → Reconciled
  | .item copy => if isFresh change copy cached then .fresh copy else .exhausted copy
  | .missing => .absent
  | .failed => .absent

/-- What is warned of in a run that ends with this read. -/
def warnings (change : Change) (cached : Option Item) : Read → List Warning
  | .item copy => if isFresh change copy cached then [] else [.staleAfterAllReads]
  | .missing => []
  | .failed => [.readFailed]

end Read

section Run

variable {change : Change} {cached : Option Item}

/-- Only a stale read is followed by another one, and only while reads are left. -/
lemma judge_eq (change : Change) (cached : Option Item) (further : Nat) (r : Read) :
    judge change cached further r =
      if r.isStale change cached ∧ further ≠ 0 then .again
      else .done (r.outcome change cached) (r.warnings change cached) := by
  cases r with
  | missing => simp [judge, Read.isStale, Read.outcome, Read.warnings]
  | failed => simp [judge, Read.isStale, Read.outcome, Read.warnings]
  | item copy =>
      by_cases hfresh : isFresh change copy cached
      · simp [judge, Read.isStale, Read.outcome, Read.warnings, hfresh]
      · by_cases hfurther : further = 0 <;>
          simp [judge, Read.isStale, Read.outcome, Read.warnings, hfresh, hfurther]

/-- **The read that ends a run**: the first one that is not stale, or the last one that is allowed
when all are.  It comes after `stale` others, and `further` reads may follow the first. -/
structure LastRead (change : Change) (cached : Option Item) (answers : Nat → Read)
    (further stale : Nat) : Prop where
  within : stale ≤ further
  before : ∀ i < stale, (answers i).isStale change cached
  decisive : (answers stale).isStale change cached → stale = further

/-- What is done from read number `attempt` on when `stale` reads come before the last one. -/
def stepsFrom (p : RetryPolicy) : (attempt stale : Nat) → List RunStep
  | attempt, 0 => stepsOfRead p attempt
  | attempt, stale + 1 => stepsOfRead p attempt ++ stepsFrom p (attempt + 1) stale

variable {σ : Type} (read : σ → Read × σ)

/-- The run whose last read comes after `stale` others. -/
def runOf (p : RetryPolicy) (change : Change) (cached : Option Item) (s : σ)
    (attempt stale : Nat) : Report × σ :=
  (⟨(answer read s stale).outcome change cached, stepsFrom p attempt stale,
    (answer read s stale).warnings change cached⟩, afterReads read s (stale + 1))

/-- The induction is on the number of reads that are left; a stale read takes one of them. -/
lemma readsFrom_eq (p : RetryPolicy) (further : Nat) : ∀ (attempt : Nat) (s : σ),
    ∃ stale, LastRead change cached (answer read s) further stale ∧
      readsFrom p change cached read further attempt s =
        runOf read p change cached s attempt stale := by
  induction further with
  | zero =>
      intro attempt s
      refine ⟨0, ⟨Nat.le_refl 0, by simp, fun _ => rfl⟩, ?_⟩
      simp only [readsFrom, judge_eq, ne_eq, not_true_eq_false, and_false, if_false]
      rfl
  | succ further ih =>
      intro attempt s
      by_cases hstale : (answer read s 0).isStale change cached
      · obtain ⟨stale, hlast, hrun⟩ := ih (attempt + 1) (read s).2
        refine ⟨stale + 1, ⟨Nat.succ_le_succ hlast.within, ?_, ?_⟩, ?_⟩
        · intro i hi
          cases i with
          | zero => exact hstale
          | succ i => exact hlast.before i (Nat.lt_of_succ_lt_succ hi)
        · intro h
          exact congrArg Nat.succ (hlast.decisive h)
        · rw [answer_zero] at hstale
          simp only [readsFrom, judge_eq, hstale, hrun, ne_eq, Nat.succ_ne_zero,
            not_false_eq_true, and_self, if_true]
          rfl
      · refine ⟨0, ⟨Nat.zero_le _, by simp, fun h => absurd h hstale⟩, ?_⟩
        rw [answer_zero] at hstale
        simp only [readsFrom, judge_eq, hstale, Bool.false_eq_true, false_and, if_false]
        rfl

/-- **A whole run** in terms of the read that ends it. -/
theorem reconcile_eq (p : RetryPolicy) (change : Change) (cached : Option Item) (s : σ) :
    ∃ stale, LastRead change cached (answer read s) (p.maxAttempts - 1) stale ∧
      reconcile p change cached read s = runOf read p change cached s 1 stale :=
  readsFrom_eq read p (p.maxAttempts - 1) 1 s

/-- A run without a copy to write had no copy to show at its end. -/
lemma Read.outcome_item? (change : Change) (cached : Option Item) (r : Read) :
    (r.outcome change cached).item? =
      match r with
      | .item copy => some copy
      | .missing => none
      | .failed => none := by
  cases r with
  | missing => rfl
  | failed => rfl
  | item copy =>
      by_cases hfresh : isFresh change copy cached <;>
        simp [Read.outcome, Reconciled.item?, hfresh]

/-! ## A fixed delay -/

/-- What is done before a read that is not the first. -/
def pause (delay : Duration) : List RunStep := if delay.isZero then [] else [.wait delay]

lemma delayBefore_fixed (maxAttempts : Nat) (delay : Duration) {attempt : Nat}
    (h : 1 < attempt) (draw : Nat) :
    (RetryPolicy.fixed maxAttempts delay).delayBefore attempt draw = delay := by
  rw [RetryPolicy.delayBefore, if_neg (by omega), RetryPolicy.plainDelay, if_neg (by omega)]
  rfl

lemma stepsOfRead_fixed (maxAttempts : Nat) (delay : Duration) {attempt : Nat}
    (h : 1 < attempt) :
    stepsOfRead (.fixed maxAttempts delay) attempt = pause delay ++ [.read] := by
  rw [stepsOfRead, delayBefore_fixed maxAttempts delay h, pause]
  split <;> rfl

lemma stepsFrom_fixed (maxAttempts : Nat) (delay : Duration) (stale : Nat) :
    ∀ {attempt : Nat}, 1 < attempt → stepsFrom (.fixed maxAttempts delay) attempt stale =
      (List.replicate (stale + 1) (pause delay ++ [.read])).flatten := by
  induction stale with
  | zero =>
      intro attempt h
      simp [stepsFrom, stepsOfRead_fixed maxAttempts delay h]
  | succ stale ih =>
      intro attempt h
      rw [stepsFrom, stepsOfRead_fixed maxAttempts delay h, ih (Nat.lt_succ_of_lt h),
        List.replicate_succ (n := stale + 1), List.flatten_cons]

/-- The first read is never waited for. -/
lemma stepsFrom_fixed_one (maxAttempts : Nat) (delay : Duration) (stale : Nat) :
    stepsFrom (.fixed maxAttempts delay) 1 stale =
      .read :: (List.replicate stale (pause delay ++ [.read])).flatten := by
  have hfirst : stepsOfRead (.fixed maxAttempts delay) 1 = [.read] := rfl
  cases stale with
  | zero => exact hfirst
  | succ stale =>
      rw [stepsFrom, hfirst, stepsFrom_fixed maxAttempts delay stale (Nat.lt_succ_self 1),
        List.singleton_append]

/-- **A run of reads ends at its first decisive read and nowhere else.**  Whatever the source
answers, there are `stale` reads that show an old copy, and one more:

* `stale` is less than the number of reads that are allowed, of which there is at least one;
* the source is read `stale + 1` times, and the delay is waited before every read but the first;
* the last read decides how the run ends and what is warned of.  When it shows an old copy too, it
  is the last one that is allowed. -/
theorem reconcile_first_decisive (change : Change) (cached : Option Item) (maxAttempts : Nat)
    (delay : Duration) (s : σ) :
    ∃ stale, stale < max maxAttempts 1 ∧
      (∀ i < stale, ∃ copy, answer read s i = .item copy ∧ ¬ isFresh change copy cached) ∧
      ∃ result warnings,
        reconcile (.fixed maxAttempts delay) change cached read s =
          (⟨result, .read :: (List.replicate stale (pause delay ++ [.read])).flatten, warnings⟩,
            afterReads read s (stale + 1)) ∧
        match answer read s stale with
        | .missing => result = .absent ∧ warnings = []
        | .failed => result = .absent ∧ warnings = [.readFailed]
        | .item copy =>
            if isFresh change copy cached then result = .fresh copy ∧ warnings = []
            else stale + 1 = max maxAttempts 1 ∧ result = .exhausted copy ∧
              warnings = [.staleAfterAllReads] := by
  obtain ⟨stale, hlast, hrun⟩ :=
    reconcile_eq read (.fixed maxAttempts delay) change cached s
  have hattempts : (RetryPolicy.fixed maxAttempts delay).maxAttempts = maxAttempts := rfl
  rw [hattempts] at hlast
  have hwithin := hlast.within
  refine ⟨stale, by omega, ?_, (answer read s stale).outcome change cached,
    (answer read s stale).warnings change cached, ?_, ?_⟩
  · intro i hi
    have hstale := hlast.before i hi
    cases hread : answer read s i with
    | missing => simp [hread, Read.isStale] at hstale
    | failed => simp [hread, Read.isStale] at hstale
    | item copy =>
        refine ⟨copy, rfl, ?_⟩
        simpa [hread, Read.isStale] using hstale
  · rw [hrun, runOf, stepsFrom_fixed_one]
  · have hdecisive := hlast.decisive
    cases hread : answer read s stale with
    | missing => exact ⟨rfl, rfl⟩
    | failed => exact ⟨rfl, rfl⟩
    | item copy =>
        by_cases hfresh : isFresh change copy cached
        · simp [Read.outcome, Read.warnings, hfresh]
        · have hfull : stale = maxAttempts - 1 := hdecisive (by simp [hread, Read.isStale, hfresh])
          simp [Read.outcome, Read.warnings, hfresh]
          omega

end Run

end ContentSync
