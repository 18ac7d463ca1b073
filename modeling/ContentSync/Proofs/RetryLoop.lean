import ContentSync.Proofs.Exchange
import Mathlib.Order.Bounds.Defs

/-!
# A request is tried exactly as often as its policy says

The same request is made again as long as it fails in a way that may pass and the policy allows
another attempt.  Which attempt is the last one is therefore decided by what the network would
answer if the request were repeated without end: it is the first one after which there is a reason
to stop.

* `repeated`, `outcomeOf` — the same request again and again, and what becomes of each attempt.
* `RetryPolicy.EndsAt` — the reasons to stop; `decide_eq` finds them in the decision of the policy.
* `LongPause` — what a pause is at least.
* `attempts_run` — the attempts from one on, by induction on the attempts that may follow.
* `send_stops_first` — the last attempt of a request, its result, and the pauses.
-/

namespace ContentSync.GraphQL

open Http (Attempt Network Outcome Request)
open Json (Reader)

/-! ## Repeating a request -/

section Repeated

variable (net : Network) (request : Request) (before : List Attempt)

/-- **The first attempts of a request that is made again and again**, whatever becomes of them. -/
def repeated : Nat → List Attempt
  | 0 => []
  | n + 1 => repeated n ++ [⟨request, net.answer (before ++ repeated n) request⟩]

/-- What becomes of attempt number `n`, counted from one. -/
def outcomeOf (n : Nat) : Outcome :=
  net.answer (before ++ repeated net request before (n - 1)) request

lemma length_repeated (n : Nat) : (repeated net request before n).length = n := by
  induction n with
  | zero => rfl
  | succ n ih => rw [repeated, List.length_append, ih, List.length_singleton]

/-- One more attempt, with the attempts before it. -/
lemma append_repeated (n : Nat) :
    before ++ repeated net request before (n + 1) = before ++ repeated net request before n ++
      [⟨request, outcomeOf net request before (n + 1)⟩] := by
  rw [repeated, ← List.append_assoc]
  rfl

variable {net request before} in
lemma mem_repeated {n : Nat} {a : Attempt} (h : a ∈ repeated net request before n) :
    ∃ i, 1 ≤ i ∧ i ≤ n ∧ a = ⟨request, outcomeOf net request before i⟩ := by
  induction n with
  | zero => cases h
  | succ n ih =>
      rcases List.mem_append.mp h with hearlier | hlast
      · obtain ⟨i, hpos, hi, rfl⟩ := ih hearlier
        exact ⟨i, hpos, Nat.le_succ_of_le hi, rfl⟩
      · exact ⟨n + 1, Nat.succ_pos n, Nat.le_refl _, List.mem_singleton.mp hlast⟩

end Repeated

/-! ## Reasons to stop -/

/-- **Failures that may pass**: no reply in time, no connection, too many requests, or a server that
failed. -/
def MayPass : Outcome → Prop
  | .replied reply => reply.status = 429 ∨ (500 ≤ reply.status ∧ reply.status < 600)
  | .lost failure => failure = .timeout ∨ failure = .connect
  | .unsent failure => failure = .timeout ∨ failure = .connect

/-- The failures that may pass are those that are worth another attempt. -/
lemma mayPass_iff {outcome : Outcome} {e : ClientError} (hread : readOutcome outcome = .error e) :
    MayPass outcome ↔ e.isRetryable := by
  cases outcome with
  | replied reply =>
      rw [readOutcome] at hread
      split at hread
      · cases hread
      · cases hread
        simp [MayPass, ClientError.isRetryable, Http.tooManyRequests, Http.isServerError]
  | lost failure | unsent failure =>
      cases hread
      cases failure <;> simp [MayPass, ClientError.isRetryable]

namespace RetryPolicy

/-- Whether operations of a kind may be repeated at all. -/
def Permits (p : RetryPolicy) (idempotent : Bool) : Prop :=
  p.strategy = .always ∨ (p.strategy = .idempotentOnly ∧ idempotent = true)

instance (p : RetryPolicy) (idempotent : Bool) : Decidable (p.Permits idempotent) :=
  inferInstanceAs (Decidable (_ ∨ _))

/-- **Whether attempt number `n` is the last one**: it got a complete reply that is a success, or it
failed in a way that does not pass, or with the last attempt allowed, or although the operation may
not be repeated. -/
def EndsAt (p : RetryPolicy) (idempotent : Bool) (n : Nat) (outcome : Outcome) : Prop :=
  match readOutcome outcome with
  | .ok _ => True
  | .error _ => ¬ MayPass outcome ∨ p.maxAttempts ≤ n ∨ ¬ p.Permits idempotent

/-- The pause after a failed attempt: the delay of the policy, or a longer one that the server asked
for. -/
def pauseAfter (p : RetryPolicy) (error : ClientError) (n draw : Nat) : Duration :=
  match error.retryAfter with
  | some hint => hint.max (p.delayBefore (n + 1) draw)
  | none => p.delayBefore (n + 1) draw

/-- **The decision of a policy**: another attempt just when there is no reason to stop. -/
lemma decide_eq (p : RetryPolicy) (error : ClientError) (n : Nat) (idempotent : Bool) (draw : Nat) :
    p.decide error n idempotent draw =
      if error.isRetryable ∧ n < p.maxAttempts ∧ p.Permits idempotent then
        .retryAfter (p.pauseAfter error n draw)
      else .stop := by
  obtain ⟨maxAttempts, backoff, maxJitter, strategy⟩ := p
  by_cases hmay : error.isRetryable ∧ n < maxAttempts
  · obtain ⟨hretryable, hlt⟩ := hmay
    have hallowed : ¬ maxAttempts ≤ n := Nat.not_le_of_lt hlt
    cases hhint : error.retryAfter <;> cases strategy with
    | never | always => simp [decide, Permits, pauseAfter, hhint, hretryable, hlt, hallowed]
    | idempotentOnly =>
        cases idempotent <;>
          simp [decide, Permits, pauseAfter, hhint, hretryable, hlt, hallowed]
  · rw [if_neg fun h => hmay ⟨h.1, h.2.1⟩]
    refine if_pos ?_
    rw [Classical.not_and_iff_not_or_not, Bool.not_eq_true, Nat.not_lt] at hmay
    simpa [or_comm] using hmay

/-- An operation that may not be repeated ends with any attempt. -/
lemma endsAt_of_not_permits {p : RetryPolicy} {idempotent : Bool} (h : ¬ p.Permits idempotent)
    (n : Nat) (outcome : Outcome) : p.EndsAt idempotent n outcome := by
  rw [EndsAt]
  split
  · trivial
  · exact .inr (.inr h)

/-- An attempt that is not the last one failed in a way that may pass. -/
lemma mayPass_of_not_endsAt {p : RetryPolicy} {idempotent : Bool} {n : Nat} {outcome : Outcome}
    (h : ¬ p.EndsAt idempotent n outcome) : MayPass outcome := by
  rw [EndsAt] at h
  split at h
  · exact absurd trivial h
  · exact Classical.byContradiction fun hno => h (.inl hno)

end RetryPolicy

/-! ## Pauses -/

/-- **A pause before another attempt** is no shorter than the delay of the policy without its random
part, and no shorter than the one that the failed reply asks for. -/
structure LongPause (p : RetryPolicy) (n : Nat) (outcome : Outcome) (pause : Duration) : Prop where
  plain : (p.plainDelay (n + 1)).nanos ≤ pause.nanos
  hint : ∀ reply hint, outcome = .replied reply → reply.pause = some hint →
    hint.nanos ≤ pause.nanos

lemma plainDelay_le_delayBefore (p : RetryPolicy) (n draw : Nat) :
    (p.plainDelay n).nanos ≤ (p.delayBefore n draw).nanos := by
  rw [RetryPolicy.delayBefore]
  split
  · next hfirst =>
      have hnone : p.plainDelay n = .zero := by rw [RetryPolicy.plainDelay, if_pos hfirst]
      exact Nat.le_of_eq (congrArg Duration.nanos hnone)
  · exact Nat.le_add_right _ _

lemma longPause_pauseAfter {outcome : Outcome} {e : ClientError} (p : RetryPolicy)
    (hread : readOutcome outcome = .error e) (n draw : Nat) :
    LongPause p n outcome (p.pauseAfter e n draw) := by
  have hdelay := plainDelay_le_delayBefore p (n + 1) draw
  refine ⟨?_, ?_⟩
  · rw [RetryPolicy.pauseAfter]
    split
    · rw [Duration.max]
      split
      · exact hdelay
      · next hshorter => exact Nat.le_trans hdelay (Nat.le_of_not_le hshorter)
    · exact hdelay
  · rintro reply hint rfl hhint
    rw [readOutcome] at hread
    split at hread
    · cases hread
    · cases hread
      rw [RetryPolicy.pauseAfter, ClientError.retryAfter, hhint]
      dsimp only
      rw [Duration.max]
      split
      · next hlonger => exact hlonger
      · exact Nat.le_refl _

/-! ## The attempts of a request -/

section Attempts

variable {c : Client} {net : Network} {request : Request} {idempotent : Bool}

/-- **What the attempts from number `first` on do**, after `before` and the attempts up to that one:
number `last` is the last of them. -/
structure AttemptsTo (c : Client) (net : Network) (request : Request) (idempotent : Bool)
    (before : List Attempt) (first last : Nat) (j : Journal)
    (run : Except ClientError ByteArray × Journal) : Prop where
  first_le : first ≤ last
  ends : c.retry.EndsAt idempotent last (outcomeOf net request before last)
  goes_on : ∀ n, first ≤ n → n < last →
    ¬ c.retry.EndsAt idempotent n (outcomeOf net request before n)
  result : run.1 = readOutcome (outcomeOf net request before last)
  attempts : run.2.attempts = before ++ repeated net request before last
  pauses : ∃ pauses, run.2.pauses = j.pauses ++ pauses ∧ first + pauses.length = last ∧
    ∀ i pause, pauses[i]? = some pause →
      LongPause c.retry (first + i) (outcomeOf net request before (first + i)) pause

/-- The attempt at hand is the last one. -/
lemma AttemptsTo.here {before : List Attempt} {n : Nat} {j j' : Journal}
    (hends : c.retry.EndsAt idempotent n (outcomeOf net request before n))
    (hattempts : j'.attempts = before ++ repeated net request before n)
    (hpauses : j'.pauses = j.pauses) :
    AttemptsTo c net request idempotent before n n j
      (readOutcome (outcomeOf net request before n), j') where
  first_le := Nat.le_refl n
  ends := hends
  goes_on i hle hlt := absurd hle (Nat.not_le_of_lt hlt)
  result := rfl
  attempts := hattempts
  pauses := ⟨[], by rw [hpauses, List.append_nil], rfl, fun i pause h => by cases h⟩

/-- The attempt at hand is followed by others, after a pause. -/
lemma AttemptsTo.further {before : List Attempt} {n last : Nat} {j j' : Journal} {pause : Duration}
    {run : Except ClientError ByteArray × Journal}
    (hon : ¬ c.retry.EndsAt idempotent n (outcomeOf net request before n))
    (hpause : LongPause c.retry n (outcomeOf net request before n) pause)
    (hpauses : j'.pauses = j.pauses ++ [pause])
    (h : AttemptsTo c net request idempotent before (n + 1) last j' run) :
    AttemptsTo c net request idempotent before n last j run where
  first_le := Nat.le_of_succ_le h.first_le
  ends := h.ends
  goes_on i hle hlt := by
    rcases Nat.eq_or_lt_of_le hle with rfl | hlater
    · exact hon
    · exact h.goes_on i hlater hlt
  result := h.result
  attempts := h.attempts
  pauses := by
    obtain ⟨rest, hrest, hlength, hlong⟩ := h.pauses
    refine ⟨pause :: rest, ?_, ?_, ?_⟩
    · rw [hrest, hpauses, List.append_assoc, List.singleton_append]
    · rw [List.length_cons]
      omega
    · intro i other hi
      cases i with
      | zero =>
          cases hi
          exact hpause
      | succ i =>
          have hnext := hlong i other hi
          rwa [Nat.succ_add_eq_add_succ] at hnext

/-- **The attempts from one on.**  The induction is on the attempts that may follow, which are those
that the policy allows beyond the one at hand. -/
theorem attempts_run (c : Client) (net : Network) (request : Request) (idempotent : Bool)
    (before : List Attempt) (further : Nat) :
    ∀ (n : Nat) (j : Journal), further = c.retry.maxAttempts - (n + 1) →
      j.attempts = before ++ repeated net request before n →
      ∃ last ≤ max (n + 1) c.retry.maxAttempts,
        AttemptsTo c net request idempotent before (n + 1) last j
          (c.attempts net request idempotent further (n + 1) j) := by
  induction further with
  | zero =>
      intro n j hfurther hattempts
      have houtcome : net.answer j.attempts request = outcomeOf net request before (n + 1) := by
        rw [hattempts]
        rfl
      refine ⟨n + 1, Nat.le_max_left _ _, ?_⟩
      rw [Client.attempts]
      dsimp only
      rw [houtcome]
      refine .here ?_ ?_ rfl
      · rw [RetryPolicy.EndsAt]
        split
        · trivial
        · exact .inr (.inl (by omega))
      · rw [append_repeated, ← hattempts]
  | succ further ih =>
      intro n j hfurther hattempts
      have houtcome : net.answer j.attempts request = outcomeOf net request before (n + 1) := by
        rw [hattempts]
        rfl
      have htried : j.attempts ++ [⟨request, outcomeOf net request before (n + 1)⟩] =
          before ++ repeated net request before (n + 1) := by
        rw [append_repeated, ← hattempts]
      rw [Client.attempts]
      dsimp only
      rw [houtcome, htried]
      have hhere : ∀ reason, readOutcome (outcomeOf net request before (n + 1)) = reason →
          c.retry.EndsAt idempotent (n + 1) (outcomeOf net request before (n + 1)) →
          AttemptsTo c net request idempotent before (n + 1) (n + 1) j
            (reason, { j with attempts := before ++ repeated net request before (n + 1) }) := by
        rintro _ rfl hends
        exact .here hends rfl rfl
      cases hread : readOutcome (outcomeOf net request before (n + 1)) with
      | ok body =>
          refine ⟨n + 1, Nat.le_max_left _ _, hhere _ hread ?_⟩
          rw [RetryPolicy.EndsAt, hread]
          trivial
      | error e =>
          dsimp only
          rw [RetryPolicy.decide_eq]
          have hends : c.retry.EndsAt idempotent (n + 1) (outcomeOf net request before (n + 1)) ↔
              ¬ (e.isRetryable ∧ n + 1 < c.retry.maxAttempts ∧ c.retry.Permits idempotent) := by
            rw [RetryPolicy.EndsAt, hread, ← mayPass_iff hread, Classical.not_and_iff_not_or_not,
              Classical.not_and_iff_not_or_not, Nat.not_lt]
          by_cases hagain : e.isRetryable ∧ n + 1 < c.retry.maxAttempts ∧ c.retry.Permits idempotent
          · rw [if_pos hagain]
            obtain ⟨last, hlast, hrun⟩ := ih (n + 1)
              { j with
                attempts := before ++ repeated net request before (n + 1)
                pauses := j.pauses ++ [c.retry.pauseAfter e (n + 1)
                  (net.draw (before ++ repeated net request before (n + 1)))]
                stats := { j.stats with retried := j.stats.retried + 1 } } (by omega) rfl
            exact ⟨last, by omega, hrun.further (fun h => hends.mp h hagain)
              (longPause_pauseAfter c.retry hread _ _) rfl⟩
          · rw [if_neg hagain]
            exact ⟨n + 1, Nat.le_max_left _ _, hhere _ hread (hends.mpr hagain)⟩

/-- The last attempt is the first one after which there is a reason to stop. -/
lemma AttemptsTo.isLeast {before : List Attempt} {k : Nat} {j : Journal}
    {run : Except ClientError ByteArray × Journal}
    (h : AttemptsTo c net request idempotent before 1 k j run) :
    IsLeast {n | 1 ≤ n ∧ c.retry.EndsAt idempotent n (outcomeOf net request before n)} k :=
  ⟨⟨h.first_le, h.ends⟩, fun n hn => Nat.le_of_not_lt fun hlt => h.goes_on n hn.1 hlt hn.2⟩

end Attempts

/-! ## Requests -/

/-- **What the outcome of the last attempt means for a request**: the reply if it can be read, or
what went wrong. -/
def responseTo {α : Type} (r : Reader α) (outcome : Outcome) : Except ClientError (Response α) :=
  match readOutcome outcome with
  | .error e => .error e
  | .ok body =>
      match (Response.reader r).ofBytes body with
      | .ok response => .ok response
      | .error err => .error (.json err.message)

section Requests

variable {α : Type}

/-- What a request makes of the octets that its attempts give. -/
lemma roundTrip_eq (c : Client) (net : Network) (e : Envelope) (r : Reader α) (idempotent : Bool)
    (j : Journal) :
    c.roundTrip net e r idempotent j =
      ((c.post net e.render idempotent j).1 >>= fun body =>
        match (Response.reader r).ofBytes body with
        | .ok response => .ok response
        | .error err => .error (.json err.message), (c.post net e.render idempotent j).2) := by
  rw [Client.roundTrip]
  simp only [bind, ExceptT.bind, ExceptT.mk, ExceptT.bindCont, StateT.bind]
  rcases c.post net e.render idempotent j with ⟨_ | body, j₁⟩
  · rfl
  · dsimp only [Except.bind]
    cases (Response.reader r).ofBytes body <;> rfl

/-- The attempts to post a body, and what becomes of the octets that they give. -/
lemma roundTrip_attempts (c : Client) (net : Network) (e : Envelope) (r : Reader α)
    (idempotent : Bool) (j : Journal) :
    ∃ k ≤ max 1 c.retry.maxAttempts, ∃ posted,
      AttemptsTo c net (c.request e.render) idempotent j.attempts 1 k j posted ∧
      c.roundTrip net e r idempotent j =
        (responseTo r (outcomeOf net (c.request e.render) j.attempts k), posted.2) := by
  obtain ⟨k, hk, hrun⟩ := attempts_run c net (c.request e.render) idempotent j.attempts
    (c.retry.maxAttempts - 1) 0 j rfl (List.append_nil _).symm
  refine ⟨k, hk, _, hrun, ?_⟩
  rw [roundTrip_eq, Client.post, hrun.result, responseTo]
  cases readOutcome (outcomeOf net (c.request e.render) j.attempts k) <;> rfl

/-- **A request is tried exactly as often as its policy says.**  Its attempts are the first `k` of
the same request made again and again, where `k` is the first number at which there is a reason to
stop: a complete reply that is a success, a failure that is not worth another attempt, the last
attempt allowed, or an operation that may not be repeated.

* The outcome of attempt `k` alone decides the result.
* All earlier attempts failed in a way that may pass.
* Every further attempt comes after a pause that is no shorter than the plain delay of the policy,
  and no shorter than the one that the failed reply asks for. -/
theorem send_stops_first (c : Client) (net : Network) (e : Envelope) (r : Reader α)
    (idempotent : Bool) (j : Journal) :
    let request := c.request e.render
    let outcome := outcomeOf net request j.attempts
    let (result, j') := c.send net e r idempotent j
    ∃ k, IsLeast {n | 1 ≤ n ∧ c.retry.EndsAt idempotent n (outcome n)} k ∧
      k ≤ max 1 c.retry.maxAttempts ∧ (¬ c.retry.Permits idempotent → k = 1) ∧
      (∃ tries, j'.attempts = j.attempts ++ tries ∧ tries = repeated net request j.attempts k ∧
        tries.length = k ∧ ∀ a ∈ tries, a.request = request) ∧
      result = responseTo r (outcome k) ∧
      (∀ n, 1 ≤ n → n < k → MayPass (outcome n)) ∧
      ∃ pauses, j'.pauses = j.pauses ++ pauses ∧ 1 + pauses.length = k ∧
        ∀ i pause, pauses[i]? = some pause →
          LongPause c.retry (1 + i) (outcome (1 + i)) pause := by
  intro request outcome
  obtain ⟨k, hk, posted, hrun, htrip⟩ := roundTrip_attempts c net e r idempotent
    { j with stats := { j.stats with sent := j.stats.sent + 1 } }
  rw [Client.send, htrip]
  have hleast : IsLeast {n | 1 ≤ n ∧ c.retry.EndsAt idempotent n (outcome n)} k := hrun.isLeast
  refine ⟨k, hleast, hk, fun hforbidden => ?_, ⟨_, hrun.attempts, rfl, length_repeated .., ?_⟩,
    rfl, fun n hn hlt => ?_, hrun.pauses⟩
  · refine Nat.le_antisymm (hleast.2 ⟨Nat.le_refl 1, ?_⟩) hrun.first_le
    exact RetryPolicy.endsAt_of_not_permits hforbidden _ _
  · intro a ha
    obtain ⟨i, -, -, rfl⟩ := mem_repeated ha
    rfl
  · exact RetryPolicy.mayPass_of_not_endsAt (hrun.goes_on n hn hlt)

end Requests

end ContentSync.GraphQL
