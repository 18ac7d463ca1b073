import ContentSync.GraphQL.ClientError

/-!
# Retry policy

When a request fails in a way that may pass, the policy says whether to try again and how long to
wait first.  The delay is fixed, or doubles from one attempt to the next up to a bound; a random
delay of at most `maxJitter` is added, and a delay that the server asked for is always respected.

* `RetryPolicy.delayBefore` — the wait before an attempt; the first attempt never waits.
* `RetryPolicy.decide` — what to do after a failed attempt.

Counts of milliseconds are held in words of 64 bits, and exponents in words of 32 bits.  What does
not fit is replaced by the largest word, which is no smaller than any bound.
-/

namespace ContentSync.GraphQL

/-- Which operations may be tried again. -/
inductive RetryStrategy where
  | never
  /-- Only operations that may be carried out twice without harm. -/
  | idempotentOnly
  | always
  deriving DecidableEq

/-- How delays grow. -/
inductive Backoff where
  /-- The same delay before every retry. -/
  | fixed (delay : Duration)
  /-- A delay that starts at `base`, doubles each time and never exceeds `bound`. -/
  | exponential (base bound : Duration)
  deriving DecidableEq

/-- A retry policy. -/
structure RetryPolicy where
  /-- The number of attempts, the first one included. -/
  maxAttempts : Nat
  backoff : Backoff
  maxJitter : Duration
  strategy : RetryStrategy
  deriving DecidableEq

/-- What to do after a failed attempt. -/
inductive RetryDecision where
  | stop
  | retryAfter (delay : Duration)
  deriving DecidableEq

/-- The largest word of 64 bits. -/
def maxWord : Nat := Nat.pow 2 64 - 1

/-- The largest word of 32 bits. -/
def maxHalfWord : Nat := Nat.pow 2 32 - 1

/-- A power of two, or the largest word if it does not fit one. -/
def powerOfTwo (exponent : Nat) : Nat := if exponent < 64 then Nat.pow 2 exponent else maxWord

/-- The milliseconds of a span, or the largest word. -/
def wordMillis (d : Duration) : Nat := min d.toMillis maxWord

namespace RetryPolicy

/-- Three attempts for operations that may be repeated, waiting 200 ms and then twice that. -/
def default : RetryPolicy :=
  ⟨3, .exponential (.millis 200) (.seconds 5), .millis 150, .idempotentOnly⟩

/-- A fixed delay without random part, for all operations. -/
def fixed (maxAttempts : Nat) (delay : Duration) : RetryPolicy :=
  ⟨maxAttempts, .fixed delay, .zero, .always⟩

/-- A single attempt. -/
def noRetry : RetryPolicy := ⟨1, .fixed .zero, .zero, .never⟩

/-- **The delay without its random part.** -/
def plainDelay (p : RetryPolicy) (attempt : Nat) : Duration :=
  if attempt ≤ 1 then .zero
  else
    match p.backoff with
    | .fixed delay => delay
    | .exponential base bound =>
        let factor := powerOfTwo (min (attempt - 2) maxHalfWord)
        (Duration.millis (min (wordMillis base * factor) maxWord)).min bound

/-- The random part made from a drawn number: at most `maxJitter`, in whole milliseconds. -/
def jitter (p : RetryPolicy) (draw : Nat) : Duration :=
  if p.maxJitter.isZero then .zero else .millis (draw % (wordMillis p.maxJitter + 1))

/-- The wait before an attempt, counted from one. -/
def delayBefore (p : RetryPolicy) (attempt draw : Nat) : Duration :=
  if attempt ≤ 1 then .zero else (p.plainDelay attempt).add (p.jitter draw)

/-- **What to do after attempt number `attempt` failed.** -/
def decide (p : RetryPolicy) (error : ClientError) (attempt : Nat) (idempotent : Bool)
    (draw : Nat) : RetryDecision :=
  if p.maxAttempts ≤ attempt || !error.isRetryable then .stop
  else
    match p.strategy, idempotent with
    | .never, _ => .stop
    | .idempotentOnly, false => .stop
    | _, _ =>
        let delay := p.delayBefore (attempt + 1) draw
        .retryAfter <| match error.retryAfter with
          | some hint => hint.max delay
          | none => delay

end RetryPolicy

end ContentSync.GraphQL
