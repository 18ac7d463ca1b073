import ContentSync.Config
import ContentSync.Proofs.ReplayMemory

/-!
# Two windows

A delivery can be accepted while the clock is near its time of signing, at most the tolerance before
or after it.  Its signature is remembered for `replayTtl`.  The tolerance can be configured and the
memory cannot: it is a quarter of an hour.  So a delivery that comes again is refused each time only
when the first window is shut before the memory ends.

* `Steady` — a run over which both clocks go on together.
* `AcceptedOnce` — no request is accepted twice in a run.
* `near_of_accepted` — what is accepted twice is accepted within twice the tolerance.
* `accepted_again` — with a tolerance of 450 seconds there is a delivery that is accepted again.
* `acceptedOnce_iff` — for which configurations no request is ever accepted twice; an hour of
  tolerance is not among them.
-/

namespace ContentSync

/-! ## Clocks -/

/-- Nanoseconds since the start of 1970. -/
def Instant.inNanos (t : Instant) : Int := t.seconds * 1000000000 + t.nanos

lemma Instant.toMillis_eq (t : Instant) : t.toMillis = t.inNanos / 1000000 := by
  rw [toMillis, inNanos]
  omega

namespace Webhook

/-- **Both clocks go on together** over a run, and never backwards. -/
structure Steady (run : List Arrival) : Prop where
  forward : Forward run
  inStep : ∃ start : Int, ∀ a ∈ run, a.clock.now.inNanos = start + a.clock.elapsed.nanos

/-- The same signed request: the same signature header and the same body. -/
structure SameRequest (d d' : Delivery) : Prop where
  header : headerValue? d.headers signatureHeader = headerValue? d'.headers signatureHeader
  body : d.body = d'.body

/-- **No request is accepted twice** in a run. -/
def AcceptedOnce (h : Handler) (run : List Arrival) : Prop :=
  ∀ earlier a middle b later first second, run = earlier ++ a :: middle ++ b :: later →
    SameRequest a.delivery b.delivery → h.answerAfter earlier a = .ok first →
    h.answerAfter (earlier ++ a :: middle) b ≠ .ok second

/-! ## The first window -/

/-- Two moments near one time of signing are near each other.  The clocks count whole milliseconds
here, so that almost one more may lie between them. -/
lemma near_of_timely {config : IntakeConfig} {now later : Instant} {timestamp : Int}
    (hnow : Timely config now timestamp) (hlater : Timely config later timestamp) :
    later.inNanos - now.inNanos < 2 * config.timestampTolerance.nanos + 1000000 := by
  rw [Timely, Duration.millis, Instant.toMillis_eq] at hnow hlater
  dsimp only at hnow hlater
  omega

section Windows

variable {h : Handler} {v : Verifier} {earlier middle later : List Arrival} {a b : Arrival}
  {first second : Event}

/-- **What is accepted twice** is accepted with one signature, and within twice the tolerance. -/
lemma near_of_accepted (hv : h.verifier = some v) (hsame : SameRequest a.delivery b.delivery)
    (hfirst : h.answerAfter earlier a = .ok first)
    (hsecond : h.answerAfter (earlier ++ a :: middle) b = .ok second) :
    first.id = second.id ∧ b.clock.now.inNanos - a.clock.now.inNanos <
      2 * h.config.timestampTolerance.nanos + 1000000 := by
  obtain ⟨s, payload, hs, -, rfl⟩ := (Handler.receive_ok_iff hv).mp hfirst
  obtain ⟨s', payload', hs', -, rfl⟩ := (Handler.receive_ok_iff hv).mp hsecond
  rw [Handler.Passes, ← hsame.header] at hs'
  obtain rfl := hs.toStamped.unique hs'.toStamped
  exact ⟨rfl, near_of_timely hs.timely hs'.timely⟩

/-- No request is accepted twice when the memory lasts longer than the first window. -/
lemma acceptedOnce_of_memory (hv : h.verifier = some v) (hguard : h.config.replayProtection)
    (hlong : 2 * h.config.timestampTolerance.nanos + 1000000 ≤ h.config.replayTtl.nanos)
    {run : List Arrival} (hrun : Steady run) : AcceptedOnce h run := by
  rintro earlier a middle b later first second rfl hsame hfirst hsecond
  obtain ⟨hid, hnear⟩ := near_of_accepted hv hsame hfirst hsecond
  have hspaced := Handler.spaced_of_ok hv hguard hrun.forward hfirst hsecond hid
  obtain ⟨start, hstep⟩ := hrun.inStep
  have ha := hstep a (by simp)
  have hb := hstep b (by simp)
  omega

/-- Nothing is accepted when only the empty body has an allowed size: it is no JSON. -/
lemma acceptedOnce_of_noBody (hv : h.verifier = some v)
    (hsize : h.config.maxPayloadSize = 0) (run : List Arrival) : AcceptedOnce h run := by
  rintro earlier a middle b later first second - - hfirst -
  obtain ⟨s, payload, hs, -, -⟩ := (Handler.receive_ok_iff hv).mp hfirst
  have hempty : a.delivery.body.data.size = 0 := Nat.le_zero.mp (hsize ▸ hs.fits)
  have hbody : a.delivery.body = "".toUTF8 :=
    ByteArray.ext (Array.eq_empty_of_size_eq_zero hempty)
  have hnone : Json.parseBytes? a.delivery.body = none := by
    rw [hbody, Json.parseBytes?_toUTF8]
    decide +kernel
  cases hnone.symm.trans hs.json

end Windows

/-! ## The second window -/

/-- A delivery that was signed 450 seconds after the start of 1970 and comes at another time. -/
def arrivalAt (secret : String) (seconds : Nat) : Arrival :=
  ⟨⟨⟨seconds, 0⟩, .seconds seconds⟩, .signed secret "0" "master" 450000⟩

lemma steady_arrivals (secret : String) : Steady [arrivalAt secret 0, arrivalAt secret 900] := by
  refine ⟨List.pairwise_pair.mpr (Nat.zero_le _), 0, fun a ha => ?_⟩
  simp only [List.mem_cons, List.not_mem_nil, or_false] at ha
  rcases ha with rfl | rfl <;> simp [arrivalAt, Instant.inNanos, Duration.seconds]

/-- Until 450 seconds after its time of signing, the delivery passes. -/
lemma passes_arrivalAt (secret : String) {limits : IntakeLimits} {seconds : Nat}
    (htolerance : 450 ≤ limits.toleranceSeconds) (hsize : 0 < limits.maxPayloadSize)
    (hseconds : seconds ≤ 900) :
    Handler.Passes ⟨secret.toUTF8⟩ limits.toIntake (arrivalAt secret seconds).clock.now
      (arrivalAt secret seconds).delivery (.ofText ⟨secret.toUTF8⟩ "0" "master" 450000)
      (.int 0) := by
  refine passes_signed secret (by decide) (by decide) (by decide) hsize ?_
    (by decide +kernel)
  have hdistance : ((seconds : Int) * 1000 - 450000).natAbs ≤ 450000 := by omega
  simp only [Timely, arrivalAt, Instant.toMillis, Duration.millis, IntakeLimits.toIntake,
    Duration.seconds]
  omega

/-- **With a tolerance of 450 seconds** a delivery that comes as early as possible and again as late
as possible is accepted both times. -/
lemma accepted_again {secret : String} (hsecret : secret ≠ "") {limits : IntakeLimits}
    (htolerance : 450 ≤ limits.toleranceSeconds) (hsize : 0 < limits.maxPayloadSize) :
    ¬ AcceptedOnce (.new (some secret) limits.toIntake)
      [arrivalAt secret 0, arrivalAt secret 900] := by
  intro honce
  have hv := Handler.verifier_new hsecret limits.toIntake
  have hguard : limits.toIntake.replayProtection := rfl
  obtain ⟨first, hfirst⟩ : ∃ first, (Handler.new (some secret) limits.toIntake).answerAfter []
      (arrivalAt secret 0) = .ok first :=
    ⟨_, Handler.answerAfter_of_new hv hguard (by simp)
      (passes_arrivalAt secret htolerance hsize (by decide)) Handler.not_acceptedWithin_nil⟩
  have hbefore : ∀ b ∈ [arrivalAt secret 0],
      b.clock.elapsed.nanos ≤ (arrivalAt secret 900).clock.elapsed.nanos := by
    simp [arrivalAt, Duration.seconds]
  have hexpired : ¬ (Handler.new (some secret) limits.toIntake).AcceptedWithin
      [arrivalAt secret 0] (arrivalAt secret 900).clock.elapsed
      (StampedSignature.ofText ⟨secret.toUTF8⟩ "0" "master" 450000).digest := by
    rw [← List.nil_append [arrivalAt secret 0], Handler.acceptedWithin_concat]
    rintro (hnil | ⟨-, -, -, hfresh⟩)
    · exact Handler.not_acceptedWithin_nil hnil
    · exact absurd hfresh (Nat.lt_irrefl _)
  have hsecond := Handler.answerAfter_of_new hv hguard hbefore
    (passes_arrivalAt secret htolerance hsize (by decide)) hexpired
  exact honce [] _ [] _ [] first _ rfl ⟨rfl, rfl⟩ hfirst hsecond

/-- **No request is ever accepted twice** exactly when the tolerance is below 450 seconds, or when
nothing at all can be accepted because no body has an allowed size. -/
theorem acceptedOnce_iff {c : Config} {secret : String} (hsecret : c.webhookSecret = some secret)
    (hne : secret ≠ "") :
    (∀ run, Steady run → AcceptedOnce (.new c.webhookSecret c.webhook.toIntake) run) ↔
      c.webhook.toleranceSeconds < 450 ∨ c.webhook.maxPayloadSize = 0 := by
  rw [hsecret]
  have hv := Handler.verifier_new hne c.webhook.toIntake
  have hguard : c.webhook.toIntake.replayProtection := rfl
  constructor
  · intro honce
    by_contra hlimits
    obtain ⟨htolerance, hsize⟩ := not_or.mp hlimits
    exact accepted_again hne (Nat.not_lt.mp htolerance) (Nat.pos_of_ne_zero hsize)
      (honce _ (steady_arrivals secret))
  · rintro (htolerance | hsize) run hrun
    · refine acceptedOnce_of_memory hv hguard ?_ hrun
      have hmillis : 2 * (c.webhook.toleranceSeconds * 1000000000) + 1000000 ≤ 900 * 1000000000 := by
        omega
      exact hmillis
    · exact acceptedOnce_of_noBody hv hsize run

/-- A configuration with the secret `k` and a tolerance. -/
def withTolerance (seconds : Nat) : Config :=
  { Config.start with
    contentUrl := "https://content.example/graphql"
    managementUrl := "https://management.example/graphql"
    token := "token"
    projectId := "project-1"
    webhookSecret := some "k"
    webhook := { IntakeLimits.default with toleranceSeconds := seconds } }

/-- With the usual five minutes, no request is accepted twice. -/
theorem acceptedOnce_iff_usual :
    (withTolerance 300).validate = .ok () ∧ (withTolerance 300).webhookSecret = some "k" ∧
      "k" ≠ "" ∧ ∀ run, Steady run → AcceptedOnce
        (.new (withTolerance 300).webhookSecret (withTolerance 300).webhook.toIntake) run :=
  ⟨rfl, rfl, by decide, (acceptedOnce_iff rfl (by decide)).mpr (.inl (by decide))⟩

/-- **With an hour**, which is allowed, a request is accepted again a quarter of an hour later. -/
theorem acceptedTwice_hour :
    (withTolerance 3600).validate = .ok () ∧ (withTolerance 3600).webhookSecret = some "k" ∧
      Steady [arrivalAt "k" 0, arrivalAt "k" 900] ∧
      ¬ AcceptedOnce (.new (withTolerance 3600).webhookSecret (withTolerance 3600).webhook.toIntake)
        [arrivalAt "k" 0, arrivalAt "k" 900] :=
  ⟨rfl, rfl, steady_arrivals "k", accepted_again (by decide) (by decide) (by decide)⟩

end Webhook

end ContentSync
