import ContentSync.Api.Basic
import ContentSync.Proofs.JsonText
import ContentSync.Proofs.RetryLoop

/-!
# Requests and their attempts

A request is tried until an attempt succeeds or the retry policy gives up, and its result is what
the outcome of the last attempt says, however often it was tried before.  An operation that may not
be carried out twice is tried once.

* `Answered` — attempts whose outcomes are what the network answers.
* `Requested` — the attempts of one request: failed ones, and the last one.
* `answerTo` — what an outcome means for a request; `answerTo_json_iff` compares it with `dataOf`.
* `ask_requested` — the attempts and the result of a request.
* `ofExchange_requested` — the same for a request as an action on the two sides.
* `SentOnce` — one request with one attempt; `retry_of_api` tells what the clients of a project
  repeat.
-/

namespace ContentSync.GraphQL

open Http (Attempt Network Outcome)
open Json (Reader)

/-! ## Attempts -/

/-- **Attempts one after another**, each with the outcome that the network answers. -/
def Answered (net : Network) : List Attempt → List Attempt → Prop
  | _, [] => True
  | before, a :: rest =>
      a.outcome = net.answer before a.request ∧ Answered net (before ++ [a]) rest

lemma answered_append {net : Network} {before as bs : List Attempt} :
    Answered net before (as ++ bs) ↔
      Answered net before as ∧ Answered net (before ++ as) bs := by
  induction as generalizing before with
  | nil => simp [Answered]
  | cons a as ih => simp [Answered, ih, and_assoc]

/-- A failed attempt that is worth another one. -/
def Transient (outcome : Outcome) : Prop :=
  ∃ e, readOutcome outcome = .error e ∧ e.isRetryable

/-- **The attempts of one request**: `failed` ones that were worth another, and a last one with an
outcome.  They all carry the same body. -/
structure Requested (c : Client) (net : Network) (body : String) (idempotent : Bool)
    (before failed : List Attempt) (outcome : Outcome) : Prop where
  answered : Answered net before (failed ++ [⟨c.request body, outcome⟩])
  transient : ∀ a ∈ failed, a.request = c.request body ∧ Transient a.outcome
  /-- Without leave to repeat there is one attempt. -/
  once : idempotent = false → c.retry.strategy ≠ .always → failed = []

section Attempts

variable {c : Client} {net : Network}

lemma answered_repeated (net : Network) (request : Http.Request) (before : List Attempt) (n : Nat) :
    Answered net before (repeated net request before n) := by
  induction n with
  | zero => trivial
  | succ n ih => exact answered_append.mpr ⟨ih, rfl, trivial⟩

/-- An attempt that is not the last one is worth another. -/
lemma transient_of_not_endsAt {p : RetryPolicy} {idempotent : Bool} {n : Nat} {outcome : Outcome}
    (h : ¬ p.EndsAt idempotent n outcome) : Transient outcome := by
  have hpass := RetryPolicy.mayPass_of_not_endsAt h
  rw [RetryPolicy.EndsAt] at h
  split at h
  · exact absurd trivial h
  · next e hread => exact ⟨e, hread, (mayPass_iff hread).mp hpass⟩

/-- The attempts that a policy leads to are those of one request: all but the last one failed. -/
lemma AttemptsTo.requested {body : String} {idempotent : Bool} {before : List Attempt} {k : Nat}
    {j : Journal} {run : Except ClientError ByteArray × Journal}
    (h : AttemptsTo c net (c.request body) idempotent before 1 k j run) :
    ∃ failed, Requested c net body idempotent before failed
        (outcomeOf net (c.request body) before k) ∧
      repeated net (c.request body) before k =
        failed ++ [⟨c.request body, outcomeOf net (c.request body) before k⟩] := by
  obtain ⟨n, rfl⟩ : ∃ n, k = n + 1 := ⟨k - 1, (Nat.sub_add_cancel h.first_le).symm⟩
  refine ⟨repeated net (c.request body) before n,
    ⟨answered_repeated net (c.request body) before (n + 1), ?_, fun hidem hstrategy => ?_⟩, rfl⟩
  · intro a ha
    obtain ⟨i, hpos, hi, rfl⟩ := mem_repeated ha
    exact ⟨rfl, transient_of_not_endsAt (h.goes_on i hpos (Nat.lt_succ_of_le hi))⟩
  · have hforbidden : ¬ c.retry.Permits idempotent := by
      rintro (halways | ⟨-, hagain⟩)
      · exact hstrategy halways
      · rw [hidem] at hagain
        cases hagain
    cases n with
    | zero => rfl
    | succ n =>
        exact absurd (RetryPolicy.endsAt_of_not_permits hforbidden 1 _)
          (h.goes_on 1 (Nat.le_refl 1) (by omega))

end Attempts

/-! ## Results -/

/-- **What an outcome means for a request**: the data of the reply, or what went wrong. -/
def answerTo {α : Type} (r : Reader α) (outcome : Outcome) : Except ClientError α := do
  let body ← readOutcome outcome
  match (Response.reader r).ofBytes body with
  | .error e => .error (.json e.message)
  | .ok response => response.intoData

lemma answerTo_eq {α : Type} (r : Reader α) (outcome : Outcome) :
    answerTo r outcome = (responseTo r outcome >>= Response.intoData) := by
  rw [answerTo, responseTo]
  cases readOutcome outcome with
  | error e => rfl
  | ok body =>
      dsimp only [bind, Except.bind]
      cases (Response.reader r).ofBytes body <;> rfl

/-- What a written value means as the body of a reply. -/
lemma answerTo_rendered {α : Type} (r : Reader α) (retryAfter : Option String) (v : Json) :
    answerTo r (.replied ⟨200, retryAfter, v.render.toUTF8⟩) =
      match (Response.reader r).whole ((Json.run [] .value v.chars).1,
        (Json.run [] .value v.chars).2.all Json.isSpace) with
      | .error e => .error (.json e.message)
      | .ok response => response.intoData := by
  rw [← Json.ofBytes_render]
  rfl

/-- Data that a reply carries are what `dataOf` finds in it. -/
lemma dataOf_eq {outcome : Outcome} {body : ByteArray} {response : Response Json} {data : Json}
    (hbody : readOutcome outcome = .ok body)
    (hread : (Response.reader .json).ofBytes body = .ok response)
    (hdata : response.intoData = .ok data) : dataOf outcome = some data := by
  obtain ⟨found, errors, extensions⟩ := response
  cases outcome with
  | lost failure => cases hbody
  | unsent failure => cases hbody
  | replied reply =>
      rw [readOutcome] at hbody
      split at hbody
      · next hsuccess =>
          cases hbody
          cases errors with
          | cons e rest => simp [Response.intoData] at hdata
          | nil =>
              cases found with
              | none => simp [Response.intoData] at hdata
              | some value =>
                  simp only [Response.intoData, List.isEmpty_nil, if_true] at hdata
                  cases hdata
                  simp [dataOf, hsuccess, hread]
      · cases hbody

/-- The data of a reply as JSON. -/
lemma answerTo_json_iff {outcome : Outcome} {data : Json} :
    answerTo .json outcome = .ok data ↔ dataOf outcome = some data := by
  constructor
  · intro h
    rw [answerTo] at h
    cases hbody : readOutcome outcome with
    | error e =>
        rw [hbody] at h
        cases h
    | ok body =>
        rw [hbody] at h
        cases hread : (Response.reader .json).ofBytes body with
        | error e =>
            simp only [bind, Except.bind, hread] at h
            cases h
        | ok response =>
            simp only [bind, Except.bind, hread] at h
            exact dataOf_eq hbody hread h
  · intro h
    obtain ⟨body, extensions, hbody, hread⟩ := dataOf_eq_some h
    simp only [answerTo, hbody, bind, Except.bind, hread]
    rfl

lemma toOption_answerTo_json (outcome : Outcome) :
    (answerTo .json outcome).toOption = dataOf outcome := by
  refine Option.ext fun data => ?_
  rw [← answerTo_json_iff]
  cases answerTo .json outcome <;> simp [Except.toOption]

/-- A request whose result is the data of the reply. -/
def Client.ask {α : Type} (c : Client) (net : Network) (e : Envelope) (r : Reader α)
    (idempotent : Bool) : Exchange α := do
  (← c.send net e r idempotent).intoData

section Requests

variable {α : Type} {c : Client} {net : Network}

/-- Counting does not touch the attempts. -/
lemma ask_eq (c : Client) (net : Network) (e : Envelope) (r : Reader α) (idempotent : Bool)
    (j : Journal) :
    let counted : Journal := { j with stats := { j.stats with sent := j.stats.sent + 1 } }
    (c.ask net e r idempotent j).1 =
      ((c.roundTrip net e r idempotent counted).1 >>= Response.intoData) ∧
    (c.ask net e r idempotent j).2.attempts =
      (c.roundTrip net e r idempotent counted).2.attempts := by
  intro counted
  rw [Client.ask]
  simp only [bind, ExceptT.bind, ExceptT.mk, ExceptT.bindCont, StateT.bind, Client.send]
  rcases c.roundTrip net e r idempotent counted with ⟨_ | response, j₁⟩ <;> exact ⟨rfl, rfl⟩

/-- The attempts of a request are the first ones of the same request made again and again, up to the
one that its policy leads to, and the outcome of that one is the result. -/
lemma ask_attempts (c : Client) (net : Network) (e : Envelope) (r : Reader α) (idempotent : Bool)
    (j : Journal) :
    ∃ k counted posted,
      AttemptsTo c net (c.request e.render) idempotent j.attempts 1 k counted posted ∧
      (c.ask net e r idempotent j).1 =
        answerTo r (outcomeOf net (c.request e.render) j.attempts k) ∧
      (c.ask net e r idempotent j).2.attempts =
        j.attempts ++ repeated net (c.request e.render) j.attempts k := by
  obtain ⟨k, -, posted, hrun, htrip⟩ := roundTrip_attempts c net e r idempotent
    { j with stats := { j.stats with sent := j.stats.sent + 1 } }
  obtain ⟨hask, hjournal⟩ := ask_eq c net e r idempotent j
  refine ⟨k, _, posted, hrun, ?_, ?_⟩
  · rw [hask, htrip, answerTo_eq]
  · rw [hjournal, htrip, hrun.attempts]

/-- **A request** is tried, and its result is what the outcome of the last attempt means. -/
theorem ask_requested (c : Client) (net : Network) (e : Envelope) (r : Reader α)
    (idempotent : Bool) (j : Journal) :
    ∃ failed outcome,
      Requested c net e.render idempotent j.attempts failed outcome ∧
      (c.ask net e r idempotent j).1 = answerTo r outcome ∧
      (c.ask net e r idempotent j).2.attempts =
        j.attempts ++ (failed ++ [⟨c.request e.render, outcome⟩]) := by
  obtain ⟨k, counted, posted, hrun, hresult, hattempts⟩ := ask_attempts c net e r idempotent j
  obtain ⟨failed, hrequested, hfailed⟩ := hrun.requested
  exact ⟨failed, _, hrequested, hresult, by rw [hattempts, hfailed]⟩

/-- **One request** was sent, with one attempt that had this outcome. -/
structure SentOnce (c : Client) (net : Network) (body : String) (before after : List Attempt)
    (outcome : Outcome) : Prop where
  answer : outcome = net.answer before (c.request body)
  attempts : after = before ++ [⟨c.request body, outcome⟩]

/-- What may not be carried out twice is sent once. -/
lemma Requested.sentOnce {body : String} {before failed : List Attempt} {outcome : Outcome}
    (h : Requested c net body false before failed outcome) (hretry : c.retry = .default) :
    SentOnce c net body before (before ++ (failed ++ [⟨c.request body, outcome⟩])) outcome := by
  obtain rfl : failed = [] := h.once rfl (by rw [hretry]; decide)
  exact ⟨h.answered.1, rfl⟩

/-- The settings of a client say what it repeats. -/
lemma Client.retry_of? {settings : ClientSettings} (h : Client.of? settings = .ok c) :
    c.retry = settings.retry := by
  rw [Client.of?] at h
  dsimp only at h
  split at h
  · cases h
    rfl
  · split at h
    · cases h
      rfl
    · cases h

end Requests

end ContentSync.GraphQL

/-! ## Requests to the two sides -/

namespace ContentSync

open GraphQL
open Http (Attempt Network Outcome)

/-- The attempts that a log holds. -/
def ApiLog.attempts (log : ApiLog) : List Attempt := log.journal.attempts

/-- **A request as an action**: only its attempts are added to the log. -/
lemma ofExchange_requested {α : Type} (c : Client) (net : Network)
    (explain : ClientError → SyncError) (e : Envelope) (r : Json.Reader α) (idempotent : Bool)
    (log : ApiLog) :
    ∃ failed outcome journal,
      Requested c net e.render idempotent log.attempts failed outcome ∧
      ApiAction.ofExchange explain (c.ask net e r idempotent) log =
        ((answerTo r outcome).mapError explain, { log with journal := journal }) ∧
      journal.attempts = log.attempts ++ (failed ++ [⟨c.request e.render, outcome⟩]) := by
  obtain ⟨failed, outcome, hrequested, hresult, hattempts⟩ :=
    ask_requested c net e r idempotent log.journal
  exact ⟨failed, outcome, _, hrequested, hresult ▸ rfl, hattempts⟩

/-- **The clients of a project** repeat only what may be carried out twice. -/
lemma retry_of_api {c : Config} {api : Api} (h : Api.of? c = .ok api) :
    api.content.retry = .default ∧ api.management.retry = .default := by
  rw [Api.of?] at h
  cases hvalid : c.validate with
  | error e =>
      rw [hvalid] at h
      cases h
  | ok valid =>
      cases hcontent : Client.of? (c.clientSettings c.contentUrl) with
      | error e =>
          rw [hvalid, hcontent] at h
          cases h
      | ok content =>
          cases hmanagement : Client.of? (c.clientSettings c.managementUrl) with
          | error e =>
              rw [hvalid, hcontent, hmanagement] at h
              cases h
          | ok management =>
              rw [hvalid, hcontent, hmanagement] at h
              cases h
              exact ⟨Client.retry_of? hcontent, Client.retry_of? hmanagement⟩

/-- A project without deliveries. -/
def plainConfig : Config :=
  { Config.start with
    contentUrl := "https://content"
    managementUrl := "https://management"
    token := "token"
    projectId := "project" }

end ContentSync
