import ContentSync.GraphQL.Client
import Mathlib.Tactic.Lemma

/-!
# Exchanges that go well

When a server carries out what it is asked, a document takes one attempt, and nothing but that
attempt and two counts is added to the journal.

* `bind_of_ok`, `bind_of_error`, `ok_of_bind` — an action step by step.
* `dataOf` — the data of a reply that is a success and lists no errors.
* `Journal.answered` — the journal after such a reply.
* `executeDocumentStrict_of_dataOf` — the whole exchange.
-/

namespace ContentSync

/-! ## Actions with a state -/

section Actions

variable {ε σ α β : Type} {x : ExceptT ε (StateM σ) α} {f : α → ExceptT ε (StateM σ) β} {s s' : σ}

lemma bind_of_ok {a : α} (h : x s = (.ok a, s')) : (x >>= f) s = f a s' := by
  simp only [bind, ExceptT.bind, ExceptT.mk, ExceptT.bindCont, StateT.bind, h]

/-- An action that fails is not gone on with. -/
lemma bind_of_error {e : ε} (h : x s = (.error e, s')) : (x >>= f) s = (.error e, s') := by
  simp only [bind, ExceptT.bind, ExceptT.mk, ExceptT.bindCont, StateT.bind, h]
  rfl

/-- An action that gives something was carried out step by step. -/
lemma ok_of_bind {b : β} (h : (x >>= f) s = (.ok b, s')) :
    ∃ a s₁, x s = (.ok a, s₁) ∧ f a s₁ = (.ok b, s') := by
  simp only [bind, ExceptT.bind, ExceptT.mk, ExceptT.bindCont, StateT.bind] at h
  rcases hx : x s with ⟨r, s₁⟩
  rw [hx] at h
  cases r with
  | error e => cases h
  | ok a => exact ⟨a, s₁, rfl, h⟩

end Actions

end ContentSync

namespace ContentSync.GraphQL

open Http (Attempt Network Outcome)

/-! ## Replies -/

/-- The data of a reply that is a success and lists no errors. -/
def dataOf : Outcome → Option Json
  | .replied reply =>
      if Http.isSuccess reply.status then
        match (Response.reader .json).ofBytes reply.body with
        | .ok ⟨some data, [], _⟩ => some data
        | _ => none
      else none
  | _ => none

/-- The request that carries a document. -/
def Client.requestFor (c : Client) (d : Document) : Http.Request :=
  c.request (Envelope.ofDocument d).render

/-- The journal after one more request that succeeded at once. -/
def Journal.answered (j : Journal) (a : Attempt) : Journal :=
  { j with
    attempts := j.attempts ++ [a]
    stats := { j.stats with sent := j.stats.sent + 1, succeeded := j.stats.succeeded + 1 } }

@[simp] lemma Journal.answered_attempts (j : Journal) (a : Attempt) :
    (j.answered a).attempts = j.attempts ++ [a] := rfl

@[simp] lemma Journal.answered_pauses (j : Journal) (a : Attempt) :
    (j.answered a).pauses = j.pauses := rfl

@[simp] lemma Journal.answered_sent (j : Journal) (a : Attempt) :
    (j.answered a).stats.sent = j.stats.sent + 1 := rfl

section Exchange

variable {α : Type} {c : Client} {net : Network}

/-- A reply with data is a success whose body can be read, and lists no errors. -/
lemma dataOf_eq_some {outcome : Outcome} {data : Json} (h : dataOf outcome = some data) :
    ∃ body extensions, readOutcome outcome = .ok body ∧
      (Response.reader .json).ofBytes body = .ok ⟨some data, [], extensions⟩ := by
  unfold dataOf at h
  split at h
  · next reply =>
      split at h
      · next hsuccess =>
          split at h
          · next extensions hread =>
              cases h
              exact ⟨reply.body, extensions, by rw [readOutcome, if_pos hsuccess], hread⟩
          · cases h
      · cases h
  · cases h

lemma post_of_ok (j : Journal) (text : String) (idempotent : Bool) {body : ByteArray}
    (h : readOutcome (net.answer j.attempts (c.request text)) = .ok body) :
    c.post net text idempotent j = (.ok body, { j with
      attempts := j.attempts ++ [⟨c.request text, net.answer j.attempts (c.request text)⟩] }) := by
  rw [Client.post]
  cases c.retry.maxAttempts - 1 with
  | zero => simp only [Client.attempts, h]
  | succ further => simp only [Client.attempts, h]

lemma roundTrip_of_ok (j : Journal) (e : Envelope) (r : Json.Reader α) (idempotent : Bool)
    {body : ByteArray} {response : Response α}
    (h : readOutcome (net.answer j.attempts (c.request e.render)) = .ok body)
    (hread : (Response.reader r).ofBytes body = .ok response) :
    c.roundTrip net e r idempotent j = (.ok response, { j with
      attempts := j.attempts ++
        [⟨c.request e.render, net.answer j.attempts (c.request e.render)⟩] }) := by
  rw [Client.roundTrip, bind_of_ok (post_of_ok j e.render idempotent h), hread]
  rfl

lemma send_of_ok (j : Journal) (e : Envelope) (r : Json.Reader α) (idempotent : Bool)
    {body : ByteArray} {response : Response α}
    (h : readOutcome (net.answer j.attempts (c.request e.render)) = .ok body)
    (hread : (Response.reader r).ofBytes body = .ok response) (hok : response.isOk = true) :
    c.send net e r idempotent j = (.ok response,
      j.answered ⟨c.request e.render, net.answer j.attempts (c.request e.render)⟩) := by
  have htrip := roundTrip_of_ok { j with stats := { j.stats with sent := j.stats.sent + 1 } }
    e r idempotent h hread
  simp only [Client.send, htrip, Client.succeeds, hok, if_true]
  rfl

/-- **The whole exchange.**  When the reply to a document has data, that is the result, and the
journal has one more request that succeeded. -/
theorem executeDocumentStrict_of_dataOf (j : Journal) (d : Document) (idempotent : Bool)
    {data : Json} (h : dataOf (net.answer j.attempts (c.requestFor d)) = some data) :
    c.executeDocumentStrict net d idempotent j = (.ok data,
      j.answered ⟨c.requestFor d, net.answer j.attempts (c.requestFor d)⟩) := by
  obtain ⟨body, extensions, hbody, hread⟩ := dataOf_eq_some h
  have hsend := send_of_ok j (Envelope.ofDocument d) .json idempotent hbody hread rfl
  rw [Client.executeDocumentStrict, Client.executeDocument, bind_of_ok hsend]
  rfl

end Exchange

end ContentSync.GraphQL
