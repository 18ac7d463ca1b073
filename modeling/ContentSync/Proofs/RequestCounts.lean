import ContentSync.GraphQL.Pagination
import ContentSync.Proofs.Requests

/-!
# Every request is counted

A client counts its requests: how many it sent, how many of them succeeded and failed, and how many
attempts were made beyond the first ones.  Its calls differ in what they make of a reply, and a run
over many pages issues a request in every round, but all of them go through one function.  What is
counted is therefore decided by the requests alone.

* `Inquiry` — a request together with the reader for its reply.
* `ClientCall`, `Client.perform` — a call of a client; `ClientCall.inquiries` are its requests.
* `perform_eq` — a call leaves what its requests leave that are sent one after another.
* `Served` — a request that was carried out, with its attempts.
* `Accounts` — what the counts say about the requests; `Accounts.send` for one more request.
* `performAll_accounts` — the counts after any calls.
-/

namespace ContentSync.GraphQL

open Http (Attempt Network Outcome)
open Json (Reader)

/-! ## Calls and their requests -/

/-- **A request together with the reader for its reply.** -/
structure Inquiry : Type 1 where
  {Data : Type}
  envelope : Envelope
  reader : Reader Data
  idempotent : Bool

namespace Inquiry

/-- The request of an operation with a fixed document. -/
def ofOperation {α : Type} (op : Operation α) (values : Json) : Inquiry :=
  ⟨⟨op.query, values, some op.name⟩, op.reader, op.idempotent⟩

/-- The request of a document that was built. -/
def ofDocument (d : Document) (idempotent : Bool) : Inquiry :=
  ⟨Envelope.ofDocument d, .json, idempotent⟩

/-- The same with values for its variables. -/
def ofDocumentWith (d : Document) (values : Json) (idempotent : Bool) : Inquiry :=
  ⟨{ Envelope.ofDocument d with values := values }, .json, idempotent⟩

/-- What sending the request leaves. -/
def send (q : Inquiry) (c : Client) (net : Network) (j : Journal) : Journal :=
  (c.send net q.envelope q.reader q.idempotent j).2

/-- **Whether an outcome answers the request**: a reply that is a success, that can be read and
lists no errors. -/
def answeredBy (q : Inquiry) : Outcome → Bool
  | .replied reply =>
      Http.isSuccess reply.status &&
        match (Response.reader q.reader).ofBytes reply.body with
        | .ok response => response.errors.isEmpty
        | .error _ => false
  | .lost _ => false
  | .unsent _ => false

end Inquiry

/-- **A call of a client.** -/
inductive ClientCall : Type 1 where
  | request (q : Inquiry)
  | execute {α : Type} (op : Operation α) (values : Json)
  | executeStrict {α : Type} (op : Operation α) (values : Json)
  | document (d : Document) (idempotent : Bool)
  | documentStrict (d : Document) (idempotent : Bool)
  | documentWith (d : Document) (values : Json) (idempotent : Bool)
  | paginate (streams : List PageStream) (pageSize rounds : Nat)

section Calls

variable (c : Client) (net : Network)

/-- What a call leaves. -/
def Client.perform (j : Journal) : ClientCall → Journal
  | .request q => (c.send net q.envelope q.reader q.idempotent j).2
  | .execute op values => (c.execute net op values j).2
  | .executeStrict op values => (c.executeStrict net op values j).2
  | .document d idempotent => (c.executeDocument net d idempotent j).2
  | .documentStrict d idempotent => (c.executeDocumentStrict net d idempotent j).2
  | .documentWith d values idempotent => (c.executeDocumentWith net d values idempotent j).2
  | .paginate streams pageSize rounds => (c.paginate net streams pageSize rounds j).2

/-- What calls in a row leave. -/
def Client.performAll (calls : List ClientCall) (j : Journal) : Journal :=
  calls.foldl (c.perform net) j

/-- What requests leave that are sent one after another. -/
def Client.sendAll (asked : List Inquiry) (j : Journal) : Journal :=
  asked.foldl (fun j q => q.send c net j) j

/-- **The requests of a run over pages**: one in every round, up to the first round that fails. -/
def pageInquiries (pageSize : Nat) :
    (rounds : Nat) → List (PageStream × Cursor) → Journal → List Inquiry
  | 0, _, _ => []
  | rounds + 1, positions, j =>
      if positions.any fun p => p.2.active then
        let d := pageDocument positions pageSize
        .ofDocument d true ::
          match c.executeDocumentStrict net d true j with
          | (.error _, _) => []
          | (.ok data, j) =>
              match takePages data pageSize positions with
              | .error _ => []
              | .ok (_, next) => pageInquiries pageSize rounds next j
      else []

/-- **The requests that a call issues.** -/
def ClientCall.inquiries (j : Journal) : ClientCall → List Inquiry
  | .request q => [q]
  | .execute op values => [.ofOperation op values]
  | .executeStrict op values => [.ofOperation op values]
  | .document d idempotent => [.ofDocument d idempotent]
  | .documentStrict d idempotent => [.ofDocument d idempotent]
  | .documentWith d values idempotent => [.ofDocumentWith d values idempotent]
  | .paginate streams pageSize rounds =>
      pageInquiries c net pageSize rounds (startStreams streams) j

/-- The requests of calls in a row. -/
def inquiriesOf : List ClientCall → Journal → List Inquiry
  | [], _ => []
  | call :: rest, j => call.inquiries c net j ++ inquiriesOf rest (c.perform net j call)

/-- **Whether a call that insists on data reports that there are none.** -/
def ClientCall.MissesData (j : Journal) : ClientCall → Prop
  | .executeStrict op values =>
      (c.executeStrict net op values j).1 = .error (.protocol "missing GraphQL data")
  | .documentStrict d idempotent =>
      (c.executeDocumentStrict net d idempotent j).1 = .error (.protocol "missing GraphQL data")
  | .documentWith d values idempotent =>
      (c.executeDocumentWith net d values idempotent j).1 =
        .error (.protocol "missing GraphQL data")
  | _ => False

end Calls

/-! ## A call leaves what its requests leave -/

section Requests

variable {c : Client} {net : Network}

/-- Insisting on data leaves what the request leaves, and fails in two ways. -/
lemma ask_eq_send {α : Type} (c : Client) (net : Network) (e : Envelope) (r : Reader α)
    (idempotent : Bool) (j : Journal) :
    c.ask net e r idempotent j = ((c.send net e r idempotent j).1 >>= Response.intoData,
      (c.send net e r idempotent j).2) := by
  rw [Client.ask]
  rcases hsend : c.send net e r idempotent j with ⟨e | response, j₁⟩
  · rw [bind_of_error hsend]
    rfl
  · rw [bind_of_ok hsend]
    rfl

lemma ask_journal {α : Type} (e : Envelope) (r : Reader α) (idempotent : Bool) (j : Journal) :
    (c.ask net e r idempotent j).2 = (c.send net e r idempotent j).2 :=
  congrArg Prod.snd (ask_eq_send c net e r idempotent j)

/-- The rounds of a run leave what their requests leave.  The induction is on the rounds. -/
lemma pageRounds_journal (c : Client) (net : Network) (pageSize rounds : Nat) :
    ∀ (positions : List (PageStream × Cursor)) (items : List PagedItem) (j : Journal),
      (pageRounds (fun d => c.executeDocumentStrict net d true) pageSize rounds positions items
        j).2 = c.sendAll net (pageInquiries c net pageSize rounds positions j) j := by
  induction rounds with
  | zero =>
      intro positions items j
      rw [pageRounds, pageInquiries]
      split <;> rfl
  | succ rounds ih =>
      intro positions items j
      rw [pageRounds, pageInquiries]
      by_cases hgoes : (positions.any fun p => p.2.active) = true
      · rw [if_pos hgoes, if_pos hgoes]
        have hleft : (c.executeDocumentStrict net (pageDocument positions pageSize) true j).2 =
            (Inquiry.ofDocument (pageDocument positions pageSize) true).send c net j :=
          ask_journal ..
        dsimp only
        rw [Client.sendAll, List.foldl_cons, ← hleft]
        rcases hask : c.executeDocumentStrict net (pageDocument positions pageSize) true j
          with ⟨e | data, j₁⟩
        · rw [bind_of_error hask]
          rfl
        · rw [bind_of_ok hask]
          dsimp only
          cases htake : takePages data pageSize positions with
          | error e => rfl
          | ok taken => exact ih taken.2 (items ++ taken.1) j₁
      · rw [if_neg hgoes, if_neg hgoes]
        rfl

/-- **A call leaves what its requests leave that are sent one after another.** -/
lemma perform_eq (c : Client) (net : Network) (j : Journal) (call : ClientCall) :
    c.perform net j call = c.sendAll net (call.inquiries c net j) j := by
  cases call with
  | request q => rfl
  | execute op values => rfl
  | executeStrict op values => exact ask_journal ..
  | document d idempotent => rfl
  | documentStrict d idempotent => exact ask_journal ..
  | documentWith d values idempotent => exact ask_journal ..
  | paginate streams pageSize rounds =>
      exact pageRounds_journal c net pageSize rounds (startStreams streams) [] j

/-- Calls in a row leave what all their requests leave. -/
lemma performAll_eq (c : Client) (net : Network) (calls : List ClientCall) :
    ∀ j : Journal, c.performAll net calls j = c.sendAll net (inquiriesOf c net calls j) j := by
  induction calls with
  | nil => exact fun _ => rfl
  | cons call rest ih =>
      intro j
      have hcall : c.performAll net (call :: rest) j =
          c.performAll net rest (c.perform net j call) := rfl
      rw [hcall, ih, perform_eq, inquiriesOf, perform_eq, Client.sendAll, Client.sendAll,
        Client.sendAll, List.foldl_append]

end Requests

/-! ## One request -/

section Counting

variable {c : Client} {net : Network}

/-- **The attempts of a request are counted**: all but one as repeated, and nothing else. -/
lemma attempts_counts (c : Client) (net : Network) (request : Http.Request) (idempotent : Bool)
    (further : Nat) : ∀ (n : Nat) (j : Journal), ∃ again,
      (c.attempts net request idempotent further n j).2.attempts.length =
        j.attempts.length + (again + 1) ∧
      (c.attempts net request idempotent further n j).2.stats =
        { j.stats with retried := j.stats.retried + again } := by
  induction further with
  | zero => exact fun n j => ⟨0, List.length_append, rfl⟩
  | succ further ih =>
      intro n j
      rw [Client.attempts]
      dsimp only
      split
      · exact ⟨0, List.length_append, rfl⟩
      · split
        · obtain ⟨again, hlength, hstats⟩ := ih (n + 1) _
          refine ⟨again + 1, ?_, ?_⟩
          · rw [hlength, List.length_append, List.length_singleton]
            omega
          · rw [hstats]
            simp only [Nat.add_assoc, Nat.add_comm 1]
        · exact ⟨0, List.length_append, rfl⟩

/-- A request counts as succeeded when the outcome of its last attempt answers it. -/
lemma succeeds_responseTo (q : Inquiry) (outcome : Outcome) :
    Client.succeeds (responseTo q.reader outcome) = q.answeredBy outcome := by
  cases outcome with
  | lost failure => rfl
  | unsent failure => rfl
  | replied reply =>
      rw [responseTo, readOutcome, Inquiry.answeredBy]
      cases Http.isSuccess reply.status with
      | false => rfl
      | true =>
          rw [if_pos rfl]
          dsimp only
          cases (Response.reader q.reader).ofBytes reply.body <;> rfl

/-- **A request that was carried out**, with its attempts. -/
structure Served : Type 1 where
  inquiry : Inquiry
  attempts : List Attempt

/-- Whether the last attempt answered the request. -/
def Served.succeeded (s : Served) : Bool :=
  s.attempts.getLast?.any fun a => s.inquiry.answeredBy a.outcome

/-- **The attempts of a request** that follow others: the same request again and again, up to the
first time that there is a reason to stop. -/
structure Served.Tried (s : Served) (c : Client) (net : Network) (before : List Attempt) :
    Prop where
  same : s.attempts =
    repeated net (c.request s.inquiry.envelope.render) before s.attempts.length
  last : IsLeast {n | 1 ≤ n ∧ c.retry.EndsAt s.inquiry.idempotent n
    (outcomeOf net (c.request s.inquiry.envelope.render) before n)} s.attempts.length

/-- **What sending a request does**: its attempts are added to the journal, and it is counted. -/
structure Counted (c : Client) (net : Network) (j : Journal) (s : Served) : Prop where
  tried : s.Tried c net j.attempts
  attempts : (s.inquiry.send c net j).attempts = j.attempts ++ s.attempts
  sent : (s.inquiry.send c net j).stats.sent = j.stats.sent + 1
  retried : (s.inquiry.send c net j).stats.sent + (s.inquiry.send c net j).stats.retried =
    j.stats.sent + j.stats.retried + s.attempts.length
  succeeded : (s.inquiry.send c net j).stats.succeeded =
    j.stats.succeeded + if s.succeeded then 1 else 0
  failed : (s.inquiry.send c net j).stats.failed = j.stats.failed + if s.succeeded then 0 else 1
  /-- The outcome that decides the result also decides which of the two it is counted as. -/
  result : ∃ outcome, s.succeeded = s.inquiry.answeredBy outcome ∧
    (c.send net s.inquiry.envelope s.inquiry.reader s.inquiry.idempotent j).1 =
      responseTo s.inquiry.reader outcome

/-- A request and its reply: the attempts, and what they are counted as. -/
lemma roundTrip_counts (c : Client) (net : Network) (q : Inquiry) (j : Journal) :
    let request := c.request q.envelope.render
    ∃ again j₁,
      IsLeast {n | 1 ≤ n ∧ c.retry.EndsAt q.idempotent n (outcomeOf net request j.attempts n)}
        (again + 1) ∧
      c.roundTrip net q.envelope q.reader q.idempotent j =
        (responseTo q.reader (outcomeOf net request j.attempts (again + 1)), j₁) ∧
      j₁.attempts = j.attempts ++ repeated net request j.attempts (again + 1) ∧
      j₁.stats = { j.stats with retried := j.stats.retried + again } := by
  intro request
  obtain ⟨k, -, posted, hrun, htrip⟩ :=
    roundTrip_attempts c net q.envelope q.reader q.idempotent j
  obtain ⟨again, hlength, hstats⟩ :=
    attempts_counts c net request q.idempotent (c.retry.maxAttempts - 1) 1 j
  have hposted : posted.2 = (c.post net q.envelope.render q.idempotent j).2 :=
    (Prod.mk.inj (htrip.symm.trans (roundTrip_eq ..))).2
  rw [← Client.post, ← hposted] at hlength hstats
  obtain rfl : k = again + 1 := by
    rw [hrun.attempts, List.length_append, length_repeated] at hlength
    exact Nat.add_left_cancel hlength
  exact ⟨again, posted.2, hrun.isLeast, htrip, hrun.attempts, hstats⟩

/-- **Every request is counted once.** -/
lemma send_counted (c : Client) (net : Network) (q : Inquiry) (j : Journal) :
    ∃ s : Served, s.inquiry = q ∧ Counted c net j s := by
  obtain ⟨again, j₁, hleast, htrip, hattempts, hstats⟩ :=
    roundTrip_counts c net q { j with stats := { j.stats with sent := j.stats.sent + 1 } }
  dsimp only at hleast htrip hattempts hstats
  generalize houtcome :
    outcomeOf net (c.request q.envelope.render) j.attempts (again + 1) = outcome at htrip
  let s : Served :=
    ⟨q, repeated net (c.request q.envelope.render) j.attempts (again + 1)⟩
  have hlength : s.attempts.length = again + 1 := length_repeated ..
  have hsucceeded : s.succeeded = q.answeredBy outcome := by
    have hlast : s.attempts.getLast? = some ⟨c.request q.envelope.render, outcome⟩ := by
      rw [← houtcome]
      exact List.getLast?_concat
    rw [Served.succeeded, hlast]
    rfl
  have hsend : c.send net q.envelope q.reader q.idempotent j =
      (responseTo q.reader outcome, { j₁ with
        stats :=
          if s.succeeded then { j₁.stats with succeeded := j₁.stats.succeeded + 1 }
          else { j₁.stats with failed := j₁.stats.failed + 1 } }) := by
    rw [Client.send, htrip]
    dsimp only
    rw [succeeds_responseTo, ← hsucceeded]
  refine ⟨s, rfl, ⟨by rw [hlength], by rw [hlength]; exact hleast⟩, ?_, ?_, ?_, ?_, ?_, outcome,
    hsucceeded, by rw [hsend]⟩
  all_goals rw [Inquiry.send, hsend]
  · exact hattempts
  all_goals dsimp only; rw [hstats]; cases s.succeeded
  all_goals simp only [if_true, hlength, Bool.false_eq_true, if_false]
  all_goals omega

/-! ## Requests and calls in a row -/

/-- **What the counts of a journal say about the requests** that were carried out. -/
structure Accounts (c : Client) (net : Network) (served : List Served) (j : Journal) : Prop where
  /-- Every request was tried, after the attempts of those before it. -/
  tried : ∀ before s after, served = before ++ s :: after →
    s.Tried c net (before.flatMap Served.attempts)
  /-- There are no other attempts. -/
  attempts : j.attempts = served.flatMap Served.attempts
  sent : j.stats.sent = served.length
  /-- A request either succeeds or fails. -/
  settled : j.stats.sent = j.stats.succeeded + j.stats.failed
  /-- Every attempt is the first one of a request or a repeated one. -/
  retried : j.stats.sent + j.stats.retried = j.attempts.length
  succeeded : j.stats.succeeded = served.countP Served.succeeded

lemma Accounts.empty (c : Client) (net : Network) : Accounts c net [] .empty where
  tried before s after h := by simp at h
  attempts := rfl
  sent := rfl
  settled := rfl
  retried := rfl
  succeeded := rfl

/-- **One more request is accounted for.** -/
lemma Accounts.send {served : List Served} {j : Journal} (h : Accounts c net served j)
    (q : Inquiry) :
    ∃ s : Served, s.inquiry = q ∧ Accounts c net (served ++ [s]) (q.send c net j) := by
  obtain ⟨s, rfl, hs⟩ := send_counted c net q j
  refine ⟨s, rfl, ?_, ?_, ?_, ?_, ?_, ?_⟩
  · intro before s' after hsplit
    rcases List.eq_nil_or_concat after with rfl | ⟨rest, last, rfl⟩
    · obtain ⟨rfl, hlast⟩ := List.append_inj' hsplit rfl
      cases hlast
      rw [← h.attempts]
      exact hs.tried
    · rw [List.concat_eq_append, ← List.cons_append, ← List.append_assoc] at hsplit
      exact h.tried before s' rest (List.append_inj' hsplit rfl).1
  · rw [hs.attempts, h.attempts, List.flatMap_append, List.flatMap_singleton]
  · rw [hs.sent, h.sent, List.length_append, List.length_singleton]
  · rw [hs.sent, hs.succeeded, hs.failed, h.settled]
    cases s.succeeded
    · rfl
    · exact Nat.add_right_comm ..
  · rw [hs.retried, h.retried, hs.attempts, List.length_append]
  · rw [hs.succeeded, h.succeeded, List.countP_append, List.countP_singleton]

/-- Requests one after another are accounted for. -/
lemma Accounts.sendAll (asked : List Inquiry) :
    ∀ {served : List Served} {j : Journal}, Accounts c net served j →
      ∃ more : List Served, more.map Served.inquiry = asked ∧
        Accounts c net (served ++ more) (c.sendAll net asked j) := by
  induction asked with
  | nil => exact fun {served j} h => ⟨[], rfl, by rwa [List.append_nil]⟩
  | cons q rest ih =>
      intro served j h
      obtain ⟨s, hs, hone⟩ := h.send q
      obtain ⟨more, hmore, hall⟩ := ih hone
      refine ⟨s :: more, ?_, ?_⟩
      · rw [List.map_cons, hs, hmore]
      · rwa [List.append_assoc, List.singleton_append] at hall

/-- Posting a request never fails because of what a reply says. -/
lemma responseTo_ne_protocol {α : Type} (r : Reader α) (outcome : Outcome) (reason : String) :
    responseTo r outcome ≠ .error (.protocol reason) := by
  rw [responseTo]
  cases outcome with
  | lost failure => exact fun h => by cases h
  | unsent failure => exact fun h => by cases h
  | replied reply =>
      rw [readOutcome]
      cases Http.isSuccess reply.status with
      | false => exact fun h => by cases h
      | true =>
          rw [if_pos rfl]
          dsimp only
          cases (Response.reader r).ofBytes reply.body <;> exact fun h => by cases h

/-- Missing data are reported of a request whose reply lists no errors. -/
lemma answeredBy_of_missing {q : Inquiry} {outcome : Outcome} {reason : String}
    (h : (responseTo q.reader outcome >>= Response.intoData) = .error (.protocol reason)) :
    q.answeredBy outcome = true := by
  rw [← succeeds_responseTo]
  cases hresponse : responseTo q.reader outcome with
  | error e =>
      rw [hresponse] at h
      cases h
      exact absurd hresponse (responseTo_ne_protocol _ _ _)
  | ok response =>
      rw [hresponse] at h
      change response.intoData = _ at h
      rw [Response.intoData] at h
      split at h
      · next hempty => exact hempty
      · cases h

/-- **Missing data are reported of a request that counts as succeeded.** -/
lemma ask_missing {α : Type} {e : Envelope} {r : Reader α} {idempotent : Bool} {j : Journal}
    {reason : String} (h : (c.ask net e r idempotent j).1 = .error (.protocol reason)) :
    (c.ask net e r idempotent j).2.stats.succeeded = j.stats.succeeded + 1 := by
  obtain ⟨s, hs, hcounted⟩ := send_counted c net ⟨e, r, idempotent⟩ j
  obtain ⟨outcome, hsucceeded, hresult⟩ := hcounted.result
  obtain ⟨q, tries⟩ := s
  subst hs
  rw [ask_eq_send] at h
  dsimp only at h hresult
  rw [hresult] at h
  rw [ask_journal]
  refine hcounted.succeeded.trans ?_
  rw [hsucceeded, answeredBy_of_missing h]
  rfl

/-- **Every call is accounted for.**  After any calls on a client, whatever its retry policy and
whatever is answered, the requests that the calls issued were carried out one after another.

* Their number is the number of requests counted as sent, and as succeeded or failed.
* All their attempts are counted, as sent or as retried.
* A request counts as succeeded when the reply to its last attempt is a success, can be read and
  lists no errors, and so does one of which it is then reported that data are missing. -/
theorem performAll_accounts (c : Client) (net : Network) (calls : List ClientCall) :
    let j := c.performAll net calls .empty
    (∃ served : List Served, served.map Served.inquiry = inquiriesOf c net calls .empty ∧
      Accounts c net served j) ∧
    ∀ call : ClientCall, call.MissesData c net j →
      (c.perform net j call).stats.succeeded = j.stats.succeeded + 1 := by
  intro j
  constructor
  · obtain ⟨served, hserved, haccounts⟩ :=
      Accounts.sendAll (inquiriesOf c net calls .empty) (Accounts.empty c net)
    rw [← performAll_eq, List.nil_append] at haccounts
    exact ⟨served, hserved, haccounts⟩
  · intro call hmisses
    cases call with
    | executeStrict op values => exact ask_missing hmisses
    | documentStrict d idempotent => exact ask_missing hmisses
    | documentWith d values idempotent => exact ask_missing hmisses
    | request q | execute op values | document d idempotent | paginate => cases hmisses

/-- A success without data counts as succeeded, and is reported to have none. -/
example :
    let c : Client := ⟨"https://content", [], .seconds 30, .default⟩
    let net : Network :=
      ⟨fun _ _ => .replied ⟨200, none, (Json.object [("data", .null)]).render.toUTF8⟩, fun _ => 0⟩
    (match c.executeDocumentStrict net (.anonymous .query (.ofNames ["a"])) true .empty with
      | (.error (.protocol reason), j) =>
          reason = "missing GraphQL data" && j.stats = ⟨1, 1, 0, 0⟩
      | _ => false) = true := by
  decide +kernel

end Counting

end ContentSync.GraphQL
