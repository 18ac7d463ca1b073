import ContentSync.Proofs.SingleWrites

/-!
# What the requests for an item carry

Every operation on one item sends one request, and all its attempts carry the same body: the text of
a document and the values of its variables.  The body tells the text.

* `CarriesQuery` — a body carries the text of a query, and of no other.
* `SentWith` — attempts that carry a body, at least one of them.
* `sentWith_fetchItem`, `sentWith_mutateDocument`, `sentWith_mutateNode` — what is sent.
-/

namespace ContentSync

open GraphQL
open Http (Attempt Network Outcome)

/-! ## Bodies -/

/-- **A body carries the text of a query.** -/
def CarriesQuery (body query : String) : Prop :=
  ∃ (values : Json) (name : Option String), body = (Envelope.mk query values name).render

/-- The text is told by the body. -/
lemma CarriesQuery.unique {body query query' : String} (h : CarriesQuery body query)
    (h' : CarriesQuery body query') : query = query' := by
  obtain ⟨values, name, rfl⟩ := h
  obtain ⟨values', name', heq⟩ := h'
  exact Envelope.query_of_render heq

lemma CarriesQuery.iff {body query : String} (h : CarriesQuery body query) (text : String) :
    CarriesQuery body text ↔ text = query :=
  ⟨fun htext => htext.unique h, fun heq => heq ▸ h⟩

/-! ## Attempts -/

/-- **Attempts that carry a body**, at least one of them, added to others. -/
def SentWith (body : String) (before after : List Attempt) : Prop :=
  ∃ tries, after = before ++ tries ∧ tries ≠ [] ∧ ∀ a ∈ tries, a.request.body = body

section Sending

variable {α β : Type} {api : Api} {net : Network} {body : String} {log : ApiLog}

/-- A request as an action. -/
lemma sentWith_ofExchange (c : Client) (net : Network) (explain : ClientError → SyncError)
    (e : Envelope) (r : Json.Reader α) (idempotent : Bool) (log : ApiLog) :
    SentWith e.render log.attempts
      (ApiAction.ofExchange explain (c.ask net e r idempotent) log).2.attempts := by
  obtain ⟨failed, outcome, journal, hrequested, hrun, hattempts⟩ :=
    ofExchange_requested c net explain e r idempotent log
  rw [hrun]
  refine ⟨_, hattempts, List.append_ne_nil_of_right_ne_nil _ (List.cons_ne_nil _ _), ?_⟩
  refine List.forall_mem_append.mpr ⟨fun a ha => ?_, List.forall_mem_singleton.mpr rfl⟩
  rw [(hrequested.transient a ha).1]
  rfl

/-- What is done with the result asks for nothing more. -/
lemma SentWith.bind {x : ApiAction α} {f : α → ApiAction β}
    (hx : SentWith body log.attempts (x log).2.attempts)
    (hf : ∀ a log, (f a log).2.attempts = log.attempts) :
    SentWith body log.attempts ((x >>= f) log).2.attempts := by
  rcases hrun : x log with ⟨_ | a, log₁⟩
  · rw [hrun] at hx
    rw [bind_of_error hrun]
    exact hx
  · rw [hrun] at hx
    rw [bind_of_ok hrun, hf]
    exact hx

/-- Reading an item. -/
lemma sentWith_fetchItem {schema : Schema} {typename field : String} {selection : SelectionSet}
    (hselection : Api.itemSelection schema typename = .ok (field, selection)) (id : String)
    (log : ApiLog) :
    SentWith (Envelope.ofDocument (Api.itemDocument field selection id)).render log.attempts
      (api.fetchItem net schema typename id log).2.attempts := by
  have hsent := sentWith_ofExchange api.content net .graphql
    (Envelope.ofDocument (Api.itemDocument field selection id)) .json true log
  rw [fetchItem_eq api net schema ⟨typename, id⟩ log, hselection]
  dsimp only
  split <;> exact hsent

/-- A mutation. -/
lemma sentWith_mutate (field : String) (d : Document) (values : Json) (log : ApiLog) :
    SentWith { Envelope.ofDocument d with values := values }.render log.attempts
      (api.mutate net field d values log).2.attempts :=
  (sentWith_ofExchange api.content net _ _ .json false log).bind fun _ _ => rfl

/-- The document of a mutation with data. -/
def dataDocument (field : String) (arguments : Arguments) (selection : SelectionSet)
    (inputType : String) : Document :=
  (Document.single .mutation
    (.object field none (Entries.insert arguments "data" (.var "data")) selection)).declaring
      "data" (inputType ++ "!")

/-- A mutation with data. -/
lemma sentWith_mutateDocument (api : Api) (net : Network) (field : String)
    (arguments : Arguments) (selection : SelectionSet) (inputType : String) (data : Json)
    (log : ApiLog) :
    SentWith
      { Envelope.ofDocument (dataDocument field arguments selection inputType) with
        values := .object [("data", data)] }.render log.attempts
      (api.mutateDocument net field arguments selection inputType data log).2.attempts := by
  refine (sentWith_mutate field _ _ log).bind fun value log' => ?_
  cases value.isNull <;> cases readItem value <;> rfl

/-- A mutation of one node. -/
lemma sentWith_mutateNode (api : Api) (net : Network) (field : String) (node : Selection)
    (log : ApiLog) :
    SentWith (Envelope.ofDocument (.single .mutation node)).render log.attempts
      (api.mutateNode net field node log).2.attempts :=
  (sentWith_mutate field _ _ log).bind fun _ _ => rfl

end Sending

end ContentSync
