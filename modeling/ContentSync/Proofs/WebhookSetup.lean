import ContentSync.Api.Management
import ContentSync.Proofs.JsonReadBack
import ContentSync.Proofs.Requests

/-!
# Setting up deliveries comes to rest

Deliveries are set up by asking which ones there are, and by asking for a new one if the address is
not among them.  Any reply may get lost, also that to a request that was carried out.  The request
for a new delivery is never repeated by itself; it is the next setup that finds out what became of
it.  What a request asks for is what its body says, and nothing else is known to the other side.

* `AsksForList`, `addressAsked?` — what the body of a request asks for.
* `KeepsWebhooks` — a server that keeps a list of deliveries.
* `AddsOne` — a list with at most one delivery more.
* `SetupOnce` — what one setup may do; `ensureWebhook_once` says that it does no more.
* `ensureWebhook_converges` — any number of setups, by induction.
-/

namespace ContentSync

open GraphQL
open Http (Attempt Network Outcome)

/-! ## What a body asks for -/

/-- The text of the operation in a body. -/
def queryIn? (body : String) : Option String := do
  let envelope ← Json.read? body
  (← envelope.get? "query").string?

/-- **Whether a request asks for the list of deliveries**, by the operation in its body. -/
def AsksForList (request : Http.Request) : Prop :=
  queryIn? request.body = some environmentWebhooksQuery

/-- Whether a request asks for a new delivery, by the operation in its body. -/
def AsksForNew (request : Http.Request) : Prop :=
  queryIn? request.body = some createWebhookMutation

instance (request : Http.Request) : Decidable (AsksForList request) :=
  inferInstanceAs (Decidable (_ = _))

instance (request : Http.Request) : Decidable (AsksForNew request) :=
  inferInstanceAs (Decidable (_ = _))

/-- **The address that a request asks deliveries to**, if it asks for a new delivery: the body has
it in the data among the values. -/
def addressAsked? (request : Http.Request) : Option String := do
  guard (AsksForNew request)
  let envelope ← Json.read? request.body
  let values ← envelope.get? "variables"
  let data ← values.get? "data"
  (← data.get? "url").string?

lemma asksForNew_of_addressAsked? {request : Http.Request} {address : String}
    (h : addressAsked? request = some address) : AsksForNew request := by
  by_contra hother
  rw [addressAsked?, guard, if_neg hother] at h
  cases h

lemma head_environmentWebhooksQuery : environmentWebhooksQuery.toList.head? = some 'q' := by
  simp only [environmentWebhooksQuery, lines, String.toList_intercalate]
  rfl

lemma head_createWebhookMutation : createWebhookMutation.toList.head? = some 'm' := by
  simp only [createWebhookMutation, lines, String.toList_intercalate]
  rfl

/-- No request asks for both. -/
lemma AsksForList.not_new {request : Http.Request} (h : AsksForList request) :
    ¬ AsksForNew request := by
  intro hnew
  have hsame := congrArg (fun s : String => s.toList.head?) (Option.some.inj (h.symm.trans hnew))
  simp only [head_environmentWebhooksQuery, head_createWebhookMutation] at hsame
  cases hsame

lemma AsksForList.addressAsked?_ne {request : Http.Request} {address : String}
    (h : AsksForList request) : addressAsked? request ≠ some address :=
  fun hnew => h.not_new (asksForNew_of_addressAsked? hnew)

namespace Api

/-- The body that carries an operation. -/
def operationBody {α : Type} (op : Operation α) (values : Json) : String :=
  (Envelope.mk op.query values (some op.name)).render

/-- The request for the list of deliveries. -/
def listingRequest (api : Api) : Http.Request :=
  api.management.request (operationBody environmentWebhooks api.environmentVariables)

/-- The request for a new delivery. -/
def creationRequest (api : Api) (environmentId url : String) : Http.Request :=
  api.management.request
    (operationBody createWebhook (.object [("data", webhookInput api.config environmentId url)]))

/-- **What a body carries**: the operation and the values, as they were given. -/
lemma read?_operationBody {α : Type} (op : Operation α) {values : Json} (h : values.Proper) :
    Json.read? (operationBody op values) = some (.object [("query", .string op.query),
      ("variables", values), ("operationName", .string op.name)]) := by
  have hkeys : ["query", "variables", "operationName"].Nodup := by decide
  refine Json.read?_render (.object hkeys (List.forall_mem_cons.mpr ⟨.string op.query, ?_⟩))
  exact List.forall_mem_cons.mpr ⟨h, List.forall_mem_singleton.mpr (.string op.name)⟩

lemma proper_environmentVariables (api : Api) : api.environmentVariables.Proper := by
  have hkeys : ["projectId", "environment"].Nodup := by decide
  exact .object hkeys
    (List.forall_mem_cons.mpr ⟨.string _, List.forall_mem_singleton.mpr (.string _)⟩)

lemma proper_webhookInput (config : Config) (environmentId url : String) :
    (webhookInput config environmentId url).Proper := by
  rw [webhookInput]
  -- the secret is the only member that may be absent
  cases config.webhookSecret <;> rw [Config.optionalMember] <;>
    refine .object (by simp [Entries.keys]) ?_ <;>
    simp [Json.Proper.string, Json.Proper.bool, Json.Proper.array]

/-- The request for the list asks for it. -/
lemma asksForList_listingRequest (api : Api) : AsksForList api.listingRequest := by
  have hbody := read?_operationBody environmentWebhooks api.proper_environmentVariables
  rw [AsksForList, queryIn?, listingRequest, Client.request, hbody]
  rfl

/-- **The request for a new delivery asks for one to the address.** -/
lemma addressAsked?_creationRequest (api : Api) (environmentId url : String) :
    addressAsked? (api.creationRequest environmentId url) = some url := by
  have hvalues : (Json.object [("data", webhookInput api.config environmentId url)]).Proper :=
    .object (List.nodup_singleton "data")
      (List.forall_mem_singleton.mpr (proper_webhookInput api.config environmentId url))
  have hbody := read?_operationBody createWebhook hvalues
  have hnew : AsksForNew (api.creationRequest environmentId url) := by
    rw [AsksForNew, queryIn?, creationRequest, Client.request, hbody]
    rfl
  rw [addressAsked?, guard, if_pos hnew, creationRequest, Client.request, hbody]
  rfl

end Api

/-! ## The server -/

/-- What was sent, after one more request. -/
def Http.Network.sent (net : Network) (history : List Attempt) (request : Http.Request) :
    List Attempt :=
  history ++ [⟨request, net.answer history request⟩]

/-- **A server that keeps a list of deliveries**; `held` is the list after what was sent.  It knows
of a request what the body says.  A list that a reply gives is the one that is kept, and a delivery
that a reply shows was added.  Whatever else comes back, a request for a new delivery may have been
carried out or not; if it was, the delivery goes to the address in its body. -/
structure KeepsWebhooks (net : Network) (held : List Attempt → List WebhookSummary) : Prop where
  listing : ∀ history request, AsksForList request → held (net.sent history request) = held history
  listed : ∀ history request environment, AsksForList request →
    answerTo environmentWebhooks.reader (net.answer history request) = .ok (some environment) →
    environment.webhooks = held history
  creation : ∀ history request address, addressAsked? request = some address →
    held (net.sent history request) = held history ∨
    ∃ id, held (net.sent history request) = held history ++ [⟨id, address⟩]
  created : ∀ history request address made, addressAsked? request = some address →
    answerTo createWebhook.reader (net.answer history request) = .ok made →
    held (net.sent history request) = held history ++ [⟨made.id, address⟩]

/-- **At most one delivery more**, to this address, and none if there was one to it. -/
def AddsOne (url : String) (before after : List WebhookSummary) : Prop :=
  ∃ added, after = before ++ added ∧ added.length ≤ 1 ∧ (∀ w ∈ added, w.url = url) ∧
    ((∃ w ∈ before, w.url = url) → added = [])

namespace AddsOne

variable {url : String} {a b c : List WebhookSummary}

lemma refl (url : String) (a : List WebhookSummary) : AddsOne url a a :=
  ⟨[], (List.append_nil a).symm, Nat.zero_le 1, fun _ h => (List.not_mem_nil h).elim, fun _ => rfl⟩

lemma single {id : String} (h : ∀ w ∈ a, w.url ≠ url) : AddsOne url a (a ++ [⟨id, url⟩]) := by
  refine ⟨[⟨id, url⟩], rfl, Nat.le_refl 1, ?_, ?_⟩
  · intro w hw
    rw [List.mem_singleton.mp hw]
  · rintro ⟨w, hw, hurl⟩
    exact absurd hurl (h w hw)

/-- What the first of two setups added, the second one finds. -/
lemma trans (hab : AddsOne url a b) (hbc : AddsOne url b c) : AddsOne url a c := by
  obtain ⟨first, rfl, hone, hurl, hnone⟩ := hab
  obtain ⟨second, rfl, hone', hurl', hnone'⟩ := hbc
  cases first with
  | nil =>
      rw [List.append_nil] at hnone' ⊢
      exact ⟨second, rfl, hone', hurl', hnone'⟩
  | cons w rest =>
      -- the delivery that was added first is to the address, so none is added after it
      have hfound : second = [] :=
        hnone' ⟨w, List.mem_append_right a List.mem_cons_self, hurl w List.mem_cons_self⟩
      rw [hfound, List.append_nil]
      exact ⟨w :: rest, rfl, hone, hurl, hnone⟩

end AddsOne

/-! ## One setup -/

/-- **An attempt of a setup that tells nothing**: its outcome shows no environment when it asks for
the list, or no delivery when it asks for a new one. -/
def TellsNothing (url : String) (a : Attempt) : Prop :=
  (AsksForList a.request ∧
    ∀ environment, answerTo environmentWebhooks.reader a.outcome ≠ .ok (some environment)) ∨
  (addressAsked? a.request = some url ∧ ∀ made, answerTo createWebhook.reader a.outcome ≠ .ok made)

/-- **What one setup may do.**  After asking for the list it sends at most one request for a new
delivery, and none if the list has one to the address; then it tells of that one, or fails.  A
delivery that it tells of is there, and it fails only with a reply that tells nothing. -/
structure SetupOnce (net : Network) (url : String) (held : List Attempt → List WebhookSummary)
    (before after : List Attempt) (setup : Api.WebhookSetup) : Prop where
  requests : ∃ listings creations, after = before ++ listings ++ creations ∧
    (∀ a ∈ listings, AsksForList a.request ∧ ¬ AsksForNew a.request) ∧
    (∀ a ∈ creations, addressAsked? a.request = some url) ∧ creations.length ≤ 1 ∧
    ((∃ w ∈ held before, w.url = url) → creations = [])
  adds : AddsOne url (held before) (held after)
  known : (∃ w ∈ held before, w.url = url) → ∀ id, setup ≠ .created id
  ends : match setup with
    | .disabled => False
    | .existing id => ⟨id, url⟩ ∈ held after
    | .created id => ⟨id, url⟩ ∈ held after
    | .failed _ => ∃ earlier a, after = before ++ earlier ++ [a] ∧
        a.outcome = net.answer (before ++ earlier) a.request ∧ TellsNothing url a

/-- **How a setup ends that asks for a new delivery**: with the one that the reply shows, or else it
fails. -/
def CreationEnds (net : Network) (api : Api) (history : List Attempt) (environmentId url : String)
    (setup : Api.WebhookSetup) : Prop :=
  let answer := answerTo createWebhook.reader
    (net.answer history (api.creationRequest environmentId url))
  (∃ made, answer = .ok made ∧ setup = .created made.id) ∨
    (∀ made, answer ≠ .ok made) ∧ ∃ reason, setup = .failed reason

section Setup

variable {api : Api} {net : Network} {url : String} {held : List Attempt → List WebhookSummary}
  {before : List Attempt}

/-- Asking for the list changes nothing, however often it is asked for. -/
lemma KeepsWebhooks.held_listings (hkeeps : KeepsWebhooks net held) {as : List Attempt}
    (hanswered : Answered net before as) (hlistings : ∀ a ∈ as, AsksForList a.request) :
    held (before ++ as) = held before := by
  induction as generalizing before with
  | nil => rw [List.append_nil]
  | cons a as ih =>
      obtain ⟨houtcome, hrest⟩ := hanswered
      obtain ⟨hlisting, hothers⟩ := List.forall_mem_cons.mp hlistings
      obtain ⟨request, outcome⟩ := a
      obtain rfl : outcome = net.answer before request := houtcome
      rw [List.append_cons, ih hrest hothers]
      exact hkeeps.listing before request hlisting

/-- **What a setup learns of the list.**  All its attempts so far asked for the list, which changed
nothing, and the list that it is given is the one that is kept. -/
structure Listed (net : Network) (held : List Attempt → List WebhookSummary)
    (before failed : List Attempt) (last : Attempt) : Prop where
  asked : ∀ a ∈ failed ++ [last], AsksForList a.request
  outcome : last.outcome = net.answer (before ++ failed) last.request
  same : held (before ++ (failed ++ [last])) = held before
  given : ∀ environment, answerTo environmentWebhooks.reader last.outcome = .ok (some environment) →
    environment.webhooks = held before

lemma KeepsWebhooks.listed_requested (hkeeps : KeepsWebhooks net held) {failed : List Attempt}
    {outcome : Outcome}
    (h : Requested api.management net
      (Api.operationBody environmentWebhooks api.environmentVariables) true before failed outcome) :
    Listed net held before failed ⟨api.listingRequest, outcome⟩ := by
  have hlists := api.asksForList_listingRequest
  have hfailed : ∀ a ∈ failed, AsksForList a.request := by
    intro a ha
    rw [(h.transient a ha).1]
    exact hlists
  have hasked : ∀ a ∈ failed ++ [⟨api.listingRequest, outcome⟩], AsksForList a.request := by
    intro a ha
    rcases List.mem_append.mp ha with ha | ha
    · exact hfailed a ha
    · rw [List.mem_singleton.mp ha]
      exact hlists
  -- the list comes with the last attempt, before which there were only failed ones
  obtain ⟨hearlier, hlast, -⟩ := answered_append.mp h.answered
  refine ⟨hasked, hlast, hkeeps.held_listings h.answered hasked, fun environment hgiven => ?_⟩
  have hlast : outcome = net.answer (before ++ failed) api.listingRequest := hlast
  rw [hkeeps.listed _ _ environment hlists (hlast ▸ hgiven), hkeeps.held_listings hearlier hfailed]

/-- A setup that asks for no new delivery: it knows of one, or has no list. -/
lemma SetupOnce.of_listed {failed : List Attempt} {last : Attempt} {setup : Api.WebhookSetup}
    (hlisted : Listed net held before failed last)
    (hend : (∃ id, setup = .existing id ∧ ⟨id, url⟩ ∈ held before) ∨
      (∃ reason, setup = .failed reason) ∧
        ∀ environment, answerTo environmentWebhooks.reader last.outcome ≠ .ok (some environment)) :
    SetupOnce net url held before (before ++ (failed ++ [last])) setup where
  requests := by
    refine ⟨_, [], (List.append_nil _).symm, fun a ha => ?_, fun a ha => ?_, Nat.zero_le 1,
      fun _ => rfl⟩
    · exact ⟨hlisted.asked a ha, (hlisted.asked a ha).not_new⟩
    · cases ha
  adds := hlisted.same ▸ AddsOne.refl url (held before)
  known _ id hcreated := by
    subst hcreated
    rcases hend with ⟨_, h, -⟩ | ⟨⟨_, h⟩, -⟩ <;> cases h
  ends := by
    rcases hend with ⟨id, rfl, hknown⟩ | ⟨⟨reason, rfl⟩, hnothing⟩
    · rw [← hlisted.same] at hknown
      exact hknown
    · have hlast := hlisted.asked last (List.mem_append_right failed List.mem_cons_self)
      exact ⟨failed, last, (List.append_assoc _ _ _).symm, hlisted.outcome, .inl ⟨hlast, hnothing⟩⟩

/-- A setup that asks for a new delivery, when the list has none to the address. -/
lemma SetupOnce.requested (hkeeps : KeepsWebhooks net held) {failed : List Attempt}
    {last : Attempt} {setup : Api.WebhookSetup} (environmentId : String)
    (hlisted : Listed net held before failed last) (hnone : ∀ w ∈ held before, w.url ≠ url)
    (hend : CreationEnds net api (before ++ (failed ++ [last])) environmentId url setup) :
    SetupOnce net url held before
      (net.sent (before ++ (failed ++ [last])) (api.creationRequest environmentId url)) setup := by
  have hasks := api.addressAsked?_creationRequest environmentId url
  have hnew : ¬ ∃ w ∈ held before, w.url = url := fun ⟨w, hw, hurl⟩ => hnone w hw hurl
  refine ⟨⟨_, _, rfl, fun a ha => ?_, fun a ha => ?_, Nat.le_refl 1, fun h => absurd h hnew⟩, ?_,
    fun h => absurd h hnew, ?_⟩
  case refine_1 => exact ⟨hlisted.asked a ha, (hlisted.asked a ha).not_new⟩
  case refine_2 =>
    rw [List.mem_singleton.mp ha]
    exact hasks
  case refine_3 =>
    rcases hkeeps.creation (before ++ (failed ++ [last])) _ _ hasks with hsame | ⟨id, hmore⟩
    · rw [hsame, hlisted.same]
      exact AddsOne.refl url (held before)
    · rw [hmore, hlisted.same]
      exact AddsOne.single hnone
  case refine_4 =>
    rcases hend with ⟨made, hmade, rfl⟩ | ⟨hnothing, reason, rfl⟩
    · rw [hkeeps.created _ _ _ made hasks hmade]
      exact List.mem_append_right _ List.mem_cons_self
    · exact ⟨_, _, rfl, rfl, .inr ⟨hasks, hnothing⟩⟩

/-- **What a lost reply left behind is found.**  If the server gives its list whenever it is asked,
and the list has a delivery to the address, a setup tells of one that is there. -/
lemma SetupOnce.existing {after : List Attempt} {setup : Api.WebhookSetup}
    (h : SetupOnce net url held before after setup) (hknown : ∃ w ∈ held before, w.url = url)
    (hlists : ∀ history request, AsksForList request → ∃ environment,
      answerTo environmentWebhooks.reader (net.answer history request) = .ok (some environment)) :
    ∃ id, setup = .existing id ∧ ⟨id, url⟩ ∈ held after := by
  have hends := h.ends
  cases setup with
  | disabled => exact hends.elim
  | existing id => exact ⟨id, rfl, hends⟩
  | created id => exact absurd rfl (h.known hknown id)
  | failed reason =>
      obtain ⟨earlier, a, hafter, houtcome, ⟨hlist, hnothing⟩ | ⟨hnew, -⟩⟩ := hends
      · obtain ⟨environment, hgiven⟩ := hlists (before ++ earlier) a.request hlist
        exact absurd (houtcome ▸ hgiven) (hnothing environment)
      · -- no attempt of this setup asked for a new delivery
        obtain ⟨listings, creations, hrequests, hothers, -, -, hnone⟩ := h.requests
        rw [hnone hknown, List.append_nil, hafter, List.append_assoc, List.append_cancel_left_eq]
          at hrequests
        have ha : a ∈ listings := hrequests ▸ List.mem_append_right earlier List.mem_cons_self
        exact absurd hnew (hothers a ha).1.addressAsked?_ne

/-- How a setup ended.  Trouble is part of the answer. -/
def Api.WebhookSetup.ofResult : Except SyncError Api.WebhookSetup → Api.WebhookSetup
  | .ok setup => setup
  | .error e => .failed e.message

/-- With an address, a setup is an attempt at one. -/
lemma SetupOnce.of_try (hurl : api.config.webhookUrl = some url) {log log' : ApiLog}
    {result : Except SyncError Api.WebhookSetup} {after : List Attempt}
    (htry : api.tryEnsureWebhook net url log = (result, log')) (hafter : log'.attempts = after)
    (h : SetupOnce net url held log.attempts after (.ofResult result)) :
    SetupOnce net url held log.attempts (api.ensureWebhook net log).2.attempts
      (api.ensureWebhook net log).1 := by
  rw [Api.ensureWebhook, hurl]
  simp only [bind, StateT.bind, ExceptT.run, htry]
  subst hafter
  cases result with
  | ok setup => exact h
  | error e => exact h

/-- Without an address nothing is asked. -/
lemma ensureWebhook_disabled (net : Network) (hurl : api.config.webhookUrl = none) (log : ApiLog) :
    api.ensureWebhook net log = (.disabled, log) := by
  rw [Api.ensureWebhook, hurl]
  rfl

/-- An operation as an action on the management side. -/
lemma operation_requested {α : Type} (api : Api) (net : Network)
    (explain : ClientError → SyncError) (op : Operation α) (values : Json) (log : ApiLog) :
    ∃ failed outcome journal, Requested api.management net (Api.operationBody op values)
      op.idempotent log.attempts failed outcome ∧
    ApiAction.ofExchange explain (api.management.executeStrict net op values) log =
      ((answerTo op.reader outcome).mapError explain, { log with journal := journal }) ∧
    journal.attempts = log.attempts ++
      (failed ++ [⟨api.management.request (Api.operationBody op values), outcome⟩]) :=
  ofExchange_requested api.management net explain ⟨op.query, values, some op.name⟩ op.reader
    op.idempotent log

/-- **The request for a new delivery** is sent once, and its reply tells of the delivery that was
added, or the setup failed. -/
lemma creation_requested (net : Network) (hretry : api.management.retry = .default)
    (environmentId url : String) (log : ApiLog) : ∃ result journal,
    (do
      let made ← ApiAction.writing "createWebhook" (api.management.executeStrict net createWebhook
        (.object [("data", Api.webhookInput api.config environmentId url)]))
      return .created made.id : ApiAction Api.WebhookSetup) log =
        (result, { log with journal := journal }) ∧
    journal.attempts = net.sent log.attempts (api.creationRequest environmentId url) ∧
    CreationEnds net api log.attempts environmentId url (.ofResult result) := by
  obtain ⟨failed, outcome, journal, hrequested, hrun, hattempts⟩ :=
    operation_requested api net (fun e => .mutation "createWebhook" e.message)
      createWebhook (.object [("data", Api.webhookInput api.config environmentId url)]) log
  obtain ⟨houtcome, hsent⟩ := hrequested.sentOnce hretry
  obtain rfl : outcome = net.answer log.attempts (api.creationRequest environmentId url) := houtcome
  cases hmade : answerTo createWebhook.reader
      (net.answer log.attempts (api.creationRequest environmentId url)) with
  | error e =>
      rw [show answerTo createWebhook.reader _ = _ from hmade] at hrun
      refine ⟨_, journal, bind_of_error hrun, hattempts.trans hsent, .inr ⟨?_, _, rfl⟩⟩
      intro made hok
      cases hmade.symm.trans hok
  | ok made =>
      rw [show answerTo createWebhook.reader _ = _ from hmade] at hrun
      exact ⟨_, journal, bind_of_ok hrun, hattempts.trans hsent, .inl ⟨made, hmade, rfl⟩⟩

/-- **One setup** does no more than it may. -/
theorem ensureWebhook_once (hretry : api.management.retry = .default)
    (hurl : api.config.webhookUrl = some url) (hkeeps : KeepsWebhooks net held) (log : ApiLog) :
    SetupOnce net url held log.attempts (api.ensureWebhook net log).2.attempts
      (api.ensureWebhook net log).1 := by
  obtain ⟨failed, outcome, journal, hrequested, hrun, hasked⟩ :=
    operation_requested api net .graphql environmentWebhooks api.environmentVariables log
  have hlisted := hkeeps.listed_requested hrequested
  -- a setup ends without a list, with a delivery that is on it, or with the request for a new one
  cases hanswer : answerTo environmentWebhooks.reader outcome with
  | error e =>
      rw [hanswer] at hrun
      refine .of_try hurl (bind_of_error hrun) hasked (.of_listed hlisted (.inr ⟨⟨_, rfl⟩, ?_⟩))
      intro environment hok
      cases hanswer.symm.trans hok
  | ok found =>
      rw [hanswer] at hrun
      cases found with
      | none =>
          refine .of_try hurl (bind_of_ok hrun) hasked
            (.of_listed hlisted (.inr ⟨⟨_, rfl⟩, ?_⟩))
          intro environment hok
          cases hanswer.symm.trans hok
      | some environment =>
          have hwebhooks := hlisted.given environment hanswer
          cases hfind : environment.webhooks.find? fun w => w.url == url with
          | some known =>
              have htry : api.tryEnsureWebhook net url log =
                  (.ok (.existing known.id), { log with journal := journal }) := by
                refine (bind_of_ok hrun).trans ?_
                simp only [hfind]
                rfl
              refine .of_try hurl htry hasked (.of_listed hlisted (.inl ⟨known.id, rfl, ?_⟩))
              obtain rfl : known.url = url := by simpa using List.find?_some hfind
              exact hwebhooks ▸ List.mem_of_find?_eq_some hfind
          | none =>
              have hnone : ∀ w ∈ held log.attempts, w.url ≠ url := by
                rw [← hwebhooks]
                simpa using hfind
              obtain ⟨result, journal', hcreation, hsent, hend⟩ :=
                creation_requested net hretry environment.id url { log with journal := journal }
              have htry : api.tryEnsureWebhook net url log =
                  (result, { log with journal := journal' }) := by
                refine (bind_of_ok hrun).trans ?_
                simp only [hfind]
                exact hcreation
              rw [ApiLog.attempts, hasked] at hsent hend
              exact .of_try hurl htry hsent
                (.requested hkeeps environment.id hlisted hnone hend)

/-! ## Any number of setups -/

/-- What was done after setups one after another. -/
def setupsAfter (net : Network) (apis : List Api) (log : ApiLog) : ApiLog :=
  apis.foldl (fun log api => (api.ensureWebhook net log).2) log

/-- **Setups come to rest**, whatever becomes of the replies.  Any number of them, for the same
address, add at most one delivery to it, and none if there was one; none of them does more than one
setup may; and without an address nothing is asked. -/
theorem ensureWebhook_converges (hkeeps : KeepsWebhooks net held) {apis : List Api}
    (hapis : ∀ api ∈ apis, (∃ config, Api.of? config = .ok api) ∧
      api.config.webhookUrl = some url) (log : ApiLog) :
    AddsOne url (held log.attempts) (held (setupsAfter net apis log).attempts) ∧
    (∀ api ∈ apis, ∀ log, SetupOnce net url held log.attempts (api.ensureWebhook net log).2.attempts
      (api.ensureWebhook net log).1) ∧
    ∀ api : Api, api.config.webhookUrl = none → ∀ log,
      api.ensureWebhook net log = (.disabled, log) := by
  have honce : ∀ api ∈ apis, ∀ log, SetupOnce net url held log.attempts
      (api.ensureWebhook net log).2.attempts (api.ensureWebhook net log).1 := by
    intro api hmem log
    obtain ⟨⟨config, hapi⟩, hurl⟩ := hapis api hmem
    exact ensureWebhook_once (retry_of_api hapi).2 hurl hkeeps log
  refine ⟨?_, honce, fun api hurl log => ensureWebhook_disabled net hurl log⟩
  clear hapis
  -- each setup starts from the list that the one before it left
  induction apis generalizing log with
  | nil => exact AddsOne.refl url _
  | cons api rest ih =>
      obtain ⟨hfirst, hrest⟩ := List.forall_mem_cons.mp honce
      exact (hfirst log).adds.trans (ih (api.ensureWebhook net log).2 hrest)

end Setup

section Lost

/-- The address that deliveries are to be sent to. -/
def hookUrl : String := "https://hook"

/-- A project with deliveries. -/
def hookConfig : Config := { plainConfig with webhookUrl := some hookUrl }

/-- The list that is kept: of the addresses that were asked for the one that is served, once. -/
def lostHeld (history : List Attempt) : List WebhookSummary :=
  ((history.filterMap fun a => addressAsked? a.request).find? (· == hookUrl)).toList.map
    (WebhookSummary.mk "w")

/-- The reply that gives a list. -/
def listReply (webhooks : List WebhookSummary) : Outcome :=
  .replied ⟨200, none, (Json.object [("data", .object [("viewer", .object [("project",
    .object [("environment", .object [("id", .string "e"), ("webhooks", .array
      (webhooks.map fun w => .object [("id", .string w.id), ("url", .string w.url)]))])])])])]
        ).render.toUTF8⟩

/-- A server that gives its list, and whose other replies all get lost. -/
def lostNetwork : Network where
  answer history request :=
    if AsksForList request then listReply (lostHeld history) else .lost .timeout
  draw _ := 0

/-- A request adds a delivery when it asks for the address that is served, for the first time. -/
lemma lostHeld_sent (history : List Attempt) (request : Http.Request) :
    lostHeld (lostNetwork.sent history request) =
      if lostHeld history = [] ∧ addressAsked? request = some hookUrl then [⟨"w", hookUrl⟩]
      else lostHeld history := by
  rw [Http.Network.sent, lostHeld, lostHeld, List.filterMap_append, List.find?_append]
  cases hfound : (history.filterMap fun a => addressAsked? a.request).find? (· == hookUrl) with
  | some address =>
      rw [Option.some_or, if_neg fun h => absurd h.1 (List.cons_ne_nil _ _)]
  | none =>
      rw [Option.none_or]
      cases hasked : addressAsked? request with
      | none => simp [hasked]
      | some address =>
          by_cases hserved : address = hookUrl <;> simp [hasked, hserved]

lemma lostHeld_cases (history : List Attempt) :
    lostHeld history = [] ∨ lostHeld history = [⟨"w", hookUrl⟩] := by
  rw [lostHeld]
  cases hfound : (history.filterMap fun a => addressAsked? a.request).find? (· == hookUrl) with
  | none => exact .inl rfl
  | some address =>
      obtain rfl : address = hookUrl := by simpa using List.find?_some hfound
      exact .inr rfl

/-- The list that is given is the one that is kept. -/
lemma answerTo_lostNetwork (history : List Attempt) {request : Http.Request}
    (h : AsksForList request) :
    answerTo environmentWebhooks.reader (lostNetwork.answer history request) =
      .ok (some ⟨"e", lostHeld history⟩) := by
  have hread : (answerTo environmentWebhooks.reader (listReply (lostHeld history))).toOption =
      some (some ⟨"e", lostHeld history⟩) := by
    rw [listReply, answerTo_rendered]
    rcases lostHeld_cases history with hkept | hkept <;> rw [hkept] <;> decide +kernel
  rw [show lostNetwork.answer history request = listReply (lostHeld history) from if_pos h]
  cases hanswer : answerTo environmentWebhooks.reader (listReply (lostHeld history)) with
  | error e =>
      rw [hanswer] at hread
      cases hread
  | ok given =>
      rw [hanswer] at hread
      exact congrArg Except.ok (Option.some.inj hread)

lemma lostNetwork_keeps : KeepsWebhooks lostNetwork lostHeld where
  listing history request hlist := by
    rw [lostHeld_sent, if_neg fun h => hlist.addressAsked?_ne h.2]
  listed history request environment hlist h := by
    rw [answerTo_lostNetwork history hlist] at h
    cases h
    rfl
  creation history request address hnew := by
    rw [lostHeld_sent]
    split
    · next hfirst =>
        obtain ⟨hempty, hserved⟩ := hfirst
        obtain rfl : address = hookUrl := Option.some.inj (hnew.symm.trans hserved)
        exact .inr ⟨"w", by rw [hempty, List.nil_append]⟩
    · exact .inl rfl
  created history request address made hnew h := by
    have hother : ¬ AsksForList request := fun hlist => hlist.addressAsked?_ne hnew
    rw [show lostNetwork.answer history request = .lost .timeout from if_neg hother] at h
    cases h

/-- After a setup there is the delivery, whatever the setup was told. -/
lemma lostHeld_setup {before after : List Attempt} {setup : Api.WebhookSetup}
    (h : SetupOnce lostNetwork hookUrl lostHeld before after setup) :
    lostHeld after = [⟨"w", hookUrl⟩] := by
  have hends := h.ends
  have hmem (id : String) (hid : ⟨id, hookUrl⟩ ∈ lostHeld after) :
      lostHeld after = [⟨"w", hookUrl⟩] := by
    refine (lostHeld_cases after).resolve_left fun hempty => ?_
    rw [hempty] at hid
    cases hid
  cases setup with
  | disabled => exact hends.elim
  | existing id => exact hmem id hends
  | created id => exact hmem id hends
  | failed reason =>
      obtain ⟨earlier, a, rfl, houtcome, ⟨hlist, hnothing⟩ | ⟨hnew, -⟩⟩ := hends
      · exact absurd (houtcome ▸ answerTo_lostNetwork _ hlist) (hnothing _)
      · have hsent : before ++ earlier ++ [a] = lostNetwork.sent (before ++ earlier) a.request := by
          rw [Http.Network.sent, ← houtcome]
        rw [hsent, lostHeld_sent]
        split
        · rfl
        · next hlater =>
            exact (lostHeld_cases _).resolve_left fun hempty => hlater ⟨hempty, hnew⟩

/-- A server that loses the reply to every request for a new delivery has exactly one after the
first setup, and the second one finds it. -/
theorem ensureWebhook_converges_lost :
    ∃ api, Api.of? hookConfig = .ok api ∧ api.config.webhookUrl = some hookUrl ∧
      KeepsWebhooks lostNetwork lostHeld ∧
      let first := api.ensureWebhook lostNetwork .empty
      let second := api.ensureWebhook lostNetwork first.2
      lostHeld first.2.attempts = [⟨"w", hookUrl⟩] ∧ second.1 = .existing "w" ∧
        lostHeld second.2.attempts = [⟨"w", hookUrl⟩] := by
  obtain ⟨api, hapi⟩ : ∃ api, Api.of? hookConfig = .ok api := ⟨_, rfl⟩
  have hurl : api.config.webhookUrl = some hookUrl := by
    cases hapi
    rfl
  have hapis : ∀ a ∈ [api, api], (∃ config, Api.of? config = .ok a) ∧
      a.config.webhookUrl = some hookUrl := by
    intro a ha
    obtain rfl : a = api := by simpa using ha
    exact ⟨⟨hookConfig, hapi⟩, hurl⟩
  obtain ⟨-, honce, -⟩ := ensureWebhook_converges lostNetwork_keeps hapis .empty
  refine ⟨api, hapi, hurl, lostNetwork_keeps, ?_⟩
  intro first second
  have hfirst := lostHeld_setup (honce api List.mem_cons_self .empty)
  have hsecond := honce api List.mem_cons_self first.2
  obtain ⟨id, hexisting, hid⟩ := hsecond.existing
    ⟨⟨"w", hookUrl⟩, hfirst ▸ List.mem_cons_self, rfl⟩
    fun history _ hlist => ⟨_, answerTo_lostNetwork history hlist⟩
  rw [lostHeld_setup hsecond] at hid
  obtain ⟨rfl, -⟩ := WebhookSummary.mk.inj (List.mem_singleton.mp hid)
  exact ⟨hfirst, hexisting, lostHeld_setup hsecond⟩

end Lost

end ContentSync
