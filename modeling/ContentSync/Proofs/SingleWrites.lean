import ContentSync.Proofs.NotificationEffect
import ContentSync.Source.Writing

/-!
# Single writes are sent once, and kept only when they were carried out

A write is sent to the content side once, whatever becomes of the request.  The cache follows the
reply: it changes when the reply says that the write was carried out, by exactly what was written,
and in no other case.

* `Write` — a field with its arguments, and the bodies that carry it.
* `writtenBy` — the document that the reply to a write shows.
* `mutate_sentOnce` — any mutation is one request with one attempt.
* `SendsOnce` — an action whose result is decided by one request; `mutate_sendsOnce` and the lemmas
  after it say which ones are.
* `WritesOnce` — what a write does to a source.
* `singleWrites_once` — all writes of a source.
-/

namespace ContentSync

open GraphQL
open Http (Attempt Network Outcome)

/-! ## Writes -/

/-- **A write**: the field that is asked for, its arguments, and the values of the variables. -/
structure Write where
  field : String
  arguments : Arguments
  values : Json

namespace Write

/-- A new document of a model. -/
def creating (t : ContentType) (data : Json) : Write :=
  ⟨"create" ++ t.name, [("data", .var "data")], .object [("data", data)]⟩

/-- A change of a document. -/
def changing (t : ContentType) (id : String) (data : Json) : Write :=
  ⟨"update" ++ t.name, [("where", whereId id), ("data", .var "data")], .object [("data", data)]⟩

/-- The removal of a document or asset. -/
def deleting (typename id : String) : Write :=
  ⟨"delete" ++ typename, [("where", whereId id)], .object []⟩

/-- **Whether a body carries a write**: a mutation that asks for its field and for nothing else. -/
def IsCarriedBy (w : Write) (body : String) : Prop :=
  ∃ (d : Document) (wanted : SelectionSet), d.kind = .mutation ∧
    d.selection = [.object w.field none w.arguments wanted] ∧
    body = (Envelope.mk d.render w.values d.name).render

end Write

/-! ## Actions -/

/-- **The document that the reply to a write shows**: the data have a value under the field of the
write, and without its aliases it is an item. -/
def writtenBy (field : String) (outcome : Outcome) : Option Item := do
  let data ← dataOf outcome
  let value ← data.get? field
  (readItem value).toOption

/-- Whether the reply to a write has data, whatever they are. -/
def carriedOut (outcome : Outcome) : Option Unit := (dataOf outcome).map fun _ => ()

/-- **An action that sends one request**, which carries a write, and whose outcome decides the
result.  The error names the field of the write. -/
def SendsOnce {α : Type} (api : Api) (net : Network) (w : Write) (result? : Outcome → Option α)
    (x : ApiAction α) : Prop :=
  ∀ log, ∃ body outcome journal, w.IsCarriedBy body ∧
    SentOnce api.content net body log.attempts journal.attempts outcome ∧
    match result? outcome with
    | some a => x log = (.ok a, { log with journal := journal })
    | none =>
        ∃ reason, x log = (.error (.mutation w.field reason), { log with journal := journal })

section Actions

variable {api : Api} {net : Network} {w : Write}

/-- **A mutation is sent once**, whatever it asks for, and its result is what the data of the reply
have under its field. -/
lemma mutate_sentOnce (hretry : api.content.retry = .default) (net : Network) (field : String)
    (d : Document) (values : Json) (log : ApiLog) :
    ∃ outcome journal,
      SentOnce api.content net (Envelope.mk d.render values d.name).render log.attempts
        journal.attempts outcome ∧
      match dataOf outcome with
      | some data => api.mutate net field d values log =
          (.ok ((data.get? field).getD .null), { log with journal := journal })
      | none => ∃ reason, api.mutate net field d values log =
          (.error (.mutation field reason), { log with journal := journal }) := by
  obtain ⟨failed, outcome, journal, hrequested, hrun, hattempts⟩ :=
    ofExchange_requested api.content net (fun e => .mutation field e.message)
      ⟨d.render, values, d.name⟩ .json false log
  refine ⟨outcome, journal, hattempts ▸ hrequested.sentOnce hretry, ?_⟩
  rw [← toOption_answerTo_json]
  cases hanswer : answerTo .json outcome with
  | ok data =>
      rw [hanswer] at hrun
      exact bind_of_ok hrun
  | error e =>
      rw [hanswer] at hrun
      exact ⟨e.message, bind_of_error hrun⟩

lemma mutate_sendsOnce (hretry : api.content.retry = .default) {d : Document}
    {wanted : SelectionSet} (hkind : d.kind = .mutation)
    (hselection : d.selection = [.object w.field none w.arguments wanted]) :
    SendsOnce api net w (fun outcome => (dataOf outcome).map fun data =>
      (data.get? w.field).getD .null) (api.mutate net w.field d w.values) := by
  intro log
  obtain ⟨outcome, journal, hsent, hrun⟩ := mutate_sentOnce hretry net w.field d w.values log
  refine ⟨_, outcome, journal, ⟨d, wanted, hkind, hselection, rfl⟩, hsent, ?_⟩
  dsimp only
  cases hdata : dataOf outcome with
  | some data =>
      rw [hdata] at hrun
      exact hrun
  | none =>
      rw [hdata] at hrun
      exact hrun

/-- An action goes on after its one request with a step that only reads the result. -/
lemma SendsOnce.bind {α β : Type} {result? : Outcome → Option α} {x : ApiAction α}
    (hx : SendsOnce api net w result? x) {f : α → ApiAction β} {read : α → Option β}
    (hf : ∀ a log, match read a with
      | some b => f a log = (.ok b, log)
      | none => ∃ reason, f a log = (.error (.mutation w.field reason), log)) :
    SendsOnce api net w (fun outcome => (result? outcome).bind read) (x >>= f) := by
  intro log
  obtain ⟨body, outcome, journal, hcarried, hsent, hrun⟩ := hx log
  refine ⟨body, outcome, journal, hcarried, hsent, ?_⟩
  dsimp only
  cases hresult : result? outcome with
  | none =>
      rw [hresult] at hrun
      obtain ⟨reason, hrun⟩ := hrun
      exact ⟨reason, bind_of_error hrun⟩
  | some a =>
      rw [hresult] at hrun
      have hstep := hf a { log with journal := journal }
      rw [Option.bind_some]
      cases hread : read a with
      | some b =>
          rw [hread] at hstep
          exact (bind_of_ok hrun).trans hstep
      | none =>
          rw [hread] at hstep
          obtain ⟨reason, hstep⟩ := hstep
          exact ⟨reason, (bind_of_ok hrun).trans hstep⟩

/-- A field that is missing is null, and null is no item. -/
lemma writtenBy_eq (field : String) (outcome : Outcome) :
    writtenBy field outcome =
      ((dataOf outcome).map fun data => (data.get? field).getD .null).bind
        fun value => (readItem value).toOption := by
  rw [writtenBy]
  cases dataOf outcome with
  | none => rfl
  | some data =>
      simp only [bind, Option.bind_some, Option.map_some]
      cases data.get? field <;> rfl

lemma mutateDocument_sendsOnce (hretry : api.content.retry = .default) {arguments : Arguments}
    {data : Json} (harguments : w.arguments = Entries.insert arguments "data" (.var "data"))
    (hvalues : w.values = .object [("data", data)]) (selection : SelectionSet)
    (inputType : String) :
    SendsOnce api net w (writtenBy w.field)
      (api.mutateDocument net w.field arguments selection inputType data) := by
  rw [funext (writtenBy_eq w.field), Api.mutateDocument, ← harguments, ← hvalues]
  refine (mutate_sendsOnce hretry rfl rfl).bind fun value log => ?_
  cases hread : readItem value with
  | ok d =>
      have hvalue : value.isNull = false := by
        cases value with
        | null => cases hread
        | bool | number | string | array | object => rfl
      simp only [hvalue]
      rfl
  | error e =>
      cases value.isNull with
      | true => exact ⟨"no document returned", rfl⟩
      | false => exact ⟨e.message, rfl⟩

lemma mutateNode_sendsOnce (hretry : api.content.retry = .default) (hvalues : w.values = .object [])
    (wanted : SelectionSet) : SendsOnce api net w carriedOut
      (api.mutateNode net w.field (.object w.field none w.arguments wanted)) := by
  have heq : carriedOut = fun outcome =>
      ((dataOf outcome).map fun data => (data.get? w.field).getD .null).bind fun _ => some () := by
    funext outcome
    rw [carriedOut]
    cases dataOf outcome <;> rfl
  rw [heq, Api.mutateNode, ← hvalues]
  exact (mutate_sendsOnce hretry rfl rfl).bind fun _ _ => rfl

end Actions

/-! ## Writes through a source -/

/-- **What a write does to a source.**  One request that carries it is sent to the content side.
When its outcome says what was written, that is the result, and the cache changes by it; else the
error names the field of the write, and the cache stays as it is. -/
def WritesOnce {α : Type} (source : Source) (net : Network) (w : Write)
    (result? : Outcome → Option α) (kept : α → Cache → Cache → Prop) (s : SourceState)
    (x : SourceAction α) : Prop :=
  ∃ body outcome, w.IsCarriedBy body ∧
    SentOnce source.api.content net body s.log.attempts (x s).2.log.attempts outcome ∧
    match result? outcome with
    | some a => (x s).1 = .ok a ∧ kept a s.cache (x s).2.cache
    | none => (∃ reason, (x s).1 = .error (.mutation w.field reason)) ∧ (x s).2.cache = s.cache

lemma WritesOnce.of_eq {α : Type} {source : Source} {net : Network} {w : Write}
    {result? : Outcome → Option α} {kept : α → Cache → Cache → Prop} {s : SourceState}
    {x y : SourceAction α} (heq : x s = y s) (hy : WritesOnce source net w result? kept s y) :
    WritesOnce source net w result? kept s x := by
  rw [WritesOnce, heq]
  exact hy

/-- A model that the schema has is at hand. -/
lemma bind_model {α : Type} {schema : Schema} {typename : String} {t : ContentType}
    (h : schema.model? typename = some t) (next : ContentType → ApiAction α) :
    ((Api.model schema typename : Except SyncError ContentType) >>= next : ApiAction α) =
      next t := by
  rw [Api.model, h]
  rfl

/-- A name that is no model ends an action before it asks for anything. -/
lemma bind_noModel {α : Type} {schema : Schema} {typename : String}
    (h : schema.model? typename = none) (next : ContentType → ApiAction α) :
    ((Api.model schema typename : Except SyncError ContentType) >>= next : ApiAction α) =
      throw (.unknownModel typename) := by
  rw [Api.model, h]
  rfl

section Source

variable {source : Source} {net : Network} {s : SourceState} {w : Write}

/-- A write goes on after its one request with a change of the cache. -/
lemma SendsOnce.writesOnce {α : Type} {result? : Outcome → Option α} {x : ApiAction α}
    (hx : SendsOnce source.api net w result? x) {kept : α → Cache → Cache → Prop}
    {change : α → SourceAction α} (next : α → Cache → Cache)
    (hchange : ∀ a s, change a s = (.ok a, { s with cache := next a s.cache }))
    (hkept : ∀ a c, kept a c (next a c)) :
    WritesOnce source net w result? kept s (SourceAction.ofApi x >>= change) := by
  obtain ⟨body, outcome, journal, hcarried, hsent, hresult⟩ := hx s.log
  cases hwritten : result? outcome with
  | some a =>
      rw [hwritten] at hresult
      have hrun : SourceAction.ofApi x s =
          (.ok a, { s with log := { s.log with journal := journal } }) := by
        rw [SourceAction.ofApi, SourceM.logging, ExceptT.run, hresult]
      rw [WritesOnce, bind_of_ok hrun, hchange]
      exact ⟨body, outcome, hcarried, hsent, by rw [hwritten]; exact ⟨rfl, hkept a s.cache⟩⟩
  | none =>
      rw [hwritten] at hresult
      obtain ⟨reason, hresult⟩ := hresult
      have hrun : SourceAction.ofApi x s = (.error (.mutation w.field reason),
          { s with log := { s.log with journal := journal } }) := by
        rw [SourceAction.ofApi, SourceM.logging, ExceptT.run, hresult]
      rw [WritesOnce, bind_of_error hrun]
      exact ⟨body, outcome, hcarried, hsent, by rw [hwritten]; exact ⟨⟨reason, rfl⟩, rfl⟩⟩

/-- A schema that is kept is at hand without a request. -/
lemma bind_schema {α : Type} {schema : Schema} (hschema : s.cache.schema = some schema)
    (next : Schema → SourceAction α) :
    ((source.schema net : SourceM Schema) >>= next : SourceAction α) s = next schema s := by
  refine bind_of_ok ?_
  simp only [liftM, monadLift, MonadLift.monadLift, ExceptT.lift, ExceptT.mk, Functor.map,
    StateT.map, schema_of_kept hschema]
  rfl

/-- A document that was written is kept. -/
lemma writesOnce_keep {x : ApiAction Item}
    (hx : SendsOnce source.api net w (writtenBy w.field) x) :
    WritesOnce source net w (writtenBy w.field) StoredCopy s (do
      let d ← SourceAction.ofApi x
      Source.keep d
      return d) :=
  hx.writesOnce (fun d c => c.apply (.ofItem d)) (fun _ _ => rfl)
    (fun d c => storedCopy_ofItem c d)

/-- A document or asset that was deleted is taken out. -/
lemma writesOnce_deleteDocument (hretry : source.api.content.retry = .default) (net : Network)
    (typename id : String) :
    WritesOnce source net (.deleting typename id) carriedOut
      (fun _ => RemovedItem ⟨typename, id⟩) s (source.deleteDocument net typename id) :=
  (mutateNode_sendsOnce hretry rfl _).writesOnce
    (fun _ c => c.apply (.deleting ⟨typename, id⟩)) (fun _ _ => rfl)
    (fun _ c => removedItem_delete c ⟨typename, id⟩)

/-- **Single writes.**  Creating and changing a document needs a model; without one nothing is asked
and nothing changes.  A write sends one request, whatever becomes of it, and is kept just when the
reply says that it was carried out: a document that was written is stored, and one that was deleted
is taken out. -/
theorem singleWrites_once {c : Config} (hapi : Api.of? c = .ok source.api) (net : Network)
    {schema : Schema} (hschema : s.cache.schema = some schema) (typename id : String)
    (data : Json) :
    (match schema.model? typename with
      | none =>
          source.createDocument net typename data s = (.error (.unknownModel typename), s) ∧
          source.updateDocument net typename id data s = (.error (.unknownModel typename), s)
      | some t =>
          WritesOnce source net (.creating t data) (writtenBy ("create" ++ t.name)) StoredCopy s
            (source.createDocument net typename data) ∧
          WritesOnce source net (.changing t id data) (writtenBy ("update" ++ t.name)) StoredCopy s
            (source.updateDocument net typename id data)) ∧
    WritesOnce source net (.deleting typename id) carriedOut
      (fun _ => RemovedItem ⟨typename, id⟩) s (source.deleteDocument net typename id) := by
  obtain ⟨hretry, -⟩ := retry_of_api hapi
  refine ⟨?_, ?_⟩
  · cases hmodel : schema.model? typename with
    | none =>
        refine ⟨(bind_schema hschema _).trans (bind_of_error ?_),
          (bind_schema hschema _).trans (bind_of_error ?_)⟩
        · rw [Api.createDocument, bind_noModel hmodel]
          rfl
        · rw [Api.updateDocument, bind_noModel hmodel]
          rfl
    | some t =>
        refine ⟨.of_eq (bind_schema hschema _) (writesOnce_keep ?_),
          .of_eq (bind_schema hschema _) (writesOnce_keep ?_)⟩
        · rw [Api.createDocument, bind_model hmodel]
          exact mutateDocument_sendsOnce hretry rfl rfl _ _
        · rw [Api.updateDocument, bind_model hmodel]
          exact mutateDocument_sendsOnce hretry rfl rfl _ _
  · exact writesOnce_deleteDocument hretry net typename id

end Source

section Busy

/-- A schema whose only model is that of posts. -/
def postSchema : Schema := .ofTypes [.ofFields "Post" "Posts" .model []]

/-- Only the schema is kept. -/
def postState : SourceState := { SourceState.empty with cache := ⟨some postSchema, .empty, .empty⟩ }

/-- A reply that asks for another try after a second. -/
def busyReply : Outcome := .replied ⟨503, some "1", "".toUTF8⟩

/-- Neither side has the time. -/
def busyNetwork : Network := ⟨fun _ _ => busyReply, fun _ => 0⟩

/-- A document that is turned away, with the advice to try again, is not sent again. -/
theorem singleWrites_once_busy :
    ∃ source, Source.of? plainConfig = .ok source ∧ Api.of? plainConfig = .ok source.api ∧
      postState.cache.schema = some postSchema ∧
      let (result, s') := source.createDocument busyNetwork "Post" (.object []) postState
      s'.log.attempts.length = 1 ∧ s'.cache = postState.cache ∧
        ∃ reason, result = .error (.mutation "createPost" reason) := by
  obtain ⟨source, hsource⟩ : ∃ source, Source.of? plainConfig = .ok source := ⟨_, rfl⟩
  have hapi : Api.of? plainConfig = .ok source.api := by
    cases hsource
    rfl
  refine ⟨source, hsource, hapi, rfl, ?_⟩
  obtain ⟨hwrites, -⟩ := singleWrites_once (s := postState) hapi busyNetwork rfl "Post" "a"
    (.object [])
  obtain ⟨⟨body, _, -, ⟨rfl, hattempts⟩, hresult⟩, -⟩ := hwrites
  obtain ⟨herror, hcache⟩ := hresult
  exact ⟨congrArg List.length hattempts, hcache, herror⟩

end Busy

end ContentSync
