import ContentSync.Proofs.Requests
import ContentSync.Source.Notifying

/-!
# What was read was shown by the last reply

An exchange only ever adds attempts to the journal.  One that gives data ends with a reply that has
them, however often it was tried before, so an item that is read is the one that the reply to the
last request shows.

* `Extends` — an action that only adds to a list in its state.
* `executeDocumentStrict_ok` — the last attempt of an exchange that gives data.
* `Shows` — a request for an item whose reply shows it.
* `fetchItem_eq`, `itemUnder` — reading an item is one exchange.
* `readOnce_item`, `readOnce_of_dataOf` — reading an item.
-/

namespace ContentSync

open GraphQL
open Http (Attempt Network Outcome)

/-! ## Actions that add to a list -/

section Actions

variable {ε σ α β γ : Type}

/-- **An action that only adds** to the end of a list in its state. -/
def Extends (view : σ → List γ) (x : σ → α × σ) : Prop := ∀ s, view s <+: view (x s).2

variable {view : σ → List γ}

lemma extends_of_eq {x : σ → α × σ} (h : ∀ s, view (x s).2 = view s) : Extends view x :=
  fun s => h s ▸ List.prefix_rfl

/-- What follows an action comes after what it added. -/
lemma prefix_bind (x : ExceptT ε (StateM σ) α) {f : α → ExceptT ε (StateM σ) β}
    (hf : ∀ a, Extends view (f a)) (s : σ) : view (x s).2 <+: view ((x >>= f) s).2 := by
  simp only [bind, ExceptT.bind, ExceptT.mk, ExceptT.bindCont, StateT.bind]
  rcases x s with ⟨_ | a, s₁⟩
  · exact List.prefix_rfl
  · exact hf a s₁

lemma extends_bind {x : ExceptT ε (StateM σ) α} {f : α → ExceptT ε (StateM σ) β}
    (hx : Extends view x) (hf : ∀ a, Extends view (f a)) : Extends view (x >>= f) :=
  fun s => (hx s).trans (prefix_bind x hf s)

end Actions

/-! ## Exchanges -/

namespace GraphQL

section Exchange

variable {c : Client} {net : Network} {j j' : Journal}

lemma extends_executeStrict {α : Type} (op : Operation α) (values : Json) :
    Extends Journal.attempts (c.executeStrict net op values) := by
  intro j
  obtain ⟨failed, outcome, -, -, hattempts⟩ :=
    ask_requested c net ⟨op.query, values, some op.name⟩ op.reader op.idempotent j
  exact hattempts ▸ List.prefix_append _ _

/-- **The last attempt of an exchange that gives data** carries the document, and its reply has the
data. -/
theorem executeDocumentStrict_ok {d : Document} {idempotent : Bool} {data : Json}
    (h : c.executeDocumentStrict net d idempotent j = (.ok data, j')) :
    ∃ before outcome, j'.attempts = j.attempts ++ before ++ [⟨c.requestFor d, outcome⟩] ∧
      dataOf outcome = some data := by
  obtain ⟨failed, outcome, -, hresult, hattempts⟩ :=
    ask_requested c net (.ofDocument d) .json idempotent j
  obtain ⟨hdata, rfl⟩ := Prod.mk.inj h
  refine ⟨failed, outcome, hattempts.trans (List.append_assoc _ _ _).symm, ?_⟩
  exact answerTo_json_iff.mp (hresult.symm.trans hdata)

end Exchange

end GraphQL

/-! ## The schema -/

section Items

variable {net : Network}

lemma extends_ofExchange {α : Type} {explain : ClientError → SyncError} {x : Exchange α}
    (h : Extends Journal.attempts x) : Extends ApiLog.attempts (ApiAction.ofExchange explain x) :=
  fun log => h log.journal

/-- Loading the schema only adds attempts. -/
lemma extends_fetchSchema (api : Api) : Extends ApiLog.attempts (api.fetchSchema net) := by
  have htry : Extends ApiLog.attempts (api.tryFetchSchema net) := by
    refine extends_bind (extends_ofExchange (extends_executeStrict _ _)) fun found => ?_
    refine extends_of_eq fun log => ?_
    cases found <;> rfl
  intro log
  rw [Api.fetchSchema]
  simp only [bind, StateT.bind, ExceptT.run]
  have hlog := htry log
  rcases hfetch : api.tryFetchSchema net log with ⟨_ | schema, log₁⟩ <;>
    (rw [hfetch] at hlog; exact hlog)

/-! ## Items -/

/-- **A request for an item whose reply shows it.**  The request asks for the item under its root
field, and that is where the reply has it. -/
def Shows (api : Api) (schema : Schema) (r : Reference) (a : Attempt) (copy : Item) : Prop :=
  ∃ field selection data node, Api.itemSelection schema r.typename = .ok (field, selection) ∧
    a.request = api.content.requestFor (Api.itemDocument field selection r.id) ∧
    dataOf a.outcome = some data ∧ data.get? field = some node ∧ readItem node = .ok copy

/-- The item under a field of the data of a reply. -/
def itemUnder (field : String) (data : Json) : Except SyncError (Option Item) :=
  match data.get? field with
  | none => .ok none
  | some .null => .ok none
  | some node =>
      match readItem node with
      | .ok d => .ok (some d)
      | .error e => .error (.graphql (.json e.message))

lemma itemUnder_eq {field : String} {data node : Json} (hnode : data.get? field = some node)
    (h : node ≠ .null) :
    itemUnder field data = match readItem node with
      | .ok d => .ok (some d)
      | .error e => .error (.graphql (.json e.message)) := by
  rw [itemUnder, hnode]
  cases node with
  | null => exact absurd rfl h
  | bool | number | string | array | object => rfl

lemma itemUnder_of_readItem {field : String} {data node : Json} {copy : Item}
    (hnode : data.get? field = some node) (hcopy : readItem node = .ok copy) :
    itemUnder field data = .ok (some copy) := by
  have hnull : node ≠ .null := by
    rintro rfl
    cases hcopy
  rw [itemUnder_eq hnode hnull, hcopy]

lemma itemUnder_eq_some {field : String} {data : Json} {copy : Item}
    (h : itemUnder field data = .ok (some copy)) :
    ∃ node, data.get? field = some node ∧ readItem node = .ok copy := by
  cases hnode : data.get? field with
  | none =>
      rw [itemUnder, hnode] at h
      cases h
  | some node =>
      refine ⟨node, rfl, ?_⟩
      by_cases hnull : node = .null
      · subst hnull
        rw [itemUnder, hnode] at h
        cases h
      · rw [itemUnder_eq hnode hnull] at h
        cases hread : readItem node with
        | error e =>
            rw [hread] at h
            cases h
        | ok found =>
            rw [hread] at h
            cases h
            rfl

/-- **Reading one item** is one exchange, unless the type is no model. -/
lemma fetchItem_eq (api : Api) (net : Network) (schema : Schema) (r : Reference) (log : ApiLog) :
    api.fetchItem net schema r.typename r.id log =
      match Api.itemSelection schema r.typename with
      | .error e => (.error e, log)
      | .ok (field, selection) =>
          let exchange := api.content.executeDocumentStrict net
            (Api.itemDocument field selection r.id) true log.journal
          match exchange.1 with
          | .error e => (.error (.graphql e), { log with journal := exchange.2 })
          | .ok data => (itemUnder field data, { log with journal := exchange.2 }) := by
  rw [Api.fetchItem]
  cases hselection : Api.itemSelection schema r.typename with
  | error e => exact bind_of_error (e := e) rfl
  | ok item =>
      obtain ⟨field, selection⟩ := item
      refine (bind_of_ok (a := (field, selection)) rfl).trans ?_
      dsimp only
      rcases hexchange : api.content.executeDocumentStrict net
        (Api.itemDocument field selection r.id) true log.journal with ⟨_ | data, journal⟩
      · refine bind_of_error ?_
        rw [ApiAction.reading, ApiAction.ofExchange, hexchange]
        rfl
      · have hread : ApiAction.reading (api.content.executeDocumentStrict net
              (Api.itemDocument field selection r.id) true) log =
            (.ok data, { log with journal := journal }) := by
          rw [ApiAction.reading, ApiAction.ofExchange, hexchange]
          rfl
        refine (bind_of_ok hread).trans ?_
        dsimp only [itemUnder]
        cases data.get? field with
        | none => rfl
        | some node =>
            cases hcopy : readItem node with
            | error e => cases node <;> (simp only [hcopy]; rfl)
            | ok copy => cases node <;> (simp only [hcopy]; rfl)

/-- **An item that is fetched** is shown by the reply to the last request. -/
theorem fetchItem_ok {api : Api} {schema : Schema} {r : Reference} {copy : Item}
    {log log' : ApiLog}
    (h : api.fetchItem net schema r.typename r.id log = (.ok (some copy), log')) :
    ∃ before a, log'.attempts = log.attempts ++ before ++ [a] ∧ Shows api schema r a copy := by
  rw [fetchItem_eq] at h
  cases hselection : Api.itemSelection schema r.typename with
  | error e =>
      rw [hselection] at h
      cases h
  | ok item =>
      obtain ⟨field, selection⟩ := item
      rw [hselection] at h
      dsimp only at h
      rcases hexchange : api.content.executeDocumentStrict net
        (Api.itemDocument field selection r.id) true log.journal with ⟨_ | data, journal⟩
      · rw [hexchange] at h
        cases h
      · rw [hexchange] at h
        obtain ⟨hitem, rfl⟩ := Prod.mk.inj h
        obtain ⟨before, outcome, hattempts, hshown⟩ := executeDocumentStrict_ok hexchange
        obtain ⟨node, hnode, hcopy⟩ := itemUnder_eq_some hitem
        exact ⟨before, _, hattempts, field, selection, data, node, hselection, rfl, hshown,
          hnode, hcopy⟩

/-- What a read makes of an item that is fetched. -/
lemma readOnce_eq (source : Source) (schema : Schema) (r : Reference) (log : ApiLog) :
    source.readOnce net schema r log =
      (match (source.api.fetchItem net schema r.typename r.id log).1 with
        | .ok (some copy) => .item copy
        | .ok none => .missing
        | .error _ => .failed, (source.api.fetchItem net schema r.typename r.id log).2) := by
  rw [Source.readOnce]
  simp only [bind, StateT.bind, ExceptT.run]
  rcases source.api.fetchItem net schema r.typename r.id log with ⟨_ | _ | d, log₁⟩ <;> rfl

/-- A read depends on the requests before it, and not on what was warned of. -/
lemma readOnce_of_journal (source : Source) (net : Network) (schema : Schema) (r : Reference)
    {log log' : ApiLog} (h : log.journal = log'.journal) :
    (source.readOnce net schema r log).1 = (source.readOnce net schema r log').1 ∧
      (source.readOnce net schema r log).2.journal =
        (source.readOnce net schema r log').2.journal := by
  rw [readOnce_eq, readOnce_eq, fetchItem_eq, fetchItem_eq, h]
  cases Api.itemSelection schema r.typename with
  | error e => exact ⟨rfl, h⟩
  | ok item =>
      dsimp only
      cases (source.api.content.executeDocumentStrict net
        (Api.itemDocument item.1 item.2 r.id) true log'.journal).1 <;> exact ⟨rfl, rfl⟩

/-- A read warns of nothing by itself. -/
lemma warnings_readOnce (source : Source) (net : Network) (schema : Schema) (r : Reference)
    (log : ApiLog) : (source.readOnce net schema r log).2.warnings = log.warnings := by
  rw [readOnce_eq, fetchItem_eq]
  cases Api.itemSelection schema r.typename with
  | error e => rfl
  | ok item =>
      dsimp only
      cases (source.api.content.executeDocumentStrict net
        (Api.itemDocument item.1 item.2 r.id) true log.journal).1 <;> rfl

/-- **An item that is read** is shown by the reply to the last request. -/
theorem readOnce_item {source : Source} {schema : Schema} {r : Reference} {copy : Item}
    {log log' : ApiLog} (h : source.readOnce net schema r log = (.item copy, log')) :
    ∃ before a, log'.attempts = log.attempts ++ before ++ [a] ∧
      Shows source.api schema r a copy := by
  rw [readOnce_eq] at h
  obtain ⟨hitem, hlog⟩ := Prod.mk.inj h
  refine fetchItem_ok (Prod.ext ?_ hlog)
  split at hitem
  · next hfetch =>
      cases hitem
      exact hfetch
  · cases hitem
  · cases hitem

/-- **A reply that shows an item** is read at once. -/
theorem readOnce_of_dataOf {source : Source} {schema : Schema} {r : Reference} {copy : Item}
    {log : ApiLog} {field : String} {selection : SelectionSet} {data node : Json}
    (hselection : Api.itemSelection schema r.typename = .ok (field, selection))
    (hdata : dataOf (net.answer log.attempts
      (source.api.content.requestFor (Api.itemDocument field selection r.id))) = some data)
    (hnode : data.get? field = some node) (hcopy : readItem node = .ok copy) :
    ∃ outcome, source.readOnce net schema r log = (.item copy, { log with
      journal := log.journal.answered
        ⟨source.api.content.requestFor (Api.itemDocument field selection r.id), outcome⟩ }) := by
  have hexchange := executeDocumentStrict_of_dataOf log.journal _ true hdata
  rw [readOnce_eq, fetchItem_eq, hselection]
  dsimp only
  rw [hexchange]
  dsimp only
  rw [itemUnder_of_readItem hnode hcopy]
  exact ⟨_, rfl⟩

end Items

end ContentSync
