import ContentSync.Proofs.JsonReadBack
import ContentSync.Proofs.RequestBodies
import ContentSync.Proofs.WholeQueries

/-!
# Data beside the query

A document is created or changed with data that may be any JSON value.  The text of the query does
not have it: it declares one variable and refers to it in one place, and the data is the value of
that variable.  So the text is the same for all data, and whoever reads the request reads the data
as it was given.

* `Document.variables` — the variables that a document refers to.
* `variables_rootSelection` — a query for a whole document refers to none.
* `DataWrite` — the writes that bring data.
* `dataWrite_carries` — what their requests carry.
-/

namespace ContentSync

open GraphQL
open Http (Network)

/-! ## References to variables -/

namespace GraphQL

mutual

/-- The variables that a literal refers to, as often as it does. -/
def Argument.variables : Argument → List String
  | .var name => [name]
  | .list items => itemVariables items
  | .object entries => entryVariables entries
  | .null | .bool _ | .int _ | .float _ | .string _ | .enum _ => []

/-- The variables of several literals. -/
def itemVariables : List Argument → List String
  | [] => []
  | v :: rest => v.variables ++ itemVariables rest

/-- The variables of several named literals. -/
def entryVariables : List (String × Argument) → List String
  | [] => []
  | (_, v) :: rest => v.variables ++ entryVariables rest

end

mutual

/-- **The variables that a node refers to**, as often as it does: in its arguments and in all that
it encloses. -/
def Selection.variables : Selection → List String
  | .leaf _ _ => []
  | .object _ _ arguments children => entryVariables arguments ++ nodeVariables children
  | .on branches => branchVariables branches

/-- The variables of several nodes. -/
def nodeVariables : List Selection → List String
  | [] => []
  | n :: rest => n.variables ++ nodeVariables rest

/-- The variables of several branches. -/
def branchVariables : List (String × List Selection) → List String
  | [] => []
  | (_, children) :: rest => nodeVariables children ++ branchVariables rest

end

/-- The variables that a document refers to, as often as it does. -/
def Document.variables (d : Document) : List String := nodeVariables d.selection

lemma nodeVariables_eq_nil_iff {ns : List Selection} :
    nodeVariables ns = [] ↔ ∀ n ∈ ns, n.variables = [] := by
  induction ns with
  | nil => simp [nodeVariables]
  | cons n rest ih => rw [nodeVariables, List.append_eq_nil_iff, ih, List.forall_mem_cons]

lemma branchVariables_eq_nil_iff {bs : List (String × List Selection)} :
    branchVariables bs = [] ↔ ∀ b ∈ bs, nodeVariables b.2 = [] := by
  induction bs with
  | nil => simp [branchVariables]
  | cons b rest ih => rw [branchVariables, List.append_eq_nil_iff, ih, List.forall_mem_cons]

end GraphQL

/-! ## Whole documents -/

section Selections

variable {type : String} {n m : Selection}

lemma variables_aliasNode (h : aliasNode type n = some m) : m.variables = n.variables := by
  cases n with
  | leaf name label =>
      rw [aliasNode] at h
      split at h
      · cases h
      · cases h
        rfl
  | object name label arguments children =>
      cases h
      rfl
  | on branches =>
      cases h
      rfl

variable {schema : Schema}

section Fields

variable {follow : String → Option SelectionSet}
  (hfollow : ∀ target s, follow target = some s →
    FollowedTo schema (nodeVariables · = []) target s)

include hfollow

/-- A branch refers to no variables when the selection of its candidate does not. -/
lemma variables_branchesOf (targets : List String) :
    branchVariables (branchesOf follow targets) = [] := by
  rw [branchVariables_eq_nil_iff]
  intro b hb
  obtain ⟨s, hfollowed, -, hnodes⟩ := of_mem_branchesOf hfollow hb
  rw [nodeVariables_eq_nil_iff]
  intro m hm
  obtain ⟨n, hn, hnm⟩ := hnodes m hm
  rw [variables_aliasNode hnm]
  exact nodeVariables_eq_nil_iff.mp hfollowed.holds n hn

/-- The node of a field refers to no variables when the selections of the types it refers to do
not. -/
lemma variables_fieldNode {f : Field} (h : fieldNode follow f = some n) : n.variables = [] := by
  have hstructured : ∀ s ∈ structuredSelections, nodeVariables s = [] := by decide +kernel
  rcases fieldNode_forms h with rfl | ⟨children, rfl, hs | ⟨target, hs⟩ | ⟨targets, rfl⟩⟩
  · rfl
  · exact hstructured children hs
  · exact (hfollow target children hs).holds
  · exact (List.append_nil _).trans (variables_branchesOf hfollow targets)

end Fields

variable {t : ContentType} (ht : schema.get? type = some t)

include ht

/-- The selection of a type refers to no variables. -/
theorem variables_typeSelection (ledger : Ledger) :
    nodeVariables (typeSelection schema type ledger) = [] := by
  refine typeSelection_induction (P := (nodeVariables · = [])) (fun follow t _ hfollow => ?_)
    ledger ht
  rw [nodeVariables_eq_nil_iff]
  intro n hn
  rcases of_mem_selectionOfFields hn with rfl | ⟨f, -, hfn⟩
  · rfl
  · exact variables_fieldNode hfollow hfn

/-- **What is asked for of a whole document refers to no variables.** -/
theorem variables_rootSelection : nodeVariables (rootSelection schema type) = [] := by
  have hroot : ∀ m ∈ [.field "id", .field "updatedAt", stageNode], Selection.variables m = [] := by
    decide +kernel
  rw [nodeVariables_eq_nil_iff]
  intro n hn
  rcases (mem_rootSelection ht).mp hn with hlast | ⟨hn, -⟩
  · exact hroot n (rootNodes_subset t hlast.mem)
  · exact nodeVariables_eq_nil_iff.mp (variables_typeSelection ht _) n hn

end Selections

/-! ## Writes with data -/

/-- A write that brings data: a document is made, or the one with an identity is changed. -/
inductive DataWrite where
  | create
  | update (id : String)

namespace DataWrite

/-- The field of the mutation. -/
def field (t : ContentType) : DataWrite → String
  | create => "create" ++ t.name
  | update _ => "update" ++ t.name

/-- The arguments beside the data. -/
def arguments : DataWrite → Arguments
  | create => []
  | update id => [("where", whereId id)]

/-- The type of the data. -/
def inputType (t : ContentType) : DataWrite → String
  | create => t.name ++ "CreateInput"
  | update _ => t.name ++ "UpdateInput"

/-- The document of a write. -/
def document (t : ContentType) (selection : SelectionSet) (w : DataWrite) : Document :=
  dataDocument (w.field t) w.arguments selection (w.inputType t)

lemma declared_document (t : ContentType) (selection : SelectionSet) (w : DataWrite) :
    (w.document t selection).declared = [("data", w.inputType t ++ "!")] := rfl

/-- The document of a write refers to its variable once, if the selection refers to none. -/
lemma variables_document (t : ContentType) {selection : SelectionSet}
    (h : nodeVariables selection = []) (w : DataWrite) :
    (w.document t selection).variables = ["data"] := by
  have hnode : (w.document t selection).variables =
      entryVariables (Entries.insert w.arguments "data" (.var "data")) ++
        nodeVariables selection ++ [] := rfl
  rw [hnode, h]
  cases w <;> rfl

end DataWrite

/-- A write with data. -/
def Api.writeData (api : Api) (net : Network) (schema : Schema) (typename : String) (data : Json) :
    DataWrite → ApiAction Item
  | .create => api.createDocument net schema typename data
  | .update id => api.updateDocument net schema typename id data

section Writing

variable {schema : Schema} {typename : String} {t : ContentType}

lemma sentWith_writeData (hmodel : schema.model? typename = some t) (api : Api) (net : Network)
    (data : Json) (log : ApiLog) (w : DataWrite) :
    SentWith
      (Envelope.mk (w.document t (rootSelection schema typename)).render
        (.object [("data", data)]) none).render log.attempts
      (api.writeData net schema typename data w log).2.attempts := by
  cases w with
  | create =>
      rw [Api.writeData, Api.createDocument, bind_model hmodel]
      exact sentWith_mutateDocument api net _ [] _ _ data log
  | update id =>
      rw [Api.writeData, Api.updateDocument, bind_model hmodel]
      exact sentWith_mutateDocument api net _ [("where", whereId id)] _ _ data log

/-- The body of a write as a value. -/
def writeBody (query : String) (data : Json) : Json :=
  .object [("query", .string query), ("variables", .object [("data", data)])]

lemma proper_writeBody (query : String) {data : Json} (h : data.Proper) :
    (writeBody query data).Proper := by
  have hkeys : ["query", "variables"].Nodup := by decide
  refine .object hkeys (List.forall_mem_cons.mpr ⟨.string query, List.forall_mem_singleton.mpr ?_⟩)
  exact .object (List.nodup_singleton "data") (List.forall_mem_singleton.mpr h)

/-- **Data travels unchanged, and outside the query.**  For a model of any schema, creating or
changing a document has one query for all data.  It declares one variable, of the input type of the
write, and refers to it once.  Whatever is replied, each request carries the text of that query; and
if reading JSON text gives back what was written, reading its body gives that text beside the
variables, which are the data alone, just as it was given. -/
theorem dataWrite_carries {read : String → Option Json}
    (hread : ∀ v : Json, v.Proper → read v.render = some v)
    (hmodel : schema.model? typename = some t) (api : Api) (w : DataWrite) :
    ∃ d : Document, d.declared = [("data", w.inputType t ++ "!")] ∧ d.variables = ["data"] ∧
      ∀ (net : Network) (data : Json) (log : ApiLog), ∃ tries,
        (api.writeData net schema typename data w log).2.attempts = log.attempts ++ tries ∧
        tries ≠ [] ∧
        ∀ a ∈ tries, (∀ text, CarriesQuery a.request.body text ↔ text = d.render) ∧
          (data.Proper → read a.request.body = some (writeBody d.render data)) := by
  have hget : schema.get? typename = some t := (Option.filter_eq_some_iff.mp hmodel).1
  refine ⟨w.document t (rootSelection schema typename), w.declared_document t _,
    w.variables_document t (variables_rootSelection hget), fun net data log => ?_⟩
  obtain ⟨tries, hattempts, hne, hbodies⟩ := sentWith_writeData hmodel api net data log w
  refine ⟨tries, hattempts, hne, fun a ha => ⟨?_, fun hproper => ?_⟩⟩
  · exact CarriesQuery.iff ⟨_, none, hbodies a ha⟩
  · rw [hbodies a ha]
    exact hread _ (proper_writeBody _ hproper)

/-- A value with keys that are no names, some of which look like the query they travel with. -/
def oddData : Json :=
  .object [("$data", .string "\x7b id \x7d"), ("mutation(", .array [.null, Json.int (-3)]),
    ("", .object [("\"", .bool true), ("a", .object [])])]

lemma proper_oddData : oddData.Proper := by
  refine .object (by decide) ?_
  simp only [List.forall_mem_cons, List.not_mem_nil, false_implies, implies_true, and_true]
  refine ⟨.string _, .array ?_, .object (by decide) ?_⟩ <;>
    simp only [List.forall_mem_cons, List.not_mem_nil, false_implies, implies_true, and_true]
  · exact ⟨.null, .int (by decide)⟩
  · exact ⟨.bool true, .object List.nodup_nil fun _ hm => absurd hm List.not_mem_nil⟩

/-- Such a value reaches the content side as it is. -/
theorem dataWrite_carries_odd : ∃ api, Api.of? plainConfig = .ok api ∧
    (∀ v : Json, v.Proper → Json.read? v.render = some v) ∧
    (∃ t, postSchema.model? "Post" = some t) ∧ oddData.Proper ∧
    let log := (api.writeData busyNetwork postSchema "Post" oddData (.update "p") .empty).2
    ∃ query, ∀ a ∈ log.attempts, Json.read? a.request.body = some (writeBody query oddData) := by
  obtain ⟨api, hapi⟩ : ∃ api, Api.of? plainConfig = .ok api := ⟨_, rfl⟩
  have hread : ∀ v : Json, v.Proper → Json.read? v.render = some v := fun _ => Json.read?_render
  obtain ⟨t, hmodel⟩ : ∃ t, postSchema.model? "Post" = some t := ⟨_, rfl⟩
  refine ⟨api, hapi, hread, ⟨t, hmodel⟩, proper_oddData, ?_⟩
  obtain ⟨d, -, -, hsent⟩ := dataWrite_carries hread hmodel api (.update "p")
  obtain ⟨tries, hattempts, -, hcarries⟩ := hsent busyNetwork oddData .empty
  refine ⟨d.render, fun a ha => ?_⟩
  rw [hattempts] at ha
  exact (hcarries a ha).2 proper_oddData

end Writing

end ContentSync
