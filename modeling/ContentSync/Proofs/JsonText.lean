import ContentSync.GraphQL.Response
import ContentSync.Proofs.QuotedTexts

/-!
# JSON text as characters

Texts are written piece by piece and read character by character.  Here is the written text as one
list of characters, and what a body is that carries a document.

* `Json.chars`, `toList_render` — the characters of a written value.
* `ofBytes_render` — a written value in octets is read character by character.
* `Envelope.toList_render`, `Envelope.query_of_render` — a body begins with the text of its query,
  and tells it.
* `toList_render_ofDocument` — the body that carries a document.
-/

namespace ContentSync

namespace Json

mutual

/-- The characters of a value as compact JSON text. -/
def chars : Json → List Char
  | .null => "null".toList
  | .bool b => (if b then "true" else "false").toList
  | .number n => n.render.toList
  | .string s => quoteChars s.toList
  | .array items => '[' :: [','].intercalate (charsItems items) ++ [']']
  | .object members => '\x7b' :: [','].intercalate (charsMembers members) ++ ['\x7d']

/-- The characters of several values. -/
def charsItems : List Json → List (List Char)
  | [] => []
  | v :: rest => chars v :: charsItems rest

/-- The characters of several members. -/
def charsMembers : List (String × Json) → List (List Char)
  | [] => []
  | (k, v) :: rest => (quoteChars k.toList ++ ':' :: chars v) :: charsMembers rest

end

mutual

/-- The characters of a written value. -/
theorem toList_render : ∀ v : Json, (render v).toList = chars v
  | .null => rfl
  | .bool b => rfl
  | .number n => rfl
  | .string s => String.toList_ofList
  | .array items => by
      simp [render, chars, String.toList_intercalate, toList_renderItems items]
  | .object members => by
      simp [render, chars, String.toList_intercalate, toList_renderMembers members]

theorem toList_renderItems : ∀ vs : List Json, (renderItems vs).map String.toList = charsItems vs
  | [] => rfl
  | v :: rest => by simp [renderItems, charsItems, toList_render v, toList_renderItems rest]

theorem toList_renderMembers :
    ∀ ms : List (String × Json), (renderMembers ms).map String.toList = charsMembers ms
  | [] => rfl
  | (k, v) :: rest => by
      simp [renderMembers, charsMembers, quote, toList_render v, toList_renderMembers rest]

end

/-- Octets that were made from a text are that text. -/
lemma decode?_toUTF8 (s : String) : Text.decode? s.toUTF8 = some s := dif_pos s.isValidUTF8

/-- Octets that are a text were made from it. -/
lemma toUTF8_of_decode? {bytes : ByteArray} {s : String} (h : Text.decode? bytes = some s) :
    s.toUTF8 = bytes := by
  rw [Text.decode?, String.fromUTF8?] at h
  split at h
  · cases h
    rfl
  · cases h

/-- Octets that were made from a text are read as this text. -/
lemma parseBytes?_toUTF8 (s : String) : parseBytes? s.toUTF8 = parse? s := by
  rw [parseBytes?, Input.ofBytes, decode?_toUTF8]
  rfl

/-- A written value in octets is read character by character. -/
theorem ofBytes_render {α : Type} (r : Reader α) (v : Json) :
    r.ofBytes (render v).toUTF8 =
      r.whole ((run [] .value v.chars).1, (run [] .value v.chars).2.all isSpace) := by
  rw [Reader.ofBytes, Input.ofBytes, decode?_toUTF8]
  simp only [Input.ofText, toList_render]

end Json

namespace GraphQL

/-- A body begins with the text of its query. -/
lemma Envelope.toList_render (e : Envelope) : ∃ rest, e.render.toList =
    '\x7b' :: (Json.quoteChars "query".toList ++ ':' ::
      (Json.quoteChars e.query.toList ++ rest)) := by
  rw [Envelope.render, Json.toList_render]
  simp [Envelope.toJson, Json.chars, Json.charsMembers, List.intercalate]

/-- A body tells the text of its query. -/
lemma Envelope.query_of_render {e e' : Envelope} (h : e.render = e'.render) :
    e.query = e'.query := by
  obtain ⟨rest, hbody⟩ := e.toList_render
  obtain ⟨rest', hbody'⟩ := e'.toList_render
  have hchars := (hbody.symm.trans (congrArg String.toList h)).trans hbody'
  simp only [List.cons.injEq, true_and, List.append_cancel_left_eq] at hchars
  exact String.toList_inj.mp (Json.quoteChars_append_inj hchars).1

/-- The body that carries a document without a name. -/
lemma toList_render_ofDocument {d : Document} (h : d.name = none) :
    (Envelope.ofDocument d).render.toList = Json.chars
      (.object [("query", .string d.render), ("variables", .object [])]) := by
  rw [Envelope.render, Json.toList_render, Envelope.toJson, Envelope.ofDocument, h]
  rfl

end GraphQL

end ContentSync
