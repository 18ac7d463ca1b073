import ContentSync.Text.Utf8

/-!
# JSON text in octets

A reply or a delivery is JSON in octets, and these need not be UTF-8 throughout.  What an
ill-formed piece means depends on where it stands.

* Inside a quoted text it spoils that text alone, which may still be skipped but denotes nothing.
  Half a surrogate pair in an escape does the same, so the piece is spelled as one.
* Anywhere else it is no JSON, and the text ends before it.

`spell` gives the characters to read; by `spell_map_some` it changes nothing in what is well formed.
-/

namespace ContentSync.Json

/-- Where a character stands with regard to the quoted texts. -/
inductive Place where
  | outside
  | inside
  /-- Right after a backslash inside a quoted text. -/
  | escaped
  deriving DecidableEq

/-- The place that follows a character. -/
def Place.after : Place → Char → Place
  | .outside, c => if c = '"' then .inside else .outside
  | .inside, c => if c = '"' then .outside else if c = '\\' then .escaped else .inside
  | .escaped, _ => .inside

/-- **What stands for an ill-formed piece inside a quoted text**: half a surrogate pair, and a
character that keeps it apart from the other half. -/
def spoiled : List Char := ['\\', 'u', 'd', '8', '0', '0', Text.replacement]

/-- The characters of a JSON text, and whether they are all of it. -/
def spell : Place → List (Option Char) → List Char × Bool
  | _, [] => ([], true)
  | place, some c :: rest =>
      let (cs, whole) := spell (place.after c) rest
      (c :: cs, whole)
  | .inside, none :: rest =>
      let (cs, whole) := spell .inside rest
      (spoiled ++ cs, whole)
  | _, none :: _ => ([], false)

theorem spell_map_some (place : Place) (cs : List Char) :
    spell place (cs.map some) = (cs, true) := by
  induction cs generalizing place with
  | nil => rfl
  | cons c rest ih => simp [spell, ih]

end ContentSync.Json
