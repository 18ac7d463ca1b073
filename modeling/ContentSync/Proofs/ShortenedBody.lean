import ContentSync.GraphQL.Client
import ContentSync.Proofs.LossyText
import Mathlib.Order.Bounds.Basic

/-!
# The body of a failed reply

An error shows the body that came with it, and a long one only up to a limit.  It is cut where a
character ends, at the last such place within the limit, and as no character has more than four
octets, this place is less than four octets before the limit.

* `Text.isPrefix_takeOctets`, `Text.lt_octets_takeOctets` — a text cut to a number of octets is the
  longest start that fits, and what is missing is less than a character.
* `Text.isValid_iff_exists_prefix` — the places where a character ends.
* `Shortened` — what an error shows of a text, as `shortenBody_shortened` says.
-/

namespace ContentSync

namespace Text

lemma octets_append (cs ds : List Char) : octets (cs ++ ds) = octets cs + octets ds := by
  induction cs with
  | nil => simp
  | cons c rest ih => rw [List.cons_append, octets_cons, ih, octets_cons, Nat.add_assoc]

lemma octets_eq (cs : List Char) : octets cs = (String.ofList cs).utf8ByteSize := by
  induction cs with
  | nil => rfl
  | cons c rest ih =>
      rw [octets_cons, ih, String.ofList_cons, String.utf8ByteSize_append,
        String.utf8ByteSize_singleton]

lemma octets_toList (t : String) : octets t.toList = t.utf8ByteSize := by
  rw [octets_eq, String.ofList_toList]

/-! ## Starts that fit -/

/-- **Every start that fits** is a start of the longest one. -/
theorem isPrefix_takeOctets {limit : Nat} {start cs : List Char} (h : start <+: cs)
    (hfits : octets start ≤ limit) : start <+: takeOctets limit cs := by
  induction start generalizing limit cs with
  | nil => exact List.nil_prefix
  | cons c start ih =>
      obtain ⟨rest, rfl⟩ := h
      rw [octets_cons] at hfits
      rw [List.cons_append, takeOctets, if_pos (by omega)]
      exact List.cons_prefix_cons.mpr ⟨rfl, ih (List.prefix_append start rest) (by omega)⟩

/-- What is missing at the limit is less than a character. -/
theorem lt_octets_takeOctets {limit : Nat} {cs : List Char} (h : limit < octets cs) :
    limit < octets (takeOctets limit cs) + 4 := by
  induction cs generalizing limit with
  | nil => cases h
  | cons c rest ih =>
      have hsize := c.utf8Size_le_four
      rw [octets_cons] at h
      rw [takeOctets]
      split
      · have hlater : limit - c.utf8Size < octets rest := by omega
        have hrest := ih hlater
        rw [octets_cons]
        omega
      · rw [octets_nil]
        omega

/-- **The places where a character ends** are those behind a start of the text. -/
theorem isValid_iff_exists_prefix {cs : List Char} {n : Nat} :
    (⟨n⟩ : String.Pos.Raw).IsValid (String.ofList cs) ↔
      ∃ start, start <+: cs ∧ octets start = n := by
  constructor
  · intro h
    obtain ⟨start, rest, hstart, hcs⟩ := h.exists
    have hsize : n ≤ (String.ofList cs).utf8ByteSize := h.le_utf8ByteSize
    refine ⟨start, ⟨rest, String.ofList_injective hcs⟩, ?_⟩
    rw [octets_eq, ← String.size_toByteArray, String.toByteArray_ofList, hstart,
      ByteArray.size_extract]
    simp only [String.size_toByteArray]
    omega
  · rintro ⟨start, ⟨rest, rfl⟩, rfl⟩
    rw [String.ofList_append, octets_eq]
    exact String.Pos.Raw.isValid_rawEndPos.append_right _

end Text

namespace GraphQL

/-- **What is shown of a text** up to a limit: all of it, or what comes before the last place within
the limit where a character ends, and a mark. -/
structure Shortened (limit : Nat) (t shown : String) : Prop where
  whole : t.utf8ByteSize ≤ limit → shown = t
  cut : limit < t.utf8ByteSize → ∃ start rest, t = start ++ rest ∧ shown = start ++ "…" ∧
    IsGreatest {n | n ≤ limit ∧ (⟨n⟩ : String.Pos.Raw).IsValid t} start.utf8ByteSize ∧
    limit ≤ start.utf8ByteSize + 3
  size : shown.utf8ByteSize ≤ limit + 3

/-- The last place within a limit where a character ends. -/
lemma isGreatest_takeOctets (limit : Nat) (cs : List Char) :
    IsGreatest {n | n ≤ limit ∧ (⟨n⟩ : String.Pos.Raw).IsValid (String.ofList cs)}
      (Text.octets (Text.takeOctets limit cs)) := by
  refine ⟨⟨Text.octets_takeOctets_le limit cs, Text.isValid_iff_exists_prefix.mpr
    ⟨_, Text.takeOctets_isPrefix limit cs, rfl⟩⟩, ?_⟩
  rintro n ⟨hn, hvalid⟩
  obtain ⟨start, hstart, rfl⟩ := Text.isValid_iff_exists_prefix.mp hvalid
  obtain ⟨more, hmore⟩ := Text.isPrefix_takeOctets hstart hn
  rw [← hmore, Text.octets_append]
  exact Nat.le_add_right _ _

/-- A text that is too long is cut at that place. -/
lemma shortened_takeOctets {limit : Nat} {t : String} (h : limit < t.utf8ByteSize) :
    Shortened limit t (String.ofList (Text.takeOctets limit t.toList) ++ "…") := by
  have hsize : (String.ofList (Text.takeOctets limit t.toList)).utf8ByteSize =
    Text.octets (Text.takeOctets limit t.toList) := (Text.octets_eq _).symm
  have hmark : ("…" : String).utf8ByteSize = 3 := rfl
  have hle := Text.octets_takeOctets_le limit t.toList
  have hlt : limit < Text.octets (Text.takeOctets limit t.toList) + 4 :=
    Text.lt_octets_takeOctets (by rwa [Text.octets_toList])
  obtain ⟨rest, hrest⟩ := Text.takeOctets_isPrefix limit t.toList
  refine ⟨fun hfits => absurd h (by omega), fun _ => ?_, ?_⟩
  · refine ⟨_, String.ofList rest, ?_, rfl, ?_, by omega⟩
    · rw [← String.ofList_append, hrest, String.ofList_toList]
    · have hgreatest := isGreatest_takeOctets limit t.toList
      rwa [String.ofList_toList, ← hsize] at hgreatest
  · rw [String.utf8ByteSize_append, hsize, hmark]
    omega

/-- **The body of a failed reply**: it is one text, whatever its octets are, and this text is shown
up to 4096 octets. -/
theorem shortenBody_shortened (bytes : ByteArray) :
    ∃ t : String, (∀ s : String, Text.Lossy bytes.toList s.toList ↔ s = t) ∧
      Shortened 4096 t (shortenBody bytes) := by
  refine ⟨Text.decodeLossy bytes, fun s => (Text.lossy_iff bytes s).trans eq_comm, ?_⟩
  generalize ht : Text.decodeLossy bytes = t
  have hbody : shortenBody bytes = if t.utf8ByteSize ≤ 4096 then t else
      String.ofList (Text.takeOctets 4096 t.toList) ++ "…" := by
    rw [shortenBody, ht, Text.octets_toList, maxErrorBody, String.ofList_append]
  rw [hbody]
  split
  · next hfits => exact ⟨fun _ => rfl, fun hlong => absurd hfits (by omega), by omega⟩
  · next hlong => exact shortened_takeOctets (by omega)

end GraphQL

end ContentSync
