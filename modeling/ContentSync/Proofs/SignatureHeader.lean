import ContentSync.Proofs.Digests
import ContentSync.Proofs.JsonText
import ContentSync.Proofs.TextPieces

/-!
# What a signature header says

The parts of a header stand between commas.  Each is a name and a value with an equals sign between
them, and of the parts of one name the last one counts.

* `valueNamed`, `lastNamed` — the value of a part, and of the last part of a name.
* `StampedSignature.SaidBy` — what a header says.
* `parse_eq_ok_iff` — a header is read as what it says.
* `Genuine` — a signature that was made for a body; `verify_of_genuine`, `verify_of_not_genuine`.
* `saidBy_toHeader` — the written form of a signature says it.
* `saidBy_ofText`, `genuine_ofText` — signing a body.
-/

namespace ContentSync.Webhook

/-! ## Parts of a header -/

/-- The value of a part of a header when it has the given name. -/
def valueNamed (name : String) (piece : List Char) : Option (List Char) :=
  match Text.splitFirst '=' (Text.trimList piece) with
  | some (key, value) => if Text.trimList key = name.toList then some (Text.trimList value) else none
  | none => none

/-- The value of the last piece that has a name. -/
def lastNamed (name : String) (pieces : List (List Char)) : Option (List Char) :=
  (pieces.filterMap (valueNamed name)).getLast?

/-- **The value of the last part** of a header that has a name. -/
def lastPart (name header : String) : Option (List Char) :=
  lastNamed name (Text.pieces ',' header.toList)

lemma lastNamed_cons (name : String) (piece : List Char) (rest : List (List Char)) :
    lastNamed name (piece :: rest) = (lastNamed name rest).or (valueNamed name piece) := by
  rw [lastNamed, lastNamed, List.filterMap_cons]
  cases valueNamed name piece with
  | none => rw [Option.or_none]
  | some value =>
      rw [List.getLast?_cons]
      cases (rest.filterMap (valueNamed name)).getLast? <;> rfl

/-- A piece counts for the part that it names and for no other. -/
lemma Parts.take_eq (p : Parts) (piece : List Char) :
    p.take piece = ⟨(valueNamed "sign" piece).or p.sign, (valueNamed "env" piece).or p.environment,
      (valueNamed "t" piece).elim p.timestamp Text.int64?⟩ := by
  rw [Parts.take, valueNamed, valueNamed, valueNamed]
  cases Text.splitFirst '=' (Text.trimList piece) with
  | none => rfl
  | some pair =>
      obtain ⟨key, value⟩ := pair
      dsimp only
      by_cases hsign : Text.trimList key = "sign".toList
      · rw [hsign]
        rfl
      · by_cases henv : Text.trimList key = "env".toList
        · rw [henv]
          rfl
        · by_cases htime : Text.trimList key = "t".toList
          · rw [htime]
            rfl
          · simp only [hsign, henv, htime, if_false]
            rfl

/-- The induction is on the pieces that are left; the parts met so far count only where none of them
has the name. -/
lemma foldl_take (pieces : List (List Char)) (p : Parts) :
    pieces.foldl Parts.take p = ⟨(lastNamed "sign" pieces).or p.sign,
      (lastNamed "env" pieces).or p.environment,
      (lastNamed "t" pieces).elim p.timestamp Text.int64?⟩ := by
  induction pieces generalizing p with
  | nil => rfl
  | cons piece rest ih =>
      rw [List.foldl_cons, ih, Parts.take_eq, lastNamed_cons, lastNamed_cons, lastNamed_cons,
        Option.or_assoc, Option.or_assoc]
      cases lastNamed "t" rest <;> rfl

lemma ofHeader_eq (header : String) :
    Parts.ofHeader header.toList = ⟨lastPart "sign" header, lastPart "env" header,
      (lastPart "t" header).bind Text.int64?⟩ := by
  rw [Parts.ofHeader, foldl_take, Option.or_none, Option.or_none, lastPart, lastPart, lastPart]
  cases lastNamed "t" (Text.pieces ',' header.toList) <;> rfl

/-- The value of a part has no blanks at its ends. -/
lemma blankFreeEnds_of_lastPart {name header : String} {value : List Char}
    (h : lastPart name header = some value) : Text.BlankFreeEnds value := by
  have hmem := List.mem_of_getLast? h
  obtain ⟨piece, -, hpiece⟩ := List.mem_filterMap.mp hmem
  rw [valueNamed] at hpiece
  split at hpiece
  · split at hpiece
    · cases hpiece
      exact Text.blankFreeEnds_trimList _
    · cases hpiece
  · cases hpiece

/-! ## What a header says -/

namespace StampedSignature

variable {s : StampedSignature} {header : String}

/-- **What a header says**: its last parts `sign`, `env` and `t`.  The signature is not empty, and
the time is an integer of 64 bits. -/
structure SaidBy (s : StampedSignature) (header : String) : Prop where
  digest : lastPart "sign" header = some s.digest.toList
  digest_ne : s.digest ≠ ""
  environment : lastPart "env" header = some s.environment.toList
  timestamp : (lastPart "t" header).bind Text.int64? = some s.timestamp

/-- A header says one thing. -/
lemma SaidBy.unique {t : StampedSignature} (hs : s.SaidBy header) (ht : t.SaidBy header) :
    s = t := by
  have hdigest := Option.some.inj (hs.digest.symm.trans ht.digest)
  have henvironment := Option.some.inj (hs.environment.symm.trans ht.environment)
  have htimestamp := Option.some.inj (hs.timestamp.symm.trans ht.timestamp)
  cases s
  cases t
  simp_all [String.toList_inj]

lemma parse_of_saidBy (h : s.SaidBy header) : parse header = .ok s := by
  rw [parse, ofHeader_eq, h.digest, h.environment, h.timestamp]
  cases hchars : s.digest.toList with
  | nil => exact absurd (String.toList_eq_nil_iff.mp hchars) h.digest_ne
  | cons c cs =>
      dsimp only
      rw [← hchars, String.ofList_toList, String.ofList_toList]

lemma parse_of_not_saidBy (h : ∀ s : StampedSignature, ¬ s.SaidBy header) :
    parse header = .error (.malformedSignature expectedHeader) := by
  rw [parse, ofHeader_eq]
  split
  · next c cs environment timestamp hparts =>
      obtain ⟨hdigest, henvironment, htimestamp⟩ := Parts.mk.inj hparts
      refine absurd (⟨?_, ?_, ?_, htimestamp⟩ : SaidBy ⟨String.ofList (c :: cs),
        String.ofList environment, timestamp⟩ header) (h _)
      · rw [hdigest, String.toList_ofList]
      · exact fun hempty => List.cons_ne_nil c cs
          (String.toList_ofList.symm.trans (String.toList_eq_nil_iff.mpr hempty))
      · rw [henvironment, String.toList_ofList]
  · rfl

/-- **A header is read as what it says.** -/
lemma parse_eq_ok_iff : parse header = .ok s ↔ s.SaidBy header := by
  refine ⟨fun h => ?_, parse_of_saidBy⟩
  by_cases hsaid : ∃ t : StampedSignature, t.SaidBy header
  · obtain ⟨t, ht⟩ := hsaid
    cases h.symm.trans (parse_of_saidBy ht)
    exact ht
  · cases h.symm.trans (parse_of_not_saidBy (not_exists.mp hsaid))

/-- A part in front of a header that says something does not count, be it what it may. -/
lemma SaidBy.prepend {piece : String} (hpiece : ',' ∉ piece.toList) (h : s.SaidBy header) :
    s.SaidBy (piece ++ "," ++ header) := by
  have htext : (piece ++ "," ++ header).toList = piece.toList ++ ',' :: header.toList := by simp
  have hlast : ∀ {name value}, lastPart name header = some value →
      lastPart name (piece ++ "," ++ header) = some value := by
    intro name value hvalue
    rw [lastPart] at hvalue
    rw [lastPart, htext, Text.pieces_append hpiece, lastNamed_cons, hvalue, Option.some_or]
  refine ⟨hlast h.digest, h.digest_ne, hlast h.environment, ?_⟩
  obtain ⟨value, hvalue, htime⟩ := Option.bind_eq_some_iff.mp h.timestamp
  rw [hlast hvalue]
  exact htime

/-! ## What was signed -/

variable {v : Verifier} {body : ByteArray}

/-- **A signature that was made for a body** with the secret: its digest is that of the envelope of
this body with the environment and the time of the signature. -/
def Genuine (s : StampedSignature) (v : Verifier) (body : ByteArray) : Prop :=
  ∃ text, Text.decode? body = some text ∧
    s.digest = v.compute (envelope text s.environment s.timestamp).render.toUTF8

/-- The digest that a header says has no blanks at its ends. -/
lemma SaidBy.trim_digest (h : s.SaidBy header) : Text.trim s.digest = s.digest := by
  rw [Text.trim, Text.trimList_eq_self_iff.mpr (blankFreeEnds_of_lastPart h.digest),
    String.ofList_toList]

lemma verify_of_genuine (h : s.SaidBy header) (hgenuine : s.Genuine v body) :
    s.verify v body = .ok () := by
  obtain ⟨text, htext, hdigest⟩ := hgenuine
  rw [verify, signedMessage, htext]
  exact if_pos ((v.accepts_iff _ _).mpr (h.trim_digest.trans hdigest))

lemma verify_of_not_text (htext : Text.decode? body = none) :
    s.verify v body = .error (.invalidPayload (notText body)) := by
  rw [verify, signedMessage, htext]

lemma verify_of_not_genuine (h : s.SaidBy header) {text : String}
    (htext : Text.decode? body = some text) (hforged : ¬ s.Genuine v body) :
    s.verify v body = .error .invalidSignature := by
  rw [verify, signedMessage, htext]
  refine if_neg fun haccepts => hforged ⟨text, htext, ?_⟩
  exact h.trim_digest.symm.trans ((v.accepts_iff _ _).mp haccepts)

/-! ## The written form -/

/-- A part as it is written. -/
def part (key : String) (value : List Char) : List Char := key.toList ++ '=' :: value

lemma valueNamed_part (key : String) {value : List Char}
    (hkey : Text.trimList key.toList = key.toList) (hmark : '=' ∉ key.toList)
    (hstart : Text.trimList (key.toList ++ ['=']) = key.toList ++ ['='])
    (hvalue : Text.BlankFreeEnds value) (name : String) :
    valueNamed name (part key value) = if key.toList = name.toList then some value else none := by
  have hpart : Text.trimList (part key value) = part key value :=
    Text.trimList_eq_self_iff.mpr ((Text.trimList_eq_self_iff.mp hstart).append hvalue)
  rw [valueNamed, hpart, part, Text.splitFirst_append hmark]
  dsimp only
  rw [hkey, Text.trimList_eq_self_iff.mpr hvalue]

lemma pieces_toHeader (hdigest : ',' ∉ s.digest.toList) (henvironment : ',' ∉ s.environment.toList)
    (htime : ',' ∉ (toString s.timestamp).toList) :
    Text.pieces ',' s.toHeader.toList = [part "sign" s.digest.toList,
      ' ' :: part "env" s.environment.toList, ' ' :: part "t" (toString s.timestamp).toList] := by
  have htext : s.toHeader.toList = part "sign" s.digest.toList ++
      ',' :: (' ' :: part "env" s.environment.toList ++
        ',' :: ' ' :: part "t" (toString s.timestamp).toList) := by
    simp [toHeader, part]
  rw [htext, Text.pieces_append, Text.pieces_append, Text.pieces_of_notMem]
  · simpa [part] using htime
  · simp [part, henvironment]
  · simp [part, hdigest]

/-- **The written form of a signature says it** when nothing in the signature can be taken for a
comma or for a blank around a part. -/
lemma saidBy_toHeader (hne : s.digest ≠ "") (hdigest : ',' ∉ s.digest.toList)
    (hends : Text.BlankFreeEnds s.digest.toList) (henvironment : ',' ∉ s.environment.toList)
    (hends' : Text.BlankFreeEnds s.environment.toList) (htimestamp : Text.IsInt64 s.timestamp) :
    s.SaidBy s.toHeader := by
  have htime : ∀ c ∈ (toString s.timestamp).toList, c ≠ ',' ∧ Text.isBlank c = false := by
    intro c hc
    rcases Text.mem_toString_int hc with rfl | hdigit
    · decide
    · have hplain := Digest.isPlain_of_isDigit hdigit
      exact ⟨Digest.ne_comma_of_isPlain hplain, Digest.isBlank_of_isPlain hplain⟩
  have hpieces := pieces_toHeader hdigest henvironment fun h => (htime _ h).1 rfl
  have hsign := valueNamed_part "sign" (by decide) (by decide) (by decide) hends
  have henv := valueNamed_part "env" (by decide) (by decide) (by decide) hends'
  have ht := valueNamed_part "t" (by decide) (by decide) (by decide)
    (Text.blankFreeEnds_of_forall fun c hc => (htime c hc).2)
  have hlast : ∀ name, lastPart name s.toHeader = lastNamed name
      [part "sign" s.digest.toList, part "env" s.environment.toList,
        part "t" (toString s.timestamp).toList] := by
    intro name
    have hblank : ∀ piece, valueNamed name (' ' :: piece) = valueNamed name piece := by
      intro piece
      rw [valueNamed, Text.trimList_cons (by decide), ← valueNamed]
    simp only [lastPart, hpieces, lastNamed, List.filterMap_cons, hblank]
  refine ⟨?_, hne, ?_, ?_⟩
  · rw [hlast, lastNamed]
    simp only [List.filterMap_cons, hsign, henv, ht]
    rfl
  · rw [hlast, lastNamed]
    simp only [List.filterMap_cons, hsign, henv, ht]
    rfl
  · rw [hlast, lastNamed]
    simp only [List.filterMap_cons, hsign, henv, ht]
    exact Text.int64?_toString htimestamp

/-! ## Signing -/

/-- The signature that is made for a text. -/
def ofText (v : Verifier) (text environment : String) (timestamp : Int) : StampedSignature :=
  ⟨v.compute (envelope text environment timestamp).render.toUTF8, environment, timestamp⟩

lemma sign_toUTF8 (v : Verifier) (text environment : String) (timestamp : Int) :
    sign v text.toUTF8 environment timestamp = .ok (ofText v text environment timestamp) := by
  rw [sign, signedMessage, Json.decode?_toUTF8]
  rfl

lemma genuine_ofText (v : Verifier) (text environment : String) (timestamp : Int) :
    (ofText v text environment timestamp).Genuine v text.toUTF8 :=
  ⟨text, Json.decode?_toUTF8 text, rfl⟩

/-- A digest never stands in the way of reading a header. -/
lemma saidBy_ofText (v : Verifier) (text : String) {environment : String} {timestamp : Int}
    (henvironment : ',' ∉ environment.toList) (hends : Text.BlankFreeEnds environment.toList)
    (htimestamp : Text.IsInt64 timestamp) :
    (ofText v text environment timestamp).SaidBy (ofText v text environment timestamp).toHeader := by
  refine saidBy_toHeader (v.compute_ne _) ?_ (v.blankFreeEnds_compute _) henvironment hends
    htimestamp
  exact fun h => Digest.ne_comma_of_isPlain (Digest.isPlain_of_mem h) rfl

end StampedSignature

end ContentSync.Webhook
