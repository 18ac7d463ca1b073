import ContentSync.Proofs.JsonEquality
import ContentSync.Proofs.SignatureHeader
import ContentSync.Webhook.Intake

/-!
# The checks of deliveries

A delivery is refused for the first check that it does not pass.  The guard comes last, so all that
a delivery can do to the guard is to have its signature recorded when everything else is in order.

* `ReplayGuard.Remembers` — what the guard says of a signature at a time.
* `Checked`, `Fault` — the checks before the guard one by one, and the first one that fails.
* `receive_of_passes`, `receive_of_fails` — what becomes of a delivery; `receive_ok_iff`,
  `receive_error_iff` — which ones are accepted and refused.
* `Delivery.signed`, `passes_signed` — a text that is delivered with its signature.
* `receive_iff` — which deliveries are accepted, and why the others are refused.
-/

namespace ContentSync.Webhook

/-! ## The guard -/

namespace ReplayGuard

variable {g : ReplayGuard} {ttl elapsed : Duration} {id : String}

/-- **A signature is remembered** for as long as the time since it was accepted is below `ttl`. -/
def Remembers (g : ReplayGuard) (ttl elapsed : Duration) (id : String) : Prop :=
  ∃ accepted, (id, accepted) ∈ g.accepted ∧ elapsed.nanos - accepted.nanos < ttl.nanos

lemma remembers_refresh_iff : (g.refresh ttl elapsed).remembers id ↔ g.Remembers ttl elapsed id := by
  simp only [remembers, refresh, Remembers, List.any_eq_true, List.mem_filter, beq_iff_eq,
    decide_eq_true_eq]
  constructor
  · rintro ⟨⟨_, accepted⟩, ⟨hmem, hfresh⟩, rfl⟩
    exact ⟨accepted, hmem, hfresh⟩
  · rintro ⟨accepted, hmem, hfresh⟩
    exact ⟨(id, accepted), ⟨hmem, hfresh⟩, rfl⟩

lemma accept_of_remembers (h : g.Remembers ttl elapsed id) :
    g.accept ttl elapsed id = (.error (.replayDetected id), g.refresh ttl elapsed) :=
  if_pos (remembers_refresh_iff.mpr h)

lemma accept_of_not_remembers (h : ¬ g.Remembers ttl elapsed id) :
    g.accept ttl elapsed id = (.ok (), ⟨(id, elapsed) :: (g.refresh ttl elapsed).accepted⟩) :=
  if_neg fun hmem => h (remembers_refresh_iff.mp hmem)

end ReplayGuard

/-! ## The checks before the guard -/

/-- A time of signing whose distance from the clock is allowed. -/
def Timely (config : IntakeConfig) (now : Instant) (timestamp : Int) : Prop :=
  (Duration.millis (now.toMillis - timestamp).natAbs).nanos ≤ config.timestampTolerance.nanos

instance (config : IntakeConfig) (now : Instant) (timestamp : Int) :
    Decidable (Timely config now timestamp) :=
  inferInstanceAs (Decidable (_ ≤ _))

/-- A body of allowed size comes with a header that says a signature. -/
structure Stamped (config : IntakeConfig) (header : Option String) (body : ByteArray)
    (s : StampedSignature) : Prop where
  fits : body.size ≤ config.maxPayloadSize
  said : ∃ text, header = some text ∧ s.SaidBy text

/-- A header says one signature, whatever the body. -/
lemma Stamped.unique {config : IntakeConfig} {header : Option String} {body body' : ByteArray}
    {s s' : StampedSignature} (h : Stamped config header body s)
    (h' : Stamped config header body' s') : s = s' := by
  obtain ⟨text, htext, hsaid⟩ := h.said
  obtain ⟨text', htext', hsaid'⟩ := h'.said
  cases htext.symm.trans htext'
  exact hsaid.unique hsaid'

/-- The time of signing is not too far from the clock either. -/
structure OnTime (config : IntakeConfig) (now : Instant) (header : Option String)
    (body : ByteArray) (s : StampedSignature) : Prop extends Stamped config header body s where
  timely : Timely config now s.timestamp

/-- The signature was made for this body with the secret. -/
structure Authentic (v : Verifier) (config : IntakeConfig) (now : Instant)
    (header : Option String) (body : ByteArray) (s : StampedSignature) : Prop
    extends OnTime config now header body s where
  genuine : s.Genuine v body

/-- **All checks but that of the guard are passed**: the body is JSON, too. -/
structure Checked (v : Verifier) (config : IntakeConfig) (now : Instant) (header : Option String)
    (body : ByteArray) (s : StampedSignature) (payload : Json) : Prop
    extends Authentic v config now header body s where
  json : Json.parseBytes? body = some payload

/-- **The first check that is not passed**, of those before the guard, as the error that tells it.
Each case begins with what the checks before it have established. -/
inductive Fault (v : Verifier) (config : IntakeConfig) (complaint : Json.Complaint) (now : Instant)
    (header : Option String) (body : ByteArray) : Error → Prop
  | tooLarge (h : config.maxPayloadSize < body.size) :
      Fault v config complaint now header body (.payloadTooLarge body.size config.maxPayloadSize)
  | unsigned (fits : body.size ≤ config.maxPayloadSize) (h : header = none) :
      Fault v config complaint now header body (.missingSignature signatureHeader)
  | malformed {text : String} (fits : body.size ≤ config.maxPayloadSize) (signed : header = some text)
      (h : ∀ s : StampedSignature, ¬ s.SaidBy text) :
      Fault v config complaint now header body (.malformedSignature StampedSignature.expectedHeader)
  | stale {s : StampedSignature} (stamped : Stamped config header body s)
      (h : ¬ Timely config now s.timestamp) :
      Fault v config complaint now header body
        (.staleTimestamp s.timestamp now.toMillis config.timestampTolerance)
  | notText {s : StampedSignature} (onTime : OnTime config now header body s)
      (h : Text.decode? body = none) :
      Fault v config complaint now header body (.invalidPayload (StampedSignature.notText body))
  | forged {s : StampedSignature} {text : String} (onTime : OnTime config now header body s)
      (isText : Text.decode? body = some text) (h : ¬ s.Genuine v body) :
      Fault v config complaint now header body .invalidSignature
  | notJson {s : StampedSignature} (authentic : Authentic v config now header body s)
      (h : Json.parseBytes? body = none) :
      Fault v config complaint now header body (.json (complaint body))

/-- The event of a signed delivery. -/
def Event.ofSignature (s : StampedSignature) (receivedAt : Instant) (payload : Json) : Event :=
  ⟨s.digest, receivedAt, some s.environment, Instant.ofMillis? s.timestamp, payload⟩

section Checks

variable {v : Verifier} {config : IntakeConfig} {complaint : Json.Complaint} {now : Instant}
  {header : Option String} {body : ByteArray} {s : StampedSignature} {payload : Json}

/-- Only the guard says that a signature was accepted before. -/
lemma Fault.ne_replayDetected {e : Error} (h : Fault v config complaint now header body e)
    (id : String) : e ≠ .replayDetected id := by
  cases h <;> exact fun heq => by cases heq

/-- A delivery passes all checks before the guard or has a first one that it does not pass. -/
lemma exists_fault_or_checked (v : Verifier) (config : IntakeConfig) (complaint : Json.Complaint)
    (now : Instant) (header : Option String) (body : ByteArray) :
    (∃ e, Fault v config complaint now header body e) ∨
      ∃ s payload, Checked v config now header body s payload := by
  by_cases hfits : body.size ≤ config.maxPayloadSize
  swap
  · exact .inl ⟨_, .tooLarge (Nat.not_le.mp hfits)⟩
  cases hheader : header with
  | none => exact .inl ⟨_, .unsigned hfits rfl⟩
  | some text =>
      by_cases hsaid : ∃ s : StampedSignature, s.SaidBy text
      swap
      · exact .inl ⟨_, .malformed hfits rfl (not_exists.mp hsaid)⟩
      obtain ⟨s, hs⟩ := hsaid
      have hstamped : Stamped config (some text) body s := ⟨hfits, text, rfl, hs⟩
      by_cases htimely : Timely config now s.timestamp
      swap
      · exact .inl ⟨_, .stale hstamped htimely⟩
      have honTime : OnTime config now (some text) body s := ⟨hstamped, htimely⟩
      cases htext : Text.decode? body with
      | none => exact .inl ⟨_, .notText honTime htext⟩
      | some bodyText =>
          by_cases hgenuine : s.Genuine v body
          swap
          · exact .inl ⟨_, .forged honTime htext hgenuine⟩
          have hauthentic : Authentic v config now (some text) body s := ⟨honTime, hgenuine⟩
          cases hjson : Json.parseBytes? body with
          | none => exact .inl ⟨_, .notJson hauthentic hjson⟩
          | some payload => exact .inr ⟨s, payload, hauthentic, hjson⟩

/-- The tolerance counts in whole milliseconds, as the times do. -/
lemma toMillis_lt_iff {timestamp : Int} :
    config.timestampTolerance.toMillis < (now.toMillis - timestamp).natAbs ↔
      ¬ Timely config now timestamp := by
  rw [Timely, Duration.toMillis, Duration.millis, Nat.div_lt_iff_lt_mul (by decide), Nat.not_le]

lemma checkTimestamp_of_timely {timestamp : Int} (h : Timely config now timestamp) :
    Handler.checkTimestamp config now timestamp = .ok () :=
  if_neg fun hlt => toMillis_lt_iff.mp hlt h

lemma checkTimestamp_of_not_timely {timestamp : Int} (h : ¬ Timely config now timestamp) :
    Handler.checkTimestamp config now timestamp =
      .error (.staleTimestamp timestamp now.toMillis config.timestampTolerance) :=
  if_pos (toMillis_lt_iff.mpr h)

end Checks

/-! ## The handler -/

namespace Handler

variable {h : Handler} {v : Verifier} {clock : Clock} {d : Delivery} {s : StampedSignature}
  {payload : Json}

/-- What the checks before the guard come to for a delivery. -/
abbrev Passes (v : Verifier) (config : IntakeConfig) (now : Instant) (d : Delivery) :
    StampedSignature → Json → Prop :=
  Checked v config now (headerValue? d.headers signatureHeader) d.body

abbrev Fails (v : Verifier) (config : IntakeConfig) (complaint : Json.Complaint) (now : Instant)
    (d : Delivery) : Error → Prop :=
  Fault v config complaint now (headerValue? d.headers signatureHeader) d.body

lemma fails_or_passes (v : Verifier) (config : IntakeConfig) (complaint : Json.Complaint)
    (now : Instant) (d : Delivery) :
    (∃ e, Fails v config complaint now d e) ∨ ∃ s payload, Passes v config now d s payload :=
  exists_fault_or_checked v config complaint now _ d.body

lemma readHeader_of_stamped {config : IntakeConfig}
    (hs : Stamped config (headerValue? d.headers signatureHeader) d.body s) :
    readHeader d.headers = .ok s := by
  obtain ⟨text, hheader, hsaid⟩ := hs.said
  rw [readHeader, hheader]
  exact StampedSignature.parse_of_saidBy hsaid

/-- **A delivery that passes the checks before the guard** is accepted, and its signature recorded,
unless the guard remembers it. -/
lemma receive_of_passes (hv : h.verifier = some v) (hs : Passes v h.config clock.now d s payload)
    (g : ReplayGuard) :
    h.receive g clock d =
      if h.config.replayProtection then
        match g.accept h.config.replayTtl clock.elapsed s.digest with
        | (.error e, g) => ⟨.error e, g, []⟩
        | (.ok (), g) => ⟨.ok (.ofSignature s clock.now payload), g, []⟩
      else ⟨.ok (.ofSignature s clock.now payload), g, []⟩ := by
  obtain ⟨text, -, hsaid⟩ := hs.said
  have hcheck : checkSigned v h.config h.complaint clock.now d = ⟨.ok (s, payload), []⟩ := by
    simp only [checkSigned, readHeader_of_stamped hs.toStamped, checkTimestamp_of_timely hs.timely,
      StampedSignature.verify_of_genuine hsaid hs.genuine, readBody, hs.json]
  rw [receive, if_neg (Nat.not_lt.mpr hs.fits), hv]
  simp only [hcheck]
  rfl

lemma receive_of_remembers (hv : h.verifier = some v)
    (hs : Passes v h.config clock.now d s payload) (hguard : h.config.replayProtection)
    {g : ReplayGuard} (hknown : g.Remembers h.config.replayTtl clock.elapsed s.digest) :
    h.receive g clock d = ⟨.error (.replayDetected s.digest),
      g.refresh h.config.replayTtl clock.elapsed, []⟩ := by
  rw [receive_of_passes hv hs, if_pos hguard, ReplayGuard.accept_of_remembers hknown]

lemma receive_of_not_remembers (hv : h.verifier = some v)
    (hs : Passes v h.config clock.now d s payload) (hguard : h.config.replayProtection)
    {g : ReplayGuard} (hnew : ¬ g.Remembers h.config.replayTtl clock.elapsed s.digest) :
    h.receive g clock d = ⟨.ok (.ofSignature s clock.now payload),
      ⟨(s.digest, clock.elapsed) :: (g.refresh h.config.replayTtl clock.elapsed).accepted⟩, []⟩ := by
  rw [receive_of_passes hv hs, if_pos hguard, ReplayGuard.accept_of_not_remembers hnew]

lemma receive_result_of_new (hv : h.verifier = some v)
    (hs : Passes v h.config clock.now d s payload) {g : ReplayGuard}
    (hnew : h.config.replayProtection → ¬ g.Remembers h.config.replayTtl clock.elapsed s.digest) :
    (h.receive g clock d).result = .ok (.ofSignature s clock.now payload) := by
  by_cases hguard : h.config.replayProtection
  · rw [receive_of_not_remembers hv hs hguard (hnew hguard)]
  · rw [receive_of_passes hv hs, if_neg hguard]

lemma receive_of_error {e : Error} {warnings : List Warning} (hv : h.verifier = some v)
    (hfits : d.body.size ≤ h.config.maxPayloadSize)
    (hcheck : checkSigned v h.config h.complaint clock.now d = ⟨.error e, warnings⟩)
    (g : ReplayGuard) : h.receive g clock d = ⟨.error e, g, warnings⟩ := by
  rw [receive, if_neg (Nat.not_lt.mpr hfits), hv]
  simp only [hcheck]

/-- **A delivery that does not pass** is refused, whatever the guard, and does nothing to it. -/
lemma receive_of_fails {e : Error} (hv : h.verifier = some v)
    (he : Fails v h.config h.complaint clock.now d e) :
    ∃ warnings, ∀ g, h.receive g clock d = ⟨.error e, g, warnings⟩ := by
  cases he with
  | tooLarge hlarge => exact ⟨[], fun g => by rw [receive, if_pos hlarge]⟩
  | unsigned hfits hnone =>
      refine ⟨[], receive_of_error hv hfits ?_⟩
      simp only [checkSigned, readHeader, hnone]
  | malformed hfits hheader hnone =>
      refine ⟨[], receive_of_error hv hfits ?_⟩
      simp only [checkSigned, readHeader, hheader, StampedSignature.parse_of_not_saidBy hnone]
  | stale hs hlate =>
      refine ⟨[], receive_of_error hv hs.fits ?_⟩
      simp only [checkSigned, readHeader_of_stamped hs, checkTimestamp_of_not_timely hlate]
  | notText hs hnone =>
      refine ⟨[.signatureRejected], receive_of_error hv hs.fits ?_⟩
      simp only [checkSigned, readHeader_of_stamped hs.toStamped, checkTimestamp_of_timely hs.timely,
        StampedSignature.verify_of_not_text hnone]
  | forged hs htext hforged =>
      obtain ⟨text, -, hsaid⟩ := hs.said
      refine ⟨[.signatureRejected], receive_of_error hv hs.fits ?_⟩
      simp only [checkSigned, readHeader_of_stamped hs.toStamped, checkTimestamp_of_timely hs.timely,
        StampedSignature.verify_of_not_genuine hsaid htext hforged]
  | notJson hs hnone =>
      obtain ⟨text, -, hsaid⟩ := hs.said
      refine ⟨[], receive_of_error hv hs.fits ?_⟩
      simp only [checkSigned, readHeader_of_stamped hs.toStamped, checkTimestamp_of_timely hs.timely,
        StampedSignature.verify_of_genuine hsaid hs.genuine, readBody, hnone]

/-- **What is accepted** has passed all checks, and the guard does not remember it. -/
lemma receive_ok_iff (hv : h.verifier = some v) {g : ReplayGuard} {event : Event} :
    (h.receive g clock d).result = .ok event ↔
      ∃ s payload, Passes v h.config clock.now d s payload ∧
        (h.config.replayProtection → ¬ g.Remembers h.config.replayTtl clock.elapsed s.digest) ∧
        event = .ofSignature s clock.now payload := by
  constructor
  · intro hok
    rcases fails_or_passes v h.config h.complaint clock.now d with ⟨e, he⟩ | ⟨s, payload, hs⟩
    · obtain ⟨warnings, hrefused⟩ := receive_of_fails hv he
      rw [hrefused] at hok
      cases hok
    · have hnew : h.config.replayProtection →
          ¬ g.Remembers h.config.replayTtl clock.elapsed s.digest := by
        intro hguard hknown
        rw [receive_of_remembers hv hs hguard hknown] at hok
        cases hok
      rw [receive_result_of_new hv hs hnew] at hok
      exact ⟨s, payload, hs, hnew, (Except.ok.inj hok).symm⟩
  · rintro ⟨s, payload, hs, hnew, rfl⟩
    exact receive_result_of_new hv hs hnew

/-- **Why the others are refused**: for the first check that they do not pass, the guard last. -/
lemma receive_error_iff (hv : h.verifier = some v) {g : ReplayGuard} {e : Error} :
    (h.receive g clock d).result = .error e ↔
      Fails v h.config h.complaint clock.now d e ∨
      ∃ s payload, Passes v h.config clock.now d s payload ∧ h.config.replayProtection ∧
        g.Remembers h.config.replayTtl clock.elapsed s.digest ∧ e = .replayDetected s.digest := by
  constructor
  · intro herror
    rcases fails_or_passes v h.config h.complaint clock.now d with ⟨e', he⟩ | ⟨s, payload, hs⟩
    · obtain ⟨warnings, hrefused⟩ := receive_of_fails hv he
      rw [hrefused] at herror
      cases herror
      exact .inl he
    · by_cases hknown : h.config.replayProtection ∧
          g.Remembers h.config.replayTtl clock.elapsed s.digest
      · rw [receive_of_remembers hv hs hknown.1 hknown.2] at herror
        exact .inr ⟨s, payload, hs, hknown.1, hknown.2, (Except.error.inj herror).symm⟩
      · rw [receive_result_of_new hv hs (not_and.mp hknown)] at herror
        cases herror
  · rintro (he | ⟨s, payload, hs, hguard, hknown, rfl⟩)
    · obtain ⟨warnings, hrefused⟩ := receive_of_fails hv he
      rw [hrefused]
    · rw [receive_of_remembers hv hs hguard hknown]

/-- A handler with a secret checks signatures. -/
lemma verifier_new {secret : String} (hsecret : secret ≠ "") (config : IntakeConfig)
    (complaint : Json.Complaint := .plain) :
    (Handler.new (some secret) config complaint).verifier = some ⟨secret.toUTF8⟩ := by
  have hempty : secret.isEmpty = false := by simpa using hsecret
  simp only [Handler.new, hempty, Bool.false_eq_true, if_false]

end Handler

/-! ## Deliveries that are in order -/

section Signed

open StampedSignature (ofText)

/-- **A text that is delivered with its signature.** -/
def Delivery.signed (secret text environment : String) (timestamp : Int) : Delivery :=
  ⟨[(signatureHeader, (ofText ⟨secret.toUTF8⟩ text environment timestamp).toHeader)], text.toUTF8⟩

/-- A text with its signature passes when the text is JSON of allowed size, its time is near the
clock, and the environment cannot be taken for anything else. -/
lemma passes_signed {config : IntakeConfig} {now : Instant} {text environment : String}
    {timestamp : Int} {payload : Json} (secret : String)
    (henvironment : ',' ∉ environment.toList) (hends : Text.BlankFreeEnds environment.toList)
    (htimestamp : Text.IsInt64 timestamp) (hfits : text.toUTF8.size ≤ config.maxPayloadSize)
    (htimely : Timely config now timestamp) (hjson : Json.parse? text = some payload) :
    Handler.Passes ⟨secret.toUTF8⟩ config now (.signed secret text environment timestamp)
      (ofText ⟨secret.toUTF8⟩ text environment timestamp) payload := by
  have hsaid := StampedSignature.saidBy_ofText ⟨secret.toUTF8⟩ text henvironment hends htimestamp
  exact ⟨⟨⟨⟨hfits, _, if_pos rfl, hsaid⟩, htimely⟩, StampedSignature.genuine_ofText _ _ _ _⟩,
    (Json.parseBytes?_toUTF8 text).trans hjson⟩

end Signed

/-! ## Who is let in -/

/-- Names of headers that differ in upper and lower case at most. -/
def SameName (a b : String) : Prop := a.toList.map Char.toLower = b.toList.map Char.toLower

instance (a b : String) : Decidable (SameName a b) := inferInstanceAs (Decidable (_ = _))

/-- **The text of the signature header** of a delivery, which has one such header at most. -/
def Delivery.HasSignature (d : Delivery) (header : Option String) : Prop :=
  ∀ text, header = some text ↔ ∃ name, (name, text) ∈ d.headers ∧ SameName name signatureHeader

lemma exists_of_headerValue? {headers : Entries String} {name text : String}
    (h : headerValue? headers name = some text) :
    ∃ key, (key, text) ∈ headers ∧ SameName key name := by
  induction headers with
  | nil => cases h
  | cons entry rest ih =>
      obtain ⟨key, value⟩ := entry
      rw [headerValue?] at h
      split at h
      · next hsame =>
          cases h
          exact ⟨key, List.mem_cons_self, hsame⟩
      · obtain ⟨key', hmem, hsame⟩ := ih h
        exact ⟨key', List.mem_cons_of_mem _ hmem, hsame⟩

lemma headerValue?_isSome {headers : Entries String} {name key text : String}
    (hmem : (key, text) ∈ headers) (hsame : SameName key name) :
    (headerValue? headers name).isSome := by
  induction headers with
  | nil => cases hmem
  | cons entry rest ih =>
      rw [headerValue?]
      split
      · rfl
      · next hother =>
          rcases List.mem_cons.mp hmem with rfl | hrest
          · exact absurd hsame hother
          · exact ih hrest

lemma Delivery.HasSignature.headerValue?_eq {d : Delivery} {header : Option String}
    (h : d.HasSignature header) : headerValue? d.headers signatureHeader = header := by
  cases hvalue : headerValue? d.headers signatureHeader with
  | some text => exact ((h text).mpr (exists_of_headerValue? hvalue)).symm
  | none =>
      cases header with
      | none => rfl
      | some text =>
          obtain ⟨key, hmem, hsame⟩ := (h text).mp rfl
          have hsome := headerValue?_isSome hmem hsame
          rw [hvalue] at hsome
          cases hsome

/-- **Who is let in.**  With a secret, a delivery is accepted exactly when it passes all checks and
the guard, if there is one, does not remember its signature; the event tells the signature, its
environment and time, and the body.  Otherwise the error is that of the first check that fails, with
the guard last. -/
theorem receive_iff {secret : String} (hsecret : secret ≠ "") (config : IntakeConfig)
    (complaint : Json.Complaint) (g : ReplayGuard) (clock : Clock) {d : Delivery}
    {header : Option String} (hheader : d.HasSignature header) :
    let v : Verifier := ⟨secret.toUTF8⟩
    let result := ((Handler.new (some secret) config complaint).receive g clock d).result
    (∀ event, result = .ok event ↔
      ∃ s payload, Checked v config clock.now header d.body s payload ∧
        (config.replayProtection → ¬ g.Remembers config.replayTtl clock.elapsed s.digest) ∧
        event = .ofSignature s clock.now payload) ∧
    (∀ e, result = .error e ↔
      Fault v config complaint clock.now header d.body e ∨
      ∃ s payload, Checked v config clock.now header d.body s payload ∧
        config.replayProtection ∧ g.Remembers config.replayTtl clock.elapsed s.digest ∧
        e = .replayDetected s.digest) := by
  rw [← hheader.headerValue?_eq]
  have hv := Handler.verifier_new hsecret config complaint
  exact ⟨fun event => Handler.receive_ok_iff hv, fun e => Handler.receive_error_iff hv⟩

/-- A part that says something else does not count in front of the one that is in order. -/
theorem receive_iff_last_parts :
    let s := StampedSignature.ofText ⟨"k".toUTF8⟩ "0" "master" 450000
    let header := "sign=forged" ++ "," ++ s.toHeader
    let d : Delivery := ⟨[("Content-Type", "application/json"), ("GCMS-Signature", header)],
      "0".toUTF8⟩
    "k" ≠ "" ∧ d.HasSignature (some header) ∧
      ((Handler.new (some "k") .default).receive .empty ⟨⟨451, 0⟩, .zero⟩ d).result =
        .ok (.ofSignature s ⟨451, 0⟩ (.int 0)) := by
  intro s header d
  have hheader : d.HasSignature (some header) := by
    intro text
    simp only [d, List.mem_cons, List.not_mem_nil, or_false, Prod.mk.injEq, Option.some.injEq]
    constructor
    · rintro rfl
      exact ⟨_, .inr ⟨rfl, rfl⟩, by decide⟩
    · rintro ⟨_, ⟨rfl, -⟩ | ⟨-, rfl⟩, hsame⟩
      · exact absurd hsame (by decide)
      · rfl
  have hsaid : s.SaidBy s.toHeader :=
    StampedSignature.saidBy_ofText _ "0" (by decide) (by decide) (by decide)
  refine ⟨by decide, hheader, ?_⟩
  refine ((receive_iff (by decide) .default .plain .empty ⟨⟨451, 0⟩, .zero⟩ hheader).1 _).mpr
    ⟨s, .int 0, ⟨⟨⟨⟨?_, header, rfl, hsaid.prepend (by decide)⟩, ?_⟩, ?_⟩, ?_⟩, ?_, rfl⟩
  · decide
  · exact (by decide : Timely .default ⟨451, 0⟩ 450000)
  · exact StampedSignature.genuine_ofText _ _ _ _
  · exact (Json.parseBytes?_toUTF8 "0").trans (by decide +kernel)
  · rintro - ⟨_, hmem, -⟩
    cases hmem

end ContentSync.Webhook
