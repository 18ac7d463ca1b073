import ContentSync.Proofs.NotificationEffect
import ContentSync.Proofs.ReplayWindow

/-!
# Deliveries that are sent again

A sender that gets an error sends the same delivery again.  Whether this second one has a chance
depends on where the first one failed: a signature is recorded when the checks are passed, and what
comes after them, reading the notification and following it, can still fail.

* `receive_replay_iff` — when a delivery is refused as a replay.
* `handleWebhook_webhook_iff`, `handleWebhook_guard` — what the source adds to the checks.
* `handleWebhook_again` — which failed deliveries are refused as replays when they come again.
* `handleWebhook_burnt` — one that fails after the checks is among them.
-/

namespace ContentSync

open Http (Network)
open Webhook (Clock Delivery Handler ReplayGuard StampedSignature Timely Verifier withTolerance)

/-! ## Replays -/

namespace Webhook.Handler

variable {h : Handler} {g : ReplayGuard} {clock : Clock} {d : Delivery}

/-- Without a secret nothing is a replay. -/
lemma receive_ne_replay_of_none (hv : h.verifier = none) (id : String) :
    (h.receive g clock d).result ≠ .error (.replayDetected id) := by
  rw [receive, hv]
  split
  · exact fun hlarge => by cases hlarge
  · dsimp only
    rw [readBody]
    cases Json.parseBytes? d.body with
    | none => exact fun herror => by cases herror
    | some payload => exact fun herror => by cases herror

/-- **A delivery is refused as a replay** exactly when it passes all checks before the guard and the
guard remembers its signature. -/
lemma receive_replay_iff {id : String} :
    (h.receive g clock d).result = .error (.replayDetected id) ↔
      ∃ v s payload, h.verifier = some v ∧ Passes v h.config clock.now d s payload ∧
        s.digest = id ∧ h.config.replayProtection ∧
        g.Remembers h.config.replayTtl clock.elapsed id := by
  constructor
  · intro hreplay
    cases hv : h.verifier with
    | none => exact absurd hreplay (receive_ne_replay_of_none hv id)
    | some v =>
        rcases (receive_error_iff hv).mp hreplay with he | ⟨s, payload, hs, hguard, hknown, hid⟩
        · exact absurd rfl (he.ne_replayDetected id)
        · cases hid
          exact ⟨v, s, payload, rfl, hs, rfl, hguard, hknown⟩
  · rintro ⟨v, s, payload, hv, hs, rfl, hguard, hknown⟩
    exact (receive_error_iff hv).mpr (.inr ⟨s, payload, hs, hguard, hknown, rfl⟩)

end Webhook.Handler

/-! ## The source -/

section Source

variable {source : Source} {net net' : Network} {clock clock' : Clock} {d : Delivery}
  {s s₁ s' : SourceState} {n : Notification}

/-- Following a notification does nothing to the guard, and a failure of it is no refusal. -/
lemma applyNotification_intake (source : Source) (net : Network) (n : Notification)
    (s : SourceState) :
    (source.applyNotification net n s).2.guard = s.guard ∧
      ∀ w, (source.applyNotification net n s).1 ≠ .error (.webhook w) := by
  by_cases hdelete : n.change = .delete
  · rw [applyNotification_delete source net s hdelete]
    exact ⟨rfl, fun w herror => by cases herror⟩
  · rcases hschema : source.schema net s with ⟨schema, s₁⟩
    have hguard : s₁.guard = s.guard := by
      rcases schema_cases source net s with ⟨kept, -, hload⟩ | ⟨-, hload⟩
      · obtain ⟨rfl, rfl⟩ := Prod.mk.inj (hschema.symm.trans hload)
        rfl
      · obtain ⟨rfl, rfl⟩ := Prod.mk.inj (hschema.symm.trans hload)
        rfl
    rw [applyNotification_cases hschema hdelete, Notification.lookup]
    split_ifs
    · exact ⟨hguard, fun w herror => by cases herror⟩
    · exact ⟨hguard, fun w herror => by cases herror⟩

/-- The guard after a delivery is the one that the checks leave. -/
lemma handleWebhook_guard (source : Source) (net : Network) (clock : Clock) (d : Delivery)
    (s : SourceState) :
    (source.handleWebhook net clock d s).2.guard =
      (source.handler.receive s.guard clock d).guard := by
  rw [handleWebhook_eq]
  cases (source.handler.receive s.guard clock d).result with
  | error e => rfl
  | ok event =>
      dsimp only
      cases Notification.reader.ofJson event.payload with
      | error e => rfl
      | ok n => exact (applyNotification_intake source net n _).1

/-- **A delivery is refused** exactly when the checks refuse it. -/
lemma handleWebhook_webhook_iff {w : Webhook.Error} :
    (source.handleWebhook net clock d s).1 = .error (.webhook w) ↔
      (source.handler.receive s.guard clock d).result = .error w := by
  rw [handleWebhook_eq]
  cases hresult : (source.handler.receive s.guard clock d).result with
  | error e => simp
  | ok event =>
      refine iff_of_false ?_ fun herror => by cases herror
      dsimp only
      cases Notification.reader.ofJson event.payload with
      | error e => exact fun herror => by cases herror
      | ok n => exact (applyNotification_intake source net n _).2 w

lemma handler_of_source {c : Config} (hsource : Source.of? c = .ok source) :
    source.handler = .new c.webhookSecret c.webhook.toIntake := by
  rw [Source.of?] at hsource
  cases hapi : Api.of? c with
  | error e =>
      rw [hapi] at hsource
      cases hsource
  | ok api =>
      rw [hapi] at hsource
      cases hsource
      rfl

/-- A delivery that failed was accepted by the checks exactly when the failure is no refusal. -/
lemma receive_ok_iff_of_error {e : SyncError}
    (hfirst : (source.handleWebhook net clock d s).1 = .error e) :
    (∃ event, (source.handler.receive s.guard clock d).result = .ok event) ↔
      ∀ w, e ≠ .webhook w := by
  cases hresult : (source.handler.receive s.guard clock d).result with
  | error w =>
      cases hfirst.symm.trans (handleWebhook_webhook_iff.mpr hresult)
      refine iff_of_false ?_ fun hne => hne w rfl
      rintro ⟨_, hok⟩
      cases hok
  | ok event =>
      refine iff_of_true ⟨event, rfl⟩ fun w hw => ?_
      subst hw
      cases hresult.symm.trans (handleWebhook_webhook_iff.mp hfirst)

/-- **Failed deliveries that come again.**  Let a delivery fail, and let it come again, with no other
one in between but with whatever replies of the two sides and whatever else done to the source.
The second one is refused as a replay exactly when it is in order at that time and

* its signature had been accepted already before the first one, and is still remembered, or
* the first one passed all checks, so that it failed in what comes after them, less than a quarter
  of an hour ago. -/
theorem handleWebhook_again {c : Config} (hsource : Source.of? c = .ok source) {e : SyncError}
    (hfirst : source.handleWebhook net clock d s = (.error e, s₁)) (hkept : s'.guard = s₁.guard)
    (hlater : clock.elapsed.nanos ≤ clock'.elapsed.nanos) (id : String) :
    (source.handleWebhook net' clock' d s').1 = .error (.webhook (.replayDetected id)) ↔
      ∃ v signature payload, source.handler.verifier = some v ∧
        Handler.Passes v source.handler.config clock'.now d signature payload ∧
        signature.digest = id ∧
        (s.guard.Remembers (.seconds 900) clock'.elapsed id ∨
          (∀ w, e ≠ .webhook w) ∧
            clock'.elapsed.nanos - clock.elapsed.nanos < (Duration.seconds 900).nanos) := by
  have hhandler := handler_of_source hsource
  have hguard : source.handler.config.replayProtection := by rw [hhandler]; rfl
  have httl : source.handler.config.replayTtl = .seconds 900 := by rw [hhandler]; rfl
  have hreceipt : s'.guard = (source.handler.receive s.guard clock d).guard := by
    rw [hkept, ← handleWebhook_guard source net clock d s, hfirst]
  have haccepted := receive_ok_iff_of_error (congrArg Prod.fst hfirst)
  rw [handleWebhook_webhook_iff, Handler.receive_replay_iff, hreceipt]
  refine exists_congr fun v => exists_congr fun signature => exists_congr fun payload =>
    and_congr_right fun hv => and_congr_right fun hs => and_congr_right fun hid => ?_
  rw [Handler.remembers_receive hv hguard hlater, httl, ← haccepted]
  constructor
  · rintro ⟨-, hbefore | ⟨event, hok, -, hfresh⟩⟩
    · exact .inl hbefore
    · exact .inr ⟨⟨event, hok⟩, hfresh⟩
  · rintro (hbefore | ⟨⟨event, hok⟩, hfresh⟩)
    · exact ⟨hguard, .inl hbefore⟩
    · obtain ⟨signature', payload', hs', -, rfl⟩ := (Handler.receive_ok_iff hv).mp hok
      obtain rfl := hs.toStamped.unique hs'.toStamped
      exact ⟨hguard, .inr ⟨_, hok, hid, hfresh⟩⟩

end Source

/-! ## A body that is no notification -/

namespace Archive

/-- JSON, but no notification: nothing is ever archived. -/
def text : String := "\x7b\"operation\":\"archive\"\x7d"

/-- The body, signed 450 seconds after the start of 1970. -/
def delivery : Delivery := .signed "k" text "master" 450000

def signature : StampedSignature := .ofText ⟨"k".toUTF8⟩ text "master" 450000

/-- What the body says. -/
def payload : Json := .object [("operation", .string "archive")]

/-- The clocks a number of seconds after the start of both. -/
def clockAt (seconds : Nat) : Clock := ⟨⟨seconds, 0⟩, .seconds seconds⟩

/-- Neither side can be reached. -/
def network : Network := ⟨fun _ _ => .unsent .connect, fun _ => 0⟩

/-- The handler of a source with the usual tolerance. -/
def handler : Handler := .new (withTolerance 300).webhookSecret (withTolerance 300).webhook.toIntake

lemma verifier_handler : handler.verifier = some ⟨"k".toUTF8⟩ :=
  Handler.verifier_new (by decide : "k" ≠ "") _

lemma passes {seconds : Nat}
    (htimely : Timely handler.config ⟨seconds, 0⟩ 450000) :
    Handler.Passes ⟨"k".toUTF8⟩ handler.config (clockAt seconds).now delivery signature payload :=
  Webhook.passes_signed "k" (by decide) (by decide) (by decide) (by decide) htimely
    (by decide +kernel)

end Archive

section Burnt

open Archive

/-- A delivery that came too early is not held against it when it comes in time. -/
theorem handleWebhook_again_early :
    ∃ source s₁, Source.of? (withTolerance 300) = .ok source ∧
      source.handleWebhook network (clockAt 0) delivery .empty =
        (.error (.webhook (.staleTimestamp 450000 0 (.seconds 300))), s₁) ∧
      ∀ id, (source.handleWebhook network (clockAt 450) delivery s₁).1 ≠
        .error (.webhook (.replayDetected id)) := by
  obtain ⟨source, hsource⟩ : ∃ source, Source.of? (withTolerance 300) = .ok source := ⟨_, rfl⟩
  have hhandler := handler_of_source hsource
  have hstale : (source.handleWebhook network (clockAt 0) delivery .empty).1 =
      .error (.webhook (.staleTimestamp 450000 0 (.seconds 300))) := by
    have hstamped := (passes (by decide : Timely _ ⟨450, 0⟩ 450000)).toStamped
    have hfault : Handler.Fails ⟨"k".toUTF8⟩ handler.config .plain (clockAt 0).now delivery
        (.staleTimestamp 450000 0 (.seconds 300)) := .stale hstamped (by decide)
    obtain ⟨warnings, hrefused⟩ := Handler.receive_of_fails verifier_handler hfault
    rw [handleWebhook_webhook_iff, hhandler]
    exact congrArg Handler.Receipt.result (hrefused _)
  refine ⟨source, _, hsource, Prod.ext hstale rfl, fun id hreplay => ?_⟩
  obtain ⟨-, -, -, -, -, -, ⟨_, hmem, -⟩ | ⟨hother, -⟩⟩ :=
    (handleWebhook_again hsource (Prod.ext hstale rfl) rfl (Nat.zero_le _) id).mp hreplay
  · cases hmem
  · exact hother _ rfl

/-- **A signature is burnt** by a body that is no notification: the checks let it pass once, and when
it comes again a second later, it is a replay. -/
theorem handleWebhook_burnt :
    ∃ source s₁, Source.of? (withTolerance 300) = .ok source ∧
      source.handleWebhook network (clockAt 450) delivery .empty =
        (.error (.notification "unknown variant `archive`"), s₁) ∧
      Timely source.handler.config (clockAt 451).now signature.timestamp ∧
      (source.handleWebhook network (clockAt 451) delivery s₁).1 =
        .error (.webhook (.replayDetected signature.digest)) := by
  obtain ⟨source, hsource⟩ : ∃ source, Source.of? (withTolerance 300) = .ok source := ⟨_, rfl⟩
  have hhandler : source.handler = handler := handler_of_source hsource
  have hguard : handler.config.replayProtection := rfl
  have hnew : ¬ SourceState.empty.guard.Remembers handler.config.replayTtl (clockAt 450).elapsed
      signature.digest := by
    rintro ⟨_, hmem, -⟩
    exact List.not_mem_nil hmem
  have hok := congrArg Handler.Receipt.result (Handler.receive_of_not_remembers verifier_handler
    (passes (by decide : Timely _ ⟨450, 0⟩ 450000)) hguard hnew)
  obtain ⟨e, hread, hmessage⟩ : ∃ e, Notification.reader.ofJson payload = .error e ∧
      e.message = "unknown variant `archive`" := ⟨_, rfl, rfl⟩
  have hfirst : (source.handleWebhook network (clockAt 450) delivery .empty).1 =
      .error (.notification "unknown variant `archive`") := by
    rw [handleWebhook_eq, hhandler, hok]
    dsimp only [Webhook.Event.ofSignature]
    rw [hread]
    exact congrArg Except.error (congrArg SyncError.notification hmessage)
  refine ⟨source, _, hsource, Prod.ext hfirst rfl, ?_, ?_⟩
  · rw [hhandler]
    decide
  · rw [handleWebhook_webhook_iff, hhandler, Handler.receive_replay_iff]
    refine ⟨_, _, _, verifier_handler, passes (by decide : Timely _ ⟨451, 0⟩ 450000), rfl, rfl, ?_⟩
    rw [handleWebhook_guard, hhandler, Handler.remembers_receive verifier_handler hguard (by decide)]
    exact .inr ⟨_, hok, rfl, by decide⟩

end Burnt

end ContentSync
