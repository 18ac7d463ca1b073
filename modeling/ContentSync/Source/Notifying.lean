import ContentSync.Content.Following
import ContentSync.Source.Basic

/-!
# Notifications and deliveries

A delivery that is accepted carries a notification, and a notification is followed with reads from
the content side.  A read that fails counts as a read without result: it ends the reads, but not the
operation.

* `Source.applyNotification` — follows a notification.
* `Source.handleWebhook` — checks a delivery and follows what it carries.
-/

namespace ContentSync

namespace Source

/-- One read of an item. -/
def readOnce (source : Source) (net : Http.Network) (schema : Schema) (r : Reference) :
    StateM ApiLog Read := do
  match ← (source.api.fetchItem net schema r.typename r.id).run with
  | .ok (some copy) => return .item copy
  | .ok none => return .missing
  | .error _ => return .failed

/-- Writes down what following a notification gave. -/
def record (followed : Followed) (s : SourceState) : SourceState :=
  { s with
    cache := followed.cache
    log := { s.log with warnings := s.log.warnings ++ followed.warnings }
    waits := s.waits ++ followed.waits }

/-- Follows a notification with a schema. -/
def followWith (source : Source) (net : Http.Network) (schema : Schema) (n : Notification) :
    SourceAction (Option Update) := fun s =>
  let (result, log) :=
    n.follow source.policy schema (source.readOnce net schema n.reference) s.cache s.log
  let s := { s with log := log }
  match result with
  | .ok followed => (.ok followed.update, record followed s)
  | .error e => (.error e, s)

/-- **Follows a notification.**  The answer is the update that was written, if any.  A removal needs
no schema. -/
def applyNotification (source : Source) (net : Http.Network) (n : Notification) :
    SourceAction (Option Update) :=
  match n.change with
  | .delete => source.followWith net .empty n
  | _ => do
      let schema ← source.schema net
      source.followWith net schema n

/-- Checks a delivery, which may change what is remembered of signatures. -/
def acceptDelivery (source : Source) (clock : Webhook.Clock) (d : Webhook.Delivery) :
    SourceAction Webhook.Event := fun s =>
  let receipt := source.handler.receive s.guard clock d
  (receipt.result.mapError .webhook,
    { s with
      guard := receipt.guard
      log := { s.log with warnings := s.log.warnings ++ receipt.warnings } })

/-- The notification in the payload of an event. -/
def readNotification (payload : Json) : Except SyncError Notification :=
  match Notification.reader.ofJson payload with
  | .ok n => .ok n
  | .error e => .error (.notification e.message)

/-- **Checks a delivery and follows the notification it carries.** -/
def handleWebhook (source : Source) (net : Http.Network) (clock : Webhook.Clock)
    (d : Webhook.Delivery) : SourceAction (Option Update) := do
  let event ← source.acceptDelivery clock d
  let n ← readNotification event.payload
  source.applyNotification net n

end Source

end ContentSync
