import ScientificProtocol.Js.Text
import ScientificProtocol.Sql.Table
import Mathlib.Algebra.Ring.Nat
import Mathlib.Data.List.Sort

/-!
# Subscriptions and deliveries

The two tables of `src/agents/webhooks.ts`. A delivery is enqueued once for a subscription and an
event. It is due while it is pending or to be retried, its subscription is active and its time has
come; every attempt at it ends with a statement that writes how it went over whatever is there
(`ScientificProtocol.Webhooks.WebhookDb.markDelivery`).

Points in time are numbers of milliseconds.
-/

namespace ScientificProtocol.Webhooks

open Sql

inductive AgentWebhookSubscriptionStatus where
  | active
  | inactive
  deriving DecidableEq, Repr

inductive AgentWebhookDeliveryStatus where
  | delivered
  | failed
  | pending
  | retrying
  deriving DecidableEq, Repr

/-- A row of `agent_webhook_subscriptions`. -/
structure SubscriptionRow where
  agentId : String
  eventTypes : List String
  status : AgentWebhookSubscriptionStatus
  cursorOccurredAt : Option ℕ
  cursorEventId : Option String
  failureReason : Option String
  deriving DecidableEq

/-- A row of `agent_webhook_deliveries`. -/
structure DeliveryRow where
  subscriptionId : ℕ
  eventId : String
  eventType : String
  occurredAt : ℕ
  payload : String
  status : AgentWebhookDeliveryStatus
  attempts : ℕ
  nextAttemptAt : ℕ
  responseStatus : Option ℕ
  responseBody : Option String
  deriving DecidableEq

structure WebhookDb where
  subscriptions : Serial SubscriptionRow
  deliveries : Serial DeliveryRow

/-- The store without subscriptions. -/
def WebhookDb.empty : WebhookDb := ⟨.empty, .empty⟩

/-! ### Subscriptions -/

/-- The argument of `createAgentWebhookSubscription`. -/
structure SubscriptionInput where
  agentId : String
  eventTypes : List String
  deriving DecidableEq

def createAgentWebhookSubscription (db : WebhookDb) (input : SubscriptionInput) : WebhookDb :=
  { db with subscriptions :=
      db.subscriptions.insert ⟨input.agentId, input.eventTypes, .active, none, none, none⟩ }

def deactivateAgentWebhookSubscription (db : WebhookDb) (subscriptionId : ℕ) : WebhookDb :=
  { db with subscriptions :=
      db.subscriptions.update subscriptionId fun row => { row with status := .inactive } }

def updateAgentWebhookSubscriptionCursor (db : WebhookDb) (subscriptionId cursorOccurredAt : ℕ)
    (cursorEventId : String) : WebhookDb :=
  { db with subscriptions := db.subscriptions.update subscriptionId fun row =>
      { row with cursorOccurredAt := some cursorOccurredAt, cursorEventId := some cursorEventId } }

def noteAgentWebhookSubscriptionDelivery (db : WebhookDb) (subscriptionId : ℕ)
    (failureReason : Option String) : WebhookDb :=
  { db with subscriptions :=
      db.subscriptions.update subscriptionId fun row => { row with failureReason } }

/-! ### Deliveries -/

/-- The argument of `enqueueAgentWebhookDelivery`. -/
structure DeliveryInput where
  subscriptionId : ℕ
  eventId : String
  eventType : String
  occurredAt : ℕ
  payload : String
  deriving DecidableEq

/-- What a delivery is for. There is a unique index on it. -/
def DeliveryRow.key (row : DeliveryRow) : ℕ × String := (row.subscriptionId, row.eventId)

/-- The row that is inserted. -/
def DeliveryInput.row (input : DeliveryInput) (now : ℕ) : DeliveryRow where
  subscriptionId := input.subscriptionId
  eventId := input.eventId
  eventType := input.eventType
  occurredAt := input.occurredAt
  payload := input.payload
  status := .pending
  attempts := 0
  nextAttemptAt := now
  responseStatus := none
  responseBody := none

/-- A delivery that is there already is left as it is. -/
def enqueueAgentWebhookDelivery (db : WebhookDb) (input : DeliveryInput) (now : ℕ) : WebhookDb :=
  match db.deliveries.findBy DeliveryRow.key (input.subscriptionId, input.eventId) with
  | some _ => db
  | none => { db with deliveries := db.deliveries.insert (input.row now) }

/-- `AgentWebhookDeliveryView`. -/
structure DeliveryView where
  deliveryId : ℕ
  row : DeliveryRow
  deriving DecidableEq

/-- The deliveries that can still be attempted. -/
def DeliveryRow.isOpen (row : DeliveryRow) : Bool :=
  row.status = .pending ∨ row.status = .retrying

/-- A subscription is there and active. -/
def WebhookDb.isActive (db : WebhookDb) (subscriptionId : ℕ) : Bool :=
  (db.subscriptions subscriptionId).any fun row => row.status = .active

/-- `next_attempt_at ASC, delivery_id ASC`. -/
def DueBefore (view view' : DeliveryView) : Prop :=
  view.row.nextAttemptAt < view'.row.nextAttemptAt ∨
    view.row.nextAttemptAt = view'.row.nextAttemptAt ∧ view.deliveryId ≤ view'.deliveryId

instance : DecidableRel DueBefore := fun view view' =>
  inferInstanceAs (Decidable (view.row.nextAttemptAt < view'.row.nextAttemptAt ∨
    view.row.nextAttemptAt = view'.row.nextAttemptAt ∧ view.deliveryId ≤ view'.deliveryId))

def readDueAgentWebhookDeliveries (db : WebhookDb) (limit : Option ℤ) (now : ℕ) :
    List DeliveryView :=
  let due := db.deliveries.select fun _ row =>
    db.isActive row.subscriptionId && row.isOpen && decide (row.nextAttemptAt ≤ now)
  ((due.map fun (deliveryId, row) => ⟨deliveryId, row⟩).insertionSort DueBefore).take
    (max 1 (min (limit.getD 20) 100)).toNat

def trimResponseBody (body : Option String) : Option String :=
  body.map fun body => if (Js.slice 4096 body) = body then body else Js.slice 4096 body ++ "…"

/-- What the statement after an attempt writes. -/
structure Mark where
  attempts : ℕ
  status : AgentWebhookDeliveryStatus
  responseStatus : Option ℕ
  responseBody : Option String
  /-- The other ones leave the time as it is. -/
  nextAttemptAt : Option ℕ
  deriving DecidableEq

/-- A row as it is marked. -/
def Mark.write (mark : Mark) (row : DeliveryRow) : DeliveryRow :=
  { row with
    attempts := mark.attempts
    status := mark.status
    responseStatus := mark.responseStatus
    responseBody := trimResponseBody mark.responseBody
    nextAttemptAt := mark.nextAttemptAt.getD row.nextAttemptAt }

/-- `UPDATE agent_webhook_deliveries SET ... WHERE delivery_id = $1`. -/
def WebhookDb.markDelivery (db : WebhookDb) (deliveryId : ℕ) (mark : Mark) : WebhookDb :=
  { db with deliveries := db.deliveries.update deliveryId mark.write }

/-- `markAgentWebhookDeliveryDelivered`. -/
def Mark.delivered (attempts : ℕ) (responseStatus : Option ℕ) (responseBody : Option String) :
    Mark :=
  ⟨attempts, .delivered, responseStatus, responseBody, none⟩

/-- `markAgentWebhookDeliveryRetrying`. -/
def Mark.retrying (attempts : ℕ) (responseStatus : Option ℕ) (responseBody : Option String)
    (nextAttemptAt : ℕ) : Mark :=
  ⟨attempts, .retrying, responseStatus, responseBody, some nextAttemptAt⟩

/-- `markAgentWebhookDeliveryFailed`. -/
def Mark.failed (attempts : ℕ) (responseStatus : Option ℕ) (responseBody : Option String) : Mark :=
  ⟨attempts, .failed, responseStatus, responseBody, none⟩

def computeAgentWebhookRetryDelayMs (attempts : ℕ) : ℕ :=
  min (60000 * 60) (15000 * 2 ^ (max 1 attempts - 1))

/-! ### What the statements do to a delivery -/

variable {db : WebhookDb} {deliveryId : ℕ} {row : DeliveryRow}

/-- **Who enqueues a delivery** leaves those that are there alone; the new one is pending and has not
been attempted. -/
theorem enqueue_eq_some {input : DeliveryInput} {now : ℕ}
    (h : (enqueueAgentWebhookDelivery db input now).deliveries deliveryId = some row) :
    db.deliveries deliveryId = some row ∨
      db.deliveries deliveryId = none ∧ row.status = .pending ∧ row.attempts = 0 ∧
        row.key = (input.subscriptionId, input.eventId) := by
  unfold enqueueAgentWebhookDelivery at h
  split at h
  next => exact .inl h
  next =>
    rcases Serial.insert_eq_some.mp h with ⟨rfl, rfl⟩ | hold
    · exact .inr ⟨db.deliveries.fresh _ (Nat.le_refl _), rfl, rfl, rfl⟩
    · exact .inl hold

theorem enqueue_of_some {input : DeliveryInput} {now : ℕ}
    (h : db.deliveries deliveryId = some row) :
    (enqueueAgentWebhookDelivery db input now).deliveries deliveryId = some row := by
  unfold enqueueAgentWebhookDelivery
  split
  · exact h
  · exact Serial.insert_of_some h

/-- **A mark writes over whatever is there.** -/
theorem markDelivery_self (mark : Mark) :
    (db.markDelivery deliveryId mark).deliveries deliveryId =
      (db.deliveries deliveryId).map mark.write :=
  Serial.update_self _ _ _

theorem markDelivery_of_ne {deliveryId' : ℕ} (h : deliveryId' ≠ deliveryId) (mark : Mark) :
    (db.markDelivery deliveryId mark).deliveries deliveryId' = db.deliveries deliveryId' :=
  Serial.update_of_ne _ h _

end ScientificProtocol.Webhooks
