import ScientificProtocol.AgentRequests.Envelope
import ScientificProtocol.Concurrency.Paging
import ScientificProtocol.Concurrency.Processes
import ScientificProtocol.Webhooks.Dispatch
import ScientificProtocol.Webhooks.RuntimeEvents

/-!
# Enqueuing the events of the feed

`syncAgentWebhookSubscriptionsFromRuntimeFeed` of `src/agents/webhooks.ts`, as a process. A run pages
through the active subscriptions. For each of them it pages through the feed of its agent, enqueues
the events after the cursor that it has read with the subscriptions, and moves the cursor to the last
one. Meanwhile other runs do the same, what the feed is made of changes, and so do the subscriptions.

An event is lost if the cursor moves past it while it is not among those that are read: it may come
with a time that is over, it may be pushed before the offset between two pages, and a page of the feed
may be shorter than the run takes a full page to be. If none of this happens then nothing is lost
(`ScientificProtocol.Webhooks.exactlyOnce_of_careful`); otherwise it may be
(`ScientificProtocol.Webhooks.late_event_lost`).
-/

namespace ScientificProtocol.Webhooks

open AgentRequests (Collator)
open Concurrency Concurrency.Paging Sql

/-- The store, and what the feed is made of. -/
structure FeedDb where
  webhooks : WebhookDb
  /-- When a subscription was created. -/
  createdAt : ℕ → ℕ
  rows : RuntimeRows

/-- `ORDER BY created_at DESC, subscription_id DESC`. -/
def CreatedAfter (createdAt : ℕ → ℕ) (left right : SubscriptionView) : Prop :=
  createdAt right.subscriptionId < createdAt left.subscriptionId ∨
    createdAt right.subscriptionId = createdAt left.subscriptionId ∧
      right.subscriptionId ≤ left.subscriptionId

instance (createdAt : ℕ → ℕ) : DecidableRel (CreatedAfter createdAt) := fun left right =>
  inferInstanceAs (Decidable (createdAt right.subscriptionId < createdAt left.subscriptionId ∨
    createdAt right.subscriptionId = createdAt left.subscriptionId ∧
      right.subscriptionId ≤ left.subscriptionId))

/-- What `readAgentWebhookSubscriptionsPage` takes its pages from, for `status: "active"`. -/
def FeedDb.activeSubscriptions (collator : Collator) (db : FeedDb) : List SubscriptionView :=
  ((db.webhooks.subscriptions.select fun _ row => row.status = .active).map
    fun (subscriptionId, row) => row.view collator subscriptionId).insertionSort
      (CreatedAfter db.createdAt)

/-- The events of an agent. -/
def FeedDb.feed (collator : Collator) (db : FeedDb) (agentId : String) (since : Option ℕ) :
    List AgentRuntimeEventView :=
  candidateEvents collator db.rows ⟨some agentId, none, none, none, since⟩

/-- Where a run is. -/
inductive SyncRun where
  | idle
  | counting (pageLimit : ℕ) (items : List SubscriptionView)
  | paging (pageLimit : ℕ) (items : List SubscriptionView) (total : ℕ)
  | collecting (pageLimit : ℕ) (subscription : SubscriptionView)
    (items : List AgentRuntimeEventView) (offset : ℕ) (rest : List SubscriptionView)
  /-- With the events that are still to be enqueued. -/
  | enqueuing (pageLimit : ℕ) (subscription : SubscriptionView)
    (freshEvents : List AgentRuntimeEventView) (latestEvent : AgentRuntimeEventView)
    (rest : List SubscriptionView)
  | returned
  | threw (error : String)
  | crashed
  deriving DecidableEq

/-- What happens in a run. -/
inductive SyncAction where
  | start (pageLimit : Option ℤ)
  | count
  | readPage
  | readEvents
  | enqueue (now : ℕ) (outcome : WriteOutcome)
  | moveCursor (outcome : WriteOutcome)
  /-- A query fails. -/
  | fail (error : String)
  | crash
  deriving DecidableEq

/-- What others do. -/
inductive FeedAction where
  | subscribe (input : SubscriptionInput) (now : ℕ)
  | deactivate (subscriptionId : ℕ)
  | note (subscriptionId : ℕ) (failureReason : Option String)
  | mark (deliveryId : ℕ) (marking : Mark)
  | ping (subscriptionId now : ℕ)
  /-- What the feed is made of becomes something else. -/
  | change (rows : RuntimeRows)
  deriving DecidableEq

/-- `enqueueAgentWebhookPingDelivery` -/
def enqueueAgentWebhookPingDelivery (db : WebhookDb) (subscriptionId now : ℕ) : WebhookDb :=
  enqueueAgentWebhookDelivery db
    ⟨subscriptionId, "webhook-ping:" ++ toString subscriptionId ++ ":" ++ toISOString now,
      "webhook.ping", now, "Webhook ping requested."⟩ now

def FeedAction.exec (collator : Collator) (db : FeedDb) : FeedAction → FeedDb
  | .subscribe input now =>
    { db with
      webhooks := createAgentWebhookSubscription db.webhooks
        { input with eventTypes := normalizeAgentWebhookEventTypes collator input.eventTypes }
      createdAt := Function.update db.createdAt db.webhooks.subscriptions.next now }
  | .deactivate subscriptionId =>
    { db with webhooks := deactivateAgentWebhookSubscription db.webhooks subscriptionId }
  | .note subscriptionId failureReason =>
    { db with
      webhooks := noteAgentWebhookSubscriptionDelivery db.webhooks subscriptionId failureReason }
  | .mark deliveryId marking =>
    { db with webhooks := db.webhooks.markDelivery deliveryId marking }
  | .ping subscriptionId now =>
    { db with webhooks := enqueueAgentWebhookPingDelivery db.webhooks subscriptionId now }
  | .change rows => { db with rows }

/-- The events a run asks for at once: 100, if it is not told. -/
def clampPageLimit (pageLimit : Option ℤ) : ℕ := (max 1 (min (pageLimit.getD 100) 500)).toNat

/-- The run turns to the next subscription. -/
def SyncRun.next (pageLimit : ℕ) : List SubscriptionView → SyncRun
  | [] => .returned
  | subscription :: rest => .collecting pageLimit subscription [] 0 rest

/-- The run has read the feed for a subscription. -/
def SyncRun.collected (collator : Collator) (pageLimit : ℕ) (subscription : SubscriptionView)
    (items : List AgentRuntimeEventView) (rest : List SubscriptionView) : SyncRun :=
  let freshEvents := filterFreshAgentRuntimeEvents collator items subscription
  match freshEvents.getLast? with
  | none => .next pageLimit rest
  | some latestEvent =>
    .enqueuing pageLimit subscription
      (freshEvents.filter fun event =>
        matchesAgentWebhookEventType collator subscription.eventTypes event.eventType)
      latestEvent rest

/-- What is enqueued for an event. -/
def AgentRuntimeEventView.delivery (event : AgentRuntimeEventView) (subscriptionId : ℕ) :
    DeliveryInput :=
  ⟨subscriptionId, event.eventId, event.eventType, event.occurredAt, event.payload⟩

def FeedDb.enqueue (db : FeedDb) (subscriptionId : ℕ) (event : AgentRuntimeEventView) (now : ℕ) :
    FeedDb :=
  { db with
    webhooks := enqueueAgentWebhookDelivery db.webhooks (event.delivery subscriptionId) now }

def FeedDb.moveCursor (db : FeedDb) (subscriptionId : ℕ) (event : AgentRuntimeEventView) :
    FeedDb :=
  { db with
    webhooks := updateAgentWebhookSubscriptionCursor db.webhooks subscriptionId event.occurredAt
      event.eventId }

/-- A statement of a run. -/
def syncWrite (db effect : FeedDb) (next : SyncRun) : WriteOutcome → FeedDb × SyncRun
  | .written => (effect, next)
  | .refused error => (db, .threw error)
  | .unanswered error => (effect, .threw error)

/-- The subscriptions a run reads next. -/
def FeedDb.subscriptionsPage (collator : Collator) (db : FeedDb) (offset : ℕ) :
    List SubscriptionView :=
  ((db.activeSubscriptions collator).drop offset).take 100

/-- The events a run reads next. -/
def FeedDb.eventsPage (collator : Collator) (db : FeedDb) (pageLimit : ℕ)
    (subscription : SubscriptionView) (offset : ℕ) : List AgentRuntimeEventView :=
  (buildAgentRuntimeEvents collator db.rows ⟨some subscription.agentId, none, some pageLimit,
    some offset, subscription.cursorOccurredAt⟩).items

/-- **One action of a run.** -/
def syncAct (collator : Collator) : SyncAction → FeedDb → SyncRun → Option (FeedDb × SyncRun)
  | .start pageLimit, db, .idle => some (db, .counting (clampPageLimit pageLimit) [])
  | .count, db, .counting pageLimit items =>
    some (db, .paging pageLimit items (db.activeSubscriptions collator).length)
  | .readPage, db, .paging pageLimit items total =>
    let page := db.subscriptionsPage collator items.length
    some (db, if page = [] ∨ total ≤ (items ++ page).length then .next pageLimit (items ++ page)
      else .counting pageLimit (items ++ page))
  | .readEvents, db, .collecting pageLimit subscription items offset rest =>
    let page := db.eventsPage collator pageLimit subscription offset
    some (db, if page.length < pageLimit then
        .collected collator pageLimit subscription (items ++ page) rest
      else .collecting pageLimit subscription (items ++ page) (offset + pageLimit) rest)
  | .enqueue now outcome, db, .enqueuing pageLimit subscription (event :: freshEvents) latestEvent
      rest =>
    some (syncWrite db (db.enqueue subscription.subscriptionId event now)
      (.enqueuing pageLimit subscription freshEvents latestEvent rest) outcome)
  | .moveCursor outcome, db, .enqueuing pageLimit subscription [] latestEvent rest =>
    some (syncWrite db (db.moveCursor subscription.subscriptionId latestEvent)
      (.next pageLimit rest) outcome)
  | .fail error, db, .counting _ _ => some (db, .threw error)
  | .fail error, db, .paging _ _ _ => some (db, .threw error)
  | .fail error, db, .collecting _ _ _ _ _ => some (db, .threw error)
  | .crash, _, .returned => none
  | .crash, _, .threw _ => none
  | .crash, _, .crashed => none
  | .crash, db, _ => some (db, .crashed)
  | _, _, _ => none

/-- **Runs**, while others do what they do. There are no subscriptions at first. -/
def syncs (collator : Collator) : Processes FeedDb SyncRun SyncAction FeedAction where
  genesis db := db.webhooks = .empty
  idle := .idle
  act := syncAct collator
  env b db db' := db' = b.exec collator db

section

variable {ι : Type}

/-- A moment of a history of runs. -/
abbrev SyncMoment (ι : Type) : Type := Config ι FeedDb SyncRun

/-- A step of such a history. -/
abbrev SyncEvent (ι : Type) : Type := Event ι FeedDb SyncRun SyncAction FeedAction

/-! ### What should hold -/

/-- There is a delivery of an event for a subscription. -/
def FeedDb.Delivered (db : FeedDb) (subscriptionId : ℕ) (eventId : String) : Prop :=
  ∃ deliveryId row, db.webhooks.deliveries deliveryId = some row ∧
    row.key = (subscriptionId, eventId)

/-- A subscription is active, and an event of its agent, of a type it asks for, is in the feed. -/
def FeedDb.Owes (collator : Collator) (db : FeedDb) (subscriptionId : ℕ) (eventId : String) :
    Prop :=
  ∃ subscription ∈ db.activeSubscriptions collator, subscription.subscriptionId = subscriptionId ∧
    ∃ event ∈ db.feed collator subscription.agentId none, event.eventId = eventId ∧
      matchesAgentWebhookEventType collator subscription.eventTypes event.eventType = true

/-- **No event is enqueued twice, and none is lost**: once a run has returned, there is a delivery for
what was owed all the time from its start on. -/
def ExactlyOnce (collator : Collator) (tr : List (SyncEvent ι)) (c : SyncMoment ι) : Prop :=
  c.shared.webhooks.deliveries.Unique DeliveryRow.key ∧
  ∀ tr₁ e tr₂ i subscriptionId eventId, tr = tr₁ ++ e :: tr₂ →
    (∃ pageLimit, e.label = .act i (.start pageLimit)) → c.process i = .returned →
    (∀ e' ∈ e :: tr₂, e'.before.process i ≠ .returned →
      e'.before.shared.Owes collator subscriptionId eventId) →
    c.shared.Delivered subscriptionId eventId

/-! ### When it holds -/

/-- The events that come into the feed for a subscription. -/
def SubscriptionView.newEvents (collator : Collator) (db db' : FeedDb)
    (subscription : SubscriptionView) : List AgentRuntimeEventView :=
  (db'.feed collator subscription.agentId none).filter fun event =>
    matchesAgentWebhookEventType collator subscription.eventTypes event.eventType ∧
      event.tuple ∉ (db.feed collator subscription.agentId none).map (·.tuple)

/-- **They come after its cursor.** -/
def SubscriptionView.InTime (collator : Collator) (db db' : FeedDb)
    (subscription : SubscriptionView) : Prop :=
  db'.webhooks.isActive subscription.subscriptionId = true →
    ∀ event ∈ subscription.newEvents collator db db',
      subscription.after collator event.tuple = true

/-- One event comes after another one. -/
def Later (collator : Collator) (event event' : AgentRuntimeEventView) : Prop :=
  0 < compareEventTuple collator event.tuple event'.tuple

instance (collator : Collator) : DecidableRel (Later collator) := fun event event' =>
  inferInstanceAs (Decidable (0 < compareEventTuple collator event.tuple event'.tuple))

/-- **A change does not make a run miss anything**: what it has yet to read is not pushed before the
offset, and what comes into the feed will be read, or comes after everything the run has read. -/
def SyncRun.KeepsUp (collator : Collator) (db db' : FeedDb) : SyncRun → Prop
  | .counting _ items =>
    Stays SubscriptionView.subscriptionId items items.length (db.activeSubscriptions collator)
      (db'.activeSubscriptions collator)
  | .paging _ items total =>
    Stays SubscriptionView.subscriptionId items items.length (db.activeSubscriptions collator)
        (db'.activeSubscriptions collator) ∧
      ((db'.activeSubscriptions collator).length ≤ (db.activeSubscriptions collator).length ∨
        (db'.activeSubscriptions collator).length ≤ max total (items.length + 100))
  | .collecting _ subscription items offset _ =>
    db'.webhooks.isActive subscription.subscriptionId = true →
      Stays AgentRuntimeEventView.eventId items offset
          (db.feed collator subscription.agentId subscription.cursorOccurredAt)
          (db'.feed collator subscription.agentId subscription.cursorOccurredAt) ∧
        ∀ event ∈ subscription.newEvents collator db db',
          Ahead AgentRuntimeEventView.eventId items offset
              (db'.feed collator subscription.agentId subscription.cursorOccurredAt)
              event.eventId ∨
            ∀ item ∈ items, Later collator event item
  | .enqueuing _ subscription freshEvents latestEvent _ =>
    db'.webhooks.isActive subscription.subscriptionId = true →
      ∀ event ∈ subscription.newEvents collator db db',
        event.eventId ∈ freshEvents.map (·.eventId) ∨ Later collator event latestEvent
  | _ => True

/-- The subscriptions a run has read and has not dealt with. -/
def SyncRun.subscriptions : SyncRun → List SubscriptionView
  | .counting _ items => items
  | .paging _ items _ => items
  | .collecting _ subscription _ _ rest => subscription :: rest
  | .enqueuing _ subscription _ _ rest => subscription :: rest
  | _ => []

/-- A run reads a page of a feed that tells its events apart, and if it asks for more than a page can
have then no more is left to be read. -/
def SyncAction.Careful (collator : Collator) (db : FeedDb) (run : SyncRun) : SyncAction → Prop
  | .readEvents =>
    match run with
    | .collecting pageLimit subscription _ offset _ =>
      let feed := db.feed collator subscription.agentId subscription.cursorOccurredAt
      (pageLimit ≤ 100 ∨ feed.length ≤ offset + 100) ∧
        ∀ event ∈ feed, ∀ event' ∈ feed, Later collator event event' ∨
          Later collator event' event ∨ event.tuple = event'.tuple
    | _ => True
  | _ => True

/-- **A step is careful** if a run that reads is, and if what changes besides is in time for the
subscriptions as they are stored and as runs have read them, and does not make a run miss
anything. -/
def SyncCareful (collator : Collator) (e : SyncEvent ι) : Prop :=
  match e.label with
  | .act i a => a.Careful collator e.before.shared (e.before.process i)
  | .env _ =>
    (∀ subscription ∈ e.before.shared.activeSubscriptions collator,
        subscription.InTime collator e.before.shared e.after.shared) ∧
      ∀ j, (∀ subscription ∈ (e.before.process j).subscriptions,
          subscription.InTime collator e.before.shared e.after.shared) ∧
        (e.before.process j).KeepsUp collator e.before.shared e.after.shared

end

/-! ### Subscriptions, events and deliveries -/

section

variable {collator : Collator} {db db' : FeedDb} {subscription : SubscriptionView}
  {event : AgentRuntimeEventView} {subscriptionId : ℕ} {eventId : String}

theorem isActive_iff : db.webhooks.isActive subscriptionId = true ↔
    ∃ row, db.webhooks.subscriptions subscriptionId = some row ∧ row.status = .active := by
  simp [WebhookDb.isActive, Option.any_eq_true]

theorem mem_activeSubscriptions : subscription ∈ db.activeSubscriptions collator ↔
    ∃ row, db.webhooks.subscriptions subscription.subscriptionId = some row ∧
      row.status = .active ∧ row.view collator subscription.subscriptionId = subscription := by
  rw [FeedDb.activeSubscriptions, List.mem_insertionSort, List.mem_map]
  constructor
  · rintro ⟨⟨subscriptionId, row⟩, hmem, rfl⟩
    obtain ⟨hrow, hactive⟩ := Serial.mem_select.mp hmem
    exact ⟨row, hrow, of_decide_eq_true hactive, rfl⟩
  · rintro ⟨row, hrow, hactive, hview⟩
    exact ⟨(subscription.subscriptionId, row),
      Serial.mem_select.mpr ⟨hrow, decide_eq_true hactive⟩, hview⟩

theorem mem_feed {agentId : String} {since : Option ℕ} :
    event ∈ db.feed collator agentId since ↔ event ∈ runtimeEvents collator db.rows ∧
      (agentId = "" ∨ agentId ∈ event.agentIds) ∧ ∀ t ∈ since, t ≤ event.occurredAt := by
  rw [FeedDb.feed, mem_candidateEvents]
  simp [RuntimeEventsQuery.matches]

/-- What comes after the cursor is among the events since then. -/
theorem mem_feed_since (h : event ∈ db.feed collator subscription.agentId none)
    (hafter : subscription.after collator event.tuple = true) :
    event ∈ db.feed collator subscription.agentId subscription.cursorOccurredAt := by
  obtain ⟨hevent, hagent, -⟩ := mem_feed.mp h
  exact mem_feed.mpr ⟨hevent, hagent, fun t ht => le_of_eventAfterCursor hafter ht⟩

theorem mem_feed_none {agentId : String} {since : Option ℕ}
    (h : event ∈ db.feed collator agentId since) : event ∈ db.feed collator agentId none := by
  obtain ⟨hevent, hagent, -⟩ := mem_feed.mp h
  exact mem_feed.mpr ⟨hevent, hagent, fun _ ht => absurd ht (Option.not_mem_none _)⟩

/-- An event of the feed has been there, or is new. -/
theorem old_or_new (h : event ∈ db'.feed collator subscription.agentId none)
    (hmatches : matchesAgentWebhookEventType collator subscription.eventTypes event.eventType =
      true) :
    (∃ old ∈ db.feed collator subscription.agentId none, old.tuple = event.tuple ∧
      matchesAgentWebhookEventType collator subscription.eventTypes old.eventType = true) ∨
    event ∈ subscription.newEvents collator db db' := by
  by_cases hold : event.tuple ∈ (db.feed collator subscription.agentId none).map (·.tuple)
  · obtain ⟨old, hmem, htuple⟩ := List.mem_map.mp hold
    refine .inl ⟨old, hmem, htuple, ?_⟩
    have htype := eventType_eq_of_eventId_eq (mem_feed.mp hmem).1 (mem_feed.mp h).1
      (congrArg EventTuple.eventId htuple)
    rwa [htype]
  · exact .inr (List.mem_filter.mpr ⟨h, decide_eq_true ⟨hmatches, hold⟩⟩)

/-- A subscription has been read as it is stored, but for its cursor. -/
def SubscriptionView.Agrees (collator : Collator) (db : FeedDb) (subscription : SubscriptionView) :
    Prop :=
  ∃ row, db.webhooks.subscriptions subscription.subscriptionId = some row ∧
    row.agentId = subscription.agentId ∧
    normalizeAgentWebhookEventTypes collator row.eventTypes = subscription.eventTypes

/-- **What is in the feed and does not come after the cursor has been enqueued.** -/
def SubscriptionView.Caught (collator : Collator) (db : FeedDb) (subscription : SubscriptionView) :
    Prop :=
  db.webhooks.isActive subscription.subscriptionId = true →
    ∀ event ∈ db.feed collator subscription.agentId none,
      matchesAgentWebhookEventType collator subscription.eventTypes event.eventType = true →
        subscription.after collator event.tuple = false →
          db.Delivered subscription.subscriptionId event.eventId

/-- Nothing is deleted, no subscription changes its agent or its types, and none becomes active
again. -/
structure FeedDb.Grows (db db' : FeedDb) : Prop where
  kept : ∀ {subscriptionId row}, db.webhooks.subscriptions subscriptionId = some row →
    ∃ row', db'.webhooks.subscriptions subscriptionId = some row' ∧ row'.agentId = row.agentId ∧
      row'.eventTypes = row.eventTypes ∧ (row'.status = .active → row.status = .active)
  delivered : ∀ {subscriptionId eventId}, db.Delivered subscriptionId eventId →
    db'.Delivered subscriptionId eventId

theorem agrees_of_active (h : subscription ∈ db.activeSubscriptions collator) :
    subscription.Agrees collator db := by
  obtain ⟨row, hrow, -, hview⟩ := mem_activeSubscriptions.mp h
  exact ⟨row, hrow, congrArg SubscriptionView.agentId hview,
    congrArg SubscriptionView.eventTypes hview⟩

theorem isActive_of_active (h : subscription ∈ db.activeSubscriptions collator) :
    db.webhooks.isActive subscription.subscriptionId = true := by
  obtain ⟨row, hrow, hactive, -⟩ := mem_activeSubscriptions.mp h
  exact isActive_iff.mpr ⟨row, hrow, hactive⟩

theorem SubscriptionView.Agrees.grows (h : subscription.Agrees collator db)
    (hgrows : db.Grows db') : subscription.Agrees collator db' := by
  obtain ⟨row, hrow, hagent, htypes⟩ := h
  obtain ⟨row', hrow', hagent', htypes', -⟩ := hgrows.kept hrow
  exact ⟨row', hrow', hagent'.trans hagent, by rw [htypes', htypes]⟩

/-- A subscription that is known and is active has been active. -/
theorem SubscriptionView.Agrees.active (h : subscription.Agrees collator db)
    (hgrows : db.Grows db')
    (hactive : db'.webhooks.isActive subscription.subscriptionId = true) :
    db.webhooks.isActive subscription.subscriptionId = true := by
  obtain ⟨row, hrow, -⟩ := h
  obtain ⟨row', hrow', -, -, hstatus⟩ := hgrows.kept hrow
  obtain ⟨row₁, hrow₁, hactive₁⟩ := isActive_iff.mp hactive
  obtain rfl := Option.some.inj (hrow'.symm.trans hrow₁)
  exact isActive_iff.mpr ⟨row, hrow, hstatus hactive₁⟩

/-- **Who keeps up has still caught everything.** -/
theorem SubscriptionView.Caught.grows (h : subscription.Caught collator db)
    (hagrees : subscription.Agrees collator db) (hgrows : db.Grows db')
    (htime : subscription.InTime collator db db') : subscription.Caught collator db' := by
  intro hactive event hevent hmatches hbefore
  rcases old_or_new hevent hmatches with ⟨old, hold, htuple, hmatches'⟩ | hnew
  · have hbefore' : subscription.after collator old.tuple = false := by rwa [htuple]
    have hdelivered := h (hagrees.active hgrows hactive) old hold hmatches' hbefore'
    rw [show old.eventId = event.eventId from congrArg EventTuple.eventId htuple] at hdelivered
    exact hgrows.delivered hdelivered
  · rw [htime hactive event hnew] at hbefore
    cases hbefore

/-! ### What a run knows -/

/-- **What a run has read of the feed**: it comes to whatever comes after the cursor, unless that
comes after everything it has read. -/
structure Gathered (collator : Collator) (db : FeedDb) (subscription : SubscriptionView)
    (items : List AgentRuntimeEventView) (offset : ℕ) : Prop where
  built : ∀ item ∈ items, ∃ rows, item ∈ runtimeEvents collator rows
  caught : db.webhooks.isActive subscription.subscriptionId = true → ∀ item ∈ items,
    matchesAgentWebhookEventType collator subscription.eventTypes item.eventType = true →
      subscription.after collator item.tuple = false →
        db.Delivered subscription.subscriptionId item.eventId
  ahead : db.webhooks.isActive subscription.subscriptionId = true →
    ∀ event ∈ db.feed collator subscription.agentId none,
      matchesAgentWebhookEventType collator subscription.eventTypes event.eventType = true →
        subscription.after collator event.tuple = true →
          Ahead AgentRuntimeEventView.eventId items offset
              (db.feed collator subscription.agentId subscription.cursorOccurredAt)
              event.eventId ∨
            ∀ item ∈ items, Later collator event item

/-- **What a run has still to enqueue**, before it moves the cursor. -/
def Sending (collator : Collator) (db : FeedDb) (subscription : SubscriptionView)
    (freshEvents : List AgentRuntimeEventView) (latestEvent : AgentRuntimeEventView) : Prop :=
  db.webhooks.isActive subscription.subscriptionId = true →
    ∀ event ∈ db.feed collator subscription.agentId none,
      matchesAgentWebhookEventType collator subscription.eventTypes event.eventType = true →
        db.Delivered subscription.subscriptionId event.eventId ∨
          event.eventId ∈ freshEvents.map (·.eventId) ∨ Later collator event latestEvent

/-- What holds of a run at all times. -/
def SyncRun.Sound (collator : Collator) (db : FeedDb) : SyncRun → Prop
  | .paging _ items total =>
    (db.activeSubscriptions collator).length ≤ max total (items.length + 100)
  | .collecting _ subscription items offset _ => Gathered collator db subscription items offset
  | .enqueuing _ subscription freshEvents latestEvent _ =>
    Sending collator db subscription freshEvents latestEvent
  | _ => True

theorem gathered_nil : Gathered collator db subscription [] 0 := by
  refine ⟨fun _ hitem => absurd hitem List.not_mem_nil,
    fun _ _ hitem => absurd hitem List.not_mem_nil, fun _ event hevent _ hafter => .inl ?_⟩
  exact Ahead.begin (List.mem_map_of_mem (mem_feed_since hevent hafter))

/-- **The feed changes between two pages.** -/
theorem Gathered.grows {items : List AgentRuntimeEventView} {offset : ℕ}
    (h : Gathered collator db subscription items offset)
    (hagrees : subscription.Agrees collator db) (hgrows : db.Grows db')
    (hkeeps : db'.webhooks.isActive subscription.subscriptionId = true →
      Stays AgentRuntimeEventView.eventId items offset
          (db.feed collator subscription.agentId subscription.cursorOccurredAt)
          (db'.feed collator subscription.agentId subscription.cursorOccurredAt) ∧
        ∀ event ∈ subscription.newEvents collator db db',
          Ahead AgentRuntimeEventView.eventId items offset
              (db'.feed collator subscription.agentId subscription.cursorOccurredAt)
              event.eventId ∨
            ∀ item ∈ items, Later collator event item) :
    Gathered collator db' subscription items offset := by
  refine ⟨h.built, fun hactive item hitem hmatches hbefore => ?_,
    fun hactive event hevent hmatches hafter => ?_⟩
  · exact hgrows.delivered
      (h.caught (hagrees.active hgrows hactive) item hitem hmatches hbefore)
  · obtain ⟨hstays, hnews⟩ := hkeeps hactive
    rcases old_or_new hevent hmatches with ⟨old, hold, htuple, hmatches'⟩ | hnew
    · have hid : old.eventId = event.eventId := congrArg EventTuple.eventId htuple
      have hafter' : subscription.after collator old.tuple = true := by rwa [htuple]
      rcases h.ahead (hagrees.active hgrows hactive) old hold hmatches' hafter' with hahead | hlater
      · rw [hid] at hahead
        exact .inl (hahead.stays hstays (List.mem_map_of_mem (mem_feed_since hevent hafter)))
      · refine .inr fun item hitem => ?_
        unfold Later
        rw [← htuple]
        exact hlater item hitem
    · exact hnews event hnew

/-- **A page of the feed is read.** -/
theorem Gathered.page {items : List AgentRuntimeEventView} {offset : ℕ}
    (h : Gathered collator db subscription items offset)
    (hcaught : subscription.Caught collator db)
    (hapart : ∀ event ∈ db.feed collator subscription.agentId subscription.cursorOccurredAt,
      ∀ event' ∈ db.feed collator subscription.agentId subscription.cursorOccurredAt,
        Later collator event event' ∨ Later collator event' event ∨ event.tuple = event'.tuple)
    (n : ℕ) :
    Gathered collator db subscription
      (items ++ ((db.feed collator subscription.agentId subscription.cursorOccurredAt).drop
        offset).take n) (offset + n) := by
  generalize hfeed : db.feed collator subscription.agentId subscription.cursorOccurredAt = feed
  have hpage : ∀ item ∈ (feed.drop offset).take n, item ∈ feed := fun item hitem =>
    List.mem_of_mem_drop (List.mem_of_mem_take hitem)
  refine ⟨fun item hitem => ?_, fun hactive item hitem hmatches hbefore => ?_,
    fun hactive event hevent hmatches hafter => ?_⟩
  · rcases List.mem_append.mp hitem with hitem | hitem
    · exact h.built item hitem
    · exact ⟨db.rows, (mem_feed.mp (hfeed ▸ hpage item hitem)).1⟩
  · rcases List.mem_append.mp hitem with hitem | hitem
    · exact h.caught hactive item hitem hmatches hbefore
    · exact hcaught hactive item (mem_feed_none (hfeed ▸ hpage item hitem)) hmatches hbefore
  · have hmem : event ∈ feed := hfeed ▸ mem_feed_since hevent hafter
    rw [hfeed]
    rcases h.ahead hactive event hevent hmatches hafter with hahead | hlater
    · rw [hfeed] at hahead
      exact .inl (hahead.page n)
    · rw [← List.take_append_drop offset feed] at hmem
      rcases List.mem_append.mp hmem with hover | hahead
      · -- It stands before the offset, so what is on the page comes after it in the feed.
        by_cases hsame : event.tuple ∈ ((feed.drop offset).take n).map (·.tuple)
        · obtain ⟨item, hitem, htuple⟩ := List.mem_map.mp hsame
          refine .inl (.inl ?_)
          rw [← show item.eventId = event.eventId from congrArg EventTuple.eventId htuple]
          exact List.mem_map_of_mem (List.mem_append_right _ hitem)
        · refine .inr fun item hitem => ?_
          rcases List.mem_append.mp hitem with hitem | hitem
          · exact hlater item hitem
          · have hsorted : feed.Pairwise (NewestFirst collator) := hfeed ▸ pairwise_candidateEvents
            rw [← List.take_append_drop offset feed, List.pairwise_append] at hsorted
            have hle : compareEventTuple collator item.tuple event.tuple ≤ 0 :=
              hsorted.2.2 event hover item (List.mem_of_mem_take hitem)
            rw [hfeed] at hapart
            rcases hapart event (List.mem_of_mem_take hover) item (hpage item hitem) with
              hafter' | hbefore | heq
            · exact hafter'
            · exact absurd hle (Int.not_le.mpr hbefore)
            · exact absurd (heq ▸ List.mem_map_of_mem hitem) hsame
      · refine .inl (Ahead.page (.inr ?_) n)
        exact List.mem_map_of_mem hahead

/-- **An event that has been read** has been enqueued, or will be. -/
theorem Gathered.read {items : List AgentRuntimeEventView} {offset : ℕ}
    (h : Gathered collator db subscription items offset)
    (hactive : db.webhooks.isActive subscription.subscriptionId = true)
    (hevent : event ∈ db.feed collator subscription.agentId none)
    (hmatches : matchesAgentWebhookEventType collator subscription.eventTypes event.eventType =
      true) (hread : event.eventId ∈ items.map (·.eventId)) :
    db.Delivered subscription.subscriptionId event.eventId ∨
      event.eventId ∈ ((filterFreshAgentRuntimeEvents collator items subscription).filter
        fun event => matchesAgentWebhookEventType collator subscription.eventTypes
          event.eventType).map (·.eventId) := by
  obtain ⟨item, hitem, hid⟩ := List.mem_map.mp hread
  -- Whatever has been read under its identifier is of its type.
  have hsame : ∀ item' ∈ items, item'.eventId = event.eventId →
      matchesAgentWebhookEventType collator subscription.eventTypes item'.eventType = true := by
    intro item' hitem' hid'
    obtain ⟨rows, hbuilt⟩ := h.built item' hitem'
    rw [eventType_eq_of_eventId_eq hbuilt (mem_feed.mp hevent).1 hid']
    exact hmatches
  by_cases hafter : subscription.after collator item.tuple = true
  · obtain ⟨fresh, hfresh, hfreshId⟩ := List.mem_map.mp
      (eventId_mem_filterFreshAgentRuntimeEvents hitem hafter)
    have hid' : fresh.eventId = event.eventId := hfreshId.trans hid
    refine .inr (List.mem_map.mpr ⟨fresh, List.mem_filter.mpr ⟨hfresh, ?_⟩, hid'⟩)
    exact hsame fresh (of_mem_filterFreshAgentRuntimeEvents hfresh).1 hid'
  · have hdelivered := h.caught hactive item hitem (hsame item hitem hid)
      (Bool.eq_false_of_not_eq_true hafter)
    rw [hid] at hdelivered
    exact .inl hdelivered

/-- **The feed has been read.** -/
theorem Gathered.sending {items : List AgentRuntimeEventView} {offset : ℕ}
    (h : Gathered collator db subscription items offset)
    (hcaught : subscription.Caught collator db)
    (hend : (db.feed collator subscription.agentId subscription.cursorOccurredAt).length ≤ offset)
    {latestEvent : AgentRuntimeEventView}
    (hlatest : latestEvent ∈ filterFreshAgentRuntimeEvents collator items subscription) :
    Sending collator db subscription
      ((filterFreshAgentRuntimeEvents collator items subscription).filter fun event =>
        matchesAgentWebhookEventType collator subscription.eventTypes event.eventType)
      latestEvent := by
  intro hactive event hevent hmatches
  by_cases hafter : subscription.after collator event.tuple = true
  · rcases h.ahead hactive event hevent hmatches hafter with hahead | hlater
    · exact (h.read hactive hevent hmatches (hahead.read hend)).imp_right .inl
    · exact .inr (.inr (hlater latestEvent (of_mem_filterFreshAgentRuntimeEvents hlatest).1))
  · exact .inl (hcaught hactive event hevent hmatches (Bool.eq_false_of_not_eq_true hafter))

theorem Sending.grows {freshEvents : List AgentRuntimeEventView}
    {latestEvent : AgentRuntimeEventView}
    (h : Sending collator db subscription freshEvents latestEvent)
    (hagrees : subscription.Agrees collator db) (hgrows : db.Grows db')
    (hkeeps : db'.webhooks.isActive subscription.subscriptionId = true →
      ∀ event ∈ subscription.newEvents collator db db',
        event.eventId ∈ freshEvents.map (·.eventId) ∨ Later collator event latestEvent) :
    Sending collator db' subscription freshEvents latestEvent := by
  intro hactive event hevent hmatches
  rcases old_or_new hevent hmatches with ⟨old, hold, htuple, hmatches'⟩ | hnew
  · have hid : old.eventId = event.eventId := congrArg EventTuple.eventId htuple
    rcases h (hagrees.active hgrows hactive) old hold hmatches' with hdelivered | hfresh | hlater
    · rw [hid] at hdelivered
      exact .inl (hgrows.delivered hdelivered)
    · rw [hid] at hfresh
      exact .inr (.inl hfresh)
    · unfold Later at hlater
      rw [htuple] at hlater
      exact .inr (.inr hlater)
  · exact .inr (hkeeps hactive event hnew)

/-- **A run stays sound while others act**, if it keeps up. -/
theorem SyncRun.Sound.grows {run : SyncRun} (h : run.Sound collator db)
    (hagrees : ∀ subscription ∈ run.subscriptions, subscription.Agrees collator db)
    (hgrows : db.Grows db') (hkeeps : run.KeepsUp collator db db') : run.Sound collator db' := by
  cases run with
  | idle | counting | returned | threw | crashed => exact True.intro
  | paging pageLimit items total =>
    obtain ⟨-, hlength⟩ := hkeeps
    exact hlength.elim (·.trans h) id
  | collecting pageLimit subscription items offset rest =>
    exact Gathered.grows h (hagrees subscription List.mem_cons_self) hgrows hkeeps
  | enqueuing pageLimit subscription freshEvents latestEvent rest =>
    exact Sending.grows h (hagrees subscription List.mem_cons_self) hgrows hkeeps

/-! ### What an action does -/

/-- What the feed is made of stays as it is, and so does which subscriptions are active. -/
structure FeedDb.Calm (collator : Collator) (db db' : FeedDb) : Prop where
  grows : db.Grows db'
  rows : db'.rows = db.rows
  active : (db'.activeSubscriptions collator).map (·.subscriptionId) =
    (db.activeSubscriptions collator).map (·.subscriptionId)

/-- A run that will do nothing more. -/
def SyncRun.Over : SyncRun → Prop
  | .threw _ | .crashed => True
  | _ => False

/-- **What an action of a run does.** -/
inductive SyncStep (collator : Collator) (db : FeedDb) :
    SyncAction → SyncRun → FeedDb → SyncRun → Prop
  | start {pageLimit : Option ℤ} :
    SyncStep collator db (.start pageLimit) .idle db (.counting (clampPageLimit pageLimit) [])
  | count {pageLimit : ℕ} {items : List SubscriptionView} :
    SyncStep collator db .count (.counting pageLimit items) db
      (.paging pageLimit items (db.activeSubscriptions collator).length)
  | more {pageLimit total : ℕ} {items : List SubscriptionView} :
    db.subscriptionsPage collator items.length ≠ [] →
    (items ++ db.subscriptionsPage collator items.length).length < total →
    SyncStep collator db .readPage (.paging pageLimit items total) db
      (.counting pageLimit (items ++ db.subscriptionsPage collator items.length))
  | listed {pageLimit total : ℕ} {items : List SubscriptionView} :
    db.subscriptionsPage collator items.length = [] ∨
      total ≤ (items ++ db.subscriptionsPage collator items.length).length →
    SyncStep collator db .readPage (.paging pageLimit items total) db
      (.next pageLimit (items ++ db.subscriptionsPage collator items.length))
  | page {pageLimit offset : ℕ} {subscription : SubscriptionView}
    {items : List AgentRuntimeEventView} {rest : List SubscriptionView} :
    pageLimit ≤ (db.eventsPage collator pageLimit subscription offset).length →
    SyncStep collator db .readEvents (.collecting pageLimit subscription items offset rest) db
      (.collecting pageLimit subscription
        (items ++ db.eventsPage collator pageLimit subscription offset) (offset + pageLimit) rest)
  | collected {pageLimit offset : ℕ} {subscription : SubscriptionView}
    {items : List AgentRuntimeEventView} {rest : List SubscriptionView} :
    (db.eventsPage collator pageLimit subscription offset).length < pageLimit →
    SyncStep collator db .readEvents (.collecting pageLimit subscription items offset rest) db
      (.collected collator pageLimit subscription
        (items ++ db.eventsPage collator pageLimit subscription offset) rest)
  | enqueue {pageLimit now : ℕ} {outcome : WriteOutcome} {subscription : SubscriptionView}
    {event latestEvent : AgentRuntimeEventView} {freshEvents : List AgentRuntimeEventView}
    {rest : List SubscriptionView} {run : SyncRun} :
    run = .enqueuing pageLimit subscription freshEvents latestEvent rest ∨ run.Over →
    SyncStep collator db (.enqueue now outcome)
      (.enqueuing pageLimit subscription (event :: freshEvents) latestEvent rest)
      (db.enqueue subscription.subscriptionId event now) run
  | moveCursor {pageLimit : ℕ} {outcome : WriteOutcome} {subscription : SubscriptionView}
    {latestEvent : AgentRuntimeEventView} {rest : List SubscriptionView} {run : SyncRun} :
    run = .next pageLimit rest ∨ run.Over →
    SyncStep collator db (.moveCursor outcome)
      (.enqueuing pageLimit subscription [] latestEvent rest)
      (db.moveCursor subscription.subscriptionId latestEvent) run
  | stop {a : SyncAction} {run run' : SyncRun} : run'.Over → SyncStep collator db a run db run'

theorem syncStep_of_act {a : SyncAction} {run run' : SyncRun}
    (h : syncAct collator a db run = some (db', run')) : SyncStep collator db a run db' run' := by
  unfold syncAct at h
  split at h
  case h_1 =>
    obtain ⟨rfl, rfl⟩ := Prod.mk.inj (Option.some.inj h)
    exact .start
  case h_2 =>
    obtain ⟨rfl, rfl⟩ := Prod.mk.inj (Option.some.inj h)
    exact .count
  case h_3 =>
    simp only [Option.some.injEq, Prod.mk.injEq] at h
    obtain ⟨rfl, rfl⟩ := h
    split
    next hlast => exact .listed hlast
    next hmore =>
      obtain ⟨hpage, htotal⟩ := not_or.mp hmore
      exact .more hpage (Nat.lt_of_not_le htotal)
  case h_4 =>
    simp only [Option.some.injEq, Prod.mk.injEq] at h
    obtain ⟨rfl, rfl⟩ := h
    split
    next hshort => exact .collected hshort
    next hfull => exact .page (Nat.le_of_not_lt hfull)
  case h_5 now outcome _ _ _ _ _ _ =>
    cases outcome <;> obtain ⟨rfl, rfl⟩ := Prod.mk.inj (Option.some.inj h)
    · exact .enqueue (.inl rfl)
    · exact .stop True.intro
    · exact .enqueue (.inr True.intro)
  case h_6 outcome _ _ _ _ =>
    cases outcome <;> obtain ⟨rfl, rfl⟩ := Prod.mk.inj (Option.some.inj h)
    · exact .moveCursor (.inl rfl)
    · exact .stop True.intro
    · exact .moveCursor (.inr True.intro)
  case h_10 => cases h
  case h_11 => cases h
  case h_12 => cases h
  case h_14 => cases h
  all_goals
    obtain ⟨rfl, rfl⟩ := Prod.mk.inj (Option.some.inj h)
    exact .stop True.intro

/-! ### What does not change the feed -/

theorem FeedDb.Grows.of_eq (hsubscriptions : db'.webhooks.subscriptions = db.webhooks.subscriptions)
    (hdelivered : ∀ {subscriptionId eventId}, db.Delivered subscriptionId eventId →
      db'.Delivered subscriptionId eventId) : db.Grows db' :=
  ⟨fun {_ row} hrow => ⟨row, hsubscriptions ▸ hrow, rfl, rfl, id⟩, hdelivered⟩

/-- The identifiers of the active subscriptions depend on nothing else. -/
theorem map_subscriptionId_activeSubscriptions :
    (db.activeSubscriptions collator).map (·.subscriptionId) =
      ((List.range db.webhooks.subscriptions.next).filter db.webhooks.isActive).insertionSort
        fun left right => db.createdAt right < db.createdAt left ∨
          db.createdAt right = db.createdAt left ∧ right ≤ left := by
  have hselect : (db.webhooks.subscriptions.select fun _ row => row.status = .active).map Prod.fst =
      (List.range db.webhooks.subscriptions.next).filter db.webhooks.isActive :=
    Serial.map_fst_select _
  rw [FeedDb.activeSubscriptions, List.map_insertionSort (CreatedAfter db.createdAt)
    (fun left right => db.createdAt right < db.createdAt left ∨
      db.createdAt right = db.createdAt left ∧ right ≤ left) _ _ fun _ _ _ _ => Iff.rfl,
    List.map_map, ← hselect]
  rfl

theorem FeedDb.Calm.of_isActive (hgrows : db.Grows db') (hrows : db'.rows = db.rows)
    (hcreated : db'.createdAt = db.createdAt)
    (hnext : db'.webhooks.subscriptions.next = db.webhooks.subscriptions.next)
    (hactive : db'.webhooks.isActive = db.webhooks.isActive) : db.Calm collator db' := by
  refine ⟨hgrows, hrows, ?_⟩
  simp only [map_subscriptionId_activeSubscriptions, hcreated, hnext, hactive]

theorem calm_refl : db.Calm collator db := .of_isActive (.of_eq rfl id) rfl rfl rfl rfl

theorem feed_of_rows (h : db'.rows = db.rows) (agentId : String) (since : Option ℕ) :
    db'.feed collator agentId since = db.feed collator agentId since := by
  unfold FeedDb.feed
  rw [h]

theorem newEvents_of_rows (h : db'.rows = db.rows) :
    subscription.newEvents collator db db' = [] := by
  rw [SubscriptionView.newEvents, feed_of_rows h, List.filter_eq_nil_iff]
  intro event hevent hnew
  exact (of_decide_eq_true hnew).2 (List.mem_map_of_mem hevent)

theorem inTime_of_rows (h : db'.rows = db.rows) : subscription.InTime collator db db' := by
  intro _ event hnew
  rw [newEvents_of_rows h] at hnew
  exact absurd hnew List.not_mem_nil

/-- **A run keeps up with what does not change the feed.** -/
theorem FeedDb.Calm.keepsUp (h : db.Calm collator db') (run : SyncRun) :
    run.KeepsUp collator db db' := by
  cases run with
  | idle | returned | threw | crashed => exact True.intro
  | counting pageLimit items => exact stays_of_map_eq h.active
  | paging pageLimit items total =>
    refine ⟨stays_of_map_eq h.active, .inl (Nat.le_of_eq ?_)⟩
    simpa using congrArg List.length h.active
  | collecting pageLimit subscription items offset rest =>
    intro _
    rw [newEvents_of_rows h.rows]
    exact ⟨stays_of_map_eq (by rw [feed_of_rows h.rows]),
      fun _ hnew => absurd hnew List.not_mem_nil⟩
  | enqueuing pageLimit subscription freshEvents latestEvent rest =>
    intro _
    rw [newEvents_of_rows h.rows]
    exact fun _ hnew => absurd hnew List.not_mem_nil

/-! ### Enqueuing an event -/

theorem subscriptions_enqueue (db : WebhookDb) (input : DeliveryInput) (now : ℕ) :
    (enqueueAgentWebhookDelivery db input now).subscriptions = db.subscriptions := by
  unfold enqueueAgentWebhookDelivery
  split <;> rfl

/-- **There is one delivery for an event.** -/
theorem unique_enqueue {db : WebhookDb} (h : db.deliveries.Unique DeliveryRow.key)
    (input : DeliveryInput) (now : ℕ) :
    (enqueueAgentWebhookDelivery db input now).deliveries.Unique DeliveryRow.key := by
  unfold enqueueAgentWebhookDelivery
  split
  next => exact h
  next hnone => exact h.insert hnone

theorem delivered_enqueueAgentWebhookDelivery (input : DeliveryInput) (now : ℕ)
    (h : db.Delivered subscriptionId eventId) :
    FeedDb.Delivered
      { db with webhooks := enqueueAgentWebhookDelivery db.webhooks input now }
      subscriptionId eventId := by
  obtain ⟨deliveryId, row, hrow, hkey⟩ := h
  exact ⟨deliveryId, row, enqueue_of_some hrow, hkey⟩

theorem delivered_enqueue (now : ℕ) :
    (db.enqueue subscriptionId event now).Delivered subscriptionId event.eventId := by
  unfold FeedDb.Delivered FeedDb.enqueue enqueueAgentWebhookDelivery
  split
  next found hfound =>
    obtain ⟨hrow, hkey⟩ := Serial.findBy_eq_some (k := found.1) (r := found.2) hfound
    exact ⟨found.1, found.2, hrow, hkey⟩
  next => exact ⟨_, _, Serial.insert_self _ _, rfl⟩

theorem calm_enqueue (now : ℕ) :
    db.Calm collator (db.enqueue subscriptionId event now) := by
  have hsubscriptions : (db.enqueue subscriptionId event now).webhooks.subscriptions =
      db.webhooks.subscriptions := subscriptions_enqueue _ _ _
  refine .of_isActive (.of_eq hsubscriptions (delivered_enqueueAgentWebhookDelivery _ _)) rfl rfl
    (congrArg Serial.next hsubscriptions) (funext fun id => ?_)
  rw [WebhookDb.isActive, hsubscriptions, WebhookDb.isActive]

theorem mem_activeSubscriptions_enqueue {now : ℕ} {id : ℕ}
    (h : subscription ∈ (db.enqueue id event now).activeSubscriptions collator) :
    subscription ∈ db.activeSubscriptions collator := by
  have hsubscriptions : (db.enqueue id event now).webhooks.subscriptions =
      db.webhooks.subscriptions := subscriptions_enqueue _ _ _
  obtain ⟨row, hrow, hactive, hview⟩ := mem_activeSubscriptions.mp h
  exact mem_activeSubscriptions.mpr ⟨row, hsubscriptions ▸ hrow, hactive, hview⟩

/-! ### Moving the cursor -/

theorem calm_moveCursor : db.Calm collator (db.moveCursor subscriptionId event) := by
  refine .of_isActive ⟨fun {k row} hrow => ?_, id⟩ rfl rfl rfl (funext fun k => ?_)
  · rcases eq_or_ne k subscriptionId with rfl | hne
    · have hself : (db.moveCursor k event).webhooks.subscriptions k = Option.map _ (some row) :=
        (Serial.update_self _ _ _).trans (congrArg (Option.map _) hrow)
      exact ⟨_, hself, rfl, rfl, id⟩
    · exact ⟨row, (Serial.update_of_ne _ hne _).trans hrow, rfl, rfl, id⟩
  · unfold WebhookDb.isActive FeedDb.moveCursor updateAgentWebhookSubscriptionCursor
    rcases eq_or_ne k subscriptionId with rfl | hne
    · rw [Serial.update_self, Option.any_map]
    · rw [Serial.update_of_ne _ hne]

/-- The subscription whose cursor is moved has been there, with another one. -/
theorem mem_activeSubscriptions_moveCursor {latestEvent : AgentRuntimeEventView}
    (h : subscription ∈ (db.moveCursor subscriptionId latestEvent).activeSubscriptions collator) :
    subscription ∈ db.activeSubscriptions collator ∨
      subscription.subscriptionId = subscriptionId ∧ ∃ row,
        db.webhooks.subscriptions subscriptionId = some row ∧ row.agentId = subscription.agentId ∧
        normalizeAgentWebhookEventTypes collator row.eventTypes = subscription.eventTypes ∧
        ∀ event, subscription.after collator event =
          decide (0 < compareEventTuple collator event latestEvent.tuple) := by
  obtain ⟨row', hrow', hactive, hview⟩ := mem_activeSubscriptions.mp h
  rcases eq_or_ne subscription.subscriptionId subscriptionId with rfl | hne
  · obtain ⟨row, hrow, rfl⟩ := Option.map_eq_some_iff.mp
      ((Serial.update_self _ _ _).symm.trans hrow')
    refine .inr ⟨rfl, row, hrow, congrArg SubscriptionView.agentId hview,
      congrArg SubscriptionView.eventTypes hview, fun event => ?_⟩
    rw [← hview]
    rfl
  · refine .inl (mem_activeSubscriptions.mpr ⟨row', ?_, hactive, hview⟩)
    exact (Serial.update_of_ne _ hne _).symm.trans hrow'

/-! ### A step keeps what is known -/

theorem eventsPage_eq (pageLimit offset : ℕ) :
    db.eventsPage collator pageLimit subscription offset =
      ((db.feed collator subscription.agentId subscription.cursorOccurredAt).drop offset).take
        (max 1 (min pageLimit 100)) := by
  have hoffset : (max 0 (offset : ℤ)).toNat = offset := by omega
  have hlimit : (max 1 (min (pageLimit : ℤ) 100)).toNat = max 1 (min pageLimit 100) := by omega
  change (List.drop (max 0 (offset : ℤ)).toNat _).take (max 1 (min (pageLimit : ℤ) 100)).toNat = _
  rw [hoffset, hlimit]
  rfl

theorem subscriptions_next (pageLimit : ℕ) (rest : List SubscriptionView) :
    (SyncRun.next pageLimit rest).subscriptions = rest := by
  cases rest <;> rfl

theorem sound_next (pageLimit : ℕ) (rest : List SubscriptionView) :
    (SyncRun.next pageLimit rest).Sound collator db := by
  cases rest with
  | nil => exact True.intro
  | cons => exact gathered_nil

theorem SyncRun.Over.subscriptions {run : SyncRun} (h : run.Over) : run.subscriptions = [] := by
  cases run <;> first | rfl | exact h.elim

theorem SyncRun.Over.sound {run : SyncRun} (h : run.Over) : run.Sound collator db := by
  cases run <;> first | exact True.intro | exact h.elim

theorem Gathered.mono {items : List AgentRuntimeEventView} {offset offset' : ℕ}
    (h : Gathered collator db subscription items offset') (hle : offset ≤ offset') :
    Gathered collator db subscription items offset := by
  refine ⟨h.built, h.caught, fun hactive event hevent hmatches hafter => ?_⟩
  exact (h.ahead hactive event hevent hmatches hafter).imp_left (·.mono hle)

/-- A page that is not full is the last one. -/
theorem length_feed_le {pageLimit offset : ℕ}
    (hshort : (db.eventsPage collator pageLimit subscription offset).length < pageLimit)
    (hlimit : pageLimit ≤ 100 ∨
      (db.feed collator subscription.agentId subscription.cursorOccurredAt).length ≤
        offset + 100) :
    (db.feed collator subscription.agentId subscription.cursorOccurredAt).length ≤
      offset + max 1 (min pageLimit 100) := by
  rw [eventsPage_eq, List.length_take, List.length_drop] at hshort
  omega

/-- **What an action keeps.** -/
theorem SyncStep.sound {a : SyncAction} {run run' : SyncRun}
    (h : SyncStep collator db a run db' run') (hcareful : a.Careful collator db run)
    (hunique : db.webhooks.deliveries.Unique DeliveryRow.key)
    (hactive : ∀ subscription ∈ db.activeSubscriptions collator, subscription.Caught collator db)
    (hheld : ∀ subscription ∈ run.subscriptions,
      subscription.Agrees collator db ∧ subscription.Caught collator db)
    (hsound : run.Sound collator db) :
    db.Calm collator db' ∧ db'.webhooks.deliveries.Unique DeliveryRow.key ∧
      (∀ subscription ∈ db'.activeSubscriptions collator, subscription.Caught collator db') ∧
      (∀ subscription ∈ run'.subscriptions,
        subscription ∈ run.subscriptions ∨ subscription ∈ db.activeSubscriptions collator) ∧
      run'.Sound collator db' := by
  have hpage : ∀ {items : List SubscriptionView},
      ∀ subscription ∈ items ++ db.subscriptionsPage collator items.length,
        subscription ∈ items ∨ subscription ∈ db.activeSubscriptions collator := by
    intro items subscription hmem
    refine (List.mem_append.mp hmem).imp_right fun hmem => ?_
    exact List.mem_of_mem_drop (List.mem_of_mem_take hmem)
  cases h with
  | start =>
    exact ⟨calm_refl, hunique, hactive, fun _ hmem => absurd hmem List.not_mem_nil, True.intro⟩
  | count => exact ⟨calm_refl, hunique, hactive, fun _ hmem => .inl hmem, Nat.le_max_left _ _⟩
  | more => exact ⟨calm_refl, hunique, hactive, hpage, True.intro⟩
  | listed =>
    refine ⟨calm_refl, hunique, hactive, ?_, sound_next _ _⟩
    rw [subscriptions_next]
    exact hpage
  | @page pageLimit offset subscription items rest hfull =>
    refine ⟨calm_refl, hunique, hactive, fun _ hmem => .inl hmem, ?_⟩
    have hgathered := Gathered.page hsound (hheld subscription List.mem_cons_self).2 hcareful.2
      (max 1 (min pageLimit 100))
    rw [← eventsPage_eq] at hgathered
    refine hgathered.mono (Nat.add_le_add_left ?_ _)
    rw [eventsPage_eq, List.length_take] at hfull
    omega
  | @collected pageLimit offset subscription items rest hshort =>
    have hcaught := (hheld subscription List.mem_cons_self).2
    have hgathered := Gathered.page hsound hcaught hcareful.2 (max 1 (min pageLimit 100))
    rw [← eventsPage_eq] at hgathered
    unfold SyncRun.collected
    simp only
    split
    next =>
      refine ⟨calm_refl, hunique, hactive, fun _ hmem => .inl ?_, sound_next _ _⟩
      rw [subscriptions_next] at hmem
      exact List.mem_cons_of_mem _ hmem
    next latestEvent hlatest =>
      refine ⟨calm_refl, hunique, hactive, fun _ hmem => .inl hmem, ?_⟩
      exact hgathered.sending hcaught (length_feed_le hshort hcareful.1)
        (List.mem_of_getLast? hlatest)
  | @enqueue pageLimit now outcome subscription event latestEvent freshEvents rest run hrun =>
    have hcalm : db.Calm collator (db.enqueue subscription.subscriptionId event now) :=
      calm_enqueue now
    refine ⟨hcalm, unique_enqueue hunique _ _, fun subscription' hmem => ?_, ?_⟩
    · have hmem' := mem_activeSubscriptions_enqueue hmem
      exact (hactive _ hmem').grows (agrees_of_active hmem') hcalm.grows
        (inTime_of_rows hcalm.rows)
    · rcases hrun with rfl | hover
      · refine ⟨fun _ hmem => .inl hmem, ?_⟩
        have hsending := Sending.grows hsound (hheld subscription List.mem_cons_self).1 hcalm.grows
          (hcalm.keepsUp (.enqueuing pageLimit subscription (event :: freshEvents) latestEvent rest))
        intro hactive' event' hevent' hmatches'
        rcases hsending hactive' event' hevent' hmatches' with hdelivered | hfresh | hlater
        · exact .inl hdelivered
        · rcases List.mem_cons.mp hfresh with heq | hfresh
          · rw [heq]
            exact .inl (delivered_enqueue now)
          · exact .inr (.inl hfresh)
        · exact .inr (.inr hlater)
      · rw [hover.subscriptions]
        exact ⟨fun _ hmem => absurd hmem List.not_mem_nil, hover.sound⟩
  | @moveCursor pageLimit outcome subscription latestEvent rest run hrun =>
    have hcalm : db.Calm collator (db.moveCursor subscription.subscriptionId latestEvent) :=
      calm_moveCursor
    refine ⟨hcalm, hunique, fun subscription' hmem => ?_, ?_⟩
    · rcases mem_activeSubscriptions_moveCursor hmem with
        hold | ⟨hid, row, hrow, hagent, htypes, hafter⟩
      · exact (hactive _ hold).grows (agrees_of_active hold) hcalm.grows (inTime_of_rows hcalm.rows)
      · -- Nothing is left to be enqueued of what does not come after the new cursor.
        obtain ⟨row', hrow', hagent', htypes'⟩ := (hheld subscription List.mem_cons_self).1
        obtain rfl := Option.some.inj (hrow'.symm.trans hrow)
        intro hactive' event hevent hmatches hbefore
        rw [hid] at hactive' ⊢
        rw [feed_of_rows hcalm.rows, ← hagent, hagent'] at hevent
        rw [← htypes, htypes'] at hmatches
        rw [hafter] at hbefore
        have hactive₁ := (hheld subscription List.mem_cons_self).1.active hcalm.grows hactive'
        rcases hsound hactive₁ event hevent hmatches with hdelivered | hnone | hlater
        · exact hcalm.grows.delivered hdelivered
        · exact absurd hnone List.not_mem_nil
        · exact absurd hlater (of_decide_eq_false hbefore)
    · rcases hrun with rfl | hover
      · refine ⟨fun _ hmem => .inl ?_, sound_next _ _⟩
        rw [subscriptions_next] at hmem
        exact List.mem_cons_of_mem _ hmem
      · rw [hover.subscriptions]
        exact ⟨fun _ hmem => absurd hmem List.not_mem_nil, hover.sound⟩
  | stop hover =>
    refine ⟨calm_refl, hunique, hactive, ?_, hover.sound⟩
    rw [hover.subscriptions]
    exact fun _ hmem => absurd hmem List.not_mem_nil

/-! ### What others do -/

theorem grows_exec (b : FeedAction) : db.Grows (b.exec collator db) := by
  have hupdate : ∀ (k : ℕ) (f : SubscriptionRow → SubscriptionRow),
      (∀ row, (f row).agentId = row.agentId ∧ (f row).eventTypes = row.eventTypes ∧
        ((f row).status = .active → row.status = .active)) → ∀ {id row},
      db.webhooks.subscriptions id = some row →
        ∃ row', db.webhooks.subscriptions.update k f id = some row' ∧
          row'.agentId = row.agentId ∧ row'.eventTypes = row.eventTypes ∧
          (row'.status = .active → row.status = .active) := by
    intro k f hf id row hrow
    rcases eq_or_ne id k with rfl | hne
    · refine ⟨f row, ?_, hf row⟩
      rw [Serial.update_self, hrow, Option.map_some]
    · exact ⟨row, (Serial.update_of_ne _ hne _).trans hrow, rfl, rfl, fun h => h⟩
  cases b with
  | subscribe input now =>
    exact ⟨fun {_ row} hrow => ⟨row, Serial.insert_of_some hrow, rfl, rfl, id⟩, id⟩
  | deactivate k =>
    exact ⟨hupdate k (fun row => { row with status := .inactive })
      fun _ => ⟨rfl, rfl, fun h => AgentWebhookSubscriptionStatus.noConfusion h⟩, id⟩
  | note k failureReason =>
    exact ⟨hupdate k (fun row => { row with failureReason }) fun _ => ⟨rfl, rfl, id⟩, id⟩
  | mark deliveryId marking =>
    refine .of_eq rfl fun {_ _} hdelivered => ?_
    obtain ⟨k, row, hrow, hkey⟩ := hdelivered
    rcases eq_or_ne k deliveryId with rfl | hne
    · exact ⟨k, marking.write row,
        (markDelivery_self marking).trans (congrArg (Option.map _) hrow), hkey⟩
    · exact ⟨k, row, (markDelivery_of_ne hne marking).trans hrow, hkey⟩
  | ping k now =>
    exact .of_eq (subscriptions_enqueue _ _ _) (delivered_enqueueAgentWebhookDelivery _ _)
  | change rows => exact .of_eq rfl id

theorem unique_exec (h : db.webhooks.deliveries.Unique DeliveryRow.key) (b : FeedAction) :
    (b.exec collator db).webhooks.deliveries.Unique DeliveryRow.key := by
  cases b with
  | subscribe | deactivate | note | change => exact h
  | mark deliveryId marking => exact h.update fun _ => rfl
  | ping k now => exact unique_enqueue h _ _

/-- Others do not move cursors. A new subscription has none. -/
theorem mem_activeSubscriptions_exec {b : FeedAction}
    (h : subscription ∈ (b.exec collator db).activeSubscriptions collator) :
    subscription ∈ db.activeSubscriptions collator ∨ subscription.cursorOccurredAt = none := by
  obtain ⟨row', hrow', hactive, hview⟩ := mem_activeSubscriptions.mp h
  have hupdate : ∀ (k : ℕ) (f : SubscriptionRow → SubscriptionRow),
      (∀ row, (f row).status = .active → row.status = .active ∧
        ∀ id, (f row).view collator id = row.view collator id) →
      db.webhooks.subscriptions.update k f subscription.subscriptionId = some row' →
        subscription ∈ db.activeSubscriptions collator := by
    intro k f hf hrow'
    rcases eq_or_ne subscription.subscriptionId k with rfl | hne
    · obtain ⟨row, hrow, rfl⟩ := Option.map_eq_some_iff.mp
        ((Serial.update_self _ _ _).symm.trans hrow')
      obtain ⟨hactive', hview'⟩ := hf row hactive
      exact mem_activeSubscriptions.mpr ⟨row, hrow, hactive', (hview' _).symm.trans hview⟩
    · exact mem_activeSubscriptions.mpr
        ⟨row', (Serial.update_of_ne _ hne _).symm.trans hrow', hactive, hview⟩
  cases b with
  | subscribe input now =>
    rcases Serial.insert_eq_some.mp hrow' with ⟨-, rfl⟩ | hold
    · exact .inr (congrArg SubscriptionView.cursorOccurredAt hview).symm
    · exact .inl (mem_activeSubscriptions.mpr ⟨row', hold, hactive, hview⟩)
  | deactivate k =>
    exact .inl (hupdate k (fun row => { row with status := .inactive })
      (fun _ hstatus => AgentWebhookSubscriptionStatus.noConfusion hstatus) hrow')
  | note k failureReason =>
    exact .inl (hupdate k (fun row => { row with failureReason })
      (fun _ hstatus => ⟨hstatus, fun _ => rfl⟩) hrow')
  | mark | change => exact .inl (mem_activeSubscriptions.mpr ⟨row', hrow', hactive, hview⟩)
  | ping k now =>
    have hsubscriptions := subscriptions_enqueue db.webhooks
      ⟨k, "webhook-ping:" ++ toString k ++ ":" ++ toISOString now, "webhook.ping", now,
        "Webhook ping requested."⟩ now
    exact .inl (mem_activeSubscriptions.mpr ⟨row', hsubscriptions ▸ hrow', hactive, hview⟩)

/-! ### What a run comes to -/

/-- **A run will enqueue what was owed when it started**, unless that has been done. -/
def SyncRun.Coming (collator : Collator) (db : FeedDb) (subscriptionId : ℕ) (eventId : String) :
    SyncRun → Prop
  | .counting _ items =>
    Ahead SubscriptionView.subscriptionId items items.length (db.activeSubscriptions collator)
      subscriptionId
  | .paging _ items _ =>
    Ahead SubscriptionView.subscriptionId items items.length (db.activeSubscriptions collator)
      subscriptionId
  | .collecting _ subscription items offset rest =>
    db.Delivered subscriptionId eventId ∨ subscriptionId ∈ rest.map (·.subscriptionId) ∨
      subscription.subscriptionId = subscriptionId ∧
        (offset = 0 ∨ Ahead AgentRuntimeEventView.eventId items offset
          (db.feed collator subscription.agentId subscription.cursorOccurredAt) eventId)
  | .enqueuing _ subscription freshEvents _ rest =>
    db.Delivered subscriptionId eventId ∨ subscriptionId ∈ rest.map (·.subscriptionId) ∨
      subscription.subscriptionId = subscriptionId ∧ eventId ∈ freshEvents.map (·.eventId)
  | .returned => db.Delivered subscriptionId eventId
  | _ => True

theorem coming_next {pageLimit : ℕ} {rest : List SubscriptionView}
    (h : db.Delivered subscriptionId eventId ∨ subscriptionId ∈ rest.map (·.subscriptionId)) :
    (SyncRun.next pageLimit rest).Coming collator db subscriptionId eventId := by
  cases rest with
  | nil => exact h.elim id fun hnone => absurd hnone List.not_mem_nil
  | cons subscription rest =>
    rcases h with hdelivered | hrest
    · exact .inl hdelivered
    · rcases List.mem_cons.mp hrest with heq | hrest
      · exact .inr (.inr ⟨heq.symm, .inl rfl⟩)
      · exact .inr (.inl hrest)

theorem SyncRun.Over.coming {run : SyncRun} (h : run.Over) :
    run.Coming collator db subscriptionId eventId := by
  cases run <;> first | exact True.intro | exact h.elim

/-- What is owed, as a run has read the subscription. -/
theorem FeedDb.Owes.wanted (h : db.Owes collator subscription.subscriptionId eventId)
    (hagrees : subscription.Agrees collator db) :
    db.webhooks.isActive subscription.subscriptionId = true ∧
      ∃ event ∈ db.feed collator subscription.agentId none, event.eventId = eventId ∧
        matchesAgentWebhookEventType collator subscription.eventTypes event.eventType = true := by
  obtain ⟨stored, hstored, hid, event, hevent, heq, hmatches⟩ := h
  obtain ⟨row, hrow, hagent, htypes⟩ := hagrees
  obtain ⟨row', hrow', hagent', htypes'⟩ := agrees_of_active hstored
  rw [hid] at hrow'
  obtain rfl := Option.some.inj (hrow.symm.trans hrow')
  refine ⟨hid ▸ isActive_of_active hstored, event, ?_, heq, ?_⟩
  · rwa [← hagent, hagent']
  · rwa [← htypes, htypes']

theorem FeedDb.Owes.active (h : db.Owes collator subscriptionId eventId) :
    subscriptionId ∈ (db.activeSubscriptions collator).map (·.subscriptionId) := by
  obtain ⟨stored, hstored, hid, -⟩ := h
  exact List.mem_map.mpr ⟨stored, hstored, hid⟩

/-- What is owed has been enqueued or is in the feed after the cursor. -/
theorem FeedDb.Owes.delivered_or (h : db.Owes collator subscription.subscriptionId eventId)
    (hagrees : subscription.Agrees collator db) (hcaught : subscription.Caught collator db) :
    db.Delivered subscription.subscriptionId eventId ∨
      eventId ∈ (db.feed collator subscription.agentId subscription.cursorOccurredAt).map
        (·.eventId) := by
  obtain ⟨hactive, event, hevent, rfl, hmatches⟩ := h.wanted hagrees
  by_cases hafter : subscription.after collator event.tuple = true
  · exact .inr (List.mem_map_of_mem (mem_feed_since hevent hafter))
  · exact .inl (hcaught hactive event hevent hmatches (Bool.eq_false_of_not_eq_true hafter))

/-- **It comes to it while others act**, if it keeps up. -/
theorem SyncRun.Coming.grows {run : SyncRun}
    (h : run.Coming collator db subscriptionId eventId) (hgrows : db.Grows db')
    (hkeeps : run.KeepsUp collator db db') (howes : db'.Owes collator subscriptionId eventId)
    (hheld : ∀ subscription ∈ run.subscriptions,
      subscription.Agrees collator db' ∧ subscription.Caught collator db') :
    run.Coming collator db' subscriptionId eventId := by
  cases run with
  | idle | threw | crashed => exact True.intro
  | returned => exact hgrows.delivered h
  | counting pageLimit items => exact Ahead.stays h hkeeps howes.active
  | paging pageLimit items total => exact Ahead.stays h hkeeps.1 howes.active
  | collecting pageLimit subscription items offset rest =>
    rcases h with hdelivered | hrest | ⟨rfl, hzero | hahead⟩
    · exact .inl (hgrows.delivered hdelivered)
    · exact .inr (.inl hrest)
    · exact .inr (.inr ⟨rfl, .inl hzero⟩)
    · obtain ⟨hagrees, hcaught⟩ := hheld subscription List.mem_cons_self
      rcases howes.delivered_or hagrees hcaught with hdelivered | hfeed
      · exact .inl hdelivered
      · exact .inr (.inr ⟨rfl, .inr (hahead.stays (hkeeps (howes.wanted hagrees).1).1 hfeed)⟩)
  | enqueuing pageLimit subscription freshEvents latestEvent rest =>
    exact h.imp_left hgrows.delivered

/-- **It comes to it by what it does itself.** -/
theorem SyncStep.coming {a : SyncAction} {run run' : SyncRun}
    (h : SyncStep collator db a run db' run') (hcareful : a.Careful collator db run)
    (hgrows : db.Grows db') (howes : db.Owes collator subscriptionId eventId)
    (hheld : ∀ subscription ∈ run.subscriptions,
      subscription.Agrees collator db ∧ subscription.Caught collator db)
    (hsound : run.Sound collator db) (hcoming : run.Coming collator db subscriptionId eventId) :
    run'.Coming collator db' subscriptionId eventId := by
  cases h with
  | start => exact Ahead.begin howes.active
  | count => exact hcoming
  | more =>
    refine (Ahead.page hcoming 100).mono ?_
    rw [List.length_append, FeedDb.subscriptionsPage, List.length_take]
    omega
  | @listed pageLimit total items hlast =>
    refine coming_next (.inr ((Ahead.page hcoming 100).read ?_))
    rcases hlast with hnil | htotal
    · have hlength := congrArg List.length hnil
      rw [FeedDb.subscriptionsPage, List.length_take, List.length_drop, List.length_nil] at hlength
      omega
    · have hbound : (db.activeSubscriptions collator).length ≤ max total (items.length + 100) :=
        hsound
      rw [List.length_append, FeedDb.subscriptionsPage, List.length_take] at htotal
      omega
  | @page pageLimit offset subscription items rest hfull =>
    rcases hcoming with hdelivered | hrest | ⟨rfl, hahead⟩
    · exact .inl hdelivered
    · exact .inr (.inl hrest)
    · obtain ⟨hagrees, hcaught⟩ := hheld subscription List.mem_cons_self
      rcases howes.delivered_or hagrees hcaught with hdelivered | hfeed
      · exact .inl hdelivered
      · refine .inr (.inr ⟨rfl, .inr ?_⟩)
        have hahead' : Ahead AgentRuntimeEventView.eventId items offset
            (db.feed collator subscription.agentId subscription.cursorOccurredAt) eventId :=
          hahead.elim (fun hzero => hzero ▸ .inr hfeed) id
        have hpage := hahead'.page (max 1 (min pageLimit 100))
        rw [← eventsPage_eq] at hpage
        refine hpage.mono (Nat.add_le_add_left ?_ _)
        rw [eventsPage_eq, List.length_take] at hfull
        omega
  | @collected pageLimit offset subscription items rest hshort =>
    obtain ⟨hagrees, hcaught⟩ := hheld subscription List.mem_cons_self
    have hgathered := Gathered.page hsound hcaught hcareful.2 (max 1 (min pageLimit 100))
    rw [← eventsPage_eq] at hgathered
    -- Whatever the run has come to by now is among what it enqueues.
    have hread : db.Delivered subscriptionId eventId ∨
        subscriptionId ∈ rest.map (·.subscriptionId) ∨
        subscription.subscriptionId = subscriptionId ∧ eventId ∈
          ((filterFreshAgentRuntimeEvents collator
            (items ++ db.eventsPage collator pageLimit subscription offset) subscription).filter
            fun event => matchesAgentWebhookEventType collator subscription.eventTypes
              event.eventType).map (·.eventId) := by
      rcases hcoming with hdelivered | hrest | ⟨rfl, hahead⟩
      · exact .inl hdelivered
      · exact .inr (.inl hrest)
      · rcases howes.delivered_or hagrees hcaught with hdelivered | hfeed
        · exact .inl hdelivered
        · have hahead' : Ahead AgentRuntimeEventView.eventId items offset
              (db.feed collator subscription.agentId subscription.cursorOccurredAt) eventId :=
            hahead.elim (fun hzero => hzero ▸ .inr hfeed) id
          have hitems := (hahead'.page (max 1 (min pageLimit 100))).read
            (length_feed_le hshort hcareful.1)
          rw [← eventsPage_eq] at hitems
          obtain ⟨hactive, event, hevent, rfl, hmatches⟩ := howes.wanted hagrees
          exact (hgathered.read hactive hevent hmatches hitems).imp_right fun hfresh =>
            .inr ⟨rfl, hfresh⟩
    unfold SyncRun.collected
    simp only
    split
    next hnone =>
      refine coming_next ?_
      rw [List.getLast?_eq_none_iff.mp hnone] at hread
      exact hread.imp_right fun h => h.elim id fun h => absurd h.2 List.not_mem_nil
    next => exact hread
  | @enqueue pageLimit now outcome subscription event latestEvent freshEvents rest run hrun =>
    rcases hrun with rfl | hover
    · rcases hcoming with hdelivered | hrest | ⟨rfl, hfresh⟩
      · exact .inl (hgrows.delivered hdelivered)
      · exact .inr (.inl hrest)
      · rcases List.mem_cons.mp hfresh with rfl | hfresh
        · exact .inl (delivered_enqueue now)
        · exact .inr (.inr ⟨rfl, hfresh⟩)
    · exact hover.coming
  | @moveCursor pageLimit outcome subscription latestEvent rest run hrun =>
    rcases hrun with rfl | hover
    · rcases hcoming with hdelivered | hrest | ⟨-, hnone⟩
      · exact coming_next (.inl (hgrows.delivered hdelivered))
      · exact coming_next (.inr hrest)
      · exact absurd hnone List.not_mem_nil
    · exact hover.coming
  | stop hover => exact hover.coming

end

/-! ### Careful histories -/

section

variable {ι : Type} {collator : Collator}

/-- **What holds at all times.** -/
structure SyncInv (collator : Collator) (c : SyncMoment ι) : Prop where
  unique : c.shared.webhooks.deliveries.Unique DeliveryRow.key
  active : ∀ subscription ∈ c.shared.activeSubscriptions collator,
    subscription.Caught collator c.shared
  held : ∀ i, ∀ subscription ∈ (c.process i).subscriptions,
    subscription.Agrees collator c.shared ∧ subscription.Caught collator c.shared
  sound : ∀ i, (c.process i).Sound collator c.shared

variable [DecidableEq ι] {tr : List (SyncEvent ι)} {c c' : SyncMoment ι}
  {l : Label ι SyncAction FeedAction}

/-- Every run keeps up with a careful step. -/
theorem keepsUp_of_step (h : SyncInv collator c) (hstep : (syncs collator).Step c l c')
    (hcareful : SyncCareful collator ⟨c, l, c'⟩) :
    c.shared.Grows c'.shared ∧ ∀ j, (c.process j).KeepsUp collator c.shared c'.shared := by
  cases hstep with
  | @act i a db run hact =>
    have hcalm := ((syncStep_of_act hact).sound hcareful h.unique h.active (h.held i)
      (h.sound i)).1
    exact ⟨hcalm.grows, fun j => hcalm.keepsUp _⟩
  | @env b db henv =>
    obtain rfl : db = b.exec collator c.shared := henv
    exact ⟨grows_exec b, fun j => (hcareful.2 j).2⟩

theorem SyncInv.step (h : SyncInv collator c) (hstep : (syncs collator).Step c l c')
    (hcareful : SyncCareful collator ⟨c, l, c'⟩) : SyncInv collator c' := by
  cases hstep with
  | @act i a db run hact =>
    obtain ⟨hcalm, hunique, hactive, hsubscriptions, hsound⟩ :=
      (syncStep_of_act hact).sound hcareful h.unique h.active (h.held i) (h.sound i)
    have hkept : ∀ {subscription : SubscriptionView}, subscription.Agrees collator c.shared →
        subscription.Caught collator c.shared →
          subscription.Agrees collator db ∧ subscription.Caught collator db :=
      fun hagrees hcaught => ⟨hagrees.grows hcalm.grows,
        hcaught.grows hagrees hcalm.grows (inTime_of_rows hcalm.rows)⟩
    refine ⟨hunique, hactive, fun j => ?_, fun j => ?_⟩
    · rcases eq_or_ne j i with rfl | hne
      · simp only [Function.update_self]
        intro subscription hmem
        rcases hsubscriptions subscription hmem with hold | hnew
        · exact hkept (h.held j _ hold).1 (h.held j _ hold).2
        · exact hkept (agrees_of_active hnew) (h.active _ hnew)
      · simp only [Function.update_of_ne hne]
        exact fun subscription hmem => hkept (h.held j _ hmem).1 (h.held j _ hmem).2
    · rcases eq_or_ne j i with rfl | hne
      · simpa only [Function.update_self] using hsound
      · simp only [Function.update_of_ne hne]
        exact (h.sound j).grows (fun _ hmem => (h.held j _ hmem).1) hcalm.grows (hcalm.keepsUp _)
  | @env b db henv =>
    obtain rfl : db = b.exec collator c.shared := henv
    have hgrows : c.shared.Grows (b.exec collator c.shared) := grows_exec b
    refine ⟨unique_exec h.unique b, fun subscription hmem => ?_, fun j subscription hmem => ?_,
      fun j => ?_⟩
    · rcases mem_activeSubscriptions_exec hmem with hold | hnone
      · exact (h.active _ hold).grows (agrees_of_active hold) hgrows (hcareful.1 _ hold)
      · intro _ event _ _ hbefore
        rw [SubscriptionView.after, hnone] at hbefore
        cases hbefore
    · obtain ⟨hagrees, hcaught⟩ := h.held j subscription hmem
      exact ⟨hagrees.grows hgrows,
        hcaught.grows hagrees hgrows ((hcareful.2 j).1 subscription hmem)⟩
    · exact (h.sound j).grows (fun _ hmem => (h.held j _ hmem).1) hgrows (hcareful.2 j).2

theorem syncInv_run (h : (syncs collator).Run tr c)
    (hcareful : ∀ e ∈ tr, SyncCareful collator e) : SyncInv collator c := by
  refine h.history (Q := fun tr c => (∀ e ∈ tr, SyncCareful collator e) → SyncInv collator c)
    ?_ ?_ hcareful
  · rintro db hempty -
    have hwebhooks : db.webhooks = .empty := hempty
    refine ⟨?_, fun subscription hmem => ?_, fun _ _ hmem => absurd hmem List.not_mem_nil,
      fun _ => True.intro⟩
    · rw [hwebhooks]
      exact Serial.unique_empty
    · obtain ⟨row, hrow, -⟩ := mem_activeSubscriptions.mp hmem
      rw [hwebhooks] at hrow
      cases hrow
  · intro tr c l c' _ ih hstep hcareful
    exact (ih fun e he => hcareful e (List.mem_append_left _ he)).step hstep
      (hcareful _ (List.mem_append_right _ (List.mem_singleton_self _)))

/-- What a step makes of what a run comes to. -/
theorem coming_step {subscriptionId : ℕ} {eventId : String} {i : ι} (h : SyncInv collator c)
    (h' : SyncInv collator c') (hstep : (syncs collator).Step c l c')
    (hcareful : SyncCareful collator ⟨c, l, c'⟩)
    (howes : c.process i ≠ .returned → c.shared.Owes collator subscriptionId eventId)
    (howes' : c'.process i ≠ .returned → c'.shared.Owes collator subscriptionId eventId)
    (hcoming : (c.process i).Coming collator c.shared subscriptionId eventId) :
    (c'.process i).Coming collator c'.shared subscriptionId eventId := by
  obtain ⟨hgrows, hkeeps⟩ := keepsUp_of_step h hstep hcareful
  have hothers : c'.process i = c.process i →
      (c'.process i).Coming collator c'.shared subscriptionId eventId := by
    intro hsame
    by_cases hreturned : c.process i = .returned
    · rw [hreturned] at hcoming
      rw [hsame, hreturned]
      exact hgrows.delivered hcoming
    · have hheld := h'.held i
      rw [hsame] at hheld howes' ⊢
      exact hcoming.grows hgrows (hkeeps i) (howes' hreturned) hheld
  cases hstep with
  | @act j a db run hact =>
    rcases eq_or_ne i j with rfl | hne
    · have hrunning : c.process i ≠ .returned := by
        intro hreturned
        change syncAct collator a c.shared (c.process i) = some (db, run) at hact
        rw [hreturned] at hact
        cases a <;> cases hact
      simp only [Function.update_self]
      exact (syncStep_of_act hact).coming hcareful hgrows (howes hrunning) (h.held i) (h.sound i)
        hcoming
    · exact hothers (Function.update_of_ne hne _ _)
  | env henv => exact hothers rfl

/-- **Nothing is lost in a careful history.** -/
theorem exactlyOnce_of_careful (h : (syncs collator).Run tr c)
    (hcareful : ∀ e ∈ tr, SyncCareful collator e) : ExactlyOnce collator tr c := by
  refine ⟨(syncInv_run h hcareful).unique, ?_⟩
  intro tr₁ e tr₂ i subscriptionId eventId htr hstart hreturned howed
  -- From the start of the run on it comes to what is owed all the time.
  have hcoming : ∀ {tr : List (SyncEvent ι)} {c : SyncMoment ι}, (syncs collator).Run tr c →
      (∀ e ∈ tr, SyncCareful collator e) → ∀ tr₂, tr = tr₁ ++ e :: tr₂ →
      (∀ e' ∈ e :: tr₂, e'.before.process i ≠ .returned →
        e'.before.shared.Owes collator subscriptionId eventId) →
      (c.process i ≠ .returned → c.shared.Owes collator subscriptionId eventId) →
      (c.process i).Coming collator c.shared subscriptionId eventId := by
    intro tr c hrun
    induction hrun with
    | genesis _ =>
      intro _ tr₂ htr
      simp at htr
    | @snoc tr c c' l hrun hstep ih =>
      intro hcareful tr₂ htr howed howes'
      have hpast : ∀ e ∈ tr, SyncCareful collator e :=
        fun e he => hcareful e (List.mem_append_left _ he)
      have hlast : SyncCareful collator ⟨c, l, c'⟩ :=
        hcareful _ (List.mem_append_right _ (List.mem_singleton_self _))
      have hinv := syncInv_run hrun hpast
      have hinv' := hinv.step hstep hlast
      rcases List.eq_nil_or_concat tr₂ with rfl | ⟨tr₂, e', rfl⟩
      · obtain ⟨rfl, he⟩ := List.append_inj' htr rfl
        obtain rfl := (List.cons.inj he).1
        obtain ⟨pageLimit, hlabel⟩ := hstart
        obtain rfl : l = .act i (.start pageLimit) := hlabel
        have howes := howed _ List.mem_cons_self
        refine coming_step hinv hinv' hstep hlast howes howes' ?_
        cases hstep with
        | @act _ _ db run hact =>
          change syncAct collator (.start pageLimit) c.shared (c.process i) = some (db, run) at hact
          cases hprocess : c.process i <;> rw [hprocess] at hact <;> first
            | exact True.intro
            | cases hact
      · rw [List.concat_eq_append, ← List.cons_append, ← List.append_assoc] at htr
        obtain ⟨htr', he⟩ := List.append_inj' htr rfl
        obtain rfl := (List.cons.inj he).1
        rw [List.concat_eq_append, ← List.cons_append] at howed
        have hbefore := howed _ (List.mem_append_right _ (List.mem_singleton_self _))
        exact coming_step hinv hinv' hstep hlast hbefore howes'
          (ih hpast tr₂ htr' (fun e' he' => howed e' (List.mem_append_left _ he')) hbefore)
  have hdelivered := hcoming h hcareful tr₂ htr howed fun hrunning => absurd hreturned hrunning
  rw [hreturned] at hdelivered
  exact hdelivered

/-! ### Two histories -/

instance (subscription : SubscriptionView) (db db' : FeedDb) :
    Decidable (subscription.InTime collator db db') :=
  inferInstanceAs (Decidable (db'.webhooks.isActive subscription.subscriptionId = true →
    ∀ event ∈ subscription.newEvents collator db db',
      subscription.after collator event.tuple = true))

instance (run : SyncRun) (db db' : FeedDb) : Decidable (run.KeepsUp collator db db') := by
  cases run <;> unfold SyncRun.KeepsUp <;> infer_instance

instance (a : SyncAction) (db : FeedDb) (run : SyncRun) :
    Decidable (a.Careful collator db run) := by
  cases a <;> cases run <;> unfold SyncAction.Careful <;> infer_instance

instance [Fintype ι] (e : SyncEvent ι) : Decidable (SyncCareful collator e) := by
  obtain ⟨c, l, c'⟩ := e
  cases l <;> unfold SyncCareful <;> infer_instance

instance (db : FeedDb) (subscriptionId : ℕ) (eventId : String) :
    Decidable (db.Owes collator subscriptionId eventId) :=
  inferInstanceAs (Decidable (∃ subscription ∈ db.activeSubscriptions collator,
    subscription.subscriptionId = subscriptionId ∧
      ∃ event ∈ db.feed collator subscription.agentId none, event.eventId = eventId ∧
        matchesAgentWebhookEventType collator subscription.eventTypes event.eventType = true))

/-- The history that actions of runs and of others give, if each of them is possible. -/
def replay (collator : Collator) : List (ι × SyncAction ⊕ FeedAction) → SyncMoment ι →
    Option (List (SyncEvent ι) × SyncMoment ι)
  | [], c => some ([], c)
  | .inl (i, a) :: moves, c =>
    (syncAct collator a c.shared (c.process i)).bind fun (db, run) =>
      let c' : SyncMoment ι := ⟨db, Function.update c.process i run⟩
      (replay collator moves c').map fun (tr, last) => (⟨c, .act i a, c'⟩ :: tr, last)
  | .inr b :: moves, c =>
    let c' : SyncMoment ι := ⟨b.exec collator c.shared, c.process⟩
    (replay collator moves c').map fun (tr, last) => (⟨c, .env b, c'⟩ :: tr, last)

theorem run_append_replay {moves : List (ι × SyncAction ⊕ FeedAction)} {tr' : List (SyncEvent ι)}
    (h : (syncs collator).Run tr c) (hreplay : replay collator moves c = some (tr', c')) :
    (syncs collator).Run (tr ++ tr') c' := by
  induction moves generalizing tr tr' c with
  | nil =>
    obtain ⟨rfl, rfl⟩ := Prod.mk.inj (Option.some.inj hreplay)
    rwa [List.append_nil]
  | cons move moves ih =>
    rcases move with ⟨i, a⟩ | b
    · obtain ⟨⟨db, run⟩, hact, hmap⟩ := Option.bind_eq_some_iff.mp hreplay
      obtain ⟨⟨tr₂, last⟩, hrest, heq⟩ := Option.map_eq_some_iff.mp hmap
      obtain ⟨rfl, rfl⟩ := Prod.mk.inj heq
      rw [List.append_cons]
      exact ih (h.snoc (.act hact)) hrest
    · obtain ⟨⟨tr₂, last⟩, hrest, heq⟩ := Option.map_eq_some_iff.mp hreplay
      obtain ⟨rfl, rfl⟩ := Prod.mk.inj heq
      rw [List.append_cons]
      exact ih (h.snoc (.env rfl)) hrest

/-- The history some actions give on an empty store, with texts in the order of their code units. -/
def playSyncs (moves : List (ι × SyncAction ⊕ FeedAction)) :
    Option (List (SyncEvent ι) × SyncMoment ι) :=
  replay AgentRequests.codeUnitOrder moves ⟨⟨.empty, fun _ => 0, .empty⟩, fun _ => .idle⟩

theorem run_playSyncs {moves : List (ι × SyncAction ⊕ FeedAction)}
    (h : (playSyncs moves).isSome = true) :
    (syncs AgentRequests.codeUnitOrder).Run ((playSyncs moves).get h).1
      ((playSyncs moves).get h).2 := by
  have hgenesis : (syncs AgentRequests.codeUnitOrder).genesis
      ⟨WebhookDb.empty, fun _ => 0, RuntimeRows.empty⟩ := rfl
  have hrun := run_append_replay (Processes.Run.genesis hgenesis) (Option.some_get h).symm
  rwa [List.nil_append] at hrun

/-- A request of the agent 7 that has been accepted. -/
def acceptedRequest (requestId : String) (updatedAt : ℕ) : AgentRequestView :=
  ⟨requestId, some "7", none, .accepted, updatedAt, "{}"⟩

/-- A run with one event to enqueue. -/
def syncOne : List SyncAction :=
  [.start none, .count, .readPage, .readEvents, .enqueue 2000 .written, .moveCursor .written]

/-- There are two events of one time when the first run starts, and a third one has come when
there is a second run. -/
def twoSyncs : List (Bool × SyncAction ⊕ FeedAction) :=
  [.inr (.subscribe ⟨"7", []⟩ 0),
      .inr (.change ⟨[], [acceptedRequest "a" 1000, acceptedRequest "b" 1000], []⟩)] ++
    ([.start none, .count, .readPage, .readEvents, .enqueue 2000 .written,
      .enqueue 2000 .written, .moveCursor .written].map fun a => .inl (false, a)) ++
    [.inr (.change ⟨[], [acceptedRequest "a" 1000, acceptedRequest "b" 1000,
      acceptedRequest "c" 1500], []⟩)] ++
    syncOne.map fun a => .inl (true, a)

theorem twoSyncs_possible : (playSyncs twoSyncs).isSome = true := by
  decide +kernel

theorem exactlyOnce_twoSyncs : ExactlyOnce AgentRequests.codeUnitOrder
    ((playSyncs twoSyncs).get twoSyncs_possible).1
    ((playSyncs twoSyncs).get twoSyncs_possible).2 :=
  exactlyOnce_of_careful (run_playSyncs twoSyncs_possible) (by decide +kernel)

/-- After a first run an event comes with a time that is over, and then there is a second run. -/
def lateEvent : List (Bool × SyncAction ⊕ FeedAction) :=
  [.inr (.subscribe ⟨"7", []⟩ 0), .inr (.change ⟨[], [acceptedRequest "a" 1000], []⟩)] ++
    (syncOne.map fun a => .inl (false, a)) ++
    [.inr (.change ⟨[], [acceptedRequest "a" 1000, acceptedRequest "b" 500], []⟩),
      .inl (true, .start none), .inl (true, .count), .inl (true, .readPage),
      .inl (true, .readEvents)]

theorem lateEvent_possible : (playSyncs lateEvent).isSome = true := by
  decide

/-- **The second run does not enqueue it.** -/
theorem late_event_lost : ¬∀ (tr : List (SyncEvent Bool)) c,
    (syncs AgentRequests.codeUnitOrder).Run tr c →
      ExactlyOnce AgentRequests.codeUnitOrder tr c := by
  intro h
  have honce := (h _ _ (run_playSyncs lateEvent_possible)).2
  generalize hplayed : (playSyncs lateEvent).get lateEvent_possible = played at honce
  have hlength : played.1.length = 13 := by
    rw [← hplayed]
    decide
  have htr : played.1 = played.1.take 9 ++ played.1[9] :: played.1.drop 10 := by
    rw [List.getElem_cons_drop, List.take_append_drop]
  have hstart : ∃ pageLimit, played.1[9].label = .act true (.start pageLimit) := by
    subst hplayed
    exact ⟨none, rfl⟩
  have hreturned : played.2.process true = .returned := by
    rw [← hplayed]
    decide
  have howed : ∀ e' ∈ played.1[9] :: played.1.drop 10, e'.before.process true ≠ .returned →
      e'.before.shared.Owes AgentRequests.codeUnitOrder 1 "agent-request:b:accepted" := by
    rw [List.getElem_cons_drop, ← hplayed]
    decide
  obtain ⟨deliveryId, row, hrow, hkey⟩ := honce _ _ _ _ _ _ htr hstart hreturned howed
  have hnone : played.2.shared.webhooks.deliveries.findBy DeliveryRow.key
      (1, "agent-request:b:accepted") = none := by
    rw [← hplayed]
    decide
  exact Serial.findBy_eq_none.mp hnone deliveryId row hrow hkey

end

end ScientificProtocol.Webhooks
