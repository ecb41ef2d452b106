import ScientificProtocol.AgentRequests.Serialization
import ScientificProtocol.Webhooks.Store

/-!
# The feed of runtime events

`src/agents/runtime-events.ts`, and what `src/agents/webhooks.ts` makes of an event. The feed is not
stored: whoever asks for it gets an event for each work item, request and checkpoint publication as
they are now, the newest first, and of these the page that is asked for. A page has 100 events at
most, whatever is asked for.

An event names what it is about and how that stands, so its identifier determines its type
(`ScientificProtocol.Webhooks.eventType_eq_of_eventId_eq`).

Points in time are numbers of milliseconds; `localeCompare` is a parameter.
-/

namespace ScientificProtocol.Webhooks

open Js
open AgentRequests (Collator)

/-! ### What the feed is made of -/

inductive AgentRequestStatus where
  | accepted
  | rejected
  deriving DecidableEq, Repr

inductive CheckpointPublicationStatus where
  | failed
  | prepared
  | submitted
  deriving DecidableEq, Repr

def AgentRequestStatus.text : AgentRequestStatus → String
  | .accepted => "accepted"
  | .rejected => "rejected"

def CheckpointPublicationStatus.text : CheckpointPublicationStatus → String
  | .failed => "failed"
  | .prepared => "prepared"
  | .submitted => "submitted"

/-- `ClaimWorkItemView`, with what an event says of it besides. -/
structure ClaimWorkItemView where
  itemId : String
  claimId : Option String
  activeRunAgentId : Option String
  runAgentIds : List (Option String)
  canClaim : Bool
  createdAt : ℕ
  updatedAt : Option ℕ
  payload : String
  deriving DecidableEq

/-- `AgentRequestView`, with the claim its payload names. -/
structure AgentRequestView where
  requestId : String
  agentId : Option String
  claimId : Option String
  status : AgentRequestStatus
  updatedAt : ℕ
  payload : String
  deriving DecidableEq

/-- `CheckpointPublicationView`. -/
structure CheckpointPublicationView where
  publicationId : String
  subjectAgentId : Option String
  status : CheckpointPublicationStatus
  publishedAt : Option ℕ
  updatedAt : ℕ
  payload : String
  deriving DecidableEq

/-- What the feed is made of. -/
structure RuntimeRows where
  workItems : List ClaimWorkItemView
  requests : List AgentRequestView
  checkpointPublications : List CheckpointPublicationView
  deriving DecidableEq

def RuntimeRows.empty : RuntimeRows := ⟨[], [], []⟩

/-! ### Types of events -/

def agentRuntimeEventTypes : List String :=
  ["agent_request.accepted", "agent_request.rejected", "checkpoint_publication.failed",
    "checkpoint_publication.prepared", "checkpoint_publication.submitted", "work_item.claimable",
    "work_item.updated"]

def agentWebhookEventTypes : List String := agentRuntimeEventTypes ++ ["webhook.ping"]

/-- `left.localeCompare(right)` -/
def localeCompare (collator : Collator) (left right : String) : ℤ :=
  collator.localeCompare (units (AgentRequests.points left)) (units (AgentRequests.points right))

/-- `[...new Set(values)].sort((left, right) => left.localeCompare(right))` -/
def uniqueSorted (collator : Collator) (values : List String) : List String :=
  values.eraseDups.insertionSort fun left right => localeCompare collator left right ≤ 0

def normalizeAgentWebhookEventTypes (collator : Collator) (eventTypes : List String) :
    List String :=
  uniqueSorted collator
    (if eventTypes = [] then agentRuntimeEventTypes
      else eventTypes.filter (· ∈ agentWebhookEventTypes))

def matchesAgentWebhookEventType (collator : Collator) (eventTypes : List String)
    (eventType : String) : Bool :=
  eventType ∈ normalizeAgentWebhookEventTypes collator eventTypes

/-! ### Events -/

/-- `new Date(ms).toISOString()`, up to the year 9999. -/
def toISOString (ms : ℕ) : String :=
  let pad (width n : ℕ) : String :=
    String.ofList (List.replicate (width - (toString n).length) '0') ++ toString n
  -- The days from the first of March of the year 0 on, in cycles of 400 years.
  let days := ms / 86400000 + 719468
  let day := days % 146097
  let year := (day - day / 1460 + day / 36524 - day / 146096) / 365
  let day := day - (365 * year + year / 4 - year / 100)
  let month := (5 * day + 2) / 153
  let january := if month < 10 then 0 else 1
  pad 4 (year + days / 146097 * 400 + january) ++ "-" ++
    pad 2 (if month < 10 then month + 3 else month - 9) ++ "-" ++
    pad 2 (day - (153 * month + 2) / 5 + 1) ++ "T" ++ pad 2 (ms / 3600000 % 24) ++ ":" ++
    pad 2 (ms / 60000 % 60) ++ ":" ++ pad 2 (ms / 1000 % 60) ++ "." ++ pad 3 (ms % 1000) ++ "Z"

/-- `AgentRuntimeEventView`. -/
structure AgentRuntimeEventView where
  agentIds : List String
  claimId : Option String
  eventId : String
  eventType : String
  occurredAt : ℕ
  payload : String
  deriving DecidableEq

def uniqueAgentIds (collator : Collator) (values : List (Option String)) : List String :=
  uniqueSorted collator ((values.filterMap id).filter fun value => value ≠ "" ∧ value ≠ "0")

def buildWorkItemEvent (collator : Collator) (item : ClaimWorkItemView) : AgentRuntimeEventView :=
  let occurredAt := item.updatedAt.getD item.createdAt
  let eventType := if item.canClaim then "work_item.claimable" else "work_item.updated"
  { agentIds := uniqueAgentIds collator (item.activeRunAgentId :: item.runAgentIds)
    claimId := item.claimId
    eventId := "work-item:" ++ item.itemId ++ ":" ++ toISOString occurredAt ++ ":" ++ eventType
    eventType
    occurredAt
    payload := item.payload }

def buildAgentRequestEvent (collator : Collator) (request : AgentRequestView) :
    AgentRuntimeEventView where
  agentIds := uniqueAgentIds collator [request.agentId]
  claimId := request.claimId.filter (· ≠ "")
  eventId := "agent-request:" ++ request.requestId ++ ":" ++ request.status.text
  eventType := "agent_request." ++ request.status.text
  occurredAt := request.updatedAt
  payload := request.payload

/-- Only a publication about an agent is an event. -/
def buildCheckpointPublicationEvent (collator : Collator)
    (publication : CheckpointPublicationView) : Option AgentRuntimeEventView :=
  let agentIds := uniqueAgentIds collator [publication.subjectAgentId]
  if agentIds = [] then none
  else some
    { agentIds
      claimId := none
      eventId := "checkpoint-publication:" ++ publication.publicationId ++ ":" ++
        publication.status.text
      eventType := "checkpoint_publication." ++ publication.status.text
      occurredAt := publication.publishedAt.getD publication.updatedAt
      payload := publication.payload }

/-! ### The order of the events -/

/-- What `compareEventTuple` compares. -/
structure EventTuple where
  occurredAt : ℕ
  eventId : String
  deriving DecidableEq

def AgentRuntimeEventView.tuple (event : AgentRuntimeEventView) : EventTuple :=
  ⟨event.occurredAt, event.eventId⟩

def compareEventTuple (collator : Collator) (left right : EventTuple) : ℤ :=
  if left.occurredAt = right.occurredAt then localeCompare collator left.eventId right.eventId
  else if left.occurredAt < right.occurredAt then -1 else 1

def eventAfterCursor (collator : Collator) (event : EventTuple) (cursorOccurredAt : Option ℕ)
    (cursorEventId : Option String) : Bool :=
  match cursorOccurredAt with
  | none => true
  | some occurredAt => 0 < compareEventTuple collator event ⟨occurredAt, cursorEventId.getD ""⟩

/-- The order of the feed: `localeCompare` the other way round, of the times and then of the
identifiers. -/
def NewestFirst (collator : Collator) (left right : AgentRuntimeEventView) : Prop :=
  compareEventTuple collator right.tuple left.tuple ≤ 0

instance (collator : Collator) : DecidableRel (NewestFirst collator) := fun left right =>
  inferInstanceAs (Decidable (compareEventTuple collator right.tuple left.tuple ≤ 0))

/-! ### The feed -/

/-- What is asked for. -/
structure RuntimeEventsQuery where
  agentId : Option String
  claimId : Option String
  limit : Option ℤ
  offset : Option ℤ
  since : Option ℕ
  deriving DecidableEq

structure AgentRuntimeEventPage where
  items : List AgentRuntimeEventView
  limit : ℕ
  offset : ℕ
  total : ℕ
  deriving DecidableEq

def RuntimeEventsQuery.matches (query : RuntimeEventsQuery) (event : AgentRuntimeEventView) :
    Bool :=
  (query.claimId.getD "" = "" ∨ event.claimId = query.claimId) ∧
    (query.agentId.getD "" = "" ∨ query.agentId.getD "" ∈ event.agentIds) ∧
    ∀ since ∈ query.since, since ≤ event.occurredAt

/-- The events, in no order. -/
def runtimeEvents (collator : Collator) (rows : RuntimeRows) : List AgentRuntimeEventView :=
  rows.workItems.map (buildWorkItemEvent collator) ++
    rows.requests.map (buildAgentRequestEvent collator) ++
    rows.checkpointPublications.filterMap (buildCheckpointPublicationEvent collator)

def candidateEvents (collator : Collator) (rows : RuntimeRows) (query : RuntimeEventsQuery) :
    List AgentRuntimeEventView :=
  ((runtimeEvents collator rows).filter query.matches).insertionSort (NewestFirst collator)

def buildAgentRuntimeEvents (collator : Collator) (rows : RuntimeRows)
    (query : RuntimeEventsQuery) : AgentRuntimeEventPage :=
  let limit := (max 1 (min (query.limit.getD 20) 100)).toNat
  let offset := (max 0 (query.offset.getD 0)).toNat
  let candidates := candidateEvents collator rows query
  ⟨(candidates.drop offset).take limit, limit, offset, candidates.length⟩

/-! ### The events for a subscription -/

/-- `AgentWebhookSubscriptionView`, as far as the events for it depend on it. -/
structure SubscriptionView where
  subscriptionId : ℕ
  agentId : String
  eventTypes : List String
  cursorOccurredAt : Option ℕ
  cursorEventId : Option String
  deriving DecidableEq

/-- `toAgentWebhookSubscriptionView` -/
def SubscriptionRow.view (collator : Collator) (subscriptionId : ℕ) (row : SubscriptionRow) :
    SubscriptionView where
  subscriptionId
  agentId := row.agentId
  eventTypes := normalizeAgentWebhookEventTypes collator row.eventTypes
  cursorOccurredAt := row.cursorOccurredAt
  cursorEventId := row.cursorEventId

/-- An event comes after the cursor of a subscription. -/
def SubscriptionView.after (collator : Collator) (subscription : SubscriptionView)
    (event : EventTuple) : Bool :=
  eventAfterCursor collator event subscription.cursorOccurredAt subscription.cursorEventId

/-- The one that is read last stands for all with its identifier. -/
def filterFreshAgentRuntimeEvents (collator : Collator) (events : List AgentRuntimeEventView)
    (subscription : SubscriptionView) : List AgentRuntimeEventView :=
  let fresh := events.filter fun event => subscription.after collator event.tuple
  ((AgentRequests.setProperties (fresh.map fun event => (event.eventId, event))).map
    Prod.snd).insertionSort fun left right =>
      compareEventTuple collator left.tuple right.tuple ≤ 0

/-! ### How events compare -/

section

variable {collator : Collator} {x y z : EventTuple}

theorem compareEventTuple_le_iff : compareEventTuple collator x y ≤ 0 ↔
    x.occurredAt < y.occurredAt ∨
      x.occurredAt = y.occurredAt ∧ localeCompare collator x.eventId y.eventId ≤ 0 := by
  unfold compareEventTuple
  split
  next heq => simp [heq]
  next hne =>
    split
    next hlt => simp [hlt]
    next hge =>
      refine iff_of_false (by decide) ?_
      omega

theorem compareEventTuple_total (x y : EventTuple) :
    compareEventTuple collator x y ≤ 0 ∨ compareEventTuple collator y x ≤ 0 := by
  rw [compareEventTuple_le_iff, compareEventTuple_le_iff]
  rcases lt_trichotomy x.occurredAt y.occurredAt with hlt | heq | hgt
  · exact .inl (.inl hlt)
  · rcases collator.total (units (AgentRequests.points x.eventId))
      (units (AgentRequests.points y.eventId)) with hle | hge
    · exact .inl (.inr ⟨heq, hle⟩)
    · exact .inr (.inr ⟨heq.symm, hge⟩)
  · exact .inr (.inl hgt)

theorem compareEventTuple_trans (hxy : compareEventTuple collator x y ≤ 0)
    (hyz : compareEventTuple collator y z ≤ 0) : compareEventTuple collator x z ≤ 0 := by
  rw [compareEventTuple_le_iff] at *
  rcases hxy with hxy | ⟨hxy, hle⟩ <;> rcases hyz with hyz | ⟨hyz, hle'⟩
  · exact .inl (hxy.trans hyz)
  · exact .inl (hyz ▸ hxy)
  · exact .inl (hxy ▸ hyz)
  · exact .inr ⟨hxy.trans hyz, collator.trans _ _ _ hle hle'⟩

/-- What comes after the cursor is not older. -/
theorem le_of_eventAfterCursor {cursorOccurredAt : Option ℕ} {cursorEventId : Option String}
    (h : eventAfterCursor collator x cursorOccurredAt cursorEventId = true) {since : ℕ}
    (hsince : since ∈ cursorOccurredAt) : since ≤ x.occurredAt := by
  obtain rfl : cursorOccurredAt = some since := hsince
  have hpos : 0 < compareEventTuple collator x ⟨since, cursorEventId.getD ""⟩ :=
    of_decide_eq_true h
  by_contra hlt
  have hle : compareEventTuple collator x ⟨since, cursorEventId.getD ""⟩ ≤ 0 :=
    compareEventTuple_le_iff.mpr (.inl (Nat.lt_of_not_le hlt))
  omega

end

/-! ### What the feed consists of -/

section

variable {collator : Collator} {rows rows' : RuntimeRows} {query : RuntimeEventsQuery}
  {event event' : AgentRuntimeEventView}

theorem mem_candidateEvents : event ∈ candidateEvents collator rows query ↔
    event ∈ runtimeEvents collator rows ∧ query.matches event = true := by
  rw [candidateEvents, List.mem_insertionSort, List.mem_filter]

/-- **The newest come first.** -/
theorem pairwise_candidateEvents :
    (candidateEvents collator rows query).Pairwise (NewestFirst collator) := by
  have : Std.Total (NewestFirst collator) := ⟨fun x y => compareEventTuple_total y.tuple x.tuple⟩
  have : IsTrans AgentRuntimeEventView (NewestFirst collator) :=
    ⟨fun _ _ _ hxy hyz => compareEventTuple_trans hyz hxy⟩
  exact List.pairwise_insertionSort _ _

/-- How the identifier of an event ends, and what type that is. -/
def typeOfEnding : List (String × String) :=
  [("work_item.claimable", "work_item.claimable"), ("work_item.updated", "work_item.updated"),
    ("accepted", "agent_request.accepted"), ("rejected", "agent_request.rejected"),
    ("failed", "checkpoint_publication.failed"), ("prepared", "checkpoint_publication.prepared"),
    ("submitted", "checkpoint_publication.submitted")]

theorem colon_notMem_of_ending : ∀ p ∈ typeOfEnding, ':' ∉ p.1.toList := by
  decide

theorem eq_of_ending : ∀ p ∈ typeOfEnding, ∀ p' ∈ typeOfEnding, p.1 = p'.1 → p = p' := by
  decide

theorem exists_ending (h : event ∈ runtimeEvents collator rows) :
    ∃ name, ∃ p ∈ typeOfEnding, event.eventId = join ':' name p.1 ∧ event.eventType = p.2 := by
  rcases List.mem_append.mp h with h | hpublication
  · rcases List.mem_append.mp h with hitem | hrequest
    · obtain ⟨item, -, rfl⟩ := List.mem_map.mp hitem
      unfold buildWorkItemEvent
      cases item.canClaim
      · exact ⟨_, ("work_item.updated", "work_item.updated"), by decide, rfl, rfl⟩
      · exact ⟨_, ("work_item.claimable", "work_item.claimable"), by decide, rfl, rfl⟩
    · obtain ⟨request, -, rfl⟩ := List.mem_map.mp hrequest
      unfold buildAgentRequestEvent
      cases request.status
      · exact ⟨_, ("accepted", "agent_request.accepted"), by decide, rfl, rfl⟩
      · exact ⟨_, ("rejected", "agent_request.rejected"), by decide, rfl, rfl⟩
  · obtain ⟨publication, -, hsome⟩ := List.mem_filterMap.mp hpublication
    simp only [buildCheckpointPublicationEvent] at hsome
    split at hsome
    next => cases hsome
    next =>
      obtain rfl := Option.some.inj hsome
      cases publication.status
      · exact ⟨_, ("failed", "checkpoint_publication.failed"), by decide, rfl, rfl⟩
      · exact ⟨_, ("prepared", "checkpoint_publication.prepared"), by decide, rfl, rfl⟩
      · exact ⟨_, ("submitted", "checkpoint_publication.submitted"), by decide, rfl, rfl⟩

/-- **The identifier of an event determines its type.** -/
theorem eventType_eq_of_eventId_eq (h : event ∈ runtimeEvents collator rows)
    (h' : event' ∈ runtimeEvents collator rows') (hid : event.eventId = event'.eventId) :
    event.eventType = event'.eventType := by
  obtain ⟨name, p, hp, heq, htype⟩ := exists_ending h
  obtain ⟨name', p', hp', heq', htype'⟩ := exists_ending h'
  have hjoin := (heq.symm.trans hid).trans heq'
  obtain ⟨-, hending⟩ := join_left_inj (colon_notMem_of_ending p hp) (colon_notMem_of_ending p' hp')
    hjoin
  rw [htype, htype', eq_of_ending p hp p' hp' hending]

variable {events : List AgentRuntimeEventView} {subscription : SubscriptionView}

theorem of_mem_filterFreshAgentRuntimeEvents
    (h : event ∈ filterFreshAgentRuntimeEvents collator events subscription) :
    event ∈ events ∧ subscription.after collator event.tuple = true := by
  rw [filterFreshAgentRuntimeEvents, List.mem_insertionSort] at h
  obtain ⟨⟨_, _⟩, hp, rfl⟩ := List.mem_map.mp h
  obtain ⟨_, hmem, heq⟩ := List.mem_map.mp (AgentRequests.mem_of_mem_setProperties hp)
  obtain ⟨rfl, rfl⟩ := Prod.mk.inj heq
  exact List.mem_filter.mp hmem

/-- **Every event after the cursor is fresh**, under its identifier. -/
theorem eventId_mem_filterFreshAgentRuntimeEvents (h : event ∈ events)
    (hafter : subscription.after collator event.tuple = true) :
    event.eventId ∈
      (filterFreshAgentRuntimeEvents collator events subscription).map (·.eventId) := by
  have hmem : event ∈ events.filter fun event => subscription.after collator event.tuple :=
    List.mem_filter.mpr ⟨h, hafter⟩
  have hfresh := List.mem_map_of_mem (f := fun event : AgentRuntimeEventView =>
    (event.eventId, event)) hmem
  obtain ⟨⟨key, event'⟩, hp, hkey⟩ := List.mem_map.mp
    (AgentRequests.mem_map_fst_setProperties (List.mem_map_of_mem (f := Prod.fst) hfresh))
  obtain ⟨_, -, heq⟩ := List.mem_map.mp (AgentRequests.mem_of_mem_setProperties hp)
  obtain ⟨rfl, rfl⟩ := Prod.mk.inj heq
  refine List.mem_map.mpr ⟨_, ?_, hkey⟩
  rw [filterFreshAgentRuntimeEvents, List.mem_insertionSort]
  exact List.mem_map_of_mem (f := Prod.snd) hp

end

end ScientificProtocol.Webhooks
