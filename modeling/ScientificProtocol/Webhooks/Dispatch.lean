import ScientificProtocol.Webhooks.Store
import ScientificProtocol.Concurrency.Processes
import Mathlib.Data.Fintype.Basic

/-!
# Dispatching deliveries

`dispatchDueAgentWebhookDeliveries` of `src/agents/webhooks.ts`, as a process. A run reads the
deliveries that are due and attempts them one after the other: it reads the subscription, posts the
event, and marks the delivery with one more attempt than it has read. Any statement may fail, with or
without having taken effect, and what fails while a delivery is attempted is caught and marked as a
failed attempt. Meanwhile other runs do the same, events are enqueued and subscriptions change.

A run does not claim what it has read, and its marks do not ask what they write over. As long as
every delivery that is posted or marked is as the run has read it, the attempts count the posts and a
delivery that is settled stays so (`ScientificProtocol.Webhooks.lawful_of_careful`). Otherwise they
need not: two runs that overlap may take a delivery back
(`ScientificProtocol.Webhooks.delivered_taken_back`).
-/

namespace ScientificProtocol.Webhooks

open Concurrency Sql

/-- How posting an event goes. -/
inductive PostOutcome where
  | answered (responseStatus : ℕ) (responseBody : Option String)
  /-- There is no answer. The request may have been made, or not. -/
  | failed (sent : Bool) (error : String)
  deriving DecidableEq

/-- How a statement goes. -/
inductive WriteOutcome where
  | written
  | refused (error : String)
  /-- It takes effect, but what follows it fails. -/
  | unanswered (error : String)
  deriving DecidableEq

/-- Where a run is, with the deliveries it has still to attempt. -/
inductive DispatchRun where
  | idle
  | looping (due : List DeliveryView)
  | inactive (delivery : DeliveryView) (due : List DeliveryView)
  | sending (delivery : DeliveryView) (due : List DeliveryView)
  | answered (delivery : DeliveryView) (responseStatus : ℕ) (responseBody : Option String)
    (due : List DeliveryView)
  | noting (delivery : DeliveryView) (failureReason : Option String) (due : List DeliveryView)
  /-- In the `catch` block. It is kept here whether the event has been posted and the delivery not
  marked. -/
  | caught (delivery : DeliveryView) (unmarked : Bool) (error : String) (due : List DeliveryView)
  | notingFailure (delivery : DeliveryView) (due : List DeliveryView)
  | returned
  | threw (error : String)
  | crashed
  deriving DecidableEq

/-- What happens in a run. -/
inductive DispatchAction where
  | readDue (limit : Option ℤ) (now : ℕ)
  | readSubscription
  | post (outcome : PostOutcome)
  | mark (now : ℕ) (outcome : WriteOutcome)
  | note (outcome : WriteOutcome)
  /-- A query fails. -/
  | fail (error : String)
  | return
  | crash
  deriving DecidableEq

/-- What others do to the store. -/
inductive StoreAction where
  | subscribe (input : SubscriptionInput)
  | deactivate (subscriptionId : ℕ)
  | moveCursor (subscriptionId cursorOccurredAt : ℕ) (cursorEventId : String)
  | enqueue (input : DeliveryInput) (now : ℕ)
  deriving DecidableEq

def StoreAction.exec (db : WebhookDb) : StoreAction → WebhookDb
  | .subscribe input => createAgentWebhookSubscription db input
  | .deactivate subscriptionId => deactivateAgentWebhookSubscription db subscriptionId
  | .moveCursor subscriptionId cursorOccurredAt cursorEventId =>
    updateAgentWebhookSubscriptionCursor db subscriptionId cursorOccurredAt cursorEventId
  | .enqueue input now => enqueueAgentWebhookDelivery db input now

/-- The attempts a run allows: 5, if it is not told. -/
def clampAttempts (maxAttempts : Option ℤ) : ℕ := (max 1 (min (maxAttempts.getD 5) 20)).toNat

/-- The run after a post. -/
def PostOutcome.next (delivery : DeliveryView) (due : List DeliveryView) :
    PostOutcome → DispatchRun
  | .answered responseStatus responseBody => .answered delivery responseStatus responseBody due
  | .failed sent error => .caught delivery sent error due

/-- The request has been made. -/
def PostOutcome.sent : PostOutcome → Bool
  | .answered _ _ => true
  | .failed sent _ => sent

/-- The statement that marks the delivery of a run, and where the run goes on. -/
def DispatchRun.mark? (maxAttempts : Option ℤ) (now : ℕ) :
    DispatchRun → Option (DeliveryView × Mark × DispatchRun)
  | .inactive delivery due =>
    some (delivery, .failed (delivery.row.attempts + 1) none (some "subscription_inactive"),
      .looping due)
  | .answered delivery responseStatus responseBody due =>
    let attempts := delivery.row.attempts + 1
    if 200 ≤ responseStatus ∧ responseStatus < 300 then
      some (delivery, .delivered attempts (some responseStatus) responseBody,
        .noting delivery none due)
    else if clampAttempts maxAttempts ≤ attempts then
      some (delivery, .failed attempts (some responseStatus) responseBody,
        .noting delivery (some ("delivery_failed:" ++ toString responseStatus)) due)
    else
      some (delivery, .retrying attempts (some responseStatus) responseBody
        (now + computeAgentWebhookRetryDelayMs attempts), .looping due)
  | .caught delivery _ error due =>
    let attempts := delivery.row.attempts + 1
    if clampAttempts maxAttempts ≤ attempts then
      some (delivery, .failed attempts none (some error), .notingFailure delivery due)
    else
      some (delivery, .retrying attempts none (some error)
        (now + computeAgentWebhookRetryDelayMs attempts), .looping due)
  | _ => none

/-- The statement that notes a delivery with its subscription, and where the run goes on. -/
def DispatchRun.note? : DispatchRun → Option (ℕ × Option String × DispatchRun)
  | .noting delivery failureReason due =>
    some (delivery.row.subscriptionId, failureReason, .looping due)
  | .notingFailure delivery due =>
    some (delivery.row.subscriptionId, some "delivery_failed:network", .looping due)
  | _ => none

/-- A statement fails. What the `try` block encloses is caught. -/
def DispatchRun.afterError (error : String) (marked : Bool) : DispatchRun → DispatchRun
  | .answered delivery _ _ due => .caught delivery (!marked) error due
  | .noting delivery _ due => .caught delivery false error due
  | _ => .threw error

/-- A run that is not over. -/
def DispatchRun.running : DispatchRun → Bool
  | .returned | .threw _ | .crashed => false
  | _ => true

/-- A statement of a run, if it is about to send one. -/
def writeAct (db : WebhookDb) (run : DispatchRun) (effect : WebhookDb) (next : DispatchRun) :
    WriteOutcome → WebhookDb × DispatchRun
  | .written => (effect, next)
  | .refused error => (db, run.afterError error false)
  | .unanswered error => (effect, run.afterError error true)

/-- **One action of a run.** -/
def dispatchAct (maxAttempts : Option ℤ) :
    DispatchAction → WebhookDb → DispatchRun → Option (WebhookDb × DispatchRun)
  | .readDue limit now, db, .idle =>
    some (db, .looping (readDueAgentWebhookDeliveries db limit now))
  | .readSubscription, db, .looping (delivery :: due) =>
    some (db, if db.isActive delivery.row.subscriptionId then .sending delivery due
      else .inactive delivery due)
  | .return, db, .looping [] => some (db, .returned)
  | .post outcome, db, .sending delivery due => some (db, outcome.next delivery due)
  | .mark now outcome, db, run =>
    (run.mark? maxAttempts now).map fun (delivery, mark, next) =>
      writeAct db run (db.markDelivery delivery.deliveryId mark) next outcome
  | .note outcome, db, run =>
    run.note?.map fun (subscriptionId, failureReason, next) =>
      writeAct db run (noteAgentWebhookSubscriptionDelivery db subscriptionId failureReason) next
        outcome
  | .fail error, db, .idle => some (db, .threw error)
  | .fail error, db, .looping (_ :: _) => some (db, .threw error)
  | .crash, db, run => if run.running then some (db, .crashed) else none
  | _, _, _ => none

/-- **Runs**, on a store that is empty at first, all with the same `maxAttempts`. -/
def dispatchers (maxAttempts : Option ℤ) :
    Processes WebhookDb DispatchRun DispatchAction StoreAction where
  genesis db := db = .empty
  idle := .idle
  act := dispatchAct maxAttempts
  env b db db' := db' = b.exec db

section

variable {ι : Type}

/-- A moment of a history of runs. -/
abbrev DispatchMoment (ι : Type) : Type := Config ι WebhookDb DispatchRun

/-- A step of such a history. -/
abbrev DispatchEvent (ι : Type) : Type := Event ι WebhookDb DispatchRun DispatchAction StoreAction

/-- The delivery whose event an action posts. -/
def DispatchAction.posted (run : DispatchRun) : DispatchAction → Option ℕ
  | .post outcome =>
    match run with
    | .sending delivery _ => if outcome.sent then some delivery.deliveryId else none
    | _ => none
  | _ => none

/-- The delivery whose event is posted in a step. -/
def postOf (e : DispatchEvent ι) : Option ℕ :=
  match e.label with
  | .act i a => a.posted (e.before.process i)
  | .env _ => none

/-- How often the event of a delivery has been posted. -/
def posts (deliveryId : ℕ) (tr : List (DispatchEvent ι)) : ℕ :=
  tr.countP fun e => postOf e = some deliveryId

/-- The delivery a run has posted and has not marked. -/
def DispatchRun.unmarked : DispatchRun → Option DeliveryView
  | .answered delivery _ _ _ => some delivery
  | .caught delivery true _ _ => some delivery
  | _ => none

/-- A run has posted a delivery and has not marked it. -/
def DispatchRun.owes (run : DispatchRun) (deliveryId : ℕ) : Bool :=
  run.unmarked.any (·.deliveryId = deliveryId)

/-- **The law of the deliveries**: no delivery is posted more often than is allowed, and the attempts
count the posts, except one that has not been marked yet; and from any moment on the attempts do not
decrease, and a delivery that is delivered or has failed remains so and is not posted again. -/
def Lawful (maxAttempts : Option ℤ) (tr : List (DispatchEvent ι)) (c : DispatchMoment ι) : Prop :=
  (∀ deliveryId row, c.shared.deliveries deliveryId = some row →
    posts deliveryId tr ≤ clampAttempts maxAttempts ∧ row.attempts ≤ posts deliveryId tr ∧
      posts deliveryId tr ≤ row.attempts + 1 ∧
      ((∀ i, (c.process i).owes deliveryId = false) → posts deliveryId tr = row.attempts)) ∧
  ∀ tr₁ e tr₂ deliveryId row, tr = tr₁ ++ e :: tr₂ →
    e.before.shared.deliveries deliveryId = some row →
      ∃ row', c.shared.deliveries deliveryId = some row' ∧ row.attempts ≤ row'.attempts ∧
        (row.isOpen = false → row'.status = row.status ∧
          ∀ e' ∈ e :: tr₂, postOf e' ≠ some deliveryId)

/-! ### When the law holds -/

/-- A delivery is as it has been read, and still open. -/
def WebhookDb.isAsRead (db : WebhookDb) (delivery : DeliveryView) : Bool :=
  (db.deliveries delivery.deliveryId).any fun row =>
    row.isOpen && row.attempts == delivery.row.attempts

/-- A delivery has been marked like this before. -/
def WebhookDb.isMarked (db : WebhookDb) (deliveryId : ℕ) (mark : Mark) : Bool :=
  (db.deliveries deliveryId).any fun row =>
    row.attempts == mark.attempts && row.status == mark.status

/-- **An action is careful** if the request is made and finds the delivery as it has been read, if
what is marked has been posted or has been marked like this before, and if the run does not end
before it has marked what it has posted. -/
def DispatchAction.careful (maxAttempts : Option ℤ) (db : WebhookDb) (run : DispatchRun) :
    DispatchAction → Bool
  | .post outcome =>
    match run with
    | .sending delivery _ => outcome.sent && db.isAsRead delivery
    | _ => true
  | .mark _ (.refused _) =>
    match run with
    | .caught _ unmarked _ _ => !unmarked
    | _ => true
  | .mark now _ =>
    match run.mark? maxAttempts now with
    | some (delivery, marking, _) =>
      run.owes delivery.deliveryId || db.isMarked delivery.deliveryId marking
    | none => true
  | .crash => run.unmarked.isNone
  | _ => true

/-- What runs do in a step is careful. -/
def actsCarefully (maxAttempts : Option ℤ) (e : DispatchEvent ι) : Bool :=
  match e.label with
  | .act i a => a.careful maxAttempts e.before.shared (e.before.process i)
  | .env _ => true

/-- **A step is careful** if the action is, and nothing is posted that a run has posted and not marked
yet. -/
def Careful (maxAttempts : Option ℤ) (e : DispatchEvent ι) : Prop :=
  actsCarefully maxAttempts e = true ∧
    ∀ deliveryId ∈ postOf e, ∀ j, (e.before.process j).owes deliveryId = false

end

/-! ### What a careful step does -/

section

/-- The attempts and the status of the deliveries stay as they are, but for new ones. -/
structure Steady (db db' : WebhookDb) : Prop where
  kept : ∀ {deliveryId row}, db.deliveries deliveryId = some row →
    ∃ row', db'.deliveries deliveryId = some row' ∧ row'.attempts = row.attempts ∧
      row'.status = row.status
  came : ∀ {deliveryId row'}, db'.deliveries deliveryId = some row' →
    (∃ row, db.deliveries deliveryId = some row ∧ row'.attempts = row.attempts ∧
      row'.status = row.status) ∨
    db.deliveries deliveryId = none ∧ row'.attempts = 0 ∧ row'.status = .pending

variable {maxAttempts : Option ℤ} {db db' : WebhookDb} {run run' : DispatchRun}

theorem Steady.of_eq (h : db'.deliveries = db.deliveries) : Steady db db' := by
  refine ⟨fun {_ row} hrow => ⟨row, ?_, rfl, rfl⟩, fun {_ row} hrow => .inl ⟨row, ?_, rfl, rfl⟩⟩
  · rwa [h]
  · rwa [← h]

theorem steady_exec (b : StoreAction) : Steady db (b.exec db) := by
  cases b with
  | subscribe | deactivate | moveCursor => exact .of_eq rfl
  | enqueue input now =>
    refine ⟨fun {_ row} hrow => ⟨row, enqueue_of_some hrow, rfl, rfl⟩, fun {_ row} hrow => ?_⟩
    rcases enqueue_eq_some hrow with hold | ⟨hnone, hstatus, hattempts, -⟩
    · exact .inl ⟨row, hold, rfl, rfl⟩
    · exact .inr ⟨hnone, hattempts, hstatus⟩

/-- Marking a delivery once more. -/
theorem steady_of_isMarked {deliveryId : ℕ} {mark : Mark}
    (h : db.isMarked deliveryId mark = true) : Steady db (db.markDelivery deliveryId mark) := by
  obtain ⟨row, hrow, hmarked⟩ := (Option.any_eq_true _ _).mp h
  obtain ⟨hattempts, hstatus⟩ : row.attempts = mark.attempts ∧ row.status = mark.status := by
    simpa using hmarked
  have hself : (db.markDelivery deliveryId mark).deliveries deliveryId = some (mark.write row) := by
    rw [markDelivery_self, show db.deliveries deliveryId = some row from hrow, Option.map_some]
  refine ⟨fun {id row₁} hrow₁ => ?_, fun {id row₁} hrow₁ => .inl ?_⟩
  · rcases eq_or_ne id deliveryId with rfl | hne
    · obtain rfl : row = row₁ := Option.some.inj (hrow.symm.trans hrow₁)
      exact ⟨_, hself, hattempts.symm, hstatus.symm⟩
    · exact ⟨row₁, (markDelivery_of_ne hne mark).trans hrow₁, rfl, rfl⟩
  · rcases eq_or_ne id deliveryId with rfl | hne
    · obtain rfl := Option.some.inj (hself.symm.trans hrow₁)
      exact ⟨row, hrow, hattempts.symm, hstatus.symm⟩
    · rw [markDelivery_of_ne hne] at hrow₁
      exact ⟨row₁, hrow₁, rfl, rfl⟩

/-- **What a careful action does**: it does not change the attempts or the status of any delivery, it
posts a delivery that is as it has been read, or it marks the delivery that has been posted. -/
inductive CarefulStep (maxAttempts : Option ℤ) (db db' : WebhookDb) (run run' : DispatchRun)
    (posted : Option ℕ) : Prop
  | rests : Steady db db' → run'.unmarked = run.unmarked → posted = none →
      CarefulStep maxAttempts db db' run run' posted
  | posts {delivery : DeliveryView} : db' = db → db.isAsRead delivery = true →
      run.unmarked = none → run'.unmarked = some delivery →
      posted = some delivery.deliveryId → CarefulStep maxAttempts db db' run run' posted
  | marks {delivery : DeliveryView} {mark : Mark} :
      db' = db.markDelivery delivery.deliveryId mark →
      mark.attempts = delivery.row.attempts + 1 →
      (mark.status = .delivered ∨ mark.status = .failed ∨
        mark.attempts < clampAttempts maxAttempts) →
      run.unmarked = some delivery → run'.unmarked = none → posted = none →
      CarefulStep maxAttempts db db' run run' posted

/-- What is marked. -/
theorem mark?_spec {now : ℕ} {delivery : DeliveryView} {mark : Mark} {next : DispatchRun}
    (h : run.mark? maxAttempts now = some (delivery, mark, next)) :
    mark.attempts = delivery.row.attempts + 1 ∧
      (mark.status = .delivered ∨ mark.status = .failed ∨
        mark.attempts < clampAttempts maxAttempts) ∧
      (∀ view, run.unmarked = some view → view = delivery) ∧ next.unmarked = none := by
  unfold DispatchRun.mark? at h
  split at h
  case h_1 =>
    obtain ⟨rfl, hmark⟩ := Prod.mk.inj (Option.some.inj h)
    obtain ⟨rfl, rfl⟩ := Prod.mk.inj hmark
    refine ⟨rfl, .inr (.inl rfl), fun view hview => ?_, rfl⟩
    cases hview
  case h_2 =>
    have hview : ∀ {delivery' view : DeliveryView}, some delivery' = some view → delivery' = delivery →
        view = delivery := fun hsome heq => (Option.some.inj hsome).symm.trans heq
    dsimp only at h
    split at h
    · obtain ⟨rfl, hmark⟩ := Prod.mk.inj (Option.some.inj h)
      obtain ⟨rfl, rfl⟩ := Prod.mk.inj hmark
      exact ⟨rfl, .inl rfl, fun view hsome => hview hsome rfl, rfl⟩
    · split at h
      · obtain ⟨rfl, hmark⟩ := Prod.mk.inj (Option.some.inj h)
        obtain ⟨rfl, rfl⟩ := Prod.mk.inj hmark
        exact ⟨rfl, .inr (.inl rfl), fun view hsome => hview hsome rfl, rfl⟩
      · next hlt =>
        obtain ⟨rfl, hmark⟩ := Prod.mk.inj (Option.some.inj h)
        obtain ⟨rfl, rfl⟩ := Prod.mk.inj hmark
        exact ⟨rfl, .inr (.inr (Nat.lt_of_not_le hlt)), fun view hsome => hview hsome rfl, rfl⟩
  case h_3 delivery' unmarked error due =>
    have hview : ∀ {view : DeliveryView}, (DispatchRun.caught delivery' unmarked error due).unmarked =
        some view → delivery' = delivery → view = delivery := by
      intro view hsome heq
      cases unmarked with
      | true => exact (Option.some.inj hsome).symm.trans heq
      | false => cases hsome
    dsimp only at h
    split at h
    · obtain ⟨rfl, hmark⟩ := Prod.mk.inj (Option.some.inj h)
      obtain ⟨rfl, rfl⟩ := Prod.mk.inj hmark
      exact ⟨rfl, .inr (.inl rfl), fun view hsome => hview hsome rfl, rfl⟩
    · next hlt =>
      obtain ⟨rfl, hmark⟩ := Prod.mk.inj (Option.some.inj h)
      obtain ⟨rfl, rfl⟩ := Prod.mk.inj hmark
      exact ⟨rfl, .inr (.inr (Nat.lt_of_not_le hlt)), fun view hsome => hview hsome rfl, rfl⟩
  case h_4 => cases h

theorem unmarked_afterError_true (error : String) : (run.afterError error true).unmarked = none := by
  cases run <;> rfl

/-- A statement that takes effect marks the delivery, or marks it once more. -/
theorem carefulStep_mark {now : ℕ} {delivery : DeliveryView} {mark : Mark} {next : DispatchRun}
    (h : run.mark? maxAttempts now = some (delivery, mark, next))
    (hcareful : (run.owes delivery.deliveryId || db.isMarked delivery.deliveryId mark) = true)
    (hrun' : run'.unmarked = none) :
    CarefulStep maxAttempts db (db.markDelivery delivery.deliveryId mark) run run' none := by
  obtain ⟨hattempts, hstatus, hview, -⟩ := mark?_spec h
  cases hunmarked : run.unmarked with
  | some view =>
    obtain rfl := hview view hunmarked
    exact .marks rfl hattempts hstatus hunmarked hrun' rfl
  | none =>
    have hmarked : db.isMarked delivery.deliveryId mark = true := by
      simpa [DispatchRun.owes, hunmarked] using hcareful
    exact .rests (steady_of_isMarked hmarked) (hrun'.trans hunmarked.symm) rfl

/-- **Every careful action is of this kind.** -/
theorem carefulStep_of_act {a : DispatchAction}
    (hact : dispatchAct maxAttempts a db run = some (db', run'))
    (hcareful : a.careful maxAttempts db run = true) :
    CarefulStep maxAttempts db db' run run' (a.posted run) := by
  unfold dispatchAct at hact
  split at hact
  case h_2 delivery due =>
    obtain ⟨rfl, rfl⟩ := Prod.mk.inj (Option.some.inj hact)
    refine .rests (.of_eq rfl) ?_ rfl
    split <;> rfl
  case h_4 outcome delivery due =>
    obtain ⟨rfl, rfl⟩ := Prod.mk.inj (Option.some.inj hact)
    obtain ⟨hsent, hread⟩ : outcome.sent = true ∧ db.isAsRead delivery = true := by
      simpa [DispatchAction.careful] using hcareful
    refine .posts rfl hread rfl ?_ (if_pos hsent)
    cases outcome with
    | answered => rfl
    | failed sent error =>
      obtain rfl : sent = true := hsent
      rfl
  case h_5 now outcome =>
    obtain ⟨⟨delivery, mark, next⟩, hmark, heq⟩ := Option.map_eq_some_iff.mp hact
    cases outcome with
    | written =>
      obtain ⟨rfl, rfl⟩ := Prod.mk.inj heq
      simp only [DispatchAction.careful, hmark] at hcareful
      exact carefulStep_mark hmark hcareful (mark?_spec hmark).2.2.2
    | refused error =>
      obtain ⟨rfl, rfl⟩ := Prod.mk.inj heq
      refine .rests (.of_eq rfl) ?_ rfl
      unfold DispatchRun.mark? at hmark
      split at hmark
      case h_1 => rfl
      case h_2 => rfl
      case h_3 delivery' unmarked error' due =>
        obtain rfl : unmarked = false := by simpa [DispatchAction.careful] using hcareful
        rfl
      case h_4 => cases hmark
    | unanswered error =>
      obtain ⟨rfl, rfl⟩ := Prod.mk.inj heq
      simp only [DispatchAction.careful, hmark] at hcareful
      exact carefulStep_mark hmark hcareful (unmarked_afterError_true error)
  case h_6 outcome =>
    obtain ⟨⟨subscriptionId, failureReason, next⟩, hnote, heq⟩ := Option.map_eq_some_iff.mp hact
    have hsame : db'.deliveries = db.deliveries ∧ run'.unmarked = run.unmarked := by
      unfold DispatchRun.note? at hnote
      split at hnote
      case h_3 => cases hnote
      all_goals
        obtain ⟨rfl, hnoted⟩ := Prod.mk.inj (Option.some.inj hnote)
        obtain ⟨rfl, rfl⟩ := Prod.mk.inj hnoted
        cases outcome <;>
          (obtain ⟨rfl, rfl⟩ := Prod.mk.inj heq
           exact ⟨rfl, rfl⟩)
    exact .rests (.of_eq hsame.1) hsame.2 rfl
  case h_9 =>
    split at hact
    next =>
      obtain ⟨rfl, rfl⟩ := Prod.mk.inj (Option.some.inj hact)
      have hnone : run.unmarked = none := by
        simpa [DispatchAction.careful] using hcareful
      exact .rests (.of_eq rfl) hnone.symm rfl
    next => cases hact
  case h_10 => cases hact
  all_goals
    obtain ⟨rfl, rfl⟩ := Prod.mk.inj (Option.some.inj hact)
    exact .rests (.of_eq rfl) rfl rfl

end

/-! ### Careful histories -/

section

variable {ι : Type} {maxAttempts : Option ℤ}

/-- **The accounts of the deliveries**: an open one can be attempted once more, and the attempts count
the posts, except one that a run owes. -/
structure Accounted (maxAttempts : Option ℤ) (tr : List (DispatchEvent ι)) (c : DispatchMoment ι) :
    Prop where
  bounded : ∀ {deliveryId row}, c.shared.deliveries deliveryId = some row →
    row.attempts ≤ clampAttempts maxAttempts ∧
      (row.isOpen = true → row.attempts < clampAttempts maxAttempts)
  read : ∀ {i delivery}, (c.process i).unmarked = some delivery →
    c.shared.isAsRead delivery = true
  alone : ∀ {i j deliveryId}, (c.process i).owes deliveryId = true →
    (c.process j).owes deliveryId = true → i = j
  settled : ∀ {deliveryId row}, c.shared.deliveries deliveryId = some row →
    (∀ i, (c.process i).owes deliveryId = false) → posts deliveryId tr = row.attempts
  owed : ∀ {deliveryId row i}, c.shared.deliveries deliveryId = some row →
    (c.process i).owes deliveryId = true → posts deliveryId tr = row.attempts + 1
  absent : ∀ {deliveryId}, c.shared.deliveries deliveryId = none → posts deliveryId tr = 0

theorem owes_iff {run : DispatchRun} {deliveryId : ℕ} : run.owes deliveryId = true ↔
    ∃ delivery, run.unmarked = some delivery ∧ delivery.deliveryId = deliveryId := by
  simp [DispatchRun.owes, Option.any_eq_true]

theorem owes_eq_of_unmarked {run run' : DispatchRun} (h : run'.unmarked = run.unmarked)
    (deliveryId : ℕ) : run'.owes deliveryId = run.owes deliveryId := by
  rw [DispatchRun.owes, h, DispatchRun.owes]

theorem owes_of_none {run : DispatchRun} (h : run.unmarked = none) (deliveryId : ℕ) :
    run.owes deliveryId = false := by
  rw [DispatchRun.owes, h, Option.any_none]

theorem posts_snoc (deliveryId : ℕ) (tr : List (DispatchEvent ι)) (e : DispatchEvent ι) :
    posts deliveryId (tr ++ [e]) =
      posts deliveryId tr + if postOf e = some deliveryId then 1 else 0 := by
  rw [posts, List.countP_append, List.countP_singleton, posts]
  simp only [decide_eq_true_eq]

theorem isAsRead_iff {db : WebhookDb} {delivery : DeliveryView} : db.isAsRead delivery = true ↔
    ∃ row, db.deliveries delivery.deliveryId = some row ∧ row.isOpen = true ∧
      row.attempts = delivery.row.attempts := by
  simp [WebhookDb.isAsRead, Option.any_eq_true]

theorem isOpen_iff {row : DeliveryRow} :
    row.isOpen = true ↔ row.status = .pending ∨ row.status = .retrying := decide_eq_true_iff

theorem isOpen_congr {row row' : DeliveryRow} (h : row'.status = row.status) :
    row'.isOpen = row.isOpen := by
  unfold DeliveryRow.isOpen
  rw [h]

theorem Steady.isAsRead {db db' : WebhookDb} (h : Steady db db') {delivery : DeliveryView}
    (hread : db.isAsRead delivery = true) : db'.isAsRead delivery = true := by
  obtain ⟨row, hrow, hopen, hattempts⟩ := isAsRead_iff.mp hread
  obtain ⟨row', hrow', hsame, hstatus⟩ := h.kept hrow
  exact isAsRead_iff.mpr ⟨row', hrow', (isOpen_congr hstatus).trans hopen, hsame.trans hattempts⟩

variable {tr : List (DispatchEvent ι)} {c c' : DispatchMoment ι} {e : DispatchEvent ι} {i : ι}

/-- The accounts after a step that posts and marks nothing. -/
theorem Accounted.of_rests (h : Accounted maxAttempts tr c) (hsteady : Steady c.shared c'.shared)
    (hruns : ∀ j, (c'.process j).unmarked = (c.process j).unmarked) (hpost : postOf e = none) :
    Accounted maxAttempts (tr ++ [e]) c' := by
  have howes : ∀ j deliveryId, (c'.process j).owes deliveryId = (c.process j).owes deliveryId :=
    fun j => owes_eq_of_unmarked (hruns j)
  have hposts : ∀ deliveryId, posts deliveryId (tr ++ [e]) = posts deliveryId tr := by
    intro deliveryId
    rw [posts_snoc, hpost]
    rfl
  refine ⟨fun {_ row'} hrow' => ?_, fun hunmarked => ?_, fun {_ _ _} hi hj => ?_,
    fun {id row'} hrow' hquiet => ?_, fun {id row' j} hrow' hj => ?_, fun {id} hnone => ?_⟩
  · rcases hsteady.came hrow' with ⟨row, hrow, hattempts, hstatus⟩ | ⟨-, hzero, -⟩
    · rw [hattempts, isOpen_congr hstatus]
      exact h.bounded hrow
    · have hpos : 0 < clampAttempts maxAttempts := by
        unfold clampAttempts
        omega
      rw [hzero]
      exact ⟨Nat.zero_le _, fun _ => hpos⟩
  · rw [hruns] at hunmarked
    exact hsteady.isAsRead (h.read hunmarked)
  · rw [howes] at hi hj
    exact h.alone hi hj
  · rw [hposts]
    have hquiet' : ∀ j, (c.process j).owes id = false := fun j => howes j id ▸ hquiet j
    rcases hsteady.came hrow' with ⟨row, hrow, hattempts, -⟩ | ⟨hnone, hzero, -⟩
    · rw [hattempts]
      exact h.settled hrow hquiet'
    · rw [hzero]
      exact h.absent hnone
  · rw [hposts]
    rw [howes] at hj
    rcases hsteady.came hrow' with ⟨row, hrow, hattempts, -⟩ | ⟨hnone, -, -⟩
    · rw [hattempts]
      exact h.owed hrow hj
    · obtain ⟨delivery, hunmarked, rfl⟩ := owes_iff.mp hj
      obtain ⟨row, hrow, -⟩ := isAsRead_iff.mp (h.read hunmarked)
      rw [hnone] at hrow
      cases hrow
  · rw [hposts]
    cases hrow : c.shared.deliveries id with
    | none => exact h.absent hrow
    | some row =>
      obtain ⟨row', hrow', -⟩ := hsteady.kept hrow
      rw [hnone] at hrow'
      cases hrow'

/-- The accounts after a post. -/
theorem Accounted.of_posts {delivery : DeliveryView} (h : Accounted maxAttempts tr c)
    (hshared : c'.shared = c.shared) (hread : c.shared.isAsRead delivery = true)
    (hothers : ∀ j, j ≠ i → c'.process j = c.process j)
    (hfree : ∀ j, (c.process j).owes delivery.deliveryId = false)
    (hself : (c'.process i).unmarked = some delivery) (hbefore : (c.process i).unmarked = none)
    (hpost : postOf e = some delivery.deliveryId) : Accounted maxAttempts (tr ++ [e]) c' := by
  have howes : ∀ j deliveryId, (c'.process j).owes deliveryId = true →
      j = i ∧ deliveryId = delivery.deliveryId ∨ j ≠ i ∧ (c.process j).owes deliveryId = true := by
    intro j deliveryId hj
    rcases eq_or_ne j i with rfl | hne
    · obtain ⟨delivery', hunmarked, rfl⟩ := owes_iff.mp hj
      obtain rfl := Option.some.inj (hself.symm.trans hunmarked)
      exact .inl ⟨rfl, rfl⟩
    · rw [hothers j hne] at hj
      exact .inr ⟨hne, hj⟩
  have hselfOwes : (c'.process i).owes delivery.deliveryId = true := owes_iff.mpr ⟨_, hself, rfl⟩
  refine ⟨fun hrow => h.bounded (hshared ▸ hrow), fun {j view} hunmarked => ?_,
    fun {j k id} hj hk => ?_, fun {id row} hrow hquiet => ?_, fun {id row j} hrow hj => ?_,
    fun {id} hnone => ?_⟩
  · rw [hshared]
    rcases eq_or_ne j i with rfl | hne
    · obtain rfl := Option.some.inj (hself.symm.trans hunmarked)
      exact hread
    · rw [hothers j hne] at hunmarked
      exact h.read hunmarked
  · rcases howes j id hj with ⟨rfl, rfl⟩ | ⟨hji, hj⟩ <;>
      rcases howes k _ hk with ⟨rfl, heq⟩ | ⟨hki, hk⟩
    · rfl
    · rw [hfree k] at hk
      cases hk
    · rw [heq, hfree j] at hj
      cases hj
    · exact h.alone hj hk
  · have hne : id ≠ delivery.deliveryId := by
      rintro rfl
      rw [hquiet i] at hselfOwes
      cases hselfOwes
    rw [posts_snoc, hpost, if_neg fun heq => hne (Option.some.inj heq).symm]
    refine h.settled (hshared ▸ hrow) fun j => ?_
    rcases eq_or_ne j i with rfl | hji
    · exact owes_of_none hbefore id
    · rw [← hothers j hji]
      exact hquiet j
  · rw [hshared] at hrow
    rw [posts_snoc, hpost]
    rcases howes j id hj with ⟨rfl, rfl⟩ | ⟨hji, hj⟩
    · rw [if_pos rfl, h.settled hrow hfree]
    · have hne : id ≠ delivery.deliveryId := by
        rintro rfl
        rw [hfree j] at hj
        cases hj
      rw [if_neg fun heq => hne (Option.some.inj heq).symm]
      exact h.owed hrow hj
  · obtain ⟨row, hrow, -⟩ := isAsRead_iff.mp hread
    rw [hshared] at hnone
    have hne : id ≠ delivery.deliveryId := by
      rintro rfl
      rw [hrow] at hnone
      cases hnone
    rw [posts_snoc, hpost, if_neg fun heq => hne (Option.some.inj heq).symm]
    exact h.absent hnone

/-- The accounts after a mark. -/
theorem Accounted.of_marks {delivery : DeliveryView} {mark : Mark} (h : Accounted maxAttempts tr c)
    (hshared : c'.shared = c.shared.markDelivery delivery.deliveryId mark)
    (hattempts : mark.attempts = delivery.row.attempts + 1)
    (hstatus : mark.status = .delivered ∨ mark.status = .failed ∨
      mark.attempts < clampAttempts maxAttempts)
    (hothers : ∀ j, j ≠ i → c'.process j = c.process j)
    (hbefore : (c.process i).unmarked = some delivery) (hself : (c'.process i).unmarked = none)
    (hpost : postOf e = none) : Accounted maxAttempts (tr ++ [e]) c' := by
  have hposts : ∀ deliveryId, posts deliveryId (tr ++ [e]) = posts deliveryId tr := by
    intro deliveryId
    rw [posts_snoc, hpost]
    rfl
  obtain ⟨row, hrow, hopen, hread⟩ := isAsRead_iff.mp (h.read hbefore)
  have howed : (c.process i).owes delivery.deliveryId = true := owes_iff.mpr ⟨_, hbefore, rfl⟩
  have hmarked : c'.shared.deliveries delivery.deliveryId = some (mark.write row) := by
    rw [hshared, markDelivery_self, hrow, Option.map_some]
  have hrest : ∀ id, id ≠ delivery.deliveryId →
      c'.shared.deliveries id = c.shared.deliveries id := fun id hne => by
    rw [hshared, markDelivery_of_ne hne]
  have howes : ∀ {j id}, (c'.process j).owes id = true →
      j ≠ i ∧ id ≠ delivery.deliveryId ∧ (c.process j).owes id = true := by
    intro j id hj
    rcases eq_or_ne j i with rfl | hji
    · rw [owes_of_none hself] at hj
      cases hj
    · rw [hothers j hji] at hj
      refine ⟨hji, ?_, hj⟩
      rintro rfl
      exact hji (h.alone hj howed)
  refine ⟨fun {id row'} hrow' => ?_, fun {j view} hunmarked => ?_, fun {j k id} hj hk => ?_,
    fun {id row'} hrow' hquiet => ?_, fun {id row' j} hrow' hj => ?_, fun {id} hnone => ?_⟩
  · rcases eq_or_ne id delivery.deliveryId with rfl | hne
    · obtain rfl := Option.some.inj (hmarked.symm.trans hrow')
      have hbound := (h.bounded hrow).2 hopen
      refine ⟨?_, fun hopen' => ?_⟩
      · change mark.attempts ≤ _
        omega
      · change mark.attempts < _
        rcases hstatus with hdelivered | hfailed | hlt
        · rcases isOpen_iff.mp hopen' with hpending | hretrying
          · cases hdelivered.symm.trans hpending
          · cases hdelivered.symm.trans hretrying
        · rcases isOpen_iff.mp hopen' with hpending | hretrying
          · cases hfailed.symm.trans hpending
          · cases hfailed.symm.trans hretrying
        · exact hlt
    · rw [hrest id hne] at hrow'
      exact h.bounded hrow'
  · have hj : (c'.process j).owes view.deliveryId = true := owes_iff.mpr ⟨view, hunmarked, rfl⟩
    obtain ⟨hji, hne, -⟩ := howes hj
    rw [hothers j hji] at hunmarked
    obtain ⟨row', hrow', hopen', hread'⟩ := isAsRead_iff.mp (h.read hunmarked)
    exact isAsRead_iff.mpr ⟨row', (hrest _ hne).trans hrow', hopen', hread'⟩
  · exact h.alone (howes hj).2.2 (howes hk).2.2
  · rw [hposts]
    rcases eq_or_ne id delivery.deliveryId with rfl | hne
    · obtain rfl := Option.some.inj (hmarked.symm.trans hrow')
      rw [h.owed hrow howed, hread]
      exact hattempts.symm
    · rw [hrest id hne] at hrow'
      refine h.settled hrow' fun j => ?_
      rcases eq_or_ne j i with rfl | hji
      · by_contra howes'
        obtain ⟨view, hview, rfl⟩ := owes_iff.mp (Bool.eq_true_of_not_eq_false howes')
        exact hne (congrArg _ (Option.some.inj (hbefore.symm.trans hview))).symm
      · rw [← hothers j hji]
        exact hquiet j
  · obtain ⟨-, hne, howes'⟩ := howes hj
    rw [hposts]
    rw [hrest id hne] at hrow'
    exact h.owed hrow' howes'
  · rw [hposts]
    rcases eq_or_ne id delivery.deliveryId with rfl | hne
    · rw [hmarked] at hnone
      cases hnone
    · rw [hrest id hne] at hnone
      exact h.absent hnone

variable [DecidableEq ι]

/-- A careful step, as an action of a process or of the others. -/
theorem carefulStep_of_step {l : Label ι DispatchAction StoreAction}
    (hstep : (dispatchers maxAttempts).Step c l c')
    (hcareful : Careful maxAttempts ⟨c, l, c'⟩) :
    (Steady c.shared c'.shared ∧ c'.process = c.process ∧
      postOf (⟨c, l, c'⟩ : DispatchEvent ι) = none) ∨
    ∃ i, (∀ j, j ≠ i → c'.process j = c.process j) ∧
      CarefulStep maxAttempts c.shared c'.shared (c.process i) (c'.process i)
        (postOf (⟨c, l, c'⟩ : DispatchEvent ι)) := by
  cases hstep with
  | @act i a db run hact =>
    refine .inr ⟨i, fun j hj => Function.update_of_ne hj _ _, ?_⟩
    have hstep := carefulStep_of_act hact hcareful.1
    simpa only [Function.update_self, postOf] using hstep
  | @env b db henv =>
    obtain rfl : db = b.exec c.shared := henv
    exact .inl ⟨steady_exec b, rfl, rfl⟩

/-- **The accounts are kept.** -/
theorem Accounted.step {l : Label ι DispatchAction StoreAction} (h : Accounted maxAttempts tr c)
    (hstep : (dispatchers maxAttempts).Step c l c')
    (hcareful : Careful maxAttempts ⟨c, l, c'⟩) :
    Accounted maxAttempts (tr ++ [⟨c, l, c'⟩]) c' := by
  rcases carefulStep_of_step hstep hcareful with ⟨hsteady, hruns, hpost⟩ | ⟨i, hothers, hact⟩
  · exact h.of_rests hsteady (fun j => by rw [hruns]) hpost
  · cases hact with
    | rests hsteady hrun hpost =>
      refine h.of_rests hsteady (fun j => ?_) hpost
      rcases eq_or_ne j i with rfl | hji
      · exact hrun
      · rw [hothers j hji]
    | posts hshared hread hbefore hself hpost =>
      exact h.of_posts hshared hread hothers (hcareful.2 _ hpost) hself hbefore hpost
    | marks hshared hattempts hstatus hbefore hself hpost =>
      exact h.of_marks hshared hattempts hstatus hothers hbefore hself hpost

/-- **What a careful step does to a delivery**: its attempts do not decrease, and if it is settled
then its status remains and it is not posted. -/
theorem Accounted.lawful_step {l : Label ι DispatchAction StoreAction}
    (h : Accounted maxAttempts tr c) (hstep : (dispatchers maxAttempts).Step c l c')
    (hcareful : Careful maxAttempts ⟨c, l, c'⟩) {deliveryId : ℕ} {row : DeliveryRow}
    (hrow : c.shared.deliveries deliveryId = some row) :
    ∃ row', c'.shared.deliveries deliveryId = some row' ∧ row.attempts ≤ row'.attempts ∧
      (row.isOpen = false → row'.status = row.status ∧
        postOf (⟨c, l, c'⟩ : DispatchEvent ι) ≠ some deliveryId) := by
  have hsame : ∀ {o : Option ℕ}, Steady c.shared c'.shared → o = none →
      ∃ row', c'.shared.deliveries deliveryId = some row' ∧ row.attempts ≤ row'.attempts ∧
        (row.isOpen = false → row'.status = row.status ∧ o ≠ some deliveryId) := by
    rintro o hsteady rfl
    obtain ⟨row', hrow', hattempts, hstatus⟩ := hsteady.kept hrow
    exact ⟨row', hrow', hattempts.ge, fun _ => ⟨hstatus, (Option.some_ne_none _).symm⟩⟩
  rcases carefulStep_of_step hstep hcareful with ⟨hsteady, -, hpost⟩ | ⟨i, hothers, hact⟩
  · exact hsame hsteady hpost
  · cases hact with
    | rests hsteady _ hpost => exact hsame hsteady hpost
    | @posts delivery hshared hread _ _ hpost =>
      refine ⟨row, hshared ▸ hrow, Nat.le_refl _, fun hsettled => ⟨rfl, fun hsome => ?_⟩⟩
      obtain rfl := Option.some.inj (hpost.symm.trans hsome)
      obtain ⟨row', hrow', hopen, -⟩ := isAsRead_iff.mp hread
      obtain rfl := Option.some.inj (hrow'.symm.trans hrow)
      rw [hopen] at hsettled
      cases hsettled
    | @marks delivery mark hshared hattempts _ hbefore _ hpost =>
      obtain ⟨row', hrow', hopen, hread⟩ := isAsRead_iff.mp (h.read hbefore)
      rcases eq_or_ne deliveryId delivery.deliveryId with rfl | hne
      · obtain rfl := Option.some.inj (hrow'.symm.trans hrow)
        refine ⟨mark.write row', ?_, ?_, fun hsettled => ?_⟩
        · rw [hshared, markDelivery_self, hrow', Option.map_some]
        · change row'.attempts ≤ mark.attempts
          omega
        · rw [hopen] at hsettled
          cases hsettled
      · refine ⟨row, ?_, Nat.le_refl _, fun _ => ⟨rfl, ?_⟩⟩
        · rw [hshared, markDelivery_of_ne hne, hrow]
        · rw [hpost]
          exact (Option.some_ne_none _).symm

theorem accounted_run (h : (dispatchers maxAttempts).Run tr c)
    (hcareful : ∀ e ∈ tr, Careful maxAttempts e) : Accounted maxAttempts tr c := by
  refine h.history (Q := fun tr c => (∀ e ∈ tr, Careful maxAttempts e) →
    Accounted maxAttempts tr c) ?_ ?_ hcareful
  · rintro db rfl -
    refine ⟨fun hrow => ?_, fun hunmarked => ?_, fun {_ _ _} hi => ?_, fun hrow => ?_,
      fun hrow => ?_, fun _ => rfl⟩
    · cases hrow
    · cases hunmarked
    · cases hi
    · cases hrow
    · cases hrow
  · intro tr c l c' _ ih hstep hcareful
    exact (ih fun e he => hcareful e (List.mem_append_left _ he)).step hstep
      (hcareful _ (List.mem_append_right _ (List.mem_singleton_self _)))

/-- **The law holds of careful histories.** -/
theorem lawful_of_careful (h : (dispatchers maxAttempts).Run tr c)
    (hcareful : ∀ e ∈ tr, Careful maxAttempts e) : Lawful maxAttempts tr c := by
  refine ⟨fun deliveryId row hrow => ?_, ?_⟩
  · have haccounts := accounted_run h hcareful
    have hbounded := haccounts.bounded hrow
    by_cases howed : ∃ i, (c.process i).owes deliveryId = true
    · obtain ⟨i, hi⟩ := howed
      have hposts := haccounts.owed hrow hi
      obtain ⟨delivery, hunmarked, rfl⟩ := owes_iff.mp hi
      obtain ⟨row', hrow', hopen, -⟩ := isAsRead_iff.mp (haccounts.read hunmarked)
      obtain rfl := Option.some.inj (hrow'.symm.trans hrow)
      have hlt := hbounded.2 hopen
      refine ⟨by omega, by omega, by omega, fun hquiet => ?_⟩
      rw [hquiet i] at hi
      cases hi
    · have hquiet : ∀ i, (c.process i).owes deliveryId = false := fun i =>
        Bool.eq_false_of_not_eq_true fun hi => howed ⟨i, hi⟩
      have hposts := haccounts.settled hrow hquiet
      exact ⟨by omega, by omega, by omega, fun _ => hposts⟩
  · refine h.history (Q := fun tr c => (∀ e ∈ tr, Careful maxAttempts e) →
      ∀ tr₁ e tr₂ deliveryId row, tr = tr₁ ++ e :: tr₂ →
        e.before.shared.deliveries deliveryId = some row →
          ∃ row', c.shared.deliveries deliveryId = some row' ∧ row.attempts ≤ row'.attempts ∧
            (row.isOpen = false → row'.status = row.status ∧
              ∀ e' ∈ e :: tr₂, postOf e' ≠ some deliveryId)) ?_ ?_ hcareful
    · rintro db rfl - tr₁ e tr₂ deliveryId row htr
      simp at htr
    · intro tr c l c' hrun ih hstep hcareful tr₁ e tr₂ deliveryId row htr hrow
      have hpast : ∀ e ∈ tr, Careful maxAttempts e :=
        fun e he => hcareful e (List.mem_append_left _ he)
      have hlast : Careful maxAttempts ⟨c, l, c'⟩ :=
        hcareful _ (List.mem_append_right _ (List.mem_singleton_self _))
      have haccounts := accounted_run hrun hpast
      rcases List.eq_nil_or_concat tr₂ with rfl | ⟨tr₂, e', rfl⟩
      · obtain ⟨rfl, he⟩ := List.append_inj' htr rfl
        obtain rfl := (List.cons.inj he).1
        obtain ⟨row', hrow', hattempts, hsettled⟩ := haccounts.lawful_step hstep hlast hrow
        refine ⟨row', hrow', hattempts, fun hopen => ⟨(hsettled hopen).1, fun e' he' => ?_⟩⟩
        rw [List.mem_singleton.mp he']
        exact (hsettled hopen).2
      · rw [List.concat_eq_append, ← List.cons_append, ← List.append_assoc] at htr
        obtain ⟨htr', he⟩ := List.append_inj' htr rfl
        obtain rfl := (List.cons.inj he).1
        obtain ⟨row₁, hrow₁, hattempts₁, hsettled₁⟩ := ih hpast tr₁ e tr₂ deliveryId row htr' hrow
        obtain ⟨row', hrow', hattempts, hsettled⟩ := haccounts.lawful_step hstep hlast hrow₁
        refine ⟨row', hrow', hattempts₁.trans hattempts, fun hopen => ?_⟩
        obtain ⟨hstatus₁, hposts⟩ := hsettled₁ hopen
        obtain ⟨hstatus, hpost⟩ := hsettled ((isOpen_congr hstatus₁).trans hopen)
        refine ⟨hstatus.trans hstatus₁, fun e' he' => ?_⟩
        rw [List.concat_eq_append, ← List.cons_append] at he'
        rcases List.mem_append.mp he' with hmem | hmem
        · exact hposts e' hmem
        · rw [List.mem_singleton.mp hmem]
          exact hpost

/-! ### Two histories -/

/-- A store with a subscription, and an event enqueued for it. -/
def oneDelivery : WebhookDb :=
  enqueueAgentWebhookDelivery
    (createAgentWebhookSubscription .empty ⟨"agent", ["work_item.updated"]⟩)
    ⟨1, "event", "work_item.updated", 0, "{}"⟩ 0

/-- How the store comes to it. -/
def oneDeliveryEvents (ι : Type) : List (DispatchEvent ι) :=
  let subscribed := createAgentWebhookSubscription .empty ⟨"agent", ["work_item.updated"]⟩
  [⟨⟨.empty, fun _ => .idle⟩, .env (.subscribe ⟨"agent", ["work_item.updated"]⟩),
      ⟨subscribed, fun _ => .idle⟩⟩,
    ⟨⟨subscribed, fun _ => .idle⟩, .env (.enqueue ⟨1, "event", "work_item.updated", 0, "{}"⟩ 0),
      ⟨oneDelivery, fun _ => .idle⟩⟩]

/-- The history some actions of runs give from there. -/
def playDispatch (ι : Type) [DecidableEq ι] (moves : List (ι × DispatchAction)) :
    Option (List (DispatchEvent ι) × DispatchMoment ι) :=
  ((dispatchers none).play moves ⟨oneDelivery, fun _ => .idle⟩).map fun (tr, c) =>
    (oneDeliveryEvents ι ++ tr, c)

theorem run_playDispatch {moves : List (ι × DispatchAction)}
    (h : (playDispatch ι moves).isSome = true) :
    (dispatchers none).Run ((playDispatch ι moves).get h).1 ((playDispatch ι moves).get h).2 := by
  obtain ⟨⟨tr, c⟩, hplay, heq⟩ := Option.map_eq_some_iff.mp (Option.some_get h).symm
  rw [← heq]
  have hready : (dispatchers none).Run (oneDeliveryEvents ι) ⟨oneDelivery, fun _ => .idle⟩ :=
    ((Processes.Run.genesis rfl).snoc (.env rfl)).snoc (.env rfl)
  exact hready.append_play hplay

/-- The receiver fails, and does not the second time, when it is another run that posts. -/
def secondAttempt : List (Bool × DispatchAction) :=
  [(false, .readDue none 0), (false, .readSubscription), (false, .post (.answered 500 none)),
    (false, .mark 0 .written), (false, .return), (true, .readDue none 15000),
    (true, .readSubscription), (true, .post (.answered 200 none)), (true, .mark 15000 .written),
    (true, .note .written), (true, .return)]

theorem secondAttempt_possible : (playDispatch Bool secondAttempt).isSome = true := by
  decide

instance {ι : Type} [Fintype ι] (maxAttempts : Option ℤ) (e : DispatchEvent ι) :
    Decidable (Careful maxAttempts e) :=
  inferInstanceAs (Decidable (actsCarefully maxAttempts e = true ∧
    ∀ deliveryId ∈ postOf e, ∀ j, (e.before.process j).owes deliveryId = false))

theorem lawful_secondAttempt : Lawful none
    ((playDispatch Bool secondAttempt).get secondAttempt_possible).1
    ((playDispatch Bool secondAttempt).get secondAttempt_possible).2 :=
  lawful_of_careful (run_playDispatch secondAttempt_possible) (by decide)

/-- Two runs read the same delivery. One delivers it, and then the other one fails to. -/
def overlappingRuns : List (Bool × DispatchAction) :=
  [(false, .readDue none 0), (true, .readDue none 0), (false, .readSubscription),
    (true, .readSubscription), (false, .post (.answered 200 none)), (false, .mark 0 .written),
    (true, .post (.answered 500 none)), (true, .mark 0 .written)]

theorem overlappingRuns_possible : (playDispatch Bool overlappingRuns).isSome = true := by
  decide

/-- **A delivery that was delivered is to be retried**, after two posts that count for one. -/
theorem delivered_taken_back :
    ¬∀ (tr : List (DispatchEvent Bool)) c, (dispatchers none).Run tr c → Lawful none tr c := by
  intro h
  have hlaw := (h _ _ (run_playDispatch overlappingRuns_possible)).2
  generalize hplayed : (playDispatch Bool overlappingRuns).get overlappingRuns_possible = played
    at hlaw
  have hfinal : (played.2.shared.deliveries 1).map (·.status) = some .retrying := by
    rw [← hplayed]
    decide
  -- The second run is about to post what the first one has delivered.
  have hbefore : played.1[8]?.bind (fun e => (e.before.shared.deliveries 1).map fun row =>
      (row.isOpen, row.status)) = some (false, .delivered) := by
    rw [← hplayed]
    decide
  obtain ⟨e, he, hdelivered⟩ := Option.bind_eq_some_iff.mp hbefore
  obtain ⟨hlength, rfl⟩ := List.getElem?_eq_some_iff.mp he
  have htr : played.1 = played.1.take 8 ++ played.1[8] :: played.1.drop 9 := by
    rw [List.getElem_cons_drop, List.take_append_drop]
  obtain ⟨row, hrow, heq⟩ := Option.map_eq_some_iff.mp hdelivered
  obtain ⟨hopen, hstatus⟩ := Prod.mk.inj heq
  obtain ⟨row', hrow', -, hsettled⟩ := hlaw _ _ _ 1 row htr hrow
  rw [show played.2.shared.deliveries 1 = some row' from hrow', Option.map_some,
    (hsettled hopen).1, hstatus] at hfinal
  cases hfinal

end

end ScientificProtocol.Webhooks
