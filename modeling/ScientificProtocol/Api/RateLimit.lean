import ScientificProtocol.Sql.Table
import ScientificProtocol.Concurrency.Processes
import Mathlib.Data.Fintype.Basic

/-!
# Rate limits

`consumeConfiguredRateLimit` of `src/api/rate-limit.ts` with the backend `postgres`, as a process.
A call deletes some buckets that have expired, counts itself in the bucket of its key, and is allowed
if the count is within the rule. Both statements are given their time when they begin, and take
effect later. What the first one deletes it has picked when it began; a bucket that has been reset in
the meantime is deleted all the same, with the calls it has counted. The time of a call is that of
the statement that counts it.

If a bucket ends only when it has expired for every statement that may still count in it, no window
that starts with a bucket has more calls in it than the rule allows
(`ScientificProtocol.Api.bounded_of_careful`). A deletion that comes too late makes room for more
(`ScientificProtocol.Api.counted_discarded`).

Points in time are numbers of microseconds, as the database has them; the server counts
milliseconds.
-/

namespace ScientificProtocol.Api

open Concurrency Sql

structure ApiRateLimitRule where
  maxRequests : ℕ
  windowMs : ℕ
  deriving DecidableEq

/-- A row of `api_rate_limit_buckets`. -/
structure BucketRow where
  bucketKey : String
  requestCount : ℕ
  resetAt : ℕ
  deriving DecidableEq

/-- The table, whose rows are told apart by the place they have been inserted at. There is one at
most for each key. -/
structure RateLimitDb where
  /-- The last `NOW()`. -/
  clock : ℕ
  buckets : Serial BucketRow
  unique : buckets.Unique BucketRow.bucketKey

/-- The table before any call. -/
def RateLimitDb.empty : RateLimitDb := ⟨0, .empty, Serial.unique_empty⟩

/-- What a call answers, with the headers of the response. -/
structure RateLimitAnswer where
  allowed : Bool
  retryAfterSeconds : ℤ
  headers : List (String × String)
  deriving DecidableEq

/-! ### Statements -/

/-- `Math.ceil(milliseconds / 1000)`. -/
def ceilSeconds (milliseconds : ℤ) : ℤ := -(-milliseconds / 1000)

/-- With the time of the server. -/
def setRateLimitHeaders (rule : ApiRateLimitRule) (count resetAt now : ℕ) : RateLimitAnswer :=
  let retryAfterSeconds := max 1 (ceilSeconds ((resetAt : ℤ) - now))
  { allowed := count ≤ rule.maxRequests
    retryAfterSeconds
    headers := [
      ("x-ratelimit-limit", toString rule.maxRequests),
      ("x-ratelimit-remaining", toString (rule.maxRequests - count)),
      ("x-ratelimit-reset", toString (ceilSeconds resetAt))] ++
        if rule.maxRequests < count then [("retry-after", toString retryAfterSeconds)] else [] }

/-- The end of a window. -/
def ApiRateLimitRule.windowEnd (rule : ApiRateLimitRule) (now : ℕ) : ℕ := now + rule.windowMs * 1000

/-- The bucket of a key, and where it is. -/
def RateLimitDb.bucket (db : RateLimitDb) (bucketKey : String) : Option (ℕ × BucketRow) :=
  db.buckets.findBy BucketRow.bucketKey bucketKey

def RateLimitDb.row? (db : RateLimitDb) (bucketKey : String) : Option BucketRow :=
  (db.bucket bucketKey).map Prod.snd

/-- What `WITH expired` may pick: a hundred of the buckets that have expired, and none while it
leaves an older one. -/
def RateLimitDb.mayPick (db : RateLimitDb) (now : ℕ) (expired : List ℕ) : Bool :=
  let rows := db.buckets.select fun _ row => row.resetAt ≤ now
  decide expired.Nodup && decide (expired.length = min 100 rows.length) &&
    expired.all (fun place => place ∈ rows.map Prod.fst) &&
      rows.all fun (place, row) => place ∈ expired ||
        rows.all fun (place', row') => place' ∉ expired || row'.resetAt ≤ row.resetAt

/-- `DELETE ... USING expired`. -/
def RateLimitDb.deleteExpired (db : RateLimitDb) (expired : List ℕ) : RateLimitDb where
  clock := db.clock
  buckets := db.buckets.deleteWhere fun place _ => place ∈ expired
  unique := db.unique.deleteWhere _

/-- The row that is inserted. -/
def BucketRow.first (rule : ApiRateLimitRule) (bucketKey : String) (now : ℕ) : BucketRow :=
  ⟨bucketKey, 1, rule.windowEnd now⟩

/-- `ON CONFLICT (bucket_key) DO UPDATE SET`. -/
def BucketRow.next (row : BucketRow) (rule : ApiRateLimitRule) (now : ℕ) : BucketRow where
  bucketKey := row.bucketKey
  requestCount := if row.resetAt ≤ now then 1 else row.requestCount + 1
  resetAt := if row.resetAt ≤ now then rule.windowEnd now else row.resetAt

/-- The greatest `INTEGER`. -/
def maxInteger : ℕ := 2147483647

/-- The call counts itself. The statement fails if the count is out of range. -/
def RateLimitDb.count (db : RateLimitDb) (rule : ApiRateLimitRule) (bucketKey : String) (now : ℕ) :
    Option (RateLimitDb × BucketRow) :=
  match h : db.bucket bucketKey with
  | none => some (⟨db.clock, db.buckets.insert (.first rule bucketKey now), db.unique.insert h⟩,
      .first rule bucketKey now)
  | some (place, row) =>
    if (row.next rule now).requestCount ≤ maxInteger then
      some (⟨db.clock, db.buckets.update place fun row => row.next rule now,
        db.unique.update fun _ => rfl⟩, row.next rule now)
    else none

/-! ### Calls -/

/-- Where a call is. -/
inductive RateLimitRun where
  | idle
  | called (bucketKey : String)
  /-- The first statement has begun. -/
  | cleaning (bucketKey : String) (now : ℕ) (expired : List ℕ)
  | cleaned (bucketKey : String)
  /-- The second one has begun. -/
  | counting (bucketKey : String) (now : ℕ)
  | counted (bucketKey : String) (now : ℕ) (row : BucketRow)
  | returned (answer : RateLimitAnswer)
  /-- "rate_limit_store_unavailable" -/
  | threw
  | crashed
  deriving DecidableEq

/-- What happens in a call. -/
inductive RateLimitAction where
  | call (bucketKey : String)
  | beginDelete (now : ℕ) (expired : List ℕ)
  | delete
  | beginCount (now : ℕ)
  | count
  /-- With the time of the server. -/
  | answer (serverNow : ℕ)
  | fail
  | crash
  deriving DecidableEq

/-- A call that has asked for something and has not been answered. -/
def RateLimitRun.running : RateLimitRun → Bool
  | .called _ | .cleaning .. | .cleaned _ | .counting .. | .counted .. => true
  | _ => false

section

variable (rule : String → ApiRateLimitRule)

/-- **One action of a call.** -/
def rateLimitAct : RateLimitAction → RateLimitDb → RateLimitRun →
    Option (RateLimitDb × RateLimitRun)
  | .call bucketKey, db, .idle =>
    if (rule bucketKey).maxRequests ≤ 0 ∨ (rule bucketKey).windowMs ≤ 0 then
      some (db, .returned ⟨true, 0, []⟩)
    else some (db, .called bucketKey)
  | .beginDelete now expired, db, .called bucketKey =>
    if db.clock ≤ now ∧ db.mayPick now expired then
      some ({ db with clock := now }, .cleaning bucketKey now expired)
    else none
  | .delete, db, .cleaning bucketKey _ expired =>
    some (db.deleteExpired expired, .cleaned bucketKey)
  | .beginCount now, db, .cleaned bucketKey =>
    if db.clock ≤ now then some ({ db with clock := now }, .counting bucketKey now) else none
  | .count, db, .counting bucketKey now =>
    match db.count (rule bucketKey) bucketKey now with
    | some (db, row) => some (db, .counted bucketKey now row)
    | none => some (db, .threw)
  | .answer serverNow, db, .counted bucketKey _ row =>
    some (db, .returned
      (setRateLimitHeaders (rule bucketKey) row.requestCount (row.resetAt / 1000) serverNow))
  | .fail, db, run => if run.running then some (db, .threw) else none
  | .crash, db, run => if run.running then some (db, .crashed) else none
  | _, _, _ => none

/-- **Calls**, of any keys. -/
def rateLimitCalls : Processes RateLimitDb RateLimitRun RateLimitAction Empty where
  genesis db := db = .empty
  idle := .idle
  act := rateLimitAct rule
  env _ _ _ := False

variable {ι : Type}

/-- A moment of a history of calls. -/
abbrev RateLimitMoment (ι : Type) : Type := Config ι RateLimitDb RateLimitRun

/-- A step of such a history. -/
abbrev RateLimitEvent (ι : Type) : Type :=
  Event ι RateLimitDb RateLimitRun RateLimitAction Empty

/-- The bucket of a key has expired, or there is none. -/
def RateLimitDb.isOver (db : RateLimitDb) (bucketKey : String) (now : ℕ) : Bool :=
  (db.row? bucketKey).all (·.resetAt ≤ now)

/-- The key and the time of a bucket that is created or reset. -/
def startOf (e : RateLimitEvent ι) : Option (String × ℕ) :=
  match e.label with
  | .act i .count => match e.before.process i with
    | .counting bucketKey now =>
      if e.before.shared.isOver bucketKey now then some (bucketKey, now) else none
    | _ => none
  | _ => none

/-- A call that has counted itself, with the time of its statement and the count it has got. -/
structure Count (ι : Type) where
  caller : ι
  bucketKey : String
  now : ℕ
  requestCount : ℕ

/-- The call that is answered in a step, if it is allowed. -/
def allowedOf (e : RateLimitEvent ι) : Option (Count ι) :=
  match e.label with
  | .act i (.answer _) => match e.before.process i, e.after.process i with
    | .counted bucketKey now row, .returned answer =>
      if answer.allowed then some ⟨i, bucketKey, now, row.requestCount⟩ else none
    | _, _ => none
  | _ => none

/-- A call is in the window that starts with a bucket. -/
def inWindow (bucketKey : String) (start : ℕ) (count : Count ι) : Bool :=
  count.bucketKey = bucketKey ∧ start ≤ count.now ∧ count.now < (rule bucketKey).windowEnd start

/-- **No window that starts with a bucket has more calls of its key that are allowed than the rule
says.** -/
def Bounded (tr : List (RateLimitEvent ι)) : Prop :=
  ∀ e ∈ tr, ∀ bucketKey start, startOf e = some (bucketKey, start) →
    (tr.filterMap allowedOf).countP (inWindow rule bucketKey start) ≤ (rule bucketKey).maxRequests

end

section

variable {ι : Type}

/-- A statement that ends a bucket: it deletes it or resets it. -/
def RateLimitAction.ends (place : ℕ) (row : BucketRow) : RateLimitAction → RateLimitRun → Bool
  | .delete, .cleaning _ _ expired => place ∈ expired
  | .count, .counting bucketKey now => row.bucketKey = bucketKey ∧ row.resetAt ≤ now
  | _, _ => false

/-- The time of the statement that has begun. -/
def RateLimitRun.now? : RateLimitRun → Option ℕ
  | .cleaning _ now _ | .counting _ now => some now
  | _ => none

/-- The time of a statement that is about to count in a bucket. -/
def RateLimitRun.countingSince (bucketKey : String) : RateLimitRun → Option ℕ
  | .counting bucketKey' now => if bucketKey' = bucketKey then some now else none
  | _ => none

/-- The buckets that end in a step. -/
def endedBy (e : RateLimitEvent ι) : List (ℕ × BucketRow) :=
  match e.label with
  | .act i a => e.before.shared.buckets.select fun place row =>
      a.ends place row (e.before.process i)
  | .env _ => []

/-- The time of the statement that takes effect in a step. -/
def nowOf (e : RateLimitEvent ι) : Option ℕ :=
  match e.label with
  | .act i _ => (e.before.process i).now?
  | .env _ => none

/-- **A step is careful** if the buckets that end have expired for the statement that ends them, and
for all that are about to count in them. -/
def Careful (e : RateLimitEvent ι) : Prop :=
  ∀ bucket ∈ endedBy e, (∀ now ∈ nowOf e, bucket.2.resetAt ≤ now) ∧
    ∀ i, ∀ now ∈ (e.before.process i).countingSince bucket.2.bucketKey, bucket.2.resetAt ≤ now

end

/-! ### What the statements do to a bucket -/

section

variable {rule : ApiRateLimitRule} {db db' : RateLimitDb} {bucketKey : String} {row : BucketRow}

theorem RateLimitDb.bucket_eq_some {place : ℕ} :
    db.bucket bucketKey = some (place, row) ↔
      db.buckets place = some row ∧ row.bucketKey = bucketKey :=
  db.unique.findBy_eq_some

theorem RateLimitDb.row?_eq_some :
    db.row? bucketKey = some row ↔
      ∃ place, db.buckets place = some row ∧ row.bucketKey = bucketKey := by
  rw [RateLimitDb.row?, Option.map_eq_some_iff]
  constructor
  · rintro ⟨⟨place, row'⟩, hbucket, rfl⟩
    exact ⟨place, bucket_eq_some.mp hbucket⟩
  · rintro ⟨place, h⟩
    exact ⟨(place, row), bucket_eq_some.mpr h, rfl⟩

/-- A deletion leaves the bucket of a key, or takes it away. -/
theorem RateLimitDb.row?_deleteExpired (db : RateLimitDb) (expired : List ℕ) (bucketKey : String) :
    (db.deleteExpired expired).row? bucketKey = db.row? bucketKey ∨
      (db.deleteExpired expired).row? bucketKey = none ∧
        ∃ place ∈ expired, ∃ row, db.buckets place = some row ∧ row.bucketKey = bucketKey := by
  have hbucket : (db.deleteExpired expired).bucket bucketKey =
      (db.bucket bucketKey).filter fun s => !decide (s.1 ∈ expired) :=
    db.unique.findBy_deleteWhere _ _
  rw [RateLimitDb.row?, RateLimitDb.row?, hbucket]
  cases hfound : db.bucket bucketKey with
  | none => exact .inl rfl
  | some found =>
    obtain ⟨place, row⟩ := found
    by_cases hmem : place ∈ expired
    · refine .inr ⟨?_, place, hmem, row, bucket_eq_some.mp hfound⟩
      simp [hmem]
    · refine .inl ?_
      simp [hmem]

/-- **A call counts itself** in a new bucket, or as one more in the one of its key. The other
buckets stay as they are. -/
theorem RateLimitDb.count_spec {now : ℕ} (h : db.count rule bucketKey now = some (db', row)) :
    db'.clock = db.clock ∧ db'.row? bucketKey = some row ∧
      (∀ bucketKey', bucketKey' ≠ bucketKey → db'.row? bucketKey' = db.row? bucketKey') ∧
      (db.isOver bucketKey now = true ∧ row = .first rule bucketKey now ∨
        ∃ row', db.row? bucketKey = some row' ∧ now < row'.resetAt ∧
          row = { row' with requestCount := row'.requestCount + 1 }) := by
  unfold RateLimitDb.count at h
  split at h
  next hnone =>
    obtain ⟨rfl, rfl⟩ := Prod.mk.inj (Option.some.inj h)
    have hfound := db.unique.findBy_insert (r := BucketRow.first rule bucketKey now) hnone
    refine ⟨rfl, ?_, fun bucketKey' hne => ?_, .inl ⟨?_, rfl⟩⟩
    · exact congrArg (Option.map Prod.snd) ((hfound _).trans (if_pos rfl))
    · exact congrArg (Option.map Prod.snd) ((hfound _).trans (if_neg hne.symm))
    · rw [RateLimitDb.isOver, RateLimitDb.row?, hnone]
      rfl
  next place row' hsome =>
    split at h
    next =>
      obtain ⟨rfl, rfl⟩ := Prod.mk.inj (Option.some.inj h)
      obtain ⟨hrow, hkey⟩ := bucket_eq_some.mp hsome
      have hfound := db.unique.findBy_update (k := place) (f := fun row => row.next rule now)
        fun _ => rfl
      refine ⟨rfl, ?_, fun bucketKey' hne => ?_, ?_⟩
      · refine (congrArg (Option.map Prod.snd) (hfound bucketKey)).trans ?_
        rw [show db.buckets.findBy _ bucketKey = some (place, row') from hsome]
        simp
      · refine (congrArg (Option.map Prod.snd) (hfound bucketKey')).trans ?_
        rw [Option.map_map, RateLimitDb.row?]
        refine Option.map_congr fun found hfound' => ?_
        obtain ⟨place', row''⟩ := found
        obtain ⟨hrow', hkey'⟩ := bucket_eq_some.mp hfound'
        refine if_neg fun (heq : place' = place) => hne ?_
        rw [heq, hrow] at hrow'
        rw [← hkey', ← hkey, Option.some.inj hrow']
      · have hrow? : db.row? bucketKey = some row' := row?_eq_some.mpr ⟨place, hrow, hkey⟩
        by_cases hover : row'.resetAt ≤ now
        · refine .inl ⟨?_, ?_⟩
          · rw [RateLimitDb.isOver, hrow?]
            exact decide_eq_true hover
          · rw [BucketRow.next, if_pos hover, if_pos hover, hkey]
            rfl
        · refine .inr ⟨row', hrow?, Nat.lt_of_not_le hover, ?_⟩
          rw [BucketRow.next, if_neg hover, if_neg hover]
    next => cases h

/-- A count that is out of range is one of a bucket that has not expired. -/
theorem RateLimitDb.isOver_of_count_eq_none {now : ℕ} (h : db.count rule bucketKey now = none) :
    db.isOver bucketKey now = false := by
  unfold RateLimitDb.count at h
  split at h
  next => cases h
  next place row hsome =>
    split at h
    next => cases h
    next hout =>
      rw [RateLimitDb.isOver, RateLimitDb.row?, hsome]
      refine decide_eq_false fun hover => hout ?_
      rw [BucketRow.next, if_pos hover]
      exact (by decide : 1 ≤ maxInteger)

end

/-! ### What a step does to a bucket -/

section

variable {ι : Type}

/-- A time that has passed for all that may still count in the bucket of a key. -/
structure Passed (c : RateLimitMoment ι) (bucketKey : String) (time : ℕ) : Prop where
  clock : time ≤ c.shared.clock
  counting : ∀ i now, c.process i = .counting bucketKey now → time ≤ now

/-- The call that counts itself in a step. -/
def countOf (e : RateLimitEvent ι) : Option (Count ι) :=
  match e.label with
  | .act i .count => match e.after.process i with
    | .counted bucketKey now row => some ⟨i, bucketKey, now, row.requestCount⟩
    | _ => none
  | _ => none

/-- **What a step does to the bucket of a key**: nothing; or it is deleted, or one starts, or
another call is counted in it. -/
inductive Turn (rule : ApiRateLimitRule) (e : RateLimitEvent ι) (bucketKey : String) : Prop where
  | same (hrow : e.after.shared.row? bucketKey = e.before.shared.row? bucketKey)
    (hcount : ∀ count ∈ countOf e, count.bucketKey ≠ bucketKey)
    (hstart : ∀ start, startOf e ≠ some (bucketKey, start))
  | deleted (row : BucketRow) (hrow : e.before.shared.row? bucketKey = some row)
    (hpassed : Passed e.before bucketKey row.resetAt) (hcount : countOf e = none)
    (hstart : startOf e = none)
  | started (i : ι) (now : ℕ) (hcounting : e.before.process i = .counting bucketKey now)
    (hover : ∀ row ∈ e.before.shared.row? bucketKey,
      row.resetAt ≤ now ∧ Passed e.before bucketKey row.resetAt)
    (hrow : e.after.shared.row? bucketKey = some (.first rule bucketKey now))
    (hcount : countOf e = some ⟨i, bucketKey, now, 1⟩) (hstart : startOf e = some (bucketKey, now))
  | counted (i : ι) (now : ℕ) (row : BucketRow)
    (hcounting : e.before.process i = .counting bucketKey now)
    (hrow : e.before.shared.row? bucketKey = some row) (hnow : now < row.resetAt)
    (hrow' : e.after.shared.row? bucketKey =
      some { row with requestCount := row.requestCount + 1 })
    (hcount : countOf e = some ⟨i, bucketKey, now, row.requestCount + 1⟩)
    (hstart : startOf e = none)

variable {rule : String → ApiRateLimitRule} {c : RateLimitMoment ι} {i : ι}
  {a : RateLimitAction} {db : RateLimitDb} {run : RateLimitRun} {bucketKey : String}

/-- What the time of a statement is, and the rule it counts by. -/
def Timed (rule : String → ApiRateLimitRule) (db : RateLimitDb) : RateLimitRun → Prop
  | .called bucketKey | .cleaned bucketKey => 0 < (rule bucketKey).windowMs
  | .cleaning bucketKey now _ | .counting bucketKey now =>
    0 < (rule bucketKey).windowMs ∧ now ≤ db.clock
  | _ => True

/-- **The frame of an action**: the clock goes on, a statement that begins is told the time, and
only the two statements change the buckets. -/
theorem rateLimitAct_frame (hact : rateLimitAct rule a c.shared (c.process i) = some (db, run)) :
    c.shared.clock ≤ db.clock ∧ (∀ bucketKey now, run = .counting bucketKey now →
      c.shared.clock ≤ now) ∧ (a ≠ .delete → a ≠ .count → db.buckets = c.shared.buckets) := by
  have hsame : ∀ {run : RateLimitRun}, (∀ bucketKey now, run ≠ .counting bucketKey now) →
      c.shared.clock ≤ c.shared.clock ∧ (∀ bucketKey now, run = .counting bucketKey now →
        c.shared.clock ≤ now) ∧ (a ≠ .delete → a ≠ .count → c.shared.buckets = c.shared.buckets) :=
    fun hrun => ⟨Nat.le_refl _, fun _ _ h => absurd h (hrun _ _), fun _ _ => rfl⟩
  unfold rateLimitAct at hact
  split at hact
  case h_1 =>
    split at hact <;>
      · obtain ⟨rfl, rfl⟩ := Prod.mk.inj (Option.some.inj hact)
        exact hsame fun _ _ h => by cases h
  case h_2 =>
    split at hact
    next hnow =>
      obtain ⟨rfl, rfl⟩ := Prod.mk.inj (Option.some.inj hact)
      exact ⟨hnow.1, fun _ _ h => (by cases h), fun _ _ => rfl⟩
    next => cases hact
  case h_3 =>
    obtain ⟨rfl, rfl⟩ := Prod.mk.inj (Option.some.inj hact)
    exact ⟨Nat.le_refl _, fun _ _ h => (by cases h), fun h => absurd rfl h⟩
  case h_4 =>
    split at hact
    next hnow =>
      obtain ⟨rfl, rfl⟩ := Prod.mk.inj (Option.some.inj hact)
      refine ⟨hnow, fun _ _ h => ?_, fun _ _ => rfl⟩
      cases h
      exact hnow
    next => cases hact
  case h_5 =>
    split at hact
    next hcounted =>
      obtain ⟨rfl, rfl⟩ := Prod.mk.inj (Option.some.inj hact)
      exact ⟨(RateLimitDb.count_spec hcounted).1.ge, fun _ _ h => (by cases h),
        fun _ h => absurd rfl h⟩
    next =>
      obtain ⟨rfl, rfl⟩ := Prod.mk.inj (Option.some.inj hact)
      exact hsame fun _ _ h => by cases h
  case h_6 =>
    obtain ⟨rfl, rfl⟩ := Prod.mk.inj (Option.some.inj hact)
    exact hsame fun _ _ h => by cases h
  case h_7 | h_8 =>
    split at hact
    next =>
      obtain ⟨rfl, rfl⟩ := Prod.mk.inj (Option.some.inj hact)
      exact hsame fun _ _ h => by cases h
    next => cases hact
  case h_9 => cases hact

variable [DecidableEq ι]

/-- A bucket that ends in a careful step has passed. -/
theorem Careful.passed (h : Careful ⟨c, .act i a, ⟨db, Function.update c.process i run⟩⟩)
    (htimed : Timed rule c.shared (c.process i)) {now place : ℕ} {row : BucketRow}
    (hnow : (c.process i).now? = some now) (hrow : c.shared.buckets place = some row)
    (hends : a.ends place row (c.process i) = true) :
    row.resetAt ≤ now ∧ Passed c row.bucketKey row.resetAt := by
  obtain ⟨hbefore, hcounting⟩ := h (place, row) (Serial.mem_select.mpr ⟨hrow, hends⟩)
  have hover : row.resetAt ≤ now := hbefore now hnow
  have hclock : now ≤ c.shared.clock := by
    cases hrun : c.process i with
    | cleaning | counting =>
      rw [hrun] at hnow htimed
      obtain rfl := Option.some.inj hnow
      exact htimed.2
    | _ =>
      rw [hrun] at hnow
      cases hnow
  refine ⟨hover, hover.trans hclock, fun j now' hj => hcounting j now' ?_⟩
  rw [hj]
  exact if_pos rfl

/-- What has passed stays so. -/
theorem Passed.act (hact : rateLimitAct rule a c.shared (c.process i) = some (db, run)) {time : ℕ}
    (h : Passed c bucketKey time) :
    Passed (⟨db, Function.update c.process i run⟩ : RateLimitMoment ι) bucketKey time := by
  obtain ⟨hclock, hcounting, -⟩ := rateLimitAct_frame hact
  refine ⟨h.clock.trans hclock, fun j now hj => ?_⟩
  rcases eq_or_ne j i with rfl | hne
  · exact h.clock.trans (hcounting bucketKey now ((Function.update_self _ _ _).symm.trans hj))
  · exact h.counting j now ((Function.update_of_ne hne _ _).symm.trans hj)

/-- The call that counts itself is the one that has the count afterwards. -/
theorem countOf_count (c : RateLimitMoment ι) (i : ι) (db : RateLimitDb) (bucketKey : String)
    (now : ℕ) (row : BucketRow) :
    countOf ⟨c, .act i .count, ⟨db, Function.update c.process i (.counted bucketKey now row)⟩⟩ =
      some ⟨i, bucketKey, now, row.requestCount⟩ := by
  rw [countOf]
  simp only [Function.update_self]

/-- **A careful step** does one of these to each bucket. -/
theorem turn_of_careful (hact : rateLimitAct rule a c.shared (c.process i) = some (db, run))
    (htimed : Timed rule c.shared (c.process i))
    (hcareful : Careful ⟨c, .act i a, ⟨db, Function.update c.process i run⟩⟩)
    (bucketKey : String) :
    Turn (rule bucketKey) ⟨c, .act i a, ⟨db, Function.update c.process i run⟩⟩ bucketKey := by
  cases a with
  | delete =>
    cases hrun : c.process i with
    | cleaning bucketKey' now expired =>
      rw [hrun] at hact
      obtain ⟨rfl, rfl⟩ := Prod.mk.inj (Option.some.inj hact)
      rcases c.shared.row?_deleteExpired expired bucketKey with hsame |
        ⟨hnone, place, hmem, row, hrow, rfl⟩
      · exact .same hsame (fun _ h => by cases h) fun _ h => by cases h
      · refine .deleted row (RateLimitDb.row?_eq_some.mpr ⟨place, hrow, rfl⟩) ?_ rfl rfl
        refine (hcareful.passed htimed (congrArg RateLimitRun.now? hrun) hrow ?_).2
        rw [hrun]
        exact decide_eq_true hmem
    | _ =>
      rw [hrun] at hact
      cases hact
  | count =>
    cases hrun : c.process i with
    | counting bucketKey' now =>
      have hstart : startOf ⟨c, .act i .count, ⟨db, Function.update c.process i run⟩⟩ =
          if c.shared.isOver bucketKey' now then some (bucketKey', now) else none := by
        rw [startOf]
        simp only [hrun]
      rw [hrun] at hact
      simp only [rateLimitAct] at hact
      split at hact
      next db' row hcounted =>
        obtain ⟨rfl, rfl⟩ := Prod.mk.inj (Option.some.inj hact)
        have hcount := countOf_count c i db' bucketKey' now row
        obtain ⟨-, hself, hothers, hcases⟩ := RateLimitDb.count_spec hcounted
        by_cases hkey : bucketKey = bucketKey'
        · subst hkey
          rcases hcases with ⟨hover, rfl⟩ | ⟨row', hrow', hnow, rfl⟩
          · rw [if_pos hover] at hstart
            refine .started i now hrun (fun row hrow => ?_) hself hcount hstart
            obtain ⟨place, hplace, hkey⟩ := RateLimitDb.row?_eq_some.mp hrow
            have hends : RateLimitAction.ends place row .count (c.process i) = true := by
              rw [RateLimitDb.isOver, hrow] at hover
              rw [hrun]
              exact decide_eq_true ⟨hkey, of_decide_eq_true hover⟩
            rw [← hkey]
            exact hcareful.passed htimed (congrArg RateLimitRun.now? hrun) hplace hends
          · have hnotOver : c.shared.isOver bucketKey now = false := by
              rw [RateLimitDb.isOver, hrow']
              exact decide_eq_false (Nat.not_le_of_lt hnow)
            rw [hnotOver] at hstart
            exact .counted i now row' hrun hrow' hnow hself hcount hstart
        · refine .same (hothers bucketKey hkey) (fun count hmem => ?_) fun start heq => ?_
          · obtain rfl := Option.some.inj (hcount.symm.trans hmem)
            exact fun heq => hkey heq.symm
          · rw [hstart] at heq
            split at heq
            next => exact hkey (Prod.mk.inj (Option.some.inj heq)).1.symm
            next => cases heq
      next hnone =>
        obtain ⟨rfl, rfl⟩ := Prod.mk.inj (Option.some.inj hact)
        rw [RateLimitDb.isOver_of_count_eq_none hnone] at hstart
        refine .same rfl (fun count hmem => ?_) fun start heq => ?_
        · simp [countOf] at hmem
        · exact absurd (heq.symm.trans hstart) (Option.some_ne_none _)
    | _ =>
      rw [hrun] at hact
      cases hact
  | _ =>
    obtain ⟨-, -, hbuckets⟩ := rateLimitAct_frame hact
    refine .same ?_ (fun _ h => by cases h) fun _ h => by cases h
    rw [RateLimitDb.row?, RateLimitDb.bucket, hbuckets (by simp) (by simp)]
    rfl

end

/-! ### The windows -/

section

variable {ι : Type} {rule : String → ApiRateLimitRule} {bucketKey : String} {start : ℕ}
  {tr : List (RateLimitEvent ι)} {e : RateLimitEvent ι} {c : RateLimitMoment ι}

/-- The counts that the calls of a window have got. -/
def windowCounts (rule : String → ApiRateLimitRule) (tr : List (RateLimitEvent ι))
    (bucketKey : String) (start : ℕ) : List ℕ :=
  ((tr.filterMap countOf).filter (inWindow rule bucketKey start)).map (·.requestCount)

/-- **The tally of a key**: its calls have counted themselves before its bucket is over, or what
they have counted themselves in has passed; and in each of its windows they have got different
counts, of the bucket that is still there or of one that has passed. -/
structure Tally (rule : String → ApiRateLimitRule) (tr : List (RateLimitEvent ι))
    (c : RateLimitMoment ι) (bucketKey : String) : Prop where
  past : ∀ count ∈ tr.filterMap countOf, count.bucketKey = bucketKey →
    (∃ row ∈ c.shared.row? bucketKey, count.now < row.resetAt) ∨
      Passed c bucketKey (count.now + 1)
  windows : ∀ e ∈ tr, ∀ start, startOf e = some (bucketKey, start) →
    (windowCounts rule tr bucketKey start).Nodup ∧
      ((∃ row ∈ c.shared.row? bucketKey, row.resetAt = (rule bucketKey).windowEnd start ∧
        ∀ n ∈ windowCounts rule tr bucketKey start, n ≤ row.requestCount) ∨
          Passed c bucketKey ((rule bucketKey).windowEnd start))

theorem mem_countOf_snoc {count : Count ι} :
    count ∈ (tr ++ [e]).filterMap countOf ↔ count ∈ tr.filterMap countOf ∨ count ∈ countOf e := by
  rw [List.filterMap_append, List.mem_append]
  refine or_congr Iff.rfl ?_
  simp

/-- The counts of a window after a step. -/
theorem windowCounts_of_in {count : Count ι} (hcount : countOf e = some count)
    (hin : inWindow rule bucketKey start count = true) :
    windowCounts rule (tr ++ [e]) bucketKey start =
      windowCounts rule tr bucketKey start ++ [count.requestCount] := by
  rw [windowCounts, List.filterMap_append, List.filter_append, List.map_append]
  refine congrArg (windowCounts rule tr bucketKey start ++ ·) ?_
  simp [hcount, hin]

theorem windowCounts_of_out (h : ∀ count ∈ countOf e, inWindow rule bucketKey start count = false) :
    windowCounts rule (tr ++ [e]) bucketKey start = windowCounts rule tr bucketKey start := by
  rw [windowCounts, List.filterMap_append, List.filter_append, List.map_append]
  refine (congrArg (windowCounts rule tr bucketKey start ++ ·) ?_).trans (List.append_nil _)
  cases hcount : countOf e with
  | none => simp [hcount]
  | some count => simp [hcount, h count hcount]

/-- A call of another key, or after the window, is not in it. -/
theorem inWindow_of_ne {count : Count ι} (h : count.bucketKey ≠ bucketKey) :
    inWindow rule bucketKey start count = false :=
  decide_eq_false fun hin => h hin.1

theorem inWindow_of_le {count : Count ι} (h : (rule bucketKey).windowEnd start ≤ count.now) :
    inWindow rule bucketKey start count = false :=
  decide_eq_false fun hin => Nat.not_le_of_lt hin.2.2 h

/-- **The tally after a step.** -/
theorem Tally.turn {l : Label ι RateLimitAction Empty} {c' : RateLimitMoment ι}
    (h : Tally rule tr c bucketKey) (hturn : Turn (rule bucketKey) ⟨c, l, c'⟩ bucketKey)
    (hpassed : ∀ {time}, Passed c bucketKey time → Passed c' bucketKey time)
    (hwindow : ∀ {i now}, c.process i = .counting bucketKey now →
      0 < (rule bucketKey).windowMs) :
    Tally rule (tr ++ [⟨c, l, c'⟩]) c' bucketKey := by
  cases hturn with
  | same hrow hcount hstart =>
    refine ⟨fun count hmem hkey => ?_, fun e he start hs => ?_⟩
    · rcases mem_countOf_snoc.mp hmem with hold | hnew
      · rw [show c'.shared.row? bucketKey = _ from hrow]
        exact (h.past count hold hkey).imp_right hpassed
      · exact absurd hkey (hcount count hnew)
    · rcases List.mem_append.mp he with he | he
      · rw [windowCounts_of_out fun count hmem => inWindow_of_ne (hcount count hmem),
          show c'.shared.row? bucketKey = _ from hrow]
        exact (h.windows e he start hs).imp_right fun hw => hw.imp_right hpassed
      · rw [List.mem_singleton.mp he] at hs
        exact absurd hs (hstart start)
  | deleted row hrow hover hcount hstart =>
    have hover' : Passed c' bucketKey row.resetAt := hpassed hover
    refine ⟨fun count hmem hkey => .inr ?_, fun e he start hs => ?_⟩
    · rcases mem_countOf_snoc.mp hmem with hold | hnew
      · rcases h.past count hold hkey with ⟨row', hrow', hlt⟩ | hpast
        · obtain rfl := Option.some.inj (hrow.symm.trans hrow')
          exact ⟨Nat.le_trans hlt hover'.clock, fun j now hj =>
            Nat.le_trans hlt (hover'.counting j now hj)⟩
        · exact hpassed hpast
      · rw [hcount] at hnew
        cases hnew
    · rcases List.mem_append.mp he with he | he
      · rw [windowCounts_of_out fun count hmem => by rw [hcount] at hmem; cases hmem]
        refine (h.windows e he start hs).imp_right fun hw => .inr ?_
        rcases hw with ⟨row', hrow', hend, -⟩ | hpast
        · obtain rfl := Option.some.inj (hrow.symm.trans hrow')
          exact hend ▸ hover'
        · exact hpassed hpast
      · rw [List.mem_singleton.mp he, hstart] at hs
        cases hs
  | started i now hcounting hover hrow hcount hstart =>
    have hlt : now < (rule bucketKey).windowEnd now := by
      have := hwindow hcounting
      rw [ApiRateLimitRule.windowEnd]
      omega
    have hbefore : ∀ count ∈ tr.filterMap countOf, count.bucketKey = bucketKey →
        count.now < now := by
      intro count hold hkey
      rcases h.past count hold hkey with ⟨row', hrow', hlt⟩ | hpast
      · exact hlt.trans_le (hover row' hrow').1
      · exact hpast.counting i now hcounting
    refine ⟨fun count hmem hkey => .inl ⟨_, hrow, ?_⟩, fun e he start hs => ?_⟩
    · rcases mem_countOf_snoc.mp hmem with hold | hnew
      · exact (hbefore count hold hkey).trans hlt
      · rw [hcount] at hnew
        obtain rfl := Option.some.inj hnew
        exact hlt
    · rcases List.mem_append.mp he with he | he
      · -- The windows of older buckets have ended.
        obtain ⟨hnodup, hw⟩ := h.windows e he start hs
        have hended : (rule bucketKey).windowEnd start ≤ now ∧
            Passed c' bucketKey ((rule bucketKey).windowEnd start) := by
          rcases hw with ⟨row', hrow', hend, -⟩ | hpast
          · obtain ⟨hle, hpast⟩ := hover row' hrow'
            exact hend ▸ ⟨hle, hpassed hpast⟩
          · exact ⟨hpast.counting i now hcounting, hpassed hpast⟩
        rw [windowCounts_of_out fun count hmem => ?_]
        · exact ⟨hnodup, .inr hended.2⟩
        · rw [hcount] at hmem
          obtain rfl := Option.some.inj hmem
          exact inWindow_of_le hended.1
      · -- The new one has the call that has started it.
        rw [List.mem_singleton.mp he, hstart] at hs
        obtain rfl : now = start := (Prod.mk.inj (Option.some.inj hs)).2
        have hnone : windowCounts rule tr bucketKey now = [] := by
          rw [windowCounts, List.map_eq_nil_iff, List.filter_eq_nil_iff]
          intro count hold hin
          obtain ⟨hkey, hle, -⟩ := of_decide_eq_true hin
          exact Nat.not_le_of_lt (hbefore count hold hkey) hle
        have hone : windowCounts rule (tr ++ [⟨c, l, c'⟩]) bucketKey now = [1] := by
          have hin : inWindow rule bucketKey now ⟨i, bucketKey, now, 1⟩ = true :=
            decide_eq_true ⟨rfl, Nat.le_refl _, hlt⟩
          rw [windowCounts_of_in hcount hin, hnone]
          rfl
        rw [hone]
        refine ⟨List.nodup_singleton 1, .inl ⟨_, hrow, rfl, fun n hn => ?_⟩⟩
        exact (List.mem_singleton.mp hn).le
  | counted i now row hcounting hrow hnow hrow' hcount hstart =>
    refine ⟨fun count hmem hkey => ?_, fun e he start hs => ?_⟩
    · rcases mem_countOf_snoc.mp hmem with hold | hnew
      · rcases h.past count hold hkey with ⟨row', hrow'', hlt⟩ | hpast
        · obtain rfl := Option.some.inj (hrow.symm.trans hrow'')
          exact .inl ⟨_, hrow', hlt⟩
        · exact .inr (hpassed hpast)
      · rw [hcount] at hnew
        obtain rfl := Option.some.inj hnew
        exact .inl ⟨_, hrow', hnow⟩
    · rcases List.mem_append.mp he with he | he
      · obtain ⟨hnodup, hw⟩ := h.windows e he start hs
        rcases hw with ⟨row', hrow'', hend, hle⟩ | hpast
        · -- The call gets a count that is greater than those before.
          obtain rfl := Option.some.inj (hrow.symm.trans hrow'')
          by_cases hin : inWindow rule bucketKey start ⟨i, bucketKey, now, row.requestCount + 1⟩
          · rw [windowCounts_of_in hcount hin]
            refine ⟨List.nodup_append.mpr ⟨hnodup, List.nodup_singleton _, fun n hn m hm => ?_⟩,
              .inl ⟨_, hrow', hend, fun n hn => ?_⟩⟩
            · rw [List.mem_singleton.mp hm]
              exact Nat.ne_of_lt (Nat.lt_succ_of_le (hle n hn))
            · rcases List.mem_append.mp hn with hn | hn
              · exact (hle n hn).trans (Nat.le_succ _)
              · exact (List.mem_singleton.mp hn).le
          · rw [windowCounts_of_out fun count hmem => ?_]
            · exact ⟨hnodup, .inl ⟨_, hrow', hend, fun n hn => (hle n hn).trans (Nat.le_succ _)⟩⟩
            · rw [hcount] at hmem
              obtain rfl := Option.some.inj hmem
              exact Bool.eq_false_of_not_eq_true hin
        · rw [windowCounts_of_out fun count hmem => ?_]
          · exact ⟨hnodup, .inr (hpassed hpast)⟩
          · rw [hcount] at hmem
            obtain rfl := Option.some.inj hmem
            exact inWindow_of_le (hpast.counting i now hcounting)
      · rw [List.mem_singleton.mp he, hstart] at hs
        cases hs

end

/-! ### The answers -/

section

variable {ι : Type} {rule : String → ApiRateLimitRule} {tr : List (RateLimitEvent ι)}
  {c : RateLimitMoment ι} {i : ι} {a : RateLimitAction} {db db' : RateLimitDb} {run : RateLimitRun}

theorem Timed.mono (h : Timed rule db run) (hclock : db.clock ≤ db'.clock) :
    Timed rule db' run := by
  cases run with
  | cleaning | counting => exact ⟨h.1, h.2.trans hclock⟩
  | called | cleaned => exact h
  | idle | counted | returned | threw | crashed => exact True.intro

/-- A call goes on by the rule of its key, and at the time of its statements. -/
theorem Timed.act (h : Timed rule c.shared (c.process i))
    (hact : rateLimitAct rule a c.shared (c.process i) = some (db, run)) : Timed rule db run := by
  generalize c.process i = run' at h hact
  unfold rateLimitAct at hact
  split at hact
  case h_1 bucketKey =>
    split at hact
    next =>
      obtain ⟨rfl, rfl⟩ := Prod.mk.inj (Option.some.inj hact)
      exact True.intro
    next hlimited =>
      obtain ⟨rfl, rfl⟩ := Prod.mk.inj (Option.some.inj hact)
      exact Nat.lt_of_not_le fun hle => hlimited (.inr hle)
  case h_2 =>
    split at hact
    next =>
      obtain ⟨rfl, rfl⟩ := Prod.mk.inj (Option.some.inj hact)
      exact ⟨h, Nat.le_refl _⟩
    next => cases hact
  case h_3 =>
    obtain ⟨rfl, rfl⟩ := Prod.mk.inj (Option.some.inj hact)
    exact h.1
  case h_4 =>
    split at hact
    next =>
      obtain ⟨rfl, rfl⟩ := Prod.mk.inj (Option.some.inj hact)
      exact ⟨h, Nat.le_refl _⟩
    next => cases hact
  case h_5 =>
    split at hact <;>
      · obtain ⟨rfl, rfl⟩ := Prod.mk.inj (Option.some.inj hact)
        exact True.intro
  case h_6 =>
    obtain ⟨rfl, rfl⟩ := Prod.mk.inj (Option.some.inj hact)
    exact True.intro
  case h_7 | h_8 =>
    split at hact
    next =>
      obtain ⟨rfl, rfl⟩ := Prod.mk.inj (Option.some.inj hact)
      exact True.intro
    next => cases hact
  case h_9 => cases hact

/-- A call is counted by its second statement, and at least once. -/
theorem counted_of_act {bucketKey : String} {now : ℕ} {row : BucketRow}
    (hact : rateLimitAct rule a c.shared (c.process i) = some (db, .counted bucketKey now row)) :
    a = .count ∧ 1 ≤ row.requestCount := by
  generalize c.process i = run' at hact
  unfold rateLimitAct at hact
  split at hact
  case h_5 =>
    split at hact
    next hcounted =>
      cases hact
      refine ⟨rfl, ?_⟩
      rcases (RateLimitDb.count_spec hcounted).2.2.2 with ⟨-, rfl⟩ | ⟨row', -, -, rfl⟩
      · exact Nat.le_refl 1
      · exact Nat.le_add_left 1 _
    next => cases hact
  case h_3 | h_6 => cases hact
  case h_1 | h_2 | h_4 | h_7 | h_8 => split at hact <;> cases hact
  case h_9 => cases hact

/-- A call that has returned does nothing any more. -/
theorem rateLimitAct_returned {answer : RateLimitAnswer} :
    rateLimitAct rule a db (.returned answer) = none := by
  cases a <;> rfl

/-- A call that is allowed has been counted within the rule, and returns. -/
theorem allowedOf_eq_some [DecidableEq ι] {count : Count ι}
    (h : allowedOf ⟨c, .act i a, ⟨db, Function.update c.process i run⟩⟩ = some count)
    (hact : rateLimitAct rule a c.shared (c.process i) = some (db, run)) :
    count.requestCount ≤ (rule count.bucketKey).maxRequests ∧ count.caller = i ∧
      (∃ row, c.process i = .counted count.bucketKey count.now row ∧
        row.requestCount = count.requestCount) ∧ ∃ answer, run = .returned answer := by
  unfold allowedOf at h
  split at h
  next j serverNow hlabel =>
    cases hlabel
    split at h
    next bucketKey now row answer hbefore hafter =>
      replace hbefore : c.process i = .counted bucketKey now row := hbefore
      replace hafter : Function.update c.process i run i = .returned answer := hafter
      rw [Function.update_self] at hafter
      subst hafter
      rw [hbefore] at hact
      split at h
      next hallowed =>
        obtain rfl := Option.some.inj h
        obtain ⟨-, hanswer⟩ := Prod.mk.inj (Option.some.inj hact)
        obtain rfl := RateLimitRun.returned.inj hanswer
        exact ⟨of_decide_eq_true hallowed, rfl, ⟨row, hbefore, rfl⟩, _, rfl⟩
      next => cases h
    next => cases h
  next => cases h

/-- What is known of a call. -/
structure Asked (rule : String → ApiRateLimitRule) (tr : List (RateLimitEvent ι)) (db : RateLimitDb)
    (i : ι) (run : RateLimitRun) : Prop where
  timed : Timed rule db run
  counted : ∀ {bucketKey now row}, run = .counted bucketKey now row →
    1 ≤ row.requestCount ∧ ⟨i, bucketKey, now, row.requestCount⟩ ∈ tr.filterMap countOf
  allowed : ∀ count ∈ tr.filterMap allowedOf, count.caller = i → ∃ answer, run = .returned answer

/-- What is known of the calls that are allowed: each is one that has counted itself. -/
structure Answered (rule : String → ApiRateLimitRule) (tr : List (RateLimitEvent ι)) : Prop where
  counted : ∀ count ∈ tr.filterMap allowedOf, count ∈ tr.filterMap countOf ∧
    1 ≤ count.requestCount ∧ count.requestCount ≤ (rule count.bucketKey).maxRequests
  nodup : (tr.filterMap allowedOf).Nodup

theorem mem_allowedOf_snoc {e : RateLimitEvent ι} {count : Count ι} :
    count ∈ (tr ++ [e]).filterMap allowedOf ↔
      count ∈ tr.filterMap allowedOf ∨ count ∈ allowedOf e := by
  rw [List.filterMap_append, List.mem_append]
  refine or_congr Iff.rfl ?_
  simp

/-- **What is known holds of every history.** -/
theorem answered_run [DecidableEq ι] (h : (rateLimitCalls rule).Run tr c) :
    Answered rule tr ∧ ∀ i, Asked rule tr c.shared i (c.process i) := by
  refine h.owned (I := fun tr _ => Answered rule tr) (O := Asked rule) ?_ ?_ ?_
  · rintro db rfl
    refine ⟨⟨fun count hmem => absurd hmem List.not_mem_nil, List.nodup_nil⟩, fun i => ⟨?_, ?_, ?_⟩⟩
    · exact True.intro
    · intro _ _ _ hrun
      cases hrun
    · exact fun count hmem => absurd hmem List.not_mem_nil
  · intro tr c i a db run _ hanswered hasked hact
    obtain ⟨hclock, -, -⟩ := rateLimitAct_frame hact
    have hnew : ∀ count ∈ tr.filterMap allowedOf, count.caller ≠ i := by
      intro count hmem hcaller
      obtain ⟨answer, hreturned⟩ := (hasked i).allowed count hmem hcaller
      rw [hreturned] at hact
      exact absurd (rateLimitAct_returned.symm.trans hact) (Option.some_ne_none _).symm
    refine ⟨⟨fun count hmem => ?_, ?_⟩, ⟨(hasked i).timed.act hact, ?_, ?_⟩, fun j hj => ?_⟩
    · rcases mem_allowedOf_snoc.mp hmem with hold | hallowed
      · obtain ⟨hcount, hrange⟩ := hanswered.counted count hold
        exact ⟨mem_countOf_snoc.mpr (.inl hcount), hrange⟩
      · obtain ⟨hle, rfl, ⟨row, hbefore, hrow⟩, -⟩ := allowedOf_eq_some hallowed hact
        obtain ⟨hpos, hcount⟩ := (hasked count.caller).counted hbefore
        rw [hrow] at hpos hcount
        exact ⟨mem_countOf_snoc.mpr (.inl hcount), hpos, hle⟩
    · rw [List.filterMap_append, List.nodup_append]
      refine ⟨hanswered.nodup, ?_, fun count hold count' hallowed => ?_⟩
      · rw [List.filterMap_cons, List.filterMap_nil]
        split
        · exact List.nodup_nil
        · exact List.nodup_singleton _
      · replace hallowed :
            count' ∈ allowedOf ⟨c, .act i a, ⟨db, Function.update c.process i run⟩⟩ := by
          simpa using hallowed
        rintro rfl
        exact hnew count hold (allowedOf_eq_some hallowed hact).2.1
    · rintro bucketKey now row rfl
      obtain ⟨rfl, hpos⟩ := counted_of_act hact
      exact ⟨hpos, mem_countOf_snoc.mpr (.inr (countOf_count _ _ _ _ _ _))⟩
    · intro count hmem hcaller
      rcases mem_allowedOf_snoc.mp hmem with hold | hallowed
      · exact absurd hcaller (hnew count hold)
      · exact (allowedOf_eq_some hallowed hact).2.2.2
    · refine ⟨(hasked j).timed.mono hclock, fun hrun => ?_, fun count hmem hcaller => ?_⟩
      · obtain ⟨hpos, hcount⟩ := (hasked j).counted hrun
        exact ⟨hpos, mem_countOf_snoc.mpr (.inl hcount)⟩
      · rcases mem_allowedOf_snoc.mp hmem with hold | hallowed
        · exact (hasked j).allowed count hold hcaller
        · exact absurd (hcaller.symm.trans (allowedOf_eq_some hallowed hact).2.1) hj
  · intro tr c b db _ _ _ henv
    cases b

/-- **The tally holds of careful histories.** -/
theorem tally_run [DecidableEq ι] (h : (rateLimitCalls rule).Run tr c)
    (hcareful : ∀ e ∈ tr, Careful e) (bucketKey : String) : Tally rule tr c bucketKey := by
  refine h.history (Q := fun tr c => (∀ e ∈ tr, Careful e) → Tally rule tr c bucketKey) ?_ ?_
    hcareful
  · exact fun _ _ _ => ⟨fun _ hmem => absurd hmem List.not_mem_nil,
      fun _ hmem => absurd hmem List.not_mem_nil⟩
  · intro tr c l c' hrun ih hstep hcareful
    have hasked := (answered_run hrun).2
    cases hstep with
    | @act i a db run hact =>
      refine (ih fun e he => hcareful e (List.mem_append_left _ he)).turn
        (turn_of_careful hact (hasked i).timed
          (hcareful _ (List.mem_append_right _ (List.mem_singleton_self _))) bucketKey)
        (fun hpassed => hpassed.act hact) fun {j now} hcounting => ?_
      have htimed := (hasked j).timed
      rw [hcounting] at htimed
      exact htimed.1
    | @env b => cases b

/-- **No window of a careful history has too many calls in it.** -/
theorem bounded_of_careful [DecidableEq ι] (h : (rateLimitCalls rule).Run tr c)
    (hcareful : ∀ e ∈ tr, Careful e) : Bounded rule tr := by
  intro e he bucketKey start hstart
  obtain ⟨hanswered, -⟩ := answered_run h
  obtain ⟨hnodup, -⟩ := (tally_run h hcareful bucketKey).windows e he start hstart
  rw [List.countP_eq_length_filter]
  have hmem : ∀ count ∈ (tr.filterMap allowedOf).filter (inWindow rule bucketKey start),
      count ∈ (tr.filterMap countOf).filter (inWindow rule bucketKey start) ∧
        count.requestCount ∈ List.range' 1 (rule bucketKey).maxRequests := by
    intro count hmem
    obtain ⟨hallowed, hin⟩ := List.mem_filter.mp hmem
    obtain ⟨hcount, hpos, hle⟩ := hanswered.counted count hallowed
    refine ⟨List.mem_filter.mpr ⟨hcount, hin⟩, List.mem_range'_1.mpr ⟨hpos, ?_⟩⟩
    rw [(of_decide_eq_true hin).1] at hle
    omega
  -- Calls with the same count are the same call.
  have hcounts : (((tr.filterMap allowedOf).filter (inWindow rule bucketKey start)).map
      (·.requestCount)).Nodup :=
    (hanswered.nodup.filter _).map_on fun count hcount count' hcount' heq =>
      List.inj_on_of_nodup_map hnodup (hmem count hcount).1 (hmem count' hcount').1 heq
  have hrange : ((tr.filterMap allowedOf).filter (inWindow rule bucketKey start)).map
      (·.requestCount) ⊆ List.range' 1 (rule bucketKey).maxRequests := by
    intro n hn
    obtain ⟨count, hcount, rfl⟩ := List.mem_map.mp hn
    exact (hmem count hcount).2
  have hle := (hcounts.subperm hrange).length_le
  rwa [List.length_map, List.length_range'] at hle

/-! ### Two histories -/

/-- One request in a millisecond. -/
def onePerMillisecond (_bucketKey : String) : ApiRateLimitRule := ⟨1, 1⟩

/-- The actions of a call that is alone. -/
def calling (bucketKey : String) (now : ℕ) (expired : List ℕ) : List RateLimitAction :=
  [.call bucketKey, .beginDelete now expired, .delete, .beginCount now, .count, .answer 0]

/-- The history some actions give on an empty table. -/
def playCalls [DecidableEq ι] (moves : List (ι × RateLimitAction)) :
    Option (List (RateLimitEvent ι) × RateLimitMoment ι) :=
  (rateLimitCalls onePerMillisecond).play moves ⟨.empty, fun _ => .idle⟩

theorem run_playCalls [DecidableEq ι] {moves : List (ι × RateLimitAction)}
    (h : (playCalls moves).isSome = true) :
    (rateLimitCalls onePerMillisecond).Run ((playCalls moves).get h).1
      ((playCalls moves).get h).2 :=
  Processes.run_play rfl h

/-- The second call deletes the bucket of the first one, which has expired. -/
def oneByOne : List (Fin 3 × RateLimitAction) :=
  (calling "a" 0 []).map ((0, ·)) ++ (calling "a" 500 []).map ((1, ·)) ++
    (calling "a" 1000 [1]).map ((2, ·))

theorem oneByOne_possible : (playCalls oneByOne).isSome = true := by
  decide

instance {ι : Type} [Fintype ι] (e : RateLimitEvent ι) : Decidable (Careful e) :=
  inferInstanceAs (Decidable (∀ bucket ∈ endedBy e, (∀ now ∈ nowOf e, bucket.2.resetAt ≤ now) ∧
    ∀ i, ∀ now ∈ (e.before.process i).countingSince bucket.2.bucketKey, bucket.2.resetAt ≤ now))

theorem bounded_oneByOne :
    Bounded onePerMillisecond ((playCalls oneByOne).get oneByOne_possible).1 :=
  bounded_of_careful (run_playCalls oneByOne_possible) (by decide)

/-- The call of another key picks the bucket when it has expired, and deletes it when it has been
reset. -/
def lateDeletion : List (Fin 4 × RateLimitAction) :=
  (calling "a" 0 []).map ((0, ·)) ++
    [(1, .call "a"), (1, .beginDelete 999 []), (1, .delete), (2, .call "b"),
      (2, .beginDelete 1000 [1]), (1, .beginCount 1000), (1, .count), (1, .answer 1),
      (2, .delete)] ++
    (calling "a" 1001 []).map ((3, ·))

theorem lateDeletion_possible : (playCalls lateDeletion).isSome = true := by
  decide

/-- **The call that has been counted is discarded**, and another one is allowed in its window. -/
theorem counted_discarded :
    ¬∀ (tr : List (RateLimitEvent (Fin 4))) c, (rateLimitCalls onePerMillisecond).Run tr c →
      Bounded onePerMillisecond tr := by
  intro h
  have hbounded := h _ _ (run_playCalls lateDeletion_possible)
  generalize hplayed : ((playCalls lateDeletion).get lateDeletion_possible).1 = tr at hbounded
  have hstart : (tr[12]?.bind startOf) = some ("a", 1000) := by
    rw [← hplayed]
    decide
  have htwo : (tr.filterMap allowedOf).countP (inWindow onePerMillisecond "a" 1000) = 2 := by
    rw [← hplayed]
    decide
  obtain ⟨e, he, hs⟩ := Option.bind_eq_some_iff.mp hstart
  have hle := hbounded e (List.mem_of_getElem? he) "a" 1000 hs
  rw [htwo] at hle
  exact absurd hle (by decide)

end

end ScientificProtocol.Api
