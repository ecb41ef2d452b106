import ScientificProtocol.Api.RateLimit
import ScientificProtocol.Js.Tally

/-!
# Two limiters

The backends `memory` and `postgres` of `src/api/rate-limit.ts`, called one after the other with the
same keys, by the same clock. The one throws expired buckets away once there are 256 buckets or more,
the other a hundred of them with each call. Both are compared with a limiter that keeps every bucket
and looks at a bucket only while it has not expired: until then none of the two throws it away.

So all three answer alike (`ScientificProtocol.Api.limiters_agree_iff`), as long as the count of a
bucket is in the range of an `INTEGER`.

The server counts milliseconds, the database microseconds.
-/

namespace ScientificProtocol.Api

open Sql

/-! ### In memory -/

structure RateLimitRecord where
  count : ℕ
  resetAt : ℕ
  deriving DecidableEq

/-- The map of the buckets: its entries, in the order in which the keys have been set. -/
structure RateLimitBuckets where
  entries : List (String × RateLimitRecord)
  nodup : (entries.map Prod.fst).Nodup

namespace RateLimitBuckets

def empty : RateLimitBuckets := ⟨[], List.nodup_nil⟩

variable (buckets : RateLimitBuckets)

def size : ℕ := buckets.entries.length

def get (bucketKey : String) : Option RateLimitRecord :=
  (buckets.entries.find? fun entry => decide (entry.1 = bucketKey)).map Prod.snd

/-- The loop that deletes what has expired. -/
def deleteExpired (now : ℕ) : RateLimitBuckets where
  entries := buckets.entries.filter fun entry => decide (now < entry.2.resetAt)
  nodup := buckets.nodup.sublist (List.filter_sublist.map Prod.fst)

def evict (now : ℕ) : RateLimitBuckets :=
  if 256 ≤ buckets.size then buckets.deleteExpired now else buckets

def set (bucketKey : String) (record : RateLimitRecord) : RateLimitBuckets where
  entries := Js.upsert bucketKey record (fun _ => record) buckets.entries
  nodup := by
    rw [Js.upsert]
    split_ifs with hmem
    · rw [List.map_map]
      have hkeys : (Prod.fst ∘ fun entry : String × RateLimitRecord =>
          if entry.1 = bucketKey then (entry.1, record) else entry) = Prod.fst := by
        funext entry
        simp only [Function.comp_apply]
        split_ifs <;> rfl
      rw [hkeys]
      exact buckets.nodup
    · rw [List.map_append]
      refine List.nodup_append.mpr ⟨buckets.nodup, List.nodup_singleton _, ?_⟩
      rintro key hkey key' hkey' rfl
      have hsame : key = bucketKey := List.mem_singleton.mp hkey'
      exact hmem (hsame ▸ hkey)

end RateLimitBuckets

/-- A bucket of a window that begins. -/
def ApiRateLimitRule.freshRecord (rule : ApiRateLimitRule) (now : ℕ) : RateLimitRecord :=
  ⟨0, now + rule.windowMs⟩

/-- `current`, with the call counted. -/
def currentRecord (rule : ApiRateLimitRule) (existing : Option RateLimitRecord) (now : ℕ) :
    RateLimitRecord :=
  let current := match existing with
    | none => rule.freshRecord now
    | some existing => if existing.resetAt ≤ now then rule.freshRecord now else existing
  { current with count := current.count + 1 }

/-- The headers and the answer of `consumeRateLimit`. -/
def answerOf (rule : ApiRateLimitRule) (current : RateLimitRecord) (now : ℕ) : RateLimitAnswer :=
  let remaining := rule.maxRequests - current.count
  let retryAfterSeconds := max 1 (ceilSeconds ((current.resetAt : ℤ) - now))
  let headers := [
    ("x-ratelimit-limit", toString rule.maxRequests),
    ("x-ratelimit-remaining", toString remaining),
    ("x-ratelimit-reset", toString (ceilSeconds current.resetAt))]
  if rule.maxRequests < current.count then
    ⟨false, retryAfterSeconds, headers ++ [("retry-after", toString retryAfterSeconds)]⟩
  else ⟨true, retryAfterSeconds, headers⟩

/-- The rule does not limit anything. -/
def ApiRateLimitRule.Off (rule : ApiRateLimitRule) : Prop :=
  rule.maxRequests ≤ 0 ∨ rule.windowMs ≤ 0

instance (rule : ApiRateLimitRule) : Decidable rule.Off :=
  inferInstanceAs (Decidable (rule.maxRequests ≤ 0 ∨ rule.windowMs ≤ 0))

def consumeRateLimit (rule : ApiRateLimitRule) (buckets : RateLimitBuckets)
    (scope clientKey : String) (now : ℕ) : RateLimitBuckets × RateLimitAnswer :=
  if rule.Off then (buckets, ⟨true, 0, []⟩)
  else
    let buckets := buckets.evict now
    let bucketKey := scope ++ ":" ++ clientKey
    let current := currentRecord rule (buckets.get bucketKey) now
    (buckets.set bucketKey current, answerOf rule current now)

/-- `consumeConfiguredRateLimit` with the backend `memory`. -/
def consumeInMemory (rule : ApiRateLimitRule) (buckets : RateLimitBuckets) (bucketKey : String)
    (now : ℕ) : RateLimitBuckets × RateLimitAnswer :=
  if rule.Off then (buckets, ⟨true, 0, []⟩)
  else consumeRateLimit rule buckets "publicDemoActions" bucketKey now

/-! ### In the database -/

/-- `consumeConfiguredRateLimit` with the backend `postgres`, all of whose statements have the time
of the server. There is no answer if a statement fails. -/
def consumeInPostgres (rule : ApiRateLimitRule) (db : RateLimitDb) (bucketKey : String) (now : ℕ)
    (expired : List ℕ) : RateLimitDb × Option RateLimitAnswer :=
  if rule.Off then (db, some ⟨true, 0, []⟩)
  else
    let cleaned := { db with clock := now * 1000 }.deleteExpired expired
    match cleaned.count rule bucketKey (now * 1000) with
    | some (counted, row) =>
      (counted, some (setRateLimitHeaders rule row.requestCount (row.resetAt / 1000) now))
    | none => (cleaned, none)

/-! ### Without any eviction -/

/-- A limiter that keeps every bucket. -/
def consumeKeeping (rule : ApiRateLimitRule) (kept : String → Option RateLimitRecord)
    (bucketKey : String) (now : ℕ) : (String → Option RateLimitRecord) × RateLimitAnswer :=
  if rule.Off then (kept, ⟨true, 0, []⟩)
  else
    let current := currentRecord rule (kept bucketKey) now
    (Function.update kept bucketKey (some current), answerOf rule current now)

/-! ### One after the other -/

/-- The limiters, and the time of the last call. -/
structure Limiters where
  clock : ℕ
  buckets : RateLimitBuckets
  db : RateLimitDb
  kept : String → Option RateLimitRecord

/-- The limiters before any call. -/
def Limiters.start : Limiters := ⟨0, .empty, .empty, fun _ => none⟩

/-- A call, with its time and the buckets the database picks to be deleted. -/
structure LimiterCall where
  bucketKey : String
  now : ℕ
  expired : List ℕ
  deriving DecidableEq

section

variable (rule : String → ApiRateLimitRule)

def Limiters.memory (s : Limiters) (c : LimiterCall) : RateLimitBuckets × RateLimitAnswer :=
  consumeInMemory (rule c.bucketKey) s.buckets c.bucketKey c.now

def Limiters.postgres (s : Limiters) (c : LimiterCall) : RateLimitDb × Option RateLimitAnswer :=
  consumeInPostgres (rule c.bucketKey) s.db c.bucketKey c.now c.expired

def Limiters.keeping (s : Limiters) (c : LimiterCall) :
    (String → Option RateLimitRecord) × RateLimitAnswer :=
  consumeKeeping (rule c.bucketKey) s.kept c.bucketKey c.now

def Limiters.call (s : Limiters) (c : LimiterCall) : Limiters :=
  ⟨c.now, (s.memory rule c).1, (s.postgres rule c).1, (s.keeping rule c).1⟩

/-- **Calls, one after the other**: each with the limiters before it. -/
inductive Limited : List (Limiters × LimiterCall) → Limiters → Prop where
  | start : Limited [] .start
  | call {tr : List (Limiters × LimiterCall)} {s : Limiters} {c : LimiterCall} (h : Limited tr s)
    (hnow : s.clock ≤ c.now) (hpick : s.db.mayPick (c.now * 1000) c.expired = true) :
    Limited (tr ++ [(s, c)]) (s.call rule c)

end

/-! ### What is looked at -/

/-- A bucket while it has not expired. -/
def openAt (now : ℕ) (record : Option RateLimitRecord) : Option RateLimitRecord :=
  record.filter fun record => decide (now < record.resetAt)

theorem openAt_of_lt {now : ℕ} {record : RateLimitRecord} (h : now < record.resetAt) :
    openAt now (some record) = some record :=
  if_pos (decide_eq_true h)

theorem openAt_of_not_lt {now : ℕ} {record : RateLimitRecord} (h : ¬now < record.resetAt) :
    openAt now (some record) = none :=
  if_neg (by simpa using h)

theorem openAt_openAt {now now' : ℕ} (h : now ≤ now') (record : Option RateLimitRecord) :
    openAt now' (openAt now record) = openAt now' record := by
  cases record with
  | none => rfl
  | some record =>
    by_cases hopen : now < record.resetAt
    · rw [openAt_of_lt hopen]
    · have hlater : ¬now' < record.resetAt := fun hlt => hopen (h.trans_lt hlt)
      rw [openAt_of_not_lt hopen, openAt_of_not_lt hlater]
      rfl

/-- What is counted does not depend on buckets that have expired. -/
theorem currentRecord_eq (rule : ApiRateLimitRule) (existing : Option RateLimitRecord) (now : ℕ) :
    currentRecord rule existing now = currentRecord rule (openAt now existing) now := by
  cases existing with
  | none => rfl
  | some existing =>
    by_cases hopen : now < existing.resetAt
    · rw [openAt_of_lt hopen]
    · rw [openAt_of_not_lt hopen, currentRecord, currentRecord]
      simp only [if_pos (Nat.le_of_not_lt hopen)]

theorem currentRecord_congr (rule : ApiRateLimitRule) {existing existing' : Option RateLimitRecord}
    {now : ℕ} (h : openAt now existing = openAt now existing') :
    currentRecord rule existing now = currentRecord rule existing' now := by
  rw [currentRecord_eq, h, ← currentRecord_eq]

/-! ### The map -/

namespace RateLimitBuckets

variable {buckets : RateLimitBuckets} {bucketKey : String} {record : RateLimitRecord}

theorem get_eq_some : buckets.get bucketKey = some record ↔
    (bucketKey, record) ∈ buckets.entries := by
  rw [get, Option.map_eq_some_iff]
  constructor
  · rintro ⟨⟨key, record'⟩, hfind, rfl⟩
    have hkey : key = bucketKey := by simpa using List.find?_some hfind
    exact hkey ▸ List.mem_of_find?_eq_some hfind
  · intro hmem
    exact ⟨(bucketKey, record), Js.find?_of_nodup buckets.nodup hmem, rfl⟩

theorem get_set (buckets : RateLimitBuckets) (bucketKey : String) (record : RateLimitRecord)
    (key : String) : (buckets.set bucketKey record).get key =
      if key = bucketKey then some record else buckets.get key := by
  ext record'
  rw [get_eq_some]
  change (key, record') ∈ Js.upsert bucketKey record (fun _ => record) buckets.entries ↔ _
  rw [Js.upsert]
  split_ifs with hmem hkey hkey
  · subst hkey
    rw [List.mem_map, Option.some.injEq]
    constructor
    · rintro ⟨entry, -, heq⟩
      split_ifs at heq with hsame
      · exact (Prod.ext_iff.mp heq).2
      · exact absurd (Prod.ext_iff.mp heq).1 hsame
    · rintro rfl
      obtain ⟨entry, hentry, hsame⟩ := List.mem_map.mp hmem
      exact ⟨entry, hentry, by rw [if_pos hsame, hsame]⟩
  · rw [List.mem_map, get_eq_some]
    constructor
    · rintro ⟨entry, hentry, heq⟩
      split_ifs at heq with hsame
      · exact absurd ((Prod.ext_iff.mp heq).1.symm.trans hsame) hkey
      · exact heq ▸ hentry
    · intro hentry
      exact ⟨_, hentry, if_neg hkey⟩
  · subst hkey
    rw [List.mem_append, List.mem_singleton, Option.some.injEq]
    have hnone : (key, record') ∉ buckets.entries := fun h => hmem (List.mem_map_of_mem h)
    rw [or_iff_right hnone, Prod.ext_iff]
    exact ⟨fun h => h.2.symm, fun h => ⟨rfl, h.symm⟩⟩
  · rw [List.mem_append, List.mem_singleton, get_eq_some, or_iff_left]
    exact fun heq => hkey (Prod.ext_iff.mp heq).1

/-- **An eviction leaves what has not expired.** -/
theorem openAt_get_evict (buckets : RateLimitBuckets) (now : ℕ) (bucketKey : String) :
    openAt now ((buckets.evict now).get bucketKey) = openAt now (buckets.get bucketKey) := by
  rw [evict]
  split_ifs
  · ext record
    simp only [openAt, Option.filter_eq_some_iff, get_eq_some, deleteExpired,
      List.mem_filter]
    tauto
  · rfl

end RateLimitBuckets

/-! ### The table -/

/-- The row of a bucket in memory. -/
def RateLimitRecord.row (record : RateLimitRecord) (bucketKey : String) : BucketRow :=
  ⟨bucketKey, record.count, record.resetAt * 1000⟩

/-- A row while it has not expired. -/
def openRow (now : ℕ) (row : Option BucketRow) : Option BucketRow :=
  row.filter fun row => decide (now * 1000 < row.resetAt)

section

variable {db : RateLimitDb} {now : ℕ} {bucketKey : String} {expired : List ℕ}

/-- What is picked has expired. -/
theorem expired_of_mayPick (h : db.mayPick now expired = true) {place : ℕ} (hplace : place ∈ expired)
    {row : BucketRow} (hrow : db.buckets place = some row) : row.resetAt ≤ now := by
  rw [RateLimitDb.mayPick, Bool.and_eq_true, Bool.and_eq_true, Bool.and_eq_true,
    List.all_eq_true] at h
  obtain ⟨⟨place', row'⟩, hmem, rfl⟩ := List.mem_map.mp (of_decide_eq_true (h.1.2 place hplace))
  obtain ⟨hrow', hover⟩ := Serial.mem_select.mp hmem
  rw [Option.some.inj (hrow.symm.trans hrow')]
  exact of_decide_eq_true hover

/-- **A cleanup leaves what has not expired.** -/
theorem openRow_deleteExpired (h : db.mayPick (now * 1000) expired = true) (bucketKey : String) :
    openRow now (({ db with clock := now * 1000 }.deleteExpired expired).row? bucketKey) =
      openRow now (db.row? bucketKey) := by
  have hrow? : ({ db with clock := now * 1000 }.deleteExpired expired).row? bucketKey =
      (db.deleteExpired expired).row? bucketKey := rfl
  rw [hrow?]
  rcases db.row?_deleteExpired expired bucketKey with hsame | ⟨hnone, place, hplace, row, hrow, hkey⟩
  · rw [hsame]
  · have hover := expired_of_mayPick h hplace hrow
    rw [hnone, RateLimitDb.row?_eq_some.mpr ⟨place, hrow, hkey⟩]
    exact (if_neg (by simpa using hover)).symm

theorem openRow_eq_some {row : Option BucketRow} {found : BucketRow} :
    openRow now row = some found ↔ row = some found ∧ now * 1000 < found.resetAt := by
  rw [openRow, Option.filter_eq_some_iff, decide_eq_true_eq]

/-- **A call is counted unless its bucket is full.** -/
theorem count_eq_none_iff {rule : ApiRateLimitRule} : db.count rule bucketKey (now * 1000) = none ↔
    ∃ row, openRow now (db.row? bucketKey) = some row ∧ maxInteger ≤ row.requestCount := by
  unfold RateLimitDb.count
  split
  next hnone =>
    have hrow : db.row? bucketKey = none := by rw [RateLimitDb.row?, hnone, Option.map_none]
    simp [hrow, openRow]
  next place row hsome =>
    have hrow : db.row? bucketKey = some row := by rw [RateLimitDb.row?, hsome, Option.map_some]
    rw [hrow]
    by_cases hover : row.resetAt ≤ now * 1000
    · have hclosed : openRow now (some row) = none := if_neg (by simpa using hover)
      have hone : (row.next rule (now * 1000)).requestCount = 1 := by
        rw [BucketRow.next, if_pos hover]
      rw [hone, if_pos (by decide), hclosed]
      simp
    · have hopen : openRow now (some row) = some row := if_pos (by simpa using hover)
      have hmore : (row.next rule (now * 1000)).requestCount = row.requestCount + 1 := by
        rw [BucketRow.next, if_neg hover]
      rw [hmore, hopen]
      split_ifs with hroom
      · simp only [Option.some.injEq, exists_eq_left', false_iff]
        omega
      · simp only [Option.some.injEq, exists_eq_left', true_iff]
        omega

/-- What is counted in the table is what is counted in memory. -/
theorem row_of_count {rule : ApiRateLimitRule} {db' : RateLimitDb} {row : BucketRow}
    {record : Option RateLimitRecord}
    (h : db.count rule bucketKey (now * 1000) = some (db', row))
    (hopen : openRow now (db.row? bucketKey) = (openAt now record).map (·.row bucketKey)) :
    row = (currentRecord rule record now).row bucketKey := by
  rw [currentRecord_eq]
  obtain ⟨-, -, -, ⟨hover, rfl⟩ | ⟨row', hrow', hlt, rfl⟩⟩ := RateLimitDb.count_spec h
  · have hnone : openRow now (db.row? bucketKey) = none := by
      rw [RateLimitDb.isOver] at hover
      cases hrow : db.row? bucketKey with
      | none => rfl
      | some row =>
        rw [hrow] at hover
        exact if_neg (by simpa using hover)
    rw [hnone] at hopen
    rw [Option.map_eq_none_iff.mp hopen.symm]
    simp [BucketRow.first, ApiRateLimitRule.windowEnd, currentRecord, RateLimitRecord.row,
      ApiRateLimitRule.freshRecord, Nat.add_mul]
  · rw [openRow_eq_some.mpr ⟨hrow', hlt⟩] at hopen
    obtain ⟨current, hcurrent, rfl⟩ := Option.map_eq_some_iff.mp hopen.symm
    rw [hcurrent, currentRecord]
    have hlater : ¬current.resetAt ≤ now := by
      intro hle
      exact absurd hlt (by simpa [RateLimitRecord.row] using hle)
    simp only [if_neg hlater]
    rfl

end

/-! ### One call -/

/-- The key of a bucket in memory. -/
def scopedKey (bucketKey : String) : String := "publicDemoActions" ++ ":" ++ bucketKey

theorem scopedKey_inj {bucketKey bucketKey' : String} :
    scopedKey bucketKey = scopedKey bucketKey' ↔ bucketKey = bucketKey' :=
  String.append_right_inj _

/-- The map in memory has the buckets that have not expired. -/
def SameBuckets (s : Limiters) : Prop :=
  ∀ bucketKey, openAt s.clock (s.buckets.get (scopedKey bucketKey)) =
    openAt s.clock (s.kept bucketKey)

/-- The table has the buckets that have not expired. -/
def SameRows (s : Limiters) : Prop :=
  ∀ bucketKey, openRow s.clock (s.db.row? bucketKey) =
    (openAt s.clock (s.kept bucketKey)).map (·.row bucketKey)

theorem openRow_openRow {now now' : ℕ} (h : now ≤ now') (row : Option BucketRow) :
    openRow now' (openRow now row) = openRow now' row := by
  cases row with
  | none => rfl
  | some row =>
    by_cases hopen : now * 1000 < row.resetAt
    · rw [openRow, openRow, Option.filter_some, if_pos (decide_eq_true hopen)]
      rfl
    · have hlater : ¬now' * 1000 < row.resetAt := fun hlt =>
        hopen ((Nat.mul_le_mul_right 1000 h).trans_lt hlt)
      have hnone : openRow now (some row) = none := if_neg (by simpa using hopen)
      have hnone' : openRow now' (some row) = none := if_neg (by simpa using hlater)
      rw [hnone, hnone']
      rfl

theorem openRow_map {now : ℕ} (record : Option RateLimitRecord) (bucketKey : String) :
    openRow now (record.map (·.row bucketKey)) = (openAt now record).map (·.row bucketKey) := by
  cases record with
  | none => rfl
  | some record =>
    have hiff : now * 1000 < record.resetAt * 1000 ↔ now < record.resetAt :=
      Nat.mul_lt_mul_right (by decide)
    by_cases hopen : now < record.resetAt
    · rw [openAt_of_lt hopen]
      exact if_pos (decide_eq_true (hiff.mpr hopen))
    · rw [openAt_of_not_lt hopen]
      exact if_neg (by simpa [RateLimitRecord.row] using hopen)

section

variable {rule : String → ApiRateLimitRule} {s : Limiters} {c : LimiterCall}

/-- Time goes on. -/
theorem SameBuckets.openAt_eq (h : SameBuckets s) {now : ℕ} (hnow : s.clock ≤ now)
    (bucketKey : String) : openAt now (s.buckets.get (scopedKey bucketKey)) =
      openAt now (s.kept bucketKey) := by
  rw [← openAt_openAt hnow, h bucketKey, openAt_openAt hnow]

theorem SameRows.openRow_eq (h : SameRows s) {now : ℕ} (hnow : s.clock ≤ now)
    (bucketKey : String) : openRow now (s.db.row? bucketKey) =
      (openAt now (s.kept bucketKey)).map (·.row bucketKey) := by
  rw [← openRow_openRow hnow, h bucketKey, openRow_map, openAt_openAt hnow]

/-- **The map in memory answers as if it had kept everything.** -/
theorem SameBuckets.call (h : SameBuckets s) (hnow : s.clock ≤ c.now) :
    (s.memory rule c).2 = (s.keeping rule c).2 ∧ SameBuckets (s.call rule c) := by
  have hopen := h.openAt_eq hnow
  rw [Limiters.call, Limiters.memory, Limiters.keeping, consumeInMemory, consumeKeeping]
  by_cases hoff : (rule c.bucketKey).Off
  · rw [if_pos hoff, if_pos hoff]
    exact ⟨rfl, hopen⟩
  · rw [if_neg hoff, if_neg hoff, consumeRateLimit, if_neg hoff]
    have hcurrent : currentRecord (rule c.bucketKey)
        ((s.buckets.evict c.now).get (scopedKey c.bucketKey)) c.now =
          currentRecord (rule c.bucketKey) (s.kept c.bucketKey) c.now :=
      currentRecord_congr _
        ((RateLimitBuckets.openAt_get_evict s.buckets c.now _).trans (hopen c.bucketKey))
    refine ⟨congrArg (fun current => answerOf (rule c.bucketKey) current c.now) hcurrent, ?_⟩
    intro bucketKey
    change openAt c.now (((s.buckets.evict c.now).set (scopedKey c.bucketKey) (currentRecord
      (rule c.bucketKey) ((s.buckets.evict c.now).get (scopedKey c.bucketKey)) c.now)).get
        (scopedKey bucketKey)) = openAt c.now (Function.update s.kept c.bucketKey _ bucketKey)
    rw [RateLimitBuckets.get_set, hcurrent, Function.update_apply]
    by_cases hkey : bucketKey = c.bucketKey
    · rw [if_pos (scopedKey_inj.mpr hkey), if_pos hkey]
    · rw [if_neg (mt scopedKey_inj.mp hkey), if_neg hkey, RateLimitBuckets.openAt_get_evict, hopen]

/-- The bucket of a call is not full. -/
def HasRoom (rule : String → ApiRateLimitRule) (s : Limiters) (c : LimiterCall) : Prop :=
  (rule c.bucketKey).Off ∨
    ∀ row, openRow c.now (s.db.row? c.bucketKey) = some row → row.requestCount < maxInteger

theorem setRateLimitHeaders_row (rule : ApiRateLimitRule) (record : RateLimitRecord)
    (bucketKey : String) (now : ℕ) :
    setRateLimitHeaders rule (record.row bucketKey).requestCount
        ((record.row bucketKey).resetAt / 1000) now = answerOf rule record now := by
  have hreset : (record.row bucketKey).resetAt / 1000 = record.resetAt :=
    Nat.mul_div_cancel _ (by decide)
  rw [hreset, setRateLimitHeaders, answerOf]
  by_cases hover : rule.maxRequests < record.count
  · simp [RateLimitRecord.row, hover, Nat.not_le.mpr hover]
  · simp [RateLimitRecord.row, hover, Nat.le_of_not_lt hover]

/-- **The table answers as if it had kept everything**, if the bucket is not full. -/
theorem SameRows.call (h : SameRows s) (hnow : s.clock ≤ c.now)
    (hpick : s.db.mayPick (c.now * 1000) c.expired = true) (hroom : HasRoom rule s c) :
    (s.postgres rule c).2 = some (s.keeping rule c).2 ∧ SameRows (s.call rule c) := by
  have hopen := h.openRow_eq hnow
  rw [Limiters.call, Limiters.postgres, Limiters.keeping, consumeInPostgres, consumeKeeping]
  by_cases hoff : (rule c.bucketKey).Off
  · rw [if_pos hoff, if_pos hoff]
    exact ⟨rfl, hopen⟩
  · rw [if_neg hoff, if_neg hoff]
    simp only
    have hcleaned : ∀ bucketKey, openRow c.now
        (({ s.db with clock := c.now * 1000 }.deleteExpired c.expired).row? bucketKey) =
          (openAt c.now (s.kept bucketKey)).map (·.row bucketKey) := fun bucketKey =>
      (openRow_deleteExpired hpick bucketKey).trans (hopen bucketKey)
    generalize { s.db with clock := c.now * 1000 }.deleteExpired c.expired = cleaned at hcleaned
    cases hcount : cleaned.count (rule c.bucketKey) c.bucketKey (c.now * 1000) with
    | none =>
      obtain ⟨row, hrow, hfull⟩ := count_eq_none_iff.mp hcount
      rw [hcleaned, ← hopen] at hrow
      exact absurd (hroom.resolve_left hoff row hrow) (Nat.not_lt.mpr hfull)
    | some counted =>
      obtain ⟨db', row⟩ := counted
      have hrow := row_of_count hcount (hcleaned c.bucketKey)
      refine ⟨?_, fun bucketKey => ?_⟩
      · simp only [hrow, setRateLimitHeaders_row]
      · obtain ⟨-, hown, hothers, -⟩ := RateLimitDb.count_spec hcount
        change openRow c.now (db'.row? bucketKey) =
          (openAt c.now (Function.update s.kept c.bucketKey _ bucketKey)).map (·.row bucketKey)
        rw [Function.update_apply]
        split_ifs with hkey
        · rw [hkey, hown, hrow]
          exact openRow_map (some _) c.bucketKey
        · rw [hothers bucketKey hkey, hcleaned]

/-- **A full bucket makes the statement fail.** -/
theorem postgres_of_not_hasRoom (hpick : s.db.mayPick (c.now * 1000) c.expired = true)
    (hfull : ¬HasRoom rule s c) : (s.postgres rule c).2 = none := by
  rw [HasRoom, not_or] at hfull
  obtain ⟨hoff, hfull⟩ := hfull
  push Not at hfull
  obtain ⟨row, hrow, hmax⟩ := hfull
  have hnone : (RateLimitDb.deleteExpired { s.db with clock := c.now * 1000 } c.expired).count
      (rule c.bucketKey) c.bucketKey (c.now * 1000) = none :=
    count_eq_none_iff.mpr ⟨row, (openRow_deleteExpired hpick c.bucketKey).trans hrow, hmax⟩
  rw [Limiters.postgres, consumeInPostgres, if_neg hoff]
  simp only [hnone]

end

/-! ### All calls -/

section

variable {rule : String → ApiRateLimitRule} {tr : List (Limiters × LimiterCall)} {s : Limiters}

theorem Limited.mayPick (h : Limited rule tr s) :
    ∀ e ∈ tr, e.1.db.mayPick (e.2.now * 1000) e.2.expired = true := by
  induction h with
  | start => exact fun e he => absurd he List.not_mem_nil
  | call _ _ hpick ih =>
    intro e he
    rcases List.mem_append.mp he with he | he
    · exact ih e he
    · rw [List.mem_singleton.mp he]
      exact hpick

/-- **Evictions in memory never change an answer.** -/
theorem Limited.memory_eq (h : Limited rule tr s) :
    (∀ e ∈ tr, (e.1.memory rule e.2).2 = (e.1.keeping rule e.2).2) ∧ SameBuckets s := by
  induction h with
  | start => exact ⟨fun e he => absurd he List.not_mem_nil, fun _ => rfl⟩
  | call _ hnow _ ih =>
    obtain ⟨hanswer, hsame⟩ : _ ∧ SameBuckets (Limiters.call rule _ _) := ih.2.call hnow
    refine ⟨fun e he => ?_, hsame⟩
    rcases List.mem_append.mp he with he | he
    · exact ih.1 e he
    · rw [List.mem_singleton.mp he]
      exact hanswer

/-- **The cleanup never changes an answer**, as long as no bucket is full. -/
theorem Limited.postgres_eq (h : Limited rule tr s) (hroom : ∀ e ∈ tr, HasRoom rule e.1 e.2) :
    (∀ e ∈ tr, (e.1.postgres rule e.2).2 = some (e.1.keeping rule e.2).2) ∧ SameRows s := by
  induction h with
  | start => exact ⟨fun e he => absurd he List.not_mem_nil, fun _ => rfl⟩
  | call _ hnow hpick ih =>
    rw [List.forall_mem_append, List.forall_mem_singleton] at hroom
    obtain ⟨hanswers, hrows⟩ := ih hroom.1
    obtain ⟨hanswer, hsame⟩ := hrows.call hnow hpick hroom.2
    refine ⟨fun e he => ?_, hsame⟩
    rcases List.mem_append.mp he with he | he
    · exact hanswers e he
    · rw [List.mem_singleton.mp he]
      exact hanswer

/-- **The limiters agree** exactly if no bucket of the table is full, and no eviction changes an
answer. -/
theorem limiters_agree_iff (h : Limited rule tr s) :
    (∀ e ∈ tr, (e.1.memory rule e.2).2 = (e.1.keeping rule e.2).2) ∧
      ((∀ e ∈ tr, (e.1.postgres rule e.2).2 = some (e.1.memory rule e.2).2) ↔
        ∀ e ∈ tr, HasRoom rule e.1 e.2) := by
  refine ⟨h.memory_eq.1, fun hagree e he => ?_, fun hroom e he => ?_⟩
  · by_contra hfull
    have hanswer := hagree e he
    rw [postgres_of_not_hasRoom (h.mayPick e he) hfull] at hanswer
    cases hanswer
  · rw [h.memory_eq.1 e he]
    exact (h.postgres_eq hroom).1 e he

end

/-! ### A full bucket -/

/-- Twenty calls a minute. -/
def minuteRule (_ : String) : ApiRateLimitRule := ⟨20, 60000⟩

/-- A call at the beginning. -/
def firstMoment : LimiterCall := ⟨"a", 0, []⟩

/-- The limiters when a second key calls, and when the minute of the first one is over. -/
def halfMinute : Limiters := .call minuteRule .start firstMoment

def fullMinute : Limiters := halfMinute.call minuteRule ⟨"b", 30000, []⟩

/-- Two keys, and the first one again in its second minute: its bucket is deleted. -/
def secondMinute : List (Limiters × LimiterCall) :=
  [(.start, firstMoment), (halfMinute, ⟨"b", 30000, []⟩), (fullMinute, ⟨"a", 60000, [1]⟩)]

theorem secondMinute_agree :
    (∀ e ∈ secondMinute, (e.1.memory minuteRule e.2).2 = (e.1.keeping minuteRule e.2).2) ∧
      ((∀ e ∈ secondMinute,
          (e.1.postgres minuteRule e.2).2 = some (e.1.memory minuteRule e.2).2) ↔
        ∀ e ∈ secondMinute, HasRoom minuteRule e.1 e.2) :=
  limiters_agree_iff (((Limited.start.call (c := firstMoment) (Nat.le_refl 0)
    (by decide +kernel)).call (c := ⟨"b", 30000, []⟩) (Nat.zero_le _) (by decide +kernel)).call
      (s := fullMinute) (c := ⟨"a", 60000, [1]⟩) (by decide +kernel) (by decide +kernel))

/-- The table has one bucket at most, with so many calls. -/
structure Busy (n : ℕ) (db : RateLimitDb) : Prop where
  only : ∀ {place row}, db.buckets place = some row → row = ⟨"a", n, 60000000⟩
  bucket : 0 < n → db.row? "a" = some ⟨"a", n, 60000000⟩

section

variable {n : ℕ} {db : RateLimitDb}

theorem Busy.mayPick (h : Busy n db) : db.mayPick 0 [] = true := by
  have hnone : db.buckets.select (fun _ row => decide (row.resetAt ≤ 0)) = [] := by
    refine List.eq_nil_iff_forall_not_mem.mpr ?_
    rintro ⟨place, row⟩ hmem
    obtain ⟨hrow, hover⟩ := Serial.mem_select.mp hmem
    rw [h.only hrow] at hover
    exact absurd (of_decide_eq_true hover : (60000000 : ℕ) ≤ 0) (by decide)
  rw [RateLimitDb.mayPick]
  simp only [hnone]
  simp

/-- Nothing is picked, and nothing deleted. -/
theorem row?_deleteExpired_nil (db : RateLimitDb) (clock : ℕ) (bucketKey : String) :
    ({ db with clock := clock }.deleteExpired []).row? bucketKey = db.row? bucketKey := by
  rcases db.row?_deleteExpired [] bucketKey with hsame | ⟨-, place, hplace, -⟩
  · exact hsame
  · exact absurd hplace List.not_mem_nil

theorem consumeInPostgres_of_count {rule : ApiRateLimitRule} {bucketKey : String} {now : ℕ}
    {expired : List ℕ} {db' : RateLimitDb} {row : BucketRow} (hoff : ¬rule.Off)
    (hcount : ({ db with clock := now * 1000 }.deleteExpired expired).count rule bucketKey
      (now * 1000) = some (db', row)) :
    (consumeInPostgres rule db bucketKey now expired).1 = db' := by
  rw [consumeInPostgres, if_neg hoff]
  simp only [hcount]

/-- **One call more.** -/
theorem Busy.call (h : Busy n db) (hroom : n < maxInteger) :
    Busy (n + 1) (consumeInPostgres (minuteRule "a") db "a" 0 []).1 := by
  have hother : ∀ {bucketKey row}, db.row? bucketKey = some row → row = ⟨"a", n, 60000000⟩ := by
    intro bucketKey row hrow
    obtain ⟨place, hplace, -⟩ := RateLimitDb.row?_eq_some.mp hrow
    exact h.only hplace
  have hcleaned := row?_deleteExpired_nil db (0 * 1000)
  cases hcount : ({ db with clock := 0 * 1000 }.deleteExpired []).count (minuteRule "a") "a"
      (0 * 1000) with
  | none =>
    obtain ⟨row, hrow, hfull⟩ := count_eq_none_iff.mp hcount
    rw [hother ((hcleaned "a").symm.trans (openRow_eq_some.mp hrow).1)] at hfull
    exact absurd hroom (Nat.not_lt.mpr hfull)
  | some counted =>
    obtain ⟨db', row⟩ := counted
    rw [consumeInPostgres_of_count (by decide) hcount]
    obtain ⟨-, hown, hothers, hrow⟩ := RateLimitDb.count_spec hcount
    have hvalue : row = ⟨"a", n + 1, 60000000⟩ := by
      rcases hrow with ⟨hover, rfl⟩ | ⟨row', hrow', -, rfl⟩
      · have hzero : n = 0 := by
          by_contra hne
          rw [RateLimitDb.isOver, hcleaned, h.bucket (Nat.pos_of_ne_zero hne)] at hover
          exact absurd (of_decide_eq_true hover : (60000000 : ℕ) ≤ 0) (by decide)
        rw [hzero]
        rfl
      · rw [hother ((hcleaned "a").symm.trans hrow')]
    refine ⟨fun {place row'} hplace => ?_, fun _ => hvalue ▸ hown⟩
    have hrow' := RateLimitDb.row?_eq_some.mpr ⟨place, hplace, rfl⟩
    by_cases hkey : row'.bucketKey = "a"
    · rw [hkey] at hrow'
      exact (Option.some.inj (hrow'.symm.trans hown)).trans hvalue
    · rw [hothers _ hkey, hcleaned] at hrow'
      exact absurd (congrArg BucketRow.bucketKey (hother hrow')) hkey

theorem busy_empty : Busy 0 .empty where
  only h := absurd h (by simp [RateLimitDb.empty])
  bucket h := absurd h (Nat.lt_irrefl 0)

/-- As many calls as a bucket has room for, at one moment. -/
theorem exists_busy (hroom : n ≤ maxInteger) :
    ∃ tr s, Limited minuteRule tr s ∧ s.clock = 0 ∧ Busy n s.db := by
  induction n with
  | zero =>
    exact ⟨[], .start, .start, rfl, busy_empty⟩
  | succ n ih =>
    obtain ⟨tr, s, hlimited, hclock, hbusy⟩ := ih (Nat.le_of_succ_le hroom)
    exact ⟨tr ++ [(s, firstMoment)], s.call minuteRule firstMoment,
      .call hlimited (Nat.le_of_eq hclock) hbusy.mayPick, rfl, hbusy.call hroom⟩

end

/-- **The limiters do not always agree**: the count of a bucket runs out of its range. -/
theorem not_limiters_agree : ¬∀ rule tr s, Limited rule tr s →
    ∀ e ∈ tr, (e.1.postgres rule e.2).2 = some (e.1.memory rule e.2).2 := by
  intro h
  obtain ⟨tr, s, hlimited, hclock, hbusy⟩ := exists_busy (Nat.le_refl maxInteger)
  have hlimited' := Limited.call (c := firstMoment) hlimited (Nat.le_of_eq hclock) hbusy.mayPick
  have hroom : HasRoom minuteRule s firstMoment :=
    (limiters_agree_iff hlimited').2.mp (h _ _ _ hlimited') (s, firstMoment)
      (List.mem_append_right _ List.mem_cons_self)
  have hopen : openRow firstMoment.now (s.db.row? "a") = some ⟨"a", maxInteger, 60000000⟩ :=
    openRow_eq_some.mpr ⟨hbusy.bucket (by decide), by decide⟩
  have hlt : maxInteger < maxInteger := hroom.resolve_left (by decide) _ hopen
  exact absurd hlt (Nat.lt_irrefl _)

end ScientificProtocol.Api
