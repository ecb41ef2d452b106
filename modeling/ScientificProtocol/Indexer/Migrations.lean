import ScientificProtocol.Js.Utf16
import ScientificProtocol.Sql.Table
import ScientificProtocol.Concurrency.Processes
import Mathlib.Data.List.Perm.Subperm

/-!
# The migrations of the read model

`migrateReadModelDb` of `src/indexer/store.ts` as a process. A call waits for an advisory lock, reads
which migrations are recorded, and goes through the files in their order: a recorded one must have
the checksum it is recorded with, which is filled in if there is none, and every other one is run
and recorded in one transaction. Any statement may fail, and a call may crash or lose its connection
anywhere; the server then still has its session for a while, with the lock and with a statement
under way that it may or may not finish.

A session that has not been released properly may go back to the pool with the lock, and a later call
may be given it. All that counts is that no two calls have the lock at the same time. So what a call
has read stays as it is but for what it does itself
(`ScientificProtocol.Indexer.Knows.act`), and the files that have been run are always the first ones
(`ScientificProtocol.Indexer.migrations_inOrder`).
-/

namespace ScientificProtocol.Indexer

open Concurrency Sql

/-! ### The calls -/

/-- A directory of migrations, whose files have different names. -/
structure MigrationsDir where
  entries : List String
  nodup : entries.Nodup
  /-- What is read from a file. -/
  content : String → String

/-- A row of `schema_migrations`, under the version. -/
structure MigrationRow where
  checksum : Option String
  deriving DecidableEq

/-- The checksum of a row, if it has one. The empty one counts as none. -/
def MigrationRow.appliedChecksum (row : MigrationRow) : Option String :=
  row.checksum.filter (· ≠ "")

inductive AdvisoryLock where
  | free
  | held
  /-- A session has it that no call uses any more. -/
  | pooled
  deriving DecidableEq, Repr

structure MigrationDb where
  lock : AdvisoryLock
  schemaMigrations : Table String MigrationRow
  /-- The files whose SQL has been committed, in this order. -/
  scripts : List String

/-- A statement that takes effect even if nobody waits for it any more. -/
inductive LastStatement where
  | update (file : String)
  | commit (file : String)
  deriving DecidableEq

/-- Where a call is. In the loop it has the rows it has read and the files to come. -/
inductive MigrateRun where
  /-- Waiting for the lock. -/
  | idle
  | locked
  | created
  | altered
  | listing (applied : Table String MigrationRow)
  | looping (applied : Table String MigrationRow) (files : List String)
  | updating (applied : Table String MigrationRow) (file : String) (files : List String)
  | beginning (applied : Table String MigrationRow) (file : String) (files : List String)
  | begun (applied : Table String MigrationRow) (file : String) (files : List String)
  | ran (applied : Table String MigrationRow) (file : String) (files : List String)
  | inserted (applied : Table String MigrationRow) (file : String) (files : List String)
  | rollingBack (error : String)
  /-- The `finally` block. -/
  | finishing (error : Option String)
  | returned
  | threw (error : String)
  /-- The call has crashed or lost its connection, and the server still has the session. -/
  | lost (statement : Option LastStatement)
  | ended

/-- What happens in a call. -/
inductive MigrateAction where
  | lock
  | createTable
  | addChecksum
  | readApplied
  /-- The directory is read, in the order the system gives. -/
  | readdir (entries : List String)
  | next
  | update
  | begin
  | runSql
  | insert
  | commit
  | fail (error : String)
  | rollback
  | unlock (released : Bool)
  | disconnect
  /-- The server finishes the last statement of a lost session. -/
  | finish
  /-- The server ends a lost session. -/
  | sessionOver
  deriving DecidableEq

/-- What happens without a call: the pool closes a session. -/
inductive PoolAction where
  | closeSession
  deriving DecidableEq, Repr

section

variable (sha256 : String → String) (dir : MigrationsDir)

/-- The files of the directory, in their order. -/
def migrationFiles (entries : List String) : List String :=
  Js.sort (entries.filter fun file => ".sql".toList.isSuffixOf file.toList)

def MigrationsDir.files : List String := migrationFiles dir.entries

def MigrationsDir.checksum (file : String) : String := sha256 (dir.content file)

/-- A checksum is filled in. -/
def MigrationDb.update (db : MigrationDb) (file : String) : MigrationDb :=
  { db with
    schemaMigrations := db.schemaMigrations.update file fun _ => ⟨some (dir.checksum sha256 file)⟩ }

/-- A file is run and recorded. -/
def MigrationDb.apply (db : MigrationDb) (file : String) : MigrationDb :=
  { db with
    schemaMigrations := db.schemaMigrations.set file ⟨some (dir.checksum sha256 file)⟩
    scripts := db.scripts ++ [file] }

/-- What a server does with the last statement of a session. -/
def LastStatement.exec (db : MigrationDb) : LastStatement → MigrationDb
  | .update file => db.update sha256 dir file
  | .commit file => db.apply sha256 dir file

/-- What is to be done about a file. -/
def MigrateRun.next (applied : Table String MigrationRow) (file : String) (files : List String) :
    MigrateRun :=
  match applied file with
  | none => .beginning applied file files
  | some row =>
    match row.appliedChecksum with
    | none => .updating applied file files
    | some appliedChecksum =>
      if appliedChecksum ≠ dir.checksum sha256 file then
        .finishing (some ("migration checksum mismatch: " ++ file))
      else .looping applied files

/-- An error is caught, or thrown. -/
def MigrateRun.afterFailure (error : String) : MigrateRun → Option MigrateRun
  | .idle => some (.threw error)
  | .locked | .created | .altered | .listing _ | .looping _ _ | .updating _ _ _
  | .beginning _ _ _ => some (.finishing (some error))
  | .begun _ _ _ | .ran _ _ _ | .inserted _ _ _ => some (.rollingBack error)
  | _ => none

/-- The connection is lost. -/
def MigrateRun.afterDisconnect : MigrateRun → Option MigrateRun
  | .locked | .created | .altered | .listing _ | .looping _ _ | .beginning _ _ _ | .begun _ _ _
  | .ran _ _ _ | .rollingBack _ | .finishing _ => some (.lost none)
  | .updating _ file _ => some (.lost (some (.update file)))
  | .inserted _ file _ => some (.lost (some (.commit file)))
  | _ => none

/-- How a call ends. -/
def MigrateRun.finished : Option String → MigrateRun
  | none => .returned
  | some error => .threw error

/-- **One action of a call.** -/
def migrateAct : MigrateAction → MigrationDb → MigrateRun → Option (MigrationDb × MigrateRun)
  -- The session may be the one that has the lock already.
  | .lock, db, .idle =>
    if db.lock = .held then none else some ({ db with lock := .held }, .locked)
  | .createTable, db, .locked => some (db, .created)
  | .addChecksum, db, .created => some (db, .altered)
  | .readApplied, db, .altered => some (db, .listing db.schemaMigrations)
  | .readdir entries, db, .listing applied =>
    if entries.Perm dir.entries then some (db, .looping applied (migrationFiles entries)) else none
  | .next, db, .looping applied (file :: files) => some (db, .next sha256 dir applied file files)
  | .next, db, .looping _ [] => some (db, .finishing none)
  | .update, db, .updating applied file files =>
    some (db.update sha256 dir file, .looping applied files)
  | .begin, db, .beginning applied file files => some (db, .begun applied file files)
  | .runSql, db, .begun applied file files => some (db, .ran applied file files)
  | .insert, db, .ran applied file files =>
    if (db.schemaMigrations file).isSome then none else some (db, .inserted applied file files)
  | .commit, db, .inserted applied file files =>
    some (db.apply sha256 dir file, .looping applied files)
  | .fail error, db, run => (run.afterFailure error).map fun run => (db, run)
  | .rollback, db, .rollingBack error => some (db, .finishing (some error))
  | .unlock released, db, .finishing error =>
    some ({ db with lock := if released then .free else .pooled }, .finished error)
  | .disconnect, db, run => run.afterDisconnect.map fun run => (db, run)
  | .finish, db, .lost (some statement) => some (statement.exec sha256 dir db, .lost none)
  | .sessionOver, db, .lost _ => some ({ db with lock := .free }, .ended)
  | _, _, _ => none

/-- The pool closes a session, and the lock is free if it had it. -/
def poolAct : PoolAction → MigrationDb → MigrationDb → Prop
  | .closeSession, db, db' => db.lock = .pooled ∧ db' = { db with lock := .free }

/-- **Calls**, of a database with some migrations recorded and none run yet. -/
def migrations (recorded : Table String MigrationRow) :
    Processes MigrationDb MigrateRun MigrateAction PoolAction where
  genesis db := db = ⟨.free, recorded, []⟩
  idle := .idle
  act := migrateAct sha256 dir
  env := poolAct

end

/-! ### What a call knows -/

/-- The calls that have the lock, or whose session has. -/
def MigrateRun.holds : MigrateRun → Bool
  | .idle | .returned | .threw _ | .ended => false
  | _ => true

section

variable (sha256 : String → String) (dir : MigrationsDir)

/-- A file is recorded with its checksum. -/
def Recorded (db : MigrationDb) (file : String) : Prop :=
  db.schemaMigrations file = some ⟨some (dir.checksum sha256 file)⟩

/-- A loop has these files to come: the ones before are recorded, and nothing else has changed since
the rows have been read. -/
def LoopAt (db : MigrationDb) (applied : Table String MigrationRow) (files : List String) : Prop :=
  ∃ done, dir.files = done ++ files ∧ (∀ file ∈ done, Recorded sha256 dir db file) ∧
    ∀ file ∉ done, db.schemaMigrations file = applied file

/-- A file has no checksum yet. -/
def Unchecked (rows : Table String MigrationRow) (file : String) : Prop :=
  ∃ row, rows file = some row ∧ row.appliedChecksum = none

/-- A file is the next one to run. -/
def IsNext (db : MigrationDb) (file : String) : Prop :=
  db.schemaMigrations file = none ∧
    ∃ done files, dir.files = done ++ file :: files ∧ ∀ file ∈ done, Recorded sha256 dir db file

/-- **What a call knows about the database** while it has the lock, and what remains true
afterwards. -/
def Knows (db : MigrationDb) : MigrateRun → Prop
  | .listing applied => db.schemaMigrations = applied
  | .looping applied files => LoopAt sha256 dir db applied files
  | .updating applied file files =>
    LoopAt sha256 dir db applied (file :: files) ∧ Unchecked applied file
  | .beginning applied file files | .begun applied file files | .ran applied file files
  | .inserted applied file files =>
    LoopAt sha256 dir db applied (file :: files) ∧ applied file = none
  | .finishing none | .returned => ∀ file ∈ dir.files, Recorded sha256 dir db file
  | .lost (some (.update file)) => Unchecked db.schemaMigrations file
  | .lost (some (.commit file)) => IsNext sha256 dir db file
  | _ => True

/-- **What an action can do to the rows.** -/
inductive RowStep (db db' : MigrationDb) : Prop
  | same : db'.schemaMigrations = db.schemaMigrations → db'.scripts = db.scripts → RowStep db db'
  | update {file : String} : Unchecked db.schemaMigrations file →
      db' = db.update sha256 dir file → RowStep db db'
  | apply {file : String} : IsNext sha256 dir db file → db' = db.apply sha256 dir file →
      RowStep db db'

variable {sha256 dir} {db db' : MigrationDb} {run run' : MigrateRun}

theorem nodup_files (dir : MigrationsDir) : dir.files.Nodup :=
  (Js.sort_perm _).nodup_iff.mpr (dir.nodup.filter _)

/-- The rows a loop has read of the files to come are still there. -/
theorem LoopAt.schemaMigrations_eq {applied : Table String MigrationRow} {file : String}
    {files : List String} (h : LoopAt sha256 dir db applied (file :: files)) :
    db.schemaMigrations file = applied file := by
  obtain ⟨done, hfiles, -, hsame⟩ := h
  have hnodup := nodup_files dir
  rw [hfiles] at hnodup
  refine hsame file fun hmem => ?_
  exact (List.nodup_append.mp hnodup).2.2 file hmem file List.mem_cons_self rfl

theorem LoopAt.isNext {applied : Table String MigrationRow} {file : String}
    {files : List String} (h : LoopAt sha256 dir db applied (file :: files))
    (hnone : applied file = none) : IsNext sha256 dir db file := by
  obtain ⟨done, hfiles, hdone, -⟩ := id h
  exact ⟨h.schemaMigrations_eq.trans hnone, done, files, hfiles, hdone⟩

theorem LoopAt.unchecked {applied : Table String MigrationRow} {file : String}
    {files : List String} (h : LoopAt sha256 dir db applied (file :: files))
    (hunchecked : Unchecked applied file) : Unchecked db.schemaMigrations file := by
  obtain ⟨row, hrow, hnone⟩ := hunchecked
  exact ⟨row, h.schemaMigrations_eq.trans hrow, hnone⟩

/-- **The loop goes on** when the file is recorded, and nothing else has changed. -/
theorem LoopAt.tail {applied : Table String MigrationRow} {file : String} {files : List String}
    (h : LoopAt sha256 dir db applied (file :: files)) (hrecorded : Recorded sha256 dir db' file)
    (hsame : ∀ file' ≠ file, db'.schemaMigrations file' = db.schemaMigrations file') :
    LoopAt sha256 dir db' applied files := by
  obtain ⟨done, hfiles, hdone, happlied⟩ := id h
  refine ⟨done ++ [file], by rw [hfiles, List.append_cons], fun file' hmem => ?_,
    fun file' hmem => ?_⟩
  · rcases eq_or_ne file' file with rfl | hne
    · exact hrecorded
    · have hmem : file' ∈ done := by simpa [hne] using hmem
      exact (hsame file' hne).trans (hdone file' hmem)
  · have hne : file' ≠ file ∧ file' ∉ done := by
      simpa [and_comm] using hmem
    exact (hsame file' hne.1).trans (happlied file' hne.2)

theorem recorded_update {file : String} (h : Unchecked db.schemaMigrations file) :
    Recorded sha256 dir (db.update sha256 dir file) file := by
  obtain ⟨row, hrow, -⟩ := h
  rw [Recorded, MigrationDb.update, Table.update_self, hrow, Option.map_some]

theorem recorded_apply (file : String) :
    Recorded sha256 dir (db.apply sha256 dir file) file := Table.set_self _ _ _

theorem RowStep.finish {statement : LastStatement}
    (h : Knows sha256 dir db (.lost (some statement))) :
    RowStep sha256 dir db (statement.exec sha256 dir db) := by
  cases statement with
  | update file => exact .update h rfl
  | commit file => exact .apply h rfl

/-- What is to be done about the next file. -/
theorem knows_next {applied : Table String MigrationRow} {file : String} {files : List String}
    (h : LoopAt sha256 dir db applied (file :: files)) :
    Knows sha256 dir db (.next sha256 dir applied file files) := by
  unfold MigrateRun.next
  split
  next hnone => exact ⟨h, hnone⟩
  next row hrow =>
    split
    next hnone => exact ⟨h, row, hrow, hnone⟩
    next checksum hchecksum =>
      split
      next => trivial
      next heq =>
        obtain rfl := not_not.mp heq
        obtain ⟨hsome, -⟩ := Option.filter_eq_some_iff.mp hchecksum
        refine h.tail ?_ fun _ _ => rfl
        obtain ⟨checksum?⟩ := row
        obtain rfl : checksum? = _ := hsome
        exact h.schemaMigrations_eq.trans hrow

/-- **An action keeps to what the call knows**, and the call knows what it needs afterwards. -/
theorem Knows.act {a : MigrateAction} (h : Knows sha256 dir db run)
    (hact : migrateAct sha256 dir a db run = some (db', run')) :
    RowStep sha256 dir db db' ∧ Knows sha256 dir db' run' := by
  unfold migrateAct at hact
  split at hact
  case h_1 =>
    split at hact
    · cases hact
    · obtain ⟨rfl, rfl⟩ := Prod.mk.inj (Option.some.inj hact)
      exact ⟨.same rfl rfl, trivial⟩
  case h_4 =>
    obtain ⟨rfl, rfl⟩ := Prod.mk.inj (Option.some.inj hact)
    exact ⟨.same rfl rfl, rfl⟩
  case h_5 entries applied =>
    split at hact
    next hperm =>
      obtain ⟨rfl, rfl⟩ := Prod.mk.inj (Option.some.inj hact)
      have hfiles : dir.files = migrationFiles entries :=
        Js.sort_eq_of_perm (hperm.symm.filter _)
      exact ⟨.same rfl rfl, [], hfiles, nofun, fun file _ => congrFun (congrArg Table.row h) file⟩
    next => cases hact
  case h_6 applied file files =>
    obtain ⟨rfl, rfl⟩ := Prod.mk.inj (Option.some.inj hact)
    exact ⟨.same rfl rfl, knows_next h⟩
  case h_7 =>
    obtain ⟨rfl, rfl⟩ := Prod.mk.inj (Option.some.inj hact)
    obtain ⟨done, hfiles, hdone, -⟩ := h
    rw [List.append_nil] at hfiles
    exact ⟨.same rfl rfl, fun file hmem => hdone file (hfiles ▸ hmem)⟩
  case h_8 applied file files =>
    obtain ⟨rfl, rfl⟩ := Prod.mk.inj (Option.some.inj hact)
    have hunchecked := h.1.unchecked h.2
    exact ⟨.update hunchecked rfl,
      h.1.tail (recorded_update hunchecked) fun file' hne => Table.update_of_ne _ hne _⟩
  case h_11 applied file files =>
    split at hact
    · cases hact
    · obtain ⟨rfl, rfl⟩ := Prod.mk.inj (Option.some.inj hact)
      exact ⟨.same rfl rfl, h⟩
  case h_12 applied file files =>
    obtain ⟨rfl, rfl⟩ := Prod.mk.inj (Option.some.inj hact)
    exact ⟨.apply (h.1.isNext h.2) rfl,
      h.1.tail (recorded_apply file) fun file' hne => Table.set_of_ne _ hne _⟩
  case h_13 =>
    obtain ⟨run₁, hfail, heq⟩ := Option.map_eq_some_iff.mp hact
    obtain ⟨rfl, rfl⟩ := Prod.mk.inj heq
    refine ⟨.same rfl rfl, ?_⟩
    unfold MigrateRun.afterFailure at hfail
    split at hfail
    case h_12 => cases hfail
    all_goals
      obtain rfl := Option.some.inj hfail
      exact True.intro
  case h_15 released error =>
    obtain ⟨rfl, rfl⟩ := Prod.mk.inj (Option.some.inj hact)
    refine ⟨.same rfl rfl, ?_⟩
    cases error with
    | none => exact h
    | some error => exact True.intro
  case h_16 =>
    obtain ⟨run₁, hlost, heq⟩ := Option.map_eq_some_iff.mp hact
    obtain ⟨rfl, rfl⟩ := Prod.mk.inj heq
    refine ⟨.same rfl rfl, ?_⟩
    unfold MigrateRun.afterDisconnect at hlost
    split at hlost
    case h_11 =>
      obtain rfl := Option.some.inj hlost
      exact h.1.unchecked h.2
    case h_12 =>
      obtain rfl := Option.some.inj hlost
      exact h.1.isNext h.2
    case h_13 => cases hlost
    all_goals
      obtain rfl := Option.some.inj hlost
      exact True.intro
  case h_17 statement =>
    obtain ⟨rfl, rfl⟩ := Prod.mk.inj (Option.some.inj hact)
    exact ⟨.finish h, True.intro⟩
  case h_18 =>
    obtain ⟨rfl, rfl⟩ := Prod.mk.inj (Option.some.inj hact)
    exact ⟨.same rfl rfl, True.intro⟩
  case h_19 => cases hact
  all_goals
    obtain ⟨rfl, rfl⟩ := Prod.mk.inj (Option.some.inj hact)
    exact ⟨.same rfl rfl, h⟩

/-- **Who has the lock**: an action takes it if nobody has it, gives it up, or leaves it where it
is; and the rows change only under the lock. -/
theorem migrateAct_lock {a : MigrateAction}
    (hact : migrateAct sha256 dir a db run = some (db', run')) :
    (db'.lock = db.lock ∧ run'.holds = run.holds ∨
      db.lock ≠ .held ∧ db'.lock = .held ∧ run'.holds = true ∨
      db'.lock ≠ .held ∧ run.holds = true ∧ run'.holds = false) ∧
    (run.holds = true ∨ db'.schemaMigrations = db.schemaMigrations ∧ db'.scripts = db.scripts) := by
  unfold migrateAct at hact
  split at hact
  case h_1 =>
    split at hact
    next => cases hact
    next hfree =>
      obtain ⟨rfl, rfl⟩ := Prod.mk.inj (Option.some.inj hact)
      exact ⟨.inr (.inl ⟨hfree, rfl, rfl⟩), .inr ⟨rfl, rfl⟩⟩
  case h_5 =>
    split at hact
    next =>
      obtain ⟨rfl, rfl⟩ := Prod.mk.inj (Option.some.inj hact)
      exact ⟨.inl ⟨rfl, rfl⟩, .inl rfl⟩
    next => cases hact
  case h_6 applied file files =>
    obtain ⟨rfl, rfl⟩ := Prod.mk.inj (Option.some.inj hact)
    refine ⟨.inl ⟨rfl, ?_⟩, .inl rfl⟩
    unfold MigrateRun.next
    split
    · rfl
    · split
      · rfl
      · split <;> rfl
  case h_11 =>
    split at hact
    next => cases hact
    next =>
      obtain ⟨rfl, rfl⟩ := Prod.mk.inj (Option.some.inj hact)
      exact ⟨.inl ⟨rfl, rfl⟩, .inl rfl⟩
  case h_13 =>
    obtain ⟨run₁, hfail, heq⟩ := Option.map_eq_some_iff.mp hact
    obtain ⟨rfl, rfl⟩ := Prod.mk.inj heq
    unfold MigrateRun.afterFailure at hfail
    split at hfail
    case h_12 => cases hfail
    all_goals
      obtain rfl := Option.some.inj hfail
      exact ⟨.inl ⟨rfl, rfl⟩, .inr ⟨rfl, rfl⟩⟩
  case h_15 released error =>
    obtain ⟨rfl, rfl⟩ := Prod.mk.inj (Option.some.inj hact)
    refine ⟨.inr (.inr ⟨?_, rfl, ?_⟩), .inl rfl⟩
    · cases released <;> exact AdvisoryLock.noConfusion
    · cases error <;> rfl
  case h_16 =>
    obtain ⟨run₁, hlost, heq⟩ := Option.map_eq_some_iff.mp hact
    obtain ⟨rfl, rfl⟩ := Prod.mk.inj heq
    unfold MigrateRun.afterDisconnect at hlost
    split at hlost
    case h_13 => cases hlost
    all_goals
      obtain rfl := Option.some.inj hlost
      exact ⟨.inl ⟨rfl, rfl⟩, .inr ⟨rfl, rfl⟩⟩
  case h_17 statement =>
    obtain ⟨rfl, rfl⟩ := Prod.mk.inj (Option.some.inj hact)
    cases statement <;> exact ⟨.inl ⟨rfl, rfl⟩, .inl rfl⟩
  case h_18 =>
    obtain ⟨rfl, rfl⟩ := Prod.mk.inj (Option.some.inj hact)
    exact ⟨.inr (.inr ⟨nofun, rfl, rfl⟩), .inl rfl⟩
  case h_19 => cases hact
  all_goals
    obtain ⟨rfl, rfl⟩ := Prod.mk.inj (Option.some.inj hact)
    exact ⟨.inl ⟨rfl, rfl⟩, .inl rfl⟩

/-- What is recorded with its checksum stays recorded with it. -/
theorem RowStep.recorded (h : RowStep sha256 dir db db') {file : String}
    (hrecorded : Recorded sha256 dir db file) : Recorded sha256 dir db' file := by
  cases h with
  | same hrows _ => rwa [Recorded, hrows]
  | @update file' hunchecked heq =>
    subst heq
    rcases eq_or_ne file file' with rfl | hne
    · exact recorded_update hunchecked
    · rwa [Recorded, MigrationDb.update, Table.update_of_ne _ hne]
  | @apply file' _ heq =>
    subst heq
    rcases eq_or_ne file file' with rfl | hne
    · exact recorded_apply _
    · rwa [Recorded, MigrationDb.apply, Table.set_of_ne _ hne]

/-- A row with a checksum stays as it is. -/
theorem RowStep.checked (h : RowStep sha256 dir db db') {file : String} {row : MigrationRow}
    (hrow : db.schemaMigrations file = some row) {checksum : String}
    (hchecksum : row.appliedChecksum = some checksum) : db'.schemaMigrations file = some row := by
  cases h with
  | same hrows _ => rwa [hrows]
  | @update file' hunchecked heq =>
    subst heq
    obtain ⟨row', hrow', hnone⟩ := hunchecked
    refine (Table.update_of_ne _ ?_ _).trans hrow
    rintro rfl
    obtain rfl : row' = row := Option.some.inj (hrow'.symm.trans hrow)
    rw [hchecksum] at hnone
    cases hnone
  | @apply file' hnext heq =>
    subst heq
    refine (Table.set_of_ne _ ?_ _).trans hrow
    rintro rfl
    rw [hnext.1] at hrow
    cases hrow

/-- **What a call knows survives what others do**, as they do not have the lock at the same
time. -/
theorem Knows.others (h : Knows sha256 dir db run) (hstep : RowStep sha256 dir db db')
    (hrows : run.holds = false ∨
      db'.schemaMigrations = db.schemaMigrations ∧ db'.scripts = db.scripts) :
    Knows sha256 dir db' run := by
  rcases hrows with hfree | ⟨hrows, -⟩
  · cases run with
    | returned => exact fun file hmem => hstep.recorded (h file hmem)
    | idle | threw | ended => exact True.intro
    | locked | created | altered | listing | looping | updating | beginning | begun | ran
    | inserted | rollingBack | finishing | lost => cases hfree
  · have hknows : ∀ run, Knows sha256 dir db' run = Knows sha256 dir db run := by
      intro run
      unfold Knows LoopAt IsNext Recorded
      rw [hrows]
    rwa [hknows]

/-! ### Every history -/

/-- **The invariant of a database that started empty**: the first files have been run, and these are
the ones that are recorded, with their checksums. -/
def AppliedInOrder (sha256 : String → String) (dir : MigrationsDir) (db : MigrationDb) : Prop :=
  (∃ n, db.scripts = dir.files.take n) ∧
    (∀ file ∈ db.scripts, Recorded sha256 dir db file) ∧
    ∀ file, (db.schemaMigrations file).isSome = true → file ∈ db.scripts

/-- A file that comes next is the one after those that have been run. -/
theorem AppliedInOrder.next (h : AppliedInOrder sha256 dir db) {file : String}
    (hnext : IsNext sha256 dir db file) :
    ∃ files, dir.files = db.scripts ++ file :: files := by
  obtain ⟨⟨n, hn⟩, hscripts, hrows⟩ := h
  obtain ⟨hnone, done, files, hfiles, hdone⟩ := hnext
  have hnodup := nodup_files dir
  have hnotMem : file ∉ db.scripts := by
    intro hmem
    rw [show db.schemaMigrations file = some _ from hscripts file hmem] at hnone
    cases hnone
  have hsubset : done ⊆ db.scripts := fun file' hmem =>
    hrows file' (by rw [show db.schemaMigrations file' = some _ from hdone file' hmem]; rfl)
  have hle : n ≤ done.length := by
    by_contra hlt
    refine hnotMem ?_
    rw [hn, hfiles, List.take_append, List.take_of_length_le (by omega)]
    refine List.mem_append_right _ (List.mem_take_iff_getElem.mpr ⟨0, ?_, rfl⟩)
    rw [List.length_cons]
    omega
  have htake : db.scripts = done.take n := by
    rw [hn, hfiles, List.take_append_of_le_length hle]
  have hge : done.length ≤ n := by
    have hdistinct : done.Nodup := (List.nodup_append.mp (hfiles ▸ hnodup)).1
    have hlength := (List.Nodup.subperm hdistinct hsubset).length_le
    rw [htake, List.length_take] at hlength
    omega
  refine ⟨files, ?_⟩
  rw [htake, List.take_of_length_le hge, hfiles]

/-- **The invariant is kept.** -/
theorem AppliedInOrder.step (h : AppliedInOrder sha256 dir db)
    (hstep : RowStep sha256 dir db db') : AppliedInOrder sha256 dir db' := by
  have hrecorded : ∀ file ∈ db.scripts, Recorded sha256 dir db' file :=
    fun file hmem => hstep.recorded (h.2.1 file hmem)
  cases hstep with
  | same hrows hscripts =>
    obtain ⟨hearlier, -, hsome⟩ := h
    refine ⟨?_, ?_, ?_⟩
    · rwa [hscripts]
    · rwa [hscripts]
    · rwa [hscripts, hrows]
  | @update file _ heq =>
    subst heq
    refine ⟨h.1, hrecorded, fun file' hsome => h.2.2 file' ?_⟩
    rcases eq_or_ne file' file with rfl | hne
    · rw [MigrationDb.update, Table.update_self, Option.isSome_map] at hsome
      exact hsome
    · rw [MigrationDb.update, Table.update_of_ne _ hne] at hsome
      exact hsome
  | @apply file hnext heq =>
    subst heq
    obtain ⟨files, hfiles⟩ := h.next hnext
    refine ⟨⟨db.scripts.length + 1, ?_⟩, fun file' hmem => ?_, fun file' hsome => ?_⟩
    · rw [hfiles, List.append_cons]
      exact (List.take_left' List.length_append).symm
    · rcases List.mem_append.mp hmem with hmem | hmem
      · exact hrecorded file' hmem
      · obtain rfl := List.mem_singleton.mp hmem
        exact recorded_apply _
    · rcases eq_or_ne file' file with rfl | hne
      · exact List.mem_append_right _ (List.mem_singleton_self _)
      · rw [MigrationDb.apply, Table.set_of_ne _ hne] at hsome
        exact List.mem_append_left _ (h.2.2 file' hsome)

/-- What holds of a call at all times. -/
def InLoop (sha256 : String → String) (dir : MigrationsDir) (db : MigrationDb) (run : MigrateRun) :
    Prop :=
  (run.holds = true → db.lock = .held) ∧ Knows sha256 dir db run

/-- No two calls have the lock. -/
def Excludes (run run' : MigrateRun) : Prop := run.holds = true → run'.holds = false

variable {ι : Type} [DecidableEq ι] {recorded : Table String MigrationRow}

/-- **The invariant of the calls.** -/
theorem migrations_inv {tr : List (Event ι MigrationDb MigrateRun MigrateAction PoolAction)}
    {c : Config ι MigrationDb MigrateRun} (h : (migrations sha256 dir recorded).Run tr c) :
    (recorded = Table.empty → AppliedInOrder sha256 dir c.shared) ∧
      (∀ i, InLoop sha256 dir c.shared (c.process i)) ∧
      ∀ i j, i ≠ j → Excludes (c.process i) (c.process j) := by
  refine h.ownedApart
    (I := fun _ db => recorded = Table.empty → AppliedInOrder sha256 dir db)
    (O := fun _ db _ => InLoop sha256 dir db) (D := Excludes) ?_ ?_ ?_ ?_
  · intro run run' hexcludes hrun'
    by_contra hrun
    rw [hexcludes (Bool.eq_true_of_not_eq_false hrun)] at hrun'
    cases hrun'
  · rintro db rfl
    refine ⟨fun hempty => ⟨⟨0, rfl⟩, fun file hmem => absurd hmem List.not_mem_nil,
      fun file hsome => ?_⟩, fun _ => ⟨fun hholds => ?_, True.intro⟩, fun hholds => ?_⟩
    · subst hempty
      cases hsome
    · cases hholds
    · cases hholds
  · intro tr c i a db p _ hinv howns hexcludes hact
    obtain ⟨hstep, hknows⟩ := (howns i).2.act hact
    obtain ⟨hlock, hrows⟩ := migrateAct_lock hact
    refine ⟨fun hempty => (hinv hempty).step hstep, ⟨fun hp => ?_, hknows⟩,
      fun j hj => ⟨⟨fun hholds => ?_, (howns j).2.others hstep ?_⟩, fun hp => ?_⟩⟩
    · rcases hlock with ⟨hlock, hsame⟩ | ⟨-, hlock, -⟩ | ⟨-, -, hover⟩
      · rw [hlock]
        exact (howns i).1 (hsame ▸ hp)
      · exact hlock
      · rw [hover] at hp
        cases hp
    · have hheld := (howns j).1 hholds
      rcases hlock with ⟨hlock, -⟩ | ⟨hfree, -, -⟩ | ⟨-, hi, -⟩
      · rw [hlock, hheld]
      · exact absurd hheld hfree
      · rw [hexcludes j hj hi] at hholds
        cases hholds
    · rcases hrows with hi | hsame
      · exact .inl (hexcludes j hj hi)
      · exact .inr hsame
    · by_contra hholds
      have hheld := (howns j).1 (Bool.eq_true_of_not_eq_false hholds)
      rcases hlock with ⟨-, hsame⟩ | ⟨hfree, -, -⟩ | ⟨-, -, hover⟩
      · exact hholds (hexcludes j hj (hsame ▸ hp))
      · exact hfree hheld
      · rw [hover] at hp
        cases hp
  · rintro tr c b db - hinv howns henv
    obtain ⟨hpooled, rfl⟩ : c.shared.lock = .pooled ∧ _ := henv
    refine ⟨hinv, fun j => ⟨fun hholds => ?_, (howns j).2.others (.same rfl rfl) (.inr ⟨rfl, rfl⟩)⟩⟩
    have hheld := (howns j).1 hholds
    rw [hpooled] at hheld
    cases hheld

/-- What a step does to the rows. -/
theorem rowStep_of_step {tr : List (Event ι MigrationDb MigrateRun MigrateAction PoolAction)}
    {c c' : Config ι MigrationDb MigrateRun} {l : Label ι MigrateAction PoolAction}
    (h : (migrations sha256 dir recorded).Run tr c)
    (hstep : (migrations sha256 dir recorded).Step c l c') :
    RowStep sha256 dir c.shared c'.shared := by
  cases hstep with
  | @act i a db p hact => exact (((migrations_inv h).2.1 i).2.act hact).1
  | @env b db henv =>
    obtain ⟨-, rfl⟩ : c.shared.lock = .pooled ∧ _ := henv
    exact .same rfl rfl

/-- A file sorts before another one. -/
def MigrationsDir.Before (dir : MigrationsDir) (file later : String) : Prop :=
  ∃ done files, dir.files = done ++ later :: files ∧ file ∈ done

/-- **Nothing is run after a file whose checksum is wrong.** -/
theorem IsNext.not_before {file later : String} (hnext : IsNext sha256 dir db later)
    (hfile : ¬Recorded sha256 dir db file) : ¬dir.Before file later := by
  rintro ⟨done, files, hfiles, hmem⟩
  obtain ⟨-, done', files', hfiles', hdone⟩ := hnext
  have hnodup := nodup_files dir
  rw [hfiles] at hnodup hfiles'
  obtain ⟨-, hlater, hdisjoint⟩ := List.nodup_append.mp hnodup
  have hdone' : later ∉ done := fun hmem => hdisjoint later hmem later List.mem_cons_self rfl
  obtain ⟨rfl, -, -⟩ := (List.append_cons_inj_of_notMem hdone' (List.nodup_cons.mp hlater).1).mp
    hfiles'
  exact hfile (hdone file hmem)

/-- **The migrations are applied once each, and in order.** If none was recorded at first, those that
have been run are the first files, each of them once, and they are the ones that are recorded; a call
that returns has left every file recorded with its checksum; and once a file is recorded with another
checksum than its own, no file that sorts after it is run any more. -/
theorem migrations_inOrder
    {tr : List (Event ι MigrationDb MigrateRun MigrateAction PoolAction)}
    {c : Config ι MigrationDb MigrateRun} (h : (migrations sha256 dir recorded).Run tr c) :
    (recorded = Table.empty → c.shared.scripts.Nodup ∧ c.shared.scripts <+: dir.files ∧
      ∀ file, (c.shared.schemaMigrations file).isSome = true ↔ file ∈ c.shared.scripts) ∧
    (∀ i, c.process i = .returned → ∀ file ∈ dir.files, Recorded sha256 dir c.shared file ∧
      (recorded = Table.empty → file ∈ c.shared.scripts)) ∧
    ∀ tr₁ e tr₂ file row checksum, tr = tr₁ ++ e :: tr₂ →
      e.before.shared.schemaMigrations file = some row → row.appliedChecksum = some checksum →
      checksum ≠ dir.checksum sha256 file → ∀ later ∈ c.shared.scripts,
        later ∈ e.before.shared.scripts ∨ ¬dir.Before file later := by
  obtain ⟨happlied, hknows, -⟩ := migrations_inv h
  refine ⟨fun hempty => ?_, fun i hi file hmem => ?_, ?_⟩
  · obtain ⟨⟨n, hn⟩, hrecorded, hrows⟩ := happlied hempty
    refine ⟨?_, ?_, fun file => ⟨hrows file, fun hmem => ?_⟩⟩
    · rw [hn]
      exact (List.take_sublist _ _).nodup (nodup_files dir)
    · rw [hn]
      exact List.take_prefix _ _
    · rw [show c.shared.schemaMigrations file = some _ from hrecorded file hmem]
      rfl
  · have hreturned := (hknows i).2
    rw [hi] at hreturned
    have hfile : Recorded sha256 dir c.shared file := hreturned file hmem
    refine ⟨hfile, fun hempty => (happlied hempty).2.2 file ?_⟩
    rw [show c.shared.schemaMigrations file = some _ from hfile]
    rfl
  · rintro tr₁ e tr₂ file row checksum rfl hrow hchecksum hne
    have hwrong : ∀ db : MigrationDb, db.schemaMigrations file = some row →
        ¬Recorded sha256 dir db file := by
      intro db hdb hrecorded
      obtain rfl : row = _ := Option.some.inj (hdb.symm.trans hrecorded)
      exact hne (Option.some.inj (Option.filter_eq_some_iff.mp hchecksum).1).symm
    -- The row stays as it is, and nothing that sorts after the file comes next.
    refine (Processes.Run.since (Q := fun c => c.shared.schemaMigrations file = some row ∧
      ∀ later ∈ c.shared.scripts, later ∈ e.before.shared.scripts ∨ ¬dir.Before file later)
      (p := fun _ => True) ?_ h (fun _ _ => trivial) ⟨hrow, fun later hmem => .inl hmem⟩).2
    rintro tr c l c' hrun ⟨hc, hscripts⟩ - hstep
    have hrowStep := rowStep_of_step hrun hstep
    refine ⟨hrowStep.checked hc hchecksum, ?_⟩
    cases hrowStep with
    | same _ hsame => rwa [hsame]
    | update _ heq =>
      rw [heq]
      exact hscripts
    | apply hnext heq =>
      rw [heq]
      intro later hmem
      rcases List.mem_append.mp hmem with hmem | hmem
      · exact hscripts later hmem
      · obtain rfl := List.mem_singleton.mp hmem
        exact .inr (hnext.not_before (hwrong _ hc))

/-- A directory with two migrations and a file that is none. -/
def twoMigrations : MigrationsDir where
  entries := ["002_indexer_state.sql", "README.md", "001_read_model.sql"]
  nodup := by decide
  content file := file ++ ";"

/-- The history some actions of calls make. -/
def playMigrations (moves : List (ℕ × MigrateAction)) :
    Option (List (Event ℕ MigrationDb MigrateRun MigrateAction PoolAction) ×
      Config ℕ MigrationDb MigrateRun) :=
  (migrations id twoMigrations Table.empty).play moves ⟨⟨.free, Table.empty, []⟩, fun _ => .idle⟩

/-- The second file of a call fails, and the next call loses its connection when it has sent the
`COMMIT` of this file. A third one finds everything applied. -/
def threeCalls : List (ℕ × MigrateAction) :=
  let entry : List MigrateAction :=
    [.lock, .createTable, .addChecksum, .readApplied, .readdir twoMigrations.entries]
  let failing : List MigrateAction := [.next, .begin, .runSql, .insert, .commit, .next, .begin,
    .fail "syntax error", .rollback, .unlock true]
  let losing : List MigrateAction :=
    [.next, .next, .begin, .runSql, .insert, .disconnect, .finish, .sessionOver]
  let finding : List MigrateAction := [.next, .next, .next, .unlock true]
  (entry ++ failing).map (0, ·) ++ (entry ++ losing).map (1, ·) ++ (entry ++ finding).map (2, ·)

theorem threeCalls_possible : (playMigrations threeCalls).isSome := by decide

theorem migrations_inOrder_threeCalls :
    ((playMigrations threeCalls).get threeCalls_possible).2.shared.scripts.Nodup ∧
      ((playMigrations threeCalls).get threeCalls_possible).2.shared.scripts =
        ["001_read_model.sql", "002_indexer_state.sql"] :=
  ⟨((migrations_inOrder (Processes.run_play (M := migrations id twoMigrations Table.empty) rfl
    threeCalls_possible)).1 rfl).1, by decide⟩

end

end ScientificProtocol.Indexer
