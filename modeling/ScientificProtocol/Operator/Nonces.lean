import ScientificProtocol.Sql.Versions
import ScientificProtocol.Concurrency.Processes
import Mathlib.Data.List.Range

/-!
# The nonces of an operator

`reserveOperatorRequestNonce` of `src/shared/operator-requests.ts` as a process: a transaction that
inserts a row for the operator unless there is one, locks the row, reads the nonce and writes the
next one. Its statements wait for the rows other reservations have locked. A statement may fail, and
then the transaction is rolled back; and a process may crash anywhere, so that the server rolls its
transaction back later on, or still commits it if it has been told to.

The first reservations of an operator race for a row that is not there yet. Whoever inserts it has
it locked until it commits, and the others find it then, or insert it themselves if it has been
rolled back. So the reservations of one operator commit one after the other, and the nonces they
commit are `0, 1, 2, …`, in this order (`ScientificProtocol.Operator.nonces_gapFree`).

Addresses are compared in lower case; what `lower` makes of a text is left open. Nonces are natural
numbers: a double counts them one by one as far as anyone gets.
-/

namespace ScientificProtocol.Operator

open Concurrency Sql

inductive OperatorRequestActionType where
  | checkpointPublication
  | replicationSubmission
  | resolutionSubmission
  deriving DecidableEq, Repr

/-- The argument of `reserveOperatorRequestNonce`. -/
structure ReserveInput where
  actionType : OperatorRequestActionType
  operatorAddress : String
  deriving DecidableEq

/-- The primary key of `operator_request_nonces`. -/
abbrev NonceKey : Type := OperatorRequestActionType × String

/-- `operator_request_nonces`, with the column `next_nonce`. -/
abbrev NonceTable : Type := Versions NonceKey ℕ

/-- Where a reservation is. -/
inductive ReserveRun where
  | idle
  /-- `BEGIN` has given the transaction its number. -/
  | begun (input : ReserveInput) (xid : ℕ)
  | inserted (input : ReserveInput) (xid : ℕ)
  | selected (input : ReserveInput) (xid reservedNonce : ℕ)
  /-- The nonce is written, and `COMMIT` is about to be sent, or has been sent. -/
  | updated (input : ReserveInput) (xid reservedNonce : ℕ)
  | committed (input : ReserveInput) (reservedNonce : ℕ)
  | returned (input : ReserveInput) (reservedNonce : ℕ)
  /-- A statement has failed, and `ROLLBACK` is sent. -/
  | failed (xid : ℕ)
  | threw
  /-- It has crashed, and the server still has a transaction of it, with a `COMMIT` under way or
  without. -/
  | crashed (session : Option (ℕ × Option (ReserveInput × ℕ)))
  deriving DecidableEq

/-- What happens in a reservation. -/
inductive ReserveAction where
  | begin (input : ReserveInput)
  | insert
  | select
  | update
  | commit
  | return
  | fail
  /-- The server rolls the transaction back, as it is told to or because the session is over. -/
  | rollback
  | crash
  deriving DecidableEq

section

variable (lower : String → String)

/-- The row of an operator. -/
def ReserveInput.key (input : ReserveInput) : NonceKey :=
  (input.actionType, lower input.operatorAddress)

/-- The transaction of a reservation. -/
def ReserveRun.xid? : ReserveRun → Option ℕ
  | .begun _ xid | .inserted _ xid | .selected _ xid _ | .updated _ xid _ | .failed xid => some xid
  | .crashed (some (xid, _)) => some xid
  | _ => none

/-- A statement fails, or the session is lost before the server commits or after it has. -/
def ReserveRun.afterFailure : ReserveRun → Option ReserveRun
  | .begun _ xid | .inserted _ xid | .selected _ xid _ | .updated _ xid _ => some (.failed xid)
  | .committed _ _ => some .threw
  | _ => none

/-- What is left of a reservation that crashes. -/
def ReserveRun.afterCrash : ReserveRun → Option ReserveRun
  | .begun _ xid | .inserted _ xid | .selected _ xid _ | .failed xid =>
    some (.crashed (some (xid, none)))
  | .updated input xid reservedNonce => some (.crashed (some (xid, some (input, reservedNonce))))
  | .committed _ _ => some (.crashed none)
  | _ => none

/-- **One action of a reservation.** -/
def reserveAct : ReserveAction → NonceTable → ReserveRun → Option (NonceTable × ReserveRun)
  | .begin input, t, .idle => some (t.begin, .begun input t.nextXid)
  | .insert, t, .begun input xid =>
    (t.insertOrIgnore xid (input.key lower) 0).map fun t => (t, .inserted input xid)
  | .select, t, .inserted input xid =>
    (t.selectForUpdate xid (input.key lower)).map fun (t, row) =>
      (t, .selected input xid (row.getD 0))
  | .update, t, .selected input xid reservedNonce =>
    (t.update xid (input.key lower) fun _ => reservedNonce + 1).map fun t =>
      (t, .updated input xid reservedNonce)
  | .commit, t, .updated input xid reservedNonce =>
    some (t.commit xid, .committed input reservedNonce)
  | .commit, t, .crashed (some (xid, some _)) => some (t.commit xid, .crashed none)
  | .return, t, .committed input reservedNonce => some (t, .returned input reservedNonce)
  | .fail, t, run => run.afterFailure.map fun run => (t, run)
  | .rollback, t, .failed xid => some (t.rollback xid, .threw)
  | .rollback, t, .crashed (some (xid, _)) => some (t.rollback xid, .crashed none)
  | .crash, t, run => run.afterCrash.map fun run => (t, run)
  | _, _, _ => none

/-- **Reservations**, on a table that is empty at first. Nothing else writes to it. -/
def reservations : Processes NonceTable ReserveRun ReserveAction Empty where
  genesis t := t = Versions.empty
  idle := .idle
  act := reserveAct lower
  env := nofun

end

section

variable {ι : Type}

/-- A moment of a history of reservations. -/
abbrev ReserveMoment (ι : Type) : Type := Config ι NonceTable ReserveRun

/-- A step of such a history. -/
abbrev ReserveEvent (ι : Type) : Type := Event ι NonceTable ReserveRun ReserveAction Empty

variable (lower : String → String)

/-- What is reserved when a reservation commits. -/
def ReserveRun.reserves : ReserveRun → Option (NonceKey × ℕ)
  | .updated input _ reservedNonce => some (input.key lower, reservedNonce)
  | .crashed (some (_, some (input, reservedNonce))) => some (input.key lower, reservedNonce)
  | _ => none

/-- What a step reserves. -/
def reservationOf (e : ReserveEvent ι) : Option (NonceKey × ℕ) :=
  match e.label with
  | .act i .commit => (e.before.process i).reserves lower
  | _ => none

/-- The nonces that have been committed for an operator, in this order. -/
def committedNonces (key : NonceKey) (tr : List (ReserveEvent ι)) : List ℕ :=
  tr.filterMap fun e => (reservationOf lower e).bind fun reserved =>
    if reserved.1 = key then some reserved.2 else none

end

/-! ### What a reservation knows -/

section

variable (lower : String → String)

/-- A transaction has no row locked but this one. -/
def LocksOnly (t : NonceTable) (xid : ℕ) (key : NonceKey) : Prop :=
  ∀ k version, t.pending k = some (xid, version) → k = key

/-- The row a reservation has locked, with the nonce it has read. -/
def Selected (t : NonceTable) (xid : ℕ) (key : NonceKey) (reservedNonce : ℕ) : Prop :=
  (t.pending key = some (xid, none) ∧ t.committed key = some reservedNonce) ∨
    t.pending key = some (xid, some 0) ∧ t.committed key = none ∧ reservedNonce = 0

/-- The row a reservation has written. -/
def Updated (t : NonceTable) (xid : ℕ) (key : NonceKey) (reservedNonce : ℕ) : Prop :=
  t.pending key = some (xid, some (reservedNonce + 1)) ∧ (t.committed key).getD 0 = reservedNonce

/-- **What a reservation can rely on**, whatever the others do. -/
def Relies (t : NonceTable) : ReserveRun → Prop
  | .begun _ xid => ∀ k version, t.pending k ≠ some (xid, version)
  | .inserted input xid => LocksOnly t xid (input.key lower) ∧
    (((t.committed (input.key lower)).isSome = true ∧
        ∀ version, t.pending (input.key lower) ≠ some (xid, version)) ∨
      t.pending (input.key lower) = some (xid, some 0) ∧ t.committed (input.key lower) = none)
  | .selected input xid reservedNonce => LocksOnly t xid (input.key lower) ∧
    Selected t xid (input.key lower) reservedNonce
  | .updated input xid reservedNonce => LocksOnly t xid (input.key lower) ∧
    Updated t xid (input.key lower) reservedNonce
  | .crashed (some (xid, some (input, reservedNonce))) => LocksOnly t xid (input.key lower) ∧
    Updated t xid (input.key lower) reservedNonce
  | _ => True

variable {lower} {t t' : NonceTable} {run run' : ReserveRun} {x : ℕ}

/-- **Others do not get in the way** of what a reservation relies on. -/
theorem Relies.touched (h : Relies lower t run) (htouch : Versions.Touches x t t')
    (hother : run.xid? ≠ some x) : Relies lower t' run := by
  have honly : ∀ {xid key}, some xid ≠ some x → LocksOnly t xid key → LocksOnly t' xid key :=
    fun hne hlocks k version hpending =>
      hlocks k version ((htouch.locks fun heq => hne (congrArg some heq)).mp hpending)
  have hupdated : ∀ {xid key n}, some xid ≠ some x → Updated t xid key n → Updated t' xid key n := by
    rintro xid key n hne ⟨hpending, hnonce⟩
    have hxid : xid ≠ x := fun heq => hne (congrArg some heq)
    exact ⟨(htouch.locks hxid).mpr hpending, htouch.held hxid hpending ▸ hnonce⟩
  cases run with
  | begun input xid =>
    intro k version hpending
    exact h k version ((htouch.locks fun heq => hother (congrArg some heq)).mp hpending)
  | inserted input xid =>
    have hxid : xid ≠ x := fun heq => hother (congrArg some heq)
    refine ⟨honly hother h.1, ?_⟩
    rcases h.2 with ⟨hrow, hpending⟩ | ⟨hpending, hrow⟩
    · exact .inl ⟨htouch.kept hrow, fun version heq => hpending version ((htouch.locks hxid).mp heq)⟩
    · exact .inr ⟨(htouch.locks hxid).mpr hpending, (htouch.held hxid hpending).trans hrow⟩
  | selected input xid n =>
    have hxid : xid ≠ x := fun heq => hother (congrArg some heq)
    refine ⟨honly hother h.1, ?_⟩
    rcases h.2 with ⟨hpending, hrow⟩ | ⟨hpending, hrow, hn⟩
    · exact .inl ⟨(htouch.locks hxid).mpr hpending, (htouch.held hxid hpending).trans hrow⟩
    · exact .inr ⟨(htouch.locks hxid).mpr hpending, (htouch.held hxid hpending).trans hrow, hn⟩
  | updated input xid n => exact ⟨honly hother h.1, hupdated hother h.2⟩
  | crashed session =>
    match session, h, hother with
    | some (xid, some (input, n)), h, hother => exact ⟨honly hother h.1, hupdated hother h.2⟩
    | some (_, none), _, _ => trivial
    | none, _, _ => trivial
  | idle | committed | returned | failed | threw => trivial

/-- Locking or writing the row keeps to it. -/
theorem LocksOnly.write {key : NonceKey} (h : LocksOnly t x key) (version : Option ℕ) :
    LocksOnly (t.write x key version) x key := by
  intro k version' hpending
  by_contra hk
  rw [Versions.pending_write_of_ne hk] at hpending
  exact hk (h k version' hpending)

/-- **What an action of a reservation does to the rows**: it is one of its transaction, which it has
begun before or begins now. -/
theorem reserveAct_touches {a : ReserveAction}
    (hact : reserveAct lower a t run = some (t', run'))
    (hxid : ∀ x, run.xid? = some x → x < t.nextXid) :
    (t' = t ∧ run'.xid? = none) ∨ ∃ x, Versions.Touches x t t' ∧ x < t'.nextXid ∧
      (run.xid? = some x ∨ x = t.nextXid) ∧ (run'.xid? = none ∨ run'.xid? = some x) := by
  have hown : ∀ {x}, run.xid? = some x → Versions.Touches x t t' →
      (run'.xid? = none ∨ run'.xid? = some x) → ∃ x, Versions.Touches x t t' ∧ x < t'.nextXid ∧
        (run.xid? = some x ∨ x = t.nextXid) ∧ (run'.xid? = none ∨ run'.xid? = some x) :=
    fun hx htouch hnext =>
      ⟨_, htouch, (hxid _ hx).trans_le htouch.nextXid_le, .inl hx, hnext⟩
  unfold reserveAct at hact
  split at hact
  case h_1 input =>
    obtain ⟨rfl, rfl⟩ := Prod.mk.inj (Option.some.inj hact)
    exact .inr ⟨t.nextXid, Versions.touches_begin, Nat.lt_succ_self _, .inr rfl, .inr rfl⟩
  case h_2 input xid =>
    obtain ⟨t₁, hinsert, heq⟩ := Option.map_eq_some_iff.mp hact
    obtain ⟨rfl, rfl⟩ := Prod.mk.inj heq
    exact .inr (hown rfl (Versions.touches_insertOrIgnore hinsert) (.inr rfl))
  case h_3 input xid =>
    obtain ⟨⟨t₁, row⟩, hselect, heq⟩ := Option.map_eq_some_iff.mp hact
    obtain ⟨rfl, rfl⟩ := Prod.mk.inj heq
    exact .inr (hown rfl (Versions.touches_selectForUpdate hselect) (.inr rfl))
  case h_4 input xid n =>
    obtain ⟨t₁, hupdate, heq⟩ := Option.map_eq_some_iff.mp hact
    obtain ⟨rfl, rfl⟩ := Prod.mk.inj heq
    exact .inr (hown rfl (Versions.touches_update hupdate) (.inr rfl))
  case h_5 input xid n =>
    obtain ⟨rfl, rfl⟩ := Prod.mk.inj (Option.some.inj hact)
    exact .inr (hown rfl Versions.touches_commit (.inl rfl))
  case h_6 xid reserved =>
    obtain ⟨rfl, rfl⟩ := Prod.mk.inj (Option.some.inj hact)
    exact .inr (hown rfl Versions.touches_commit (.inl rfl))
  case h_7 input n =>
    obtain ⟨rfl, rfl⟩ := Prod.mk.inj (Option.some.inj hact)
    exact .inl ⟨rfl, rfl⟩
  case h_8 =>
    obtain ⟨run₁, hfail, heq⟩ := Option.map_eq_some_iff.mp hact
    obtain ⟨rfl, rfl⟩ := Prod.mk.inj heq
    unfold ReserveRun.afterFailure at hfail
    split at hfail
    case h_5 =>
      obtain rfl := Option.some.inj hfail
      exact .inl ⟨rfl, rfl⟩
    case h_6 => cases hfail
    all_goals
      obtain rfl := Option.some.inj hfail
      exact .inr (hown rfl (.refl _) (.inr rfl))
  case h_9 xid =>
    obtain ⟨rfl, rfl⟩ := Prod.mk.inj (Option.some.inj hact)
    exact .inr (hown rfl Versions.touches_rollback (.inl rfl))
  case h_10 xid reserved =>
    obtain ⟨rfl, rfl⟩ := Prod.mk.inj (Option.some.inj hact)
    exact .inr (hown rfl Versions.touches_rollback (.inl rfl))
  case h_11 =>
    obtain ⟨run₁, hcrash, heq⟩ := Option.map_eq_some_iff.mp hact
    obtain ⟨rfl, rfl⟩ := Prod.mk.inj heq
    unfold ReserveRun.afterCrash at hcrash
    split at hcrash
    case h_6 =>
      obtain rfl := Option.some.inj hcrash
      exact .inl ⟨rfl, rfl⟩
    case h_7 => cases hcrash
    all_goals
      obtain rfl := Option.some.inj hcrash
      exact .inr (hown rfl (.refl _) (.inr rfl))
  case h_12 => cases hact

/-- After the insertion there is a row, or the transaction has written one. -/
theorem relies_inserted {input : ReserveInput} (h : Relies lower t (.begun input x))
    (hinsert : t.insertOrIgnore x (input.key lower) 0 = some t') :
    Relies lower t' (.inserted input x) := by
  have honly : LocksOnly t x (input.key lower) := fun k version hpending =>
    absurd hpending (h k version)
  rcases Versions.insertOrIgnore_cases hinsert with ⟨rfl, hrow | ⟨version, hown⟩⟩ | ⟨hrow, -, rfl⟩
  · exact ⟨honly, .inl ⟨hrow, h _⟩⟩
  · exact absurd hown (h _ version)
  · exact ⟨honly.write _, .inr ⟨Versions.pending_write _, hrow⟩⟩

/-- The locking read finds the row. -/
theorem relies_selected {input : ReserveInput} {row : Option ℕ}
    (h : Relies lower t (.inserted input x))
    (hselect : t.selectForUpdate x (input.key lower) = some (t', row)) :
    Relies lower t' (.selected input x (row.getD 0)) := by
  obtain ⟨honly, hinserted⟩ := h
  obtain ⟨-, rfl, hcases⟩ := Versions.selectForUpdate_cases hselect
  rcases hinserted with ⟨hrow, hnone⟩ | ⟨hpending, hrow⟩
  · obtain ⟨n, hn⟩ := Option.isSome_iff_exists.mp hrow
    rcases hcases with ⟨-, ⟨version, hown⟩ | habsent⟩ | ⟨hfree, rfl⟩
    · exact absurd hown (hnone version)
    · have hread := Versions.isSome_read (x := x) hrow
      rw [habsent] at hread
      cases hread
    · rw [Versions.read_of_none hfree, hn]
      exact ⟨honly.write _, .inl ⟨Versions.pending_write _, hn⟩⟩
  · rw [Versions.read_of_written hpending] at hcases ⊢
    rcases hcases with ⟨rfl, -⟩ | ⟨hfree, -⟩
    · exact ⟨honly, .inr ⟨hpending, hrow, rfl⟩⟩
    · rw [hpending] at hfree
      cases hfree

/-- The update writes the row that has been read. -/
theorem relies_updated {input : ReserveInput} {n : ℕ}
    (h : Relies lower t (.selected input x n))
    (hupdate : t.update x (input.key lower) (fun _ => n + 1) = some t') :
    Relies lower t' (.updated input x n) := by
  obtain ⟨honly, hselected⟩ := h
  have hwrites : (∃ r, t.read x (input.key lower) = some r) ∧
      (t.committed (input.key lower)).getD 0 = n := by
    rcases hselected with ⟨hpending, hrow⟩ | ⟨hpending, hrow, rfl⟩
    · exact ⟨⟨n, (Versions.read_of_unwritten hpending).trans hrow⟩, by rw [hrow]; rfl⟩
    · exact ⟨⟨0, Versions.read_of_written hpending⟩, by rw [hrow]; rfl⟩
  obtain ⟨⟨r, hr⟩, hnonce⟩ := hwrites
  obtain ⟨-, ⟨habsent, -⟩ | ⟨r', -, rfl⟩⟩ := Versions.update_cases hupdate
  · rw [hr] at habsent
    cases habsent
  · exact ⟨honly.write _, Versions.pending_write _, hnonce⟩

/-- **A reservation brings about what it relies on next.** -/
theorem relies_reserveAct {a : ReserveAction} (hact : reserveAct lower a t run = some (t', run'))
    (h : Relies lower t run)
    (hbelow : ∀ k y version, t.pending k = some (y, version) → y < t.nextXid) :
    Relies lower t' run' := by
  unfold reserveAct at hact
  split at hact
  case h_1 input =>
    obtain ⟨rfl, rfl⟩ := Prod.mk.inj (Option.some.inj hact)
    exact fun k version hpending => absurd (hbelow k _ version hpending) (Nat.lt_irrefl _)
  case h_2 input xid =>
    obtain ⟨t₁, hinsert, heq⟩ := Option.map_eq_some_iff.mp hact
    obtain ⟨rfl, rfl⟩ := Prod.mk.inj heq
    exact relies_inserted h hinsert
  case h_3 input xid =>
    obtain ⟨⟨t₁, row⟩, hselect, heq⟩ := Option.map_eq_some_iff.mp hact
    obtain ⟨rfl, rfl⟩ := Prod.mk.inj heq
    exact relies_selected h hselect
  case h_4 input xid n =>
    obtain ⟨t₁, hupdate, heq⟩ := Option.map_eq_some_iff.mp hact
    obtain ⟨rfl, rfl⟩ := Prod.mk.inj heq
    exact relies_updated h hupdate
  case h_8 =>
    obtain ⟨run₁, hfail, heq⟩ := Option.map_eq_some_iff.mp hact
    obtain ⟨rfl, rfl⟩ := Prod.mk.inj heq
    unfold ReserveRun.afterFailure at hfail
    split at hfail
    case h_6 => cases hfail
    all_goals
      obtain rfl := Option.some.inj hfail
      trivial
  case h_11 =>
    obtain ⟨run₁, hcrash, heq⟩ := Option.map_eq_some_iff.mp hact
    obtain ⟨rfl, rfl⟩ := Prod.mk.inj heq
    unfold ReserveRun.afterCrash at hcrash
    split at hcrash
    case h_5 =>
      obtain rfl := Option.some.inj hcrash
      exact h
    case h_7 => cases hcrash
    all_goals
      obtain rfl := Option.some.inj hcrash
      trivial
  case h_12 => cases hact
  all_goals
    obtain ⟨rfl, rfl⟩ := Prod.mk.inj (Option.some.inj hact)
    trivial

/-- **What an action commits**: the next nonce of the operator it reserves one of, and nothing
else. -/
theorem committed_reserveAct {a : ReserveAction}
    (hact : reserveAct lower a t run = some (t', run')) (h : Relies lower t run) (key : NonceKey) :
    match (if a = .commit then run.reserves lower else none) with
    | some (k, n) => if k = key then
        (t.committed key).getD 0 = n ∧ (t'.committed key).getD 0 = n + 1
      else t'.committed key = t.committed key
    | none => t'.committed key = t.committed key := by
  have hcommit : ∀ {xid : ℕ} {k : NonceKey} {n : ℕ}, LocksOnly t xid k → Updated t xid k n →
      if k = key then (t.committed key).getD 0 = n ∧ ((t.commit xid).committed key).getD 0 = n + 1
      else (t.commit xid).committed key = t.committed key := by
    rintro xid k n honly ⟨hpending, hnonce⟩
    split
    next heq =>
      subst heq
      refine ⟨hnonce, ?_⟩
      have hread : (t.commit xid).committed k = some (n + 1) := Versions.read_of_written hpending
      rw [hread]
      rfl
    next hne =>
      exact Versions.committed_commit_of_ne fun version hlock =>
        hne (honly key version hlock).symm
  unfold reserveAct at hact
  split at hact
  case h_1 input =>
    obtain ⟨rfl, rfl⟩ := Prod.mk.inj (Option.some.inj hact)
    rfl
  case h_2 input xid =>
    obtain ⟨t₁, hinsert, heq⟩ := Option.map_eq_some_iff.mp hact
    obtain ⟨rfl, rfl⟩ := Prod.mk.inj heq
    rcases Versions.insertOrIgnore_cases hinsert with ⟨rfl, -⟩ | ⟨-, -, rfl⟩ <;> rfl
  case h_3 input xid =>
    obtain ⟨⟨t₁, row⟩, hselect, heq⟩ := Option.map_eq_some_iff.mp hact
    obtain ⟨rfl, rfl⟩ := Prod.mk.inj heq
    obtain ⟨-, -, ⟨rfl, -⟩ | ⟨-, rfl⟩⟩ := Versions.selectForUpdate_cases hselect <;> rfl
  case h_4 input xid n =>
    obtain ⟨t₁, hupdate, heq⟩ := Option.map_eq_some_iff.mp hact
    obtain ⟨rfl, rfl⟩ := Prod.mk.inj heq
    obtain ⟨-, ⟨-, rfl⟩ | ⟨r, -, rfl⟩⟩ := Versions.update_cases hupdate <;> rfl
  case h_5 input xid n =>
    obtain ⟨rfl, rfl⟩ := Prod.mk.inj (Option.some.inj hact)
    exact hcommit h.1 h.2
  case h_6 xid input n =>
    obtain ⟨rfl, rfl⟩ := Prod.mk.inj (Option.some.inj hact)
    exact hcommit h.1 h.2
  case h_8 =>
    obtain ⟨run₁, -, heq⟩ := Option.map_eq_some_iff.mp hact
    obtain ⟨rfl, rfl⟩ := Prod.mk.inj heq
    rfl
  case h_11 =>
    obtain ⟨run₁, -, heq⟩ := Option.map_eq_some_iff.mp hact
    obtain ⟨rfl, rfl⟩ := Prod.mk.inj heq
    rfl
  case h_12 => cases hact
  all_goals
    obtain ⟨rfl, rfl⟩ := Prod.mk.inj (Option.some.inj hact)
    rfl

end

/-! ### Every history -/

section

variable {ι : Type} {lower : String → String}

/-- The history of the reservations, as the rows have it: the row of an operator counts what has
been committed for it. -/
def Counted (lower : String → String) (tr : List (ReserveEvent ι)) (t : NonceTable) : Prop :=
  (∀ k y version, t.pending k = some (y, version) → y < t.nextXid) ∧
    ∀ key, committedNonces lower key tr = List.range ((t.committed key).getD 0)

/-- A reservation that has begun its transaction can rely on what it relies on. -/
def Begun (lower : String → String) (t : NonceTable) (run : ReserveRun) : Prop :=
  (∀ x, run.xid? = some x → x < t.nextXid) ∧ Relies lower t run

/-- Two reservations have transactions of their own. -/
def Apart (run run' : ReserveRun) : Prop := ∀ x, run.xid? = some x → run'.xid? ≠ some x

theorem committedNonces_snoc (key : NonceKey) (tr : List (ReserveEvent ι)) (e : ReserveEvent ι) :
    committedNonces lower key (tr ++ [e]) = committedNonces lower key tr ++
      ((reservationOf lower e).bind fun reserved =>
        if reserved.1 = key then some reserved.2 else none).toList := by
  rw [committedNonces, List.filterMap_append, committedNonces, List.filterMap_cons,
    List.filterMap_nil]
  cases (reservationOf lower e).bind fun reserved =>
    if reserved.1 = key then some reserved.2 else none <;> rfl

theorem reservationOf_act (c c' : ReserveMoment ι) (i : ι) (a : ReserveAction) :
    reservationOf lower ⟨c, .act i a, c'⟩ =
      if a = .commit then (c.process i).reserves lower else none := by
  cases a <;> rfl

/-- The process has committed this reservation. -/
def HasCommitted (lower : String → String) (tr : List (ReserveEvent ι)) (i : ι)
    (input : ReserveInput) (reservedNonce : ℕ) : Prop :=
  ∃ tr₁ e tr₂, tr = tr₁ ++ e :: tr₂ ∧ e.label = .act i .commit ∧
    reservationOf lower e = some (input.key lower, reservedNonce)

theorem HasCommitted.snoc {tr : List (ReserveEvent ι)} {i : ι} {input : ReserveInput} {n : ℕ}
    (h : HasCommitted lower tr i input n) (e : ReserveEvent ι) :
    HasCommitted lower (tr ++ [e]) i input n := by
  obtain ⟨tr₁, e', tr₂, rfl, he⟩ := h
  exact ⟨tr₁, e', tr₂ ++ [e], by rw [List.append_assoc, List.cons_append], he⟩

theorem mem_committedNonces {tr : List (ReserveEvent ι)} {e : ReserveEvent ι} (he : e ∈ tr)
    {input : ReserveInput} {n : ℕ} (h : reservationOf lower e = some (input.key lower, n)) :
    n ∈ committedNonces lower (input.key lower) tr := by
  refine List.mem_filterMap.mpr ⟨e, he, ?_⟩
  rw [h, Option.bind_some, if_pos rfl]

/-- What has been reserved, when a reservation has got so far. -/
def ReserveRun.reserved? : ReserveRun → Option (ReserveInput × ℕ)
  | .committed input reservedNonce | .returned input reservedNonce => some (input, reservedNonce)
  | _ => none

/-- Nothing is reserved but by a commit. -/
theorem reserved_reserveAct {a : ReserveAction} {t t' : NonceTable} {run run' : ReserveRun}
    {input : ReserveInput} {n : ℕ} (hact : reserveAct lower a t run = some (t', run'))
    (h : run'.reserved? = some (input, n)) : run.reserved? = some (input, n) ∨
      a = .commit ∧ run.reserves lower = some (input.key lower, n) := by
  unfold reserveAct at hact
  split at hact
  case h_5 input' xid n' =>
    obtain ⟨-, rfl⟩ := Prod.mk.inj (Option.some.inj hact)
    obtain ⟨rfl, rfl⟩ := Prod.mk.inj (Option.some.inj h)
    exact .inr ⟨rfl, rfl⟩
  case h_7 input' n' =>
    obtain ⟨-, rfl⟩ := Prod.mk.inj (Option.some.inj hact)
    exact .inl h
  case h_8 =>
    obtain ⟨run₁, hfail, heq⟩ := Option.map_eq_some_iff.mp hact
    obtain ⟨-, rfl⟩ := Prod.mk.inj heq
    unfold ReserveRun.afterFailure at hfail
    split at hfail
    case h_6 => cases hfail
    all_goals
      obtain rfl := Option.some.inj hfail
      cases h
  case h_11 =>
    obtain ⟨run₁, hcrash, heq⟩ := Option.map_eq_some_iff.mp hact
    obtain ⟨-, rfl⟩ := Prod.mk.inj heq
    unfold ReserveRun.afterCrash at hcrash
    split at hcrash
    case h_7 => cases hcrash
    all_goals
      obtain rfl := Option.some.inj hcrash
      cases h
  case h_12 => cases hact
  case h_2 | h_3 | h_4 =>
    obtain ⟨_, -, heq⟩ := Option.map_eq_some_iff.mp hact
    obtain ⟨-, rfl⟩ := Prod.mk.inj heq
    cases h
  all_goals
    obtain ⟨-, rfl⟩ := Prod.mk.inj (Option.some.inj hact)
    cases h

/-- **The ledger of an operator goes on counting.** -/
theorem ledger_act {tr : List (ReserveEvent ι)} {c : ReserveMoment ι} (c' : ReserveMoment ι) {i : ι}
    {a : ReserveAction} {t : NonceTable} {p : ReserveRun}
    (hact : reserveAct lower a c.shared (c.process i) = some (t, p))
    (hrelies : Relies lower c.shared (c.process i)) {key : NonceKey}
    (hledger : committedNonces lower key tr = List.range ((c.shared.committed key).getD 0)) :
    committedNonces lower key (tr ++ [⟨c, .act i a, c'⟩]) =
      List.range ((t.committed key).getD 0) := by
  have hcommitted := committed_reserveAct hact hrelies key
  rw [committedNonces_snoc, hledger, reservationOf_act]
  cases hreserved : (if a = .commit then (c.process i).reserves lower else none) with
  | none =>
    rw [hreserved] at hcommitted
    rw [hcommitted, Option.bind_none, Option.toList_none, List.append_nil]
  | some reserved =>
    obtain ⟨k, n⟩ := reserved
    rw [hreserved] at hcommitted
    rw [Option.bind_some]
    by_cases hk : k = key
    · obtain ⟨hbefore, hafter⟩ : _ ∧ _ := by simpa only [hk, if_true] using hcommitted
      rw [if_pos hk, hbefore, hafter, Option.toList_some, List.range_succ]
    · have hsame : t.committed key = c.shared.committed key := by
        simpa only [hk, if_false] using hcommitted
      rw [if_neg hk, hsame, Option.toList_none, List.append_nil]

variable [DecidableEq ι]

/-- **The invariant holds in every history.** -/
theorem counted_run {tr : List (ReserveEvent ι)} {c : ReserveMoment ι}
    (h : (reservations lower).Run tr c) : Counted lower tr c.shared := by
  refine (h.ownedApart (I := Counted lower) (O := fun _ t _ => Begun lower t) (D := Apart)
    ?_ ?_ ?_ ?_).1
  · exact fun hapart x hq hp => hapart x hp hq
  · rintro t rfl
    refine ⟨⟨fun k y version hpending => ?_, fun _ => rfl⟩, fun _ => ⟨nofun, trivial⟩, nofun⟩
    cases hpending
  · rintro tr c i a t p - ⟨hbelow, hledger⟩ howns hapart hact
    have hledger' := fun key =>
      ledger_act ⟨t, Function.update c.process i p⟩ hact (howns i).2 (hledger key)
    have hrelies := relies_reserveAct hact (howns i).2 hbelow
    rcases reserveAct_touches hact (howns i).1 with ⟨rfl, hover⟩ | ⟨x, htouch, hx, hown, hnext⟩
    · refine ⟨⟨hbelow, hledger'⟩, ⟨fun x hp => ?_, hrelies⟩, fun j _ => ⟨howns j, fun x hp => ?_⟩⟩
      · rw [hover] at hp
        cases hp
      · rw [hover] at hp
        cases hp
    · have hfresh : ∀ j, j ≠ i → (c.process j).xid? ≠ some x := by
        rintro j hji hj
        rcases hown with hi | rfl
        · exact hapart j hji x hi hj
        · exact Nat.lt_irrefl _ ((howns j).1 _ hj)
      have hxid : ∀ y, p.xid? = some y → y = x := by
        intro y hy
        rcases hnext with hnone | hsome
        · rw [hnone] at hy
          cases hy
        · exact Option.some.inj (hy.symm.trans hsome)
      refine ⟨⟨fun k y version hpending => ?_, hledger'⟩, ⟨fun y hy => hxid y hy ▸ hx, hrelies⟩,
        fun j hji => ⟨⟨fun y hj => ?_, ?_⟩, fun y hy => ?_⟩⟩
      · rcases eq_or_ne y x with rfl | hyx
        · exact hx
        · exact (hbelow k y version ((htouch.locks hyx).mp hpending)).trans_le htouch.nextXid_le
      · exact ((howns j).1 y hj).trans_le htouch.nextXid_le
      · exact (howns j).2.touched htouch (hfresh j hji)
      · rw [hxid y hy]
        exact hfresh j hji
  · exact fun {_ _ b _} _ _ _ _ => b.elim

/-- **A reservation has committed what it returns.** -/
theorem hasCommitted_run {tr : List (ReserveEvent ι)} {c : ReserveMoment ι}
    (h : (reservations lower).Run tr c) (i : ι) {input : ReserveInput} {n : ℕ}
    (hi : (c.process i).reserved? = some (input, n)) : HasCommitted lower tr i input n := by
  refine (Processes.Run.owned (I := fun _ _ => True)
    (O := fun tr _ i run => ∀ input n, run.reserved? = some (input, n) →
      HasCommitted lower tr i input n) (fun s _ => ⟨trivial, nofun⟩) ?_ ?_ h).2 i input n hi
  · intro tr c i a t p _ _ howns hact
    refine ⟨trivial, fun input n hp => ?_, fun j _ input n hj => (howns j input n hj).snoc _⟩
    rcases reserved_reserveAct hact hp with hbefore | ⟨rfl, hreserves⟩
    · exact (howns i input n hbefore).snoc _
    · exact ⟨tr, _, [], rfl, rfl, hreserves⟩
  · exact fun {_ _ b _} _ _ _ _ => b.elim

/-- The committed nonces of an operator are those from zero on. -/
theorem committedNonces_eq {tr : List (ReserveEvent ι)} {c : ReserveMoment ι}
    (h : (reservations lower).Run tr c) (key : NonceKey) : committedNonces lower key tr =
      List.range (committedNonces lower key tr).length := by
  have hledger := (counted_run h).2 key
  rw [hledger, List.length_range]

/-- **Two reservations of one operator never get the same nonce.** -/
theorem ne_of_hasCommitted {tr : List (ReserveEvent ι)} {c : ReserveMoment ι}
    (h : (reservations lower).Run tr c) {i j : ι} (hij : i ≠ j) {input input' : ReserveInput}
    {n n' : ℕ} (hi : HasCommitted lower tr i input n) (hj : HasCommitted lower tr j input' n')
    (hkey : input.key lower = input'.key lower) : n ≠ n' := by
  rintro rfl
  obtain ⟨tr₁, e, tr₂, rfl, hlabel, hreserved⟩ := hi
  obtain ⟨tr₃, e', tr₄, htr, hlabel', hreserved'⟩ := hj
  rw [← hkey] at hreserved'
  have hne : e' ≠ e := by
    rintro rfl
    rw [hlabel] at hlabel'
    exact hij (Label.act.inj hlabel').1
  have hmem : e' ∈ tr₁ ∨ e' ∈ tr₂ := by
    have hmem : e' ∈ tr₁ ++ e :: tr₂ := by
      rw [htr]
      exact List.mem_append_right _ List.mem_cons_self
    rcases List.mem_append.mp hmem with h₁ | h₂
    · exact .inl h₁
    · exact .inr (List.mem_of_ne_of_mem hne h₂)
  have hnodup : (committedNonces lower (input.key lower) (tr₁ ++ e :: tr₂)).Nodup := by
    rw [committedNonces_eq h]
    exact List.nodup_range
  rw [committedNonces, List.filterMap_append, List.filterMap_cons_some (b := n)
    (by rw [hreserved, Option.bind_some, if_pos rfl])] at hnodup
  obtain ⟨-, htail, hdisjoint⟩ := List.nodup_append.mp hnodup
  rcases hmem with h₁ | h₂
  · exact hdisjoint n (mem_committedNonces h₁ hreserved') n List.mem_cons_self rfl
  · exact (List.nodup_cons.mp htail).1 (mem_committedNonces h₂ hreserved')

/-- **The nonces of an operator have no gap and come but once**: after `n` commits for it they are
`0, 1, …, n - 1`, in the order of the commits. A reservation returns a nonce it has committed, and
two that return nonces of one operator return different ones. -/
theorem nonces_gapFree {tr : List (ReserveEvent ι)} {c : ReserveMoment ι}
    (h : (reservations lower).Run tr c) :
    (∀ key, (committedNonces lower key tr).Nodup ∧
      (committedNonces lower key tr).Pairwise (· < ·) ∧
      committedNonces lower key tr = List.range (committedNonces lower key tr).length) ∧
    (∀ i input n, c.process i = .returned input n → HasCommitted lower tr i input n) ∧
    ∀ i j input input' n n', i ≠ j → c.process i = .returned input n →
      c.process j = .returned input' n' → input.key lower = input'.key lower → n ≠ n' := by
  have hreturned : ∀ i input n, c.process i = .returned input n →
      HasCommitted lower tr i input n :=
    fun i input n hi => hasCommitted_run h i (by rw [hi]; rfl)
  refine ⟨fun key => ⟨?_, ?_, committedNonces_eq h key⟩, hreturned, ?_⟩
  · rw [committedNonces_eq h]
    exact List.nodup_range
  · rw [committedNonces_eq h]
    exact List.pairwise_lt_range
  · exact fun i j input input' n n' hij hi hj hkey =>
      ne_of_hasCommitted h hij (hreturned i input n hi) (hreturned j input' n' hj) hkey

/-- What the server makes of the addresses below. -/
def lowerAddress (address : String) : String := if address = "0xAB" then "0xab" else address

/-- The history some actions of reservations make. -/
def playReservations (moves : List (ℕ × ReserveAction)) :
    Option (List (ReserveEvent ℕ) × ReserveMoment ℕ) :=
  (reservations lowerAddress).play moves ⟨.empty, fun _ => .idle⟩

/-- Two reservations race for the first nonce of an operator, whose address they write in
different ways, when a third one that has got the row first crashes. -/
def racingReservations : List (ℕ × ReserveAction) :=
  let upper : ReserveInput := ⟨.checkpointPublication, "0xAB"⟩
  let plain : ReserveInput := ⟨.checkpointPublication, "0xab"⟩
  [(0, .begin upper), (1, .begin plain), (2, .begin plain), (2, .insert), (2, .select),
    (2, .update), (2, .crash), (2, .rollback), (0, .insert), (0, .select), (0, .update),
    (0, .commit), (1, .insert), (1, .select), (1, .update), (0, .return), (1, .commit),
    (1, .return)]

theorem racingReservations_possible : (playReservations racingReservations).isSome := by
  decide

theorem nonces_gapFree_racing :
    (∀ key, (committedNonces lowerAddress key
      ((playReservations racingReservations).get racingReservations_possible).1).Nodup) ∧
    committedNonces lowerAddress (.checkpointPublication, "0xab")
      ((playReservations racingReservations).get racingReservations_possible).1 = [0, 1] :=
  ⟨fun key => ((nonces_gapFree (Processes.run_play (M := reservations lowerAddress) rfl
    racingReservations_possible)).1 key).1, by decide⟩

end

end ScientificProtocol.Operator
