import ScientificProtocol.Concurrency.Leases
import ScientificProtocol.Concurrency.Processes
import ScientificProtocol.PublicWrite.Authentication

/-!
# The execution lease of a public write request

Any number of API processes receive signed requests, record them, and execute them under
the lease of the request, one statement after the other and in any order. Each process
draws the name of its lease once, as `POST /claims` does, and remembers what the answers to
its reservations and renewals have told it.

What the lease is for is `ScientificProtocol.PublicWrite.ExecutionLease`: it holds at the
end of every history (`ScientificProtocol.PublicWrite.executionLease_of_run`). The nonce of
an actor is its own for each type of action: under another type of action the same actor
may use it again (`ScientificProtocol.PublicWrite.nonce_recorded_twice`).
-/

namespace ScientificProtocol.PublicWrite

open Concurrency

/-! ### Processes -/

/-- What the processes share: the table, the clock of the database, and the names of leases
that have been drawn. -/
structure Server where
  requests : PublicWriteRequests
  now : Time
  leaseOwners : List String

/-- What a process knows. -/
structure ApiProcess where
  /-- `randomUUID()`. -/
  leaseOwner : Option String
  /-- Until when it has been told that it has the lease of a request. -/
  granted : ℕ → Option Time
  authentication : Authentication

/-- What a process does next. -/
inductive ApiAction where
  | receive (expected : PublicWriteExpected) (signed : SignedPublicWriteRequestBody)
  | authenticate (dateNow : ℤ)
  | drawLeaseOwner (leaseOwner : String)
  | reserve (leaseMs requestId : ℕ)
  | renew (leaseMs requestId : ℕ)
  | assert (requestId : ℕ)
  | release (requestId : ℕ)
  | markAccepted (requestId : ℕ) (outcomeDetail : Option String)
  | markPending (requestId : ℕ) (outcomeDetail : String)
  | markRejected (requestId : ℕ) (outcomeDetail : String)

/-- A statement that has failed has changed nothing. -/
def Server.commit (s : Server) (t : Except String PublicWriteRequests) : Server :=
  match t with
  | .ok t => { s with requests := t }
  | .error _ => s

namespace ApiProcess

/-- What the answer to a reservation or a renewal tells a process. -/
def answered (s : Server) (p : ApiProcess) (leaseMs requestId : ℕ)
    (answer : Option PublicWriteRequests) : Server × ApiProcess :=
  match answer with
  | some t => ({ s with requests := t },
      { p with granted := Function.update p.granted requestId (some (s.now + leaseMs)) })
  | none => (s, p)

/-- A process acts. -/
def act (host : Host) (a : ApiAction) (s : Server) (p : ApiProcess) :
    Option (Server × ApiProcess) :=
  match a with
  | .receive expected signed =>
    some (s, { p with authentication := .start host expected signed })
  | .authenticate dateNow =>
    (p.authentication.next host dateNow s.now s.requests).map fun r =>
      ({ s with requests := r.1 }, { p with authentication := r.2 })
  | .drawLeaseOwner leaseOwner =>
    if p.leaseOwner = none ∧ leaseOwner ∉ s.leaseOwners then
      some ({ s with leaseOwners := leaseOwner :: s.leaseOwners },
        { p with leaseOwner := some leaseOwner })
    else none
  | .reserve leaseMs requestId => p.leaseOwner.map fun leaseOwner =>
    answered s p leaseMs requestId
      (reservePublicWriteRequestExecution s.now s.requests leaseMs leaseOwner requestId)
  | .renew leaseMs requestId => p.leaseOwner.map fun leaseOwner =>
    answered s p leaseMs requestId
      (renewPublicWriteRequestExecution s.now s.requests leaseMs leaseOwner requestId)
  | .assert _ => some (s, p)
  | .release requestId => p.leaseOwner.map fun leaseOwner =>
    ({ s with
        requests := releasePublicWriteRequestExecution s.now s.requests leaseOwner requestId },
      { p with granted := Function.update p.granted requestId none })
  | .markAccepted requestId outcomeDetail =>
    some (s.commit (markPublicWriteRequestAccepted s.now s.requests requestId outcomeDetail), p)
  | .markPending requestId outcomeDetail =>
    some (s.commit (markPublicWriteRequestPending s.now s.requests requestId outcomeDetail), p)
  | .markRejected requestId outcomeDetail =>
    some (s.commit (markPublicWriteRequestRejected s.now s.requests requestId outcomeDetail), p)

end ApiProcess

/-- **The processes of the API**, and a clock that runs on. -/
def api (host : Host) : Processes Server ApiProcess ApiAction Time where
  genesis s := s.requests = .empty ∧ s.leaseOwners = []
  idle := ⟨none, fun _ => none, .idle⟩
  act := ApiProcess.act host
  env now s s' := s.now ≤ now ∧ s' = { s with now }

/-! ### What is recorded of leases -/

/-- Who has the lease of a request, and until when, as its row says. -/
def PublicWriteRequests.leaseOf (t : PublicWriteRequests) (requestId : ℕ) :
    Option (String × Time) :=
  (t.rows requestId).bind fun row => row.executionLeaseOwner.bind fun leaseOwner =>
    row.executionLeaseExpiresAt.map fun expiresAt => (leaseOwner, expiresAt)

namespace PublicWriteRequests

variable {now : Time} {t t' : PublicWriteRequests} {requestId leaseMs : ℕ} {leaseOwner : String}

theorem leaseOf_eq_some {expiresAt : Time} :
    t.leaseOf requestId = some (leaseOwner, expiresAt) ↔ ∃ row, t.rows requestId = some row ∧
      row.executionLeaseOwner = some leaseOwner ∧ row.executionLeaseExpiresAt = some expiresAt := by
  simp only [leaseOf, Option.bind_eq_some_iff, Option.map_eq_some_iff, Prod.mk.injEq]
  constructor
  · rintro ⟨row, hrow, owner, howner, expires, hexpires, rfl, rfl⟩
    exact ⟨row, hrow, howner, hexpires⟩
  · rintro ⟨row, hrow, howner, hexpires⟩
    exact ⟨row, hrow, leaseOwner, howner, expiresAt, hexpires, rfl, rfl⟩

/-- An owner has an unexpired lease exactly if its row says so. -/
theorem any_leasedTo : (t.rows requestId).any (·.leasedTo now leaseOwner) = true ↔
    ∃ expiresAt, t.leaseOf requestId = some (leaseOwner, expiresAt) ∧ now < expiresAt := by
  simp only [Option.any_eq_true, PublicWriteRequest.leasedTo_iff, leaseOf_eq_some]
  constructor
  · rintro ⟨row, hrow, howner, expiresAt, hexpires, hlt⟩
    exact ⟨expiresAt, ⟨row, hrow, howner, hexpires⟩, hlt⟩
  · rintro ⟨expiresAt, ⟨row, hrow, howner, hexpires⟩, hlt⟩
    exact ⟨row, hrow, howner, expiresAt, hexpires, hlt⟩

/-- What an update does to the lease of the request it is about, and to no other. -/
theorem leaseOf_update {f : PublicWriteRequest → PublicWriteRequest}
    {hf : ∀ row, PublicWriteRequest.Kept row (f row)} :
    (t.update requestId f hf).leaseOf = Function.update t.leaseOf requestId
      ((t.rows requestId).bind fun row => (f row).executionLeaseOwner.bind fun leaseOwner =>
        (f row).executionLeaseExpiresAt.map fun expiresAt => (leaseOwner, expiresAt)) := by
  funext r
  by_cases hr : r = requestId
  · subst hr
    rw [Function.update_self, leaseOf, update, Sql.Serial.update_self, Option.bind_map]
    rfl
  · rw [Function.update_of_ne hr, leaseOf, update, Sql.Serial.update_of_ne _ hr, leaseOf]

/-- An update that leaves the lease alone. -/
theorem leaseOf_update_of_eq {f : PublicWriteRequest → PublicWriteRequest}
    {hf : ∀ row, PublicWriteRequest.Kept row (f row)}
    (hsame : ∀ row, (f row).executionLeaseOwner = row.executionLeaseOwner ∧
      (f row).executionLeaseExpiresAt = row.executionLeaseExpiresAt) :
    (t.update requestId f hf).leaseOf = t.leaseOf := by
  rw [leaseOf_update]
  refine (congrArg _ ?_).trans (Function.update_eq_self requestId t.leaseOf)
  simp only [hsame, leaseOf]

theorem leaseOf_mark {status : PublicWriteRequestStatus} {outcomeDetail : Option String}
    {missing : String}
    (h : markPublicWriteRequest now t status outcomeDetail missing requestId = .ok t') :
    t'.leaseOf = t.leaseOf := by
  rw [markPublicWriteRequest_eq_ok h]
  refine leaseOf_update_of_eq fun row => ?_
  rw [PublicWriteRequest.mark]
  split <;> exact ⟨rfl, rfl⟩

theorem leaseOf_insert {input : PublicWriteInput}
    (h : insertPublicWriteRequest now t input = some (requestId, t')) :
    t'.leaseOf = t.leaseOf := by
  obtain ⟨-, hrows⟩ := insertPublicWriteRequest_eq_some h
  funext r
  rw [leaseOf, hrows, leaseOf]
  by_cases hr : r = t.rows.next
  · rw [hr, Sql.Serial.insert_self, t.rows.fresh _ (Nat.le_refl _)]
    rfl
  · rw [Sql.Serial.insert_of_ne _ hr]

/-- A reservation that succeeds finds no lease that has not expired. -/
theorem reserve_eq_some
    (h : reservePublicWriteRequestExecution now t leaseMs leaseOwner requestId = some t') :
    (∀ o expiresAt, t.leaseOf requestId = some (o, expiresAt) → expiresAt ≤ now) ∧
      t'.leaseOf =
        Function.update t.leaseOf requestId (some (leaseOwner, now + leaseMs)) ∧ t.Kept t' := by
  obtain ⟨⟨row, hrow, hfree⟩, rfl⟩ := updateIf_eq_some h
  refine ⟨fun o expiresAt hlease => ?_, ?_, kept_update _⟩
  · obtain ⟨row', hrow', -, hexpires⟩ := leaseOf_eq_some.mp hlease
    obtain rfl := Option.some.inj (hrow.symm.trans hrow')
    rw [PublicWriteRequest.leaseFree, hexpires, Option.all_some, decide_eq_true_eq] at hfree
    exact hfree
  · rw [leaseOf_update, hrow]
    rfl

/-- A renewal that succeeds finds the lease of its owner, not expired. -/
theorem renew_eq_some
    (h : renewPublicWriteRequestExecution now t leaseMs leaseOwner requestId = some t') :
    (∃ expiresAt, t.leaseOf requestId = some (leaseOwner, expiresAt) ∧ now < expiresAt) ∧
      t'.leaseOf =
        Function.update t.leaseOf requestId (some (leaseOwner, now + leaseMs)) ∧ t.Kept t' := by
  obtain ⟨⟨row, hrow, hleased⟩, rfl⟩ := updateIf_eq_some h
  obtain ⟨howner, expiresAt, hexpires, hlt⟩ := PublicWriteRequest.leasedTo_iff.mp hleased
  refine ⟨⟨expiresAt, leaseOf_eq_some.mpr ⟨row, hrow, howner, hexpires⟩, hlt⟩, ?_, kept_update _⟩
  rw [leaseOf_update, hrow]
  simp [PublicWriteRequest.renew, howner]

/-- A release clears the lease of its owner. -/
theorem leaseOf_release :
    (releasePublicWriteRequestExecution now t leaseOwner requestId).leaseOf =
      Function.update t.leaseOf requestId
        ((t.leaseOf requestId).filter fun lease => lease.1 ≠ leaseOwner) := by
  unfold releasePublicWriteRequestExecution updateIf
  split
  next howned =>
    obtain ⟨row, hrow, howner⟩ := (Option.any_eq_true _ _).mp howned
    rw [Option.getD_some, leaseOf_update, hrow]
    congr 1
    have hlease : ∀ lease ∈ t.leaseOf requestId, lease.1 = leaseOwner := by
      rintro ⟨o, expiresAt⟩ hlease
      obtain ⟨row', hrow', howner', -⟩ := leaseOf_eq_some.mp hlease
      obtain rfl := Option.some.inj (hrow.symm.trans hrow')
      exact Option.some.inj (howner'.symm.trans (of_decide_eq_true howner))
    refine Eq.symm (Option.filter_eq_none_iff.mpr fun lease hmem => ?_)
    simp [hlease lease hmem]
  next hother =>
    rw [Option.getD_none]
    refine (Function.update_eq_self_iff.mpr ?_).symm
    cases hlease : t.leaseOf requestId with
    | none => rfl
    | some lease =>
      obtain ⟨row, hrow, howner, -⟩ := leaseOf_eq_some.mp hlease
      refine Option.filter_eq_some_iff.mpr ⟨rfl, decide_eq_true ?_⟩
      rintro rfl
      exact hother ((Option.any_eq_true _ _).mpr ⟨row, hrow, decide_eq_true howner⟩)

theorem kept_release : t.Kept (releasePublicWriteRequestExecution now t leaseOwner requestId) := by
  unfold releasePublicWriteRequestExecution updateIf
  split
  · exact kept_update fun _ => PublicWriteRequest.kept_release
  · exact .refl t

theorem kept_insert {input : PublicWriteInput}
    (h : insertPublicWriteRequest now t input = some (requestId, t')) : t.Kept t' := by
  obtain ⟨-, hrows⟩ := insertPublicWriteRequest_eq_some h
  intro r row hrow
  exact ⟨row, by rw [hrows, Sql.Serial.insert_of_some hrow], .refl⟩

end PublicWriteRequests

/-! ### What an action does -/

/-- **What an action does to leases**: nothing, or the process draws a name, or it is given
a lease, or it gives one back. -/
inductive LeaseEffect (s : Server) (p : ApiProcess) : ApiAction → Server → ApiProcess → Prop
  | idle {a : ApiAction} {s' : Server} {p' : ApiProcess} :
      s'.requests.leaseOf = s.requests.leaseOf → s'.leaseOwners = s.leaseOwners →
      p'.leaseOwner = p.leaseOwner → p'.granted = p.granted → LeaseEffect s p a s' p'
  | draw {leaseOwner : String} : p.leaseOwner = none → leaseOwner ∉ s.leaseOwners →
      LeaseEffect s p (.drawLeaseOwner leaseOwner)
        { s with leaseOwners := leaseOwner :: s.leaseOwners }
        { p with leaseOwner := some leaseOwner }
  /-- A reservation finds no lease that has not expired, and a renewal its own. -/
  | grant {a : ApiAction} {t : PublicWriteRequests} {leaseOwner : String} {requestId : ℕ}
      {expiresAt : Time} : p.leaseOwner = some leaseOwner →
      (∃ leaseMs, a = .reserve leaseMs requestId ∧
          ∀ o t', s.requests.leaseOf requestId = some (o, t') → t' ≤ s.now) ∨
        (∃ t', s.requests.leaseOf requestId = some (leaseOwner, t') ∧ s.now < t') →
      t.leaseOf = Function.update s.requests.leaseOf requestId (some (leaseOwner, expiresAt)) →
      LeaseEffect s p a { s with requests := t }
        { p with granted := Function.update p.granted requestId (some expiresAt) }
  | release {a : ApiAction} {t : PublicWriteRequests} {leaseOwner : String} {requestId : ℕ} :
      p.leaseOwner = some leaseOwner →
      t.leaseOf = Function.update s.requests.leaseOf requestId
        ((s.requests.leaseOf requestId).filter fun lease => lease.1 ≠ leaseOwner) →
      LeaseEffect s p a { s with requests := t }
        { p with granted := Function.update p.granted requestId none }

/-- What a statement of authentication does to the table. -/
theorem Authentication.next_kept {host : Host} {dateNow : ℤ} {now : Time}
    {t t' : PublicWriteRequests} {a a' : Authentication}
    (h : a.next host dateNow now t = some (t', a')) : t'.leaseOf = t.leaseOf ∧ t.Kept t' := by
  cases a with
  | idle | authenticated _ | refused _ => exact absurd h (by simp [next])
  | checked request =>
    simp only [next] at h
    split at h
    · obtain ⟨rfl, -⟩ := Prod.mk.inj (Option.some.inj h)
      exact ⟨rfl, .refl t⟩
    · split at h <;> obtain ⟨rfl, -⟩ := Prod.mk.inj (Option.some.inj h) <;> exact ⟨rfl, .refl t⟩
  | fresh request =>
    simp only [next] at h
    split at h
    next requestId t₁ hinsert =>
      obtain ⟨rfl, -⟩ := Prod.mk.inj (Option.some.inj h)
      exact ⟨PublicWriteRequests.leaseOf_insert hinsert, PublicWriteRequests.kept_insert hinsert⟩
    next => split at h <;> obtain ⟨rfl, -⟩ := Prod.mk.inj (Option.some.inj h) <;>
      exact ⟨rfl, .refl t⟩
  | duplicate request =>
    simp only [next] at h
    split at h <;> obtain ⟨rfl, -⟩ := Prod.mk.inj (Option.some.inj h) <;> exact ⟨rfl, .refl t⟩

/-- What setting a status does. -/
theorem Server.commit_mark {s : Server} (status : PublicWriteRequestStatus)
    {outcomeDetail : Option String} {missing : String} {requestId : ℕ} :
    (s.commit (markPublicWriteRequest s.now s.requests status outcomeDetail missing
        requestId)).requests.leaseOf = s.requests.leaseOf ∧
      s.requests.Kept (s.commit (markPublicWriteRequest s.now s.requests status outcomeDetail
        missing requestId)).requests ∧
      (s.commit (markPublicWriteRequest s.now s.requests status outcomeDetail missing
        requestId)).leaseOwners = s.leaseOwners ∧
      (s.commit (markPublicWriteRequest s.now s.requests status outcomeDetail missing
        requestId)).now = s.now := by
  cases hmark : markPublicWriteRequest s.now s.requests status outcomeDetail missing requestId with
  | error _ => exact ⟨rfl, .refl _, rfl, rfl⟩
  | ok t =>
    refine ⟨PublicWriteRequests.leaseOf_mark hmark, ?_, rfl, rfl⟩
    rw [PublicWriteRequests.markPublicWriteRequest_eq_ok hmark]
    exact PublicWriteRequests.kept_update fun _ => PublicWriteRequest.kept_mark

/-- **What an action of a process does.** -/
theorem ApiProcess.act_effect {host : Host} {a : ApiAction} {s s' : Server} {p p' : ApiProcess}
    (h : ApiProcess.act host a s p = some (s', p')) :
    LeaseEffect s p a s' p' ∧ s.requests.Kept s'.requests ∧ s'.now = s.now := by
  have hidle : ∀ {a : ApiAction}, LeaseEffect s p a s p ∧ s.requests.Kept s.requests ∧
      s.now = s.now := ⟨.idle rfl rfl rfl rfl, .refl _, rfl⟩
  have hmark : ∀ {a : ApiAction} {status : PublicWriteRequestStatus}
      {outcomeDetail : Option String} {missing : String} {requestId : ℕ},
      some (s.commit (markPublicWriteRequest s.now s.requests status outcomeDetail missing
        requestId), p) = some (s', p') →
      LeaseEffect s p a s' p' ∧ s.requests.Kept s'.requests ∧ s'.now = s.now := by
    intro a status outcomeDetail missing requestId h
    obtain ⟨rfl, rfl⟩ := Prod.mk.inj (Option.some.inj h)
    obtain ⟨hlease, hkept, howners, hnow⟩ := s.commit_mark status
    exact ⟨.idle hlease howners rfl rfl, hkept, hnow⟩
  cases a with
  | receive expected signed =>
    obtain ⟨rfl, rfl⟩ := Prod.mk.inj (Option.some.inj h)
    exact ⟨.idle rfl rfl rfl rfl, .refl _, rfl⟩
  | authenticate dateNow =>
    obtain ⟨⟨t, next⟩, hnext, heq⟩ := Option.map_eq_some_iff.mp h
    obtain ⟨rfl, rfl⟩ := Prod.mk.inj heq
    obtain ⟨hlease, hkept⟩ := Authentication.next_kept hnext
    exact ⟨.idle hlease rfl rfl rfl, hkept, rfl⟩
  | drawLeaseOwner leaseOwner =>
    obtain ⟨⟨hnone, hfresh⟩, heq⟩ := Option.ite_none_right_eq_some.mp h
    obtain ⟨rfl, rfl⟩ := Prod.mk.inj (Option.some.inj heq)
    exact ⟨.draw hnone hfresh, .refl _, rfl⟩
  | reserve leaseMs requestId =>
    obtain ⟨leaseOwner, howner, heq⟩ := Option.map_eq_some_iff.mp h
    cases hreserve : reservePublicWriteRequestExecution s.now s.requests leaseMs leaseOwner
        requestId with
    | none =>
      rw [hreserve] at heq
      obtain ⟨rfl, rfl⟩ := Prod.mk.inj heq
      exact hidle
    | some t =>
      rw [hreserve] at heq
      obtain ⟨rfl, rfl⟩ := Prod.mk.inj heq
      obtain ⟨hfree, hlease, hkept⟩ := PublicWriteRequests.reserve_eq_some hreserve
      exact ⟨.grant howner (.inl ⟨leaseMs, rfl, hfree⟩) hlease, hkept, rfl⟩
  | renew leaseMs requestId =>
    obtain ⟨leaseOwner, howner, heq⟩ := Option.map_eq_some_iff.mp h
    cases hrenew : renewPublicWriteRequestExecution s.now s.requests leaseMs leaseOwner
        requestId with
    | none =>
      rw [hrenew] at heq
      obtain ⟨rfl, rfl⟩ := Prod.mk.inj heq
      exact hidle
    | some t =>
      rw [hrenew] at heq
      obtain ⟨rfl, rfl⟩ := Prod.mk.inj heq
      obtain ⟨hheld, hlease, hkept⟩ := PublicWriteRequests.renew_eq_some hrenew
      exact ⟨.grant howner (.inr hheld) hlease, hkept, rfl⟩
  | assert requestId =>
    obtain ⟨rfl, rfl⟩ := Prod.mk.inj (Option.some.inj h)
    exact hidle
  | release requestId =>
    obtain ⟨leaseOwner, howner, heq⟩ := Option.map_eq_some_iff.mp h
    obtain ⟨rfl, rfl⟩ := Prod.mk.inj heq
    exact ⟨.release howner PublicWriteRequests.leaseOf_release, PublicWriteRequests.kept_release,
      rfl⟩
  | markAccepted requestId outcomeDetail => exact hmark h
  | markPending requestId outcomeDetail => exact hmark h
  | markRejected requestId outcomeDetail => exact hmark h

/-! ### Leases agree -/

section

variable {ι : Type} [DecidableEq ι] {host : Host}

/-- A history of the processes. -/
abbrev ApiHistory (ι : Type) : Type := List (Event ι Server ApiProcess ApiAction Time)

/-- The leases of requests: what the rows say, and what the processes have been told. -/
def leases (c : Config ι Server ApiProcess) : Leases ι ℕ String where
  recorded := c.shared.requests.leaseOf
  owner i := (c.process i).leaseOwner
  granted i := (c.process i).granted

/-- A process has the lease of a request, for all it knows. -/
def Holds (c : Config ι Server ApiProcess) (i : ι) (requestId : ℕ) : Prop :=
  (leases c).Holds c.shared.now i requestId

/-- Leases agree, and the names that are in use have been drawn. -/
structure LeasesAgree (c : Config ι Server ApiProcess) : Prop where
  agree : (leases c).Agree c.shared.now
  drawn : ∀ {i o}, (c.process i).leaseOwner = some o → o ∈ c.shared.leaseOwners

variable {c c' : Config ι Server ApiProcess} {i j : ι} {l : Label ι ApiAction Time}

/-- The leases after one process has changed. -/
theorem leases_update {s : Server} {p : ApiProcess} :
    leases ⟨s, Function.update c.process i p⟩ =
      { recorded := s.requests.leaseOf
        owner := Function.update (leases c).owner i p.leaseOwner
        granted := Function.update (leases c).granted i p.granted } := by
  have hupdate : ∀ {β : Type} (g : ApiProcess → β),
      (fun j => g (Function.update c.process i p j)) =
        Function.update (fun j => g (c.process j)) i (g p) := by
    intro β g
    funext j
    by_cases hj : j = i
    · subst hj
      rw [Function.update_self, Function.update_self]
    · rw [Function.update_of_ne hj, Function.update_of_ne hj]
  rw [leases, hupdate (·.leaseOwner), hupdate (·.granted)]
  rfl

/-- The leases after an action: the same, or one of the three things that may happen. -/
theorem leases_of_effect {a : ApiAction} {s : Server} {p : ApiProcess}
    (h : LeaseEffect c.shared (c.process i) a s p) :
    (leases ⟨s, Function.update c.process i p⟩ = leases c ∧ s.leaseOwners = c.shared.leaseOwners) ∨
    (∃ o, (c.process i).leaseOwner = none ∧ o ∉ c.shared.leaseOwners ∧
      s.leaseOwners = o :: c.shared.leaseOwners ∧
      leases ⟨s, Function.update c.process i p⟩ = (leases c).draw i o) ∨
    (∃ o r t, (c.process i).leaseOwner = some o ∧ s.leaseOwners = c.shared.leaseOwners ∧
      ((∃ leaseMs, a = .reserve leaseMs r ∧
          ∀ o' t', c.shared.requests.leaseOf r = some (o', t') → t' ≤ c.shared.now) ∨
        ∃ t', c.shared.requests.leaseOf r = some (o, t') ∧ c.shared.now < t') ∧
      leases ⟨s, Function.update c.process i p⟩ = (leases c).grant i r o t) ∨
    ∃ o r, (c.process i).leaseOwner = some o ∧ s.leaseOwners = c.shared.leaseOwners ∧
      leases ⟨s, Function.update c.process i p⟩ = (leases c).release i r o := by
  have howner : Function.update (leases c).owner i (c.process i).leaseOwner = (leases c).owner :=
    Function.update_eq_self i (leases c).owner
  have hgranted : Function.update (leases c).granted i (c.process i).granted = (leases c).granted :=
    Function.update_eq_self i (leases c).granted
  cases h with
  | idle hlease howners hsame hsame' =>
    refine .inl ⟨?_, howners⟩
    rw [leases_update, hlease, hsame, hsame', howner, hgranted]
    rfl
  | draw hnone hfresh =>
    refine .inr (.inl ⟨_, hnone, hfresh, rfl, ?_⟩)
    rw [leases_update, hgranted]
    rfl
  | @grant _ _ leaseOwner requestId expiresAt hname hcause hlease =>
    refine .inr (.inr (.inl ⟨leaseOwner, requestId, expiresAt, hname, rfl, hcause, ?_⟩))
    rw [leases_update, howner, hlease]
    rfl
  | @release _ _ leaseOwner requestId hname hlease =>
    refine .inr (.inr (.inr ⟨leaseOwner, requestId, hname, rfl, ?_⟩))
    rw [leases_update, howner, hlease]
    rfl

/-- **Every step keeps the leases in agreement.** -/
theorem LeasesAgree.step (h : LeasesAgree c) (hstep : (api host).Step c l c') : LeasesAgree c' := by
  cases hstep with
  | @act i a s p hact =>
    obtain ⟨heffect, -, hnow⟩ := ApiProcess.act_effect hact
    have hnow' : s.now = c.shared.now := hnow
    rcases leases_of_effect heffect with ⟨hsame, howners⟩ |
      ⟨o, hnone, hfresh, howners, hdraw⟩ | ⟨o, r, t, howner, howners, hcause, hgrant⟩ |
      ⟨o, r, howner, howners, hrelease⟩
    · have howner : ∀ j, (Function.update c.process i p j).leaseOwner = (c.process j).leaseOwner :=
        fun j => congrFun (congrArg Leases.owner hsame) j
      refine ⟨?_, fun {j o} hj => ?_⟩
      · rw [hsame, hnow']
        exact h.agree
      · rw [howners]
        exact h.drawn ((howner j).symm.trans hj)
    · have hagree : ((leases c).draw i o).Agree c.shared.now :=
        h.agree.draw hnone fun j hj => hfresh (h.drawn hj)
      refine ⟨?_, fun {j o'} hj => ?_⟩
      · rw [hdraw, hnow']
        exact hagree
      · have hj' : ((leases c).draw i o).owner j = some o' :=
          (congrFun (congrArg Leases.owner hdraw) j).symm.trans hj
        rw [Leases.draw_owner] at hj'
        rw [howners]
        split at hj'
        · rw [← Option.some.inj hj']
          exact List.mem_cons_self
        · exact List.mem_cons_of_mem _ (h.drawn hj')
    · have hfree : (leases c).FreeFor c.shared.now o r := by
        intro o' t' hrecorded
        rcases hcause with ⟨-, -, hfree⟩ | ⟨t'', hown, -⟩
        · exact .inl (hfree o' t' hrecorded)
        · exact .inr (Prod.mk.inj (Option.some.inj (hrecorded.symm.trans hown))).1
      refine ⟨?_, fun {j o'} hj => ?_⟩
      · rw [hgrant, hnow']
        exact h.agree.grant howner hfree
      · rw [howners]
        exact h.drawn ((congrFun (congrArg Leases.owner hgrant) j).symm.trans hj)
    · refine ⟨?_, fun {j o'} hj => ?_⟩
      · rw [hrelease, hnow']
        exact h.agree.release howner
      · rw [howners]
        exact h.drawn ((congrFun (congrArg Leases.owner hrelease) j).symm.trans hj)
  | @env now s henv =>
    obtain ⟨hle, rfl⟩ := henv
    exact ⟨h.agree.later hle, h.drawn⟩

theorem leasesAgree_of_run {tr : ApiHistory ι} (h : (api host).Run tr c) : LeasesAgree c := by
  induction h with
  | @genesis s hgen =>
    obtain ⟨hempty, -⟩ := hgen
    have hinitial : leases (⟨s, fun _ => (api host).idle⟩ : Config ι Server ApiProcess) =
        ⟨fun _ => none, fun _ => none, fun _ _ => none⟩ := by
      rw [leases, hempty]
      rfl
    refine ⟨?_, fun hdrawn => absurd hdrawn (by simp [api])⟩
    rw [hinitial]
    exact .initial
  | snoc _ hstep ih => exact ih.step hstep

/-- A lease is regained by a reservation only. -/
theorem LeasesAgree.holds_of_step (h : LeasesAgree c) (hstep : (api host).Step c l c')
    {requestId : ℕ} (hreserve : ∀ leaseMs, l ≠ .act i (.reserve leaseMs requestId))
    (hholds : Holds c' i requestId) : Holds c i requestId := by
  cases hstep with
  | @act j a s p hact =>
    obtain ⟨heffect, -, hnow⟩ := ApiProcess.act_effect hact
    have hnow' : s.now = c.shared.now := hnow
    obtain ⟨t, hgranted, hlt⟩ := hholds
    rw [hnow'] at hlt
    rcases leases_of_effect heffect with ⟨hsame, -⟩ | ⟨o, -, -, -, hdraw⟩ |
      ⟨o, r, t', howner, -, hcause, hgrant⟩ | ⟨o, r, -, -, hrelease⟩
    · rw [hsame] at hgranted
      exact ⟨t, hgranted, hlt⟩
    · rw [hdraw] at hgranted
      exact ⟨t, hgranted, hlt⟩
    · rw [hgrant, Leases.grant_granted] at hgranted
      split at hgranted
      next hsame =>
        obtain ⟨rfl, rfl⟩ := hsame
        rcases hcause with ⟨leaseMs, rfl, -⟩ | hown
        · exact absurd rfl (hreserve leaseMs)
        · exact (h.agree.holds_iff howner).mpr hown
      next => exact ⟨t, hgranted, hlt⟩
    · rw [hrelease, Leases.release_granted] at hgranted
      split at hgranted
      · exact absurd hgranted (by simp)
      · exact ⟨t, hgranted, hlt⟩
  | @env now s henv =>
    obtain ⟨hle, rfl⟩ := henv
    obtain ⟨t, hgranted, hlt⟩ := hholds
    exact ⟨t, hgranted, Nat.lt_of_le_of_lt hle hlt⟩

/-- **A step keeps what is recorded.** -/
theorem kept_of_step (hstep : (api host).Step c l c') :
    c.shared.requests.Kept c'.shared.requests := by
  cases hstep with
  | act hact => exact (ApiProcess.act_effect hact).2.1
  | env henv =>
    obtain ⟨-, rfl⟩ := henv
    exact .refl _

/-! ### What the lease is for -/

/-- **The execution lease**, at the end of a history. -/
structure ExecutionLease (tr : ApiHistory ι) (c : Config ι Server ApiProcess) : Prop where
  /-- At most one process has the lease of a request, for all each of them knows. -/
  one_holder : ∀ {i j requestId}, Holds c i requestId → Holds c j requestId → i = j
  /-- What a process knows is what `assertPublicWriteRequestExecution` tells it. -/
  holds_iff_assert : ∀ {i leaseOwner requestId}, (c.process i).leaseOwner = some leaseOwner →
    (Holds c i requestId ↔ assertPublicWriteRequestExecution c.shared.now c.shared.requests
      leaseOwner requestId = .ok ())
  /-- While a process has the lease, no reservation succeeds. -/
  reserve_refused : ∀ {i requestId}, Holds c i requestId → ∀ leaseMs leaseOwner,
    reservePublicWriteRequestExecution c.shared.now c.shared.requests leaseMs leaseOwner requestId =
      none
  /-- A renewal by anyone who does not have the lease, for all it knows, changes nothing. -/
  renew_refused : ∀ {i leaseOwner requestId}, (c.process i).leaseOwner = some leaseOwner →
    ¬Holds c i requestId → ∀ leaseMs, renewPublicWriteRequestExecution c.shared.now
      c.shared.requests leaseMs leaseOwner requestId = none
  /-- A release by anyone but the owner that is recorded changes nothing. -/
  release_ignored : ∀ {leaseOwner requestId}, (∀ row, c.shared.requests.rows requestId = some row →
      row.executionLeaseOwner ≠ some leaseOwner) →
    releasePublicWriteRequestExecution c.shared.now c.shared.requests leaseOwner requestId =
      c.shared.requests
  /-- A process that does not have a lease never has it again, unless it reserves it. -/
  never_regained : ∀ {tr₁ tr₂ e i requestId}, tr = tr₁ ++ e :: tr₂ →
    ¬Holds e.before i requestId →
    (∀ e' ∈ e :: tr₂, ∀ leaseMs, e'.label ≠ .act i (.reserve leaseMs requestId)) →
    ¬Holds c i requestId
  /-- A request that has been recorded stays, under its hash and its nonce; and once it has
  been accepted, it stays accepted, with its outcome. -/
  recorded_kept : ∀ {tr₁ tr₂ e}, tr = tr₁ ++ e :: tr₂ →
    e.before.shared.requests.Kept c.shared.requests
  /-- A hash is recorded at most once. -/
  hash_once : ∀ {r r' row row'}, c.shared.requests.rows r = some row →
    c.shared.requests.rows r' = some row' → row.requestHash = row'.requestHash → r = r'
  /-- A nonce of an actor is recorded at most once for each type of action. -/
  nonce_once : ∀ {r r' row row'}, c.shared.requests.rows r = some row →
    c.shared.requests.rows r' = some row' → row.nonceKey = row'.nonceKey → r = r'

/-- **The execution lease does what it is for**, in every history. -/
theorem executionLease_of_run {tr : ApiHistory ι} (h : (api host).Run tr c) :
    ExecutionLease tr c := by
  have hagree := leasesAgree_of_run h
  constructor
  · exact fun hi hj => hagree.agree.exclusive hi hj
  · intro i leaseOwner requestId howner
    refine (hagree.agree.holds_iff howner).trans (PublicWriteRequests.any_leasedTo.symm.trans ?_)
    rw [assertPublicWriteRequestExecution]
    split
    next hany => exact ⟨fun _ => rfl, fun _ => hany⟩
    next hany => exact ⟨fun h => absurd h hany, fun h => absurd h (by simp)⟩
  · intro i requestId hholds leaseMs leaseOwner
    cases hreserve : reservePublicWriteRequestExecution c.shared.now c.shared.requests leaseMs
        leaseOwner requestId with
    | none => rfl
    | some t =>
      obtain ⟨hfree, -, -⟩ := PublicWriteRequests.reserve_eq_some hreserve
      obtain ⟨t', hgranted, hlt⟩ := hholds
      obtain ⟨o, -, hrecorded⟩ := hagree.agree.granted_recorded hgranted hlt
      exact absurd (hfree o t' hrecorded) (Nat.not_le.mpr hlt)
  · intro i leaseOwner requestId howner hlost leaseMs
    cases hrenew : renewPublicWriteRequestExecution c.shared.now c.shared.requests leaseMs
        leaseOwner requestId with
    | none => rfl
    | some t =>
      obtain ⟨hheld, -, -⟩ := PublicWriteRequests.renew_eq_some hrenew
      exact absurd ((hagree.agree.holds_iff howner).mpr hheld) hlost
  · intro leaseOwner requestId hother
    rw [releasePublicWriteRequestExecution, PublicWriteRequests.updateIf_eq_none, Option.getD_none]
    exact fun row hrow => decide_eq_false (hother row hrow)
  · rintro tr₁ tr₂ e i requestId rfl hlost hnever
    refine h.since (Q := fun c => ¬Holds c i requestId)
      (p := fun l => ∀ leaseMs, l ≠ .act i (.reserve leaseMs requestId)) ?_ hnever hlost
    intro tr c l c' hrun hlost' hl hstep hholds
    exact hlost' ((leasesAgree_of_run hrun).holds_of_step hstep hl hholds)
  · rintro tr₁ tr₂ e rfl
    refine h.since (Q := fun c => e.before.shared.requests.Kept c.shared.requests)
      (p := fun _ => True) ?_ (fun _ _ => trivial) (.refl _)
    exact fun _ hkept _ hstep => hkept.trans (kept_of_step hstep)
  · exact c.shared.requests.hash_unique.eq_of_key
  · exact c.shared.requests.nonce_unique.eq_of_key

end

/-! ### Two deliveries -/

/-- A host on which an envelope is its own hash, as far as its scope goes, and a signature
is the address of its signer. -/
def plainHost : Host where
  hashPublicWriteEnvelope envelope := envelope.scopeKey
  verifyMessage _ signature := .ok signature
  getTime _ := some 0

/-- An actor asks for a claim to be created. -/
def claimCreate : SignedPublicWriteRequestBody where
  envelope :=
    { actionType := .claimCreate, actorAddress := "0xA1", chainId := 1, issuedAt := ""
      payload := "null", requestNonce := "nonce-1", scopeKey := "claim:new" }
  signature := "0xa1"

/-- The same actor asks for a claim to be published, under the same nonce. -/
def claimPublish : SignedPublicWriteRequestBody where
  envelope :=
    { actionType := .claimPublish, actorAddress := "0xa1", chainId := 1, issuedAt := ""
      payload := "null", requestNonce := "nonce-1", scopeKey := "claim:7" }
  signature := "0xa1"

/-- What the two routes expect. -/
def expectedAction (actionType : PublicWriteActionType) : PublicWriteExpected where
  actionType := [actionType]
  allowRecordedReplay := true
  allowRecordedReplayActionTypes := []
  chainId := 1
  scopeKey := none
  scopeKeyValidator := none

/-- The history some actions make. -/
def playApi (moves : List (ℕ × ApiAction)) :
    Option (ApiHistory ℕ × Config ℕ Server ApiProcess) :=
  (api plainHost).play moves ⟨⟨.empty, 0, []⟩, fun _ => (api plainHost).idle⟩

theorem genesis_empty : (api plainHost).genesis ⟨.empty, 0, []⟩ := ⟨rfl, rfl⟩

/-- Two deliveries of one request: the first is recorded and leased, the second is a
replay, and is not leased until the first gives back its lease. -/
def replayedDelivery : List (ℕ × ApiAction) :=
  [(0, .receive (expectedAction .claimCreate) claimCreate), (0, .authenticate 0),
    (0, .authenticate 0), (0, .drawLeaseOwner "owner-0"), (0, .reserve 300000 1),
    (1, .receive (expectedAction .claimCreate) claimCreate), (1, .authenticate 0),
    (1, .drawLeaseOwner "owner-1"), (1, .reserve 300000 1), (0, .release 1), (1, .reserve 300000 1)]

theorem replayedDelivery_possible : (playApi replayedDelivery).isSome := by decide

theorem executionLease_replayedDelivery :
    ExecutionLease ((playApi replayedDelivery).get replayedDelivery_possible).1
      ((playApi replayedDelivery).get replayedDelivery_possible).2 :=
  executionLease_of_run (Processes.run_play genesis_empty replayedDelivery_possible)

/-- Two deliveries of requests of different types, under one nonce. -/
def nonceTwice : List (ℕ × ApiAction) :=
  [(0, .receive (expectedAction .claimCreate) claimCreate), (0, .authenticate 0),
    (0, .authenticate 0), (1, .receive (expectedAction .claimPublish) claimPublish),
    (1, .authenticate 0), (1, .authenticate 0)]

theorem nonceTwice_possible : (playApi nonceTwice).isSome := by decide

/-- **The nonce of an actor may be recorded twice**, under two types of action. -/
theorem nonce_recorded_twice :
    ∃ (tr : ApiHistory ℕ) (c : Config ℕ Server ApiProcess), (api plainHost).Run tr c ∧
      ∃ row row', c.shared.requests.rows 1 = some row ∧ c.shared.requests.rows 2 = some row' ∧
        row.actorAddress = row'.actorAddress ∧ row.requestNonce = row'.requestNonce := by
  refine ⟨((playApi nonceTwice).get nonceTwice_possible).1,
    ((playApi nonceTwice).get nonceTwice_possible).2,
    Processes.run_play genesis_empty nonceTwice_possible, ?_⟩
  have hrows : ((playApi nonceTwice).map fun r => (r.2.shared.requests.rows 1).bind fun row =>
      (r.2.shared.requests.rows 2).map fun row' =>
        decide (row.actorAddress = row'.actorAddress ∧ row.requestNonce = row'.requestNonce)) =
      some (some true) := by
    decide
  obtain ⟨r, hr, hrows⟩ := Option.map_eq_some_iff.mp hrows
  obtain ⟨row, hrow, hrows⟩ := Option.bind_eq_some_iff.mp hrows
  obtain ⟨row', hrow', hsame⟩ := Option.map_eq_some_iff.mp hrows
  obtain rfl := Option.get_of_eq_some nonceTwice_possible hr
  exact ⟨row, row', hrow, hrow', of_decide_eq_true hsame⟩

end ScientificProtocol.PublicWrite
