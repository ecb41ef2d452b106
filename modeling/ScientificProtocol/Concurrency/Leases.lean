import Mathlib.Data.List.Basic
import Mathlib.Logic.Function.Basic

/-!
# Leases that expire

Processes take leases of resources. Who has the lease of a resource, and until when, is
recorded in one place; a process knows what it has been told when it took its lease, and
goes by that until the time it was given has passed. Nothing else keeps a process from
using what it no longer has, so the two accounts have to agree
(`Concurrency.Leases.Agree`): then a process that goes by what it has been told is the only
one (`Concurrency.Leases.Agree.exclusive`), and what is recorded is what somebody goes by.

A process takes its leases under a name of its own, and no name is used twice.
-/

namespace Concurrency

/-- The leases of some resources: what is recorded, and what the processes know. -/
structure Leases (ι ρ ο : Type) where
  /-- Who has the lease of a resource, and until when. -/
  recorded : ρ → Option (ο × ℕ)
  /-- The name of a process, once it has one. -/
  owner : ι → Option ο
  /-- Until when a process has been told that it has the lease of a resource. -/
  granted : ι → ρ → Option ℕ

namespace Leases

variable {ι ρ ο : Type} {now : ℕ} {L : Leases ι ρ ο} {i j : ι} {r : ρ} {o : ο} {t : ℕ}

/-- A process has the lease of a resource, for all it knows. -/
def Holds (L : Leases ι ρ ο) (now : ℕ) (i : ι) (r : ρ) : Prop :=
  ∃ t, L.granted i r = some t ∧ now < t

/-- Nobody but one owner has a lease of a resource that has not expired. -/
def FreeFor (L : Leases ι ρ ο) (now : ℕ) (o : ο) (r : ρ) : Prop :=
  ∀ o' t', L.recorded r = some (o', t') → t' ≤ now ∨ o' = o

/-- **What is recorded agrees with what the processes know.** -/
structure Agree (L : Leases ι ρ ο) (now : ℕ) : Prop where
  /-- No two processes have one name. -/
  owner_distinct : ∀ {i j o}, L.owner i = some o → L.owner j = some o → i = j
  /-- What a process goes by is recorded. -/
  granted_recorded : ∀ {i r t}, L.granted i r = some t → now < t →
    ∃ o, L.owner i = some o ∧ L.recorded r = some (o, t)
  /-- What is recorded has been told to somebody. -/
  recorded_granted : ∀ {r o t}, L.recorded r = some (o, t) →
    ∃ i, L.owner i = some o ∧ L.granted i r = some t

/-! ### What may happen -/

section

variable [DecidableEq ι]

/-- A process takes a name. -/
def draw (L : Leases ι ρ ο) (i : ι) (o : ο) : Leases ι ρ ο :=
  { L with owner := Function.update L.owner i (some o) }

variable [DecidableEq ρ]

/-- A process is given the lease of a resource. -/
def grant (L : Leases ι ρ ο) (i : ι) (r : ρ) (o : ο) (t : ℕ) : Leases ι ρ ο :=
  { L with
    recorded := Function.update L.recorded r (some (o, t))
    granted := Function.update L.granted i (Function.update (L.granted i) r (some t)) }

/-- A process gives back the lease of a resource, if it is still recorded. -/
def release [DecidableEq ο] (L : Leases ι ρ ο) (i : ι) (r : ρ) (o : ο) : Leases ι ρ ο :=
  { L with
    recorded := Function.update L.recorded r ((L.recorded r).filter fun lease => lease.1 ≠ o)
    granted := Function.update L.granted i (Function.update (L.granted i) r none) }

omit [DecidableEq ρ] in
@[simp] theorem draw_owner : (L.draw i o).owner j = if j = i then some o else L.owner j := by
  simp [draw, Function.update_apply]

@[simp] theorem grant_recorded {r' : ρ} :
    (L.grant i r o t).recorded r' = if r' = r then some (o, t) else L.recorded r' := by
  simp [grant, Function.update_apply]

@[simp] theorem grant_granted {r' : ρ} :
    (L.grant i r o t).granted j r' = if j = i ∧ r' = r then some t else L.granted j r' := by
  by_cases hj : j = i
  · subst hj
    simp [grant, Function.update_apply]
  · simp [grant, hj]

variable [DecidableEq ο]

@[simp] theorem release_recorded {r' : ρ} : (L.release i r o).recorded r' =
    if r' = r then (L.recorded r).filter fun lease => lease.1 ≠ o else L.recorded r' := by
  simp [release, Function.update_apply]

@[simp] theorem release_granted {r' : ρ} :
    (L.release i r o).granted j r' = if j = i ∧ r' = r then none else L.granted j r' := by
  by_cases hj : j = i
  · subst hj
    simp [release, Function.update_apply]
  · simp [release, hj]

end

namespace Agree

/-- At the beginning nothing is recorded, and nobody has a name. -/
theorem initial : (⟨fun _ => none, fun _ => none, fun _ _ => none⟩ : Leases ι ρ ο).Agree now where
  owner_distinct h := absurd h (by simp)
  granted_recorded h := absurd h (by simp)
  recorded_granted h := absurd h (by simp)

/-- Time passes. -/
theorem later (h : L.Agree now) {now' : ℕ} (hle : now ≤ now') : L.Agree now' where
  owner_distinct := h.owner_distinct
  granted_recorded hgranted hlt := h.granted_recorded hgranted (by omega)
  recorded_granted := h.recorded_granted

/-- **At most one process has a lease that has not expired**, for all each of them knows. -/
theorem exclusive (h : L.Agree now) (hi : L.Holds now i r) (hj : L.Holds now j r) : i = j := by
  obtain ⟨t, hgranted, hlt⟩ := hi
  obtain ⟨t', hgranted', hlt'⟩ := hj
  obtain ⟨o, howner, hrecorded⟩ := h.granted_recorded hgranted hlt
  obtain ⟨o', howner', hrecorded'⟩ := h.granted_recorded hgranted' hlt'
  obtain ⟨rfl, -⟩ := Prod.mk.inj (Option.some.inj (hrecorded.symm.trans hrecorded'))
  exact h.owner_distinct howner howner'

/-- **A process has a lease exactly if** it is recorded under its name, and has not
expired. -/
theorem holds_iff (h : L.Agree now) (howner : L.owner i = some o) :
    L.Holds now i r ↔ ∃ t, L.recorded r = some (o, t) ∧ now < t := by
  constructor
  · rintro ⟨t, hgranted, hlt⟩
    obtain ⟨o', howner', hrecorded⟩ := h.granted_recorded hgranted hlt
    obtain rfl := Option.some.inj (howner.symm.trans howner')
    exact ⟨t, hrecorded, hlt⟩
  · rintro ⟨t, hrecorded, hlt⟩
    obtain ⟨j, howner', hgranted⟩ := h.recorded_granted hrecorded
    obtain rfl := h.owner_distinct howner howner'
    exact ⟨t, hgranted, hlt⟩

variable [DecidableEq ι]

/-- A process without a name takes one that nobody has. -/
theorem draw (h : L.Agree now) (hnone : L.owner i = none) (hfresh : ∀ j, L.owner j ≠ some o) :
    (L.draw i o).Agree now := by
  -- A process that has a name is not the one that takes one.
  have hold : ∀ {j o'}, L.owner j = some o' → (L.draw i o).owner j = some o' := by
    intro j o' howner
    have hne : j ≠ i := by
      rintro rfl
      rw [hnone] at howner
      exact absurd howner (by simp)
    rwa [draw_owner, if_neg hne]
  constructor
  · intro j k o' hj hk
    rw [draw_owner] at hj hk
    split at hj <;> split at hk
    next hji hki => rw [hji, hki]
    next => exact absurd (hk.trans hj.symm) (hfresh k)
    next => exact absurd (hj.trans hk.symm) (hfresh j)
    next => exact h.owner_distinct hj hk
  · intro j r t hgranted hlt
    obtain ⟨o', howner, hrecorded⟩ := h.granted_recorded hgranted hlt
    exact ⟨o', hold howner, hrecorded⟩
  · intro r o' t hrecorded
    obtain ⟨j, howner, hgranted⟩ := h.recorded_granted hrecorded
    exact ⟨j, hold howner, hgranted⟩

variable [DecidableEq ρ]

/-- A process is given a lease that nobody else has. -/
theorem grant (h : L.Agree now) (howner : L.owner i = some o) (hfree : L.FreeFor now o r) :
    (L.grant i r o t).Agree now := by
  constructor
  · exact h.owner_distinct
  · intro j r' t' hgranted hlt
    rw [grant_granted] at hgranted
    rw [grant_recorded]
    split at hgranted
    next hsame =>
      obtain ⟨rfl, rfl⟩ := hsame
      rw [if_pos rfl, Option.some.inj hgranted]
      exact ⟨o, howner, rfl⟩
    next hother =>
      obtain ⟨o', howner', hrecorded⟩ := h.granted_recorded hgranted hlt
      refine ⟨o', howner', ?_⟩
      -- Another process that has the lease of the same resource would stand in the way.
      have hr : r' ≠ r := by
        rintro rfl
        rcases hfree o' t' hrecorded with hle | rfl
        · omega
        · exact hother ⟨h.owner_distinct howner' howner, rfl⟩
      rwa [if_neg hr]
  · intro r' o' t' hrecorded
    rw [grant_recorded] at hrecorded
    split at hrecorded
    next hr =>
      obtain ⟨rfl, rfl⟩ := Prod.mk.inj (Option.some.inj hrecorded)
      exact ⟨i, howner, by rw [grant_granted, if_pos ⟨rfl, hr⟩]⟩
    next hr =>
      obtain ⟨j, howner', hgranted⟩ := h.recorded_granted hrecorded
      exact ⟨j, howner', by rw [grant_granted, if_neg fun hsame => hr hsame.2, hgranted]⟩

/-- A process gives a lease back. -/
theorem release [DecidableEq ο] (h : L.Agree now) (howner : L.owner i = some o) :
    (L.release i r o).Agree now := by
  constructor
  · exact h.owner_distinct
  · intro j r' t' hgranted hlt
    rw [release_granted] at hgranted
    rw [release_recorded]
    split at hgranted
    next => exact absurd hgranted (by simp)
    next hother =>
      obtain ⟨o', howner', hrecorded⟩ := h.granted_recorded hgranted hlt
      refine ⟨o', howner', ?_⟩
      split
      next hr =>
        -- It is recorded for another process, whose name is another one.
        have hne : o' ≠ o := by
          rintro rfl
          exact hother ⟨h.owner_distinct howner' howner, hr⟩
        rw [← hr, hrecorded, Option.filter_some, if_pos (by simpa using hne)]
      next => exact hrecorded
  · intro r' o' t' hrecorded
    rw [release_recorded] at hrecorded
    have hold : L.recorded r' = some (o', t') ∧ (r' = r → o' ≠ o) := by
      split at hrecorded
      next hr =>
        obtain ⟨hrecorded', hne⟩ := Option.filter_eq_some_iff.mp hrecorded
        exact ⟨hr ▸ hrecorded', fun _ => by simpa using hne⟩
      next hr => exact ⟨hrecorded, fun hr' => absurd hr' hr⟩
    obtain ⟨j, howner', hgranted⟩ := h.recorded_granted hold.1
    refine ⟨j, howner', ?_⟩
    rw [release_granted, if_neg, hgranted]
    rintro ⟨rfl, hr⟩
    exact hold.2 hr (Option.some.inj (howner'.symm.trans howner))

end Agree

end Leases

end Concurrency
