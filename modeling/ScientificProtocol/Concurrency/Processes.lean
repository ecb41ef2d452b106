import Mathlib.Algebra.GroupWithZero.Nat
import Mathlib.Logic.Function.Basic

/-!
# Processes that share a state

Any number of processes run one program. Each has a state of its own and acts on a state
all of them share; between two of their actions anything the environment can do may
happen. A history is one interleaving of all this, step by step
(`Concurrency.Processes.Run`).

The rule for proving things about every interleaving is
`Concurrency.Processes.Run.owned`: an invariant of the shared state, and for each process
an assertion about its own state, such that an action of one process keeps the assertions
of the others. Both may speak of the history, so that a process can own what it has done.
-/

namespace Concurrency

/-- A program many processes run, and an environment. -/
structure Processes (S P A B : Type) where
  /-- The shared states it all starts in. -/
  genesis : S → Prop
  /-- A process that has not begun. -/
  idle : P
  /-- A process acts, if it can: on the shared state, and on its own. -/
  act : A → S → P → Option (S × P)
  /-- The environment acts on the shared state. -/
  env : B → S → S → Prop

/-- A moment of a history. -/
structure Config (ι S P : Type) where
  shared : S
  process : ι → P

/-- Who does what. -/
inductive Label (ι A B : Type) where
  | act (process : ι) (action : A)
  | env (action : B)

/-- One step of a history, with the configurations on both sides. -/
structure Event (ι S P A B : Type) where
  before : Config ι S P
  label : Label ι A B
  after : Config ι S P

/-- The state a history began in. -/
def origin {ι S P A B : Type} (tr : List (Event ι S P A B)) (c : Config ι S P) : S :=
  match tr with
  | [] => c.shared
  | e :: _ => e.before.shared

/-- It stays the same while the history goes on. -/
theorem origin_snoc {ι S P A B : Type} {tr : List (Event ι S P A B)} {c c' : Config ι S P}
    {l : Label ι A B} : origin (tr ++ [⟨c, l, c'⟩]) c' = origin tr c := by
  cases tr <;> rfl

namespace Processes

variable {ι S P A B : Type} [DecidableEq ι] (M : Processes S P A B)

/-- **One step**, of one process or of the environment. -/
inductive Step : Config ι S P → Label ι A B → Config ι S P → Prop
  | act {c : Config ι S P} {i : ι} {a : A} {s : S} {p : P} :
      M.act a c.shared (c.process i) = some (s, p) →
      Step c (.act i a) ⟨s, Function.update c.process i p⟩
  | env {c : Config ι S P} {b : B} {s : S} :
      M.env b c.shared s → Step c (.env b) ⟨s, c.process⟩

/-- **Histories**, the oldest event first. -/
inductive Run : List (Event ι S P A B) → Config ι S P → Prop
  | genesis {s : S} : M.genesis s → Run [] ⟨s, fun _ => M.idle⟩
  | snoc {tr : List (Event ι S P A B)} {c c' : Config ι S P} {l : Label ι A B} :
      Run tr c → M.Step c l c' → Run (tr ++ [⟨c, l, c'⟩]) c'

variable {M}

/-- **The history rule**: a property of the past and the present that every step
extends. -/
theorem Run.history {Q : List (Event ι S P A B) → Config ι S P → Prop}
    (hgen : ∀ s, M.genesis s → Q [] ⟨s, fun _ => M.idle⟩)
    (hstep : ∀ {tr c l c'}, M.Run tr c → Q tr c → M.Step c l c' → Q (tr ++ [⟨c, l, c'⟩]) c')
    {tr : List (Event ι S P A B)} {c : Config ι S P} (h : M.Run tr c) : Q tr c := by
  induction h with
  | genesis h => exact hgen _ h
  | snoc hrun hstep' ih => exact hstep hrun ih hstep'

/-- What comes before a step of a history is a history, which ends where the step begins. -/
theorem Run.split {tr₁ tr₂ : List (Event ι S P A B)} {e : Event ι S P A B} {c : Config ι S P}
    (h : M.Run (tr₁ ++ e :: tr₂) c) : M.Run tr₁ e.before ∧ M.Step e.before e.label e.after := by
  generalize htr : tr₁ ++ e :: tr₂ = tr at h
  induction h generalizing tr₂ with
  | genesis _ => simp at htr
  | @snoc tr c c' l hrun hstep ih =>
    rcases List.eq_nil_or_concat tr₂ with rfl | ⟨tr₂, e', rfl⟩
    · obtain ⟨rfl, he⟩ := List.append_inj' htr rfl
      obtain rfl := (List.cons.inj he).1
      exact ⟨hrun, hstep⟩
    · rw [List.concat_eq_append, ← List.cons_append, ← List.append_assoc] at htr
      exact ih (List.append_inj' htr rfl).1

/-- A history up to and including one of its steps. -/
theorem Run.upTo {tr₁ tr₂ : List (Event ι S P A B)} {e : Event ι S P A B} {c : Config ι S P}
    (h : M.Run (tr₁ ++ e :: tr₂) c) : M.Run (tr₁ ++ [e]) e.after :=
  h.split.1.snoc h.split.2

/-- **What holds at a moment holds ever after**, if it is kept by every step of a kind that
is taken from there on. -/
theorem Run.since {Q : Config ι S P → Prop} {p : Label ι A B → Prop}
    (hstep : ∀ {tr c l c'}, M.Run tr c → Q c → p l → M.Step c l c' → Q c')
    {tr₁ tr₂ : List (Event ι S P A B)} {e : Event ι S P A B} {c : Config ι S P}
    (h : M.Run (tr₁ ++ e :: tr₂) c) (hok : ∀ e' ∈ e :: tr₂, p e'.label) (hQ : Q e.before) :
    Q c := by
  generalize htr : tr₁ ++ e :: tr₂ = tr at h
  induction h generalizing tr₂ with
  | genesis _ => simp at htr
  | @snoc tr c c' l hrun hstep' ih =>
    rcases List.eq_nil_or_concat tr₂ with rfl | ⟨tr₂, e', rfl⟩
    · obtain ⟨rfl, he⟩ := List.append_inj' htr rfl
      obtain rfl := (List.cons.inj he).1
      exact hstep hrun hQ (hok _ List.mem_cons_self) hstep'
    · rw [List.concat_eq_append, ← List.cons_append, ← List.append_assoc] at htr
      obtain ⟨htr', he⟩ := List.append_inj' htr rfl
      obtain rfl := (List.cons.inj he).1
      rw [List.concat_eq_append] at hok
      exact hstep hrun (ih (fun e' he' => hok e' (List.mem_append_left _ he')) htr')
        (hok _ (List.mem_append_right (e :: tr₂) List.mem_cons_self)) hstep'

/-- **The measure rule.** If every step of a kind takes from a measure of the shared state what
it is said to take, then a stretch of such steps takes what they take together. -/
theorem Run.measure_le {μ : S → ℕ} {d : Event ι S P A B → ℕ} {p : Label ι A B → Prop}
    (hstep : ∀ {tr c l c'}, M.Run tr c → p l → M.Step c l c' →
      μ c'.shared ≤ μ c.shared - d ⟨c, l, c'⟩)
    {tr₁ tr₂ : List (Event ι S P A B)} {c : Config ι S P} (h : M.Run (tr₁ ++ tr₂) c)
    (hok : ∀ e ∈ tr₂, p e.label) : μ c.shared ≤ μ (origin tr₂ c) - (tr₂.map d).sum := by
  generalize htr : tr₁ ++ tr₂ = tr at h
  induction h generalizing tr₂ with
  | genesis _ =>
    obtain ⟨-, rfl⟩ := List.append_eq_nil_iff.mp htr
    exact Nat.le_refl _
  | @snoc tr c c' l hrun hstep' ih =>
    rcases List.eq_nil_or_concat tr₂ with rfl | ⟨tr₂, e, rfl⟩
    · exact Nat.le_refl _
    · rw [List.concat_eq_append] at htr hok ⊢
      rw [← List.append_assoc] at htr
      obtain ⟨htr', he⟩ := List.append_inj' htr rfl
      obtain rfl := (List.cons.inj he).1
      have hbefore := ih (fun e' he' => hok e' (List.mem_append_left _ he')) htr'
      have hlast : μ c'.shared ≤ μ c.shared - d ⟨c, l, c'⟩ :=
        hstep hrun (hok _ (List.mem_append_right _ (List.mem_singleton_self _))) hstep'
      rw [origin_snoc, List.map_append, List.sum_append, List.map_singleton, List.sum_singleton]
      omega

/-- What a step does to a process that does not act. -/
theorem Step.process_eq {c c' : Config ι S P} {l : Label ι A B} (h : M.Step c l c') {i : ι}
    (hi : ∀ a, l ≠ .act i a) : c'.process i = c.process i := by
  cases h with
  | @act j a s p _ =>
    have hij : i ≠ j := fun hij => hi a (hij ▸ rfl)
    exact Function.update_of_ne hij _ _
  | env _ => rfl

/-- **A process that has not acted has not begun.** -/
theorem Run.idle {tr : List (Event ι S P A B)} {c : Config ι S P} (h : M.Run tr c) {i : ι}
    (hi : ∀ e ∈ tr, ∀ a, e.label ≠ .act i a) : c.process i = M.idle := by
  induction h with
  | genesis _ => rfl
  | @snoc tr c c' l _ hstep ih =>
    have hlast := hi _ (List.mem_append_right tr (List.mem_singleton_self _))
    rw [hstep.process_eq hlast]
    exact ih fun e he => hi e (List.mem_append_left _ he)

/-- **The ownership rule.** An invariant of the history and the shared state, and for every
process an assertion about its own state: if an action keeps the invariant, brings about
what its process asserts next, and leaves alone what the others assert, and if the
environment leaves all of it alone, then it holds at the end of every history. -/
theorem Run.owned {I : List (Event ι S P A B) → S → Prop}
    {O : List (Event ι S P A B) → S → ι → P → Prop}
    (hgen : ∀ s, M.genesis s → I [] s ∧ ∀ i, O [] s i M.idle)
    (hact : ∀ {tr c i a s p}, M.Run tr c → I tr c.shared →
      (∀ j, O tr c.shared j (c.process j)) → M.act a c.shared (c.process i) = some (s, p) →
      I (tr ++ [⟨c, .act i a, ⟨s, Function.update c.process i p⟩⟩]) s ∧
        O (tr ++ [⟨c, .act i a, ⟨s, Function.update c.process i p⟩⟩]) s i p ∧
        ∀ j, j ≠ i → O (tr ++ [⟨c, .act i a, ⟨s, Function.update c.process i p⟩⟩]) s j
          (c.process j))
    (henv : ∀ {tr c b s}, M.Run tr c → I tr c.shared →
      (∀ j, O tr c.shared j (c.process j)) → M.env b c.shared s →
      I (tr ++ [⟨c, .env b, ⟨s, c.process⟩⟩]) s ∧
        ∀ j, O (tr ++ [⟨c, .env b, ⟨s, c.process⟩⟩]) s j (c.process j))
    {tr : List (Event ι S P A B)} {c : Config ι S P} (h : M.Run tr c) :
    I tr c.shared ∧ ∀ i, O tr c.shared i (c.process i) := by
  induction h with
  | genesis h => exact hgen _ h
  | snoc hrun hstep ih =>
    cases hstep with
    | @act i a s p hact' =>
      obtain ⟨hinv, hown, hothers⟩ := hact hrun ih.1 ih.2 hact'
      refine ⟨hinv, fun j => ?_⟩
      by_cases hj : j = i
      · subst hj
        simpa only [Function.update_self] using hown
      · simpa only [Function.update_of_ne hj] using hothers j hj
    | env henv' => exact henv hrun ih.1 ih.2 henv'

/-- **The ownership rule for processes that keep apart**: as before, and no two processes are ever
in states that a relation forbids two processes to be in. -/
theorem Run.ownedApart {I : List (Event ι S P A B) → S → Prop}
    {O : List (Event ι S P A B) → S → ι → P → Prop} {D : P → P → Prop}
    (hsymm : ∀ {p q}, D p q → D q p)
    (hgen : ∀ s, M.genesis s → I [] s ∧ (∀ i, O [] s i M.idle) ∧ D M.idle M.idle)
    (hact : ∀ {tr c i a s p}, M.Run tr c → I tr c.shared →
      (∀ j, O tr c.shared j (c.process j)) → (∀ j, j ≠ i → D (c.process i) (c.process j)) →
      M.act a c.shared (c.process i) = some (s, p) →
      I (tr ++ [⟨c, .act i a, ⟨s, Function.update c.process i p⟩⟩]) s ∧
        O (tr ++ [⟨c, .act i a, ⟨s, Function.update c.process i p⟩⟩]) s i p ∧
        ∀ j, j ≠ i → O (tr ++ [⟨c, .act i a, ⟨s, Function.update c.process i p⟩⟩]) s j
          (c.process j) ∧ D p (c.process j))
    (henv : ∀ {tr c b s}, M.Run tr c → I tr c.shared →
      (∀ j, O tr c.shared j (c.process j)) → M.env b c.shared s →
      I (tr ++ [⟨c, .env b, ⟨s, c.process⟩⟩]) s ∧
        ∀ j, O (tr ++ [⟨c, .env b, ⟨s, c.process⟩⟩]) s j (c.process j))
    {tr : List (Event ι S P A B)} {c : Config ι S P} (h : M.Run tr c) :
    I tr c.shared ∧ (∀ i, O tr c.shared i (c.process i)) ∧
      ∀ i j, i ≠ j → D (c.process i) (c.process j) := by
  induction h with
  | genesis h =>
    obtain ⟨hinv, hown, hapart⟩ := hgen _ h
    exact ⟨hinv, hown, fun _ _ _ => hapart⟩
  | snoc hrun hstep ih =>
    obtain ⟨hinv, hown, hapart⟩ := ih
    cases hstep with
    | @act i a s p hact' =>
      obtain ⟨hinv', hown', hothers⟩ :=
        hact hrun hinv hown (fun j hj => hapart i j hj.symm) hact'
      refine ⟨hinv', fun j => ?_, fun j k hjk => ?_⟩
      · by_cases hj : j = i
        · subst hj
          simpa only [Function.update_self] using hown'
        · simpa only [Function.update_of_ne hj] using (hothers j hj).1
      · by_cases hj : j = i
        · subst hj
          simpa only [Function.update_self, Function.update_of_ne hjk.symm] using
            (hothers k hjk.symm).2
        · by_cases hk : k = i
          · subst hk
            simpa only [Function.update_self, Function.update_of_ne hj] using
              hsymm (hothers j hj).2
          · simpa only [Function.update_of_ne hj, Function.update_of_ne hk] using hapart j k hjk
    | env henv' =>
      obtain ⟨hinv', hown'⟩ := henv hrun hinv hown henv'
      exact ⟨hinv', hown', hapart⟩

/-! ### Histories that are played -/

section

variable (M)

/-- The history some actions give, one after the other, if each of them is possible. -/
def play : List (ι × A) → Config ι S P → Option (List (Event ι S P A B) × Config ι S P)
  | [], c => some ([], c)
  | (i, a) :: moves, c => match M.act a c.shared (c.process i) with
    | some (s, p) => match play moves ⟨s, Function.update c.process i p⟩ with
      | some (tr, c') => some (⟨c, .act i a, ⟨s, Function.update c.process i p⟩⟩ :: tr, c')
      | none => none
    | none => none

end

/-- Playing goes on from where a history has arrived. -/
theorem Run.append_play {moves : List (ι × A)} {tr tr' : List (Event ι S P A B)}
    {c c' : Config ι S P} (h : M.Run tr c) (hplay : M.play moves c = some (tr', c')) :
    M.Run (tr ++ tr') c' := by
  induction moves generalizing tr tr' c with
  | nil =>
    obtain ⟨rfl, rfl⟩ := Prod.mk.inj (Option.some.inj hplay)
    rwa [List.append_nil]
  | cons move moves ih =>
    obtain ⟨i, a⟩ := move
    rw [play] at hplay
    split at hplay
    next s p hact =>
      split at hplay
      next tr'' c₁ hrest =>
        obtain ⟨rfl, rfl⟩ := Prod.mk.inj (Option.some.inj hplay)
        rw [List.append_cons]
        exact ih (h.snoc (.act hact)) hrest
      next => exact absurd hplay (by simp)
    next => exact absurd hplay (by simp)

/-- **Played histories are histories.** -/
theorem run_play {moves : List (ι × A)} {s : S} (hgen : M.genesis s)
    (h : (M.play moves (⟨s, fun _ => M.idle⟩ : Config ι S P)).isSome) :
    M.Run ((M.play moves (⟨s, fun _ => M.idle⟩ : Config ι S P)).get h).1
      ((M.play moves (⟨s, fun _ => M.idle⟩ : Config ι S P)).get h).2 := by
  have hplay := (Run.genesis hgen).append_play (Option.some_get h).symm
  rwa [List.nil_append] at hplay

/-- A history that is played has an event for each move. -/
theorem play_split {moves moves' : List (ι × A)} {i : ι} {a : A} {tr : List (Event ι S P A B)}
    {c c' : Config ι S P} (hplay : M.play (moves ++ (i, a) :: moves') c = some (tr, c')) :
    ∃ tr₁ e tr₂, tr = tr₁ ++ e :: tr₂ ∧ M.play moves c = some (tr₁, e.before) ∧
      e.label = .act i a := by
  induction moves generalizing tr c with
  | nil =>
    rw [List.nil_append, play] at hplay
    split at hplay
    next s p hact =>
      split at hplay
      next tr₂ c₁ _ =>
        obtain ⟨rfl, -⟩ := Prod.mk.inj (Option.some.inj hplay)
        exact ⟨[], _, tr₂, rfl, rfl, rfl⟩
      next => exact absurd hplay (by simp)
    next => exact absurd hplay (by simp)
  | cons move moves ih =>
    obtain ⟨j, b⟩ := move
    rw [List.cons_append, play] at hplay
    split at hplay
    next s p hact =>
      split at hplay
      next tr'' c₁ hrest =>
        obtain ⟨rfl, rfl⟩ := Prod.mk.inj (Option.some.inj hplay)
        obtain ⟨tr₁, e, tr₂, rfl, hbefore, hlabel⟩ := ih hrest
        refine ⟨_ :: tr₁, e, tr₂, rfl, ?_, hlabel⟩
        simp only [play, hact, hbefore]
      next => exact absurd hplay (by simp)
    next => exact absurd hplay (by simp)

/-- A process that makes no move stays where it is. -/
theorem process_of_play {moves : List (ι × A)} {tr : List (Event ι S P A B)}
    {c c' : Config ι S P} (hplay : M.play moves c = some (tr, c')) {j : ι}
    (hj : ∀ move ∈ moves, move.1 ≠ j) : ∀ e ∈ tr, e.before.process j = c.process j := by
  induction moves generalizing tr c c' with
  | nil =>
    obtain ⟨rfl, -⟩ := Prod.mk.inj (Option.some.inj hplay)
    exact fun e he => absurd he List.not_mem_nil
  | cons move moves ih =>
    obtain ⟨i, a⟩ := move
    rw [play] at hplay
    split at hplay
    next s p hact =>
      split at hplay
      next tr'' c₁ hrest =>
        obtain ⟨rfl, -⟩ := Prod.mk.inj (Option.some.inj hplay)
        intro e he
        rcases List.mem_cons.mp he with rfl | he
        · rfl
        · rw [ih hrest (fun move hmove => hj move (List.mem_cons_of_mem _ hmove)) e he]
          exact Function.update_of_ne (hj _ List.mem_cons_self).symm _ _
      next => exact absurd hplay (by simp)
    next => exact absurd hplay (by simp)

/-- What is played is what happens. -/
theorem label_mem_of_play {moves : List (ι × A)} {tr : List (Event ι S P A B)}
    {c c' : Config ι S P} (hplay : M.play moves c = some (tr, c')) :
    ∀ e ∈ tr, ∃ move ∈ moves, e.label = .act move.1 move.2 := by
  induction moves generalizing tr c c' with
  | nil =>
    obtain ⟨rfl, -⟩ := Prod.mk.inj (Option.some.inj hplay)
    exact fun e he => absurd he List.not_mem_nil
  | cons move moves ih =>
    obtain ⟨i, a⟩ := move
    rw [play] at hplay
    split at hplay
    next s p hact =>
      split at hplay
      next tr'' c₁ hrest =>
        obtain ⟨rfl, -⟩ := Prod.mk.inj (Option.some.inj hplay)
        intro e he
        rcases List.mem_cons.mp he with rfl | he
        · exact ⟨(i, a), List.mem_cons_self, rfl⟩
        · obtain ⟨move, hmove, hlabel⟩ := ih hrest e he
          exact ⟨move, List.mem_cons_of_mem _ hmove, hlabel⟩
      next => exact absurd hplay (by simp)
    next => exact absurd hplay (by simp)

end Processes

end Concurrency
