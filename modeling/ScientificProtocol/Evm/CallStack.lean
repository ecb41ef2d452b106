import ScientificProtocol.Evm.Tx

/-!
# Runs of a contract system with re-entrant calls and rollback

A chain runs one transaction after another, but inside a transaction control
does not stay with the contracts: a call that sends value runs the recipient's
code, which may call back in, and whoever started a call may catch its failure
and go on. `Evm.Machine` is a system of contracts seen from outside – an
executable entry-point function, the rest of a suspended call, and the passing
of time between transactions – and this file gives it that environment.

## Configurations

A configuration is a world and a stack of frames. A frame is opened by a
contract that has just sent value (it remembers what is left to do) or by
somebody else's code that may still decide to revert what it does from here on.
Every frame remembers the world it would restore. Time passes only when the
stack is empty.

## Rollback adds nothing

`Evm.Machine.Reachable` has a step that throws a frame away and restores its
world, at any moment, so it covers every nested call that later fails, every
failing recipient and every transaction that reverts as a whole. Rolling back
lands on a configuration reached before, so what is reachable is exactly what
the histories *without* the undone parts reach: `Evm.Machine.Reachable.exists_run`.
Invariants are therefore proved along `Evm.Machine.Run`, one forward step at a
time, and hold of every world anybody can observe, in the middle of a call or
after it (`Evm.Machine.Reachable.invariant`, `Evm.Machine.Run.event_relation`).
-/

namespace Evm

/-- A system of contracts. A label says who calls what with which arguments. -/
structure Machine (E W L P : Type) where
  /-- The worlds the system starts in. -/
  genesis : W → Prop
  /-- One external call. -/
  exec : L → W → Tx E (Outcome W P)
  /-- The rest of a suspended call, once its transfer has succeeded. -/
  resume : P → W → W
  /-- The clock moves to a later time, between two transactions, if it may. -/
  tick : ℕ → W → Option W

/-- An open call: what is left of it (nothing, when the open code is not a
contract of the system), and the world its failure restores. -/
structure Frame (W P : Type) where
  pending : Option P
  saved : W

/-- A moment of a run. -/
structure Config (W P : Type) where
  world : W
  frames : List (Frame W P)

/-- What happens in one step. -/
inductive Action (L P : Type) where
  /-- An external call runs, to its end or to its transfer. -/
  | exec (label : L) : Action L P
  /-- A suspended call finishes. -/
  | resume (pending : P) : Action L P
  /-- Foreign code starts or ends. -/
  | foreign : Action L P
  /-- Time passes. -/
  | tick (time : ℕ) : Action L P

/-- A move of the environment, when a history is played out. -/
inductive Move (L : Type) where
  /-- An external call, to its end or to its transfer. -/
  | call (label : L) : Move L
  /-- The recipient of the innermost transfer returns. -/
  | finish : Move L
  /-- Foreign code starts. -/
  | enter : Move L
  /-- Foreign code ends. -/
  | leave : Move L
  /-- The clock moves. -/
  | tick (time : ℕ) : Move L

/-- One step of a history, with the worlds on both sides. -/
structure Event (W L P : Type) where
  before : W
  action : Action L P
  after : W

/-- The step raises a flag of the world. -/
def Event.raises {W L P : Type} (e : Event W L P) (flag : W → Bool) : Bool :=
  !flag e.before && flag e.after

namespace Machine

variable {E W L P : Type} (M : Machine E W L P)

/-- **One step forward**: nothing is undone. -/
inductive Forward : Config W P → Action L P → Config W P → Prop
  /-- A call runs to its end. -/
  | call {l : L} {w w' : W} {fs : List (Frame W P)} :
      M.exec l w = .ok (.done w') → Forward ⟨w, fs⟩ (.exec l) ⟨w', fs⟩
  /-- A call runs to its transfer, and the recipient takes over. -/
  | suspend {l : L} {w w' : W} {a : Address} {v : ℕ} {p : P} {fs : List (Frame W P)} :
      M.exec l w = .ok (.transfer a v p w') →
      Forward ⟨w, fs⟩ (.exec l) ⟨w', ⟨some p, w⟩ :: fs⟩
  /-- The recipient returns, and the suspended call finishes. -/
  | resume {w s : W} {p : P} {fs : List (Frame W P)} :
      Forward ⟨w, ⟨some p, s⟩ :: fs⟩ (.resume p) ⟨M.resume p w, fs⟩
  /-- Foreign code starts. -/
  | enter {w : W} {fs : List (Frame W P)} : Forward ⟨w, fs⟩ .foreign ⟨w, ⟨none, w⟩ :: fs⟩
  /-- Foreign code ends without reverting. -/
  | leave {w s : W} {fs : List (Frame W P)} :
      Forward ⟨w, ⟨none, s⟩ :: fs⟩ .foreign ⟨w, fs⟩
  /-- Time passes between two transactions. -/
  | tick {t : ℕ} {w w' : W} : M.tick t w = some w' → Forward ⟨w, []⟩ (.tick t) ⟨w', []⟩

/-- **What can be observed**: forward steps, and rollback of an open frame at
any moment. -/
inductive Reachable : Config W P → Prop
  | genesis {w : W} : M.genesis w → Reachable ⟨w, []⟩
  | forward {c c' : Config W P} {a : Action L P} :
      Reachable c → M.Forward c a c' → Reachable c'
  | rollback {w : W} {f : Frame W P} {fs : List (Frame W P)} :
      Reachable ⟨w, f :: fs⟩ → Reachable ⟨f.saved, fs⟩

/-- **Histories**: forward steps only, with the list of what happened, the
oldest event first. Whatever was rolled back is not part of a history. -/
inductive Run : List (Event W L P) → Config W P → Prop
  | genesis {w : W} : M.genesis w → Run [] ⟨w, []⟩
  | snoc {tr : List (Event W L P)} {c c' : Config W P} {a : Action L P} :
      Run tr c → M.Forward c a c' → Run (tr ++ [⟨c.world, a, c'.world⟩]) c'

/-- What a forward step does to the world, whatever the stack. -/
inductive Effect : Action L P → W → W → Prop
  | exec {l : L} {w : W} {o : Outcome W P} : M.exec l w = .ok o → Effect (.exec l) w o.state
  | resume (p : P) (w : W) : Effect (.resume p) w (M.resume p w)
  | foreign (w : W) : Effect .foreign w w
  | tick {t : ℕ} {w w' : W} : M.tick t w = some w' → Effect (.tick t) w w'

variable {M}

theorem Forward.effect {c c' : Config W P} {a : Action L P} (h : M.Forward c a c') :
    M.Effect a c.world c'.world := by
  cases h with
  | call h => exact Effect.exec h
  | suspend h => exact Effect.exec h
  | resume => exact Effect.resume _ _
  | enter => exact Effect.foreign _
  | leave => exact Effect.foreign _
  | tick h => exact Effect.tick h

/-! ### Rollback adds nothing -/

/-- Every frame of a stack restores a configuration some history reaches. -/
def Restorable : List (Frame W P) → Prop
  | [] => True
  | f :: fs => (∃ tr, M.Run tr ⟨f.saved, fs⟩) ∧ Restorable fs

/-- A forward step opens only frames that restore where it started. -/
theorem Forward.restorable {c c' : Config W P} {a : Action L P} {tr : List (Event W L P)}
    (h : M.Forward c a c') (hrun : M.Run tr c) (hfs : M.Restorable c.frames) :
    M.Restorable c'.frames := by
  cases h with
  | call _ => exact hfs
  | suspend _ => exact ⟨⟨tr, hrun⟩, hfs⟩
  | resume => exact hfs.2
  | enter => exact ⟨⟨tr, hrun⟩, hfs⟩
  | leave => exact hfs.2
  | tick _ => exact hfs

theorem Reachable.run_and_restorable {c : Config W P} (h : M.Reachable c) :
    (∃ tr, M.Run tr c) ∧ M.Restorable c.frames := by
  induction h with
  | genesis h => exact ⟨⟨[], .genesis h⟩, trivial⟩
  | forward _ hstep ih =>
    obtain ⟨⟨tr, hrun⟩, hfs⟩ := ih
    exact ⟨⟨_, hrun.snoc hstep⟩, hstep.restorable hrun hfs⟩
  -- What a rollback restores is on the stack, with the history that led there.
  | rollback _ ih => exact ih.2

/-- **Rollback adds nothing**: what can be observed is the end of a history in
which nothing was undone. -/
theorem Reachable.exists_run {c : Config W P} (h : M.Reachable c) : ∃ tr, M.Run tr c :=
  h.run_and_restorable.1

theorem Run.reachable {tr : List (Event W L P)} {c : Config W P} (h : M.Run tr c) :
    M.Reachable c := by
  induction h with
  | genesis h => exact .genesis h
  | snoc _ hstep ih => exact ih.forward hstep

/-! ### Invariants -/

/-- **The invariant rule**: what holds at genesis, and is kept by every effect on
a world that can be observed, holds of every world that can be observed. -/
theorem Reachable.invariant {I : W → Prop} (hgen : ∀ w, M.genesis w → I w)
    (hstep : ∀ {c a w'}, M.Reachable c → I c.world → M.Effect a c.world w' → I w')
    {c : Config W P} (h : M.Reachable c) : I c.world := by
  -- Along a history nothing is undone, so only forward steps have to keep it.
  obtain ⟨tr, hrun⟩ := h.exists_run
  clear h
  induction hrun with
  | genesis h => exact hgen _ h
  | snoc hrun hfwd ih => exact hstep hrun.reachable ih hfwd.effect

/-! ### Histories -/

/-- **The history rule**: a property of the past and the present world that
every effect extends. -/
theorem Run.history {Q : List (Event W L P) → W → Prop} (hgen : ∀ w, M.genesis w → Q [] w)
    (hstep : ∀ {tr c a w'}, M.Run tr c → Q tr c.world → M.Effect a c.world w' →
      Q (tr ++ [⟨c.world, a, w'⟩]) w')
    {tr : List (Event W L P)} {c : Config W P} (h : M.Run tr c) : Q tr c.world := by
  induction h with
  | genesis h => exact hgen _ h
  | snoc hrun hfwd ih => exact hstep hrun ih hfwd.effect

/-- Every event of a history is a step from a world some history reaches. -/
theorem Run.event_effect {tr : List (Event W L P)} {c : Config W P} (h : M.Run tr c) :
    ∀ e ∈ tr, M.Effect e.action e.before e.after ∧
      ∃ tr' fs, M.Run tr' ⟨e.before, fs⟩ := by
  induction h with
  | genesis _ => simp
  | @snoc tr c c' a hrun hfwd ih =>
    intro e he
    rcases List.mem_append.mp he with he | he
    · exact ih e he
    · obtain rfl := List.mem_singleton.mp he
      exact ⟨hfwd.effect, tr, c.frames, hrun⟩

/-- What comes before a step of a history is a history, which ends where the step begins. -/
theorem Run.split {tr₁ tr₂ : List (Event W L P)} {e : Event W L P} {c : Config W P}
    (h : M.Run (tr₁ ++ e :: tr₂) c) :
    M.Effect e.action e.before e.after ∧ ∃ fs, M.Run tr₁ ⟨e.before, fs⟩ := by
  generalize htr : tr₁ ++ e :: tr₂ = tr at h
  induction h generalizing tr₂ with
  | genesis _ => simp at htr
  | @snoc tr c c' a hrun hfwd ih =>
    rcases List.eq_nil_or_concat tr₂ with rfl | ⟨tr₂, e', rfl⟩
    -- The step is the last one, or the history without the last one splits the same way.
    · obtain ⟨rfl, he⟩ := List.append_inj' htr rfl
      obtain rfl := (List.cons.inj he).1
      exact ⟨hfwd.effect, c.frames, hrun⟩
    · rw [List.concat_eq_append, ← List.cons_append, ← List.append_assoc] at htr
      exact ih (List.append_inj' htr rfl).1

/-- **A relation every effect respects** relates both sides of every event of a
history to its end. -/
theorem Run.event_relation {R : W → W → Prop} (hrefl : ∀ w, R w w)
    (htrans : ∀ {w₁ w₂ w₃}, R w₁ w₂ → R w₂ w₃ → R w₁ w₃)
    (hstep : ∀ {tr c a w'}, M.Run tr c → M.Effect a c.world w' → R c.world w')
    {tr : List (Event W L P)} {c : Config W P} (h : M.Run tr c) :
    ∀ e ∈ tr, R e.before c.world ∧ R e.after c.world := by
  refine h.history (Q := fun tr w => ∀ e ∈ tr, R e.before w ∧ R e.after w) (by simp) ?_
  intro tr c a w' hrun ih heffect e he
  rcases List.mem_append.mp he with he | he
  · exact ⟨htrans (ih e he).1 (hstep hrun heffect), htrans (ih e he).2 (hstep hrun heffect)⟩
  · obtain rfl := List.mem_singleton.mp he
    exact ⟨hstep hrun heffect, hrefl w'⟩

/-! ### Flags that are raised once -/

/-- A flag no step lowers. -/
def Latched (M : Machine E W L P) (flag : W → Bool) : Prop :=
  (∀ w, M.genesis w → flag w = false) ∧
    ∀ {tr c a w'}, M.Run tr c → M.Effect a c.world w' → flag c.world = true → flag w' = true

/-- **A latched flag is raised at most once**, and exactly once if it is up. -/
theorem Run.countP_raises {flag : W → Bool} (hflag : M.Latched flag)
    {tr : List (Event W L P)} {c : Config W P} (h : M.Run tr c) :
    tr.countP (·.raises flag) = if flag c.world then 1 else 0 := by
  refine h.history (Q := fun tr w => tr.countP (·.raises flag) = if flag w then 1 else 0) ?_ ?_
  · intro w hw
    simp [hflag.1 w hw]
  · intro tr c a w' hrun ih heffect
    rw [List.countP_append, ih, List.countP_singleton]
    rcases hup : flag c.world with _ | _
    · simp [Event.raises, hup]
    · simp [Event.raises, hup, hflag.2 hrun heffect hup]

/-- **A weight that only the raising of a latched flag carries** sums, over a
history, to the weight of the one step that raised it. -/
theorem Run.sum_raises {flag : W → Bool} (hflag : M.Latched flag) {weight : Event W L P → ℕ}
    (hweight : ∀ {tr c a w'}, M.Run tr c → M.Effect a c.world w' →
      Event.raises ⟨c.world, a, w'⟩ flag = false → weight ⟨c.world, a, w'⟩ = 0)
    {tr : List (Event W L P)} {c : Config W P} (h : M.Run tr c) :
    (flag c.world = false ∧ (tr.map weight).sum = 0) ∨
      (flag c.world = true ∧ ∃ e ∈ tr, e.raises flag ∧ (tr.map weight).sum = weight e) := by
  refine h.history (Q := fun tr w => (flag w = false ∧ (tr.map weight).sum = 0) ∨
    (flag w = true ∧ ∃ e ∈ tr, e.raises flag ∧ (tr.map weight).sum = weight e)) ?_ ?_
  · exact fun w hw => .inl ⟨hflag.1 w hw, rfl⟩
  · intro tr c a w' hrun ih heffect
    simp only [List.map_append, List.sum_append, List.map_cons, List.map_nil, List.sum_cons,
      List.sum_nil, Nat.add_zero]
    rcases ih with ⟨hdown, hsum⟩ | ⟨hup, e, he, hraises, hsum⟩
    -- A flag that is down may be raised now, and then this is the one step that does.
    · rcases hup' : flag w' with _ | _
      · exact .inl ⟨rfl, by rw [hsum, hweight hrun heffect (by simp [Event.raises, hup'])]⟩
      · refine .inr ⟨rfl, _, List.mem_append_right tr (List.mem_singleton_self _), ?_, ?_⟩
        · simp [Event.raises, hdown, hup']
        · rw [hsum, Nat.zero_add]
    · refine .inr ⟨hflag.2 hrun heffect hup, e, List.mem_append_left _ he, hraises, ?_⟩
      rw [hsum, hweight hrun heffect (by simp [Event.raises, hup]), Nat.add_zero]

/-! ### What a revert leaves behind -/

/-- What a call leaves behind, whether it succeeds or reverts. -/
def attempt (M : Machine E W L P) (l : L) (w : W) : W :=
  match M.exec l w with
  | .ok o => o.state
  | .error _ => w

theorem attempt_of_ok {l : L} {w : W} {o : Outcome W P} (h : M.exec l w = .ok o) :
    M.attempt l w = o.state := by
  rw [attempt, h]

/-- A call that reverts leaves behind what it found. -/
theorem attempt_of_error {l : L} {w : W} {err : Failure E} (h : M.exec l w = .error err) :
    M.attempt l w = w := by
  rw [attempt, h]

/-- A frame that has just been opened restores the world its call found. -/
theorem Forward.saved_eq {c c' : Config W P} {a : Action L P} (h : M.Forward c a c')
    {f : Frame W P} (hf : c'.frames = f :: c.frames) : f.saved = c.world := by
  cases h with
  | suspend _ | enter =>
    obtain ⟨rfl, -⟩ := List.cons.inj hf
    rfl
  | call _ | tick _ => exact absurd hf.symm (List.cons_ne_self _ _)
  | resume | leave =>
    have hlength := congrArg List.length hf
    simp only [List.length_cons] at hlength
    omega

/-! ### Playing a history out -/

section

variable (M)

/-- One move, if it is possible. -/
def move : Move L → Config W P → Option (Action L P × Config W P)
  | .call l, ⟨w, fs⟩ => match M.exec l w with
    | .ok (.done w') => some (.exec l, ⟨w', fs⟩)
    | .ok (.transfer _ _ p w') => some (.exec l, ⟨w', ⟨some p, w⟩ :: fs⟩)
    | .error _ => none
  | .finish, ⟨w, ⟨some p, _⟩ :: fs⟩ => some (.resume p, ⟨M.resume p w, fs⟩)
  | .enter, ⟨w, fs⟩ => some (.foreign, ⟨w, ⟨none, w⟩ :: fs⟩)
  | .leave, ⟨w, ⟨none, _⟩ :: fs⟩ => some (.foreign, ⟨w, fs⟩)
  | .tick t, ⟨w, []⟩ => match M.tick t w with
    | some w' => some (.tick t, ⟨w', []⟩)
    | none => none
  | _, _ => none

/-- A list of moves, with the history they make. -/
def play : List (Move L) → Config W P → Option (List (Event W L P) × Config W P)
  | [], c => some ([], c)
  | m :: ms, c => match M.move m c with
    | some (a, c') => match play ms c' with
      | some (tr, c'') => some (⟨c.world, a, c'.world⟩ :: tr, c'')
      | none => none
    | none => none

end

theorem forward_of_move {m : Move L} {c c' : Config W P} {a : Action L P}
    (h : M.move m c = some (a, c')) : M.Forward c a c' := by
  obtain ⟨w, fs⟩ := c
  unfold move at h
  split at h
  next heq =>
    obtain ⟨rfl, rfl⟩ := Config.mk.inj heq
    split at h
    next hexec =>
      obtain ⟨rfl, rfl⟩ := Prod.mk.inj (Option.some.inj h)
      exact .call hexec
    next hexec =>
      obtain ⟨rfl, rfl⟩ := Prod.mk.inj (Option.some.inj h)
      exact .suspend hexec
    next => exact absurd h (by simp)
  next heq =>
    obtain ⟨rfl, rfl⟩ := Prod.mk.inj (Option.some.inj h)
    obtain ⟨rfl, rfl⟩ := Config.mk.inj heq
    exact .resume
  next heq =>
    obtain ⟨rfl, rfl⟩ := Prod.mk.inj (Option.some.inj h)
    obtain ⟨rfl, rfl⟩ := Config.mk.inj heq
    exact .enter
  next heq =>
    obtain ⟨rfl, rfl⟩ := Prod.mk.inj (Option.some.inj h)
    obtain ⟨rfl, rfl⟩ := Config.mk.inj heq
    exact .leave
  next heq =>
    split at h
    next htick =>
      obtain ⟨rfl, rfl⟩ := Prod.mk.inj (Option.some.inj h)
      obtain ⟨rfl, rfl⟩ := Config.mk.inj heq
      exact .tick htick
    next => exact absurd h (by simp)
  next => exact absurd h (by simp)

/-- **What is played is a history.** -/
theorem Run.play {tr tr' : List (Event W L P)} {c c' : Config W P} {ms : List (Move L)}
    (hrun : M.Run tr c) (h : M.play ms c = some (tr', c')) : M.Run (tr ++ tr') c' := by
  induction ms generalizing tr c tr' with
  | nil =>
    obtain ⟨rfl, rfl⟩ := Prod.mk.inj (Option.some.inj h)
    rwa [List.append_nil]
  | cons m ms ih =>
    simp only [Machine.play] at h
    split at h
    next a c₁ hmove =>
      split at h
      next tr₁ c₂ hplay =>
        obtain ⟨rfl, rfl⟩ := Prod.mk.inj (Option.some.inj h)
        have hnext := ih (hrun.snoc (forward_of_move hmove)) hplay
        rwa [List.append_assoc] at hnext
      next => exact absurd h (by simp)
    next => exact absurd h (by simp)

/-- What is played from genesis is a history. -/
theorem run_play {ms : List (Move L)} {w : W} (hw : M.genesis w)
    (h : (M.play ms ⟨w, []⟩).isSome) :
    M.Run ((M.play ms ⟨w, []⟩).get h).1 ((M.play ms ⟨w, []⟩).get h).2 :=
  (Run.genesis hw).play (Option.some_get h).symm

end Machine

end Evm
