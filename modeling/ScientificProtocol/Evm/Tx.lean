import Mathlib.Algebra.Ring.Nat

/-!
# Reverting computations

A Solidity function either runs to its end or reverts, and a revert undoes
everything the function did. `Evm.Tx` is that: an `Except` whose value is the
new state and whose error says why the call reverted, so a reverted call has no
state to speak of. The checks of the source are written with `Evm.revertIf`, in
the direction the source writes them – *revert if this bad thing holds* – and
its arithmetic with `Evm.checkedAdd`, `Evm.checkedSub` and `Evm.checkedMul`,
which panic where the compiler's checks do. Solidity has one panic code for both
directions; keeping `overflow` and `underflow` apart lets a theorem speak of
the subtractions alone.

The `simp` set of this file turns “the computation succeeded” into the
conjunction of the negated checks and the equation of the result, one check at
a time, which is how every function of a contract gets its inversion lemma.

A function that sends value stops at the transfer, because the recipient's code
runs then. Such a call answers with an `Evm.Outcome`: it is done, or it has
handed over and waits with a pending continuation.
-/

namespace Evm

/-- A 160-bit account address. -/
abbrev Address : Type := BitVec 160

/-- A 32-byte word. -/
abbrev Bytes32 : Type := BitVec 256

/-- The number of values of a `uint256`. -/
def uint256Size : ℕ := 2 ^ 256

/-- The bytes of a word, most significant first. -/
def wordBytes (word : Bytes32) : List UInt8 :=
  (List.range 32).map fun i => UInt8.ofNat (word.toNat / 256 ^ (31 - i) % 256)

/-- `abi.encode` of values that each fill one word. -/
def abiEncode (words : List Bytes32) : List UInt8 := words.flatMap wordBytes

/-- Why a call reverted: with an error of its own code, or by a check the
compiler inserted. -/
inductive Failure (E : Type) where
  /-- `revert E(..)`. -/
  | custom : E → Failure E
  /-- `Panic(0x11)` of an addition, an increment or a multiplication. -/
  | overflow : Failure E
  /-- `Panic(0x11)` of a subtraction. -/
  | underflow : Failure E
  /-- Value was sent to a function that is not payable. -/
  | nonPayable : Failure E
  /-- The sender cannot have the value it sends. -/
  | unfunded : Failure E
  deriving DecidableEq

/-- A computation that may revert. -/
abbrev Tx (E α : Type) : Type := Except (Failure E) α

section Checks

variable {E α β : Type}

/-- `if (c) revert e;`. -/
def revertIf (c : Prop) [Decidable c] (e : E) : Tx E Unit :=
  if c then .error (.custom e) else .ok ()

/-- `a + b` on `uint256`. -/
def checkedAdd (a b : ℕ) : Tx E ℕ :=
  if a + b < uint256Size then .ok (a + b) else .error .overflow

/-- `a - b` on `uint256`. -/
def checkedSub (a b : ℕ) : Tx E ℕ :=
  if b ≤ a then .ok (a - b) else .error .underflow

/-- `a * b` on `uint256`. -/
def checkedMul (a b : ℕ) : Tx E ℕ :=
  if a * b < uint256Size then .ok (a * b) else .error .overflow

/-! ### When a computation succeeds -/

@[simp] theorem pure_eq_ok (a : α) : (pure a : Tx E α) = .ok a := rfl

@[simp] theorem ok_bind (a : α) (f : α → Tx E β) : ((.ok a : Tx E α) >>= f) = f a := rfl

@[simp] theorem error_bind (e : Failure E) (f : α → Tx E β) :
    ((.error e : Tx E α) >>= f) = .error e := rfl

theorem bind_eq_ok {x : Tx E α} {f : α → Tx E β} {b : β} :
    (x >>= f) = .ok b ↔ ∃ a, x = .ok a ∧ f a = .ok b := by
  cases x <;> simp

theorem map_eq_ok {x : Tx E α} {f : α → β} {b : β} :
    (f <$> x) = .ok b ↔ ∃ a, x = .ok a ∧ b = f a := by
  cases x <;> simp [Functor.map, Except.map, eq_comm]

theorem map_eq_error {x : Tx E α} {f : α → β} {e : Failure E} :
    (f <$> x) = .error e ↔ x = .error e := by
  cases x <;> simp [Functor.map, Except.map]

/-- Post-processing does not decide whether a computation succeeds. -/
theorem exists_map_eq_ok {x : Tx E α} {f : α → β} : (∃ b, f <$> x = .ok b) ↔ ∃ a, x = .ok a := by
  cases x <;> simp [Functor.map, Except.map]

/-- Post-processing a sequence is post-processing its last part. -/
theorem map_bind {γ : Type} (g : β → γ) (x : Tx E α) (f : α → Tx E β) :
    g <$> (x >>= f) = x >>= fun a => g <$> f a := by
  cases x <;> rfl

@[simp] theorem map_ok (f : α → β) (a : α) : f <$> (.ok a : Tx E α) = .ok (f a) := rfl

@[simp] theorem map_error (f : α → β) (e : Failure E) :
    f <$> (.error e : Tx E α) = .error e := rfl

variable {c : Prop} [Decidable c] {e : E} {a b r : ℕ} {u : Unit}

@[simp] theorem revertIf_eq_ok : revertIf c e = .ok u ↔ ¬c := by
  unfold revertIf
  split <;> simp_all

@[simp] theorem checkedAdd_eq_ok :
    (checkedAdd a b : Tx E ℕ) = .ok r ↔ a + b < uint256Size ∧ r = a + b := by
  by_cases h : a + b < uint256Size <;> simp [checkedAdd, h, eq_comm]

@[simp] theorem checkedSub_eq_ok :
    (checkedSub a b : Tx E ℕ) = .ok r ↔ b ≤ a ∧ r = a - b := by
  by_cases h : b ≤ a <;> simp [checkedSub, h, eq_comm]

@[simp] theorem checkedMul_eq_ok :
    (checkedMul a b : Tx E ℕ) = .ok r ↔ a * b < uint256Size ∧ r = a * b := by
  by_cases h : a * b < uint256Size <;> simp [checkedMul, h, eq_comm]

theorem revertIf_of_not (h : ¬c) : revertIf c e = .ok () := by
  rw [revertIf, if_neg h]

theorem checkedAdd_of_lt (h : a + b < uint256Size) : (checkedAdd a b : Tx E ℕ) = .ok (a + b) := by
  rw [checkedAdd, if_pos h]

theorem checkedSub_of_le (h : b ≤ a) : (checkedSub a b : Tx E ℕ) = .ok (a - b) := by
  rw [checkedSub, if_pos h]

/-! ### When a computation panics -/

/-- The computation does not end in an arithmetic panic. -/
def NoPanic (x : Tx E α) : Prop := x ≠ .error .overflow ∧ x ≠ .error .underflow

@[simp] theorem noPanic_ok (a : α) : NoPanic (.ok a : Tx E α) := by
  simp [NoPanic]

@[simp] theorem noPanic_custom (e : E) : NoPanic (.error (.custom e) : Tx E α) := by
  simp [NoPanic]

@[simp] theorem noPanic_nonPayable : NoPanic (.error .nonPayable : Tx E α) := by
  simp [NoPanic]

@[simp] theorem noPanic_unfunded : NoPanic (.error .unfunded : Tx E α) := by
  simp [NoPanic]

/-- A sequence does not panic if its first part does not, and its second part
does not from any result of the first. -/
theorem NoPanic.bind {x : Tx E α} {f : α → Tx E β} (hx : NoPanic x)
    (hf : ∀ a, x = .ok a → NoPanic (f a)) : NoPanic (x >>= f) := by
  cases x with
  | error e => exact ⟨fun h => hx.1 (by simpa using h), fun h => hx.2 (by simpa using h)⟩
  | ok a => exact hf a rfl

/-- A sequence does not panic exactly if no part of it that is reached does. -/
theorem noPanic_bind {x : Tx E α} {f : α → Tx E β} :
    NoPanic (x >>= f) ↔ NoPanic x ∧ ∀ a, x = .ok a → NoPanic (f a) := by
  refine ⟨fun h => ⟨⟨fun hx => ?_, fun hx => ?_⟩, ?_⟩, fun h => h.1.bind h.2⟩
  · exact h.1 (by rw [hx, error_bind])
  · exact h.2 (by rw [hx, error_bind])
  · rintro a rfl
    exact h

theorem NoPanic.map {x : Tx E α} (hx : NoPanic x) (f : α → β) : NoPanic (f <$> x) :=
  ⟨fun h => hx.1 (map_eq_error.mp h), fun h => hx.2 (map_eq_error.mp h)⟩

@[simp] theorem noPanic_revertIf : NoPanic (revertIf c e) := by
  unfold revertIf
  split <;> simp

theorem noPanic_checkedAdd (h : a + b < uint256Size) : NoPanic (checkedAdd a b : Tx E ℕ) := by
  simp [checkedAdd, h]

theorem noPanic_checkedSub (h : b ≤ a) : NoPanic (checkedSub a b : Tx E ℕ) := by
  simp [checkedSub, h]

/-! ### When no subtraction fails -/

/-- The computation does not end in the panic of a subtraction. -/
def NoUnderflow (x : Tx E α) : Prop := x ≠ .error .underflow

theorem NoPanic.noUnderflow {x : Tx E α} (h : NoPanic x) : NoUnderflow x := h.2

/-- A sequence has a failing subtraction exactly if a part of it that is reached has. -/
theorem noUnderflow_bind {x : Tx E α} {f : α → Tx E β} :
    NoUnderflow (x >>= f) ↔ NoUnderflow x ∧ ∀ a, x = .ok a → NoUnderflow (f a) := by
  rcases x with e | a
  · simp [NoUnderflow]
  · refine ⟨fun h => ⟨by simp [NoUnderflow], ?_⟩, fun h => h.2 a rfl⟩
    rintro _ ⟨⟩
    exact h

theorem NoUnderflow.map {x : Tx E α} (hx : NoUnderflow x) (f : α → β) : NoUnderflow (f <$> x) :=
  fun h => hx (map_eq_error.mp h)

@[simp] theorem noUnderflow_ok (a : α) : NoUnderflow (.ok a : Tx E α) := (noPanic_ok a).noUnderflow

@[simp] theorem noUnderflow_revertIf : NoUnderflow (revertIf c e) := noPanic_revertIf.noUnderflow

@[simp] theorem noUnderflow_checkedAdd : NoUnderflow (checkedAdd a b : Tx E ℕ) := by
  unfold checkedAdd
  split <;> simp [NoUnderflow]

theorem noUnderflow_checkedSub (h : b ≤ a) : NoUnderflow (checkedSub a b : Tx E ℕ) :=
  (noPanic_checkedSub h).noUnderflow

/-! ### When a computation does not fail with a given error -/

/-- The computation does not end in this error of its code. -/
def Avoids (err : E) (x : Tx E α) : Prop := x ≠ .error (.custom err)

variable {err : E}

/-- A sequence ends in the error exactly if a part of it that is reached does. -/
theorem avoids_bind {x : Tx E α} {f : α → Tx E β} :
    Avoids err (x >>= f) ↔ Avoids err x ∧ ∀ a, x = .ok a → Avoids err (f a) := by
  rcases x with e | a <;> simp [Avoids]

theorem Avoids.map {x : Tx E α} (hx : Avoids err x) (f : α → β) : Avoids err (f <$> x) :=
  fun h => hx (map_eq_error.mp h)

@[simp] theorem avoids_ok (a : α) : Avoids err (.ok a : Tx E α) := by
  simp [Avoids]

/-- A check ends in its own error only. -/
@[simp] theorem avoids_revertIf : Avoids err (revertIf c e) ↔ ¬(c ∧ e = err) := by
  unfold revertIf
  split <;> simp_all [Avoids]

@[simp] theorem avoids_checkedAdd : Avoids err (checkedAdd a b : Tx E ℕ) := by
  unfold checkedAdd
  split <;> simp [Avoids]

@[simp] theorem avoids_checkedSub : Avoids err (checkedSub a b : Tx E ℕ) := by
  unfold checkedSub
  split <;> simp [Avoids]

@[simp] theorem avoids_checkedMul : Avoids err (checkedMul a b : Tx E ℕ) := by
  unfold checkedMul
  split <;> simp [Avoids]

end Checks

/-! ### Calls that hand over to a recipient -/

/-- How a call of a contract ends, when it does not revert: it is done, or it
has sent `amount` to `recipient`, whose code runs before the rest of the call
does. -/
inductive Outcome (S P : Type) where
  /-- The call ran to its end. -/
  | done (state : S) : Outcome S P
  /-- The call is at its transfer, with `pending` left to do. -/
  | transfer (recipient : Address) (amount : ℕ) (pending : P) (state : S) : Outcome S P

namespace Outcome

variable {S S' P P' : Type}

/-- The state the call leaves, or shows to the recipient. -/
def state : Outcome S P → S
  | .done s => s
  | .transfer _ _ _ s => s

/-- The same outcome seen in a larger state. -/
def map (f : S → S') (g : P → P') : Outcome S P → Outcome S' P'
  | .done s => .done (f s)
  | .transfer recipient amount p s => .transfer recipient amount (g p) (f s)

/-- The transfer the call is at: to whom, and how much. -/
def sent : Outcome S P → Option (Address × ℕ)
  | .done _ => none
  | .transfer recipient amount _ _ => some (recipient, amount)

@[simp] theorem state_done (s : S) : (done s : Outcome S P).state = s := rfl

@[simp] theorem state_transfer (recipient : Address) (amount : ℕ) (p : P) (s : S) :
    (transfer recipient amount p s).state = s := rfl

@[simp] theorem sent_done (s : S) : (done s : Outcome S P).sent = none := rfl

@[simp] theorem sent_transfer (recipient : Address) (amount : ℕ) (p : P) (s : S) :
    (transfer recipient amount p s).sent = some (recipient, amount) := rfl

@[simp] theorem sent_map (f : S → S') (g : P → P') (o : Outcome S P) :
    (o.map f g).sent = o.sent := by
  cases o <;> rfl

@[simp] theorem state_map (f : S → S') (g : P → P') (o : Outcome S P) :
    (o.map f g).state = f o.state := by
  cases o <;> rfl

end Outcome

/-! ### Runs compared up to a projection -/

section

variable {E S T P Q : Type} {u : S → S} {v : T → T} {f f' k : S → T} {g : P → Q}

/-- Runs that agree under `u` on a part agree under `v` on the whole, if what `v` shows
of the whole depends on what `u` shows of the part. -/
theorem map_outcome_congr {x y : Tx E (Outcome S P)}
    (h : Outcome.map u id <$> x = Outcome.map u id <$> y) (hf : ∀ s, v (f s) = k (u s))
    (hf' : ∀ s, v (f' s) = k (u s)) :
    Outcome.map v id <$> Outcome.map f g <$> x = Outcome.map v id <$> Outcome.map f' g <$> y := by
  have hpart : ∀ {f : S → T} (z : Tx E (Outcome S P)), (∀ s, v (f s) = k (u s)) →
      Outcome.map v id <$> Outcome.map f g <$> z = Outcome.map k g <$> Outcome.map u id <$> z := by
    intro f z hf
    rcases z with err | s | ⟨recipient, amount, p, s⟩
    · rfl
    · simp only [map_ok, Outcome.map, hf]
    · simp only [map_ok, Outcome.map, hf, id]
  rw [hpart x hf, hpart y hf', h]

end

end Evm
