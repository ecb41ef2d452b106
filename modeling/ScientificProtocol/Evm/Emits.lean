import ScientificProtocol.Evm.CallStack
import ScientificProtocol.Evm.Mapping
import Mathlib.Data.List.Nodup
import Mathlib.Order.Basic

/-!
# What a stretch of a history tells

A reader of a chain sees the logs of its contracts and nothing else. How much it can learn
from them is a matter of what the contracts tell, and when. Three promises are made here
of a stretch of a history, about numbered records and the words that are said of them:

| | |
|---|---|
| `Evm.Numbers` | numbers are given out one after the other, and each is told |
| `Evm.Tells` | what is not told of has not changed, unless it is still to be told |
| `Evm.Ends` | nothing more is told of what has ended |

All three are kept if two stretches are put together, so that they hold of a whole history
if they hold of each of its steps (`Evm.Machine.Emits.relation`).
-/

namespace Evm

section

variable {V : Type}

/-- Numbers are given out one after the other, from `next` up to `next'`. -/
structure Numbers (next : ℕ) (ids : List ℕ) (next' : ℕ) : Prop where
  le : next ≤ next'
  ids_eq : ids = List.range' next (next' - next)

/-- **What is not told of has not changed**, unless it is still to be told: the records
before and after, with what is still to be told of them. -/
structure Tells (record : ℕ → V) (pending : ℕ → Prop) (ids : List ℕ) (record' : ℕ → V)
    (pending' : ℕ → Prop) : Prop where
  kept : ∀ k, record' k = record k ∨ pending' k ∨ k ∈ ids
  pended : ∀ k, pending k → pending' k ∨ k ∈ ids

/-- Nothing is still to be told. -/
def Nothing (_ : ℕ) : Prop := False

/-- **Nothing more is told of what has ended**: what has ended before and after, and the
words in between. A word is the number of a record, and whether it is the last one. -/
structure Ends (ended : ℕ → Prop) (words : List (ℕ × Bool)) (ended' : ℕ → Prop) : Prop where
  pairwise : words.Pairwise fun word word' => word.2 = true → word'.1 ≠ word.1
  alive : ∀ word ∈ words, ¬ended word.1
  last : ∀ word ∈ words, word.2 = true → ended' word.1
  stays : ∀ k, ended k → ended' k

namespace Numbers

variable {next next' next'' : ℕ} {ids ids' : List ℕ}

theorem refl (next : ℕ) : Numbers next [] next :=
  ⟨le_rfl, by rw [Nat.sub_self]; rfl⟩

theorem succ (next : ℕ) : Numbers next [next] (next + 1) :=
  ⟨Nat.le_succ next, by rw [Nat.add_sub_cancel_left]; rfl⟩

theorem trans (h : Numbers next ids next') (h' : Numbers next' ids' next'') :
    Numbers next (ids ++ ids') next'' := by
  refine ⟨h.le.trans h'.le, ?_⟩
  obtain ⟨m, hm⟩ := Nat.exists_eq_add_of_le h.le
  obtain ⟨n, hn⟩ := Nat.exists_eq_add_of_le h'.le
  rw [h.ids_eq, h'.ids_eq, hn, hm, Nat.add_sub_cancel_left, Nat.add_sub_cancel_left,
    Nat.add_assoc, Nat.add_sub_cancel_left, List.range'_append_1]

/-- No number is given out twice. -/
theorem nodup (h : Numbers next ids next') : ids.Nodup := h.ids_eq ▸ List.nodup_range'

end Numbers

namespace Tells

variable {record record' record'' : ℕ → V} {pending pending' pending'' : ℕ → Prop}
  {ids ids' : List ℕ}

theorem same (hrecord : ∀ k, record' k = record k) (hpending : ∀ k, pending k → pending' k) :
    Tells record pending [] record' pending' :=
  ⟨fun k => .inl (hrecord k), fun k hk => .inl (hpending k hk)⟩

theorem refl (record : ℕ → V) (pending : ℕ → Prop) : Tells record pending [] record pending :=
  same (fun _ => rfl) fun _ => id

/-- One record is told of. -/
theorem one {k : ℕ} (hrecord : ∀ k', k' ≠ k → record' k' = record k')
    (hpending : ∀ k', k' ≠ k → pending k' → pending' k') :
    Tells record pending [k] record' pending' := by
  refine ⟨fun k' => ?_, fun k' hk' => ?_⟩ <;> by_cases hk : k' = k
  · exact .inr (.inr (hk ▸ List.mem_singleton_self k))
  · exact .inl (hrecord k' hk)
  · exact .inr (hk ▸ List.mem_singleton_self k)
  · exact .inl (hpending k' hk hk')

/-- One record of a mapping is told of. -/
theorem set [Inhabited V] (m : Mapping ℕ V) (k : ℕ) (v : V) :
    Tells m Nothing [k] (m.set k v) Nothing :=
  one (fun _ hk => Mapping.set_of_ne _ hk _) fun _ _ => id

theorem trans (h : Tells record pending ids record' pending')
    (h' : Tells record' pending' ids' record'' pending'') :
    Tells record pending (ids ++ ids') record'' pending'' := by
  have hpended : ∀ k, pending' k → pending'' k ∨ k ∈ ids ++ ids' := fun k hk =>
    (h'.pended k hk).imp_right (List.mem_append_right _)
  refine ⟨fun k => ?_, fun k hk => ?_⟩
  · rcases h'.kept k with heq' | hrest
    · rcases h.kept k with heq | hk | hk
      · exact .inl (heq'.trans heq)
      · exact .inr (hpended k hk)
      · exact .inr (.inr (List.mem_append_left _ hk))
    · exact .inr (hrest.imp_right (List.mem_append_right _))
  · rcases h.pended k hk with hk | hk
    · exact hpended k hk
    · exact .inr (List.mem_append_left _ hk)

end Tells

namespace Ends

variable {ended ended' ended'' : ℕ → Prop} {words words' : List (ℕ × Bool)}

theorem silent (hstays : ∀ k, ended k → ended' k) : Ends ended [] ended' :=
  ⟨.nil, by simp, by simp, hstays⟩

/-- One word, about what has not ended. -/
theorem word {k : ℕ} {isLast : Bool} (halive : ¬ended k) (hlast : isLast = true → ended' k)
    (hstays : ∀ k, ended k → ended' k) : Ends ended [(k, isLast)] ended' where
  pairwise := List.pairwise_singleton _ _
  alive word hword := by
    obtain rfl := List.mem_singleton.mp hword
    exact halive
  last word hword := by
    obtain rfl := List.mem_singleton.mp hword
    exact hlast
  stays := hstays

theorem refl (ended : ℕ → Prop) : Ends ended [] ended := silent fun _ => id

/-- One word, about a record of a mapping that has not ended. -/
theorem set [Inhabited V] {P : V → Prop} {m : Mapping ℕ V} {k : ℕ} {v : V} {isLast : Bool}
    (halive : ¬P (m k)) (hlast : isLast = true → P v) :
    Ends (fun k => P (m k)) [(k, isLast)] (fun k' => P (m.set k v k')) := by
  refine word halive (fun h => ?_) fun k' hended => ?_
  · rw [Mapping.set_self]
    exact hlast h
  · have hne : k' ≠ k := by
      rintro rfl
      exact halive hended
    rwa [Mapping.set_of_ne _ hne]

theorem trans (h : Ends ended words ended') (h' : Ends ended' words' ended'') :
    Ends ended (words ++ words') ended'' where
  pairwise := List.pairwise_append.mpr ⟨h.pairwise, h'.pairwise,
    fun word hword word' hword' hlast heq =>
      h'.alive word' hword' (heq ▸ h.last word hword hlast)⟩
  alive word hword := by
    rcases List.mem_append.mp hword with hword | hword
    · exact h.alive word hword
    · exact fun hended => h'.alive word hword (h.stays _ hended)
  last word hword hlast := by
    rcases List.mem_append.mp hword with hword | hword
    · exact h'.stays _ (h.last word hword hlast)
    · exact h'.last word hword hlast
  stays k hk := h'.stays k (h.stays k hk)

end Ends

end

/-- The call that is left waiting. -/
def Outcome.pending {S P : Type} : Outcome S P → Option P
  | .done _ => none
  | .transfer _ _ p _ => some p

namespace Machine

variable {E W L P T : Type} (M : Machine E W L P) (emitted : W → W → List T)

/-- **A stretch of a history**, with what its steps have emitted. -/
inductive Emits : Config W P → List T → Config W P → Prop
  | refl (c : Config W P) : Emits c [] c
  | snoc {c c' c'' : Config W P} {ts : List T} {a : Action L P} :
      Emits c ts c' → M.Forward c' a c'' → Emits c (ts ++ emitted c'.world c''.world) c''

variable {M emitted} {c c' c'' : Config W P} {ts ts' : List T}

theorem Emits.trans (h : M.Emits emitted c ts c') (h' : M.Emits emitted c' ts' c'') :
    M.Emits emitted c (ts ++ ts') c'' := by
  induction h' with
  | refl => rwa [List.append_nil]
  | snoc _ hstep ih =>
    rw [← List.append_assoc]
    exact ih.snoc hstep

theorem Emits.reachable (h : M.Emits emitted c ts c') (hc : M.Reachable c) : M.Reachable c' := by
  induction h with
  | refl => exact hc
  | snoc _ hstep ih => exact ih.forward hstep

/-- **The stretch rule**: a relation that each step respects, and that is kept if two
stretches are put together. -/
theorem Emits.relation {Q : Config W P → List T → Config W P → Prop} (hrefl : ∀ c, Q c [] c)
    (htrans : ∀ {c ts c' ts' c''}, Q c ts c' → Q c' ts' c'' → Q c (ts ++ ts') c'')
    (hstep : ∀ {c a c'}, M.Reachable c → M.Forward c a c' → Q c (emitted c.world c'.world) c')
    (hc : M.Reachable c) (h : M.Emits emitted c ts c') : Q c ts c' := by
  induction h with
  | refl => exact hrefl _
  | snoc hemits hfwd ih => exact htrans ih (hstep (hemits.reachable hc) hfwd)

/-- What is played is a stretch of a history. -/
theorem emits_of_play {ms : List (Move L)} {tr : List (Event W L P)}
    (h : M.play ms c = some (tr, c')) :
    M.Emits emitted c (tr.flatMap fun e => emitted e.before e.after) c' := by
  induction ms generalizing c tr with
  | nil =>
    obtain ⟨rfl, rfl⟩ := Prod.mk.inj (Option.some.inj h)
    exact .refl _
  | cons m ms ih =>
    simp only [play] at h
    split at h
    next a c₁ hmove =>
      split at h
      next tr₁ c₂ hplay =>
        obtain ⟨rfl, rfl⟩ := Prod.mk.inj (Option.some.inj h)
        have hfirst : M.Emits emitted c ([] ++ emitted c.world c₁.world) c₁ :=
          (Emits.refl c).snoc (forward_of_move hmove)
        rw [List.flatMap_cons]
        exact hfirst.trans (ih hplay)
      next => exact absurd h (by simp)
    next => exact absurd h (by simp)

/-! ### What waits on the stack -/

/-- What the suspended calls of a stack are about. -/
def waiting {K : Type} (about : P → Option K) (fs : List (Frame W P)) : List K :=
  fs.filterMap fun f => f.pending.bind about

theorem waiting_cons {K : Type} (about : P → Option K) (p : Option P) (w : W)
    (fs : List (Frame W P)) :
    waiting about (⟨p, w⟩ :: fs) = (p.bind about).toList ++ waiting about fs := by
  rw [waiting, List.filterMap_cons, waiting]
  cases p.bind about <;> rfl

/-- **What a step does to the world and to what waits.** -/
theorem Forward.waiting_cases {K : Type} {a : Action L P} (h : M.Forward c a c')
    (about : P → Option K) :
    (∃ l o, a = .exec l ∧ M.exec l c.world = .ok o ∧ c'.world = o.state ∧
      waiting about c'.frames = (o.pending.bind about).toList ++ waiting about c.frames) ∨
    (∃ p, a = .resume p ∧ c'.world = M.resume p c.world ∧
      waiting about c.frames = (about p).toList ++ waiting about c'.frames) ∨
    (waiting about c'.frames = waiting about c.frames ∧
      (a = .foreign ∧ c'.world = c.world ∨
        ∃ t, a = .tick t ∧ M.tick t c.world = some c'.world)) := by
  cases h with
  | call hexec => exact .inl ⟨_, _, rfl, hexec, rfl, rfl⟩
  | suspend hexec => exact .inl ⟨_, _, rfl, hexec, rfl, waiting_cons _ _ _ _⟩
  | resume => exact .inr (.inl ⟨_, rfl, rfl, waiting_cons _ _ _ _⟩)
  | enter => exact .inr (.inr ⟨waiting_cons _ _ _ _, .inl ⟨rfl, rfl⟩⟩)
  | leave => exact .inr (.inr ⟨(waiting_cons about none _ _).symm, .inl ⟨rfl, rfl⟩⟩)
  | tick htick => exact .inr (.inr ⟨rfl, .inr ⟨_, rfl, htick⟩⟩)

end Machine

end Evm
