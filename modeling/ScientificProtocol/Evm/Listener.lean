import ScientificProtocol.Evm.Emits

/-!
# Listening to a log

A listener is called once for each event, with a context that the chain does not promise
anything about, and changes a state of its own. What it makes of a list of events is
stated by a pre- and a postcondition (`Evm.Leads`), and the rules are those of a program
that is a sequence. A listener whose postcondition follows the state of a machine step by
step follows it along every stretch (`Evm.Machine.Emits.leads`).

Several listeners can be run as one. Each sees the events it listens to, and the others
leave its state alone (`Evm.part_foldl`).
-/

namespace Evm

variable {X A S : Type}

/-- Calling a listener for each of the events. -/
def listen (handler : X → A → S → S) (events : List (X × A)) (s : S) : S :=
  events.foldl (fun s e => handler e.1 e.2 s) s

/-- **The events lead from `P` to `Q`**, whatever their contexts are. -/
def Leads (handler : X → A → S → S) (P : S → Prop) (events : List A) (Q : S → Prop) : Prop :=
  ∀ es s, es.map Prod.snd = events → P s → Q (listen handler es s)

namespace Leads

variable {handler : X → A → S → S} {P Q R : S → Prop} {events events' : List A} {e : A}

/-- No event at all. -/
theorem imp (h : ∀ s, P s → Q s) : Leads handler P [] Q := by
  intro es s hes
  obtain rfl := List.map_eq_nil_iff.mp hes
  exact h s

theorem refl (P : S → Prop) : Leads handler P [] P := imp fun _ => id

/-- One event after the other. -/
theorem trans (h : Leads handler P events Q) (h' : Leads handler Q events' R) :
    Leads handler P (events ++ events') R := by
  intro es s hes hP
  obtain ⟨before, after, rfl, hbefore, hafter⟩ := List.map_eq_append_iff.mp hes
  rw [listen, List.foldl_append]
  exact h' after _ hafter (h before s hbefore hP)

/-- One event. -/
theorem one (h : ∀ x s, P s → Q (handler x e s)) : Leads handler P [e] Q := by
  intro es s hes hP
  obtain ⟨head, tail, rfl, rfl, htail⟩ := List.map_eq_cons_iff.mp hes
  obtain rfl := List.map_eq_nil_iff.mp htail
  exact h _ _ hP

theorem cons (h : ∀ x s, P s → Q (handler x e s)) (h' : Leads handler Q events R) :
    Leads handler P (e :: events) R :=
  (one h).trans h'

end Leads

/-- **A listener that is part of another one** sees the events it listens to. -/
theorem part_foldl {T B : Type} {handle : B → X × T → B} {part : B → S} {said? : T → Option A}
    {handler : X → A → S → S}
    (h : ∀ b e, part (handle b e) =
      ((said? e.2).map fun params => handler e.1 params (part b)).getD (part b))
    (es : List (X × T)) (b : B) :
    part (es.foldl handle b) =
      listen handler (es.filterMap fun e => (said? e.2).map (Prod.mk e.1)) (part b) := by
  induction es generalizing b with
  | nil => rfl
  | cons e es ih =>
    rw [List.foldl_cons, ih, h]
    cases hsaid : said? e.2 with
    | none => rw [List.filterMap_cons_none (by rw [hsaid]; rfl), Option.map_none, Option.getD_none]
    | some params => rw [List.filterMap_cons_some (by rw [hsaid]; rfl), Option.map_some,
        Option.getD_some]; rfl

/-- The events it sees are those of its kind. -/
theorem map_snd_filterMap {T : Type} (said? : T → Option A) (es : List (X × T)) :
    (es.filterMap fun e => (said? e.2).map (Prod.mk e.1)).map Prod.snd =
      (es.map Prod.snd).filterMap said? := by
  rw [List.map_filterMap, List.filterMap_map]
  congr 1
  ext e : 1
  rw [Option.map_map]
  exact Option.map_id'

namespace Machine

variable {E W L P T : Type} {M : Machine E W L P} {emitted : W → W → List T}
  {c c' : Config W P} {ts : List T}

/-- **The stretch rule of a listener**: what it says of every step, it says of a stretch. -/
theorem Emits.leads {said? : T → Option A} {handler : X → A → S → S}
    (Q : Config W P → S → Prop)
    (hstep : ∀ {c a c'}, M.Reachable c → M.Forward c a c' →
      Leads handler (Q c) ((emitted c.world c'.world).filterMap said?) (Q c'))
    (h : M.Emits emitted c ts c') (hc : M.Reachable c) :
    Leads handler (Q c) (ts.filterMap said?) (Q c') := by
  refine h.relation (Q := fun c ts c' => Leads handler (Q c) (ts.filterMap said?) (Q c'))
    (fun c => .refl (Q c)) (fun h h' => ?_) hstep hc
  rw [List.filterMap_append]
  exact h.trans h'

end Machine

end Evm
