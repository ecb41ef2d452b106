import ScientificProtocol.Evm.Abi
import ScientificProtocol.Market.Provenance

/-!
# A forecast is fixed when it is committed

`commitForecast` stores a hash of a prediction, and `revealForecast` opens it: it takes the
prediction and a salt, and compares the hash. What comes between, and what the market pays
for in the end, is up to the order in which anybody calls it.

* A forecast that is revealed has been **opened once, in time, to a prediction with the hash
  that was committed before** (`ScientificProtocol.Opened`), and its record says that
  prediction ever after.
* **No other prediction opens that hash**, unless two different encodings collide
  (`ScientificProtocol.eq_or_collides`): `abi.encode` of a direction, a confidence and a salt
  can be read back.
* A forecast that a decision is paid for **predicted that decision**.

The hash is of the prediction alone. Neither the claim nor the forecaster is in it, so that
nothing here keeps somebody from committing the hash of another forecast, and from opening
it with the salt that the other one has shown.
-/

namespace ScientificProtocol

open Evm

/-! ### Predictions -/

namespace EpistemicMarket

/-- `abi.encode(direction, confidenceBps, salt)`. -/
def predictionBytes (direction : ForecastDirection) (confidenceBps : UInt16) (salt : Bytes32) :
    List UInt8 :=
  abiEncode
    [BitVec.ofNat 256 (directionIndex direction), BitVec.ofNat 256 confidenceBps.toNat, salt]

/-- **The encoding of a prediction can be read back.** -/
theorem predictionBytes_injective {direction direction' : ForecastDirection}
    {confidenceBps confidenceBps' : UInt16} {salt salt' : Bytes32}
    (h : predictionBytes direction confidenceBps salt =
      predictionBytes direction' confidenceBps' salt') :
    direction = direction' ∧ confidenceBps = confidenceBps' ∧ salt = salt' := by
  have hwords := abiEncode_injective h rfl
  simp only [List.cons.injEq, and_true] at hwords
  obtain ⟨hdirection, hconfidence, hsalt⟩ := hwords
  refine ⟨?_, ?_, hsalt⟩
  · revert hdirection
    cases direction <;> cases direction' <;> decide
  · have hnat := congrArg BitVec.toNat hconfidence
    have hlt : 2 ^ 16 < 2 ^ 256 := Nat.pow_lt_pow_right (by decide) (by decide)
    rw [BitVec.toNat_ofNat, BitVec.toNat_ofNat,
      Nat.mod_eq_of_lt (confidenceBps.toNat_lt.trans hlt),
      Nat.mod_eq_of_lt (confidenceBps'.toNat_lt.trans hlt)] at hnat
    exact UInt16.toNat_inj.mp hnat

end EpistemicMarket

open EpistemicMarket

section

variable {D : Deployment} {id : ℕ} {f : ForecastCommitment} {tr : List ProtocolEvent}
  {c : Config World Suspended}

/-- **Two openings of one hash are one**, or the hash of two different texts is the same. -/
theorem eq_or_collides {direction direction' : ForecastDirection}
    {confidenceBps confidenceBps' : UInt16} {salt salt' : Bytes32}
    (h : commitmentOf D direction confidenceBps salt =
      commitmentOf D direction' confidenceBps' salt') :
    (direction = direction' ∧ confidenceBps = confidenceBps' ∧ salt = salt') ∨
      (predictionBytes direction confidenceBps salt ≠
          predictionBytes direction' confidenceBps' salt' ∧
        D.keccak256 (predictionBytes direction confidenceBps salt) =
          D.keccak256 (predictionBytes direction' confidenceBps' salt')) := by
  by_cases heq : predictionBytes direction confidenceBps salt =
    predictionBytes direction' confidenceBps' salt'
  · exact .inl (predictionBytes_injective heq)
  · exact .inr ⟨heq, h⟩

/-! ### Committed, then opened -/

/-- The step commits the forecast, with what its record says of the commitment. -/
structure Commits (id : ℕ) (f : ForecastCommitment) (e : ProtocolEvent) : Prop where
  call : marketCall e.action =
    some (.commitForecast f.claimId f.commitmentHash f.revealDeadline f.agentId)
  fresh : e.before.epistemicMarket.nextForecastId = id

/-- The step opens the forecast with a salt, in time, and its record says to what. -/
structure Reveals (D : Deployment) (id : ℕ) (f : ForecastCommitment) (salt : Bytes32)
    (e : ProtocolEvent) : Prop where
  call : marketCall e.action = some (.revealForecast id f.direction f.confidenceBps salt)
  opens : commitmentOf D f.direction f.confidenceBps salt = f.commitmentHash
  in_time : e.before.now ≤ f.revealDeadline.toNat
  first : (e.before.epistemicMarket.forecasts id).revealed = false

/-- The forecast was committed. -/
def Committed (id : ℕ) (tr : List ProtocolEvent) (f : ForecastCommitment) : Prop :=
  ∃ tr₁ commit tr₂, tr = tr₁ ++ commit :: tr₂ ∧ Commits id f commit

/-- **The forecast was committed, and then opened.** -/
def Opened (D : Deployment) (id : ℕ) (tr : List ProtocolEvent) (f : ForecastCommitment) : Prop :=
  ∃ tr₁ commit tr₂ reveal tr₃ salt, tr = tr₁ ++ commit :: (tr₂ ++ reveal :: tr₃) ∧
    Commits id f commit ∧ Reveals D id f salt reveal

/-- What the past of a forecast is. -/
structure Traced (D : Deployment) (id : ℕ) (tr : List ProtocolEvent) (f : ForecastCommitment) :
    Prop where
  committed : f.forecastId ≠ 0 → Committed id tr f
  opened : f.revealed = true → Opened D id tr f

theorem Committed.snoc (h : Committed id tr f) (e : ProtocolEvent) :
    Committed id (tr ++ [e]) f := by
  obtain ⟨tr₁, commit, tr₂, rfl, hcommit⟩ := h
  exact ⟨tr₁, commit, tr₂ ++ [e], by rw [List.append_assoc, List.cons_append], hcommit⟩

theorem Traced.snoc (h : Traced D id tr f) (e : ProtocolEvent) : Traced D id (tr ++ [e]) f where
  committed hexists := (h.committed hexists).snoc e
  opened hrevealed := by
    obtain ⟨tr₁, commit, tr₂, reveal, tr₃, salt, rfl, hcommit, hreveal⟩ := h.opened hrevealed
    exact ⟨tr₁, commit, tr₂, reveal, tr₃ ++ [e], salt, by simp, hcommit, hreveal⟩

/-- What a forecast is traced by says nothing of its settlement. -/
theorem Traced.settle (h : Traced D id tr f) (d : ℕ) :
    Traced D id tr { f with settled := true, resolutionDecisionId := d } where
  committed hexists := by
    obtain ⟨tr₁, commit, tr₂, htr, hcommit⟩ := h.committed hexists
    exact ⟨tr₁, commit, tr₂, htr, hcommit.call, hcommit.fresh⟩
  opened hrevealed := by
    obtain ⟨tr₁, commit, tr₂, reveal, tr₃, salt, htr, hcommit, hreveal⟩ := h.opened hrevealed
    exact ⟨tr₁, commit, tr₂, reveal, tr₃, salt, htr, ⟨hcommit.call, hcommit.fresh⟩,
      hreveal.call, hreveal.opens, hreveal.in_time, hreveal.first⟩

/-- The last event commits the forecast. -/
theorem Traced.commit {e : ProtocolEvent} (hcommit : Commits id f e)
    (hrevealed : f.revealed = false) : Traced D id (tr ++ [e]) f where
  committed _ := ⟨tr, e, [], rfl, hcommit⟩
  opened h := absurd (hrevealed.symm.trans h) Bool.false_ne_true

/-- The last event opens the forecast. -/
theorem Traced.reveal {f' : ForecastCommitment} {e : ProtocolEvent} {salt : Bytes32}
    (h : Committed id tr f') (hcommit : ∀ e, Commits id f' e → Commits id f e)
    (hreveal : Reveals D id f salt e) : Traced D id (tr ++ [e]) f := by
  obtain ⟨tr₁, commit, tr₂, rfl, hcommits⟩ := h
  refine ⟨fun _ => ⟨tr₁, commit, tr₂ ++ [e], ?_, hcommit _ hcommits⟩,
    fun _ => ⟨tr₁, commit, tr₂, e, [], salt, ?_, hcommit _ hcommits, hreveal⟩⟩
  · rw [List.append_assoc, List.cons_append]
  · rw [List.append_assoc, List.cons_append]

/-- **The past of a forecast after a call of the market.** -/
theorem EpistemicMarket.Step.traced {m : Message} {w : World} {s : EpistemicMarket}
    {call : EpistemicMarket.Call} {e : ProtocolEvent}
    (h : EpistemicMarket.Step (w.context D m) w.claimRegistry w.agentRegistry
      w.replicationRegistry w.epistemicMarket call s)
    (hbefore : e.before = w) (hcall : marketCall e.action = some call)
    (htraced : ∀ id, Traced D id tr (w.epistemicMarket.forecasts id)) (id : ℕ) :
    Traced D id (tr ++ [e]) (s.forecasts id) := by
  have hset : ∀ (k : ℕ) (v : ForecastCommitment), Traced D k (tr ++ [e]) v →
      Traced D id (tr ++ [e]) (w.epistemicMarket.forecasts.set k v id) := by
    intro k v hv
    rw [Mapping.set_apply]
    split
    next hid => exact hid ▸ hv
    next => exact (htraced id).snoc e
  cases h with
  | fundRewardPool | openChallenge | withdrawChallenge | resolveChallenge | withdrawPayout
  | setDepositsPaused => exact (htraced id).snoc e
  | commitForecast => exact hset _ _ (Traced.commit ⟨hcall, hbefore ▸ rfl⟩ rfl)
  | @revealForecast forecastId direction confidenceBps salt logs _ hexists _ hrevealed htime _
      hopens =>
    refine hset _ _ (Traced.reveal ((htraced forecastId).committed hexists)
      (fun e' he' => ⟨he'.call, he'.fresh⟩) ⟨hcall, hopens, ?_, ?_⟩)
    · rw [hbefore]
      exact htime
    · rw [hbefore]
      exact hrevealed
  | @settleForecast forecastId d => exact hset _ _ (((htraced forecastId).settle d).snoc e)
  | @forfeitUnrevealedForecast forecastId | @reclaimForecast forecastId =>
    exact hset _ _ (((htraced forecastId).settle _).snoc e)

/-- The past of every forecast, at the end of every history. -/
theorem traced_of_run (h : (protocol D).Run tr c) (id : ℕ) :
    Traced D id tr (c.world.epistemicMarket.forecasts id) := by
  refine h.history (Q := fun tr w => ∀ id, Traced D id tr (w.epistemicMarket.forecasts id)) ?_ ?_ id
  · rintro _ ⟨now, hasRole, -, -, rfl⟩ id
    exact ⟨fun hexists => absurd rfl hexists, fun hrevealed => absurd hrevealed Bool.false_ne_true⟩
  · intro tr c a w' hrun htraced heffect id
    rcases (World.step_of_effect heffect).epistemicMarket_cases with
      ⟨-, heq⟩ | ⟨m, call, -, hcall, hmarket, -⟩ | ⟨p, -, heq⟩
    · rw [heq]
      exact (htraced id).snoc _
    · exact hmarket.traced rfl hcall htraced id
    · have hsame : w'.epistemicMarket.forecasts id = c.world.epistemicMarket.forecasts id := by
        rw [heq]
        rfl
      rw [hsame]
      exact (htraced id).snoc _

/-! ### Opened once -/

/-- The call opens a forecast. -/
def EpistemicMarket.Call.reveals (forecastId : ℕ) : EpistemicMarket.Call → Bool
  | .revealForecast id _ _ _ => decide (id = forecastId)
  | _ => false

/-- A record that says a prediction keeps all of it but its settlement. -/
def PredictionKept (f f' : ForecastCommitment) : Prop :=
  f.revealed = true →
    f' = { f with settled := f'.settled, resolutionDecisionId := f'.resolutionDecisionId }

theorem PredictionKept.refl (f : ForecastCommitment) : PredictionKept f f := fun _ => rfl

theorem PredictionKept.trans {f₁ f₂ f₃ : ForecastCommitment} (h₁₂ : PredictionKept f₁ f₂)
    (h₂₃ : PredictionKept f₂ f₃) : PredictionKept f₁ f₃ := by
  intro hrevealed
  have h₁ := h₁₂ hrevealed
  generalize f₂.settled = settled₂ at h₁
  generalize f₂.resolutionDecisionId = decision₂ at h₁
  subst h₁
  exact h₂₃ hrevealed

/-- **A call that opens a forecast is its first**, and no other shows a prediction or
changes one that is shown. -/
theorem EpistemicMarket.Step.reveals {ctx : Ctx} {claimRegistry : ClaimRegistry}
    {agentRegistry : AgentRegistry} {replicationRegistry : ReplicationRegistry}
    {self s : EpistemicMarket} {call : EpistemicMarket.Call}
    (h : EpistemicMarket.Step ctx claimRegistry agentRegistry replicationRegistry self call s)
    (hindexed : self.Indexed) (id : ℕ) :
    (!(self.forecasts id).revealed && (s.forecasts id).revealed) = call.reveals id ∧
      PredictionKept (self.forecasts id) (s.forecasts id) := by
  have hset : ∀ (k : ℕ) (v : ForecastCommitment),
      (k = id → (!(self.forecasts id).revealed && v.revealed) = call.reveals id ∧
        PredictionKept (self.forecasts id) v) → (k ≠ id → call.reveals id = false) →
      (!(self.forecasts id).revealed && (self.forecasts.set k v id).revealed) =
          call.reveals id ∧ PredictionKept (self.forecasts id) (self.forecasts.set k v id) := by
    intro k v hsame hother
    rw [Mapping.set_apply]
    split
    next hid => exact hsame hid.symm
    next hid =>
      rw [hother (Ne.symm hid), Bool.not_and_self]
      exact ⟨rfl, .refl _⟩
  cases h with
  | fundRewardPool | openChallenge | withdrawChallenge | resolveChallenge | withdrawPayout
  | setDepositsPaused => exact ⟨Bool.not_and_self _, .refl _⟩
  | commitForecast =>
    refine hset _ _ (fun hid => ⟨Bool.and_false _, fun hrevealed => ?_⟩) fun _ => rfl
    rw [← hid, hindexed.forecasts.blank_next] at hrevealed
    exact absurd hrevealed Bool.false_ne_true
  | revealForecast _ _ _ hrevealed =>
    refine hset _ _ (fun hid => ?_) decide_eq_false
    subst hid
    rw [hrevealed]
    exact ⟨(decide_eq_true rfl).symm, fun h => absurd (hrevealed.symm.trans h) Bool.false_ne_true⟩
  | settleForecast | forfeitUnrevealedForecast | reclaimForecast =>
    refine hset _ _ (fun hid => ?_) fun _ => rfl
    subst hid
    exact ⟨Bool.not_and_self _, fun _ => rfl⟩

/-- The step opens the forecast. -/
def revealsForecast (id : ℕ) (e : ProtocolEvent) : Bool :=
  (marketCall e.action).any (·.reveals id)

/-- The forecast has been opened. -/
def forecastRevealed (id : ℕ) (w : World) : Bool := (w.epistemicMarket.forecasts id).revealed

theorem World.Step.reveals {a : Action Message Suspended} {w w' : World}
    (h : World.Step D a w w') (hindexed : w.epistemicMarket.Indexed) (id : ℕ) :
    (⟨w, a, w'⟩ : ProtocolEvent).raises (forecastRevealed id) =
        revealsForecast id ⟨w, a, w'⟩ ∧
      PredictionKept (w.epistemicMarket.forecasts id) (w'.epistemicMarket.forecasts id) := by
  rw [Event.raises, forecastRevealed, forecastRevealed, revealsForecast]
  rcases h.epistemicMarket_cases with ⟨hnone, heq⟩ | ⟨m, call, -, hsome, hcall, -⟩ | ⟨p, rfl, rfl⟩
  · rw [heq, hnone]
    exact ⟨Bool.not_and_self _, .refl _⟩
  · rw [hsome]
    exact hcall.reveals hindexed id
  · exact ⟨Bool.not_and_self _, .refl _⟩

theorem predictionKept_of_run (h : (protocol D).Run tr c) (id : ℕ) : ∀ e ∈ tr,
    PredictionKept (e.before.epistemicMarket.forecasts id)
        (c.world.epistemicMarket.forecasts id) ∧
      PredictionKept (e.after.epistemicMarket.forecasts id)
        (c.world.epistemicMarket.forecasts id) :=
  h.event_relation (R := fun w w' => PredictionKept (w.epistemicMarket.forecasts id)
      (w'.epistemicMarket.forecasts id)) (fun _ => .refl _) PredictionKept.trans
    fun hrun heffect => ((World.step_of_effect heffect).reveals
      (EpistemicMarket.indexed_of_reachable hrun.reachable) id).2

theorem latched_forecastRevealed (id : ℕ) : (protocol D).Latched (forecastRevealed id) := by
  refine ⟨?_, fun {tr c a w'} hrun heffect hrevealed => ?_⟩
  · rintro _ ⟨now, hasRole, -, -, rfl⟩
    rfl
  · have hkept := ((World.step_of_effect heffect).reveals
      (EpistemicMarket.indexed_of_reachable hrun.reachable) id).2 hrevealed
    exact (congrArg ForecastCommitment.revealed hkept).trans hrevealed

/-- **A forecast is opened at most once**, and exactly once if it is revealed. -/
theorem countP_revealsForecast (h : (protocol D).Run tr c) (id : ℕ) :
    tr.countP (revealsForecast id) =
      if (c.world.epistemicMarket.forecasts id).revealed then 1 else 0 := by
  refine Eq.trans (List.countP_congr fun e he => ?_)
    (h.countP_raises (latched_forecastRevealed id))
  obtain ⟨hstep, hindexed, -⟩ := step_of_run h he
  rw [(hstep.reveals hindexed id).1]

/-! ### What is paid for -/

/-- **A prediction that is fixed.** -/
structure PredictionFixed (D : Deployment) (id : ℕ) (tr : List ProtocolEvent) (w : World) :
    Prop where
  /-- What is revealed was committed before, and opened once and in time. -/
  opened : (w.epistemicMarket.forecasts id).revealed = true →
    Opened D id tr (w.epistemicMarket.forecasts id)
  /-- It is opened by no other step, and its record says that prediction ever after. -/
  once : tr.countP (revealsForecast id) =
      (if (w.epistemicMarket.forecasts id).revealed then 1 else 0) ∧
    ∀ e ∈ tr, PredictionKept (e.after.epistemicMarket.forecasts id)
      (w.epistemicMarket.forecasts id)
  /-- Whatever else opens the hash is the same prediction, or collides with it. -/
  binding : (w.epistemicMarket.forecasts id).revealed = true →
    ∃ salt, ∀ direction confidenceBps salt',
      commitmentOf D direction confidenceBps salt' =
        (w.epistemicMarket.forecasts id).commitmentHash →
      (direction = (w.epistemicMarket.forecasts id).direction ∧
          confidenceBps = (w.epistemicMarket.forecasts id).confidenceBps ∧ salt' = salt) ∨
        (predictionBytes direction confidenceBps salt' ≠
            predictionBytes (w.epistemicMarket.forecasts id).direction
              (w.epistemicMarket.forecasts id).confidenceBps salt ∧
          D.keccak256 (predictionBytes direction confidenceBps salt') =
            D.keccak256 (predictionBytes (w.epistemicMarket.forecasts id).direction
              (w.epistemicMarket.forecasts id).confidenceBps salt))
  /-- What a decision pays for was opened, and to a prediction of that decision. -/
  paid : ∀ d ≠ 0, (w.epistemicMarket.forecasts id).settled = true →
    (w.epistemicMarket.forecasts id).resolutionDecisionId = d → 0 < forecastCredits id tr →
    (w.epistemicMarket.forecasts id).revealed = true ∧
      forecastMatches (w.epistemicMarket.forecasts id).direction
        (w.claimRegistry.decisions d).status = true

/-- **Predictions are fixed when they are committed**, in every history of the protocol. -/
theorem prediction_fixed (h : (protocol D).Run tr c) (id : ℕ) :
    PredictionFixed D id tr c.world where
  opened := (traced_of_run h id).opened
  once := ⟨countP_revealsForecast h id, fun e he => (predictionKept_of_run h id e he).2⟩
  binding hrevealed := by
    obtain ⟨_, _, _, _, _, salt, -, -, hreveal⟩ := (traced_of_run h id).opened hrevealed
    exact ⟨salt, fun _ _ _ hopens => eq_or_collides (hopens.trans hreveal.opens.symm)⟩
  paid d hd hsettled hdecision hpaid := by
    obtain ⟨e, he, -, call, -, hsettlement, hstaked, hunsettled, hexists⟩ :=
      exists_settlement h hsettled
    have hunnamed := hstaked.unnamed hunsettled
    have hstake := hstaked.stake_pos hexists
    have hextends := (historyExtends_of_run h e he).1
    generalize c.world.epistemicMarket.forecasts id = f at hsettlement hdecision
    generalize forecastCredits id tr = credits at hsettlement hpaid
    cases hsettlement with
    | decided _ _ hdecided =>
      obtain rfl := hdecision
      rw [hextends.decision _ hdecided]
      exact (settlementOf_pos_iff _ hstake).mp hpaid
    | forfeited => exact absurd (hdecision.symm.trans hunnamed) hd
    | reclaimed => exact absurd (hdecision.symm.trans hunnamed) hd

/-- In the history of the re-entrant withdrawal, forecast 1 is opened and paid for. -/
theorem prediction_fixed_reentrantWithdrawal :
    Opened devnet 1
      ((playDevnet reentrantWithdrawal).get playDevnet_reentrantWithdrawal).1
      (((playDevnet reentrantWithdrawal).get
        playDevnet_reentrantWithdrawal).2.world.epistemicMarket.forecasts 1) :=
  (prediction_fixed (run_playDevnet playDevnet_reentrantWithdrawal) 1).opened (by decide)

end

end ScientificProtocol
