/-
Operators that are insolvent.

Whether an operator is insolvent is checked when it bids, but not when a tender is closed, when a
mobilisation is completed or when a start package is granted.

* `gainsNothing_of_run`: what every run of such commands keeps.
-/
import Zugfolge.Economy.Runs

namespace Zugfolge.Economy

open Foundation

/-! ### What an operator has -/

/-- The bids of an operator for a tender. -/
def EconomyWorldState.bidsOf (state : EconomyWorldState) (tenderId operatorId : String) :
    List Bid :=
  (state.tenders.get? tenderId).elim [] fun current =>
    current.bids.filter fun bid => bid.operatorId == operatorId

/-- The bid with which an operator has won a tender. -/
def EconomyWorldState.winOf (state : EconomyWorldState) (tenderId operatorId : String) :
    Option Bid :=
  ((state.tenders.get? tenderId).bind fun current => current.phase.winningBid).filter fun bid =>
    bid.operatorId == operatorId

/-- The operator has no contract in the later state, and neither a bid nor a won tender that it did
not have before. -/
structure GainsNothing (operatorId : String) (state next : EconomyWorldState) : Prop where
  contracts : ∀ id contract, next.contracts.get? id = some contract →
    contract.operatorId ≠ operatorId
  bids : ∀ tenderId, next.bidsOf tenderId operatorId = state.bidsOf tenderId operatorId
  wins : ∀ tenderId, next.winOf tenderId operatorId = state.winOf tenderId operatorId

/-- The command gives nothing to an insolvent operator: neither the tender of the best valid bid,
nor the lot of a mobilisation, nor a start package. -/
def sparesInsolvent (state : EconomyWorldState) : EconomyCommand → Bool
  | .closeTender input =>
    (state.tenders.get? input.tenderId).all fun current =>
      (awardTender current.tender current.bids input.time).toOption.all fun award =>
        award.winner.all fun winner => !state.insolventOperators.contains winner.operatorId
  | .completeMobilization input =>
    input.operatingTransition.outcome.operatorId == "public"
      || !state.insolventOperators.contains input.operatingTransition.outcome.operatorId
  | .grantEmergencyStartPackage input => !state.insolventOperators.contains input.operatorId
  | _ => true

/-- The command was applied before, or it gives nothing to an insolvent operator. -/
def avoidsInsolvent : EconomyWorldState → EconomyCommand → Bool := whenNew sparesInsolvent

/-! ### One change -/

section Change

variable {state next : EconomyWorldState} {command : EconomyCommand} {effects : EconomyEffects}
  {operatorId : String}

/-- The operators that are insolvent have no contract. -/
def EconomyWorldState.insolventIdle (state : EconomyWorldState) : Prop :=
  ∀ operatorId ∈ state.insolventOperators, ∀ id contract,
    state.contracts.get? id = some contract → contract.operatorId ≠ operatorId

/-- A contract for an operator that is not insolvent leaves the insolvent ones without. -/
lemma EconomyWorldState.insolventIdle.set (h : state.insolventIdle) {id : String}
    {contract : ServiceContract}
    (hsolvent : state.insolventOperators.contains contract.operatorId = false) :
    ∀ operatorId ∈ state.insolventOperators, ∀ other found,
      (state.contracts.set id contract).get? other = some found →
        found.operatorId ≠ operatorId := by
  intro operatorId hoperator other found hfound
  rw [EntryMap.get?_set] at hfound
  split at hfound
  · cases hfound
    rintro rfl
    rw [List.contains_iff_mem.mpr hoperator] at hsolvent
    cases hsolvent
  · exact h operatorId hoperator other found hfound

/-- The contracts that are left after an escalation; an operator whose lots are taken over has
none. -/
lemma contracts_withDecision {input : Escalation} {id : String} {contract : ServiceContract}
    (h : (withDecision state input (evaluateInsolvency input.signals)).contracts.get? id
      = some contract) :
    state.contracts.get? id = some contract ∧
      ((evaluateInsolvency input.signals).publicOperatorTakesOver = true →
        contract.operatorId ≠ input.operatorId) := by
  have hcontracts : (withDecision state input (evaluateInsolvency input.signals)).contracts
      = (withConsequence state input (evaluateInsolvency input.signals)).contracts := by
    unfold withDecision
    split <;> rfl
  rw [hcontracts, withConsequence] at h
  split at h
  · obtain ⟨hfound, hother⟩ := EntryMap.get?_foldl_delete h
    refine ⟨hfound, fun _ hoperator => ?_⟩
    exact hother (id, contract) (List.mem_filter.mpr
      ⟨EntryMap.get?_eq_some_iff.mp hfound, beq_iff_eq.mpr hoperator⟩) rfl
  · rename_i hnot
    exact ⟨h, fun htakes => absurd htakes hnot⟩

lemma insolvent_withDecision {input : Escalation} :
    (withDecision state input (evaluateInsolvency input.signals)).insolventOperators =
      if (evaluateInsolvency input.signals).stage == 5 then
        state.insolventOperators.insert input.operatorId
      else state.insolventOperators := by
  have hsame : (withConsequence state input
      (evaluateInsolvency input.signals)).insolventOperators = state.insolventOperators := by
    unfold withConsequence
    split <;> rfl
  unfold withDecision
  split
  · exact congrArg (List.insert input.operatorId) hsame
  · exact hsame

/-- Every change leaves insolvent operators without contracts if the command does. -/
lemma Change.insolventIdle {now : Int} (hstate : state.insolventIdle)
    (hgiven : Given avoidsInsolvent now state command) (h : Change state command next effects) :
    next.insolventIdle := by
  cases h with
  | announced | opened | bid | unwon | won | startedPublic | referenced | failedMobilization =>
    exact hstate
  | takenOver input current winningBid mobilization hnew hcurrent hwinner hmobilization htime
      hoperator hprivate =>
    rcases hgiven with ⟨havoids, -⟩ | hgives
    · have hspares := of_whenNew havoids rfl hnew
      rw [sparesInsolvent, beq_eq_false_iff_ne.mpr hprivate, Bool.false_or,
        Bool.not_eq_true'] at hspares
      exact hstate.set hspares
    · cases hgives
  | granted input hnew =>
    rcases hgiven with ⟨havoids, -⟩ | hgives
    · have hspares := of_whenNew havoids rfl hnew
      rw [sparesInsolvent, Bool.not_eq_true'] at hspares
      exact hstate.set hspares
    · cases hgives
  | settled => exact hstate
  | escalated input hnew =>
    intro operatorId hoperator id contract hfound
    obtain ⟨hfound, hlost⟩ := contracts_withDecision hfound
    change operatorId ∈ (withDecision state input
      (evaluateInsolvency input.signals)).insolventOperators at hoperator
    rw [insolvent_withDecision] at hoperator
    split at hoperator
    · rename_i hstage
      rcases List.mem_insert_iff.mp hoperator with rfl | hoperator
      · exact hlost (takesOver_of_stage (beq_iff_eq.mp hstage))
      · exact hstate operatorId hoperator id contract hfound
    · exact hstate operatorId hoperator id contract hfound
  | budgeted =>
    unfold withBudget
    split
    · exact hstate
    · exact hstate
  | seeded => exact hstate
  | closed =>
    intro operatorId _ id contract hfound
    cases hfound

/-- What an operator has bid and won is the same in another state. -/
def SameBids (operatorId : String) (state next : EconomyWorldState) : Prop :=
  ∀ tenderId, next.bidsOf tenderId operatorId = state.bidsOf tenderId operatorId ∧
    next.winOf tenderId operatorId = state.winOf tenderId operatorId

lemma SameBids.of_eq (h : next.tenders = state.tenders) : SameBids operatorId state next := by
  intro tenderId
  unfold EconomyWorldState.bidsOf EconomyWorldState.winOf
  rw [h]
  exact ⟨rfl, rfl⟩

/-- The bids of an operator are the same if those for a tender that was changed are. -/
lemma SameBids.of_set {tenderId : String} {current : TenderLifecycle}
    (h : next.tenders = state.tenders.set tenderId current)
    (hbids : current.bids.filter (fun bid => bid.operatorId == operatorId)
      = state.bidsOf tenderId operatorId)
    (hwin : current.phase.winningBid.filter (fun bid => bid.operatorId == operatorId)
      = state.winOf tenderId operatorId) : SameBids operatorId state next := by
  intro other
  unfold EconomyWorldState.bidsOf EconomyWorldState.winOf
  rw [h, EntryMap.get?_set]
  split
  · rename_i heq
    rw [heq]
    exact ⟨hbids, hwin⟩
  · exact ⟨rfl, rfl⟩

lemma SameBids.of_phase {tenderId : String} {current : TenderLifecycle} {phase : TenderPhase}
    (hcurrent : state.tenders.get? tenderId = some current)
    (h : next.tenders = state.tenders.set tenderId { current with phase := phase })
    (hphase : phase.winningBid = none) (hbefore : current.phase.winningBid = none) :
    SameBids operatorId state next := by
  refine .of_set h ?_ ?_
  · rw [EconomyWorldState.bidsOf, hcurrent]
    rfl
  · rw [EconomyWorldState.winOf, hcurrent, Option.bind_some, hbefore]
    exact congrArg _ hphase

lemma winningBid_of_waiting {phase : TenderPhase} {operation : PublicOperation}
    (h : phase.waitingOperation = some operation) : phase.winningBid = none := by
  cases phase with
  | announced => rfl
  | opened => rfl
  | awarded winningBid => cases h
  | failed => rfl

/-- No change gives a bid or a tender to an insolvent operator if the command does not. -/
lemma Change.sameBids {now : Int} (hinsolvent : operatorId ∈ state.insolventOperators)
    (hgiven : Given avoidsInsolvent now state command) (h : Change state command next effects) :
    SameBids operatorId state next := by
  cases h with
  | announced input profile tender hnew hworld hfresh hprofile htender =>
    rw [← id_of_createTender htender] at hfresh
    refine .of_set rfl ?_ ?_
    · rw [EconomyWorldState.bidsOf, hfresh]
      rfl
    · rw [EconomyWorldState.winOf, hfresh]
      rfl
  | opened commandId tenderId time current hnew hcurrent hphase =>
    exact .of_phase hcurrent rfl rfl (by rw [hphase]; rfl)
  | bid commandId tenderId bid qualification current hnew hcurrent hphase hsolvent =>
    refine .of_set rfl ?_ ?_
    · have hother : (bid.operatorId == operatorId) = false :=
        beq_eq_false_iff_ne.mpr fun heq => hsolvent (heq ▸ hinsolvent)
      rw [EconomyWorldState.bidsOf, hcurrent, List.filter_append,
        List.filter_cons_of_neg (by simp [hother]), List.filter_nil, List.append_nil]
      rfl
    · rw [EconomyWorldState.winOf, hcurrent]
      rfl
  | unwon input current budget hnew hcurrent hphase =>
    exact .of_phase hcurrent rfl rfl (by rw [hphase]; rfl)
  | won input current award winner budget hnew hcurrent hphase haward hwinner =>
    rcases hgiven with ⟨havoids, -⟩ | hgives
    · have hspares := of_whenNew havoids rfl hnew
      rw [sparesInsolvent, hcurrent, Option.all_some, haward] at hspares
      simp only [Except.toOption, Option.all_some, hwinner, Bool.not_eq_true'] at hspares
      refine .of_set rfl ?_ ?_
      · rw [EconomyWorldState.bidsOf, hcurrent]
        rfl
      · have hother : winner.operatorId ≠ operatorId := by
          rintro rfl
          rw [List.contains_iff_mem.mpr hinsolvent] at hspares
          cases hspares
        rw [EconomyWorldState.winOf, hcurrent, Option.bind_some, hphase]
        simp [TenderPhase.winningBid, hother]
    · cases hgives
  | startedPublic input current operation hnew hcurrent hwaiting =>
    exact .of_phase hcurrent rfl rfl (winningBid_of_waiting hwaiting)
  | referenced | failedMobilization | takenOver | granted | settled => exact .of_eq rfl
  | escalated => exact .of_eq sameTenders_withDecision.1
  | budgeted =>
    unfold withBudget
    split <;> exact .of_eq rfl
  | seeded => exact .of_eq rfl
  | closed => exact .of_eq rfl

/-- Who is insolvent stays so. -/
lemma Change.insolvent (hinsolvent : operatorId ∈ state.insolventOperators)
    (h : Change state command next effects) : operatorId ∈ next.insolventOperators := by
  cases h with
  | escalated input hnew =>
    change operatorId ∈ (withDecision state input
      (evaluateInsolvency input.signals)).insolventOperators
    rw [insolvent_withDecision]
    split
    · exact List.mem_insert_of_mem hinsolvent
    · exact hinsolvent
  | budgeted =>
    unfold withBudget
    split <;> exact hinsolvent
  | unwon => exact hinsolvent
  | _ => exact hinsolvent

end Change

/-! ### Runs -/

variable {input : EconomyWorldStart} {first state next : EconomyWorldState} {begun : EconomyEffects}
  {history later : List AppliedCommand} {time now : Int} {operatorId : String}

/-- **An operator that is insolvent never again gains a bid, a tender or a contract in a run whose
commands give nothing to insolvent operators.** -/
theorem gainsNothing_of_run (hstart : startEconomyWorld input = .ok (first, begun))
    (hrun : Run first 0 history state time) (hallowed : AllAllowed avoidsInsolvent history)
    (hinsolvent : operatorId ∈ state.insolventOperators) (hlater : Run state time later next now)
    (hallowed' : AllAllowed avoidsInsolvent later) :
    operatorId ∈ next.insolventOperators ∧ GainsNothing operatorId state next := by
  have hidle : state.insolventIdle :=
    hrun.invariant_of_start (I := fun state _ => state.insolventIdle) hstart
      (fun _ _ operatorId hnone => by cases hnone) (fun _ _ _ h => h) (fun _ _ _ _ h => h)
      (fun _ _ _ _ _ h hgiven hchange => hchange.insolventIdle h hgiven) hallowed
  have hkept : next.insolventIdle ∧ operatorId ∈ next.insolventOperators ∧
      SameBids operatorId state next := by
    refine hlater.invariant (I := fun next _ => next.insolventIdle ∧
      operatorId ∈ next.insolventOperators ∧ SameBids operatorId state next)
      (fun _ _ _ _ h => h) ?_ ⟨hidle, hinsolvent, .of_eq rfl⟩ hallowed'
    rintro before command after effects now ⟨hidle, hin, hsame⟩ hgiven hchange
    refine ⟨hchange.insolventIdle hidle hgiven, hchange.insolvent hin, fun tenderId => ?_⟩
    obtain ⟨hbids, hwins⟩ := hchange.sameBids hin hgiven tenderId
    exact ⟨hbids.trans (hsame tenderId).1, hwins.trans (hsame tenderId).2⟩
  obtain ⟨hidle', hin, hsame⟩ := hkept
  exact ⟨hin, fun id contract hfound => hidle' operatorId hin id contract hfound,
    fun tenderId => (hsame tenderId).1, fun tenderId => (hsame tenderId).2⟩

/-- An operator bids for a tender and then cannot pay. -/
def bidBeforeInsolvency : List EconomyCommand :=
  [.announceTender (smallAnnouncement "public"), .openTender "open-1" "tender-1" 100,
   smallSubmission "operator-b", .escalateOperator (smallEscalation "operator-b" 300)]

/-- A tender goes to an operator that is insolvent. -/
theorem gainsNothing_fails : ¬ ∀ (input : EconomyWorldStart) (first : EconomyWorldState)
    (begun : EconomyEffects) (history : List AppliedCommand) (state : EconomyWorldState)
    (time : Int) (later : List AppliedCommand) (next : EconomyWorldState) (now : Int)
    (operatorId : String), startEconomyWorld input = .ok (first, begun) →
      Run first 0 history state time → Run state time later next now →
        operatorId ∈ state.insolventOperators → GainsNothing operatorId state next := by
  intro hclaim
  have hplayed : (playSmallWorld (fun _ _ => true) bidBeforeInsolvency).toOption.any
      (fun result => result.1.insolventOperators.contains "operator-b"
        && (result.1.winOf "tender-1" "operator-b").isNone
        && (play (fun _ _ => true) [.closeTender smallClosing] result.1 result.2).toOption.any
          fun next => (next.1.winOf "tender-1" "operator-b").isSome) = true := by
    decide +kernel
  obtain ⟨first, begun, history, state, time, hstart, hrun, -, hcheck⟩ :=
    run_of_playSmallWorld hplayed
  simp only [Bool.and_eq_true, List.contains_iff_mem, Option.isNone_iff_eq_none] at hcheck
  obtain ⟨⟨hinsolvent, hnone⟩, hcheck⟩ := hcheck
  obtain ⟨⟨next, now⟩, later, hlater, -, hwon⟩ := run_of_play_any hcheck
  have hsame := (hclaim _ _ _ _ _ _ _ _ _ _ hstart hrun hlater hinsolvent).wins "tender-1"
  rw [hnone] at hsame
  rw [hsame] at hwon
  cases hwon

/-- The tender goes to another operator. -/
theorem gainsNothing_of_run_escalated : ∃ (first : EconomyWorldState) (begun : EconomyEffects)
    (history : List AppliedCommand) (state : EconomyWorldState) (time : Int)
    (later : List AppliedCommand) (next : EconomyWorldState) (now : Int),
    startEconomyWorld smallWorld = .ok (first, begun) ∧ Run first 0 history state time ∧
      Run state time later next now ∧ next.contracts.keys = ["tender-1"] ∧
      GainsNothing "operator-a" state next := by
  have hplayed : (playSmallWorld avoidsInsolvent
      [.announceTender (smallAnnouncement "public"), .openTender "open-1" "tender-1" 100,
       .escalateOperator (smallEscalation "operator-a" 100)]).toOption.any
      (fun result => result.1.insolventOperators.contains "operator-a"
        && (play avoidsInsolvent [smallSubmission "operator-b", .closeTender smallClosing,
          .completeMobilization (smallCompletion "public" "operator-b" 1)]
          result.1 result.2).toOption.any
            fun next => next.1.contracts.keys == ["tender-1"]) = true := by
    decide +kernel
  obtain ⟨first, begun, history, state, time, hstart, hrun, hallowed, hcheck⟩ :=
    run_of_playSmallWorld hplayed
  simp only [Bool.and_eq_true, List.contains_iff_mem] at hcheck
  obtain ⟨hinsolvent, hcheck⟩ := hcheck
  obtain ⟨⟨next, now⟩, later, hlater, hallowed', hkeys⟩ := run_of_play_any hcheck
  exact ⟨first, begun, history, state, time, later, next, now, hstart, hrun, hlater,
    beq_iff_eq.mp hkeys,
    (gainsNothing_of_run hstart hrun hallowed hinsolvent hlater hallowed').2⟩

end Zugfolge.Economy
