/-
What the commands of the economy change.

* for every command: if it ends well it repeats an earlier one or makes such a change.
-/
import Zugfolge.Economy.Generator

namespace Zugfolge.Economy

open Foundation

/-! ### Commands -/

inductive EconomyCommand where
  | announceTender (input : TenderAnnouncement)
  | openTender (commandId tenderId : String) (time : Int)
  | submitBid (commandId tenderId : String) (bid : Bid) (qualification : BidQualification)
  | closeTender (input : TenderClosing)
  | startFailedTenderPublicOperation (input : FailedTenderStart)
  | submitMobilizationReference (input : MobilizationSubmission)
  | completeMobilization (input : MobilizationCompletion)
  | grantEmergencyStartPackage (input : StartPackage)
  | settleContractPeriod (input : Settlement)
  | escalateOperator (input : Escalation)
  | generateDueTenders (time : Int)
  | seedEconomyAccount (commandId accountId : String)
  | closeEconomyWorld (commandId : String)

namespace EconomyCommand

/-- Applies a command. -/
def apply (state : EconomyWorldState) : EconomyCommand →
    Outcome (EconomyWorldState × EconomyEffects)
  | .announceTender input => Economy.announceTender state input
  | .openTender commandId tenderId time => Economy.openTender state commandId tenderId time
  | .submitBid commandId tenderId bid qualification =>
    Economy.submitBid state commandId tenderId bid qualification
  | .closeTender input => Economy.closeTender state input
  | .startFailedTenderPublicOperation input =>
    Economy.startFailedTenderPublicOperation state input
  | .submitMobilizationReference input => Economy.submitMobilizationReference state input
  | .completeMobilization input => Economy.completeMobilization state input
  | .grantEmergencyStartPackage input => Economy.grantEmergencyStartPackage state input
  | .settleContractPeriod input => (Economy.settleContractPeriod state input).map Prod.fst
  | .escalateOperator input => (Economy.escalateOperator state input).map Prod.fst
  | .generateDueTenders time => (Economy.generateDueTenders state time).map fun generated =>
    (generated.state, { EconomyEffects.none with notices := generated.notices })
  | .seedEconomyAccount commandId accountId =>
    Economy.seedEconomyAccount state commandId accountId
  | .closeEconomyWorld commandId => Economy.closeEconomyWorld state commandId

/-- The name by which a command is applied once; the generator names its commands itself. -/
def commandId : EconomyCommand → Option String
  | .announceTender input => some input.commandId
  | .openTender commandId _ _ => some commandId
  | .submitBid commandId _ _ _ => some commandId
  | .closeTender input => some input.commandId
  | .startFailedTenderPublicOperation input => some input.commandId
  | .submitMobilizationReference input => some input.commandId
  | .completeMobilization input => some input.commandId
  | .grantEmergencyStartPackage input => some input.commandId
  | .settleContractPeriod input => some input.commandId
  | .escalateOperator input => some input.commandId
  | .generateDueTenders _ => none
  | .seedEconomyAccount commandId _ => some commandId
  | .closeEconomyWorld commandId => some commandId

/-- The time of a command, if it has one. -/
def time : EconomyCommand → Option Int
  | .announceTender _ => none
  | .openTender _ _ time => some time
  | .submitBid _ _ _ _ => none
  | .closeTender input => some input.time
  | .startFailedTenderPublicOperation input => some input.time
  | .submitMobilizationReference input => some input.time
  | .completeMobilization input => some input.time
  | .grantEmergencyStartPackage input => some input.time
  | .settleContractPeriod input => some input.time
  | .escalateOperator input => some input.time
  | .generateDueTenders time => some time
  | .seedEconomyAccount _ _ => none
  | .closeEconomyWorld _ => none

end EconomyCommand

/-! ### Changes -/

/-- What a command has found and written.  The generator opens budgets besides the commands that it
gives. -/
inductive Change (state : EconomyWorldState) :
    EconomyCommand → EconomyWorldState → EconomyEffects → Prop
  | announced (input : TenderAnnouncement) (profile : TenderProfile) (tender : Tender)
      (hnew : state.accepts input.commandId = true)
      (hworld : input.tender.worldId = state.worldId)
      (hfresh : state.tenders.get? input.tender.id = none)
      (hprofile : profileOf state input = .ok profile)
      (htender : createTender input.tender profile input.release = .ok tender) :
      Change state (.announceTender input)
        (withCommand (withAnnouncement state tender input.automation) input.commandId)
        { EconomyEffects.none with
          notices := input.recipients.map (announcementNotice state input.commandId tender) }
  | opened (commandId tenderId : String) (time : Int) (current : TenderLifecycle)
      (hnew : state.accepts commandId = true)
      (hcurrent : state.tenders.get? tenderId = some current)
      (hphase : current.phase = .announced) :
      Change state (.openTender commandId tenderId time)
        (withCommand
          { state with tenders := state.tenders.set tenderId { current with phase := .opened } }
          commandId) .none
  | bid (commandId tenderId : String) (bid : Bid) (qualification : BidQualification)
      (current : TenderLifecycle) (hnew : state.accepts commandId = true)
      (hcurrent : state.tenders.get? tenderId = some current)
      (hphase : current.phase = .opened)
      (hsolvent : bid.operatorId ∉ state.insolventOperators) :
      Change state (.submitBid commandId tenderId bid qualification)
        (withCommand (withBid state tenderId current bid qualification.accountId) commandId) .none
  | unwon (input : TenderClosing) (current : TenderLifecycle) (budget : AuthorityBudget)
      (hnew : state.accepts input.commandId = true)
      (hcurrent : state.tenders.get? input.tenderId = some current)
      (hphase : current.phase = .opened)
      (hbudget : state.budgets.get? input.budgetKey = some budget)
      (htakes : budget.takes (publicCost state current.tender) = true) :
      Change state (.closeTender input)
        (withCommand (withFailure state input current
          { budget with
            committedCents := budget.committedCents + publicCost state current.tender })
          input.commandId) .none
  | won (input : TenderClosing) (current : TenderLifecycle) (award : Award) (winner : Bid)
      (budget : AuthorityBudget) (hnew : state.accepts input.commandId = true)
      (hcurrent : state.tenders.get? input.tenderId = some current)
      (hphase : current.phase = .opened)
      (haward : awardTender current.tender current.bids input.time = .ok award)
      (hwinner : award.winner = some winner)
      (hbudget : state.budgets.get? input.budgetKey = some budget)
      (htakes : budget.takes (expectedCost current.tender winner) = true) :
      Change state (.closeTender input)
        (withCommand (withAward state input current winner
          { budget with
            committedCents := budget.committedCents + expectedCost current.tender winner })
          input.commandId)
        { EconomyEffects.none with
          notices := ((input.recipientByOperator.get? winner.operatorId).map
            (awardNotice state input current)).toList }
  | startedPublic (input : FailedTenderStart) (current : TenderLifecycle)
      (operation : PublicOperation) (hnew : state.accepts input.commandId = true)
      (hcurrent : state.tenders.get? input.tenderId = some current)
      (hwaiting : current.phase.waitingOperation = some operation) :
      Change state (.startFailedTenderPublicOperation input)
        (withCommand (withPublicOperation state input current operation) input.commandId)
        { EconomyEffects.none with runtimeEvents := input.operatingTransition.events }
  | referenced (input : MobilizationSubmission) (mobilization : Mobilization)
      (hnew : state.accepts input.commandId = true)
      (hmobilization : state.mobilizations.get? input.tenderId = some mobilization) :
      Change state (.submitMobilizationReference input)
        (withCommand (withReference state input mobilization) input.commandId) .none
  | failedMobilization (input : MobilizationCompletion) (current : TenderLifecycle)
      (winningBid : Bid) (mobilization : Mobilization)
      (hnew : state.accepts input.commandId = true)
      (hcurrent : state.tenders.get? input.tenderId = some current)
      (hwinner : current.phase.winningBid = some winningBid)
      (hmobilization : state.mobilizations.get? input.tenderId = some mobilization)
      (hpublic : input.operatingTransition.outcome.operatorId = "public") :
      Change state (.completeMobilization input)
        (withCommand
          { withCompletion state input current.tender.lotId mobilization with
            publicOperations := state.publicOperations.set current.tender.lotId
              (startPublicOperation current.tender.lotId input.publicVehiclePool)
            prequalifications :=
              withFailedAccount state.prequalifications input.recipientAccountId }
          input.commandId)
        { notices := [failureNotice state input]
          journal := [failurePenalty state input current.tender winningBid]
          runtimeEvents := input.operatingTransition.events }
  | takenOver (input : MobilizationCompletion) (current : TenderLifecycle) (winningBid : Bid)
      (mobilization : Mobilization) (hnew : state.accepts input.commandId = true)
      (hcurrent : state.tenders.get? input.tenderId = some current)
      (hwinner : current.phase.winningBid = some winningBid)
      (hmobilization : state.mobilizations.get? input.tenderId = some mobilization)
      (htime : input.time = current.tender.operatingFrom)
      (hoperator : input.operatingTransition.outcome.operatorId = winningBid.operatorId)
      (hprivate : input.operatingTransition.outcome.operatorId ≠ "public") :
      Change state (.completeMobilization input)
        (withCommand
          { withCompletion state input current.tender.lotId mobilization with
            publicOperations := state.publicOperations.delete current.tender.lotId
            contracts := state.contracts.set input.tenderId
              (contractOf state input current.tender winningBid mobilization) }
          input.commandId)
        { EconomyEffects.none with runtimeEvents := input.operatingTransition.events }
  | granted (input : StartPackage) (hnew : state.accepts input.commandId = true)
      (htime : 0 ≤ input.time ∧ input.time < input.expires)
      (hpublic : state.publicOperations.has input.lotId = true)
      (hfresh : state.contracts.get? input.contractId = none) :
      Change state (.grantEmergencyStartPackage input)
        (withCommand (withStartPackage state input) input.commandId)
        { EconomyEffects.none with
          notices := [grantNotice state input]
          runtimeEvents := input.operatingTransition.events }
  | settled (input : Settlement) (contract : ServiceContract) (current : TenderLifecycle)
      (entry : EconomyJournalEntry) (hnew : state.accepts input.commandId = true)
      (hperiod : 0 ≤ input.period) (hfresh : input.key ∉ state.settledPeriods)
      (hcontract : state.contracts.get? input.contractId = some contract)
      (hcurrent : state.tenders.get? input.contractId = some current)
      (hkm : input.performance.trainKm ≤ current.tender.specification.trainKmPerPeriod)
      (hentry : entry.idempotencyKey = input.commandId ++ ":settlement") :
      Change state (.settleContractPeriod input)
        (withCommand (withSettlement state input) input.commandId)
        { EconomyEffects.none with journal := [entry] }
  | escalated (input : Escalation) (hnew : state.accepts input.commandId = true) :
      Change state (.escalateOperator input)
        (withCommand (withDecision state input (evaluateInsolvency input.signals))
          input.commandId)
        { EconomyEffects.none with
          notices := (evaluateInsolvency input.signals).messages.map
            (escalationNotice state input) }
  | budgeted (time : Int) (policy : TenderGenerationPolicy) (period : Int)
      (hpolicy : 0 ≤ policy.authorityBudgetCentsPerPeriod) :
      Change state (.generateDueTenders time) (withBudget state policy period) .none
  | seeded (commandId accountId : String) (hnew : state.accepts commandId = true) :
      Change state (.seedEconomyAccount commandId accountId)
        (withCommand { state with prequalifications := withAccount state accountId } commandId)
        .none
  | closed (commandId : String) (hnew : state.accepts commandId = true) :
      Change state (.closeEconomyWorld commandId) (withCommand (closedWorld state) commandId) .none

/-! ### What commands change -/

/-- The command was applied before, and nothing happens. -/
def Repeats (state : EconomyWorldState) (commandId : String)
    (result : EconomyWorldState × EconomyEffects) : Prop :=
  commandId ∈ state.processedCommands ∧ result = (state, .none)

variable {state : EconomyWorldState} {result : EconomyWorldState × EconomyEffects}

lemma announceTender_changes {input : TenderAnnouncement}
    (h : announceTender state input = .ok result) :
    Repeats state input.commandId result ∨
      Change state (.announceTender input) result.1 result.2 := by
  rcases onceOnly_eq_ok.mp h with hold | ⟨hnew, h⟩
  · exact .inl hold
  · simp only [bind_eq_ok_iff, require_eq_ok, exists_const, Bool.and_eq_true, beq_iff_eq] at h
    obtain ⟨-, -, ⟨hworld, hfresh⟩, -, profile, hprofile, tender, htender, h⟩ := h
    rw [Bool.not_eq_true', EntryMap.has_eq_false_iff] at hfresh
    cases h
    exact .inr (.announced input profile tender hnew hworld hfresh hprofile htender)

lemma openTender_changes {commandId tenderId : String} {time : Int}
    (h : openTender state commandId tenderId time = .ok result) :
    Repeats state commandId result ∨
      Change state (.openTender commandId tenderId time) result.1 result.2 := by
  rcases onceOnly_eq_ok.mp h with hold | ⟨hnew, h⟩
  · exact .inl hold
  · simp only [bind_eq_ok_iff, require_eq_ok, exists_const, lifecycle_eq_ok, Bool.and_eq_true,
      beq_iff_eq] at h
    obtain ⟨current, hcurrent, ⟨hphase, -⟩, h⟩ := h
    cases h
    exact .inr (.opened commandId tenderId time current hnew hcurrent hphase)

lemma submitBid_changes {commandId tenderId : String} {bid : Bid}
    {qualification : BidQualification}
    (h : submitBid state commandId tenderId bid qualification = .ok result) :
    Repeats state commandId result ∨
      Change state (.submitBid commandId tenderId bid qualification) result.1 result.2 := by
  rcases onceOnly_eq_ok.mp h with hold | ⟨hnew, h⟩
  · exact .inl hold
  · simp only [bind_eq_ok_iff, require_eq_ok, exists_const, lifecycle_eq_ok, orThrow_eq_ok,
      Bool.and_eq_true, beq_iff_eq] at h
    obtain ⟨current, hcurrent, ⟨⟨hphase, -⟩, -⟩, ⟨hsolvent, -⟩, -, -, -, -, -, -, h⟩ := h
    rw [Bool.not_eq_true', Bool.eq_false_iff, Ne, List.contains_iff_mem] at hsolvent
    cases h
    exact .inr (.bid commandId tenderId bid qualification current hnew hcurrent hphase hsolvent)

lemma closeTender_changes {input : TenderClosing} (h : closeTender state input = .ok result) :
    Repeats state input.commandId result ∨
      Change state (.closeTender input) result.1 result.2 := by
  rcases onceOnly_eq_ok.mp h with hold | ⟨hnew, h⟩
  · exact .inl hold
  · simp only [bind_eq_ok_iff, require_eq_ok, exists_const, lifecycle_eq_ok, Bool.and_eq_true,
      beq_iff_eq] at h
    obtain ⟨current, hcurrent, ⟨hphase, -⟩, award, haward, h⟩ := h
    refine .inr ?_
    cases hwinner : award.winner with
    | none =>
      rw [hwinner] at h
      simp only [Option.elim_none, closeUnwon, bind_eq_ok_iff, orThrow_eq_ok,
        commitAuthorityBudget_eq_ok] at h
      obtain ⟨budget, hbudget, _, ⟨htakes, rfl⟩, h⟩ := h
      cases h
      exact .unwon input current budget hnew hcurrent hphase hbudget htakes
    | some winner =>
      rw [hwinner] at h
      simp only [Option.elim_some, closeWon, bind_eq_ok_iff, orThrow_eq_ok,
        commitAuthorityBudget_eq_ok] at h
      obtain ⟨budget, hbudget, _, ⟨htakes, rfl⟩, h⟩ := h
      cases h
      exact .won input current award winner budget hnew hcurrent hphase haward hwinner hbudget
        htakes

lemma startFailedTenderPublicOperation_changes {input : FailedTenderStart}
    (h : startFailedTenderPublicOperation state input = .ok result) :
    Repeats state input.commandId result ∨
      Change state (.startFailedTenderPublicOperation input) result.1 result.2 := by
  rcases onceOnly_eq_ok.mp h with hold | ⟨hnew, h⟩
  · exact .inl hold
  · simp only [bind_eq_ok_iff, require_eq_ok, exists_const, lifecycle_eq_ok, orThrow_eq_ok] at h
    obtain ⟨current, hcurrent, operation, hwaiting, -, -, -, h⟩ := h
    cases h
    exact .inr (.startedPublic input current operation hnew hcurrent hwaiting)

lemma submitMobilizationReference_changes {input : MobilizationSubmission}
    (h : submitMobilizationReference state input = .ok result) :
    Repeats state input.commandId result ∨
      Change state (.submitMobilizationReference input) result.1 result.2 := by
  rcases onceOnly_eq_ok.mp h with hold | ⟨hnew, h⟩
  · exact .inl hold
  · simp only [bind_eq_ok_iff, require_eq_ok, exists_const, lifecycle_eq_ok, orThrow_eq_ok] at h
    obtain ⟨-, -, -, -, mobilization, hmobilization, -, -, -, h⟩ := h
    cases h
    exact .inr (.referenced input mobilization hnew hmobilization)

/-- If it is not the public operator that has to go on, it is the winner. -/
lemma expectedOperator_of_ne {tender : Tender} {winningBid : Bid}
    {proof : Option MobilizationProof} (h : expectedOperator tender winningBid proof ≠ "public") :
    expectedOperator tender winningBid proof = winningBid.operatorId := by
  unfold expectedOperator at h ⊢
  split
  · rfl
  · rename_i hnot
    rw [if_neg hnot] at h
    exact absurd rfl h

lemma completeMobilization_changes {input : MobilizationCompletion}
    (h : completeMobilization state input = .ok result) :
    Repeats state input.commandId result ∨
      Change state (.completeMobilization input) result.1 result.2 := by
  rcases onceOnly_eq_ok.mp h with hold | ⟨hnew, h⟩
  · exact .inl hold
  · simp only [bind_eq_ok_iff, require_eq_ok, exists_const, lifecycle_eq_ok, orThrow_eq_ok,
      Bool.and_eq_true, beq_iff_eq] at h
    obtain ⟨current, hcurrent, winningBid, hwinner, mobilization, hmobilization, ⟨-, htime⟩, -,
      hoperator, -, -, h⟩ := h
    refine .inr ?_
    split at h
    · rename_i hpublic
      simp only [completePublic, bind_eq_ok_iff, require_eq_ok, exists_const] at h
      obtain ⟨-, h⟩ := h
      cases h
      exact .failedMobilization input current winningBid mobilization hnew hcurrent hwinner
        hmobilization hpublic
    · rename_i hprivate
      cases h
      refine .takenOver input current winningBid mobilization hnew hcurrent hwinner hmobilization
        htime ?_ hprivate
      rw [hoperator] at hprivate ⊢
      exact expectedOperator_of_ne hprivate

lemma grantEmergencyStartPackage_changes {input : StartPackage}
    (h : grantEmergencyStartPackage state input = .ok result) :
    Repeats state input.commandId result ∨
      Change state (.grantEmergencyStartPackage input) result.1 result.2 := by
  rcases onceOnly_eq_ok.mp h with hold | ⟨hnew, h⟩
  · exact .inl hold
  · simp only [bind_eq_ok_iff, require_eq_ok, exists_const, Bool.and_eq_true,
      decide_eq_true_eq] at h
    obtain ⟨-, ⟨⟨-, hstart⟩, hends⟩, -, ⟨-, hpublic⟩, ⟨hfresh, -⟩, -, -, h⟩ := h
    rw [Bool.not_eq_true', EntryMap.has_eq_false_iff] at hfresh
    cases h
    exact .inr (.granted input hnew ⟨hstart, hends⟩ hpublic hfresh)

lemma settleContractPeriod_changes {input : Settlement} {profit : ProfitAndLoss}
    (h : settleContractPeriod state input = .ok (result, profit)) :
    Change state (.settleContractPeriod input) result.1 result.2 := by
  unfold settleContractPeriod at h
  simp only [bind_eq_ok_iff, require_eq_ok, exists_const, orThrow_eq_ok, Bool.and_eq_true,
    decide_eq_true_eq] at h
  obtain ⟨isNew, hnew, rfl, ⟨⟨⟨-, hperiod⟩, -⟩, -⟩, hfresh, contract, hcontract, -, current,
    hcurrent, -, -, -, hkm, settled, hsettled, h⟩ := h
  rw [Bool.not_eq_true', Bool.eq_false_iff, Ne, List.contains_iff_mem] at hfresh
  have hentry : settled.1.idempotencyKey = input.commandId ++ ":settlement" := by
    unfold settleAmounts at hsettled
    simp only [bind_eq_ok_iff] at hsettled
    obtain ⟨_, _, _, _, _, _, _, _, _, _, hsettled⟩ := hsettled
    cases hsettled
    rfl
  cases h
  exact .settled input contract current settled.1 (requireNewCommand_eq_true.mp hnew) hperiod
    hfresh hcontract hcurrent hkm hentry

lemma escalateOperator_changes {input : Escalation} {decision : InsolvencyDecision}
    (h : escalateOperator state input = .ok (result, decision)) :
    Change state (.escalateOperator input) result.1 result.2 := by
  unfold escalateOperator at h
  simp only [bind_eq_ok_iff, require_eq_ok, exists_const] at h
  obtain ⟨isNew, hnew, rfl, h⟩ := h
  cases h
  exact .escalated input (requireNewCommand_eq_true.mp hnew)

lemma seedEconomyAccount_changes {commandId accountId : String}
    (h : seedEconomyAccount state commandId accountId = .ok result) :
    Repeats state commandId result ∨
      Change state (.seedEconomyAccount commandId accountId) result.1 result.2 := by
  rcases onceOnly_eq_ok.mp h with hold | ⟨hnew, h⟩
  · exact .inl hold
  · simp only [bind_eq_ok_iff, require_eq_ok, exists_const] at h
    obtain ⟨-, -, h⟩ := h
    cases h
    exact .inr (.seeded commandId accountId hnew)

lemma closeEconomyWorld_changes {commandId : String}
    (h : closeEconomyWorld state commandId = .ok result) :
    Repeats state commandId result ∨
      Change state (.closeEconomyWorld commandId) result.1 result.2 := by
  rcases onceOnly_eq_ok.mp h with hold | ⟨hnew, h⟩
  · exact .inl hold
  · cases h
    exact .inr (.closed commandId hnew)

end Zugfolge.Economy
