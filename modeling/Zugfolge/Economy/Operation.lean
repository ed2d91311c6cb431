/-
The commands for operators: start packages, settlements and insolvency.
-/
import Zugfolge.Economy.Workflow

namespace Zugfolge.Economy

open Foundation

/-! ### Start packages -/

structure StartPackage where
  commandId : String
  contractId : String
  operatorId : String
  accountId : String
  lotId : String
  time : Int
  expires : Int
  maximumTrainKmPerPeriod : Int
  proof : MobilizationProof
  operatingTransition : OperatingTransitionResult

/-- The evidence that no more than some kilometres were run. -/
def maximumTrainKm (limit : Int) : String := "maximum-train-km:" ++ printInteger limit

variable (state : EconomyWorldState)

def startContract (input : StartPackage) : ServiceContract where
  qualityPromises := none
  id := input.contractId
  worldId := state.worldId
  lotId := input.lotId
  operatorId := input.operatorId
  startsAt := input.time
  endsAt := input.expires
  orderingFeeCentsPerTrainKm := Int.tdiv (state.release.rates.trackPerTrainKmCents
    * (10000 + state.release.rules.publicOperationSurchargeBasisPoints)) 10000
  bonusCentsPerPeriod := 0
  penaltyRates := state.release.rules.penaltyRates
  evidenceRequired :=
    ["vehicles", "personnel", "paths", maximumTrainKm input.maximumTrainKmPerPeriod]
  mandatoryVehicleCostCentsPerTrainKm := none

/-- The prequalifications with an account, which is as it was if it was there. -/
def withAccount (accountId : String) :
    EntryMap String Prequalification :=
  if state.prequalifications.has accountId then state.prequalifications
  else state.prequalifications.set accountId (initialPrequalification state.worldId accountId)

def withStartPackage (input : StartPackage) : EconomyWorldState :=
  { state with
    contracts := state.contracts.set input.contractId (startContract state input)
    publicOperations := state.publicOperations.delete input.lotId
    prequalifications := withAccount state input.accountId
    operatingRuntimeByLot := state.operatingRuntimeByLot.set input.lotId
      input.operatingTransition.snapshot }

/-- The notice for an account that it has a start package. -/
def grantNotice (input : StartPackage) : EconomyNotice where
  id := input.commandId ++ ":granted:" ++ input.accountId
  worldId := state.worldId
  recipientAccountId := input.accountId
  noticeType := "alpha-start-package-granted"
  time := input.time
  payload := .startPackage input.contractId input.lotId input.operatorId
    input.maximumTrainKmPerPeriod input.expires

def grantEmergencyStartPackage (input : StartPackage) :
    Outcome (EconomyWorldState × EconomyEffects) :=
  onceOnly state input.commandId do
    require (! [input.commandId, input.contractId, input.operatorId, input.accountId,
        input.lotId].any isBlankText)
      "Startpaket besitzt unvollstaendige Kennungen."
    require (isSafeInteger input.time && isSafeInteger input.expires && 0 ≤ input.time
        && input.time < input.expires)
      "Startpaket besitzt keine gueltige Simulationszeit."
    require (isSafeInteger input.maximumTrainKmPerPeriod && 1 ≤ input.maximumTrainKmPerPeriod)
      "Startpaket besitzt keine positive Kilometergrenze."
    require (state.lots.any (fun lot => lot.id == input.lotId)
        && state.publicOperations.has input.lotId)
      "Startlos ist nicht mehr im Eigenbetrieb verfuegbar."
    require (!state.contracts.has input.contractId && isMobilizationProofComplete input.proof)
      "Startpaketvertrag oder M5-Nachweis ist ungueltig."
    let transition := input.operatingTransition
    require (transition.follows state input.lotId input.time
        && transition.outcome.previousOperatorId == "public"
        && transition.outcome.operatorId == input.operatorId
        && transition.outcome.kind == .operatorChange
        && !transition.outcome.penaltyRequired
        && transition.outcome.livemapMarker.isNone
        && transition.reports "livemap-operation-cleared")
      "Rust-Startpaketuebergang passt nicht zu Welt, Los oder Spieler-EVU."
    require ((state.prequalifications.get? input.accountId).all fun record =>
        record.worldId == state.worldId)
      "Startpaketkonto verletzt die Weltisolation."
    return (withCommand (withStartPackage state input) input.commandId,
      { EconomyEffects.none with
        notices := [grantNotice state input]
        runtimeEvents := transition.events })

/-! ### Settlements -/

/-- What settles a period of a contract. -/
structure Settlement where
  commandId : String
  contractId : String
  period : Int
  time : Int
  performance : PerformanceEvidence
  costs : List ClassifiedPosting

/-- The key of the period that is settled. -/
def Settlement.key (input : Settlement) : String := numbered input.contractId input.period

def periodStart (contract : ServiceContract) (tender : Tender) (period : Int) : Int :=
  contract.startsAt + period * tender.periodDurationSeconds

/-- The end of a period of a contract; the last one may be shorter. -/
def periodEnd (contract : ServiceContract) (tender : Tender) (period : Int) : Int :=
  min contract.endsAt (periodStart contract tender period + tender.periodDurationSeconds)

/-- A cost may be booked for a lot. -/
def isBookable (lotId : String) (posting : ClassifiedPosting) : Bool :=
  0 ≤ posting.amountCents && posting.costCentreId == lotId && !isBlankText posting.reference

def costsWithVehicles (input : Settlement) (contract : ServiceContract)
    (mandatoryVehicleCost : Int) : List ClassifiedPosting :=
  if mandatoryVehicleCost == 0 then input.costs
  else input.costs ++ [{
    amountCents := mandatoryVehicleCost
    costType := .vehicle
    costCentreId := contract.lotId
    reference := numbered (contract.id ++ ":award-contingent-wet-lease") input.period }]

/-- The evidence for what a settlement earned. -/
def buildFareContractRevenueEvidence (evidence : FareContractRevenueEvidence) :
    Outcome FareContractRevenueEvidence := do
  require ([evidence.serviceStartMs, evidence.serviceEndMs, evidence.settledAtMs].all isSafeInteger
      && 0 ≤ evidence.serviceStartMs && evidence.serviceStartMs < evidence.serviceEndMs
      && evidence.serviceEndMs ≤ evidence.settledAtMs)
    "M6-Leistungsintervall ist für den Kontrollbeleg ungültig."
  return evidence

/-- The evidence of a settlement, if the release asks for it. -/
def revenueEvidence (input : Settlement) (contract : ServiceContract)
    (tender : Tender) (settlement : ContractSettlement) :
    Outcome (Option FareContractRevenueEvidence) :=
  if state.release.fareInspection then do
    let evidence ← buildFareContractRevenueEvidence {
      worldId := state.worldId
      operatorId := contract.operatorId
      contractId := contract.id
      journalEffectId := input.commandId ++ ":settlement"
      economyReleaseHash := state.releasePin.releaseChecksum
      serviceStartMs := periodStart contract tender input.period * 1000
      serviceEndMs := periodEnd contract tender input.period * 1000
      settledAtMs := input.time * 1000
      orderingFeeCents := printInteger settlement.orderingFeeCents
      bonusCents := printInteger settlement.bonusCents
      penaltyCents := printInteger settlement.penaltyCents }
    return some evidence
  else .ok none

def settlementEntry (input : Settlement) (contract : ServiceContract)
    (costs : List ClassifiedPosting) (settlement : ContractSettlement)
    (evidence : Option FareContractRevenueEvidence) : EconomyJournalEntry where
  worldId := state.worldId
  operatorId := contract.operatorId
  idempotencyKey := input.commandId ++ ":settlement"
  time := input.time
  description := "Vertragsabrechnung Periode " ++ printInteger input.period
  postings := costs
  revenueCents := settlement.netCents
  contractRevenueEvidence := evidence

/-- The state with a settled period. -/
def withSettlement (input : Settlement) : EconomyWorldState :=
  { state with settledPeriods := state.settledPeriods.insert input.key }

def settleAmounts (input : Settlement) (contract : ServiceContract)
    (tender : Tender) : Outcome (EconomyJournalEntry × ProfitAndLoss) := do
  let _ ← input.costs.mapM fun posting => do
    require (isBookable contract.lotId posting)
      "Kostenbuchung verletzt Betrag, Los-Grenze oder Belegpflicht."
    assertNonnegativeI64 posting.amountCents "Kostenbuchung"
  let mandatoryVehicleCost ← multiplyNonnegativeI64
    (contract.mandatoryVehicleCostCentsPerTrainKm.getD 0) input.performance.trainKm
    "Verbindliche Fahrzeugkosten"
  let costs := costsWithVehicles input contract mandatoryVehicleCost
  let settlement ← settleContract contract input.performance
  let result ← calculateProfitAndLoss settlement.netCents costs
  let evidence ← revenueEvidence state input contract tender settlement
  return (settlementEntry state input contract costs settlement evidence, result)

def settleContractPeriod (input : Settlement) :
    Outcome ((EconomyWorldState × EconomyEffects) × ProfitAndLoss) := do
  let isNew ← requireNewCommand state input.commandId
  require isNew "Abrechnungsbefehl wurde bereits verarbeitet."
  require (isSafeInteger input.period && 0 ≤ input.period && isSafeInteger input.time
      && 0 ≤ input.time)
    "Vertragsperiode oder Abrechnungszeit ist ungültig."
  require (!state.settledPeriods.contains input.key) "Vertragsperiode wurde bereits abgerechnet."
  let message := "Vertrag ist in dieser Welt nicht abrechenbar."
  let contract ← orThrow (state.contracts.get? input.contractId) message
  require (contract.worldId == state.worldId) message
  let message := "Vertrag besitzt keine passende, serverseitige Periodendefinition."
  let current ← orThrow (state.tenders.get? input.contractId) message
  let tender := current.tender
  require (tender.lotId == contract.lotId && isSafeInteger tender.periodDurationSeconds
      && 0 < tender.periodDurationSeconds) message
  require (isSafeInteger (periodStart contract tender input.period)
      && isSafeInteger (periodEnd contract tender input.period)
      && periodStart contract tender input.period < contract.endsAt)
    "Vertragsperiode liegt ausserhalb der Vertragslaufzeit."
  require (periodEnd contract tender input.period ≤ input.time)
    "Vertragsperiode kann erst nach ihrem serverseitigen Periodenende abgerechnet werden."
  require (input.performance.trainKm ≤ tender.specification.trainKmPerPeriod)
    "Abgerechnete Zugkilometer ueberschreiten die bestellte Periodenleistung."
  let settled ← settleAmounts state input contract tender
  return ((withCommand (withSettlement state input) input.commandId,
    { EconomyEffects.none with journal := [settled.1] }), settled.2)

/-! ### Insolvency -/

/-- What is known of an operator in trouble. -/
structure Escalation where
  commandId : String
  operatorId : String
  accountId : String
  period : Int
  time : Int
  signals : InsolvencySignals

def contractsOf (operatorId : String) :
    List (String × ServiceContract) :=
  state.contracts.entries.filter fun entry => entry.2.operatorId == operatorId

/-- The state after the public operator has taken over the lots of an operator. -/
def withTakeover (operatorId : String) : EconomyWorldState :=
  let held := contractsOf state operatorId
  { state with
    contracts := held.foldl (fun contracts entry => contracts.delete entry.1) state.contracts
    publicOperations := held.foldl (fun operations entry => operations.set entry.2.lotId
      (startPublicOperation entry.2.lotId [])) state.publicOperations }

/-- The state after an operator was found insolvent. -/
def withInsolvency (input : Escalation) : EconomyWorldState :=
  { state with
    insolventOperators := state.insolventOperators.insert input.operatorId
    prequalifications := (state.prequalifications.get? input.accountId).elim
      state.prequalifications fun record => state.prequalifications.set input.accountId
        (updatePrequalification record { insolvencyAtPeriod := some input.period }) }

/-- The state with the restrictions of an operator. -/
def withRestriction (input : Escalation) (decision : InsolvencyDecision) : EconomyWorldState :=
  { state with
    operatorRestrictions := state.operatorRestrictions.set input.operatorId decision }

/-- The state with what follows for the contracts of an operator. -/
def withConsequence (input : Escalation) (decision : InsolvencyDecision) : EconomyWorldState :=
  if decision.publicOperatorTakesOver
  then withTakeover (withRestriction state input decision) input.operatorId
  else withRestriction state input decision

/-- The state with what follows for an operator. -/
def withDecision (input : Escalation) (decision : InsolvencyDecision) :
    EconomyWorldState :=
  if decision.stage == 5 then withInsolvency (withConsequence state input decision) input
  else withConsequence state input decision

def escalationNotice (input : Escalation) (message : EscalationMessage) : EconomyNotice where
  id := input.commandId ++ ":" ++ message.channel.name ++ ":" ++ input.accountId
  worldId := state.worldId
  recipientAccountId := input.accountId
  noticeType := message.messageType
  time := input.time
  payload := .insolvency message.stage message.actions message.channel

/-- Draws the consequences for an operator. -/
def escalateOperator (input : Escalation) :
    Outcome ((EconomyWorldState × EconomyEffects) × InsolvencyDecision) := do
  let isNew ← requireNewCommand state input.commandId
  require isNew "Eskalation wurde bereits verarbeitet."
  let decision := evaluateInsolvency input.signals
  return ((withCommand (withDecision state input decision) input.commandId,
    { EconomyEffects.none with
      notices := decision.messages.map (escalationNotice state input) }), decision)

/-! ### Accounts and the end of a world -/

/-- Takes an account into a world. -/
def seedEconomyAccount (commandId accountId : String) :
    Outcome (EconomyWorldState × EconomyEffects) :=
  onceOnly state commandId do
    require (!isBlankText accountId) "Weltkonto fehlt."
    require ((state.prequalifications.get? accountId).all fun record =>
        record.worldId == state.worldId && record.accountId == accountId)
      "Weltkonto verletzt die Weltisolation."
    return (withCommand { state with prequalifications := withAccount state accountId } commandId,
      .none)

def closedWorld : EconomyWorldState :=
  { state with
    closed := true
    contracts := .empty
    mobilizations := .empty
    tenderAutomation := .empty
    prequalifications := .empty
    publicOperations := .empty
    operatorRestrictions := .empty
    settledPeriods := []
    operatingRuntimeByLot := .empty }

def closeEconomyWorld (commandId : String) :
    Outcome (EconomyWorldState × EconomyEffects) :=
  onceOnly state commandId do
    return (withCommand (closedWorld state) commandId, .none)

end Zugfolge.Economy
