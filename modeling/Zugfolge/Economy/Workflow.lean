/-
The commands for tenders: from the announcement to the start of operation.
-/
import Zugfolge.Economy.State

namespace Zugfolge.Economy

open Foundation

/-! ### Announcing and opening -/

/-- What is announced. -/
structure TenderAnnouncement where
  commandId : String
  release : EconomyRelease
  tender : TenderInput
  recipients : List String
  automation : Option TenderAutomation

/-- The period in which a tender is announced; there is none without a length. -/
def TenderInput.announcementPeriod (tender : TenderInput) : Int :=
  if tender.periodDurationSeconds == 0 then -1
  else Int.fdiv tender.announcedAt tender.periodDurationSeconds

variable (state : EconomyWorldState)

/-- The notice for an account that a tender was announced. -/
def announcementNotice (commandId : String) (tender : Tender)
    (recipientAccountId : String) : EconomyNotice where
  id := commandId ++ ":tender-announced:" ++ recipientAccountId
  worldId := state.worldId
  recipientAccountId := recipientAccountId
  noticeType := "tender-announced"
  time := tender.announcedAt
  payload := .announcement tender.id tender.lotId tender.profile
    (printInteger tender.viabilityThresholdCentsPerTrainKm)

/-- The profile for a lot in the period of its announcement. -/
def profileOf (input : TenderAnnouncement) : Outcome TenderProfile := do
  let profiles ← deterministicProfileOrder input.release.tenderProfiles state.seed
    input.tender.announcementPeriod
  let lotIndex := state.calendar.findIdx fun entry => entry.lotId == input.tender.lotId
  orThrow profiles[lotIndex % profiles.length]?
    "Cannot read properties of undefined (reading 'viabilitySurchargeBasisPoints')"

/-- The state with a tender that was announced. -/
def withAnnouncement (tender : Tender) (automation : Option TenderAutomation) : EconomyWorldState :=
  { state with
    tenders := state.tenders.set tender.id { tender := tender, bids := [], phase := .announced }
    tenderAutomation := automation.elim state.tenderAutomation
      (state.tenderAutomation.set tender.id) }

def announceTender (input : TenderAnnouncement) :
    Outcome (EconomyWorldState × EconomyEffects) :=
  onceOnly state input.commandId do
    assertPinnedRelease state.releasePin input.release
    require (input.tender.worldId == state.worldId && !state.tenders.has input.tender.id)
      "Ausschreibung verletzt Weltisolation oder Eindeutigkeit."
    require (state.calendar.any fun entry => entry.lotId == input.tender.lotId)
      "Los steht nicht im veröffentlichten Vergabekalender."
    let profile ← profileOf state input
    let tender ← createTender input.tender profile input.release
    return (withCommand (withAnnouncement state tender input.automation) input.commandId,
      { EconomyEffects.none with
        notices := input.recipients.map (announcementNotice state input.commandId tender) })

def openTender (commandId tenderId : String) (time : Int) :
    Outcome (EconomyWorldState × EconomyEffects) :=
  onceOnly state commandId do
    let current ← lifecycle state tenderId
    require (current.phase == .announced && time == current.tender.opensAt)
      "Ausschreibung öffnet ausschließlich zum veröffentlichten Zeitpunkt."
    return (withCommand
      { state with tenders := state.tenders.set tenderId { current with phase := .opened } }
      commandId, .none)

/-! ### Bidding -/

/-- The account for which an operator bids. -/
structure BidQualification where
  accountId : String
  period : Int
  smallLot : Bool
  minimumScore : Int

/-- The automation of a tender, which tells the account of an operator. -/
def withRecipient (automation : TenderAutomation) (operatorId accountId : String) :
    TenderAutomation :=
  { automation with recipientByOperator := automation.recipientByOperator.set operatorId accountId }

def withBid (tenderId : String) (current : TenderLifecycle) (bid : Bid)
    (accountId : String) : EconomyWorldState :=
  { state with
    tenders := state.tenders.set tenderId { current with bids := current.bids ++ [bid] }
    tenderAutomation := (state.tenderAutomation.get? tenderId).elim state.tenderAutomation
      fun automation => state.tenderAutomation.set tenderId
        (withRecipient automation bid.operatorId accountId) }

def submitBid (commandId tenderId : String) (bid : Bid)
    (qualification : BidQualification) : Outcome (EconomyWorldState × EconomyEffects) :=
  onceOnly state commandId do
    let current ← lifecycle state tenderId
    require (current.phase == .opened && current.tender.opensAt ≤ bid.submittedAt
        && bid.submittedAt ≤ current.tender.closesAt)
      "Angebot liegt außerhalb des offenen Fensters."
    require (!state.insolventOperators.contains bid.operatorId
        && !current.bids.any fun item => item.operatorId == bid.operatorId)
      "EVU darf für diese Ausschreibung kein weiteres Angebot abgeben."
    let prequalification ← orThrow (state.prequalifications.get? qualification.accountId)
      "Spieler besitzt keine Präqualifikation in dieser Welt."
    assertPrequalified prequalification state.worldId qualification.period qualification.smallLot
      qualification.minimumScore
    let _ ← scoreBid current.tender bid
    return (withCommand (withBid state tenderId current bid qualification.accountId) commandId,
      .none)

/-! ### Closing -/

/-- What closes a tender. -/
structure TenderClosing where
  commandId : String
  tenderId : String
  time : Int
  authorityId : String
  budgetPeriod : Int
  vehiclePool : List String
  recipientByOperator : EntryMap String String

def TenderClosing.budgetKey (input : TenderClosing) : String :=
  numbered input.authorityId input.budgetPeriod

/-- What two periods of a public operation cost. -/
def publicCost (tender : Tender) : Int :=
  let base := tender.viabilityThresholdCentsPerTrainKm * tender.specification.trainKmPerPeriod * 2
  base + Int.tdiv (base * state.release.rules.publicOperationSurchargeBasisPoints) 10000

/-- What a contract for a bid costs. -/
def expectedCost (tender : Tender) (bid : Bid) : Int :=
  bid.orderingFeeCentsPerTrainKm * tender.specification.trainKmPerPeriod * tender.contractPeriods

/-- The state after a tender that nobody won. -/
def withFailure (input : TenderClosing) (current : TenderLifecycle)
    (budget : AuthorityBudget) : EconomyWorldState :=
  let operation := startPublicOperation current.tender.lotId input.vehiclePool
  let operationStarted := current.tender.incumbentOperatorId == "public"
    && !state.operatingRuntimeByLot.has current.tender.lotId
  { state with
    budgets := state.budgets.set input.budgetKey budget
    publicOperations :=
      if operationStarted then state.publicOperations.set current.tender.lotId operation
      else state.publicOperations
    tenders := state.tenders.set input.tenderId
      { current with phase := .failed operation (some operationStarted) } }

/-- The state after a tender that a bid has won. -/
def withAward (input : TenderClosing) (current : TenderLifecycle)
    (winner : Bid) (budget : AuthorityBudget) : EconomyWorldState :=
  { state with
    budgets := state.budgets.set input.budgetKey budget
    tenders := state.tenders.set input.tenderId { current with phase := .awarded winner }
    mobilizations := state.mobilizations.set input.tenderId {
      tenderId := input.tenderId
      winnerOperatorId := winner.operatorId
      deadline := current.tender.operatingFrom
      proof := none
      reference := none
      completed := false } }

/-- The notice for an account that its operator won. -/
def awardNotice (input : TenderClosing) (current : TenderLifecycle)
    (account : String) : EconomyNotice where
  id := input.commandId ++ ":tender-awarded:" ++ account
  worldId := state.worldId
  recipientAccountId := account
  noticeType := "tender-awarded"
  time := input.time
  payload := .award input.tenderId current.tender.operatingFrom

/-- Closes a tender that nobody won. -/
def closeUnwon (input : TenderClosing) (current : TenderLifecycle) :
    Outcome (EconomyWorldState × EconomyEffects) := do
  let budget ← orThrow (state.budgets.get? input.budgetKey) "Aufgabenträger-Budget fehlt."
  let budget ← commitAuthorityBudget budget (publicCost state current.tender)
  return (withCommand (withFailure state input current budget) input.commandId, .none)

/-- Closes a tender that a bid has won. -/
def closeWon (input : TenderClosing) (current : TenderLifecycle)
    (winner : Bid) : Outcome (EconomyWorldState × EconomyEffects) := do
  let budget ← orThrow (state.budgets.get? input.budgetKey) "Aufgabenträger-Budget fehlt."
  let budget ← commitAuthorityBudget budget (expectedCost current.tender winner)
  return (withCommand (withAward state input current winner budget) input.commandId,
    { EconomyEffects.none with
      notices := ((input.recipientByOperator.get? winner.operatorId).map
        (awardNotice state input current)).toList })

def closeTender (input : TenderClosing) :
    Outcome (EconomyWorldState × EconomyEffects) :=
  onceOnly state input.commandId do
    let current ← lifecycle state input.tenderId
    require (current.phase == .opened && input.time == current.tender.closesAt)
      "Zuschlag erfolgt exakt am Fristende."
    let award ← awardTender current.tender current.bids input.time
    award.winner.elim (closeUnwon state input current) (closeWon state input current)

/-! ### Changes of operators -/

namespace OperatingTransitionResult

variable (transition : OperatingTransitionResult)

/-- The runtime did something of a kind. -/
def reports (eventType : String) : Bool :=
  transition.events.any fun event => event.eventType == eventType

/-- How many trains were assigned. -/
def assignedTrains : ℕ :=
  (transition.events.filter fun event => event.eventType == "train-operation-assigned").length

/-- The change is the next one of a lot and happened at the time. -/
def follows (state : EconomyWorldState) (lotId : String) (time : Int) : Bool :=
  transition.schemaVersion == "zugfolge-operating-transition-result/v1"
    && transition.state.worldId == state.worldId
    && transition.state.revision
      == ((state.operatingRuntimeByLot.get? lotId).elim 0 fun runtime => runtime.state.revision) + 1
    && !transition.idempotentReplay
    && transition.outcome.lotId == lotId
    && !transition.outcome.trainRunIds.isEmpty
    && transition.events.all (fun event => event.worldId == state.worldId && event.atS == time)
    && transition.reports "operating-transition-completed"
    && Text.isHash transition.stateHash

/-- Every train was assigned once, and the old service has ended. -/
def assignsTrains : Bool :=
  decide transition.outcome.trainRunIds.Nodup
    && decide (transition.events.map OperatingRuntimeEvent.eventId).Nodup
    && transition.reports "operating-duty-ended"
    && transition.assignedTrains == transition.outcome.trainRunIds.length

/-- What is kept of the runtime. -/
def snapshot : OperatingRuntimeSnapshot := ⟨transition.state, transition.stateHash⟩

end OperatingTransitionResult

/-- What starts a public operation at its day. -/
structure FailedTenderStart where
  commandId : String
  tenderId : String
  time : Int
  operatingTransition : OperatingTransitionResult

/-- The public operation that waits for its day. -/
def TenderPhase.waitingOperation : TenderPhase → Option PublicOperation
  | .failed publicOperation operationStarted =>
    if operationStarted == some true then none else some publicOperation
  | _ => none

/-- The state with the public operation of a lot that nobody got. -/
def withPublicOperation (state : EconomyWorldState) (input : FailedTenderStart)
    (current : TenderLifecycle) (operation : PublicOperation) : EconomyWorldState :=
  { state with
    tenders := state.tenders.set input.tenderId
      { current with phase := .failed operation (some true) }
    publicOperations := state.publicOperations.set current.tender.lotId operation
    operatingRuntimeByLot := state.operatingRuntimeByLot.set current.tender.lotId
      input.operatingTransition.snapshot }

/-- Starts the public operation of a lot that nobody got. -/
def startFailedTenderPublicOperation (state : EconomyWorldState) (input : FailedTenderStart) :
    Outcome (EconomyWorldState × EconomyEffects) :=
  onceOnly state input.commandId do
    let current ← lifecycle state input.tenderId
    let message := "Eigenbetrieb nach erfolgloser Vergabe beginnt ausschliesslich am " ++
      "veroeffentlichten Stichtag."
    let operation ← orThrow current.phase.waitingOperation message
    require (input.time == current.tender.operatingFrom) message
    let transition := input.operatingTransition
    require (transition.follows state current.tender.lotId input.time && transition.assignsTrains
        && transition.outcome.previousOperatorId == current.tender.incumbentOperatorId
        && transition.outcome.operatorId == "public"
        && transition.outcome.kind == .publicOperation
        && !transition.outcome.seamless && !transition.outcome.penaltyRequired
        && transition.outcome.livemapMarker == some "public-operator"
        && transition.reports "livemap-operation-marked")
      "Rust-Eigenbetriebsuebergang widerspricht der erfolglosen Vergabe."
    require (!operation.vehiclePool.isEmpty)
      "Eigenbetrieb braucht eine nachgewiesene Ersatzfahrzeugflotte."
    return (withCommand (withPublicOperation state input current operation) input.commandId,
      { EconomyEffects.none with runtimeEvents := transition.events })

/-! ### Mobilisation -/

/-- The resources with which a winner prepares. -/
structure MobilizationSubmission where
  commandId : String
  tenderId : String
  operatorId : String
  time : Int
  reference : FleetMobilizationReference

def TenderPhase.winningBid : TenderPhase → Option Bid
  | .awarded winningBid => some winningBid
  | _ => none

/-- The state with the resources of a winner. -/
def withReference (state : EconomyWorldState) (input : MobilizationSubmission)
    (mobilization : Mobilization) : EconomyWorldState :=
  { state with
    mobilizations := state.mobilizations.set input.tenderId
      { mobilization with reference := some input.reference } }

/-- Notes the resources with which a winner prepares. -/
def submitMobilizationReference (state : EconomyWorldState) (input : MobilizationSubmission) :
    Outcome (EconomyWorldState × EconomyEffects) :=
  onceOnly state input.commandId do
    let current ← lifecycle state input.tenderId
    let message := "Mobilisierungsnachweis gehört zu keinem offenen Zuschlag."
    let winningBid ← orThrow current.phase.winningBid message
    let mobilization ← orThrow (state.mobilizations.get? input.tenderId) message
    require (!mobilization.completed) message
    require (winningBid.operatorId == input.operatorId
        && mobilization.winnerOperatorId == input.operatorId)
      "Nur das bezuschlagte EVU darf den Mobilisierungsnachweis einreichen."
    require (input.time ≤ mobilization.deadline)
      "Mobilisierungsnachweis ging nach dem Fahrplanstichtag ein."
    return (withCommand (withReference state input mobilization) input.commandId, .none)

/-- What completes a mobilisation. -/
structure MobilizationCompletion where
  commandId : String
  tenderId : String
  time : Int
  proof : Option MobilizationProof
  failurePenaltyCents : Int
  recipientAccountId : String
  publicVehiclePool : List String
  operatingTransition : OperatingTransitionResult

def expectedOperator (tender : Tender) (winningBid : Bid) (proof : Option MobilizationProof) :
    String :=
  if winningBid.operatorId == tender.incumbentOperatorId || isMobilizationProofComplete proof
  then winningBid.operatorId else "public"

/-- How it has to go on. -/
def expectedKind (tender : Tender) (winningBid : Bid) (proof : Option MobilizationProof) :
    OperatingKind :=
  if expectedOperator tender winningBid proof == "public" then .publicOperation
  else if winningBid.operatorId == tender.incumbentOperatorId then .seamlessContinuation
  else .operatorChange

def contractOf (state : EconomyWorldState) (input : MobilizationCompletion) (tender : Tender)
    (winningBid : Bid) (mobilization : Mobilization) : ServiceContract where
  qualityPromises := some {
    schemaVersion := "zugfolge-quality-promises/v2"
    extraSeats := winningBid.promises.extraSeats
    punctualityBasisPoints := winningBid.promises.punctualityBasisPoints
    additionalStops := winningBid.promises.additionalStops
    minimumSeats :=
      tender.specification.requirements.minimumSeats + winningBid.promises.extraSeats }
  id := input.tenderId
  worldId := state.worldId
  lotId := tender.lotId
  operatorId := input.operatingTransition.outcome.operatorId
  startsAt := input.time
  endsAt := input.time + tender.contractPeriods * tender.periodDurationSeconds
  orderingFeeCentsPerTrainKm := winningBid.orderingFeeCentsPerTrainKm
  bonusCentsPerPeriod := tender.rules.contractBonusCentsPerPeriod
  penaltyRates := tender.rules.penaltyRates.set
    (Int.tdiv (tender.rules.penaltyRates.get tender.profile.penaltyFocus
      * tender.rules.penaltyFocusMultiplierBasisPoints) 10000) tender.profile.penaltyFocus
  evidenceRequired := ["vehicles", "personnel", "paths"]
  mandatoryVehicleCostCentsPerTrainKm :=
    if mobilization.reference.any FleetMobilizationReference.entryFacility
    then some winningBid.vehicle.operatingCostCentsPerTrainKm else none

/-- The state after a mobilisation, apart from who runs the lot. -/
def withCompletion (state : EconomyWorldState) (input : MobilizationCompletion) (lotId : String)
    (mobilization : Mobilization) : EconomyWorldState :=
  { state with
    mobilizations := state.mobilizations.set input.tenderId
      { mobilization with proof := input.proof.or mobilization.proof, completed := true }
    operatingRuntimeByLot := state.operatingRuntimeByLot.set lotId
      input.operatingTransition.snapshot }

/-- The prequalifications after an account has failed. -/
def withFailedAccount (prequalifications : EntryMap String Prequalification) (accountId : String) :
    EntryMap String Prequalification :=
  (prequalifications.values.find? fun record => record.accountId == accountId).elim
    prequalifications fun record => prequalifications.set record.accountId
      (updatePrequalification record { mobilizationFailed := true })

/-- The notice for an account that its operator was not ready. -/
def failureNotice (state : EconomyWorldState) (input : MobilizationCompletion) : EconomyNotice where
  id := input.commandId ++ ":mobilization-failed:" ++ input.recipientAccountId
  worldId := state.worldId
  recipientAccountId := input.recipientAccountId
  noticeType := "mobilization-failed"
  time := input.time
  payload := .failedMobilization input.tenderId (printInteger input.failurePenaltyCents)
    input.operatingTransition.outcome.trainRunIds input.operatingTransition.outcome.livemapMarker

/-- The penalty for an operator that was not ready. -/
def failurePenalty (state : EconomyWorldState) (input : MobilizationCompletion) (tender : Tender)
    (winningBid : Bid) : EconomyJournalEntry where
  worldId := state.worldId
  operatorId := winningBid.operatorId
  idempotencyKey := input.commandId ++ ":penalty"
  time := input.time
  description := "Vertragsstrafe wegen gescheiterter Mobilisierung"
  revenueCents := 0
  postings := [{
    amountCents := input.failurePenaltyCents
    costType := .penalty
    costCentreId := tender.lotId
    reference := input.tenderId }]
  contractRevenueEvidence := none

/-- Completes a mobilisation: the public operator goes on. -/
def completePublic (state : EconomyWorldState) (input : MobilizationCompletion) (tender : Tender)
    (winningBid : Bid) (mobilization : Mobilization) :
    Outcome (EconomyWorldState × EconomyEffects) := do
  require (!input.publicVehiclePool.isEmpty)
    "Eigenbetrieb braucht eine nachgewiesene Ersatzfahrzeugflotte."
  let done := withCompletion state input tender.lotId mobilization
  return (withCommand
    { done with
      publicOperations := state.publicOperations.set tender.lotId
        (startPublicOperation tender.lotId input.publicVehiclePool)
      prequalifications := withFailedAccount state.prequalifications input.recipientAccountId }
    input.commandId,
    { notices := [failureNotice state input]
      journal := [failurePenalty state input tender winningBid]
      runtimeEvents := input.operatingTransition.events })

/-- Completes a mobilisation: the winner takes over. -/
def completeTakeover (state : EconomyWorldState) (input : MobilizationCompletion) (tender : Tender)
    (winningBid : Bid) (mobilization : Mobilization) :
    Outcome (EconomyWorldState × EconomyEffects) :=
  let done := withCompletion state input tender.lotId mobilization
  .ok (withCommand
    { done with
      publicOperations := state.publicOperations.delete tender.lotId
      contracts := state.contracts.set input.tenderId
        (contractOf state input tender winningBid mobilization) } input.commandId,
    { EconomyEffects.none with runtimeEvents := input.operatingTransition.events })

def completeMobilization (state : EconomyWorldState) (input : MobilizationCompletion) :
    Outcome (EconomyWorldState × EconomyEffects) :=
  onceOnly state input.commandId do
    let current ← lifecycle state input.tenderId
    let message := "Mobilisierung kann nur einmal am Fahrplanstichtag abgeschlossen werden."
    let winningBid ← orThrow current.phase.winningBid message
    let mobilization ← orThrow (state.mobilizations.get? input.tenderId) message
    require (!mobilization.completed && input.time == current.tender.operatingFrom) message
    let transition := input.operatingTransition
    require (transition.follows state current.tender.lotId input.time && transition.assignsTrains
        && transition.outcome.previousOperatorId == current.tender.incumbentOperatorId)
      "Rust-Betriebsuebergang passt nicht zu Welt, Los oder Altbetreiber."
    let operatorId := expectedOperator current.tender winningBid input.proof
    require (transition.outcome.operatorId == operatorId)
      "Rust-Betriebsuebergang widerspricht den verifizierten Mobilisierungsfakten."
    require ((operatorId == "public") == transition.outcome.penaltyRequired)
      "Rust-Betriebsuebergang widerspricht der Vertragsstrafenfolge."
    let kind := expectedKind current.tender winningBid input.proof
    require (transition.outcome.kind == kind
        && transition.outcome.seamless == (kind == .seamlessContinuation)
        && transition.outcome.livemapMarker
          == (if kind == .publicOperation then some "public-operator" else none)
        && transition.reports (if kind == .publicOperation then "livemap-operation-marked"
          else "livemap-operation-cleared"))
      "Rust-Betriebsuebergang besitzt eine widerspruechliche Betriebsart oder Livemap-Folge."
    if transition.outcome.operatorId == "public" then
      completePublic state input current.tender winningBid mobilization
    else completeTakeover state input current.tender winningBid mobilization

end Zugfolge.Economy
