/-
Inspection cases and requests to the police.
-/
import Zugfolge.FareControl.Ledger

namespace Zugfolge.FareControl

open Foundation
open Economy (Outcome printInteger orThrow orThrow_eq_ok)

/-! ### Cases -/

/-- When the time for a proof is over. -/
def proofDeadline (pin : FareInspectionPinV1) (r : FareInspectionEconomyV1) : Outcome Int := do
  let window ← mul (r.proofWindowDays + 1) r.dayLengthMs
  add (day pin.inspectedAtMs r) window

/-- Both pins are about the same passenger on the same train. -/
def FareInspectionPinV1.concernsSame (pin other : FareInspectionPinV1) : Bool :=
  other.trainRunId == pin.trainRunId
    && other.passenger.passengerKey == pin.passenger.passengerKey

variable (h : Hashing)

def newCase (caseId : String) (pin : FareInspectionPinV1) (deadline : Int) :
    FareInspectionCaseV1 :=
  { schemaVersion := "fare-inspection-case/v1"
    caseId := caseId
    pin := pin
    pinHash := h.pin pin
    status := .open
    evidence := {}
    claimKind := none
    claimOpenedAtMs := none
    originalClaimCents := "0"
    claimCents := "0"
    paidCents := "0"
    costsCents := "0"
    writtenOffCents := "0"
    reducedCents := "0"
    proofDeadlineMs := deadline
    proofReceivedAtMs := none
    paymentProcessed := false
    proofProcessed := false
    policeHoldId := none }

/-- Opens a case.  A case that is there already with the same pin stays as it is. -/
def openCase (state : FareControlWorldStateV1) (command : FareControlCommandV1)
    (caseId : String) (pin : FareInspectionPinV1) : Outcome FareControlWorldStateV1 := do
  let _ ← validatePin h pin
  need (isId caseId && pin.worldId == state.worldId && pin.operatorId == state.operatorId
    && pin.inspectedAtMs ≤ command.nowMs) "fare_case_binding_invalid"
  if state.cases.contains caseId then
    need (state.cases[caseId]?.all fun existing => existing.pinHash == h.pin pin)
      "fare_case_pin_conflict"
    return state
  else
    need (!state.cases.anyValue fun case => pin.concernsSame case.pin) "fare_case_already_exists"
    let r ← rules pin.economyRelease
    let deadline ← proofDeadline pin r
    return { state with cases := state.cases.insert caseId (newCase h caseId pin deadline) }

variable (case : FareInspectionCaseV1)

/-- What the document of a passenger turns out to be. -/
def documentOf : DocumentStatusV1 :=
  match case.pin.passenger.fareFact with
  | .valid => .verifiedValid
  | .validUnpresentable => .notPresentable
  | .invalid =>
    if caseSample case "fare_inspection:presented_document"
        < case.pin.inspectionPolicy.invalidDocumentPresentedBasisPoints then .verifiedInvalid
    else .notPresentable

/-- Whether the passenger could have bought a ticket. -/
def exceptionOf (evidence : FareJourneyEvidenceV1) : AcquisitionExceptionV1 :=
  if evidence.ticketOffice == .unavailable && evidence.ticketMachine == .unavailable then .proven
  else if evidence.ticketOffice == .available || evidence.ticketMachine == .available then .excluded
  else .unknown

/-- Inspects the document of the passenger, once. -/
def inspect : Outcome FareInspectionCaseV1 := do
  need (case.status == .open) "fare_case_not_open"
  if case.evidence.documentStatus != .unchecked then return case
  else
    let policy := case.pin.inspectionPolicy
    let identity :=
      if documentOf case != .verifiedValid then
        if caseSample case "fare_inspection:identity_request" < policy.identityRefusalBasisPoints
        then .refused
        else .confirmed
      else case.evidence.identityStatus
    return { case with evidence :=
      { documentStatus := documentOf case
        acquisitionException := case.pin.journeyEvidence.elim .unknown exceptionOf
        identityStatus := identity
        concreteDanger := caseSample case "fare_inspection:concrete_danger"
          < policy.concreteDangerBasisPoints } }

/-- The ordinary fare of the journey, where it is known. -/
def FareInspectionCaseV1.ordinaryFare : Option String :=
  case.pin.journeyEvidence.bind fun evidence => evidence.ordinaryFareCents

/-- What has to be known of the document for a kind of claim. -/
def FareClaimKindV1.fits : FareClaimKindV1 → Bool
  | .regular => case.evidence.documentStatus == .verifiedInvalid
      && case.pin.passenger.fareFact == .invalid
  | .provisional => case.evidence.documentStatus == .notPresentable

/-- A claim may be made. -/
def claimAllowed (kind : FareClaimKindV1) : Bool :=
  case.status == .open
    && case.evidence.identityStatus == .confirmed
    && case.evidence.acquisitionException == .excluded
    && case.ordinaryFare.isSome
    && kind.fits case

/-- Makes a claim: a multiple of the fare, but no less than the minimum. -/
def createClaim (state : FareControlWorldStateV1) (command : FareControlCommandV1)
    (case : FareInspectionCaseV1) (kind : FareClaimKindV1) :
    Outcome (FareControlWorldStateV1 × FareInspectionCaseV1) := do
  need (claimAllowed case kind) "fare_claim_not_allowed"
  let r ← rules case.pin.economyRelease
  let fareText ← orThrow case.ordinaryFare "fare_tariff_missing"
  let fare ← nonnegative fareText
  let multiple ← mul fare r.ordinaryFareMultiplier
  let minimum ← nonnegative r.minimumClaimCents
  let claim := max multiple minimum
  let state ← post h state command (some case.caseId) command.nowMs .claimOpened
    case.pin.economyRelease [(.receivable, claim), (.claimAccrual, -claim)] "claim-opened"
  let case := { case with
    status := .claimOpen
    claimKind := some kind
    claimOpenedAtMs := some command.nowMs
    originalClaimCents := printInteger claim
    claimCents := printInteger claim }
  let handling ← nonnegative r.handlingCostCents
  cost h state command case handling "claim-handling"

/-- Closes a case without a claim, unless it waits for the police. -/
def close : FareInspectionCaseV1 :=
  if case.status == .open && case.policeHoldId.isNone then
    { case with status := .closedWithoutClaim }
  else case

/-- Takes a proof that has come in. -/
def receiveProof (state : FareControlWorldStateV1) (command : FareControlCommandV1)
    (case : FareInspectionCaseV1) (receivedAtMs : Int) :
    Outcome (FareControlWorldStateV1 × FareInspectionCaseV1) := do
  need (case.pin.inspectedAtMs ≤ receivedAtMs && receivedAtMs ≤ command.nowMs)
    "fare_proof_time_invalid"
  let status :=
    if case.pin.passenger.fareFact == .invalid then .verifiedInvalid else .verifiedValid
  advanceCase h state command { case with
    proofReceivedAtMs :=
      some (case.proofReceivedAtMs.elim receivedAtMs fun old => min old receivedAtMs)
    evidence := { case.evidence with documentStatus := status } }

/-! ### Police -/

def planHash (h : Hashing) (plan : PoliceResponsePlanV1) : String :=
  h.plan { plan with planHash := "" }

/-- The model of the police is valid. -/
def validateModel (model : PoliceResponseModelV1) (world : String) : Bool :=
  model.schemaVersion == "police-response-model/v1"
    && isId model.modelId
    && model.worldId == world
    && model.contentHash == policeResponseModelHash h model
    && [model.availableBasisPoints, model.delayedBasisPoints,
      model.identitySuccessBasisPoints].all (· ≤ 10000)
    && 0 ≤ model.responseMs
    && model.responseMs ≤ model.delayedResponseMs

/-- A plan as it is first asked for. -/
def newPlan (state : FareControlWorldStateV1) (command : FareControlCommandV1)
    (holdId train target : String) (model : PoliceResponseModelV1) : PoliceResponsePlanV1 :=
  let drawn := fun purpose : String => sample [purpose, state.worldId, train, target,
    model.contentHash, printInteger command.nowMs]
  { worldId := state.worldId
    operatorId := state.operatorId
    holdId := holdId
    trainRunId := train
    targetStopId := target
    requestedAtMs := command.nowMs
    model := model
    available := drawn "police_response:availability" < model.availableBasisPoints
    responseAfterActivationMs :=
      if drawn "police_response:delay" < model.delayedBasisPoints then model.delayedResponseMs
      else model.responseMs
    cases := []
    resolution := .pending
    planHash := "" }

/-- The case may be handed to the police. -/
def FareInspectionCaseV1.isEligible (holdId train : String) : Bool :=
  case.pin.trainRunId == train
    && (case.status == .open || case.status == .claimOpen)
    && (case.evidence.identityStatus == .refused || case.evidence.concreteDanger)
    && (case.policeHoldId.all fun held => held == holdId)

/-- The police would find out who the passenger is. -/
def FareInspectionCaseV1.willBeIdentified (train : String) (model : PoliceResponseModelV1) : Bool :=
  case.evidence.identityStatus == .confirmed
    || sample ["police_response:identity", case.pin.worldId, train,
      case.pin.passenger.passengerKey, case.pin.seedHash, model.contentHash]
        < model.identitySuccessBasisPoints

def planCase (holdId train : String) (model : PoliceResponseModelV1)
    (current : FareControlWorldStateV1 × PoliceResponsePlanV1) (caseId : String) :
    Outcome (FareControlWorldStateV1 × PoliceResponsePlanV1) := do
  let case ← orThrow current.1.cases[caseId]? "fare_case_missing"
  need (case.isEligible holdId train) "fare_police_case_ineligible"
  let plan :=
    if current.2.cases.any fun outcome => outcome.caseId == caseId then current.2
    else { current.2 with cases := current.2.cases
      ++ [{ caseId := caseId, identityConfirmed := case.willBeIdentified train model }] }
  return ({ current.1 with
    cases := current.1.cases.insert caseId { case with policeHoldId := some holdId } }, plan)

/-- Asks the police for help in some cases. -/
def planPolice (state : FareControlWorldStateV1) (command : FareControlCommandV1)
    (holdId train target : String) (caseIds : List String) (model : PoliceResponseModelV1) :
    Outcome FareControlWorldStateV1 := do
  need (validateModel h model state.worldId) "fare_police_model_invalid"
  need (isId holdId && isId train && isId target && !caseIds.isEmpty) "fare_police_input_invalid"
  let ids := (caseIds.insertionSort fun a b => (compare a b).isLE = true).dedup
  need (ids.length == caseIds.length) "fare_police_input_invalid"
  let existing := state.policePlans[holdId]?
  need (!state.policePlans.anyValue fun plan => plan.trainRunId == train && plan.holdId != holdId)
    "fare_police_budget_exhausted"
  need (existing.all fun plan => plan.trainRunId == train && plan.targetStopId == target
    && plan.model == model && plan.resolution == .pending) "fare_police_plan_conflict"
  let selected := existing.getD (newPlan state command holdId train target model)
  let planned ← ids.foldlM (planCase holdId train model) (state, selected)
  let plan := { planned.2 with
    cases := planned.2.cases.insertionSort fun a b => (compare a.caseId b.caseId).isLE = true }
  return { planned.1 with
    policePlans := planned.1.policePlans.insert holdId { plan with planHash := planHash h plan } }

/-- The report of the operation belongs to the plan. -/
def binding (plan : PoliceResponsePlanV1) (evidence : PoliceOperationalEvidenceV1) :
    Bool :=
  plan.worldId == evidence.worldId
    && plan.trainRunId == evidence.trainRunId
    && plan.holdId == evidence.holdId
    && plan.targetStopId == evidence.targetStopId
    && plan.model.contentHash == evidence.modelHash
    && isSha evidence.operationalStateHash
    && plan.planHash == planHash h plan

/-- Checks that the outcome fits the times that are reported. -/
def checkOutcome (plan : PoliceResponsePlanV1) (evidence : PoliceOperationalEvidenceV1)
    (released active deadline : Int) : Outcome Unit :=
  match evidence.outcome with
  | .timedOut => need (deadline ≤ released) "fare_police_outcome_invalid"
  | .unavailable => need (!plan.available && released < deadline) "fare_police_outcome_invalid"
  | .identityConfirmed | .identityNotConfirmed => do
    let arrival ← add active plan.responseAfterActivationMs
    need (plan.available && arrival ≤ released && released < deadline
      && (evidence.outcome == .identityConfirmed)
        == (plan.cases.any fun outcome => outcome.identityConfirmed))
      "fare_police_outcome_invalid"
  | .pending | .targetUnavailable => .error "fare_police_outcome_invalid"

/-- Checks what is reported of a plan that is pending. -/
def checkEvidence (plan : PoliceResponsePlanV1) (evidence : PoliceOperationalEvidenceV1)
    (released : Int) : Outcome Unit :=
  if evidence.targetUnavailable then
    need (evidence.outcome == .targetUnavailable && evidence.activatedAtMs.isNone)
      "fare_police_outcome_invalid"
  else do
    let active ← orThrow evidence.activatedAtMs "fare_police_not_activated"
    let deadline ← orThrow evidence.deadlineMs "fare_police_not_activated"
    need (plan.requestedAtMs ≤ active && active ≤ deadline && active ≤ released)
      "fare_police_time_invalid"
    checkOutcome plan evidence released active deadline

/-- The police was there and found out who the passenger is. -/
def PoliceCaseOutcomeV1.succeeds (outcome : PoliceCaseOutcomeV1)
    (evidence : PoliceOperationalEvidenceV1) : Bool :=
  (evidence.outcome == .identityConfirmed || evidence.outcome == .identityNotConfirmed)
    && outcome.identityConfirmed

/-- The kind of claim that fits what is known of the document. -/
def claimKindOf : FareClaimKindV1 :=
  if case.evidence.documentStatus == .verifiedInvalid then .regular else .provisional

/-- Makes a claim on a case that is open still, or closes it. -/
def claimOrClose (state : FareControlWorldStateV1) (command : FareControlCommandV1)
    (case : FareInspectionCaseV1) (success : Bool) :
    Outcome (FareControlWorldStateV1 × FareInspectionCaseV1) :=
  if case.status == .open then
    if success && claimAllowed case (claimKindOf case) then
      createClaim h state command case (claimKindOf case)
    else .ok (state, { case with status := .closedWithoutClaim })
  else .ok (state, case)

/-- Settles a case whose request to the police has ended. -/
def resolveCase (command : FareControlCommandV1)
    (evidence : PoliceOperationalEvidenceV1) (state : FareControlWorldStateV1)
    (outcome : PoliceCaseOutcomeV1) : Outcome FareControlWorldStateV1 := do
  let case ← orThrow state.cases[outcome.caseId]? "fare_case_missing"
  let state := { state with cases := state.cases.erase outcome.caseId }
  let success := outcome.succeeds evidence
  let case :=
    if success then { case with evidence := { case.evidence with identityStatus := .confirmed } }
    else case
  let r ← rules case.pin.economyRelease
  let handling ← nonnegative r.policeHandlingCostCents
  let charged ← cost h state command case handling "police-handling"
  let settled ← claimOrClose h charged.1 command charged.2 success
  return { settled.1 with cases := settled.1.cases.insert outcome.caseId settled.2 }

/-- Settles the cases of a request to the police that has ended. -/
def resolvePolice (state : FareControlWorldStateV1) (command : FareControlCommandV1)
    (evidence : PoliceOperationalEvidenceV1) : Outcome FareControlWorldStateV1 := do
  let plan ← orThrow state.policePlans[evidence.holdId]? "fare_police_plan_missing"
  need (binding h plan evidence) "fare_police_operational_binding_invalid"
  let released ← orThrow evidence.releasedAtMs "fare_police_not_released"
  need (released ≤ command.nowMs && plan.requestedAtMs ≤ released) "fare_police_time_invalid"
  if plan.resolution != .pending then
    need (plan.resolution == evidence.outcome) "fare_police_resolution_conflict"
    return state
  else
    let _ ← checkEvidence plan evidence released
    let state ← plan.cases.foldlM (resolveCase h command evidence) state
    let plan := { plan with resolution := evidence.outcome }
    return { state with policePlans :=
      state.policePlans.insert evidence.holdId { plan with planHash := planHash h plan } }

end Zugfolge.FareControl
