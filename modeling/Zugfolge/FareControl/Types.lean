/-
Inspection cases, police plans, ledger events and commands of fare control.

Amounts are written in decimal, instants are milliseconds of the simulation.
-/
import Zugfolge.Foundation.Registry

namespace Zugfolge.FareControl

open Foundation

/-! ### Words -/

/-- Whether a place to buy a ticket was there. -/
inductive FarePurchaseAvailabilityV1 where
  | available | unavailable | unknown
  deriving DecidableEq

inductive FareInspectionCaseStatusV1 where
  | «open» | closedWithoutClaim | claimOpen | settled
  deriving DecidableEq

inductive FareClaimKindV1 where
  | regular | provisional

/-- The account that a posting touches. -/
inductive FareLedgerRoleV1 where
  | receivable | claimAccrual | cash | claimReduction | handlingCost | writeOff | premium
  | capAdjustment
  deriving DecidableEq

inductive FareLedgerEventKindV1 where
  | claimOpened | payment | reduction | handlingCost | writeOff | premium | capAdjustment
  deriving DecidableEq

/-- How a request to the police ended. -/
inductive PoliceResolutionV1 where
  | pending | identityConfirmed | identityNotConfirmed | unavailable | timedOut | targetUnavailable
  deriving DecidableEq

/-- What the ticket of a passenger really is. -/
inductive FareFactV1 where
  | valid | validUnpresentable | invalid
  deriving DecidableEq

/-- What is known of the document of a passenger. -/
inductive DocumentStatusV1 where
  | unchecked | verifiedValid | verifiedInvalid | notPresentable
  deriving DecidableEq

/-- Whether the passenger is excused for having no ticket. -/
inductive AcquisitionExceptionV1 where
  | unknown | proven | excluded
  deriving DecidableEq

/-- Whether the passenger says who he is. -/
inductive IdentityStatusV1 where
  | unknown | confirmed | refused
  deriving DecidableEq

/-! ### Rules -/

/-- The rules of fare inspection in a release. -/
structure FareInspectionEconomyV1 where
  schemaVersion : String
  minimumClaimCents : String
  ordinaryFareMultiplier : ℕ
  reducedClaimCents : String
  proofWindowDays : ℕ
  dayLengthMs : Int
  handlingCostCents : String
  proofHandlingCostCents : String
  policeHandlingCostCents : String
  fullPaymentBasisPoints : ℕ
  partialPaymentBasisPoints : ℕ
  partialPaymentShareBasisPoints : ℕ
  paymentDelayMs : Int
  writeOffDelayMs : Int
  validProofSubmissionBasisPoints : ℕ
  validProofDelayMs : Int
  premiumMultiplierBasisPoints : ℕ
  positiveDailyCapBasisPoints : ℕ
  revenueAllocation : String

/-- A release of the economy.  What fare control does not read of it is either valid or not. -/
structure EconomyReleaseDocument where
  checksum : String
  fareInspection : Option FareInspectionEconomyV1
  restIsValid : Bool

/-! ### Cases -/

structure ManifestPassengerV1 where
  passengerKey : String
  boardingStopId : String
  alightingStopId : String
  fareFact : FareFactV1

/-- How often passengers show invalid documents, refuse their identity or are a danger. -/
structure FareInspectionPolicyV1 where
  schemaVersion : String
  policyId : String
  worldId : String
  periodId : String
  contentHash : String
  invalidDocumentPresentedBasisPoints : ℕ
  identityRefusalBasisPoints : ℕ
  concreteDangerBasisPoints : ℕ

/-- What is known of the journey of a passenger. -/
structure FareJourneyEvidenceV1 where
  schemaVersion : String
  evidenceId : String
  worldId : String
  periodId : String
  trainRunId : String
  boardingStopId : String
  alightingStopId : String
  ordinaryFareCents : Option String
  ticketOffice : FarePurchaseAvailabilityV1
  ticketMachine : FarePurchaseAvailabilityV1
  sourceId : String
  contentHash : String

/-- What a case is pinned to. -/
structure FareInspectionPinV1 where
  worldId : String
  operatorId : String
  periodId : String
  trainRunId : String
  encounterId : String
  manifestRevision : ℕ
  demandStateHash : String
  segmentId : String
  passenger : ManifestPassengerV1
  dialogueReleaseHash : String
  inspectedAtMs : Int
  seedHash : String
  inspectionPolicy : FareInspectionPolicyV1
  journeyEvidence : Option FareJourneyEvidenceV1
  economyRelease : EconomyReleaseDocument
  expectedEconomyReleaseHash : String

/-- What the conductor found out. -/
structure DialogueEvidenceV1 where
  documentStatus : DocumentStatusV1 := .unchecked
  acquisitionException : AcquisitionExceptionV1 := .unknown
  identityStatus : IdentityStatusV1 := .unknown
  concreteDanger : Bool := false

structure FareInspectionCaseV1 where
  schemaVersion : String
  caseId : String
  pin : FareInspectionPinV1
  pinHash : String
  status : FareInspectionCaseStatusV1
  evidence : DialogueEvidenceV1
  claimKind : Option FareClaimKindV1
  claimOpenedAtMs : Option Int
  originalClaimCents : String
  claimCents : String
  paidCents : String
  costsCents : String
  writtenOffCents : String
  reducedCents : String
  proofDeadlineMs : Int
  proofReceivedAtMs : Option Int
  paymentProcessed : Bool
  proofProcessed : Bool
  policeHoldId : Option String

/-! ### Police -/

/-- How the police responds. -/
structure PoliceResponseModelV1 where
  schemaVersion : String
  modelId : String
  worldId : String
  contentHash : String
  availableBasisPoints : ℕ
  delayedBasisPoints : ℕ
  responseMs : Int
  delayedResponseMs : Int
  identitySuccessBasisPoints : ℕ
  deriving DecidableEq

/-- What the police finds out in a case. -/
structure PoliceCaseOutcomeV1 where
  caseId : String
  identityConfirmed : Bool

structure PoliceResponsePlanV1 where
  worldId : String
  operatorId : String
  holdId : String
  trainRunId : String
  targetStopId : String
  requestedAtMs : Int
  model : PoliceResponseModelV1
  available : Bool
  responseAfterActivationMs : Int
  cases : List PoliceCaseOutcomeV1
  resolution : PoliceResolutionV1
  planHash : String

/-- What the operation reports of a request to the police. -/
structure PoliceOperationalEvidenceV1 where
  worldId : String
  trainRunId : String
  holdId : String
  targetStopId : String
  modelHash : String
  operationalStateHash : String
  activatedAtMs : Option Int
  deadlineMs : Option Int
  releasedAtMs : Option Int
  targetUnavailable : Bool
  outcome : PoliceResolutionV1

/-! ### The ledger -/

structure FareLedgerPostingV1 where
  role : FareLedgerRoleV1
  amountCents : String

structure FareLedgerEventV1 where
  worldId : String
  operatorId : String
  eventId : String
  caseId : Option String
  atMs : Int
  dayStartMs : Int
  kind : FareLedgerEventKindV1
  economyReleaseHash : String
  postings : List FareLedgerPostingV1

structure FareDaySettlementV1 where
  dayStartMs : Int
  contractRevenueCents : String
  contractReceiptIds : List String
  netCents : String
  premiumCents : String
  capAdjustmentCents : String
  settlementRevision : ℕ
  economyReleaseHash : String

structure FareContractRevenueEvidenceV1 where
  schemaVersion : String
  worldId : String
  operatorId : String
  contractId : String
  journalEffectId : String
  economyReleaseHash : String
  serviceStartMs : Int
  serviceEndMs : Int
  settledAtMs : Int
  orderingFeeCents : String
  bonusCents : String
  penaltyCents : String
  contentHash : String

/-- The revenue of a contract that was posted. -/
structure ConfirmedFareContractRevenueV1 where
  evidence : FareContractRevenueEvidenceV1
  ledgerTransactionId : String

/-! ### The world -/

/-- What a command asks of the world beside the ledger. -/
inductive FareControlEffectBindingV1 where
  | claim (caseId : String)
  | hold (holdId : String) (caseIds : List String)

structure FareControlReceiptV1 where
  commandId : String
  commandHash : String
  domainStateHash : String
  revision : ℕ
  caseId : Option String
  binding : Option FareControlEffectBindingV1
  ledgerEventIds : List String

structure FareControlWorldStateV1 where
  schemaVersion : String
  worldId : String
  operatorId : String
  revision : ℕ
  nowMs : Int
  cases : Registry String FareInspectionCaseV1
  policePlans : Registry String PoliceResponsePlanV1
  days : Registry String FareDaySettlementV1
  ledgerEvents : Registry String FareLedgerEventV1
  receipts : Registry String FareControlReceiptV1
  stateHash : String

/-- What a command does. -/
inductive FareControlActionV1 where
  | openCase (caseId : String) (pin : FareInspectionPinV1)
  | inspectDocument (caseId : String)
  | createClaim (caseId : String) (kind : FareClaimKindV1)
  | closeCase (caseId : String)
  | receiveProof (caseId : String) (receivedAtMs : Int)
  | advanceTime
  | planPolice (holdId trainRunId targetStopId : String) (caseIds : List String)
      (model : PoliceResponseModelV1)
  | resolvePolice (evidence : PoliceOperationalEvidenceV1)
  | settleDay (dayStartMs : Int) (contractRevenueEvidence : List ConfirmedFareContractRevenueV1)
      (economyRelease : EconomyReleaseDocument)

structure FareControlCommandV1 where
  worldId : String
  operatorId : String
  commandId : String
  expectedRevision : ℕ
  nowMs : Int
  action : FareControlActionV1

/-- What a command gives. -/
structure FareControlTransitionV1 where
  state : FareControlWorldStateV1
  receipt : FareControlReceiptV1
  ledgerEvents : List FareLedgerEventV1

/-! ### Hashes -/

/-- The hashes of the serialized values. -/
structure Hashing where
  policy : FareInspectionPolicyV1 → String
  journeyEvidence : FareJourneyEvidenceV1 → String
  policeModel : PoliceResponseModelV1 → String
  plan : PoliceResponsePlanV1 → String
  revenueEvidence : FareContractRevenueEvidenceV1 → String
  pin : FareInspectionPinV1 → String
  event : String × String × String × Option String × String → String
  command : String × String × String × Int × FareControlActionV1 → String
  domain : FareControlWorldStateV1 → String
  state : FareControlWorldStateV1 → String

end Zugfolge.FareControl
