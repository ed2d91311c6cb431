/-
Contracts, public operations and the budgets of authorities.

A contract is settled period by period from the evidence for what was run.
-/
import Zugfolge.Economy.Calendar

namespace Zugfolge.Economy

open Foundation

/-! ### Mobilisation -/

/-- The evidence that an operator is ready to run a lot. -/
structure MobilizationProof where
  source : String
  verifiedBy : String
  fleetRevision : Int
  snapshotHash : String
  formationIds : List String
  personnelDutyIds : List String
  pathReservationIds : List String

/-- There are names, none is blank and none comes twice. -/
def validIds (ids : List String) : Bool :=
  !ids.isEmpty && ids.all (fun id => !isBlankText id) && decide ids.Nodup

def isMobilizationProofComplete (proof : Option MobilizationProof) : Bool :=
  proof.any fun proof =>
    proof.source == "m5-release" && proof.verifiedBy == "zugfolge-fleet-mobilization/v1"
      && isSafeInteger proof.fleetRevision && 0 ≤ proof.fleetRevision
      && Text.isHash proof.snapshotHash && validIds proof.formationIds
      && validIds proof.personnelDutyIds && validIds proof.pathReservationIds

/-! ### Contracts -/

/-- What the operator of a contract has promised. -/
structure ContractPromises where
  schemaVersion : String
  extraSeats : Int
  punctualityBasisPoints : Int
  additionalStops : Int
  minimumSeats : Int

/-- A contract to run a lot. -/
structure ServiceContract where
  qualityPromises : Option ContractPromises
  id : String
  worldId : String
  lotId : String
  operatorId : String
  startsAt : Int
  endsAt : Int
  orderingFeeCentsPerTrainKm : Int
  bonusCentsPerPeriod : Int
  penaltyRates : PenaltyRates
  evidenceRequired : List String
  mandatoryVehicleCostCentsPerTrainKm : Option Int

/-- What an operator ran in a period. -/
structure PerformanceEvidence where
  trainKm : Int
  minimumSeatsProvided : Option Int
  punctualityBasisPoints : Int
  cancellations : Int
  missingSeats : Int
  missedConnections : Int
  evidence : List String

structure ContractSettlement where
  orderingFeeCents : Int
  bonusCents : Int
  penaltyCents : Int
  netCents : Int
  explanation : List String

namespace PerformanceEvidence

variable (performance : PerformanceEvidence)

/-- The numbers lie in their ranges. -/
def isValid : Bool :=
  0 ≤ performance.trainKm
    && isSafeInteger performance.punctualityBasisPoints && 0 ≤ performance.punctualityBasisPoints
    && performance.punctualityBasisPoints ≤ 10000
    && isSafeInteger performance.cancellations && 0 ≤ performance.cancellations
    && isSafeInteger performance.missingSeats && 0 ≤ performance.missingSeats
    && isSafeInteger performance.missedConnections && 0 ≤ performance.missedConnections

/-- More seats were promised, and there is no number of seats. -/
def lacksSeats (promises : Option ContractPromises) : Bool :=
  promises.any fun promises => 0 < promises.extraSeats
    && !performance.minimumSeatsProvided.any fun seats => isSafeInteger seats && 0 ≤ seats

/-- The seats that were missing, those among them that were promised. -/
def seatsMissing (promises : Option ContractPromises) : Int :=
  max performance.missingSeats <| promises.elim 0 fun promises =>
    max 0 (promises.minimumSeats
      - performance.minimumSeatsProvided.getD promises.minimumSeats)

end PerformanceEvidence

namespace ServiceContract

variable (contract : ServiceContract) (performance : PerformanceEvidence)

/-- The contract runs at a time. -/
def runsAt (time : Int) : Prop := contract.startsAt ≤ time ∧ time < contract.endsAt

instance (time : Int) : Decidable (contract.runsAt time) :=
  inferInstanceAs (Decidable (_ ∧ _))

/-- No rate is negative. -/
def hasValidRates : Bool :=
  0 ≤ contract.orderingFeeCentsPerTrainKm && 0 ≤ contract.bonusCentsPerPeriod
    && contract.penaltyRates.values.all (0 ≤ ·)

/-- The punctuality that was promised. -/
def targetPunctuality : Int :=
  contract.qualityPromises.elim 9000 ContractPromises.punctualityBasisPoints

def earnedBonus : Int :=
  if max 9500 contract.targetPunctuality ≤ performance.punctualityBasisPoints
      && performance.cancellations == 0
      && performance.seatsMissing contract.qualityPromises == 0
    then contract.bonusCentsPerPeriod else 0

/-- How often a penalty is due. -/
def penaltyUnits : PenaltyFocus → Int
  | .punctuality => max 0 (contract.targetPunctuality - performance.punctualityBasisPoints)
  | .cancellation => performance.cancellations
  | .seats => performance.seatsMissing contract.qualityPromises
  | .connections => performance.missedConnections

end ServiceContract

/-- The penalties with their names, in the order in which they are settled. -/
def penaltyNames : List (PenaltyFocus × String) :=
  [(.punctuality, "Puenktlichkeitspoenale"), (.cancellation, "Ausfallpoenale"),
   (.seats, "Sitzplatzpoenale"), (.connections, "Anschlusspoenale")]

def settleContract (contract : ServiceContract) (performance : PerformanceEvidence) :
    Outcome ContractSettlement := do
  require performance.isValid "Leistungsnachweis enthält ungültige oder negative Werte."
  let _ ← assertNonnegativeI64 performance.trainKm "Zugkilometer"
  require contract.hasValidRates "Vertrag enthält negative Entgelt-, Bonus- oder Pönalesätze."
  let _ ← assertNonnegativeI64 contract.orderingFeeCentsPerTrainKm
    "Bestellerentgelt je Zugkilometer"
  let _ ← assertNonnegativeI64 contract.bonusCentsPerPeriod "Vertragsbonus"
  let _ ← contract.penaltyRates.values.mapM fun rate => assertNonnegativeI64 rate "Poenalesatz"
  let missing := contract.evidenceRequired.find? fun required =>
    !performance.evidence.contains required
  require missing.isNone ("Vertragsnachweis fehlt: " ++ missing.getD "")
  let orderingFee ← multiplyNonnegativeI64 performance.trainKm
    contract.orderingFeeCentsPerTrainKm "Bestellerentgelt"
  require (!performance.lacksSeats contract.qualityPromises)
    "Vertragsnachweis der zugesagten Sitzplatzkapazitaet fehlt."
  let bonus := contract.earnedBonus performance
  let penaltyParts ← penaltyNames.mapM fun entry =>
    multiplyNonnegativeI64 (contract.penaltyUnits performance entry.1)
      (contract.penaltyRates.get entry.1) entry.2
  let penalties ← sumI64 penaltyParts "Gesamtpoenale"
  let earned ← addI64 orderingFee bonus "Vertragserloes"
  let net ← subtractI64 earned penalties "Vertragsnetto"
  return {
    orderingFeeCents := orderingFee
    bonusCents := bonus
    penaltyCents := penalties
    netCents := net
    explanation := ["Bestellerentgelt " ++ printInteger orderingFee,
      "Bonus " ++ printInteger bonus, "Pönale " ++ printInteger penalties] }

/-! ### Public operations -/

/-- The service that the authority runs itself. -/
structure PublicOperation where
  lotId : String
  periodsRemaining : Int
  minimumServiceOnly : Bool
  qualityBonusEligible : Bool
  livemapMarker : String
  pathsPriority : String
  dispatchPolicy : String
  vehiclePool : List String
  deriving DecidableEq

/-- Starts to run a lot. -/
def startPublicOperation (lotId : String) (vehiclePool : List String) : PublicOperation where
  lotId := lotId
  periodsRemaining := 2
  minimumServiceOnly := true
  qualityBonusEligible := false
  livemapMarker := "public-operator"
  pathsPriority := "subordinate"
  dispatchPolicy := "conservative-no-optimization"
  vehiclePool := vehiclePool

/-! ### Budgets -/

structure AuthorityBudget where
  authorityId : String
  period : Int
  availableCents : Int
  committedCents : Int

/-- No more is committed than is available. -/
def AuthorityBudget.isKept (budget : AuthorityBudget) : Bool :=
  budget.committedCents ≤ budget.availableCents

/-- The budget has room for an amount. -/
def AuthorityBudget.takes (budget : AuthorityBudget) (amountCents : Int) : Bool :=
  0 ≤ amountCents && budget.committedCents + amountCents ≤ budget.availableCents

def commitAuthorityBudget (budget : AuthorityBudget) (amountCents : Int) :
    Outcome AuthorityBudget := do
  require (budget.takes amountCents) "Aufgabenträger-Budget reicht nicht aus."
  return { budget with committedCents := budget.committedCents + amountCents }

lemma commitAuthorityBudget_eq_ok {budget budget' : AuthorityBudget} {amountCents : Int} :
    commitAuthorityBudget budget amountCents = .ok budget' ↔
      budget.takes amountCents = true ∧
        budget' = { budget with committedCents := budget.committedCents + amountCents } := by
  unfold commitAuthorityBudget
  rw [require_bind_eq_ok]
  exact and_congr Iff.rfl ⟨fun h => by cases h; rfl, fun h => by rw [h]; rfl⟩

lemma AuthorityBudget.isKept_of_takes {budget : AuthorityBudget} {amountCents : Int}
    (h : budget.takes amountCents = true) :
    ({ budget with committedCents := budget.committedCents + amountCents } :
      AuthorityBudget).isKept = true := by
  rw [takes, Bool.and_eq_true, decide_eq_true_eq, decide_eq_true_eq] at h
  exact decide_eq_true h.2

end Zugfolge.Economy
