/-
The pinned economy release of a world.

A release holds the rates and rules of a world and the catalogue of tender profiles.  A world is
pinned to one release by its version and its checksum.
-/
import Zugfolge.Economy.Money

namespace Zugfolge.Economy

/-- What a penalty is about. -/
inductive PenaltyFocus where
  | punctuality | cancellation | seats | connections

/-- An amount for each penalty. -/
structure PenaltyRates where
  punctuality : Int
  cancellation : Int
  seats : Int
  connections : Int

def PenaltyRates.get (rates : PenaltyRates) : PenaltyFocus → Int
  | .punctuality => rates.punctuality
  | .cancellation => rates.cancellation
  | .seats => rates.seats
  | .connections => rates.connections

/-- Changes the amount of a penalty. -/
def PenaltyRates.set (rates : PenaltyRates) (amount : Int) : PenaltyFocus → PenaltyRates
  | .punctuality => { rates with punctuality := amount }
  | .cancellation => { rates with cancellation := amount }
  | .seats => { rates with seats := amount }
  | .connections => { rates with connections := amount }

/-- The amounts in their order. -/
def PenaltyRates.values (rates : PenaltyRates) : List Int :=
  [rates.punctuality, rates.cancellation, rates.seats, rates.connections]

/-- What a tender asks for beyond the minimum. -/
inductive RequirementFocus where
  | capacity | comfort | bicycle | accessibility

inductive Traction where
  | electric | diesel | battery | hydrogen
  deriving DecidableEq

inductive SpecialCondition where
  | additionalStop (minimumAdditionalStops : Int)
  | maximumAge (maximumAgeYears : Int)
  | traction (allowed : List Traction)
  | replacementPlan

/-- The weights of price and quality, in ten-thousandths. -/
structure ScoringWeights where
  price : Int
  quality : Int

structure TenderProfile where
  id : String
  weights : ScoringWeights
  requirementFocus : RequirementFocus
  penaltyFocus : PenaltyFocus
  specialCondition : Option SpecialCondition
  viabilitySurchargeBasisPoints : Int

/-- The rates of the infrastructure and of operating. -/
structure EconomyRates where
  trackPerTrainKmCents : Int
  stationPerStopCents : Int
  facilityPerHourCents : Int
  energyPerKwhCents : Int
  personnelPerHourCents : Int
  administrationPerPeriodCents : Int
  vehiclePerPeriodCents : Int
  overnightStablingPerPeriodCents : Int
  protectionEquipmentPerPeriodCents : Int

/-- The rules for scores, contracts and public operations. -/
structure EconomyRules where
  qualityBaselinePunctualityBasisPoints : Int
  pointsPerExtraSeat : Int
  pointsPerPunctualityBasisPoint : Int
  pointsPerAdditionalStop : Int
  requirementFocusMaximumPoints : Int
  contractBonusCentsPerPeriod : Int
  penaltyRates : PenaltyRates
  penaltyFocusMultiplierBasisPoints : Int
  publicOperationSurchargeBasisPoints : Int

structure EconomyRelease where
  version : String
  rates : EconomyRates
  rules : EconomyRules
  tenderProfiles : List TenderProfile
  /-- Whether the release has rules for fare inspections. -/
  fareInspection : Bool
  checksum : String

/-- The release a world is pinned to. -/
structure WorldEconomyPin where
  worldId : String
  releaseVersion : String
  releaseChecksum : String

def pinEconomyRelease (worldId : String) (release : EconomyRelease) : WorldEconomyPin where
  worldId := worldId
  releaseVersion := release.version
  releaseChecksum := release.checksum

def assertPinnedRelease (pin : WorldEconomyPin) (release : EconomyRelease) : Outcome Unit :=
  require (pin.releaseVersion == release.version && pin.releaseChecksum == release.checksum)
    "EconomyRelease stimmt nicht mit der Welt-Pinnung überein."

end Zugfolge.Economy
