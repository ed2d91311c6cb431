/-
Tenders and bids.

A tender describes a service and its deadlines.  Bids are scored by price and quality; a bid that
cannot be scored is not valid.  The best valid bid wins.
-/
import Mathlib.Data.List.Sort
import Mathlib.Data.String.Basic
import Zugfolge.Economy.Release

namespace Zugfolge.Economy

open Foundation

/-! ### Services -/

/-- What a vehicle has to offer. -/
structure VehicleRequirements where
  minimumSeats : Int
  minimumMaximumSpeedKph : Option Int
  firstClassBasisPoints : Int
  accessible : Bool
  bicyclePlaces : Int
  wheelchairPlaces : Int
  requiredEquipment : List String

/-- The service of a lot for one period. -/
structure ServiceSpecification where
  lines : List String
  trainKmPerPeriod : Int
  stopsPerPeriod : Int
  serviceHoursPerPeriod : Int
  facilityHoursPerPeriod : Int
  energyKwhPerPeriod : Int
  vehicleCount : Int
  overnightUnits : Int
  protectionUnits : Int
  requirements : VehicleRequirements

/-- The plan from which a service was derived. -/
structure TenderPlanningEvidence where
  source : String
  planningRevision : Int
  snapshotHash : String
  lotId : String

/-! ### Tenders -/

structure Tender where
  id : String
  worldId : String
  lotId : String
  incumbentOperatorId : String
  profile : TenderProfile
  rules : EconomyRules
  specification : ServiceSpecification
  planningEvidence : Option TenderPlanningEvidence
  announcedAt : Int
  opensAt : Int
  closesAt : Int
  operatingFrom : Int
  contractPeriods : Int
  periodDurationSeconds : Int
  viabilityThresholdCentsPerTrainKm : Int
  status : String

/-- What a caller says about a tender. -/
structure TenderInput where
  id : String
  worldId : String
  lotId : String
  incumbentOperatorId : String
  specification : ServiceSpecification
  planningEvidence : Option TenderPlanningEvidence
  announcedAt : Int
  opensAt : Int
  closesAt : Int
  operatingFrom : Int
  contractPeriods : Int
  periodDurationSeconds : Int
  smallLot : Bool

/-- The highest fee that a bid may ask. -/
def calculateViabilityThreshold (release : EconomyRelease) (specification : ServiceSpecification)
    (profile : TenderProfile) : Outcome Int := do
  let r := release.rates
  require (0 < specification.trainKmPerPeriod)
    "Leistungsbeschreibung braucht positive Zugkilometer."
  let total :=
    specification.trainKmPerPeriod * r.trackPerTrainKmCents
      + specification.stopsPerPeriod * r.stationPerStopCents
      + specification.serviceHoursPerPeriod * r.personnelPerHourCents
      + specification.facilityHoursPerPeriod * r.facilityPerHourCents
      + specification.energyKwhPerPeriod * r.energyPerKwhCents
      + specification.vehicleCount * r.vehiclePerPeriodCents
      + specification.overnightUnits * r.overnightStablingPerPeriodCents
      + specification.protectionUnits * r.protectionEquipmentPerPeriodCents
      + r.administrationPerPeriodCents
  let profiled := total + Int.tdiv (total * profile.viabilitySurchargeBasisPoints) 10000
  return Int.tdiv (profiled + specification.trainKmPerPeriod - 1) specification.trainKmPerPeriod

/-- A tender with the rules of the release. -/
def createTender (input : TenderInput) (profile : TenderProfile) (release : EconomyRelease) :
    Outcome Tender := do
  let duration := input.closesAt - input.opensAt
  let min := if input.smallLot then 86400 else 3 * 86400
  let max := if input.smallLot then 2 * 86400 else 7 * 86400
  require (!(duration < min || max < duration || input.opensAt < input.announcedAt
      || input.operatingFrom ≤ input.closesAt || input.contractPeriods < 2
      || input.periodDurationSeconds ≤ 0))
    "Ungültige Fristen im Vergabeverfahren."
  let threshold ← calculateViabilityThreshold release input.specification profile
  return {
    id := input.id
    worldId := input.worldId
    lotId := input.lotId
    incumbentOperatorId := input.incumbentOperatorId
    profile := profile
    rules := release.rules
    specification := input.specification
    planningEvidence := input.planningEvidence
    announcedAt := input.announcedAt
    opensAt := input.opensAt
    closesAt := input.closesAt
    operatingFrom := input.operatingFrom
    contractPeriods := input.contractPeriods
    periodDurationSeconds := input.periodDurationSeconds
    viabilityThresholdCentsPerTrainKm := threshold
    status := "announced" }

/-- What is known of a tender that was created. -/
lemma createTender_eq_ok {input : TenderInput} {profile : TenderProfile} {release : EconomyRelease}
    {tender : Tender} (h : createTender input profile release = .ok tender) :
    (tender.id = input.id ∧ tender.lotId = input.lotId ∧
      tender.announcedAt = input.announcedAt ∧
      tender.periodDurationSeconds = input.periodDurationSeconds) ∧
    (tender.announcedAt ≤ tender.opensAt ∧ tender.opensAt < tender.closesAt ∧
      tender.closesAt < tender.operatingFrom) ∧
    2 ≤ tender.contractPeriods ∧ 0 < tender.periodDurationSeconds := by
  simp only [createTender, bind_eq_ok_iff, require_eq_ok, exists_const] at h
  obtain ⟨hdeadlines, threshold, -, h⟩ := h
  cases h
  simp only [Bool.not_eq_true', Bool.or_eq_false_iff, decide_eq_false_iff_not, not_lt,
    not_le] at hdeadlines
  obtain ⟨⟨⟨⟨⟨hshort, -⟩, hannounced⟩, hfrom⟩, hperiods⟩, hduration⟩ := hdeadlines
  refine ⟨⟨rfl, rfl, rfl, rfl⟩, ⟨hannounced, ?_, hfrom⟩, hperiods, hduration⟩
  change input.opensAt < input.closesAt
  split at hshort <;> omega

lemma id_of_createTender {input : TenderInput} {profile : TenderProfile} {release : EconomyRelease}
    {tender : Tender} (h : createTender input profile release = .ok tender) :
    tender.id = input.id := (createTender_eq_ok h).1.1

/-! ### Bids -/

structure VehicleEvidence where
  source : String
  fleetRevision : Int
  snapshotHash : String
  formationId : String
  deriving DecidableEq

structure VehicleConcept where
  minimumSeats : Int
  firstClassBasisPoints : Int
  accessible : Bool
  bicyclePlaces : Int
  wheelchairPlaces : Int
  requiredEquipment : List String
  formationId : String
  maximumSpeedKph : Int
  operatingCostCentsPerTrainKm : Int
  vehicleAgeYears : Int
  traction : Traction
  replacementPlan : Bool
  evidence : VehicleEvidence
  deriving DecidableEq

/-- What a bid promises. -/
structure QualityPromises where
  extraSeats : Int
  punctualityBasisPoints : Int
  additionalStops : Int
  deriving DecidableEq

structure Bid where
  id : String
  operatorId : String
  orderingFeeCentsPerTrainKm : Int
  vehicle : VehicleConcept
  promises : QualityPromises
  submittedAt : Int
  deriving DecidableEq

/-- What the vehicle lacks. -/
def validateVehicle (requirements : VehicleRequirements) (vehicle : VehicleConcept) :
    List String :=
  (if vehicle.evidence.source != "zugfolge-fleet-mobilization/v1"
      || vehicle.evidence.formationId != vehicle.formationId
      || !isSafeInteger vehicle.evidence.fleetRevision
      || vehicle.evidence.fleetRevision < 0
      || !Text.isHash vehicle.evidence.snapshotHash then ["fleetSnapshotEvidence"] else []) ++
  (if vehicle.minimumSeats < requirements.minimumSeats then ["minimumSeats"] else []) ++
  (if requirements.minimumMaximumSpeedKph.any (vehicle.maximumSpeedKph < ·)
    then ["maximumSpeedKph"] else []) ++
  (if vehicle.firstClassBasisPoints < requirements.firstClassBasisPoints
    then ["firstClassBasisPoints"] else []) ++
  (if requirements.accessible && !vehicle.accessible then ["accessible"] else []) ++
  (if vehicle.bicyclePlaces < requirements.bicyclePlaces then ["bicyclePlaces"] else []) ++
  (if vehicle.wheelchairPlaces < requirements.wheelchairPlaces then ["wheelchairPlaces"]
    else []) ++
  (requirements.requiredEquipment.filter fun item =>
    !vehicle.requiredEquipment.contains item).map ("equipment:" ++ ·)

/-- The points of a bid. -/
structure ScoreBreakdown where
  pricePoints : Int
  qualityPoints : Int
  extraSeats : Int
  punctuality : Int
  additionalStops : Int
  requirementFocus : Int

def dimensionMaximumPoints : Int := 2500

/-- The most additional stops a bid may promise. -/
def maximumAdditionalStops : Int := 0

/-- The points for a quantity, up to the maximum. -/
def boundedPoints (quantity rate : Int) : Outcome Int := do
  require (isSafeInteger quantity && isSafeInteger rate && 0 ≤ quantity && 0 ≤ rate)
    "Qualitaetswertung braucht sichere nichtnegative Ganzzahlen."
  return min (quantity * rate) dimensionMaximumPoints

/-- A special condition that a bid does not meet. -/
def specialConditionError (bid : Bid) : SpecialCondition → Option String
  | .additionalStop minimumAdditionalStops =>
    if bid.promises.additionalStops < minimumAdditionalStops
    then some "Sonderauflage Zusatzhalte nicht erfüllt." else none
  | .maximumAge maximumAgeYears =>
    if maximumAgeYears < bid.vehicle.vehicleAgeYears
    then some "Sonderauflage Fahrzeugalter nicht erfüllt." else none
  | .traction allowed =>
    if !allowed.contains bid.vehicle.traction
    then some "Sonderauflage Traktion nicht erfüllt." else none
  | .replacementPlan =>
    if !bid.vehicle.replacementPlan
    then some "Sonderauflage SEV-Konzept nicht erfüllt." else none

/-- The points for what the tender asks beyond the minimum, before they are bounded. -/
def uncappedFocusPoints (tender : Tender) (bid : Bid) : Int :=
  match tender.profile.requirementFocus with
  | .capacity =>
    (bid.vehicle.minimumSeats - tender.specification.requirements.minimumSeats)
      * tender.rules.pointsPerExtraSeat
  | .comfort =>
    bid.vehicle.firstClassBasisPoints - tender.specification.requirements.firstClassBasisPoints
  | .bicycle =>
    (bid.vehicle.bicyclePlaces - tender.specification.requirements.bicyclePlaces)
      * tender.rules.pointsPerExtraSeat
  | .accessibility =>
    if bid.vehicle.accessible then tender.rules.requirementFocusMaximumPoints else 0

/-- Scores a bid, or says why it is not valid. -/
def scoreBid (tender : Tender) (bid : Bid) : Outcome ScoreBreakdown := do
  let requirements := tender.specification.requirements
  let vehicleFailures := validateVehicle requirements bid.vehicle
  let reason :=
    if vehicleFailures.isEmpty then "Auskömmlichkeitsgrenze" else ",".intercalate vehicleFailures
  require (vehicleFailures.isEmpty
      && bid.orderingFeeCentsPerTrainKm ≤ tender.viabilityThresholdCentsPerTrainKm
      && 0 ≤ bid.orderingFeeCentsPerTrainKm) ("Ungültiges Angebot: " ++ reason)
  require ([bid.promises.extraSeats, bid.promises.punctualityBasisPoints,
        bid.promises.additionalStops].all (fun value => isSafeInteger value && 0 ≤ value)
      && bid.promises.punctualityBasisPoints ≤ 10000)
    "Qualitätszusagen sind außerhalb ihres Wertebereichs."
  require (isSafeInteger bid.vehicle.minimumSeats
      && bid.promises.extraSeats ≤ bid.vehicle.minimumSeats - requirements.minimumSeats)
    "Sitzplatzzusage ist durch die Formation nicht nachgewiesen."
  require (bid.promises.additionalStops ≤ maximumAdditionalStops)
    ("Zusatzhalte benoetigen einen serverseitigen Halte- und Trassennachweis; derzeit sind nur " ++
      "ausgeschriebene Halte zulaessig.")
  (tender.profile.specialCondition.bind (specialConditionError bid)).elim (.ok ()) .error
  let threshold := tender.viabilityThresholdCentsPerTrainKm
  let priceRatio :=
    if threshold == 0 then 10000
    else Int.tdiv ((threshold - bid.orderingFeeCentsPerTrainKm) * 10000) threshold
  let maximum := tender.rules.requirementFocusMaximumPoints
  let extraSeats ← boundedPoints bid.promises.extraSeats tender.rules.pointsPerExtraSeat
  let punctuality ← boundedPoints
    (max 0 (bid.promises.punctualityBasisPoints
      - tender.rules.qualityBaselinePunctualityBasisPoints))
    tender.rules.pointsPerPunctualityBasisPoint
  let additionalStops ← boundedPoints bid.promises.additionalStops
    tender.rules.pointsPerAdditionalStop
  let requirementFocus :=
    min (min dimensionMaximumPoints maximum) (max 0 (uncappedFocusPoints tender bid))
  let qualityRatio := extraSeats + punctuality + additionalStops + requirementFocus
  return {
    pricePoints := Int.fdiv (priceRatio * tender.profile.weights.price) 10000
    qualityPoints := Int.fdiv (qualityRatio * tender.profile.weights.quality) 10000
    extraSeats := extraSeats
    punctuality := punctuality
    additionalStops := additionalStops
    requirementFocus := requirementFocus }

/-! ### Awards -/

structure ScoredBid where
  bid : Bid
  score : ScoreBreakdown

/-- The points of a bid together. -/
def ScoredBid.total (entry : ScoredBid) : Int := entry.score.pricePoints + entry.score.qualityPoints

/-- The order of valid bids: more points, then a lower fee, then the name. -/
def ScoredBid.order (a b : ScoredBid) : Ordering :=
  (compare b.total a.total).then <|
    (compare a.bid.orderingFeeCentsPerTrainKm b.bid.orderingFeeCentsPerTrainKm).then <|
      compare a.bid.id b.bid.id

/-- The outcome of a tender. -/
structure Award where
  winner : Option Bid
  scores : List (String × ScoreBreakdown)
  status : String

/-- The valid bids in the order in which they came. -/
def validBids (tender : Tender) (bids : List Bid) : List ScoredBid :=
  (bids.filter fun bid => bid.submittedAt ≤ tender.closesAt).filterMap fun bid =>
    (scoreBid tender bid).toOption.map fun score => { bid := bid, score := score }

/-- Awards a tender: the best valid bid wins. -/
def awardTender (tender : Tender) (bids : List Bid) (time : Int) : Outcome Award := do
  require (tender.closesAt ≤ time) "Zuschlag erst bei Fristende."
  let valid := (validBids tender bids).insertionSort fun a b => (a.order b).isLE = true
  return {
    winner := valid.head?.map ScoredBid.bid
    scores := valid.map fun entry => (entry.bid.id, entry.score)
    status := if valid.isEmpty then "failed" else "awarded" }

end Zugfolge.Economy
