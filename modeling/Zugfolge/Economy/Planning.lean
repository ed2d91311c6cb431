/-
The planned services of a world and the rule by which they are tendered.

A plan was made from a timetable and holds the lots of a world.  A lot says what was counted on some
sample days; the service of a period is scaled up from it.
-/
import Zugfolge.Economy.Finance
import Zugfolge.Foundation.EntryMap

namespace Zugfolge.Economy

open Foundation

/-! ### Plans -/

/-- How a service is shown to players. -/
structure ServicePresentation where
  designation : String
  origin : String
  destination : String
  deriving DecidableEq

structure GtfsServicePattern where
  lineId : String
  presentation : Option ServicePresentation

/-- What was counted for a lot; the large numbers are written in digits. -/
structure SpecificationBasis where
  sampleServiceDays : Int
  totalTrainMeters : String
  totalStops : String
  totalServiceSeconds : String
  totalEnergyWh : String
  peakVehicles : Int
  facilityMinutesPerDay : Int
  overnightUnits : Int
  protectionUnits : Int
  requirements : VehicleRequirements

structure GtfsServiceLot where
  id : String
  lineIds : List String
  size : Int
  attractiveness : Int
  smallLot : Bool
  specificationBasis : SpecificationBasis

structure GtfsPlanningSnapshot where
  worldId : String
  revision : Int
  patterns : List GtfsServicePattern
  lots : List GtfsServiceLot

/-- A plan with its hash. -/
structure GtfsPlanningEnvelope where
  snapshot : GtfsPlanningSnapshot
  snapshotHash : String
  /-- What the check of the whole plan and its hash finds wrong. -/
  refusal : Option String

/-- The plan is valid. -/
def validateGtfsPlanningEnvelope (envelope : GtfsPlanningEnvelope) : Outcome Unit :=
  require envelope.refusal.isNone (envelope.refusal.getD "")

def lotsFromGtfsPlanning (envelope : GtfsPlanningEnvelope) (expectedWorldId : String) :
    Outcome (List Lot) := do
  validateGtfsPlanningEnvelope envelope
  require (envelope.snapshot.worldId == expectedWorldId) "GTFS-Planung verletzt Weltisolation."
  return envelope.snapshot.lots.map fun lot =>
    { id := lot.id, size := lot.size, attractiveness := lot.attractiveness }

/-- A count scaled from the sample days to the days of a period, rounded up. -/
def scaleCeil (value : String) (days sampleDays unitDivisor : Int) : Outcome Int := do
  let value ← orThrow (parseInteger value) ("Cannot convert " ++ value ++ " to a BigInt")
  let divisor := sampleDays * unitDivisor
  require (divisor != 0) "Division by zero"
  return Int.tdiv (value * days + divisor - 1) divisor

structure PlannedService where
  lot : GtfsServiceLot
  specification : ServiceSpecification
  evidence : TenderPlanningEvidence

/-- The service of a lot for a period. -/
def deriveValidatedServiceSpecification (lot : GtfsServiceLot) (planningRevision : Int)
    (snapshotHash : String) (periodDurationSeconds : Int) : Outcome PlannedService := do
  let days := Int.tdiv periodDurationSeconds 86400
  let basis := lot.specificationBasis
  let trainKm ← scaleCeil basis.totalTrainMeters days basis.sampleServiceDays 1000
  let stops ← scaleCeil basis.totalStops days basis.sampleServiceDays 1
  let serviceHours ← scaleCeil basis.totalServiceSeconds days basis.sampleServiceDays 3600
  let energyKwh ← scaleCeil basis.totalEnergyWh days basis.sampleServiceDays 1000
  require (0 < trainKm && 0 < serviceHours) "GTFS-Los ergibt keine positive Verkehrsleistung."
  return {
    lot := lot
    specification := {
      lines := lot.lineIds
      trainKmPerPeriod := trainKm
      stopsPerPeriod := stops
      serviceHoursPerPeriod := serviceHours
      facilityHoursPerPeriod := Int.tdiv (basis.facilityMinutesPerDay * days + 59) 60
      energyKwhPerPeriod := energyKwh
      vehicleCount := basis.peakVehicles
      overnightUnits := basis.overnightUnits
      protectionUnits := basis.protectionUnits
      requirements := basis.requirements }
    evidence := {
      source := "zugfolge-gtfs-planning/v2"
      planningRevision := planningRevision
      snapshotHash := snapshotHash
      lotId := lot.id } }

/-- The services of all lots of a plan. -/
def deriveGtfsServiceSpecifications (envelope : GtfsPlanningEnvelope) (expectedWorldId : String)
    (periodDurationSeconds : Int) : Outcome (EntryMap String PlannedService) := do
  require (isSafeInteger periodDurationSeconds && 0 < periodDurationSeconds
      && periodDurationSeconds % 86400 == 0)
    "Vertragsperiode muss aus ganzen, positiven Verkehrstagen bestehen."
  validateGtfsPlanningEnvelope envelope
  require (envelope.snapshot.worldId == expectedWorldId) "GTFS-Planung verletzt Weltisolation."
  let planned ← envelope.snapshot.lots.mapM fun lot =>
    deriveValidatedServiceSpecification lot envelope.snapshot.revision envelope.snapshotHash
      periodDurationSeconds
  return EntryMap.ofEntries (planned.map fun service => (service.lot.id, service))

/-! ### Generation -/

/-- How long bids for a small lot are taken. -/
def smallLotBidWindowSeconds : Int := 86400

/-- How long bids for another lot are taken. -/
def regularLotBidWindowSeconds : Int := 3 * 86400

/-- After how many periods a lot is tendered again that nobody got. -/
def failedOperationRetenderPeriods : Int := 2

/-- The rule by which lots are tendered. -/
structure TenderGenerationPolicy where
  schemaVersion : String
  authorityId : String
  authorityBudgetCentsPerPeriod : Int
  failurePenaltyCents : Int

/-- The rule is valid. -/
def validateTenderGenerationPolicy (policy : TenderGenerationPolicy) : Outcome Unit := do
  require (policy.schemaVersion == "zugfolge-tender-generation/v1"
      && !isBlankText policy.authorityId)
    "Automatische Ausschreibungen brauchen eine versionierte Aufgabentraegerregel."
  let _ ← assertNonnegativeI64 policy.authorityBudgetCentsPerPeriod
    "Aufgabentraegerbudget je Periode"
  let _ ← assertNonnegativeI64 policy.failurePenaltyCents "Mobilisierungspoenale"
  require (policy.authorityBudgetCentsPerPeriod != 0)
    "Automatische Ausschreibungen brauchen ein positives Aufgabentraegerbudget."

lemma budget_nonneg_of_validate {policy : TenderGenerationPolicy} {u : Unit}
    (h : validateTenderGenerationPolicy policy = .ok u) :
    0 ≤ policy.authorityBudgetCentsPerPeriod := by
  unfold validateTenderGenerationPolicy at h
  rw [require_bind_eq_ok, bind_eq_ok_iff] at h
  obtain ⟨-, amount, hamount, -⟩ := h
  exact (assertNonnegativeI64_eq_ok.mp hamount).1

end Zugfolge.Economy
