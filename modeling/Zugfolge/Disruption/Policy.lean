/-
Disruption policies.

Which source planned works and incidents of a world come from, as a versioned policy that holds
from a date of the timetable on.
-/
import Zugfolge.Conflict.Blocking
import Zugfolge.Foundation.Text

namespace Zugfolge.Disruption

open Foundation Conflict

/-- What the disruption core refuses. -/
inductive DisruptionError where
  | invalidPolicy
  | invalidProfile
  | providerRequired
  | wrongMode
  | invalidGenerationWindow
  | missingResource
  | invalidEffect
  | wrongWorld
  | unauthorized
  | invalidManualCommand
  | invalidCauseCode
  | invalidFineCauseCode
  | invalidConstructionNotice
  | invalidScheduleBoundary
  | invalidAudit
  | invalidMovement
  | invalidReplacementRequest
  | invalidProvider
  | unknownProvider
  | rightsNotApproved
  | overflow
  deriving DecidableEq

/-- Where planned works or incidents come from. -/
inductive DisruptionMode where
  | realistic
  | simulated
  | manual
  deriving DecidableEq

/-- The settings of the generator. -/
structure SimulationProfile where
  id : String
  eventsPerPeriod : ℕ
  minimumSeverityBasisPoints : ℕ
  maximumSeverityBasisPoints : ℕ
  minimumDurationSeconds : Int
  maximumDurationSeconds : Int
  minimumNoticeSeconds : Int
  maximumNoticeSeconds : Int
  dailyRestrictionsPerDay : ℕ
  infrastructureIncidentsPer100Days : ℕ
  vehicleIncidentsPer10000TrainRuns : ℕ
  dwellIncidentsPer10000Stops : ℕ
  deriving DecidableEq

/-- The ranges of a profile are in order. -/
def SimulationProfile.isValid (profile : SimulationProfile) : Bool :=
  !(Text.isBlank profile.id
    || profile.eventsPerPeriod == 0
    || profile.maximumSeverityBasisPoints < profile.minimumSeverityBasisPoints
    || 10000 < profile.maximumSeverityBasisPoints
    || profile.minimumDurationSeconds ≤ 0
    || profile.maximumDurationSeconds < profile.minimumDurationSeconds
    || profile.minimumNoticeSeconds < 0
    || profile.maximumNoticeSeconds < profile.minimumNoticeSeconds
    || profile.dailyRestrictionsPerDay == 0
    || 100000 < profile.infrastructureIncidentsPer100Days
    || 10000 < profile.vehicleIncidentsPer10000TrainRuns
    || 10000 < profile.dwellIncidentsPer10000Stops)

structure DisruptionPolicy where
  worldId : ℕ
  version : ℕ
  plannedWorksMode : DisruptionMode
  operationalIncidentMode : DisruptionMode
  providerSetId : Option String
  simulationProfile : SimulationProfile
  rulesetVersion : String
  validFrom : SimTime
  validUntil : Option SimTime
  deriving DecidableEq

namespace DisruptionPolicy

/-- A realistic source needs the name of a set of providers. -/
def lacksProvider (policy : DisruptionPolicy) : Bool :=
  (policy.plannedWorksMode == .realistic || policy.operationalIncidentMode == .realistic)
    && policy.providerSetId.all Text.isBlank

/-- Builds a policy that passes its checks. -/
def new (policy : DisruptionPolicy) : Except DisruptionError DisruptionPolicy :=
  if !policy.simulationProfile.isValid then .error .invalidProfile
  else if policy.worldId == 0 || policy.version == 0 || Text.isBlank policy.rulesetVersion
      || policy.validUntil.any (fun validUntil => validUntil ≤ policy.validFrom) then
    .error .invalidPolicy
  else if policy.lacksProvider then .error .providerRequired
  else .ok policy

end DisruptionPolicy

end Zugfolge.Disruption
