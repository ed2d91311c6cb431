/-
The state of one regional world.
-/
import Zugfolge.World.Contracts
import Zugfolge.Infrastructure.Release

namespace Zugfolge

open Foundation Std

/-! ### Motion states, locks and signals -/

inductive MotionState where
  | standing
  | moving
  | safeStop (reason : String)
  deriving DecidableEq

def MotionState.isSafeStop : MotionState → Bool
  | .standing => false
  | .moving => false
  | .safeStop _ => true

/-- The permission of a train to move up to a route position. -/
structure MovementAuthority where
  id : String
  trainId : String
  routeVersionId : String
  endRouteMm : RouteMillimetres
  issuedAtMs : SimMillis
  sourceRouteLockId : String
  deriving DecidableEq

/-- What a signal shows; a signal without an entry shows stop. -/
inductive SignalAspect where
  | stop
  | proceed
  | shuntingProceed
  | failed
  deriving DecidableEq

/-- The proceed aspect of a movement kind. -/
def MovementKind.aspect : MovementKind → SignalAspect
  | .train => .proceed
  | .shunting => .shuntingProceed

/-- A locked interlocking route. -/
structure RouteLock where
  id : String
  templateId : String
  trainId : String
  resources : KeySet String
  releaseAfterTailRouteMm : RouteMillimetres
  lockedAtMs : SimMillis
  deriving DecidableEq

/-- The life cycle of a resource; a resource without an entry is free. -/
inductive ResourceLifecycle where
  | routeLocked
  | occupiedByFormation

/-- The exact state of a train or shunting movement. -/
structure OperationalTrain where
  passengerStops : Option OperationalPassengerStopProgress
  serviceOutcome : Option ServiceOutcomeProgress
  id : String
  trainNumber : String
  operatorId : String
  movementKind : MovementKind
  routeVersionId : String
  formationVersionId : String
  headRouteMm : RouteMillimetres
  tailRouteMm : RouteMillimetres
  speedMmps : ℕ
  direction : Direction
  motionState : MotionState
  motionSegment : Option MotionSegment
  authority : Option MovementAuthority
  occupiedIntervals : List TrackInterval
  occupiedBlocks : KeySet String
  scheduledDepartureMs : Option SimMillis
  publicPassengerStop : Bool
  waitingReason : Option String
  deriving DecidableEq

/-! ### Schedules -/

/-- The end of a running motion segment. -/
structure ScheduledMotionEnd where
  atMs : SimMillis
  trainId : String
  segmentStartedAtMs : SimMillis

/-- The instant at which a train may leave a stop. -/
structure ScheduledPassengerDeparture where
  atMs : SimMillis
  trainId : String
  stopSequence : ℕ

/-- The instant at which a continuation is due. -/
structure ScheduledContinuationDue where
  atMs : SimMillis
  continuationId : String

/-- The instant at which a hold begins or ends. -/
structure ScheduledFareControlHold where
  atMs : SimMillis
  trainId : String

/-- The order of motion ends: by time first. -/
def ScheduledMotionEnd.order : ScheduledMotionEnd → ScheduledMotionEnd → Ordering :=
  compareLex (compareOn (·.atMs))
    (compareLex (compareOn (·.trainId)) (compareOn (·.segmentStartedAtMs)))

instance : Ord ScheduledMotionEnd := ⟨ScheduledMotionEnd.order⟩

instance : TransOrd ScheduledMotionEnd :=
  inferInstanceAs (TransCmp (compareLex _ (compareLex _ _)))

instance : LawfulEqOrd ScheduledMotionEnd :=
  lawfulEq_of_lex fun ⟨_, _, _⟩ ⟨_, _, _⟩ => by simp_all [compareOn, compareLex_eq_eq]

/-- The order of departures: by time first. -/
def ScheduledPassengerDeparture.order : ScheduledPassengerDeparture → ScheduledPassengerDeparture →
    Ordering :=
  compareLex (compareOn (·.atMs))
    (compareLex (compareOn (·.trainId)) (compareOn (·.stopSequence)))

instance : Ord ScheduledPassengerDeparture := ⟨ScheduledPassengerDeparture.order⟩

instance : TransOrd ScheduledPassengerDeparture :=
  inferInstanceAs (TransCmp (compareLex _ (compareLex _ _)))

/-- The order of due continuations: by time first. -/
def ScheduledContinuationDue.order : ScheduledContinuationDue → ScheduledContinuationDue →
    Ordering :=
  compareLex (compareOn (·.atMs)) (compareOn (·.continuationId))

instance : Ord ScheduledContinuationDue := ⟨ScheduledContinuationDue.order⟩

instance : TransOrd ScheduledContinuationDue := inferInstanceAs (TransCmp (compareLex _ _))

instance : LawfulEqOrd ScheduledContinuationDue :=
  lawfulEq_of_lex fun ⟨_, _⟩ ⟨_, _⟩ => by simp_all [compareOn]

/-- The order of due holds: by time first. -/
def ScheduledFareControlHold.order : ScheduledFareControlHold → ScheduledFareControlHold →
    Ordering :=
  compareLex (compareOn (·.atMs)) (compareOn (·.trainId))

instance : Ord ScheduledFareControlHold := ⟨ScheduledFareControlHold.order⟩

instance : TransOrd ScheduledFareControlHold := inferInstanceAs (TransCmp (compareLex _ _))

instance : LawfulEqOrd ScheduledFareControlHold :=
  lawfulEq_of_lex fun ⟨_, _⟩ ⟨_, _⟩ => by simp_all [compareOn]

/-! ### Side states -/

/-- The fare control state of a train that changes its region. -/
structure FareControlHandoverV1 where
  hold : FareControlHoldV1
  resumeRequest : Option DispatchRequest
  revokedAuthority : Option MovementAuthority
  deriving DecidableEq

structure FareControlState where
  policy : Option FareControlPolicyV1 := none
  holds : Registry String FareControlHoldV1 := ∅
  scheduled : KeySet ScheduledFareControlHold := ∅
  resumeRequests : Registry String DispatchRequest := ∅
  revokedAuthorities : Registry String MovementAuthority := ∅

structure InfrastructureDisruptionStop where
  causes : KeySet String
  revokedAuthority : Option MovementAuthority

structure ServicePlan where
  worldId : String
  operatorId : String
  lotId : String
  trainRunId : String
  serviceId : String
  serviceRunId : String
  serviceDay : String
  scheduledArrivalMs : SimMillis
  requiredSeats : Option ℕ
  connectionAssessment : ServiceConnectionAssessment
  deriving DecidableEq

/-- The published outcome of a completed run. -/
structure TrainOutcome where
  worldId : String
  operatorId : String
  lotId : String
  trainRunId : String
  serviceId : String
  serviceRunId : String
  serviceDay : String
  scheduledArrivalMs : SimMillis
  actualArrivalMs : SimMillis
  delaySeconds : Int
  distanceMm : Int
  trainKm : Int
  minimumSeatsProvided : Option ℕ
  capacitySources : KeySet String
  missingSeats : Option ℕ
  missedConnections : Option ℕ
  evidenceComplete : Bool

/-- The use of one vehicle in a cost receipt. -/
structure VehicleUse where
  vehicleId : String
  distanceMm : Int
  centsPerTrainKm : Option ℕ
  sourceReference : Option String
  deriving DecidableEq

/-- The published vehicle cost of a completed run. -/
structure VehicleCostReceipt where
  worldId : String
  regionId : String
  operatorId : String
  lotId : String
  trainRunId : String
  serviceRunId : String
  serviceDay : String
  evidenceComplete : Bool
  millimetreCents : Option Int
  vehicleUses : List VehicleUse
  economyReleaseHash : Option String
  fleetAuthorityReleaseHash : Option String
  deriving DecidableEq

structure ServiceOutcomeState where
  policy : ServiceOutcomePolicy
  planned : Registry String ServicePlan := ∅
  latestStartedDay : Registry String String := ∅

structure ServiceDayTemplateV1 where
  trainRunId : String
  operatorId : String
  firstDayIndex : ℕ
  scheduledDepartureMs : SimMillis
  binding : ServiceOutcomeBinding

structure ServiceVehicleCostRateV1 where
  vehicleId : String
  centsPerTrainKm : ℕ
  sourceReference : String

structure ServiceVehicleCostPolicyV1 where
  economyReleaseHash : String
  fleetAuthorityReleaseHash : String
  vehicleCosts : List ServiceVehicleCostRateV1

/-- The catalogue of all daily services. -/
structure ServiceDayPolicyV1 where
  schemaVersion : String
  epochServiceDay : String
  dayLengthMs : SimMillis
  services : List ServiceDayTemplateV1
  vehicleCostPolicy : Option ServiceVehicleCostPolicyV1

/-- The evidence collected for an open day. -/
structure ServiceDayProgress where
  outcomes : Registry String TrainOutcome := ∅
  costs : Registry String VehicleCostReceipt := ∅
  receiptHashes : Registry String String := ∅

/-- The way each vehicle has covered in a run. -/
structure VehicleCostProgress where
  lastHeadMm : RouteMillimetres
  distanceByVehicle : Registry String Int
  measurementHash : String

structure ServiceDayState where
  policy : ServiceDayPolicyV1
  nextDayIndex : ℕ := 0
  «open» : Registry ℕ ServiceDayProgress := ∅
  vehicleProgress : Registry String VehicleCostProgress := ∅

end Zugfolge
