/-
The contracts a train carries: passenger stops, service outcomes, fare control and
movement continuations.
-/
import Zugfolge.Driving.Motion
import Zugfolge.Fleet.Formation

namespace Zugfolge

open Foundation

def maxStopContractInteger : Int := 9007199254740991

/-- A name of a contract: not empty, of bounded length, without control characters. -/
def validId (value : String) : Bool :=
  !value.isEmpty && decide (value.utf8ByteSize ≤ 500) && !(value.toList.any Text.isControl)

/-- The number behind a train number: its last one to five digits, between 1 and 99999. -/
def operationalTrainNumberNumericPart (value : String) : Option ℕ :=
  if value.isEmpty || decide (200 < value.length) || !Text.isTrimmed value
      || value.toList.any Text.isControl then
    none
  else
    let digits := (value.toList.reverse.takeWhile Text.isDigit).reverse
    if 1 ≤ digits.length ∧ digits.length ≤ 5 then
      let numericPart := Text.digitsValue digits
      if 1 ≤ numericPart ∧ numericPart ≤ 99999 then some numericPart else none
    else none

/-! ### Passenger stops -/

structure OperationalPassengerStop where
  stopId : String
  stationId : String
  stopSequence : ℕ
  routeMm : RouteMillimetres
  platformId : String
  scheduledArrivalMs : SimMillis
  scheduledDepartureMs : SimMillis
  minimumDwellMs : SimMillis
  deriving DecidableEq

/-- The plan of all passenger stops of a run. -/
structure OperationalPassengerStopPlan where
  schemaVersion : String
  worldId : String
  infrastructureReleaseId : String
  timetableReleaseId : String
  serviceId : String
  serviceRunId : String
  trainRunId : String
  routeVersionId : String
  sourceBindingHash : String
  stops : List OperationalPassengerStop
  deriving DecidableEq

namespace OperationalPassengerStopPlan

/-- One stop is in its place, named and with times in order. -/
def stopIsValid (index : ℕ) (stop : OperationalPassengerStop) : Bool :=
  !(stop.stopSequence != index || !validId stop.stopId || !validId stop.stationId
    || !validId stop.platformId || decide (stop.routeMm < 0)
    || decide (stop.scheduledArrivalMs < 0) || decide (stop.minimumDwellMs < 0)
    || [stop.routeMm, stop.scheduledArrivalMs, stop.scheduledDepartureMs, stop.minimumDwellMs].any
        (fun value => decide (maxStopContractInteger < value))
    || !((addChecked64 stop.scheduledArrivalMs stop.minimumDwellMs).any
        fun ready => decide (ready ≤ stop.scheduledDepartureMs)))

/-- Adjacent stops advance along the route and in time. -/
def stopsAdvance : List OperationalPassengerStop → Bool
  | [] => true
  | [_] => true
  | a :: b :: rest =>
    decide (a.routeMm < b.routeMm) && decide (a.scheduledDepartureMs ≤ b.scheduledArrivalMs)
      && stopsAdvance (b :: rest)

/-- The plan is complete and its stops are in order. -/
def validate (plan : OperationalPassengerStopPlan) : Checked Unit :=
  demand (plan.schemaVersion == "zugfolge-operational-passenger-stop-plan/v1"
    && [plan.worldId, plan.infrastructureReleaseId, plan.timetableReleaseId, plan.serviceId,
        plan.serviceRunId, plan.trainRunId, plan.routeVersionId].all validId
    && Text.isHash plan.sourceBindingHash
    && decide (2 ≤ plan.stops.length) && decide (plan.stops.length ≤ 100)
    && plan.stops.zipIdx.all (fun entry => stopIsValid entry.2 entry.1)
    && decide (plan.stops.map (·.stopId)).Nodup
    && stopsAdvance plan.stops) .invalidPassengerStopPlan

end OperationalPassengerStopPlan

/-- The times of one stop that have happened. -/
structure OperationalPassengerStopFact where
  actualArrivalMs : Option SimMillis := none
  actualDepartureMs : Option SimMillis := none
  deriving DecidableEq, Inhabited

/-- The evidence that a stop plan was cancelled. -/
structure OperationalPassengerStopCancellation where
  worldId : String
  trainRunId : String
  stopPlanHash : String
  cancelledAtMs : SimMillis
  causalityId : String
  deriving DecidableEq

/-- How far a train has come in its stop plan. -/
structure OperationalPassengerStopProgress where
  cancellation : Option OperationalPassengerStopCancellation
  plan : OperationalPassengerStopPlan
  planHash : String
  nextStopIndex : ℕ
  receipts : List OperationalPassengerStopFact
  deriving DecidableEq

namespace OperationalPassengerStopProgress

variable (progress : OperationalPassengerStopProgress)

/-- The arrival at the next stop, if the train has arrived there. -/
def arrivalAtNext : Option SimMillis :=
  progress.receipts[progress.nextStopIndex]?.bind (·.actualArrivalMs)

/-- The instant from which the train may leave the stop it stands at. -/
def departureDue : Option SimMillis := do
  if progress.cancellation.isSome then none
  else if progress.plan.stops.length ≤ progress.nextStopIndex + 1 then none
  else
    let arrival ← progress.arrivalAtNext
    let stop ← progress.plan.stops[progress.nextStopIndex]?
    some (max (addSat64 arrival stop.minimumDwellMs) stop.scheduledDepartureMs)

end OperationalPassengerStopProgress

/-- The published receipt of an arrival or a departure. -/
structure OperationalPassengerStopReceipt where
  schemaVersion : String
  worldId : String
  serviceRunId : String
  trainRunId : String
  stopId : String
  stopSequence : ℕ
  stopPlanHash : String
  routeVersionId : String
  formationVersionId : String
  kind : String
  actualTimeMs : SimMillis
  receiptId : String

structure CancelPassengerStopPlanInputV1 where
  trainId : String
  expectedStopPlanHash : String
  causalityId : String

/-! ### Service outcomes -/

structure ServiceVehicleCapacity where
  vehicleId : String
  seats : ℕ
  sourceReference : String

/-- The policy under which outcomes are recorded. -/
structure ServiceOutcomePolicy where
  schemaVersion : String
  vehicleCapacities : List ServiceVehicleCapacity
  serviceIds : List String

/-- What is known about connections. -/
inductive ServiceConnectionAssessment where
  | noneContracted
  | unavailable
  deriving DecidableEq

/-- The service a train run fulfils. -/
structure ServiceOutcomeBinding where
  schemaVersion : String
  serviceId : String
  serviceRunId : String
  lotId : String
  serviceDay : String
  scheduledArrivalMs : SimMillis
  requiredSeats : Option ℕ
  connectionAssessment : ServiceConnectionAssessment
  deriving DecidableEq

/-- The evidence collected for a service. -/
structure ServiceOutcomeProgress where
  binding : ServiceOutcomeBinding
  startHeadRouteMm : RouteMillimetres
  minimumSeatsProvided : Option ℕ
  capacitySources : KeySet String
  completed : Bool
  deriving DecidableEq

/-! ### Fare control -/

/-- The reasons that justify a fare control hold. -/
inductive FareControlReasonV1 where
  | identityRefusal
  | concreteDanger
  deriving DecidableEq

structure FareControlPolicyV1 where
  schema : String
  policyId : String
  revision : ℕ
  worldId : String
  schedulePeriodId : String
  contentHash : String
  maxPoliceHoldsPerTrainRun : ℕ
  eligibleReasons : List FareControlReasonV1
  targetRule : String
  providerByStopId : Registry String String
  maxWaitMs : SimMillis
  policeResponseModelId : String
  policeResponseModelHash : String
  publicCause : String
  deriving DecidableEq

inductive FareControlHoldStatusV1 where
  | requested
  | active
  | released
  deriving DecidableEq

inductive FareControlHoldOutcomeV1 where
  | identityConfirmed
  | identityNotConfirmed
  | unavailable
  | timeout
  | targetUnavailable
  deriving DecidableEq

/-- The outcomes with which a hold may be resolved. -/
inductive ResolveFareControlHoldOutcomeV1 where
  | identityConfirmed
  | identityNotConfirmed
  | unavailable

/-- A fare control hold of one train run. -/
structure FareControlHoldV1 where
  schemaVersion : String
  worldId : String
  trainRunId : String
  holdId : String
  caseIds : KeySet String
  targetStopId : String
  requestedAtMs : SimMillis
  activatedAtMs : Option SimMillis
  deadlineMs : Option SimMillis
  releasedAtMs : Option SimMillis
  status : FareControlHoldStatusV1
  outcome : Option FareControlHoldOutcomeV1
  revision : ℕ
  causalityId : String
  providerId : String
  policyHash : String
  modelHash : String
  policy : FareControlPolicyV1
  deriving DecidableEq

structure RequestFareControlHoldInputV1 where
  trainId : String
  caseId : String
  reason : FareControlReasonV1
  causalityId : String

structure ResolveFareControlHoldInputV1 where
  trainId : String
  holdId : String
  expectedRevision : ℕ
  modelHash : String
  outcome : ResolveFareControlHoldOutcomeV1
  causalityId : String

structure FareControlHoldEventV1 where
  schemaVersion : String
  worldId : String
  trainRunId : String
  holdId : String
  targetStopId : String
  atMs : SimMillis
  status : FareControlHoldStatusV1
  outcome : Option FareControlHoldOutcomeV1
  revision : ℕ
  cause : String
  causalityId : String

/-! ### Dispatching and continuations -/

/-- A candidate of the dispatcher. -/
structure DispatchRequest where
  trainId : String
  interlockingRouteId : String
  committedRank : ℕ
  timetableDeviationMs : Int
  passengerImpact : ℕ
  contractualImpact : ℕ
  networkImpact : ℕ
  resourceConsequence : ℕ
  recoveryRank : ℕ
  waitingSinceMs : SimMillis
  deriving DecidableEq

/-- The lexicographic order of candidates at an instant. -/
def DispatchRequest.order (nowMs : SimMillis) (a b : DispatchRequest) : Ordering :=
  (compare a.committedRank b.committedRank).then <|
  (compare a.timetableDeviationMs b.timetableDeviationMs).then <|
  (compare a.passengerImpact b.passengerImpact).then <|
  (compare a.contractualImpact b.contractualImpact).then <|
  (compare a.networkImpact b.networkImpact).then <|
  (compare a.resourceConsequence b.resourceConsequence).then <|
  (compare a.recoveryRank b.recoveryRank).then <|
  (compare (subSat64 nowMs a.waitingSinceMs) (subSat64 nowMs b.waitingSinceMs)).then <|
  compare a.trainId b.trainId

/-- The candidates by descending key; equal keys keep their order. -/
def sortCandidates (nowMs : SimMillis) (requests : List DispatchRequest) : List DispatchRequest :=
  requests.insertionSort fun a b => (DispatchRequest.order nowMs b a).isLE = true

/-- The command that materialises a train. -/
structure TrainMaterialization where
  stopPlan : Option OperationalPassengerStopPlan
  serviceOutcome : Option ServiceOutcomeBinding
  id : String
  trainNumber : String
  operatorId : String
  movementKind : MovementKind
  routeVersionId : String
  formationVersionId : String
  headRouteMm : RouteMillimetres
  scheduledDepartureMs : Option SimMillis
  publicPassengerStop : Bool
  deriving DecidableEq

/-- Whether the direction changes between two movements. -/
inductive MovementContinuity where
  | sameDirection
  | reverseDirection
  deriving DecidableEq

def MovementContinuity.contractName : MovementContinuity → String
  | .sameDirection => "same-direction"
  | .reverseDirection => "reverse-direction"

/-- A signed continuation of one movement by another. -/
structure MovementContinuation where
  id : String
  predecessorTrainId : String
  predecessorBaseRouteVersionId : String
  successor : TrainMaterialization
  successorDispatch : DispatchRequest
  notBeforeMs : SimMillis
  minimumDwellMs : SimMillis
  continuity : MovementContinuity
  deriving DecidableEq

structure MovementContinuationReceipt where
  payloadHash : String
  completedAtMs : SimMillis
  completionSequence : ℕ

/-- The occasions of a shunting movement. -/
inductive ShuntingPurpose where
  | formation
  | locomotiveRunAround
  | directionChange
  | stabling
  | supply
  | workshop

def ShuntingPurpose.debugName : ShuntingPurpose → String
  | .formation => "Formation"
  | .locomotiveRunAround => "LocomotiveRunAround"
  | .directionChange => "DirectionChange"
  | .stabling => "Stabling"
  | .supply => "Supply"
  | .workshop => "Workshop"

/-- A shunting need without a prescribed route. -/
structure AutomaticShuntingNeed where
  id : String
  trainId : String
  purpose : ShuntingPurpose
  minimumAuthorityEndRouteMm : RouteMillimetres

inductive OperationalDisruption where
  | resourceClosed (resourceId : String)
  | speedRestriction (edgeId : String) (maximumSpeedMmps : ℕ)
  | signalFailed (signalId : String)
  | switchFailed (switchId : String)
  | trackDetectionFailed (resourceId : String)
  | vehicleRestricted (vehicleId : String) (restriction : VehicleRestriction)
  deriving DecidableEq

end Zugfolge
