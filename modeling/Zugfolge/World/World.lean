/-
The regional world, its events and the commands over it.
-/
import Zugfolge.World.State
import Zugfolge.Foundation.Traced

namespace Zugfolge

open Foundation

/-! ### Messages between regions -/

/-- The handover of a train to another regional world. -/
structure RegionHandover where
  fareControl : Option FareControlHandoverV1
  id : String
  worldId : String
  infraReleaseId : String
  infraBindingIdentity : String
  sourceRegionId : String
  targetRegionId : String
  atMs : SimMillis
  sourceStateHash : String
  sourceEventSequence : ℕ
  payloadHash : String
  train : OperationalTrain
  formation : FormationVersion
  route : RouteVersion
  vehicles : Registry String PhysicalVehicle
  vehicleTypes : Registry String VehicleType
  routeLocks : Registry String RouteLock
  interlockingRoutes : Registry String InterlockingRouteTemplate
  switchPositions : Registry String String
  activeDisruptions : Registry String OperationalDisruption
  dispatchRequest : Option DispatchRequest
  routeCompletedAtMs : Option SimMillis
  protectedResources : KeySet String
  sourceCommitSequence : ℕ
  acknowledged : Bool
  deriving DecidableEq

structure FinishedHandoverReceiptV1 where
  handoverId : String
  trainRunId : String
  worldId : String
  sourceRegionId : String
  targetRegionId : String
  atMs : SimMillis
  payloadHash : String

/-! ### Events -/

/-- The published plan of a day. -/
structure ServiceDayPlanned where
  worldId : String
  regionId : String
  operatorId : String
  lotId : String
  serviceDayId : String
  serviceDay : String
  dayIndex : ℕ
  dayEndMs : SimMillis
  serviceRunIds : List String

/-- The published closure of a day. -/
structure ServiceDayClosed where
  worldId : String
  regionId : String
  operatorId : String
  lotId : String
  serviceDayId : String
  serviceDay : String
  dayIndex : ℕ
  dayEndMs : SimMillis
  closedAtMs : SimMillis
  serviceRunIds : List String
  vehicleCostEvidenceComplete : Bool
  formationOperatingCostCents : Option Int

/-- The detail of an event: a text, or the value whose serialisation is the text. -/
inductive EventDetail where
  | text (content : String)
  | stopReceipt (receipt : OperationalPassengerStopReceipt)
  | stopCancellation (receipt : OperationalPassengerStopCancellation)
  | fareControlHold (event : FareControlHoldEventV1)
  | servicePlan (plan : ServicePlan)
  | trainOutcome (outcome : TrainOutcome)
  | vehicleCost (receipt : VehicleCostReceipt)
  | serviceDayPlanned (day : ServiceDayPlanned)
  | serviceDayClosed (day : ServiceDayClosed)

structure OperationalEvent where
  eventSequence : ℕ
  commitSequence : ℕ
  atMs : SimMillis
  kind : String
  subjectId : String
  detail : EventDetail

/-! ### The world -/

/-- The operational reality of one region of a world. -/
structure OperationalWorld where
  infrastructureDisruptionStops : Registry String InfrastructureDisruptionStop
  fareControlState : Option FareControlState
  serviceOutcomeState : Option ServiceOutcomeState
  serviceDayState : Option ServiceDayState
  worldId : String
  regionId : String
  infraReleaseId : String
  nowMs : SimMillis
  commitSequence : ℕ
  eventSequence : ℕ
  trains : Registry String OperationalTrain
  vehicles : Registry String PhysicalVehicle
  vehicleTypes : Registry String VehicleType
  formations : Registry String FormationVersion
  routeLocks : Registry String RouteLock
  signalAspects : Registry String SignalAspect
  switchPositions : Registry String String
  resourceLifecycle : Registry String ResourceLifecycle
  activeDisruptions : Registry String OperationalDisruption
  events : List OperationalEvent
  infra : InMemoryOperationalInfrastructure
  scheduledMotionEnds : KeySet ScheduledMotionEnd
  scheduledPassengerDepartures : KeySet ScheduledPassengerDeparture
  scheduledContinuationDue : KeySet ScheduledContinuationDue
  waitingByResource : Registry String (KeySet String)
  continuationsWaitingByResource : Registry String (KeySet String)
  pendingDispatchRequests : Registry String DispatchRequest
  pendingMovementContinuations : Registry String MovementContinuation
  completedMovementContinuations : Registry String MovementContinuationReceipt
  routeCompletedAtMs : Registry String SimMillis
  preparedHandovers : Registry String RegionHandover
  acceptedHandovers : Registry String String
  finishedHandovers : Registry String String
  finishedHandoverReceipts : Registry String FinishedHandoverReceiptV1
  handoverProtectionByTrain : Registry String (KeySet String)

/-- The world of a region before anything has happened in it. -/
def OperationalWorld.new (worldId regionId : String) (nowMs : SimMillis)
    (infra : InMemoryOperationalInfrastructure) : OperationalWorld where
  infrastructureDisruptionStops := ∅
  fareControlState := none
  serviceOutcomeState := none
  serviceDayState := none
  worldId := worldId
  regionId := regionId
  infraReleaseId := infra.releaseId
  nowMs := nowMs
  commitSequence := 0
  eventSequence := 0
  trains := ∅
  vehicles := ∅
  vehicleTypes := ∅
  formations := ∅
  routeLocks := ∅
  signalAspects := ∅
  switchPositions := ∅
  resourceLifecycle := ∅
  activeDisruptions := ∅
  events := []
  infra := infra
  scheduledMotionEnds := ∅
  scheduledPassengerDepartures := ∅
  scheduledContinuationDue := ∅
  waitingByResource := ∅
  continuationsWaitingByResource := ∅
  pendingDispatchRequests := ∅
  pendingMovementContinuations := ∅
  completedMovementContinuations := ∅
  routeCompletedAtMs := ∅
  preparedHandovers := ∅
  acceptedHandovers := ∅
  finishedHandovers := ∅
  finishedHandoverReceipts := ∅
  handoverProtectionByTrain := ∅

/-- What the engine takes from outside: the digests of its serialised values, and the
number of rounds a loop may take. -/
structure Env where
  fuel : ℕ
  stopPlanHash : OperationalPassengerStopPlan → String
  /-- Digest of world, service run, train run, stop and kind. -/
  stopReceiptId : String → String → String → String → String → String
  continuationHash : MovementContinuation → String
  fareControlPolicyDigest : FareControlPolicyV1 → String
  /-- Digest of world and train run. -/
  fareControlHoldId : String → String → String
  measurementHash : RouteMillimetres → Registry String Int → String
  serviceReceiptHash : TrainOutcome → VehicleCostReceipt → String
  /-- Text of day, operator and lot. -/
  serviceDayId : String → String → String → String
  stateHash : OperationalWorld → String
  handoverDigest : RegionHandover → String

/-- The payload hash of a handover: its digest without hash and acknowledgement. -/
def RegionHandover.calculatePayloadHash (env : Env) (handover : RegionHandover) : String :=
  env.handoverDigest { handover with payloadHash := "", acknowledged := false }

/-! ### Commands -/

/-- The inner steps of an operation that change more than bookkeeping. -/
inductive Act where
  | registerVehicleType (kind : VehicleType)
  | registerVehicle (vehicle : PhysicalVehicle)
  | createFormation (id : String) (vehicleIds : List String)
  | materialize (input : TrainMaterialization)
  | retireTrain (trainId : String)
  | changeFormation (trainId newFormationId : String) (vehicleIds : List String)
  | rerouteTrain (trainId routeVersionId : String)
  | lockRoute (trainId templateId : String)
  | finishAuthorityReissue (trainId : String)
  | planMotion (trainId : String)
  | dropMotionEnd (scheduled : ScheduledMotionEnd)
  | finishMotionSegment (trainId : String)
  | safeStop (trainId : String)
  | foldPosition (trainId : String)
  | queueContinuation (continuation : MovementContinuation)
  | continueMovement (continuationId : String)
  | endAuthority (trainId : String)
  | activateHold (trainId : String)
  | releaseHold (trainId : String)
  | releaseInfrastructureStop (trainId : String)
  | stopForInfrastructure (trainId disruptionId : String)
  | restrictVehicle (disruptionId vehicleId : String) (restriction : VehicleRestriction)
  | liftRestriction (disruptionId vehicleId : String)
  | activateDisruption (disruptionId : String) (effect : OperationalDisruption)
  | clearDisruption (disruptionId : String)
  | beginHandover (handover : RegionHandover)
  | acceptHandover (handover : RegionHandover)
  | finishHandover (handover : RegionHandover)
  | tick (atMs : SimMillis)

/-- An inner step about to be taken in a world. -/
structure Visit where
  before : OperationalWorld
  act : Act

/-- Commands over a world. -/
abbrev M (α : Type) : Type := TracedM Visit OperationalWorld Failure α

namespace M

def world : M OperationalWorld := TracedM.read

def check {α : Type} (r : Checked α) : M α := TracedM.lift r

def update (f : OperationalWorld → OperationalWorld) : M Unit := TracedM.modify f

/-- Notes the inner step about to be taken. -/
def about (act : Act) : M Unit := TracedM.note fun w => ⟨w, act⟩

/-- Refuses with the given reason. -/
def reject {α : Type} (e : OperationalError) : M α := TracedM.fail (.refused e)

variable {α β : Type}

lemma world_bind (f : OperationalWorld → M β) (w : OperationalWorld) :
    (world >>= f) w = f w w := rfl

lemma check_ok_bind (a : α) (f : α → M β) (w : OperationalWorld) :
    (check (.ok a) >>= f) w = f a w := rfl

lemma check_error_bind (e : Failure) (f : α → M β) (w : OperationalWorld) :
    (check (.error e) >>= f) w = ⟨.error e, w, []⟩ := rfl

lemma update_bind (g : OperationalWorld → OperationalWorld) (f : Unit → M β)
    (w : OperationalWorld) : (update g >>= f) w = f () (g w) := rfl

lemma about_bind (act : Act) (f : Unit → M β) (w : OperationalWorld) :
    (about act >>= f) w
      = ⟨(f () w).result, (f () w).state, ⟨w, act⟩ :: (f () w).visits⟩ := rfl

end M

/-! ### Events of a world -/

/-- The greatest number of events that wait for the runtime. -/
def maxPendingOperationalEvents : ℕ := 16384

def OperationalWorld.pushEvent (w : OperationalWorld) (kind subjectId : String)
    (detail : EventDetail) : OperationalWorld :=
  { w with
    eventSequence := w.eventSequence + 1
    events := w.events ++ [{
      eventSequence := w.eventSequence + 1
      commitSequence := w.commitSequence
      atMs := w.nowMs
      kind, subjectId, detail }] }

/-- Publishes an event. -/
def record (kind subjectId : String) (detail : EventDetail) : M Unit := do
  let w ← M.world
  M.check (refuseIf (decide (maxPendingOperationalEvents ≤ w.events.length))
    .eventBudgetExceeded)
  M.check (refuseIf (decide (u64Max ≤ w.eventSequence)) .arithmeticOverflow)
  M.update fun w => w.pushEvent kind subjectId detail

end Zugfolge
