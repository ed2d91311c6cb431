/-
Handovers: a train changes its region in three steps.

The source prepares a message and stands still, the target accepts it and owns the
train from then on, and the source, shown the acknowledged message, forgets the train.
-/
import Zugfolge.Operations.Disruptions

namespace Zugfolge

open Foundation

/-! ### The source prepares -/

namespace OperationalWorld

variable (w : OperationalWorld)

/-- The resources a handover protects: those named and those of an earlier handover. -/
def protectionFor (trainId : String) (resources : KeySet String) : KeySet String :=
  resources ∪ (w.handoverProtectionByTrain[trainId]?).getD ∅

/-- A train with running evidence may not leave a world with service days. -/
def evidenceBindsTrain (trainId : String) : Bool :=
  w.serviceDayState.isSome && w.trains[trainId]?.any fun train =>
    train.serviceOutcome.any fun progress => !progress.completed

def mayBeginHandover (id trainId targetRegionId : String) : Bool :=
  !(id.isEmpty || targetRegionId.isEmpty || targetRegionId == w.regionId
    || w.finishedHandovers.contains id || !w.preparedHandovers.isEmpty
    || w.infrastructureDisruptionStops.contains trainId
    || Registry.anyValue w.pendingMovementContinuations fun link =>
      link.predecessorTrainId == trainId)

/-- The interlocking routes of the locks of a train, and their switch positions. -/
def routesOfLocks (locks : Registry String RouteLock) :
    Checked (Registry String InterlockingRouteTemplate × Registry String String) :=
  (Registry.values locks).foldlM (fun acc lock => do
    let template ← w.templateOf lock.templateId
    pure (acc.1.insert template.id template, acc.2 ∪ template.switchPositions)) (∅, ∅)

/-- The vehicles of a formation and their types. -/
def vehiclesOf (formation : FormationVersion) :
    Checked (Registry String PhysicalVehicle × Registry String VehicleType) :=
  formation.vehicleIds.foldlM (fun acc vehicleId => do
    let vehicle ← orRefuse w.vehicles[vehicleId]? (.unknownVehicle vehicleId)
    let kind ← orRefuse w.vehicleTypes[vehicle.typeId]? (.unknownVehicleType vehicle.typeId)
    pure (acc.1.insert vehicle.id vehicle, acc.2.insert kind.id kind)) (∅, ∅)

/-- The message by which a train leaves the region. -/
def prepareHandover (env : Env) (id trainId targetRegionId : String)
    (protectedResources : KeySet String) : Checked RegionHandover := do
  let train ← w.trainOf trainId
  let formation ← w.formationOf train.formationVersionId
  let route ← w.routeOf train
  let routeLocks := w.routeLocks.filter fun _ lock => lock.trainId == trainId
  let (interlockingRoutes, switchPositions) ← w.routesOfLocks routeLocks
  let (vehicles, vehicleTypes) ← w.vehiclesOf formation
  refuseIf (w.lockedByOther trainId protectedResources
    || w.occupiedByOther trainId protectedResources) .unprotectedHandover
  let handover : RegionHandover :=
    { fareControl := w.fareControlHandover trainId, id, worldId := w.worldId
      infraReleaseId := w.infraReleaseId, infraBindingIdentity := w.infra.bindingIdentity
      sourceRegionId := w.regionId, targetRegionId, atMs := w.nowMs
      sourceStateHash := env.stateHash { w with events := [] }
      sourceEventSequence := w.eventSequence, payloadHash := "", train, formation, route
      vehicles, vehicleTypes, routeLocks, interlockingRoutes, switchPositions
      activeDisruptions := w.activeDisruptions
      dispatchRequest := w.pendingDispatchRequests[trainId]?
      routeCompletedAtMs := w.routeCompletedAtMs[trainId]?, protectedResources
      sourceCommitSequence := w.commitSequence, acknowledged := false }
  pure { handover with payloadHash := handover.calculatePayloadHash env }

end OperationalWorld

/-- Stores a prepared handover once all invariants hold with it. -/
def storePrepared (env : Env) (handover : RegionHandover) : M Unit :=
  TracedM.staged do
    record "handover-prepared" handover.train.id (.text handover.targetRegionId)
    M.about (.beginHandover handover)
    M.update fun w => { w with
      preparedHandovers := w.preparedHandovers.insert handover.id handover
      }.rebuildResourceLifecycle
    let w ← M.world
    M.check (w.verifyInvariants env)

/-- Prepares the handover of a train; from here on the region stands still. -/
def beginHandover (env : Env) (id trainId targetRegionId : String)
    (protectedResources : KeySet String) : M RegionHandover := do
  let w ← M.world
  M.check (refuseIf (w.evidenceBindsTrain trainId) .invalidServiceDay)
  M.check (refuseIf protectedResources.isEmpty .unprotectedHandover)
  let resources := w.protectionFor trainId protectedResources
  match w.preparedHandovers[id]? with
  | some existing =>
    M.check (demand (existing.train.id == trainId
      && existing.targetRegionId == targetRegionId
      && decide (existing.protectedResources = resources)) .invalidHandover)
    pure existing
  | none =>
    M.check (demand (w.mayBeginHandover id trainId targetRegionId) .invalidHandover)
    let handover ← M.check (w.prepareHandover env id trainId targetRegionId resources)
    storePrepared env handover
    pure handover

/-! ### The target accepts -/

namespace OperationalWorld

variable (w : OperationalWorld)

/-- The message is addressed to this region and unchanged since it was sent. -/
def isAddressed (env : Env) (handover : RegionHandover) : Bool :=
  handover.worldId == w.worldId && handover.infraReleaseId == w.infraReleaseId
    && handover.infraBindingIdentity == w.infra.bindingIdentity
    && handover.targetRegionId == w.regionId && handover.sourceRegionId != w.regionId
    && !handover.id.isEmpty && !handover.sourceRegionId.isEmpty
    && handover.payloadHash == handover.calculatePayloadHash env

/-- Nothing the message brings is known here yet, and the region is at its instant. -/
def isNewHere (handover : RegionHandover) : Bool :=
  !(handover.acknowledged || decide (handover.atMs ≠ w.nowMs)
    || handover.sourceStateHash.utf8ByteSize != 64 || w.trains.contains handover.train.id
    || w.formations.contains handover.formation.id
    || handover.vehicles.keys.any w.vehicles.contains
    || (handover.vehicleTypes.toList.any fun entry =>
      w.vehicleTypes[entry.1]?.any fun own => decide (own ≠ entry.2))
    || handover.routeLocks.keys.any w.routeLocks.contains
    || !w.preparedHandovers.isEmpty
    || decide (w.activeDisruptions ≠ handover.activeDisruptions))

/-- Route, interlocking routes and switches of the message agree with the region. -/
def agreesWith (handover : RegionHandover) : Bool :=
  decide (w.infra.routeVersion handover.route.id = some handover.route)
    && handover.train.routeVersionId == handover.route.id
    && handover.train.formationVersionId == handover.formation.id
    && (handover.interlockingRoutes.toList.all fun entry =>
      decide (w.infra.interlockingRoute entry.1 = some entry.2))
    && handover.switchPositions.toList.all fun entry =>
      w.switchPositions[entry.1]?.all fun own => own == entry.2

/-- The resources a message brings: those of the locks and the protected ones. -/
def transferredResources (handover : RegionHandover) : KeySet String :=
  Std.ExtTreeSet.ofList ((Registry.values handover.routeLocks).flatMap fun lock =>
    lock.resources.toList) compare ∪ handover.protectedResources

/-- A message that is not yet accepted may be. -/
def admitHandover (handover : RegionHandover) : Checked Unit := do
  demand (w.isNewHere handover) .invalidHandover
  demand (w.agreesWith handover) .invalidHandover
  let resources := transferredResources handover
  refuseIf ((Registry.anyValue w.routeLocks fun lock => !lock.resources.disjoint resources)
    || Registry.anyValue w.trains fun train => !train.occupiedBlocks.disjoint resources)
    .unprotectedHandover
  w.ensureIntervalsFree handover.train.id handover.train.occupiedIntervals

/-- The world with the vehicles a message brings. -/
def adoptVehicles (handover : RegionHandover) : OperationalWorld :=
  { w with
    vehicles := w.vehicles ∪ handover.vehicles
    vehicleTypes := w.vehicleTypes ∪ handover.vehicleTypes }

/-- The world with the locks and switches a message brings, the protected resources
being blocks of the train. -/
def adoptLocks (handover : RegionHandover) : OperationalWorld :=
  { w.updateTrain handover.train.id fun train =>
      { train with occupiedBlocks := train.occupiedBlocks ∪ handover.protectedResources } with
    handoverProtectionByTrain :=
      w.handoverProtectionByTrain.insert handover.train.id handover.protectedResources
    routeLocks := w.routeLocks ∪ handover.routeLocks
    switchPositions := w.switchPositions ∪ handover.switchPositions }

/-- The world with the schedules and the receipt of a message. -/
def adoptSchedules (handover : RegionHandover) : OperationalWorld :=
  let trainId := handover.train.id
  { w with
    scheduledMotionEnds := match handover.train.motionSegment with
      | some segment => w.scheduledMotionEnds.insert
          { atMs := segment.validUntilMs, trainId, segmentStartedAtMs := segment.startedAtMs }
      | none => w.scheduledMotionEnds
    pendingDispatchRequests := match handover.dispatchRequest with
      | some request => w.pendingDispatchRequests.insert trainId request
      | none => w.pendingDispatchRequests
    routeCompletedAtMs := match handover.routeCompletedAtMs with
      | some atMs => w.routeCompletedAtMs.insert trainId atMs
      | none => w.routeCompletedAtMs
    acceptedHandovers := w.acceptedHandovers.insert handover.id handover.payloadHash }

end OperationalWorld

/-- Takes the train of a message into the world. -/
def adoptTrain (env : Env) (handover : RegionHandover) : M Unit := do
  M.about (.acceptHandover handover)
  M.update fun w => w.adoptVehicles handover
  let w ← M.world
  let formation ← M.check (w.deriveFormation handover.formation.id
    handover.formation.predecessorId handover.formation.vehicleIds)
  M.check (demand (decide (formation = handover.formation)) .invalidHandover)
  M.update fun w => w.putFormation handover.formation
  adoptServiceOutcome env handover.train
  M.update fun w => w.putTrain handover.train
  adoptFareControlHandover handover.train.id handover.fareControl
  M.update fun w => w.schedulePassengerDeparture handover.train.id
  M.update fun w => w.adoptLocks handover
  let w ← M.world
  M.check (refuseIf (handover.train.motionSegment.any fun segment => !segment.covers w.nowMs)
    .invalidHandover)
  M.update fun w => (w.adoptSchedules handover).rebuildResourceLifecycle
  rebuildSignalAspects
  record "handover-accepted" handover.train.id (.text handover.sourceRegionId)
  let w ← M.world
  M.check (w.verifyInvariants env)

/-- Accepts the train of a message; a message already accepted changes nothing.
Answers the acknowledged message. -/
def acceptHandover (env : Env) (handover : RegionHandover) : M RegionHandover := do
  let w ← M.world
  M.check (demand (w.isAddressed env handover) .invalidHandover)
  match w.acceptedHandovers[handover.id]? with
  | some receipt =>
    M.check (demand (receipt == handover.payloadHash) .invalidHandover)
    pure { handover with acknowledged := true }
  | none =>
    M.check (w.admitHandover handover)
    TracedM.staged (adoptTrain env handover)
    pure { handover with acknowledged := true }

/-! ### The source finishes -/

namespace OperationalWorld

variable (w : OperationalWorld)

/-- The acknowledged message comes from this region and is unchanged. -/
def isAcknowledged (env : Env) (handover : RegionHandover) : Bool :=
  handover.acknowledged && handover.worldId == w.worldId
    && handover.infraReleaseId == w.infraReleaseId && handover.sourceRegionId == w.regionId
    && handover.payloadHash == handover.calculatePayloadHash env

/-- The message is the one prepared, of the train as it is. -/
def isPrepared (handover : RegionHandover) : Bool :=
  (w.preparedHandovers[handover.id]?.any fun prepared =>
    prepared.payloadHash == handover.payloadHash)
    && decide (w.trains[handover.train.id]? = some handover.train)

def finishedReceipt (handover : RegionHandover) : FinishedHandoverReceiptV1 :=
  { handoverId := handover.id, trainRunId := handover.train.id, worldId := handover.worldId
    sourceRegionId := handover.sourceRegionId, targetRegionId := handover.targetRegionId
    atMs := handover.atMs, payloadHash := handover.payloadHash }

/-- What the end of a handover writes: train, vehicles, locks and all formations of the
vehicles are gone, the receipt stays. -/
def commitFinish (handover : RegionHandover) : OperationalWorld :=
  let trainId := handover.train.id
  let gone := { w.dropLocks trainId with trains := w.trains.erase trainId }
  let cleared :=
    ((gone.removeFareControlHandover trainId).dropSchedules trainId).dropWaiting trainId
  let left := { cleared with
    handoverProtectionByTrain := cleared.handoverProtectionByTrain.erase trainId
    formations := cleared.formations.filter fun _ formation =>
      formation.vehicleIds.all fun id => !handover.vehicles.contains id
    vehicles := cleared.vehicles.filter fun id _ => !handover.vehicles.contains id }
  { left.releaseServicePlan handover.train with
    preparedHandovers := left.preparedHandovers.erase handover.id
    finishedHandovers := left.finishedHandovers.insert handover.id handover.payloadHash
    finishedHandoverReceipts :=
      left.finishedHandoverReceipts.insert handover.id (finishedReceipt handover)
    }.rebuildResourceLifecycle

end OperationalWorld

/-- Forgets the train of an acknowledged message; a message already finished changes
nothing. -/
def finishHandover (env : Env) (handover : RegionHandover) : M Unit := do
  let w ← M.world
  M.check (demand (w.isAcknowledged env handover) .invalidHandover)
  match w.finishedHandovers[handover.id]? with
  | some receipt => M.check (demand (receipt == handover.payloadHash) .invalidHandover)
  | none =>
    M.check (demand (w.isPrepared handover) .invalidHandover)
    TracedM.staged do
      M.about (.finishHandover handover)
      M.update fun w => w.commitFinish handover
      rebuildSignalAspects
      record "handover-finished" handover.train.id (.text handover.targetRegionId)
      let w ← M.world
      M.check (w.verifyInvariants env)

end Zugfolge
