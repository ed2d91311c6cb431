/-
The invariants a world asserts about itself.

`verifyInvariants` is what the engine calls after every command and before a staged
world replaces the old one; its parts follow the fields of the world.
-/
import Zugfolge.Operations.Progress

namespace Zugfolge

open Foundation

namespace OperationalWorld

variable (w : OperationalWorld)

/-! ### Handovers and events -/

/-- The receipt of a finished handover belongs to this region. -/
def receiptIsValid (id : String) (receipt : FinishedHandoverReceiptV1) : Bool :=
  id == receipt.handoverId && !receipt.trainRunId.isEmpty && receipt.worldId == w.worldId
    && receipt.sourceRegionId == w.regionId && !receipt.targetRegionId.isEmpty
    && receipt.targetRegionId != w.regionId && decide (0 ≤ receipt.atMs)
    && decide (receipt.atMs ≤ w.nowMs) && w.finishedHandovers[id]? == some receipt.payloadHash

/-- A prepared handover is the train as it is, with its resources protected. -/
def preparedIsValid (env : Env) (id : String) (handover : RegionHandover) : Bool :=
  id == handover.id && !handover.acknowledged && handover.worldId == w.worldId
    && handover.sourceRegionId == w.regionId && handover.targetRegionId != w.regionId
    && handover.infraReleaseId == w.infraReleaseId && handover.atMs == w.nowMs
    && handover.payloadHash == handover.calculatePayloadHash env
    && decide (w.trains[handover.train.id]? = some handover.train)
    && handover.protectedResources.toList.all w.resourceLifecycle.contains

variable (trainId : String)

/-- The protection of a train that came from another region is part of its blocks. -/
def protectionIsValid (protection : KeySet String) : Bool :=
  !protection.isEmpty
    && w.trains[trainId]?.any fun train => protection.subset train.occupiedBlocks

/-- The handovers of the world are consistent. -/
def verifyHandovers (env : Env) : Checked Unit := do
  demand (w.preparedHandovers.toList.all fun entry => w.preparedIsValid env entry.1 entry.2)
    .invalidHandover
  demand (w.handoverProtectionByTrain.toList.all fun entry =>
    w.protectionIsValid entry.1 entry.2) .invalidHandover
  demand ([w.acceptedHandovers, w.finishedHandovers].all fun receipts =>
    receipts.toList.all fun entry => !entry.1.isEmpty && Text.isHash entry.2) .invalidHandover

/-- The sequence numbers of a list of events ascend. -/
def sequencesAscend : List OperationalEvent → Bool
  | a :: b :: rest => decide (a.eventSequence < b.eventSequence) && sequencesAscend (b :: rest)
  | _ => true

/-- The waiting events are numbered in order and few enough. -/
def verifyEvents : Checked Unit :=
  refuseIf (decide (maxPendingOperationalEvents < w.events.length)
    || decide (w.eventSequence < (w.events.getLast?.map (·.eventSequence)).getD 0)
    || !sequencesAscend w.events
    || w.events.any fun event => decide (w.commitSequence < event.commitSequence)) .unsafeState

/-! ### Requests -/

/-- A pending request belongs to a train of this region that may still use it. -/
def verifyRequest (request : DispatchRequest) : Checked Unit := do
  let train ← orRefuse w.trains[trainId]? .unsafeState
  refuseIf (trainId != request.trainId || request.trainId.isEmpty
    || request.interlockingRouteId.isEmpty || decide (w.nowMs < request.waitingSinceMs)
    || train.motionState.isSafeStop) .unsafeState
  let template ← orRefuse (w.infra.interlockingRoute request.interlockingRouteId) .unsafeState
  let route ← w.routeOf train
  refuseIf (template.movementKind != train.movementKind
    || template.routeTemplateId != route.templateId
    || decide (train.headRouteMm < template.authorityStartRouteMm)
    || decide (train.headRouteMm = route.lengthMm)) .unsafeState

/-- The resources a train is registered for. -/
def waitingResources : KeySet String :=
  Std.ExtTreeSet.ofList ((w.waitingByResource.toList.filter fun entry =>
    entry.2.contains trainId).map Prod.fst) compare

/-- The interlocking route a waiting train waits for. -/
def awaitedTemplate (train : OperationalTrain) :
    Checked (Option InterlockingRouteTemplate) := do
  let route ← w.routeOf train
  if train.movementKind = .train then
    w.departureInterlockingRoute trainId route.templateId train.headRouteMm
  else do
    let request ← orPanic w.pendingDispatchRequests[trainId]?
    pure (w.infra.interlockingRoute request.interlockingRouteId)

/-- A train that waits for a resource stands, has a request, and waits for exactly the
resources of its interlocking route. -/
def verifyWaitingTrain (resource trainId : String) : Checked Unit := do
  let train ← orRefuse w.trains[trainId]? .unsafeState
  refuseIf (!w.pendingDispatchRequests.contains trainId || train.speedMmps != 0
    || decide (train.motionState ≠ .standing) || train.motionSegment.isSome
    || train.authority.isSome || train.waitingReason != some "waiting-for-route-lock")
    .unsafeState
  let awaited ← w.awaitedTemplate trainId train
  let template ← orRefuse awaited .unsafeState
  demand (template.allResources.contains resource
    && decide (w.waitingResources trainId = template.allResources)) .unsafeState

/-- The index of waiting trains is consistent. -/
def verifyWaiting : Checked Unit :=
  w.waitingByResource.toList.forM fun entry => do
    refuseIf (entry.1.isEmpty || entry.2.isEmpty) .unsafeState
    entry.2.toList.forM (w.verifyWaitingTrain entry.1)

/-! ### Continuations -/

/-- A stored continuation is well formed. -/
def pendingIsFormed (id : String) (continuation : MovementContinuation) : Bool :=
  id == continuation.id && !continuation.id.isEmpty && !continuation.predecessorTrainId.isEmpty
    && !continuation.successor.id.isEmpty
    && continuation.predecessorTrainId != continuation.successor.id
    && decide (0 ≤ continuation.notBeforeMs) && decide (0 ≤ continuation.minimumDwellMs)
    && continuation.successorDispatch.trainId == continuation.successor.id
    && continuation.successorDispatch.waitingSinceMs == continuation.notBeforeMs
    && !(continuation.successor.publicPassengerStop
      && continuation.successor.scheduledDepartureMs != some continuation.notBeforeMs)

/-- The predecessor of a waiting continuation has arrived. -/
def verifyWaitingContinuation (continuationId : String) : Checked Unit := do
  let continuation ← orRefuse w.pendingMovementContinuations[continuationId]? .unsafeState
  let predecessor ← orRefuse w.trains[continuation.predecessorTrainId]? .unsafeState
  refuseIf (decide (predecessor.motionState ≠ .standing)
    || predecessor.waitingReason != some "waiting-for-movement-continuation"
    || !w.routeCompletedAtMs.contains predecessor.id) .unsafeState

/-- A receipt of a completed continuation is well formed. -/
def completedIsValid (id : String) (receipt : MovementContinuationReceipt) : Bool :=
  !id.isEmpty && !w.pendingMovementContinuations.contains id && Text.isHash receipt.payloadHash
    && decide (receipt.completedAtMs ≤ w.nowMs)
    && decide (receipt.completionSequence ≤ w.eventSequence)

/-- A pending continuation does not collide with the trains of the world. -/
def verifyPendingContinuation (continuation : MovementContinuation) : Checked Unit := do
  refuseIf (w.trains.contains continuation.successor.id
    || Registry.anyValue w.trains (fun train =>
      !continuationGraphReaches w.continuationGraph train.id continuation.predecessorTrainId
        && operationalTrainNumberNumericPart train.trainNumber
          == operationalTrainNumberNumericPart continuation.successor.trainNumber)
    || w.trains[continuation.predecessorTrainId]?.any fun predecessor =>
      predecessor.formationVersionId != continuation.successor.formationVersionId) .unsafeState
  w.validateTrainProgramTemplate continuation.successor
    continuation.successorDispatch.interlockingRouteId
  w.validateKnownContinuationBinding continuation

/-- The schedule of the continuations, recomputed; an overflow is no valid state. -/
def expectedContinuationDue : Checked (KeySet ScheduledContinuationDue) :=
  match w.continuationSchedule with
  | .ok scheduled => .ok scheduled
  | .error _ => refuse .unsafeState

/-- The continuations of the world are consistent. -/
def verifyContinuations : Checked Unit := do
  let pending := Registry.values w.pendingMovementContinuations
  demand (w.pendingMovementContinuations.toList.all fun entry =>
    pendingIsFormed entry.1 entry.2) .unsafeState
  demand (decide (pending.map (·.predecessorTrainId)).Nodup
    && decide (pending.map (·.successor.id)).Nodup) .unsafeState
  w.continuationsWaitingByResource.toList.forM fun entry => do
    refuseIf (entry.1.isEmpty || entry.2.isEmpty) .unsafeState
    entry.2.toList.forM w.verifyWaitingContinuation
  refuseIf (decide (maxCompletedMovementContinuationReceipts
    < w.completedMovementContinuations.size)) .unsafeState
  demand ((w.completedMovementContinuations.toList.all fun entry =>
      w.completedIsValid entry.1 entry.2)
    && decide ((Registry.values w.completedMovementContinuations).map
      (·.completionSequence)).Nodup) .unsafeState
  refuseIf (w.continuationGraph.toList.any fun entry =>
    graphIsCyclicFrom w.continuationGraph entry.1 (w.continuationGraph.size + 2) entry.1 [])
    .unsafeState
  pending.forM w.verifyPendingContinuation
  let expected ← w.expectedContinuationDue
  demand (decide (expected = w.scheduledContinuationDue)) .unsafeState

/-- A train with a completed route stands at its end. -/
def verifyCompletion (completedAtMs : SimMillis) : Checked Unit := do
  let train ← orRefuse w.trains[trainId]? .unsafeState
  refuseIf (decide (w.nowMs < completedAtMs) || train.speedMmps != 0
    || train.motionSegment.isSome || train.authority.isSome) .unsafeState
  let complete ← w.physicalRouteComplete trainId
  demand complete .unsafeState

/-! ### Trains, locks and signals -/

/-- One train is consistent; its authority comes from one of its locks. -/
def verifyTrain (train : OperationalTrain) : Checked Unit := do
  refuseIf (decide (train.headRouteMm < train.tailRouteMm)
    || (train.authority.any fun authority => decide (authority.endRouteMm < train.headRouteMm))
    || decide (train.motionState = .moving) != train.motionSegment.isSome) .unsafeState
  match train.authority with
  | none => pure ()
  | some authority => do
    let lock ← orRefuse w.routeLocks[authority.sourceRouteLockId]? .unsafeState
    refuseIf (lock.trainId != train.id || authority.trainId != train.id
      || authority.routeVersionId != train.routeVersionId) .unsafeState

/-- No two trains stand on the same track. -/
def intervalsAreSeparate : Bool :=
  w.trains.toList.all fun a => w.trains.toList.all fun b =>
    a.1 == b.1 || !intervalsOverlap a.2.occupiedIntervals b.2.occupiedIntervals

/-- No two locks of different trains have a resource in common. -/
def locksAreSeparate : Bool :=
  w.routeLocks.toList.all fun a => w.routeLocks.toList.all fun b =>
    a.2.trainId == b.2.trainId || a.2.resources.disjoint b.2.resources

/-- Checks trains in order; `seen` holds the numbers before. -/
def verifyTrainsFrom : List OperationalTrain → List ℕ → Checked Unit
  | [], _ => .ok ()
  | train :: rest, seen => do
    let number ← orRefuse (operationalTrainNumberNumericPart train.trainNumber) .unsafeState
    w.verifyTrain train
    refuseIf (seen.contains number) (.duplicateTrainNumber number)
    verifyTrainsFrom rest (number :: seen)

/-- The trains of the world are consistent. -/
def verifyTrains : Checked Unit := do
  w.verifyTrainsFrom (Registry.values w.trains) []
  demand w.intervalsAreSeparate .occupiedTrack
  demand w.locksAreSeparate .unsafeState

/-- The signal of a lock is withheld from its train. -/
def lockIsWithheld (train : OperationalTrain) (template : InterlockingRouteTemplate) : Bool :=
  w.fareControlBlocksDeparture train.id || w.fareControlAuthorityRevoked train.id
    || w.infrastructureSignalWithheld train.id template.authorityEndRouteMm

/-- The authority of a train, or the one that a hold or a disruption has taken. -/
def standingAuthority (train : OperationalTrain) : Option MovementAuthority :=
  (train.authority.or
    (w.fareControlState.bind fun state => state.revokedAuthorities[train.id]?)).or
    (w.infrastructureDisruptionStops[train.id]?.bind (·.revokedAuthority))

/-- A lock agrees with its template, its train and its signal. -/
def verifyLock (lock : RouteLock) : Checked Unit := do
  let train ← orRefuse w.trains[lock.trainId]? .unsafeState
  let template ← w.templateOf lock.templateId
  let route ← w.routeOf train
  refuseIf (template.routeTemplateId != route.templateId
    || template.movementKind != train.movementKind
    || (!train.motionState.isSafeStop
      && decide (train.headRouteMm < template.authorityStartRouteMm)
      && !((w.standingAuthority train).any fun authority =>
        decide (template.authorityEndRouteMm ≤ authority.endRouteMm)))
    || decide (lock.resources ≠ template.allResources)
    || decide (lock.releaseAfterTailRouteMm ≠ template.releaseAfterTailRouteMm)) .unsafeState
  refuseIf (train.authority.any fun authority => authority.sourceRouteLockId == lock.id
    && decide (authority.endRouteMm ≠ template.authorityEndRouteMm)) .unsafeState
  refuseIf (!train.motionState.isSafeStop && !w.lockIsWithheld train template
    && w.signalAspects[template.signalId]? != some template.movementKind.aspect) .unsafeState

/-- A lock that is not withheld backs the signal for the movement kind. -/
def lockBacks (signalId : String) (kind : MovementKind) (lock : RouteLock) : Bool :=
  (w.trains[lock.trainId]?.any fun train =>
    (w.infra.interlockingRoute lock.templateId).any fun template =>
      !w.lockIsWithheld train template && template.signalId == signalId
        && template.movementKind == kind)

/-- A proceed aspect is backed by a lock. -/
def aspectIsBacked (signalId : String) : SignalAspect → Bool
  | .proceed => Registry.anyValue w.routeLocks (w.lockBacks signalId .train)
  | .shuntingProceed => Registry.anyValue w.routeLocks (w.lockBacks signalId .shunting)
  | .stop => true
  | .failed => true

/-- Locks and signals agree. -/
def verifySignals : Checked Unit := do
  (Registry.values w.routeLocks).forM w.verifyLock
  demand (w.signalAspects.toList.all fun entry => w.aspectIsBacked entry.1 entry.2) .unsafeState

/-- No train stands on a resource of a lock of another train. -/
def locksAreUnoccupied : Bool :=
  Registry.allValues w.routeLocks fun lock => !w.occupiedByOther lock.trainId lock.resources

/-! ### The whole -/

/-- All invariants a world asserts about itself. -/
def verifyInvariants (env : Env) : Checked Unit := do
  w.verifyInfrastructureDisruptionStops
  demand (w.finishedHandoverReceipts.toList.all fun entry => w.receiptIsValid entry.1 entry.2)
    .invalidHandover
  w.verifyFareControl env
  w.verifyPassengerStops env
  w.verifyServiceOutcomes
  w.verifyServiceDays env
  w.verifyHandovers env
  w.verifyEvents
  w.pendingDispatchRequests.toList.forM fun entry => w.verifyRequest entry.1 entry.2
  w.verifyWaiting
  w.verifyContinuations
  w.routeCompletedAtMs.toList.forM fun entry => w.verifyCompletion entry.1 entry.2
  w.verifyTrains
  w.verifySignals
  demand w.locksAreUnoccupied .unsafeState

end OperationalWorld

end Zugfolge
