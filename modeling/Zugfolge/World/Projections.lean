/-
The projections of a world and its indexes.
-/
import Zugfolge.World.Lookup

namespace Zugfolge

open Foundation

namespace OperationalWorld

variable (w : OperationalWorld)

/-! ### Life cycle of resources -/

/-- The life cycle of all resources, computed from locks, prepared handovers and trains;
an occupation overrides a lock. -/
def lifecycleProjection : Registry String ResourceLifecycle :=
  let locked := (Registry.values w.routeLocks).foldl
    (fun acc lock => Registry.fill acc lock.resources.toList .routeLocked) ∅
  let protectedToo := (Registry.values w.preparedHandovers).foldl
    (fun acc handover =>
      Registry.fill acc handover.protectedResources.toList ResourceLifecycle.routeLocked) locked
  (Registry.values w.trains).foldl
    (fun acc train => Registry.fill acc train.occupiedBlocks.toList .occupiedByFormation)
    protectedToo

/-- Rebuilds the life cycle of all resources. -/
def rebuildResourceLifecycle : OperationalWorld :=
  { w with resourceLifecycle := w.lifecycleProjection }

/-- The life cycle of one resource, computed from trains, locks and prepared handovers. -/
def lifecycleOf (resource : String) : Option ResourceLifecycle :=
  if Registry.anyValue w.trains fun train => train.occupiedBlocks.contains resource then
    some .occupiedByFormation
  else if (Registry.anyValue w.routeLocks fun lock => lock.resources.contains resource)
      || Registry.anyValue w.preparedHandovers
        (fun handover => handover.protectedResources.contains resource) then
    some .routeLocked
  else none

/-- Writes an entry of a registry, or removes it. -/
def putEntry {α : Type} (m : Registry String α) (key : String) : Option α → Registry String α
  | some value => m.insert key value
  | none => m.erase key

/-- Recomputes the life cycle of some resources. -/
def refreshResourceLifecycle (resources : KeySet String) : OperationalWorld :=
  { w with
    resourceLifecycle := resources.toList.foldl
      (fun acc resource => putEntry acc resource (w.lifecycleOf resource)) w.resourceLifecycle }

def markOccupied (blocks : KeySet String) : OperationalWorld :=
  { w with
    resourceLifecycle :=
      Registry.fill w.resourceLifecycle blocks.toList .occupiedByFormation }

/-! ### Signals -/

/-- Adds the aspect of a disruption that fails a signal. -/
def addFailedSignal (aspects : Registry String SignalAspect) (effect : OperationalDisruption) :
    Registry String SignalAspect :=
  match effect with
  | .signalFailed signalId => aspects.insert signalId .failed
  | _ => aspects

/-- The signals failed by an active disruption. -/
def failedSignals : Registry String SignalAspect :=
  (Registry.values w.activeDisruptions).foldl addFailedSignal ∅

def addLockAspect (aspects : Registry String SignalAspect) (lock : RouteLock) :
    Checked (Registry String SignalAspect) := do
  let train ← orRefuse w.trains[lock.trainId]? .unsafeState
  if train.motionState.isSafeStop || w.fareControlBlocksDeparture train.id
      || w.fareControlAuthorityRevoked train.id then
    pure aspects
  else do
    let template ← w.templateOf lock.templateId
    if w.infrastructureSignalWithheld train.id template.authorityEndRouteMm then pure aspects
    else
      let expected := template.movementKind.aspect
      match aspects[template.signalId]? with
      | some .failed => pure aspects
      | some aspect => do
        demand (aspect == expected) .unsafeState
        pure aspects
      | none => pure (aspects.insert template.signalId expected)

/-- The signal aspects computed from active signal failures and locks. -/
def signalProjection : Checked (Registry String SignalAspect) :=
  (Registry.values w.routeLocks).foldlM w.addLockAspect w.failedSignals

/-! ### Continuations -/

def continuationWaits (continuationId : String) : Bool :=
  Registry.anyValue w.continuationsWaitingByResource fun waiting =>
    waiting.contains continuationId

/-- The instant at which a continuation is due, if its predecessor has arrived. -/
def continuationDueAt (continuation : MovementContinuation) : Checked (Option SimMillis) :=
  let predecessorId := continuation.predecessorTrainId
  if w.fareControlPending predecessorId || w.continuationWaits continuation.id
      || !(w.trains[predecessorId]?.any fun train => decide (train.motionState = .standing)) then
    .ok none
  else
    match w.routeCompletedAtMs[predecessorId]? with
    | none => .ok none
    | some completedAtMs => do
      let dwellDue ← orRefuse (addChecked64 completedAtMs continuation.minimumDwellMs)
        (.invalidMovementContinuationTimes continuation.id)
      pure (some (max continuation.notBeforeMs dwellDue))

/-- The due dates of all pending continuations. -/
def continuationSchedule : Checked (KeySet ScheduledContinuationDue) :=
  (Registry.values w.pendingMovementContinuations).foldlM (fun scheduled continuation => do
    match ← w.continuationDueAt continuation with
    | none => pure scheduled
    | some atMs => pure (scheduled.insert ⟨atMs, continuation.id⟩)) ∅

end OperationalWorld

/-- Recomputes the due dates of the continuations. -/
def refreshContinuationSchedule : M Unit := do
  let w ← M.world
  let scheduled ← M.check w.continuationSchedule
  M.update fun w => { w with scheduledContinuationDue := scheduled }

def rebuildSignalAspects : M Unit := do
  let w ← M.world
  let aspects ← M.check w.signalProjection
  M.update fun w => { w with signalAspects := aspects }

namespace OperationalWorld

/-- Updates the train with the given name, if it is there. -/
def updateTrain (w : OperationalWorld) (trainId : String)
    (f : OperationalTrain → OperationalTrain) : OperationalWorld :=
  { w with trains := w.trains.modify trainId f }

/-- Removes a train from the index of waiting trains. -/
def dropWaiting (w : OperationalWorld) (trainId : String) : OperationalWorld :=
  { w with waitingByResource := Registry.dropMember w.waitingByResource trainId }

/-- Clears the waiting reason of a train that waited for a continuation. -/
def clearContinuationReason (w : OperationalWorld) (trainId : String) : OperationalWorld :=
  w.updateTrain trainId fun train =>
    if train.waitingReason = some "waiting-for-movement-continuation" then
      { train with waitingReason := none }
    else train

/-- Registers a continuation as waiting for resources. -/
def registerMovementContinuationWait (w : OperationalWorld) (continuation : MovementContinuation)
    (resources : KeySet String) : OperationalWorld :=
  { w with
    continuationsWaitingByResource :=
      Registry.addMemberAll w.continuationsWaitingByResource resources.toList continuation.id
    }.updateTrain continuation.predecessorTrainId fun train =>
      { train with waitingReason := some "waiting-for-movement-continuation" }

/-- The continuations that wait for one of the resources. -/
def continuationsWaitingFor (w : OperationalWorld) (resources : KeySet String) : KeySet String :=
  Std.ExtTreeSet.ofList (resources.toList.flatMap fun resource =>
    (w.continuationsWaitingByResource[resource]?.map (·.toList)).getD []) compare

/-- The world without the given continuations in its waiting index, their predecessors
no longer waiting. -/
def wakeContinuations (w : OperationalWorld) (continuationIds : KeySet String) :
    OperationalWorld :=
  continuationIds.toList.foldl (fun acc continuationId =>
    match acc.pendingMovementContinuations[continuationId]? with
    | some continuation => acc.clearContinuationReason continuation.predecessorTrainId
    | none => acc)
    { w with
      continuationsWaitingByResource :=
        Registry.dropMembers w.continuationsWaitingByResource continuationIds.contains }

end OperationalWorld

/-- Wakes the continuations that wait for one of the resources. -/
def wakeMovementContinuationsForResources (resources : KeySet String) : M Unit := do
  let w ← M.world
  let continuationIds := w.continuationsWaitingFor resources
  if continuationIds.isEmpty then pure ()
  else
    M.update fun w => w.wakeContinuations continuationIds
    refreshContinuationSchedule

end Zugfolge
