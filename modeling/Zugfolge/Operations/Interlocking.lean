/-
The interlocking: locks on routes and what they set.
-/
import Zugfolge.Operations.FareControl

namespace Zugfolge

open Foundation

def OperationalDisruption.closes (effect : OperationalDisruption)
    (template : InterlockingRouteTemplate) : Bool :=
  match effect with
  | .resourceClosed resourceId => template.allResources.contains resourceId
  | .trackDetectionFailed resourceId => template.allResources.contains resourceId
  | .signalFailed signalId => signalId == template.signalId
  | .switchFailed switchId => template.switchPositions.contains switchId
  | .speedRestriction _ _ => false
  | .vehicleRestricted _ _ => false

namespace OperationalWorld

variable (w : OperationalWorld)

/-- The position at which a new lock of a train has to begin. -/
def expectedStart (train : OperationalTrain) (templateId : String) (continuation : Bool) :
    Checked RouteMillimetres :=
  if continuation then
    orRefuse (train.authority.map (·.endRouteMm)) (.unsafeRoute templateId)
  else .ok train.headRouteMm

/-- The train may be given the template: it stands, the kinds and routes agree, the
template begins where the train or its authority ends. -/
def admitRoute (trainId templateId : String) (continuation : Bool) :
    Checked (OperationalTrain × InterlockingRouteTemplate) := do
  refuseIf (w.fareControlBlocksDeparture trainId) (.unsafeRoute templateId)
  let train ← w.trainOf trainId
  let template ← w.templateOf templateId
  demand (template.movementKind == train.movementKind) .wrongMovementKind
  let route ← w.routeOf train
  let formation ← w.formationOf train.formationVersionId
  let start ← expectedStart train templateId continuation
  let leg ← orRefuse (route.legAt start) (.incompleteRoute route.id)
  demand (route.templateId == template.routeTemplateId) (.unsafeRoute templateId)
  let retained ←
    if template.authorityStartRouteMm ≠ start ∧ continuation = false then do
      let retained ← w.retainedRoute trainId
      pure (retained.any fun r => r.id == template.id)
    else pure false
  refuseIf ((decide (template.authorityStartRouteMm ≠ start) && !retained)
    || decide (template.authorityEndRouteMm ≤ start)
    || decide (route.lengthMm < template.authorityEndRouteMm)
    || train.speedMmps != 0
    || decide (train.motionState ≠ .standing)
    || train.motionSegment.isSome
    || continuation != train.authority.isSome
    || (continuation && train.movementKind != .train)
    || !protectionSystemsCompatible leg formation.performance.protectionSystems)
    (.unsafeRoute templateId)
  pure (train, template)

/-- The resources are held by a lock of another train. -/
def lockedByOther (trainId : String) (resources : KeySet String) : Bool :=
  Registry.anyValue w.routeLocks fun lock =>
    lock.trainId != trainId && !lock.resources.disjoint resources

/-- The resources are occupied by another train. -/
def occupiedByOther (trainId : String) (resources : KeySet String) : Bool :=
  Registry.anyValue w.trains fun train =>
    train.id != trainId && !train.occupiedBlocks.disjoint resources

/-- A disruption, a foreign lock or a foreign train is in the way of the template. -/
def routeConflicts (trainId : String) (template : InterlockingRouteTemplate) : Bool :=
  (Registry.anyValue w.activeDisruptions fun effect =>
      effect.closes template)
    || w.lockedByOther trainId template.allResources
    || w.occupiedByOther trainId template.allResources

/-- Registers a train as waiting for the resources of a template. -/
def registerRouteWait (trainId : String) (resources : KeySet String) : OperationalWorld :=
  { w with
    waitingByResource :=
      Registry.addMemberAll w.waitingByResource resources.toList trainId }.updateTrain trainId
    fun train => { train with waitingReason := some "waiting-for-route-lock" }

def setSwitches (template : InterlockingRouteTemplate) : OperationalWorld :=
  { w with
    switchPositions := template.switchPositions.toList.foldl
      (fun acc entry => acc.insert entry.1 entry.2) w.switchPositions }

def nextLockId (trainId templateId : String) : String :=
  s!"{w.eventSequence + 1}:{trainId}:{templateId}"

/-- The authority that a lock on the template gives to a train. -/
def authorityFor (train : OperationalTrain) (trainId lockId : String)
    (template : InterlockingRouteTemplate) : MovementAuthority :=
  { id := s!"authority:{lockId}", trainId, routeVersionId := train.routeVersionId
    endRouteMm := template.authorityEndRouteMm, issuedAtMs := w.nowMs
    sourceRouteLockId := lockId }

/-- The lock of a train on a template. -/
def lockFor (trainId templateId lockId : String) (template : InterlockingRouteTemplate) :
    RouteLock :=
  { id := lockId, templateId, trainId, resources := template.allResources
    releaseAfterTailRouteMm := template.releaseAfterTailRouteMm, lockedAtMs := w.nowMs }

/-- What a new lock writes: the life cycle of its resources, its signal, the lock and
the authority of the train. -/
def commitRouteLock (train : OperationalTrain) (trainId templateId lockId : String)
    (template : InterlockingRouteTemplate) : OperationalWorld :=
  let authority := w.authorityFor train trainId lockId template
  let written := { w with
    resourceLifecycle :=
      Registry.fill w.resourceLifecycle template.allResources.toList .routeLocked
    signalAspects := w.signalAspects.insert template.signalId train.movementKind.aspect
    routeLocks := w.routeLocks.insert lockId (w.lockFor trainId templateId lockId template) }
  ((written.fareControlAuthorityReissued trainId).updateTrain trainId
    fun t => { t with authority := some authority }).dropWaiting trainId

end OperationalWorld

/-- Locks a route at the head of a standing train, or as a continuation at the end of
its authority. -/
def lockRouteAt (trainId templateId : String) (continuation registerWait : Bool) :
    M MovementAuthority := do
  let w ← M.world
  let (train, template) ← M.check (w.admitRoute trainId templateId continuation)
  if w.routeConflicts trainId template then
    if registerWait && w.pendingDispatchRequests.contains trainId then
      M.update fun w => w.registerRouteWait trainId template.allResources
    M.reject (.unsafeRoute templateId)
  else
    M.about (.lockRoute trainId templateId)
    M.update fun w => w.setSwitches template
    M.check (refuseIf (decide (u64Max ≤ w.eventSequence)) .arithmeticOverflow)
    let lockId := w.nextLockId trainId templateId
    M.update fun w => w.commitRouteLock train trainId templateId lockId template
    record "route-locked" trainId (.text templateId)
    pure (w.authorityFor train trainId lockId template)

/-- Locks a route at the head of a standing train. -/
def lockRoute (trainId templateId : String) : M MovementAuthority := do
  let w ← M.world
  M.check w.ensureNotPrepared
  lockRouteAt trainId templateId false true

/-- One attempt to lock the route behind the authority of a train; answers whether
there may be more. -/
def extendAuthorityOnce (trainId : String) : M (Bool × Unit) := do
  let w ← M.world
  let train ← M.check (w.trainOf trainId)
  let route ← M.check (w.routeOf train)
  let authority ← M.check (orRefuse train.authority .noAuthority)
  if authority.endRouteMm = route.lengthMm then pure (false, ())
  else
    match w.infra.trainInterlockingRoute route.templateId authority.endRouteMm with
    | none => pure (false, ())
    | some next =>
      match ← TracedM.attempt (lockRouteAt trainId next.id true false) with
      | .ok _ => pure (true, ())
      | .error (.refused (.unsafeRoute _)) => pure (false, ())
      | .error failure => TracedM.fail failure

/-- Locks as many routes behind the authority of a train as are free. -/
def extendAvailableTrainAuthority (env : Env) (trainId : String) : M Unit :=
  TracedM.repeatFrom .outOfFuel (fun _ => extendAuthorityOnce trainId) env.fuel ()

/-! ### Safe stops -/

/-- The train is stopped where it is recorded to be. -/
def OperationalTrain.stopped (train : OperationalTrain) (reason : String) :
    OperationalTrain :=
  { train with
    speedMmps := 0
    motionSegment := none
    motionState := .safeStop reason
    waitingReason := some reason
    authority := none }

namespace OperationalWorld

/-- The scheduled motion ends without those of a train. -/
def dropMotionEnds (w : OperationalWorld) (trainId : String) : OperationalWorld :=
  { w with
    scheduledMotionEnds := w.scheduledMotionEnds.filter fun entry => entry.trainId != trainId }

/-- The waiting index of the continuations without those from a train. -/
def dropContinuationWaitsFrom (w : OperationalWorld) (trainId : String) : OperationalWorld :=
  { w with
    continuationsWaitingByResource :=
      Registry.dropMembers w.continuationsWaitingByResource fun continuationId =>
        Registry.anyValue w.pendingMovementContinuations fun continuation =>
          continuation.id == continuationId && continuation.predecessorTrainId == trainId }

/-- What a safe stop writes. -/
def commitSafeStop (w : OperationalWorld) (trainId reason : String) : OperationalWorld :=
  let stopped := { w with
    infrastructureDisruptionStops := w.infrastructureDisruptionStops.erase trainId
    pendingDispatchRequests := w.pendingDispatchRequests.erase trainId }
  ((((stopped.updateTrain trainId fun train => train.stopped reason).dropMotionEnds
    trainId).dropDepartures trainId).dropWaiting trainId).dropContinuationWaitsFrom trainId

end OperationalWorld

/-- Stops a train and takes its authority; its locks stay, their signals go to stop. -/
def safeStop (trainId reason : String) : M Unit := do
  let w ← M.world
  M.check w.ensureNotPrepared
  if w.trains.contains trainId then
    M.about (.safeStop trainId)
    M.update fun w => w.commitSafeStop trainId reason
    rebuildSignalAspects
    refreshContinuationSchedule
    record "safe-stop" trainId (.text reason)
  else
    M.update fun w => { w with
      infrastructureDisruptionStops := w.infrastructureDisruptionStops.erase trainId }
    M.reject (.unknownTrain trainId)

/-! ### Stops for infrastructure disruptions -/

/-- Stops a train for a disruption and keeps the evidence; a stop with another reason
stays as it is. -/
def stopForInfrastructureDisruption (disruptionId trainId : String) : M Unit := do
  let w ← M.world
  let train ← M.check (orPanic w.trains[trainId]?)
  let prior := w.infrastructureDisruptionStops[trainId]?
  if train.motionState.isSafeStop && prior.isNone then pure ()
  else
    let evidence := prior.getD { causes := ∅, revokedAuthority := train.authority }
    safeStop trainId "infrastructure-disruption"
    M.about (.stopForInfrastructure trainId disruptionId)
    M.update fun w => { w with
      infrastructureDisruptionStops := w.infrastructureDisruptionStops.insert trainId
        { evidence with causes := evidence.causes.insert disruptionId } }

/-- A train whose stop has no cause left stands again. -/
def refreshReleasedInfrastructureStop (trainId : String) : M Unit := do
  let w ← M.world
  match w.infrastructureDisruptionStops[trainId]? with
  | none => pure ()
  | some evidence =>
    let train ← M.check (orPanic w.trains[trainId]?)
    if !evidence.causes.isEmpty || w.fareControlBlocksDeparture trainId
        || train.passengerStops.any (·.cancellation.isSome)
        || !train.motionState.isSafeStop then
      pure ()
    else
      M.check (refuseIf (train.speedMmps != 0 || train.motionSegment.isSome
        || train.authority.isSome
        || decide (train.motionState ≠ .safeStop "infrastructure-disruption")) .unsafeState)
      M.about (.releaseInfrastructureStop trainId)
      M.update fun w => w.updateTrain trainId fun t => { t with
        motionState := .standing, waitingReason := some "missing-route-authority" }

/-- Takes a disruption from the causes of the stop of a train. -/
def OperationalWorld.dropStopCause (w : OperationalWorld) (trainId disruptionId : String) :
    OperationalWorld :=
  { w with
    infrastructureDisruptionStops := w.infrastructureDisruptionStops.modify trainId
      fun evidence => { evidence with causes := evidence.causes.erase disruptionId } }

/-- Takes a disruption from the causes of all stops. -/
def releaseInfrastructureDisruptionStops (disruptionId : String) : M Unit := do
  let w ← M.world
  let affected := (w.infrastructureDisruptionStops.toList.filter fun entry =>
    entry.2.causes.contains disruptionId).map Prod.fst
  TracedM.forEach (fun trainId => do
    M.update fun w => w.dropStopCause trainId disruptionId
    refreshReleasedInfrastructureStop trainId) affected

/-- Forgets the evidence of a stop once the train has its old authority again. -/
def finishInfrastructureAuthorityReissue (trainId : String) : M Unit := do
  let w ← M.world
  match w.infrastructureDisruptionStops[trainId]? with
  | none => pure ()
  | some evidence =>
    let train ← M.check (orPanic w.trains[trainId]?)
    if evidence.causes.isEmpty && train.authority.any (fun current =>
        evidence.revokedAuthority.all fun old =>
          decide (old.endRouteMm ≤ current.endRouteMm)) then
      M.about (.finishAuthorityReissue trainId)
      M.update fun w => { w with
        infrastructureDisruptionStops := w.infrastructureDisruptionStops.erase trainId }

/-- The stops for disruptions are consistent with trains, locks and disruptions. -/
def OperationalWorld.verifyInfrastructureDisruptionStops (w : OperationalWorld) : Checked Unit :=
  w.infrastructureDisruptionStops.toList.forM fun entry => do
    let (trainId, evidence) := entry
    let train ← orRefuse w.trains[trainId]? .unsafeState
    refuseIf (evidence.causes.toList.any (fun cause => !w.activeDisruptions.contains cause)
      || (!evidence.causes.isEmpty
        && (decide (train.motionState ≠ .safeStop "infrastructure-disruption")
          || train.speedMmps != 0 || train.authority.isSome || train.motionSegment.isSome)))
      .unsafeState
    match evidence.revokedAuthority with
    | none => pure ()
    | some old => do
      let lock ← orRefuse w.routeLocks[old.sourceRouteLockId]? .unsafeState
      refuseIf (old.trainId != trainId || old.routeVersionId != train.routeVersionId
        || lock.trainId != trainId || decide (w.nowMs < old.issuedAtMs)) .unsafeState

end Zugfolge
