/-
Movement: the ends of motion segments and the clock.
-/
import Zugfolge.Operations.Verify

namespace Zugfolge

open Foundation

/-! ### Places -/

/-- Tail, intervals and blocks of a train on its route. -/
structure TrainPlace where
  headRouteMm : RouteMillimetres
  tailRouteMm : RouteMillimetres
  occupiedIntervals : List TrackInterval
  occupiedBlocks : KeySet String

variable (w : OperationalWorld)

/-- The place of a train whose head is at the given position; the track is free of
other trains. -/
def OperationalWorld.placeOn (trainId : String) (route : RouteVersion)
    (formation : FormationVersion) (head : RouteMillimetres) : Checked TrainPlace := do
  let tail := subSat64 head formation.performance.lengthMm
  let intervals ← intervalsFor route tail head
  w.ensureIntervalsFree trainId intervals
  pure
    { headRouteMm := head, tailRouteMm := tail, occupiedIntervals := intervals
      occupiedBlocks :=
        blocksFor route tail head ∪ (w.handoverProtectionByTrain[trainId]?).getD ∅ }

def OperationalTrain.placed (train : OperationalTrain) (place : TrainPlace) : OperationalTrain :=
  { train with
    headRouteMm := place.headRouteMm
    tailRouteMm := place.tailRouteMm
    occupiedIntervals := place.occupiedIntervals
    occupiedBlocks := place.occupiedBlocks }

/-- The running segment of a train has brought it to a position and a speed. -/
def OperationalWorld.reachedNow (train : OperationalTrain) :
    Checked (RouteMillimetres × ℕ) := do
  let segment ← orRefuse train.motionSegment .unsafeState
  let head ← segment.positionAt w.nowMs
  let speed ← segment.speedAt w.nowMs
  refuseIf (decide (segment.startRouteMm < segment.segmentEndRouteMm)
    && head == segment.startRouteMm) .unsafeState
  pure (head, speed)

/-! ### Released routes -/

/-- The train stands at the end of its route. -/
def OperationalTrain.atTerminal (train : OperationalTrain) (route : RouteVersion) : Bool :=
  train.headRouteMm == route.lengthMm && train.speedMmps == 0 && train.motionSegment.isNone

/-- A lock that protects up to the end of the route, behind which the tail cannot get. -/
def RouteLock.releasedAtTerminal (lock : RouteLock) (train : OperationalTrain)
    (route : RouteVersion) (template : InterlockingRouteTemplate) : Bool :=
  train.atTerminal route && template.authorityEndRouteMm == route.lengthMm
    && lock.releaseAfterTailRouteMm == route.lengthMm
    && decide (train.tailRouteMm < lock.releaseAfterTailRouteMm)

/-- A lock to be released. -/
structure RouteRelease where
  lock : RouteLock
  template : InterlockingRouteTemplate
  terminal : Bool

/-- The locks of a train that its tail has cleared. -/
def OperationalWorld.clearedRoutes (trainId : String) :
    Checked (List RouteRelease) := do
  let train ← w.trainOf trainId
  let route ← w.routeOf train
  (w.locksOf trainId).foldlM (fun releases lock => do
    let template ← w.templateOf lock.templateId
    let terminal := lock.releasedAtTerminal train route template
    if decide (lock.releaseAfterTailRouteMm ≤ train.tailRouteMm) || terminal then
      pure (releases ++ [⟨lock, template, terminal⟩])
    else pure releases) []

/-- What the release of one lock writes: the overlap at the end of the route stays with
the train. -/
def OperationalWorld.commitRelease (trainId : String) (release : RouteRelease) : OperationalWorld :=
  { w with
    routeLocks := w.routeLocks.erase release.lock.id
    resourceLifecycle :=
      Registry.eraseAll w.resourceLifecycle release.lock.resources.toList }.updateTrain trainId
    fun train =>
      { train with
        occupiedBlocks :=
          if release.terminal then train.occupiedBlocks ∪ release.template.overlapResources
          else train.occupiedBlocks
        authority := train.authority.filter fun authority =>
          !(authority.sourceRouteLockId == release.lock.id
            && decide (authority.endRouteMm ≤ train.headRouteMm)) }

def releaseRoute (trainId : String) (release : RouteRelease) : M Unit := do
  M.update fun w => w.commitRelease trainId release
  record (if release.terminal then "route-released-at-terminal" else "route-released-after-tail")
    trainId (.text release.lock.templateId)

/-- Releases the locks of a train that its tail has cleared; answers their resources. -/
def releaseRoutesAfterTail (trainId : String) : M (KeySet String) := do
  let w ← M.world
  let releases ← M.check (w.clearedRoutes trainId)
  TracedM.forEach (releaseRoute trainId) releases
  let released : KeySet String :=
    Std.ExtTreeSet.ofList (releases.flatMap fun release => release.lock.resources.toList) compare
  if !released.isEmpty then
    rebuildSignalAspects
    M.update fun w => w.refreshResourceLifecycle released
  wakeMovementContinuationsForResources released
  pure released

/-! ### Segment ends -/

/-- The end of the running segment of a train. -/
def OperationalTrain.segmentEnded (train : OperationalTrain) (speed : ℕ) (leg : RouteLeg) :
    OperationalTrain :=
  { train with
    speedMmps := speed
    direction := leg.direction
    motionSegment := none
    motionState := if speed = 0 then .standing else .moving }

/-- An authority that is used up is taken from the train. -/
def OperationalTrain.authorityUsed (train : OperationalTrain) (head : RouteMillimetres) :
    OperationalTrain :=
  { train with
    authority := train.authority.filter fun authority => decide (head < authority.endRouteMm) }

def OperationalWorld.blocksOfTrain (trainId : String) : KeySet String :=
  (w.trains[trainId]?.map (·.occupiedBlocks)).getD ∅

/-- What follows the end of a segment: the next segment, a safe stop, or the completion
of the route. -/
def continueAfterSegment (env : Env) (trainId : String) (released : KeySet String) : M Unit := do
  let w ← M.world
  let train ← M.check (orPanic w.trains[trainId]?)
  let authorityRemaining := train.authority.any fun authority =>
    decide (train.headRouteMm < authority.endRouteMm)
  if authorityRemaining && !w.passengerStopWaiting trainId then
    let _ ← planMotion env trainId
    let _ ← dispatchWaitingForResources env released
    pure ()
  else if authorityRemaining then
    let _ ← dispatchWaitingForResources env released
    pure ()
  else if 0 < train.speedMmps then
    safeStop trainId "authority-ended-with-residual-speed"
  else
    refreshRouteCompletion env trainId
    let _ ← progressMovementContinuations env
    let _ ← dispatchPending env
    pure ()

/-- Moves a train to the end of its running segment and releases what it has cleared;
answers the resources that became free. -/
def arriveAtSegmentEnd (trainId : String) (train : OperationalTrain) (route : RouteVersion)
    (place : TrainPlace) (speed : ℕ) : M (KeySet String) := do
  M.about (.finishMotionSegment trainId)
  M.update fun w => w.updateTrain trainId fun t => t.placed place
  let leg ← M.check (orRefuse (route.legAt place.headRouteMm) (.incompleteRoute route.id))
  M.update fun w => w.updateTrain trainId fun t => t.segmentEnded speed leg
  M.update fun w => w.markOccupied place.occupiedBlocks
  let released ← releaseRoutesAfterTail trainId
  M.about (.endAuthority trainId)
  M.update fun w => w.updateTrain trainId fun t => t.authorityUsed place.headRouteMm
  M.update fun w =>
    w.refreshResourceLifecycle (train.occupiedBlocks ∪ w.blocksOfTrain trainId)
  let cleared := train.occupiedBlocks \ place.occupiedBlocks
  wakeMovementContinuationsForResources cleared
  pure (released ∪ cleared)

/-- Ends the running segment of a train. -/
def finishMotionSegment (env : Env) (trainId : String) : M Unit := do
  let w ← M.world
  let train ← M.check (w.trainOf trainId)
  let (head, speed) ← M.check (w.reachedNow train)
  let route ← M.check (w.routeOf train)
  let formation ← M.check (w.formationOf train.formationVersionId)
  let place ← M.check (w.placeOn trainId route formation head)
  measureServiceVehicleCost env trainId head
  M.check (refuseIf (decide (((train.authority.map (·.endRouteMm)).getD train.headRouteMm) < head))
    .authorityExceeded)
  let released ← arriveAtSegmentEnd trainId train route place speed
  record "motion-segment-ended" trainId (.text s!"head={head};tail={place.tailRouteMm}")
  let _ ← recordPassengerArrival env trainId
  continueAfterSegment env trainId released

/-! ### The clock -/

namespace OperationalWorld

variable (w : OperationalWorld)

def nextInstant : Option SimMillis :=
  ([w.scheduledMotionEnds.toList.head?.map (·.atMs),
    w.scheduledContinuationDue.toList.head?.map (·.atMs),
    w.scheduledPassengerDepartures.toList.head?.map (·.atMs),
    w.fareControlNextAt,
    w.serviceDayNextAt].filterMap id).min?

/-- The segment of a scheduled end is the one the train is running. -/
def endIsCurrent (scheduled : ScheduledMotionEnd) : Bool :=
  (w.trains[scheduled.trainId]?.bind (·.motionSegment)).any fun segment =>
    segment.startedAtMs == scheduled.segmentStartedAtMs

end OperationalWorld

/-- Ends the first motion segment that is due at an instant; answers whether there was
one. -/
def motionEndRound (env : Env) (atMs : SimMillis) : M (Bool × Unit) := do
  let w ← M.world
  match w.scheduledMotionEnds.toList.head? with
  | none => pure (false, ())
  | some next =>
    if next.atMs ≠ atMs then pure (false, ())
    else
      M.about (.dropMotionEnd next)
      M.update fun w => { w with scheduledMotionEnds := w.scheduledMotionEnds.erase next }
      if w.endIsCurrent next then finishMotionSegment env next.trainId
      pure (true, ())

def setClock (atMs : SimMillis) : M Unit := do
  M.about (.tick atMs)
  M.update fun w => { w with nowMs := atMs }

/-- Handles the events of the next instant up to a target; answers whether there was
one. -/
def clockRound (env : Env) (targetMs : SimMillis) : M (Bool × Unit) := do
  let w ← M.world
  match w.nextInstant with
  | none => pure (false, ())
  | some atMs =>
    if targetMs < atMs then pure (false, ())
    else
      setClock atMs
      TracedM.repeatFrom .outOfFuel (fun _ => motionEndRound env atMs) env.fuel ()
      progressFareControlHolds env
      progressPassengerDepartures env
      let _ ← progressMovementContinuations env
      closeReadyServiceDays env
      pure (true, ())

/-- Handles all events up to a target and sets the clock to it. -/
def advanceTo (env : Env) (targetMs : SimMillis) : M Unit := do
  let w ← M.world
  M.check (refuseIf (decide (maxStopContractInteger < targetMs)
    && Registry.anyValue w.trains fun train => train.passengerStops.isSome)
    .invalidPassengerStopPlan)
  -- The accepting region is the only one that may move a prepared train.
  M.check (refuseIf (!w.preparedHandovers.isEmpty && decide (targetMs ≠ w.nowMs))
    .invalidHandover)
  M.check (refuseIf (decide (targetMs < w.nowMs)) .timeRegression)
  refreshContinuationSchedule
  TracedM.repeatFrom .outOfFuel (fun _ => clockRound env targetMs) env.fuel ()
  setClock targetMs
  progressFareControlHolds env
  let _ ← progressMovementContinuations env
  closeReadyServiceDays env

/-! ### Cancelled stop plans -/

/-- Writes the position a running train has really reached into the train and releases
what it has cleared. -/
def foldPosition (trainId : String) : M Unit := do
  let w ← M.world
  let train ← M.check (orPanic w.trains[trainId]?)
  match train.motionSegment with
  | none => pure ()
  | some segment =>
    let head ← M.check (segment.positionAt w.nowMs)
    let route ← M.check
      (orRefuse (w.infra.routeVersion train.routeVersionId) .invalidPassengerStopPlan)
    let formation ← M.check
      (orRefuse w.formations[train.formationVersionId]? .invalidPassengerStopPlan)
    let place ← M.check (w.placeOn trainId route formation head)
    let leg ← M.check (orRefuse (route.legAt head) .invalidPassengerStopPlan)
    M.about (.foldPosition trainId)
    M.update fun w => w.updateTrain trainId fun t =>
      { t.placed place with direction := leg.direction }
    let _ ← releaseRoutesAfterTail trainId
    M.update fun w =>
      w.refreshResourceLifecycle (train.occupiedBlocks ∪ place.occupiedBlocks)

/-- Stores the cancellation of the stop plan of a train. -/
def OperationalWorld.cancelPlan (w : OperationalWorld) (trainId : String)
    (receipt : OperationalPassengerStopCancellation) : OperationalWorld :=
  w.updateTrain trainId fun train =>
    { train with
      passengerStops := train.passengerStops.map fun p => { p with cancellation := some receipt } }

/-- Cancels the stop plan of a train and stops it where it is. -/
def cancelPassengerStopPlan (env : Env) (input : CancelPassengerStopPlanInputV1) :
    M OperationalPassengerStopCancellation := do
  let w ← M.world
  M.check (refuseIf (!w.preparedHandovers.isEmpty || !validId input.causalityId)
    .invalidPassengerStopPlan)
  let train ← M.check (orRefuse w.trains[input.trainId]? .invalidPassengerStopPlan)
  let progress ← M.check (orRefuse train.passengerStops .invalidPassengerStopPlan)
  M.check (demand (progress.planHash == input.expectedStopPlanHash) .invalidPassengerStopPlan)
  match progress.cancellation with
  | some receipt =>
    M.check (demand (receipt.causalityId == input.causalityId) .invalidPassengerStopPlan)
    pure receipt
  | none => TracedM.staged do
      let receipt : OperationalPassengerStopCancellation :=
        { worldId := w.worldId, trainRunId := input.trainId, stopPlanHash := progress.planHash
          cancelledAtMs := w.nowMs, causalityId := input.causalityId }
      foldPosition input.trainId
      M.update fun w => w.cancelPlan input.trainId receipt
      safeStop input.trainId "passenger-stop-plan-cancelled"
      cancelRequestedFareControlHold env input.trainId input.causalityId
      record "passenger-stop-plan-cancelled" input.trainId (.stopCancellation receipt)
      let next ← M.world
      M.check (next.verifyInvariants env)
      pure receipt

end Zugfolge
