/-
What progresses by itself: arrivals, holds and continuations.

An arrival may begin a hold, the end of a hold may release a continuation, and the
begin of a successor may be an arrival.  The commands of this circle take the next
command as a parameter; `progressFareControlHolds` closes it with a bound on its depth.
-/
import Zugfolge.Operations.Continuations

namespace Zugfolge

open Foundation

/-- Records whether a train has completed its route. -/
def refreshRouteCompletion (env : Env) (trainId : String) : M Unit := do
  let w ← M.world
  if ← M.check (w.physicalRouteComplete trainId) then
    completeServiceOutcome env trainId
    M.update fun w => { w with
      routeCompletedAtMs := if w.routeCompletedAtMs.contains trainId then w.routeCompletedAtMs
        else w.routeCompletedAtMs.insert trainId w.nowMs }
  else
    M.update fun w => { w with routeCompletedAtMs := w.routeCompletedAtMs.erase trainId }
  refreshContinuationSchedule

/-! ### Arrivals -/

/-- Records the arrival of a train at its next stop and begins the holds due there. -/
def recordPassengerArrivalWith (env : Env) (progressHolds : M Unit) (trainId : String) :
    M Bool := do
  let w ← M.world
  let train ← M.check (orPanic w.trains[trainId]?)
  match train.passengerStops with
  | none => pure false
  | some progress =>
    if train.arrivesAt progress then
      markArrival env trainId progress
      scheduleFareControlHold trainId
      progressHolds
      pure true
    else pure false

/-! ### Continuations -/

variable (w : OperationalWorld)

/-- The instant at which a continuation may be activated, if its predecessor has arrived. -/
def OperationalWorld.activationDue (continuation : MovementContinuation)
    (predecessor : OperationalTrain) : Checked (Option SimMillis) := do
  let complete ← w.physicalRouteComplete predecessor.id
  if !complete || w.fareControlPending predecessor.id
      || decide (predecessor.motionState ≠ .standing) then
    pure none
  else
    let completedAtMs ← orRefuse w.routeCompletedAtMs[predecessor.id]? .unsafeState
    let dwellDue ← orRefuse (addChecked64 completedAtMs continuation.minimumDwellMs)
      (.invalidMovementContinuationTimes continuation.id)
    pure (some (max continuation.notBeforeMs dwellDue))

/-- Intervals, blocks and direction of the successor of a predecessor that has arrived. -/
def OperationalWorld.admitActivation (continuation : MovementContinuation)
    (predecessor : OperationalTrain) :
    Checked (List TrackInterval × KeySet String × Direction) := do
  w.validateTrainProgramTemplate continuation.successor
    continuation.successorDispatch.interlockingRouteId
  let (intervals, blocks, direction) ← w.validateContinuationIntervals continuation
    predecessor.routeVersionId predecessor.formationVersionId predecessor.occupiedIntervals
  let blocks := blocks ∪ (w.handoverProtectionByTrain[predecessor.id]?).getD ∅
  let successorNumber ← orRefuse
    (operationalTrainNumberNumericPart continuation.successor.trainNumber)
    (.invalidTrainNumber continuation.successor.trainNumber)
  refuseIf (Registry.anyValue w.trains fun train =>
    train.id != predecessor.id && (train.id == continuation.successor.id
      || operationalTrainNumberNumericPart train.trainNumber == some successorNumber))
    (.movementContinuationTargetOccupied continuation.successor.id)
  pure (intervals, blocks, direction)

/-- Replaces the predecessor of a continuation by its successor. -/
def replacePredecessor (env : Env) (progressHolds : M Unit)
    (continuation : MovementContinuation) (predecessor : OperationalTrain)
    (intervals : List TrackInterval) (blocks : KeySet String) (direction : Direction) :
    M Unit := do
  let w ← M.world
  let released := w.lockedResources predecessor.id
  M.about (.continueMovement continuation.id)
  M.update fun w =>
    w.commitPredecessorEnd predecessor.id continuation.successor.id continuation.id
  let formation ← M.check (orPanic w.formations[predecessor.formationVersionId]?)
  let serviceOutcome ←
    startServiceOutcome env continuation.successor predecessor.formationVersionId
  let tail ← M.check (orRefuse (subChecked64 continuation.successor.headRouteMm
    formation.performance.lengthMm) .arithmeticOverflow)
  let train := OperationalWorld.successorTrain env continuation predecessor.formationVersionId
    tail intervals blocks direction serviceOutcome
  M.update fun w => w.commitSuccessor continuation train
  let w ← M.world
  M.check (refuseIf (decide (u64Max ≤ w.eventSequence)) .arithmeticOverflow)
  M.update fun w => w.storeReceipt env continuation
  record "movement-continued" continuation.successor.id (.text
    (s!"chain={continuation.id};from={predecessor.id};to={continuation.successor.id};"
      ++ s!"continuity={continuation.continuity.contractName}"))
  let _ ← recordPassengerArrivalWith env progressHolds continuation.successor.id
  M.update fun w => w.rebuildResourceLifecycle
  rebuildSignalAspects
  wakeMovementContinuationsForResources released
  refreshRouteCompletion env continuation.successor.id

/-- Activates a continuation that is due; answers whether the successor has begun. -/
def activateMovementContinuationWith (env : Env) (progressHolds : M Unit)
    (continuationId : String) : M Bool := do
  let w ← M.world
  let continuation ← M.check (orRefuse w.pendingMovementContinuations[continuationId]?
    (.unknownMovementContinuation continuationId))
  match w.trains[continuation.predecessorTrainId]? with
  | none => pure false
  | some predecessor =>
    let due ← M.check (w.activationDue continuation predecessor)
    if !(due.any fun atMs => decide (atMs ≤ w.nowMs)) then pure false
    else
      let (intervals, blocks, direction) ← M.check (w.admitActivation continuation predecessor)
      let blocked := w.continuationBlockedResources predecessor.id intervals blocks
      if !blocked.isEmpty then
        M.update fun w => w.registerMovementContinuationWait continuation blocked
        pure false
      else
        replacePredecessor env progressHolds continuation predecessor intervals blocks direction
        pure true

/-- The continuations due now, in order. -/
def OperationalWorld.dueContinuations : List String :=
  (w.scheduledContinuationDue.toList.takeWhile fun scheduled =>
    decide (scheduled.atMs ≤ w.nowMs)).map (·.continuationId)

/-- One round over the continuations due now; answers whether there was one. -/
def continuationRound (env : Env) (progressHolds : M Unit) (activated : List String) :
    M (Bool × List String) := do
  refreshContinuationSchedule
  let w ← M.world
  let due := w.dueContinuations
  if due.isEmpty then pure (false, activated)
  else
    let new ← TracedM.collect (fun continuationId => do
      if ← activateMovementContinuationWith env progressHolds continuationId then
        pure (some continuationId)
      else pure none) due
    pure (true, activated ++ new)

/-- Activates all continuations that are due, or none. -/
def progressMovementContinuationsWith (env : Env) (progressHolds : M Unit) : M (List String) :=
  TracedM.staged do
    let activated ← TracedM.repeatFrom .outOfFuel (continuationRound env progressHolds) env.fuel []
    refreshContinuationSchedule
    if !activated.isEmpty then
      let _ ← dispatchPending env
    pure activated

/-! ### Holds -/

/-- What the release of a hold writes first. -/
def OperationalWorld.commitHoldRelease (trainId : String)
    (outcome : FareControlHoldOutcomeV1) (causality : String) : OperationalWorld :=
  (w.updateHold trainId fun hold => { hold with
    status := .released, outcome := some outcome, releasedAtMs := some w.nowMs
    causalityId := causality, revision := hold.revision + 1 }).dropScheduledHolds trainId

/-- A train may depart after its hold: it is not stopped and its plan is not cancelled. -/
def OperationalWorld.mayDepart (trainId : String) : Bool :=
  w.trains[trainId]?.any fun train => !train.motionState.isSafeStop
    && train.passengerStops.all fun progress => progress.cancellation.isNone

/-- Puts the request of a train back among the pending ones. -/
def OperationalWorld.requeueRequest (trainId : String) :
    Option DispatchRequest → OperationalWorld
  | some request => { w with
      pendingDispatchRequests := w.pendingDispatchRequests.insert trainId
        { request with waitingSinceMs := w.nowMs } }
  | none => w

/-- Returns the request of a train after its hold, if the train may depart. -/
def OperationalWorld.resumeRequest (trainId : String) (mayDepart : Bool) :
    OperationalWorld :=
  let request := (w.fareControlState.bind fun state => state.resumeRequests[trainId]?).filter
    fun _ => mayDepart
  let taken := w.updateFareControl fun state =>
    { state with resumeRequests := state.resumeRequests.erase trainId }
  let resumed := taken.requeueRequest trainId request
  if mayDepart then
    resumed.updateTrain trainId fun train =>
      { train with waitingReason := some "missing-route-authority" }
  else resumed

/-- Releases the hold of a train and lets it ask for its route again. -/
def releaseFareControlHoldWith (env : Env) (progressContinuations : M (List String))
    (trainId : String) (outcome : FareControlHoldOutcomeV1) (causality : String) : M Unit := do
  let w ← M.world
  let _ ← M.check (fareExpect (w.fareControlHold trainId) "fare_control_hold_missing")
  M.about (.releaseHold trainId)
  M.update fun w => w.commitHoldRelease trainId outcome causality
  refreshReleasedInfrastructureStop trainId
  let w ← M.world
  let mayDepart := w.mayDepart trainId
  M.update fun w => w.resumeRequest trainId mayDepart
  recordFareControlEvent trainId "fare-control-hold-released"
  if mayDepart then
    record "departure-authority-requested" trainId (.text fareControlCause)
    let _ ← dispatchPending env
    let _ ← progressContinuations
    pure ()

/-- What the begin of a hold writes: the train loses authority and request until the
hold is released. -/
def OperationalWorld.commitHoldActivation (trainId : String)
    (train : OperationalTrain) (deadline : SimMillis) : OperationalWorld :=
  let request := w.pendingDispatchRequests[trainId]?
  let stopped := (w.updateTrain trainId fun t => { t with
    authority := none, waitingReason := some fareControlCause }).dropWaiting trainId
  let taken := { stopped with
    pendingDispatchRequests := stopped.pendingDispatchRequests.erase trainId }.updateFareControl
    fun state => { state with
      revokedAuthorities := match train.authority with
        | some authority => state.revokedAuthorities.insert trainId authority
        | none => state.revokedAuthorities
      resumeRequests := match request with
        | some request => state.resumeRequests.insert trainId request
        | none => state.resumeRequests
      scheduled := state.scheduled.insert ⟨deadline, trainId⟩ }
  taken.updateHold trainId fun hold => { hold with
    status := .active, activatedAtMs := some w.nowMs, deadlineMs := some deadline
    revision := hold.revision + 1 }

/-- Begins the hold of a train. -/
def activateHold (scheduled : ScheduledFareControlHold) (hold : FareControlHoldV1) : M Unit := do
  let w ← M.world
  let trainId := scheduled.trainId
  let ready ← M.check (w.fareControlReadyAt hold)
  M.check (fareRequire (ready == some scheduled.atMs && scheduled.atMs == w.nowMs)
    "fare_control_activation_time_mismatch")
  let deadline ← M.check
    (orRefuse (addChecked64 w.nowMs hold.policy.maxWaitMs) .arithmeticOverflow)
  M.check (fareRequire (decide (deadline ≤ maxStopContractInteger)) "fare_control_time_overflow")
  let train ← M.check (fareExpect w.trains[trainId]? "fare_control_train_missing")
  M.check (fareRequire (train.speedMmps == 0 && train.motionSegment.isNone)
    "fare_control_train_not_stopped")
  M.about (.activateHold trainId)
  M.update fun w => w.commitHoldActivation trainId train deadline
  rebuildSignalAspects
  recordFareControlEvent trainId "fare-control-hold-activated"
  record "departure-authority-withheld" trainId (.text fareControlCause)

/-- Begins or ends the first hold that is due; answers whether there was one. -/
def holdRound (env : Env) (progressContinuations : M (List String)) : M (Bool × Unit) := do
  let w ← M.world
  match w.fareControlState.bind fun state => state.scheduled.toList.head? with
  | none => pure (false, ())
  | some next =>
    if w.nowMs < next.atMs then pure (false, ())
    else
      M.update fun w => w.updateFareControl fun state =>
        { state with scheduled := state.scheduled.erase next }
      let hold ← M.check (fareExpect (w.fareControlHold next.trainId)
        "fare_control_hold_missing")
      match hold.status with
      | .requested => activateHold next hold
      | .active =>
        releaseFareControlHoldWith env progressContinuations next.trainId .timeout
          "fare-control-deadline"
      | .released => M.reject (.invalidFareControl "fare_control_stale_schedule")
      pure (true, ())

/-- Begins and ends all holds that are due. -/
def progressFareControlHoldsWith (env : Env) (progressContinuations : M (List String)) : M Unit :=
  TracedM.repeatFrom .outOfFuel (fun _ => holdRound env progressContinuations) env.fuel ()

/-! ### The circle -/

/-- Begins and ends all holds that are due, with at most `depth` turns of the circle of
holds, continuations and arrivals. -/
def progressHoldsWithin (env : Env) : ℕ → M Unit
  | 0 => TracedM.fail .outOfFuel
  | depth + 1 => progressFareControlHoldsWith env
      (progressMovementContinuationsWith env (progressHoldsWithin env depth))

/-- Begins and ends all holds that are due. -/
def progressFareControlHolds (env : Env) : M Unit := progressHoldsWithin env env.fuel

/-- Activates all continuations that are due, or none. -/
def progressMovementContinuations (env : Env) : M (List String) :=
  progressMovementContinuationsWith env (progressFareControlHolds env)

/-- Records the arrival of a train at its next stop. -/
def recordPassengerArrival (env : Env) (trainId : String) : M Bool :=
  recordPassengerArrivalWith env (progressFareControlHolds env) trainId

def releaseFareControlHold (env : Env) (trainId : String) (outcome : FareControlHoldOutcomeV1)
    (causality : String) : M Unit :=
  releaseFareControlHoldWith env (progressMovementContinuations env) trainId outcome causality

/-- Releases a requested hold whose stop the train will not reach. -/
def cancelRequestedFareControlHold (env : Env) (trainId causality : String) : M Unit := do
  let w ← M.world
  if (w.fareControlHold trainId).any fun hold => hold.status == .requested then
    releaseFareControlHold env trainId .targetUnavailable causality

def ResolveFareControlHoldOutcomeV1.outcome : ResolveFareControlHoldOutcomeV1 →
    FareControlHoldOutcomeV1
  | .identityConfirmed => .identityConfirmed
  | .identityNotConfirmed => .identityNotConfirmed
  | .unavailable => .unavailable

/-- Releases an active hold with the outcome found by the police. -/
def resolveFareControlHold (env : Env) (input : ResolveFareControlHoldInputV1) :
    M FareControlHoldV1 := do
  let w ← M.world
  M.check (fareRequire w.preparedHandovers.isEmpty "fare_control_handover_pending")
  let hold ← M.check (fareExpect (w.fareControlHold input.trainId) "fare_control_hold_missing")
  M.check (fareRequire (hold.holdId == input.holdId && hold.modelHash == input.modelHash
    && hold.revision == input.expectedRevision && validId input.causalityId)
    "fare_control_resolution_binding_mismatch")
  M.check (fareRequire (hold.status == .active
    && hold.deadlineMs.any fun deadline => decide (w.nowMs < deadline))
    "fare_control_hold_not_active")
  TracedM.staged do
    releaseFareControlHold env input.trainId input.outcome.outcome input.causalityId
    let w ← M.world
    M.check (orPanic (w.fareControlHold input.trainId))

/-! ### Departures -/

/-- Lets the first train whose departure is due start; answers whether there was one. -/
def departureRound (env : Env) : M (Bool × Unit) := do
  let w ← M.world
  match w.scheduledPassengerDepartures.toList.head? with
  | none => pure (false, ())
  | some next =>
    if w.nowMs < next.atMs then pure (false, ())
    else
      M.update fun w => { w with
        scheduledPassengerDepartures := w.scheduledPassengerDepartures.erase next }
      match w.trains[next.trainId]? with
      | none => pure (true, ())
      | some train =>
        if !(train.passengerStops.any fun p => p.nextStopIndex == next.stopSequence)
            || decide (train.motionState ≠ .standing) || train.motionSegment.isSome
            || w.fareControlBlocksDeparture next.trainId then
          pure (true, ())
        else if train.authority.any fun authority =>
            decide (train.headRouteMm < authority.endRouteMm) then
          let _ ← planMotion env next.trainId
          pure (true, ())
        else
          let _ ← dispatchPending env
          pure (true, ())

/-- Lets all trains whose departure is due start. -/
def progressPassengerDepartures (env : Env) : M Unit :=
  TracedM.repeatFrom .outOfFuel (fun _ => departureRound env) env.fuel ()

/-! ### Queued continuations -/

/-- Queues a continuation again: it is tried at once. -/
def requeueMovementContinuation (env : Env) (continuation : MovementContinuation) : M Unit :=
  TracedM.staged do
    M.update fun w => { w with
      continuationsWaitingByResource :=
        Registry.dropMember w.continuationsWaitingByResource continuation.id }
    M.update fun w => w.clearContinuationReason continuation.predecessorTrainId
    refreshContinuationSchedule
    let _ ← progressMovementContinuations env
    pure ()

def queueNewContinuation (env : Env) (continuation : MovementContinuation) : M Unit :=
  TracedM.staged do
    let w ← M.world
    M.check (w.validateMovementContinuation continuation)
    planServiceOutcome env continuation.successor
    M.about (.queueContinuation continuation)
    M.update fun w => { w with
      pendingMovementContinuations :=
        w.pendingMovementContinuations.insert continuation.id continuation }
    let w ← M.world
    M.check ((Registry.values w.pendingMovementContinuations).forM
      w.validateKnownContinuationBinding)
    record "movement-continuation-queued" continuation.id (.text
      (s!"from={continuation.predecessorTrainId};to={continuation.successor.id};"
        ++ s!"continuity={continuation.continuity.contractName}"))
    refreshContinuationSchedule
    let _ ← progressMovementContinuations env
    pure ()

/-- Registers a signed continuation; the same one again is tried again. -/
def queueMovementContinuation (env : Env) (continuation : MovementContinuation) : M Unit := do
  let w ← M.world
  M.check w.ensureNotPrepared
  match w.pendingMovementContinuations[continuation.id]? with
  | some existing =>
    M.check (demand (decide (existing = continuation))
      (.conflictingMovementContinuationId continuation.id))
    requeueMovementContinuation env continuation
  | none =>
    match w.completedMovementContinuations[continuation.id]? with
    | some receipt =>
      M.check (demand (receipt.payloadHash == env.continuationHash continuation)
        (.conflictingMovementContinuationId continuation.id))
    | none => queueNewContinuation env continuation

end Zugfolge
