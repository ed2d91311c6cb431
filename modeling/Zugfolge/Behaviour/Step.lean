/-
The steps of a regional world.

Every operation is a sequence of a few kinds of steps.  A step says which checks the
world has passed and what is written; between its writes an operation may owe the
refreshing of a projection, and the debt records what.

* `OperationalWorld.released`, `.segmentFinished`, `.continued`, `.adopted`: the writes
  of the steps that consist of several updates.
-/
import Zugfolge.Behaviour.Services
import Zugfolge.Behaviour.Debt

namespace Zugfolge

open Foundation

/-- The progress after the arrival at the next stop. -/
def OperationalPassengerStopProgress.arrived (progress : OperationalPassengerStopProgress)
    (atMs : SimMillis) : OperationalPassengerStopProgress :=
  progress.updateNext fun fact => { fact with actualArrivalMs := some atMs }

/-- The progress after the departure from the next stop. -/
def OperationalPassengerStopProgress.left (progress : OperationalPassengerStopProgress)
    (atMs : SimMillis) : OperationalPassengerStopProgress :=
  let left := progress.updateNext fun fact => { fact with actualDepartureMs := some atMs }
  { left with nextStopIndex := left.nextStopIndex + 1 }

namespace OperationalWorld

variable (w : OperationalWorld)

variable (trainId : String)

/-- The world after the release of several locks of a train. -/
def released (releases : List RouteRelease) : OperationalWorld :=
  releases.foldl (fun v release => v.commitRelease trainId release) w

/-- The world after the end of the segment of a train. -/
def segmentFinished (place : TrainPlace) (speed : ℕ) (leg : RouteLeg) :
    OperationalWorld :=
  (w.updateTrain trainId fun t => t.placed place).updateTrain trainId
    fun t => t.segmentEnded speed leg

/-- The world after a successor has taken the place of its predecessor. -/
def continued (env : Env) (continuation : MovementContinuation) (predecessor : OperationalTrain)
    (tail : RouteMillimetres) (intervals : List TrackInterval) (blocks : KeySet String)
    (direction : Direction) : OperationalWorld :=
  (w.commitPredecessorEnd predecessor.id continuation.successor.id continuation.id).commitSuccessor
    continuation (successorTrain env continuation predecessor.formationVersionId tail intervals
      blocks direction none)

/-- The world after it has taken a train from a message, its projections not yet rebuilt. -/
def adopted (handover : RegionHandover) : OperationalWorld :=
  ((((w.adoptVehicles handover).putFormation handover.formation).putTrain
    handover.train).adoptLocks handover).adoptSchedules handover

/-! ### Stops -/

/-- The world after the arrival of a train at its next stop. -/
def markArrived : OperationalWorld :=
  w.updateTrain trainId fun train => { train with
    passengerStops := train.passengerStops.map fun p => p.arrived w.nowMs
    waitingReason := some "passenger-stop" }

/-- The world after the departure of a train from the stop it stands at. -/
def departed : OperationalWorld :=
  w.updateTrain trainId fun t => { t with
    passengerStops := t.passengerStops.map fun p => p.left w.nowMs }

/-! ### Holds -/

/-- The due date of a hold: its begin, its end, or none. -/
def holdDue (hold : FareControlHoldV1) : Checked (Option SimMillis) :=
  match hold.status with
  | .requested => w.fareControlReadyAt hold
  | .active => .ok hold.deadlineMs
  | .released => .ok none

/-- The world with another due date for the hold of a train. -/
def replaceDue : Option SimMillis → OperationalWorld
  | none => w.dropScheduledHolds trainId
  | some atMs => (w.dropScheduledHolds trainId).updateFareControl fun state =>
    { state with scheduled := state.scheduled.insert ⟨atMs, trainId⟩ }

/-- The world with the due date of the hold of a train computed anew. -/
def rescheduled : Checked OperationalWorld :=
  match w.fareControlHold trainId with
  | none => .ok w
  | some hold => do
    let due ← w.holdDue hold
    pure (w.replaceDue trainId due)

/-- The world without one due date. -/
def withoutDue (scheduled : ScheduledFareControlHold) : OperationalWorld :=
  w.updateFareControl fun state =>
    { state with scheduled := state.scheduled.erase scheduled }

/-- The hold of a train once a message has brought the hold of another one. -/
def holdWith (input : Option FareControlHandoverV1) (id : String) :
    Option FareControlHoldV1 :=
  (input.bind fun input => if id = trainId then some input.hold else none).or
    (w.fareControlHold id)

/-- Why the hold of a train ends: the train will not reach the stop, the police have come,
or the time is up.  In the last case the due date is gone in the world `w'`. -/
inductive HoldEnds (trainId : String) : OperationalWorld → FareControlHoldOutcomeV1 → Prop where
  | unreachable {hold : FareControlHoldV1} : w.fareControlHold trainId = some hold →
      hold.status = .requested → HoldEnds trainId w .targetUnavailable
  | resolved {hold : FareControlHoldV1} {deadline : SimMillis}
      {outcome : ResolveFareControlHoldOutcomeV1} : w.fareControlHold trainId = some hold →
      hold.status = .active → hold.deadlineMs = some deadline → w.nowMs < deadline →
      HoldEnds trainId w outcome.outcome
  | expired {hold : FareControlHoldV1} {scheduled : ScheduledFareControlHold} :
      w.fareControlHold trainId = some hold → hold.status = .active →
      scheduled ∈ w.dueHolds → scheduled.trainId = trainId → scheduled.atMs ≤ w.nowMs →
      HoldEnds trainId (w.withoutDue scheduled) .timeout

end OperationalWorld

/-- The change is quiet beside signals, life cycle and fare control. -/
def AlmostQuiet (w w' : OperationalWorld) : Prop :=
  Quiet
    { w with
      signalAspects := w'.signalAspects
      resourceLifecycle := w'.resourceLifecycle
      fareControlState := w'.fareControlState } w'

/-- A step of a world: from debt and world to debt and world, with its visits. -/
inductive Step : Debt → OperationalWorld → List Visit → Debt → OperationalWorld → Prop where
  | quiet {d : Debt} {w w' : OperationalWorld} : Quiet w w' → Step d w [] d w'
  | relax {d d' : Debt} {w : OperationalWorld} : d.Le d' → Step d w [] d' w
  | registerVehicleType {d : Debt} {w : OperationalWorld} {kind : VehicleType} :
      w.vehicleTypes[kind.id]? = none →
      Step d w [⟨w, .registerVehicleType kind⟩] d
        { w with vehicleTypes := w.vehicleTypes.insert kind.id kind }
  | registerVehicle {d : Debt} {w : OperationalWorld} {vehicle : PhysicalVehicle} :
      w.vehicles[vehicle.id]? = none →
      Step d w [⟨w, .registerVehicle vehicle⟩] d
        { w with vehicles := w.vehicles.insert vehicle.id vehicle }
  | createFormation {d : Debt} {w : OperationalWorld} {id : String}
      {predecessorId : Option String} {vehicleIds : List String} {formation : FormationVersion} :
      w.ensureNotPrepared = .ok () →
      w.deriveFormation id predecessorId vehicleIds = .ok formation →
      w.formations[formation.id]? = none →
      Step d w [⟨w, .createFormation id vehicleIds⟩] d (w.putFormation formation)
  | materialize {d : Debt} {w w₁ : OperationalWorld} {env : Env} {input : TrainMaterialization}
      {plan : MaterializationPlan} :
      w.admitMaterialization input = .ok plan → Quiet w w₁ →
      Step d w [⟨w₁, .materialize input⟩] d
        ((w₁.putTrain (OperationalWorld.materializedTrain env input plan none)).markOccupied
          plan.occupiedBlocks)
  | retireTrain {d : Debt} {w : OperationalWorld} {trainId : String}
      {signals : List (String × String)} :
      w.admitRetirement trainId = .ok () → w.lockSignals = .ok signals →
      Step d w [⟨w, .retireTrain trainId⟩] d
        (w.commitRetirement trainId (OperationalWorld.retiringSignals trainId signals))
  | changeFormation {d : Debt} {w w₁ : OperationalWorld} {trainId newFormationId : String}
      {vehicleIds : List String} {train : OperationalTrain} {change : FormationChange} :
      w.admitFormationChange trainId newFormationId vehicleIds = .ok (train, change) →
      Quiet w w₁ →
      Step d w [⟨w₁, .changeFormation trainId newFormationId vehicleIds⟩]
        (d.formationRenewed trainId).lifecycleRebuilt (w₁.commitFormationChange trainId change)
  | rerouteTrain {d : Debt} {w : OperationalWorld} {trainId routeVersionId : String}
      {direction : Direction} :
      w.admitReroute trainId routeVersionId = .ok direction →
      Step d w [⟨w, .rerouteTrain trainId routeVersionId⟩] d
        (w.updateTrain trainId fun train => { train with routeVersionId, direction })
  | lockRoute {d : Debt} {w : OperationalWorld} {trainId templateId : String}
      {continuation : Bool} {train : OperationalTrain} {template : InterlockingRouteTemplate} :
      w.admitRoute trainId templateId continuation = .ok (train, template) →
      w.routeConflicts trainId template = false →
      Step d w [⟨w, .lockRoute trainId templateId⟩] d
        ((w.setSwitches template).commitRouteLock train trainId templateId
          (w.nextLockId trainId templateId) template)
  | finishAuthorityReissue {d : Debt} {w : OperationalWorld} {trainId : String} :
      Step d w [⟨w, .finishAuthorityReissue trainId⟩] d
        { w with
          infrastructureDisruptionStops := w.infrastructureDisruptionStops.erase trainId }
  | planMotion {d : Debt} {w : OperationalWorld} {trainId : String} {segment : MotionSegment} :
      decideMotion w trainId = .ok (.start segment) →
      (∀ train progress, w.trains[trainId]? = some train → train.passengerStops = some progress →
        progress.arrivalAtNext = none) →
      Step d w [⟨w, .planMotion trainId⟩] d (w.startSegment trainId segment)
  | leaveStop {d : Debt} {w w₁ : OperationalWorld} {trainId : String} {segment : MotionSegment}
      {train : OperationalTrain} {progress : OperationalPassengerStopProgress}
      {stop : OperationalPassengerStop} {due : SimMillis} :
      decideMotion w trainId = .ok (.start segment) →
      w.trains[trainId]? = some train → train.passengerStops = some progress →
      progress.arrivalAtNext.isSome = true → progress.departureDue = some due → due ≤ w.nowMs →
      progress.plan.stops[progress.nextStopIndex]? = some stop →
      train.headRouteMm = stop.routeMm → train.headRouteMm < segment.segmentEndRouteMm →
      Quiet (w.startSegment trainId segment) w₁ →
      Step d w [⟨w, .planMotion trainId⟩] d (w₁.departed trainId)
  | arrive {d : Debt} {w w₁ w' : OperationalWorld} {trainId : String} {train : OperationalTrain}
      {progress : OperationalPassengerStopProgress} {stop : OperationalPassengerStop}
      {due : SimMillis} :
      w.trains[trainId]? = some train → train.passengerStops = some progress →
      train.arrivesAt progress = true →
      progress.plan.stops[progress.nextStopIndex]? = some stop →
      addChecked64 w.nowMs stop.minimumDwellMs = some due → due ≤ maxStopContractInteger →
      Quiet (w.markArrived trainId) w₁ → w₁.rescheduled trainId = .ok w' →
      Step d w [] d.oweHolds w'
  | cancelPlan {d : Debt} {w : OperationalWorld} {trainId : String}
      {receipt : OperationalPassengerStopCancellation} :
      Step d w [] d (w.cancelPlan trainId receipt)
  | dropMotionEnd {d d' : Debt} {w : OperationalWorld} {scheduled : ScheduledMotionEnd} :
      (d' = if w.endIsCurrent scheduled then d.spend scheduled.trainId else d) →
      Step d w [⟨w, .dropMotionEnd scheduled⟩] d'
        { w with scheduledMotionEnds := w.scheduledMotionEnds.erase scheduled }
  | finishMotionSegment {d : Debt} {w w₁ : OperationalWorld} {trainId : String}
      {train : OperationalTrain} {head : RouteMillimetres} {speed : ℕ} {route : RouteVersion}
      {formation : FormationVersion} {place : TrainPlace} {leg : RouteLeg} :
      w.trainOf trainId = .ok train → w.reachedNow train = .ok (head, speed) →
      w.routeOf train = .ok route → w.formationOf train.formationVersionId = .ok formation →
      w.placeOn trainId route formation head = .ok place →
      head ≤ (train.authority.map (·.endRouteMm)).getD train.headRouteMm →
      Quiet w w₁ →
      Step d w [⟨w₁, .finishMotionSegment trainId⟩]
        ((d.oweResources (train.occupiedBlocks ∪ place.occupiedBlocks)).settle trainId)
        (w₁.segmentFinished trainId place speed leg)
  | markOccupied {d : Debt} {w : OperationalWorld} {trainId : String} {train : OperationalTrain}
      {blocks : KeySet String} :
      w.trains[trainId]? = some train → blocks.subset train.occupiedBlocks = true →
      Step d w [] d (w.markOccupied blocks)
  | releaseRoutes {d : Debt} {w w' : OperationalWorld} {trainId : String}
      {releases : List RouteRelease} :
      w.clearedRoutes trainId = .ok releases → releases ≠ [] →
      Quiet (w.released trainId releases) w' →
      Step d w [] (d.release (Std.ExtTreeSet.ofList
        (releases.flatMap fun release => release.lock.resources.toList) compare)) w'
  | rebuildSignals {d : Debt} {w : OperationalWorld} {aspects : Registry String SignalAspect} :
      w.signalProjection = .ok aspects →
      Step d w [] d.signalsRebuilt { w with signalAspects := aspects }
  | refreshLifecycle {d : Debt} {w : OperationalWorld} {resources : KeySet String} :
      Step d w [] (d.refreshed resources) (w.refreshResourceLifecycle resources)
  | rebuildLifecycle {d : Debt} {w : OperationalWorld} :
      Step d w [] d.lifecycleRebuilt w.rebuildResourceLifecycle
  | endAuthority {d : Debt} {w : OperationalWorld} {trainId : String} {head : RouteMillimetres} :
      Step d w [⟨w, .endAuthority trainId⟩] d
        (w.updateTrain trainId fun train => train.authorityUsed head)
  | foldPosition {d : Debt} {w : OperationalWorld} {trainId : String} {train : OperationalTrain}
      {segment : MotionSegment} {head : RouteMillimetres} {route : RouteVersion}
      {formation : FormationVersion} {place : TrainPlace} {leg : RouteLeg} :
      w.trains[trainId]? = some train → train.motionSegment = some segment →
      segment.positionAt w.nowMs = .ok head →
      w.infra.routeVersion train.routeVersionId = some route →
      w.formations[train.formationVersionId]? = some formation →
      w.placeOn trainId route formation head = .ok place →
      Step d w [⟨w, .foldPosition trainId⟩]
        ((d.oweResources (train.occupiedBlocks ∪ place.occupiedBlocks)).spend trainId)
        (w.updateTrain trainId fun t => { t.placed place with direction := leg.direction })
  | safeStop {d : Debt} {w : OperationalWorld} {trainId reason : String} :
      Step d w [⟨w, .safeStop trainId⟩] (d.oweSignals.settle trainId)
        (w.commitSafeStop trainId reason)
  | stopForInfrastructure {d : Debt} {w : OperationalWorld} {trainId disruptionId : String}
      {train : OperationalTrain} {evidence : InfrastructureDisruptionStop} :
      w.trains[trainId]? = some train → train.motionState.isSafeStop = true →
      Step d w [⟨w, .stopForInfrastructure trainId disruptionId⟩] d
        { w with
          infrastructureDisruptionStops :=
            w.infrastructureDisruptionStops.insert trainId evidence }
  | releaseInfrastructureStop {d : Debt} {w : OperationalWorld} {trainId : String}
      {train : OperationalTrain} :
      w.trains[trainId]? = some train → train.motionSegment = none → train.authority = none →
      w.infrastructureDisruptionStops.contains trainId = true →
      Step d w [⟨w, .releaseInfrastructureStop trainId⟩] d
        (w.updateTrain trainId fun t => { t with
          motionState := .standing, waitingReason := some "missing-route-authority" })
  | setFareControlPolicy {d : Debt} {w : OperationalWorld} {env : Env}
      {policy : FareControlPolicyV1} :
      validateFareControlPolicy env policy = .ok () →
      Step d w [] d { w with
        fareControlState := some { w.fareControlOrEmpty with policy := some policy } }
  | requestHold {d : Debt} {w : OperationalWorld} {env : Env}
      {input : RequestFareControlHoldInputV1} {train : OperationalTrain}
      {progress : OperationalPassengerStopProgress} {hold : FareControlHoldV1} :
      w.trains[input.trainId]? = some train → train.passengerStops = some progress →
      w.fareControlHold input.trainId = none → w.newHold env input progress = .ok hold →
      Step d w [] d (w.updateFareControl fun state =>
        { state with holds := state.holds.insert input.trainId hold })
  | extendHold {d : Debt} {w : OperationalWorld} {trainId caseId causalityId : String}
      {hold : FareControlHoldV1} :
      w.fareControlHold trainId = some hold → hold.status = .requested →
      Step d w [] d (w.updateHold trainId fun h => { h with
        caseIds := h.caseIds.insert caseId
        revision := h.revision + 1, causalityId })
  | activateHold {d : Debt} {w : OperationalWorld} {scheduled : ScheduledFareControlHold}
      {hold : FareControlHoldV1} {train : OperationalTrain} {deadline : SimMillis} :
      scheduled ∈ w.dueHolds → w.fareControlHold scheduled.trainId = some hold →
      hold.status = .requested → w.fareControlReadyAt hold = .ok (some w.nowMs) →
      scheduled.atMs = w.nowMs → addChecked64 w.nowMs hold.policy.maxWaitMs = some deadline →
      w.trains[scheduled.trainId]? = some train → train.speedMmps = 0 →
      train.motionSegment = none →
      Step d w [⟨w.withoutDue scheduled, .activateHold scheduled.trainId⟩] d.oweSignals
        ((w.withoutDue scheduled).commitHoldActivation scheduled.trainId train deadline)
  | releaseHold {d : Debt} {w w₁ : OperationalWorld} {trainId : String}
      {outcome : FareControlHoldOutcomeV1} {causality : String} :
      w.HoldEnds trainId w₁ outcome →
      Step d w [⟨w₁, .releaseHold trainId⟩] d (w₁.commitHoldRelease trainId outcome causality)
  | holdsProgressed {d : Debt} {w : OperationalWorld} :
      (∀ scheduled ∈ w.dueHolds, w.nowMs < scheduled.atMs) → Step d w [] d.holdsProgressed w
  | queueContinuation {d : Debt} {w w₁ : OperationalWorld}
      {continuation : MovementContinuation} :
      w.pendingMovementContinuations[continuation.id]? = none →
      w.validateMovementContinuation continuation = .ok () → Quiet w w₁ →
      Step d w [⟨w₁, .queueContinuation continuation⟩] d
        { w₁ with
          pendingMovementContinuations :=
            w₁.pendingMovementContinuations.insert continuation.id continuation }
  | continueMovement {d : Debt} {w w' : OperationalWorld} {env : Env}
      {continuation : MovementContinuation} {predecessor : OperationalTrain}
      {formation : FormationVersion} {tail : RouteMillimetres} {intervals : List TrackInterval}
      {blocks : KeySet String} {direction : Direction} {key : String} {atMs : SimMillis} :
      w.pendingMovementContinuations[key]? = some continuation →
      w.trains[continuation.predecessorTrainId]? = some predecessor →
      w.activationDue continuation predecessor = .ok (some atMs) → atMs ≤ w.nowMs →
      w.admitActivation continuation predecessor = .ok (intervals, blocks, direction) →
      w.continuationBlockedResources predecessor.id intervals blocks = ∅ →
      predecessor.motionState = .standing →
      w.formations[predecessor.formationVersionId]? = some formation →
      subChecked64 continuation.successor.headRouteMm formation.performance.lengthMm = some tail →
      Quiet (w.continued env continuation predecessor tail intervals blocks direction) w' →
      Step d w [⟨w, .continueMovement continuation.id⟩] d.oweAll w'
  | restrictVehicle {d : Debt} {w : OperationalWorld} {disruptionId vehicleId : String}
      {restriction : VehicleRestriction} :
      Step d w [⟨w, .restrictVehicle disruptionId vehicleId restriction⟩]
        (d.oweFormations (w.trainsWith vehicleId))
        (w.updateVehicle vehicleId fun vehicle => { vehicle with
          restrictions := vehicle.restrictions.insert disruptionId restriction
          history := vehicle.history ++ [s!"{disruptionId}:activated"] })
  | liftRestriction {d : Debt} {w : OperationalWorld}
      {disruptionId releaseReference vehicleId : String} :
      Step d w [⟨w, .liftRestriction disruptionId vehicleId⟩]
        (d.oweFormations (w.trainsWith vehicleId))
        (w.updateVehicle vehicleId fun vehicle => { vehicle with
          restrictions := vehicle.restrictions.erase disruptionId
          history := vehicle.history ++ [s!"{disruptionId}:released:{releaseReference}"] })
  | activateDisruption {d : Debt} {w : OperationalWorld} {disruptionId : String}
      {effect : OperationalDisruption} :
      w.activeDisruptions[disruptionId]? = none →
      Step d w [⟨w, .activateDisruption disruptionId effect⟩] d
        (w.commitDisruption disruptionId effect)
  | clearDisruption {d : Debt} {w : OperationalWorld} {disruptionId : String} :
      Step d w [⟨w, .clearDisruption disruptionId⟩] d.oweSignals
        { w with activeDisruptions := w.activeDisruptions.erase disruptionId }
  | beginHandover {d : Debt} {w w₁ : OperationalWorld} {env : Env} {handover : RegionHandover}
      {id trainId targetRegionId : String} {resources : KeySet String} :
      w.mayBeginHandover id trainId targetRegionId = true →
      w.prepareHandover env id trainId targetRegionId resources = .ok handover →
      Quiet w w₁ →
      ({ w₁ with
          preparedHandovers := w₁.preparedHandovers.insert handover.id handover
          }.rebuildResourceLifecycle).verifyInvariants env = .ok () →
      Step d w [⟨w₁, .beginHandover handover⟩] d.lifecycleRebuilt
        { w₁ with
          preparedHandovers := w₁.preparedHandovers.insert handover.id handover
          }.rebuildResourceLifecycle
  | acceptHandover {d : Debt} {w w' : OperationalWorld} {env : Env} {handover : RegionHandover} :
      handover ∈ d.letters →
      w.isAddressed env handover = true → w.acceptedHandovers[handover.id]? = none →
      w.admitHandover handover = .ok () →
      (w.adoptVehicles handover).deriveFormation handover.formation.id
        handover.formation.predecessorId handover.formation.vehicleIds = .ok handover.formation →
      (∀ segment, handover.train.motionSegment = some segment → segment.covers w.nowMs = true) →
      w'.verifyInvariants env = .ok () →
      w'.signalProjection = .ok w'.signalAspects →
      (∀ resource : String, w'.resourceLifecycle[resource]? = w'.lifecycleOf resource) →
      (∀ input, handover.fareControl = some input → w.fareControlHold handover.train.id = none) →
      (∀ id : String,
        w'.fareControlHold id = w.holdWith handover.train.id handover.fareControl id) →
      AlmostQuiet (w.adopted handover) w' →
      Step d w [⟨w, .acceptHandover handover⟩] d w'
  | finishHandover {d : Debt} {w w' : OperationalWorld} {env : Env} {handover : RegionHandover} :
      handover ∈ d.letters →
      w.isAcknowledged env handover = true → w.finishedHandovers[handover.id]? = none →
      w.isPrepared handover = true →
      w'.verifyInvariants env = .ok () →
      w'.signalProjection = .ok w'.signalAspects →
      Quiet { w.commitFinish handover with signalAspects := w'.signalAspects } w' →
      Step d w [⟨w, .finishHandover handover⟩] d w'
  | approach {d : Debt} {w : OperationalWorld} {targetMs : SimMillis} :
      d.horizon = none → w.nowMs ≤ targetMs → Step d w [] (d.approaching targetMs) w
  | clockReached {d : Debt} {w : OperationalWorld} :
      d.horizon = some w.nowMs → Step d w [] d.clockReached w
  | tick {d : Debt} {w : OperationalWorld} {atMs targetMs : SimMillis} :
      d.horizon = some targetMs → atMs ≤ targetMs →
      (∀ scheduled ∈ w.scheduledMotionEnds, atMs ≤ scheduled.atMs) →
      (∀ scheduled ∈ w.dueHolds, atMs ≤ scheduled.atMs) →
      Step d w [⟨w, .tick atMs⟩] d.oweHolds { w with nowMs := atMs }

end Zugfolge
