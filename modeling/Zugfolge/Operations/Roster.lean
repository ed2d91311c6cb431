/-
The roster: vehicles, formations and trains.
-/
import Zugfolge.Operations.Movement

namespace Zugfolge

open Foundation

/-! ### Vehicles and formations -/

def registerVehicleType (kind : VehicleType) (powered : Bool) : M Unit := do
  let w ← M.world
  M.check w.ensureNotPrepared
  M.check (kind.validate powered)
  M.check (refuseIf (w.vehicleTypes.contains kind.id) (.duplicateId kind.id))
  M.about (.registerVehicleType kind)
  M.update fun w => { w with vehicleTypes := w.vehicleTypes.insert kind.id kind }

/-- Registers a vehicle; a vehicle of the same name is found only after it is replaced. -/
def registerVehicle (vehicle : PhysicalVehicle) : M Unit := do
  let w ← M.world
  M.check w.ensureNotPrepared
  let kind ← M.check
    (orRefuse w.vehicleTypes[vehicle.typeId]? (.unknownVehicleType vehicle.typeId))
  M.check (kind.validate vehicle.powered)
  M.about (.registerVehicle vehicle)
  M.update fun w => { w with vehicles := w.vehicles.insert vehicle.id vehicle }
  M.check (refuseIf (w.vehicles.contains vehicle.id) (.duplicateId "vehicle"))

/-- The formation of the given vehicles, derived from what the world records of them. -/
def OperationalWorld.deriveFormation (w : OperationalWorld) (id : String)
    (predecessorId : Option String) (vehicleIds : List String) : Checked FormationVersion :=
  Zugfolge.deriveFormation w.vehicles w.vehicleTypes id predecessorId vehicleIds

/-- Stores a formation version. -/
def OperationalWorld.putFormation (w : OperationalWorld) (formation : FormationVersion) :
    OperationalWorld :=
  { w with formations := w.formations.insert formation.id formation }

/-- Creates a formation; a formation of the same name is found only after it is replaced. -/
def createFormation (id : String) (predecessorId : Option String) (vehicleIds : List String) :
    M FormationVersion := do
  let w ← M.world
  M.check w.ensureNotPrepared
  let formation ← M.check (w.deriveFormation id predecessorId vehicleIds)
  M.about (.createFormation id vehicleIds)
  M.update fun w => w.putFormation formation
  M.check (refuseIf (w.formations.contains formation.id) (.duplicateId formation.id))
  record "formation-version-created" formation.id (.text "atomically-derived")
  pure formation

/-! ### Materialisation -/

/-- What a materialisation has found out before it writes. -/
structure MaterializationPlan where
  tailRouteMm : RouteMillimetres
  occupiedIntervals : List TrackInterval
  occupiedBlocks : KeySet String
  direction : Direction

namespace OperationalWorld

variable (w : OperationalWorld)

/-- A materialisation is safe: names, route, formation and track are valid and free. -/
def admitMaterialization (input : TrainMaterialization) : Checked MaterializationPlan := do
  w.ensureNotPrepared
  refuseIf (w.trains.contains input.id) (.duplicateId input.id)
  w.validatePassengerStopPlan input
  let number ← orRefuse (operationalTrainNumberNumericPart input.trainNumber)
    (.invalidTrainNumber input.trainNumber)
  refuseIf (Registry.anyValue w.trains fun train =>
    operationalTrainNumberNumericPart train.trainNumber == some number)
    (.duplicateTrainNumber number)
  let route ← w.routeNamed input.routeVersionId
  route.validate
  let formation ← w.formationOf input.formationVersionId
  refuseIf (!formation.performance.mobile || decide (input.headRouteMm < 0)
    || decide (route.lengthMm < input.headRouteMm)) (.unsafeMaterialization input.id)
  demand (routeProtectionCompatible route formation) (.incompatibleProtectionSystem input.id)
  w.ensureVehiclesAvailable input.id formation.vehicleIds
  let tail := subSat64 input.headRouteMm formation.performance.lengthMm
  let intervals ← intervalsFor route tail input.headRouteMm
  w.ensureIntervalsFree input.id intervals
  let leg ← orRefuse (route.legAt input.headRouteMm) (.incompleteRoute route.id)
  pure
    { tailRouteMm := tail, occupiedIntervals := intervals
      occupiedBlocks := blocksFor route tail input.headRouteMm, direction := leg.direction }

def materializedTrain (env : Env) (input : TrainMaterialization) (plan : MaterializationPlan)
    (serviceOutcome : Option ServiceOutcomeProgress) : OperationalTrain :=
  { passengerStops := input.stopPlan.map (OperationalPassengerStopProgress.new env)
    serviceOutcome, id := input.id, trainNumber := input.trainNumber
    operatorId := input.operatorId, movementKind := input.movementKind
    routeVersionId := input.routeVersionId, formationVersionId := input.formationVersionId
    headRouteMm := input.headRouteMm, tailRouteMm := plan.tailRouteMm, speedMmps := 0
    direction := plan.direction, motionState := .standing, motionSegment := none
    authority := none, occupiedIntervals := plan.occupiedIntervals
    occupiedBlocks := plan.occupiedBlocks, scheduledDepartureMs := input.scheduledDepartureMs
    publicPassengerStop := input.publicPassengerStop, waitingReason := none }

def putTrain (train : OperationalTrain) : OperationalWorld :=
  { w with trains := w.trains.insert train.id train }

end OperationalWorld

/-- Begins a train on its route. -/
def materialize (env : Env) (input : TrainMaterialization) : M Unit := do
  let w ← M.world
  let plan ← M.check (w.admitMaterialization input)
  let serviceOutcome ← startServiceOutcome env input input.formationVersionId
  M.about (.materialize input)
  M.update fun w => w.putTrain (OperationalWorld.materializedTrain env input plan serviceOutcome)
  M.update fun w => w.markOccupied plan.occupiedBlocks
  record "movement-materialized" input.id (.text "exact-route-and-formation")
  let _ ← recordPassengerArrival env input.id
  refreshRouteCompletion env input.id
  let _ ← progressMovementContinuations env
  pure ()

/-! ### Retirement -/

namespace OperationalWorld

variable (w : OperationalWorld)

/-- A train may be retired: it stands at the end of its route and nothing waits for it. -/
def admitRetirement (trainId : String) : Checked Unit := do
  refuseIf (w.fareControlPending trainId) (.trainNotRetirable trainId)
  w.ensureNotPrepared
  let train ← w.trainOf trainId
  let route ← w.routeOf train
  refuseIf (decide (train.headRouteMm ≠ route.lengthMm) || train.speedMmps != 0
    || train.motionSegment.isSome || train.authority.isSome
    || Registry.anyValue w.pendingMovementContinuations fun continuation =>
      continuation.predecessorTrainId == trainId) (.trainNotRetirable trainId)

/-- The train and the signal of every lock. -/
def lockSignals : Checked (List (String × String)) :=
  (Registry.values w.routeLocks).mapM fun lock => do
    let template ← w.templateOf lock.templateId
    pure (lock.trainId, template.signalId)

/-- The signals only a retiring train has locks at. -/
def retiringSignals (trainId : String) (signals : List (String × String)) : List String :=
  (signals.filter fun entry => entry.1 == trainId
    && !(signals.any fun other => other.1 != trainId && other.2 == entry.2)).map Prod.snd

/-- The world without the motions, departures and requests of a train. -/
def dropSchedules (trainId : String) : OperationalWorld :=
  let dropped := (w.dropDepartures trainId).dropMotionEnds trainId
  { dropped with
    pendingDispatchRequests := dropped.pendingDispatchRequests.erase trainId
    routeCompletedAtMs := dropped.routeCompletedAtMs.erase trainId }

/-- What a retirement writes: the train, its locks and their signals are gone. -/
def commitRetirement (trainId : String) (signals : List String) : OperationalWorld :=
  let unlocked := { w.dropLocks trainId with
    signalAspects := Registry.eraseAll w.signalAspects signals
    trains := w.trains.erase trainId
    infrastructureDisruptionStops := w.infrastructureDisruptionStops.erase trainId }
  let released := unlocked.updateFareControl fun state =>
    { state with
      resumeRequests := state.resumeRequests.erase trainId
      revokedAuthorities := state.revokedAuthorities.erase trainId }
  (({ released with
    handoverProtectionByTrain := released.handoverProtectionByTrain.erase trainId }.dropSchedules
      trainId).dropWaiting trainId).rebuildResourceLifecycle

end OperationalWorld

/-- Takes a completed train out of the world. -/
def retireTrain (env : Env) (trainId : String) : M Unit := do
  let w ← M.world
  M.check (w.admitRetirement trainId)
  let signals ← M.check w.lockSignals
  let resources := w.lockedResources trainId
  M.about (.retireTrain trainId)
  M.update fun w =>
    w.commitRetirement trainId (OperationalWorld.retiringSignals trainId signals)
  wakeMovementContinuationsForResources resources
  record "movement-retired" trainId (.text "route-complete-and-released")
  let _ ← progressMovementContinuations env
  let _ ← dispatchPending env
  pure ()

/-! ### Changes of a standing train -/

/-- What a change of the formation has found out before it writes. -/
structure FormationChange where
  formation : FormationVersion
  tailRouteMm : RouteMillimetres
  occupiedIntervals : List TrackInterval
  occupiedBlocks : KeySet String

namespace OperationalWorld

variable (w : OperationalWorld)

/-- A change of the formation is safe; blocks the train protects beside those it stands
on stay with it. -/
def admitFormationChange (trainId newFormationId : String) (vehicleIds : List String) :
    Checked (OperationalTrain × FormationChange) := do
  w.ensureNotPrepared
  let train ← w.trainOf trainId
  refuseIf (train.speedMmps != 0 || decide (train.motionState = .moving))
    .formationChangeWhileMoving
  w.ensureVehiclesAvailable trainId vehicleIds
  let formation ←
    w.deriveFormation newFormationId (some train.formationVersionId) vehicleIds
  match train.passengerStops with
  | some progress =>
    w.validateStopGeometryForFormation progress.plan formation progress.nextStopIndex
  | none => pure ()
  let route ← w.routeOf train
  let head := train.headRouteMm
  let tail := subSat64 head formation.performance.lengthMm
  let intervals ← intervalsFor route tail head
  w.ensureIntervalsFree trainId intervals
  let retained := train.occupiedBlocks \ blocksFor route train.tailRouteMm head
  pure (train,
    { formation, tailRouteMm := tail, occupiedIntervals := intervals
      occupiedBlocks := blocksFor route tail head ∪ retained })

/-- What a change of the formation writes. -/
def commitFormationChange (trainId : String) (change : FormationChange) : OperationalWorld :=
  ((w.putFormation change.formation).updateTrain trainId fun train =>
    { train with
      formationVersionId := change.formation.id
      tailRouteMm := change.tailRouteMm
      occupiedIntervals := change.occupiedIntervals
      occupiedBlocks := change.occupiedBlocks }).rebuildResourceLifecycle

end OperationalWorld

/-- Changes the formation of a standing train. -/
def changeFormation (env : Env) (trainId newFormationId : String) (vehicleIds : List String) :
    M Unit := do
  let w ← M.world
  let (train, change) ← M.check (w.admitFormationChange trainId newFormationId vehicleIds)
  measureServiceVehicleCost env trainId train.headRouteMm
  M.about (.changeFormation trainId newFormationId vehicleIds)
  M.update fun w => w.commitFormationChange trainId change
  M.update fun w => w.updateServiceCapacity trainId
  record "formation-changed" trainId (.text change.formation.id)

namespace OperationalWorld

variable (w : OperationalWorld)

/-- A change of the route is safe: the train stands without rights, and both routes agree
on the track it occupies. -/
def admitReroute (trainId routeVersionId : String) : Checked Direction := do
  w.ensureNotPrepared
  let train ← w.trainOf trainId
  refuseIf train.passengerStops.isSome .invalidPassengerStopPlan
  refuseIf (train.speedMmps != 0 || train.motionSegment.isSome) .routeChangeWhileMoving
  refuseIf (train.authority.isSome
    || (Registry.anyValue w.routeLocks fun lock => lock.trainId == trainId)
    || w.pendingDispatchRequests.contains trainId) .rerouteWhileAuthorized
  let currentRoute ← w.routeOf train
  let nextRoute ← w.routeNamed routeVersionId
  let discontinuous := OperationalError.discontinuousReroute routeVersionId
  refuseIf (nextRoute.predecessorId != some currentRoute.id
    || !(nextRoute.transitionRouteMm.any fun transition =>
      decide (train.headRouteMm ≤ transition))) discontinuous
  let intervals ← intervalsFor nextRoute train.tailRouteMm train.headRouteMm
  demand (decide (intervals = train.occupiedIntervals)) discontinuous
  let leg ← orRefuse (nextRoute.legAt train.headRouteMm) (.incompleteRoute nextRoute.id)
  pure leg.direction

end OperationalWorld

/-- Changes the route version of a standing train. -/
def rerouteTrain (env : Env) (trainId routeVersionId : String) : M Unit := do
  let w ← M.world
  let direction ← M.check (w.admitReroute trainId routeVersionId)
  M.about (.rerouteTrain trainId routeVersionId)
  M.update fun w => w.updateTrain trainId fun train =>
    { train with routeVersionId, direction }
  record "route-version-changed" trainId (.text routeVersionId)
  refreshRouteCompletion env trainId
  let _ ← progressMovementContinuations env
  pure ()

end Zugfolge
