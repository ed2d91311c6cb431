/-
Disruptions: their effects begin and end.
-/
import Zugfolge.Operations.Roster

namespace Zugfolge

open Foundation

/-- The release knows the target of a disruption. -/
def InMemoryOperationalInfrastructure.containsDisruptionTarget
    (infra : InMemoryOperationalInfrastructure) : OperationalDisruption → Bool
  | .resourceClosed resourceId => infra.release.blockResources.contains resourceId
  | .trackDetectionFailed resourceId => infra.release.blockResources.contains resourceId
  | .speedRestriction edgeId maximumSpeedMmps =>
    decide (0 < maximumSpeedMmps) && infra.release.directedEdges.contains edgeId
  | .signalFailed signalId => infra.release.signals.contains signalId
  | .switchFailed switchId => infra.release.switches.contains switchId
  | .vehicleRestricted _ _ => true

namespace OperationalWorld

variable (w : OperationalWorld)

/-- A lock of the train satisfies the predicate. -/
def hasLock (trainId : String) (p : RouteLock → Bool) : Bool :=
  Registry.anyValue w.routeLocks fun lock => lock.trainId == trainId && p lock

/-- A leg ahead of the train within its authority runs over the edge. -/
def authorityCovers (train : OperationalTrain) (edgeId : String) : Bool :=
  (w.infra.routeVersion train.routeVersionId).any fun route => route.legs.any fun leg =>
    leg.edgeId == edgeId && decide (train.headRouteMm ≤ leg.routeStartMm)
      && train.authority.any fun authority => decide (leg.routeStartMm < authority.endRouteMm)

/-- A disruption of the infrastructure stops the train. -/
def affects (effect : OperationalDisruption) (train : OperationalTrain) : Bool :=
  match effect with
  | .resourceClosed resourceId => train.occupiedBlocks.contains resourceId
      || w.hasLock train.id fun lock => lock.resources.contains resourceId
  | .trackDetectionFailed resourceId => train.occupiedBlocks.contains resourceId
      || w.hasLock train.id fun lock => lock.resources.contains resourceId
  | .speedRestriction edgeId _ =>
    (train.occupiedIntervals.any fun interval => interval.edgeId == edgeId)
      || w.authorityCovers train edgeId
  | .signalFailed signalId => w.hasLock train.id fun lock =>
    (w.infra.interlockingRoute lock.templateId).any fun route => route.signalId == signalId
  | .switchFailed switchId => w.hasLock train.id fun lock =>
    (w.infra.interlockingRoute lock.templateId).any fun route =>
      route.switchPositions.contains switchId
  | .vehicleRestricted _ _ => false

/-- A disruption may be activated. -/
def admitDisruption (disruptionId : String) (effect : OperationalDisruption) : Checked Unit :=
  refuseIf (Text.isBlank disruptionId || !w.infra.containsDisruptionTarget effect
    || match effect with
      | .vehicleRestricted vehicleId _ => !w.vehicles.contains vehicleId
      | _ => false) .unsafeState

/-- Updates the vehicle with the given name, if it is there. -/
def updateVehicle (vehicleId : String) (f : PhysicalVehicle → PhysicalVehicle) :
    OperationalWorld :=
  { w with vehicles := w.vehicles.modify vehicleId f }

/-- The trains whose formation has the vehicle. -/
def trainsWith (vehicleId : String) : List String :=
  ((Registry.values w.trains).filter fun train =>
    w.formations[train.formationVersionId]?.any fun formation =>
      formation.vehicleIds.contains vehicleId).map (·.id)

end OperationalWorld

/-- Stops a train and gives it the formation its vehicles make now. -/
def renewFormation (env : Env) (reason : String) (newIdOf : String → String) (trainId : String) :
    M Unit := do
  safeStop trainId reason
  let w ← M.world
  let train ← M.check (orPanic w.trains[trainId]?)
  let old := train.formationVersionId
  let formation ← M.check (orPanic w.formations[old]?)
  changeFormation env trainId (newIdOf old) formation.vehicleIds

/-- Restricts a vehicle; the trains with it are stopped and their formations renewed. -/
def restrictVehicle (env : Env) (disruptionId vehicleId : String)
    (restriction : VehicleRestriction) : M Unit := do
  let w ← M.world
  let _ ← M.check (orRefuse w.vehicles[vehicleId]? (.unknownVehicle vehicleId))
  M.about (.restrictVehicle disruptionId vehicleId restriction)
  M.update fun w => w.updateVehicle vehicleId fun vehicle => { vehicle with
    restrictions := vehicle.restrictions.insert disruptionId restriction
    history := vehicle.history ++ [s!"{disruptionId}:activated"] }
  -- Every technical change ends the running segment before the derived values change.
  TracedM.forEach (renewFormation env "vehicle-restriction-changed"
    fun old => s!"{old}:disruption:{disruptionId}") (w.trainsWith vehicleId)

/-- Stores a disruption with what it shows and sets at once. -/
def OperationalWorld.commitDisruption (w : OperationalWorld) (disruptionId : String)
    (effect : OperationalDisruption) : OperationalWorld :=
  { w with
    signalAspects := match effect with
      | .signalFailed signalId => w.signalAspects.insert signalId .failed
      | _ => w.signalAspects
    switchPositions := match effect with
      | .switchFailed switchId => w.switchPositions.erase switchId
      | _ => w.switchPositions
    activeDisruptions := w.activeDisruptions.insert disruptionId effect }

def activateDisruption (env : Env) (disruptionId : String) (effect : OperationalDisruption) :
    M Unit := do
  let w ← M.world
  M.check w.ensureNotPrepared
  match w.activeDisruptions[disruptionId]? with
  | some existing => M.check (demand (decide (existing = effect)) .unsafeState)
  | none =>
    M.check (w.admitDisruption disruptionId effect)
    TracedM.forEach (stopForInfrastructureDisruption disruptionId)
      (((Registry.values w.trains).filter (w.affects effect)).map (·.id))
    match effect with
    | .vehicleRestricted vehicleId restriction =>
      restrictVehicle env disruptionId vehicleId restriction
    | _ => pure ()
    M.about (.activateDisruption disruptionId effect)
    M.update fun w => w.commitDisruption disruptionId effect
    record "disruption-activated" disruptionId (.text "concrete-resource-or-vehicle")

/-- Lifts the restriction of a vehicle; the trains with it are stopped and their
formations renewed. -/
def liftRestriction (env : Env) (disruptionId releaseReference vehicleId : String) : M Unit := do
  let w ← M.world
  M.about (.liftRestriction disruptionId vehicleId)
  M.update fun w => w.updateVehicle vehicleId fun vehicle => { vehicle with
    restrictions := vehicle.restrictions.erase disruptionId
    history := vehicle.history ++ [s!"{disruptionId}:released:{releaseReference}"] }
  TracedM.forEach (renewFormation env "vehicle-restriction-released"
    fun old => s!"{old}:released:{disruptionId}") (w.trainsWith vehicleId)

def clearDisruption (env : Env) (disruptionId releaseReference : String) : M Unit := do
  let w ← M.world
  M.check w.ensureNotPrepared
  M.check (refuseIf (Text.isBlank releaseReference) .missingTechnicalRelease)
  match w.activeDisruptions[disruptionId]? with
  | none => pure ()
  | some effect =>
    match effect with
    | .vehicleRestricted vehicleId _ =>
      liftRestriction env disruptionId releaseReference vehicleId
    | _ => pure ()
    M.about (.clearDisruption disruptionId)
    M.update fun w => { w with activeDisruptions := w.activeDisruptions.erase disruptionId }
    releaseInfrastructureDisruptionStops disruptionId
    rebuildSignalAspects
    record "disruption-cleared" disruptionId (.text releaseReference)
    let _ ← dispatchPending env
    pure ()

end Zugfolge
