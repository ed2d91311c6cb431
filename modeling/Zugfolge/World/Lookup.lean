/-
Questions to a world.
-/
import Zugfolge.World.World

namespace Zugfolge

open Foundation

/-- The next stop the train has to brake for. -/
def OperationalTrain.passengerBrakingTarget (train : OperationalTrain) :
    Option RouteMillimetres := do
  let progress ← train.passengerStops
  let index := if progress.arrivalAtNext.isSome then progress.nextStopIndex + 1
    else progress.nextStopIndex
  let stop ← progress.plan.stops[index]?
  some stop.routeMm

namespace OperationalWorld

variable (w : OperationalWorld)

/-! ### Lookups -/

variable (trainId : String)

/-- The train with the given name. -/
def trainOf : Checked OperationalTrain :=
  orRefuse w.trains[trainId]? (.unknownTrain trainId)

/-- The route version with the given name. -/
def routeNamed (routeId : String) : Checked RouteVersion :=
  orRefuse (w.infra.routeVersion routeId) (.unknownRoute routeId)

/-- The route version of a train. -/
def routeOf (train : OperationalTrain) : Checked RouteVersion := w.routeNamed train.routeVersionId

/-- The formation with the given name. -/
def formationOf (formationId : String) : Checked FormationVersion :=
  orRefuse w.formations[formationId]? (.unknownFormation formationId)

/-- The interlocking route with the given name. -/
def templateOf (templateId : String) : Checked InterlockingRouteTemplate :=
  orRefuse (w.infra.interlockingRoute templateId) (.unknownInterlockingRoute templateId)

/-- The locks of a train, in key order. -/
def locksOf : List RouteLock :=
  (Registry.values w.routeLocks).filter fun lock => lock.trainId == trainId

/-- No handover is in preparation. -/
def ensureNotPrepared : Checked Unit :=
  demand w.preparedHandovers.isEmpty .invalidHandover

/-! ### Fare control -/

def fareControlHold : Option FareControlHoldV1 :=
  w.fareControlState.bind fun state => state.holds[trainId]?

/-- The train has a hold that is not released. -/
def fareControlPending : Bool :=
  (w.fareControlHold trainId).any fun hold => hold.status != .released

/-- An active hold keeps the train from departing. -/
def fareControlBlocksDeparture : Bool :=
  (w.fareControlHold trainId).any fun hold => hold.status == .active

/-- A hold has taken the authority of the train. -/
def fareControlAuthorityRevoked : Bool :=
  w.fareControlState.any fun state => state.revokedAuthorities.contains trainId

/-! ### Other trains -/

/-- No other train stands on the intervals. -/
def ensureIntervalsFree (exceptTrainId : String) (intervals : List TrackInterval) :
    Checked Unit :=
  refuseIf (Registry.anyValue w.trains fun train =>
    train.id != exceptTrainId && intervalsOverlap train.occupiedIntervals intervals)
    .occupiedTrack

/-- No other train uses one of the vehicles. -/
def ensureVehiclesAvailable (exceptTrainId : String) (vehicleIds : List String) :
    Checked Unit :=
  refuseIf (Registry.anyValue w.trains fun train =>
    train.id != exceptTrainId && w.formations[train.formationVersionId]?.any fun formation =>
      formation.vehicleIds.any vehicleIds.contains) .vehicleAlreadyMaterialized

/-! ### Retained routes -/

/-- The template of the locks of a train that covers its head; two different ones are
ambiguous. -/
def retainedTemplate (head : RouteMillimetres)
    (missing : String → OperationalError) (ambiguous : OperationalError) :
    Checked (Option InterlockingRouteTemplate) :=
  (w.locksOf trainId).foldlM (fun found lock => do
    let template ← orRefuse (w.infra.interlockingRoute lock.templateId) (missing lock.templateId)
    if template.authorityStartRouteMm ≤ head ∧ head < template.authorityEndRouteMm then do
      refuseIf (found.any fun old => decide (old ≠ template)) ambiguous
      pure (some template)
    else pure found) none

/-- The route a train keeps after a hold took its authority. -/
def fareControlRemainingTemplate :
    Checked (Option InterlockingRouteTemplate) :=
  if !w.fareControlAuthorityRevoked trainId || w.fareControlBlocksDeparture trainId then
    .ok none
  else do
    let train ← orRefuse w.trains[trainId]? (.invalidFareControl "fare_control_train_missing")
    w.retainedTemplate trainId train.headRouteMm .unknownInterlockingRoute
      (.invalidFareControl "fare_control_ambiguous_retained_route")

/-- The route a train keeps after an infrastructure stop was released. -/
def infrastructureRemainingTemplate :
    Checked (Option InterlockingRouteTemplate) :=
  if !(w.infrastructureDisruptionStops[trainId]?.any fun e => e.causes.isEmpty)
      || w.fareControlBlocksDeparture trainId then
    .ok none
  else do
    let train ← orPanic w.trains[trainId]?
    if train.motionState ≠ .standing then pure none
    else w.retainedTemplate trainId train.headRouteMm (fun _ => .unsafeState) .unsafeState

/-- The retained route of a train: after a hold first, else after an infrastructure stop. -/
def retainedRoute : Checked (Option InterlockingRouteTemplate) := do
  let fare ← w.fareControlRemainingTemplate trainId
  let infrastructure ← w.infrastructureRemainingTemplate trainId
  pure (fare.or infrastructure)

/-- The interlocking route on which a train may leave its head position. -/
def departureInterlockingRoute (trainId routeTemplateId : String) (head : RouteMillimetres) :
    Checked (Option InterlockingRouteTemplate) := do
  match ← w.fareControlRemainingTemplate trainId with
  | some retained => pure (some retained)
  | none =>
    match ← w.infrastructureRemainingTemplate trainId with
    | some retained => pure (some retained)
    | none => pure (w.infra.trainInterlockingRoute routeTemplateId head)

/-- A signal is withheld from a train while a stop for a disruption is not overcome up
to the end of the route behind it. -/
def infrastructureSignalWithheld (endRouteMm : RouteMillimetres) : Bool :=
  w.infrastructureDisruptionStops.contains trainId
    && !(w.trains[trainId]?.any fun train =>
      train.authority.any fun authority => decide (endRouteMm ≤ authority.endRouteMm))

/-! ### Stop plans -/

/-- The stop plan, an active hold or a cancellation keeps the train at its stop. -/
def passengerStopWaiting : Bool :=
  let progress := w.trains[trainId]?.bind (·.passengerStops)
  progress.any (·.cancellation.isSome)
    || w.fareControlBlocksDeparture trainId
    || progress.any fun p => p.arrivalAtNext.isSome
        && !(p.departureDue.any fun due => decide (due ≤ w.nowMs))

/-! ### Completion -/

/-- The train stands at the end of its route without an authority. -/
def physicalRouteComplete : Checked Bool := do
  let train ← w.trainOf trainId
  let route ← w.routeOf train
  pure (train.headRouteMm == route.lengthMm && train.speedMmps == 0
    && train.motionSegment.isNone && train.authority.isNone)

end OperationalWorld

end Zugfolge
