/-
Passenger stops: exact stops at bound tracks and platforms.
-/
import Zugfolge.Operations.ServiceOutcomes

namespace Zugfolge

open Foundation

namespace OperationalWorld

variable (w : OperationalWorld)

/-- A formation fits to the platform of one stop. -/
def validateStopAtPlatform (route : RouteVersion) (lengthMm : ℕ)
    (stop : OperationalPassengerStop) : Checked Unit := do
  let tail ← orRefuse ((subChecked64 stop.routeMm lengthMm).filter fun t => decide (0 ≤ t))
    .invalidPassengerStopPlan
  let platform ← orRefuse (w.infra.platformInterval stop.platformId) .invalidPassengerStopPlan
  let intervals ← intervalsFor route tail stop.routeMm
  refuseIf intervals.isEmpty .invalidPassengerStopPlan
  let occupied ← occupiedIntervalLengthMm intervals
  refuseIf (decide (occupied ≠ lengthMm) || intervals.any (fun interval =>
    interval.edgeId != platform.edgeId || decide (interval.direction ≠ platform.direction)
      || decide (interval.fromMm < platform.fromMm) || decide (platform.toMm < interval.toMm)))
    .invalidPassengerStopPlan

/-- A formation fits to the platforms of all stops from an index on. -/
def validateStopGeometryForFormation (plan : OperationalPassengerStopPlan)
    (formation : FormationVersion) (fromIndex : ℕ) : Checked Unit := do
  let route ← orRefuse (w.infra.routeVersion plan.routeVersionId) .invalidPassengerStopPlan
  (plan.stops.drop fromIndex).forM
    (w.validateStopAtPlatform route formation.performance.lengthMm)
  demand (plan.stops.getLast?.any fun stop => stop.routeMm == route.lengthMm)
    .invalidPassengerStopPlan

/-- The stored formation fits to the platforms of all stops from an index on. -/
def validateStopGeometry (plan : OperationalPassengerStopPlan) (formationId : String)
    (fromIndex : ℕ) : Checked Unit := do
  let formation ← orRefuse w.formations[formationId]? .invalidPassengerStopPlan
  w.validateStopGeometryForFormation plan formation fromIndex

/-- The stop plan of a materialisation belongs to this world and to the train. -/
def validatePassengerStopPlan (input : TrainMaterialization) : Checked Unit :=
  match input.stopPlan with
  | none => .ok ()
  | some plan => do
    plan.validate
    let first ← orPanic plan.stops.head?
    refuseIf (plan.worldId != w.worldId || plan.infrastructureReleaseId != w.infraReleaseId
      || !(decide (0 ≤ w.nowMs) && decide (w.nowMs ≤ maxStopContractInteger))
      || plan.trainRunId != input.id || plan.routeVersionId != input.routeVersionId
      || input.movementKind != .train || !input.publicPassengerStop
      || first.routeMm != input.headRouteMm
      || some first.scheduledDepartureMs != input.scheduledDepartureMs
      || input.serviceOutcome.any (fun binding =>
        binding.serviceId != plan.serviceId || binding.serviceRunId != plan.serviceRunId
          || !(plan.stops.getLast?.any fun stop =>
            stop.scheduledArrivalMs == binding.scheduledArrivalMs))) .invalidPassengerStopPlan
    w.validateStopGeometry plan input.formationVersionId 0

end OperationalWorld

/-- The progress of a train at the start of its stop plan. -/
def OperationalPassengerStopProgress.new (env : Env) (plan : OperationalPassengerStopPlan) :
    OperationalPassengerStopProgress :=
  { cancellation := none, plan, planHash := env.stopPlanHash plan, nextStopIndex := 0
    receipts := List.replicate plan.stops.length {} }

/-! ### Receipts -/

/-- Publishes the receipt of an arrival or a departure at the next stop. -/
def passengerReceipt (env : Env) (trainId kind : String) : M Unit := do
  let w ← M.world
  M.check (demand (decide (0 ≤ w.nowMs) && decide (w.nowMs ≤ maxStopContractInteger))
    .invalidPassengerStopPlan)
  let train ← M.check (orPanic w.trains[trainId]?)
  let progress ← M.check (orRefuse train.passengerStops .invalidPassengerStopPlan)
  let stop ← M.check (orPanic progress.plan.stops[progress.nextStopIndex]?)
  record s!"passenger-stop-{kind}" trainId (.stopReceipt
    { schemaVersion := "zugfolge-operational-passenger-stop-receipt/v1"
      worldId := w.worldId, serviceRunId := progress.plan.serviceRunId
      trainRunId := train.id, stopId := stop.stopId, stopSequence := stop.stopSequence
      stopPlanHash := progress.planHash, routeVersionId := train.routeVersionId
      formationVersionId := train.formationVersionId, kind, actualTimeMs := w.nowMs
      receiptId := env.stopReceiptId w.worldId progress.plan.serviceRunId train.id
        stop.stopId kind })

def OperationalPassengerStopProgress.updateNext (progress : OperationalPassengerStopProgress)
    (f : OperationalPassengerStopFact → OperationalPassengerStopFact) :
    OperationalPassengerStopProgress :=
  { progress with receipts := progress.receipts.modify progress.nextStopIndex f }

/-- The scheduled departures without those of a train. -/
def OperationalWorld.dropDepartures (w : OperationalWorld) (trainId : String) :
    OperationalWorld :=
  { w with
    scheduledPassengerDepartures :=
      w.scheduledPassengerDepartures.filter fun entry => entry.trainId != trainId }

/-- Schedules the departure of a train from the stop it stands at. -/
def OperationalWorld.schedulePassengerDeparture (w : OperationalWorld) (trainId : String) :
    OperationalWorld :=
  { w with
    scheduledPassengerDepartures :=
      match w.trains[trainId]?.filter fun train => !train.motionState.isSafeStop with
      | none => w.scheduledPassengerDepartures
      | some train =>
        match train.passengerStops with
        | none => w.scheduledPassengerDepartures
        | some progress =>
          match progress.departureDue.filter fun atMs => decide (w.nowMs < atMs) with
          | none => w.scheduledPassengerDepartures
          | some atMs => w.scheduledPassengerDepartures.insert
              { atMs, trainId, stopSequence := progress.nextStopIndex } }

/-- The train has arrived at its next stop and the arrival is not recorded yet. -/
def OperationalTrain.arrivesAt (train : OperationalTrain)
    (progress : OperationalPassengerStopProgress) : Bool :=
  train.speedMmps == 0 && train.motionSegment.isNone
    && (progress.plan.stops[progress.nextStopIndex]?.any fun stop =>
      stop.routeMm == train.headRouteMm)
    && progress.arrivalAtNext.isNone

/-- Records the arrival of a train at its next stop. -/
def markArrival (env : Env) (trainId : String) (progress : OperationalPassengerStopProgress) :
    M Unit := do
  let w ← M.world
  let stop ← M.check (orPanic progress.plan.stops[progress.nextStopIndex]?)
  M.check (demand ((addChecked64 w.nowMs stop.minimumDwellMs).any fun due =>
    decide (due ≤ maxStopContractInteger)) .invalidPassengerStopPlan)
  passengerReceipt env trainId "arrival"
  M.update fun w => w.updateTrain trainId fun train => { train with
    passengerStops := train.passengerStops.map fun p =>
      p.updateNext fun fact => { fact with actualArrivalMs := some w.nowMs }
    waitingReason := some "passenger-stop" }
  M.update fun w => w.schedulePassengerDeparture trainId

/-- Records the departure of a train whose motion has been planned. -/
def recordPassengerDeparture (env : Env) (trainId : String) : M Unit := do
  let w ← M.world
  let train ← M.check (orPanic w.trains[trainId]?)
  match train.passengerStops with
  | none => pure ()
  | some progress =>
    if progress.arrivalAtNext.isNone then pure ()
    else
      let stop ← M.check (orPanic progress.plan.stops[progress.nextStopIndex]?)
      M.check (refuseIf (!(progress.departureDue.any fun due => decide (due ≤ w.nowMs))
        || train.headRouteMm != stop.routeMm
        || !(train.motionSegment.any fun segment =>
          decide (train.headRouteMm < segment.segmentEndRouteMm))) .passengerDepartureTooEarly)
      passengerReceipt env trainId "departure"
      M.update fun w => w.updateTrain trainId fun t => { t with
        passengerStops := t.passengerStops.map fun p =>
          let left := p.updateNext fun fact => { fact with actualDepartureMs := some w.nowMs }
          { left with nextStopIndex := left.nextStopIndex + 1 } }
      M.update fun w => w.dropDepartures trainId

/-! ### Verification -/

/-- The facts of a plan are complete before the next stop and empty behind it. -/
def OperationalPassengerStopProgress.factsArePlaced
    (progress : OperationalPassengerStopProgress) : Bool :=
  progress.receipts.zipIdx.all fun entry =>
    let (fact, index) := entry
    let arrived := fact.actualArrivalMs.isSome
    let departed := fact.actualDepartureMs.isSome
    !(decide (index < progress.nextStopIndex) && (!arrived || !departed)
      || (index == progress.nextStopIndex) && departed
      || decide (progress.nextStopIndex < index) && (arrived || departed)
      || departed && !arrived)

/-- The times of a plan ascend up to an instant. -/
def timesAscend (nowMs : SimMillis) : SimMillis → List SimMillis → Bool
  | _, [] => true
  | previous, at' :: rest =>
    decide (previous ≤ at') && decide (at' ≤ nowMs) && decide (at' ≤ maxStopContractInteger)
      && timesAscend nowMs at' rest

/-- Every departure respects dwell time and timetable. -/
def OperationalPassengerStopProgress.dwellsRespected
    (progress : OperationalPassengerStopProgress) : Bool :=
  (progress.receipts.zip progress.plan.stops).all fun entry =>
    match entry.1.actualArrivalMs, entry.1.actualDepartureMs with
    | some arrival, some departure =>
      ((addChecked64 arrival entry.2.minimumDwellMs).any fun due => decide (due ≤ departure))
        && decide (entry.2.scheduledDepartureMs ≤ departure)
    | _, _ => true

/-- The train stands where its plan says. -/
def OperationalTrain.stopPositionIsValid (train : OperationalTrain)
    (progress : OperationalPassengerStopProgress) : Bool :=
  match progress.plan.stops[progress.nextStopIndex]? with
  | none => false
  | some current =>
    decide (train.headRouteMm ≤ current.routeMm)
      && !(progress.arrivalAtNext.isSome && (train.headRouteMm != current.routeMm
        || train.speedMmps != 0 || train.motionSegment.isSome))
      && (progress.nextStopIndex == 0
        || (progress.plan.stops[progress.nextStopIndex - 1]?.any fun stop =>
          decide (stop.routeMm ≤ train.headRouteMm)))

namespace OperationalWorld

variable (w : OperationalWorld)

/-- The cancellation of a plan belongs to the train and keeps it stopped. -/
def cancellationIsValid (train : OperationalTrain) (progress : OperationalPassengerStopProgress)
    (cancel : OperationalPassengerStopCancellation) : Bool :=
  cancel.worldId == w.worldId && cancel.trainRunId == train.id
    && cancel.stopPlanHash == progress.planHash && decide (0 ≤ cancel.cancelledAtMs)
    && decide (cancel.cancelledAtMs ≤ w.nowMs) && validId cancel.causalityId
    && train.speedMmps == 0 && train.motionSegment.isNone && train.authority.isNone
    && train.motionState.isSafeStop

/-- The stop plan of one train is consistent. -/
def verifyStopsOf (env : Env) (train : OperationalTrain) : Checked Unit :=
  match train.passengerStops with
  | none => .ok ()
  | some progress => do
    demand (progress.cancellation.all (w.cancellationIsValid train progress))
      .invalidPassengerStopPlan
    progress.plan.validate
    demand (progress.planHash == env.stopPlanHash progress.plan
      && progress.plan.worldId == w.worldId
      && progress.plan.infrastructureReleaseId == w.infraReleaseId
      && progress.plan.trainRunId == train.id
      && progress.plan.routeVersionId == train.routeVersionId
      && progress.receipts.length == progress.plan.stops.length
      && decide (progress.nextStopIndex < progress.receipts.length)
      && (progress.receipts.head?.any fun fact => fact.actualArrivalMs.isSome)
      && train.movementKind == .train && train.publicPassengerStop) .invalidPassengerStopPlan
    demand (progress.factsArePlaced
      && timesAscend w.nowMs 0 (progress.receipts.flatMap fun fact =>
        fact.actualArrivalMs.toList ++ fact.actualDepartureMs.toList)
      && progress.dwellsRespected && train.stopPositionIsValid progress)
      .invalidPassengerStopPlan
    w.validateStopGeometry progress.plan train.formationVersionId progress.nextStopIndex
    match progress.departureDue with
    | none => .ok ()
    | some due =>
      refuseIf (decide (w.nowMs < due) && !train.motionState.isSafeStop
        && !w.scheduledPassengerDepartures.contains
          { atMs := due, trainId := train.id, stopSequence := progress.nextStopIndex })
        .invalidPassengerStopPlan

/-- The stop plans of a world are consistent. -/
def verifyPassengerStops (env : Env) : Checked Unit := do
  (Registry.values w.trains).forM (w.verifyStopsOf env)
  demand (w.scheduledPassengerDepartures.toList.all fun scheduled =>
    decide (w.nowMs ≤ scheduled.atMs)
      && (w.trains[scheduled.trainId]?.bind (·.passengerStops)).any fun progress =>
        progress.nextStopIndex == scheduled.stopSequence
          && progress.departureDue == some scheduled.atMs) .invalidPassengerStopPlan

end OperationalWorld

end Zugfolge
