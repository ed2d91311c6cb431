/-
Service outcomes: receipts of completed runs from signed bindings and movement.
-/
import Zugfolge.Operations.ServiceDays

namespace Zugfolge

open Foundation

namespace OperationalWorld

variable (w : OperationalWorld)

/-- The service binding of a train belongs to the policy and fits to the train. -/
def validateServiceOutcomeTemplate (train : TrainMaterialization) : Checked Unit :=
  match train.serviceOutcome with
  | none => .ok ()
  | some binding => do
    binding.validate
    refuseIf (!(w.serviceOutcomeState.any fun state =>
        state.policy.serviceIds.contains binding.serviceId)
      || train.movementKind != .train || !train.publicPassengerStop
      || !(train.scheduledDepartureMs.any fun departure =>
        decide (departure ≤ binding.scheduledArrivalMs))) .invalidServiceOutcome

/-- The published plan of a bound train. -/
def servicePlan (train : TrainMaterialization) (binding : ServiceOutcomeBinding) : ServicePlan :=
  { worldId := w.worldId, operatorId := train.operatorId, lotId := binding.lotId
    trainRunId := train.id, serviceId := binding.serviceId
    serviceRunId := binding.serviceRunId, serviceDay := binding.serviceDay
    scheduledArrivalMs := binding.scheduledArrivalMs, requiredSeats := binding.requiredSeats
    connectionAssessment := binding.connectionAssessment }

/-- The capacity entry of a vehicle. -/
def capacityOf (state : ServiceOutcomeState) (vehicleId : String) :
    Option ServiceVehicleCapacity :=
  state.policy.vehicleCapacities.find? fun capacity => capacity.vehicleId == vehicleId

/-- The seats of a formation, if all are known, and the sources of those known. -/
def formationServiceCapacity (formationId : String) : Option ℕ × KeySet String :=
  match w.serviceOutcomeState, w.formations[formationId]? with
  | some state, some formation =>
    formation.vehicleIds.foldl (fun acc vehicleId =>
      match capacityOf state vehicleId with
      | some capacity =>
        (acc.1.bind fun sum => addCheckedU32 sum capacity.seats,
          acc.2.insert capacity.sourceReference)
      | none => (none, acc.2)) (some 0, ∅)
  | _, _ => (none, ∅)

end OperationalWorld

/-- Binds the outcome policy before the first train. -/
def configureServiceOutcomes (policy : ServiceOutcomePolicy) : M Unit := do
  let w ← M.world
  M.check (refuseIf (w.serviceOutcomeState.isSome || !w.trains.isEmpty
    || policy.schemaVersion != "zugfolge-operational-service-outcome-policy/v1")
    .invalidServiceOutcome)
  M.check (demand ((policy.vehicleCapacities.all fun capacity =>
      w.vehicles.contains capacity.vehicleId && !capacity.sourceReference.isEmpty)
    && decide (policy.vehicleCapacities.map (·.vehicleId)).Nodup
    && policy.serviceIds.all (fun id => !id.isEmpty)
    && decide policy.serviceIds.Nodup) .invalidServiceOutcome)
  M.update fun w => { w with serviceOutcomeState := some { policy } }

/-- Updates the state of the service outcomes, if there is one. -/
def OperationalWorld.updateServiceOutcomes (w : OperationalWorld)
    (f : ServiceOutcomeState → ServiceOutcomeState) : OperationalWorld :=
  { w with serviceOutcomeState := w.serviceOutcomeState.map f }

/-- Plans the service of a train once. -/
def planServiceOutcome (env : Env) (train : TrainMaterialization) : M Unit := do
  let w ← M.world
  M.check (w.validateServiceOutcomeTemplate train)
  bindServiceDay env train
  match train.serviceOutcome with
  | none => pure ()
  | some binding =>
    let w ← M.world
    let plan := w.servicePlan train binding
    let state ← M.check (orRefuse w.serviceOutcomeState .invalidServiceOutcome)
    match state.planned[binding.serviceRunId]? with
    | some existing => M.check (demand (decide (existing = plan)) .invalidServiceOutcome)
    | none =>
      M.update fun w => w.updateServiceOutcomes fun s => { s with
        planned := s.planned.insert binding.serviceRunId plan }
      record "train-service-planned" train.id (.servicePlan plan)

/-- The day of a service has been started in this world already. -/
def OperationalWorld.serviceDayClaimed (w : OperationalWorld) (binding : ServiceOutcomeBinding) :
    Bool :=
  w.serviceOutcomeState.any fun state => state.latestStartedDay[binding.serviceId]?.any fun day =>
    (compare binding.serviceDay day).isLE

/-- Claims the day of a service: days of one service only advance. -/
def claimServiceDay (binding : ServiceOutcomeBinding) : M Unit := do
  let w ← M.world
  let _ ← M.check (orRefuse w.serviceOutcomeState .invalidServiceOutcome)
  M.check (refuseIf (w.serviceDayClaimed binding) .invalidServiceOutcome)
  M.update fun w => w.updateServiceOutcomes fun s => { s with
    latestStartedDay := s.latestStartedDay.insert binding.serviceId binding.serviceDay }

/-- Begins the evidence of a bound train. -/
def startServiceOutcome (env : Env) (input : TrainMaterialization) (formationId : String) :
    M (Option ServiceOutcomeProgress) := do
  match input.serviceOutcome with
  | none => pure none
  | some binding =>
    let w ← M.world
    M.check (w.validateServiceOutcomeTemplate input)
    M.check (refuseIf (w.serviceDayClaimed binding) .invalidServiceOutcome)
    planServiceOutcome env input
    let w ← M.world
    let (minimumSeatsProvided, capacitySources) := w.formationServiceCapacity formationId
    claimServiceDay binding
    startServiceVehicleCost env input
    pure (some
      { binding, startHeadRouteMm := input.headRouteMm, minimumSeatsProvided, capacitySources
        completed := false })

/-- Lowers the recorded capacity of a train to that of its formation. -/
def OperationalWorld.updateServiceCapacity (w : OperationalWorld) (trainId : String) :
    OperationalWorld :=
  w.updateTrain trainId fun train =>
    match train.serviceOutcome with
    | none => train
    | some progress =>
      if progress.completed then train
      else
        let (capacity, sources) := w.formationServiceCapacity train.formationVersionId
        { train with serviceOutcome := some { progress with
            minimumSeatsProvided := do
              let previous ← progress.minimumSeatsProvided
              let current ← capacity
              some (min previous current)
            capacitySources := progress.capacitySources ∪ sources } }

/-- Forgets the plan of a train that leaves the region. -/
def OperationalWorld.releaseServicePlan (w : OperationalWorld) (train : OperationalTrain) :
    OperationalWorld :=
  w.updateServiceOutcomes fun s => { s with
    planned := match train.serviceOutcome with
      | some progress => s.planned.erase progress.binding.serviceRunId
      | none => s.planned }

/-- The materialisation that would have made a train. -/
def OperationalTrain.asMaterialization (train : OperationalTrain)
    (binding : ServiceOutcomeBinding) : TrainMaterialization :=
  { stopPlan := train.passengerStops.map (·.plan), serviceOutcome := some binding
    id := train.id, trainNumber := train.trainNumber, operatorId := train.operatorId
    movementKind := train.movementKind, routeVersionId := train.routeVersionId
    formationVersionId := train.formationVersionId, headRouteMm := train.headRouteMm
    scheduledDepartureMs := train.scheduledDepartureMs
    publicPassengerStop := train.publicPassengerStop }

/-- Adopts the evidence of a train from another region. -/
def adoptServiceOutcome (env : Env) (train : OperationalTrain) : M Unit := do
  match train.serviceOutcome with
  | none => pure ()
  | some progress =>
    let input := train.asMaterialization progress.binding
    let w ← M.world
    M.check (w.validateServiceOutcomeTemplate input)
    if progress.completed then pure () else planServiceOutcome env input
    claimServiceDay progress.binding

def OperationalWorld.trainOutcome (w : OperationalWorld) (train : OperationalTrain)
    (progress : ServiceOutcomeProgress) (distanceMm : Int) : TrainOutcome :=
  let binding := progress.binding
  let missing := match binding.requiredSeats, progress.minimumSeatsProvided with
    | some required, some provided => some (required - provided)
    | _, _ => none
  let connections := binding.connectionAssessment.missed
  { worldId := w.worldId, operatorId := train.operatorId, lotId := binding.lotId
    trainRunId := train.id, serviceId := binding.serviceId
    serviceRunId := binding.serviceRunId, serviceDay := binding.serviceDay
    scheduledArrivalMs := binding.scheduledArrivalMs, actualArrivalMs := w.nowMs
    delaySeconds := delaySecondsOf w.nowMs binding.scheduledArrivalMs
    distanceMm, trainKm := distanceMm / 1000000
    minimumSeatsProvided := progress.minimumSeatsProvided
    capacitySources := progress.capacitySources
    missingSeats := missing, missedConnections := connections
    evidenceComplete := missing.isSome && connections.isSome }

/-- Completes the evidence of a train that has arrived, once. -/
def completeServiceOutcome (env : Env) (trainId : String) : M Unit := do
  let w ← M.world
  let train ← M.check (orPanic w.trains[trainId]?)
  match train.serviceOutcome with
  | none => pure ()
  | some progress =>
    if progress.completed then pure ()
    else
      let distanceMm ← M.check (orRefuse
        ((subChecked64 train.headRouteMm progress.startHeadRouteMm).filter
          fun d => decide (0 ≤ d)) .invalidServiceOutcome)
      let outcome := w.trainOutcome train progress distanceMm
      record "train-outcome" trainId (.trainOutcome outcome)
      recordServiceDayOutcome env trainId outcome
      M.update fun w => w.updateServiceOutcomes fun s => { s with
        planned := s.planned.erase progress.binding.serviceRunId }
      M.update fun w => w.updateTrain trainId fun t => { t with
        serviceOutcome := t.serviceOutcome.map fun p => { p with completed := true } }

/-! ### Verification -/

namespace OperationalWorld

variable (w : OperationalWorld)

/-- The evidence of one train agrees with the policy. -/
def validateTrainOutcome (state : ServiceOutcomeState) (train : OperationalTrain) :
    Checked Unit :=
  match train.serviceOutcome with
  | none => .ok ()
  | some progress => do
    progress.binding.validate
    refuseIf (decide (progress.startHeadRouteMm < 0)
      || decide (train.headRouteMm < progress.startHeadRouteMm)
      || !(state.latestStartedDay[progress.binding.serviceId]?.any fun day =>
        (compare progress.binding.serviceDay day).isLE)
      || progress.capacitySources.toList.any (fun source =>
        !(state.policy.vehicleCapacities.any fun capacity =>
          capacity.sourceReference == source))
      || (progress.minimumSeatsProvided.isSome && progress.capacitySources.isEmpty))
      .invalidServiceOutcome
    let current := (w.formationServiceCapacity train.formationVersionId).1
    refuseIf (!progress.completed
      && match progress.minimumSeatsProvided, current with
        | some minimum, some seats => decide (seats < minimum)
        | _, _ => false) .invalidServiceOutcome

/-- The state of the service outcomes is consistent. -/
def verifyServiceOutcomes : Checked Unit :=
  match w.serviceOutcomeState with
  | none => refuseIf (Registry.anyValue w.trains fun train => train.serviceOutcome.isSome)
      .invalidServiceOutcome
  | some state => do
    demand (state.policy.schemaVersion == "zugfolge-operational-service-outcome-policy/v1"
      && (state.policy.vehicleCapacities.all fun capacity =>
        !capacity.vehicleId.isEmpty && !capacity.sourceReference.isEmpty)
      && decide (state.policy.vehicleCapacities.map (·.vehicleId)).Nodup
      && state.policy.serviceIds.all (fun id => !id.isEmpty)
      && decide state.policy.serviceIds.Nodup) .invalidServiceOutcome
    state.latestStartedDay.toList.forM fun entry => do
      demand (state.policy.serviceIds.contains entry.1) .invalidServiceOutcome
      ServiceOutcomeBinding.validate
        { schemaVersion := "zugfolge-operational-service-outcome-binding/v1"
          serviceId := entry.1, serviceRunId := s!"{entry.1}:service-day:{entry.2}"
          lotId := "receipt", serviceDay := entry.2, scheduledArrivalMs := 0
          requiredSeats := none, connectionAssessment := .unavailable }
    (Registry.values w.trains).forM (w.validateTrainOutcome state)

end OperationalWorld

end Zugfolge
