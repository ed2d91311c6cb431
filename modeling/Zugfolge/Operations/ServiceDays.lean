/-
Service days: the complete daily amounts of a pinned catalogue.
-/
import Zugfolge.World.Projections

namespace Zugfolge

open Foundation

/-- The milliseconds of a day. -/
def dayMs : Int := 86400000

/-- The greatest number of open days. -/
def maxOpenDays : ℕ := 32

/-! ### Calendar -/

/-- The days of a month of the Gregorian calendar; zero when there is no such month. -/
def daysOfMonth (year month : ℕ) : ℕ :=
  let leap := year % 4 == 0 && (year % 100 != 0 || year % 400 == 0)
  match month with
  | 1 | 3 | 5 | 7 | 8 | 10 | 12 => 31
  | 4 | 6 | 9 | 11 => 30
  | 2 => if leap then 29 else 28
  | _ => 0

/-- Year, month and date of a day `YYYY-MM-DD`. -/
def calendarDay (day : String) : Option (ℕ × ℕ × ℕ) :=
  match day.toList with
  | [y1, y2, y3, y4, '-', m1, m2, '-', d1, d2] =>
    if [y1, y2, y3, y4, m1, m2, d1, d2].all Text.isDigit then
      let year := Text.digitsValue [y1, y2, y3, y4]
      let month := Text.digitsValue [m1, m2]
      let date := Text.digitsValue [d1, d2]
      if year = 0 ∨ date = 0 ∨ daysOfMonth year month < date then none
      else some (year, month, date)
    else none
  | _ => none

/-- The day some days later, month by month; none after the year 9999. -/
def shiftMonths : ℕ → ℕ → ℕ → ℕ → ℕ → Option (ℕ × ℕ × ℕ)
  | 0, year, month, date, _ => some (year, month, date)
  | rounds + 1, year, month, date, remaining =>
    if remaining = 0 then some (year, month, date)
    else
      let toNext := daysOfMonth year month - date + 1
      if remaining < toNext then some (year, month, date + remaining)
      else
        let month' := if month + 1 = 13 then 1 else month + 1
        let year' := if month + 1 = 13 then year + 1 else year
        if 9999 < year' then none
        else shiftMonths rounds year' month' 1 (remaining - toNext)

/-- A number with leading zeros up to the given width. -/
def padded (width value : ℕ) : String :=
  let digits := toString value
  String.ofList (List.replicate (width - digits.length) '0') ++ digits

/-- The day `days` days after a day of the calendar. -/
def shiftedDay (day : String) (days : ℕ) : Checked String := do
  let (year, month, date) ← orRefuse (calendarDay day) .invalidServiceOutcome
  let (year, month, date) ← orRefuse (shiftMonths days year month date days) .invalidServiceDay
  pure s!"{padded 4 year}-{padded 2 month}-{padded 2 date}"

/-- The binding names a service, its run on a day of the calendar and its lot. -/
def ServiceOutcomeBinding.validate (binding : ServiceOutcomeBinding) : Checked Unit :=
  demand (binding.schemaVersion == "zugfolge-operational-service-outcome-binding/v1"
    && !binding.serviceRunId.isEmpty && !binding.lotId.isEmpty
    && decide (0 ≤ binding.scheduledArrivalMs)
    && (calendarDay binding.serviceDay).isSome
    && !binding.serviceId.isEmpty
    && binding.serviceRunId == s!"{binding.serviceId}:service-day:{binding.serviceDay}")
    .invalidServiceOutcome

/-- The template moved to the day with the given index. -/
def ServiceDayTemplateV1.instance (template : ServiceDayTemplateV1) (dayIndex : ℕ)
    (epoch : String) : Checked ServiceDayTemplateV1 := do
  let shift ← orRefuse (mulChecked64 dayIndex dayMs) .invalidServiceDay
  let departure ← orRefuse (addChecked64 template.scheduledDepartureMs shift) .invalidServiceDay
  let arrival ← orRefuse (addChecked64 template.binding.scheduledArrivalMs shift)
    .invalidServiceDay
  let serviceDay ← shiftedDay epoch dayIndex
  pure { template with
    trainRunId := if 0 < dayIndex then s!"{template.trainRunId}:day-{dayIndex}"
      else template.trainRunId
    scheduledDepartureMs := departure
    binding := { template.binding with
      scheduledArrivalMs := arrival
      serviceDay
      serviceRunId := s!"{template.binding.serviceId}:service-day:{serviceDay}" } }

/-! ### The policy -/

namespace OperationalWorld

variable (w : OperationalWorld)

/-- One service of the catalogue is complete. -/
def serviceIsValid (policy : ServiceDayPolicyV1) (service : ServiceDayTemplateV1) : Bool :=
  !(service.trainRunId.isEmpty || service.operatorId.isEmpty
    || decide (1 < service.firstDayIndex)
    || decide (service.scheduledDepartureMs < 0)
    || decide (2 * dayMs ≤ service.scheduledDepartureMs)
    || decide (service.binding.scheduledArrivalMs < service.scheduledDepartureMs)
    || decide (3 * dayMs ≤ service.binding.scheduledArrivalMs)
    || service.binding.serviceDay != policy.epochServiceDay)

/-- The vehicle costs refer to vehicles of the world. -/
def validateVehicleCostPolicy (costs : ServiceVehicleCostPolicyV1) : Checked Unit :=
  demand (strictlyAscending (costs.vehicleCosts.map (·.vehicleId))
    && Text.isHash costs.economyReleaseHash && Text.isHash costs.fleetAuthorityReleaseHash
    && costs.vehicleCosts.all (fun cost =>
      w.vehicles.contains cost.vehicleId && !cost.sourceReference.isEmpty)) .invalidServiceDay

/-- The catalogue is complete and is that of the outcome policy. -/
def validateServiceDayPolicy (policy : ServiceDayPolicyV1) : Checked Unit := do
  let outcomes ← orRefuse w.serviceOutcomeState .invalidServiceDay
  refuseIf (policy.schemaVersion != "zugfolge-operational-service-day-policy/v1"
    || policy.dayLengthMs != dayMs || policy.services.isEmpty
    || decide (1000000 < policy.services.length)) .invalidServiceDay
  demand (strictlyAscending (policy.services.map (·.binding.serviceId))) .invalidServiceDay
  let _ ← shiftedDay policy.epochServiceDay 0
  policy.services.forM fun service => do
    service.binding.validate
    demand (serviceIsValid policy service) .invalidServiceDay
  demand (decide (policy.services.map (·.trainRunId)).Nodup) .invalidServiceDay
  demand ((policy.services.all fun service =>
      outcomes.policy.serviceIds.contains service.binding.serviceId)
    && outcomes.policy.serviceIds.all fun id =>
      policy.services.any fun service => service.binding.serviceId == id) .invalidServiceDay
  match policy.vehicleCostPolicy with
  | none => .ok ()
  | some costs => w.validateVehicleCostPolicy costs

/-- The runs expected on a day. -/
def dayTemplates (day : ℕ) : Checked (List ServiceDayTemplateV1) := do
  let state ← orRefuse w.serviceDayState .invalidServiceDay
  (state.policy.services.filter fun service => decide (service.firstDayIndex ≤ day)).mapM
    fun service => service.instance day state.policy.epochServiceDay

/-- The end of the first open day that is not over yet. -/
def serviceDayNextAt : Option SimMillis := do
  let state ← w.serviceDayState
  (state.open.keys.map fun day => ((day : Int) + 1) * dayMs).find?
    fun atMs => decide (w.nowMs < atMs)

end OperationalWorld

/-- The runs by operator and lot, each group by service run. -/
def grouped (services : List ServiceDayTemplateV1) :
    List ((String × String) × List ServiceDayTemplateV1) :=
  let operators : KeySet String := Std.ExtTreeSet.ofList (services.map (·.operatorId)) compare
  operators.toList.flatMap fun operator =>
    let own := services.filter fun service => service.operatorId == operator
    let lots : KeySet String := Std.ExtTreeSet.ofList (own.map (·.binding.lotId)) compare
    lots.toList.map fun lot =>
      ((operator, lot),
        (own.filter fun service => service.binding.lotId == lot).insertionSort
          fun a b => (compare a.binding.serviceRunId b.binding.serviceRunId).isLE = true)

/-- Updates the state of the service days, if there is one. -/
def OperationalWorld.updateServiceDays (w : OperationalWorld)
    (f : ServiceDayState → ServiceDayState) : OperationalWorld :=
  { w with serviceDayState := w.serviceDayState.map f }

/-! ### Opening and closing days -/

/-- The cost of the runs of a group: the sum over those with a known cost, and whether
every cost is known. -/
def groupCost (progress : ServiceDayProgress) (ids : List String) : Checked (Int × Bool) :=
  ids.foldlM (fun acc id => do
    let cost ← orRefuse progress.costs[id]? .invalidServiceDay
    match cost.millimetreCents with
    | some value => do
      let sum ← orRefuse (addChecked128 acc.1 value) .invalidServiceDay
      pure (sum, acc.2)
    | none => pure (acc.1, false)) (0, true)

/-- Publishes the closure of one group of a day. -/
def recordDayClosed (env : Env) (day : ℕ) (dayString : String) (progress : ServiceDayProgress)
    (group : (String × String) × List ServiceDayTemplateV1) : M Unit := do
  let ((operator, lot), services) := group
  let ids := services.map (·.binding.serviceRunId)
  let (numerator, costComplete) ← M.check (groupCost progress ids)
  let costCents ← M.check (orRefuse (checked64 (numerator.tdiv 1000000)) .invalidServiceDay)
  let w ← M.world
  let id := env.serviceDayId dayString operator lot
  record "service-day-closed" id (.serviceDayClosed
    { worldId := w.worldId, regionId := w.regionId, operatorId := operator, lotId := lot
      serviceDayId := id, serviceDay := dayString, dayIndex := day
      dayEndMs := ((day : Int) + 1) * dayMs, closedAtMs := w.nowMs, serviceRunIds := ids
      vehicleCostEvidenceComplete := costComplete
      formationOperatingCostCents := if costComplete then some costCents else none })

def closeServiceDay (env : Env) (day : ℕ) : M Unit := do
  let w ← M.world
  let templates ← M.check (w.dayTemplates day)
  let state ← M.check (orPanic w.serviceDayState)
  let progress ← M.check (orRefuse state.open[day]? .invalidServiceDay)
  M.update fun w => w.updateServiceDays fun s => { s with «open» := s.open.erase day }
  let dayString ← M.check (shiftedDay state.policy.epochServiceDay day)
  TracedM.forEach (recordDayClosed env day dayString progress) (grouped templates)

/-- The open days that are over and whose runs have all an outcome. -/
def ServiceDayState.ready (state : ServiceDayState) (nowMs : SimMillis) : List ℕ :=
  (state.open.toList.filter fun entry =>
    decide (((entry.1 : Int) + 1) * dayMs ≤ nowMs)
      && entry.2.outcomes.size == (state.policy.services.filter fun service =>
        decide (service.firstDayIndex ≤ entry.1)).length).map Prod.fst

/-- Closes the days that are over and complete. -/
def closeReadyServiceDays (env : Env) : M Unit := do
  let w ← M.world
  match w.serviceDayState with
  | none => pure ()
  | some state => TracedM.forEach (closeServiceDay env) (state.ready w.nowMs)

/-- Opens one day and publishes its groups. -/
def openOneServiceDay (env : Env) (day : ℕ) : M Unit := do
  let w ← M.world
  let templates ← M.check (w.dayTemplates day)
  M.update fun w => w.updateServiceDays fun s => { s with «open» := s.open.insert day {} }
  M.check (demand (decide (day + 1 ≤ u32Max)) .invalidServiceDay)
  M.update fun w => w.updateServiceDays fun s => { s with nextDayIndex := day + 1 }
  TracedM.forEach (fun group => do
    let w ← M.world
    let state ← M.check (orPanic w.serviceDayState)
    let dayString ← M.check (shiftedDay state.policy.epochServiceDay day)
    let id := env.serviceDayId dayString group.1.1 group.1.2
    record "service-day-planned" id (.serviceDayPlanned
      { worldId := w.worldId, regionId := w.regionId, operatorId := group.1.1
        lotId := group.1.2, serviceDayId := id, serviceDay := dayString, dayIndex := day
        dayEndMs := ((day : Int) + 1) * dayMs
        serviceRunIds := group.2.map (·.binding.serviceRunId) })) (grouped templates)

/-- Opens all days up to the given one. -/
def openServiceDay (env : Env) (dayIndex : ℕ) : M Unit := do
  let w ← M.world
  let state ← M.check (orRefuse w.serviceDayState .invalidServiceDay)
  let current := w.nowMs.tdiv dayMs
  M.check (refuseIf (decide (current < 0) || decide ((u32Max : Int) < current))
    .invalidServiceDay)
  M.check (refuseIf (decide (addSatU32 current.toNat 2 < dayIndex)) .invalidServiceDay)
  if dayIndex < state.nextDayIndex then pure ()
  else
    let count := dayIndex - state.nextDayIndex + 1
    M.check (refuseIf (decide (maxOpenDays < count + state.open.size)) .invalidServiceDay)
    TracedM.forEach (openOneServiceDay env) (List.range' state.nextDayIndex count)
    closeReadyServiceDays env

/-- Binds the signed catalogue of services before the first train. -/
def configureServiceDays (policy : ServiceDayPolicyV1) : M Unit := do
  let w ← M.world
  M.check (refuseIf (w.serviceDayState.isSome || !w.trains.isEmpty) .invalidServiceDay)
  let policy := { policy with
    services := policy.services.insertionSort fun a b =>
      (compare a.binding.serviceId b.binding.serviceId).isLE = true
    vehicleCostPolicy := policy.vehicleCostPolicy.map fun costs => { costs with
      vehicleCosts := costs.vehicleCosts.insertionSort fun a b =>
        (compare a.vehicleId b.vehicleId).isLE = true } }
  M.check (w.validateServiceDayPolicy policy)
  M.update fun w => { w with serviceDayState := some { policy } }

/-! ### The evidence of one run -/

/-- Checks a run against the catalogue and opens its day. -/
def bindServiceDay (env : Env) (input : TrainMaterialization) : M Unit := do
  let w ← M.world
  match w.serviceDayState with
  | none => pure ()
  | some state =>
    match input.serviceOutcome with
    | none => M.check (refuseIf input.publicPassengerStop .invalidServiceDay)
    | some binding =>
      let source ← M.check (orRefuse (state.policy.services.find? fun service =>
        service.binding.serviceId == binding.serviceId) .invalidServiceDay)
      let shift ← M.check (orRefuse (subChecked64 binding.scheduledArrivalMs
        source.binding.scheduledArrivalMs) .invalidServiceDay)
      M.check (refuseIf (decide (shift < 0) || decide (shift % dayMs ≠ 0))
        .invalidServiceDay)
      M.check (demand (decide (shift / dayMs ≤ u32Max)) .invalidServiceDay)
      let day := (shift / dayMs).toNat
      let expected ← M.check (source.instance day state.policy.epochServiceDay)
      M.check (refuseIf (decide (day < source.firstDayIndex)
        || input.id != expected.trainRunId || input.operatorId != expected.operatorId
        || input.scheduledDepartureMs != some expected.scheduledDepartureMs
        || decide (binding ≠ expected.binding)) .invalidServiceDay)
      openServiceDay env day
      let w ← M.world
      let state ← M.check (orPanic w.serviceDayState)
      let progress ← M.check (orRefuse state.open[day]? .invalidServiceDay)
      M.check (refuseIf (progress.outcomes.contains binding.serviceRunId) .invalidServiceDay)

/-- Begins to measure the vehicle cost of a run. -/
def startServiceVehicleCost (env : Env) (input : TrainMaterialization) : M Unit :=
  match input.serviceOutcome with
  | none => pure ()
  | some binding =>
    M.update fun w => w.updateServiceDays fun s => { s with
      vehicleProgress := s.vehicleProgress.insert binding.serviceRunId
        { lastHeadMm := input.headRouteMm, distanceByVehicle := ∅
          measurementHash := env.measurementHash input.headRouteMm ∅ } }

/-- Updates the measured progress of a run, if there is one. -/
def ServiceDayState.updateProgress (state : ServiceDayState) (serviceRunId : String)
    (f : VehicleCostProgress → VehicleCostProgress) : ServiceDayState :=
  { state with vehicleProgress := state.vehicleProgress.modify serviceRunId f }

/-- Adds a distance to one vehicle of a run. -/
def addVehicleDistance (serviceRunId : String) (distance : Int) (vehicleId : String) : M Unit := do
  let w ← M.world
  let state ← M.check (orPanic w.serviceDayState)
  let progress ← M.check (orPanic state.vehicleProgress[serviceRunId]?)
  let total ← M.check (orRefuse
    (addChecked64 ((progress.distanceByVehicle[vehicleId]?).getD 0) distance) .invalidServiceDay)
  M.update fun w => w.updateServiceDays fun s => s.updateProgress serviceRunId fun p =>
    { p with distanceByVehicle := p.distanceByVehicle.insert vehicleId total }

/-- Measures the way of a train up to a head position. -/
def measureServiceVehicleCost (env : Env) (trainId : String) (headMm : RouteMillimetres) :
    M Unit := do
  let w ← M.world
  match w.serviceDayState with
  | none => pure ()
  | some state =>
    let train ← M.check (orRefuse w.trains[trainId]? .invalidServiceDay)
    match train.serviceOutcome with
    | none => pure ()
    | some service =>
      if service.completed then pure ()
      else
        let runId := service.binding.serviceRunId
        let progress ← M.check (orRefuse state.vehicleProgress[runId]? .invalidServiceDay)
        let distance ← M.check (orRefuse
          ((subChecked64 headMm progress.lastHeadMm).filter fun d => decide (0 ≤ d))
          .invalidServiceDay)
        let formation ← M.check
          (orRefuse w.formations[train.formationVersionId]? .invalidServiceDay)
        TracedM.forEach (addVehicleDistance runId distance) formation.vehicleIds
        M.update fun w => w.updateServiceDays fun s => s.updateProgress runId fun p =>
          { p with
            lastHeadMm := headMm
            measurementHash := env.measurementHash headMm p.distanceByVehicle }

/-- The cost receipt of a run for the way each vehicle covered. -/
def vehicleCostReceipt (worldId regionId : String) (policy : Option ServiceVehicleCostPolicyV1)
    (outcome : TrainOutcome) (uses : Registry String Int) : Checked VehicleCostReceipt := do
  let rateOf := fun vehicleId => policy.bind fun p =>
    p.vehicleCosts.find? fun rate => rate.vehicleId == vehicleId
  let numerator ← uses.toList.foldlM (fun acc entry =>
    match rateOf entry.1 with
    | some rate => orRefuse (addChecked128 acc (entry.2 * rate.centsPerTrainKm)) .invalidServiceDay
    | none => pure acc) (0 : Int)
  let complete := policy.isSome && uses.toList.all fun entry => (rateOf entry.1).isSome
  pure
    { worldId, regionId, operatorId := outcome.operatorId, lotId := outcome.lotId
      trainRunId := outcome.trainRunId, serviceRunId := outcome.serviceRunId
      serviceDay := outcome.serviceDay, evidenceComplete := complete
      millimetreCents := if complete then some numerator else none
      vehicleUses := uses.toList.map fun entry =>
        { vehicleId := entry.1, distanceMm := entry.2
          centsPerTrainKm := (rateOf entry.1).map (·.centsPerTrainKm)
          sourceReference := (rateOf entry.1).map (·.sourceReference) }
      economyReleaseHash := policy.map (·.economyReleaseHash)
      fleetAuthorityReleaseHash := policy.map (·.fleetAuthorityReleaseHash) }

/-- Records the outcome of a run in its open day. -/
def recordServiceDayOutcome (env : Env) (trainId : String) (outcome : TrainOutcome) :
    M Unit := do
  let w ← M.world
  if w.serviceDayState.isNone then pure ()
  else
    let train ← M.check (orRefuse w.trains[trainId]? .invalidServiceDay)
    measureServiceVehicleCost env trainId train.headRouteMm
    let w ← M.world
    let state ← M.check (orPanic w.serviceDayState)
    let id := outcome.serviceRunId
    let day ← M.check (orRefuse (state.open.keys.find? fun day =>
      match shiftedDay state.policy.epochServiceDay day with
      | .ok dayString => dayString == outcome.serviceDay
      | .error _ => false) .invalidServiceDay)
    let measured ← M.check (orRefuse state.vehicleProgress[id]? .invalidServiceDay)
    M.update fun w => w.updateServiceDays fun s => { s with
      vehicleProgress := s.vehicleProgress.erase id }
    let cost ← M.check (vehicleCostReceipt w.worldId w.regionId state.policy.vehicleCostPolicy
      outcome measured.distanceByVehicle)
    let progress ← M.check (orRefuse state.open[day]? .invalidServiceDay)
    M.update fun w => w.updateServiceDays fun s => { s with
      «open» := s.open.insert day { progress with
        outcomes := progress.outcomes.insert id outcome } }
    M.check (refuseIf (progress.outcomes.contains id) .invalidServiceDay)
    M.update fun w => w.updateServiceDays fun s => { s with
      «open» := s.open.insert day
        { outcomes := progress.outcomes.insert id outcome
          costs := progress.costs.insert id cost
          receiptHashes := progress.receiptHashes.insert id
            (env.serviceReceiptHash outcome cost) } }
    record "service-vehicle-cost" trainId (.vehicleCost cost)
    closeReadyServiceDays env

/-! ### Verification -/

/-- The delay of an arrival in whole seconds, rounded up. -/
def delaySecondsOf (arrivalMs scheduledMs : SimMillis) : Int :=
  let delay := max (subSat64 arrivalMs scheduledMs) 0
  delay / 1000 + (if 0 < delay % 1000 then 1 else 0)

/-- The connections known to be missed. -/
def ServiceConnectionAssessment.missed : ServiceConnectionAssessment → Option ℕ
  | .noneContracted => some 0
  | .unavailable => none

namespace OperationalWorld

variable (w : OperationalWorld)

/-- A stored outcome agrees with the template of its run. -/
def outcomeIsValid (id : String) (service : ServiceDayTemplateV1) (outcome : TrainOutcome) :
    Bool :=
  let missing := match service.binding.requiredSeats, outcome.minimumSeatsProvided with
    | some required, some provided => some (required - provided)
    | _, _ => none
  let connections := service.binding.connectionAssessment.missed
  outcome.worldId == w.worldId && outcome.operatorId == service.operatorId
    && outcome.lotId == service.binding.lotId && outcome.trainRunId == service.trainRunId
    && outcome.serviceRunId == id && outcome.serviceDay == service.binding.serviceDay
    && outcome.serviceId == service.binding.serviceId
    && outcome.scheduledArrivalMs == service.binding.scheduledArrivalMs
    && decide (outcome.actualArrivalMs ≤ w.nowMs) && decide (0 ≤ outcome.actualArrivalMs)
    && decide (0 ≤ outcome.distanceMm) && outcome.trainKm == outcome.distanceMm / 1000000
    && outcome.delaySeconds
        == delaySecondsOf outcome.actualArrivalMs service.binding.scheduledArrivalMs
    && outcome.missingSeats == missing && outcome.missedConnections == connections
    && outcome.evidenceComplete == (missing.isSome && connections.isSome)

/-- A stored cost agrees with the outcome of its run. -/
def validateCost (policy : ServiceDayPolicyV1) (outcome : TrainOutcome)
    (cost : VehicleCostReceipt) : Checked Unit := do
  demand (cost.vehicleUses.all fun line =>
    decide (0 ≤ line.distanceMm) && w.vehicles.contains line.vehicleId
      && decide (line.distanceMm ≤ outcome.distanceMm)) .invalidServiceDay
  demand (decide (cost.vehicleUses.map (·.vehicleId)).Nodup) .invalidServiceDay
  let uses : Registry String Int :=
    Std.ExtTreeMap.ofList (cost.vehicleUses.map fun line => (line.vehicleId, line.distanceMm))
      compare
  refuseIf (decide ((cost.vehicleUses.map (·.distanceMm)).sum < outcome.distanceMm))
    .invalidServiceDay
  let expected ← vehicleCostReceipt w.worldId w.regionId policy.vehicleCostPolicy outcome uses
  demand (decide (cost = expected)) .invalidServiceDay

/-- One open day agrees with its templates. -/
def validateOpenDay (env : Env) (state : ServiceDayState) (day : ℕ)
    (progress : ServiceDayProgress) : Checked Unit := do
  refuseIf (decide (state.nextDayIndex ≤ day)) .invalidServiceDay
  let expected ← w.dayTemplates day
  demand (decide (progress.costs.keys = progress.outcomes.keys)
    && decide (progress.receiptHashes.keys = progress.outcomes.keys)) .invalidServiceDay
  progress.outcomes.toList.forM fun entry => do
    let (id, outcome) := entry
    let service ← orRefuse (expected.reverse.find? fun s => s.binding.serviceRunId == id)
      .invalidServiceDay
    let cost ← orPanic progress.costs[id]?
    demand (w.outcomeIsValid id service outcome
      && progress.receiptHashes[id]? == some (env.serviceReceiptHash outcome cost))
      .invalidServiceDay
    w.validateCost state.policy outcome cost

/-- The measured way of one running service agrees with its train. -/
def progressIsValid (env : Env) (train : OperationalTrain) (service : ServiceOutcomeProgress)
    (progress : VehicleCostProgress) : Bool :=
  let covered := progress.lastHeadMm - service.startHeadRouteMm
  let distances := Registry.values progress.distanceByVehicle
  !(decide (progress.lastHeadMm < service.startHeadRouteMm)
    || decide (train.headRouteMm < progress.lastHeadMm)
    || progress.measurementHash
        != env.measurementHash progress.lastHeadMm progress.distanceByVehicle
    || progress.distanceByVehicle.toList.any (fun entry =>
        decide (entry.2 < 0) || !w.vehicles.contains entry.1 || decide (covered < entry.2))
    || decide (distances.sum < covered))

/-- The services under way, by service run. -/
def activeServices : Registry String (OperationalTrain × ServiceOutcomeProgress) :=
  (Registry.values w.trains).foldl (fun acc train =>
    match train.serviceOutcome with
    | some service =>
      if service.completed then acc
      else acc.insert service.binding.serviceRunId (train, service)
    | none => acc) ∅

/-- The state of the service days is consistent. -/
def verifyServiceDays (env : Env) : Checked Unit :=
  match w.serviceDayState with
  | none => .ok ()
  | some state => do
    w.validateServiceDayPolicy state.policy
    refuseIf (decide (maxOpenDays < state.open.size)) .invalidServiceDay
    state.open.toList.forM fun entry => w.validateOpenDay env state entry.1 entry.2
    demand (decide (w.activeServices.keys = state.vehicleProgress.keys)) .invalidServiceDay
    state.vehicleProgress.toList.forM fun entry => do
      let (train, service) ← orRefuse w.activeServices[entry.1]? .invalidServiceDay
      demand (w.progressIsValid env train service entry.2) .invalidServiceDay

end OperationalWorld

end Zugfolge
