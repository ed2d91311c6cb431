/-
The state of a region and how it works off its queue.

A region holds its trains, a queue of arrivals and departures and the delay rules of the
stops.  The clock moves to the time of the earliest entry of the queue, which is handled there,
until no entry is due; then the running trains are placed at the target time.
-/
import Zugfolge.Foundation.Queue
import Zugfolge.Sim.Command

namespace Zugfolge.Sim

open Foundation

/-- The state of a region. -/
structure Simulation (δ : Type) where
  worldId : WorldId
  regionId : RegionId
  now : SimTime
  sequence : ℕ
  window : MaterializationWindow
  trains : Registry TrainRunId TrainRun
  pendingHandovers : Registry UInt64 PendingHandover
  schedule : KeySet ScheduledEvent
  delayRules : Registry StopKey DelayRule
  resourceOwners : Registry String TrainRunId
  dispatcher : δ

/-- The answer to a call and the state after it; `none` where the call does not return, since
a sum leaves its type, an index its list or a decision is not made. -/
abbrev Reply (δ α : Type) : Type := Option (Except SimError α × Simulation δ)

namespace Reply

variable {δ α β : Type}

/-- A call that is refused. -/
def refuse (s : Simulation δ) (error : SimError) : Reply δ α := some (.error error, s)

/-- Goes on with the answer of a call unless it was refused. -/
def andThen (reply : Reply δ α) (next : α → Simulation δ → Reply δ β) : Reply δ β :=
  match reply with
  | none => none
  | some (.error error, s) => some (.error error, s)
  | some (.ok a, s) => next a s

end Reply

/-- What a call puts out before it is numbered. -/
abbrev Output : Type := List (SimTime × EventKind)

namespace Simulation

variable {δ : Type}

/-- A region without trains. -/
def new (worldId : WorldId) (regionId : RegionId) (now : SimTime)
    (window : MaterializationWindow) (dispatcher : δ) : Simulation δ where
  worldId := worldId
  regionId := regionId
  now := now
  sequence := 0
  window := window
  trains := ∅
  pendingHandovers := ∅
  schedule := ∅
  delayRules := ∅
  resourceOwners := ∅
  dispatcher := dispatcher

/-! ### Writes -/

variable (s : Simulation δ)

def putTrain (id : TrainRunId) (train : TrainRun) : Simulation δ :=
  { s with trains := s.trains.insert id train }

/-- Writes the status of a train. -/
def setStatus (id : TrainRunId) (status : OperatingStatus) : Simulation δ :=
  { s with trains := s.trains.modify id fun train => { train with status := status } }

/-- Enters an event into the queue. -/
def enqueue (event : ScheduledEvent) : Simulation δ :=
  { s with schedule := s.schedule.insert event }

/-- Drops the events of a train from the queue. -/
def dropEvents (id : TrainRunId) : Simulation δ :=
  { s with schedule := s.schedule.filter fun event => event.trainRunId != id }

def releaseResources (id : TrainRunId) : Simulation δ :=
  { s with resourceOwners := s.resourceOwners.filter fun _ owner => owner != id }

/-- Numbers what a call puts out. -/
def events (kinds : Output) : Reply δ (List DomainEvent) :=
  if s.sequence + kinds.length ≤ u64Max then
    some (.ok ((kinds.zipIdx (s.sequence + 1)).map fun entry =>
      ⟨s.worldId, entry.2, entry.1.1, entry.1.2⟩),
      { s with sequence := s.sequence + kinds.length })
  else none

/-! ### Arrivals and departures -/

section Processing

variable [Dispatcher δ]

/-- The decision of the dispatcher, and the state with what the dispatcher has noted. -/
def askDispatcher (s : Simulation δ) (train : TrainRun) (time : SimTime) (trigger : DispatchTrigger)
    (facts : DispatchFacts) : Option (DispatchDecision × Simulation δ) :=
  (Dispatcher.decide s.dispatcher train time trigger facts).map fun result =>
    (result.1, { s with dispatcher := result.2 })

omit [Dispatcher δ] in
/-- Schedules the departure of a train: not before it is requested, not before the least stop
is over, and not before the planned time with the delay. -/
def scheduleDeparture (s : Simulation δ) (id : TrainRunId) (waypoint : ℕ)
    (requested : SimTime) : Option (Simulation δ) :=
  (s.trains[id]?).bind fun train =>
    (train.route[waypoint]?).map fun point =>
      let time := max (max requested (addSat64 point.arrival point.minimumDwellSeconds))
        (addSat64 point.departure (max train.delaySeconds 0))
      (if s.now < time then s.setStatus id .waiting else s).enqueue ⟨time, id, waypoint, .depart⟩

omit [Dispatcher δ] in
/-- The delay of a train that arrives at a waypoint. -/
def delayAt (s : Simulation δ) (event : ScheduledEvent) (train : TrainRun)
    (waypoint : Waypoint) : Int :=
  match s.delayRules[(⟨event.trainRunId, event.waypoint⟩ : StopKey)]? with
  | some rule => rule.delayAt waypoint train.delaySeconds
  | none => train.delaySeconds

/-- A train that stands at a waypoint. -/
def standing (train : TrainRun) (waypoint : Waypoint) (delaySeconds : Int) : TrainRun :=
  { train with
    delaySeconds := delaySeconds
    positionMm := waypoint.positionMm
    speedMmPerSecond := 0
    status := .atPlatform }

omit [Dispatcher δ] in
/-- What the decision at an arrival makes of the train. -/
def afterArrival (s : Simulation δ) (event : ScheduledEvent) :
    DispatchDecision → Option (Simulation δ)
  | .cancel | .triggerRailReplacement => some (s.setStatus event.trainRunId .cancelled)
  | .shortTurn => some (s.setStatus event.trainRunId .completed)
  | .skipStop => some (s.enqueue ⟨event.time, event.trainRunId, event.waypoint, .depart⟩)
  | .proceed | .breakConnection | .shortenTrain | .strengthenTrain | .activateReserveRotation
  | .provideReplacementVehicle | .requestReroute | .returnPath =>
    s.scheduleDeparture event.trainRunId event.waypoint event.time
  | .holdUntil limit =>
    s.scheduleDeparture event.trainRunId event.waypoint (max limit event.time)

def arrive (s : Simulation δ) (event : ScheduledEvent) (train : TrainRun)
    (waypoint : Waypoint) : Option (Simulation δ × Output) :=
  let stood := standing train waypoint (s.delayAt event train waypoint)
  ((s.putTrain event.trainRunId stood).askDispatcher stood event.time .arrival
      (.neutral 0 event.time)).bind fun result =>
    (result.2.afterArrival event result.1).map fun t =>
      (t, [(event.time, .arrived train.id waypoint.operatingPoint)])

omit [Dispatcher δ] in
/-- A train leaves a waypoint. -/
def leave (s : Simulation δ) (event : ScheduledEvent) (train : TrainRun) (waypoint : Waypoint) :
    Option (Simulation δ × Output) :=
  -- the reservation of a handover lasts until the train leaves its first waypoint
  let freed := if event.waypoint = 0 then s.releaseResources train.id else s
  if event.waypoint + 1 = train.route.length then
    some (freed.setStatus event.trainRunId .completed,
      [(event.time, .departed train.id waypoint.operatingPoint),
        (event.time, .completed train.id)])
  else
    (train.route[train.nextWaypoint + 1]?).map fun next =>
      ((freed.putTrain event.trainRunId
          { train with nextWaypoint := train.nextWaypoint + 1, status := .running }).enqueue
        ⟨addSat64 next.arrival train.delaySeconds, train.id, train.nextWaypoint + 1, .arrive⟩,
        [(event.time, .departed train.id waypoint.operatingPoint)])

def depart (s : Simulation δ) (event : ScheduledEvent) (train : TrainRun)
    (waypoint : Waypoint) : Option (Simulation δ × Output) :=
  (s.askDispatcher train event.time .departure (.neutral 0 event.time)).bind fun result =>
    match result.1 with
    | .cancel | .triggerRailReplacement =>
      some (result.2.setStatus event.trainRunId .cancelled, [])
    | .shortTurn => some (result.2.setStatus event.trainRunId .completed, [])
    | .holdUntil limit =>
      if event.time < limit then some (result.2.enqueue { event with time := limit }, [])
      else result.2.leave event train waypoint
    | .proceed | .breakConnection | .skipStop | .shortenTrain | .strengthenTrain
    | .activateReserveRotation | .provideReplacementVehicle | .requestReroute | .returnPath =>
      result.2.leave event train waypoint

/-- Handles an event of the queue; an event of a train that is over or elsewhere is stale. -/
def processScheduled (s : Simulation δ) (event : ScheduledEvent) :
    Option (Simulation δ × Output) :=
  match s.trains[event.trainRunId]? with
  | none => some (s, [])
  | some train =>
    if train.status.over = true ∨ train.nextWaypoint ≠ event.waypoint then some (s, [])
    else
      (train.route[event.waypoint]?).bind fun waypoint =>
        match event.kind with
        | .arrive => s.arrive event train waypoint
        | .depart => s.depart event train waypoint

/-! ### The clock -/

omit [Dispatcher δ] in
/-- The earliest event of the queue, if it is due. -/
def due (target : SimTime) (s : Simulation δ) : Option ScheduledEvent :=
  s.schedule.toList.head?.filter fun event => event.time ≤ target

omit [Dispatcher δ] in
/-- The clock moves to an event of the queue, which is taken out. -/
def takeOut (s : Simulation δ) (event : ScheduledEvent) : Simulation δ :=
  { s with schedule := s.schedule.erase event, now := event.time }

/-- Takes an event out of the queue and handles it. -/
def tick (s : Simulation δ) (event : ScheduledEvent) : Option (Simulation δ × Output) :=
  (s.takeOut event).processScheduled event

omit [Dispatcher δ] in
/-- The number of waypoints of the longest route. -/
def longestRoute (s : Simulation δ) : ℕ :=
  (Registry.values s.trains).foldr (fun train longest => max train.route.length longest) 0

/-- A bound on the number of events that follow from an event until a time, itself included:
every hold moves the departure on, and every departure brings the train one waypoint further. -/
def weight (target : SimTime) (longest : ℕ) (event : ScheduledEvent) : ℕ :=
  (target + 1 - event.time).toNat + (1 - event.kind.code)
    + (longest - event.waypoint) * ((target + 1 - i64Min).toNat + 1)

omit [Dispatcher δ] in
/-- A bound on the number of events until a time. -/
def drainBound (s : Simulation δ) (target : SimTime) : ℕ :=
  KeySet.weigh s.schedule (weight target s.longestRoute)

/-- A train at a time: a running one is placed between its waypoints. -/
def placed (time : SimTime) (train : TrainRun) : Option TrainRun :=
  if train.status = .running then interpolate train time else some train

omit [Dispatcher δ] in
/-- Moves the clock to a time and places the running trains. -/
def placeTrains (s : Simulation δ) (time : SimTime) : Option (Simulation δ) :=
  if Registry.allValues s.trains fun train => (placed time train).isSome then
    some { s with
      now := time
      trains := s.trains.map fun _ train => (placed time train).getD train }
  else none

/-- Moves the clock to a target and handles what is due until then. -/
def advance (s : Simulation δ) (target : SimTime) : Option (Simulation δ × Output) :=
  (drain (due target) tick (s.drainBound target + 1) s).bind fun result =>
    (result.1.placeTrains target).map fun t => (t, result.2)

end Processing

end Simulation

end Zugfolge.Sim
