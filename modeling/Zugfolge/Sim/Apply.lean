/-
The calls of a region.

A region applies commands, hands trains over to other regions and takes trains over from them.
A call answers with events or with an error; an error does not take back what the call has
written before it.
-/
import Zugfolge.Foundation.Text
import Zugfolge.Sim.Simulation

namespace Zugfolge.Sim

open Foundation

namespace Simulation

variable {δ : Type}

/-! ### Trains -/

/-- The train belongs to the region, and its next arrival lies in the window. -/
def checkTrain (s : Simulation δ) (train : TrainRun) : Option (Except SimError Waypoint) :=
  match train.validate with
  | .error error => some (.error error)
  | .ok () =>
    if train.worldId ≠ s.worldId then some (.error .wrongWorld)
    else if train.regionId ≠ s.regionId then some (.error .wrongRegion)
    else
      (train.route[train.nextWaypoint]?).bind fun first =>
        if first.arrival < s.now then some (.error .outsideWindow)
        else
          (addChecked64 s.now s.window.seconds).map fun horizon =>
            if horizon < first.arrival then .error .outsideWindow else .ok first

/-- Takes a train in and schedules its arrival. -/
def materialize (s : Simulation δ) (train : TrainRun) : Reply δ (List DomainEvent) :=
  match s.checkTrain train with
  | none => none
  | some (.error error) => Reply.refuse s error
  | some (.ok first) =>
    -- the train is entered before it is known whether its number is free
    if s.trains.contains train.id then Reply.refuse (s.putTrain train.id train) .duplicateTrain
    else
      ((s.putTrain train.id train).enqueue
        ⟨first.arrival, train.id, train.nextWaypoint, .arrive⟩).events
          [(s.now, .materialized train.id)]

/-- Schedules what a train waits for anew, with its delay. -/
def rescheduleTrain (s : Simulation δ) (id : TrainRunId) : Reply δ Unit :=
  match s.trains[id]? with
  | none => Reply.refuse s .unknownTrain
  | some train =>
    match train.status with
    | .planned | .running =>
      (train.route[train.nextWaypoint]?).map fun point =>
        (.ok (), (s.dropEvents id).enqueue
          ⟨max (addSat64 point.arrival train.delaySeconds) s.now, id, train.nextWaypoint,
            .arrive⟩)
    | .atPlatform | .waiting =>
      (train.route[train.nextWaypoint]?).map fun point =>
        (.ok (), (s.dropEvents id).enqueue
          ⟨max (addSat64 point.departure (max train.delaySeconds 0)) s.now, id,
            train.nextWaypoint, .depart⟩)
    | .completed | .cancelled => some (.ok (), s.dropEvents id)

def delayTrain (s : Simulation δ) (id : TrainRunId) (seconds : ℕ) :
    Reply δ (SimTime × EventKind) :=
  match s.trains[id]? with
  | none => Reply.refuse s .unknownTrain
  | some train =>
    let delaySeconds := addSat64 train.delaySeconds seconds
    Reply.andThen ((s.putTrain id { train with delaySeconds := delaySeconds }).rescheduleTrain id)
      fun _ t => some (.ok (t.now, .delayChanged id delaySeconds), t)

/-- Delays trains one after another. -/
def delayTrains (s : Simulation δ) (seconds : ℕ) : List TrainRunId → Reply δ Output
  | [] => some (.ok [], s)
  | id :: ids =>
    Reply.andThen (s.delayTrain id seconds) fun kind t =>
      Reply.andThen (t.delayTrains seconds ids) fun kinds u => some (.ok (kind :: kinds), u)

/-- Applies a disruption to its trains. -/
def applyDisruption (s : Simulation δ) (application : DisruptionApplication) :
    Reply δ (List DomainEvent) :=
  if Text.isBlank application.disruptionId || Text.isBlank application.affectedResource
      || Text.isBlank application.fineCauseId || Text.isBlank application.effect
      || application.affectedTrainRunIds.isEmpty then
    Reply.refuse s .invalidDisruption
  else
    -- in order and each once
    let ids := (Std.ExtTreeSet.ofList application.affectedTrainRunIds compare).toList
    if ids.any fun id => !s.trains.contains id then Reply.refuse s .unknownTrain
    else
      Reply.andThen (s.delayTrains application.delaySeconds ids) fun kinds t =>
        t.events (kinds ++
          [(t.now, .disruptionApplied { application with affectedTrainRunIds := ids })])

/-- Drops a train that another region has taken over. -/
def confirmHandover (s : Simulation δ) (token : UInt64) (targetRegion : RegionId) :
    Reply δ (List DomainEvent) :=
  match s.pendingHandovers[token]? with
  | none => Reply.refuse s .unknownHandover
  | some pending =>
    if pending.targetRegion ≠ targetRegion then Reply.refuse s .wrongRegion
    else
      { s with
        pendingHandovers := s.pendingHandovers.erase token
        trains := s.trains.erase pending.trainRunId }.events
          [(s.now, .handoverCompleted pending.trainRunId token targetRegion)]

/-! ### Decisions from outside -/

/-- A decision hits a train at a time. -/
def applyExternalDispatch (s : Simulation δ) (id : TrainRunId) (time : SimTime)
    (decision : DispatchDecision) : Reply δ Unit :=
  match s.trains[id]? with
  | none => Reply.refuse s .unknownTrain
  | some train =>
    match decision with
    | .cancel | .triggerRailReplacement =>
      some (.ok (), (s.setStatus id .cancelled).dropEvents id)
    | .shortTurn => some (.ok (), (s.setStatus id .completed).dropEvents id)
    | .holdUntil limit =>
      if time < limit then
        some (.ok (),
          if train.nextWaypoint < train.route.length then
            (s.setStatus id .waiting).enqueue ⟨limit, id, train.nextWaypoint, .depart⟩
          else s.setStatus id .waiting)
      else some (.ok (), s)
    | .skipStop =>
      if train.nextWaypoint + 1 < train.route.length then
        (train.route[train.nextWaypoint + 1]?).map fun next =>
          (.ok (), (s.putTrain id
              { train with nextWaypoint := train.nextWaypoint + 1, status := .running }).enqueue
            ⟨max (addSat64 next.arrival train.delaySeconds) time, id,
              train.nextWaypoint + 1, .arrive⟩)
      else some (.ok (), s)
    | .proceed | .breakConnection | .shortenTrain | .strengthenTrain
    | .activateReserveRotation | .provideReplacementVehicle | .requestReroute | .returnPath =>
      some (.ok (), s)

section Commands

variable [Dispatcher δ]

/-- Moves the clock on command. -/
def advanceTo (s : Simulation δ) (target : SimTime) : Reply δ (List DomainEvent) :=
  if target < s.now then Reply.refuse s .timeReversal
  else (s.advance target).bind fun result => result.1.events result.2

/-- Moves the clock and lets the dispatcher decide about a train. -/
def dispatch (s : Simulation δ) (id : TrainRunId) (time : SimTime) (trigger : DispatchTrigger)
    (facts : DispatchFacts) : Reply δ (List DomainEvent) :=
  if time < s.now then Reply.refuse s .timeReversal
  else
    (s.advance time).bind fun result =>
      -- the clock has moved before it is known whether there is such a train
      match result.1.trains[id]? with
      | none => Reply.refuse result.1 .unknownTrain
      | some train =>
        (result.1.askDispatcher train time trigger facts).bind fun decided =>
          Reply.andThen (decided.2.applyExternalDispatch id time decided.1) fun _ t =>
            t.events (result.2 ++
              [(time, .dispatchApplied id facts.decisionId trigger decided.1)])

/-- Applies a command. -/
def apply (s : Simulation δ) : Command → Reply δ (List DomainEvent)
  | .materialize train => s.materialize train
  | .advanceTo target => s.advanceTo target
  | .addDelay id seconds =>
    Reply.andThen (s.delayTrain id seconds) fun kind t => t.events [kind]
  | .applyDisruption application => s.applyDisruption application
  | .confirmHandover token targetRegion => s.confirmHandover token targetRegion
  | .dispatch id time trigger facts => s.dispatch id time trigger facts

end Commands

/-! ### Other calls -/

/-- Lays down the delay rule of a stop. -/
def setDelayRule (s : Simulation δ) (id : TrainRunId) (waypoint : ℕ) (rule : DelayRule) :
    Reply δ Unit :=
  match s.trains[id]? with
  | none => Reply.refuse s .unknownTrain
  | some train =>
    if train.route.length ≤ waypoint then Reply.refuse s .invalidRoute
    else some (.ok (), { s with
      delayRules := s.delayRules.insert (⟨id, waypoint⟩ : StopKey) rule })

/-- The trains that are over and were to depart for the last time before a time. -/
def finishedBefore (s : Simulation δ) (before : SimTime) : List TrainRunId :=
  (s.trains.toList.filter fun entry => entry.2.status.over &&
    entry.2.route.getLast?.any fun point => decide (point.departure < before)).map Prod.fst

/-- Removes the trains that are over with all that belongs to them. -/
def dematerializeBefore (s : Simulation δ) (before : SimTime) : List TrainRunId × Simulation δ :=
  (s.finishedBefore before, (s.finishedBefore before).foldl (fun t id =>
    (({ t with trains := t.trains.erase id } : Simulation δ).dropEvents id).releaseResources id) s)

/-- The bits of a number, rotated to the left. -/
def rotateLeft (value amount : UInt64) : UInt64 :=
  (value <<< amount) ||| (value >>> (64 - amount))

def handoverToken (s : Simulation δ) (id : TrainRunId) (targetRegion : RegionId) : UInt64 :=
  UInt64.ofNat (addSatU64 s.sequence 1) ^^^ rotateLeft id 17 ^^^ targetRegion.toUInt64

/-- Asks another region to take a train over; the train stays until that is confirmed. -/
def requestHandover (s : Simulation δ) (id : TrainRunId) (targetRegion : RegionId) :
    Reply δ (List DomainEvent) :=
  if s.trains.contains id then
    let token := s.handoverToken id targetRegion
    { s with pendingHandovers := s.pendingHandovers.insert token ⟨id, targetRegion⟩ }.events
      [(s.now, .handoverRequested id token targetRegion)]
  else Reply.refuse s .unknownTrain

/-- Asks another region to take a train over and gives it the content of the handover, with
the resources that it is to reserve. -/
def prepareHandover (s : Simulation δ) (id : TrainRunId) (targetRegion : RegionId)
    (resources : List String) : Reply δ (HandoverEnvelope × List DomainEvent) :=
  match s.trains[id]? with
  | none => Reply.refuse s .unknownTrain
  | some train =>
    Reply.andThen (s.requestHandover id targetRegion) fun events t =>
      some (.ok (⟨s.worldId, s.regionId, targetRegion, s.handoverToken id targetRegion, train,
        resources⟩, events), t)

/-- The train of a handover as the target region takes it in: it arrives no earlier than now. -/
def takenOver (s : Simulation δ) (train : TrainRun) : Option TrainRun :=
  (train.route[train.nextWaypoint]?).map fun point =>
    { train with
      regionId := s.regionId
      worldId := s.worldId
      route := train.route.set train.nextWaypoint
        { point with arrival := max point.arrival s.now } }

/-- Takes a train over, reserves its resources and answers with the confirmation. -/
def acceptHandover (s : Simulation δ) (envelope : HandoverEnvelope) : Reply δ Command :=
  if envelope.worldId ≠ s.worldId then Reply.refuse s .wrongWorld
  else if envelope.targetRegion ≠ s.regionId then Reply.refuse s .wrongRegion
  else if envelope.resources.any fun resource => s.resourceOwners.contains resource then
    Reply.refuse s .resourceOccupied
  else
    (s.takenOver envelope.train).bind fun train =>
      Reply.andThen (s.materialize train) fun _ t =>
        some (.ok (.confirmHandover envelope.token s.regionId), { t with
          resourceOwners := Registry.fill t.resourceOwners envelope.resources envelope.train.id })

end Simulation

/-! ### A region and a train with two stops -/

namespace TwoStops

/-- A train from Leipzig to Halle. -/
def train (id : TrainRunId) : TrainRun where
  worldId := 42
  id := id
  regionId := 7
  operator := "Elbtalbahn"
  trainNumber := "RE"
  category := .regional
  route := [⟨"Leipzig Hbf", 10000, 100, 30, 130⟩, ⟨"Halle Hbf", 50000000, 3700, 30, 3730⟩]
  nextWaypoint := 0
  delaySeconds := 0
  positionMm := 0
  speedMmPerSecond := 0
  status := .planned

/-- A region of the world of the train, with a window of 48 hours and a dispatcher. -/
def region {δ : Type} (regionId : RegionId) (dispatcher : δ) : Simulation δ :=
  .new 42 regionId 0 ⟨48, by decide⟩ dispatcher

/-- The first region after commands. -/
def after (commands : List Command) : Simulation ConservativeDispatcher :=
  commands.foldl (fun s command => ((s.apply command).map Prod.snd).getD s)
    (region 7 .conservative)

end TwoStops

end Zugfolge.Sim
