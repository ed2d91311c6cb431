/-
Trains of the regional simulation.

A train run is a route of waypoints with planned times, and how far the train has come on it.
All times are seconds and all positions millimetres.
-/
import Zugfolge.Foundation.Machine

namespace Zugfolge.Sim

open Foundation

abbrev WorldId : Type := UInt64

abbrev RegionId : Type := UInt32

abbrev TrainRunId : Type := UInt64

/-- Seconds since the epoch of the world. -/
abbrev SimTime : Type := Int

inductive SimError where
  | invalidWindow | invalidRoute | wrongWorld | wrongRegion | outsideWindow | duplicateTrain
  | unknownTrain | timeReversal | unknownHandover | sequenceGap | resourceOccupied
  | invalidDisruption | invalidExternalLeg | externalTrainNotReady
  deriving DecidableEq

/-- The window of the trains that exist in full: 48 to 72 hours. -/
structure MaterializationWindow where
  hours : ℕ
  bounds : 48 ≤ hours ∧ hours ≤ 72

namespace MaterializationWindow

/-- A window of so many hours. -/
def new (hours : ℕ) : Except SimError MaterializationWindow :=
  if h : 48 ≤ hours ∧ hours ≤ 72 then .ok ⟨hours, h⟩ else .error .invalidWindow

/-- The length of the window in seconds. -/
def seconds (window : MaterializationWindow) : SimTime := window.hours * 3600

end MaterializationWindow

/-- The state of a train run that the public sees. -/
inductive OperatingStatus where
  | planned | running | waiting | atPlatform | completed | cancelled
  deriving DecidableEq

/-- The train run is over. -/
def OperatingStatus.over : OperatingStatus → Bool
  | .completed | .cancelled => true
  | .planned | .running | .waiting | .atPlatform => false

/-- The number of a status in the fingerprint. -/
def OperatingStatus.code : OperatingStatus → ℕ
  | .planned => 0
  | .running => 1
  | .waiting => 2
  | .atPlatform => 3
  | .completed => 4
  | .cancelled => 5

inductive TrainCategory where
  | regional | longDistance | freight | emptyStock | engineering
  deriving DecidableEq

/-- A point of the route. -/
structure Waypoint where
  operatingPoint : String
  positionMm : Int
  arrival : SimTime
  /-- The least stop in seconds, a number of 32 bits. -/
  minimumDwellSeconds : ℕ
  departure : SimTime
  deriving DecidableEq

structure TrainRun where
  worldId : WorldId
  id : TrainRunId
  regionId : RegionId
  operator : String
  trainNumber : String
  category : TrainCategory
  route : List Waypoint
  nextWaypoint : ℕ
  delaySeconds : Int
  positionMm : Int
  speedMmPerSecond : ℕ
  status : OperatingStatus
  deriving DecidableEq

namespace TrainRun

/-- The two waypoints do not follow each other in place and time. -/
def outOfOrder (pair : Waypoint × Waypoint) : Bool :=
  decide (pair.2.positionMm < pair.1.positionMm) || decide (pair.2.arrival < pair.1.departure)

/-- The next waypoint lies on the route, and the route is monotone. -/
def validate (train : TrainRun) : Except SimError Unit :=
  if train.route = [] ∨ train.route.length ≤ train.nextWaypoint then .error .invalidRoute
  else if (train.route.zip train.route.tail).any outOfOrder then .error .invalidRoute
  else .ok ()

lemma lt_length_of_validate {train : TrainRun} (h : train.validate = .ok ()) :
    train.nextWaypoint < train.route.length := by
  rw [validate] at h
  split at h
  · cases h
  next hin => omega

end TrainRun

/-! ### Delays -/

/-- A number of 64 bits as one of 32 bits: the greatest one if it does not fit. -/
def toU32 (value : Int) : ℕ :=
  if 0 ≤ value ∧ value ≤ (u32Max : Int) then value.toNat else u32Max

/-- How a stop takes up a delay. -/
structure DelayRule where
  recoverySeconds : ℕ
  connectionArrivalDelaySeconds : Option ℕ
  maximumConnectionWaitSeconds : ℕ

/-- The delay behind a stop: reserves lower it, a connection that is kept raises it. -/
def propagateDelay (incoming recovery scheduledDwell minimumDwell : ℕ)
    (connectionArrivalDelay : Option ℕ) (maximumConnectionWait : ℕ) : ℕ :=
  let dwellResistance := scheduledDwell - minimumDwell
  let afterResistance := incoming - recovery - dwellResistance
  let connectionWait := min (connectionArrivalDelay.getD 0) maximumConnectionWait
  max afterResistance connectionWait

/-- The delay that a rule makes of the delay of a train at a waypoint. -/
def DelayRule.delayAt (rule : DelayRule) (waypoint : Waypoint) (delaySeconds : Int) : Int :=
  propagateDelay (toU32 (max delaySeconds 0)) rule.recoverySeconds
    (toU32 (subSat64 waypoint.departure waypoint.arrival)) waypoint.minimumDwellSeconds
    rule.connectionArrivalDelaySeconds rule.maximumConnectionWaitSeconds

/-! ### Between two waypoints -/

/-- Where and when the train has started on the way to its next waypoint. -/
def legStart (train : TrainRun) : Option (Int × SimTime) :=
  if train.nextWaypoint = 0 then some (0, 0)
  else
    (train.route[train.nextWaypoint - 1]?).bind fun previous =>
      (addChecked64 previous.departure train.delaySeconds).map fun time =>
        (previous.positionMm, time)

/-- Places a running train between two waypoints; `none` where the sum of two times leaves
the 64 bits. -/
def interpolate (train : TrainRun) (time : SimTime) : Option TrainRun :=
  (train.route[train.nextWaypoint]?).bind fun next =>
    (legStart train).bind fun start =>
      (addChecked64 next.arrival train.delaySeconds).map fun endTime =>
        let duration := max (subSat64 endTime start.2) 1
        let elapsed := min duration (max 0 (subSat64 time start.2))
        let distance := subSat64 next.positionMm start.1
        { train with
          positionMm := addSat64 start.1 ((mulSat64 distance elapsed).tdiv duration)
          speedMmPerSecond := toU32 (distance.tdiv duration)
          status := .running }

lemma interpolate_spec {train placed : TrainRun} {time : SimTime}
    (h : interpolate train time = some placed) :
    ∃ position speed, placed = { train with
      positionMm := position, speedMmPerSecond := speed, status := .running } := by
  obtain ⟨next, -, h⟩ := Option.bind_eq_some_iff.mp h
  obtain ⟨start, -, h⟩ := Option.bind_eq_some_iff.mp h
  obtain ⟨endTime, -, rfl⟩ := Option.map_eq_some_iff.mp h
  exact ⟨_, _, rfl⟩

end Zugfolge.Sim
