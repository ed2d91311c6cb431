/-
What goes into the regional simulation and what comes out of it.

Commands are the only input and events the only output of a region.  A dispatcher decides
about every arrival and every departure, and about facts from outside.
-/
import Zugfolge.Foundation.Registry
import Zugfolge.Sim.Train

namespace Zugfolge.Sim

open Foundation
open Std (TransOrd LawfulEqOrd TransCmp)

/-! ### Dispatching -/

inductive DispatchDecision where
  | proceed
  | holdUntil (limit : SimTime)
  | breakConnection | skipStop | shortTurn | shortenTrain | strengthenTrain | cancel
  | activateReserveRotation | provideReplacementVehicle | requestReroute | returnPath
  | triggerRailReplacement
  deriving DecidableEq

/-- What calls for a decision. -/
inductive DispatchTrigger where
  | arrival | departure | delayThreshold | connectionRisk | vehicleFailure
  | personnelDutyExceeded | routeClosure | platformChange | turnaroundShortfall
  | adHocPathConflict
  deriving DecidableEq

/-- The limits of a decision, as other domains have checked them. -/
structure DispatchLimits where
  capacityAvailable : Bool
  trainCharacteristicsCompatible : Bool
  routeKnowledgeAvailable : Bool
  trainProtectionCompatible : Bool
  electrificationCompatible : Bool
  trainLengthAllowed : Bool
  vehicleAvailable : Bool
  maintenanceValid : Bool
  personnelQualified : Bool
  restTimeCompliant : Bool
  rotationFeasible : Bool
  contractAllows : Bool
  costWithinLimit : Bool

/-- Nothing stands against a decision. -/
def DispatchLimits.default : DispatchLimits :=
  ⟨true, true, true, true, true, true, true, true, true, true, true, true, true⟩

/-- What a measure would affect. -/
structure DispatchImpact where
  affectedTrainRuns : ℕ
  affectedConnections : ℕ
  affectedRotations : ℕ
  affectedPersonnelPools : ℕ
  affectedVehicles : ℕ
  costCents : Int
  contractPenaltyCents : Int
  cancelledStops : ℕ
  cause : String
  affectedResource : String
  contractEffect : String

/-- No effect. -/
def DispatchImpact.default : DispatchImpact := ⟨0, 0, 0, 0, 0, 0, 0, 0, "", "", ""⟩

/-- The facts behind a decision. -/
structure DispatchFacts where
  decisionId : UInt64
  delaySeconds : Int
  connectionThreatened : Bool
  vehicleFailed : Bool
  dutyExcessSeconds : ℕ
  routeClosed : Bool
  platformChanged : Bool
  turnaroundShortfallSeconds : ℕ
  adhocConflict : Bool
  holdUntil : SimTime
  limits : DispatchLimits
  impact : DispatchImpact
  manualOverride : Option DispatchDecision
  manualReason : Option String

/-- The facts of an arrival or a departure. -/
def DispatchFacts.neutral (decisionId : UInt64) (time : SimTime) : DispatchFacts where
  decisionId := decisionId
  delaySeconds := 0
  connectionThreatened := false
  vehicleFailed := false
  dutyExcessSeconds := 0
  routeClosed := false
  platformChanged := false
  turnaroundShortfallSeconds := 0
  adhocConflict := false
  holdUntil := time
  limits := .default
  impact := .default
  manualOverride := none
  manualReason := none

/-- A dispatcher with a state of its own; `none` where it does not return. -/
class Dispatcher (δ : Type) where
  decide : δ → TrainRun → SimTime → DispatchTrigger → DispatchFacts →
    Option (DispatchDecision × δ)

/-- The dispatcher that lets no train leave early and else lets it go on. -/
inductive ConservativeDispatcher where
  | conservative

instance : Dispatcher ConservativeDispatcher where
  decide dispatcher train time _ _ :=
    (train.route[train.nextWaypoint]?).bind fun waypoint =>
      (addChecked64 waypoint.departure (max train.delaySeconds 0)).map fun departure =>
        (.holdUntil (max time departure), dispatcher)

/-! ### Commands and events -/

/-- The effect of a disruption on trains. -/
structure DisruptionApplication where
  disruptionId : String
  affectedTrainRunIds : List TrainRunId
  delaySeconds : ℕ
  causeCode : ℕ
  fineCauseId : String
  affectedResource : String
  effect : String
  planned : Bool
  deriving DecidableEq

inductive Command where
  | materialize (train : TrainRun)
  | advanceTo (target : SimTime)
  | addDelay (trainRunId : TrainRunId) (seconds : ℕ)
  | applyDisruption (application : DisruptionApplication)
  | confirmHandover (token : UInt64) (targetRegion : RegionId)
  | dispatch (trainRunId : TrainRunId) (time : SimTime) (trigger : DispatchTrigger)
      (facts : DispatchFacts)

/-- What has happened. -/
inductive EventKind where
  | materialized (trainRunId : TrainRunId)
  | arrived (trainRunId : TrainRunId) (operatingPoint : String)
  | departed (trainRunId : TrainRunId) (operatingPoint : String)
  | delayChanged (trainRunId : TrainRunId) (delaySeconds : Int)
  | handoverRequested (trainRunId : TrainRunId) (token : UInt64) (targetRegion : RegionId)
  | handoverCompleted (trainRunId : TrainRunId) (token : UInt64) (targetRegion : RegionId)
  | completed (trainRunId : TrainRunId)
  | dispatchApplied (trainRunId : TrainRunId) (decisionId : UInt64) (trigger : DispatchTrigger)
      (decision : DispatchDecision)
  | disruptionApplied (application : DisruptionApplication)
  deriving DecidableEq

/-- An event of a world with its number. -/
structure DomainEvent where
  worldId : WorldId
  sequence : ℕ
  time : SimTime
  kind : EventKind
  deriving DecidableEq

/-! ### Trains between two regions -/

/-- A handover that the target region has not confirmed yet. -/
structure PendingHandover where
  trainRunId : TrainRunId
  targetRegion : RegionId
  deriving DecidableEq

structure HandoverEnvelope where
  worldId : WorldId
  sourceRegion : RegionId
  targetRegion : RegionId
  token : UInt64
  train : TrainRun
  /-- What the target region reserves before it confirms. -/
  resources : List String
  deriving DecidableEq

/-! ### Keys of the maps of a region -/

/-- A waypoint of a train. -/
structure StopKey where
  trainRunId : TrainRunId
  waypoint : ℕ

instance : Ord StopKey where
  compare := compareLex (compareOn StopKey.trainRunId) (compareOn StopKey.waypoint)

instance : TransOrd StopKey :=
  inferInstanceAs (TransCmp (compareLex (compareOn StopKey.trainRunId)
    (compareOn StopKey.waypoint)))

/-! ### The queue -/

/-- What is scheduled at a waypoint. -/
inductive ScheduledKind where
  | arrive | depart
  deriving DecidableEq

/-- The place of a kind in the order, and its number in the fingerprint. -/
def ScheduledKind.code : ScheduledKind → ℕ
  | .arrive => 0
  | .depart => 1

/-- What a train in a status waits for. -/
def OperatingStatus.waitsFor : OperatingStatus → Option ScheduledKind
  | .planned | .running => some .arrive
  | .atPlatform | .waiting => some .depart
  | .completed | .cancelled => none

/-- An entry of the queue. -/
structure ScheduledEvent where
  time : SimTime
  trainRunId : TrainRunId
  waypoint : ℕ
  kind : ScheduledKind
  deriving DecidableEq

namespace ScheduledEvent

/-- The order of the queue: by time, train, waypoint and kind. -/
def order : ScheduledEvent → ScheduledEvent → Ordering :=
  compareLex (compareOn ScheduledEvent.time)
    (compareLex (compareOn ScheduledEvent.trainRunId)
      (compareLex (compareOn ScheduledEvent.waypoint)
        (compareOn fun event => event.kind.code)))

instance : Ord ScheduledEvent where
  compare := order

instance : TransOrd ScheduledEvent :=
  inferInstanceAs (TransCmp (compareLex (compareOn ScheduledEvent.time)
    (compareLex (compareOn ScheduledEvent.trainRunId)
      (compareLex (compareOn ScheduledEvent.waypoint)
        (compareOn fun event => event.kind.code)))))

instance : LawfulEqOrd ScheduledEvent where
  eq_of_compare {a b} h := by
    have h' : order a b = .eq := h
    simp only [order, compareLex_eq_eq, compareOn, Std.compare_eq_iff_eq] at h'
    obtain ⟨htime, htrain, hwaypoint, hkind⟩ := h'
    cases a with
    | mk time train waypoint kind =>
      cases b with
      | mk time' train' waypoint' kind' =>
        simp only at htime htrain hwaypoint hkind
        obtain rfl : kind = kind' := by
          cases kind <;> cases kind' <;> simp_all [ScheduledKind.code]
        rw [htime, htrain, hwaypoint]

lemma time_le_of_order {a b : ScheduledEvent} (h : (order a b).isLE = true) :
    a.time ≤ b.time := by
  have hfirst : (compare a.time b.time).isLE = true := by
    simp only [order, compareLex, compareOn] at h
    cases hcmp : compare a.time b.time with
    | lt => rfl
    | eq => rfl
    | gt =>
      rw [hcmp] at h
      cases h
  exact Std.isLE_compare.mp hfirst

lemma not_order_depart_arrive {a b : ScheduledEvent} (hid : a.trainRunId = b.trainRunId)
    (hwaypoint : a.waypoint = b.waypoint) (hdepart : a.kind = .depart) (harrive : b.kind = .arrive)
    (hlate : b.time ≤ a.time) : (order a b).isLE = false := by
  rw [Bool.eq_false_iff]
  intro h
  have htime : a.time = b.time := le_antisymm (time_le_of_order h) hlate
  have hcode : compare (ScheduledKind.code .depart) (ScheduledKind.code .arrive) = .gt := rfl
  simp [order, compareLex, compareOn, hid, hwaypoint, hdepart, harrive, htime, hcode] at h

end ScheduledEvent

end Zugfolge.Sim
