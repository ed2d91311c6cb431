/-
Actions of the rules and the limits they have to keep.

Every action needs some of the limits that other domains have checked.  The list of them is fixed
for each action.
-/
import Zugfolge.Sim.Command

namespace Zugfolge.Rules

open Zugfolge.Sim

/-! ### Actions -/

/-- A measure that a rule can choose. -/
inductive Action where
  | holdConnection | breakConnection | skipStop | shortTurn | shortenTrain | strengthenTrain
  | cancelRun | activateReserveRotation | provideReplacementVehicle | requestReroute | returnPath
  | triggerRailReplacement
  deriving DecidableEq

namespace Action

/-- The action as a decision of the simulation. -/
def dispatch (facts : DispatchFacts) : Action → DispatchDecision
  | .holdConnection => .holdUntil facts.holdUntil
  | .breakConnection => .breakConnection
  | .skipStop => .skipStop
  | .shortTurn => .shortTurn
  | .shortenTrain => .shortenTrain
  | .strengthenTrain => .strengthenTrain
  | .cancelRun => .cancel
  | .activateReserveRotation => .activateReserveRotation
  | .provideReplacementVehicle => .provideReplacementVehicle
  | .requestReroute => .requestReroute
  | .returnPath => .returnPath
  | .triggerRailReplacement => .triggerRailReplacement

/-- The action behind a decision; going on is none. -/
def fromDispatch : DispatchDecision → Option Action
  | .proceed => none
  | .holdUntil _ => some .holdConnection
  | .breakConnection => some .breakConnection
  | .skipStop => some .skipStop
  | .shortTurn => some .shortTurn
  | .shortenTrain => some .shortenTrain
  | .strengthenTrain => some .strengthenTrain
  | .cancel => some .cancelRun
  | .activateReserveRotation => some .activateReserveRotation
  | .provideReplacementVehicle => some .provideReplacementVehicle
  | .requestReroute => some .requestReroute
  | .returnPath => some .returnPath
  | .triggerRailReplacement => some .triggerRailReplacement

end Action

/-! ### Limits -/

/-- A limit that other domains check. -/
inductive LimitKind where
  | capacity | trainCharacteristics | routeKnowledge | trainProtection | electrification
  | trainLength | vehicleAvailability | maintenance | personnelQualification | restTime | rotation
  | contract | cost

/-- The limits that an action has to keep. -/
def requiredLimits : Action → List LimitKind
  | .holdConnection | .breakConnection => [.capacity, .rotation, .contract, .cost]
  | .skipStop | .shortTurn | .cancelRun | .returnPath | .triggerRailReplacement =>
    [.capacity, .rotation, .personnelQualification, .restTime, .contract, .cost]
  | .shortenTrain | .strengthenTrain =>
    [.capacity, .trainCharacteristics, .trainLength, .vehicleAvailability, .maintenance,
      .personnelQualification, .restTime, .rotation, .contract, .cost]
  | .activateReserveRotation | .provideReplacementVehicle =>
    [.capacity, .trainCharacteristics, .trainProtection, .electrification, .trainLength,
      .vehicleAvailability, .maintenance, .personnelQualification, .restTime, .rotation,
      .contract, .cost]
  | .requestReroute =>
    [.capacity, .trainCharacteristics, .routeKnowledge, .trainProtection, .electrification,
      .trainLength, .vehicleAvailability, .maintenance, .personnelQualification, .restTime,
      .rotation, .contract, .cost]

/-- Whether a limit is kept. -/
def checkLimit (limits : DispatchLimits) : LimitKind → Bool
  | .capacity => limits.capacityAvailable
  | .trainCharacteristics => limits.trainCharacteristicsCompatible
  | .routeKnowledge => limits.routeKnowledgeAvailable
  | .trainProtection => limits.trainProtectionCompatible
  | .electrification => limits.electrificationCompatible
  | .trainLength => limits.trainLengthAllowed
  | .vehicleAvailability => limits.vehicleAvailable
  | .maintenance => limits.maintenanceValid
  | .personnelQualification => limits.personnelQualified
  | .restTime => limits.restTimeCompliant
  | .rotation => limits.rotationFeasible
  | .contract => limits.contractAllows
  | .cost => limits.costWithinLimit

/-- The text for the result of a limit. -/
def limitReason (kind : LimitKind) (accepted : Bool) : String :=
  let name := match kind with
    | .capacity => "Konfliktfreiheit und Kapazität"
    | .trainCharacteristics => "Zugcharakteristik"
    | .routeKnowledge => "Streckenkenntnis"
    | .trainProtection => "Zugsicherung"
    | .electrification => "Elektrifizierung"
    | .trainLength => "zulässige Zuglänge"
    | .vehicleAvailability => "Fahrzeugverfügbarkeit"
    | .maintenance => "Fahrzeugfrist"
    | .personnelQualification => "Personalqualifikation"
    | .restTime => "Personalruhezeit"
    | .rotation => "Umlauf"
    | .contract => "Verkehrsvertrag"
    | .cost => "Kostenrahmen des gepinnten EconomyRelease"
  name ++ ": " ++ if accepted then "zulässig" else "nicht zulässig"

structure LimitCheck where
  kind : LimitKind
  accepted : Bool
  reason : String

/-- The limits of an action with their results. -/
def evaluateLimits (action : Action) (limits : DispatchLimits) : List LimitCheck :=
  (requiredLimits action).map fun kind =>
    let accepted := checkLimit limits kind
    { kind := kind, accepted := accepted, reason := limitReason kind accepted }

/-- An action keeps all limits that it needs. -/
def Action.KeepsLimits (limits : DispatchLimits) (action : Action) : Prop :=
  ∀ kind ∈ requiredLimits action, checkLimit limits kind = true

/-- All results are good exactly if the action keeps its limits. -/
lemma evaluateLimits_all {action : Action} {limits : DispatchLimits} :
    ((evaluateLimits action limits).all fun check => check.accepted) = true ↔
      action.KeepsLimits limits := by
  rw [evaluateLimits, List.all_map, List.all_eq_true]
  exact Iff.rfl

end Zugfolge.Rules
