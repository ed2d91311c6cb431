/-
Triggers and conditions of the rules of an operating program.

A rule waits for a trigger and then asks for facts.  Its condition is a tree of comparisons; all of
them are evaluated and recorded with their place in the tree, so that a decision can be explained.

* `Condition.holds`: whether the facts meet the condition;
* `Condition.evaluate_fst`: the evaluation finds exactly this.
-/
import Zugfolge.Sim.Command

namespace Zugfolge.Rules

open Zugfolge.Sim

/-- Why a program is refused. -/
inductive RuleError where
  | wrongSchema | invalidIdentity | emptyProgram
  | duplicateRule (id : String)
  | invalidRuleId (id : String)
  | invalidPriority (id : String)
  | invalidTrigger | conditionTooComplex | emptyConditionGroup | conditionTypeMismatch
  | serialization

/-! ### Triggers -/

/-- What a rule waits for. -/
inductive RuleTrigger where
  | delayThreshold (atLeastSeconds : Int)
  | connectionRisk | vehicleFailure | personnelDutyExceeded | routeClosure | platformChange
  | turnaroundShortfall | adHocPathConflict

namespace RuleTrigger

def dispatchTrigger : RuleTrigger → DispatchTrigger
  | .delayThreshold _ => .delayThreshold
  | .connectionRisk => .connectionRisk
  | .vehicleFailure => .vehicleFailure
  | .personnelDutyExceeded => .personnelDutyExceeded
  | .routeClosure => .routeClosure
  | .platformChange => .platformChange
  | .turnaroundShortfall => .turnaroundShortfall
  | .adHocPathConflict => .adHocPathConflict

/-- A delay has to be positive. -/
def validate : RuleTrigger → Except RuleError Unit
  | .delayThreshold atLeastSeconds => if atLeastSeconds ≤ 0 then .error .invalidTrigger else .ok ()
  | _ => .ok ()

/-- The trigger has occurred, and the facts bear it out. -/
def occurs (trigger : DispatchTrigger) (facts : DispatchFacts) : RuleTrigger → Bool
  | .delayThreshold atLeastSeconds =>
    trigger == .delayThreshold && atLeastSeconds ≤ facts.delaySeconds
  | .connectionRisk => trigger == .connectionRisk && facts.connectionThreatened
  | .vehicleFailure => trigger == .vehicleFailure && facts.vehicleFailed
  | .personnelDutyExceeded => trigger == .personnelDutyExceeded && 0 < facts.dutyExcessSeconds
  | .routeClosure => trigger == .routeClosure && facts.routeClosed
  | .platformChange => trigger == .platformChange && facts.platformChanged
  | .turnaroundShortfall =>
    trigger == .turnaroundShortfall && 0 < facts.turnaroundShortfallSeconds
  | .adHocPathConflict => trigger == .adHocPathConflict && facts.adhocConflict

/-- The trigger as it is written into an explanation. -/
def observed (trigger : DispatchTrigger) (facts : DispatchFacts) : RuleTrigger :=
  match trigger with
  | .delayThreshold => .delayThreshold facts.delaySeconds
  | .connectionRisk => .connectionRisk
  | .vehicleFailure => .vehicleFailure
  | .personnelDutyExceeded => .personnelDutyExceeded
  | .routeClosure => .routeClosure
  | .platformChange => .platformChange
  | .turnaroundShortfall => .turnaroundShortfall
  | .adHocPathConflict => .adHocPathConflict
  | .arrival | .departure => .delayThreshold 0

end RuleTrigger

/-! ### Facts -/

inductive ValueKind where
  | integer | boolean
  deriving DecidableEq

inductive FactValue where
  | integer (value : Int)
  | boolean (value : Bool)
  deriving DecidableEq

def FactValue.kind : FactValue → ValueKind
  | .integer _ => .integer
  | .boolean _ => .boolean

/-- A fact a condition can ask for. -/
inductive FactKey where
  | delaySeconds | connectionThreatened | vehicleFailed | dutyExcessSeconds | routeClosed
  | platformChanged | turnaroundShortfallSeconds | adHocConflict | affectedTrainRuns | costCents

def FactKey.valueKind : FactKey → ValueKind
  | .connectionThreatened | .vehicleFailed | .routeClosed | .platformChanged | .adHocConflict =>
    .boolean
  | .delaySeconds | .dutyExcessSeconds | .turnaroundShortfallSeconds | .affectedTrainRuns
  | .costCents => .integer

def FactKey.read (facts : DispatchFacts) : FactKey → FactValue
  | .delaySeconds => .integer facts.delaySeconds
  | .connectionThreatened => .boolean facts.connectionThreatened
  | .vehicleFailed => .boolean facts.vehicleFailed
  | .dutyExcessSeconds => .integer facts.dutyExcessSeconds
  | .routeClosed => .boolean facts.routeClosed
  | .platformChanged => .boolean facts.platformChanged
  | .turnaroundShortfallSeconds => .integer facts.turnaroundShortfallSeconds
  | .adHocConflict => .boolean facts.adhocConflict
  | .affectedTrainRuns => .integer facts.impact.affectedTrainRuns
  | .costCents => .integer facts.impact.costCents

/-- A comparison of a fact with a value. -/
inductive Comparison where
  | equal | notEqual | greaterOrEqual | lessOrEqual

/-- Compares a fact with what is expected. -/
def Comparison.evaluate : Comparison → FactValue → FactValue → Bool
  | .equal, left, right => left == right
  | .notEqual, left, right => left != right
  | .greaterOrEqual, .integer left, .integer right => right ≤ left
  | .lessOrEqual, .integer left, .integer right => left ≤ right
  | _, _, _ => false

/-! ### Conditions -/

inductive Condition where
  | all (children : List Condition)
  | any (children : List Condition)
  | not (child : Condition)
  | predicate (fact : FactKey) (comparison : Comparison) (value : FactValue)

/-- A comparison that was made, and where it stands in the tree. -/
structure ConditionCheck where
  path : String
  fact : FactKey
  comparison : Comparison
  expected : FactValue
  actual : FactValue
  matched : Bool

namespace Condition

/-- Counts a node of the tree. -/
def enter (depth nodes : ℕ) : Except RuleError ℕ :=
  let nodes := min (nodes + 1) (2 ^ 32 - 1)
  if 8 < depth || 64 < nodes then .error .conditionTooComplex else .ok nodes

mutual

/-- Checks a condition and counts its nodes. -/
def validate (depth nodes : ℕ) : Condition → Except RuleError ℕ
  | .all children | .any children => do
    let nodes ← enter depth nodes
    if children.isEmpty then .error .emptyConditionGroup
    else validateEach (min (depth + 1) 255) nodes children
  | .not child => do
    let nodes ← enter depth nodes
    validate (min (depth + 1) 255) nodes child
  | .predicate fact _ value => do
    let nodes ← enter depth nodes
    if fact.valueKind ≠ value.kind then .error .conditionTypeMismatch else .ok nodes

/-- Checks the children of a node one after another. -/
def validateEach (depth nodes : ℕ) : List Condition → Except RuleError ℕ
  | [] => .ok nodes
  | child :: children => do
    let nodes ← validate depth nodes child
    validateEach depth nodes children

end

mutual

/-- Evaluates a condition and records every comparison. -/
def evaluate (facts : DispatchFacts) (path : String) (checks : List ConditionCheck) :
    Condition → Bool × List ConditionCheck
  | .all children => evaluateEach facts path (· && ·) 0 (true, checks) children
  | .any children => evaluateEach facts path (· || ·) 0 (false, checks) children
  | .not child =>
    let (matched, checks) := evaluate facts (path ++ ".not") checks child
    (!matched, checks)
  | .predicate fact comparison value =>
    let actual := fact.read facts
    let matched := comparison.evaluate actual value
    (matched, checks ++ [{ path := path, fact := fact, comparison := comparison,
                           expected := value, actual := actual, matched := matched }])

/-- Evaluates the children of a node and joins the results; no child is left out. -/
def evaluateEach (facts : DispatchFacts) (path : String) (join : Bool → Bool → Bool)
    (index : ℕ) (found : Bool × List ConditionCheck) :
    List Condition → Bool × List ConditionCheck
  | [] => found
  | child :: children =>
    let (matched, checks) := evaluate facts (path ++ "." ++ toString index) found.2 child
    evaluateEach facts path join (index + 1) (join found.1 matched, checks) children

end

mutual

/-- The facts meet the condition. -/
def holds (facts : DispatchFacts) : Condition → Bool
  | .all children => allHold facts children
  | .any children => anyHolds facts children
  | .not child => !holds facts child
  | .predicate fact comparison value => comparison.evaluate (fact.read facts) value

/-- The facts meet all of the conditions. -/
def allHold (facts : DispatchFacts) : List Condition → Bool
  | [] => true
  | child :: children => holds facts child && allHold facts children

/-- The facts meet one of the conditions. -/
def anyHolds (facts : DispatchFacts) : List Condition → Bool
  | [] => false
  | child :: children => holds facts child || anyHolds facts children

end

mutual

/-- **The evaluation of a condition finds whether the facts meet it**, whatever it has recorded. -/
theorem evaluate_fst (facts : DispatchFacts) (path : String) (checks : List ConditionCheck) :
    (c : Condition) → (evaluate facts path checks c).1 = holds facts c
  | .all children => by
      rw [evaluate, holds, evaluateEach_all, Bool.true_and]
  | .any children => by
      rw [evaluate, holds, evaluateEach_any, Bool.false_or]
  | .not child => by
      rw [evaluate, holds, ← evaluate_fst facts (path ++ ".not") checks child]
  | .predicate fact comparison value => by
      rw [evaluate, holds]

/-- Under `all`, every child has to hold. -/
theorem evaluateEach_all (facts : DispatchFacts) (path : String) (index : ℕ)
    (found : Bool × List ConditionCheck) : (children : List Condition) →
    (evaluateEach facts path (· && ·) index found children).1 =
      (found.1 && allHold facts children)
  | [] => by rw [evaluateEach, allHold, Bool.and_true]
  | child :: children => by
      rw [evaluateEach, allHold, evaluateEach_all facts path (index + 1),
        ← evaluate_fst facts (path ++ "." ++ toString index) found.2 child, Bool.and_assoc]

/-- Under `any`, one child has to hold. -/
theorem evaluateEach_any (facts : DispatchFacts) (path : String) (index : ℕ)
    (found : Bool × List ConditionCheck) : (children : List Condition) →
    (evaluateEach facts path (· || ·) index found children).1 =
      (found.1 || anyHolds facts children)
  | [] => by rw [evaluateEach, anyHolds, Bool.or_false]
  | child :: children => by
      rw [evaluateEach, anyHolds, evaluateEach_any facts path (index + 1),
        ← evaluate_fst facts (path ++ "." ++ toString index) found.2 child, Bool.or_assoc]

end

end Condition

end Zugfolge.Rules
