/-
Decisions that are looked up again, and decisions by hand.

A backtest lets a program decide cases of the past one after another and fetches each explanation
from the log of the dispatcher.  A decision by hand is turned into an action of the rules and back.

* `backtest`: an answer, or `none` where it panics;
* `backtest_right_iff`: when exactly there is an entry for each case;
* `evaluate_override_iff`: when exactly a decision by hand stays as it is.
-/
import Zugfolge.Determinism.Hex
import Zugfolge.Rules.Dispatcher
import Zugfolge.Sim.Apply

namespace Zugfolge.Rules

open Foundation Determinism Sim

/-! ### Backtests -/

/-- A case of the past, and what was done. -/
structure HistoricalDispatchCase where
  train : TrainRun
  eventAt : SimTime
  trigger : DispatchTrigger
  facts : DispatchFacts
  actualAction : Option Action

/-- The case as a call of the dispatcher. -/
def HistoricalDispatchCase.call (case : HistoricalDispatchCase) : DispatchCall where
  train := case.train
  eventAt := case.eventAt
  trigger := case.trigger
  facts := case.facts

/-- What was done in a case, and what the program would have done. -/
structure BacktestEntry where
  decisionId : UInt64
  actualAction : Option Action
  hypotheticalAction : Option Action
  changed : Bool
  explanation : DecisionExplanation

structure BacktestResult where
  programVersion : ℕ
  sourceCaseCount : ℕ
  changedDecisions : ℕ
  entries : List BacktestEntry
  resultHash : String

def HistoricalDispatchCase.entry (case : HistoricalDispatchCase) (decision : DispatchDecision)
    (explanation : DecisionExplanation) : BacktestEntry where
  decisionId := case.facts.decisionId
  actualAction := case.actualAction
  hypotheticalAction := Action.fromDispatch decision
  changed := case.actualAction != Action.fromDispatch decision
  explanation := explanation

namespace RuleDispatcher

/-- Decides the cases one after another.  The explanation of a case is looked for where the log
ended before it; where nothing stands there this panics. -/
def backtestCases (d : RuleDispatcher) :
    List HistoricalDispatchCase → Option (List BacktestEntry × RuleDispatcher)
  | [] => some ([], d)
  | case :: cases => do
    let (decision, d') := d.decide case.call
    let explanation ← d'.decisions[d.decisions.length]?
    let (entries, final) ← d'.backtestCases cases
    some (case.entry decision explanation :: entries, final)

/-- The entry of a case that is evaluated on its own. -/
def alone (d : RuleDispatcher) (case : HistoricalDispatchCase) : BacktestEntry :=
  let (decision, explanation) := d.evaluate case.train.id case.eventAt case.trigger case.facts
  case.entry decision explanation

end RuleDispatcher

section Backtest

variable (json : OperatingProgram → Option String)
  (serialize : List BacktestEntry → Option (List UInt8))

/-- The hash of the text of the entries. -/
def resultHash (bytes : List UInt8) : Option StateHash := do
  let hasher ← StateHasher.new "dispatch-backtest/v1"
  let hasher ← hasher.bytes "entries" bytes
  hasher.finish

/-- What a program would have decided. -/
def backtest (program : OperatingProgram) (cases : List HistoricalDispatchCase) :
    Option (Except RuleError BacktestResult) :=
  match RuleDispatcher.new json program with
  | .error error => some (.error error)
  | .ok d => do
    let (entries, d) ← d.backtestCases cases
    match serialize entries with
    | none => some (.error .serialization)
    | some bytes =>
      let hash ← resultHash bytes
      some (.ok
        { programVersion := d.program.version
          sourceCaseCount := entries.length
          changedDecisions := entries.countP fun entry => entry.changed
          entries := entries
          resultHash := hash.toHex })

variable {json serialize}

/-- Where no case has the number zero, each entry is that of the case on its own. -/
lemma backtestCases_eq (d : RuleDispatcher) (cases : List HistoricalDispatchCase) :
    (d.backtestCases cases).map Prod.fst =
      if ∀ case ∈ cases, case.facts.decisionId ≠ 0 then some (cases.map d.alone) else none := by
  have halone : ∀ {d' : RuleDispatcher} (case : HistoricalDispatchCase), d'.program = d.program →
      d'.checksum = d.checksum → d'.alone case = d.alone case := by
    rintro ⟨_, _, _⟩ case rfl rfl
    rfl
  suffices hall : ∀ d' : RuleDispatcher, d'.program = d.program → d'.checksum = d.checksum →
      (d'.backtestCases cases).map Prod.fst =
        if ∀ case ∈ cases, case.facts.decisionId ≠ 0 then some (cases.map d.alone) else none from
    hall d rfl rfl
  induction cases with
  | nil => exact fun _ _ _ => rfl
  | cons case cases ih =>
    intro d' hprogram hchecksum
    by_cases hzero : case.facts.decisionId = 0
    · -- the decision is not logged, and nothing stands behind the end of the log
      rw [if_neg fun hnone => hnone case List.mem_cons_self hzero]
      simp [RuleDispatcher.backtestCases, RuleDispatcher.decide, HistoricalDispatchCase.call, hzero]
    · have hrest := ih (d'.decide case.call).2 (by
        simp [RuleDispatcher.decide, HistoricalDispatchCase.call, hzero, hprogram]) (by
        simp [RuleDispatcher.decide, HistoricalDispatchCase.call, hzero, hchecksum])
      have hlogged : (d'.decide case.call).2.decisions[d'.decisions.length]? =
          some (d'.evaluate case.train.id case.eventAt case.trigger case.facts).2 := by
        simp [RuleDispatcher.decide, HistoricalDispatchCase.call, hzero]
      have hentries : (d'.backtestCases (case :: cases)).map Prod.fst
          = ((d'.decide case.call).2.backtestCases cases).map fun rest =>
            d'.alone case :: rest.1 := by
        rw [RuleDispatcher.backtestCases]
        simp only [hlogged, Option.bind_eq_bind, Option.bind_some]
        cases (d'.decide case.call).2.backtestCases cases <;> rfl
      rw [hentries, halone case hprogram hchecksum,
        ← Function.comp_def (d.alone case :: ·) Prod.fst, ← Option.map_map, hrest]
      simp only [List.forall_mem_cons, ne_eq, hzero, not_false_eq_true, true_and]
      split <;> rfl

/-- The hash of the entries can be computed where their text is short enough. -/
lemma resultHash_isSome_iff {bytes : List UInt8} :
    (resultHash bytes).isSome = true ↔ bytes.length < 2 ^ 32 := by
  have hname : (utf8 "entries").length = 7 := by decide
  have hend : (utf8 "").length = 0 := by decide
  have hfinish : ∀ hasher : StateHasher, (hasher.finish).isSome = true := fun hasher => by
    simp [StateHasher.finish, StateHasher.close, StateHasher.writeEntry, hend]
  cases hnew : StateHasher.new "dispatch-backtest/v1" with
  | none => exact absurd (congrArg Option.isSome hnew) (by decide +kernel)
  | some hasher =>
    rw [resultHash, hnew, Option.bind_eq_bind, Option.bind_some, StateHasher.bytes,
      StateHasher.writeEntry, hname]
    split
    · rename_i hfits
      rw [Bool.and_eq_true, decide_eq_true_eq, decide_eq_true_eq] at hfits
      exact iff_of_true (hfinish _) hfits.2
    · rename_i hlong
      rw [Bool.and_eq_true, decide_eq_true_eq, decide_eq_true_eq] at hlong
      exact iff_of_false (by simp) fun hfits => hlong ⟨by decide, hfits⟩

/-- The backtest does not panic, and if the program is accepted, there is one entry for each case,
in their order, which is the one of the case on its own. -/
def BacktestRight (json : OperatingProgram → Option String)
    (serialize : List BacktestEntry → Option (List UInt8))
    (program : OperatingProgram) (cases : List HistoricalDispatchCase) : Prop :=
  ∃ answer, backtest json serialize program cases = some answer ∧
    ∀ d, RuleDispatcher.new json program = .ok d →
      ∃ result, answer = .ok result ∧ result.entries = cases.map d.alone

/-- **Backtests.**  A backtest is right exactly where the program is refused, or no case has the
number zero and the entries have a text of less than 4 GiB. -/
theorem backtest_right_iff {program : OperatingProgram} {cases : List HistoricalDispatchCase} :
    BacktestRight json serialize program cases ↔
      ∀ d, RuleDispatcher.new json program = .ok d →
        (∀ case ∈ cases, case.facts.decisionId ≠ 0) ∧
          (serialize (cases.map d.alone)).any fun bytes => decide (bytes.length < 2 ^ 32) := by
  rw [BacktestRight, backtest]
  cases RuleDispatcher.new json program with
  | error error => simp
  | ok d =>
    have hcases := backtestCases_eq d cases
    cases hrun : d.backtestCases cases with
    | none =>
      rw [hrun] at hcases
      split at hcases
      · cases hcases
      · rename_i hzero
        simp [hrun, hzero]
    | some run =>
      rw [hrun] at hcases
      split at hcases
      case isFalse => cases hcases
      rename_i hnumbered
      have hentries : run.1 = cases.map d.alone := Option.some.inj hcases
      simp only [hrun, Option.bind_eq_bind, Option.bind_some, hentries]
      cases hbytes : serialize (cases.map d.alone) with
      | none => simp [hbytes]
      | some bytes =>
        have hshort := @resultHash_isSome_iff bytes
        cases hhash : resultHash bytes with
        | none =>
          rw [hhash] at hshort
          refine iff_of_false ?_ fun hright => ?_
          · rintro ⟨answer, hanswer, -⟩
            simp only [hhash] at hanswer
            cases hanswer
          · obtain ⟨-, hlength⟩ := hright d rfl
            rw [hbytes, Option.any_some, decide_eq_true_eq] at hlength
            cases hshort.mpr hlength
        | some hash =>
          rw [hhash] at hshort
          have hlength := hshort.mp rfl
          simp only [hhash, Option.bind_some]
          refine iff_of_true ⟨_, rfl, fun d' hd' => ?_⟩ fun d' hd' => ?_
          · cases hd'
            exact ⟨_, rfl, rfl⟩
          · cases hd'
            rw [hbytes, Option.any_some]
            exact ⟨hnumbered, decide_eq_true hlength⟩

end Backtest

/-- A case without a number panics. -/
theorem unnumbered_panics : ¬ ∀ (json : OperatingProgram → Option String)
    (serialize : List BacktestEntry → Option (List UInt8))
    (program : OperatingProgram) (cases : List HistoricalDispatchCase),
    (backtest json serialize program cases).isSome = true := by
  intro hclaim
  have hpanics : (backtest (fun program => some program.schema) (fun _ => some [])
      RuleDispatcher.lateTrains
      [⟨Sim.TwoStops.train 1, 300, .delayThreshold, .neutral 0 0, none⟩]).isSome = false := by
    decide +kernel
  rw [hclaim] at hpanics
  cases hpanics

/-! ### Decisions by hand -/

lemma dispatch_fromDispatch {facts : DispatchFacts} {decision : DispatchDecision} {action : Action}
    (h : Action.fromDispatch decision = some action) : action.dispatch facts = decision ↔
      ∀ limit, decision = .holdUntil limit → limit = facts.holdUntil := by
  cases decision <;> cases h <;> simp [Action.dispatch, eq_comm]

/-- **Decisions by hand.**  A decision by hand that the dispatcher accepts is what it decides
exactly if it is no hold, or one until the time that the facts name. -/
theorem evaluate_override_iff {d : RuleDispatcher} {trainRunId : TrainRunId} {eventAt : SimTime}
    {trigger : DispatchTrigger} {facts : DispatchFacts} {override : DispatchDecision}
    (hoverride : facts.manualOverride = some override)
    (haccepted : (selectManual facts).action.isSome = true) :
    (d.evaluate trainRunId eventAt trigger facts).1 = override ↔
      ∀ limit, override = .holdUntil limit → limit = facts.holdUntil := by
  obtain ⟨action, haction⟩ := Option.isSome_iff_exists.mp haccepted
  have hselect : (d.select trigger facts).action = some action := by
    rw [RuleDispatcher.select, haction]
    exact haction
  have hfrom : Action.fromDispatch override = some action := by
    unfold selectManual at haction
    rw [hoverride, Option.bind_some] at haction
    cases hfrom : Action.fromDispatch override with
    | none => rw [hfrom] at haction; cases haction
    | some found =>
      rw [hfrom, Option.elim_some] at haction
      dsimp only at haction
      split at haction
      · exact haction
      · cases haction
  rw [← dispatch_fromDispatch hfrom, RuleDispatcher.evaluate]
  simp only [hselect, Option.elim_some]

def handFacts (limit : SimTime) : DispatchFacts :=
  { DispatchFacts.neutral 1 600 with
    manualOverride := some (.holdUntil limit), manualReason := some "Anschluss abwarten" }

/-- A hold until the time of the facts. -/
theorem evaluate_override_facts : (RuleDispatcher.evaluate ⟨RuleDispatcher.lateTrains, "", []⟩
    7 0 .connectionRisk (handFacts 600)).1 = .holdUntil 600 :=
  (evaluate_override_iff rfl (by decide +kernel)).mpr fun limit heq => by cases heq; rfl

/-- A hold until another time is one until the time of the facts. -/
theorem override_replaced : ¬ ∀ (d : RuleDispatcher) (facts : DispatchFacts)
    (override : DispatchDecision), facts.manualOverride = some override →
      (selectManual facts).action.isSome = true →
      (d.evaluate 7 0 .connectionRisk facts).1 = override := by
  intro hclaim
  have hheld := hclaim ⟨RuleDispatcher.lateTrains, "", []⟩ (handFacts 900) (.holdUntil 900) rfl
    (by decide +kernel)
  exact absurd hheld (by decide +kernel)

end Zugfolge.Rules
