/-
The dispatcher that decides by rules.

An admissible manual decision goes first.  Else the rules of the program are tried in their order:
the first one that is enabled, whose trigger has occurred, whose condition holds and whose action
keeps its limits decides.  Everything that was compared and refused goes into the explanation.

* `RuleDispatcher.evaluate_selects`: what a selected action and a selected rule satisfy;
* `RuleDispatcher.run_perm`: dispatchers for programs with the same rules cannot be told apart.
-/
import Zugfolge.Rules.Program

namespace Zugfolge.Rules

open Foundation
open Zugfolge.Sim

/-! ### Explanations -/

/-- An action that was refused, and why. -/
structure RejectedAlternative where
  ruleId : Option String
  action : Action
  reason : String
  limits : List LimitCheck
  manual : Bool

structure DecisionExplanation where
  decisionId : UInt64
  worldId : String
  operatorId : String
  trainRunId : TrainRunId
  eventAt : SimTime
  programVersion : ℕ
  programChecksum : String
  trigger : RuleTrigger
  selectedRuleId : Option String
  selectedAction : Option Action
  conditions : List ConditionCheck
  limits : List LimitCheck
  rejectedAlternatives : List RejectedAlternative
  manualOverride : Bool
  manualReason : Option String
  outcomeReason : String
  impact : DispatchImpact

/-! ### Trying the rules -/

/-- What has been selected, compared and refused so far. -/
structure Selection where
  ruleId : Option String
  action : Option Action
  conditions : List ConditionCheck
  limits : List LimitCheck
  rejected : List RejectedAlternative

/-- Nothing yet. -/
def Selection.none : Selection := ⟨.none, .none, [], [], []⟩

/-- The length of the reason of a manual decision. -/
def manualReasonValid (facts : DispatchFacts) : Bool :=
  facts.manualReason.any fun reason =>
    8 ≤ (Text.trim reason).utf8ByteSize && (Text.trim reason).utf8ByteSize ≤ 500

/-- Tries the manual decision, if there is one. -/
def selectManual (facts : DispatchFacts) : Selection :=
  (facts.manualOverride.bind Action.fromDispatch).elim .none fun action =>
    let limits := evaluateLimits action facts.limits
    if manualReasonValid facts && limits.all fun check => check.accepted then
      { Selection.none with action := some action, limits := limits }
    else
      { Selection.none with
        rejected := [{
          ruleId := .none
          action := action
          reason :=
            if manualReasonValid facts then
              "Manueller Einzelfall-Override verletzt mindestens eine betriebliche Grenze."
            else "Manueller Einzelfall-Override braucht eine Begründung mit 8 bis 500 Zeichen."
          limits := limits
          manual := true }] }

/-- Tries rules in their order until one decides. -/
def selectRule (trigger : DispatchTrigger) (facts : DispatchFacts) (s : Selection) :
    List OperatingRule → Selection
  | [] => s
  | rule :: rules =>
    if !rule.enabled || !rule.trigger.occurs trigger facts then
      selectRule trigger facts s rules
    else
      let (matched, checks) := rule.condition.evaluate facts "root" []
      let s := { s with conditions := s.conditions ++ checks }
      if !matched then selectRule trigger facts s rules
      else
        let limits := evaluateLimits rule.action facts.limits
        if limits.all fun check => check.accepted then
          { s with ruleId := some rule.id, action := some rule.action, limits := limits }
        else
          selectRule trigger facts
            { s with
              rejected := s.rejected ++ [{
                ruleId := some rule.id
                action := rule.action
                reason :=
                  "Maßnahme wurde wegen einer konkreten betrieblichen Grenze verworfen."
                limits := limits
                manual := false }] }
            rules

/-! ### The dispatcher -/

/-- A dispatcher: the program in order, its checksum and the log of the decisions. -/
structure RuleDispatcher where
  program : OperatingProgram
  checksum : String
  decisions : List DecisionExplanation

/-- A case that calls for a decision. -/
structure DispatchCall where
  train : TrainRun
  eventAt : SimTime
  trigger : DispatchTrigger
  facts : DispatchFacts

namespace RuleDispatcher

section New

variable (json : OperatingProgram → Option String)

/-- A dispatcher for a program. -/
def new (program : OperatingProgram) : Except RuleError RuleDispatcher := do
  let program ← program.canonicalized
  let checksum ← program.checksum json
  return { program := program, checksum := checksum, decisions := [] }

end New

/-- What the dispatcher selects for some facts. -/
def select (d : RuleDispatcher) (trigger : DispatchTrigger) (facts : DispatchFacts) : Selection :=
  let manual := selectManual facts
  if manual.action.isNone && d.program.enabled then
    selectRule trigger facts manual d.program.rules
  else manual

/-- The decision where nothing was selected. -/
def fallback : DispatchTrigger → DispatchDecision
  | .arrival | .departure => .proceed
  | _ => .cancel

/-- Evaluates a case: the decision and its explanation. -/
def evaluate (d : RuleDispatcher) (trainRunId : TrainRunId) (eventAt : SimTime)
    (trigger : DispatchTrigger) (facts : DispatchFacts) : DispatchDecision × DecisionExplanation :=
  let s := d.select trigger facts
  let decision := s.action.elim (fallback trigger) (Action.dispatch facts)
  let manualOverride := facts.manualOverride.isSome && s.ruleId.isNone && s.action.isSome
  let outcomeReason :=
    if s.action.isNone then
      "Keine zulässige Regel; sicherer konservativer Ausgang wurde gewählt."
    else if manualOverride then
      "Autorisierter Einzelfall-Override bestand dieselben Grenzen wie die Regelentscheidung."
    else "Höchste passende, zulässige Regel nach stabiler Priorität gewählt."
  (decision,
    { decisionId := facts.decisionId
      worldId := d.program.worldId
      operatorId := d.program.operatorId
      trainRunId := trainRunId
      eventAt := eventAt
      programVersion := d.program.version
      programChecksum := d.checksum
      trigger := RuleTrigger.observed trigger facts
      selectedRuleId := s.ruleId
      selectedAction := s.action
      conditions := s.conditions
      limits := s.limits
      rejectedAlternatives := s.rejected
      manualOverride := manualOverride
      manualReason := facts.manualReason
      outcomeReason := outcomeReason
      impact := facts.impact })

/-- Decides a case.  A decision with a number goes into the log. -/
def decide (d : RuleDispatcher) (call : DispatchCall) : DispatchDecision × RuleDispatcher :=
  let (decision, explanation) := d.evaluate call.train.id call.eventAt call.trigger call.facts
  (decision,
    if call.facts.decisionId ≠ 0 then { d with decisions := d.decisions ++ [explanation] } else d)

/-- Decides one case after another: the decisions with their explanations, and the dispatcher
with its log. -/
def run (d : RuleDispatcher) :
    List DispatchCall → List (DispatchDecision × DecisionExplanation) × RuleDispatcher
  | [] => ([], d)
  | call :: calls =>
    let answer := d.evaluate call.train.id call.eventAt call.trigger call.facts
    let (answers, final) := (d.decide call).2.run calls
    (answer :: answers, final)

end RuleDispatcher

/-- The rules as the dispatcher of a region. -/
instance : Dispatcher RuleDispatcher where
  decide d train time trigger facts :=
    some (d.decide { train := train, eventAt := time, trigger := trigger, facts := facts })

/-! ### What is selected -/

/-- A rule is admissible: it is enabled, its trigger has occurred, its condition holds and its
action keeps its limits. -/
structure OperatingRule.Qualifies (trigger : DispatchTrigger) (facts : DispatchFacts)
    (rule : OperatingRule) : Prop where
  enabled : rule.enabled = true
  occurs : rule.trigger.occurs trigger facts = true
  holds : rule.condition.holds facts = true
  keeps : rule.action.KeepsLimits facts.limits

/-- What has been selected by a rule among some. -/
def Selection.ByRule (s : Selection) (trigger : DispatchTrigger) (facts : DispatchFacts)
    (rules : List OperatingRule) : Prop :=
  ∃ earlier rule later, rules = earlier ++ rule :: later ∧ rule.Qualifies trigger facts ∧
    (∀ other ∈ earlier, ¬ other.Qualifies trigger facts) ∧
    s.ruleId = some rule.id ∧ s.action = some rule.action

lemma Selection.ByRule.cons {s : Selection} {trigger : DispatchTrigger} {facts : DispatchFacts}
    {rule : OperatingRule} {rules : List OperatingRule} (hnot : ¬ rule.Qualifies trigger facts)
    (h : s.ByRule trigger facts rules) : s.ByRule trigger facts (rule :: rules) := by
  obtain ⟨earlier, chosen, later, heq, hqualifies, hbefore, hid, haction⟩ := h
  exact ⟨rule :: earlier, chosen, later, by rw [heq]; rfl, hqualifies,
    List.forall_mem_cons.mpr ⟨hnot, hbefore⟩, hid, haction⟩

/-- The rules that are tried select the first admissible one, or leave what was selected. -/
lemma selectRule_selected (trigger : DispatchTrigger) (facts : DispatchFacts) (s : Selection)
    (rules : List OperatingRule) :
    (selectRule trigger facts s rules).ByRule trigger facts rules ∨
      ((∀ rule ∈ rules, ¬ rule.Qualifies trigger facts) ∧
        (selectRule trigger facts s rules).ruleId = s.ruleId ∧
        (selectRule trigger facts s rules).action = s.action) := by
  induction rules generalizing s with
  | nil => exact .inr ⟨List.forall_mem_nil _, rfl, rfl⟩
  | cons rule rules ih =>
    -- a rule that is passed over
    have hpass : ∀ next : Selection, ¬ rule.Qualifies trigger facts → next.ruleId = s.ruleId →
        next.action = s.action → selectRule trigger facts s (rule :: rules) =
          selectRule trigger facts next rules →
        (selectRule trigger facts s (rule :: rules)).ByRule trigger facts (rule :: rules) ∨
          ((∀ other ∈ rule :: rules, ¬ other.Qualifies trigger facts) ∧
            (selectRule trigger facts s (rule :: rules)).ruleId = s.ruleId ∧
            (selectRule trigger facts s (rule :: rules)).action = s.action) := by
      intro next hnot hid haction heq
      rw [heq]
      rcases ih next with hby | ⟨hnone, hid', haction'⟩
      · exact .inl (hby.cons hnot)
      · exact .inr ⟨List.forall_mem_cons.mpr ⟨hnot, hnone⟩, hid'.trans hid,
          haction'.trans haction⟩
    by_cases hcalled : (!rule.enabled || !rule.trigger.occurs trigger facts) = true
    · refine hpass s ?_ rfl rfl (by rw [selectRule, if_pos hcalled])
      intro hq
      simp [hq.enabled, hq.occurs] at hcalled
    have hevaluated := rule.condition.evaluate_fst facts "root" []
    cases hmatched : rule.condition.holds facts with
    | false =>
      refine hpass { s with
        conditions := s.conditions ++ (rule.condition.evaluate facts "root" []).2 }
        (fun hq => ?_) rfl rfl ?_
      · rw [hq.holds] at hmatched
        cases hmatched
      · rw [selectRule, if_neg hcalled]
        simp [hevaluated, hmatched]
    | true =>
      by_cases hkeeps : rule.action.KeepsLimits facts.limits
      · refine .inl ⟨[], rule, rules, rfl, ?_, List.forall_mem_nil _, ?_⟩
        · rw [Bool.or_eq_true, not_or, Bool.not_eq_true', Bool.not_eq_false,
            Bool.not_eq_true', Bool.not_eq_false] at hcalled
          exact ⟨hcalled.1, hcalled.2, hmatched, hkeeps⟩
        · rw [selectRule, if_neg hcalled]
          simp [hevaluated, hmatched, evaluateLimits_all.mpr hkeeps]
      · have hrefused : (evaluateLimits rule.action facts.limits).all
            (fun check => check.accepted) = false :=
          Bool.eq_false_iff.mpr fun hall => hkeeps (evaluateLimits_all.mp hall)
        refine hpass _ (fun hq => hkeeps hq.keeps) ?_ ?_ (by
          rw [selectRule, if_neg hcalled]
          simp only [hevaluated, hmatched, hrefused]
          rfl)
        · rfl
        · rfl

/-- A manual decision is selected only if it keeps its limits. -/
lemma selectManual_selected {facts : DispatchFacts} :
    (selectManual facts).ruleId = none ∧
      ∀ action, (selectManual facts).action = some action → action.KeepsLimits facts.limits := by
  unfold selectManual
  cases facts.manualOverride.bind Action.fromDispatch with
  | none => exact ⟨rfl, fun _ h => nomatch h⟩
  | some action =>
    by_cases haccepted : (manualReasonValid facts &&
        (evaluateLimits action facts.limits).all fun check => check.accepted) = true
    · simp only [Option.elim_some, haccepted, if_true]
      refine ⟨rfl, fun chosen hchosen => ?_⟩
      cases hchosen
      exact evaluateLimits_all.mp (Bool.and_eq_true_iff.mp haccepted).2
    · simp only [Option.elim_some, haccepted]
      exact ⟨rfl, fun _ h => nomatch h⟩

namespace RuleDispatcher

variable {json : OperatingProgram → Option String}

/-- A new dispatcher has the rules of its program, in order. -/
lemma program_of_new {program : OperatingProgram} {d : RuleDispatcher}
    (hnew : new json program = .ok d) :
    d.program = { program with rules := program.rules.insertionSort OperatingRule.Before } := by
  unfold new OperatingProgram.canonicalized at hnew
  cases hvalid : program.validate with
  | error error => rw [hvalid] at hnew; cases hnew
  | ok =>
    rw [hvalid] at hnew
    revert hnew
    simp only [bind, Except.bind, pure, Except.pure]
    split
    · exact fun h => nomatch h
    · intro h
      cases h
      rfl

@[simp] lemma program_run (d : RuleDispatcher) (calls : List DispatchCall) :
    (d.run calls).2.program = d.program := by
  induction calls generalizing d with
  | nil => rfl
  | cons call calls ih =>
    have hdecide : (d.decide call).2.program = d.program := by
      unfold decide
      simp only
      split <;> rfl
    exact (ih _).trans hdecide

/-- A rule that was selected is the first admissible one of the program. -/
lemma select_rule {d : RuleDispatcher} {trigger : DispatchTrigger} {facts : DispatchFacts}
    {id : String} (h : (d.select trigger facts).ruleId = some id) :
    d.program.enabled = true ∧
      (d.select trigger facts).ByRule trigger facts d.program.rules := by
  unfold select at h ⊢
  simp only at h ⊢
  split at h
  · rename_i hrules
    rw [if_pos hrules]
    refine ⟨(Bool.and_eq_true_iff.mp hrules).2, ?_⟩
    rcases selectRule_selected trigger facts (selectManual facts) d.program.rules with
      hby | ⟨-, hid, -⟩
    · exact hby
    · rw [hid, selectManual_selected.1] at h
      cases h
  · rw [selectManual_selected.1] at h
    cases h

/-- A selected action keeps its limits. -/
lemma select_action {d : RuleDispatcher} {trigger : DispatchTrigger} {facts : DispatchFacts}
    {action : Action} (h : (d.select trigger facts).action = some action) :
    action.KeepsLimits facts.limits := by
  unfold select at h
  simp only at h
  split at h
  · rcases selectRule_selected trigger facts (selectManual facts) d.program.rules with
      ⟨-, rule, -, -, hqualifies, -, -, haction⟩ | ⟨-, -, haction⟩
    · rw [haction] at h
      cases h
      exact hqualifies.keeps
    · rw [haction] at h
      exact selectManual_selected.2 action h
  · exact selectManual_selected.2 action h

/-- **What a dispatcher selects keeps its limits, and a rule that decides is the first admissible
one**, whatever has been decided before. -/
theorem evaluate_selects {program : OperatingProgram} {d : RuleDispatcher}
    (hnew : new json program = .ok d) (calls : List DispatchCall) (trainRunId : TrainRunId)
    (eventAt : SimTime) (trigger : DispatchTrigger) (facts : DispatchFacts)
    {decision : DispatchDecision} {explanation : DecisionExplanation}
    (heval : (d.run calls).2.evaluate trainRunId eventAt trigger facts = (decision, explanation)) :
    (∀ action, explanation.selectedAction = some action →
      action.KeepsLimits facts.limits ∧ decision = action.dispatch facts) ∧
    ∀ id, explanation.selectedRuleId = some id →
      program.enabled = true ∧ ∃ rule ∈ program.rules, rule.id = id ∧
        explanation.selectedAction = some rule.action ∧ rule.Qualifies trigger facts ∧
        ∀ other ∈ program.rules, other.Qualifies trigger facts → rule.Before other := by
  obtain ⟨rfl, rfl⟩ := Prod.mk.inj heval
  have hprogram : (d.run calls).2.program =
      { program with rules := program.rules.insertionSort OperatingRule.Before } :=
    (program_run d calls).trans (program_of_new hnew)
  constructor
  · intro action haction
    refine ⟨select_action haction, ?_⟩
    simp only at haction
    simp only [haction, Option.elim_some]
  · intro id hid
    obtain ⟨henabled, earlier, rule, later, heq, hqualifies, hearlier, hrule, haction⟩ :=
      select_rule hid
    rw [hprogram] at henabled heq
    have hmem : ∀ other, other ∈ program.rules ↔ other ∈ earlier ++ rule :: later := fun other => by
      rw [← heq]
      exact (List.mem_insertionSort _).symm
    refine ⟨henabled, rule, (hmem rule).mpr (by simp), ?_, haction, hqualifies, ?_⟩
    · simp only at hid
      rw [hid] at hrule
      exact (Option.some.inj hrule).symm
    intro other hother hadmissible
    have hsorted := List.pairwise_insertionSort OperatingRule.Before program.rules
    rw [show program.rules.insertionSort OperatingRule.Before = earlier ++ rule :: later from heq,
      List.pairwise_append, List.pairwise_cons] at hsorted
    rcases List.mem_append.mp ((hmem other).mp hother) with hbefore | hafter
    · exact absurd hadmissible (hearlier other hbefore)
    rcases List.mem_cons.mp hafter with rfl | hlater
    · exact (or_self_iff.mp (total_of OperatingRule.Before other other))
    · exact hsorted.2.1.1 other hlater

/-- A program for late trains, as its operator has written it. -/
def lateTrains : OperatingProgram where
  schema := operatingProgramSchema
  worldId := "welt"
  operatorId := "evu"
  version := 1
  enabled := true
  rules := [
    { id := "c", priority := 5, enabled := true, trigger := .delayThreshold 60
      condition := .predicate .delaySeconds .greaterOrEqual (.integer 60), action := .skipStop },
    { id := "b", priority := 5, enabled := true, trigger := .delayThreshold 60
      condition := .any [.predicate .vehicleFailed .equal (.boolean true),
        .not (.predicate .routeClosed .equal (.boolean true))], action := .breakConnection },
    { id := "a", priority := 10, enabled := true, trigger := .delayThreshold 60
      condition := .predicate .delaySeconds .greaterOrEqual (.integer 60)
      action := .strengthenTrain }]

/-- A train is late, and no other vehicle is there. -/
def lateFacts : DispatchFacts :=
  { DispatchFacts.neutral 1 0 with
    delaySeconds := 300
    limits := { DispatchLimits.default with vehicleAvailable := false } }

/-- The rule with the highest priority needs a vehicle; of the other two the first name decides. -/
theorem evaluate_selects_lateTrains :
    ∃ d, new (fun p => some p.schema) lateTrains = .ok d ∧
      (d.evaluate 7 300 .delayThreshold lateFacts).2.selectedRuleId = some "b" ∧
      ∃ rule ∈ lateTrains.rules, rule.id = "b" ∧ rule.Qualifies .delayThreshold lateFacts ∧
        ∀ other ∈ lateTrains.rules, other.Qualifies .delayThreshold lateFacts →
          rule.Before other := by
  have hdecides : (new (fun p => some p.schema) lateTrains).toOption.any (fun d =>
      (d.evaluate 7 300 .delayThreshold lateFacts).2.selectedRuleId == some "b") = true := by
    decide +kernel
  cases hnew : new (fun p => some p.schema) lateTrains with
  | error error => rw [hnew] at hdecides; cases hdecides
  | ok d =>
    rw [hnew] at hdecides
    have hid : (d.evaluate 7 300 .delayThreshold lateFacts).2.selectedRuleId = some "b" :=
      beq_iff_eq.mp hdecides
    obtain ⟨-, rule, hin, hname, -, hqualifies, hfirst⟩ :=
      (evaluate_selects hnew [] 7 300 .delayThreshold lateFacts rfl).2 "b" hid
    exact ⟨d, rfl, hid, rule, hin, hname, hqualifies, hfirst⟩

/-! ### The order in which the rules were written -/

lemma new_perm {program : OperatingProgram} {rules : List OperatingRule}
    (hperm : program.rules.Perm rules) :
    (new json program).toOption =
      (new json { program with rules := rules }).toOption := by
  unfold new
  simp only [OperatingProgram.toOption_bind]
  rw [OperatingProgram.canonicalized_perm hperm]

/-- **Dispatchers for programs with the same rules cannot be told apart.** -/
theorem run_perm {program : OperatingProgram} {rules : List OperatingRule}
    (hperm : program.rules.Perm rules) :
    (program.checksum json).toOption =
        (OperatingProgram.checksum json { program with rules := rules }).toOption ∧
      ((new json program).toOption.map RuleDispatcher.checksum =
        (new json { program with rules := rules }).toOption.map RuleDispatcher.checksum) ∧
      ∀ calls, (new json program).toOption.map (fun d => d.run calls) =
        (new json { program with rules := rules }).toOption.map fun d => d.run calls := by
  have hnew : (new json program).toOption =
      (new json { program with rules := rules }).toOption := new_perm hperm
  exact ⟨OperatingProgram.checksum_perm json hperm, congrArg _ hnew, fun _ =>
    congrArg _ hnew⟩

/-- The program for late trains, with its rules the other way round. -/
theorem run_perm_lateTrains :
    (new (fun p => some p.schema) lateTrains).toOption.isSome = true ∧
      ∀ calls, (new (fun p => some p.schema) lateTrains).toOption.map (fun d => d.run calls) =
        (new (fun p => some p.schema)
          { lateTrains with rules := lateTrains.rules.reverse }).toOption.map
            fun d => d.run calls :=
  ⟨by decide +kernel, (run_perm (List.reverse_perm lateTrains.rules).symm).2.2⟩

end RuleDispatcher

end Zugfolge.Rules
