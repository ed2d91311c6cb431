/-
Operating programs.

A program is a list of rules.  Before it is used, it is checked and brought into one order: by
descending priority and, among equal priorities, by the names of the rules.

* `canonicalized_perm`: the order in which the rules were written does not matter.
-/
import Mathlib.Data.List.Sort
import Mathlib.Data.String.Basic
import Zugfolge.Foundation.Sha256
import Zugfolge.Rules.Action
import Zugfolge.Rules.Condition

namespace Zugfolge.Rules

open Foundation
open Zugfolge.Sim

/-! ### Rules -/

/-- A rule: what it waits for, what it asks and what it does. -/
structure OperatingRule where
  id : String
  priority : Int
  enabled : Bool
  trigger : RuleTrigger
  condition : Condition
  action : Action

namespace OperatingRule

/-- A character that the name of a rule may have. -/
def isIdByte (c : Char) : Bool :=
  ('a'.toNat ≤ c.toNat && c.toNat ≤ 'z'.toNat) || Text.isDigit c || c == '-' || c == '_' || c == '.'

/-- Checks a rule. -/
def validate (rule : OperatingRule) : Except RuleError Unit :=
  if rule.id.isEmpty || 96 < rule.id.utf8ByteSize || !rule.id.toList.all isIdByte then
    .error (.invalidRuleId rule.id)
  else if rule.priority < -1000000 || 1000000 < rule.priority then
    .error (.invalidPriority rule.id)
  else do
    rule.trigger.validate
    let _ ← rule.condition.validate 0 0
    return ()

/-- The order of the rules: by descending priority, then by name. -/
def order (left right : OperatingRule) : Ordering :=
  (compare right.priority left.priority).then (compare left.id right.id)

/-- A rule comes before another one, or has its place. -/
def Before (left right : OperatingRule) : Prop := (left.order right).isLE = true

instance : DecidableRel Before := fun _ _ => inferInstanceAs (Decidable (_ = true))

lemma before_iff {left right : OperatingRule} :
    left.Before right ↔ right.priority < left.priority ∨
      (left.priority = right.priority ∧ left.id ≤ right.id) := by
  unfold Before order
  cases hpriority : compare right.priority left.priority with
  | lt => simp [Int.compare_eq_lt.mp hpriority]
  | eq =>
    have heq : right.priority = left.priority := Std.compare_eq_iff_eq.mp hpriority
    simp [heq, Std.LawfulBCmp.isLE_iff_le]
  | gt =>
    have hlt : left.priority < right.priority := Int.compare_eq_gt.mp hpriority
    have hnot : ¬ right.priority < left.priority := by omega
    have hne : left.priority ≠ right.priority := by omega
    simp [hnot, hne]

instance : Std.Total Before where
  total left right := by
    rw [before_iff, before_iff]
    rcases lt_trichotomy left.priority right.priority with hlt | heq | hlt
    · exact .inr (.inl hlt)
    · rcases le_total left.id right.id with hle | hle
      · exact .inl (.inr ⟨heq, hle⟩)
      · exact .inr (.inr ⟨heq.symm, hle⟩)
    · exact .inl (.inl hlt)

instance : IsTrans OperatingRule Before where
  trans first second third := by
    rw [before_iff, before_iff, before_iff]
    rintro (hlt | ⟨heq, hle⟩) (hlt' | ⟨heq', hle'⟩)
    · exact .inl (hlt'.trans hlt)
    · exact .inl (heq' ▸ hlt)
    · exact .inl (heq ▸ hlt')
    · exact .inr ⟨heq.trans heq', hle.trans hle'⟩

lemma Before.id_eq {left right : OperatingRule} (h : left.Before right) (h' : right.Before left) :
    left.id = right.id := by
  rw [before_iff] at h h'
  rcases h with hlt | ⟨heq, hle⟩ <;> rcases h' with hlt' | ⟨heq', hle'⟩
  · exact absurd (hlt.trans hlt') (lt_irrefl _)
  · exact absurd heq' hlt.ne
  · exact absurd heq hlt'.ne
  · exact le_antisymm hle hle'

end OperatingRule

/-! ### Programs -/

/-- The version of the programs that are read. -/
def operatingProgramSchema : String := "operating-program/v1"

/-- The rules of an operator. -/
structure OperatingProgram where
  schema : String
  worldId : String
  operatorId : String
  version : ℕ
  enabled : Bool
  rules : List OperatingRule

/-- Checks rules one after another; no name comes twice. -/
def validateRules (ids : List String) : List OperatingRule → Except RuleError Unit
  | [] => .ok ()
  | rule :: rules => do
    rule.validate
    if ids.contains rule.id then .error (.duplicateRule rule.id)
    else validateRules (rule.id :: ids) rules

namespace OperatingProgram

/-- Checks a program. -/
def validate (program : OperatingProgram) : Except RuleError Unit :=
  if program.schema ≠ operatingProgramSchema then .error .wrongSchema
  else if program.worldId.isEmpty || program.operatorId.isEmpty || program.version == 0 then
    .error .invalidIdentity
  else if program.rules.isEmpty then .error .emptyProgram
  else validateRules [] program.rules

/-- The program with its rules in order. -/
def canonicalized (program : OperatingProgram) : Except RuleError OperatingProgram := do
  program.validate
  return { program with rules := program.rules.insertionSort OperatingRule.Before }

section Checksum

-- the text of a program, where it has one
variable (json : OperatingProgram → Option String)

/-- The text of the program in order. -/
def canonicalJson (program : OperatingProgram) : Except RuleError String := do
  (json (← program.canonicalized)).elim (.error .serialization) .ok

/-- A byte as two hexadecimal digits. -/
def hexByte (byte : UInt8) : String :=
  String.ofList [Nat.digitChar (byte.toNat / 16), Nat.digitChar (byte.toNat % 16)]

/-- The checksum of a program: the hash of its text. -/
def checksum (program : OperatingProgram) : Except RuleError String := do
  let canonical ← program.canonicalJson json
  return String.join ((sha256 (utf8 canonical)).map hexByte)

end Checksum

end OperatingProgram

/-! ### Programs with the same rules -/

/-- Rules are accepted if each of them is and no name comes twice. -/
lemma validateRules_ok_iff {ids : List String} {rules : List OperatingRule} :
    validateRules ids rules = .ok () ↔
      (∀ rule ∈ rules, rule.validate = .ok ()) ∧ (rules.map OperatingRule.id).Nodup ∧
        ∀ rule ∈ rules, rule.id ∉ ids := by
  induction rules generalizing ids with
  | nil => simp [validateRules]
  | cons rule rules ih =>
    rw [validateRules]
    cases hrule : rule.validate with
    | error error => simp [hrule, bind, Except.bind]
    | ok =>
      by_cases hin : rule.id ∈ ids
      · simp [hrule, bind, Except.bind, hin]
      · have hstep : (do
            (Except.ok () : Except RuleError Unit)
            if ids.contains rule.id then .error (.duplicateRule rule.id)
            else validateRules (rule.id :: ids) rules) = validateRules (rule.id :: ids) rules := by
          simp [bind, Except.bind, hin]
        rw [hstep, ih, List.forall_mem_cons, List.forall_mem_cons, List.map_cons,
          List.nodup_cons]
        constructor
        · rintro ⟨hvalid, hnodup, hnew⟩
          refine ⟨⟨hrule, hvalid⟩, ⟨?_, hnodup⟩, hin, fun other hother hmem =>
            hnew other hother (List.mem_cons_of_mem _ hmem)⟩
          intro hmem
          obtain ⟨other, hother, heq⟩ := List.mem_map.mp hmem
          exact hnew other hother (heq ▸ List.mem_cons_self)
        · rintro ⟨⟨-, hvalid⟩, ⟨hfirst, hnodup⟩, -, hnew⟩
          refine ⟨hvalid, hnodup, fun other hother hmem => ?_⟩
          rcases List.mem_cons.mp hmem with heq | hmem
          · exact hfirst (List.mem_map.mpr ⟨other, hother, heq⟩)
          · exact hnew other hother hmem

namespace OperatingProgram

variable {program : OperatingProgram} {rules : List OperatingRule}

lemma nodup_of_validate (h : program.validate = .ok ()) :
    (program.rules.map OperatingRule.id).Nodup := by
  unfold validate at h
  split at h
  · cases h
  split at h
  · cases h
  split at h
  · cases h
  exact (validateRules_ok_iff.mp h).2.1

/-- Whether a program is accepted does not depend on the order of its rules. -/
lemma validate_ok_perm (hperm : program.rules.Perm rules) :
    program.validate = .ok () ↔ validate { program with rules := rules } = .ok () := by
  have hempty : program.rules.isEmpty = rules.isEmpty := by
    cases hrules : program.rules with
    | nil => rw [hrules] at hperm; rw [hperm.symm.eq_nil]
    | cons rule later =>
      rw [hrules] at hperm
      cases hother : rules with
      | nil => rw [hother] at hperm; exact absurd hperm.length_eq (by simp)
      | cons => rfl
  have hrules : validateRules [] program.rules = .ok () ↔ validateRules [] rules = .ok () := by
    rw [validateRules_ok_iff, validateRules_ok_iff, (hperm.map OperatingRule.id).nodup_iff]
    simp only [hperm.mem_iff]
  unfold validate
  simp only [hempty]
  split
  · exact Iff.rfl
  split
  · exact Iff.rfl
  split
  · exact Iff.rfl
  exact hrules

lemma sort_perm (hids : (program.rules.map OperatingRule.id).Nodup)
    (hperm : program.rules.Perm rules) :
    program.rules.insertionSort OperatingRule.Before
      = rules.insertionSort OperatingRule.Before := by
  have hsame : (program.rules.insertionSort OperatingRule.Before).Perm
      (rules.insertionSort OperatingRule.Before) :=
    (List.perm_insertionSort _ _).trans (hperm.trans (List.perm_insertionSort _ _).symm)
  refine List.Perm.eq_of_pairwise ?_ (List.pairwise_insertionSort _ _)
    (List.pairwise_insertionSort _ _) hsame
  intro left right hleft hright hbefore hbefore'
  have hleft := (List.mem_insertionSort _).mp hleft
  have hright := hperm.mem_iff.mpr ((List.mem_insertionSort _).mp hright)
  exact List.inj_on_of_nodup_map hids hleft hright (hbefore.id_eq hbefore')

/-- **A program in order does not depend on the order in which its rules were written.** -/
theorem canonicalized_perm (hperm : program.rules.Perm rules) :
    program.canonicalized.toOption =
      (canonicalized { program with rules := rules }).toOption := by
  cases hvalid : program.validate with
  | ok =>
    have hother := (validate_ok_perm hperm).mp hvalid
    unfold canonicalized
    rw [hvalid, hother, sort_perm (nodup_of_validate hvalid) hperm]
  | error error =>
    cases hother : validate { program with rules := rules } with
    | ok => rw [(validate_ok_perm hperm).mpr hother] at hvalid; cases hvalid
    | error error' =>
      unfold canonicalized
      rw [hvalid, hother]
      rfl

lemma toOption_bind {α β : Type} (x : Except RuleError α) (f : α → Except RuleError β) :
    (x >>= f).toOption = x.toOption.bind fun a => (f a).toOption := by
  cases x <;> rfl

lemma checksum_perm (json : OperatingProgram → Option String)
    (hperm : program.rules.Perm rules) : (program.checksum json).toOption =
      (checksum json { program with rules := rules }).toOption := by
  unfold checksum canonicalJson
  simp only [toOption_bind]
  rw [canonicalized_perm hperm]

end OperatingProgram

end Zugfolge.Rules
