/-
Checks, amounts, samples and the rules of fare control.
-/
import Zugfolge.Economy.Money
import Zugfolge.FareControl.Types
import Zugfolge.Foundation.Sha256

namespace Zugfolge.FareControl

open Foundation
open Economy (Outcome printInteger readNumber orThrow orThrow_eq_ok)

/-! ### Checks -/

/-- Goes on only if the value holds. -/
def need (value : Bool) (code : String) : Outcome Unit := Economy.require value code

@[simp] lemma need_eq_ok {value : Bool} {code : String} {u : Unit} :
    need value code = .ok u ↔ value = true := Economy.require_eq_ok

/-- The byte lies between two characters. -/
def isBetween (low high : Char) (byte : UInt8) : Bool :=
  low.toNat ≤ byte.toNat && byte.toNat ≤ high.toNat

/-- A byte of a name: a letter, a digit or one of a few marks. -/
def isIdByte (byte : UInt8) : Bool :=
  isBetween 'a' 'z' byte || isBetween 'A' 'Z' byte || isBetween '0' '9' byte
    || (utf8 "_:-./").contains byte

/-- The text is a name. -/
def isId (value : String) : Bool :=
  !(utf8 value).isEmpty && (utf8 value).length ≤ 160 && (utf8 value).all isIdByte

/-- The text is a hash. -/
def isSha (value : String) : Bool :=
  (utf8 value).length == 64
    && (utf8 value).all fun byte => isBetween '0' '9' byte || isBetween 'a' 'f' byte

/-! ### Amounts -/

/-- Reads a whole number in decimal. -/
def parseDecimal (text : String) : Option Int :=
  if text.toList.head? == some '-' then
    (readNumber 10 text.toList.tail).map fun n : ℕ => -(n : Int)
  else if text.toList.head? == some '+' then (readNumber 10 text.toList.tail).map Int.ofNat
  else (readNumber 10 text.toList).map Int.ofNat

/-- Reads a number of 64 bits. -/
def parseI64 (text : String) : Option Int := (parseDecimal text).bind checked64

/-- The amount that a text writes as it is printed. -/
def amount (value : String) : Outcome Int := do
  let n ← orThrow (parseI64 value) "fare_amount_invalid"
  need (printInteger n == value) "fare_amount_invalid"
  return n

/-- The amount that a text writes, which is not negative. -/
def nonnegative (value : String) : Outcome Int := do
  let n ← amount value
  need (0 ≤ n) "fare_amount_invalid"
  return n

/-- The sum of two amounts. -/
def add (a b : Int) : Outcome Int := orThrow (addChecked64 a b) "fare_arithmetic_overflow"

/-- The product of two amounts. -/
def mul (a b : Int) : Outcome Int := orThrow (mulChecked64 a b) "fare_arithmetic_overflow"

/-- A share of an amount in ten thousandths. -/
def fraction (a : Int) (b : ℕ) : Outcome Int :=
  orThrow (checked64 ((a * b).tdiv 10000)) "fare_arithmetic_overflow"

lemma checked64_eq_some_iff {x y : Int} :
    checked64 x = some y ↔ (i64Min ≤ x ∧ x ≤ i64Max) ∧ y = x := by
  unfold checked64
  split <;> simp_all [eq_comm]

lemma add_eq_ok {a b sum : Int} :
    add a b = .ok sum ↔ (i64Min ≤ a + b ∧ a + b ≤ i64Max) ∧ sum = a + b := by
  rw [add, orThrow_eq_ok, addChecked64, checked64_eq_some_iff]

lemma mul_eq_ok {a b product : Int} :
    mul a b = .ok product ↔ (i64Min ≤ a * b ∧ a * b ≤ i64Max) ∧ product = a * b := by
  rw [mul, orThrow_eq_ok, mulChecked64, checked64_eq_some_iff]

lemma parseDecimal_printInteger (n : Int) : parseDecimal (printInteger n) = some n := by
  obtain ⟨first, digits, htext, -, -, hread⟩ := Economy.toList_printInteger n
  rw [← hread, parseDecimal, htext]
  simp

variable {n : Int} {r : FareInspectionEconomyV1} {release : EconomyReleaseDocument} {value : String}

lemma amount_eq_ok :
    amount value = .ok n ↔ (i64Min ≤ n ∧ n ≤ i64Max) ∧ value = printInteger n := by
  unfold amount parseI64
  simp only [bind_eq_ok_iff, orThrow_eq_ok, need_eq_ok, Option.bind_eq_some_iff,
    checked64_eq_some_iff, beq_iff_eq, exists_const]
  constructor
  · rintro ⟨m, ⟨k, hparse, hrange, rfl⟩, hprint, heq⟩
    cases heq
    exact ⟨hrange, hprint.symm⟩
  · rintro ⟨hrange, rfl⟩
    exact ⟨n, ⟨n, parseDecimal_printInteger n, hrange, rfl⟩, rfl, rfl⟩

lemma nonnegative_eq_ok :
    nonnegative value = .ok n ↔ (0 ≤ n ∧ n ≤ i64Max) ∧ value = printInteger n := by
  unfold nonnegative
  simp only [bind_eq_ok_iff, amount_eq_ok, need_eq_ok, decide_eq_true_eq, exists_const]
  constructor
  · rintro ⟨m, ⟨⟨-, hmax⟩, rfl⟩, hnonneg, heq⟩
    cases heq
    exact ⟨⟨hnonneg, hmax⟩, rfl⟩
  · rintro ⟨⟨hnonneg, hmax⟩, rfl⟩
    refine ⟨n, ⟨⟨?_, hmax⟩, rfl⟩, hnonneg, rfl⟩
    rw [i64Min]
    omega

lemma printInteger_inj {n m : Int} (h : printInteger n = printInteger m) : n = m := by
  have hread := parseDecimal_printInteger n
  rw [h, parseDecimal_printInteger] at hread
  exact (Option.some.inj hread).symm

lemma parseDecimal_of_nonnegative (h : nonnegative value = .ok n) :
    (parseDecimal value).getD 0 = n := by
  rw [(nonnegative_eq_ok.mp h).2, parseDecimal_printInteger, Option.getD_some]

lemma nonnegative_printInteger {n m : Int} :
    nonnegative (printInteger n) = .ok m ↔ (0 ≤ n ∧ n ≤ i64Max) ∧ m = n := by
  rw [nonnegative_eq_ok]
  constructor
  · rintro ⟨hrange, heq⟩
    cases printInteger_inj heq
    exact ⟨hrange, rfl⟩
  · rintro ⟨hrange, rfl⟩
    exact ⟨hrange, rfl⟩

/-! ### Chance -/

/-- A number below ten thousand that the hash of some texts gives. -/
def sample (parts : List String) : ℕ :=
  ((sha256 (parts.flatMap fun part => beBytes 8 (utf8 part).length ++ utf8 part)).take 8).foldl
    (fun value byte => value * 256 + byte.toNat) 0 % 10000

/-- The number of a case for a purpose. -/
def caseSample (case : FareInspectionCaseV1) (purpose : String) : ℕ :=
  sample [purpose, case.pin.worldId, case.pin.trainRunId, case.pin.passenger.passengerKey,
    case.pin.seedHash]

/-! ### Rules -/

/-- The text writes an amount of cents. -/
def isCents (value : String) : Bool :=
  (parseI64 value).any fun n => 0 ≤ n && printInteger n == value

/-- The rules are valid. -/
def FareInspectionEconomyV1.validate (r : FareInspectionEconomyV1) : Bool :=
  r.schemaVersion == "fare-inspection-economy/v1"
    && r.minimumClaimCents == "6000"
    && r.ordinaryFareMultiplier == 2
    && r.reducedClaimCents == "700"
    && r.proofWindowDays == 7
    && r.dayLengthMs == 86400000
    && [r.handlingCostCents, r.proofHandlingCostCents, r.policeHandlingCostCents].all isCents
    && r.fullPaymentBasisPoints ≤ 10000
    && r.partialPaymentBasisPoints ≤ 10000
    && r.fullPaymentBasisPoints + r.partialPaymentBasisPoints ≤ 10000
    && 1 ≤ r.partialPaymentShareBasisPoints && r.partialPaymentShareBasisPoints < 10000
    && 0 < r.paymentDelayMs
    && r.paymentDelayMs < r.writeOffDelayMs
    && r.validProofSubmissionBasisPoints ≤ 10000
    && 0 < r.validProofDelayMs
    && r.premiumMultiplierBasisPoints ≤ 40000
    && r.positiveDailyCapBasisPoints ≤ 50
    && r.revenueAllocation == "uniform_settled_service_interval/v1"

def validateEconomyReleaseDocument (release : EconomyReleaseDocument) : Bool :=
  (release.fareInspection.all fun r => r.validate) && release.restIsValid

def rules (release : EconomyReleaseDocument) : Outcome FareInspectionEconomyV1 := do
  need (validateEconomyReleaseDocument release) "fare_economy_release_invalid"
  orThrow release.fareInspection "fare_economy_rules_missing"

lemma rules_eq_ok :
    rules release = .ok r ↔
      release.fareInspection = some r ∧ validateEconomyReleaseDocument release = true := by
  unfold rules
  simp only [bind_eq_ok_iff, need_eq_ok, orThrow_eq_ok, exists_const]
  exact and_comm

lemma validate_of_rules (h : rules release = .ok r) : r.validate = true := by
  obtain ⟨hfound, hvalid⟩ := rules_eq_ok.mp h
  rw [validateEconomyReleaseDocument, hfound, Bool.and_eq_true] at hvalid
  exact hvalid.1

lemma paymentDelay_lt (h : rules release = .ok r) : r.paymentDelayMs < r.writeOffDelayMs := by
  have hvalid := validate_of_rules h
  simp only [FareInspectionEconomyV1.validate, Bool.and_eq_true, decide_eq_true_eq] at hvalid
  tauto

lemma partialShare_lt (h : rules release = .ok r) : r.partialPaymentShareBasisPoints < 10000 := by
  have hvalid := validate_of_rules h
  simp only [FareInspectionEconomyV1.validate, Bool.and_eq_true, decide_eq_true_eq] at hvalid
  tauto

lemma dayLength_of_rules (h : rules release = .ok r) : r.dayLengthMs = 86400000 := by
  have hvalid := validate_of_rules h
  simp only [FareInspectionEconomyV1.validate, Bool.and_eq_true, beq_iff_eq] at hvalid
  tauto

/-- The day of an instant begins at. -/
def day (time : Int) (r : FareInspectionEconomyV1) : Int :=
  time.tdiv r.dayLengthMs * r.dayLengthMs

/-! ### Pins -/

variable (h : Hashing)

def fareInspectionPolicyHash (policy : FareInspectionPolicyV1) : String :=
  h.policy { policy with contentHash := "" }

/-- The hash of what is known of a journey. -/
def fareJourneyEvidenceHash (evidence : FareJourneyEvidenceV1) : String :=
  h.journeyEvidence { evidence with contentHash := "" }

def policeResponseModelHash (model : PoliceResponseModelV1) : String :=
  h.policeModel { model with contentHash := "" }

def fareControlStateHash (state : FareControlWorldStateV1) : String :=
  h.state { state with stateHash := "" }

def fareContractRevenueEvidenceHash (evidence : FareContractRevenueEvidenceV1) :
    String :=
  h.revenueEvidence { evidence with contentHash := "" }

/-- What is known of a journey belongs to the pin. -/
def FareJourneyEvidenceV1.belongsTo (pin : FareInspectionPinV1)
    (evidence : FareJourneyEvidenceV1) : Bool :=
  evidence.schemaVersion == "fare-journey-evidence/v1"
    && isId evidence.evidenceId
    && isId evidence.sourceId
    && evidence.worldId == pin.worldId
    && evidence.periodId == pin.periodId
    && evidence.trainRunId == pin.trainRunId
    && evidence.boardingStopId == pin.passenger.boardingStopId
    && evidence.alightingStopId == pin.passenger.alightingStopId
    && evidence.contentHash == fareJourneyEvidenceHash h evidence

/-- Checks what is known of a journey. -/
def validateJourneyEvidence (pin : FareInspectionPinV1) :
    Option FareJourneyEvidenceV1 → Outcome Unit
  | none => .ok ()
  | some evidence => do
    need (evidence.belongsTo h pin) "fare_journey_evidence_invalid"
    (evidence.ordinaryFareCents.elim (.ok ()) fun fare => (nonnegative fare).map fun _ => ())

def validatePin (pin : FareInspectionPinV1) : Outcome Unit := do
  need ([pin.worldId, pin.operatorId, pin.periodId, pin.trainRunId, pin.encounterId, pin.segmentId,
      pin.passenger.passengerKey, pin.passenger.boardingStopId,
      pin.passenger.alightingStopId].all isId
    && [pin.demandStateHash, pin.dialogueReleaseHash, pin.seedHash].all isSha
    && 0 ≤ pin.inspectedAtMs) "fare_pin_invalid"
  let policy := pin.inspectionPolicy
  need (policy.schemaVersion == "fare-inspection-policy/v1"
    && isId policy.policyId
    && policy.worldId == pin.worldId
    && policy.periodId == pin.periodId
    && policy.contentHash == fareInspectionPolicyHash h policy
    && [policy.invalidDocumentPresentedBasisPoints, policy.identityRefusalBasisPoints,
      policy.concreteDangerBasisPoints].all (· ≤ 10000)) "fare_inspection_policy_invalid"
  let _ ← rules pin.economyRelease
  need (pin.expectedEconomyReleaseHash == pin.economyRelease.checksum) "fare_economy_pin_mismatch"
  validateJourneyEvidence h pin pin.journeyEvidence

end Zugfolge.FareControl
