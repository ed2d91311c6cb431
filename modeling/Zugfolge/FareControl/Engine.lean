/-
The states and the commands of fare control.

A state is checked before and after every command.  A command that was carried out before gives its
receipt again and changes nothing.

* `run`: the states that follow from commands.
-/
import Zugfolge.FareControl.Cases

namespace Zugfolge.FareControl

open Foundation
open Economy (Outcome printInteger orThrow orThrow_eq_ok)

/-! ### States -/

/-- The first state of an operator. -/
def initializeFareControl (h : Hashing) (worldId operatorId : String) (nowMs : Int) :
    Outcome FareControlWorldStateV1 := do
  need (isId worldId && isId operatorId && 0 ≤ nowMs) "fare_initialization_invalid"
  let state : FareControlWorldStateV1 :=
    { schemaVersion := "fare-control-world-state/v1"
      worldId := worldId
      operatorId := operatorId
      revision := 0
      nowMs := nowMs
      cases := ∅
      policePlans := ∅
      days := ∅
      ledgerEvents := ∅
      receipts := ∅
      stateHash := "" }
  return { state with stateHash := fareControlStateHash h state }

/-- The case belongs to the state, and its times are in order. -/
def FareInspectionCaseV1.isProper (h : Hashing) (state : FareControlWorldStateV1)
    (caseId : String) (deadline : Int) (case : FareInspectionCaseV1) : Bool :=
  case.schemaVersion == "fare-inspection-case/v1"
    && case.caseId == caseId
    && isId caseId
    && case.pinHash == h.pin case.pin
    && case.pin.worldId == state.worldId
    && case.pin.operatorId == state.operatorId
    && case.pin.inspectedAtMs ≤ state.nowMs
    && case.proofDeadlineMs == deadline
    && case.claimKind.isSome == case.claimOpenedAtMs.isSome
    && (case.claimOpenedAtMs.all fun time =>
      case.pin.inspectedAtMs ≤ time && time ≤ state.nowMs)
    && (case.proofReceivedAtMs.all fun time =>
      case.pin.inspectedAtMs ≤ time && time ≤ state.nowMs)

def checkCase (h : Hashing) (state : FareControlWorldStateV1)
    (entry : String × FareInspectionCaseV1) : Outcome Unit := do
  let case := entry.2
  let _ ← validatePin h case.pin
  let r ← rules case.pin.economyRelease
  let deadline ← proofDeadline case.pin r
  need (case.isProper h state entry.1 deadline) "fare_case_state_invalid"
  let original ← nonnegative case.originalClaimCents
  let claim ← nonnegative case.claimCents
  let paid ← nonnegative case.paidCents
  let writtenOff ← nonnegative case.writtenOffCents
  let _ ← nonnegative case.costsCents
  need (claim ≤ original) "fare_case_balance_invalid"
  let covered ← add paid writtenOff
  need (covered ≤ claim) "fare_case_balance_invalid"
  let reduced ← nonnegative case.reducedCents
  let whole ← add claim reduced
  need (whole == original) "fare_case_balance_invalid"
  need (case.policeHoldId.all fun hold => state.policePlans.contains hold)
    "fare_police_plan_missing"

/-- Checks a ledger event of a state. -/
def checkEvent (state : FareControlWorldStateV1) (entry : String × FareLedgerEventV1) :
    Outcome Unit := do
  let event := entry.2
  need (event.eventId == entry.1
    && isSha entry.1
    && event.worldId == state.worldId
    && event.operatorId == state.operatorId
    && event.atMs ≤ state.nowMs
    && 0 ≤ event.atMs
    && 0 ≤ event.dayStartMs
    && isSha event.economyReleaseHash
    && (event.caseId.all fun caseId => state.cases.contains caseId)
    && 2 ≤ event.postings.length) "fare_ledger_state_invalid"
  let total ← event.postings.foldlM (fun sum posting => do
    let value ← amount posting.amountCents
    add sum value) 0
  need (total == 0) "fare_ledger_unbalanced"

/-- What a receipt asks of the world is there. -/
def FareControlEffectBindingV1.isKept (state : FareControlWorldStateV1) :
    FareControlEffectBindingV1 → Bool
  | .claim caseId => state.cases[caseId]?.any fun case => case.claimKind.isSome
  | .hold holdId caseIds => !caseIds.isEmpty && state.policePlans[holdId]?.any fun plan =>
    caseIds.all fun caseId => plan.cases.any fun outcome => outcome.caseId == caseId

def checkReceipt (state : FareControlWorldStateV1) (entry : String × FareControlReceiptV1) :
    Outcome Unit := do
  let receipt := entry.2
  need (receipt.commandId == entry.1
    && isId entry.1
    && isSha receipt.commandHash
    && isSha receipt.domainStateHash
    && receipt.revision ≤ state.revision
    && (receipt.ledgerEventIds.all fun eventId => state.ledgerEvents.contains eventId))
    "fare_receipt_invalid"
  need (receipt.binding.all fun effect => effect.isKept state) "fare_receipt_invalid"

def checkPlan (h : Hashing) (state : FareControlWorldStateV1)
    (entry : String × PoliceResponsePlanV1) : Outcome Unit :=
  let plan := entry.2
  need (plan.holdId == entry.1
    && isId entry.1
    && plan.worldId == state.worldId
    && plan.operatorId == state.operatorId
    && plan.planHash == planHash h plan
    && plan.requestedAtMs ≤ state.nowMs
    && plan.cases.all fun outcome => state.cases[outcome.caseId]?.any fun stored =>
      stored.policeHoldId == some entry.1) "fare_police_state_invalid"

/-- Checks a state and gives it back. -/
def restoreFareControl (h : Hashing) (state : FareControlWorldStateV1) (expectedHash : String) :
    Outcome FareControlWorldStateV1 := do
  need (state.schemaVersion == "fare-control-world-state/v1"
    && isId state.worldId
    && isId state.operatorId
    && 0 ≤ state.nowMs
    && isSha expectedHash
    && state.stateHash == expectedHash
    && fareControlStateHash h state == expectedHash) "fare_state_invalid"
  state.cases.toList.forM (checkCase h state)
  state.ledgerEvents.toList.forM (checkEvent state)
  state.receipts.toList.forM (checkReceipt state)
  state.policePlans.toList.forM (checkPlan h state)
  return state

/-! ### Commands -/

/-- Takes a case out, changes it and puts it back. -/
def onCase (state : FareControlWorldStateV1) (caseId : String)
    (change : FareControlWorldStateV1 → FareInspectionCaseV1 →
      Outcome (FareControlWorldStateV1 × FareInspectionCaseV1)) :
    Outcome FareControlWorldStateV1 := do
  let case ← orThrow state.cases[caseId]? "fare_case_missing"
  let changed ← change { state with cases := state.cases.erase caseId } case
  return { changed.1 with cases := changed.1.cases.insert caseId changed.2 }

/-- Carries out what a command does. -/
def act (h : Hashing) (state : FareControlWorldStateV1) (command : FareControlCommandV1) :
    FareControlActionV1 → Outcome FareControlWorldStateV1
  | .openCase caseId pin => openCase h state command caseId pin
  | .inspectDocument caseId => onCase state caseId fun state case => do
    let case ← inspect case
    return (state, case)
  | .createClaim caseId kind => onCase state caseId fun state case =>
    createClaim h state command case kind
  | .closeCase caseId => onCase state caseId fun state case => .ok (state, close case)
  | .receiveProof caseId receivedAtMs => onCase state caseId fun state case =>
    receiveProof h state command case receivedAtMs
  | .advanceTime => state.cases.keys.foldlM (fun state caseId =>
    onCase state caseId fun state case => advanceCase h state command case) state
  | .planPolice holdId train target caseIds model =>
    planPolice h state command holdId train target caseIds model
  | .resolvePolice evidence => resolvePolice h state command evidence
  | .settleDay start evidence release => settleDay h state command start evidence release

/-- The case that a command is about. -/
def FareControlActionV1.affectedCase : FareControlActionV1 → Option String
  | .openCase caseId _ | .inspectDocument caseId | .createClaim caseId _ | .closeCase caseId
  | .receiveProof caseId _ => some caseId
  | _ => none

/-- What a command asks of the world. -/
def FareControlActionV1.effectBinding : FareControlActionV1 → Option FareControlEffectBindingV1
  | .createClaim caseId _ => some (.claim caseId)
  | .planPolice holdId _ _ caseIds _ => some (.hold holdId caseIds)
  | _ => none

/-- What is hashed of the domain: neither receipts nor the hash itself. -/
def FareControlWorldStateV1.domain (state : FareControlWorldStateV1) : FareControlWorldStateV1 :=
  { state with receipts := ∅, stateHash := "" }

def newEvents (before after : FareControlWorldStateV1) : List FareLedgerEventV1 :=
  after.ledgerEvents.values.filter fun event => !before.ledgerEvents.contains event.eventId

/-- Carries out a command that is new. -/
def applyNew (h : Hashing) (state : FareControlWorldStateV1) (command : FareControlCommandV1)
    (commandHash : String) : Outcome FareControlTransitionV1 := do
  need (command.expectedRevision == state.revision) "fare_stale_revision"
  need (state.nowMs ≤ command.nowMs) "fare_time_regression"
  let next ← act h { state with nowMs := command.nowMs } command command.action
  let revision ← orThrow (addCheckedU64 next.revision 1) "fare_arithmetic_overflow"
  let next := { next with revision := revision }
  let ledgerEvents := newEvents state next
  let receipt : FareControlReceiptV1 :=
    { commandId := command.commandId
      commandHash := commandHash
      domainStateHash := h.domain next.domain
      revision := next.revision
      caseId := command.action.affectedCase
      binding := command.action.effectBinding
      ledgerEventIds := ledgerEvents.map fun event => event.eventId }
  let next := { next with receipts := next.receipts.insert command.commandId receipt }
  let next := { next with stateHash := fareControlStateHash h next }
  let _ ← restoreFareControl h next next.stateHash
  return { state := next, receipt := receipt, ledgerEvents := ledgerEvents }

/-- Carries out a command, or gives the receipt of one that was carried out before. -/
def applyFareControl (h : Hashing) (state : FareControlWorldStateV1) (expectedHash : String)
    (command : FareControlCommandV1) : Outcome FareControlTransitionV1 := do
  let next ← restoreFareControl h state expectedHash
  need (command.worldId == state.worldId && command.operatorId == state.operatorId
    && isId command.commandId) "fare_command_binding_invalid"
  let commandHash := h.command
    (command.worldId, command.operatorId, command.commandId, command.nowMs, command.action)
  (state.receipts[command.commandId]?).elim (applyNew h next command commandHash) fun receipt => do
    need (receipt.commandHash == commandHash) "fare_command_conflict"
    return { state := next, receipt := receipt, ledgerEvents :=
      receipt.ledgerEventIds.filterMap fun eventId => state.ledgerEvents[eventId]? }

/-! ### Runs -/

/-- The state that follows from commands, each with the hash that the sender expects. -/
def run (h : Hashing) (state : FareControlWorldStateV1)
    (commands : List (String × FareControlCommandV1)) : Outcome FareControlWorldStateV1 :=
  commands.foldlM (fun state sent =>
    (applyFareControl h state sent.1 sent.2).map fun transition => transition.state) state

variable {expectedHash : String} {h : Hashing} {state : FareControlWorldStateV1}

/-- Whatever a checked state satisfies was checked. -/
lemma restoreFareControl_eq_ok {state next : FareControlWorldStateV1}
    (hrestore : restoreFareControl h state expectedHash = .ok next) :
    next = state := by
  unfold restoreFareControl at hrestore
  simp only [bind_eq_ok_iff, need_eq_ok, exists_const] at hrestore
  obtain ⟨-, -, -, -, -, -, -, -, -, heq⟩ := hrestore
  cases heq
  rfl

/-- A command that was carried out before changes nothing.  A new one does what it says, and only
the revision, the receipts and the hash change besides; what comes of it was checked. -/
lemma applyFareControl_cases {command : FareControlCommandV1} {transition : FareControlTransitionV1}
    (happly : applyFareControl h state expectedHash command = .ok transition) :
    restoreFareControl h state expectedHash = .ok state ∧
      ((∃ receipt, state.receipts[command.commandId]? = some receipt
          ∧ transition.state = state) ∨
        (state.receipts[command.commandId]? = none ∧ state.nowMs ≤ command.nowMs ∧
          ∃ next revision receipt stateHash,
            act h { state with nowMs := command.nowMs } command command.action = .ok next ∧
            transition.state = { next with
              revision
              receipts := next.receipts.insert command.commandId receipt
              stateHash } ∧
            restoreFareControl h transition.state transition.state.stateHash
              = .ok transition.state)) := by
  unfold applyFareControl at happly
  simp only [bind_eq_ok_iff, need_eq_ok, exists_const] at happly
  obtain ⟨restored, hrestore, -, happly⟩ := happly
  cases restoreFareControl_eq_ok hrestore
  refine ⟨hrestore, ?_⟩
  cases hreceipt : state.receipts[command.commandId]? with
  | some receipt =>
    rw [hreceipt] at happly
    simp only [Option.elim_some, bind_eq_ok_iff, need_eq_ok, exists_const] at happly
    cases happly.2
    exact .inl ⟨receipt, rfl, rfl⟩
  | none =>
    rw [hreceipt, Option.elim_none] at happly
    unfold applyNew at happly
    simp only [bind_eq_ok_iff, need_eq_ok, exists_const, decide_eq_true_eq] at happly
    obtain ⟨-, htime, next, hact, revision, -, checked, hchecked, heq⟩ := happly
    cases restoreFareControl_eq_ok hchecked
    cases heq
    exact .inr ⟨rfl, htime, next, revision, _, _, hact, rfl, hchecked⟩

/-- The head of a state and its hash are right. -/
def FareControlWorldStateV1.headIsRight (h : Hashing) (state : FareControlWorldStateV1)
    (expectedHash : String) : Bool :=
  state.schemaVersion == "fare-control-world-state/v1"
    && isId state.worldId
    && isId state.operatorId
    && 0 ≤ state.nowMs
    && isSha expectedHash
    && state.stateHash == expectedHash
    && fareControlStateHash h state == expectedHash

/-- A state is given back if its head and everything in it is right. -/
lemma restoreFareControl_iff :
    restoreFareControl h state expectedHash = .ok state ↔
      state.headIsRight h expectedHash = true ∧
      (∀ k case, state.cases[k]? = some case → checkCase h state (k, case) = .ok ()) ∧
      (∀ k event, state.ledgerEvents[k]? = some event → checkEvent state (k, event) = .ok ()) ∧
      (∀ k receipt, state.receipts[k]? = some receipt → checkReceipt state (k, receipt) = .ok ()) ∧
      ∀ k plan, state.policePlans[k]? = some plan → checkPlan h state (k, plan) = .ok () := by
  have hentries : ∀ {α : Type} (m : Registry String α) (check : String × α → Outcome Unit),
      (∃ u, m.toList.forM check = .ok u) ↔ ∀ k a, m[k]? = some a → check (k, a) = .ok () := by
    intro α m check
    constructor
    · rintro ⟨u, hall⟩ k a hfound
      exact forM_eq_ok_iff.mp hall (k, a) (Registry.mem_toList.mpr hfound)
    · intro hall
      exact ⟨(), forM_eq_ok_iff.mpr fun entry hin =>
        hall entry.1 entry.2 (Registry.mem_toList.mp hin)⟩
  rw [← hentries, ← hentries, ← hentries, ← hentries]
  unfold restoreFareControl
  simp only [bind_eq_ok_iff, need_eq_ok, exists_const]
  constructor
  · rintro ⟨hhead, cases, hcases, events, hevents, receipts, hreceipts, plans, hplans, -⟩
    exact ⟨hhead, ⟨cases, hcases⟩, ⟨events, hevents⟩, ⟨receipts, hreceipts⟩, ⟨plans, hplans⟩⟩
  · rintro ⟨hhead, ⟨cases, hcases⟩, ⟨events, hevents⟩, ⟨receipts, hreceipts⟩, ⟨plans, hplans⟩⟩
    exact ⟨hhead, cases, hcases, events, hevents, receipts, hreceipts, plans, hplans, rfl⟩

lemma keyed_of_restore (hrestore : restoreFareControl h state expectedHash = .ok state) (k : String)
    (event : FareLedgerEventV1) (hevent : state.ledgerEvents[k]? = some event) :
    event.eventId = k := by
  have hchecked := (restoreFareControl_iff.mp hrestore).2.2.1 k event hevent
  unfold checkEvent at hchecked
  simp only [bind_eq_ok_iff, need_eq_ok, exists_const, Bool.and_eq_true, beq_iff_eq] at hchecked
  tauto

end Zugfolge.FareControl
