/-
The postings of fare control.

Every change of what a passenger owes is posted.  What is due is worked off in the order of its
time, however late that happens.
-/
import Mathlib.Data.List.Sort
import Mathlib.Data.String.Basic
import Zugfolge.FareControl.Common

namespace Zugfolge.FareControl

open Foundation
open Economy (Outcome printInteger orThrow orThrow_eq_ok)

/-! ### Postings -/

def sumPostings (postings : List (FareLedgerRoleV1 × Int)) : Outcome Int :=
  postings.foldlM (fun sum posting => add sum posting.2) 0

/-- The postings that move something, written out. -/
def writtenPostings (postings : List (FareLedgerRoleV1 × Int)) : List FareLedgerPostingV1 :=
  (postings.filter fun posting => posting.2 != 0).map fun posting =>
    { role := posting.1, amountCents := printInteger posting.2 }

variable (h : Hashing)

def post (state : FareControlWorldStateV1) (command : FareControlCommandV1)
    (caseId : Option String) (time : Int) (kind : FareLedgerEventKindV1)
    (release : EconomyReleaseDocument) (postings : List (FareLedgerRoleV1 × Int)) (tag : String) :
    Outcome FareControlWorldStateV1 := do
  let sum ← sumPostings postings
  need (sum == 0 && 2 ≤ (postings.filter fun posting => posting.2 != 0).length)
    "fare_ledger_unbalanced"
  let eventId := h.event (state.worldId, state.operatorId, command.commandId, caseId, tag)
  let r ← rules release
  let event : FareLedgerEventV1 :=
    { worldId := state.worldId
      operatorId := state.operatorId
      eventId := eventId
      caseId := caseId
      atMs := time
      dayStartMs := day time r
      kind := kind
      economyReleaseHash := release.checksum
      postings := writtenPostings postings }
  need (!state.ledgerEvents.contains eventId) "fare_ledger_duplicate"
  return { state with ledgerEvents := state.ledgerEvents.insert eventId event }

/-- The event that a posting writes. -/
def writtenEvent (state : FareControlWorldStateV1) (command : FareControlCommandV1)
    (caseId : Option String) (time : Int) (kind : FareLedgerEventKindV1)
    (release : EconomyReleaseDocument) (r : FareInspectionEconomyV1)
    (postings : List (FareLedgerRoleV1 × Int)) (tag : String) : FareLedgerEventV1 :=
  { worldId := state.worldId
    operatorId := state.operatorId
    eventId := h.event (state.worldId, state.operatorId, command.commandId, caseId, tag)
    caseId := caseId
    atMs := time
    dayStartMs := day time r
    kind := kind
    economyReleaseHash := release.checksum
    postings := writtenPostings postings }

/-- What is posted balances, moves something, and is one new event. -/
lemma post_eq_ok {h : Hashing} {state next : FareControlWorldStateV1}
    {command : FareControlCommandV1} {caseId : Option String} {time : Int}
    {kind : FareLedgerEventKindV1} {release : EconomyReleaseDocument}
    {postings : List (FareLedgerRoleV1 × Int)} {tag : String} :
    post h state command caseId time kind release postings tag = .ok next ↔
      sumPostings postings = .ok 0 ∧ 2 ≤ (postings.filter fun posting => posting.2 != 0).length ∧
      ∃ r, rules release = .ok r ∧
        let event := writtenEvent h state command caseId time kind release r postings tag
        state.ledgerEvents[event.eventId]? = none ∧
          next = { state with ledgerEvents := state.ledgerEvents.insert event.eventId event } := by
  unfold post
  simp only [bind_eq_ok_iff, need_eq_ok, exists_const, Bool.and_eq_true, beq_iff_eq,
    decide_eq_true_eq, Bool.not_eq_true', Registry.contains_eq_false]
  constructor
  · rintro ⟨sum, hsum, ⟨hzero, hmoves⟩, r, hrules, hnew, heq⟩
    cases heq
    exact ⟨hzero ▸ hsum, hmoves, r, hrules, hnew, rfl⟩
  · rintro ⟨hsum, hmoves, r, hrules, hnew, rfl⟩
    exact ⟨0, hsum, ⟨rfl, hmoves⟩, r, hrules, hnew, rfl⟩

/-! ### Costs and claims -/

/-- Posts the cost of handling a case. -/
def cost (state : FareControlWorldStateV1) (command : FareControlCommandV1)
    (case : FareInspectionCaseV1) (value : Int) (tag : String) :
    Outcome (FareControlWorldStateV1 × FareInspectionCaseV1) :=
  if value == 0 then .ok (state, case)
  else do
    need (0 < value) "fare_amount_invalid"
    let old ← nonnegative case.costsCents
    let costs ← add old value
    let state ← post h state command (some case.caseId) command.nowMs .handlingCost
      case.pin.economyRelease [(.handlingCost, value), (.cash, -value)] tag
    return (state, { case with costsCents := printInteger costs })

/-- Reduces a claim because the passenger had a ticket after all. -/
def reduce (state : FareControlWorldStateV1) (command : FareControlCommandV1)
    (case : FareInspectionCaseV1) (time : Int) :
    Outcome (FareControlWorldStateV1 × FareInspectionCaseV1) := do
  let r ← rules case.pin.economyRelease
  let reduced ← nonnegative r.reducedClaimCents
  let old ← nonnegative case.claimCents
  if old ≤ reduced then return (state, case)
  else
    let reduction := old - reduced
    let paid ← nonnegative case.paidCents
    let writtenOff ← nonnegative case.writtenOffCents
    let refund := max (paid - reduced) 0
    let reverseWriteoff := min writtenOff (reduction - refund)
    let receivable := reduction - refund - reverseWriteoff
    let state ← post h state command (some case.caseId) time .reduction case.pin.economyRelease
      [(.claimReduction, reduction), (.receivable, -receivable), (.cash, -refund),
        (.writeOff, -reverseWriteoff)] "proof-reduction"
    let oldReduced ← nonnegative case.reducedCents
    let reducedSum ← add oldReduced reduction
    let case := { case with
      claimCents := printInteger reduced
      paidCents := printInteger (paid - refund)
      writtenOffCents := printInteger (writtenOff - reverseWriteoff)
      reducedCents := printInteger reducedSum }
    let handling ← nonnegative r.proofHandlingCostCents
    if 0 < handling then
      let oldCosts ← nonnegative case.costsCents
      let costs ← add oldCosts handling
      let state ← post h state command (some case.caseId) time .handlingCost
        case.pin.economyRelease [(.handlingCost, handling), (.cash, -handling)] "proof-handling"
      return (state, { case with costsCents := printInteger costs })
    else return (state, case)

/-- What a passenger pays of a claim. -/
def paymentOf (r : FareInspectionEconomyV1) (case : FareInspectionCaseV1) (claim : Int) :
    Outcome Int :=
  if caseSample case "fare_payment" < r.fullPaymentBasisPoints then .ok claim
  else if caseSample case "fare_payment" < r.fullPaymentBasisPoints + r.partialPaymentBasisPoints
  then fraction claim r.partialPaymentShareBasisPoints
  else .ok 0

/-- Processes the payment of a claim. -/
def processPayment (state : FareControlWorldStateV1)
    (command : FareControlCommandV1) (case : FareInspectionCaseV1) (paymentAt : Int) :
    Outcome (FareControlWorldStateV1 × FareInspectionCaseV1) := do
  let r ← rules case.pin.economyRelease
  if !case.paymentProcessed && paymentAt ≤ command.nowMs then
    let claim ← nonnegative case.claimCents
    let value ← paymentOf r case claim
    if 0 < value then
      let state ← post h state command (some case.caseId) paymentAt .payment
        case.pin.economyRelease [(.cash, value), (.receivable, -value)] "payment"
      return (state, { case with paidCents := printInteger value, paymentProcessed := true })
    else return (state, { case with paymentProcessed := true })
  else return (state, case)

/-- Writes off what is left of a claim. -/
def writeOffRemaining (state : FareControlWorldStateV1)
    (command : FareControlCommandV1) (case : FareInspectionCaseV1) (time : Int) :
    Outcome (FareControlWorldStateV1 × FareInspectionCaseV1) := do
  let claim ← nonnegative case.claimCents
  let paid ← nonnegative case.paidCents
  let writtenOff ← nonnegative case.writtenOffCents
  let remaining := claim - paid - writtenOff
  need (0 ≤ remaining) "fare_case_balance_invalid"
  if 0 < remaining then
    let state ← post h state command (some case.caseId) time .writeOff case.pin.economyRelease
      [(.writeOff, remaining), (.receivable, -remaining)] "writeoff"
    let total ← add writtenOff remaining
    return (state, { case with writtenOffCents := printInteger total })
  else return (state, case)

/-! ### What is due -/

/-- The kinds of what is due, in the order in which things of one time are worked off. -/
inductive DueKind where
  | proof | payment | writeOff
  deriving DecidableEq

def DueKind.rank : DueKind → ℕ
  | .proof => 0
  | .payment => 1
  | .writeOff => 2

/-- Something is due no later than something else. -/
def notLater (a b : Int × DueKind) : Bool :=
  a.1 < b.1 || (a.1 == b.1 && a.2.rank ≤ b.2.rank)

/-- Works off something that is due. -/
def workOff (command : FareControlCommandV1)
    (current : FareControlWorldStateV1 × FareInspectionCaseV1) (due : Int × DueKind) :
    Outcome (FareControlWorldStateV1 × FareInspectionCaseV1) :=
  match due.2 with
  | .proof => reduce h current.1 command current.2 due.1
  | .payment => processPayment h current.1 command current.2 due.1
  | .writeOff => writeOffRemaining h current.1 command current.2 due.1

/-- The document of the passenger is not an invalid one. -/
def FareInspectionCaseV1.mayHaveTicket (case : FareInspectionCaseV1) : Bool :=
  case.pin.passenger.fareFact != .invalid

/-- The case once it has been looked at whether a proof comes in by itself. -/
def expectProof (r : FareInspectionEconomyV1) (now proofAt : Int) (case : FareInspectionCaseV1) :
    FareInspectionCaseV1 :=
  if !case.proofProcessed && proofAt ≤ now then
    if case.mayHaveTicket && caseSample case "fare_proof" < r.validProofSubmissionBasisPoints then
      { case with
        proofProcessed := true
        proofReceivedAtMs := some (case.proofReceivedAtMs.elim proofAt fun old => min old proofAt) }
    else { case with proofProcessed := true }
  else case

/-- The case once a proof that has come in is believed. -/
def acceptProof (now : Int) (case : FareInspectionCaseV1) : FareInspectionCaseV1 :=
  if (case.proofReceivedAtMs.any fun time => time ≤ now) && case.mayHaveTicket then
    { case with evidence := { case.evidence with documentStatus := .verifiedValid } }
  else case

/-- When a proof came in that counts. -/
def validProofAt (case : FareInspectionCaseV1) : Option Int :=
  case.proofReceivedAtMs.filter fun time => time < case.proofDeadlineMs && case.mayHaveTicket

/-- What becomes due in a case, in order. -/
def dueEntries (paymentAt writeoffAt : Int) (proofAt : Option Int) : List (Int × DueKind) :=
  ([(paymentAt, DueKind.payment), (writeoffAt, DueKind.writeOff)]
      ++ (proofAt.map fun time => (time, DueKind.proof)).toList).insertionSort
    fun a b => notLater a b = true

/-- Works off what is due in a case with a claim that was opened. -/
def advanceClaim (state : FareControlWorldStateV1) (command : FareControlCommandV1)
    (case : FareInspectionCaseV1) (opened : Int) :
    Outcome (FareControlWorldStateV1 × FareInspectionCaseV1) := do
  let r ← rules case.pin.economyRelease
  let proofAt ← add case.pin.inspectedAtMs r.validProofDelayMs
  let case := acceptProof command.nowMs (expectProof r command.nowMs proofAt case)
  let paymentAt ← add opened r.paymentDelayMs
  let writeoffAt ← add opened r.writeOffDelayMs
  let due := dueEntries paymentAt writeoffAt ((validProofAt case).map fun time => max time opened)
  let worked ← (due.filter fun entry => entry.1 ≤ command.nowMs).foldlM (workOff h command)
    (state, case)
  if writeoffAt ≤ command.nowMs
      || (worked.2.paymentProcessed && worked.2.claimCents == worked.2.paidCents) then
    return (worked.1, { worked.2 with status := .settled })
  else return worked

/-- Works off what is due in a case. -/
def advanceCase (state : FareControlWorldStateV1) (command : FareControlCommandV1)
    (case : FareInspectionCaseV1) : Outcome (FareControlWorldStateV1 × FareInspectionCaseV1) :=
  case.claimOpenedAtMs.elim (.ok (state, case)) (advanceClaim h state command case)

/-! ### Days -/

/-- The evidence of a revenue belongs to the state and comes in time. -/
def ConfirmedFareContractRevenueV1.isProper (state : FareControlWorldStateV1)
    (now : Int) (confirmed : ConfirmedFareContractRevenueV1) : Bool :=
  let proof := confirmed.evidence
  proof.schemaVersion == "fare-contract-revenue-evidence/v1"
    && proof.worldId == state.worldId
    && proof.operatorId == state.operatorId
    && isId proof.contractId
    && isId proof.journalEffectId
    && isId confirmed.ledgerTransactionId
    && isSha proof.economyReleaseHash
    && proof.contentHash == fareContractRevenueEvidenceHash h proof
    && 0 ≤ proof.serviceStartMs
    && proof.serviceStartMs < proof.serviceEndMs
    && proof.serviceEndMs ≤ proof.settledAtMs
    && proof.settledAtMs ≤ now

/-- What has been read of the evidence of a day. -/
structure DayRevenue where
  journalIds : List String
  ledgerIds : List String
  revenue : Int
  receipts : List String

/-- Reads one piece of evidence for a day. -/
def readRevenue (state : FareControlWorldStateV1) (now start finish : Int)
    (read : DayRevenue) (confirmed : ConfirmedFareContractRevenueV1) : Outcome DayRevenue := do
  let proof := confirmed.evidence
  need (confirmed.isProper h state now && !read.journalIds.contains proof.journalEffectId
    && !read.ledgerIds.contains confirmed.ledgerTransactionId) "fare_day_evidence_invalid"
  let fee ← nonnegative proof.orderingFeeCents
  let bonus ← nonnegative proof.bonusCents
  let gross ← add fee bonus
  let _ ← nonnegative proof.penaltyCents
  let read := { read with
    journalIds := proof.journalEffectId :: read.journalIds
    ledgerIds := confirmed.ledgerTransactionId :: read.ledgerIds }
  let overlapStart := max start proof.serviceStartMs
  let overlapEnd := min finish proof.serviceEndMs
  if overlapStart < overlapEnd then
    let duration := proof.serviceEndMs - proof.serviceStartMs
    let before := (gross * (overlapStart - proof.serviceStartMs)).tdiv duration
    let after := (gross * (overlapEnd - proof.serviceStartMs)).tdiv duration
    let part ← orThrow (checked64 (after - before)) "fare_arithmetic_overflow"
    let revenue ← add read.revenue part
    return { read with
      revenue := revenue
      receipts := read.receipts ++ [confirmed.ledgerTransactionId] }
  else return read

/-- Adds what an event reverses of the write-offs of its case. -/
def reversedBy (reversed : Registry String Int) (event : FareLedgerEventV1) :
    Outcome (Registry String Int) :=
  event.postings.foldlM (fun reversed posting => do
    let value ← amount posting.amountCents
    if posting.role == .writeOff && value < 0 then
      let caseId ← orThrow event.caseId "fare_ledger_state_invalid"
      let back ← orThrow (checked64 (-value)) "fare_arithmetic_overflow"
      let sum ← add (reversed[caseId]?.getD 0) back
      return reversed.insert caseId sum
    else return reversed) reversed

/-- Takes the loss of a write-off that was not reversed from the result of its day. -/
def loseWriteOff (start : Int) (event : FareLedgerEventV1)
    (current : Registry String Int × Int) (posting : FareLedgerPostingV1) :
    Outcome (Registry String Int × Int) :=
  if posting.role != .writeOff then .ok current
  else do
    let value ← nonnegative posting.amountCents
    let caseId ← orThrow event.caseId "fare_ledger_state_invalid"
    let reversed := current.1[caseId]?.getD 0
    let correction := min value reversed
    let left := current.1.insert caseId (reversed - correction)
    if event.dayStartMs == start then
      let net ← add current.2 (-(value - correction))
      return (left, net)
    else return (left, current.2)

/-- The kind does not count for the result of a day. -/
def FareLedgerEventKindV1.isOutsideDay : FareLedgerEventKindV1 → Bool
  | .premium | .capAdjustment | .claimOpened => true
  | _ => false

/-- Adds the cash of an event to the result of its day. -/
def addCash (net : Int) (event : FareLedgerEventV1) : Outcome Int :=
  event.postings.foldlM (fun net posting => do
    let value ← amount posting.amountCents
    if posting.role == .cash then add net value else return net) net

/-- The order of events by time and name. -/
def FareLedgerEventV1.isNotAfter (a b : FareLedgerEventV1) : Bool :=
  a.atMs < b.atMs || (a.atMs == b.atMs && (compare a.eventId b.eventId).isLE)

def netOfDay (state : FareControlWorldStateV1) (start : Int) : Outcome Int := do
  let events := state.ledgerEvents.values
  let reversed ← events.foldlM reversedBy ∅
  let writeoffs := (events.filter fun event => event.kind == .writeOff).insertionSort fun a b =>
    a.isNotAfter b = true
  let lost ← writeoffs.foldlM (fun current event =>
    event.postings.foldlM (loseWriteOff start event) current) (reversed, 0)
  (events.filter fun event => event.dayStartMs == start && !event.kind.isOutsideDay).foldlM addCash
    lost.2

/-- Posts a correction of a day, if there is one. -/
def postDay (state : FareControlWorldStateV1) (command : FareControlCommandV1)
    (release : EconomyReleaseDocument) (kind : FareLedgerEventKindV1) (delta : Int)
    (postings : List (FareLedgerRoleV1 × Int)) (tag : String) : Outcome FareControlWorldStateV1 :=
  if delta != 0 then post h state command none command.nowMs kind release postings tag
  else .ok state

def settleDay (state : FareControlWorldStateV1) (command : FareControlCommandV1)
    (start : Int) (evidence : List ConfirmedFareContractRevenueV1)
    (release : EconomyReleaseDocument) : Outcome FareControlWorldStateV1 := do
  let r ← rules release
  let finish ← add start r.dayLengthMs
  need (0 ≤ start && start == day start r && finish ≤ command.nowMs) "fare_day_evidence_invalid"
  let read ← evidence.foldlM (readRevenue h state command.nowMs start finish)
    { journalIds := [], ledgerIds := [], revenue := 0, receipts := [] }
  let net ← netOfDay state start
  let cap ← fraction read.revenue r.positiveDailyCapBasisPoints
  let requestedPremium := (max net 0 * r.premiumMultiplierBasisPoints).tdiv 10000
  let premium ← orThrow (checked64 (min requestedPremium (max (cap - max net 0) 0)))
    "fare_arithmetic_overflow"
  let adjustment ← orThrow (checked64 (max (net + premium - cap) 0)) "fare_arithmetic_overflow"
  let old := state.days[printInteger start]?
  need (old.all fun d => d.economyReleaseHash == release.checksum) "fare_day_release_mismatch"
  let oldPremium ← old.elim (.ok 0) fun d => nonnegative d.premiumCents
  let oldAdjustment ← old.elim (.ok 0) fun d => nonnegative d.capAdjustmentCents
  let premiumDelta := premium - oldPremium
  let adjustmentDelta := adjustment - oldAdjustment
  let state ← postDay h state command release .premium premiumDelta
    [(.cash, premiumDelta), (.premium, -premiumDelta)] "day-premium"
  let state ← postDay h state command release .capAdjustment adjustmentDelta
    [(.capAdjustment, adjustmentDelta), (.cash, -adjustmentDelta)] "day-cap"
  let revision ← old.elim (.ok 1) fun d =>
    orThrow (addCheckedU64 d.settlementRevision 1) "fare_arithmetic_overflow"
  let settlement : FareDaySettlementV1 :=
    { dayStartMs := start
      contractRevenueCents := printInteger read.revenue
      contractReceiptIds := read.receipts.insertionSort fun a b => (compare a b).isLE = true
      netCents := printInteger net
      premiumCents := printInteger premium
      capAdjustmentCents := printInteger adjustment
      settlementRevision := revision
      economyReleaseHash := release.checksum }
  return { state with days := state.days.insert (printInteger start) settlement }

end Zugfolge.FareControl
