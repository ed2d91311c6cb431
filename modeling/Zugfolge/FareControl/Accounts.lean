/-
The account that the ledger keeps of a case.
-/
import Zugfolge.FareControl.Engine
import Zugfolge.Foundation.Totals

namespace Zugfolge.FareControl

open Foundation
open Economy (Outcome printInteger orThrow orThrow_eq_ok)

/-! ### Accounts -/

/-- What the ledger says about a case: sums by role, cash of payments and reductions only, and how
many events of a kind there are. -/
@[ext] structure Account where
  receivable : Int := 0
  accrual : Int := 0
  cash : Int := 0
  reduction : Int := 0
  handling : Int := 0
  writeOff : Int := 0
  claims : Int := 0
  payments : Int := 0
  reductions : Int := 0
  writeOffs : Int := 0
  deriving DecidableEq

/-- Two accounts together. -/
def Account.plus (a b : Account) : Account where
  receivable := a.receivable + b.receivable
  accrual := a.accrual + b.accrual
  cash := a.cash + b.cash
  reduction := a.reduction + b.reduction
  handling := a.handling + b.handling
  writeOff := a.writeOff + b.writeOff
  claims := a.claims + b.claims
  payments := a.payments + b.payments
  reductions := a.reductions + b.reductions
  writeOffs := a.writeOffs + b.writeOffs

variable (postings : List (FareLedgerRoleV1 × Int))

/-- The sum of the postings with a role. -/
def sumOf (role : FareLedgerRoleV1) : Int :=
  postings.foldr (fun posting sum => if posting.1 == role then posting.2 + sum else sum) 0

/-- What postings of a kind say. -/
def entry (kind : FareLedgerEventKindV1) (postings : List (FareLedgerRoleV1 × Int)) : Account where
  receivable := sumOf postings .receivable
  accrual := sumOf postings .claimAccrual
  cash := if kind == .payment || kind == .reduction then sumOf postings .cash else 0
  reduction := sumOf postings .claimReduction
  handling := sumOf postings .handlingCost
  writeOff := sumOf postings .writeOff
  claims := if kind == .claimOpened then 1 else 0
  payments := if kind == .payment then 1 else 0
  reductions := if kind == .reduction then 1 else 0
  writeOffs := if kind == .writeOff then 1 else 0

/-- The postings of an event as they are read. -/
def FareLedgerEventV1.amounts (event : FareLedgerEventV1) : List (FareLedgerRoleV1 × Int) :=
  event.postings.map fun posting =>
    (posting.role, (parseDecimal posting.amountCents).getD 0)

/-- What an event says. -/
def entryOf (event : FareLedgerEventV1) : Account := entry event.kind event.amounts

/-- What the events of a case say together. -/
def accountOf (events : Registry String FareLedgerEventV1) (caseId : String) : Account :=
  let sum := fun part : Account → Int => events.total fun event =>
    if event.caseId == some caseId then part (entryOf event) else 0
  { receivable := sum Account.receivable
    accrual := sum Account.accrual
    cash := sum Account.cash
    reduction := sum Account.reduction
    handling := sum Account.handling
    writeOff := sum Account.writeOff
    claims := sum Account.claims
    payments := sum Account.payments
    reductions := sum Account.reductions
    writeOffs := sum Account.writeOffs }

/-! ### What an event adds -/

lemma sumOf_filter (role : FareLedgerRoleV1) :
    sumOf (postings.filter fun posting => posting.2 != 0) role = sumOf postings role := by
  induction postings with
  | nil => rfl
  | cons posting postings ih =>
    rw [List.filter_cons]
    split
    · rw [sumOf, sumOf, List.foldr_cons, List.foldr_cons, ← sumOf, ← sumOf, ih]
    · rename_i hzero
      have hvalue : posting.2 = 0 := by simpa using hzero
      rw [ih, sumOf, sumOf, List.foldr_cons, hvalue, Int.zero_add, ite_self]

lemma amounts_writtenPostings :
    (writtenPostings postings).map (fun posting =>
      (posting.role, (parseDecimal posting.amountCents).getD 0)) =
      postings.filter fun posting => posting.2 != 0 := by
  rw [writtenPostings, List.map_map]
  refine (List.map_congr_left fun posting _ => ?_).trans (List.map_id _)
  simp [parseDecimal_printInteger]

lemma entry_filter (kind : FareLedgerEventKindV1) (postings : List (FareLedgerRoleV1 × Int)) :
    entry kind (postings.filter fun posting => posting.2 != 0) = entry kind postings := by
  simp only [entry, sumOf_filter]

lemma accountOf_insert {events : Registry String FareLedgerEventV1} {eventId : String}
    (event : FareLedgerEventV1) (caseId : String) (hnew : events[eventId]? = none) :
    accountOf (events.insert eventId event) caseId =
      if event.caseId == some caseId then (entryOf event).plus (accountOf events caseId)
      else accountOf events caseId := by
  simp only [accountOf, Registry.total_insert event _ hnew]
  split
  · rfl
  · simp

lemma accountOf_eq_empty {events : Registry String FareLedgerEventV1} {caseId : String}
    (hnone : ∀ (k : String) (event : FareLedgerEventV1), events[k]? = some event →
      event.caseId ≠ some caseId) : accountOf events caseId = {} := by
  have hzero : ∀ part : Account → Int, (events.total fun event =>
      if event.caseId == some caseId then part (entryOf event) else 0) = 0 := fun part =>
    Registry.total_eq_zero fun k event hevent => by simp [hnone k event hevent]
  simp only [accountOf, hzero]

/-! ### What a posting changes -/

/-- What the events of a command are tagged with. -/
def eventTags : List String :=
  ["claim-opened", "claim-handling", "police-handling", "proof-reduction", "proof-handling",
    "payment", "writeoff", "day-premium", "day-cap"]

/-- An event that a command posts about a case, or about none. -/
structure IsOf (h : Hashing) (state : FareControlWorldStateV1) (command : FareControlCommandV1)
    (caseId : Option String) (release : EconomyReleaseDocument) (k : String)
    (event : FareLedgerEventV1) : Prop where
  ofCase : event.caseId = caseId
  ofRelease : event.economyReleaseHash = release.checksum
  named : ∃ tag ∈ eventTags,
    k = h.event (state.worldId, state.operatorId, command.commandId, caseId, tag)

/-- A posting adds an entry to the account of a case, if it is about one, and changes nothing
else. -/
structure Posted (h : Hashing) (command : FareControlCommandV1)
    (state next : FareControlWorldStateV1) (caseId : Option String)
    (release : EconomyReleaseDocument) (added : Account) : Prop where
  frame : next = { state with ledgerEvents := next.ledgerEvents }
  account : ∀ other, accountOf next.ledgerEvents other =
    if caseId == some other then added.plus (accountOf state.ledgerEvents other)
    else accountOf state.ledgerEvents other
  origin : ∀ (k : String) (event : FareLedgerEventV1), next.ledgerEvents[k]? = some event →
    IsOf h state command caseId release k event ∨ state.ledgerEvents[k]? = some event
  kept : ∀ (k : String) (event : FareLedgerEventV1), state.ledgerEvents[k]? = some event →
    next.ledgerEvents[k]? = some event

/-- **What is posted** is one new event with these postings. -/
lemma posted_of_post {h : Hashing} {state next : FareControlWorldStateV1}
    {command : FareControlCommandV1} {caseId : Option String} {time : Int}
    {kind : FareLedgerEventKindV1} {release : EconomyReleaseDocument}
    {postings : List (FareLedgerRoleV1 × Int)} {tag : String}
    (hpost : post h state command caseId time kind release postings tag = .ok next)
    (htag : tag ∈ eventTags) :
    Posted h command state next caseId release (entry kind postings) := by
  obtain ⟨-, -, r, -, hnone, rfl⟩ := post_eq_ok.mp hpost
  refine ⟨rfl, fun other => ?_, fun k event hevent => ?_, fun k event hevent => ?_⟩
  · rw [accountOf_insert _ other hnone, entryOf, FareLedgerEventV1.amounts]
    simp only [writtenEvent, amounts_writtenPostings, entry_filter]
  · rw [Registry.getElem?_insert] at hevent
    split at hevent
    next hkey =>
      cases hevent
      exact .inl ⟨rfl, rfl, tag, htag, hkey⟩
    · exact .inr hevent
  · rw [Registry.getElem?_insert, if_neg]
    · exact hevent
    · rintro rfl
      rw [hnone] at hevent
      cases hevent

end Zugfolge.FareControl
