/-
The books of every case balance.

What the ledger says about a case is what the case says about itself, and each of its claim, its
payment, its reduction and its write-off is posted at most once.  Every step of a case posts what
it changes, and no step touches the account of another case.
-/
import Zugfolge.FareControl.Accounts

namespace Zugfolge.FareControl

open Foundation
open Economy (Outcome printInteger orThrow orThrow_eq_ok)

/-! ### Balances -/

/-- The amounts of a case. -/
structure Balance where
  original : Int
  claim : Int
  paid : Int
  costs : Int
  writtenOff : Int
  reduced : Int

/-- The case shows these amounts. -/
structure Balance.ShownBy (b : Balance) (case : FareInspectionCaseV1) : Prop where
  original : nonnegative case.originalClaimCents = .ok b.original
  claim : nonnegative case.claimCents = .ok b.claim
  paid : nonnegative case.paidCents = .ok b.paid
  costs : nonnegative case.costsCents = .ok b.costs
  writtenOff : nonnegative case.writtenOffCents = .ok b.writtenOff
  reduced : nonnegative case.reducedCents = .ok b.reduced

/-- The postings add up to the amounts. -/
structure Balance.Balances (b : Balance) (a : Account) : Prop where
  receivable : a.receivable = b.claim - b.paid - b.writtenOff
  accrual : a.accrual = -b.original
  cash : a.cash = b.paid
  reduction : a.reduction = b.reduced
  handling : a.handling = b.costs
  writeOff : a.writeOff = b.writtenOff
  covered : b.paid + b.writtenOff ≤ b.claim
  whole : b.reduced + b.claim = b.original

/-- A claim that was reduced is no larger than the rules reduce it to. -/
def IsReduced (case : FareInspectionCaseV1) (claim : Int) : Prop :=
  ∃ (r : FareInspectionEconomyV1) (reduced : Int), rules case.pin.economyRelease = .ok r ∧
    nonnegative r.reducedClaimCents = .ok reduced ∧ claim ≤ reduced

/-- What has happened in a case is posted once. -/
structure Balance.Happened (b : Balance) (a : Account) (case : FareInspectionCaseV1) : Prop where
  claims : a.claims = if case.claimOpenedAtMs.isSome then 1 else 0
  payments : a.payments = 0 ∨ (a.payments = 1 ∧ case.paymentProcessed = true)
  unpaid : case.paymentProcessed = false → b.paid = 0 ∧ b.writtenOff = 0 ∧ a.writeOffs = 0
  reductions : a.reductions = 0 ∨ (a.reductions = 1 ∧ IsReduced case b.claim)
  writeOffs : a.writeOffs = 0 ∨ (a.writeOffs = 1 ∧ b.claim = b.paid + b.writtenOff)
  unopened : case.claimOpenedAtMs = none →
    b.original = 0 ∧ a.reductions = 0 ∧ case.paymentProcessed = false
  status : case.status = .open → case.claimOpenedAtMs = none

/-- **The invariant of a case.**  The account of the case is what the case shows. -/
def Booked (a : Account) (case : FareInspectionCaseV1) : Prop :=
  ∃ b : Balance, b.ShownBy case ∧ b.Balances a ∧ b.Happened a case

lemma Balance.ShownBy.nonneg {b : Balance} {case : FareInspectionCaseV1} (h : b.ShownBy case) :
    0 ≤ b.original ∧ 0 ≤ b.claim ∧ 0 ≤ b.paid ∧ 0 ≤ b.costs ∧ 0 ≤ b.writtenOff
      ∧ 0 ≤ b.reduced := by
  refine ⟨?_, ?_, ?_, ?_, ?_, ?_⟩
  · exact (nonnegative_eq_ok.mp h.original).1.1
  · exact (nonnegative_eq_ok.mp h.claim).1.1
  · exact (nonnegative_eq_ok.mp h.paid).1.1
  · exact (nonnegative_eq_ok.mp h.costs).1.1
  · exact (nonnegative_eq_ok.mp h.writtenOff).1.1
  · exact (nonnegative_eq_ok.mp h.reduced).1.1

/-! ### Steps that only touch their case -/

/-- A step of a case posts for this case only and keeps its books. -/
structure Books (h : Hashing) (command : FareControlCommandV1) (state : FareControlWorldStateV1)
    (case : FareInspectionCaseV1) (next : FareControlWorldStateV1 × FareInspectionCaseV1) :
    Prop where
  frame : next.1 = { state with ledgerEvents := next.1.ledgerEvents }
  caseId : next.2.caseId = case.caseId
  pin : next.2.pin = case.pin
  others : ∀ other, other ≠ case.caseId →
    accountOf next.1.ledgerEvents other = accountOf state.ledgerEvents other
  origin : ∀ (k : String) (event : FareLedgerEventV1), next.1.ledgerEvents[k]? = some event →
    IsOf h state command (some case.caseId) case.pin.economyRelease k event
      ∨ state.ledgerEvents[k]? = some event
  kept : ∀ (k : String) (event : FareLedgerEventV1), state.ledgerEvents[k]? = some event →
    next.1.ledgerEvents[k]? = some event
  booked : Booked (accountOf state.ledgerEvents case.caseId) case →
    Booked (accountOf next.1.ledgerEvents case.caseId) next.2

variable {h : Hashing} {state : FareControlWorldStateV1} {command : FareControlCommandV1}
  {case : FareInspectionCaseV1} {next : FareControlWorldStateV1 × FareInspectionCaseV1}

variable {case' : FareInspectionCaseV1} {a : Account} {value time claim : Int} {tag caseId : String}
  {after : FareControlWorldStateV1} {release : EconomyReleaseDocument}

lemma Books.trans {middle : FareControlWorldStateV1}
    (hfirst : Books h command state case (middle, case'))
    (hsecond : Books h command middle case' next) : Books h command state case next := by
  have hframe : middle = { state with ledgerEvents := middle.ledgerEvents } := hfirst.frame
  have hid : case'.caseId = case.caseId := hfirst.caseId
  have hpin : case'.pin = case.pin := hfirst.pin
  refine ⟨?_, hsecond.caseId.trans hid, hsecond.pin.trans hpin, fun other hne => ?_,
    fun k event hevent => ?_,
    fun k event hevent => hsecond.kept k event (hfirst.kept k event hevent), fun hbooked => ?_⟩
  · rw [hsecond.frame, hframe]
  · rw [hsecond.others other (hid.symm ▸ hne), hfirst.others other hne]
  · rcases hsecond.origin k event hevent with ⟨hcase, hrelease, hname⟩ | hold
    · rw [hid, hframe] at hname
      exact .inl ⟨hid ▸ hcase, hpin ▸ hrelease, hname⟩
    · exact hfirst.origin k event hold
  · have hmiddle : Booked (accountOf middle.ledgerEvents case.caseId) case' :=
      hfirst.booked hbooked
    rw [← hid] at hmiddle ⊢
    exact hsecond.booked hmiddle

lemma Books.of_case (hid : case'.caseId = case.caseId)
    (hpin : case'.pin = case.pin) (hbooked : ∀ a : Account, Booked a case → Booked a case') :
    Books h command state case (state, case') :=
  ⟨rfl, hid, hpin, fun _ _ => rfl, fun _ _ hevent => .inr hevent, fun _ _ hevent => hevent,
    hbooked _⟩

lemma Books.refl (state : FareControlWorldStateV1) (case : FareInspectionCaseV1) :
    Books h command state case (state, case) := .of_case rfl rfl fun _ h => h

lemma Books.of_posted {posted : FareControlWorldStateV1} {added : Account}
    (hposted : Posted h command state posted (some case.caseId) case.pin.economyRelease added)
    (hid : case'.caseId = case.caseId) (hpin : case'.pin = case.pin)
    (hbooked : ∀ a : Account, Booked a case → Booked (added.plus a) case') :
    Books h command state case (posted, case') := by
  refine ⟨hposted.frame, hid, hpin, fun other hne => ?_, hposted.origin, hposted.kept,
    fun h => ?_⟩
  · rw [hposted.account other, if_neg]
    simpa using Ne.symm hne
  · rw [hposted.account case.caseId, if_pos (by simp)]
    exact hbooked _ h

/-! ### Costs and claims -/

lemma entry_handling (value : Int) :
    entry .handlingCost [(.handlingCost, value), (.cash, -value)] = { handling := value } := by
  ext <;> simp [entry, sumOf]

lemma entry_claim (claim : Int) :
    entry .claimOpened [(.receivable, claim), (.claimAccrual, -claim)] =
      { receivable := claim, accrual := -claim, claims := 1 } := by
  ext <;> simp [entry, sumOf]

lemma entry_payment (value : Int) :
    entry .payment [(.cash, value), (.receivable, -value)] =
      { cash := value, receivable := -value, payments := 1 } := by
  ext <;> simp [entry, sumOf]

lemma entry_writeOff (value : Int) :
    entry .writeOff [(.writeOff, value), (.receivable, -value)] =
      { writeOff := value, receivable := -value, writeOffs := 1 } := by
  ext <;> simp [entry, sumOf]

lemma entry_reduction (reduction receivable refund reversed : Int) :
    entry .reduction [(.claimReduction, reduction), (.receivable, -receivable), (.cash, -refund),
        (.writeOff, -reversed)] =
      { reduction := reduction, receivable := -receivable, cash := -refund, writeOff := -reversed,
        reductions := 1 } := by
  ext <;> simp [entry, sumOf]

/-- Costs that are posted are costs of the case. -/
lemma Booked.charge {case : FareInspectionCaseV1} {old value : Int}
    (h : Booked a case) (hold : nonnegative case.costsCents = .ok old) (hvalue : 0 ≤ value)
    (hmax : old + value ≤ i64Max) :
    Booked (Account.plus { handling := value } a)
      { case with costsCents := printInteger (old + value) } := by
  obtain ⟨b, hshown, hbalances, hhappened⟩ := h
  obtain rfl : old = b.costs := by
    rw [hshown.costs] at hold
    cases hold
    rfl
  have hnonneg := hshown.nonneg
  refine ⟨{ b with costs := b.costs + value }, ?_, ?_, ?_⟩
  · exact { hshown with
      costs := nonnegative_printInteger.mpr ⟨⟨by omega, hmax⟩, rfl⟩ }
  · constructor <;> simp only [Account.plus]
    · rw [hbalances.receivable]; omega
    · rw [hbalances.accrual]; omega
    · rw [hbalances.cash]; omega
    · rw [hbalances.reduction]; omega
    · rw [hbalances.handling]; omega
    · rw [hbalances.writeOff]; omega
    · exact hbalances.covered
    · exact hbalances.whole
  · constructor <;> simp only [Account.plus, Int.zero_add]
    · exact hhappened.claims
    · exact hhappened.payments
    · exact hhappened.unpaid
    · exact hhappened.reductions
    · exact hhappened.writeOffs
    · exact hhappened.unopened
    · exact hhappened.status

lemma charge_books {charged : FareControlWorldStateV1} {old value time : Int}
    (hpost : post h state command (some case.caseId) time .handlingCost case.pin.economyRelease
      [(.handlingCost, value), (.cash, -value)] tag = .ok charged) (htag : tag ∈ eventTags)
    (hold : nonnegative case.costsCents = .ok old) (hvalue : 0 ≤ value)
    (hmax : old + value ≤ i64Max) :
    Books h command state case
      (charged, { case with costsCents := printInteger (old + value) }) := by
  have hposted := posted_of_post hpost htag
  rw [entry_handling] at hposted
  exact .of_posted hposted rfl rfl fun a hbooked => hbooked.charge hold hvalue hmax

lemma cost_books (hcost : cost h state command case value tag = .ok next) (htag : tag ∈ eventTags) :
    Books h command state case next := by
  unfold cost at hcost
  split at hcost
  · cases hcost
    exact .refl state case
  · simp only [bind_eq_ok_iff, need_eq_ok, exists_const, decide_eq_true_eq, add_eq_ok] at hcost
    obtain ⟨hpos, old, hold, _, ⟨⟨-, hmax⟩, rfl⟩, posted, hpost, heq⟩ := hcost
    cases heq
    exact charge_books hpost htag hold hpos.le hmax

/-- Two cases show the same amounts and are equally far. -/
structure SameBooks (case case' : FareInspectionCaseV1) : Prop where
  caseId : case'.caseId = case.caseId
  pin : case'.pin = case.pin
  original : case'.originalClaimCents = case.originalClaimCents
  claim : case'.claimCents = case.claimCents
  paid : case'.paidCents = case.paidCents
  costs : case'.costsCents = case.costsCents
  writtenOff : case'.writtenOffCents = case.writtenOffCents
  reduced : case'.reducedCents = case.reducedCents
  opened : case'.claimOpenedAtMs = case.claimOpenedAtMs
  processed : case'.paymentProcessed = case.paymentProcessed
  status : case'.status = .open → case.status = .open

/-- A change of anything else keeps a case booked. -/
lemma Booked.of_same {case case' : FareInspectionCaseV1}
    (hsame : SameBooks case case') (h : Booked a case) : Booked a case' := by
  obtain ⟨b, hshown, hbalances, hhappened⟩ := h
  refine ⟨b, ⟨?_, ?_, ?_, ?_, ?_, ?_⟩, hbalances, ?_⟩
  · rw [hsame.original, hshown.original]
  · rw [hsame.claim, hshown.claim]
  · rw [hsame.paid, hshown.paid]
  · rw [hsame.costs, hshown.costs]
  · rw [hsame.writtenOff, hshown.writtenOff]
  · rw [hsame.reduced, hshown.reduced]
  · refine ⟨?_, ?_, ?_, ?_, hhappened.writeOffs, ?_, ?_⟩
    · rw [hsame.opened, hhappened.claims]
    · rw [hsame.processed]
      exact hhappened.payments
    · rw [hsame.processed]
      exact hhappened.unpaid
    · rw [IsReduced, hsame.pin]
      exact hhappened.reductions
    · rw [hsame.opened, hsame.processed]
      exact hhappened.unopened
    · rw [hsame.opened]
      exact fun hopen => hhappened.status (hsame.status hopen)

lemma Books.of_same (state : FareControlWorldStateV1)
    (hsame : SameBooks case case') : Books h command state case (state, case') :=
  .of_case hsame.caseId hsame.pin fun _ h => h.of_same hsame

/-- A claim that is made on an open case. -/
lemma Booked.open {case : FareInspectionCaseV1} {claim now : Int}
    {kind : FareClaimKindV1} (h : Booked a case) (hstatus : case.status = .open)
    (hnonneg : 0 ≤ claim) (hmax : claim ≤ i64Max) :
    Booked (Account.plus { receivable := claim, accrual := -claim, claims := 1 } a)
      { case with
        status := .claimOpen
        claimKind := some kind
        claimOpenedAtMs := some now
        originalClaimCents := printInteger claim
        claimCents := printInteger claim } := by
  obtain ⟨b, hshown, hbalances, hhappened⟩ := h
  have hpositive := hshown.nonneg
  have hunopened := hhappened.status hstatus
  obtain ⟨horiginal, hreductions, hprocessed⟩ := hhappened.unopened hunopened
  obtain ⟨hpaid, hwrittenOff, hwriteOffs⟩ := hhappened.unpaid hprocessed
  have hwhole := hbalances.whole
  have hclaims := hhappened.claims
  rw [hunopened] at hclaims
  have hprinted : nonnegative (printInteger claim) = .ok claim :=
    nonnegative_printInteger.mpr ⟨⟨hnonneg, hmax⟩, rfl⟩
  refine ⟨{ b with original := claim, claim := claim }, ?_, ?_, ?_⟩
  · exact { hshown with original := hprinted, claim := hprinted }
  · constructor <;> simp only [Account.plus]
    · rw [hbalances.receivable]; omega
    · rw [hbalances.accrual]; omega
    · rw [hbalances.cash]; omega
    · rw [hbalances.reduction]; omega
    · rw [hbalances.handling]; omega
    · rw [hbalances.writeOff]; omega
    · omega
    · omega
  · constructor <;> simp only [Account.plus, Int.zero_add]
    · rw [hclaims]
      rfl
    · exact hhappened.payments
    · exact hhappened.unpaid
    · exact .inl hreductions
    · exact .inl hwriteOffs
    · rintro ⟨⟩
    · rintro ⟨⟩

/-- A claim that is made keeps the books. -/
lemma createClaim_books {kind : FareClaimKindV1}
    (hclaim : createClaim h state command case kind = .ok next) :
    Books h command state case next := by
  unfold createClaim at hclaim
  simp only [bind_eq_ok_iff, need_eq_ok, exists_const, orThrow_eq_ok, mul_eq_ok] at hclaim
  obtain ⟨hallowed, r, hrules, fareText, -, fare, hfare, _, ⟨⟨-, hmax⟩, rfl⟩, minimum, hminimum,
    posted, hpost, handling, hhandling, hcost⟩ := hclaim
  have hstatus : case.status = .open := by
    simp only [claimAllowed, Bool.and_eq_true, beq_iff_eq] at hallowed
    exact hallowed.1.1.1.1
  have hleast := (nonnegative_eq_ok.mp hminimum).1
  have hposted := posted_of_post hpost (by decide)
  rw [entry_claim] at hposted
  refine .trans (.of_posted hposted ?_ ?_ fun a hbooked => ?_) (cost_books hcost (by decide))
  · rfl
  · rfl
  · exact hbooked.open hstatus (hleast.1.trans (le_max_right _ _)) (max_le hmax hleast.2)

/-! ### Reductions, payments and write-offs -/

/-- A claim that is reduced: what was paid too much goes back, then what was written off. -/
lemma Booked.reduce {case : FareInspectionCaseV1} {r : FareInspectionEconomyV1}
    {reduced old paid writtenOff oldReduced : Int} (h : Booked a case)
    (hrules : rules case.pin.economyRelease = .ok r)
    (hreduced : nonnegative r.reducedClaimCents = .ok reduced)
    (hold : nonnegative case.claimCents = .ok old) (hmore : reduced < old)
    (hpaid : nonnegative case.paidCents = .ok paid)
    (hwrittenOff : nonnegative case.writtenOffCents = .ok writtenOff)
    (holdReduced : nonnegative case.reducedCents = .ok oldReduced)
    (hmax : oldReduced + (old - reduced) ≤ i64Max) (hopened : case.claimOpenedAtMs ≠ none) :
    Booked (Account.plus
        { reduction := old - reduced
          receivable := -(old - reduced - max (paid - reduced) 0
            - min writtenOff (old - reduced - max (paid - reduced) 0))
          cash := -max (paid - reduced) 0
          writeOff := -min writtenOff (old - reduced - max (paid - reduced) 0)
          reductions := 1 } a)
      { case with
        claimCents := printInteger reduced
        paidCents := printInteger (paid - max (paid - reduced) 0)
        writtenOffCents := printInteger
          (writtenOff - min writtenOff (old - reduced - max (paid - reduced) 0))
        reducedCents := printInteger (oldReduced + (old - reduced)) } := by
  obtain ⟨b, hshown, hbalances, hhappened⟩ := h
  have hpositive := hshown.nonneg
  have hbounds := (nonnegative_eq_ok.mp hreduced).1
  have hpaidMax := (nonnegative_eq_ok.mp hpaid).1.2
  have hwrittenMax := (nonnegative_eq_ok.mp hwrittenOff).1.2
  rw [hshown.claim] at hold
  rw [hshown.paid] at hpaid
  rw [hshown.writtenOff] at hwrittenOff
  rw [hshown.reduced] at holdReduced
  cases hold
  cases hpaid
  cases hwrittenOff
  cases holdReduced
  have hcovered := hbalances.covered
  have hwhole := hbalances.whole
  refine ⟨{ b with
    claim := reduced
    paid := b.paid - max (b.paid - reduced) 0
    writtenOff := b.writtenOff
      - min b.writtenOff (b.claim - reduced - max (b.paid - reduced) 0)
    reduced := b.reduced + (b.claim - reduced) }, ?_, ?_, ?_⟩
  · exact { hshown with
      claim := nonnegative_printInteger.mpr ⟨hbounds, rfl⟩
      paid := nonnegative_printInteger.mpr ⟨by omega, rfl⟩
      writtenOff := nonnegative_printInteger.mpr ⟨by omega, rfl⟩
      reduced := nonnegative_printInteger.mpr ⟨by omega, rfl⟩ }
  · constructor <;> simp only [Account.plus]
    · rw [hbalances.receivable]; omega
    · rw [hbalances.accrual]; omega
    · rw [hbalances.cash]; omega
    · rw [hbalances.reduction]; omega
    · rw [hbalances.handling]; omega
    · rw [hbalances.writeOff]; omega
    · omega
    · omega
  · constructor <;> simp only [Account.plus, Int.zero_add]
    · exact hhappened.claims
    · exact hhappened.payments
    · intro hprocessed
      obtain ⟨hzero, hnothing, hnever⟩ := hhappened.unpaid hprocessed
      exact ⟨by omega, by omega, hnever⟩
    · refine .inr ⟨?_, r, reduced, hrules, hreduced, le_rfl⟩
      -- A claim that was reduced before is not reduced again.
      rcases hhappened.reductions with hnone | ⟨-, r', reduced', hrules', hreduced', hle⟩
      · omega
      · rw [hrules] at hrules'
        cases hrules'
        rw [hreduced] at hreduced'
        cases hreduced'
        omega
    · rcases hhappened.writeOffs with hnone | ⟨hone, hall⟩
      · exact .inl hnone
      · exact .inr ⟨hone, by omega⟩
    · exact fun hunopened => absurd hunopened hopened
    · exact hhappened.status

/-- What a step leaves as it is while a claim is open. -/
structure Keeps (case : FareInspectionCaseV1)
    (next : FareControlWorldStateV1 × FareInspectionCaseV1) : Prop where
  opened : next.2.claimOpenedAtMs = case.claimOpenedAtMs
  pin : next.2.pin = case.pin
  processed : case.paymentProcessed = true → next.2.paymentProcessed = true

/-- A reduction keeps the books of a claim. -/
lemma reduce_books (hreduce : reduce h state command case time = .ok next)
    (hopened : case.claimOpenedAtMs ≠ none) : Books h command state case next ∧
    Keeps case next := by
  unfold reduce at hreduce
  simp only [bind_eq_ok_iff] at hreduce
  obtain ⟨r, hrules, reduced, hreduced, old, hold, hreduce⟩ := hreduce
  split at hreduce
  · cases hreduce
    exact ⟨.refl state case, rfl, rfl, id⟩
  · rename_i hmore
    simp only [bind_eq_ok_iff, add_eq_ok] at hreduce
    obtain ⟨paid, hpaid, writtenOff, hwrittenOff, posted, hpost, oldReduced, holdReduced, _,
      ⟨⟨-, hmax⟩, rfl⟩, handling, hhandling, hrest⟩ := hreduce
    have hposted := posted_of_post hpost (by decide)
    rw [entry_reduction] at hposted
    have hbooked := fun (a : Account) (h : Booked a case) => h.reduce hrules hreduced hold
      (lt_of_not_ge hmore) hpaid hwrittenOff holdReduced hmax hopened
    have hbooks := fun hid hpin => Books.of_posted hposted hid hpin hbooked
    split at hrest
    · rename_i hpos
      simp only [bind_eq_ok_iff, add_eq_ok] at hrest
      obtain ⟨oldCosts, holdCosts, _, ⟨⟨-, hcosts⟩, rfl⟩, charged, hcharge, heq⟩ := hrest
      cases heq
      exact ⟨(hbooks rfl rfl).trans (charge_books hcharge (by decide) holdCosts hpos.le hcosts),
        rfl, rfl, id⟩
    · cases hrest
      exact ⟨hbooks rfl rfl, rfl, rfl, id⟩

/-- A payment of no more than the claim. -/
lemma Booked.pay {case : FareInspectionCaseV1}
    (h : Booked a case) (hprocessed : case.paymentProcessed = false)
    (hclaim : nonnegative case.claimCents = .ok claim) (hpos : 0 ≤ value) (hle : value ≤ claim)
    (hopened : case.claimOpenedAtMs ≠ none) :
    Booked (Account.plus { cash := value, receivable := -value, payments := 1 } a)
      { case with paidCents := printInteger value, paymentProcessed := true } := by
  obtain ⟨b, hshown, hbalances, hhappened⟩ := h
  have hmax := (nonnegative_eq_ok.mp hclaim).1.2
  rw [hshown.claim] at hclaim
  cases hclaim
  obtain ⟨hpaid, hwrittenOff, hwriteOffs⟩ := hhappened.unpaid hprocessed
  have hpayments : a.payments = 0 := by
    rcases hhappened.payments with hnone | ⟨-, hdone⟩
    · exact hnone
    · rw [hprocessed] at hdone
      cases hdone
  refine ⟨{ b with paid := value }, ?_, ?_, ?_⟩
  · exact { hshown with paid := nonnegative_printInteger.mpr ⟨⟨hpos, by omega⟩, rfl⟩ }
  · constructor <;> simp only [Account.plus]
    · rw [hbalances.receivable]; omega
    · rw [hbalances.accrual]; omega
    · rw [hbalances.cash]; omega
    · rw [hbalances.reduction]; omega
    · rw [hbalances.handling]; omega
    · rw [hbalances.writeOff]; omega
    · omega
    · exact hbalances.whole
  · constructor <;> simp only [Account.plus, Int.zero_add]
    · exact hhappened.claims
    · exact .inr ⟨by omega, trivial⟩
    · rintro ⟨⟩
    · exact hhappened.reductions
    · exact .inl hwriteOffs
    · exact fun hunopened => absurd hunopened hopened
    · exact hhappened.status

/-- A payment of nothing. -/
lemma Booked.processed {case : FareInspectionCaseV1} (h : Booked a case)
    (hopened : case.claimOpenedAtMs ≠ none) : Booked a { case with paymentProcessed := true } := by
  obtain ⟨b, hshown, hbalances, hhappened⟩ := h
  refine ⟨b, { hshown with }, hbalances, ?_⟩
  constructor
  · exact hhappened.claims
  · rcases hhappened.payments with hnone | ⟨hone, -⟩
    · exact .inl hnone
    · exact .inr ⟨hone, rfl⟩
  · rintro ⟨⟩
  · exact hhappened.reductions
  · exact hhappened.writeOffs
  · exact fun hunopened => absurd hunopened hopened
  · exact hhappened.status

lemma fraction_le {share : ℕ} (hclaim : 0 ≤ claim) (hshare : share ≤ 10000)
    (h : fraction claim share = .ok value) : value ≤ claim := by
  rw [fraction, orThrow_eq_ok, checked64_eq_some_iff] at h
  obtain ⟨-, rfl⟩ := h
  rw [Int.tdiv_eq_ediv_of_nonneg (by positivity)]
  refine Int.ediv_le_of_le_mul (by decide) ?_
  exact Int.mul_le_mul_of_nonneg_left (by exact_mod_cast hshare) hclaim

lemma paymentOf_le {r : FareInspectionEconomyV1}
    (hrules : rules case.pin.economyRelease = .ok r) (hclaim : 0 ≤ claim)
    (h : paymentOf r case claim = .ok value) : value ≤ claim := by
  unfold paymentOf at h
  split at h
  · cases h
    exact le_rfl
  · split at h
    · exact fraction_le hclaim (partialShare_lt hrules).le h
    · cases h
      exact hclaim

/-- A payment keeps the books of a claim; when it is due, it has been processed behind it. -/
lemma processPayment_books (hpay : processPayment h state command case time = .ok next)
    (hopened : case.claimOpenedAtMs ≠ none) :
    Books h command state case next ∧ Keeps case next ∧
      (time ≤ command.nowMs → next.2.paymentProcessed = true) := by
  unfold processPayment at hpay
  simp only [bind_eq_ok_iff] at hpay
  obtain ⟨r, hrules, hpay⟩ := hpay
  split at hpay
  · rename_i hdue
    rw [Bool.and_eq_true, Bool.not_eq_true'] at hdue
    simp only [bind_eq_ok_iff] at hpay
    obtain ⟨claim, hclaim, value, hvalue, hpay⟩ := hpay
    have hle := paymentOf_le hrules (nonnegative_eq_ok.mp hclaim).1.1 hvalue
    split at hpay
    · rename_i hpos
      simp only [bind_eq_ok_iff] at hpay
      obtain ⟨posted, hpost, heq⟩ := hpay
      cases heq
      have hposted := posted_of_post hpost (by decide)
      rw [entry_payment] at hposted
      exact ⟨.of_posted hposted rfl rfl fun a hbooked =>
        hbooked.pay hdue.1 hclaim hpos.le hle hopened, ⟨rfl, rfl, fun _ => rfl⟩, fun _ => rfl⟩
    · cases hpay
      exact ⟨.of_case rfl rfl fun a hbooked => hbooked.processed hopened, ⟨rfl, rfl, fun _ => rfl⟩,
        fun _ => rfl⟩
  · rename_i hdone
    cases hpay
    refine ⟨.refl state case, ⟨rfl, rfl, id⟩, fun htime => ?_⟩
    simpa [htime] using hdone

/-- What is left of a claim is written off, once. -/
lemma Booked.writeOff {case : FareInspectionCaseV1} {claim paid writtenOff : Int}
    (h : Booked a case) (hprocessed : case.paymentProcessed = true)
    (hclaim : nonnegative case.claimCents = .ok claim)
    (hpaid : nonnegative case.paidCents = .ok paid)
    (hwrittenOff : nonnegative case.writtenOffCents = .ok writtenOff)
    (hpos : 0 < claim - paid - writtenOff) :
    Booked (Account.plus
        { writeOff := claim - paid - writtenOff
          receivable := -(claim - paid - writtenOff)
          writeOffs := 1 } a)
      { case with writtenOffCents := printInteger (writtenOff + (claim - paid - writtenOff)) } := by
  obtain ⟨b, hshown, hbalances, hhappened⟩ := h
  have hmax := (nonnegative_eq_ok.mp hclaim).1.2
  have hpositive := hshown.nonneg
  rw [hshown.claim] at hclaim
  rw [hshown.paid] at hpaid
  rw [hshown.writtenOff] at hwrittenOff
  cases hclaim
  cases hpaid
  cases hwrittenOff
  refine ⟨{ b with writtenOff := b.writtenOff + (b.claim - b.paid - b.writtenOff) }, ?_, ?_, ?_⟩
  · exact { hshown with
      writtenOff := nonnegative_printInteger.mpr ⟨⟨by omega, by omega⟩, rfl⟩ }
  · constructor <;> simp only [Account.plus]
    · rw [hbalances.receivable]; omega
    · rw [hbalances.accrual]; omega
    · rw [hbalances.cash]; omega
    · rw [hbalances.reduction]; omega
    · rw [hbalances.handling]; omega
    · rw [hbalances.writeOff]; omega
    · omega
    · exact hbalances.whole
  · constructor <;> simp only [Account.plus, Int.zero_add]
    · exact hhappened.claims
    · exact hhappened.payments
    · intro hunpaid
      rw [hprocessed] at hunpaid
      cases hunpaid
    · exact hhappened.reductions
    · rcases hhappened.writeOffs with hnone | ⟨-, hall⟩
      · exact .inr ⟨by omega, by omega⟩
      · omega
    · exact hhappened.unopened
    · exact hhappened.status

/-- A write-off keeps the books of a claim whose payment has been processed. -/
lemma writeOffRemaining_books (hwrite : writeOffRemaining h state command case time = .ok next)
    (hprocessed : case.paymentProcessed = true) : Books h command state case next ∧
    Keeps case next := by
  unfold writeOffRemaining at hwrite
  simp only [bind_eq_ok_iff, need_eq_ok, exists_const] at hwrite
  obtain ⟨claim, hclaim, paid, hpaid, writtenOff, hwrittenOff, -, hwrite⟩ := hwrite
  split at hwrite
  · rename_i hpos
    simp only [bind_eq_ok_iff, add_eq_ok] at hwrite
    obtain ⟨posted, hpost, _, ⟨-, rfl⟩, heq⟩ := hwrite
    cases heq
    have hposted := posted_of_post hpost (by decide)
    rw [entry_writeOff] at hposted
    exact ⟨.of_posted hposted rfl rfl fun a hbooked =>
      hbooked.writeOff hprocessed hclaim hpaid hwrittenOff hpos, rfl, rfl, id⟩
  · cases hwrite
    exact ⟨.refl state case, rfl, rfl, id⟩

/-! ### What is due -/

/-- Nothing is written off before the payment has been processed. -/
def PaidFirst (processed : Bool) : List (Int × DueKind) → Prop
  | [] => True
  | due :: later => (due.2 = .writeOff → processed = true)
      ∧ PaidFirst (processed || due.2 == .payment) later

lemma PaidFirst.mono {processed processed' : Bool} {dues : List (Int × DueKind)}
    (hmono : processed = true → processed' = true) (hfirst : PaidFirst processed dues) :
    PaidFirst processed' dues := by
  induction dues generalizing processed processed' with
  | nil => trivial
  | cons due later ih =>
    refine ⟨fun hkind => hmono (hfirst.1 hkind), ih (fun h => ?_) hfirst.2⟩
    rw [Bool.or_eq_true] at h ⊢
    exact h.imp_left hmono

/-- What is due comes in one of three orders, or in a single one without a proof. -/
lemma dueEntries_cases {paymentAt writeoffAt : Int} (proofAt : Option Int)
    (hlt : paymentAt < writeoffAt) :
    dueEntries paymentAt writeoffAt proofAt = [(paymentAt, .payment), (writeoffAt, .writeOff)] ∨
    ∃ time,
      dueEntries paymentAt writeoffAt proofAt =
        [(paymentAt, .payment), (writeoffAt, .writeOff), (time, .proof)] ∨
      dueEntries paymentAt writeoffAt proofAt =
        [(paymentAt, .payment), (time, .proof), (writeoffAt, .writeOff)] ∨
      dueEntries paymentAt writeoffAt proofAt =
        [(time, .proof), (paymentAt, .payment), (writeoffAt, .writeOff)] := by
  have hpay : notLater (paymentAt, .payment) (writeoffAt, .writeOff) = true := by
    simp [notLater, hlt]
  cases proofAt with
  | none => exact .inl (by simp [dueEntries, hpay])
  | some time =>
    refine .inr ⟨time, ?_⟩
    by_cases hlate : notLater (writeoffAt, .writeOff) (time, .proof) = true
    · exact .inl (by simp [dueEntries, hpay, hlate])
    · by_cases hmiddle : notLater (paymentAt, .payment) (time, .proof) = true
      · exact .inr (.inl (by simp [dueEntries, hlate, hmiddle]))
      · exact .inr (.inr (by simp [dueEntries, hpay, hlate, hmiddle]))

/-- Where the payment is due before the write-off, it also comes first. -/
lemma paidFirst_dueEntries {paymentAt writeoffAt now : Int} (proofAt : Option Int)
    (hlt : paymentAt < writeoffAt) :
    PaidFirst false ((dueEntries paymentAt writeoffAt proofAt).filter fun due => due.1 ≤ now) := by
  have hpaid : writeoffAt ≤ now → paymentAt ≤ now := fun h => by omega
  rcases dueEntries_cases proofAt hlt with heq | ⟨time, heq | heq | heq⟩
  · rw [heq, List.filter_cons, List.filter_cons, List.filter_nil]
    by_cases hwrite : writeoffAt ≤ now
    · simp [hwrite, hpaid hwrite, PaidFirst]
    · by_cases hdue : paymentAt ≤ now <;> simp [hwrite, hdue, PaidFirst]
  all_goals
    rw [heq, List.filter_cons, List.filter_cons, List.filter_cons, List.filter_nil]
    by_cases hwrite : writeoffAt ≤ now
    · by_cases hproof : time ≤ now <;> simp [hwrite, hpaid hwrite, hproof, PaidFirst]
    · by_cases hdue : paymentAt ≤ now <;> by_cases hproof : time ≤ now <;>
        simp [hwrite, hdue, hproof, PaidFirst]

/-- What is due keeps the books of a claim. -/
lemma workOff_books {due : Int × DueKind} {current : FareControlWorldStateV1 × FareInspectionCaseV1}
    (hwork : workOff h command current due = .ok next) (hdue : due.1 ≤ command.nowMs)
    (hopened : current.2.claimOpenedAtMs ≠ none)
    (hpaid : due.2 = .writeOff → current.2.paymentProcessed = true) :
    Books h command current.1 current.2 next ∧ Keeps current.2 next ∧
      (due.2 = .payment → next.2.paymentProcessed = true) := by
  unfold workOff at hwork
  split at hwork
  · rename_i hkind
    obtain ⟨hbooks, hkeeps⟩ := reduce_books hwork hopened
    refine ⟨hbooks, hkeeps, fun hpayment => ?_⟩
    rw [hkind] at hpayment
    cases hpayment
  · obtain ⟨hbooks, hkeeps, hprocessed⟩ := processPayment_books hwork hopened
    exact ⟨hbooks, hkeeps, fun _ => hprocessed hdue⟩
  · rename_i hkind
    obtain ⟨hbooks, hkeeps⟩ := writeOffRemaining_books hwork (hpaid hkind)
    refine ⟨hbooks, hkeeps, fun hpayment => ?_⟩
    rw [hkind] at hpayment
    cases hpayment

/-- Whatever is due keeps the books of a claim. -/
lemma workOff_foldlM {dues : List (Int × DueKind)}
    {current : FareControlWorldStateV1 × FareInspectionCaseV1}
    (hwork : dues.foldlM (workOff h command) current = .ok next)
    (hdue : ∀ due ∈ dues, due.1 ≤ command.nowMs) (hopened : current.2.claimOpenedAtMs ≠ none)
    (hfirst : PaidFirst current.2.paymentProcessed dues) :
    Books h command current.1 current.2 next := by
  induction dues generalizing current with
  | nil =>
    cases hwork
    exact .refl next.1 next.2
  | cons due later ih =>
    obtain ⟨middle, hone, hrest⟩ := foldlM_cons_eq_ok_iff.mp hwork
    obtain ⟨hnow, hlater⟩ := List.forall_mem_cons.mp hdue
    obtain ⟨hbooks, hkeeps, hprocessed⟩ := workOff_books hone hnow hopened hfirst.1
    refine hbooks.trans (ih hrest hlater (hkeeps.opened ▸ hopened) (hfirst.2.mono fun h => ?_))
    rw [Bool.or_eq_true, beq_iff_eq] at h
    exact h.elim hkeeps.processed hprocessed

lemma sameBooks_expectProof (r : FareInspectionEconomyV1) (now proofAt : Int)
    (case : FareInspectionCaseV1) : SameBooks case (expectProof r now proofAt case) := by
  unfold expectProof
  split
  · split <;> exact ⟨rfl, rfl, rfl, rfl, rfl, rfl, rfl, rfl, rfl, rfl, id⟩
  · exact ⟨rfl, rfl, rfl, rfl, rfl, rfl, rfl, rfl, rfl, rfl, id⟩

lemma sameBooks_acceptProof (now : Int) (case : FareInspectionCaseV1) :
    SameBooks case (acceptProof now case) := by
  unfold acceptProof
  split <;> exact ⟨rfl, rfl, rfl, rfl, rfl, rfl, rfl, rfl, rfl, rfl, id⟩

/-- Working off what is due in a claim keeps its books. -/
lemma advanceClaim_books {opened : Int}
    (hadvance : advanceClaim h state command case opened = .ok next)
    (hopened : case.claimOpenedAtMs = some opened) : Books h command state case next := by
  unfold advanceClaim at hadvance
  simp only [bind_eq_ok_iff, add_eq_ok] at hadvance
  obtain ⟨r, hrules, proofAt, -, _, ⟨-, rfl⟩, _, ⟨-, rfl⟩, worked, hworked, hrest⟩ := hadvance
  have hexpect := sameBooks_expectProof r command.nowMs proofAt case
  have haccept := sameBooks_acceptProof command.nowMs (expectProof r command.nowMs proofAt case)
  have hlt := paymentDelay_lt hrules
  have hbooks : Books h command state case worked := by
    refine (Books.of_same state hexpect).trans ((Books.of_same state haccept).trans ?_)
    refine workOff_foldlM hworked (fun due hin => ?_) ?_ ?_
    · exact of_decide_eq_true (List.mem_filter.mp hin).2
    · rw [haccept.opened, hexpect.opened, hopened]
      rintro ⟨⟩
    · exact (paidFirst_dueEntries _ (by omega)).mono (by rintro ⟨⟩)
  split at hrest
  · cases hrest
    refine hbooks.trans (.of_same _ ⟨rfl, rfl, rfl, rfl, rfl, rfl, rfl, rfl, rfl, rfl, ?_⟩)
    rintro ⟨⟩
  · cases hrest
    exact hbooks

lemma advanceCase_books (hadvance : advanceCase h state command case = .ok next) :
    Books h command state case next := by
  unfold advanceCase at hadvance
  cases hopened : case.claimOpenedAtMs with
  | none =>
    rw [hopened] at hadvance
    cases hadvance
    exact .refl state case
  | some opened =>
    rw [hopened] at hadvance
    exact advanceClaim_books hadvance hopened

lemma receiveProof_books {receivedAtMs : Int}
    (hreceive : receiveProof h state command case receivedAtMs = .ok next) :
    Books h command state case next := by
  unfold receiveProof at hreceive
  simp only [bind_eq_ok_iff, need_eq_ok, exists_const] at hreceive
  refine .trans (.of_same state ?_) (advanceCase_books hreceive.2)
  exact ⟨rfl, rfl, rfl, rfl, rfl, rfl, rfl, rfl, rfl, rfl, id⟩

/-! ### Every case of a state -/

/-- Every case is booked, and every event of a case belongs to one that is there and carries its
release. -/
structure AllBooked (state : FareControlWorldStateV1) : Prop where
  cases : ∀ (caseId : String) (case : FareInspectionCaseV1), state.cases[caseId]? = some case →
    case.caseId = caseId ∧ Booked (accountOf state.ledgerEvents caseId) case
  events : ∀ (k : String) (event : FareLedgerEventV1) (caseId : String),
    state.ledgerEvents[k]? = some event → event.caseId = some caseId →
      ∃ case : FareInspectionCaseV1, state.cases[caseId]? = some case ∧
        event.economyReleaseHash = case.pin.economyRelease.checksum

/-- A case that was taken out and is put back keeps every case booked. -/
lemma AllBooked.putBack (hall : AllBooked state) (hfound : state.cases[caseId]? = some case)
    (hbooks : Books h command { state with cases := state.cases.erase caseId } case next) :
    AllBooked { next.1 with cases := next.1.cases.insert caseId next.2 } := by
  obtain ⟨rfl, hbooked⟩ := hall.cases caseId case hfound
  have hcases : next.1.cases = state.cases.erase case.caseId := by rw [hbooks.frame]
  refine ⟨fun other found hother => ?_, fun k event other hevent hcase => ?_⟩
  · rw [hcases, Registry.getElem?_insert] at hother
    split at hother
    · rename_i heq
      obtain rfl : other = case.caseId := by simpa using heq
      cases hother
      exact ⟨hbooks.caseId, hbooks.booked hbooked⟩
    · rename_i hne
      rw [Registry.getElem?_erase, if_neg hne] at hother
      obtain ⟨hid, hotherBooked⟩ := hall.cases other found hother
      refine ⟨hid, ?_⟩
      rw [hbooks.others other (by simpa using hne)]
      exact hotherBooked
  · rcases hbooks.origin k event hevent with hown | hold
    · rw [hown.ofCase] at hcase
      cases hcase
      refine ⟨next.2, by rw [hcases, Registry.getElem?_insert, if_pos rfl], ?_⟩
      rw [hbooks.pin]
      exact hown.ofRelease
    · obtain ⟨found, hother, hrelease⟩ := hall.events k event other hold hcase
      rw [hcases, Registry.getElem?_insert]
      split
      next heq =>
        subst heq
        rw [hfound] at hother
        cases hother
        exact ⟨next.2, rfl, by rw [hbooks.pin, hrelease]⟩
      next hne =>
        rw [Registry.getElem?_erase, if_neg hne]
        exact ⟨found, hother, hrelease⟩

variable (h command) in
lemma onCase_allBooked {change : FareControlWorldStateV1 → FareInspectionCaseV1 →
      Outcome (FareControlWorldStateV1 × FareInspectionCaseV1)}
    (hchange : ∀ (state : FareControlWorldStateV1) (case : FareInspectionCaseV1)
      (next : FareControlWorldStateV1 × FareInspectionCaseV1),
      change state case = .ok next → Books h command state case next)
    (hdone : onCase state caseId change = .ok after) (hall : AllBooked state) :
    AllBooked after := by
  unfold onCase at hdone
  simp only [bind_eq_ok_iff, orThrow_eq_ok] at hdone
  obtain ⟨case, hfound, changed, hchanged, heq⟩ := hdone
  cases heq
  exact hall.putBack hfound (hchange _ _ _ hchanged)

lemma booked_newCase (h : Hashing) (caseId : String) (pin : FareInspectionPinV1) (deadline : Int) :
    Booked {} (newCase h caseId pin deadline) := by
  have hzero : nonnegative "0" = .ok 0 := by decide
  refine ⟨⟨0, 0, 0, 0, 0, 0⟩, ⟨hzero, hzero, hzero, hzero, hzero, hzero⟩, ?_, ?_⟩
  · constructor <;> decide
  · constructor
    · rfl
    · exact .inl rfl
    · exact fun _ => ⟨rfl, rfl, rfl⟩
    · exact .inl rfl
    · exact .inl rfl
    · exact fun _ => ⟨rfl, rfl, rfl⟩
    · exact fun _ => rfl

/-- A case that is opened keeps every case booked. -/
lemma openCase_allBooked
    {pin : FareInspectionPinV1} (hopen : openCase h state command caseId pin = .ok after)
    (hall : AllBooked state) : AllBooked after := by
  unfold openCase at hopen
  simp only [bind_eq_ok_iff, need_eq_ok, exists_const] at hopen
  obtain ⟨-, -, -, hopen⟩ := hopen
  split at hopen
  · simp only [bind_eq_ok_iff, need_eq_ok, exists_const] at hopen
    cases hopen.2
    exact hall
  · rename_i hnew
    simp only [bind_eq_ok_iff, need_eq_ok, exists_const] at hopen
    obtain ⟨-, r, -, deadline, -, heq⟩ := hopen
    cases heq
    have hnone : state.cases[caseId]? = none :=
      Registry.contains_eq_false.mp (Bool.not_eq_true _ ▸ hnew)
    have hempty : accountOf state.ledgerEvents caseId = {} :=
      accountOf_eq_empty fun k event hevent hcase => by
        obtain ⟨case, hfound, -⟩ := hall.events k event caseId hevent hcase
        rw [hnone] at hfound
        cases hfound
    refine ⟨fun other found hother => ?_, fun k event other hevent hcase => ?_⟩
    · rw [Registry.getElem?_insert] at hother
      split at hother
      · rename_i heq
        obtain rfl : other = caseId := by simpa using heq
        cases hother
        exact ⟨rfl, hempty ▸ booked_newCase h other pin deadline⟩
      · exact hall.cases other found hother
    · obtain ⟨found, hother, hrelease⟩ := hall.events k event other hevent hcase
      rw [Registry.getElem?_insert, if_neg]
      · exact ⟨found, hother, hrelease⟩
      · rintro rfl
        rw [hnone] at hother
        cases hother

/-- A case that is planned for the police stays booked. -/
lemma planCase_allBooked {holdId train caseId : String} {model : PoliceResponseModelV1}
    {current after : FareControlWorldStateV1 × PoliceResponsePlanV1}
    (hplan : planCase holdId train model current caseId = .ok after) (hall : AllBooked current.1) :
    AllBooked after.1 := by
  unfold planCase at hplan
  simp only [bind_eq_ok_iff, orThrow_eq_ok, need_eq_ok, exists_const] at hplan
  obtain ⟨case, hfound, -, heq⟩ := hplan
  cases heq
  refine ⟨fun other found hother => ?_, fun k event other hevent hcase => ?_⟩
  · rw [Registry.getElem?_insert] at hother
    split at hother
    · rename_i heq
      obtain rfl : other = caseId := by simpa using heq
      cases hother
      obtain ⟨hid, hbooked⟩ := hall.cases other case hfound
      refine ⟨hid, hbooked.of_same ?_⟩
      exact ⟨rfl, rfl, rfl, rfl, rfl, rfl, rfl, rfl, rfl, rfl, id⟩
    · exact hall.cases other found hother
  · obtain ⟨found, hother, hrelease⟩ := hall.events k event other hevent hcase
    rw [Registry.getElem?_insert]
    split
    next heq =>
      subst heq
      rw [hfound] at hother
      cases hother
      exact ⟨_, rfl, hrelease⟩
    · exact ⟨found, hother, hrelease⟩

lemma planPolice_allBooked {holdId train target : String}
    {caseIds : List String} {model : PoliceResponseModelV1}
    (hplan : planPolice h state command holdId train target caseIds model = .ok after)
    (hall : AllBooked state) : AllBooked after := by
  unfold planPolice at hplan
  simp only [bind_eq_ok_iff, need_eq_ok, exists_const] at hplan
  obtain ⟨-, -, -, -, -, planned, hplanned, heq⟩ := hplan
  cases heq
  have hcases : AllBooked planned.1 :=
    foldlM_invariant (P := fun current => AllBooked current.1)
      (fun _ _ _ hbefore hstep => planCase_allBooked hstep hbefore) hall hplanned
  exact ⟨hcases.cases, hcases.events⟩

lemma claimOrClose_books {success : Bool}
    (hsettled : claimOrClose h state command case success = .ok next) :
    Books h command state case next := by
  unfold claimOrClose at hsettled
  split at hsettled
  · split at hsettled
    · exact createClaim_books hsettled
    · cases hsettled
      refine .of_same _ ⟨rfl, rfl, rfl, rfl, rfl, rfl, rfl, rfl, rfl, rfl, ?_⟩
      rintro ⟨⟩
  · cases hsettled
    exact .refl _ _

/-- A case whose request to the police has ended stays booked. -/
lemma resolveCase_allBooked {evidence : PoliceOperationalEvidenceV1} {outcome : PoliceCaseOutcomeV1}
    (hresolve : resolveCase h command evidence state outcome = .ok after)
    (hall : AllBooked state) : AllBooked after := by
  unfold resolveCase at hresolve
  simp only [bind_eq_ok_iff, orThrow_eq_ok] at hresolve
  obtain ⟨case, hfound, r, -, handling, -, charged, hcost, settled, hsettled, heq⟩ := hresolve
  cases heq
  have hidentified : ∀ success : Bool, SameBooks case (if success then
      { case with evidence := { case.evidence with identityStatus := .confirmed } } else case) := by
    intro success
    cases success <;> exact ⟨rfl, rfl, rfl, rfl, rfl, rfl, rfl, rfl, rfl, rfl, id⟩
  have hbooks := Books.trans (.of_same { state with cases := state.cases.erase outcome.caseId }
    (hidentified _)) (.trans (cost_books hcost (by decide)) (claimOrClose_books hsettled))
  exact hall.putBack hfound hbooks

/-- The end of a request to the police keeps every case booked. -/
lemma resolvePolice_allBooked {evidence : PoliceOperationalEvidenceV1}
    (hresolve : resolvePolice h state command evidence = .ok after) (hall : AllBooked state) :
    AllBooked after := by
  unfold resolvePolice at hresolve
  simp only [bind_eq_ok_iff, orThrow_eq_ok, need_eq_ok, exists_const] at hresolve
  obtain ⟨plan, -, -, released, -, -, hresolve⟩ := hresolve
  split at hresolve
  · simp only [bind_eq_ok_iff, need_eq_ok, exists_const] at hresolve
    cases hresolve.2
    exact hall
  · simp only [bind_eq_ok_iff] at hresolve
    obtain ⟨_, -, resolved, hresolved, heq⟩ := hresolve
    cases heq
    have hcases : AllBooked resolved :=
      foldlM_invariant (fun _ _ _ hbefore hstep => resolveCase_allBooked hstep hbefore) hall
        hresolved
    exact ⟨hcases.cases, hcases.events⟩

lemma AllBooked.of_posted
    {added : Account} (hposted : Posted h command state after none release added)
    (hall : AllBooked state) : AllBooked after := by
  have hcases : after.cases = state.cases := by rw [hposted.frame]
  refine ⟨fun caseId case hfound => ?_, fun k event caseId hevent hcase => ?_⟩
  · rw [hcases] at hfound
    rw [hposted.account caseId]
    exact hall.cases caseId case hfound
  · rw [hcases]
    rcases hposted.origin k event hevent with hnew | hold
    · rw [hnew.ofCase] at hcase
      cases hcase
    · exact hall.events k event caseId hold hcase

lemma postDay_allBooked
    {kind : FareLedgerEventKindV1} {delta : Int} {postings : List (FareLedgerRoleV1 × Int)}
    (hpost : postDay h state command release kind delta postings tag = .ok after)
    (htag : tag ∈ eventTags) (hall : AllBooked state) : AllBooked after := by
  unfold postDay at hpost
  split at hpost
  · exact hall.of_posted (posted_of_post hpost htag)
  · cases hpost
    exact hall

lemma settleDay_allBooked {start : Int} {evidence : List ConfirmedFareContractRevenueV1}
    (hsettle : settleDay h state command start evidence release = .ok after)
    (hall : AllBooked state) : AllBooked after := by
  unfold settleDay at hsettle
  simp only [bind_eq_ok_iff, need_eq_ok, exists_const] at hsettle
  obtain ⟨r, -, _, -, -, read, -, net, -, cap, -, premium, -, adjustment, -, -, oldPremium, -,
    oldAdjustment, -, withPremium, hpremium, withCap, hcap, revision, -, heq⟩ := hsettle
  cases heq
  have hposted := postDay_allBooked hcap (by decide)
    (postDay_allBooked hpremium (by decide) hall)
  exact ⟨hposted.cases, hposted.events⟩

/-! ### Runs -/

/-- What a command does keeps every case booked. -/
lemma act_allBooked {action : FareControlActionV1}
    (hact : act h state command action = .ok after) (hall : AllBooked state) :
    AllBooked after := by
  cases action with
  | openCase caseId pin => exact openCase_allBooked hact hall
  | inspectDocument caseId =>
    unfold act at hact
    refine onCase_allBooked h command (fun state case next hchange => ?_) hact hall
    simp only [bind_eq_ok_iff] at hchange
    obtain ⟨inspected, hinspect, heq⟩ := hchange
    cases heq
    refine .of_same _ ?_
    unfold inspect at hinspect
    simp only [bind_eq_ok_iff, need_eq_ok, exists_const] at hinspect
    obtain ⟨-, hinspect⟩ := hinspect
    split at hinspect <;> cases hinspect <;>
      exact ⟨rfl, rfl, rfl, rfl, rfl, rfl, rfl, rfl, rfl, rfl, id⟩
  | createClaim caseId kind =>
    exact onCase_allBooked h command (fun _ _ _ hchange => createClaim_books hchange) hact hall
  | closeCase caseId =>
    unfold act at hact
    refine onCase_allBooked h command (fun state case next hchange => ?_) hact hall
    cases hchange
    refine .of_same _ ?_
    unfold close
    split
    · refine ⟨rfl, rfl, rfl, rfl, rfl, rfl, rfl, rfl, rfl, rfl, ?_⟩
      rintro ⟨⟩
    · exact ⟨rfl, rfl, rfl, rfl, rfl, rfl, rfl, rfl, rfl, rfl, id⟩
  | receiveProof caseId receivedAtMs =>
    exact onCase_allBooked h command (fun _ _ _ hchange => receiveProof_books hchange) hact hall
  | advanceTime =>
    exact foldlM_invariant (fun _ _ _ hbefore hstep =>
      onCase_allBooked h command (fun _ _ _ hchange => advanceCase_books hchange) hstep hbefore)
      hall hact
  | planPolice holdId train target caseIds model => exact planPolice_allBooked hact hall
  | resolvePolice evidence => exact resolvePolice_allBooked hact hall
  | settleDay start evidence release => exact settleDay_allBooked hact hall

lemma applyFareControl_allBooked {expectedHash : String} {transition : FareControlTransitionV1}
    (happly : applyFareControl h state expectedHash command = .ok transition)
    (hall : AllBooked state) : AllBooked transition.state := by
  obtain ⟨-, ⟨receipt, -, hsame⟩ | ⟨-, -, next, revision, receipts, stateHash, hact, hstate, -⟩⟩ :=
    applyFareControl_cases happly
  · rw [hsame]
    exact hall
  · have hnext := act_allBooked hact ⟨hall.cases, hall.events⟩
    rw [hstate]
    exact ⟨hnext.cases, hnext.events⟩

lemma run_allBooked {commands : List (String × FareControlCommandV1)}
    (hrun : run h state commands = .ok after)
    (hall : AllBooked state) : AllBooked after := by
  refine foldlM_invariant (fun before sent after hbefore hstep => ?_) hall hrun
  obtain ⟨transition, happly, rfl⟩ := map_eq_ok_iff.mp hstep
  exact applyFareControl_allBooked happly hbefore

/-- What the ledger says about a case is what the case says, and it is said once. -/
structure Balanced (events : Registry String FareLedgerEventV1) (caseId : String)
    (case : FareInspectionCaseV1) (b : Balance) : Prop where
  shown : b.ShownBy case
  balances : b.Balances (accountOf events caseId)
  claims : (accountOf events caseId).claims ≤ 1
  payments : (accountOf events caseId).payments ≤ 1
  reductions : (accountOf events caseId).reductions ≤ 1
  writeOffs : (accountOf events caseId).writeOffs ≤ 1

/-- **The books of every case balance.**  In every state that follows from commands, the postings
of a case add up to what the case shows, and its claim, its payment, its reduction and its write-off
are posted at most once. -/
theorem balanced_of_run {worldId operatorId caseId : String} {nowMs : Int}
    {first state : FareControlWorldStateV1} {commands : List (String × FareControlCommandV1)}
    {case : FareInspectionCaseV1}
    (hfirst : initializeFareControl h worldId operatorId nowMs = .ok first)
    (hrun : run h first commands = .ok state) (hcase : state.cases[caseId]? = some case) :
    ∃ b : Balance, Balanced state.ledgerEvents caseId case b := by
  unfold initializeFareControl at hfirst
  simp only [bind_eq_ok_iff, need_eq_ok, exists_const] at hfirst
  obtain ⟨-, heq⟩ := hfirst
  cases heq
  have hnone : AllBooked _ := run_allBooked hrun ⟨by simp, by simp⟩
  obtain ⟨-, b, hshown, hbalances, hhappened⟩ := hnone.cases caseId case hcase
  refine ⟨b, hshown, hbalances, ?_, ?_, ?_, ?_⟩
  · rw [hhappened.claims]
    split <;> decide
  · rcases hhappened.payments with h | ⟨h, -⟩ <;> omega
  · rcases hhappened.reductions with h | ⟨h, -⟩ <;> omega
  · rcases hhappened.writeOffs with h | ⟨h, -⟩ <;> omega

/-! ### A claim that was paid and then reduced -/

/-- Sixty-four times the same digit. -/
def smallHash (digit : Char) : String := String.ofList (List.replicate 64 digit)

/-- Hashes that are always the same, but for the tag of an event. -/
def smallHashing : Hashing where
  policy _ := smallHash '0'
  journeyEvidence _ := smallHash '0'
  policeModel _ := smallHash '0'
  plan _ := smallHash '0'
  revenueEvidence _ := smallHash '0'
  pin _ := smallHash '0'
  event parts := smallHash (match parts.2.2.2.2 with
    | "claim-opened" => '1'
    | "claim-handling" => '2'
    | "payment" => '3'
    | "proof-reduction" => '4'
    | _ => '5')
  command _ := smallHash '0'
  domain _ := smallHash '0'
  state _ := smallHash '0'

/-- Rules under which every claim is paid in full after a second. -/
def smallRules : FareInspectionEconomyV1 where
  schemaVersion := "fare-inspection-economy/v1"
  minimumClaimCents := "6000"
  ordinaryFareMultiplier := 2
  reducedClaimCents := "700"
  proofWindowDays := 7
  dayLengthMs := 86400000
  handlingCostCents := "50"
  proofHandlingCostCents := "20"
  policeHandlingCostCents := "0"
  fullPaymentBasisPoints := 10000
  partialPaymentBasisPoints := 0
  partialPaymentShareBasisPoints := 5000
  paymentDelayMs := 1000
  writeOffDelayMs := 5000
  validProofSubmissionBasisPoints := 0
  validProofDelayMs := 100000
  premiumMultiplierBasisPoints := 0
  positiveDailyCapBasisPoints := 0
  revenueAllocation := "uniform_settled_service_interval/v1"

/-- A passenger who forgot a valid ticket and could have bought another one. -/
def smallPin : FareInspectionPinV1 where
  worldId := "world"
  operatorId := "operator"
  periodId := "period"
  trainRunId := "train"
  encounterId := "encounter"
  manifestRevision := 1
  demandStateHash := smallHash '0'
  segmentId := "segment"
  passenger :=
    { passengerKey := "passenger"
      boardingStopId := "a"
      alightingStopId := "b"
      fareFact := .validUnpresentable }
  dialogueReleaseHash := smallHash '0'
  inspectedAtMs := 0
  seedHash := smallHash '0'
  inspectionPolicy :=
    { schemaVersion := "fare-inspection-policy/v1"
      policyId := "policy"
      worldId := "world"
      periodId := "period"
      contentHash := smallHash '0'
      invalidDocumentPresentedBasisPoints := 0
      identityRefusalBasisPoints := 0
      concreteDangerBasisPoints := 0 }
  journeyEvidence := some
    { schemaVersion := "fare-journey-evidence/v1"
      evidenceId := "evidence"
      worldId := "world"
      periodId := "period"
      trainRunId := "train"
      boardingStopId := "a"
      alightingStopId := "b"
      ordinaryFareCents := some "400"
      ticketOffice := .available
      ticketMachine := .available
      sourceId := "source"
      contentHash := smallHash '0' }
  economyRelease := ⟨smallHash '0', some smallRules, true⟩
  expectedEconomyReleaseHash := smallHash '0'

/-- Commands that are sent one after the other. -/
def sent (actions : List (Int × FareControlActionV1)) : List (String × FareControlCommandV1) :=
  actions.zipIdx.map fun entry => (smallHash '0',
    { worldId := "world"
      operatorId := "operator"
      commandId := "command-" ++ printInteger entry.2
      expectedRevision := entry.2
      nowMs := entry.1.1
      action := entry.1.2 })

/-- A claim of sixty euros that is paid, and the ticket that is shown later. -/
def paidThenProven : List (String × FareControlCommandV1) :=
  sent [(0, .openCase "case" smallPin), (0, .inspectDocument "case"),
    (0, .createClaim "case" .provisional), (2000, .receiveProof "case" 2000)]

/-- What was paid too much goes back, and the books balance. -/
theorem balanced_of_run_refunded : ∃ (first state : FareControlWorldStateV1)
    (case : FareInspectionCaseV1),
    initializeFareControl smallHashing "world" "operator" 0 = .ok first ∧
      run smallHashing first paidThenProven = .ok state ∧ state.cases["case"]? = some case ∧
      [case.claimCents, case.paidCents, case.reducedCents, case.costsCents] =
        ["700", "700", "5300", "70"] ∧
      ∃ b : Balance, Balanced state.ledgerEvents "case" case b := by
  have hplayed : (initializeFareControl smallHashing "world" "operator" 0).toOption.any
      (fun first => (run smallHashing first paidThenProven).toOption.any fun state =>
        (state.cases["case"]?).any fun case =>
          [case.claimCents, case.paidCents, case.reducedCents, case.costsCents] ==
            ["700", "700", "5300", "70"]) = true := by
    decide +kernel
  obtain ⟨first, hfirst, hplayed⟩ := ok_of_any hplayed
  obtain ⟨state, hrun, hplayed⟩ := ok_of_any hplayed
  obtain ⟨case, hcase, hcheck⟩ := (Option.any_eq_true _ _).mp hplayed
  exact ⟨first, state, case, hfirst, hrun, hcase, beq_iff_eq.mp hcheck,
    balanced_of_run hfirst hrun hcase⟩

end Zugfolge.FareControl
