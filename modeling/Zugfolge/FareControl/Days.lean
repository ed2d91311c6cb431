/-
The settlement of days.

A day may be settled any number of times.  Each settlement posts what the premium and the cap have
changed by since the last one, so that the postings of a day add up to what is recorded of it.  The
revenue of a contract falls on days in shares that add up to the whole.

* `settledSum`, `settlements_of_run`: what the settlements of a run post, and what they guarantee.
-/
import Mathlib.Algebra.BigOperators.Intervals
import Zugfolge.FareControl.Growth

namespace Zugfolge.FareControl

open Foundation
open Economy (Outcome printInteger orThrow orThrow_eq_ok)

/-! ### Shares -/

/-- What has accrued of a revenue at an instant of its service. -/
def accrued (gross serviceStart serviceEnd time : Int) : Int :=
  (gross * (time - serviceStart)).tdiv (serviceEnd - serviceStart)

/-- The share in a revenue of the time from `start` until before `finish`. -/
def shareOf (gross serviceStart serviceEnd start finish : Int) : Int :=
  if max start serviceStart < min finish serviceEnd then
    accrued gross serviceStart serviceEnd (min finish serviceEnd)
      - accrued gross serviceStart serviceEnd (max start serviceStart)
  else 0

section

variable {gross serviceStart serviceEnd : Int}

lemma accrued_start : accrued gross serviceStart serviceEnd serviceStart = 0 := by
  simp [accrued]

lemma accrued_end (hservice : serviceStart < serviceEnd) :
    accrued gross serviceStart serviceEnd serviceEnd = gross :=
  Int.mul_tdiv_cancel gross (by omega)

/-- A share is what accrues between two instants, cut to the time of the service. -/
lemma shareOf_eq {start finish : Int} (hservice : serviceStart < serviceEnd)
    (hspan : start ≤ finish) :
    shareOf gross serviceStart serviceEnd start finish
      = accrued gross serviceStart serviceEnd (max serviceStart (min finish serviceEnd))
        - accrued gross serviceStart serviceEnd (max serviceStart (min start serviceEnd)) := by
  unfold shareOf
  split
  next hoverlap =>
    have hlast : max serviceStart (min finish serviceEnd) = min finish serviceEnd := by omega
    have hfirst : max serviceStart (min start serviceEnd) = max start serviceStart := by omega
    rw [hlast, hfirst]
  next happart =>
    have hsame : max serviceStart (min finish serviceEnd)
        = max serviceStart (min start serviceEnd) := by omega
    rw [hsame, sub_self]

/-- The shares of all days until the end of the service add up to the revenue. -/
lemma sum_shareOf {length : Int} (hlength : 0 < length) (hstart : 0 ≤ serviceStart)
    (hservice : serviceStart < serviceEnd) {days : ℕ} (hdays : serviceEnd ≤ days * length) :
    ∑ k ∈ Finset.range days,
      shareOf gross serviceStart serviceEnd (k * length) (k * length + length) = gross := by
  let reached := fun k : ℕ => accrued gross serviceStart serviceEnd
    (max serviceStart (min (k * length) serviceEnd))
  have hshare : ∀ k : ℕ, shareOf gross serviceStart serviceEnd (k * length) (k * length + length)
      = reached (k + 1) - reached k := by
    intro k
    rw [shareOf_eq hservice (by omega)]
    have hnext : (k : Int) * length + length = ((k + 1 : ℕ) : Int) * length := by
      push_cast
      ring
    rw [hnext]
  simp only [hshare]
  rw [Finset.sum_range_sub]
  have hlast : reached days = gross := by
    have hcut : max serviceStart (min (days * length) serviceEnd) = serviceEnd := by omega
    simp only [reached, hcut, accrued_end hservice]
  have hfirst : reached 0 = 0 := by
    have hcut : max serviceStart (min ((0 : ℕ) * length) serviceEnd) = serviceStart := by
      rw [Nat.cast_zero, zero_mul]
      omega
    simp only [reached, hcut, accrued_start]
  rw [hlast, hfirst, sub_zero]

end

/-! ### The revenue of a day -/

/-- The fee and the bonus that a piece of evidence shows. -/
def FareContractRevenueEvidenceV1.gross (proof : FareContractRevenueEvidenceV1) : Int :=
  (parseDecimal proof.orderingFeeCents).getD 0 + (parseDecimal proof.bonusCents).getD 0

/-- The share of a day in the revenue that a piece of evidence shows. -/
def FareContractRevenueEvidenceV1.share (proof : FareContractRevenueEvidenceV1)
    (start finish : Int) : Int :=
  shareOf proof.gross proof.serviceStartMs proof.serviceEndMs start finish

/-- The shares of a day in all revenues. -/
def revenueOf (evidence : List ConfirmedFareContractRevenueV1) (start finish : Int) : Int :=
  evidence.foldr (fun confirmed sum => confirmed.evidence.share start finish + sum) 0

variable {h : Hashing} {state after : FareControlWorldStateV1} {command : FareControlCommandV1}
  {release : EconomyReleaseDocument} {tag : String} {event : FareLedgerEventV1}

/-- A piece of evidence that is read adds its share. -/
lemma readRevenue_eq {now start finish : Int}
    {read next : DayRevenue} {confirmed : ConfirmedFareContractRevenueV1}
    (hread : readRevenue h state now start finish read confirmed = .ok next) :
    confirmed.isProper h state now = true
      ∧ (∃ fee bonus, nonnegative confirmed.evidence.orderingFeeCents = .ok fee
        ∧ nonnegative confirmed.evidence.bonusCents = .ok bonus
        ∧ confirmed.evidence.gross = fee + bonus)
      ∧ next.revenue = read.revenue + confirmed.evidence.share start finish := by
  unfold readRevenue at hread
  simp only [bind_eq_ok_iff, need_eq_ok, exists_const, Bool.and_eq_true] at hread
  obtain ⟨⟨⟨hproper, -⟩, -⟩, fee, hfee, bonus, hbonus, gross, hgross, -, -, hread⟩ := hread
  have hsum : confirmed.evidence.gross = fee + bonus := by
    rw [FareContractRevenueEvidenceV1.gross, parseDecimal_of_nonnegative hfee,
      parseDecimal_of_nonnegative hbonus]
  refine ⟨hproper, ⟨fee, bonus, hfee, hbonus, hsum⟩, ?_⟩
  rw [FareContractRevenueEvidenceV1.share, hsum, ← (add_eq_ok.mp hgross).2, shareOf]
  split at hread
  next hoverlap =>
    simp only [bind_eq_ok_iff, orThrow_eq_ok] at hread
    obtain ⟨part, hpart, revenue, hrevenue, heq⟩ := hread
    cases heq
    rw [if_pos hoverlap, (add_eq_ok.mp hrevenue).2, (checked64_eq_some_iff.mp hpart).2]
    rfl
  next happart =>
    cases hread
    rw [if_neg happart, add_zero]

/-- The evidence that is read adds up to the revenue of the day. -/
lemma readRevenue_foldlM {now start finish : Int}
    {evidence : List ConfirmedFareContractRevenueV1} {read next : DayRevenue}
    (hread : evidence.foldlM (readRevenue h state now start finish) read = .ok next) :
    (∀ confirmed ∈ evidence, confirmed.isProper h state now = true
      ∧ ∃ fee bonus, nonnegative confirmed.evidence.orderingFeeCents = .ok fee
        ∧ nonnegative confirmed.evidence.bonusCents = .ok bonus
        ∧ confirmed.evidence.gross = fee + bonus)
      ∧ next.revenue = read.revenue + revenueOf evidence start finish := by
  induction evidence generalizing read with
  | nil =>
    cases hread
    exact ⟨List.forall_mem_nil _, (add_zero _).symm⟩
  | cons confirmed evidence ih =>
    obtain ⟨middle, hfirst, hrest⟩ := foldlM_cons_eq_ok_iff.mp hread
    obtain ⟨hproper, hgross, hone⟩ := readRevenue_eq hfirst
    obtain ⟨hall, hrevenue⟩ := ih hrest
    refine ⟨List.forall_mem_cons.mpr ⟨⟨hproper, hgross⟩, hall⟩, ?_⟩
    rw [hrevenue, hone, add_assoc]
    rfl

/-! ### What the ledger and the records say of a day -/

/-- The premium that an event pays. -/
def premiumOf (event : FareLedgerEventV1) : Int :=
  if event.kind == .premium then sumOf event.amounts .cash else 0

/-- What an event takes away because of the cap. -/
def adjustmentOf (event : FareLedgerEventV1) : Int :=
  if event.kind == .capAdjustment then sumOf event.amounts .capAdjustment else 0

/-- The amount that the record of a day shows, nothing without a record. -/
def recorded (shown : FareDaySettlementV1 → String) (state : FareControlWorldStateV1)
    (start : Int) : Int :=
  (state.days[printInteger start]?).elim 0 fun settlement =>
    (parseDecimal (shown settlement)).getD 0

/-- Whatever a posting of a day says is the change that it posts. -/
lemma worth_writtenEvent {caseId : Option String} {time delta : Int} {r : FareInspectionEconomyV1} :
    (∀ event, event = writtenEvent h state command caseId time .premium release r
        [(.cash, delta), (.premium, -delta)] tag → premiumOf event = delta ∧ adjustmentOf event = 0)
      ∧ ∀ event, event = writtenEvent h state command caseId time .capAdjustment release r
        [(.capAdjustment, delta), (.cash, -delta)] tag →
          premiumOf event = 0 ∧ adjustmentOf event = delta := by
  constructor
  all_goals
    rintro event rfl
    unfold premiumOf adjustmentOf writtenEvent FareLedgerEventV1.amounts
    simp only [amounts_writtenPostings, sumOf_filter]
    simp [sumOf]

/-! ### Premiums and caps beside the result of a day -/

/-- A posting of a premium or a cap: an amount that moves between two roles, none of which is that
of the write-offs. -/
structure Neutral (event : FareLedgerEventV1) : Prop where
  kind : event.kind = .premium ∨ event.kind = .capAdjustment
  readable : ∀ posting ∈ event.postings, posting.role ≠ .writeOff ∧
    ∃ value, amount posting.amountCents = .ok value

lemma Neutral.reversedBy (h : Neutral event)
    (reversed : Registry String Int) : reversedBy reversed event = .ok reversed := by
  have hall := h.readable
  unfold FareControl.reversedBy
  generalize event.postings = postings at *
  induction postings with
  | nil => rfl
  | cons posting postings ih =>
    obtain ⟨⟨hrole, value, hvalue⟩, hrest⟩ := List.forall_mem_cons.mp hall
    refine foldlM_cons_eq_ok_iff.mpr ⟨reversed, ?_, ih hrest⟩
    rw [hvalue]
    simp [hrole, bind, Except.bind, pure, Except.pure]

lemma foldlM_skip {σ α ε : Type} {f : σ → α → Except ε σ} {a : α}
    (hskip : ∀ s, f s a = .ok s) (before after : List α) (s : σ) :
    (before ++ a :: after).foldlM f s = (before ++ after).foldlM f s := by
  rw [List.foldlM_append, List.foldlM_append]
  congr 1
  funext t
  rw [List.foldlM_cons, hskip]
  rfl

/-- **Premiums and caps do not change the result of a day.** -/
lemma netOfDay_insert
    (hnew : state.ledgerEvents[event.eventId]? = none) (h : Neutral event) (start : Int) :
    netOfDay { state with ledgerEvents := state.ledgerEvents.insert event.eventId event } start
      = netOfDay state start := by
  obtain ⟨before, after, hold, hnow⟩ := Registry.values_insert_new event hnew
  have hother : (event.kind == .writeOff) = false := by
    rcases h.kind with hkind | hkind <;> rw [hkind] <;> rfl
  have houtside : event.kind.isOutsideDay = true := by
    rcases h.kind with hkind | hkind <;> rw [hkind] <;> rfl
  unfold netOfDay
  simp only [hnow, hold]
  rw [foldlM_skip (h.reversedBy ·)]
  simp [List.filter_append, hother, houtside]

/-- A ledger holds corrections of a premium and of a cap beside what another one holds. -/
structure Corrects (state after : FareControlWorldStateV1) (premium adjustment : Int) : Prop where
  frame : after = { state with ledgerEvents := after.ledgerEvents }
  kept : ∀ (k : String) (event : FareLedgerEventV1), state.ledgerEvents[k]? = some event →
    after.ledgerEvents[k]? = some event
  keyed : (∀ (k : String) (event : FareLedgerEventV1), state.ledgerEvents[k]? = some event →
      event.eventId = k) →
    ∀ (k : String) (event : FareLedgerEventV1), after.ledgerEvents[k]? = some event →
      event.eventId = k
  premiums : after.ledgerEvents.total premiumOf = premium + state.ledgerEvents.total premiumOf
  adjustments : after.ledgerEvents.total adjustmentOf
    = adjustment + state.ledgerEvents.total adjustmentOf
  nothing : premium = 0 → adjustment = 0 → after = state
  net : ∀ start, netOfDay after start = netOfDay state start

lemma Corrects.refl (state : FareControlWorldStateV1) : Corrects state state 0 0 :=
  ⟨rfl, fun _ _ hevent => hevent, fun h => h, (zero_add _).symm, (zero_add _).symm,
    fun _ _ => rfl, fun _ => rfl⟩

lemma Corrects.trans {state middle after : FareControlWorldStateV1} {premium adjustment : Int}
    (h : Corrects state middle premium 0) (h' : Corrects middle after 0 adjustment) :
    Corrects state after premium adjustment where
  frame := by rw [h'.frame, h.frame]
  kept k event hevent := h'.kept k event (h.kept k event hevent)
  keyed hkeyed := h'.keyed (h.keyed hkeyed)
  premiums := by rw [h'.premiums, h.premiums, zero_add]
  adjustments := by rw [h'.adjustments, h.adjustments, zero_add]
  nothing hpremium hadjustment := (h'.nothing rfl hadjustment).trans (h.nothing hpremium rfl)
  net start := (h'.net start).trans (h.net start)

/-- A neutral event that is new corrects the ledger by what it is worth. -/
lemma Corrects.of_insert
    {premium adjustment : Int} (hnew : state.ledgerEvents[event.eventId]? = none)
    (hneutral : Neutral event) (hpremium : premiumOf event = premium)
    (hadjustment : adjustmentOf event = adjustment) (hsome : premium ≠ 0 ∨ adjustment ≠ 0) :
    Corrects state { state with ledgerEvents := state.ledgerEvents.insert event.eventId event }
      premium adjustment where
  frame := rfl
  kept k other hother := by
    rw [Registry.getElem?_insert, if_neg]
    · exact hother
    · rintro rfl
      rw [hnew] at hother
      cases hother
  keyed hkeyed k other hother := by
    rw [Registry.getElem?_insert] at hother
    split at hother
    next hkey =>
      cases hother
      exact hkey.symm
    · exact hkeyed k other hother
  premiums := by rw [Registry.total_insert event _ hnew, hpremium]
  adjustments := by rw [Registry.total_insert event _ hnew, hadjustment]
  nothing hzero hzero' := absurd hsome (by simp [hzero, hzero'])
  net := netOfDay_insert hnew hneutral

/-- The amounts of a correction can be read, and none of its roles is that of the write-offs. -/
lemma neutral_writtenEvent {time delta : Int} {kind : FareLedgerEventKindV1}
    {r : FareInspectionEconomyV1}
    {first second : FareLedgerRoleV1} (hkind : kind = .premium ∨ kind = .capAdjustment)
    (hfirst : first ≠ .writeOff) (hsecond : second ≠ .writeOff)
    (hrange : -i64Max ≤ delta ∧ delta ≤ i64Max) :
    Neutral (writtenEvent h state command none time kind release r
      [(first, delta), (second, -delta)] tag) := by
  refine ⟨hkind, fun posting hposting => ?_⟩
  simp only [writtenEvent, writtenPostings, List.mem_map, List.mem_filter, List.mem_cons,
    List.not_mem_nil, or_false] at hposting
  obtain ⟨⟨role, value⟩, ⟨hin, -⟩, rfl⟩ := hposting
  have hmin : i64Min = -i64Max - 1 := by decide
  rcases hin with heq | heq <;> cases heq
  · exact ⟨hfirst, delta, amount_eq_ok.mpr ⟨⟨by omega, hrange.2⟩, rfl⟩⟩
  · exact ⟨hsecond, -delta, amount_eq_ok.mpr ⟨⟨by omega, by omega⟩, rfl⟩⟩

/-- A correction of the premium. -/
lemma postDay_premium {delta : Int} (hrange : -i64Max ≤ delta ∧ delta ≤ i64Max)
    (hpost : postDay h state command release .premium delta [(.cash, delta), (.premium, -delta)] tag
      = .ok after) : Corrects state after delta 0 := by
  unfold postDay at hpost
  split at hpost
  next hmoves =>
    obtain ⟨-, -, r, -, hnew, rfl⟩ := post_eq_ok.mp hpost
    obtain ⟨hpremium, hadjustment⟩ := worth_writtenEvent.1 _ rfl
    refine .of_insert hnew ?_ hpremium hadjustment (.inl (by simpa using hmoves))
    exact neutral_writtenEvent (.inl rfl) nofun nofun hrange
  next hnothing =>
    cases hpost
    obtain rfl : delta = 0 := by simpa using hnothing
    exact .refl state

/-- A correction of the cap. -/
lemma postDay_cap {delta : Int} (hrange : -i64Max ≤ delta ∧ delta ≤ i64Max)
    (hpost : postDay h state command release .capAdjustment delta
      [(.capAdjustment, delta), (.cash, -delta)] tag = .ok after) :
    Corrects state after 0 delta := by
  unfold postDay at hpost
  split at hpost
  next hmoves =>
    obtain ⟨-, -, r, -, hnew, rfl⟩ := post_eq_ok.mp hpost
    obtain ⟨hpremium, hadjustment⟩ := worth_writtenEvent.2 _ rfl
    refine .of_insert hnew ?_ hpremium hadjustment (.inr (by simpa using hmoves))
    exact neutral_writtenEvent (.inr rfl) nofun nofun hrange
  next hnothing =>
    cases hpost
    obtain rfl : delta = 0 := by simpa using hnothing
    exact .refl state

/-! ### A settlement -/

/-- The most that a day may contribute, for its revenue. -/
def capFor (r : FareInspectionEconomyV1) (revenue : Int) : Int :=
  (revenue * r.positiveDailyCapBasisPoints).tdiv 10000

/-- The premium of a day, for its result and its cap. -/
def premiumFor (r : FareInspectionEconomyV1) (net cap : Int) : Int :=
  min ((max net 0 * r.premiumMultiplierBasisPoints).tdiv 10000) (max (cap - max net 0) 0)

/-- What is taken away of a day, for its result, its premium and its cap. -/
def adjustmentFor (net premium cap : Int) : Int := max (net + premium - cap) 0

lemma premiumFor_nonneg (r : FareInspectionEconomyV1) (net cap : Int) :
    0 ≤ premiumFor r net cap := by
  have hproduct : 0 ≤ max net 0 * (r.premiumMultiplierBasisPoints : Int) :=
    mul_nonneg (le_max_right _ _) (Int.natCast_nonneg _)
  exact le_min (Int.tdiv_nonneg hproduct (by decide)) (le_max_right _ _)

/-- What is recorded of a day once it is settled. -/
structure DaySettled (r : FareInspectionEconomyV1) (start : Int)
    (evidence : List ConfirmedFareContractRevenueV1) (net : Int)
    (settlement : FareDaySettlementV1) : Prop where
  revenueShown : settlement.contractRevenueCents
    = printInteger (revenueOf evidence start (start + r.dayLengthMs))
  netShown : settlement.netCents = printInteger net
  premiumShown : settlement.premiumCents = printInteger
    (premiumFor r net (capFor r (revenueOf evidence start (start + r.dayLengthMs))))
  adjustmentShown : settlement.capAdjustmentCents = printInteger (adjustmentFor net
    (premiumFor r net (capFor r (revenueOf evidence start (start + r.dayLengthMs))))
    (capFor r (revenueOf evidence start (start + r.dayLengthMs))))

lemma recorded_of_elim {shown : FareDaySettlementV1 → String} {start old : Int}
    (h : ((state.days[printInteger start]?).elim (.ok 0) fun d => nonnegative (shown d))
      = .ok old) :
    recorded shown state start = old ∧ 0 ≤ old ∧ old ≤ i64Max := by
  unfold recorded
  cases hfound : state.days[printInteger start]? with
  | none =>
    rw [hfound] at h
    cases h
    exact ⟨rfl, le_rfl, by decide⟩
  | some settlement =>
    rw [hfound] at h
    exact ⟨parseDecimal_of_nonnegative h, (nonnegative_eq_ok.mp h).1⟩

/-- **A settlement** records the revenue, the result, the premium and the adjustment of the day, and
posts what the last two have changed by. -/
lemma settleDay_settles {start : Int} {evidence : List ConfirmedFareContractRevenueV1}
    (hsettle : settleDay h state command start evidence release = .ok after) :
    ∃ r net settlement corrected, rules release = .ok r ∧
      (∀ confirmed ∈ evidence, confirmed.isProper h state command.nowMs = true
        ∧ ∃ fee bonus, nonnegative confirmed.evidence.orderingFeeCents = .ok fee
          ∧ nonnegative confirmed.evidence.bonusCents = .ok bonus
          ∧ confirmed.evidence.gross = fee + bonus) ∧
      netOfDay state start = .ok net ∧ DaySettled r start evidence net settlement ∧
      Corrects state corrected ((parseDecimal settlement.premiumCents).getD 0
          - recorded FareDaySettlementV1.premiumCents state start)
        ((parseDecimal settlement.capAdjustmentCents).getD 0
          - recorded FareDaySettlementV1.capAdjustmentCents state start) ∧
      after = { corrected with days := corrected.days.insert (printInteger start) settlement } := by
  unfold settleDay at hsettle
  simp only [bind_eq_ok_iff, need_eq_ok, exists_const] at hsettle
  obtain ⟨r, hrules, finish, hfinish, -, read, hread, net, hnet, cap, hcap, premium, hpremium,
    adjustment, hadjustment, -, oldPremium, holdPremium, oldAdjustment, holdAdjustment, withPremium,
    hwithPremium, withCap, hwithCap, revision, -, heq⟩ := hsettle
  obtain ⟨hproper, hrevenue⟩ := readRevenue_foldlM hread
  rw [(add_eq_ok.mp hfinish).2, zero_add] at hrevenue
  rw [fraction, orThrow_eq_ok, checked64_eq_some_iff] at hcap
  rw [orThrow_eq_ok, checked64_eq_some_iff] at hpremium hadjustment
  obtain ⟨-, hcap⟩ := hcap
  obtain ⟨⟨-, hpremiumMax⟩, hpremium⟩ := hpremium
  obtain ⟨⟨-, hadjustmentMax⟩, hadjustment⟩ := hadjustment
  rw [hrevenue] at hcap
  change cap = capFor r (revenueOf evidence start (start + r.dayLengthMs)) at hcap
  change premium = premiumFor r net cap at hpremium
  change premiumFor r net cap ≤ i64Max at hpremiumMax
  change adjustment = adjustmentFor net premium cap at hadjustment
  change adjustmentFor net premium cap ≤ i64Max at hadjustmentMax
  have hpremiumMin := premiumFor_nonneg r net cap
  have hadjustmentMin : 0 ≤ adjustmentFor net premium cap := le_max_right _ _
  rw [← hpremium] at hpremiumMin hpremiumMax
  rw [← hadjustment] at hadjustmentMin hadjustmentMax
  obtain ⟨hrecorded, holdMin, holdMax⟩ := recorded_of_elim holdPremium
  obtain ⟨hrecorded', holdMin', holdMax'⟩ := recorded_of_elim holdAdjustment
  have hposted := (postDay_premium ⟨by omega, by omega⟩ hwithPremium).trans
    (postDay_cap ⟨by omega, by omega⟩ hwithCap)
  refine ⟨r, net, _, withCap, hrules, hproper, hnet, ⟨?_, rfl, ?_, ?_⟩, ?_,
    (Except.ok.inj heq).symm⟩
  · rw [hrevenue]
  · rw [hpremium, hcap]
  · rw [hadjustment, hpremium, hcap]
  · simp only [parseDecimal_printInteger, Option.getD_some, hrecorded, hrecorded']
    exact hposted

lemma contribution_le (net premium cap : Int) :
    net + premium - adjustmentFor net premium cap ≤ cap := by
  unfold adjustmentFor
  omega

/-! ### Runs -/

/-- What the events that the settlements of a day post in a run are worth together. -/
def settledSum (h : Hashing) (start : Int) (worth : FareLedgerEventV1 → Int) :
    FareControlWorldStateV1 → List (String × FareControlCommandV1) → Int
  | _, [] => 0
  | state, sent :: later =>
    (applyFareControl h state sent.1 sent.2).toOption.elim 0 fun transition =>
      (if sent.2.action.settles start then
          (newEvents state transition.state).foldr (fun event sum => worth event + sum) 0
        else 0) + settledSum h start worth transition.state later

section

variable {h : Hashing} {state : FareControlWorldStateV1} {expectedHash : String}
  {command : FareControlCommandV1} {transition : FareControlTransitionV1}

variable {after : FareControlWorldStateV1}

lemma worth_newEvents {worth : FareLedgerEventV1 → Int}
    (hkeyed : ∀ (k : String) (event : FareLedgerEventV1), after.ledgerEvents[k]? = some event →
      event.eventId = k)
    (hkept : ∀ (k : String) (event : FareLedgerEventV1), state.ledgerEvents[k]? = some event →
      after.ledgerEvents[k]? = some event) :
    (newEvents state after).foldr (fun event sum => worth event + sum) 0
      = after.ledgerEvents.total worth - state.ledgerEvents.total worth :=
  Registry.worth_of_new hkeyed hkept

/-- A settlement of the day that is new. -/
lemma settlement_of_apply {start : Int} {evidence : List ConfirmedFareContractRevenueV1}
    {release : EconomyReleaseDocument}
    (haction : command.action = .settleDay start evidence release)
    (hnew : state.receipts[command.commandId]? = none)
    (happly : applyFareControl h state expectedHash command = .ok transition) :
    ∃ r net settlement corrected, rules release = .ok r ∧
      (∀ confirmed ∈ evidence, confirmed.isProper h state command.nowMs = true
        ∧ ∃ fee bonus, nonnegative confirmed.evidence.orderingFeeCents = .ok fee
          ∧ nonnegative confirmed.evidence.bonusCents = .ok bonus
          ∧ confirmed.evidence.gross = fee + bonus) ∧
      netOfDay state start = .ok net ∧ DaySettled r start evidence net settlement ∧
      Corrects { state with nowMs := command.nowMs } corrected
        ((parseDecimal settlement.premiumCents).getD 0
          - recorded FareDaySettlementV1.premiumCents state start)
        ((parseDecimal settlement.capAdjustmentCents).getD 0
          - recorded FareDaySettlementV1.capAdjustmentCents state start) ∧
      transition.state.days = state.days.insert (printInteger start) settlement ∧
      transition.state.ledgerEvents = corrected.ledgerEvents := by
  obtain ⟨-, ⟨receipt, hreceipt, -⟩ | ⟨-, -, next, revision, receipts, stateHash, hact, hstate, -⟩⟩
    := applyFareControl_cases happly
  · rw [hnew] at hreceipt
    cases hreceipt
  · rw [haction] at hact
    obtain ⟨r, net, settlement, corrected, hrules, hproper, hnet, hsettled, hcorrects, rfl⟩ :=
      settleDay_settles hact
    have hdays : corrected.days = state.days := by rw [hcorrects.frame]
    refine ⟨r, net, settlement, corrected, hrules, hproper, hnet, hsettled, hcorrects, ?_, ?_⟩
    · rw [hstate, hdays]
    · rw [hstate]

/-- What a command posts for a day is what it changes of the record. -/
lemma apply_posts (start : Int)
    (happly : applyFareControl h state expectedHash command = .ok transition) :
    (if command.action.settles start then (newEvents state transition.state).foldr
        (fun event sum => premiumOf event + sum) 0 else 0)
        = recorded FareDaySettlementV1.premiumCents transition.state start
          - recorded FareDaySettlementV1.premiumCents state start ∧
    (if command.action.settles start then (newEvents state transition.state).foldr
        (fun event sum => adjustmentOf event + sum) 0 else 0)
        = recorded FareDaySettlementV1.capAdjustmentCents transition.state start
          - recorded FareDaySettlementV1.capAdjustmentCents state start := by
  obtain ⟨hrestore, ⟨receipt, -, hsame⟩ | ⟨hnew, -, next, revision, receipts, stateHash, hact,
    hstate, -⟩⟩ := applyFareControl_cases happly
  · -- a command that was carried out before posts nothing
    have hkeyed := keyed_of_restore hrestore
    rw [hsame, sub_self, sub_self, worth_newEvents hkeyed fun _ _ hevent => hevent,
      worth_newEvents hkeyed fun _ _ hevent => hevent, sub_self, sub_self]
    exact ⟨ite_self 0, ite_self 0⟩
  rcases action_cases command.action with ⟨day, evidence, release, haction⟩ | hother
  · obtain ⟨r, net, settlement, corrected, -, -, -, -, hcorrects, hdays, hledger⟩ :=
      settlement_of_apply haction hnew happly
    have hold := keyed_of_restore hrestore
    have hkeyed := hcorrects.keyed hold
    rw [← hledger] at hkeyed
    have hkept : ∀ (k : String) (event : FareLedgerEventV1),
        state.ledgerEvents[k]? = some event → transition.state.ledgerEvents[k]? = some event := by
      rw [hledger]
      exact hcorrects.kept
    rw [worth_newEvents hkeyed hkept, worth_newEvents hkeyed hkept, hledger, hcorrects.premiums,
      hcorrects.adjustments, add_sub_cancel_right, add_sub_cancel_right]
    unfold recorded
    rw [haction, hdays, Registry.getElem?_insert]
    by_cases hday : day = start
    · subst hday
      simp [FareControlActionV1.settles]
    · have hkeys : printInteger start ≠ printInteger day :=
        fun heq => hday (printInteger_inj heq).symm
      simp [FareControlActionV1.settles, hday, hkeys]
  · -- any other command leaves the records alone
    have hdays : transition.state.days = state.days := by
      have hgrows := act_grows hact hother
      rw [hstate]
      exact hgrows.days
    unfold recorded
    rw [hdays, hother]
    simp

/-- What the settlements of a day post in a run is what the run changes of the record. -/
lemma settledSum_of_run (start : Int) {commands : List (String × FareControlCommandV1)}
    (hrun : run h state commands = .ok after) :
    settledSum h start premiumOf state commands
        = recorded FareDaySettlementV1.premiumCents after start
          - recorded FareDaySettlementV1.premiumCents state start ∧
      settledSum h start adjustmentOf state commands
        = recorded FareDaySettlementV1.capAdjustmentCents after start
          - recorded FareDaySettlementV1.capAdjustmentCents state start := by
  unfold run at hrun
  induction commands generalizing state with
  | nil =>
    cases hrun
    exact ⟨(sub_self _).symm, (sub_self _).symm⟩
  | cons sent later ih =>
    obtain ⟨middle, hone, hrest⟩ := foldlM_cons_eq_ok_iff.mp hrun
    obtain ⟨transition, happly, rfl⟩ := map_eq_ok_iff.mp hone
    obtain ⟨hpremium, hadjustment⟩ := apply_posts start happly
    obtain ⟨hpremiums, hadjustments⟩ := ih hrest
    have hdone : (applyFareControl h state sent.1 sent.2).toOption = some transition := by
      rw [happly]
      rfl
    simp only [settledSum, hdone, Option.elim_some]
    exact ⟨by linarith, by linarith⟩

lemma newEvents_eq_nil
    (hkeyed : ∀ (k : String) (event : FareLedgerEventV1), after.ledgerEvents[k]? = some event →
      event.eventId = k)
    (hsame : ∀ (k : String) (event : FareLedgerEventV1), after.ledgerEvents[k]? = some event →
      state.ledgerEvents[k]? = some event) : newEvents state after = [] := by
  refine List.filter_eq_nil_iff.mpr fun event hevent => ?_
  obtain ⟨k, hk⟩ := Registry.mem_values.mp hevent
  have hold := hsame k event hk
  rw [← hkeyed k event hk] at hold
  simp [Registry.contains_iff.mpr ⟨event, hold⟩]

/-- A run that leaves the ledger as it was leaves the amounts of every day as they were. -/
lemma recorded_of_sameLedger (start : Int) {commands : List (String × FareControlCommandV1)}
    (hrun : run h state commands = .ok after)
    (hkeyed : ∀ (k : String) (event : FareLedgerEventV1), state.ledgerEvents[k]? = some event →
      event.eventId = k) (hsame : after.ledgerEvents = state.ledgerEvents) :
    recorded FareDaySettlementV1.premiumCents after start
        = recorded FareDaySettlementV1.premiumCents state start ∧
      recorded FareDaySettlementV1.capAdjustmentCents after start
        = recorded FareDaySettlementV1.capAdjustmentCents state start := by
  have hnothing : ∀ worth, settledSum h start worth state commands = 0 := by
    intro worth
    unfold run at hrun
    induction commands generalizing state with
    | nil => rfl
    | cons sent later ih =>
      obtain ⟨middle, hone, hrest⟩ := foldlM_cons_eq_ok_iff.mp hrun
      obtain ⟨transition, happly, rfl⟩ := map_eq_ok_iff.mp hone
      have hmiddle : transition.state.ledgerEvents = state.ledgerEvents := by
        refine Std.ExtTreeMap.ext_getElem? fun k => Option.ext fun event =>
          ⟨fun hevent => ?_, apply_keeps happly k event⟩
        rw [← hsame]
        exact run_keeps hrest k event hevent
      have hdone : (applyFareControl h state sent.1 sent.2).toOption = some transition := by
        rw [happly]
        rfl
      have hnone : newEvents state transition.state = [] :=
        newEvents_eq_nil (by rwa [hmiddle]) (by simp [hmiddle])
      have hlater := ih hrest (by rwa [hmiddle]) (hsame.trans hmiddle.symm)
      simp only [settledSum, hdone, Option.elim_some, hnone, List.foldr_nil, ite_self, hlater,
        add_zero]
  obtain ⟨hpremiums, hadjustments⟩ := settledSum_of_run start hrun
  rw [hnothing] at hpremiums hadjustments
  exact ⟨by linarith, by linarith⟩

/-- Settling a day again with the same evidence on the same ledger posts nothing. -/
lemma settledAgain {later : FareControlWorldStateV1} {expectedHash' : String}
    {command' : FareControlCommandV1} {again : FareControlTransitionV1} {start : Int}
    {evidence : List ConfirmedFareContractRevenueV1} {release : EconomyReleaseDocument}
    {others : List (String × FareControlCommandV1)}
    (haction : command.action = .settleDay start evidence release)
    (hnew : state.receipts[command.commandId]? = none)
    (happly : applyFareControl h state expectedHash command = .ok transition)
    (hothers : run h transition.state others = .ok later)
    (hledger : later.ledgerEvents = transition.state.ledgerEvents)
    (haction' : command'.action = .settleDay start evidence release)
    (happly' : applyFareControl h later expectedHash' command' = .ok again) :
    again.state.ledgerEvents = later.ledgerEvents := by
  obtain ⟨-, ⟨receipt, -, hsame⟩ | ⟨hnew', -⟩⟩ := applyFareControl_cases happly'
  · rw [hsame]
  obtain ⟨r, net, settlement, corrected, hrules, -, hnet, hsettled, hcorrects, hdays, hposted⟩ :=
    settlement_of_apply haction hnew happly
  obtain ⟨r', net', settlement', corrected', hrules', -, hnet', hsettled', hcorrects', -, hposted'⟩
    := settlement_of_apply haction' hnew' happly'
  obtain rfl : r = r' := Except.ok.inj (hrules.symm.trans hrules')
  -- premiums and caps are no part of the result, so the second settlement finds the same
  have hsame : netOfDay later start = netOfDay state start := by
    rw [← show netOfDay { state with nowMs := command.nowMs } start = netOfDay state start from rfl,
      ← hcorrects.net start]
    unfold netOfDay
    rw [hledger, hposted]
  obtain rfl : net = net' := by
    rw [hsame, hnet] at hnet'
    exact Except.ok.inj hnet'
  -- and what it records is on record
  have hkeyed : ∀ (k : String) (event : FareLedgerEventV1),
      transition.state.ledgerEvents[k]? = some event → event.eventId = k := by
    have hold := keyed_of_restore (applyFareControl_cases happly).1
    have hkept := hcorrects.keyed hold
    rwa [hposted]
  obtain ⟨hpremium, hadjustment⟩ := recorded_of_sameLedger start hothers hkeyed hledger
  have hfound : transition.state.days[printInteger start]? = some settlement := by
    rw [hdays, Registry.getElem?_insert, if_pos rfl]
  have hshown : ∀ shown : FareDaySettlementV1 → String,
      recorded shown transition.state start = (parseDecimal (shown settlement)).getD 0 := by
    intro shown
    rw [recorded, hfound, Option.elim_some]
  have hnothing := hcorrects'.nothing
    (by rw [hpremium, hshown, hsettled'.premiumShown, hsettled.premiumShown, sub_self])
    (by rw [hadjustment, hshown, hsettled'.adjustmentShown, hsettled.adjustmentShown, sub_self])
  rw [hposted', hnothing]

/-- **Settlements of days.**  In every state that follows from commands, the settlements of a day
have posted what is recorded of its premium and its cap.  After any settlement that follows, the day
contributes no more than the cap of its revenue, the revenue that each receipt brings to all days is
its fee and its bonus, and settling the day again on the same ledger posts nothing. -/
theorem settlements_of_run {worldId operatorId : String} {nowMs : Int}
    {first state : FareControlWorldStateV1} {commands : List (String × FareControlCommandV1)}
    (hfirst : initializeFareControl h worldId operatorId nowMs = .ok first)
    (hrun : run h first commands = .ok state) (start : Int) :
    settledSum h start premiumOf first commands
        = recorded FareDaySettlementV1.premiumCents state start ∧
      settledSum h start adjustmentOf first commands
        = recorded FareDaySettlementV1.capAdjustmentCents state start ∧
      ∀ (expectedHash : String) (command : FareControlCommandV1)
        (transition : FareControlTransitionV1) (evidence : List ConfirmedFareContractRevenueV1)
        (release : EconomyReleaseDocument), command.action = .settleDay start evidence release →
        state.receipts[command.commandId]? = none →
        applyFareControl h state expectedHash command = .ok transition →
        (∃ r net, rules release = .ok r ∧ r.dayLengthMs = 86400000 ∧
          netOfDay transition.state start = .ok net ∧
          net + recorded FareDaySettlementV1.premiumCents transition.state start
              - recorded FareDaySettlementV1.capAdjustmentCents transition.state start
            ≤ capFor r (revenueOf evidence start (start + r.dayLengthMs))) ∧
        (∀ confirmed ∈ evidence, ∃ fee bonus,
          nonnegative confirmed.evidence.orderingFeeCents = .ok fee ∧
          nonnegative confirmed.evidence.bonusCents = .ok bonus ∧
          ∀ days : ℕ, confirmed.evidence.serviceEndMs ≤ days * 86400000 →
            ∑ k ∈ Finset.range days,
              confirmed.evidence.share (k * 86400000) (k * 86400000 + 86400000) = fee + bonus) ∧
        ∀ (others : List (String × FareControlCommandV1)) (later : FareControlWorldStateV1)
          (expectedHash' : String) (command' : FareControlCommandV1)
          (again : FareControlTransitionV1),
          run h transition.state others = .ok later →
          later.ledgerEvents = transition.state.ledgerEvents →
          command'.action = command.action →
          applyFareControl h later expectedHash' command' = .ok again →
          again.state.ledgerEvents = later.ledgerEvents := by
  have hnone : ∀ shown, recorded shown first start = 0 := by
    intro shown
    unfold initializeFareControl at hfirst
    simp only [bind_eq_ok_iff, need_eq_ok, exists_const] at hfirst
    obtain ⟨-, heq⟩ := hfirst
    cases heq
    simp [recorded]
  obtain ⟨hpremiums, hadjustments⟩ := settledSum_of_run start hrun
  rw [hnone, sub_zero] at hpremiums hadjustments
  refine ⟨hpremiums, hadjustments, ?_⟩
  intro expectedHash command transition evidence release haction hnew happly
  obtain ⟨r, net, settlement, corrected, hrules, hproper, hnet, hsettled, hcorrects, hdays, hposted⟩
    := settlement_of_apply haction hnew happly
  have hlength := dayLength_of_rules hrules
  refine ⟨⟨r, net, hrules, hlength, ?_, ?_⟩, fun confirmed hconfirmed => ?_, ?_⟩
  · have hsame := hcorrects.net start
    unfold netOfDay at hsame hnet ⊢
    rw [hposted, hsame, hnet]
  · have hfound : transition.state.days[printInteger start]? = some settlement := by
      rw [hdays, Registry.getElem?_insert, if_pos rfl]
    simp only [recorded, hfound, Option.elim_some, hsettled.premiumShown, hsettled.adjustmentShown,
      parseDecimal_printInteger, Option.getD_some]
    exact contribution_le _ _ _
  · obtain ⟨hone, fee, bonus, hfee, hbonus, hgross⟩ := hproper confirmed hconfirmed
    refine ⟨fee, bonus, hfee, hbonus, fun days hlast => ?_⟩
    simp only [ConfirmedFareContractRevenueV1.isProper, Bool.and_eq_true, decide_eq_true_eq] at hone
    obtain ⟨⟨⟨⟨-, hstart⟩, hservice⟩, -⟩, -⟩ := hone
    rw [← hgross]
    exact sum_shareOf (by decide) hstart hservice hlast
  · intro others later expectedHash' command' again hothers hledger haction' happly'
    exact settledAgain haction hnew happly hothers hledger (haction'.trans haction) happly'

end

/-! ### A day that is settled twice -/

/-- Hashes that are always the same, but for the command and the tag of an event. -/
def dayHashing : Hashing :=
  { smallHashing with
    event := fun parts => String.ofList
      ((if parts.2.2.2.2 == "day-cap" then '6' else (smallHashing.event parts).toList.headD '0')
        :: parts.2.2.1.toList.getLastD '0' :: List.replicate 62 '0') }

/-- Rules under which the result of a day is paid once more, up to the cap. -/
def premiumRules : FareInspectionEconomyV1 :=
  { smallRules with premiumMultiplierBasisPoints := 10000, positiveDailyCapBasisPoints := 50 }

/-- A receipt of a contract whose service fills a day and a third. -/
def receipt (name : String) (orderingFeeCents : String) : ConfirmedFareContractRevenueV1 where
  evidence :=
    { schemaVersion := "fare-contract-revenue-evidence/v1"
      worldId := "world"
      operatorId := "operator"
      contractId := "contract"
      journalEffectId := "effect-" ++ name
      economyReleaseHash := smallHash '0'
      serviceStartMs := 0
      serviceEndMs := 115200000
      settledAtMs := 115200000
      orderingFeeCents := orderingFeeCents
      bonusCents := "1"
      penaltyCents := "0"
      contentHash := smallHash '0' }
  ledgerTransactionId := "transaction-" ++ name

def premiumRelease : EconomyReleaseDocument := ⟨smallHash '0', some premiumRules, true⟩

/-- A claim that is paid, and a settlement of its day. -/
def paidThenSettled : List (String × FareControlCommandV1) :=
  sent [(0, .openCase "case" { smallPin with economyRelease := premiumRelease }),
    (0, .inspectDocument "case"), (0, .createClaim "case" .provisional), (2000, .advanceTime),
    (115200000, .settleDay 0 [receipt "a" "2399999"] premiumRelease)]

/-- The settlement of the same day once another receipt is there. -/
def settledLater : FareControlCommandV1 where
  worldId := "world"
  operatorId := "operator"
  commandId := "command-5"
  expectedRevision := 5
  nowMs := 115200001
  action := .settleDay 0 [receipt "a" "2399999", receipt "b" "799999"] premiumRelease

/-- The second settlement adds to the premium what the new receipt allows. -/
theorem settlements_of_run_twice : ∃ (first state : FareControlWorldStateV1)
    (transition : FareControlTransitionV1),
    initializeFareControl dayHashing "world" "operator" 0 = .ok first ∧
      run dayHashing first paidThenSettled = .ok state ∧
      applyFareControl dayHashing state (smallHash '0') settledLater = .ok transition ∧
      recorded FareDaySettlementV1.premiumCents transition.state 0 = 5950 ∧
      settledSum dayHashing 0 premiumOf first paidThenSettled = 3050 ∧
      ∃ r net, rules premiumRelease = .ok r ∧ netOfDay transition.state 0 = .ok net ∧
        net + recorded FareDaySettlementV1.premiumCents transition.state 0
            - recorded FareDaySettlementV1.capAdjustmentCents transition.state 0
          ≤ capFor r (revenueOf [receipt "a" "2399999", receipt "b" "799999"] 0
              (0 + r.dayLengthMs)) := by
  have hplayed : (initializeFareControl dayHashing "world" "operator" 0).toOption.any
      (fun first => (run dayHashing first paidThenSettled).toOption.any fun state =>
        (applyFareControl dayHashing state (smallHash '0') settledLater).toOption.any
          fun transition =>
            recorded FareDaySettlementV1.premiumCents state 0 == 3050
              && recorded FareDaySettlementV1.premiumCents transition.state 0 == 5950
              && !state.receipts.contains settledLater.commandId) = true := by
    decide +kernel
  obtain ⟨first, hfirst, hplayed⟩ := ok_of_any hplayed
  obtain ⟨state, hrun, hplayed⟩ := ok_of_any hplayed
  obtain ⟨transition, happly, hplayed⟩ := ok_of_any hplayed
  simp only [Bool.and_eq_true, beq_iff_eq, Bool.not_eq_true'] at hplayed
  obtain ⟨⟨hbefore, hafter⟩, hnew⟩ := hplayed
  have hnew := Registry.contains_eq_false.mp hnew
  obtain ⟨hpremiums, -, hsettlements⟩ := settlements_of_run hfirst hrun 0
  obtain ⟨⟨r, net, hrules, -, hnet, hcap⟩, -⟩ :=
    hsettlements _ settledLater transition _ _ rfl hnew happly
  exact ⟨first, state, transition, hfirst, hrun, happly, hafter, hpremiums.trans hbefore,
    r, net, hrules, hnet, hcap⟩

end Zugfolge.FareControl
