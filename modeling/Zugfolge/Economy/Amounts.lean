/-
The amounts of a settlement.

A period can be settled if what was run is shown in full and the amounts fit into 64 bits.
-/
import Zugfolge.Economy.Operation

namespace Zugfolge.Economy

open Foundation

/-! ### What a settlement needs -/

/-- Everything that the contract asks for is shown. -/
def PerformanceEvidence.isComplete (performance : PerformanceEvidence)
    (contract : ServiceContract) : Bool :=
  performance.isValid && contract.evidenceRequired.all (performance.evidence.contains ·)
    && !performance.lacksSeats contract.qualityPromises

namespace ServiceContract

variable (contract : ServiceContract) (performance : PerformanceEvidence)

/-- What was earned, before the penalties. -/
def gross : Int :=
  performance.trainKm * contract.orderingFeeCentsPerTrainKm + contract.earnedBonus performance

def penalty (focus : PenaltyFocus) : Int :=
  contract.penaltyUnits performance focus * contract.penaltyRates.get focus

def penalties : Int :=
  totalOf (penaltyNames.map fun entry => contract.penalty performance entry.1)

/-- The costs of the vehicles that come with the contract. -/
def vehicleCost : Int :=
  contract.mandatoryVehicleCostCentsPerTrainKm.getD 0 * performance.trainKm

/-- The rates and the quantities fit into 64 bits. -/
def ratesFit : Bool :=
  contract.hasValidRates && performance.trainKm ≤ i64Max
    && contract.orderingFeeCentsPerTrainKm ≤ i64Max && contract.bonusCentsPerPeriod ≤ i64Max
    && contract.penaltyRates.values.all (· ≤ i64Max)
    && penaltyNames.all (fun entry => contract.penaltyUnits performance entry.1 ≤ i64Max)
    && 0 ≤ contract.mandatoryVehicleCostCentsPerTrainKm.getD 0
    && contract.mandatoryVehicleCostCentsPerTrainKm.getD 0 ≤ i64Max

end ServiceContract

/-- The costs together, those of the vehicles among them. -/
def totalCosts (input : Settlement) (contract : ServiceContract) : Int :=
  totalOf (input.costs.map ClassifiedPosting.amountCents) + contract.vehicleCost input.performance

/-- The costs may be booked, and everything fits into 64 bits. -/
def amountsFit (input : Settlement) (contract : ServiceContract) : Bool :=
  input.costs.all (isBookable contract.lotId) && contract.ratesFit input.performance
    && contract.gross input.performance ≤ i64Max && contract.penalties input.performance ≤ i64Max
    && totalCosts input contract ≤ i64Max
    && i64Min ≤ contract.gross input.performance - contract.penalties input.performance
      - totalCosts input contract

/-! ### The contract -/

section Contract

variable {contract : ServiceContract} {performance : PerformanceEvidence}

lemma nonneg_eq_ok {value : Int} {name : String} (h : 0 ≤ value) (hfits : value ≤ i64Max) :
    assertNonnegativeI64 value name = .ok value := by
  have hmin : i64Min ≤ 0 := by decide
  exact assertNonnegativeI64_eq_ok.mpr ⟨h, ⟨by omega, hfits⟩, rfl⟩

lemma quantities_of_isValid (h : performance.isValid = true) :
    0 ≤ performance.trainKm ∧ 0 ≤ performance.cancellations ∧ 0 ≤ performance.missingSeats ∧
      0 ≤ performance.missedConnections := by
  simp only [PerformanceEvidence.isValid, Bool.and_eq_true, decide_eq_true_eq] at h
  obtain ⟨⟨⟨⟨⟨⟨⟨⟨⟨hkm, -⟩, -⟩, -⟩, -⟩, hcancellations⟩, -⟩, hseats⟩, -⟩, hconnections⟩ := h
  exact ⟨hkm, hcancellations, hseats, hconnections⟩

lemma penaltyUnits_nonneg (h : performance.isValid = true) (focus : PenaltyFocus) :
    0 ≤ contract.penaltyUnits performance focus := by
  obtain ⟨-, hcancellations, hseats, hconnections⟩ := quantities_of_isValid h
  cases focus with
  | punctuality => exact le_max_left _ _
  | cancellation => exact hcancellations
  | seats => exact hseats.trans (le_max_left _ _)
  | connections => exact hconnections

lemma PenaltyRates.get_mem (rates : PenaltyRates) (focus : PenaltyFocus) :
    rates.get focus ∈ rates.values := by
  cases focus <;> simp [PenaltyRates.get, PenaltyRates.values]

/-- Neither what was earned nor the penalties are negative. -/
lemma gross_nonneg (hvalid : performance.isValid = true)
    (hrates : contract.ratesFit performance = true) :
    0 ≤ contract.gross performance ∧ 0 ≤ contract.penalties performance := by
  simp only [ServiceContract.ratesFit, ServiceContract.hasValidRates, Bool.and_eq_true,
    decide_eq_true_eq] at hrates
  obtain ⟨⟨⟨⟨⟨⟨⟨⟨⟨hfee, hbonus⟩, hrate⟩, -⟩, -⟩, -⟩, -⟩, -⟩, -⟩, -⟩ := hrates
  have hproduct := Int.mul_nonneg (quantities_of_isValid hvalid).1 hfee
  have hearned : 0 ≤ contract.earnedBonus performance := by
    unfold ServiceContract.earnedBonus
    split
    · exact hbonus
    · exact le_rfl
  refine ⟨by unfold ServiceContract.gross; omega, totalOf_nonneg fun part hpart => ?_⟩
  obtain ⟨entry, -, rfl⟩ := List.mem_map.mp hpart
  exact Int.mul_nonneg (penaltyUnits_nonneg hvalid entry.1)
    (of_decide_eq_true (List.all_eq_true.mp hrate _ (contract.penaltyRates.get_mem entry.1)))

/-- A contract can be settled for a period that is shown in full, if the amounts fit. -/
lemma settleContract_isOk (hcomplete : performance.isComplete contract = true)
    (hrates : contract.ratesFit performance = true)
    (hgross : contract.gross performance ≤ i64Max)
    (hpenalties : contract.penalties performance ≤ i64Max) :
    ∃ settlement, settleContract contract performance = .ok settlement ∧
      settlement.netCents = contract.gross performance - contract.penalties performance := by
  have hmin : i64Min = -i64Max - 1 := by decide
  simp only [PerformanceEvidence.isComplete, Bool.and_eq_true] at hcomplete
  obtain ⟨⟨hvalid, hevidence⟩, hseats⟩ := hcomplete
  simp only [ServiceContract.ratesFit, Bool.and_eq_true, decide_eq_true_eq] at hrates
  obtain ⟨⟨⟨⟨⟨⟨⟨hrates, hkm⟩, hfee⟩, hbonus⟩, hrate⟩, hunits⟩, -⟩, -⟩ := hrates
  have hkm0 := (quantities_of_isValid hvalid).1
  have hnonneg := hrates
  simp only [ServiceContract.hasValidRates, Bool.and_eq_true, decide_eq_true_eq] at hnonneg
  obtain ⟨⟨hfee0, hbonus0⟩, hrate0⟩ := hnonneg
  -- a penalty is the product of two numbers that fit
  have hpenalty0 : ∀ focus, 0 ≤ contract.penalty performance focus := fun focus =>
    Int.mul_nonneg (penaltyUnits_nonneg hvalid focus)
      (of_decide_eq_true (List.all_eq_true.mp hrate0 _ (contract.penaltyRates.get_mem focus)))
  have hparts0 : ∀ part ∈ penaltyNames.map fun entry => contract.penalty performance entry.1,
      0 ≤ part := by
    intro part hpart
    obtain ⟨entry, -, rfl⟩ := List.mem_map.mp hpart
    exact hpenalty0 entry.1
  have hparts : penaltyNames.mapM (fun entry =>
      multiplyNonnegativeI64 (contract.penaltyUnits performance entry.1)
        (contract.penaltyRates.get entry.1) entry.2)
      = .ok (penaltyNames.map fun entry => contract.penalty performance entry.1) := by
    refine mapM_eq_ok_map fun entry hentry => multiplyNonnegativeI64_eq_ok.mpr ?_
    have hin : contract.penalty performance entry.1 ∈ penaltyNames.map fun entry =>
        contract.penalty performance entry.1 := List.mem_map_of_mem hentry
    have hfits := (le_totalOf hparts0 hin).trans hpenalties
    have hget := contract.penaltyRates.get_mem entry.1
    exact ⟨⟨penaltyUnits_nonneg hvalid _, of_decide_eq_true (List.all_eq_true.mp hunits _ hentry)⟩,
      ⟨of_decide_eq_true (List.all_eq_true.mp hrate0 _ hget),
        of_decide_eq_true (List.all_eq_true.mp hrate _ hget)⟩, hfits, rfl⟩
  have hvalues : contract.penaltyRates.values.mapM (fun rate =>
      assertNonnegativeI64 rate "Poenalesatz") = .ok (contract.penaltyRates.values.map id) :=
    mapM_eq_ok_map fun rate hin => nonneg_eq_ok
      (of_decide_eq_true (List.all_eq_true.mp hrate0 _ hin))
      (of_decide_eq_true (List.all_eq_true.mp hrate _ hin))
  have hmissing : contract.evidenceRequired.find? (fun required =>
      !performance.evidence.contains required) = none := by
    refine List.find?_eq_none.mpr fun required hin => ?_
    rw [List.all_eq_true.mp hevidence required hin]
    exact Bool.false_ne_true
  have hearned : 0 ≤ contract.earnedBonus performance := by
    unfold ServiceContract.earnedBonus
    split
    · exact hbonus0
    · exact le_rfl
  have hproduct0 := Int.mul_nonneg hkm0 hfee0
  have htotal0 := totalOf_nonneg hparts0
  unfold ServiceContract.gross at hgross
  unfold ServiceContract.penalties at hpenalties
  have hordering : multiplyNonnegativeI64 performance.trainKm contract.orderingFeeCentsPerTrainKm
      "Bestellerentgelt" = .ok (performance.trainKm * contract.orderingFeeCentsPerTrainKm) :=
    multiplyNonnegativeI64_eq_ok.mpr ⟨⟨hkm0, hkm⟩, ⟨hfee0, hfee⟩, by omega, rfl⟩
  have hadd : addI64 (performance.trainKm * contract.orderingFeeCentsPerTrainKm)
      (contract.earnedBonus performance) "Vertragserloes" = .ok (contract.gross performance) :=
    addI64_eq_ok.mpr ⟨⟨by omega, hgross⟩, rfl⟩
  have hsubtract : subtractI64 (contract.gross performance) (contract.penalties performance)
      "Vertragsnetto"
      = .ok (contract.gross performance - contract.penalties performance) := by
    refine subtractI64_eq_ok.mpr ⟨?_, rfl⟩
    unfold ServiceContract.gross ServiceContract.penalties
    exact ⟨by omega, by omega⟩
  simp only [settleContract, bind_eq_ok_iff, require_eq_ok, exists_const]
  exact ⟨_, ⟨hvalid, _, nonneg_eq_ok hkm0 hkm, hrates, _, nonneg_eq_ok hfee0 hfee, _,
    nonneg_eq_ok hbonus0 hbonus, _, hvalues, by rw [hmissing]; rfl, _, hordering, hseats, _, hparts,
    _, sumI64_eq_ok hparts0 hpenalties, _, hadd, _, hsubtract, rfl⟩, rfl⟩

end Contract

/-! ### Profit and loss -/

/-- The amounts of some costs. -/
def amountsOf (postings : List ClassifiedPosting) : List Int :=
  postings.map ClassifiedPosting.amountCents

section Costs

variable {postings : List ClassifiedPosting}

/-- Costs that are not negative can be booked one after the other if they fit together. -/
lemma foldlM_costs {costType : CostType} (h : ∀ amount ∈ amountsOf postings, 0 ≤ amount)
    {first : Int} (hfirst : 0 ≤ first) (hfits : first + totalOf (amountsOf postings) ≤ i64Max) :
    postings.foldlM (fun sum posting => do
      let amount ← assertNonnegativeI64 posting.amountCents "Kostenbuchung"
      addI64 sum amount (costType.name ++ "-Kosten")) first
      = .ok (first + totalOf (amountsOf postings)) := by
  induction postings generalizing first with
  | nil => simp [amountsOf, pure, Except.pure]
  | cons posting postings ih =>
    have hamount := h posting.amountCents (List.mem_cons_self)
    have hlater : ∀ amount ∈ amountsOf postings, 0 ≤ amount := fun amount hin =>
      h amount (List.mem_cons_of_mem _ hin)
    have hrest := totalOf_nonneg hlater
    have hmin : i64Min ≤ 0 := by decide
    change first + (posting.amountCents + totalOf (amountsOf postings)) ≤ i64Max at hfits
    refine foldlM_cons_eq_ok_iff.mpr ⟨first + posting.amountCents, ?_, ?_⟩
    · exact bind_eq_ok_iff.mpr ⟨_, nonneg_eq_ok hamount (by omega),
        addI64_eq_ok.mpr ⟨⟨by omega, by omega⟩, rfl⟩⟩
    · rw [ih hlater (by omega) (by omega), Int.add_assoc]
      rfl

lemma costsOf_eq_ok (h : ∀ amount ∈ amountsOf postings, 0 ≤ amount)
    (hfits : totalOf (amountsOf postings) ≤ i64Max) (costType : CostType) :
    costsOf postings costType = .ok (totalOf (amountsOf
      (postings.filter fun posting => posting.costType == costType))) := by
  have hpart : (amountsOf (postings.filter fun posting => posting.costType == costType)).Sublist
      (amountsOf postings) := List.filter_sublist.map _
  have hnonneg : ∀ amount ∈ amountsOf (postings.filter fun posting =>
      posting.costType == costType), 0 ≤ amount := fun amount hin => h amount (hpart.subset hin)
  have hle := totalOf_sublist hpart h
  have hbooked := @foldlM_costs _ costType hnonneg 0 le_rfl (by omega)
  rwa [Int.zero_add] at hbooked

/-- Every cost is of one of the kinds. -/
lemma totalOf_costTypes (postings : List ClassifiedPosting) :
    totalOf (economyCostTypes.map fun costType => totalOf (amountsOf
      (postings.filter fun posting => posting.costType == costType)))
      = totalOf (amountsOf postings) := by
  induction postings with
  | nil => rfl
  | cons posting postings ih =>
    have hstep : ∀ costType, totalOf (amountsOf
        ((posting :: postings).filter fun posting => posting.costType == costType))
        = (if posting.costType == costType then posting.amountCents else 0)
          + totalOf (amountsOf
            (postings.filter fun posting => posting.costType == costType)) := by
      intro costType
      rw [List.filter_cons]
      split
      · rfl
      · exact (Int.zero_add _).symm
    simp only [hstep]
    change _ = posting.amountCents + totalOf (amountsOf postings)
    rw [← ih]
    cases posting.costType <;> simp [economyCostTypes] <;> omega

/-- The result of a period can be computed if the costs and the result fit. -/
lemma calculateProfitAndLoss_isOk {revenueCents : Int}
    (hrevenue : i64Min ≤ revenueCents ∧ revenueCents ≤ i64Max)
    (h : ∀ amount ∈ amountsOf postings, 0 ≤ amount)
    (hfits : totalOf (amountsOf postings) ≤ i64Max)
    (hresult : i64Min ≤ revenueCents - totalOf (amountsOf postings)) :
    ∃ result, calculateProfitAndLoss revenueCents postings = .ok result := by
  have htotal := totalOf_nonneg h
  have hcosts : economyCostTypes.mapM (costsOf postings) = .ok (economyCostTypes.map fun costType =>
      totalOf (amountsOf (postings.filter fun posting => posting.costType == costType))) :=
    mapM_eq_ok_map fun costType _ => costsOf_eq_ok h hfits costType
  have hparts : ∀ part ∈ economyCostTypes.map fun costType => totalOf (amountsOf
      (postings.filter fun posting => posting.costType == costType)), 0 ≤ part := by
    intro part hpart
    obtain ⟨costType, -, rfl⟩ := List.mem_map.mp hpart
    exact totalOf_nonneg fun amount hin => h amount ((List.filter_sublist.map _).subset hin)
  have hsum := @sumI64_eq_ok "Gesamtkosten" _ hparts (by rw [totalOf_costTypes]; exact hfits)
  rw [totalOf_costTypes] at hsum
  simp only [calculateProfitAndLoss, bind_eq_ok_iff]
  exact ⟨_, _, assertI64_eq_ok.mpr ⟨hrevenue, rfl⟩, _, hcosts, _, hsum, _,
    subtractI64_eq_ok.mpr ⟨⟨hresult, by omega⟩, rfl⟩, rfl⟩

end Costs

/-! ### The settlement -/

/-- The evidence for what was earned can be given for an interval of exact times. -/
lemma revenueEvidence_isOk {state : EconomyWorldState} {input : Settlement}
    {contract : ServiceContract} {tender : Tender} {settlement : ContractSettlement}
    (hstart : 0 ≤ periodStart contract tender input.period)
    (hlength : periodStart contract tender input.period < periodEnd contract tender input.period)
    (hover : periodEnd contract tender input.period ≤ input.time)
    (hexact : state.release.fareInspection = true → isSafeInteger (input.time * 1000) = true) :
    ∃ evidence, revenueEvidence state input contract tender settlement = .ok evidence := by
  unfold revenueEvidence
  split
  · rename_i hinspection
    have htime := hexact hinspection
    simp only [isSafeInteger, Bool.and_eq_true, decide_eq_true_eq] at htime
    have hmax : 0 ≤ maxSafeInteger := by decide
    simp only [buildFareContractRevenueEvidence, bind_eq_ok_iff, require_eq_ok, exists_const]
    refine ⟨_, _, ⟨?_, rfl⟩, rfl⟩
    simp only [List.all_cons, List.all_nil, isSafeInteger, Bool.and_eq_true, decide_eq_true_eq,
      Bool.and_true]
    exact ⟨⟨⟨⟨⟨by omega, by omega⟩, ⟨by omega, by omega⟩, ⟨by omega, by omega⟩⟩, by omega⟩,
      by omega⟩, by omega⟩
  · exact ⟨none, rfl⟩

/-- The amounts of a period can be settled if what was run is shown in full and everything fits. -/
lemma settleAmounts_isOk {state : EconomyWorldState} {input : Settlement}
    {contract : ServiceContract} {tender : Tender}
    (hcomplete : input.performance.isComplete contract = true)
    (hfit : amountsFit input contract = true)
    (hstart : 0 ≤ periodStart contract tender input.period)
    (hlength : periodStart contract tender input.period < periodEnd contract tender input.period)
    (hover : periodEnd contract tender input.period ≤ input.time)
    (hexact : state.release.fareInspection = true → isSafeInteger (input.time * 1000) = true) :
    ∃ result, settleAmounts state input contract tender = .ok result := by
  simp only [amountsFit, Bool.and_eq_true, decide_eq_true_eq] at hfit
  obtain ⟨⟨⟨⟨⟨hbookable, hrates⟩, hgross⟩, hpenalties⟩, hcosts⟩, hresult⟩ := hfit
  have hmin : i64Min = -i64Max - 1 := by decide
  have hvalid : input.performance.isValid = true := by
    simp only [PerformanceEvidence.isComplete, Bool.and_eq_true] at hcomplete
    exact hcomplete.1.1
  have hkm0 := (quantities_of_isValid hvalid).1
  have hparts := hrates
  simp only [ServiceContract.ratesFit, Bool.and_eq_true, decide_eq_true_eq] at hparts
  obtain ⟨⟨⟨⟨⟨⟨⟨-, hkm⟩, -⟩, -⟩, -⟩, -⟩, hvehicle0⟩, hvehicle⟩ := hparts
  -- the costs that were handed in
  have hgiven : ∀ amount ∈ amountsOf input.costs, 0 ≤ amount := by
    intro amount hin
    obtain ⟨posting, hposting, rfl⟩ := List.mem_map.mp hin
    have hbook := List.all_eq_true.mp hbookable posting hposting
    simp only [isBookable, Bool.and_eq_true, decide_eq_true_eq] at hbook
    exact hbook.1.1
  have htotal := totalOf_nonneg hgiven
  have hproduct0 : 0 ≤ contract.vehicleCost input.performance := Int.mul_nonneg hvehicle0 hkm0
  unfold totalCosts at hcosts hresult
  change totalOf (amountsOf input.costs) + _ ≤ _ at hcosts
  change _ ≤ _ - (totalOf (amountsOf input.costs) + _) at hresult
  have hchecked : input.costs.mapM (fun posting => do
      require (isBookable contract.lotId posting)
        "Kostenbuchung verletzt Betrag, Los-Grenze oder Belegpflicht."
      assertNonnegativeI64 posting.amountCents "Kostenbuchung")
      = .ok (input.costs.map ClassifiedPosting.amountCents) := by
    refine mapM_eq_ok_map fun posting hin => require_bind_eq_ok.mpr
      ⟨List.all_eq_true.mp hbookable posting hin, ?_⟩
    have hamount := List.mem_map_of_mem (f := ClassifiedPosting.amountCents) hin
    have hle := le_totalOf hgiven hamount
    exact nonneg_eq_ok (hgiven _ hamount) (by omega)
  have hmultiply : multiplyNonnegativeI64 (contract.mandatoryVehicleCostCentsPerTrainKm.getD 0)
      input.performance.trainKm "Verbindliche Fahrzeugkosten"
      = .ok (contract.vehicleCost input.performance) := by
    refine multiplyNonnegativeI64_eq_ok.mpr ⟨⟨hvehicle0, hvehicle⟩, ⟨hkm0, hkm⟩, ?_, rfl⟩
    change contract.vehicleCost input.performance ≤ i64Max
    omega
  -- the costs with those of the vehicles
  have hall : (∀ amount ∈ amountsOf (costsWithVehicles input contract
        (contract.vehicleCost input.performance)), 0 ≤ amount) ∧
      totalOf (amountsOf (costsWithVehicles input contract
        (contract.vehicleCost input.performance)))
        = totalOf (amountsOf input.costs) + contract.vehicleCost input.performance := by
    unfold costsWithVehicles
    split
    · rename_i hzero
      rw [beq_iff_eq.mp hzero, Int.add_zero]
      exact ⟨hgiven, rfl⟩
    · refine ⟨fun amount hin => ?_, ?_⟩
      · rw [amountsOf, List.map_append, List.mem_append] at hin
        rcases hin with hin | hin
        · exact hgiven amount hin
        · rw [List.map_singleton, List.mem_singleton] at hin
          exact hin ▸ hproduct0
      · rw [amountsOf, List.map_append, totalOf_append, List.map_singleton, totalOf_cons,
          totalOf_nil, Int.add_zero]
        rfl
  obtain ⟨settlement, hsettlement, hnet⟩ := settleContract_isOk hcomplete hrates hgross hpenalties
  have hbounds : 0 ≤ contract.gross input.performance ∧
      0 ≤ contract.penalties input.performance := gross_nonneg hvalid hrates
  obtain ⟨result, hprofit⟩ := @calculateProfitAndLoss_isOk
    (costsWithVehicles input contract (contract.vehicleCost input.performance))
    settlement.netCents ⟨by omega, by omega⟩ hall.1 (by rw [hall.2]; exact hcosts)
    (by rw [hall.2, hnet]; exact hresult)
  obtain ⟨evidence, hevidence⟩ := @revenueEvidence_isOk state input contract tender settlement
    hstart hlength hover hexact
  simp only [settleAmounts, bind_eq_ok_iff]
  exact ⟨_, _, hchecked, _, hmultiply, _, hsettlement, _, hprofit, _, hevidence, rfl⟩

end Zugfolge.Economy
