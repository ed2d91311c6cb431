/-
Which bid wins a tender.

* `scoreBid_of_cheaper`: a valid bid with a lower fee stays valid and loses no points;
* `awardTender_best`: the award has one winner in every order of the bids, the best valid bid.
-/
import Zugfolge.Economy.Runs

namespace Zugfolge.Economy

open Foundation

variable {tender : Tender} {bids : List Bid}

/-! ### The order of the bids -/

/-- One entry stands before another. -/
abbrev ScoredBid.Before (a b : ScoredBid) : Prop := (a.order b).isLE = true

lemma ScoredBid.before_iff {a b : ScoredBid} : a.Before b ↔
    b.total < a.total ∨ b.total = a.total ∧
      (a.bid.orderingFeeCentsPerTrainKm < b.bid.orderingFeeCentsPerTrainKm ∨
        a.bid.orderingFeeCentsPerTrainKm = b.bid.orderingFeeCentsPerTrainKm ∧
          a.bid.id ≤ b.bid.id) := by
  simp only [ScoredBid.Before, ScoredBid.order, Ordering.isLE_then_iff_or, compare_lt_iff_lt,
    compare_eq_iff_eq]
  rw [Ordering.isLE_iff_ne_gt, compare_gt_iff_gt.not, not_lt]

instance : Std.Total ScoredBid.Before where
  total a b := by
    simp only [ScoredBid.before_iff]
    have hnames := le_total a.bid.id b.bid.id
    grind

instance : IsTrans ScoredBid ScoredBid.Before where
  trans a b c hab hbc := by
    rw [ScoredBid.before_iff] at hab hbc ⊢
    have hnames := @le_trans _ _ a.bid.id b.bid.id c.bid.id
    grind

lemma ScoredBid.id_eq_of_before {a b : ScoredBid} (hab : a.Before b) (hba : b.Before a) :
    a.bid.id = b.bid.id := by
  rw [ScoredBid.before_iff] at hab hba
  have hnames := @le_antisymm _ _ a.bid.id b.bid.id
  grind

/-! ### Valid bids -/

lemma mem_validBids {entry : ScoredBid} : entry ∈ validBids tender bids ↔
    (entry.bid ∈ bids ∧ entry.bid.submittedAt ≤ tender.closesAt) ∧
      scoreBid tender entry.bid = .ok entry.score := by
  obtain ⟨bid, score⟩ := entry
  simp only [validBids, List.mem_filterMap, List.mem_filter, decide_eq_true_eq,
    Option.map_eq_some_iff]
  constructor
  · rintro ⟨other, hother, result, hscore, heq⟩
    cases heq
    refine ⟨hother, ?_⟩
    cases hresult : scoreBid tender bid <;> rw [hresult] at hscore <;> cases hscore
    rfl
  · rintro ⟨hbid, hscore⟩
    exact ⟨bid, hbid, score, by rw [hscore]; rfl, rfl⟩

lemma eq_of_mem_validBids (hids : (bids.map Bid.id).Nodup) {a b : ScoredBid}
    (ha : a ∈ validBids tender bids) (hb : b ∈ validBids tender bids)
    (hid : a.bid.id = b.bid.id) : a = b := by
  rw [mem_validBids] at ha hb
  have hbid : a.bid = b.bid := List.inj_on_of_nodup_map hids ha.1.1 hb.1.1 hid
  obtain ⟨bid, score⟩ := a
  obtain ⟨other, result⟩ := b
  cases hbid
  cases ha.2.symm.trans hb.2
  rfl

lemma awardTender_eq_ok {time : Int} {award : Award} :
    awardTender tender bids time = .ok award ↔ tender.closesAt ≤ time ∧
      let valid := (validBids tender bids).insertionSort ScoredBid.Before
      (⟨valid.head?.map ScoredBid.bid, valid.map fun entry => (entry.bid.id, entry.score),
        if valid.isEmpty then "failed" else "awarded"⟩ : Award) = award := by
  unfold awardTender
  rw [require_bind_eq_ok, decide_eq_true_eq]
  exact and_congr_right fun _ => iff_of_eq (Except.ok.injEq _ _)

/-- The winner of an award is the valid bid that stands before all others. -/
lemma awardTender_winner_iff (hids : (bids.map Bid.id).Nodup) {time : Int} {award : Award}
    (h : awardTender tender bids time = .ok award) {winner : Bid} :
    award.winner = some winner ↔ ∃ score, ⟨winner, score⟩ ∈ validBids tender bids ∧
      ∀ entry ∈ validBids tender bids, ScoredBid.Before ⟨winner, score⟩ entry := by
  obtain ⟨-, rfl⟩ := awardTender_eq_ok.mp h
  have hsorted := List.pairwise_insertionSort ScoredBid.Before (validBids tender bids)
  have hmem (entry : ScoredBid) : entry ∈ (validBids tender bids).insertionSort ScoredBid.Before
      ↔ entry ∈ validBids tender bids := List.mem_insertionSort _
  simp only [← hmem]
  cases hlist : (validBids tender bids).insertionSort ScoredBid.Before with
  | nil => simp only [List.not_mem_nil, List.head?_nil, Option.map_none, reduceCtorEq,
      false_and, exists_false]
  | cons first rest =>
    rw [hlist] at hsorted hmem
    have hfirst : ∀ entry ∈ first :: rest, first.Before entry := by
      intro entry hentry
      rcases List.mem_cons.mp hentry with rfl | hrest
      · exact (Std.Total.total entry entry).elim id id
      · exact List.rel_of_pairwise_cons hsorted hrest
    constructor
    · intro hwinner
      cases hwinner
      exact ⟨first.score, List.mem_cons_self, hfirst⟩
    · rintro ⟨score, hvalid, hbest⟩
      have hid := ScoredBid.id_eq_of_before (hfirst _ hvalid) (hbest first List.mem_cons_self)
      rw [eq_of_mem_validBids hids ((hmem first).mp List.mem_cons_self) ((hmem _).mp hvalid) hid]
      rfl

/-- The award does not depend on the order of the bids. -/
lemma awardTender_perm (hids : (bids.map Bid.id).Nodup) {others : List Bid}
    (hperm : others.Perm bids) (time : Int) :
    awardTender tender others time = awardTender tender bids time := by
  have hvalid : (validBids tender others).Perm (validBids tender bids) :=
    (hperm.filter _).filterMap _
  have hsorted (list : List Bid) :=
    List.pairwise_insertionSort ScoredBid.Before (validBids tender list)
  have heq : (validBids tender others).insertionSort ScoredBid.Before
      = (validBids tender bids).insertionSort ScoredBid.Before := by
    refine List.Perm.eq_of_pairwise ?_ (hsorted others) (hsorted bids)
      (((List.perm_insertionSort _ _).trans hvalid).trans (List.perm_insertionSort _ _).symm)
    intro a b ha hb hab hba
    exact eq_of_mem_validBids hids (hvalid.subset ((List.mem_insertionSort _).mp ha))
      ((List.mem_insertionSort _).mp hb) (ScoredBid.id_eq_of_before hab hba)
  unfold awardTender
  rw [heq]

/-! ### A cheaper bid -/

/-- A bid that is valid stays valid with a lower fee, and it loses no points. -/
lemma scoreBid_of_cheaper (hweight : 0 ≤ tender.profile.weights.price) {bid : Bid}
    {score : ScoreBreakdown} (h : scoreBid tender bid = .ok score) {fee : Int} (hfee : 0 ≤ fee)
    (hlower : fee ≤ bid.orderingFeeCentsPerTrainKm) :
    ∃ next, scoreBid tender { bid with orderingFeeCentsPerTrainKm := fee } = .ok next ∧
      score.pricePoints ≤ next.pricePoints ∧ next.qualityPoints = score.qualityPoints := by
  unfold scoreBid at h ⊢
  simp only [bind_eq_ok_iff, require_eq_ok, exists_const, Bool.and_eq_true,
    decide_eq_true_eq] at h ⊢
  obtain ⟨⟨⟨hvehicle, hviable⟩, -⟩, hpromises, hseats, hstops, special, hspecial, extraSeats,
    hextra, punctuality, hpunctual, stops, hadditional, h⟩ := h
  cases h
  refine ⟨_, ⟨⟨⟨hvehicle, by omega⟩, hfee⟩, hpromises, hseats, hstops, special, hspecial,
    extraSeats, hextra, punctuality, hpunctual, stops, hadditional, rfl⟩, ?_, rfl⟩
  have hscale : (0 : Int) < 10000 := by decide
  change Int.fdiv _ _ ≤ Int.fdiv _ _
  rw [Int.fdiv_eq_ediv_of_nonneg _ hscale.le, Int.fdiv_eq_ediv_of_nonneg _ hscale.le]
  refine Int.ediv_le_ediv hscale (mul_le_mul_of_nonneg_right ?_ hweight)
  split
  · rfl
  · next hthreshold =>
    rw [beq_iff_eq] at hthreshold
    exact Int.tdiv_le_tdiv (by omega) (by omega)

/-! ### The best bid -/

def Bid.withFee (bid : Bid) (fee : Int) : Bid := { bid with orderingFeeCentsPerTrainKm := fee }

/-- The bids, one of them with another fee. -/
def withFeeOf (winner : Bid) (fee : Int) (bids : List Bid) : List Bid :=
  bids.map fun bid => if bid.id = winner.id then bid.withFee fee else bid

lemma ids_withFeeOf (winner : Bid) (fee : Int) (bids : List Bid) :
    (withFeeOf winner fee bids).map Bid.id = bids.map Bid.id := by
  rw [withFeeOf, List.map_map]
  refine List.map_congr_left fun bid _ => ?_
  simp only [Function.comp_apply]
  split <;> rfl

/-- The winner still wins after its fee was lowered. -/
lemma wins_of_cheaper (hids : (bids.map Bid.id).Nodup) (hweight : 0 ≤ tender.profile.weights.price)
    {winner : Bid} {score : ScoreBreakdown} (hvalid : ⟨winner, score⟩ ∈ validBids tender bids)
    (hbest : ∀ entry ∈ validBids tender bids, ScoredBid.Before ⟨winner, score⟩ entry) {fee : Int}
    (hfee : 0 ≤ fee) (hlower : fee ≤ winner.orderingFeeCentsPerTrainKm) :
    ∃ next, ⟨winner.withFee fee, next⟩ ∈ validBids tender (withFeeOf winner fee bids) ∧
      ∀ entry ∈ validBids tender (withFeeOf winner fee bids),
        ScoredBid.Before ⟨winner.withFee fee, next⟩ entry := by
  obtain ⟨⟨hin, hsubmitted⟩, hscore⟩ := mem_validBids.mp hvalid
  obtain ⟨next, hnext, hprice, hquality⟩ := scoreBid_of_cheaper hweight hscore hfee hlower
  have hmem : winner.withFee fee ∈ withFeeOf winner fee bids :=
    List.mem_map.mpr ⟨winner, hin, if_pos rfl⟩
  refine ⟨next, mem_validBids.mpr ⟨⟨hmem, hsubmitted⟩, hnext⟩, fun entry hentry => ?_⟩
  have hself := mem_validBids.mp hentry
  obtain ⟨bid, hbid, heq⟩ := List.mem_map.mp hself.1.1
  by_cases hid : bid.id = winner.id
  · -- The entry is the cheaper bid itself.
    rw [if_pos hid, List.inj_on_of_nodup_map hids hbid hin hid] at heq
    have hsame : entry = ⟨winner.withFee fee, next⟩ := by
      obtain ⟨_, result⟩ := entry
      cases heq
      cases hself.2.symm.trans hnext
      rfl
    rw [hsame]
    exact (Std.Total.total (r := ScoredBid.Before) _ _).elim id id
  · rw [if_neg hid] at heq
    have hother := hbest entry (mem_validBids.mpr ⟨⟨heq ▸ hbid, hself.1.2⟩, hself.2⟩)
    rw [ScoredBid.before_iff] at hother ⊢
    simp only [ScoredBid.total, Bid.withFee, hquality] at hother ⊢
    grind

/-- The award is the same in every order of the bids.  The winner is a valid bid that asks no more
than the threshold with a vehicle that lacks nothing, and each other valid bid has fewer points, or
as many and a higher fee, or the same fee and a later name.  Without a winner no bid is valid.  If
the weight of the price is not negative, then the winner still wins with a lower fee that is not
negative. -/
theorem awardTender_best (tender : Tender) (bids : List Bid) (time : Int)
    (hids : (bids.map Bid.id).Nodup) :
    (∀ others : List Bid, others.Perm bids →
      awardTender tender others time = awardTender tender bids time) ∧
    ∀ award, awardTender tender bids time = .ok award →
      (award.winner = none → validBids tender bids = []) ∧
      ∀ winner, award.winner = some winner →
        (winner.orderingFeeCentsPerTrainKm ≤ tender.viabilityThresholdCentsPerTrainKm ∧
          validateVehicle tender.specification.requirements winner.vehicle = []) ∧
        (∃ score, ⟨winner, score⟩ ∈ validBids tender bids ∧
          ∀ entry ∈ validBids tender bids,
            entry.total < score.pricePoints + score.qualityPoints ∨
            entry.total = score.pricePoints + score.qualityPoints ∧
              (winner.orderingFeeCentsPerTrainKm < entry.bid.orderingFeeCentsPerTrainKm ∨
                winner.orderingFeeCentsPerTrainKm = entry.bid.orderingFeeCentsPerTrainKm ∧
                  winner.id ≤ entry.bid.id)) ∧
        (0 ≤ tender.profile.weights.price →
          ∀ fee, 0 ≤ fee → fee ≤ winner.orderingFeeCentsPerTrainKm →
            ∃ next, awardTender tender (withFeeOf winner fee bids) time = .ok next ∧
              next.winner = some (winner.withFee fee)) := by
  refine ⟨fun others hperm => awardTender_perm hids hperm time, fun award h => ⟨?_, ?_⟩⟩
  · intro hnone
    obtain ⟨-, rfl⟩ := awardTender_eq_ok.mp h
    rw [Option.map_eq_none_iff, List.head?_eq_none_iff] at hnone
    exact List.perm_nil.mp (hnone ▸ (List.perm_insertionSort _ _).symm)
  · intro winner hwinner
    obtain ⟨score, hvalid, hbest⟩ := (awardTender_winner_iff hids h).mp hwinner
    have hoffer := (mem_validBids.mp hvalid).2
    unfold scoreBid at hoffer
    simp only [bind_eq_ok_iff, require_eq_ok, exists_const, Bool.and_eq_true, decide_eq_true_eq,
      List.isEmpty_iff] at hoffer
    refine ⟨⟨hoffer.1.1.2, hoffer.1.1.1⟩, ⟨score, hvalid, fun entry hentry =>
      ScoredBid.before_iff.mp (hbest entry hentry)⟩, fun hweight fee hfee hlower => ?_⟩
    obtain ⟨next, hnext, hbest⟩ := wins_of_cheaper hids hweight hvalid hbest hfee hlower
    have hresult : awardTender tender (withFeeOf winner fee bids) time = .ok _ :=
      awardTender_eq_ok.mpr ⟨(awardTender_eq_ok.mp h).1, rfl⟩
    refine ⟨_, hresult, (awardTender_winner_iff ?_ hresult).mpr ⟨next, hnext, hbest⟩⟩
    rw [ids_withFeeOf]
    exact hids

def openTenderOfSmallWorld : Tender :=
  ((createTender (smallTender "operator-2") ⟨"price", ⟨7000, 3000⟩, .capacity, .punctuality, none,
    1000⟩ smallRelease).toOption).get (by decide +kernel)

/-- The award for two bids is the same in either order. -/
theorem awardTender_best_small :
    awardTender openTenderOfSmallWorld [smallBid "operator-1", { smallBid "operator-3" with
        id := "bid-2", orderingFeeCentsPerTrainKm := 90 }] 259300
      = awardTender openTenderOfSmallWorld [{ smallBid "operator-3" with
        id := "bid-2", orderingFeeCentsPerTrainKm := 90 }, smallBid "operator-1"] 259300 :=
  (awardTender_best openTenderOfSmallWorld _ 259300 (by decide)).1 _
    (List.Perm.swap _ _ _)

/-- A winner whose fee is lowered below zero wins no longer. -/
theorem negative_fee_loses :
    (awardTender openTenderOfSmallWorld [smallBid "operator-1"] 259300).map Award.winner
      = .ok (some (smallBid "operator-1")) ∧
    (awardTender openTenderOfSmallWorld [(smallBid "operator-1").withFee (-1)] 259300).map
      Award.winner = .ok none := by
  decide +kernel

/-- With a negative weight of the price a winner loses to another bid once it asks less. -/
theorem negative_weight_loses :
    let tender := { openTenderOfSmallWorld with
      profile := { openTenderOfSmallWorld.profile with weights := ⟨-7000, 3000⟩ } }
    let other := { smallBid "operator-3" with id := "bid-2" }
    (awardTender tender [smallBid "operator-1", other] 259300).map Award.winner
      = .ok (some (smallBid "operator-1")) ∧
    (awardTender tender [(smallBid "operator-1").withFee 0, other] 259300).map Award.winner
      = .ok (some other) := by
  decide +kernel

end Zugfolge.Economy
