/-
Rounded division and binary search.
-/
import Zugfolge.Foundation.Machine

namespace Zugfolge.Foundation

/-! ### Saturation -/

lemma clamp128_of_mem {x : Int} (h : i128Min ≤ x ∧ x ≤ i128Max) : clamp128 x = x := by
  unfold clamp128
  omega

lemma clamp128_nonneg {x : Int} (h : 0 ≤ x) : 0 ≤ clamp128 x := by
  have hmax : 0 ≤ i128Max := by decide
  unfold clamp128
  omega

lemma clamp128_nonpos {x : Int} (h : x ≤ 0) : clamp128 x ≤ 0 := by
  have hmin : i128Min ≤ 0 := by decide
  unfold clamp128
  omega

/-! ### Rounded division -/

variable {n m d : Int}

lemma divRoundHalfAway_of_nonneg (hn : 0 ≤ n) (hd : 0 < d) (hfit : n + d / 2 ≤ i128Max) :
    divRoundHalfAway n d = (n + d / 2) / d := by
  have hhalf : 0 ≤ d / 2 := Int.ediv_nonneg hd.le (by decide)
  have hmin : i128Min ≤ 0 := by decide
  have hsum : addSat128 n (d / 2) = n + d / 2 := clamp128_of_mem ⟨by omega, hfit⟩
  rw [divRoundHalfAway, if_pos hn, hsum]
  exact Int.tdiv_eq_ediv_of_nonneg (by omega)

/-- Rounding is symmetric about zero. -/
lemma divRoundHalfAway_neg (hn : 0 ≤ n) (hd : 0 < d) (hfit : n + d / 2 ≤ i128Max) :
    divRoundHalfAway (-n) d = -((n + d / 2) / d) := by
  have hhalf : 0 ≤ d / 2 := Int.ediv_nonneg hd.le (by decide)
  rcases hn.eq_or_lt with rfl | hpos
  · have hzero : (0 + d / 2) / d = 0 := Int.ediv_eq_zero_of_lt (by omega) (by omega)
    rw [neg_zero, divRoundHalfAway_of_nonneg le_rfl hd hfit, hzero, neg_zero]
  · have hmin : i128Min ≤ -i128Max := by decide
    have hmax : 0 ≤ i128Max := by decide
    have hdiff : subSat128 (-n) (d / 2) = -(n + d / 2) := by
      have hsame : -n - d / 2 = -(n + d / 2) := by omega
      rw [subSat128, hsame]
      exact clamp128_of_mem ⟨by omega, by omega⟩
    rw [divRoundHalfAway, if_neg (by omega), hdiff, Int.neg_tdiv,
      Int.tdiv_eq_ediv_of_nonneg (by omega)]

lemma divRoundHalfAway_nonneg (hn : 0 ≤ n) (hd : 0 < d) : 0 ≤ divRoundHalfAway n d := by
  have hhalf : 0 ≤ d / 2 := Int.ediv_nonneg hd.le (by decide)
  rw [divRoundHalfAway, if_pos hn]
  exact Int.tdiv_nonneg (clamp128_nonneg (by omega)) hd.le

lemma divRoundHalfAway_mono (hd : 0 < d) (h : n ≤ m) :
    divRoundHalfAway n d ≤ divRoundHalfAway m d := by
  have hhalf : 0 ≤ d / 2 := Int.ediv_nonneg hd.le (by decide)
  by_cases hn : 0 ≤ n
  · rw [divRoundHalfAway, divRoundHalfAway, if_pos hn, if_pos (hn.trans h)]
    exact Int.tdiv_le_tdiv hd (clamp128_mono (by omega))
  · by_cases hm : 0 ≤ m
    · have hbelow : divRoundHalfAway n d ≤ 0 := by
        rw [divRoundHalfAway, if_neg hn]
        exact (Int.tdiv_le_tdiv hd (clamp128_nonpos (by omega))).trans_eq (Int.zero_tdiv d)
      exact hbelow.trans (divRoundHalfAway_nonneg hm hd)
    · rw [divRoundHalfAway, divRoundHalfAway, if_neg hn, if_neg hm]
      exact Int.tdiv_le_tdiv hd (clamp128_mono (by omega))

/-! ### Binary search -/

variable {test : Int → Bool} {low high : Int}

/-- The middle of a window is neither below its low end nor at its high end. -/
lemma middle_mem (hlow : 0 ≤ low) (hlt : low < high) (hhigh : high ≤ i64Max) :
    addSat64 low (subSat64 high low / 2) = low + (high - low) / 2
      ∧ addSat64 (low + (high - low) / 2) 1 = low + (high - low) / 2 + 1 := by
  have hmin : i64Min ≤ 0 := by decide
  have hwindow : subSat64 high low = high - low := clamp64_of_mem ⟨by omega, by omega⟩
  rw [hwindow]
  exact ⟨clamp64_of_mem ⟨by omega, by omega⟩, clamp64_of_mem ⟨by omega, by omega⟩⟩

/-- The search ends in its window; there the test passes if it passes at the high end. -/
lemma bisectRounds_spec (rounds : ℕ) (hlow : 0 ≤ low) (hle : low ≤ high) (hhigh : high ≤ i64Max)
    (hrounds : high - low ≤ rounds) :
    (low ≤ bisectRounds test rounds low high ∧ bisectRounds test rounds low high ≤ high)
      ∧ (test high = true → test (bisectRounds test rounds low high) = true) := by
  induction rounds generalizing low high with
  | zero =>
    have hsame : low = high := by omega
    subst hsame
    exact ⟨⟨le_rfl, le_rfl⟩, id⟩
  | succ rounds ih =>
    unfold bisectRounds
    split
    next hlt =>
      obtain ⟨hmiddle, hnext⟩ := middle_mem hlow hlt hhigh
      simp only [hmiddle, hnext]
      split
      next htest =>
        have hrec := ih hlow (by omega) (by omega : low + (high - low) / 2 ≤ i64Max)
          (by omega)
        exact ⟨⟨hrec.1.1, by omega⟩, fun _ => hrec.2 htest⟩
      next =>
        have hrec := ih (by omega : 0 ≤ low + (high - low) / 2 + 1) (by omega) hhigh
          (by omega)
        exact ⟨⟨by omega, hrec.1.2⟩, hrec.2⟩
    next hge =>
      have hsame : low = high := by omega
      subst hsame
      exact ⟨⟨le_rfl, le_rfl⟩, id⟩

lemma bisect_mem (hlow : 0 ≤ low) (hle : low ≤ high) (hhigh : high ≤ i64Max) :
    low ≤ bisect test low high ∧ bisect test low high ≤ high :=
  (bisectRounds_spec _ hlow hle hhigh (by omega)).1

lemma bisect_test (hlow : 0 ≤ low) (hle : low ≤ high) (hhigh : high ≤ i64Max)
    (htest : test high = true) : test (bisect test low high) = true :=
  (bisectRounds_spec _ hlow hle hhigh (by omega)).2 htest

/-- Where the test always passes, the search ends at its low end. -/
lemma bisect_eq_low (hlow : 0 ≤ low) (hle : low ≤ high) (hhigh : high ≤ i64Max)
    (htest : ∀ x, low ≤ x → test x = true) : bisect test low high = low := by
  unfold bisect
  generalize hcount : (high - low).toNat = rounds
  have hrounds : high - low ≤ rounds := by omega
  clear hcount
  induction rounds generalizing high with
  | zero => rfl
  | succ rounds ih =>
    unfold bisectRounds
    split
    next hlt =>
      obtain ⟨hmiddle, -⟩ := middle_mem hlow hlt hhigh
      simp only [hmiddle]
      rw [if_pos (htest _ (by omega))]
      exact ih (by omega) (by omega) (by omega)
    next => rfl

end Zugfolge.Foundation
