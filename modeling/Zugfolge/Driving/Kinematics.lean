/-
What the driver's formulas give.

The way of a section is the sum of two rounded terms.  With a positive acceleration both grow; while
braking, the second one is taken off, and the two roundings together can take off more than what
the first one has added in the same millisecond.
-/
import Zugfolge.Foundation.Rounding
import Zugfolge.Driving.Motion
import Mathlib.Tactic.Positivity

namespace Zugfolge

open Foundation

/-! ### The way -/

lemma kinematicDistanceMm_nonneg (v : ℕ) (a elapsed : Int) :
    0 ≤ kinematicDistanceMm v a elapsed :=
  le_max_right _ _

lemma kinematicDistanceMm_mono {v : ℕ} {a s t : Int} (ha : 0 ≤ a) (hs : 0 ≤ s) (hst : s ≤ t) :
    kinematicDistanceMm v a s ≤ kinematicDistanceMm v a t := by
  have hv : mulSat128 v s ≤ mulSat128 v t :=
    clamp128_mono (Int.mul_le_mul_of_nonneg_left hst (Int.natCast_nonneg v))
  have has : mulSat128 a s ≤ mulSat128 a t :=
    clamp128_mono (Int.mul_le_mul_of_nonneg_left hst ha)
  have hpos : 0 ≤ mulSat128 a t := clamp128_nonneg (Int.mul_nonneg ha (hs.trans hst))
  have hatt : mulSat128 (mulSat128 a s) s ≤ mulSat128 (mulSat128 a t) t :=
    clamp128_mono (Int.mul_le_mul has hst hs hpos)
  have hsum := Int.add_le_add (divRoundHalfAway_mono (d := 1000) (by decide) hv)
    (divRoundHalfAway_mono (d := 2000000) (by decide) hatt)
  exact max_le_max (clamp128_mono hsum) le_rfl

/-- A time that the formulas can square. -/
def longestMs : Int := 70368744177664

/-- While the train brakes, the way is the rounded way without braking less the rounded braking. -/
lemma kinematicDistanceMm_braking {v b : ℕ} {elapsed : Int} (hv : v ≤ u32Max)
    (hb : (b : Int) ≤ i32Max) (hzero : 0 ≤ elapsed) (hlong : elapsed ≤ longestMs) :
    kinematicDistanceMm v (-b) elapsed
      = max ((v * elapsed + 500) / 1000 - (b * elapsed * elapsed + 1000000) / 2000000) 0 := by
  have hv : (v : Int) ≤ 4294967295 := by
    unfold u32Max at hv
    omega
  unfold i32Max at hb
  unfold longestMs at hlong
  have hvelapsed : (v : Int) * elapsed ≤ 4294967295 * 70368744177664 :=
    Int.mul_le_mul hv hlong hzero (by decide)
  have hbelapsed : (b : Int) * elapsed ≤ 2147483647 * 70368744177664 :=
    Int.mul_le_mul hb hlong hzero (by decide)
  have hbpos : 0 ≤ (b : Int) * elapsed := Int.mul_nonneg (Int.natCast_nonneg b) hzero
  have hvpos : 0 ≤ (v : Int) * elapsed := Int.mul_nonneg (Int.natCast_nonneg v) hzero
  have hbsquare : (b : Int) * elapsed * elapsed
      ≤ 2147483647 * 70368744177664 * 70368744177664 :=
    Int.mul_le_mul hbelapsed hlong hzero (by decide)
  have hbsquarePos : 0 ≤ (b : Int) * elapsed * elapsed := Int.mul_nonneg hbpos hzero
  generalize hx : (v : Int) * elapsed = x at *
  generalize hy : (b : Int) * elapsed = y at *
  generalize hz : y * elapsed = z at *
  have hway : mulSat128 v elapsed = x := by
    rw [mulSat128, hx]
    exact clamp128_of_mem (by unfold i128Min i128Max; omega)
  have hbrake : mulSat128 (-b) elapsed = -y := by
    rw [mulSat128, Int.neg_mul, hy]
    exact clamp128_of_mem (by unfold i128Min i128Max; omega)
  have hbraking : mulSat128 (-y) elapsed = -z := by
    rw [mulSat128, Int.neg_mul, hz]
    exact clamp128_of_mem (by unfold i128Min i128Max; omega)
  have hround : divRoundHalfAway x 1000 = (x + 500) / 1000 :=
    divRoundHalfAway_of_nonneg hvpos (by decide) (by unfold i128Max; omega)
  have hroundBraking : divRoundHalfAway (-z) 2000000 = -((z + 1000000) / 2000000) :=
    divRoundHalfAway_neg hbsquarePos (by decide) (by unfold i128Max; omega)
  have hsum : addSat128 ((x + 500) / 1000) (-((z + 1000000) / 2000000))
      = (x + 500) / 1000 - (z + 1000000) / 2000000 := by
    rw [addSat128, ← sub_eq_add_neg]
    exact clamp128_of_mem (by unfold i128Min i128Max; omega)
  simp only [kinematicDistanceMm, hway, hbrake, hbraking, hround, hroundBraking, hsum]

/-- A braking train that does not brake much longer than it takes to stand steps back by less than
two millimetres and the two-millionth part of its braking rate. -/
lemma braking_back {v b : ℕ} {s t : Int} (hv : v ≤ u32Max) (hb : (b : Int) ≤ i32Max)
    (hs : 0 ≤ s) (hst : s ≤ t) (hlong : t ≤ longestMs) (hstop : b * t ≤ 1000 * v + b) :
    2000000 * (kinematicDistanceMm v (-b) s - kinematicDistanceMm v (-b) t) ≤ b + 3997999 := by
  rw [kinematicDistanceMm_braking hv hb hs (hst.trans hlong),
    kinematicDistanceMm_braking hv hb (hs.trans hst) hlong]
  have hreal : 2000 * (v * s) - b * s * s ≤ 2000 * (v * t) - b * t * t + b := by
    obtain ⟨k, rfl⟩ := Int.le.dest hst
    have hlate : (k : Int) * (b * (s + k)) ≤ k * (1000 * v + b) :=
      Int.mul_le_mul_of_nonneg_left hstop (Int.natCast_nonneg k)
    have hsquare : 0 ≤ (b : Int) * ((k - 1) * (k - 1)) :=
      Int.mul_nonneg (Int.natCast_nonneg b) (mul_self_nonneg _)
    linarith
  generalize (v : Int) * s = vs at *
  generalize (b : Int) * s * s = bs at *
  generalize (v : Int) * t = vt at *
  generalize (b : Int) * t * t = bt at *
  omega

/-- In one millisecond no train gets further than the range of its speed. -/
lemma kinematicDistanceMm_one_le {v : ℕ} {a : Int} (hv : v ≤ u32Max) (ha : a ≤ i32Max) :
    kinematicDistanceMm v a 1 ≤ u32Max := by
  have hway : divRoundHalfAway (mulSat128 v 1) 1000 ≤ 4294968 := by
    have hclamped : mulSat128 v 1 ≤ 4294967295 := by
      unfold u32Max at hv
      unfold mulSat128 clamp128 i128Min
      omega
    exact (divRoundHalfAway_mono (by decide) hclamped).trans (by decide)
  have hgain : divRoundHalfAway (mulSat128 (mulSat128 a 1) 1) 2000000 ≤ 1074 := by
    have hclamped : mulSat128 (mulSat128 a 1) 1 ≤ 2147483647 := by
      unfold i32Max at ha
      unfold mulSat128 clamp128 i128Min
      omega
    exact (divRoundHalfAway_mono (by decide) hclamped).trans (by decide)
  simp only [kinematicDistanceMm]
  unfold addSat128 clamp128 i128Min u32Max
  omega

lemma one_le_kinematicDistanceMm {v : ℕ} {a elapsed : Int} (ha : 0 ≤ a) (helapsed : 0 ≤ elapsed)
    (hway : 500 ≤ v * elapsed) : 1 ≤ kinematicDistanceMm v a elapsed := by
  have hclamped : 500 ≤ mulSat128 v elapsed := by
    unfold mulSat128 clamp128 i128Max
    omega
  have hone : 1 ≤ divRoundHalfAway (mulSat128 v elapsed) 1000 :=
    le_trans (by decide) (divRoundHalfAway_mono (n := 500) (by decide) hclamped)
  have hgain : 0 ≤ divRoundHalfAway (mulSat128 (mulSat128 a elapsed) elapsed) 2000000 :=
    divRoundHalfAway_nonneg (clamp128_nonneg (Int.mul_nonneg
      (clamp128_nonneg (Int.mul_nonneg ha helapsed)) helapsed)) (by decide)
  simp only [kinematicDistanceMm]
  unfold addSat128 clamp128 i128Max
  omega

/-! ### The first boundary -/

section Boundary

variable {v : ℕ} {a distance event : Int}

lemma firstBoundaryOrEventMs_mem (hone : 1 ≤ event) (hmax : event ≤ i64Max) :
    1 ≤ firstBoundaryOrEventMs v a distance event
      ∧ firstBoundaryOrEventMs v a distance event ≤ event := by
  simp only [firstBoundaryOrEventMs]
  split
  next => exact ⟨hone, le_rfl⟩
  next => exact bisect_mem (by decide) hone hmax

/-- Either the event comes before the boundary, or the boundary is reached. -/
lemma firstBoundaryOrEventMs_cases (hone : 1 ≤ event) (hmax : event ≤ i64Max) :
    (firstBoundaryOrEventMs v a distance event = event ∧ kinematicDistanceMm v a event < distance)
      ∨ distance ≤ kinematicDistanceMm v a (firstBoundaryOrEventMs v a distance event) := by
  simp only [firstBoundaryOrEventMs]
  split
  next hbefore => exact .inl ⟨rfl, hbefore⟩
  next hreached =>
    have hpass := @bisect_test
      (fun elapsed => decide (distance ≤ kinematicDistanceMm v a elapsed)) 1 event
      (by decide) hone hmax (decide_eq_true (not_lt.mp hreached))
    exact .inr (of_decide_eq_true hpass)

lemma firstBoundaryOrEventMs_before (hbefore : kinematicDistanceMm v a event < distance) :
    firstBoundaryOrEventMs v a distance event = event := by
  simp only [firstBoundaryOrEventMs]
  exact if_pos hbefore

lemma firstBoundaryOrEventMs_here (hdistance : distance ≤ 0) (hone : 1 ≤ event)
    (hmax : event ≤ i64Max) : firstBoundaryOrEventMs v a distance event = 1 := by
  have hway := kinematicDistanceMm_nonneg v a
  simp only [firstBoundaryOrEventMs]
  rw [if_neg (not_lt.mpr (hdistance.trans (hway event)))]
  exact bisect_eq_low (by decide) hone hmax fun x _ => decide_eq_true (hdistance.trans (hway x))

end Boundary

/-! ### Speeds -/

lemma kinematicSpeedMmps_zero {v : ℕ} {a : Int} (hv : v ≤ u32Max) :
    kinematicSpeedMmps v a 0 = v := by
  have hround : divRoundHalfAway (mulSat128 a 0) 1000 = 0 := by
    rw [mulSat128, Int.mul_zero]
    decide
  have hsame : addSat128 v 0 = v := by
    rw [addSat128, Int.add_zero]
    exact clamp128_of_mem (by unfold i128Min i128Max; unfold u32Max at hv; omega)
  rw [kinematicSpeedMmps, hround, hsame]
  exact max_eq_left (Int.natCast_nonneg v)

lemma lt_kinematicSpeedMmps {v : ℕ} {a elapsed : Int} (hv : v ≤ u32Max)
    (hgain : 500 ≤ a * elapsed) : (v : Int) < kinematicSpeedMmps v a elapsed := by
  have hclamped : 500 ≤ mulSat128 a elapsed := by
    unfold mulSat128 clamp128 i128Max
    omega
  have hone : 1 ≤ divRoundHalfAway (mulSat128 a elapsed) 1000 :=
    le_trans (by decide) (divRoundHalfAway_mono (n := 500) (by decide) hclamped)
  unfold u32Max at hv
  unfold kinematicSpeedMmps addSat128 clamp128 i128Max
  omega

lemma kinematicSpeedMmps_one {v : ℕ} {a : Int} (ha : 0 ≤ a) (hsmall : a < 500) (hv : v ≤ u32Max) :
    kinematicSpeedMmps v a 1 = v := by
  have hclamped : mulSat128 a 1 = a := by
    rw [mulSat128, Int.mul_one]
    exact clamp128_of_mem (by unfold i128Min i128Max; omega)
  have hround : divRoundHalfAway a 1000 = 0 := by
    rw [divRoundHalfAway_of_nonneg ha (by decide) (by unfold i128Max; omega)]
    omega
  unfold u32Max at hv
  rw [kinematicSpeedMmps, hclamped, hround]
  unfold addSat128 clamp128 i128Min i128Max
  omega

/-- While the train brakes, its speed falls by the rounded braking, at most to zero. -/
lemma kinematicSpeedMmps_braking {v b : ℕ} {elapsed : Int} (hv : v ≤ u32Max)
    (hb : (b : Int) ≤ i32Max) (hzero : 0 ≤ elapsed) (hlong : elapsed ≤ longestMs) :
    kinematicSpeedMmps v (-b) elapsed = max (v - (b * elapsed + 500) / 1000) 0 := by
  unfold i32Max at hb
  unfold longestMs at hlong
  have hbelapsed : (b : Int) * elapsed ≤ 2147483647 * 70368744177664 :=
    Int.mul_le_mul hb hlong hzero (by decide)
  have hbpos : 0 ≤ (b : Int) * elapsed := Int.mul_nonneg (Int.natCast_nonneg b) hzero
  generalize hy : (b : Int) * elapsed = y at *
  have hbrake : mulSat128 (-b) elapsed = -y := by
    rw [mulSat128, Int.neg_mul, hy]
    exact clamp128_of_mem (by unfold i128Min i128Max; omega)
  have hround : divRoundHalfAway (-y) 1000 = -((y + 500) / 1000) :=
    divRoundHalfAway_neg hbpos (by decide) (by unfold i128Max; omega)
  unfold u32Max at hv
  have hsum : addSat128 v (-((y + 500) / 1000)) = v - (y + 500) / 1000 := by
    rw [addSat128, ← sub_eq_add_neg]
    exact clamp128_of_mem (by unfold i128Min i128Max; omega)
  rw [kinematicSpeedMmps, hbrake, hround, hsum]

/-! ### The end of an acceleration -/

/-- Up to the speed limit, an acceleration adds at least half a millimetre per second: it takes a
millisecond, or the time to the limit, rounded. -/
lemma acceleration_to_limit {a gap : Int} (ha : 0 < a) (hmax : a ≤ i32Max) (hgap : a ≤ gap * 1000)
    (hpos : 0 < gap) :
    1 ≤ addSat64 (mulSat64 gap 1000) 499 / a
      ∧ addSat64 (mulSat64 gap 1000) 499 / a ≤ i64Max
      ∧ 500 ≤ a * (addSat64 (mulSat64 gap 1000) 499 / a) := by
  have hlow : a + 499 ≤ addSat64 (mulSat64 gap 1000) 499 := by
    unfold i32Max at hmax
    unfold addSat64 mulSat64 clamp64 i64Min i64Max
    omega
  have hhigh : addSat64 (mulSat64 gap 1000) 499 ≤ i64Max := clamp64_le_max _
  generalize addSat64 (mulSat64 gap 1000) 499 = n at hlow hhigh ⊢
  have hdiv := Int.mul_ediv_add_emod n a
  have hmod := Int.emod_lt_of_pos n ha
  refine ⟨(Int.le_ediv_iff_mul_le ha).mpr (by omega), ?_, by omega⟩
  exact (Int.ediv_le_self a (by omega)).trans hhigh

lemma kinematicDistanceMm_zero (v : ℕ) (a : Int) : kinematicDistanceMm v a 0 = 0 := by
  have hv : mulSat128 v 0 = 0 := by
    rw [mulSat128, Int.mul_zero]
    decide
  have ha : mulSat128 a 0 = 0 := by
    rw [mulSat128, Int.mul_zero]
    decide
  rw [kinematicDistanceMm, hv, ha]
  decide

lemma stoppingDistanceForSpeed_nonneg (v b : ℕ) : 0 ≤ stoppingDistanceForSpeed v b := by
  have hdenominator : 1 ≤ mulSat128 (max b 1 : ℕ) 2 := by
    have hbrake : 1 ≤ ((max b 1 : ℕ) : Int) := by omega
    unfold mulSat128 clamp128 i128Min i128Max
    omega
  have hsquare : 0 ≤ mulSat128 (v : Int) v :=
    clamp128_nonneg (Int.mul_nonneg (Int.natCast_nonneg v) (Int.natCast_nonneg v))
  exact Int.ediv_nonneg (clamp128_nonneg (by omega)) (by omega)

lemma accelerateAndStopMm_same {v b : ℕ} {a elapsed : Int}
    (hway : kinematicDistanceMm v a elapsed = 0) (hspeed : kinematicSpeedMmps v a elapsed = v)
    (hfit : stoppingDistanceForSpeed v b ≤ i64Max) :
    accelerateAndStopMm v a b elapsed = stoppingDistanceForSpeed v b := by
  have hnonneg := stoppingDistanceForSpeed_nonneg v b
  rw [accelerateAndStopMm, hway, hspeed, addSat128, Int.zero_add]
  unfold i64Max at hfit
  exact clamp128_of_mem (by unfold i128Min i128Max; omega)

/-- An acceleration that is not ended by a boundary changes the speed, or covers a way. -/
lemma accelerationBoundary_progress {v limit b : ℕ} {a remaining : Int} (ha : 0 < a)
    (hmax : a ≤ i32Max) (hgap : a ≤ (limit - v : ℕ) * 1000) (hlimit : v < limit) (hv : v ≤ u32Max)
    (hroom : stoppingDistanceForSpeed v b < remaining) (hfit : remaining ≤ i64Max) :
    1 ≤ max (accelerationBrakeBoundaryMs v a b remaining limit) 1
      ∧ max (accelerationBrakeBoundaryMs v a b remaining limit) 1 ≤ i64Max
      ∧ (kinematicDistanceMm v a (max (accelerationBrakeBoundaryMs v a b remaining limit) 1) = 0 →
        kinematicSpeedMmps v a (max (accelerationBrakeBoundaryMs v a b remaining limit) 1)
          ≠ v) := by
  obtain ⟨hone, hlast, hgain⟩ := acceleration_to_limit ha hmax hgap
    (Int.natCast_pos.mpr (Nat.sub_pos_of_lt hlimit))
  have habs : max ((a.natAbs : ℕ) : Int) 1 = a := by omega
  have hstart := accelerateAndStopMm_same (b := b) (kinematicDistanceMm_zero v a)
    (kinematicSpeedMmps_zero hv) (hroom.le.trans hfit)
  have hmax1 : (1 : Int) ≤ i64Max := by decide
  unfold accelerationBrakeBoundaryMs
  simp only [habs]
  generalize addSat64 (mulSat64 ((limit - v : ℕ) : Int) 1000) 499 / a = toLimit at *
  rw [if_neg (by omega), max_eq_left hone]
  split
  next =>
    rw [max_eq_left hone]
    exact ⟨hone, hlast, fun _ => (lt_kinematicSpeedMmps hv hgain).ne'⟩
  next hneeded =>
    let reached := fun elapsed => decide (remaining ≤ accelerateAndStopMm v a b elapsed)
    have hmem := @bisect_mem reached 1 _ (by decide) hone hlast
    have hpass := @bisect_test reached 1 _ (by decide) hone hlast
      (decide_eq_true (not_lt.mp hneeded))
    rw [max_eq_left hmem.1]
    refine ⟨hmem.1, hmem.2.trans hlast, fun hway hspeed => ?_⟩
    have hsame := accelerateAndStopMm_same (b := b) hway hspeed (hroom.le.trans hfit)
    have hreached := of_decide_eq_true hpass
    omega

/-- At a constant speed, the time that a distance takes covers more than half a millimetre. -/
lemma steady_progress {v : ℕ} {distance : Int} (hv : 0 < v) (hfit : v ≤ u32Max)
    (hdistance : 1 ≤ distance) :
    1 ≤ addSat64 (mulSat64 distance 1000) ((v : Int) - 1) / v
      ∧ addSat64 (mulSat64 distance 1000) ((v : Int) - 1) / v ≤ i64Max
      ∧ 500 ≤ v * (addSat64 (mulSat64 distance 1000) ((v : Int) - 1) / v) := by
  unfold u32Max at hfit
  have hlow : (v : Int) + 999 ≤ addSat64 (mulSat64 distance 1000) ((v : Int) - 1) := by
    unfold addSat64 mulSat64 clamp64 i64Min i64Max
    omega
  have hhigh : addSat64 (mulSat64 distance 1000) ((v : Int) - 1) ≤ i64Max := clamp64_le_max _
  generalize addSat64 (mulSat64 distance 1000) ((v : Int) - 1) = n at hlow hhigh ⊢
  have hpos : 0 < (v : Int) := Int.natCast_pos.mpr hv
  have hdiv := Int.mul_ediv_add_emod n v
  have hmod := Int.emod_lt_of_pos n hpos
  refine ⟨(Int.le_ediv_iff_mul_le hpos).mpr (by omega), ?_, by omega⟩
  exact (Int.ediv_le_self v (by omega)).trans hhigh

end Zugfolge
