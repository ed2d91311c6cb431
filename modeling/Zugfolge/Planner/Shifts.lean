/-
The loop over the shifts.

The shifts of a request are tried in the order of their amounts.  The source counts the amount
up by the step in a loop, with sums that stop at the last value of the clock, until it has
passed the greatest admissible shift; where that is the last value, nothing passes it.

* `PathTolerances.shifts_eq`, `PathTolerances.listsShifts_shifts`: the shifts amount by amount;
* `PathTolerances.yields_iff`: the loop comes to the shifts unless the last value is admissible;
* `PathTolerances.shifts_right_iff`: exactly when the loop does what it is for.
-/
import Zugfolge.Planner.Request

namespace Zugfolge.Planner

open Foundation

namespace PathTolerances

variable (tolerances : PathTolerances)

/-- The greatest shift to either side. -/
def greatest : Int := max tolerances.earlierS tolerances.laterS

/-- The loop of the source from an amount on, with the shifts so far; `none` where it has not
ended after as many rounds. -/
def shiftsWhile : ℕ → List Int → Int → Option (List Int)
  | 0, _, _ => none
  | rounds + 1, werte, betrag =>
    if betrag ≤ tolerances.greatest then
      shiftsWhile rounds (werte ++ tolerances.shiftsOf betrag)
        (addSat64 betrag tolerances.stepS)
    else some werte

/-- The loop ends with these shifts. -/
def Yields (werte : List Int) : Prop :=
  ∃ rounds, tolerances.shiftsWhile rounds [0] tolerances.stepS = some werte

/-- The list holds the multiples of the step that are admissible, each of them once, by their
amounts, and the earlier one first. -/
structure ListsShifts (werte : List Int) : Prop where
  mem_iff : ∀ shift, shift ∈ werte ↔
    tolerances.stepS ∣ shift ∧ -tolerances.earlierS ≤ shift ∧ shift ≤ tolerances.laterS
  ordered : werte.Pairwise fun a b => |a| < |b| ∨ |a| = |b| ∧ a < b

variable {tolerances}

/-! ### Amounts -/

lemma mem_shiftsOf {betrag shift : Int} :
    shift ∈ tolerances.shiftsOf betrag ↔
      shift = -betrag ∧ betrag ≤ tolerances.earlierS ∨
        shift = betrag ∧ betrag ≤ tolerances.laterS := by
  rw [shiftsOf, List.mem_append]
  refine or_congr ?_ ?_
  · split
    next h => simp [h]
    next h => simp [h]
  · split
    next h => simp [h]
    next h => simp [h]

/-- Both shifts of an amount have this amount, and the earlier one stands first. -/
lemma shiftsOf_ordered {betrag : Int} (h : 0 < betrag) :
    (tolerances.shiftsOf betrag).Pairwise fun a b => |a| < |b| ∨ |a| = |b| ∧ a < b := by
  rw [shiftsOf, List.pairwise_append]
  refine ⟨?_, ?_, fun a ha b hb => ?_⟩
  · split
    · exact List.pairwise_singleton _ _
    · exact .nil
  · split
    · exact List.pairwise_singleton _ _
    · exact .nil
  · have hearlier : a = -betrag := by
      split at ha
      · exact List.mem_singleton.mp ha
      · cases ha
    have hlater : b = betrag := by
      split at hb
      · exact List.mem_singleton.mp hb
      · cases hb
    rw [hearlier, hlater, abs_neg]
    exact .inr ⟨rfl, by omega⟩

/-- How many amounts there are. -/
def amounts (tolerances : PathTolerances) : ℕ :=
  (tolerances.greatest / tolerances.stepS).toNat

lemma greatest_nonneg : 0 ≤ tolerances.greatest :=
  le_max_of_le_left tolerances.earlierNonneg

lemma le_amounts_iff {count : ℕ} :
    count ≤ tolerances.amounts ↔ count * tolerances.stepS ≤ tolerances.greatest := by
  have hnonneg : 0 ≤ tolerances.greatest / tolerances.stepS :=
    Int.ediv_nonneg tolerances.greatest_nonneg tolerances.stepPositive.le
  rw [← Int.le_ediv_iff_mul_le tolerances.stepPositive, amounts]
  omega

/-- The amounts between two numbers, with their shifts. -/
lemma shiftsFrom_eq (hclock : tolerances.greatest ≤ i64Max) (rounds : ℕ) :
    ∀ count : ℕ, count + rounds ≤ tolerances.amounts + 1 →
      tolerances.shiftsFrom rounds (count * tolerances.stepS)
        = (List.range' count rounds).flatMap fun i : ℕ =>
            tolerances.shiftsOf (i * tolerances.stepS) := by
  have hstep := tolerances.stepPositive
  induction rounds with
  | zero => exact fun _ _ => rfl
  | succ rounds ih =>
    intro count hcount
    have hle : count * tolerances.stepS ≤ tolerances.greatest := le_amounts_iff.mp (by omega)
    rw [shiftsFrom, if_pos (show _ ≤ max _ _ from hle), List.range'_succ, List.flatMap_cons]
    congr 1
    cases rounds with
    | zero => rfl
    | succ rounds =>
      -- a further amount follows, so the sum lies within the clock
      have hnext : ((count + 1 : ℕ) : Int) * tolerances.stepS ≤ tolerances.greatest :=
        le_amounts_iff.mp (by omega)
      have hsum : addSat64 (count * tolerances.stepS) tolerances.stepS
          = ((count + 1 : ℕ) : Int) * tolerances.stepS := by
        have hsplit : ((count + 1 : ℕ) : Int) * tolerances.stepS
            = count * tolerances.stepS + tolerances.stepS := by
          push_cast
          ring
        have hbelow : 0 ≤ (count : Int) * tolerances.stepS := by positivity
        rw [hsplit] at hnext ⊢
        exact clamp64_of_mem ⟨by unfold i64Min; omega, by omega⟩
      rw [hsum]
      exact ih (count + 1) (by omega)

lemma shifts_eq (hclock : tolerances.greatest ≤ i64Max) :
    tolerances.shifts = 0 :: (List.range' 1 tolerances.amounts).flatMap fun i : ℕ =>
      tolerances.shiftsOf (i * tolerances.stepS) := by
  have hfrom := shiftsFrom_eq hclock tolerances.amounts 1 (by omega)
  rw [Nat.cast_one, one_mul] at hfrom
  exact congrArg (List.cons 0) hfrom

/-- The shifts that are tried are all admissible multiples of the step, in order. -/
theorem listsShifts_shifts (hclock : tolerances.greatest ≤ i64Max) :
    tolerances.ListsShifts tolerances.shifts := by
  have hstep := tolerances.stepPositive
  have hearlier := tolerances.earlierNonneg
  have hlater := tolerances.laterNonneg
  have hpositive : ∀ i ∈ List.range' 1 tolerances.amounts, 0 < (i : Int) * tolerances.stepS := by
    intro i hi
    have hone := (List.mem_range'_1.mp hi).1
    positivity
  rw [shifts_eq hclock]
  refine ⟨fun shift => ?_, List.pairwise_cons.mpr ⟨fun shift hshift => ?_, ?_⟩⟩
  · simp only [List.mem_cons, List.mem_flatMap, List.mem_range'_1, mem_shiftsOf]
    constructor
    · rintro (rfl | ⟨i, -, ⟨rfl, hle⟩ | ⟨rfl, hle⟩⟩)
      · exact ⟨dvd_zero _, by omega, hlater⟩
      · have hnonneg : 0 ≤ (i : Int) * tolerances.stepS := by positivity
        exact ⟨Int.dvd_neg.mpr (dvd_mul_left _ _), by omega, by omega⟩
      · have hnonneg : 0 ≤ (i : Int) * tolerances.stepS := by positivity
        exact ⟨dvd_mul_left _ _, by omega, hle⟩
    · rintro ⟨⟨factor, rfl⟩, hfrom, hto⟩
      -- the amount is the number of steps to either side
      have hcount : ∀ count : ℕ, 0 < count → count * tolerances.stepS ≤ tolerances.greatest →
          1 ≤ count ∧ count < 1 + tolerances.amounts := fun count hpos hle =>
        ⟨hpos, by have := le_amounts_iff.mpr hle; omega⟩
      rcases lt_trichotomy factor 0 with hneg | rfl | hpos
      · obtain ⟨count, rfl⟩ : ∃ count : ℕ, factor = -(count : Int) :=
          ⟨factor.natAbs, by omega⟩
        have hamount : tolerances.stepS * -(count : Int) = -(count * tolerances.stepS) := by ring
        rw [hamount] at hfrom ⊢
        exact .inr ⟨count, hcount count (by omega) ((by omega : _ ≤ tolerances.earlierS).trans
          (le_max_left _ _)), .inl ⟨rfl, by omega⟩⟩
      · exact .inl (mul_zero _)
      · obtain ⟨count, rfl⟩ : ∃ count : ℕ, factor = (count : Int) := ⟨factor.natAbs, by omega⟩
        rw [mul_comm] at hto ⊢
        exact .inr ⟨count, hcount count (by omega) (hto.trans (le_max_right _ _)),
          .inr ⟨rfl, hto⟩⟩
  · obtain ⟨i, hi, hin⟩ := List.mem_flatMap.mp hshift
    have hamount := hpositive i hi
    refine .inl ?_
    rw [abs_zero, abs_pos]
    rcases mem_shiftsOf.mp hin with ⟨rfl, -⟩ | ⟨rfl, -⟩
    · omega
    · omega
  · rw [List.pairwise_flatMap]
    refine ⟨fun i hi => shiftsOf_ordered (hpositive i hi), ?_⟩
    refine (List.pairwise_lt_range' (s := 1) (n := tolerances.amounts)).imp_of_mem ?_
    intro i j hi hj hij a ha b hb
    have habs : ∀ {betrag shift : Int}, 0 < betrag → shift ∈ tolerances.shiftsOf betrag →
        |shift| = betrag := by
      intro betrag shift hpos hin
      rcases mem_shiftsOf.mp hin with ⟨rfl, -⟩ | ⟨rfl, -⟩
      · rw [abs_neg, abs_of_pos hpos]
      · exact abs_of_pos hpos
    rw [habs (hpositive i hi) ha, habs (hpositive j hj) hb]
    exact .inl (mul_lt_mul_of_pos_right (by exact_mod_cast hij) hstep)

/-! ### The loop -/

/-- Below the last value of the clock the loop comes to the amounts that are left. -/
lemma shiftsWhile_eq (hclock : tolerances.greatest < i64Max) (rounds : ℕ) :
    ∀ (count : ℕ) (werte : List Int), count + rounds = tolerances.amounts + 1 →
      tolerances.shiftsWhile (rounds + 1) werte (min i64Max (count * tolerances.stepS))
        = some (werte ++ (List.range' count rounds).flatMap fun i : ℕ =>
            tolerances.shiftsOf (i * tolerances.stepS)) := by
  have hstep := tolerances.stepPositive
  induction rounds with
  | zero =>
    intro count werte hcount
    have hpast : tolerances.greatest < count * tolerances.stepS := by
      rw [← not_le, ← le_amounts_iff]
      omega
    rw [shiftsWhile, if_neg (by omega)]
    simp
  | succ rounds ih =>
    intro count werte hcount
    have hle : count * tolerances.stepS ≤ tolerances.greatest := le_amounts_iff.mp (by omega)
    have hsum : addSat64 (min i64Max (count * tolerances.stepS)) tolerances.stepS
        = min i64Max (((count + 1 : ℕ) : Int) * tolerances.stepS) := by
      have hsplit : ((count + 1 : ℕ) : Int) * tolerances.stepS
          = count * tolerances.stepS + tolerances.stepS := by
        push_cast
        ring
      have hbelow : 0 ≤ (count : Int) * tolerances.stepS := by positivity
      rw [hsplit, addSat64, clamp64]
      unfold i64Min
      omega
    rw [shiftsWhile, if_pos (by omega), hsum, ih (count + 1) _ (by omega), List.range'_succ,
      List.flatMap_cons, min_eq_right (by omega), List.append_assoc]

lemma shiftsWhile_eq_none (hclock : tolerances.greatest = i64Max) (rounds : ℕ) :
    ∀ (werte : List Int) (betrag : Int), betrag ≤ i64Max →
      tolerances.shiftsWhile rounds werte betrag = none := by
  induction rounds with
  | zero => exact fun _ _ _ => rfl
  | succ rounds ih =>
    intro werte betrag hbetrag
    rw [shiftsWhile, if_pos (hclock ▸ hbetrag)]
    exact ih _ _ (clamp64_le_max _)

/-- The tolerances are numbers of 64 bits. -/
structure OnClock (tolerances : PathTolerances) : Prop where
  earlier : tolerances.earlierS ≤ i64Max
  later : tolerances.laterS ≤ i64Max
  step : tolerances.stepS ≤ i64Max

/-- More rounds do not change what the loop comes to. -/
lemma shiftsWhile_succ {rounds : ℕ} : ∀ {werte result : List Int} {betrag : Int},
    tolerances.shiftsWhile rounds werte betrag = some result →
      tolerances.shiftsWhile (rounds + 1) werte betrag = some result := by
  induction rounds with
  | zero => exact fun h => nomatch h
  | succ rounds ih =>
    intro werte result betrag h
    rw [shiftsWhile] at h ⊢
    split
    next hle =>
      rw [if_pos hle] at h
      exact ih h
    next hpast =>
      rw [if_neg hpast] at h
      exact h

lemma shiftsWhile_mono {rounds more : ℕ} {werte result : List Int} {betrag : Int}
    (hmore : rounds ≤ more) (h : tolerances.shiftsWhile rounds werte betrag = some result) :
    tolerances.shiftsWhile more werte betrag = some result := by
  induction hmore with
  | refl => exact h
  | step _ ih => exact shiftsWhile_succ ih

/-- The loop comes to the shifts, and to nothing else, unless the last value of the clock is
admissible; then it does not end. -/
theorem yields_iff (hclock : tolerances.OnClock) {werte : List Int} :
    tolerances.Yields werte ↔ tolerances.greatest < i64Max ∧ werte = tolerances.shifts := by
  have hgreatest : tolerances.greatest ≤ i64Max := max_le hclock.earlier hclock.later
  rcases hgreatest.lt_or_eq with hlt | heq
  · have hend := shiftsWhile_eq hlt tolerances.amounts 1 [0] (by omega)
    rw [Nat.cast_one, one_mul, min_eq_right hclock.step, List.singleton_append,
      ← shifts_eq hgreatest] at hend
    constructor
    · rintro ⟨rounds, hrounds⟩
      have hmost := shiftsWhile_mono (le_max_left rounds (tolerances.amounts + 1)) hrounds
      rw [shiftsWhile_mono (le_max_right rounds (tolerances.amounts + 1)) hend] at hmost
      exact ⟨hlt, (Option.some.inj hmost).symm⟩
    · rintro ⟨-, rfl⟩
      exact ⟨_, hend⟩
  · refine iff_of_false ?_ fun h => h.1.ne heq
    rintro ⟨rounds, hrounds⟩
    rw [shiftsWhile_eq_none heq rounds _ _ hclock.step] at hrounds
    cases hrounds

/-- **The shifts of a request.**  For tolerances that the constructor accepts the loop ends
with all admissible multiples of the step in order exactly if neither tolerance is the last
value of the clock. -/
theorem shifts_right_iff {earlierS laterS stepS extraRunningTimeS : Int}
    {maxOperationalStops : ℕ} {tolerances : PathTolerances}
    (hclock : earlierS ≤ i64Max ∧ laterS ≤ i64Max ∧ stepS ≤ i64Max)
    (hnew : new earlierS laterS stepS extraRunningTimeS maxOperationalStops = .ok tolerances) :
    (∃ werte, tolerances.Yields werte ∧ tolerances.ListsShifts werte)
      ↔ earlierS < i64Max ∧ laterS < i64Max := by
  have hkept : tolerances.earlierS = earlierS ∧ tolerances.laterS = laterS
      ∧ tolerances.stepS = stepS := by
    rw [new] at hnew
    split_ifs at hnew
    cases hnew
    exact ⟨rfl, rfl, rfl⟩
  obtain ⟨rfl, rfl, rfl⟩ := hkept
  have honClock : tolerances.OnClock := ⟨hclock.1, hclock.2.1, hclock.2.2⟩
  simp only [yields_iff honClock]
  rw [← max_lt_iff]
  constructor
  · rintro ⟨werte, ⟨hlt, -⟩, -⟩
    exact hlt
  · intro hlt
    exact ⟨_, ⟨hlt, rfl⟩, listsShifts_shifts (max_le hclock.1 hclock.2.1)⟩

/-- A request that may be put off for as long as the clock runs. -/
def anyLater : PathTolerances :=
  ⟨0, 9223372036854775807, 60, 0, 0, PathTolerances.exact.earlierNonneg, Int.natCast_nonneg _,
    PathTolerances.exact.stepPositive, PathTolerances.exact.extraNonneg⟩

/-- The loop over its shifts does not end. -/
theorem anyLater_yields_nothing :
    new 0 9223372036854775807 60 0 0 = .ok anyLater ∧ ¬ ∃ werte, anyLater.Yields werte := by
  refine ⟨by rfl, ?_⟩
  rintro ⟨werte, hyields⟩
  have hlt := ((yields_iff ⟨by decide, by decide, by decide⟩).mp hyields).1
  exact absurd hlt (by decide)

/-- Ten minutes earlier and five minutes later in steps of five minutes. -/
theorem shifts_right_tenMinutes : ∃ tolerances, new 600 300 300 0 0 = .ok tolerances ∧
    (∃ werte, tolerances.Yields werte ∧ tolerances.ListsShifts werte) ∧
      tolerances.shifts = [0, -300, 300, -600] := by
  have hclock : (600 : Int) ≤ i64Max ∧ (300 : Int) ≤ i64Max ∧ (300 : Int) ≤ i64Max := by decide
  have hnew : ∃ tolerances, new 600 300 300 0 0 = .ok tolerances ∧
      tolerances.shifts = [0, -300, 300, -600] := ⟨_, rfl, by decide⟩
  obtain ⟨tolerances, hnew, hshifts⟩ := hnew
  exact ⟨tolerances, hnew, (shifts_right_iff hclock hnew).mpr (by decide), hshifts⟩

end PathTolerances

end Zugfolge.Planner
