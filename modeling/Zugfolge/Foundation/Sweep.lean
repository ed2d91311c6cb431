/-
Stretches along a line.

Stretches are pairs of whole numbers, both ends included.  A sweep walks through stretches
ordered by their start and tells how far they reach without a gap.

* `joinsUp_iff`: stretches join up exactly when they cover every point of the line.
-/
import Mathlib.Data.List.Sort
import Mathlib.Tactic.Linarith

namespace Zugfolge.Foundation

/-- A point lies on a stretch; both ends belong to it. -/
def OnStretch (stretch : Int × Int) (x : ℚ) : Prop := (stretch.1 : ℚ) ≤ x ∧ x ≤ (stretch.2 : ℚ)

/-- How far stretches in order of their start reach from a position without a gap. -/
def advance : Int → List (Int × Int) → Int
  | position, [] => position
  | position, stretch :: stretches =>
    advance (if stretch.1 ≤ position then max position stretch.2 else position) stretches

/-- The stretches leave no gap between zero and a position. -/
def joinsUp (stretches : List (Int × Int)) (finish : Int) : Bool :=
  decide (finish ≤ advance 0 (stretches.insertionSort fun a b => a.1 ≤ b.1))

variable {stretches : List (Int × Int)} {position finish : Int}

lemma le_advance : position ≤ advance position stretches := by
  induction stretches generalizing position with
  | nil => exact le_rfl
  | cons stretch stretches ih =>
    refine le_trans ?_ ih
    split
    · exact le_max_left _ _
    · exact le_rfl

/-- What a sweep has passed lies on a stretch. -/
lemma exists_onStretch_of_le_advance {x : ℚ} (hstart : (position : ℚ) ≤ x)
    (hmoved : position < advance position stretches) (hfinish : x ≤ advance position stretches) :
    ∃ stretch ∈ stretches, OnStretch stretch x := by
  induction stretches generalizing position with
  | nil => exact absurd hmoved (lt_irrefl _)
  | cons stretch stretches ih =>
    rw [advance] at hmoved hfinish
    by_cases hreached : stretch.1 ≤ position
    · rw [if_pos hreached] at hmoved hfinish
      by_cases hinside : x ≤ stretch.2
      · refine ⟨stretch, List.mem_cons_self, le_trans ?_ hstart, hinside⟩
        exact_mod_cast hreached
      · have hpassed : (max position stretch.2 : Int) ≤ x := by
          push_cast
          exact max_le hstart (not_le.mp hinside).le
        have hfurther : max position stretch.2 < advance (max position stretch.2) stretches := by
          refine lt_of_le_of_ne le_advance fun heq => ?_
          rw [← heq] at hfinish hmoved
          rcases max_choice position stretch.2 with hmax | hmax
          · rw [hmax] at hmoved
            exact lt_irrefl _ hmoved
          · rw [hmax] at hfinish
            exact hinside hfinish
        obtain ⟨other, hother, hon⟩ := ih hpassed hfurther hfinish
        exact ⟨other, List.mem_cons_of_mem stretch hother, hon⟩
    · rw [if_neg hreached] at hmoved hfinish
      obtain ⟨other, hother, hon⟩ := ih hstart hmoved hfinish
      exact ⟨other, List.mem_cons_of_mem stretch hother, hon⟩

/-- Where a sweep over ordered stretches ends, every stretch ends before or starts behind. -/
lemma advance_separates (hsorted : stretches.Pairwise fun a b => a.1 ≤ b.1) :
    ∀ stretch ∈ stretches,
      stretch.2 ≤ advance position stretches ∨ advance position stretches < stretch.1 := by
  induction stretches generalizing position with
  | nil => simp
  | cons first stretches ih =>
    rw [List.pairwise_cons] at hsorted
    intro stretch hin
    rw [advance]
    rcases List.mem_cons.mp hin with rfl | hin
    · by_cases hreached : stretch.1 ≤ position
      · rw [if_pos hreached]
        exact .inl (le_trans (le_max_right _ _) le_advance)
      · rw [if_neg hreached]
        -- nothing that follows starts earlier, so the sweep stays where it is
        have hstays : ∀ (rest : List (Int × Int)), (∀ other ∈ rest, position < other.1) →
            advance position rest = position := by
          intro rest
          induction rest with
          | nil => exact fun _ => rfl
          | cons other rest ihrest =>
            intro hlater
            rw [advance, if_neg (not_le.mpr (hlater other List.mem_cons_self))]
            exact ihrest fun o ho => hlater o (List.mem_cons_of_mem other ho)
        rw [hstays stretches fun other hother =>
          lt_of_lt_of_le (not_le.mp hreached) (hsorted.1 other hother)]
        exact .inr (not_le.mp hreached)
    · exact ih hsorted.2 stretch hin

/-- Stretches that do not join up leave a gap, strictly between the ends. -/
lemma exists_gap (h : joinsUp stretches finish = false) :
    ∃ x : ℚ, 0 < x ∧ x < finish ∧ ∀ stretch ∈ stretches, ¬ OnStretch stretch x := by
  rw [joinsUp, decide_eq_false_iff_not, not_le] at h
  set reached := advance 0 (stretches.insertionSort fun a b => a.1 ≤ b.1) with hreached
  have hnonneg : 0 ≤ reached := le_advance
  have hcast : (0 : ℚ) ≤ reached := by exact_mod_cast hnonneg
  have hbefore : ((reached + 1 : Int) : ℚ) ≤ finish := by exact_mod_cast h
  push_cast at hbefore
  refine ⟨reached + 1 / 2, by linarith, by linarith, ?_⟩
  rintro stretch hin ⟨hfrom, hto⟩
  have hsorted := List.pairwise_insertionSort (fun a b : Int × Int => a.1 ≤ b.1) stretches
  rcases @advance_separates _ 0 hsorted stretch
    ((List.mem_insertionSort _).mpr hin) with hends | hstarts
  · have : ((stretch.2 : Int) : ℚ) ≤ reached := by exact_mod_cast hends
    linarith
  · have : ((reached + 1 : Int) : ℚ) ≤ stretch.1 := by exact_mod_cast hstarts
    push_cast at this
    linarith

/-- Stretches join up exactly when every point lies on one of them. -/
theorem joinsUp_iff (hfinish : 0 < finish) :
    joinsUp stretches finish = true
      ↔ ∀ x : ℚ, 0 ≤ x → x ≤ finish → ∃ stretch ∈ stretches, OnStretch stretch x := by
  constructor
  · intro h x hstart hend
    rw [joinsUp, decide_eq_true_eq] at h
    obtain ⟨stretch, hin, hon⟩ := @exists_onStretch_of_le_advance _ 0 _
      (by exact_mod_cast hstart) (lt_of_lt_of_le hfinish h)
      (le_trans hend (by exact_mod_cast h))
    exact ⟨stretch, (List.mem_insertionSort _).mp hin, hon⟩
  · intro h
    by_contra hfalse
    obtain ⟨x, hpos, hlt, hgap⟩ := exists_gap (by simpa using hfalse)
    obtain ⟨stretch, hin, hon⟩ := h x hpos.le hlt.le
    exact hgap stretch hin hon

end Zugfolge.Foundation
