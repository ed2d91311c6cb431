/-
Searches that leap.

Obstacles block the values of a linear order.  A search for the first free value need not
look at every value: from a blocked one it leaps to where the furthest of the obstacles
found there ends.

* `iterate_eq_iff_coveredBy`: so many leaps reach the target as obstacles cover the way.
-/
import Mathlib.Order.Bounds.Basic

namespace Zugfolge.Foundation

variable {α ι : Type} [LinearOrder α]

/-- The values from a start on that nothing blocks. -/
def freeFrom (blocked : α → Prop) (start : α) : Set α := {v | start ≤ v ∧ ¬ blocked v}

/-- Before the least free value everything is blocked. -/
lemma blocked_of_lt_least {blocked : α → Prop} {start v target : α}
    (h : IsLeast (freeFrom blocked start) target) (hstart : start ≤ v) (hv : v < target) :
    blocked v := by
  by_contra hfree
  exact absurd (h.2 ⟨hstart, hfree⟩) (not_le.mpr hv)

/-- Over a blocked stretch the least free value stays the same. -/
lemma isLeast_freeFrom_of_leap {blocked : α → Prop} {start next target : α} (hnext : start ≤ next)
    (hblocked : ∀ v, start ≤ v → v < next → blocked v)
    (h : IsLeast (freeFrom blocked next) target) : IsLeast (freeFrom blocked start) target := by
  refine ⟨⟨hnext.trans h.1.1, h.1.2⟩, fun v hv => h.2 ⟨?_, hv.2⟩⟩
  exact not_lt.mp fun hlt => hv.2 (hblocked v hv.1 hlt)

/-! ### Leaps -/

/-- From every place before the target a leap ends at a place no later than the target;
from the target it does not move. -/
structure LeapsTo (places : Set α) (leap : α → α) (target : α) : Prop where
  keeps : ∀ v ∈ places, v < target → leap v ∈ places
  short : ∀ v ∈ places, v < target → leap v ≤ target
  rests : leap target = target

namespace LeapsTo

variable {places : Set α} {leap : α → α} {target v : α}

/-- A leap from a place up to the target. -/
lemma step (h : LeapsTo places leap target) (hv : v ∈ places) (htarget : v ≤ target) :
    leap v ∈ places ∧ leap v ≤ target := by
  rcases htarget.lt_or_eq with hlt | rfl
  · exact ⟨h.keeps v hv hlt, h.short v hv hlt⟩
  · rw [h.rests]
    exact ⟨hv, le_refl v⟩

/-- More leaps than needed do no harm. -/
lemma iterate_of_le (h : LeapsTo places leap target) {n m : ℕ} (hn : leap^[n] v = target)
    (hm : n ≤ m) : leap^[m] v = target := by
  obtain ⟨k, rfl⟩ := Nat.exists_eq_add_of_le hm
  rw [Nat.add_comm, Function.iterate_add_apply, hn]
  exact Function.iterate_fixed h.rests k

end LeapsTo

/-! ### Covers -/

/-- The values from `v` to `target`, without `target`, lie under at most `n` obstacles. -/
def CoveredBy (obstacles : Set ι) (holds : ι → α → Prop) (n : ℕ) (v target : α) : Prop :=
  ∃ picks : List ι, picks.length ≤ n ∧ (∀ i ∈ picks, i ∈ obstacles) ∧
    ∀ x, v ≤ x → x < target → ∃ i ∈ picks, holds i x

variable {obstacles : Set ι} {holds : ι → α → Prop} {places : Set α} {leap : α → α}
  {target : α}

lemma coveredBy_self (obstacles : Set ι) (holds : ι → α → Prop) (n : ℕ) (v : α) :
    CoveredBy obstacles holds n v v :=
  ⟨[], n.zero_le, by simp, fun _ hv hlt => absurd hv (not_le.mpr hlt)⟩

/-- An obstacle up to the leap and a cover from there on. -/
lemma CoveredBy.cons {n : ℕ} {v w : α} {i : ι} (hi : i ∈ obstacles)
    (hleap : ∀ x, v ≤ x → x < w → holds i x) (h : CoveredBy obstacles holds n w target) :
    CoveredBy obstacles holds (n + 1) v target := by
  obtain ⟨picks, hlength, hpicks, hcover⟩ := h
  refine ⟨i :: picks, Nat.succ_le_succ hlength, List.forall_mem_cons.mpr ⟨hi, hpicks⟩, ?_⟩
  intro x hx hxtarget
  rcases lt_or_ge x w with hxw | hxw
  · exact ⟨i, List.mem_cons_self, hleap x hx hxw⟩
  · obtain ⟨j, hj, hjx⟩ := hcover x hxw hxtarget
    exact ⟨j, List.mem_cons_of_mem i hj, hjx⟩

/-- Beyond the reach of one obstacle of the cover the others still cover. -/
lemma CoveredBy.drop {n : ℕ} {v w : α} (h : CoveredBy obstacles holds (n + 1) v target)
    (hvw : v ≤ w) (hv : v < target)
    (hreach : ∀ i ∈ obstacles, holds i v → ∀ x, w ≤ x → x < target → ¬ holds i x) :
    CoveredBy obstacles holds n w target := by
  obtain ⟨picks, hlength, hpicks, hcover⟩ := h
  obtain ⟨i, hi, hiv⟩ := hcover v (le_refl v) hv
  obtain ⟨before, after, rfl⟩ := List.append_of_mem hi
  refine ⟨before ++ after, ?_, ?_, ?_⟩
  · simp only [List.length_append, List.length_cons] at hlength ⊢
    omega
  · intro j hj
    refine hpicks j ?_
    rw [List.mem_append] at hj
    rw [List.mem_append, List.mem_cons]
    exact hj.imp_right Or.inr
  · intro x hx hxtarget
    obtain ⟨j, hj, hjx⟩ := hcover x (hvw.trans hx) hxtarget
    refine ⟨j, ?_, hjx⟩
    have hne : j ≠ i := by
      rintro rfl
      exact hreach j (hpicks j hi) hiv x hx hxtarget hjx
    rw [List.mem_append, List.mem_cons] at hj
    rw [List.mem_append]
    exact hj.imp_right fun h => h.resolve_left hne

/-- When every leap goes just beyond the furthest obstacle found, so many leaps reach the
target as there are obstacles needed to cover the way. -/
theorem iterate_eq_iff_coveredBy (h : LeapsTo places leap target)
    (honward : ∀ v ∈ places, v < target → v ≤ leap v)
    (hreach : ∀ v ∈ places, ∀ i ∈ obstacles, holds i v →
      ∀ x, leap v ≤ x → x < target → ¬ holds i x)
    (hmet : ∀ v ∈ places, v < target →
      ∃ i ∈ obstacles, ∀ x, v ≤ x → x < leap v → holds i x)
    {n : ℕ} {v : α} (hv : v ∈ places) (htarget : v ≤ target) :
    leap^[n] v = target ↔ CoveredBy obstacles holds n v target := by
  induction n generalizing v with
  | zero =>
    constructor
    · rintro rfl
      exact coveredBy_self obstacles holds 0 v
    · rintro ⟨picks, hlength, -, hcover⟩
      rw [Nat.le_zero, List.length_eq_zero_iff] at hlength
      subst hlength
      refine htarget.eq_of_not_lt fun hlt => ?_
      obtain ⟨i, hi, -⟩ := hcover v (le_refl v) hlt
      cases hi
  | succ n ih =>
    rcases htarget.lt_or_eq with hlt | rfl
    · have hstep := h.step hv htarget
      rw [Function.iterate_succ_apply, ih hstep.1 hstep.2]
      constructor
      · intro hcover
        obtain ⟨i, hi, hheld⟩ := hmet v hv hlt
        exact hcover.cons hi hheld
      · exact fun hcover => hcover.drop (honward v hv hlt) hlt (hreach v hv)
    · rw [Function.iterate_fixed h.rests]
      exact iff_of_true rfl (coveredBy_self obstacles holds (n + 1) v)

end Zugfolge.Foundation
