/-
Numbers below a bound, without distortion.

A word is accepted unless the lower half of its product with the bound lies below the threshold.
The words that are accepted and whose products have the same upper half follow one another, and
there are equally many of them for every number below the bound.

* `Rng.below_eq`: a number is drawn from the first word that is accepted;
* `Rng.below_uniform`: every number below the bound comes from equally many words;
* `Rng.shuffle_perm_iff`: shuffling gives a permutation.
-/
import Mathlib.Data.Nat.Factorization.Basic
import Mathlib.Data.Set.Card
import Zugfolge.Determinism.Rng

namespace Zugfolge.Determinism

/-- The word decides about a number below the bound. -/
def accepts (bound word : UInt64) : Bool :=
  decide (threshold bound ≤ lowHalf (wideProduct word bound))

namespace Rng

/-- The stream behind some words. -/
def after (rng : Rng) (count : ℕ) : Rng := (fun rng => (nextU64 rng).2)^[count] rng

/-- The word with a number, counted from zero. -/
def word (rng : Rng) (count : ℕ) : UInt64 := (rng.after count).nextU64.1

lemma after_succ (rng : Rng) (count : ℕ) : rng.after (count + 1) = rng.nextU64.2.after count := by
  rw [after, after, Function.iterate_succ_apply]

lemma word_succ (rng : Rng) (count : ℕ) : rng.word (count + 1) = rng.nextU64.2.word count := by
  rw [word, word, after_succ]

/-! ### The first word that is accepted -/

/-- The word is the first one of the stream that is accepted. -/
def FirstAccepted (rng : Rng) (bound : UInt64) (count : ℕ) : Prop :=
  (∀ earlier < count, accepts bound (rng.word earlier) = false) ∧
    accepts bound (rng.word count) = true

lemma firstAccepted_succ {rng : Rng} {bound : UInt64} {count : ℕ}
    (hfirst : accepts bound (rng.word 0) = false)
    (h : rng.nextU64.2.FirstAccepted bound count) : rng.FirstAccepted bound (count + 1) := by
  refine ⟨fun earlier hlt => ?_, by rw [word_succ]; exact h.2⟩
  cases earlier with
  | zero => exact hfirst
  | succ earlier =>
    rw [word_succ]
    exact h.1 earlier (Nat.lt_of_succ_lt_succ hlt)

lemma redraw_eq (start : Rng) (bound : UInt64) :
    ∃ count, start.FirstAccepted bound count ∧
      redraw bound start.nextU64.2 (wideProduct start.nextU64.1 bound)
        = (wideProduct (start.word count) bound, start.after (count + 1)) := by
  generalize hrng : start.nextU64.2 = rng
  generalize hproduct : wideProduct start.nextU64.1 bound = product
  fun_induction redraw bound rng product generalizing start with
  | case1 rng product hlow ih =>
    subst hrng hproduct
    obtain ⟨count, hfirst, heq⟩ := ih start.nextU64.2 rfl rfl
    refine ⟨count + 1, firstAccepted_succ ?_ hfirst, ?_⟩
    · exact decide_eq_false (UInt64.not_le.mpr hlow)
    · rw [word_succ, after_succ]
      exact heq
  | case2 rng product hhigh =>
    subst hrng hproduct
    exact ⟨0, ⟨fun _ hlt => absurd hlt (Nat.not_lt_zero _),
      decide_eq_true (UInt64.not_lt.mp hhigh)⟩, rfl⟩

lemma below_eq (rng : Rng) {bound : UInt64} (hbound : 0 < bound) :
    ∃ count, rng.FirstAccepted bound count ∧ rng.below bound
      = some (highHalf (wideProduct (rng.word count) bound), rng.after (count + 1)) := by
  rw [below, if_pos hbound]
  by_cases hlow : lowHalf (wideProduct rng.nextU64.1 bound) < bound
  · obtain ⟨count, hfirst, heq⟩ := rng.redraw_eq bound
    exact ⟨count, hfirst, by simp only [if_pos hlow, heq]⟩
  · refine ⟨0, ⟨fun _ hlt => absurd hlt (Nat.not_lt_zero _), decide_eq_true ?_⟩, ?_⟩
    · exact UInt64.le_of_lt (UInt64.lt_of_lt_of_le (threshold_lt hbound) (UInt64.not_lt.mp hlow))
    · simp only [if_neg hlow]
      rfl

/-! ### How many words are accepted -/

lemma toNat_threshold {bound : UInt64} (hbound : 0 < bound) :
    (threshold bound).toNat = 2 ^ 64 % bound.toNat := by
  have hpos : 0 < bound.toNat := UInt64.lt_iff_toNat_lt.mp hbound
  have hlt := bound.toNat_lt
  have hsize : UInt64.size = 2 ^ 64 := rfl
  rw [threshold, UInt64.toNat_mod, UInt64.toNat_neg, hsize,
    Nat.mod_eq_of_lt (b := 2 ^ 64) (by omega), ← Nat.add_mod_right (2 ^ 64 - bound.toNat),
    Nat.sub_add_cancel hlt.le]

lemma accepted_iff {bound value word : UInt64} (hbound : 0 < bound) :
    (accepts bound word = true ∧ highHalf (wideProduct word bound) = value) ↔
      value.toNat * 2 ^ 64 + 2 ^ 64 % bound.toNat ≤ word.toNat * bound.toNat ∧
        word.toNat * bound.toNat < (value.toNat + 1) * 2 ^ 64 := by
  have hsplit := Nat.div_add_mod (word.toNat * bound.toNat) (2 ^ 64)
  have hmod := Nat.mod_lt (word.toNat * bound.toNat) (y := 2 ^ 64) (by decide)
  have hleft : 2 ^ 64 % bound.toNat < 2 ^ 64 := by
    have hpos : 0 < bound.toNat := UInt64.lt_iff_toNat_lt.mp hbound
    exact (Nat.mod_lt _ hpos).trans bound.toNat_lt
  rw [accepts, decide_eq_true_eq, UInt64.le_iff_toNat_le, toNat_threshold hbound, toNat_lowHalf,
    ← UInt64.toNat_inj, toNat_highHalf, toNat_wideProduct]
  omega

/-- Equally many words are accepted for every number below the bound. -/
lemma ncard_accepted {bound value : UInt64} (hvalue : value < bound) :
    {word : UInt64 | accepts bound word = true ∧ highHalf (wideProduct word bound) = value}.ncard
      = 2 ^ 64 / bound.toNat := by
  have hbound : 0 < bound := UInt64.lt_of_le_of_lt UInt64.zero_le hvalue
  have hpos : 0 < bound.toNat := UInt64.lt_iff_toNat_lt.mp hbound
  have hvalue' : value.toNat + 1 ≤ bound.toNat := UInt64.lt_iff_toNat_lt.mp hvalue
  -- the first word, and how many there are
  set low := value.toNat * 2 ^ 64 + 2 ^ 64 % bound.toNat with hlow
  set first := (low + bound.toNat - 1) / bound.toNat with hfirst
  set count := 2 ^ 64 / bound.toNat with hcount
  have hhigh : (value.toNat + 1) * 2 ^ 64 = low + count * bound.toNat := by
    have hdealt := Nat.div_add_mod (2 ^ 64) bound.toNat
    rw [hlow, hcount, Nat.add_mul, Nat.one_mul, Nat.mul_comm (2 ^ 64 / bound.toNat)]
    omega
  have hfrom : ∀ n, low ≤ n * bound.toNat ↔ first ≤ n := fun n => by
    rw [hfirst, Nat.div_le_iff_le_mul_add_pred hpos, Nat.mul_comm n]
    omega
  have hto : ∀ n, n * bound.toNat < low + count * bound.toNat ↔ n < first + count := fun n => by
    rcases Nat.lt_or_ge n count with hlt | hle
    · have hless := Nat.mul_lt_mul_of_pos_right hlt hpos
      exact iff_of_true (Nat.lt_add_left low hless) (Nat.lt_add_left first hlt)
    · obtain ⟨rest, rfl⟩ := Nat.exists_eq_add_of_le' hle
      have hrest := hfrom rest
      rw [Nat.add_mul, Nat.add_lt_add_iff_right, Nat.add_lt_add_iff_right, ← not_le, ← not_le,
        hrest]
  have hfits : ∀ n ∈ (Finset.Ico first (first + count) : Set ℕ), n < 2 ^ 64 := fun n hin => by
    have hless := (hto n).mpr (Finset.mem_Ico.mp hin).2
    rw [← hhigh] at hless
    have hall := Nat.mul_le_mul_right (2 ^ 64) hvalue'
    exact Nat.lt_of_mul_lt_mul_right (hless.trans_le (hall.trans_eq (Nat.mul_comm _ _)))
  have hwords : {word : UInt64 | accepts bound word = true ∧
      highHalf (wideProduct word bound) = value}
        = UInt64.ofNat '' (Finset.Ico first (first + count) : Set ℕ) := by
    ext word
    rw [Set.mem_ofPred_eq, accepted_iff hbound, hhigh, hfrom, hto]
    constructor
    · exact fun hin => ⟨word.toNat, by simpa using hin, UInt64.ofNat_toNat⟩
    · rintro ⟨n, hin, rfl⟩
      rw [UInt64.toNat_ofNat_of_lt' (hfits n hin)]
      simpa using hin
  rw [hwords, Set.InjOn.ncard_image, Set.ncard_coe_finset, Nat.card_Ico, Nat.add_sub_cancel_left]
  intro n hn m hm heq
  rw [← UInt64.toNat_inj, UInt64.toNat_ofNat_of_lt' (hfits n hn),
    UInt64.toNat_ofNat_of_lt' (hfits m hm)] at heq
  exact heq

/-- **Numbers below a bound.**  A draw comes to an end at the first word that is accepted, and its
number lies below the bound; among all words, equally many are accepted for each of the numbers. -/
theorem below_uniform (rng : Rng) {bound : UInt64} (hbound : 0 < bound) :
    (∃ n count, rng.below bound = some (n, rng.after (count + 1)) ∧ n < bound ∧
      rng.FirstAccepted bound count ∧ n = highHalf (wideProduct (rng.word count) bound)) ∧
    ∀ value < bound, {word : UInt64 | accepts bound word = true ∧
      highHalf (wideProduct word bound) = value}.ncard = 2 ^ 64 / bound.toNat := by
  obtain ⟨count, hfirst, hbelow⟩ := rng.below_eq hbound
  exact ⟨⟨_, count, hbelow, highHalf_lt _ hbound, hfirst, rfl⟩, fun _ => ncard_accepted⟩

/-- The faces of a die. -/
theorem below_uniform_six : {word : UInt64 | accepts 6 word = true ∧
    highHalf (wideProduct word 6) = 5}.ncard = 2 ^ 64 / 6 :=
  (below_uniform ⟨0⟩ (by decide : (0 : UInt64) < 6)).2 5 (by decide)

/-! ### Shuffling -/

lemma swap_perm {α : Type} {items : List α} {index other : ℕ} (hindex : index < items.length)
    (hother : other < items.length) :
    ∃ swapped, swap items index other = some swapped ∧ swapped.Perm items := by
  refine ⟨_, ?_, List.set_set_perm hindex hother⟩
  rw [swap, List.getElem?_eq_getElem hindex, List.getElem?_eq_getElem hother]
  rfl

lemma shuffleFrom_perm {α : Type} {index : ℕ} {items : List α} (rng : Rng)
    (hindex : index ≤ items.length - 1) (hlength : items.length < 2 ^ 64) :
    ∃ shuffled next, shuffleFrom index items rng = some (shuffled, next)
      ∧ shuffled.Perm items := by
  induction index generalizing items rng with
  | zero => exact ⟨items, rng, rfl, .refl items⟩
  | succ index ih =>
    have hbound : index + 2 < 2 ^ 64 := by omega
    have hvalue := UInt64.toNat_ofNat_of_lt' hbound
    have hpos : (0 : UInt64) < .ofNat (index + 2) :=
      UInt64.lt_iff_toNat_lt.mpr ((Nat.succ_pos (index + 1)).trans_eq hvalue.symm)
    obtain ⟨count, -, hdrawn⟩ := rng.below_eq hpos
    have hother := UInt64.lt_iff_toNat_lt.mp (below_lt hdrawn)
    rw [hvalue] at hother
    obtain ⟨swapped, hswap, hperm⟩ :=
      swap_perm (show index + 1 < items.length by omega) (hother.trans_le (by omega))
    obtain ⟨shuffled, last, hrest, hperm'⟩ := @ih swapped (rng.after (count + 1))
      (by rw [hperm.length_eq]; omega) (by rwa [hperm.length_eq])
    refine ⟨shuffled, last, ?_, hperm'.trans hperm⟩
    rw [shuffleFrom, if_pos hbound, hdrawn]
    simp only [Option.bind_eq_bind, Option.bind_some, hswap]
    exact hrest

/-- **Shuffling.**  A list is shuffled, and has the same members behind it as before, just if its
length fits 64 bits. -/
theorem shuffle_perm_iff {α : Type} (rng : Rng) (items : List α) :
    (∃ shuffled next, rng.shuffle items = some (shuffled, next) ∧ shuffled.Perm items)
      ↔ items.length < 2 ^ 64 := by
  refine ⟨fun ⟨shuffled, next, hshuffle, _⟩ => ?_, shuffleFrom_perm rng le_rfl⟩
  by_contra hlong
  obtain ⟨index, hindex⟩ := Nat.exists_eq_add_of_le (show 2 ≤ items.length by omega)
  rw [shuffle, show items.length - 1 = index + 1 by omega, shuffleFrom,
    if_neg (by omega)] at hshuffle
  cases hshuffle

end Rng

end Zugfolge.Determinism
