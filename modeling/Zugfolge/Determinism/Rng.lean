/-
The stream of chance of a world, in machine words.

A stream adds a fixed odd number to its state and mixes the sum into a word.  A number below a
bound is the upper half of a product of 128 bits; a word whose lower half is too small is drawn
again.  The mixing meets every word once in a period, so there is always one that is kept.
-/
import Zugfolge.Foundation.Sha256

namespace Zugfolge.Determinism

open Foundation

/-! ### Words -/

/-- The step of the state. -/
def gamma : UInt64 := 0x9e3779b97f4a7c15

/-- The first factor of the mixing. -/
def mix1 : UInt64 := 0xbf58476d1ce4e5b9

/-- The second factor of the mixing. -/
def mix2 : UInt64 := 0x94d049bb133111eb

/-- A stream of chance. -/
structure Rng where
  state : UInt64

/-- The word that belongs to a state. -/
def mixed (state : UInt64) : UInt64 :=
  let z := (state ^^^ (state >>> 30)) * mix1
  let z := (z ^^^ (z >>> 27)) * mix2
  z ^^^ (z >>> 31)

/-- The product of two words, which never exceeds 128 bits. -/
def wideProduct (word bound : UInt64) : BitVec 128 :=
  word.toBitVec.setWidth 128 * bound.toBitVec.setWidth 128

/-- The lower half of a product. -/
def lowHalf (product : BitVec 128) : UInt64 := ⟨product.setWidth 64⟩

/-- The upper half of a product. -/
def highHalf (product : BitVec 128) : UInt64 := ⟨(product >>> 64).setWidth 64⟩

lemma toNat_wideProduct (word bound : UInt64) :
    (wideProduct word bound).toNat = word.toNat * bound.toNat := by
  have hword := word.toNat_lt
  have hbound := bound.toNat_lt
  have hproduct : word.toNat * bound.toNat < 2 ^ 128 := by
    calc word.toNat * bound.toNat < 2 ^ 64 * 2 ^ 64 := Nat.mul_lt_mul'' hword hbound
      _ = 2 ^ 128 := by decide
  have hwide : ∀ w : UInt64, (w.toBitVec.setWidth 128).toNat = w.toNat := fun w => by
    rw [BitVec.toNat_setWidth, UInt64.toNat_toBitVec, Nat.mod_eq_of_lt]
    have hw := w.toNat_lt
    omega
  rw [wideProduct, BitVec.toNat_mul, hwide, hwide, Nat.mod_eq_of_lt hproduct]

lemma toNat_lowHalf (product : BitVec 128) :
    (lowHalf product).toNat = product.toNat % 2 ^ 64 := by
  rw [lowHalf, ← UInt64.toNat_toBitVec, BitVec.toNat_setWidth]

lemma toNat_highHalf (product : BitVec 128) :
    (highHalf product).toNat = product.toNat / 2 ^ 64 := by
  have hproduct := product.isLt
  rw [highHalf, ← UInt64.toNat_toBitVec, BitVec.toNat_setWidth, BitVec.toNat_ushiftRight,
    Nat.shiftRight_eq_div_pow, Nat.mod_eq_of_lt]
  omega

/-- Below this a lower half would distort the numbers below a bound. -/
def threshold (bound : UInt64) : UInt64 := (-bound) % bound

lemma threshold_lt {bound : UInt64} (hbound : 0 < bound) : threshold bound < bound := by
  rw [UInt64.lt_iff_toNat_lt] at hbound ⊢
  rw [threshold, UInt64.toNat_mod]
  exact Nat.mod_lt _ hbound

lemma threshold_zero : threshold 0 = 0 := by decide

/-! ### The word one -/

/-- The state to which the word one belongs. -/
def stateOfOne : UInt64 := 0x966dbfc16913c5d2

def gammaInverse : UInt64 := 0xf1de83e19937733d

lemma mixed_stateOfOne : mixed stateOfOne = 1 := by decide +kernel

lemma gamma_inverse : gamma * gammaInverse = 1 := by decide +kernel

namespace Rng

/-- The next word and the stream behind it. -/
def nextU64 (rng : Rng) : UInt64 × Rng := (mixed (rng.state + gamma), ⟨rng.state + gamma⟩)

/-- How many words come before the word one. -/
def wait (rng : Rng) : UInt64 := (stateOfOne - gamma - rng.state) * gammaInverse

lemma nextU64_of_wait {rng : Rng} (hwait : rng.wait = 0) : rng.nextU64.1 = 1 := by
  have hstate : rng.state + gamma = stateOfOne := by
    have hproduct : rng.wait * gamma = stateOfOne - gamma - rng.state := by
      calc rng.wait * gamma
          = (stateOfOne - gamma - rng.state) * (gamma * gammaInverse) := by
            rw [wait]; grind
        _ = stateOfOne - gamma - rng.state := by rw [gamma_inverse, UInt64.mul_one]
    rw [hwait, UInt64.zero_mul] at hproduct
    grind
  rw [nextU64, hstate, mixed_stateOfOne]

lemma wait_nextU64 {rng : Rng} (hword : rng.nextU64.1 ≠ 1) :
    rng.nextU64.2.wait.toNat + 1 = rng.wait.toNat := by
  have hwait : rng.wait ≠ 0 := fun h => hword (nextU64_of_wait h)
  have hstep : rng.nextU64.2.wait = rng.wait - 1 := by
    calc rng.nextU64.2.wait
        = rng.wait - gamma * gammaInverse := by
          rw [wait, wait, nextU64]; grind
      _ = rng.wait - 1 := by rw [gamma_inverse]
  have hpos : (1 : UInt64).toNat ≤ rng.wait.toNat :=
    Nat.one_le_iff_ne_zero.mpr fun h => hwait (UInt64.toNat_inj.mp h)
  rw [hstep, UInt64.toNat_sub_of_le _ _ (UInt64.le_iff_toNat_le.mpr hpos)]
  exact Nat.sub_add_cancel hpos

lemma ne_one_of_lowHalf {word bound : UInt64}
    (hlow : lowHalf (wideProduct word bound) < threshold bound) : word ≠ 1 := by
  rintro rfl
  have hbound : 0 < bound := by
    rcases UInt64.lt_or_eq_of_le (UInt64.zero_le) with h | h
    · exact h
    · rw [← h, threshold_zero] at hlow
      exact absurd hlow (UInt64.not_lt_zero)
  have heq : lowHalf (wideProduct 1 bound) = bound := by
    rw [← UInt64.toNat_inj, toNat_lowHalf, toNat_wideProduct]
    simp
  rw [heq] at hlow
  exact absurd (threshold_lt hbound) (UInt64.lt_asymm hlow)

/-- What is left to draw when a product has been drawn. -/
def left (bound : UInt64) (rng : Rng) (product : BitVec 128) : ℕ :=
  if lowHalf product < threshold bound then rng.wait.toNat + 1 else 0

lemma left_nextU64 (bound : UInt64) (rng : Rng) :
    left bound rng.nextU64.2 (wideProduct rng.nextU64.1 bound) < rng.wait.toNat + 1 := by
  rw [left]
  split
  · rename_i hlow
    have hstep := wait_nextU64 (ne_one_of_lowHalf hlow)
    omega
  · omega

/-- Draws again while the lower half of the product lies below the threshold. -/
def redraw (bound : UInt64) (rng : Rng) (product : BitVec 128) : BitVec 128 × Rng :=
  if lowHalf product < threshold bound then
    redraw bound rng.nextU64.2 (wideProduct rng.nextU64.1 bound)
  else (product, rng)
termination_by left bound rng product
decreasing_by
  rename_i hlow
  have hless := left_nextU64 bound rng
  rw [left.eq_def bound rng product, if_pos hlow]
  exact hless

/-- A number below a bound, without distortion.  A bound of zero panics. -/
def below (rng : Rng) (bound : UInt64) : Option (UInt64 × Rng) :=
  if 0 < bound then
    let product := wideProduct rng.nextU64.1 bound
    let drawn :=
      if lowHalf product < bound then redraw bound rng.nextU64.2 product
      else (product, rng.nextU64.2)
    some (highHalf drawn.1, drawn.2)
  else none

lemma exists_redraw (bound word : UInt64) (rng : Rng) :
    ∃ kept, (rng.redraw bound (wideProduct word bound)).1 = wideProduct kept bound := by
  generalize hproduct : wideProduct word bound = product
  fun_induction Rng.redraw bound rng product generalizing word with
  | case1 rng product hlow ih => exact ih rng.nextU64.1 rfl
  | case2 rng product hhigh => exact ⟨word, hproduct.symm⟩

lemma highHalf_lt (word : UInt64) {bound : UInt64} (hbound : 0 < bound) :
    highHalf (wideProduct word bound) < bound := by
  have hpos : 0 < bound.toNat := UInt64.lt_iff_toNat_lt.mp hbound
  rw [UInt64.lt_iff_toNat_lt, toNat_highHalf, toNat_wideProduct, Nat.div_lt_iff_lt_mul (by decide),
    Nat.mul_comm bound.toNat]
  exact Nat.mul_lt_mul_of_pos_right word.toNat_lt hpos

lemma below_lt {rng next : Rng} {bound n : UInt64} (h : rng.below bound = some (n, next)) :
    n < bound := by
  unfold below at h
  split at h
  · rename_i hbound
    cases h
    split
    · obtain ⟨kept, heq⟩ := exists_redraw bound rng.nextU64.1 rng.nextU64.2
      rw [heq]
      exact highHalf_lt kept hbound
    · exact highHalf_lt _ hbound
  · cases h

/-- Two places exchanged.  A place behind the end panics. -/
def swap {α : Type} (items : List α) (index other : ℕ) : Option (List α) := do
  let a ← items[index]?
  let b ← items[other]?
  return (items.set index b).set other a

/-- Exchanges every place from the last one down to the second with one that is not behind it. -/
def shuffleFrom {α : Type} : ℕ → List α → Rng → Option (List α × Rng)
  | 0, items, rng => some (items, rng)
  | index + 1, items, rng => do
    if index + 2 < 2 ^ 64 then
      let drawn ← rng.below (UInt64.ofNat (index + 2))
      let swapped ← swap items (index + 1) drawn.1.toNat
      shuffleFrom index swapped drawn.2
    else none

def shuffle {α : Type} (rng : Rng) (items : List α) : Option (List α × Rng) :=
  shuffleFrom (items.length - 1) items rng

end Rng

/-! ### Where a stream begins -/

/-- The streams of a world. -/
inductive Substream where
  | disruption | dailyRestriction | tiebreak | demand | failure | tenderRelease | tenderProfile

def Substream.name : Substream → String
  | .disruption => "disruption"
  | .dailyRestriction => "daily_restriction"
  | .tiebreak => "tiebreak"
  | .demand => "demand"
  | .failure => "failure"
  | .tenderRelease => "tender_release"
  | .tenderProfile => "tender_profile"

structure WorldSeed where
  world : UInt64
  period : UInt32

namespace WorldSeed

/-- What separates the streams from every other use of the hash. -/
def substreamDomain : List UInt8 := utf8 "zugfolge/substream/v1"

/-- The bytes that are hashed for a stream of a name. -/
def substreamInput (seed : WorldSeed) (name : String) : List UInt8 :=
  substreamDomain ++ beBytes 8 seed.world.toNat ++ beBytes 4 seed.period.toNat
    ++ beBytes 8 (utf8 name).length ++ utf8 name

/-- The stream of a name. -/
def namedSubstream (seed : WorldSeed) (name : String) : Rng :=
  ⟨UInt64.ofNat (((sha256 (seed.substreamInput name)).take 8).foldl
    (fun value byte => value * 256 + byte.toNat) 0)⟩

/-- The stream of a named substream. -/
def substream (seed : WorldSeed) (stream : Substream) : Rng := seed.namedSubstream stream.name

end WorldSeed

end Zugfolge.Determinism
