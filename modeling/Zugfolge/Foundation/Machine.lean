/-
Machine integers and exact rounding.

Signed machine integers are integers together with the operations that watch their
bounds: saturating operations stop at the bound, checked operations answer `none`
outside of it.  `divRoundHalfAway` is integer division to the nearest value with
halves rounded away from zero.
-/
import Mathlib.Tactic.Linarith
import Mathlib.Tactic.Ring

namespace Zugfolge.Foundation

/-! ### Bounds -/

/-- The least signed 64-bit value. -/
def i64Min : Int := -9223372036854775808

/-- The greatest signed 64-bit value. -/
def i64Max : Int := 9223372036854775807

/-- The least signed 128-bit value. -/
def i128Min : Int := -170141183460469231731687303715884105728

/-- The greatest signed 128-bit value. -/
def i128Max : Int := 170141183460469231731687303715884105727

/-- The greatest signed 32-bit value. -/
def i32Max : Int := 2147483647

/-- The greatest unsigned 16-bit value. -/
def u16Max : ℕ := 65535

/-- The greatest unsigned 32-bit value. -/
def u32Max : ℕ := 4294967295

/-- The greatest unsigned 64-bit value. -/
def u64Max : ℕ := 18446744073709551615

/-- The nearest signed 64-bit value. -/
def clamp64 (x : Int) : Int := max i64Min (min i64Max x)

/-- The nearest signed 128-bit value. -/
def clamp128 (x : Int) : Int := max i128Min (min i128Max x)

/-! ### Saturating and checked operations -/

/-- Saturating addition of signed 64-bit values. -/
def addSat64 (a b : Int) : Int := clamp64 (a + b)

/-- Saturating subtraction of signed 64-bit values. -/
def subSat64 (a b : Int) : Int := clamp64 (a - b)

/-- Saturating multiplication of signed 64-bit values. -/
def mulSat64 (a b : Int) : Int := clamp64 (a * b)

/-- Saturating addition of signed 128-bit values. -/
def addSat128 (a b : Int) : Int := clamp128 (a + b)

/-- Saturating subtraction of signed 128-bit values. -/
def subSat128 (a b : Int) : Int := clamp128 (a - b)

/-- Saturating multiplication of signed 128-bit values. -/
def mulSat128 (a b : Int) : Int := clamp128 (a * b)

/-- The value itself when it fits into 64 signed bits. -/
def checked64 (x : Int) : Option Int := if i64Min ≤ x ∧ x ≤ i64Max then some x else none

/-- Checked addition of signed 64-bit values. -/
def addChecked64 (a b : Int) : Option Int := checked64 (a + b)

/-- Checked subtraction of signed 64-bit values. -/
def subChecked64 (a b : Int) : Option Int := checked64 (a - b)

/-- Checked multiplication of signed 64-bit values. -/
def mulChecked64 (a b : Int) : Option Int := checked64 (a * b)

/-- Checked addition of signed 128-bit values. -/
def addChecked128 (a b : Int) : Option Int :=
  if i128Min ≤ a + b ∧ a + b ≤ i128Max then some (a + b) else none

/-- The value itself when it fits into 32 unsigned bits. -/
def checkedU32 (n : ℕ) : Option ℕ := if n ≤ u32Max then some n else none

/-- Checked addition of unsigned 32-bit values. -/
def addCheckedU32 (a b : ℕ) : Option ℕ := checkedU32 (a + b)

/-- Checked addition of unsigned 64-bit values. -/
def addCheckedU64 (a b : ℕ) : Option ℕ := if a + b ≤ u64Max then some (a + b) else none

/-- Checked multiplication of unsigned 64-bit values. -/
def mulCheckedU64 (a b : ℕ) : Option ℕ := if a * b ≤ u64Max then some (a * b) else none

/-- Saturating addition of unsigned 64-bit values. -/
def addSatU64 (a b : ℕ) : ℕ := min u64Max (a + b)

/-- Saturating multiplication of unsigned 64-bit values. -/
def mulSatU64 (a b : ℕ) : ℕ := min u64Max (a * b)

/-- Saturating addition of unsigned 32-bit values. -/
def addSatU32 (a b : ℕ) : ℕ := min u32Max (a + b)

/-- Saturating multiplication of unsigned 32-bit values. -/
def mulSatU32 (a b : ℕ) : ℕ := min u32Max (a * b)

lemma clamp64_of_mem {x : Int} (h : i64Min ≤ x ∧ x ≤ i64Max) : clamp64 x = x := by
  unfold clamp64
  omega

lemma clamp64_le_max (x : Int) : clamp64 x ≤ i64Max := by
  have hbounds : i64Min ≤ i64Max := by decide
  unfold clamp64
  omega

lemma min_le_clamp64 (x : Int) : i64Min ≤ clamp64 x := by
  unfold clamp64
  omega

lemma clamp64_mono {x y : Int} (h : x ≤ y) : clamp64 x ≤ clamp64 y := by
  unfold clamp64
  omega

lemma clamp128_mono {x y : Int} (h : x ≤ y) : clamp128 x ≤ clamp128 y := by
  unfold clamp128
  omega

lemma clamp64_le {x bound : Int} (hbound : i64Min ≤ bound) (h : x ≤ bound) :
    clamp64 x ≤ bound := by
  unfold clamp64
  omega

lemma le_clamp64_add {x n : Int} (hn : 0 ≤ n) : clamp64 x ≤ clamp64 (clamp64 x + n) := by
  unfold clamp64
  omega

lemma clamp64_add_le {x n : Int} (hn : 0 ≤ n) : clamp64 (x + n) ≤ clamp64 x + n := by
  unfold clamp64
  omega

lemma lt_of_clamp64_lt {x bound : Int} (hbound : bound ≤ i64Max) (h : clamp64 x < bound) :
    x < bound := by
  unfold clamp64 at h
  omega

lemma checked64_eq_some {x y : Int} (h : checked64 x = some y) :
    y = x ∧ i64Min ≤ x ∧ x ≤ i64Max := by
  unfold checked64 at h
  split at h
  next hx => exact ⟨(Option.some.inj h).symm, hx⟩
  next => exact absurd h (by simp)

/-! ### Rounding -/

/-- Division to the nearest integer, exact halves away from zero. -/
def divRoundHalfAway (numerator denominator : Int) : Int :=
  if 0 ≤ numerator then (addSat128 numerator (denominator / 2)).tdiv denominator
  else (subSat128 numerator (denominator / 2)).tdiv denominator

/-! ### Binary search -/

/-- Halves the window from `low` to `high` towards the least value that passes the
test; `rounds` bounds the number of halvings. -/
def bisectRounds (test : Int → Bool) : ℕ → Int → Int → Int
  | 0, low, _ => low
  | rounds + 1, low, high =>
    if low < high then
      let middle := addSat64 low ((subSat64 high low) / 2)
      if test middle then bisectRounds test rounds low middle
      else bisectRounds test rounds (addSat64 middle 1) high
    else low

/-- The least value from `low` to `high` that passes a monotone test. -/
def bisect (test : Int → Bool) (low high : Int) : Int :=
  bisectRounds test (high - low).toNat low high

end Zugfolge.Foundation
