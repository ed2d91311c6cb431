/-
Calendars.

A calendar is a sequence of months, each with a number of days.  A date has an ordinal, the
number of days up to it; the ordinals of dates are in the order of the dates.
-/
import Mathlib.Tactic.Linarith

namespace Zugfolge.Foundation

/-! ### Months in a row -/

/-- The days before a month, for months of given lengths. -/
def daysBefore (length : ℕ → ℕ) : ℕ → ℕ
  | 0 => 0
  | month + 1 => daysBefore length month + length month

variable {length : ℕ → ℕ}

/-- A month ends before any later one begins. -/
lemma daysBefore_add_le {month later : ℕ} (h : month < later) :
    daysBefore length month + length month ≤ daysBefore length later := by
  induction later with
  | zero => exact absurd h month.not_lt_zero
  | succ later ih =>
    rw [daysBefore]
    rcases Nat.lt_succ_iff_lt_or_eq.mp h with hlt | rfl
    · exact (ih hlt).trans (Nat.le_add_right _ _)
    · exact le_refl _

/-- Ordinals are in the order of month and day. -/
lemma ordinal_lt_iff {month day month' day' : ℕ} (hday : 0 < day) (hlength : day ≤ length month)
    (hday' : 0 < day') (hlength' : day' ≤ length month') :
    daysBefore length month + day < daysBefore length month' + day'
      ↔ month < month' ∨ month = month' ∧ day < day' := by
  rcases Nat.lt_trichotomy month month' with hlt | rfl | hlt
  · have hbefore := @daysBefore_add_le length _ _ hlt
    constructor
    · exact fun _ => .inl hlt
    · intro _
      omega
  · constructor
    · intro h
      exact .inr ⟨rfl, by omega⟩
    · rintro (h | ⟨-, h⟩)
      · exact absurd h (lt_irrefl month)
      · omega
  · have hbefore := @daysBefore_add_le length _ _ hlt
    constructor
    · intro h
      omega
    · rintro (h | ⟨rfl, -⟩)
      · omega
      · exact absurd hlt (lt_irrefl month)

/-! ### The Gregorian calendar -/

/-- Every fourth year is a leap year, of the full centuries only every fourth one. -/
def IsLeapYear (year : ℕ) : Prop := year % 4 = 0 ∧ (year % 100 = 0 → year % 400 = 0)

instance (year : ℕ) : Decidable (IsLeapYear year) := inferInstanceAs (Decidable (_ ∧ _))

/-- The days of a month from one to twelve. -/
def monthLength (year month : ℕ) : ℕ :=
  if month = 2 then (if IsLeapYear year then 29 else 28) else 30 + (month + month / 8) % 2

lemma monthLength_pos (year month : ℕ) : 0 < monthLength year month := by
  rw [monthLength]
  split
  · split <;> decide
  · omega

lemma monthLength_le (year month : ℕ) : monthLength year month ≤ 31 := by
  rw [monthLength]
  split
  · split <;> decide
  · omega

/-- A year, a month and a day in it. -/
@[ext] structure Date where
  year : ℕ
  month : ℕ
  day : ℕ
  deriving DecidableEq

namespace Date

/-- The date exists. -/
structure IsValid (date : Date) : Prop where
  year : 1 ≤ date.year
  month : 1 ≤ date.month ∧ date.month ≤ 12
  day : 1 ≤ date.day ∧ date.day ≤ monthLength date.year date.month

/-- The number of a month, counted through the years. -/
def monthIndex (date : Date) : ℕ := 12 * date.year + (date.month - 1)

/-- The days of a month that is counted through the years. -/
def lengthAt (index : ℕ) : ℕ := monthLength (index / 12) (index % 12 + 1)

/-- The number of a date: the days up to it. -/
def number (date : Date) : ℕ := daysBefore lengthAt date.monthIndex + date.day

lemma lengthAt_monthIndex {date : Date} (h : 1 ≤ date.month ∧ date.month ≤ 12) :
    lengthAt date.monthIndex = monthLength date.year date.month := by
  have hyear : date.monthIndex / 12 = date.year := by
    rw [monthIndex]
    omega
  have hmonth : date.monthIndex % 12 + 1 = date.month := by
    rw [monthIndex]
    omega
  rw [lengthAt, hyear, hmonth]

/-- Numbers are in the order of year, month and day. -/
lemma number_lt_iff {first second : Date} (hfirst : first.IsValid) (hsecond : second.IsValid) :
    first.number < second.number ↔
      first.year < second.year ∨ first.year = second.year ∧
        (first.month < second.month ∨ first.month = second.month ∧ first.day < second.day) := by
  have hlength := lengthAt_monthIndex hfirst.month
  have hlength' := lengthAt_monthIndex hsecond.month
  rw [number, number, ordinal_lt_iff hfirst.day.1 (hlength ▸ hfirst.day.2) hsecond.day.1
    (hlength' ▸ hsecond.day.2), monthIndex, monthIndex]
  have hmonth := hfirst.month
  have hmonth' := hsecond.month
  omega

/-- A number belongs to one date. -/
lemma number_inj {first second : Date} (hfirst : first.IsValid) (hsecond : second.IsValid)
    (h : first.number = second.number) : first = second := by
  have hnot := (number_lt_iff hfirst hsecond).not.mp h.not_lt
  have hnot' := (number_lt_iff hsecond hfirst).not.mp h.not_gt
  ext
  · omega
  · omega
  · omega

/-- The first day of the next month follows the last day of a month. -/
lemma number_next_month {date next : Date} (hmonth : 1 ≤ date.month ∧ date.month ≤ 12)
    (hnext : next.monthIndex = date.monthIndex + 1) (hday : next.day = 1)
    (hlength : date.day ≤ monthLength date.year date.month) :
    next.number = date.number + (monthLength date.year date.month - date.day + 1) := by
  rw [number, number, hnext, daysBefore, lengthAt_monthIndex hmonth, hday]
  omega

end Date

end Zugfolge.Foundation
