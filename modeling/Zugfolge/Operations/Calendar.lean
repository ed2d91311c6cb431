/-
The calendar of the service days.

Days are moved month by month and written as `YYYY-MM-DD`.  Every day has a number in the
Gregorian calendar; moving a day adds to its number, and later days have later texts.

* `shiftedDay_calendar`: the days some days later.
-/
import Zugfolge.Foundation.Calendar
import Zugfolge.Foundation.Collect
import Zugfolge.Foundation.Digits
import Zugfolge.Operations.ServiceDays
import Mathlib.Tactic.IntervalCases

namespace Zugfolge

open Foundation

/-! ### Reading a day -/

lemma daysOfMonth_eq {year month : ℕ} (h : 1 ≤ month ∧ month ≤ 12) :
    daysOfMonth year month = monthLength year month := by
  have hleap : (year % 4 == 0 && (year % 100 != 0 || year % 400 == 0)) = true
      ↔ IsLeapYear year := by
    simp only [IsLeapYear, Bool.and_eq_true, Bool.or_eq_true, beq_iff_eq, bne_iff_ne]
    tauto
  obtain ⟨hlow, hhigh⟩ := h
  interval_cases month <;> simp [daysOfMonth, monthLength, hleap]

lemma daysOfMonth_eq_zero {year month : ℕ} (h : ¬ (1 ≤ month ∧ month ≤ 12)) :
    daysOfMonth year month = 0 := by
  have hmonth : month = 0 ∨ ∃ more, month = more + 13 := by
    rcases Nat.eq_zero_or_pos month with hzero | hpos
    · exact .inl hzero
    · exact .inr ⟨month - 13, by omega⟩
  rcases hmonth with rfl | ⟨more, rfl⟩
  · rfl
  · rfl

/-- A day of a month exists exactly if the calendar has it. -/
lemma isValid_iff {year month day : ℕ} :
    Date.IsValid ⟨year, month, day⟩ ↔ ¬ (year = 0 ∨ day = 0 ∨ daysOfMonth year month < day) := by
  by_cases hmonth : 1 ≤ month ∧ month ≤ 12
  · rw [daysOfMonth_eq hmonth]
    constructor
    · rintro ⟨hyear, -, hday⟩
      simp only at hyear hday
      omega
    · intro h
      exact ⟨by simp only; omega, hmonth, by simp only; omega⟩
  · rw [daysOfMonth_eq_zero hmonth]
    constructor
    · exact fun h => absurd h.month hmonth
    · intro h
      omega

/-- The day that a text names. -/
def dayOf (text : String) : Option Date :=
  (calendarDay text).map fun parts => ⟨parts.1, parts.2.1, parts.2.2⟩

/-- The last day a text can name. -/
def lastDay : Date := ⟨9999, 12, 31⟩

lemma dayOf_eq_some {text : String} {date : Date} :
    dayOf text = some date ↔ calendarDay text = some (date.year, date.month, date.day) := by
  rw [dayOf, Option.map_eq_some_iff]
  constructor
  · rintro ⟨parts, hparts, rfl⟩
    exact hparts
  · exact fun h => ⟨_, h, rfl⟩

/-- A text names days of the calendar only. -/
lemma dayOf_valid {text : String} {date : Date} (h : dayOf text = some date) :
    date.IsValid ∧ date.year ≤ 9999 := by
  obtain ⟨year, month, day⟩ := date
  rw [dayOf_eq_some, calendarDay] at h
  split at h
  next y1 y2 y3 y4 m1 m2 d1 d2 _ =>
    split at h
    next hdigits =>
      simp only at h
      split at h
      · cases h
      next hvalid =>
        cases h
        refine ⟨isValid_iff.mpr hvalid, ?_⟩
        rw [List.all_eq_true] at hdigits
        have hyear : Text.digitsValue [y1, y2, y3, y4] < 10 ^ 4 :=
          digitsValue_lt fun c hc => hdigits c (List.mem_append_left [m1, m2, d1, d2] hc)
        dsimp only
        omega
    next => cases h
  next => cases h

/-! ### Writing a day -/

def dayText (date : Date) : String :=
  s!"{padded 4 date.year}-{padded 2 date.month}-{padded 2 date.day}"

lemma toList_padded (width value : ℕ) : (padded width value).toList = fixedDigits width value := by
  rw [padded, String.toList_append, String.toList_ofList, fixedDigits, Nat.toString_eq_repr,
    Nat.toList_repr, ← String.length_toList, Nat.toList_repr]

lemma toList_dayText (date : Date) :
    (dayText date).toList = fixedDigits 4 date.year ++ '-' :: (fixedDigits 2 date.month
      ++ '-' :: fixedDigits 2 date.day) := by
  have hmark : "-".toList = ['-'] := rfl
  simp only [dayText, toString, String.toList_append, toList_padded, hmark, List.append_assoc,
    List.cons_append, List.nil_append]

/-- What is written of a day is read back. -/
lemma dayOf_dayText {date : Date} (h : date.IsValid) (hyear : date.year ≤ 9999) :
    dayOf (dayText date) = some date := by
  have hmonth : date.month ≤ 12 := h.month.2
  have hday : date.day ≤ 31 := h.day.2.trans (monthLength_le date.year date.month)
  have hlength : (fixedDigits 4 date.year).length = 4 :=
    length_fixedDigits (by decide) (by omega)
  have hmonths : (fixedDigits 2 date.month).length = 2 :=
    length_fixedDigits (by decide) (by omega)
  have hdays : (fixedDigits 2 date.day).length = 2 :=
    length_fixedDigits (by decide) (by omega)
  obtain ⟨y1, y2, y3, y4, hy⟩ := List.length_eq_four.mp hlength
  obtain ⟨m1, m2, hm⟩ := List.length_eq_two.mp hmonths
  obtain ⟨d1, d2, hd⟩ := List.length_eq_two.mp hdays
  have htext : (dayText date).toList = [y1, y2, y3, y4, '-', m1, m2, '-', d1, d2] := by
    rw [toList_dayText, hy, hm, hd]
    rfl
  have hdigits : ([y1, y2, y3, y4, m1, m2, d1, d2].all Text.isDigit) = true := by
    rw [List.all_eq_true]
    intro c hc
    have hsplit : c ∈ fixedDigits 4 date.year ∨ c ∈ fixedDigits 2 date.month
        ∨ c ∈ fixedDigits 2 date.day := by
      rw [hy, hm, hd, ← List.mem_append, ← List.mem_append]
      exact hc
    rcases hsplit with hc | hc | hc
    · exact isDigit_of_mem_fixedDigits hc
    · exact isDigit_of_mem_fixedDigits hc
    · exact isDigit_of_mem_fixedDigits hc
  rw [dayOf_eq_some, calendarDay, htext]
  simp only [hdigits, if_true]
  rw [← hy, ← hm, ← hd, digitsValue_fixedDigits, digitsValue_fixedDigits,
    digitsValue_fixedDigits, if_neg (isValid_iff.mp h)]

lemma fixedDigits_lt {width n m : ℕ} (hwidth : 0 < width) (hn : n < 10 ^ width)
    (hm : m < 10 ^ width) (h : n < m) : fixedDigits width n < fixedDigits width m := by
  refine lt_of_digitsValue_lt ?_ (fun _ => isDigit_of_mem_fixedDigits)
    (fun _ => isDigit_of_mem_fixedDigits) ?_
  · rw [length_fixedDigits hwidth hn, length_fixedDigits hwidth hm]
  · rwa [digitsValue_fixedDigits, digitsValue_fixedDigits]

/-- A later day has a later text. -/
lemma dayText_lt {first second : Date} (hfirst : first.IsValid) (hsecond : second.IsValid)
    (hyear : first.year ≤ 9999) (hyear' : second.year ≤ 9999)
    (h : first.number < second.number) : dayText first < dayText second := by
  have hmonth : first.month < 10 ^ 2 := by have := hfirst.month; omega
  have hmonth' : second.month < 10 ^ 2 := by have := hsecond.month; omega
  have hday : first.day < 10 ^ 2 := by
    have := hfirst.day.2.trans (monthLength_le first.year first.month)
    omega
  have hday' : second.day < 10 ^ 2 := by
    have := hsecond.day.2.trans (monthLength_le second.year second.month)
    omega
  have hyears : (fixedDigits 4 first.year).length = (fixedDigits 4 second.year).length := by
    rw [length_fixedDigits (by decide) (by omega), length_fixedDigits (by decide) (by omega)]
  have hmonths : (fixedDigits 2 first.month).length = (fixedDigits 2 second.month).length := by
    rw [length_fixedDigits (by decide) hmonth, length_fixedDigits (by decide) hmonth']
  rw [String.lt_iff, toList_dayText, toList_dayText]
  rcases (Date.number_lt_iff hfirst hsecond).mp h with hlt | ⟨heq, hlt | ⟨heq', hlt⟩⟩
  · exact append_lt_append_of_lt hyears
      (fixedDigits_lt (by decide) (by omega) (by omega) hlt) _ _
  · rw [heq]
    refine append_lt_append_left _ (List.cons_lt_cons_iff.mpr (.inr ⟨rfl, ?_⟩))
    exact append_lt_append_of_lt hmonths (fixedDigits_lt (by decide) hmonth hmonth' hlt) _ _
  · rw [heq, heq']
    refine append_lt_append_left _ (List.cons_lt_cons_iff.mpr (.inr ⟨rfl, ?_⟩))
    refine append_lt_append_left _ (List.cons_lt_cons_iff.mpr (.inr ⟨rfl, ?_⟩))
    exact fixedDigits_lt (by decide) hday hday' hlt

/-! ### Moving a day -/

lemma lastDay_valid : lastDay.IsValid := ⟨by decide, by decide, by decide⟩

lemma number_le_lastDay {date : Date} (h : date.IsValid) (hyear : date.year ≤ 9999) :
    date.number ≤ lastDay.number := by
  rw [← not_lt, Date.number_lt_iff lastDay_valid h]
  have hmonth := h.month.2
  have hday := h.day.2.trans (monthLength_le date.year date.month)
  simp only [lastDay]
  omega

/-- Moving a day adds to its number, as long as the year has four digits. -/
lemma shiftMonths_spec {rounds remaining : ℕ} {date : Date} (hrounds : remaining ≤ rounds)
    (hdate : date.IsValid) (hyear : date.year ≤ 9999)
    (hfits : date.number + remaining ≤ lastDay.number) :
    ∃ moved : Date, shiftMonths rounds date.year date.month date.day remaining
        = some (moved.year, moved.month, moved.day)
      ∧ moved.IsValid ∧ moved.year ≤ 9999 ∧ moved.number = date.number + remaining := by
  induction rounds generalizing remaining date with
  | zero => exact ⟨date, rfl, hdate, hyear, by omega⟩
  | succ rounds ih =>
    obtain ⟨year, month, day⟩ := date
    have hmonth : 1 ≤ month ∧ month ≤ 12 := hdate.month
    have hday : 1 ≤ day ∧ day ≤ monthLength year month := hdate.day
    rw [shiftMonths, daysOfMonth_eq hmonth]
    split
    next hzero => exact ⟨⟨year, month, day⟩, rfl, hdate, hyear, by omega⟩
    next hmore =>
      simp only
      split
      next hwithin =>
        -- the day stays in its month
        refine ⟨⟨year, month, day + remaining⟩, rfl, ⟨hdate.year, hmonth, ?_⟩, hyear, ?_⟩
        · simp only
          omega
        · simp only [Date.number, Date.monthIndex]
          omega
      next hbeyond =>
        -- go on at the first day of the next month
        let next : Date :=
          ⟨if month + 1 = 13 then year + 1 else year, if month + 1 = 13 then 1 else month + 1, 1⟩
        have hnext : next.IsValid := by
          refine ⟨?_, ?_, le_refl _, monthLength_pos _ _⟩
          · have := hdate.year
            simp only [next] at this ⊢
            split <;> omega
          · simp only [next]
            split <;> omega
        have hindex : next.monthIndex = Date.monthIndex ⟨year, month, day⟩ + 1 := by
          simp only [next, Date.monthIndex]
          split <;> omega
        have hnumber : next.number = Date.number ⟨year, month, day⟩
            + (monthLength year month - day + 1) :=
          Date.number_next_month hmonth hindex rfl hday.2
        have hnextYear : next.year ≤ 9999 := by
          by_contra hlate
          have hafter : lastDay.number < next.number :=
            (Date.number_lt_iff lastDay_valid hnext).mpr (.inl (not_le.mp hlate))
          omega
        rw [if_neg (show ¬ 9999 < next.year by omega)]
        obtain ⟨moved, hmoved, hvalid, hmovedYear, heq⟩ :=
          ih (show remaining - (monthLength year month - day + 1) ≤ rounds by omega) hnext
            hnextYear (by omega)
        exact ⟨moved, hmoved, hvalid, hmovedYear, by omega⟩

lemma shiftedDay_spec {day : String} {date : Date} {days : ℕ} (hday : dayOf day = some date)
    (hfits : date.number + days ≤ lastDay.number) :
    ∃ moved : Date, shiftedDay day days = .ok (dayText moved)
      ∧ moved.IsValid ∧ moved.year ≤ 9999 ∧ moved.number = date.number + days := by
  obtain ⟨hvalid, hyear⟩ := dayOf_valid hday
  obtain ⟨moved, hmoved, hspec⟩ := shiftMonths_spec (le_refl days) hvalid hyear hfits
  refine ⟨moved, ?_, hspec⟩
  have hparts : orRefuse (calendarDay day) .invalidServiceOutcome
      = .ok (date.year, date.month, date.day) := by
    rw [dayOf_eq_some.mp hday]
    rfl
  have hshift : orRefuse (shiftMonths days date.year date.month date.day days) .invalidServiceDay
      = .ok (moved.year, moved.month, moved.day) := by
    rw [hmoved]
    rfl
  exact bind_eq_ok_iff.mpr ⟨_, hparts, bind_eq_ok_iff.mpr ⟨_, hshift, rfl⟩⟩

/-- **Days some days later.** -/
theorem shiftedDay_calendar {day : String} {date : Date} {a b : ℕ}
    (hday : dayOf day = some date) (hfits : date.number + (a + b) ≤ lastDay.number) :
    ∃ middle result : Date,
      shiftedDay day a = .ok (dayText middle)
      ∧ shiftedDay day (a + b) = .ok (dayText result)
      ∧ shiftedDay (dayText middle) b = .ok (dayText result)
      ∧ (middle.IsValid ∧ dayOf (dayText middle) = some middle
        ∧ middle.number = date.number + a)
      ∧ (result.IsValid ∧ dayOf (dayText result) = some result
        ∧ result.number = date.number + (a + b))
      ∧ (0 < b → dayText middle < dayText result) := by
  obtain ⟨middle, hmiddle, hvalid, hyear, hnumber⟩ :=
    shiftedDay_spec hday (show date.number + a ≤ lastDay.number by omega)
  obtain ⟨result, hresult, hvalid', hyear', hnumber'⟩ := shiftedDay_spec hday hfits
  obtain ⟨again, hagain, hvalidAgain, -, hnumberAgain⟩ :=
    shiftedDay_spec (dayOf_dayText hvalid hyear)
      (show middle.number + b ≤ lastDay.number by omega)
  -- both ways lead to the day with the same number
  have hsame : again = result := Date.number_inj hvalidAgain hvalid' (by omega)
  refine ⟨middle, result, hmiddle, hresult, hsame ▸ hagain,
    ⟨hvalid, dayOf_dayText hvalid hyear, hnumber⟩,
    ⟨hvalid', dayOf_dayText hvalid' hyear', hnumber'⟩, fun hlater => ?_⟩
  exact dayText_lt hvalid hvalid' hyear hyear' (by omega)

/-- Over the end of February in a leap year. -/
theorem shiftedDay_calendar_february :
    ∃ middle result : Date,
      shiftedDay "2024-02-28" 1 = .ok (dayText middle)
      ∧ shiftedDay "2024-02-28" (1 + 1) = .ok (dayText result)
      ∧ shiftedDay (dayText middle) 1 = .ok (dayText result)
      ∧ dayText middle < dayText result := by
  have hday : dayOf "2024-02-28" = some ⟨2024, 2, 28⟩ := by decide
  have hlength : monthLength 2024 2 = 29 := by decide
  have hmarch := @Date.number_next_month ⟨2024, 2, 28⟩ ⟨2024, 3, 1⟩ (by decide)
    (by simp [Date.monthIndex]) rfl (by decide)
  have hlast : Date.number ⟨2024, 3, 1⟩ ≤ lastDay.number :=
    number_le_lastDay ⟨by decide, by decide, by decide⟩ (by norm_num)
  have hfits : Date.number ⟨2024, 2, 28⟩ + (1 + 1) ≤ lastDay.number := by
    simp only [hlength] at hmarch
    omega
  obtain ⟨middle, result, hmiddle, hresult, hagain, -, -, hlater⟩ :=
    shiftedDay_calendar hday hfits
  exact ⟨middle, result, hmiddle, hresult, hagain, hlater (by decide)⟩

end Zugfolge
