/-
The runs of a window.

Not a whole timetable period is turned into runs, only the window in question.  A run
belongs to it when anything it holds reaches into it; the days to look at follow from the
profile itself.

* `runsBetween_exact`: exactly the runs whose span meets the window, day by day.
-/
import Zugfolge.Conflict.Service

namespace Zugfolge.Conflict

open Foundation

namespace ServicePattern

variable (pattern : ServicePattern)

/-- The first and the last day whose run may reach into a window. -/
def dayBounds (start finish : SimTime) : Int × Int :=
  (subSat64 (subSat64 start pattern.departureTimeS) pattern.profile.lastSecondS / secondsPerDay,
    subSat64 (subSat64 finish pattern.departureTimeS) pattern.profile.firstSecondS
      / secondsPerDay)

/-- The days to look at, in order. -/
def candidates (start finish : SimTime) : List Int :=
  let bounds := pattern.dayBounds start finish
  (List.range (bounds.2 + 1 - bounds.1).toNat).map fun k : ℕ => bounds.1 + (k : Int)

/-- All runs that hold anything in a half-open window. -/
def runsBetween (start finish : SimTime) : List TrainRun :=
  if finish ≤ start then []
  else (pattern.candidates start finish).filterMap fun day =>
    (pattern.materialise day).filter fun run =>
      decide (start < run.staircase.lastSecond) && decide (run.staircase.firstSecond < finish)

/-! ### Spans without bounds -/

/-- The departure of a day, in unbounded numbers. -/
def departureTime (day : Int) : Int := day * secondsPerDay + pattern.departureTimeS

/-- The span in which the run of a day holds anything, in unbounded numbers. -/
def envelope (day : Int) : Int × Int :=
  (pattern.departureTime day + pattern.profile.firstSecondS,
    pattern.departureTime day + pattern.profile.lastSecondS)

/-- All times of the run of a day fit into 64 bits. -/
structure DayOnClock (day : Int) : Prop where
  midnight : IsInstant (day * secondsPerDay)
  departure : IsInstant (pattern.departureTime day)
  occupations : ∀ occupation ∈ pattern.profile.occupations,
    IsInstant (pattern.departureTime day + occupation.startS)
      ∧ IsInstant (pattern.departureTime day + occupation.endS)

/-- No time of the window or of a day to look at leaves 64 bits. -/
structure WithinClock (start finish : SimTime) : Prop where
  earliest : IsInstant (start - pattern.departureTimeS)
  earliestShift : IsInstant (start - pattern.departureTimeS - pattern.profile.lastSecondS)
  latest : IsInstant (finish - pattern.departureTimeS)
  latestShift : IsInstant (finish - pattern.departureTimeS - pattern.profile.firstSecondS)
  days : ∀ day, (pattern.dayBounds start finish).1 ≤ day →
    day ≤ (pattern.dayBounds start finish).2 → pattern.DayOnClock day

variable {pattern}

lemma min?_map_add (values : List Int) (amount : Int) :
    (values.map fun value => amount + value).min?
    = values.min?.map fun value => amount + value := by
  cases h : values.min? with
  | none => rw [List.min?_eq_none_iff.mp h]; rfl
  | some least =>
    obtain ⟨hmem, hleast⟩ := List.min?_eq_some_iff.mp h
    rw [Option.map_some, List.min?_eq_some_iff]
    refine ⟨List.mem_map_of_mem hmem, fun moved hmoved => ?_⟩
    obtain ⟨value, hvalue, rfl⟩ := List.mem_map.mp hmoved
    exact Int.add_le_add_left (hleast value hvalue) amount

lemma max?_map_add (values : List Int) (amount : Int) :
    (values.map fun value => amount + value).max?
    = values.max?.map fun value => amount + value := by
  cases h : values.max? with
  | none => rw [List.max?_eq_none_iff.mp h]; rfl
  | some greatest =>
    obtain ⟨hmem, hgreatest⟩ := List.max?_eq_some_iff.mp h
    rw [Option.map_some, List.max?_eq_some_iff]
    refine ⟨List.mem_map_of_mem hmem, fun moved hmoved => ?_⟩
    obtain ⟨value, hvalue, rfl⟩ := List.mem_map.mp hmoved
    exact Int.add_le_add_left (hgreatest value hvalue) amount

variable {day : Int} {finish start : SimTime}

lemma departureOn_of_onClock (h : pattern.DayOnClock day) :
    pattern.departureOn day = pattern.departureTime day := by
  rw [departureOn, mulSat64, clamp64_of_mem h.midnight, addSat64]
  exact clamp64_of_mem h.departure

/-- Within the clock a run holds its resources over the span of its day. -/
lemma envelope_of_materialise {run : TrainRun} (h : pattern.DayOnClock day)
    (hrun : pattern.materialise day = some run) :
    (run.staircase.firstSecond, run.staircase.lastSecond) = pattern.envelope day := by
  rw [materialise] at hrun
  split at hrun
  · cases hrun
    have hstarts : ((pattern.profile.«at» (pattern.departureOn day)).steps.map
        BlockingTime.start) = (pattern.profile.occupations.map RelativeOccupation.startS).map
          fun value => pattern.departureTime day + value := by
      rw [OccupationProfile.«at», List.map_map, List.map_map, departureOn_of_onClock h]
      exact List.map_congr_left fun occupation hmem =>
        clamp64_of_mem (h.occupations occupation hmem).1
    have hends : ((pattern.profile.«at» (pattern.departureOn day)).steps.map
        BlockingTime.finish) = (pattern.profile.occupations.map RelativeOccupation.endS).map
          fun value => pattern.departureTime day + value := by
      rw [OccupationProfile.«at», List.map_map, List.map_map, departureOn_of_onClock h]
      exact List.map_congr_left fun occupation hmem =>
        clamp64_of_mem (h.occupations occupation hmem).2
    have hdeparture : (pattern.profile.«at» (pattern.departureOn day)).departure
        = pattern.departureTime day := departureOn_of_onClock h
    rw [BlockingTimeStaircase.firstSecond, BlockingTimeStaircase.lastSecond, hstarts, hends,
      min?_map_add, max?_map_add, hdeparture, envelope, OccupationProfile.firstSecondS,
      OccupationProfile.lastSecondS]
    congr 1
    · cases (pattern.profile.occupations.map RelativeOccupation.startS).min? with
      | none => exact (Int.add_zero _).symm
      | some least => rfl
    · cases (pattern.profile.occupations.map RelativeOccupation.endS).max? with
      | none => exact (Int.add_zero _).symm
      | some greatest => rfl
  · cases hrun

/-! ### The days to look at -/

lemma mem_candidates :
    day ∈ pattern.candidates start finish ↔
      (pattern.dayBounds start finish).1 ≤ day ∧ day ≤ (pattern.dayBounds start finish).2 := by
  simp only [candidates, List.mem_map, List.mem_range]
  constructor
  · rintro ⟨k, hk, rfl⟩
    omega
  · rintro ⟨hfrom, hto⟩
    exact ⟨(day - (pattern.dayBounds start finish).1).toNat, by omega, by omega⟩

lemma candidates_sorted (start finish : SimTime) :
    (pattern.candidates start finish).Pairwise (· < ·) := by
  rw [candidates, List.pairwise_map]
  exact List.pairwise_lt_range.imp fun h => by omega

lemma first_day_le {instant departureTimeS lastSecondS day : Int}
    (h : instant < day * 86400 + departureTimeS + lastSecondS) :
    (instant - departureTimeS - lastSecondS) / 86400 ≤ day := by
  omega

lemma le_last_day {instant departureTimeS firstSecondS day : Int}
    (h : day * 86400 + departureTimeS + firstSecondS < instant) :
    day ≤ (instant - departureTimeS - firstSecondS) / 86400 := by
  omega

lemma mem_candidates_of_overlaps (h : pattern.WithinClock start finish)
    (hmeets : Overlaps (pattern.envelope day) (start, finish)) :
    day ∈ pattern.candidates start finish := by
  obtain ⟨hfirst, hlast⟩ := hmeets
  rw [mem_candidates, dayBounds, subSat64, subSat64, subSat64, subSat64,
    clamp64_of_mem h.earliest, clamp64_of_mem h.earliestShift, clamp64_of_mem h.latest,
    clamp64_of_mem h.latestShift]
  exact ⟨first_day_le hlast, le_last_day hfirst⟩

/-! ### The runs found -/

/-- The days of a window: those looked at whose run exists and meets the window. -/
def daysBetween (pattern : ServicePattern) (start finish : SimTime) : List Int :=
  (pattern.candidates start finish).filter fun day =>
    pattern.runsOn day && decide (Overlaps (pattern.envelope day) (start, finish))

lemma mem_daysBetween (h : pattern.WithinClock start finish) :
    day ∈ pattern.daysBetween start finish ↔
      pattern.runsOn day = true ∧ Overlaps (pattern.envelope day) (start, finish) := by
  rw [daysBetween, List.mem_filter, Bool.and_eq_true, decide_eq_true_eq]
  exact ⟨And.right, fun hday => ⟨mem_candidates_of_overlaps h hday.2, hday⟩⟩

/-- Looking at a day finds its run exactly if the day is one of the window. -/
lemma filter_materialise (h : pattern.DayOnClock day) :
    ((pattern.materialise day).filter fun run =>
        decide (start < run.staircase.lastSecond) && decide (run.staircase.firstSecond < finish))
      = if pattern.runsOn day && decide (Overlaps (pattern.envelope day) (start, finish))
        then pattern.materialise day else none := by
  cases hrun : pattern.materialise day with
  | none => simp
  | some run =>
    have hruns : pattern.runsOn day = true := by
      rw [materialise] at hrun
      split at hrun
      next hruns => exact hruns
      next => cases hrun
    obtain ⟨hfirst, hlast⟩ := Prod.mk.inj (envelope_of_materialise h hrun)
    have hmeets : (decide (start < run.staircase.lastSecond)
          && decide (run.staircase.firstSecond < finish))
        = decide (Overlaps (pattern.envelope day) (start, finish)) := by
      rw [hfirst, hlast, Bool.and_comm, ← Bool.decide_and]
      rfl
    rw [Option.filter_some, hmeets, hruns, Bool.true_and]

lemma overlaps_envelope_iff (hwindow : start < finish)
    (hprofile : pattern.profile.firstSecondS < pattern.profile.lastSecondS) :
    Overlaps (pattern.envelope day) (start, finish)
      ↔ ∃ second, Covers (pattern.envelope day) second ∧ Covers (start, finish) second := by
  constructor
  · exact fun h => h.exists_covers (Int.add_lt_add_left hprofile _) hwindow
  · rintro ⟨second, hday, hin⟩
    exact overlaps_of_covers hday hin

/-- **The runs of a window.**  The runs found are those of a strictly increasing list of
days, and these are exactly the days on which the pattern runs and whose span meets the
window, that is, has a second in common with it unless it is empty. -/
theorem runsBetween_exact {start finish : SimTime} (h : pattern.WithinClock start finish) :
    ∃ days : List Int, days.Pairwise (· < ·) ∧
      pattern.runsBetween start finish = days.filterMap pattern.materialise ∧
      (∀ day, day ∈ days ↔ start < finish ∧ pattern.runsOn day = true
        ∧ Overlaps (pattern.envelope day) (start, finish)) ∧
      (pattern.profile.firstSecondS < pattern.profile.lastSecondS →
        ∀ day, day ∈ days ↔ pattern.runsOn day = true
          ∧ ∃ second, Covers (pattern.envelope day) second ∧ Covers (start, finish) second) ∧
      ∀ day ∈ days, ∃ run, pattern.materialise day = some run ∧
        (run.staircase.firstSecond, run.staircase.lastSecond) = pattern.envelope day := by
  rcases lt_or_ge start finish with hwindow | hwindow
  · have hclock (day : Int) (hday : day ∈ pattern.candidates start finish) :
        pattern.DayOnClock day := by
      obtain ⟨hfrom, hto⟩ := mem_candidates.mp hday
      exact h.days day hfrom hto
    refine ⟨pattern.daysBetween start finish, (candidates_sorted start finish).filter _, ?_,
      fun day => ?_, fun hprofile day => ?_, fun day hday => ?_⟩
    · rw [runsBetween, if_neg (not_le.mpr hwindow), daysBetween, List.filterMap_filter]
      exact List.filterMap_congr fun day hday => filter_materialise (hclock day hday)
    · rw [mem_daysBetween h]
      exact (and_iff_right hwindow).symm
    · rw [mem_daysBetween h, overlaps_envelope_iff hwindow hprofile]
    · obtain ⟨hruns, -⟩ := (mem_daysBetween h).mp hday
      have hrun : pattern.materialise day = some ⟨pattern.number, pattern.departureOn day,
          pattern.profile.«at» (pattern.departureOn day)⟩ := if_pos hruns
      exact ⟨_, hrun, envelope_of_materialise (hclock day (List.mem_of_mem_filter hday)) hrun⟩
  · refine ⟨[], List.Pairwise.nil, if_pos hwindow, fun day => ?_, fun _ day => ?_, ?_⟩
    · exact ⟨fun hday => absurd hday List.not_mem_nil,
        fun hday => absurd hday.1 (not_lt.mpr hwindow)⟩
    · refine ⟨fun hday => absurd hday List.not_mem_nil, ?_⟩
      rintro ⟨-, second, -, hfrom, hto⟩
      exact absurd (hfrom.trans_lt hto) (not_lt.mpr hwindow)
    · exact fun day hday => absurd hday List.not_mem_nil

/-- A night run, half an hour to midnight, that holds its resource for three hours. -/
def nightPattern : ServicePattern := StationHead.pattern 2 84600 (.route 3 1) (-60) 10800

/-- In the first hour of the day the run of the day before is still there. -/
example : (nightPattern.runsBetween 86400 90000).map TrainRun.departure = [84600] := by
  decide +kernel

theorem runsBetween_exact_night :
    ∃ days : List Int, days.Pairwise (· < ·) ∧
      nightPattern.runsBetween 86400 90000 = days.filterMap nightPattern.materialise ∧
      ∀ day, day ∈ days ↔ (86400 : Int) < 90000 ∧ nightPattern.runsOn day = true
        ∧ Overlaps (nightPattern.envelope day) (86400, 90000) := by
  have hbounds : nightPattern.dayBounds 86400 90000 = (-1, 0) := by decide +kernel
  have hdays (day : Int) (hfrom : -1 ≤ day) (hto : day ≤ 0) : nightPattern.DayOnClock day := by
    have hday : day = -1 ∨ day = 0 := by omega
    rcases hday with rfl | rfl
    · exact ⟨by decide, by decide +kernel, by decide +kernel⟩
    · exact ⟨by decide, by decide +kernel, by decide +kernel⟩
  have h : nightPattern.WithinClock 86400 90000 :=
    ⟨by decide +kernel, by decide +kernel, by decide +kernel, by decide +kernel,
      fun day hfrom hto => hdays day (by rwa [hbounds] at hfrom) (by rwa [hbounds] at hto)⟩
  obtain ⟨days, hsorted, hruns, hexact, -⟩ := runsBetween_exact h
  exact ⟨days, hsorted, hruns, hexact⟩

end ServicePattern

end Zugfolge.Conflict
