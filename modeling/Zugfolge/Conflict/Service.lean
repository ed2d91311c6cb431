/-
Recurring traffic.

A service pattern is one offer: a train number, a relative profile, a time of departure
and the weekdays it runs on.  The run of one day is made from it on demand.
-/
import Zugfolge.Conflict.Blocking

namespace Zugfolge.Conflict

open Foundation Std

def secondsPerDay : Int := 86400

/-! ### Train numbers -/

inductive TrainCategory where
  | longDistance
  | suburban
  | regional
  | freight
  | supplementary

/-- The name of a category in reports. -/
def TrainCategory.tag : TrainCategory → String
  | longDistance => "long-distance"
  | suburban => "suburban"
  | regional => "regional"
  | freight => "freight"
  | supplementary => "supplementary"

/-- The numbers of a category, both bounds included. -/
def TrainCategory.range : TrainCategory → ℕ × ℕ
  | longDistance => (1, 9999)
  | suburban => (10000, 19999)
  | regional => (20000, 39999)
  | freight => (40000, 79999)
  | supplementary => (80000, 99999)

/-- The number lies in the range of the category. -/
def TrainCategory.covers (category : TrainCategory) (number : ℕ) : Prop :=
  category.range.1 ≤ number ∧ number ≤ category.range.2

instance (category : TrainCategory) (number : ℕ) : Decidable (category.covers number) :=
  inferInstanceAs (Decidable (_ ∧ _))

/-- A train number within the range of a category. -/
structure TrainNumber where
  value : ℕ
  inRange : ∃ category : TrainCategory, category.covers value

namespace TrainNumber

@[ext] lemma ext {a b : TrainNumber} (h : a.value = b.value) : a = b := by
  cases a
  cases b
  cases h
  rfl

instance : DecidableEq TrainNumber := fun a b =>
  decidable_of_iff (a.value = b.value) ⟨TrainNumber.ext, congrArg TrainNumber.value⟩

instance : Ord TrainNumber where
  compare := compareOn TrainNumber.value

instance : TransOrd TrainNumber := inferInstanceAs (TransCmp (compareOn TrainNumber.value))

instance : LawfulEqOrd TrainNumber where
  eq_of_compare {a b} h := by
    have h' : compareOn TrainNumber.value a b = .eq := h
    exact TrainNumber.ext (Std.compare_eq_iff_eq.mp h')

/-- Checks a number against the range of its category. -/
def new (category : TrainCategory) (number : ℕ) : Except ConflictError TrainNumber :=
  if h : category.covers number then .ok ⟨number, category, h⟩
  else .error (.trainNumberOutOfRange category.tag number)

end TrainNumber

/-! ### Days -/

/-- A day of the week. -/
inductive Weekday where
  | monday
  | tuesday
  | wednesday
  | thursday
  | friday
  | saturday
  | sunday

namespace Weekday

/-- The weekday of a day counted from the epoch, which is a Monday. -/
def ofDay (day : Int) : Weekday :=
  match day % 7 with
  | 0 => monday
  | 1 => tuesday
  | 2 => wednesday
  | 3 => thursday
  | 4 => friday
  | 5 => saturday
  | _ => sunday

/-- The place of a weekday in the mask of the operating days. -/
def bit : Weekday → ℕ
  | monday => 1
  | tuesday => 2
  | wednesday => 4
  | thursday => 8
  | friday => 16
  | saturday => 32
  | sunday => 64

end Weekday

/-- The weekdays a pattern runs on, at least one. -/
structure OperatingDays where
  mask : ℕ
  someDay : mask ≠ 0

namespace OperatingDays

/-- Every day. -/
def daily : OperatingDays := ⟨127, by decide⟩

/-- The operating days of a list of weekdays. -/
def fromDays (days : List Weekday) : Except ConflictError OperatingDays :=
  let mask := days.foldl (fun mask day => mask ||| day.bit) 0
  if h : mask ≠ 0 then .ok ⟨mask, h⟩ else .error .noOperatingDays

/-- The pattern runs on this weekday. -/
def contains (days : OperatingDays) (day : Weekday) : Bool := days.mask &&& day.bit != 0

/-- The pattern runs on the day with this number. -/
def containsDay (days : OperatingDays) (day : Int) : Bool := days.contains (Weekday.ofDay day)

end OperatingDays

/-- A half-open window of departures, neither empty nor before the epoch. -/
structure ServiceWindow where
  validFrom : SimTime
  validUntil : SimTime
  fromEpoch : 0 ≤ validFrom
  nonempty : validFrom < validUntil

namespace ServiceWindow

/-- Checks the bounds of a window. -/
def new (validFrom validUntil : SimTime) : Except ConflictError ServiceWindow :=
  if h : 0 ≤ validFrom ∧ validFrom < validUntil then .ok ⟨validFrom, validUntil, h.1, h.2⟩
  else .error (.negativeDuration "absolutes Abfahrtsfenster" (subSat64 validUntil validFrom))

/-- The departure lies in the window. -/
def contains (window : ServiceWindow) (departure : SimTime) : Bool :=
  decide (window.validFrom ≤ departure) && decide (departure < window.validUntil)

end ServiceWindow

/-! ### Runs -/

/-- The name of a run: its train number and its departure. -/
structure RunReference where
  number : TrainNumber
  departure : SimTime
  deriving DecidableEq

namespace RunReference

instance : Ord RunReference where
  compare := compareLex (compareOn RunReference.number) (compareOn RunReference.departure)

instance : TransOrd RunReference :=
  inferInstanceAs (TransCmp (compareLex (compareOn RunReference.number)
    (compareOn RunReference.departure)))

instance : LawfulEqOrd RunReference :=
  lawfulEq_of_lex fun ⟨_, _⟩ ⟨_, _⟩ => by simp_all [compareOn]

end RunReference

structure TrainRun where
  number : TrainNumber
  departure : SimTime
  staircase : BlockingTimeStaircase

/-- The name of a run in the ledger. -/
def TrainRun.reference (run : TrainRun) : RunReference := ⟨run.number, run.departure⟩

/-- The same run some seconds later. -/
def TrainRun.shifted (run : TrainRun) (seconds : Int) : TrainRun where
  number := run.number
  departure := run.departure.plusSeconds seconds
  staircase := run.staircase.shifted seconds

/-! ### Patterns -/

/-- A recurring offer. -/
structure ServicePattern where
  number : TrainNumber
  profile : OccupationProfile
  departureTimeS : Int
  operatingDays : OperatingDays
  serviceWindow : Option ServiceWindow
  departsWithinDay : 0 ≤ departureTimeS ∧ departureTimeS < secondsPerDay

namespace ServicePattern

/-- Checks the time of departure of an offer. -/
def new (number : TrainNumber) (profile : OccupationProfile) (departureTimeS : Int)
    (operatingDays : OperatingDays) : Except ConflictError ServicePattern :=
  if h : 0 ≤ departureTimeS ∧ departureTimeS < secondsPerDay then
    .ok ⟨number, profile, departureTimeS, operatingDays, none, h⟩
  else .error (.negativeDuration "Abfahrtszeit als Sekunde des Tages" departureTimeS)

/-- Limits the offer to a window of departures. -/
def withServiceWindow (pattern : ServicePattern) (window : ServiceWindow) : ServicePattern :=
  { pattern with serviceWindow := some window }

variable (pattern : ServicePattern)

/-- The departure on the day with this number. -/
def departureOn (day : Int) : SimTime :=
  addSat64 (mulSat64 day secondsPerDay) pattern.departureTimeS

/-- The pattern runs on the day with this number. -/
def runsOn (day : Int) : Bool :=
  pattern.operatingDays.containsDay day &&
    match pattern.serviceWindow with
    | none => true
    | some window => window.contains (pattern.departureOn day)

/-- The run of a day, if the pattern runs on it. -/
def materialise (day : Int) : Option TrainRun :=
  if pattern.runsOn day then
    some ⟨pattern.number, pattern.departureOn day, pattern.profile.«at» (pattern.departureOn day)⟩
  else none

variable {pattern}

lemma materialise_number {day : Int} {run : TrainRun} (h : pattern.materialise day = some run) :
    run.number = pattern.number := by
  rw [materialise] at h
  split at h
  · cases h
    rfl
  · cases h

lemma materialise_departure {day : Int} {run : TrainRun}
    (h : pattern.materialise day = some run) : run.departure = pattern.departureOn day := by
  rw [materialise] at h
  split at h
  · cases h
    rfl
  · cases h

end ServicePattern

/-! ### Offers at a station head -/

namespace StationHead

/-- A profile that holds one resource from `startS` to `endS` seconds after departure. -/
def profile (resource : ConflictResource) (startS endS : Int) : OccupationProfile :=
  ⟨[⟨resource, .withChainage, 3, startS, startS, startS, startS, endS, endS, endS, endS⟩]⟩

/-- The regional train with the given number within its range. -/
def number (offset : ℕ) : TrainNumber :=
  ⟨20000 + offset % 20000, .regional, by
    have := offset.mod_lt (show 0 < 20000 by decide)
    simp only [TrainCategory.covers, TrainCategory.range]
    omega⟩

/-- One run over one resource. -/
def run (offset : ℕ) (departure : SimTime) (resource : ConflictResource)
    (startS endS : Int) : TrainRun :=
  ⟨number offset, departure, (profile resource startS endS).«at» departure⟩

/-- A daily offer over one resource, leaving some seconds after midnight. -/
def pattern (offset departureTimeS : ℕ) (resource : ConflictResource)
    (startS endS : Int) : ServicePattern :=
  ⟨number offset, profile resource startS endS, (departureTimeS % 86400 : ℕ), .daily, none, by
    have := departureTimeS.mod_lt (show 0 < 86400 by decide)
    simp only [secondsPerDay]
    omega⟩

end StationHead

end Zugfolge.Conflict
