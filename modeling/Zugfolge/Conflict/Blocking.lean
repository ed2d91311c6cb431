/-
Blocking times.

A blocking time is the half-open span over which one train run holds one conflict
resource.  The blocking times of a run are its staircase.  What is computed once is
relative to the departure; an absolute staircase is the relative one moved to a day.

* `OccupationProfile.firstSecondS`, `BlockingTimeStaircase.firstSecond` and their ends: the
  span that a run holds anything in.
-/
import Zugfolge.Conflict.Resource
import Zugfolge.Foundation.Intervals
import Zugfolge.Infra.Units

namespace Zugfolge.Conflict

open Foundation

/-- An instant, in seconds since the epoch of the world. -/
abbrev SimTime : Type := Int

/-- The instant some seconds later; stops at the bounds of 64 bits. -/
def SimTime.plusSeconds (time : SimTime) (seconds : Int) : SimTime := addSat64 time seconds

/-- The instants that 64 bits can express. -/
def IsInstant (time : SimTime) : Prop := i64Min ≤ time ∧ time ≤ i64Max

instance (time : SimTime) : Decidable (IsInstant time) := inferInstanceAs (Decidable (_ ∧ _))

/-- The direction of a run, seen along the chainage. -/
abbrev TravelDirection : Type := Infra.TravelDirection

/-! ### Absolute blocking times -/

/-- The span over which a run holds one resource, with the bounds of its six phases. -/
structure BlockingTime where
  resource : ConflictResource
  direction : TravelDirection
  governingPoint : OperatingPointId
  start : SimTime
  sighting : SimTime
  approachStart : SimTime
  entry : SimTime
  travelEnd : SimTime
  exit : SimTime
  cleared : SimTime
  finish : SimTime
  deriving DecidableEq

namespace BlockingTime

/-- Start and end of a blocking time; the end no longer belongs to it. -/
def span (time : BlockingTime) : SimTime × SimTime := (time.start, time.finish)

/-- Two blocking times overlap; to touch is no conflict. -/
def overlaps (time other : BlockingTime) : Bool :=
  decide (time.start < other.finish) && decide (other.start < time.finish)

lemma overlaps_iff {time other : BlockingTime} :
    time.overlaps other = true ↔ Overlaps time.span other.span := by
  simp [overlaps, Overlaps, span]

lemma overlaps_eq_false {time other : BlockingTime} :
    time.overlaps other = false ↔ ¬ Overlaps time.span other.span := by
  rw [← overlaps_iff, Bool.not_eq_true]

/-- The start of the overlap of two blocking times. -/
def overlapStart (time other : BlockingTime) : SimTime :=
  if other.start ≤ time.start then time.start else other.start

/-- The same blocking time some seconds later, in all of its phases. -/
def shifted (time : BlockingTime) (seconds : Int) : BlockingTime where
  resource := time.resource
  direction := time.direction
  governingPoint := time.governingPoint
  start := time.start.plusSeconds seconds
  sighting := time.sighting.plusSeconds seconds
  approachStart := time.approachStart.plusSeconds seconds
  entry := time.entry.plusSeconds seconds
  travelEnd := time.travelEnd.plusSeconds seconds
  exit := time.exit.plusSeconds seconds
  cleared := time.cleared.plusSeconds seconds
  finish := time.finish.plusSeconds seconds

end BlockingTime

/-! ### Relative blocking times -/

/-- A blocking time in seconds after the departure. -/
structure RelativeOccupation where
  resource : ConflictResource
  direction : TravelDirection
  governingPoint : OperatingPointId
  startS : Int
  sightingS : Int
  approachStartS : Int
  entryS : Int
  travelEndS : Int
  exitS : Int
  clearedS : Int
  endS : Int

/-- The eight instants of a relative blocking time do not fall. -/
def RelativeOccupation.isOrdered (occupation : RelativeOccupation) : Bool :=
  decide (occupation.startS ≤ occupation.sightingS)
    && decide (occupation.sightingS ≤ occupation.approachStartS)
    && decide (occupation.approachStartS ≤ occupation.entryS)
    && decide (occupation.entryS ≤ occupation.travelEndS)
    && decide (occupation.travelEndS ≤ occupation.exitS)
    && decide (occupation.exitS ≤ occupation.clearedS)
    && decide (occupation.clearedS ≤ occupation.endS)

/-- The relative blocking time at a departure. -/
def RelativeOccupation.«at» (occupation : RelativeOccupation) (departure : SimTime) :
    BlockingTime where
  resource := occupation.resource
  direction := occupation.direction
  governingPoint := occupation.governingPoint
  start := departure.plusSeconds occupation.startS
  sighting := departure.plusSeconds occupation.sightingS
  approachStart := departure.plusSeconds occupation.approachStartS
  entry := departure.plusSeconds occupation.entryS
  travelEnd := departure.plusSeconds occupation.travelEndS
  exit := departure.plusSeconds occupation.exitS
  cleared := departure.plusSeconds occupation.clearedS
  finish := departure.plusSeconds occupation.endS

/-- The blocking times of one run, in the order of the run. -/
structure BlockingTimeStaircase where
  departure : SimTime
  steps : List BlockingTime

namespace BlockingTimeStaircase

variable (staircase : BlockingTimeStaircase)

/-- The first second at which anything is held. -/
def firstSecond : SimTime := (staircase.steps.map BlockingTime.start).min?.getD staircase.departure

/-- The second at which everything has been released. -/
def lastSecond : SimTime := (staircase.steps.map BlockingTime.finish).max?.getD staircase.departure

/-- The same staircase at a departure some seconds later. -/
def shifted (seconds : Int) : BlockingTimeStaircase where
  departure := staircase.departure.plusSeconds seconds
  steps := staircase.steps.map fun step => step.shifted seconds

end BlockingTimeStaircase

/-- The relative occupation of the resources along an itinerary. -/
structure OccupationProfile where
  occupations : List RelativeOccupation

namespace OccupationProfile

variable (profile : OccupationProfile)

/-- The staircase of the profile at a departure. -/
def «at» (departure : SimTime) : BlockingTimeStaircase where
  departure := departure
  steps := profile.occupations.map fun occupation => occupation.«at» departure

/-- The first second after departure at which anything is held. -/
def firstSecondS : Int := (profile.occupations.map RelativeOccupation.startS).min?.getD 0

/-- The second after departure at which everything has been released. -/
def lastSecondS : Int := (profile.occupations.map RelativeOccupation.endS).max?.getD 0

end OccupationProfile

abbrev FrameworkAgreementId : Type := ℕ

/-- What is wrong with a network, an itinerary, an offer or a framework agreement. -/
inductive ConflictError where
  | trainNumberOutOfRange (category : String) (number : ℕ)
  | noOperatingDays
  | negativeDuration (what : String) (seconds : Int)
  | emptyCorridor (agreement : FrameworkAgreementId)
  | invalidCapacityShare (basisPoints : ℕ)
  | duplicateFrameworkAgreement (agreement : FrameworkAgreementId)
  | unknownFrameworkAgreement (agreement : FrameworkAgreementId)
  | frameworkCapacityExceeded (agreement : FrameworkAgreementId) (resource : ConflictResource)
  | nonPositiveLength (what : String) (value : Infra.Length)
  | unknownTrack (track : TrackId)
  | unknownOperatingPoint (point : OperatingPointId)
  | blocksOnStationTrack (track : TrackId)
  | noCompatibleBlock (track : TrackId)
  | emptyItinerary
  | notForTrainRuns (track : TrackId)
  | directionNotAllowed (track : TrackId) (direction : TravelDirection)
  | negativeDwell (seconds : Int)
  | misplacedLeg (track : TrackId) (index : ℕ)
  | dwellOnLine (track : TrackId)
  | disconnected (start finish : TrackId)
  | infra (error : Infra.InfraError)

end Zugfolge.Conflict
