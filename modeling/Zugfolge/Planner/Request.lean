/-
Path requests.

A request names a train, its stops and the time it wishes to leave at, and says how far the
planner may deviate from that.  Boundary windows bind it to a run outside of the region.

* `PathTolerances.allowsShift_of_mem`: a shift that is tried is an admissible one.
-/
import Zugfolge.Conflict.Service
import Zugfolge.Infra.Train

namespace Zugfolge.Planner

open Conflict (OperatingPointId ConflictError)

abbrev PathRequestId : Type := UInt32

abbrev AdHocPathId : Type := ℕ

/-- What is wrong with a request or with its treatment. -/
inductive PlannerError where
  | trivialRequest (point : OperatingPointId)
  | duplicateStop (point : OperatingPointId)
  | invalidViaPoints (detail : String)
  | invalidTolerance (what : String) (value : Int)
  | invalidBoundaryWindow (detail : String)
  | noRoute (origin destination : OperatingPointId)
  | unservableStop (point : OperatingPointId)
  | conflict (error : ConflictError)
  | duplicateRequest (request : PathRequestId)
  | unknownRequest (request : PathRequestId)
  | objectionWindowClosed
  | notYetCoordinated
  | invalidPeriodLength (days : Int)
  | unknownAdHocPath (path : AdHocPathId)

open Conflict (OperatingPointId SimTime TrainNumber OperatingDays ServiceWindow)
open Foundation
open Infra (TrainCharacteristics)

/-! ### Stops -/

/-- A stop with the least time the train stands there. -/
structure RequestedStop where
  point : OperatingPointId
  minimumDwellS : Int
  dwellNonneg : 0 ≤ minimumDwellS

/-- Checks the dwell of a stop. -/
def RequestedStop.new (point : OperatingPointId) (minimumDwellS : Int) :
    Except PlannerError RequestedStop :=
  if h : 0 ≤ minimumDwellS then .ok ⟨point, minimumDwellS, h⟩
  else .error (.invalidTolerance "Mindesthaltezeit" minimumDwellS)

/-! ### Deviations -/

/-- How far an offer may deviate from its request. -/
structure PathTolerances where
  earlierS : Int
  laterS : Int
  stepS : Int
  extraRunningTimeS : Int
  maxOperationalStops : ℕ
  earlierNonneg : 0 ≤ earlierS
  laterNonneg : 0 ≤ laterS
  stepPositive : 0 < stepS
  extraNonneg : 0 ≤ extraRunningTimeS

namespace PathTolerances

/-- The wished path or none. -/
def exact : PathTolerances :=
  ⟨0, 0, 60, 0, 0, le_rfl, le_rfl, by decide, le_rfl⟩

/-- Checks the deviations. -/
def new (earlierS laterS stepS extraRunningTimeS : Int) (maxOperationalStops : ℕ) :
    Except PlannerError PathTolerances :=
  if hearlier : 0 ≤ earlierS then
    if hlater : 0 ≤ laterS then
      if hextra : 0 ≤ extraRunningTimeS then
        if hstep : 0 < stepS then
          .ok ⟨earlierS, laterS, stepS, extraRunningTimeS, maxOperationalStops, hearlier, hlater,
            hstep, hextra⟩
        else .error (.invalidTolerance "Raster der Zeitlagen" stepS)
      else .error (.invalidTolerance "zulässige Fahrzeitverlängerung" extraRunningTimeS)
    else .error (.invalidTolerance "zulässige spätere Lage" laterS)
  else .error (.invalidTolerance "zulässige frühere Lage" earlierS)

variable (tolerances : PathTolerances)

def allowsShift (shiftS : Int) : Bool :=
  decide (-tolerances.earlierS ≤ shiftS) && decide (shiftS ≤ tolerances.laterS)

/-- The shifts of an amount, the earlier one first. -/
def shiftsOf (betrag : Int) : List Int :=
  (if betrag ≤ tolerances.earlierS then [-betrag] else []) ++
    if betrag ≤ tolerances.laterS then [betrag] else []

/-- The shifts from an amount on, up to the greatest one. -/
def shiftsFrom : ℕ → Int → List Int
  | 0, _ => []
  | rounds + 1, betrag =>
    if betrag ≤ max tolerances.earlierS tolerances.laterS then
      tolerances.shiftsOf betrag ++ shiftsFrom rounds (addSat64 betrag tolerances.stepS)
    else []

/-- The shifts in the order in which they are tried.  The source adds the step until the sum
passes the greatest shift, which takes this number of rounds; where the greatest shift is the
last value of the clock the sum stops there and the source does not return. -/
def shifts : List Int :=
  0 :: tolerances.shiftsFrom
    (max tolerances.earlierS tolerances.laterS / tolerances.stepS).toNat tolerances.stepS

end PathTolerances

/-! ### Boundary windows -/

/-- The side of a run that a window binds. -/
inductive BoundaryDirection where
  | entry
  | exit
  deriving DecidableEq

/-- The order in which windows are looked at. -/
def BoundaryDirection.rank : BoundaryDirection → ℕ
  | entry => 0
  | exit => 1

/-- A window at a portal of the region. -/
structure BoundaryPlanningWindow where
  id : String
  portalId : String
  direction : BoundaryDirection
  earliest : SimTime
  target : SimTime
  latest : SimTime
  ordered : earliest ≤ target ∧ target ≤ latest

namespace BoundaryPlanningWindow

/-- Checks the names and the times of a window. -/
def new (id portalId : String) (direction : BoundaryDirection)
    (earliest target latest : SimTime) : Except PlannerError BoundaryPlanningWindow :=
  if Text.isBlank id || Text.isBlank portalId then
    .error (.invalidBoundaryWindow "Kennung und Grenzportal duerfen nicht leer sein")
  else if h : earliest ≤ target ∧ target ≤ latest then
    .ok ⟨id, portalId, direction, earliest, target, latest, h⟩
  else .error (.invalidBoundaryWindow "frueheste, Ziel- und spaeteste Zeit sind nicht monoton")

variable (window : BoundaryPlanningWindow)

/-- The time that the window is about. -/
def appliesTo (departure arrival : SimTime) : SimTime :=
  match window.direction with
  | .entry => departure
  | .exit => arrival

/-- The run keeps the connection. -/
def allows (departure arrival : SimTime) : Bool :=
  let actual := window.appliesTo departure arrival
  decide (window.earliest ≤ actual) && decide (actual ≤ window.latest)

/-- What a run is told that misses the connection. -/
def explainViolation (departure arrival : SimTime) : Option String :=
  let actual := window.appliesTo departure arrival
  if window.allows departure arrival then none
  else
    let direction := match window.direction with
      | .entry => "Einfahrt"
      | .exit => "Ausfahrt"
    some (direction ++ " am Grenzportal '" ++ window.portalId ++ "' liegt bei "
      ++ toString actual ++ " s; zulaessig sind " ++ toString window.earliest ++ " bis "
      ++ toString window.latest ++ " s (GTFS-Ziel " ++ toString window.target ++ " s)")

end BoundaryPlanningWindow

/-! ### Requests -/

/-- The most points a request may name between its ends. -/
def maxViaPoints : ℕ := 510

/-- The first stop that is named again later. -/
def doppelterHalt : List RequestedStop → Option OperatingPointId
  | [] => none
  | halt :: stops =>
    if stops.any fun andere => andere.point = halt.point then some halt.point
    else doppelterHalt stops

lemma nodup_of_doppelterHalt {stops : List RequestedStop} (h : doppelterHalt stops = none) :
    (stops.map RequestedStop.point).Nodup := by
  induction stops with
  | nil => exact List.nodup_nil
  | cons halt stops ih =>
    rw [doppelterHalt] at h
    split at h
    · cases h
    next hnone =>
      refine List.nodup_cons.mpr ⟨fun hin => hnone ?_, ih h⟩
      obtain ⟨andere, hstop, heq⟩ := List.mem_map.mp hin
      exact List.any_eq_true.mpr ⟨andere, hstop, decide_eq_true heq⟩

/-- A path request between two different operating points. -/
structure PathRequest where
  id : PathRequestId
  number : TrainNumber
  train : TrainCharacteristics
  origin : OperatingPointId
  destination : OperatingPointId
  stops : List RequestedStop
  viaPoints : List OperatingPointId
  desiredDeparture : SimTime
  operatingDays : OperatingDays
  tolerances : PathTolerances
  boundaryWindows : List BoundaryPlanningWindow
  serviceWindow : Option ServiceWindow
  leadsAway : origin ≠ destination
  stopsOnce : (stops.map RequestedStop.point).Nodup

namespace PathRequest

/-- Checks the ends and the stops of a request. -/
def new (id : PathRequestId) (number : TrainNumber) (train : TrainCharacteristics)
    (origin destination : OperatingPointId) (stops : List RequestedStop)
    (desiredDeparture : SimTime) (operatingDays : OperatingDays) (tolerances : PathTolerances) :
    Except PlannerError PathRequest :=
  if hends : origin = destination then .error (.trivialRequest origin)
  else match hstops : doppelterHalt stops with
    | some point => .error (.duplicateStop point)
    | none =>
      .ok ⟨id, number, train, origin, destination, stops, [], desiredDeparture, operatingDays,
        tolerances, [], none, hends, nodup_of_doppelterHalt hstops⟩

variable (request : PathRequest)

/-- What is wrong with the points of a request, those before them being known. -/
def viaPointsFault : List OperatingPointId → List OperatingPointId → Option String
  | _, [] => none
  | seen, point :: points =>
    if point = request.origin ∨ point = request.destination then
      some "Anfang und Ziel stehen getrennt von den Zwischenpunkten"
    else if point ∈ seen then
      some "eine Betriebsstelle ist mehrfach als Zwischenpunkt genannt"
    else viaPointsFault (point :: seen) points

/-- Binds the way to points in their order. -/
def withViaPoints (points : List OperatingPointId) : Except PlannerError PathRequest :=
  if maxViaPoints < points.length then
    .error (.invalidViaPoints "höchstens 510 Zwischenpunkte sind zulässig")
  else match request.viaPointsFault [] points with
    | some detail => .error (.invalidViaPoints detail)
    | none => .ok { request with viaPoints := points }

/-- Limits the request to a window of departures. -/
def withServiceWindow (window : ServiceWindow) : Except PlannerError PathRequest :=
  if !window.contains request.desiredDeparture then
    .error (.invalidTolerance "Wunschabfahrt außerhalb des Abfahrtsfensters"
      request.desiredDeparture)
  else .ok { request with serviceWindow := some window }

/-- Binds the request to boundary windows, at most one for each side. -/
def withBoundaryWindows (windows : List BoundaryPlanningWindow) :
    Except PlannerError PathRequest :=
  let windows := windows.insertionSort fun a b => a.direction.rank ≤ b.direction.rank
  if (windows.zip windows.tail).any fun pair => pair.1.direction = pair.2.direction then
    .error (.invalidBoundaryWindow "je Ein- und Ausfahrt ist nur ein Fenster zulaessig")
  else .ok { request with boundaryWindows := windows }

/-- The stop at an operating point. -/
def stopAt (point : OperatingPointId) : Option RequestedStop :=
  request.stops.find? fun halt => halt.point = point

/-- What is wrong with a departure and an arrival. -/
def boundaryViolation (departure arrival : SimTime) : Option String :=
  if request.serviceWindow.any fun window => !window.contains departure then
    some "Abfahrt liegt außerhalb des autorisierten absoluten Zeitfensters"
  else request.boundaryWindows.findSome? fun window => window.explainViolation departure arrival

end PathRequest

/-! ### The shifts that are tried -/

namespace PathTolerances

variable {tolerances : PathTolerances}

lemma allowsShift_of_mem_shiftsOf {betrag shift : Int} (hbetrag : 0 ≤ betrag)
    (h : shift ∈ tolerances.shiftsOf betrag) : tolerances.allowsShift shift = true := by
  have hearlier := tolerances.earlierNonneg
  have hlater := tolerances.laterNonneg
  rw [allowsShift, Bool.and_eq_true, decide_eq_true_eq, decide_eq_true_eq]
  rw [shiftsOf, List.mem_append] at h
  rcases h with h | h
  · split at h
    · rw [List.mem_singleton.mp h]
      omega
    · cases h
  · split at h
    · rw [List.mem_singleton.mp h]
      omega
    · cases h

/-- A shift that is tried is an admissible one. -/
theorem allowsShift_of_mem {shift : Int} (h : shift ∈ tolerances.shifts) :
    tolerances.allowsShift shift = true := by
  have hstep := tolerances.stepPositive
  have hfrom : ∀ (rounds : ℕ) (betrag : Int), 0 ≤ betrag →
      shift ∈ tolerances.shiftsFrom rounds betrag → tolerances.allowsShift shift = true := by
    intro rounds
    induction rounds with
    | zero => exact fun _ _ hin => absurd hin (List.not_mem_nil)
    | succ rounds ih =>
      intro betrag hbetrag hin
      rw [shiftsFrom] at hin
      split at hin
      · rcases List.mem_append.mp hin with hin | hin
        · exact allowsShift_of_mem_shiftsOf hbetrag hin
        · refine ih (addSat64 betrag tolerances.stepS) ?_ hin
          unfold addSat64 clamp64 i64Min i64Max
          omega
      · cases hin
  rcases List.mem_cons.mp h with rfl | h
  · have hearlier := tolerances.earlierNonneg
    have hlater := tolerances.laterNonneg
    simp only [allowsShift, Bool.and_eq_true, decide_eq_true_eq]
    omega
  · exact hfrom _ _ hstep.le h

end PathTolerances

end Zugfolge.Planner
