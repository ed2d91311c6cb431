/-
The occupation profile of an itinerary.

Every leg of an itinerary claims the resources of its track, and the route into it.  The
running times give an arrival and a departure at every position where a claim starts or
ends, where an approach begins and where a train has cleared; from these and the signalling
parameters follow the phases of every blocking time.
-/
import Mathlib.Data.List.Destutter
import Zugfolge.Conflict.Infrastructure
import Zugfolge.Conflict.Itinerary
import Zugfolge.Infra.Dynamics

namespace Zugfolge.Conflict

open Infra (Length OperatingGraph Track TrainCharacteristics RunPath Dynamics)
open Foundation Std

/-! ### Claims -/

/-- The claim on a resource, with its place along the itinerary. -/
structure Claim where
  resource : ConflictResource
  direction : TravelDirection
  governingPoint : OperatingPointId
  start : Length
  finish : Length

/-- The claim of a leg on a span of its track. -/
def claimOfSpan (offset : Length) (leg : CheckedLeg) (span : ResourceSpan) : Claim :=
  let ends := match leg.leg.direction with
    | .withChainage => (span.start, span.finish)
    | .againstChainage => (leg.length.minus span.finish, leg.length.minus span.start)
  ⟨span.resource, leg.leg.direction, leg.governingPoint, offset.plus ends.1, offset.plus ends.2⟩

/-- The claim of a leg on the route into it. -/
def claimOfRoute (offset : Length) (leg : CheckedLeg) (route : InterlockingRouteId) : Claim :=
  ⟨.route leg.governingPoint route, leg.leg.direction, leg.governingPoint, offset,
    offset.plus leg.length⟩

variable (infrastructure : Infrastructure)

/-- The claims of a leg that starts at a position. -/
def claimsOfLeg (train : TrainCharacteristics) (offset : Length)
    (leg : CheckedLeg) : Except ConflictError (List Claim) := do
  let spans ← infrastructure.spansOfForTrain leg.leg.track train
  let eigene := (spans.map (claimOfSpan offset leg)).insertionSort fun a b => a.start ≤ b.start
  pure (eigene ++ (leg.leg.route.map (claimOfRoute offset leg)).toList)

/-- The claims of the legs from a position on. -/
def anspruechenFrom (infrastructure : Infrastructure) (train : TrainCharacteristics) :
    Length → List CheckedLeg → Except ConflictError (List Claim)
  | _, [] => .ok []
  | offset, leg :: legs => do
    let eigene ← claimsOfLeg infrastructure train offset leg
    let rest ← anspruechenFrom infrastructure train (offset.plus leg.length) legs
    pure (eigene ++ rest)

/-- The claims of an itinerary. -/
def anspruechen (itinerary : Itinerary)
    (train : TrainCharacteristics) : Except ConflictError (List Claim) :=
  anspruechenFrom infrastructure train 0 itinerary.legs

/-! ### Cuts and halts -/

/-- The positions a claim needs a time for. -/
def cutsOfClaim (train : TrainCharacteristics) (claim : Claim) :
    List Length :=
  let parameter := infrastructure.signalling.«at» claim.governingPoint
  [claim.start, claim.finish, claim.start.minus parameter.approachDistance,
    (claim.finish.plus train.length).plus parameter.overlapLength]

/-- All positions that need a time: the ends of the way and what the claims need between. -/
def schnittpunkte (train : TrainCharacteristics)
    (claims : List Claim) (total : Length) : KeySet Length :=
  ExtTreeSet.ofList (0 :: total :: (claims.flatMap (cutsOfClaim infrastructure train)).filter
    fun position => decide (0 < position) && decide (position < total)) compare

/-- The halts of the legs from a position on, with their dwell. -/
def haltepositionenFrom : Length → List CheckedLeg → List (Length × Int)
  | _, [] => []
  | offset, leg :: legs =>
    let next := offset.plus leg.length
    if 0 < leg.leg.dwellS then (next, leg.leg.dwellS) :: haltepositionenFrom next legs
    else haltepositionenFrom next legs

/-- The positions where the train halts, with their dwell. -/
def haltepositionen (itinerary : Itinerary) : List (Length × Int) :=
  haltepositionenFrom 0 itinerary.legs

/-! ### The path between two halts -/

/-- A range of the itinerary as positions along the chainage of the track. -/
def lokal (direction : TravelDirection) (legStart legLength start finish : Length) :
    Length × Length :=
  match direction with
  | .withChainage => (start.minus legStart, finish.minus legStart)
  | .againstChainage =>
    (legLength.minus (finish.minus legStart), legLength.minus (start.minus legStart))

/-- Adds the range between two neighbouring cuts of a leg that starts at a position. -/
def pushPaar (train : TrainCharacteristics) (track : Track) (offset : Length) (leg : CheckedLeg)
    (pfad : RunPath) (paar : Length × Length) : Except ConflictError RunPath :=
  let bereich := lokal leg.leg.direction offset leg.length paar.1 paar.2
  match pfad.pushTrackRange train track leg.leg.direction bereich.1 bereich.2 with
  | .ok pfad => .ok pfad
  | .error error => .error (.infra error)

/-- Adds the part of a leg that lies between two positions, cut at all given positions. -/
def fahrwegLeg (train : TrainCharacteristics)
    (schnitte : KeySet Length) (von bis offset : Length) (leg : CheckedLeg) (pfad : RunPath) :
    Except ConflictError RunPath :=
  let legBis := offset.plus leg.length
  let lo := if von < offset then offset else von
  let hi := if legBis < bis then legBis else bis
  if hi ≤ lo then .ok pfad
  else do
    let punkte := (lo :: (schnitte.toList.filter fun punkt =>
      decide (lo < punkt) && decide (punkt < hi)) ++ [hi]).destutter (· ≠ ·)
    let track ← infrastructure.track leg.leg.track
    (punkte.zip punkte.tail).foldlM (pushPaar train track offset leg) pfad

/-- The path over the legs from a position on. -/
def fahrwegFrom (infrastructure : Infrastructure) (train : TrainCharacteristics)
    (schnitte : KeySet Length) (von bis : Length) :
    Length → List CheckedLeg → RunPath → Except ConflictError RunPath
  | _, [], pfad => .ok pfad
  | offset, leg :: legs, pfad => do
    let pfad ← fahrwegLeg infrastructure train schnitte von bis offset leg pfad
    fahrwegFrom infrastructure train schnitte von bis (offset.plus leg.length) legs pfad

/-- The path between two positions. -/
def fahrweg (itinerary : Itinerary)
    (train : TrainCharacteristics) (schnitte : KeySet Length) (von bis : Length) :
    Except ConflictError RunPath :=
  fahrwegFrom infrastructure train schnitte von bis 0 itinerary.legs []

/-! ### The timeline -/

/-- Arrival and departure of the head of the train at every cut, in seconds after the
departure, with the halts. -/
structure Timeline where
  arrival : Registry Length Int
  departure : Registry Length Int
  stops : List (Length × Int)

namespace Timeline

variable (timeline : Timeline)

/-- When the head reaches a position; between two cuts the time of the cut before. -/
def arrivalAt (position : Length) : Int :=
  match timeline.arrival[position]? with
  | some zeit => zeit
  | none =>
    ((timeline.arrival.toList.filter fun entry => decide (entry.1 ≤ position)).getLast?.map
      Prod.snd).getD 0

/-- When the head leaves a position. -/
def departureAt (position : Length) : Int :=
  match timeline.departure[position]? with
  | some zeit => zeit
  | none => timeline.arrivalAt position

/-- When the train last started to move before a position. -/
def motionStart (position : Length) : Int :=
  match (timeline.stops.filter fun halt => decide (halt.1 ≤ position)).getLast? with
  | some halt => timeline.departureAt halt.1
  | none => 0

end Timeline

/-- The boundaries of the stretches between the halts. -/
def grenzen (halte : List (Length × Int)) (total : Length) : List Length :=
  let innere := 0 :: halte.map Prod.fst
  if innere.getLast? = some total then innere else innere ++ [total]

/-- The timeline while it is built, with the time at the end of the last stretch. -/
structure Zeitstand where
  arrival : Registry Length Int
  departure : Registry Length Int
  abschnittsbeginn : Int

namespace Zeitstand

/-- Nothing but the departure. -/
def start : Zeitstand :=
  ⟨(∅ : Registry Length Int).insert 0 0, (∅ : Registry Length Int).insert 0 0, 0⟩

/-- Enters a time at a position: the first arrival stays, the last departure counts. -/
def merke (stand : Zeitstand) (position : Length) (ankunft abfahrt : Int) : Zeitstand :=
  { stand with
    arrival := stand.arrival.insertIfNew position ankunft
    departure := stand.departure.insert position abfahrt }

/-- Enters the table of a stretch and the dwell at its end. -/
def anfuegen (stand : Zeitstand) (halte : List (Length × Int)) (von bis : Length)
    (tabelle : List Infra.RunningTimeCheckpoint) : Zeitstand :=
  let begonnen := stand.abschnittsbeginn
  let gefahren := tabelle.foldl (fun stand checkpoint =>
    let zeit := addSat64 begonnen checkpoint.elapsed
    stand.merke (von.plus checkpoint.position) zeit zeit) stand
  let ankunft := addSat64 begonnen (Infra.runningTimeTotal tabelle)
  let haltezeit := ((halte.find? fun halt => halt.1 = bis).map Prod.snd).getD 0
  { gefahren.merke bis ankunft (addSat64 ankunft haltezeit) with
    abschnittsbeginn := addSat64 ankunft haltezeit }

end Zeitstand

/-- Runs one stretch between two halts. -/
def abschnitt (dynamics : Dynamics) (infrastructure : Infrastructure) (itinerary : Itinerary)
    (train : TrainCharacteristics) (schnitte : KeySet Length) (halte : List (Length × Int))
    (stand : Zeitstand) (fenster : Length × Length) : Except ConflictError Zeitstand :=
  if fenster.2 ≤ fenster.1 then .ok stand
  else do
    let pfad ← fahrweg infrastructure itinerary train schnitte fenster.1 fenster.2
    match Infra.deriveRunningTimeTableWithExit dynamics pfad train 0 0 with
    | .ok tabelle => pure (stand.anfuegen halte fenster.1 fenster.2 tabelle)
    | .error error => .error (.infra error)

/-- The timeline of a run: a table for every stretch between two halts, one behind the
other. -/
def zeitachse (dynamics : Dynamics) (infrastructure : Infrastructure) (itinerary : Itinerary)
    (train : TrainCharacteristics) (schnitte : KeySet Length) (halte : List (Length × Int)) :
    Except ConflictError Timeline := do
  let punkte := grenzen halte itinerary.length
  let stand ← (punkte.zip punkte.tail).foldlM
    (abschnitt dynamics infrastructure itinerary train schnitte halte) Zeitstand.start
  pure ⟨stand.arrival, stand.departure, halte⟩

/-! ### The profile -/

/-- Arrival and departure at an operating point, in seconds after the departure. -/
structure RelativeStationCall where
  station : OperatingPointId
  arrivalS : Int
  departureS : Int

/-- The profile of an itinerary, with its running time, its length and its station calls. -/
structure ItineraryProfile extends OccupationProfile where
  runningTimeS : Int
  length : Length
  stationCalls : List RelativeStationCall

/-- The phases of the blocking time of one claim. -/
def occupationOf (infrastructure : Infrastructure) (train : TrainCharacteristics)
    (timeline : Timeline) (total : Length) (claim : Claim) : RelativeOccupation :=
  let parameter := infrastructure.signalling.«at» claim.governingPoint
  let exitS := timeline.departureAt claim.finish
  -- the train does not leave its way: the last resource is not cleared but kept to the end
  let clearedS := if total ≤ claim.finish then exitS
    else
      let raeumweg := (claim.finish.plus train.length).plus parameter.overlapLength
      max exitS (timeline.arrivalAt (if total < raeumweg then total else raeumweg))
  let vorsignal := claim.start.minus parameter.approachDistance
  let annaeherung := if vorsignal < 0 then 0 else vorsignal
  let approachStartS :=
    max (timeline.arrivalAt annaeherung) (timeline.motionStart claim.start)
  let sightingS := subSat64 approachStartS parameter.signalSightingTimeS
  { resource := claim.resource
    direction := claim.direction
    governingPoint := claim.governingPoint
    startS := subSat64 sightingS parameter.routeSettingTimeS
    sightingS := sightingS
    approachStartS := approachStartS
    entryS := timeline.departureAt claim.start
    travelEndS := timeline.arrivalAt claim.finish
    exitS := exitS
    clearedS := clearedS
    endS := addSat64 clearedS parameter.routeReleaseTimeS }

/-- The station calls of the legs from a place and a position on. -/
def stationCallsFrom (timeline : Timeline) :
    ℕ → Length → List CheckedLeg → List RelativeStationCall
  | _, _, [] => []
  | index, offset, leg :: legs =>
    let position := offset.plus leg.length
    let rest := stationCallsFrom timeline (index + 1) position legs
    if 0 < index ∧ leg.inStation = true then
      ⟨leg.finish, timeline.arrivalAt position, timeline.departureAt position⟩ :: rest
    else rest

/-- The timeline of an itinerary, cut where its claims need it. -/
def timelineOf (dynamics : Dynamics) (infrastructure : Infrastructure) (itinerary : Itinerary)
    (train : TrainCharacteristics) (claims : List Claim) : Except ConflictError Timeline :=
  zeitachse dynamics infrastructure itinerary train
    (schnittpunkte infrastructure train claims itinerary.length) (haltepositionen itinerary)

/-- The relative occupation profile of an itinerary. -/
def deriveOccupationProfile (dynamics : Dynamics) (infrastructure : Infrastructure)
    (itinerary : Itinerary) (train : TrainCharacteristics) :
    Except ConflictError ItineraryProfile := do
  let claims ← anspruechen infrastructure itinerary train
  let timeline ← timelineOf dynamics infrastructure itinerary train claims
  pure
    { occupations :=
        claims.map (occupationOf infrastructure train timeline itinerary.length)
      runningTimeS := timeline.arrivalAt itinerary.length
      length := itinerary.length
      stationCalls :=
        ⟨itinerary.origin, 0, 0⟩ :: stationCallsFrom timeline 0 0 itinerary.legs }

end Zugfolge.Conflict
