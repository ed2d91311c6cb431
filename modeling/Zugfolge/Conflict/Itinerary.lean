/-
Itineraries.

An itinerary is the sequence of tracks a run uses.  It starts and ends in an operating
point and alternates between tracks of operating points and tracks of the line.
-/
import Zugfolge.Conflict.Blocking
import Zugfolge.Infra.Graph

namespace Zugfolge.Conflict

open Infra (Length OperatingGraph Track)

/-- A track in a direction, with the dwell at its end and the route into it. -/
structure ItineraryLeg where
  track : TrackId
  direction : TravelDirection
  dwellS : Int
  route : Option InterlockingRouteId

namespace ItineraryLeg

/-- A leg without dwell and route. -/
def new (track : TrackId) (direction : TravelDirection) : ItineraryLeg :=
  ⟨track, direction, 0, none⟩

/-- Sets the dwell at the end of the leg. -/
def withDwell (leg : ItineraryLeg) (seconds : Int) : ItineraryLeg :=
  { leg with dwellS := seconds }

/-- Binds the leg to a route of the station head. -/
def withRoute (leg : ItineraryLeg) (route : InterlockingRouteId) : ItineraryLeg :=
  { leg with route := some route }

/-- The train stands at the end of the leg. -/
def isStop (leg : ItineraryLeg) : Bool := decide (0 < leg.dwellS)

end ItineraryLeg

/-- A leg whose references are checked against the graph. -/
structure CheckedLeg where
  leg : ItineraryLeg
  length : Length
  start : OperatingPointId
  finish : OperatingPointId
  inStation : Bool
  positive : 0 < length
  bounded : length ≤ Foundation.i64Max
  dwellNonneg : 0 ≤ leg.dwellS

/-- The operating point whose interlocking serves the leg. -/
def CheckedLeg.governingPoint (leg : CheckedLeg) : OperatingPointId := leg.start

/-- A checked sequence of legs, at least one. -/
structure Itinerary where
  legs : List CheckedLeg
  nonempty : legs ≠ []

namespace Itinerary

/-- Where a leg leads from and to; a leg of an operating point has an even place. -/
def endsOf (graph : OperatingGraph) (index : ℕ) (leg : ItineraryLeg) (track : Track) :
    Except ConflictError (OperatingPointId × OperatingPointId × Bool) :=
  match track.owner with
  | .operatingPoint point =>
    if index % 2 ≠ 0 then .error (.misplacedLeg leg.track index) else .ok (point, point, true)
  | .edge edge =>
    if index % 2 = 0 then .error (.misplacedLeg leg.track index)
    else if 0 < leg.dwellS then .error (.dwellOnLine leg.track)
    else match graph.edge edge with
      | none => .error (.unknownTrack leg.track)
      | some edge =>
        .ok (edge.endOf leg.direction.opposite, edge.endOf leg.direction, false)

/-- Checks one leg behind the leg before it. -/
def checkLeg (graph : OperatingGraph) (index : ℕ) (vorher : Option CheckedLeg)
    (leg : ItineraryLeg) : Except ConflictError CheckedLeg :=
  match graph.track leg.track with
  | none => .error (.unknownTrack leg.track)
  | some track =>
    if !track.kind.carriesTrainRuns then .error (.notForTrainRuns leg.track)
    else if !track.direction.allows leg.direction then
      .error (.directionNotAllowed leg.track leg.direction)
    else if hdwell : leg.dwellS < 0 then .error (.negativeDwell leg.dwellS)
    else match endsOf graph index leg track with
      | .error error => .error error
      | .ok (start, finish, inStation) =>
        match vorher.filter fun vorher => vorher.finish ≠ start with
        | some vorher => .error (.disconnected vorher.leg.track leg.track)
        | none =>
          .ok ⟨leg, track.length, start, finish, inStation, track.positive, track.bounded,
            not_lt.mp hdwell⟩

/-- Checks the legs from a place on. -/
def checkLegs (graph : OperatingGraph) :
    ℕ → Option CheckedLeg → List ItineraryLeg → Except ConflictError (List CheckedLeg)
  | _, _, [] => .ok []
  | index, vorher, leg :: legs => do
    let geprueft ← checkLeg graph index vorher leg
    let rest ← checkLegs graph (index + 1) (some geprueft) legs
    pure (geprueft :: rest)

/-- Checks a sequence of legs against the graph. -/
def new (graph : OperatingGraph) (legs : List ItineraryLeg) : Except ConflictError Itinerary :=
  if legs.isEmpty then .error .emptyItinerary
  else match checkLegs graph 0 none legs with
    | .error error => .error error
    | .ok geprueft =>
      if h : geprueft ≠ [] then
        let letzter := geprueft.getLast h
        if !letzter.inStation then
          .error (.misplacedLeg letzter.leg.track (geprueft.length - 1))
        else .ok ⟨geprueft, h⟩
      else .error .emptyItinerary

variable (itinerary : Itinerary)

/-- The operating point the itinerary starts in. -/
def origin : OperatingPointId := (itinerary.legs.head itinerary.nonempty).start

/-- The operating point the itinerary ends in. -/
def destination : OperatingPointId := (itinerary.legs.getLast itinerary.nonempty).finish

def length : Length := itinerary.legs.foldl (fun sum leg => sum.plus leg.length) 0

end Itinerary

end Zugfolge.Conflict
