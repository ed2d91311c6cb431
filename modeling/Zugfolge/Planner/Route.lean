/-
The itineraries of a request.

A request names operating points; which tracks the train takes is open.  First the sequences of
operating points are listed, shortest first, then for every sequence the combinations of tracks
up to a limit.
-/
import Zugfolge.Conflict.Itinerary
import Zugfolge.Planner.Request

namespace Zugfolge.Planner

open Conflict (OperatingPointId TrackId TravelDirection ItineraryLeg Itinerary)
open Infra (Length OperatingGraph TrackEdgeId TrackOwner)

/-- The most operating points of a sequence. -/
def maxPoints : ℕ := 64

/-- The most sequences the search collects. -/
def maxPointSequences : ℕ := 16

/-- The most parts of a sequence the search looks at. -/
def maxExpansions : ℕ := 50000

/-! ### Sequences of operating points -/

/-- A part of a sequence, last point first, with the number of named points it has met. -/
abbrev Teilweg : Type := List OperatingPointId × ℕ

/-- The ways to go on to a neighbour: never back to a point, and to the named points in their
order, all of them before the destination. -/
def weiterNach (request : PathRequest) (teilweg : Teilweg) (nachbar : OperatingPointId) :
    Option Teilweg :=
  if nachbar ∈ teilweg.1 then none
  else
    let followingVia := match request.viaPoints.findIdx? fun point => point = nachbar with
      | some index => if index ≠ teilweg.2 then none else some (teilweg.2 + 1)
      | none => some teilweg.2
    match followingVia with
    | none => none
    | some followingVia =>
      if nachbar = request.destination ∧ followingVia ≠ request.viaPoints.length then none
      else some (nachbar :: teilweg.1, followingVia)

/-- The breadth-first search: the sequences found, in the order in which they were found. -/
def punktfolgenFrom (graph : OperatingGraph) (request : PathRequest) (grenze : ℕ) :
    ℕ → List Teilweg → List (List OperatingPointId) → List (List OperatingPointId)
  | 0, _, gefunden => gefunden
  | _, [], gefunden => gefunden
  | expansions + 1, teilweg :: warteschlange, gefunden =>
    match teilweg.1 with
    | [] => punktfolgenFrom graph request grenze expansions warteschlange gefunden
    | aktuell :: _ =>
      if aktuell = request.destination then
        if teilweg.2 = request.viaPoints.length ∧
            ∀ halt ∈ request.stops, halt.point ∈ teilweg.1 then
          let gefunden := gefunden ++ [teilweg.1.reverse]
          if maxPointSequences ≤ gefunden.length then gefunden
          else punktfolgenFrom graph request grenze expansions warteschlange gefunden
        else punktfolgenFrom graph request grenze expansions warteschlange gefunden
      else if grenze ≤ teilweg.1.length then
        punktfolgenFrom graph request grenze expansions warteschlange gefunden
      else
        punktfolgenFrom graph request grenze expansions
          (warteschlange ++ (graph.neighbours aktuell).filterMap (weiterNach request teilweg))
          gefunden

/-- The shortest sequences from the origin to the destination that meet all stops and the
named points in their order; shorter ones first, then by the numbers of their points. -/
def punktfolgen (graph : OperatingGraph) (request : PathRequest) : List (List OperatingPointId) :=
  if request.viaPoints.any fun point => (graph.operatingPoint point).isNone then []
  else
    let grenze := if request.viaPoints.isEmpty then maxPoints else maxViaPoints + 2
    (punktfolgenFrom graph request grenze maxExpansions [([request.origin], 0)] []).insertionSort
      fun a b => a.length < b.length ∨ a.length = b.length ∧ a ≤ b

/-! ### Tracks to choose from -/

/-- The tracks that can be taken at a place of a sequence. -/
structure Choice where
  tracks : List TrackId
  direction : TravelDirection
  dwellS : Int

/-- The edge between two neighbouring operating points and the direction along it. -/
def richtungZwischen (graph : OperatingGraph) (start finish : OperatingPointId) :
    Option (TrackEdgeId × TravelDirection) :=
  (graph.edgesAt start).findSome? fun kante =>
    if kante.otherEnd start ≠ some finish then none
    else some (kante.id,
      if kante.endOf .withChainage = finish then .withChainage else .againstChainage)

/-- Along the track lies a platform for the train. -/
def hatBahnsteig (graph : OperatingGraph) (track : TrackId) (request : PathRequest) : Bool :=
  (graph.platformsOf track).any fun bahnsteig => bahnsteig.accommodates request.train.length

/-- The tracks of an owner for runs in a direction, by number. -/
def gleise (graph : OperatingGraph) (owner : TrackOwner) (richtung : TravelDirection)
    (geeignet : TrackId → Bool) : List TrackId :=
  (((graph.tracksOf owner).filter fun gleis =>
    gleis.kind.carriesTrainRuns && gleis.direction.allows richtung && geeignet gleis.id).map
      fun gleis => gleis.id).insertionSort (· ≤ ·)

/-- The choices along a sequence from a point on, whose direction inside the operating point
is that of the edge it is left by, at the destination of the edge it is reached by. -/
def schritteFrom (graph : OperatingGraph) (request : PathRequest) :
    OperatingPointId → List OperatingPointId → Except OperatingPointId (List Choice)
  | _, [] => .ok []
  | vorher, punkt :: points =>
    let halt := request.stopAt punkt
    let kante := match points with
      | [] => richtungZwischen graph vorher punkt
      | naechster :: _ => richtungZwischen graph punkt naechster
    match kante with
    | none => .error punkt
    | some (kante, richtung) =>
      let bahnhofsgleise := gleise graph (.operatingPoint punkt) richtung fun gleis =>
        halt.isNone || hatBahnsteig graph gleis request
      if bahnhofsgleise.isEmpty then .error punkt
      else if points.isEmpty then .ok [⟨bahnhofsgleise, richtung, 0⟩]
      else
        let streckengleise := gleise graph (.edge kante) richtung fun _ => true
        if streckengleise.isEmpty then .error punkt
        else do
          let rest ← schritteFrom graph request punkt points
          let dwell := (halt.map RequestedStop.minimumDwellS).getD 0
          pure (⟨bahnhofsgleise, richtung, dwell⟩ :: ⟨streckengleise, richtung, 0⟩ :: rest)

/-- The choices along a sequence. -/
def schritte (graph : OperatingGraph) (request : PathRequest) (points : List OperatingPointId) :
    Except OperatingPointId (List Choice) :=
  schritteFrom graph request (points.headD 0) points

/-- The first combinations of tracks; the tracks at the end change first. -/
def kombinationenFrom : List Choice → ℕ → List (List TrackId)
  | [], limit => List.replicate (min limit 1) []
  | step :: steps, limit =>
    step.tracks.foldl (fun ergebnis track =>
      ergebnis ++ (kombinationenFrom steps (limit - ergebnis.length)).map (track :: ·)) []

/-- The first combinations of tracks along at least one step. -/
def kombinationen (steps : List Choice) (limit : ℕ) : List (List TrackId) :=
  if steps.isEmpty then [] else kombinationenFrom steps limit

/-! ### Itineraries -/

/-- The legs of a combination of tracks. -/
def legsOf (steps : List Choice) (kombination : List TrackId) : List ItineraryLeg :=
  (kombination.zip steps).map fun leg =>
    (ItineraryLeg.new leg.1 leg.2.direction).withDwell leg.2.dwellS

/-- The itineraries of the sequences, up to the limit, with the first stop that could not be
served. -/
def laufwegeFrom (graph : OperatingGraph) (request : PathRequest) (limit : ℕ) :
    List (List OperatingPointId) → List Itinerary → Option OperatingPointId →
      Except PlannerError (List Itinerary × Option OperatingPointId)
  | [], laufwege, fehlenderHalt => .ok (laufwege, fehlenderHalt)
  | folge :: folgen, laufwege, fehlenderHalt =>
    match schritte graph request folge with
    | .error halt => laufwegeFrom graph request limit folgen laufwege (fehlenderHalt.or halt)
    | .ok steps =>
      let kombinationen := kombinationen steps (limit - laufwege.length)
      match kombinationen.mapM fun kombination =>
          Itinerary.new graph (legsOf steps kombination) with
      | .error error => .error (.conflict error)
      | .ok neue =>
        let laufwege := laufwege ++ neue
        if !neue.isEmpty ∧ limit ≤ laufwege.length then .ok (laufwege, fehlenderHalt)
        else laufwegeFrom graph request limit folgen laufwege fehlenderHalt

def enumerateItineraries (graph : OperatingGraph) (request : PathRequest) (limit : ℕ) :
    Except PlannerError (List Itinerary) :=
  let folgen := punktfolgen graph request
  if folgen.isEmpty then .error (.noRoute request.origin request.destination)
  else match laufwegeFrom graph request limit folgen [] none with
    | .error error => .error error
    | .ok (laufwege, fehlenderHalt) =>
      if laufwege.isEmpty then
        .error (match fehlenderHalt with
          | some halt => .unservableStop halt
          | none => .noRoute request.origin request.destination)
      else .ok laufwege

end Zugfolge.Planner
