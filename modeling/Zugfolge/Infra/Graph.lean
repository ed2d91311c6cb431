/-
The operating graph.

Operating points are joined by edges; tracks lie on the edges and within the operating
points, and platforms lie on the tracks of operating points.
-/
import Zugfolge.Infra.Track

namespace Zugfolge.Infra

open Foundation Std

/-! ### The parts -/

inductive OperatingPointKind where
  | station
  | halt
  | junction
  | crossover
  | blockPost
  | protectionPost
  | sidingJunction
  | passingSidingJunction

/-- Two trains can meet or pass each other here. -/
def OperatingPointKind.allowsCrossing : OperatingPointKind → Bool
  | station | passingSidingJunction => true
  | _ => false

structure OperatingPoint where
  id : OperatingPointId
  code : String
  kind : OperatingPointKind

/-- An edge from one operating point to another one, in the direction of the chainage. -/
structure TrackEdge where
  id : TrackEdgeId
  start : OperatingPointId
  finish : OperatingPointId
  length : Length
  positive : 0 < length

namespace TrackEdge

/-- Checks the name and the length of an edge. -/
def new (id : TrackEdgeId) (start finish : OperatingPointId) (name : String) (length : Length) :
    Except InfraError TrackEdge :=
  if Text.isBlank name then .error (.emptyName "Kante")
  else if h : 0 < length then .ok ⟨id, start, finish, length, h⟩
  else .error (.nonPositiveLength "Kantenlänge" length)

def otherEnd (edge : TrackEdge) (point : OperatingPointId) : Option OperatingPointId :=
  if point = edge.start then some edge.finish
  else if point = edge.finish then some edge.start
  else none

/-- Where a run in this direction leads to. -/
def endOf (edge : TrackEdge) : TravelDirection → OperatingPointId
  | .withChainage => edge.finish
  | .againstChainage => edge.start

end TrackEdge

/-- A platform along a track. -/
structure Platform where
  id : PlatformId
  track : TrackId
  start : Length
  usableLength : Length
  startNonneg : 0 ≤ start
  positive : 0 < usableLength

namespace Platform

/-- Checks the values of a platform. -/
def new (id : PlatformId) (track : TrackId) (designation : String)
    (start usableLength height : Length) : Except InfraError Platform :=
  if Text.isBlank designation then .error (.emptyName "Bahnsteig")
  else if hstart : 0 ≤ start then
    if hlength : 0 < usableLength then
      if height ≤ 0 then .error (.nonPositiveLength "Bahnsteighöhe" height)
      else .ok ⟨id, track, start, usableLength, hstart, hlength⟩
    else .error (.nonPositiveLength "Bahnsteignutzlänge" usableLength)
  else .error (.nonPositiveLength "Bahnsteiganfang" start)

/-- The end of the platform along the track. -/
def finish (platform : Platform) : Length := platform.start.plus platform.usableLength

/-- A train of this length fits. -/
def accommodates (platform : Platform) (trainLength : Length) : Bool :=
  decide (0 < trainLength) && decide (trainLength ≤ platform.usableLength)

end Platform

/-! ### The graph -/

/-- The operating points, edges, tracks and platforms of a network. -/
structure OperatingGraph where
  operatingPoints : Registry OperatingPointId OperatingPoint
  edges : Registry TrackEdgeId TrackEdge
  tracks : Registry TrackId Track
  platforms : Registry PlatformId Platform

namespace OperatingGraph

variable (graph : OperatingGraph)

/-- The operating point with this number. -/
def operatingPoint (id : OperatingPointId) : Option OperatingPoint := graph.operatingPoints[id]?

/-- The edge with this number. -/
def edge (id : TrackEdgeId) : Option TrackEdge := graph.edges[id]?

/-- The track with this number. -/
def track (id : TrackId) : Option Track := graph.tracks[id]?

/-- The tracks of an edge or of an operating point, by number. -/
def tracksOf (owner : TrackOwner) : List Track :=
  (Registry.values graph.tracks).filter fun track => track.owner = owner

/-- The platforms along a track, by number. -/
def platformsOf (track : TrackId) : List Platform :=
  (Registry.values graph.platforms).filter fun platform => platform.track = track

/-- The edges that end at an operating point, by number. -/
def edgesAt (point : OperatingPointId) : List TrackEdge :=
  (Registry.values graph.edges).filter fun edge => edge.start = point ∨ edge.finish = point

/-- The operating points next to an operating point. -/
def neighbours (point : OperatingPointId) : List OperatingPointId :=
  (graph.edgesAt point).filterMap fun edge => edge.otherEnd point

end OperatingGraph

/-! ### Building a graph -/

/-- The parts of a graph that is being built. -/
structure OperatingGraphBuilder where
  operatingPoints : List OperatingPoint
  edges : List TrackEdge
  tracks : List Track
  platforms : List Platform

/-- The first two objects of a list with the same text. -/
def ersteDoppelte {α : Type} (text : α → String) : List α → List α → Option (α × α)
  | _, [] => none
  | gesehen, item :: items =>
    match gesehen.find? fun vorher => text vorher = text item with
    | some vorher => some (vorher, item)
    | none => ersteDoppelte text (item :: gesehen) items

/-- No two operating points have the same code. -/
def pruefeKuerzel (points : List OperatingPoint) : Except InfraError Unit :=
  match ersteDoppelte OperatingPoint.code [] points with
  | some (first, second) => .error (.duplicateOperatingPointCode second.code first.id second.id)
  | none => .ok ()

/-- No two tracks at the same place have the same designation; edges come first. -/
def pruefeGleisbezeichnungen (graph : OperatingGraph) : Except InfraError Unit :=
  let owners := (graph.edges.keys.map TrackOwner.edge)
    ++ graph.operatingPoints.keys.map TrackOwner.operatingPoint
  owners.forM fun owner =>
    match ersteDoppelte Track.designation [] (graph.tracksOf owner) with
    | some (first, second) =>
      .error (.duplicateTrackDesignation second.designation first.id second.id)
    | none => .ok ()

/-- Both ends of an edge are known and different. -/
def pruefeKante (graph : OperatingGraph) (edge : TrackEdge) : Except InfraError Unit :=
  if (graph.operatingPoint edge.start).isNone then
    .error (.unknownEdgeEndpoint edge.id edge.start)
  else if (graph.operatingPoint edge.finish).isNone then
    .error (.unknownEdgeEndpoint edge.id edge.finish)
  else if edge.start = edge.finish then .error (.selfLoopEdge edge.id)
  else .ok ()

/-- The edge or the operating point of a track is known. -/
def pruefeGleis (graph : OperatingGraph) (track : Track) : Except InfraError Unit :=
  let bekannt := match track.owner with
    | .edge id => (graph.edge id).isSome
    | .operatingPoint id => (graph.operatingPoint id).isSome
  if bekannt then .ok () else .error (.unknownTrackOwner track.id)

/-- A platform lies along a track of an operating point and does not reach beyond it. -/
def pruefeBahnsteig (graph : OperatingGraph) (platform : Platform) : Except InfraError Unit :=
  match graph.track platform.track with
  | none => .error (.unknownPlatformTrack platform.id platform.track)
  | some track =>
    if track.owner.point.isNone then .error (.platformOnLine platform.id track.id)
    else if track.length < platform.finish then
      .error (.platformOutsideTrack platform.id platform.finish track.length)
    else .ok ()

/-- An operating point has a track and an edge. -/
def pruefeAnschluss (graph : OperatingGraph) (point : OperatingPoint) : Except InfraError Unit :=
  if (graph.tracksOf (.operatingPoint point.id)).isEmpty then
    .error (.operatingPointWithoutTrack point.id)
  else if (graph.edgesAt point.id).isEmpty then .error (.isolatedOperatingPoint point.id)
  else .ok ()

/-- Checks the references of the parts. -/
def OperatingGraphBuilder.build (builder : OperatingGraphBuilder) :
    Except InfraError OperatingGraph := do
  let operatingPoints ←
    sammle OperatingPoint.id .duplicateOperatingPoint builder.operatingPoints
  if operatingPoints.isEmpty then .error .emptyGraph else
  pruefeKuerzel (Registry.values operatingPoints)
  let edges ← sammle TrackEdge.id .duplicateEdge builder.edges
  let tracks ← sammle Track.id .duplicateTrack builder.tracks
  let platforms ← sammle Platform.id .duplicatePlatform builder.platforms
  let graph : OperatingGraph := ⟨operatingPoints, edges, tracks, platforms⟩
  (Registry.values edges).forM (pruefeKante graph)
  (Registry.values tracks).forM (pruefeGleis graph)
  pruefeGleisbezeichnungen graph
  (Registry.values platforms).forM (pruefeBahnsteig graph)
  (Registry.values edges).forM fun edge =>
    if (graph.tracksOf (.edge edge.id)).isEmpty then .error (.edgeWithoutTrack edge.id)
    else .ok ()
  (Registry.values operatingPoints).forM (pruefeAnschluss graph)
  pure graph

end Zugfolge.Infra
