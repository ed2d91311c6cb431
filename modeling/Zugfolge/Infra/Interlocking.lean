/-
Deriving the routes of a station head.

From every signal all ways through the switches are enumerated, up to the next signal or
terminus.  Behind the signal a route ends at follows its overlap, straight on up to a minimum
length.  Routes that share an element or demand a switch in different positions exclude each
other.
-/
import Zugfolge.Infra.StationHead
import Mathlib.Data.List.Sort

namespace Zugfolge.Infra

open Foundation Std

abbrev InterlockingRouteId : Type := ℕ

/-! ### Routes -/

/-- Where a route ends. -/
inductive RouteDestination where
  | signal (signal : HeadSignalId)
  | terminus (node : HeadNodeId)

/-- The way behind the signal a route ends at. -/
structure OverlapPath where
  elements : List HeadElementId
  switches : Registry SwitchId SwitchPosition
  length : Length

/-- The overlap of a route that ends at a terminus. -/
def OverlapPath.empty : OverlapPath := ⟨[], ∅, 0⟩

/-- A route through a station head. -/
structure InterlockingRoute where
  id : InterlockingRouteId
  fromSignal : HeadSignalId
  elements : List HeadElementId
  switches : Registry SwitchId SwitchPosition
  destination : RouteDestination
  overlap : OverlapPath
  quality : QualityClass
  excludes : KeySet InterlockingRouteId

/-- The routes of a station head. -/
structure InterlockingPlan where
  operatingPoint : OperatingPointId
  routes : Registry InterlockingRouteId InterlockingRoute

/-- A route as the search finds it. -/
structure RawRoute where
  fromSignal : HeadSignalId
  elements : List HeadElementId
  switches : List SwitchDemand
  destination : RouteDestination
  overlapSeed : Option (HeadNodeId × HeadElementId)

/-- The order of the routes: by signal and by elements. -/
def RawRoute.order : RawRoute → RawRoute → Ordering :=
  compareLex (compareOn RawRoute.fromSignal) (compareOn RawRoute.elements)

/-- Files demands one after another; a later one replaces an earlier one. -/
def fileDemands (demands : List SwitchDemand) : Registry SwitchId SwitchPosition :=
  demands.foldl (fun filed demand => filed.insert demand.1 demand.2) ∅

/-- Notes a demand, if there is one. -/
def noteDemand (filed : Registry SwitchId SwitchPosition) :
    Option SwitchDemand → Registry SwitchId SwitchPosition
  | some demand => filed.insert demand.1 demand.2
  | none => filed

namespace StationHead

variable (head : StationHead)

/-! ### The search -/

/-- Goes on from an element over which a node was reached, in all ways that use no element
twice; `fuel` bounds the depth. -/
def extend (fromSignal : HeadSignalId) :
    ℕ → List HeadElementId → List SwitchDemand → HeadNodeId → HeadElementId →
      Option (List RawRoute)
  | 0, _, _, _, _ => none
  | fuel + 1, elements, switches, node, via =>
    if head.kindOf node = some .terminus then
      some [⟨fromSignal, elements, switches, .terminus node, none⟩]
    else
      ((head.onward node via).mapM fun way =>
        if way.1 ∈ elements then some []
        else
          match head.signalAt node way.1 with
          | some signal =>
            -- the switch of this node is set for the overlap behind the signal
            some [⟨fromSignal, elements, switches ++ way.2.toList, .signal signal,
              some (node, way.1)⟩]
          | none =>
            match head.cross way.1 node with
            | some onwards =>
              extend fromSignal fuel (elements ++ [way.1]) (switches ++ way.2.toList)
                onwards way.1
            | none => some []).map List.flatten

def routesFrom (fuel : ℕ) (signal : HeadSignal) : Option (List RawRoute) :=
  match head.cross signal.element signal.node with
  | none => some []
  | some node => head.extend signal.id fuel [signal.element] [] node signal.element

/-- The routes from all signals. -/
def enumerate (fuel : ℕ) : Option (List RawRoute) :=
  ((Registry.values head.signals).mapM (head.routesFrom fuel)).map List.flatten

/-! ### The overlap -/

/-- Follows the straight way until the length is reached, nothing follows or an element
comes up again; `fuel` bounds the number of elements. -/
def walkOverlap (overlapLength : Length) :
    ℕ → OverlapPath → KeySet HeadElementId → HeadNodeId → HeadElementId → Option OverlapPath
  | 0, _, _, _, _ => none
  | fuel + 1, path, visited, node, current =>
    if visited.contains current then some path
    else
      match head.elements[current]? with
      | none => some path
      | some element =>
        let covered := path.length.plus element.length
        let elements := path.elements ++ [current]
        if overlapLength ≤ covered then some ⟨elements, path.switches, covered⟩
        else
          match element.otherEnd node with
          | none => some ⟨elements, path.switches, covered⟩
          | some nextNode =>
            match (head.onward nextNode current).head? with
            | none => some ⟨elements, path.switches, covered⟩
            | some (next, demand) =>
              -- the switch is noted before the next element is looked at
              walkOverlap overlapLength fuel
                ⟨elements, noteDemand path.switches demand, covered⟩
                (visited.insert current) nextNode next

/-- The overlap of a raw route. -/
def overlapOf (fuel : ℕ) (overlapLength : Length) (raw : RawRoute) : Option OverlapPath :=
  match raw.overlapSeed with
  | none => some .empty
  | some (node, first) =>
    head.walkOverlap overlapLength fuel .empty (ExtTreeSet.ofList raw.elements compare)
      node first

end StationHead

/-! ### The plan -/

/-- What a route occupies together with its overlap. -/
structure Locked where
  elements : KeySet HeadElementId
  switches : Registry SwitchId SwitchPosition

namespace Locked

/-- The elements and switches of a route and its overlap; the route speaks first. -/
def of (route : InterlockingRoute) : Locked where
  elements := ExtTreeSet.ofList (route.elements ++ route.overlap.elements) compare
  switches := route.overlap.switches.toList.foldl (fun switches demand =>
    if switches.contains demand.1 then switches else switches.insert demand.1 demand.2)
    route.switches

/-- A common element, or a common switch in different positions. -/
def conflictsWith (locked other : Locked) : Bool :=
  !locked.elements.disjoint other.elements ||
    locked.switches.toList.any fun demand =>
      (other.switches[demand.1]?).any fun position => position != demand.2

end Locked

/-- The number of the route at a place in the order. -/
def routeId (index : ℕ) : InterlockingRouteId := min u32Max (index + 1)

/-- The route that a raw route becomes under a number, before the exclusions are known. -/
def RawRoute.numbered (raw : RawRoute) (id : InterlockingRouteId) (overlap : OverlapPath)
    (quality : QualityClass) : InterlockingRoute :=
  ⟨id, raw.fromSignal, raw.elements, fileDemands raw.switches, raw.destination, overlap,
    quality, ∅⟩

/-- The routes that exclude the route at a place of the list. -/
def exclusionSet (routes : List InterlockingRoute) (index : ℕ) (route : InterlockingRoute) :
    KeySet InterlockingRouteId :=
  ExtTreeSet.ofList
    ((routes.zipIdx.filter fun other =>
      other.2 != index && (Locked.of route).conflictsWith (Locked.of other.1)).map
        fun other => other.1.id) compare

/-- Enters the exclusions of the routes and files the routes under their numbers. -/
def fileRoutes (routes : List InterlockingRoute) :
    Registry InterlockingRouteId InterlockingRoute :=
  routes.zipIdx.foldl (fun filed entry => filed.insert entry.1.id
    { entry.1 with excludes := exclusionSet routes entry.2 entry.1 }) ∅

/-- Derives the routes of a station head; `none` if the search does not end within `fuel`. -/
def deriveInterlockingRoutes (fuel : ℕ) (head : StationHead) (overlapLength : Length) :
    Option (Except InfraError InterlockingPlan) :=
  if overlapLength ≤ 0 then
    some (.error (.nonPositiveLength "Durchrutschweglänge" overlapLength))
  else
    (head.enumerate fuel).bind fun found =>
      ((found.insertionSort fun a b => (a.order b).isLE).zipIdx.mapM fun entry =>
        (head.overlapOf fuel overlapLength entry.1).map fun overlap =>
          entry.1.numbered (routeId entry.2) overlap
            (.fromConfidence head.provenance.confidence)).map fun routes =>
              .ok ⟨head.operatingPoint, fileRoutes routes⟩

end Zugfolge.Infra
