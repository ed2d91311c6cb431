/-
The infrastructure release and its lookups.

A release holds the directed edges with their geometry, the route versions, the
interlocking routes and the signals, switches and blocks they use.  A release is
attached to a world only after it has passed `validate`; the attachment carries the
proof.
-/
import Zugfolge.Infrastructure.Track

namespace Zugfolge

open Foundation

structure EdgeGeometryPoint where
  edgeOffsetMm : Int
  latitudeE7 : Int
  longitudeE7 : Int
  bearingMilliDegrees : Option ℕ

structure InterlockingRouteTemplate where
  id : String
  routeTemplateId : String
  authorityStartRouteMm : RouteMillimetres
  signalId : String
  movementKind : MovementKind
  pathResources : KeySet String
  overlapResources : KeySet String
  flankResources : KeySet String
  switchPositions : Registry String String
  authorityEndRouteMm : RouteMillimetres
  releaseAfterTailRouteMm : RouteMillimetres
  deriving DecidableEq

/-- The resources a lock on the template protects: path, overlap and flank. -/
def InterlockingRouteTemplate.allResources (template : InterlockingRouteTemplate) :
    KeySet String :=
  template.pathResources ∪ template.overlapResources ∪ template.flankResources

/-- The static basis of a world. -/
structure OperationalInfraRelease where
  id : String
  directedEdges : Registry String Int
  edgeGeometries : Registry String (List EdgeGeometryPoint)
  routeVersions : Registry String RouteVersion
  interlockingRoutes : Registry String InterlockingRouteTemplate
  signals : KeySet String
  switches : KeySet String
  blockResources : KeySet String
  platformIntervals : Registry String TrackInterval
  regionBoundaries : KeySet String
  rzueLayoutId : String

/-- Adjacent points of an edge advance and carry a bearing. -/
def pointsAdvance : List EdgeGeometryPoint → Bool
  | [] => true
  | [_] => true
  | a :: b :: rest =>
    decide (a.edgeOffsetMm < b.edgeOffsetMm) && a.bearingMilliDegrees.any (· < 360000)
      && pointsAdvance (b :: rest)

/-- The points span an edge of the given length. -/
def geometryIsValid (lengthMm : Int) (points : List EdgeGeometryPoint) : Bool :=
  decide (2 ≤ points.length)
    && points.head?.any (fun p => p.edgeOffsetMm == 0)
    && points.getLast?.any (fun p => p.edgeOffsetMm == lengthMm)
    && pointsAdvance points
    && points.all (fun p => decide (-900000000 ≤ p.latitudeE7 ∧ p.latitudeE7 ≤ 900000000)
      && decide (-1800000000 ≤ p.longitudeE7 ∧ p.longitudeE7 ≤ 1800000000))
    && !(points.getLast?.any fun p => p.bearingMilliDegrees.isSome)

namespace OperationalInfraRelease

variable (release : OperationalInfraRelease)

/-- One edge is named, has a length and a geometry of that length. -/
def validateEdge (edgeId : String) (lengthMm : Int) : Checked Unit := do
  refuseIf (edgeId.isEmpty || decide (lengthMm ≤ 0)) .incompleteInfraRelease
  let points ← orRefuse release.edgeGeometries[edgeId]? (.unknownEdge edgeId)
  demand (geometryIsValid lengthMm points) (.invalidEdgeGeometry edgeId)

/-- One leg of a route lies on its edge and names blocks of the release. -/
def validateLeg (route : RouteVersion) (leg : RouteLeg) : Checked Unit := do
  let length ← orRefuse release.directedEdges[leg.edgeId]? (.unknownEdge leg.edgeId)
  refuseIf (decide (leg.edgeEntryMm < 0) || decide (leg.edgeExitMm < 0)
    || decide (length < leg.edgeEntryMm) || decide (length < leg.edgeExitMm)
    || !leg.blockIds.subset release.blockResources) (.incompleteRoute route.id)

/-- The predecessor of a route is another route and the transition lies on the route. -/
def predecessorIsValid (route : RouteVersion) : Bool :=
  match route.predecessorId, route.transitionRouteMm with
  | some predecessorId, some transition =>
    decide (predecessorId ≠ route.id) && release.routeVersions.contains predecessorId
      && decide (0 ≤ transition) && decide (transition ≤ route.lengthMm)
  | _, _ => true

/-- One route is complete and has an interlocking route. -/
def validateRoute (routeId : String) (route : RouteVersion) : Checked Unit := do
  refuseIf (decide (routeId ≠ route.id)) (.incompleteRoute route.id)
  route.validate
  demand (Registry.anyValue release.interlockingRoutes
    fun template => template.routeTemplateId == route.templateId) (.incompleteRoute route.id)
  demand (release.predecessorIsValid route) (.incompleteRoute route.id)
  route.legs.forM (release.validateLeg route)

/-- The routes an interlocking route is made for. -/
def matchingRoutes (template : InterlockingRouteTemplate) : List RouteVersion :=
  (Registry.values release.routeVersions).filter fun route =>
    route.templateId == template.routeTemplateId

/-- A train route begins at a leg of every matching route and covers exactly that leg. -/
def coversOneLeg (template : InterlockingRouteTemplate) : Bool :=
  (release.matchingRoutes template).all fun route =>
    (route.legs.find? fun leg => leg.routeStartMm == template.authorityStartRouteMm).any
      fun leg => leg.routeEndMm == template.authorityEndRouteMm
        && decide (leg.blockIds = template.pathResources)

/-- One interlocking route refers to the release only and lies on its routes. -/
def templateIsValid (templateId : String) (template : InterlockingRouteTemplate) : Bool :=
  !(decide (templateId ≠ template.id)
    || template.routeTemplateId.isEmpty
    || (release.matchingRoutes template).isEmpty
    || !release.signals.contains template.signalId
    || !template.switchPositions.keys.all (fun id => release.switches.contains id)
    || template.pathResources.isEmpty
    || template.overlapResources.isEmpty
    || template.flankResources.isEmpty
    || !template.pathResources.subset release.blockResources
    || !template.overlapResources.subset release.blockResources
    || !template.flankResources.subset release.blockResources
    || decide (template.authorityStartRouteMm < 0)
    || decide (template.authorityEndRouteMm ≤ template.authorityStartRouteMm)
    || decide (template.releaseAfterTailRouteMm < template.authorityStartRouteMm)
    || decide (template.authorityEndRouteMm < template.releaseAfterTailRouteMm)
    || (release.matchingRoutes template).any
        (fun route => decide (route.lengthMm < template.authorityEndRouteMm))
    || (template.movementKind == .train && !release.coversOneLeg template))

/-- Checks the interlocking routes in order; `seen` holds the starts of the train
routes before. -/
def validateTemplates :
    List (String × InterlockingRouteTemplate) → List (String × RouteMillimetres) → Checked Unit
  | [], _ => .ok ()
  | (templateId, template) :: rest, seen => do
    let key := (template.routeTemplateId, template.authorityStartRouteMm)
    demand (release.templateIsValid templateId template
      && !(template.movementKind == .train && seen.contains key))
      (.invalidInterlockingRoute template.id)
    validateTemplates rest (if template.movementKind == .train then key :: seen else seen)

/-- The shunting routes made for a route. -/
def shuntingTemplates (route : RouteVersion) : List InterlockingRouteTemplate :=
  (Registry.values release.interlockingRoutes).filter fun template =>
    template.movementKind == .shunting && template.routeTemplateId == route.templateId

/-- The route is a pure shunting route: one shunting template behind its start, up to
its end. -/
def isShuntingRoute (route : RouteVersion) : Bool :=
  match release.shuntingTemplates route with
  | [template] =>
    decide (0 < template.authorityStartRouteMm)
      && decide (template.authorityEndRouteMm = route.lengthMm)
  | _ => false

/-- Exactly one train route covers the leg. -/
def legHasTrainRoute (route : RouteVersion) (leg : RouteLeg) : Bool :=
  ((Registry.values release.interlockingRoutes).filter fun template =>
    template.movementKind == .train && template.routeTemplateId == route.templateId
      && template.authorityStartRouteMm == leg.routeStartMm
      && template.authorityEndRouteMm == leg.routeEndMm
      && decide (template.pathResources = leg.blockIds)).length == 1

/-- Every leg of a route other than a shunting route has exactly one train route. -/
def validateCoverage (route : RouteVersion) : Checked Unit :=
  demand (release.isShuntingRoute route || route.legs.all (release.legHasTrainRoute route))
    (.incompleteRoute route.id)

/-- One platform lies on its edge. -/
def validatePlatform (platformId : String) (interval : TrackInterval) : Checked Unit := do
  let edgeLength ← orRefuse release.directedEdges[interval.edgeId]? (.unknownEdge interval.edgeId)
  refuseIf (platformId.isEmpty || decide (interval.fromMm < 0)
    || decide (interval.toMm ≤ interval.fromMm) || decide (edgeLength < interval.toMm))
    (.unknownPlatform platformId)

/-- The release is complete and its parts refer to one another. -/
def validate : Checked Unit := do
  refuseIf (release.id.isEmpty || release.rzueLayoutId.isEmpty
    || release.directedEdges.isEmpty || release.routeVersions.isEmpty
    || release.interlockingRoutes.isEmpty || release.signals.isEmpty
    || release.blockResources.isEmpty
    || release.regionBoundaries.toList.any String.isEmpty
    || release.signals.toList.any String.isEmpty
    || release.switches.toList.any String.isEmpty
    || release.blockResources.toList.any String.isEmpty) .incompleteInfraRelease
  refuseIf (decide (release.edgeGeometries.size ≠ release.directedEdges.size))
    .incompleteInfraRelease
  release.directedEdges.toList.forM fun entry => release.validateEdge entry.1 entry.2
  release.routeVersions.toList.forM fun entry => release.validateRoute entry.1 entry.2
  release.validateTemplates release.interlockingRoutes.toList []
  (Registry.values release.routeVersions).forM release.validateCoverage
  release.platformIntervals.toList.forM fun entry => release.validatePlatform entry.1 entry.2

end OperationalInfraRelease

/-! ### The attached release -/

/-- A release that passed its validation, with the identity of its binding. -/
structure InMemoryOperationalInfrastructure where
  release : OperationalInfraRelease
  bindingIdentity : String
  valid : release.validate = .ok ()

namespace InMemoryOperationalInfrastructure

variable (infra : InMemoryOperationalInfrastructure)

def releaseId : String := infra.release.id

/-- The route version with the given name. -/
def routeVersion (id : String) : Option RouteVersion := infra.release.routeVersions[id]?

/-- The interlocking route with the given name. -/
def interlockingRoute (id : String) : Option InterlockingRouteTemplate :=
  infra.release.interlockingRoutes[id]?

/-- The train route of a route template that begins at the given position. -/
def trainInterlockingRoute (routeTemplateId : String)
    (authorityStartRouteMm : RouteMillimetres) : Option InterlockingRouteTemplate :=
  -- The index keeps the last template of a key.
  ((Registry.values infra.release.interlockingRoutes).filter fun template =>
    template.movementKind == .train && template.routeTemplateId == routeTemplateId
      && template.authorityStartRouteMm == authorityStartRouteMm).getLast?.bind
    fun template => infra.interlockingRoute template.id

/-- The shunting routes that reach at least the given position. -/
def shuntingInterlockingRoutes (minimumAuthorityEndRouteMm : RouteMillimetres) :
    List InterlockingRouteTemplate :=
  (Registry.values infra.release.interlockingRoutes).filter fun template =>
    template.movementKind == .shunting
      && decide (minimumAuthorityEndRouteMm ≤ template.authorityEndRouteMm)

/-- The platform with the given name. -/
def platformInterval (id : String) : Option TrackInterval := infra.release.platformIntervals[id]?

/-! ### What the validation promises -/

variable {infra}

lemma validated :
    (∀ entry ∈ infra.release.routeVersions.toList,
        infra.release.validateRoute entry.1 entry.2 = .ok ())
      ∧ infra.release.validateTemplates infra.release.interlockingRoutes.toList [] = .ok ()
      ∧ ∀ route ∈ Registry.values infra.release.routeVersions,
        infra.release.validateCoverage route = .ok () := by
  have h := infra.valid
  unfold OperationalInfraRelease.validate at h
  simp only [checked_bind_eq_ok, checked_forM_eq_ok] at h
  obtain ⟨_, _, _, _, _, _, _, hroutes, _, htemplates, _, hcoverage, _⟩ := h
  exact ⟨hroutes, htemplates, hcoverage⟩

/-- Every interlocking route of the release is valid. -/
lemma interlockingRoute_valid {id : String} {template : InterlockingRouteTemplate}
    (h : infra.interlockingRoute id = some template) :
    infra.release.templateIsValid id template = true := by
  have hall : ∀ (entries : List (String × InterlockingRouteTemplate))
      (seen : List (String × RouteMillimetres)),
      infra.release.validateTemplates entries seen = .ok () →
        ∀ entry ∈ entries, infra.release.templateIsValid entry.1 entry.2 = true := by
    intro entries
    induction entries with
    | nil => simp
    | cons entry entries ih =>
      intro seen hok
      unfold OperationalInfraRelease.validateTemplates at hok
      simp only [checked_bind_eq_ok, demand_eq_ok, Bool.and_eq_true] at hok
      obtain ⟨_, hfirst, hrest⟩ := hok
      simpa [hfirst.1] using ih _ hrest
  exact hall _ _ validated.2.1 (id, template) (Registry.mem_toList.mpr h)

lemma interlockingRoute_id {id : String} {template : InterlockingRouteTemplate}
    (h : infra.interlockingRoute id = some template) : template.id = id := by
  have hvalid := interlockingRoute_valid h
  simp only [OperationalInfraRelease.templateIsValid, Bool.not_eq_true', Bool.or_eq_false_iff,
    decide_eq_false_iff_not, not_not] at hvalid
  exact hvalid.1.1.1.1.1.1.1.1.1.1.1.1.1.1.1.1.symm

end InMemoryOperationalInfrastructure

end Zugfolge
