/-
Refusals, routes over directed edges and the track a formation occupies on them.

A route version is a chain of legs, each over one directed edge; positions on it are
route millimetres.  The occupation of a formation between its tail and its head is
the list of edge intervals and the set of blocks of the legs it stands on.
-/
import Mathlib.Data.List.Sort
import Zugfolge.Foundation.Machine
import Zugfolge.Foundation.Registry

namespace Zugfolge

/-- The reasons with which an operation refuses a request. -/
inductive OperationalError where
  | invalidPassengerStopPlan
  | invalidServiceOutcome
  | invalidServiceDay
  | arithmeticOverflow
  | eventBudgetExceeded
  | outsideMotionValidity
  | incompleteInfraRelease
  | incompleteRoute (id : String)
  | unknownEdge (id : String)
  | invalidInterlockingRoute (id : String)
  | invalidEdgeGeometry (id : String)
  | incompleteVehicleType (id : String)
  | unknownVehicleType (id : String)
  | unknownVehicle (id : String)
  | unknownFormation (id : String)
  | unknownRoute (id : String)
  | unknownTrain (id : String)
  | unknownInterlockingRoute (id : String)
  | unknownPlatform (id : String)
  | duplicateId (id : String)
  | invalidTrainNumber (number : String)
  | duplicateTrainNumber (number : ℕ)
  | invalidFormation (id : String)
  | unsafeMaterialization (id : String)
  | invalidProgramTemplate (id : String)
  | incompatibleProtectionSystem (id : String)
  | occupiedTrack
  | unsafeRoute (id : String)
  | wrongMovementKind
  | vehicleAlreadyMaterialized
  | invalidDispatchRequest (id : String)
  | trainNotRetirable (id : String)
  | invalidShuntingNeed
  | noSafeShuntingRoute
  | noAuthority
  | unsafeState
  | passengerDepartureTooEarly
  | invalidFareControl (code : String)
  | timeRegression
  | authorityExceeded
  | formationChangeWhileMoving
  | missingTechnicalRelease
  | routeChangeWhileMoving
  | rerouteWhileAuthorized
  | discontinuousReroute (id : String)
  | invalidMovementContinuation (id : String)
  | unknownMovementContinuation (id : String)
  | conflictingMovementContinuationId (id : String)
  | duplicateMovementContinuationLink (id : String)
  | cyclicMovementContinuation (id : String)
  | invalidMovementContinuationTimes (id : String)
  | discontinuousMovementContinuation (id : String)
  | reversalWithoutControlStands (id : String)
  | movementContinuationFormationMismatch (id : String)
  | movementContinuationTargetOccupied (id : String)
  | unprotectedHandover
  | invalidHandover
  deriving DecidableEq

/-- How a computation ends without a value: it refuses, it stops on an assertion of the
program, or it needs more rounds than it is given. -/
inductive Failure where
  | refused (reason : OperationalError)
  | panicked
  | outOfFuel
  deriving DecidableEq

/-- The results of a check. -/
abbrev Checked (α : Type) : Type := Except Failure α

/-- The refusal with the given reason. -/
def refuse {α : Type} (e : OperationalError) : Checked α := .error (.refused e)

/-- Refuses with `e` unless the condition holds. -/
def demand (c : Bool) (e : OperationalError) : Checked Unit :=
  if c then .ok () else refuse e

/-- Refuses with `e` when the condition holds. -/
def refuseIf (c : Bool) (e : OperationalError) : Checked Unit :=
  if c then refuse e else .ok ()

/-- The value of an option, or the refusal `e`. -/
def orRefuse {α : Type} (o : Option α) (e : OperationalError) : Checked α :=
  match o with
  | some a => .ok a
  | none => refuse e

/-- The value of an option the program asserts to be there. -/
def orPanic {α : Type} (o : Option α) : Checked α :=
  match o with
  | some a => .ok a
  | none => .error .panicked

/-! ### Inversion -/

@[simp] lemma demand_eq_ok {c : Bool} {e : OperationalError} {u : Unit} :
    demand c e = .ok u ↔ c = true := by
  cases c <;> simp [demand, refuse]

@[simp] lemma refuseIf_eq_ok {c : Bool} {e : OperationalError} {u : Unit} :
    refuseIf c e = .ok u ↔ c = false := by
  cases c <;> simp [refuseIf, refuse]

@[simp] lemma orRefuse_eq_ok {α : Type} {o : Option α} {e : OperationalError} {a : α} :
    orRefuse o e = .ok a ↔ o = some a := by
  cases o <;> simp [orRefuse, refuse]

@[simp] lemma orPanic_eq_ok {α : Type} {o : Option α} {a : α} :
    orPanic o = .ok a ↔ o = some a := by
  cases o <;> simp [orPanic]

lemma checked_bind_eq_ok {α β : Type} {x : Checked α} {f : α → Checked β} {b : β} :
    (x >>= f) = .ok b ↔ ∃ a, x = .ok a ∧ f a = .ok b := by
  cases x with
  | error e | ok a => simp [bind, Except.bind]

lemma checked_forM_eq_ok {α : Type} {l : List α} {f : α → Checked Unit} {u : Unit} :
    l.forM f = .ok u ↔ ∀ a ∈ l, f a = .ok () := by
  induction l with
  | nil => simp [pure, Except.pure]
  | cons a l ih =>
    rw [List.forM_eq_forM, List.forM_cons, checked_bind_eq_ok]
    simp only [List.mem_cons, forall_eq_or_imp]
    rw [← ih, List.forM_eq_forM]
    exact ⟨fun ⟨_, ha, hl⟩ => ⟨ha, hl⟩, fun ⟨ha, hl⟩ => ⟨(), ha, hl⟩⟩

open Foundation

/-- Milliseconds since the epoch of the world. -/
abbrev SimMillis : Type := Int

/-- Millimetres along a route version. -/
abbrev RouteMillimetres : Type := Int

inductive MovementKind where
  | train
  | shunting
  deriving DecidableEq

inductive Direction where
  | along
  | against
  deriving DecidableEq

instance : Ord Direction where
  compare a b := compare (a = .against : Bool) (b = .against : Bool)

/-- The protection systems the engine knows. -/
def knownProtectionSystems : List String := ["etcs-level1", "etcs-level2", "lzb", "pzb"]

/-- The conservative order in which a protection mode is selected. -/
def conservativeProtectionModePriorityV1 : List String :=
  ["pzb", "lzb", "etcs-level1", "etcs-level2"]

/-- The policy under which protection modes are selected. -/
def protectionModeSelectionPolicyV1 : String :=
  "zugfolge-protection-mode-selection/conservative-v1"

/-- Every element is below its successor. -/
def strictlyAscending {α : Type} [Ord α] : List α → Bool
  | [] => true
  | [_] => true
  | a :: b :: rest => (compare a b == .lt) && strictlyAscending (b :: rest)

/-- Known systems in ascending order; `allowEmpty` admits the empty list. -/
def canonicalProtectionSystems (systems : List String) (allowEmpty : Bool) : Bool :=
  (allowEmpty || !systems.isEmpty)
    && systems.all (fun system => knownProtectionSystems.contains system)
    && strictlyAscending systems

/-! ### Routes -/

/-- One section of a route: a stretch of one directed edge. -/
structure RouteLeg where
  edgeId : String
  direction : Direction
  edgeEntryMm : Int
  edgeExitMm : Int
  routeStartMm : RouteMillimetres
  blockIds : KeySet String
  speedLimitMmps : ℕ
  gradientPerMille : Int
  availableProtectionSystems : List String
  simultaneouslyRequiredProtectionSystems : List String
  deriving DecidableEq

namespace RouteLeg

def lengthMm (leg : RouteLeg) : Int :=
  min (((leg.edgeExitMm - leg.edgeEntryMm).natAbs : ℕ) : Int) i64Max

/-- The route position at which the leg ends. -/
def routeEndMm (leg : RouteLeg) : RouteMillimetres := addSat64 leg.routeStartMm leg.lengthMm

/-- The offsets of the leg run in its direction. -/
def directionMatchesOffsets (leg : RouteLeg) : Bool :=
  match leg.direction with
  | .along => decide (leg.edgeEntryMm < leg.edgeExitMm)
  | .against => decide (leg.edgeExitMm < leg.edgeEntryMm)

/-- The leg is complete and starts at `expected`. -/
def isComplete (leg : RouteLeg) (expected : RouteMillimetres) : Bool :=
  !(leg.edgeId.isEmpty
    || decide (leg.lengthMm ≤ 0)
    || !leg.directionMatchesOffsets
    || decide (leg.routeStartMm ≠ expected)
    || leg.speedLimitMmps == 0
    || !(decide (-100 ≤ leg.gradientPerMille) && decide (leg.gradientPerMille ≤ 100))
    || leg.blockIds.isEmpty
    || !canonicalProtectionSystems leg.availableProtectionSystems false
    || !canonicalProtectionSystems leg.simultaneouslyRequiredProtectionSystems true
    || leg.simultaneouslyRequiredProtectionSystems.any
        (fun system => !leg.availableProtectionSystems.contains system))

/-- The gradient of the leg in its direction of travel. -/
def directedGradient (leg : RouteLeg) : Checked Int :=
  if !(decide (-100 ≤ leg.gradientPerMille) && decide (leg.gradientPerMille ≤ 100)) then
    refuse (.incompleteRoute leg.edgeId)
  else
    match leg.direction with
    | .along => .ok leg.gradientPerMille
    | .against => .ok (-leg.gradientPerMille)

end RouteLeg

/-- Every leg is complete and starts where its predecessor ends. -/
def legsChained : RouteMillimetres → List RouteLeg → Bool
  | _, [] => true
  | expected, leg :: rest => leg.isComplete expected && legsChained leg.routeEndMm rest

/-- An unchangeable version of a route. -/
structure RouteVersion where
  id : String
  templateId : String
  predecessorId : Option String
  transitionRouteMm : Option RouteMillimetres
  legs : List RouteLeg
  deriving DecidableEq

namespace RouteVersion

/-- The route is complete: named, with legs that chain from zero. -/
def validate (route : RouteVersion) : Checked Unit := do
  refuseIf (route.id.isEmpty || route.templateId.isEmpty || route.legs.isEmpty)
    (.incompleteRoute route.id)
  demand (legsChained 0 route.legs) (.incompleteRoute route.id)
  refuseIf (route.predecessorId.isSome != route.transitionRouteMm.isSome)
    (.incompleteRoute route.id)

def lengthMm (route : RouteVersion) : RouteMillimetres :=
  (route.legs.getLast?.map RouteLeg.routeEndMm).getD 0

/-- The leg at a route position; the end of the route belongs to its last leg. -/
def legAt (route : RouteVersion) (routeMm : RouteMillimetres) : Option RouteLeg :=
  route.legs.find? fun leg =>
    decide (leg.routeStartMm ≤ routeMm)
      && (decide (routeMm < leg.routeEndMm)
        || decide (routeMm = route.lengthMm) && decide (routeMm = leg.routeEndMm))

end RouteVersion

/-! ### Track intervals -/

structure TrackInterval where
  edgeId : String
  fromMm : Int
  toMm : Int
  direction : Direction
  deriving DecidableEq

namespace TrackInterval

/-- The intervals share track. -/
def overlaps (a b : TrackInterval) : Bool :=
  a.edgeId == b.edgeId && decide (a.fromMm < b.toMm) && decide (b.fromMm < a.toMm)

/-- The order of intervals by edge, start, end and direction. -/
def order (a b : TrackInterval) : Ordering :=
  (compare a.edgeId b.edgeId).then <| (compare a.fromMm b.fromMm).then <|
    (compare a.toMm b.toMm).then (compare a.direction b.direction)

lemma overlaps_comm (a b : TrackInterval) : a.overlaps b = b.overlaps a := by
  unfold overlaps
  rw [Bool.eq_iff_iff]
  simp only [Bool.and_eq_true, beq_iff_eq, decide_eq_true_eq]
  constructor
  · rintro ⟨⟨h1, h2⟩, h3⟩
    exact ⟨⟨h1.symm, h3⟩, h2⟩
  · rintro ⟨⟨h1, h2⟩, h3⟩
    exact ⟨⟨h1.symm, h3⟩, h2⟩

end TrackInterval

/-- Some interval of the one list shares track with some interval of the other. -/
def intervalsOverlap (xs ys : List TrackInterval) : Bool :=
  xs.any fun x => ys.any fun y => x.overlaps y

/-- The interval of a leg between two route positions on it. -/
def RouteLeg.intervalBetween (leg : RouteLeg) (fromRoute toRoute : RouteMillimetres) :
    TrackInterval :=
  let relativeFrom := subSat64 fromRoute leg.routeStartMm
  let relativeTo := subSat64 toRoute leg.routeStartMm
  let a := match leg.direction with
    | .along => addSat64 leg.edgeEntryMm relativeFrom
    | .against => subSat64 leg.edgeEntryMm relativeTo
  let b := match leg.direction with
    | .along => addSat64 leg.edgeEntryMm relativeTo
    | .against => subSat64 leg.edgeEntryMm relativeFrom
  { edgeId := leg.edgeId, fromMm := min a b, toMm := max a b, direction := leg.direction }

/-- The intervals between tail and head, leg by leg; track before the route is left out. -/
def intervalsFor (route : RouteVersion) (tail head : RouteMillimetres) :
    Checked (List TrackInterval) :=
  if head < tail ∨ head < 0 ∨ route.lengthMm < head then
    refuse .unsafeState
  else
    .ok (route.legs.filterMap fun leg =>
      let fromRoute := max (max tail 0) leg.routeStartMm
      let toRoute := min head leg.routeEndMm
      if toRoute ≤ fromRoute then none else some (leg.intervalBetween fromRoute toRoute))

/-- The legs a formation between tail and head stands on. -/
def legsUnder (route : RouteVersion) (tail head : RouteMillimetres) : List RouteLeg :=
  route.legs.filter fun leg =>
    decide (max tail 0 < leg.routeEndMm) && decide (leg.routeStartMm < head)

/-- The blocks of a list of legs. -/
def blocksOf (legs : List RouteLeg) : KeySet String :=
  Std.ExtTreeSet.ofList (legs.flatMap fun leg => leg.blockIds.toList) compare

/-- The blocks between tail and head. -/
def blocksFor (route : RouteVersion) (tail head : RouteMillimetres) : KeySet String :=
  blocksOf (legsUnder route tail head)

/-- The total length of the intervals; an empty interval is refused. -/
def occupiedIntervalLengthMm (intervals : List TrackInterval) : Checked RouteMillimetres :=
  intervals.foldlM (fun total interval => do
    let length ← orRefuse (subChecked64 interval.toMm interval.fromMm) .arithmeticOverflow
    refuseIf (decide (length ≤ 0)) .unsafeState
    orRefuse (addChecked64 total length) .arithmeticOverflow) 0

/-! ### Protection modes -/

/-- The protection mode of a leg for a formation with the given systems. -/
def selectedProtectionSystem (leg : RouteLeg) (formationSystems : KeySet String) :
    Option String :=
  if leg.simultaneouslyRequiredProtectionSystems.any (fun s => !formationSystems.contains s) then
    none
  else
    conservativeProtectionModePriorityV1.find? fun system =>
      formationSystems.contains system && leg.availableProtectionSystems.contains system

/-- A run of legs with one selected protection mode. -/
structure ProtectionModeSelectionRun where
  throughRouteLegIndex : ℕ
  selectedProtectionSystem : String
  deriving DecidableEq

/-- Extends the last run or opens a new one, for the leg with the given index. -/
def extendSelectionRuns (runs : List ProtectionModeSelectionRun) (index : ℕ)
    (selected : String) : List ProtectionModeSelectionRun :=
  match runs.getLast? with
  | some previous =>
    if previous.selectedProtectionSystem = selected then
      runs.dropLast ++ [{ previous with throughRouteLegIndex := index }]
    else runs ++ [⟨index, selected⟩]
  | none => [⟨index, selected⟩]

/-- The runs of selected protection modes over all legs, if every leg has one. -/
def protectionModeSelectionRuns (route : RouteVersion) (formationSystems : KeySet String) :
    Option (List ProtectionModeSelectionRun) :=
  route.legs.zipIdx.foldlM (fun runs entry => do
    let selected ← selectedProtectionSystem entry.1 formationSystems
    pure (extendSelectionRuns runs entry.2 selected)) []

/-- The leg has a protection mode for the given systems. -/
def protectionSystemsCompatible (leg : RouteLeg) (formationSystems : KeySet String) : Bool :=
  (selectedProtectionSystem leg formationSystems).isSome

/-! ### Physical equivalence of routes -/

/-- The order of two spans that follow one another in the direction of travel. -/
def spansAreContiguous (direction : Direction) (leftFrom leftTo rightFrom rightTo : Int) : Bool :=
  match direction with
  | .along => decide (leftTo = rightFrom)
  | .against => decide (leftFrom = rightTo)

/-- A stretch of an edge with what the interlocking and the driver see of it. -/
structure PhysicalRouteSpan where
  edgeId : String
  direction : Direction
  fromMm : Int
  toMm : Int
  blockIds : KeySet String
  availableProtectionSystems : List String
  simultaneouslyRequiredProtectionSystems : List String
  deriving DecidableEq

/-- Merges the candidate into the last element of the list when `joins` allows it. -/
def mergeOrPush {α : Type} (joins : α → α → Bool) (merge : α → α → α) (result : List α)
    (candidate : α) : List α :=
  match result.getLast? with
  | some previous =>
    if joins previous candidate then result.dropLast ++ [merge previous candidate]
    else result ++ [candidate]
  | none => [candidate]

/-- The spans of a route, split legs merged. -/
def physicalRouteContract (route : RouteVersion) : List PhysicalRouteSpan :=
  (route.legs.map fun leg =>
    { edgeId := leg.edgeId, direction := leg.direction,
      fromMm := min leg.edgeEntryMm leg.edgeExitMm, toMm := max leg.edgeEntryMm leg.edgeExitMm,
      blockIds := leg.blockIds, availableProtectionSystems := leg.availableProtectionSystems,
      simultaneouslyRequiredProtectionSystems := leg.simultaneouslyRequiredProtectionSystems :
      PhysicalRouteSpan }).foldl
    (mergeOrPush
      (fun p c => decide (p.edgeId = c.edgeId) && decide (p.direction = c.direction)
        && decide (p.blockIds = c.blockIds)
        && decide (p.availableProtectionSystems = c.availableProtectionSystems)
        && decide (p.simultaneouslyRequiredProtectionSystems
          = c.simultaneouslyRequiredProtectionSystems)
        && spansAreContiguous p.direction p.fromMm p.toMm c.fromMm c.toMm)
      (fun p c => { p with fromMm := min p.fromMm c.fromMm, toMm := max p.toMm c.toMm })) []

/-- Intervals in route order, contiguous ones merged. -/
def mergeTrackIntervalsInRouteOrder (intervals : List TrackInterval) : List TrackInterval :=
  intervals.foldl
    (mergeOrPush
      (fun p c => decide (p.edgeId = c.edgeId) && decide (p.direction = c.direction)
        && spansAreContiguous p.direction p.fromMm p.toMm c.fromMm c.toMm)
      (fun p c => { p with fromMm := min p.fromMm c.fromMm, toMm := max p.toMm c.toMm })) []

/-- The two routes run over the same track and end on the same track. -/
def physicallyEquivalentPredecessorRoutes (actual base : RouteVersion)
    (formationLengthMm : Int) : Checked Bool :=
  if actual.lengthMm ≠ base.lengthMm ∨ formationLengthMm ≤ 0
      ∨ actual.lengthMm < formationLengthMm
      ∨ physicalRouteContract actual ≠ physicalRouteContract base then
    .ok false
  else do
    let terminalStart ←
      orRefuse (subChecked64 actual.lengthMm formationLengthMm) .arithmeticOverflow
    let actualIntervals ← intervalsFor actual terminalStart actual.lengthMm
    let baseIntervals ← intervalsFor base terminalStart base.lengthMm
    pure (decide (mergeTrackIntervalsInRouteOrder actualIntervals
      = mergeTrackIntervalsInRouteOrder baseIntervals))

/-- The intervals in canonical order, turned round for a reversal. -/
def canonicalContinuationIntervals (intervals : List TrackInterval) (reverseDirection : Bool) :
    List TrackInterval :=
  (intervals.map fun interval =>
    if reverseDirection then
      { interval with direction := match interval.direction with
        | .along => .against
        | .against => .along }
    else interval).insertionSort (fun a b => (a.order b).isLE = true)

end Zugfolge
