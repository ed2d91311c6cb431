/-
Movement continuations: a movement passes formation and track on to its successor.
-/
import Zugfolge.Operations.Dispatch

namespace Zugfolge

open Foundation

/-! ### Program templates -/

structure OperationalProgramTemplatePredicates where
  formationMobile : Bool
  headWithinRoute : Bool
  protectionCompatible : Bool
  protectionModeSelectionPolicyMatches : Bool
  protectionModeSelectionsMatch : Bool
  protectionModeSelectionRuns : List ProtectionModeSelectionRun
  protectionModeSelectionCount : ℕ
  movementKindMatches : Bool
  routeTemplateMatches : Bool
  authorityPathResourcesCoverRoute : Bool
  authorityEndMatchesRoute : Bool
  releaseAfterTailWithinAuthority : Bool
  resourceBindingCount : ℕ

/-- All predicates hold. -/
def OperationalProgramTemplatePredicates.isValid (p : OperationalProgramTemplatePredicates) :
    Bool :=
  p.formationMobile && p.headWithinRoute && p.protectionCompatible
    && p.protectionModeSelectionPolicyMatches && p.protectionModeSelectionsMatch
    && p.movementKindMatches && p.routeTemplateMatches && p.authorityPathResourcesCoverRoute
    && p.authorityEndMatchesRoute && p.releaseAfterTailWithinAuthority

namespace OperationalWorld

variable (w : OperationalWorld)

/-- Follows the train routes from a position to the end of the route; `seen` holds the
positions before. -/
def followTrainRoutes (route : RouteVersion) :
    ℕ → RouteMillimetres → List RouteMillimetres → List InterlockingRouteTemplate →
      RouteMillimetres × List InterlockingRouteTemplate
  | 0, cursor, _, found => (cursor, found)
  | rounds + 1, cursor, seen, found =>
    if cursor < route.lengthMm ∧ seen.contains cursor = false then
      match w.infra.trainInterlockingRoute route.templateId cursor with
      | none => (cursor, found)
      | some template =>
        followTrainRoutes route rounds template.authorityEndRouteMm (cursor :: seen)
          (found ++ [template])
    else (cursor, found)

/-- The interlocking routes of a movement and the position they reach. -/
def movementRouteTemplates (train : TrainMaterialization) (route : RouteVersion)
    (template : InterlockingRouteTemplate) :
    RouteMillimetres × List InterlockingRouteTemplate :=
  if train.movementKind = .train then
    w.followTrainRoutes route (w.infra.release.interlockingRoutes.size + 1) train.headRouteMm
      [] []
  else if template.authorityStartRouteMm = train.headRouteMm then
    (template.authorityEndRouteMm, [template])
  else (train.headRouteMm, [])

/-- Inspects a program template against a signed selection of protection modes. -/
def inspectTrainProgramTemplateWithProtectionModes (train : TrainMaterialization)
    (dispatchInterlockingRouteId selectionPolicy : String)
    (selectionRuns : List ProtectionModeSelectionRun) :
    Checked OperationalProgramTemplatePredicates := do
  w.validatePassengerStopPlan train
  refuseIf (train.id.isEmpty || (operationalTrainNumberNumericPart train.trainNumber).isNone
    || train.operatorId.isEmpty || dispatchInterlockingRouteId.isEmpty)
    (.unsafeMaterialization train.id)
  let route ← w.routeNamed train.routeVersionId
  route.validate
  let formation ← w.formationOf train.formationVersionId
  let template ← w.templateOf dispatchInterlockingRouteId
  let (reached, templates) := w.movementRouteTemplates train route template
  let resources : KeySet String :=
    Std.ExtTreeSet.ofList (templates.flatMap fun t => t.allResources.toList) compare
  let expected := Zugfolge.protectionModeSelectionRuns route
    formation.performance.protectionSystems
  pure
    { formationMobile := formation.performance.mobile
      headWithinRoute := decide (0 ≤ train.headRouteMm)
        && decide (train.headRouteMm ≤ route.lengthMm)
      protectionCompatible := expected.isSome
      protectionModeSelectionPolicyMatches := selectionPolicy == protectionModeSelectionPolicyV1
      protectionModeSelectionsMatch := expected.any fun runs => decide (runs = selectionRuns)
      protectionModeSelectionRuns := selectionRuns
      protectionModeSelectionCount := route.legs.length
      movementKindMatches := template.movementKind == train.movementKind
        && templates.all fun t => t.movementKind == train.movementKind
      routeTemplateMatches := template.routeTemplateId == route.templateId
        && (templates.head?.any fun t => t.id == template.id)
        && templates.all fun t => t.routeTemplateId == route.templateId
      authorityPathResourcesCoverRoute :=
        (route.legs.filter fun leg => decide (train.headRouteMm ≤ leg.routeStartMm)).all
          fun leg => templates.any fun t =>
            t.authorityStartRouteMm == leg.routeStartMm
              && t.authorityEndRouteMm == leg.routeEndMm
              && decide (t.pathResources = leg.blockIds)
      authorityEndMatchesRoute := decide (reached = route.lengthMm)
      releaseAfterTailWithinAuthority := !templates.isEmpty && templates.all fun t =>
        decide (t.authorityStartRouteMm ≤ t.releaseAfterTailRouteMm)
          && decide (t.releaseAfterTailRouteMm ≤ t.authorityEndRouteMm)
      resourceBindingCount := resources.size }

/-- Inspects a program template with the conservative selection of protection modes. -/
def inspectTrainProgramTemplate (train : TrainMaterialization)
    (dispatchInterlockingRouteId : String) : Checked OperationalProgramTemplatePredicates := do
  let route ← w.routeNamed train.routeVersionId
  route.validate
  let formation ← w.formationOf train.formationVersionId
  let selections := (Zugfolge.protectionModeSelectionRuns route
    formation.performance.protectionSystems).getD []
  w.inspectTrainProgramTemplateWithProtectionModes train dispatchInterlockingRouteId
    protectionModeSelectionPolicyV1 selections

/-- All predicates of a program template hold. -/
def validateTrainProgramTemplate (train : TrainMaterialization)
    (dispatchInterlockingRouteId : String) : Checked Unit := do
  let predicates ← w.inspectTrainProgramTemplate train dispatchInterlockingRouteId
  demand predicates.isValid (.invalidProgramTemplate train.id)

/-! ### Physical continuity -/

variable (continuation : MovementContinuation)

/-- The successor's route follows the predecessor's: it names the base route and the
transition, and the actual route is physically the base route. -/
def continuationRouteFollows (predecessorRouteId : String)
    (predecessorRoute targetRoute : RouteVersion) (formationLength : Int) : Checked Unit := do
  let discontinuous := OperationalError.discontinuousMovementContinuation continuation.id
  refuseIf (targetRoute.predecessorId != some continuation.predecessorBaseRouteVersionId
    || targetRoute.transitionRouteMm != some continuation.successor.headRouteMm) discontinuous
  if continuation.predecessorBaseRouteVersionId ≠ predecessorRouteId then do
    let baseRoute ← w.routeNamed continuation.predecessorBaseRouteVersionId
    let equivalent ←
      physicallyEquivalentPredecessorRoutes predecessorRoute baseRoute formationLength
    demand equivalent discontinuous

/-- The successor stands exactly on the track of its predecessor; answers intervals,
blocks and direction of the successor. -/
def validateContinuationIntervals (predecessorRouteId predecessorFormationId : String)
    (predecessorIntervals : List TrackInterval) :
    Checked (List TrackInterval × KeySet String × Direction) := do
  let discontinuous := OperationalError.discontinuousMovementContinuation continuation.id
  let head := continuation.successor.headRouteMm
  demand (continuation.successor.formationVersionId == predecessorFormationId)
    (.movementContinuationFormationMismatch continuation.id)
  let formation ← w.formationOf predecessorFormationId
  let predecessorRoute ← w.routeNamed predecessorRouteId
  let targetRoute ← w.routeNamed continuation.successor.routeVersionId
  let formationLength : Int := formation.performance.lengthMm
  w.continuationRouteFollows continuation predecessorRouteId predecessorRoute targetRoute
    formationLength
  refuseIf (decide (head < formationLength) || decide (targetRoute.lengthMm ≤ head))
    discontinuous
  let targetTail ← orRefuse (subChecked64 head formationLength) .arithmeticOverflow
  let targetIntervals ← intervalsFor targetRoute targetTail head
  let predecessorLength ← occupiedIntervalLengthMm predecessorIntervals
  demand (decide (predecessorLength = formationLength)) discontinuous
  let targetLength ← occupiedIntervalLengthMm targetIntervals
  demand (decide (targetLength = formationLength)) discontinuous
  demand (decide (canonicalContinuationIntervals predecessorIntervals
      (continuation.continuity == .reverseDirection)
    = canonicalContinuationIntervals targetIntervals false)) discontinuous
  refuseIf (continuation.continuity == .reverseDirection
    && (!formation.performance.frontControlStandAvailable
      || !formation.performance.rearControlStandAvailable))
    (.reversalWithoutControlStands continuation.id)
  let leg ← orRefuse (targetRoute.legAt head) (.incompleteRoute targetRoute.id)
  pure (targetIntervals, blocksFor targetRoute targetTail head, leg.direction)

/-- Route, formation and public stop of the predecessor, if it is known: a train, or the
successor of a pending continuation. -/
def knownContinuationPredecessor (trainId : String) : Option (String × String × Bool) :=
  match w.trains[trainId]? with
  | some train =>
    some (train.routeVersionId, train.formationVersionId, train.publicPassengerStop)
  | none =>
    ((Registry.values w.pendingMovementContinuations).find? fun candidate =>
      candidate.successor.id == trainId).map fun candidate =>
        (candidate.successor.routeVersionId, candidate.successor.formationVersionId,
          candidate.successor.publicPassengerStop)

/-- A continuation fits to its predecessor, as far as that is known. -/
def validateKnownContinuationBinding : Checked Unit :=
  match w.knownContinuationPredecessor continuation.predecessorTrainId with
  | none => .ok ()
  | some (routeId, formationId, publicPassengerStop) => do
    demand (continuation.minimumDwellMs == if publicPassengerStop then 300000 else 0)
      (.invalidMovementContinuationTimes continuation.id)
    let formation ← w.formationOf formationId
    let route ← w.routeNamed routeId
    let tail ← orRefuse (subChecked64 route.lengthMm formation.performance.lengthMm)
      .arithmeticOverflow
    let intervals ← intervalsFor route tail route.lengthMm
    let _ ← w.validateContinuationIntervals continuation routeId formationId intervals
    pure ()

/-! ### The graph of continuations -/

/-- The successor of every predecessor of a pending continuation. -/
def continuationGraph : Registry String String :=
  (Registry.values w.pendingMovementContinuations).foldl
    (fun acc continuation =>
      acc.insert continuation.predecessorTrainId continuation.successor.id) ∅

end OperationalWorld

/-- Follows a graph from a cursor to a target; `visited` holds the nodes before. -/
def graphReachesFrom (graph : Registry String String) (target : String) :
    ℕ → String → List String → Bool
  | 0, _, _ => false
  | rounds + 1, cursor, visited =>
    if cursor = target then true
    else if visited.contains cursor then false
    else
      match graph[cursor]? with
      | none => false
      | some next => graphReachesFrom graph target rounds next (cursor :: visited)

/-- The target is reached from the source. -/
def continuationGraphReaches (graph : Registry String String) (source target : String) : Bool :=
  graphReachesFrom graph target (graph.size + 2) source []

/-- Following a graph from a cursor comes back to the origin or to a node before. -/
def graphIsCyclicFrom (graph : Registry String String) (origin : String) :
    ℕ → String → List String → Bool
  | 0, _, _ => true
  | rounds + 1, cursor, visited =>
    match graph[cursor]? with
    | none => false
    | some next =>
      if next = origin ∨ visited.contains cursor then true
      else graphIsCyclicFrom graph origin rounds next (cursor :: visited)

namespace OperationalWorld

variable (w : OperationalWorld)

/-- The fields of a continuation agree with one another. -/
def continuationIsFormed (continuation : MovementContinuation) : Bool :=
  !(continuation.id.isEmpty || continuation.predecessorTrainId.isEmpty
    || continuation.predecessorBaseRouteVersionId.isEmpty
    || continuation.successor.id.isEmpty
    || continuation.successor.id == continuation.predecessorTrainId
    || decide (continuation.notBeforeMs < 0) || decide (continuation.minimumDwellMs < 0)
    || continuation.successorDispatch.trainId != continuation.successor.id
    || continuation.successorDispatch.interlockingRouteId.isEmpty
    || continuation.successorDispatch.waitingSinceMs != continuation.notBeforeMs
    || (continuation.successor.publicPassengerStop
      && continuation.successor.scheduledDepartureMs != some continuation.notBeforeMs))

/-- A new continuation may be queued. -/
def validateMovementContinuation (continuation : MovementContinuation) : Checked Unit := do
  demand (continuationIsFormed continuation) (.invalidMovementContinuation continuation.id)
  w.validateTrainProgramTemplate continuation.successor
    continuation.successorDispatch.interlockingRouteId
  refuseIf (w.trains.contains continuation.successor.id)
    (.movementContinuationTargetOccupied continuation.successor.id)
  let successorNumber ← orRefuse
    (operationalTrainNumberNumericPart continuation.successor.trainNumber)
    (.invalidTrainNumber continuation.successor.trainNumber)
  refuseIf (Registry.anyValue w.pendingMovementContinuations fun existing =>
    existing.predecessorTrainId == continuation.predecessorTrainId
      || existing.successor.id == continuation.successor.id)
    (.duplicateMovementContinuationLink continuation.id)
  let outgoing := w.continuationGraph.insert continuation.predecessorTrainId
    continuation.successor.id
  refuseIf (graphIsCyclicFrom outgoing continuation.predecessorTrainId (outgoing.size + 2)
    continuation.successor.id []) (.cyclicMovementContinuation continuation.id)
  -- A living ancestor may carry the same number.
  refuseIf (Registry.anyValue w.trains fun train =>
    operationalTrainNumberNumericPart train.trainNumber == some successorNumber
      && !continuationGraphReaches outgoing train.id continuation.predecessorTrainId)
    (.movementContinuationTargetOccupied continuation.successor.id)
  w.validateKnownContinuationBinding continuation

/-! ### Activation -/

/-- The resources that keep a continuation waiting: blocks and locks of others on the
track of the successor. -/
def continuationBlockedResources (predecessorId : String) (intervals : List TrackInterval)
    (blocks : KeySet String) : KeySet String :=
  let byTrains := (Registry.values w.trains).foldl (fun acc train =>
    if train.id == predecessorId then acc
    else
      let acc := acc ∪ (train.occupiedBlocks ∩ blocks)
      if intervalsOverlap train.occupiedIntervals intervals then acc ∪ train.occupiedBlocks
      else acc) (∅ : KeySet String)
  (Registry.values w.routeLocks).foldl (fun acc lock =>
    if lock.trainId == predecessorId then acc else acc ∪ (lock.resources ∩ blocks)) byTrains

/-- The resources of the locks of a train. -/
def lockedResources (trainId : String) : KeySet String :=
  Std.ExtTreeSet.ofList ((w.locksOf trainId).flatMap fun lock => lock.resources.toList) compare

/-- The locks without those of a train. -/
def dropLocks (trainId : String) : OperationalWorld :=
  { w with routeLocks := w.routeLocks.filter fun _ lock => lock.trainId != trainId }

/-- Hands the protection of one train over to another. -/
def moveProtection (fromTrainId toTrainId : String) : OperationalWorld :=
  { w with
    handoverProtectionByTrain := match w.handoverProtectionByTrain[fromTrainId]? with
      | some protection =>
        (w.handoverProtectionByTrain.erase fromTrainId).insert toTrainId protection
      | none => w.handoverProtectionByTrain }

/-- What the end of the predecessor of a continuation writes. -/
def commitPredecessorEnd (predecessorId successorId continuationId : String) :
    OperationalWorld :=
  let gone := { w.dropLocks predecessorId with trains := w.trains.erase predecessorId }
  let moved := ((gone.moveProtection predecessorId successorId).dropMotionEnds
    predecessorId).dropWaiting predecessorId
  { moved with
    pendingDispatchRequests := moved.pendingDispatchRequests.erase predecessorId
    continuationsWaitingByResource :=
      Registry.dropMember moved.continuationsWaitingByResource continuationId
    routeCompletedAtMs := moved.routeCompletedAtMs.erase predecessorId }

/-- The successor of a continuation. -/
def successorTrain (env : Env) (continuation : MovementContinuation) (formationId : String)
    (tail : RouteMillimetres) (intervals : List TrackInterval) (blocks : KeySet String)
    (direction : Direction) (serviceOutcome : Option ServiceOutcomeProgress) :
    OperationalTrain :=
  let successor := continuation.successor
  { passengerStops := successor.stopPlan.map (OperationalPassengerStopProgress.new env)
    serviceOutcome, id := successor.id, trainNumber := successor.trainNumber
    operatorId := successor.operatorId, movementKind := successor.movementKind
    routeVersionId := successor.routeVersionId, formationVersionId := formationId
    headRouteMm := successor.headRouteMm, tailRouteMm := tail, speedMmps := 0, direction
    motionState := .standing, motionSegment := none, authority := none
    occupiedIntervals := intervals, occupiedBlocks := blocks
    scheduledDepartureMs := successor.scheduledDepartureMs
    publicPassengerStop := successor.publicPassengerStop, waitingReason := none }

/-- What the begin of the successor of a continuation writes. -/
def commitSuccessor (continuation : MovementContinuation) (train : OperationalTrain) :
    OperationalWorld :=
  { w with
    trains := w.trains.insert train.id train
    pendingDispatchRequests :=
      w.pendingDispatchRequests.insert continuation.successor.id continuation.successorDispatch
    pendingMovementContinuations := w.pendingMovementContinuations.erase continuation.id }

/-- The greatest number of receipts of completed continuations. -/
def maxCompletedMovementContinuationReceipts : ℕ := 1024

/-- The receipt that is dropped first. -/
def oldestReceipt (receipts : Registry String MovementContinuationReceipt) : Option String :=
  receipts.toList.foldl (fun (acc : Option (ℕ × String)) entry =>
    match acc with
    | none => some (entry.2.completionSequence, entry.1)
    | some oldest =>
      if entry.2.completionSequence < oldest.1 then
        some (entry.2.completionSequence, entry.1)
      else some oldest) none |>.map Prod.snd

/-- Drops the oldest receipts above the greatest number. -/
def trimReceipts : ℕ → Registry String MovementContinuationReceipt →
    Registry String MovementContinuationReceipt
  | 0, receipts => receipts
  | rounds + 1, receipts =>
    if maxCompletedMovementContinuationReceipts < receipts.size then
      match oldestReceipt receipts with
      | some oldest => trimReceipts rounds (receipts.erase oldest)
      | none => receipts
    else receipts

/-- Stores the receipt of a completed continuation. -/
def storeReceipt (env : Env) (continuation : MovementContinuation) : OperationalWorld :=
  let receipts := w.completedMovementContinuations.insert continuation.id
    { payloadHash := env.continuationHash continuation, completedAtMs := w.nowMs
      completionSequence := w.eventSequence + 1 }
  { w with completedMovementContinuations := trimReceipts receipts.size receipts }

end OperationalWorld

end Zugfolge
