/-
The dispatcher: safe candidates in lexicographic order.
-/
import Zugfolge.Operations.Driver

namespace Zugfolge

open Foundation

/-- Tries one candidate; a route that is not safe is no failure. -/
def dispatchCandidate (candidate : DispatchRequest) : M Bool := do
  match ← TracedM.attempt (lockRoute candidate.trainId candidate.interlockingRouteId) with
  | .ok _ =>
    record "dispatcher-decision" candidate.trainId
      (.text s!"route={candidate.interlockingRouteId};lexicographic=v1")
    pure true
  | .error (.refused (.unsafeRoute _)) => pure false
  | .error failure => TracedM.fail failure

/-- Tries candidates in order up to the first that is given its route. -/
def dispatchFirst : List DispatchRequest → M (Option String)
  | [] => pure none
  | candidate :: rest => do
    if ← dispatchCandidate candidate then pure (some candidate.trainId)
    else dispatchFirst rest

/-- Gives a route to the first safe candidate. -/
def dispatch (requests : List DispatchRequest) : M (Option String) := do
  let w ← M.world
  M.check w.ensureNotPrepared
  dispatchFirst (sortCandidates w.nowMs requests)

/-! ### Pending requests -/

/-- How a pending request is treated. -/
inductive PendingDecision where
  | skip
  | completed (trainId : String)
  | missingRoute (trainId : String)
  | candidate (request : DispatchRequest)

namespace OperationalWorld

variable (w : OperationalWorld)

/-- How the world treats a pending request. -/
def decidePending (request : DispatchRequest) : Checked PendingDecision := do
  if w.nowMs < request.waitingSinceMs then pure .skip
  else
    let train ← w.trainOf request.trainId
    let route ← w.routeOf train
    if train.headRouteMm = route.lengthMm then pure (.completed train.id)
    else if w.passengerStopWaiting request.trainId then pure .skip
    else if train.speedMmps != 0 || decide (train.motionState ≠ .standing)
        || train.motionSegment.isSome || train.authority.isSome then
      pure .skip
    else
      let template ←
        if train.movementKind = .train then
          w.departureInterlockingRoute request.trainId route.templateId train.headRouteMm
        else
          pure ((w.infra.interlockingRoute request.interlockingRouteId).filter fun template =>
            template.authorityStartRouteMm == train.headRouteMm)
      match template with
      | none => pure (.missingRoute train.id)
      | some template =>
        pure (.candidate { request with interlockingRouteId := template.id })

/-- Forgets the request of a train at the end of its route. -/
def completeRequest (trainId : String) : OperationalWorld :=
  { w with
    pendingDispatchRequests := w.pendingDispatchRequests.erase trainId
    waitingByResource := Registry.dropMember w.waitingByResource trainId }.updateTrain trainId
    fun train =>
      if train.waitingReason = some "waiting-for-route-lock"
          ∨ train.waitingReason = some "missing-route-authority" then
        { train with waitingReason := none }
      else train

/-- Marks a train without an interlocking route at its head. -/
def markMissingRoute (trainId : String) : OperationalWorld :=
  (w.dropWaiting trainId).updateTrain trainId fun train =>
    { train with waitingReason := some "missing-route-authority" }

/-- The trains that wait for one of the resources. -/
def trainsWaitingFor (resources : KeySet String) : KeySet String :=
  Std.ExtTreeSet.ofList (resources.toList.flatMap fun resource =>
    (w.waitingByResource[resource]?.map (·.toList)).getD []) compare

end OperationalWorld

/-- The trains whose requests are completed. -/
def PendingDecision.completedId : PendingDecision → Option String
  | .completed trainId => some trainId
  | _ => none

/-- The trains without an interlocking route. -/
def PendingDecision.missingRouteId : PendingDecision → Option String
  | .missingRoute trainId => some trainId
  | _ => none

/-- The requests that become candidates. -/
def PendingDecision.candidateRequest : PendingDecision → Option DispatchRequest
  | .candidate request => some request
  | _ => none

/-- Tries one pending candidate: locks its route, extends it and starts the train. -/
def startCandidate (env : Env) (candidate : DispatchRequest) : M (Option String) := do
  if ← dispatchCandidate candidate then
    let w ← M.world
    let train ← M.check (orPanic w.trains[candidate.trainId]?)
    if train.movementKind = .train then extendAvailableTrainAuthority env candidate.trainId
    finishInfrastructureAuthorityReissue candidate.trainId
    let _ ← planMotion env candidate.trainId
    pure (some candidate.trainId)
  else pure none

/-- Tries pending requests; answers the trains that were started. -/
def dispatchPendingRequests (env : Env) (requests : List DispatchRequest) : M (List String) := do
  let w ← M.world
  let decisions ← M.check (requests.mapM w.decidePending)
  TracedM.forEach (fun trainId => M.update fun w => w.completeRequest trainId)
    (decisions.filterMap (·.completedId))
  TracedM.forEach (fun trainId => M.update fun w => w.markMissingRoute trainId)
    (decisions.filterMap (·.missingRouteId))
  -- Allocations only add locks, so one round in the order of priority suffices.
  TracedM.collect (startCandidate env)
    (sortCandidates w.nowMs (decisions.filterMap (·.candidateRequest)))

/-- Tries all pending requests. -/
def dispatchPending (env : Env) : M (List String) := do
  let w ← M.world
  dispatchPendingRequests env (Registry.values w.pendingDispatchRequests)

/-- Tries the requests that wait for one of the resources. -/
def dispatchWaitingForResources (env : Env) (resources : KeySet String) : M (List String) := do
  let w ← M.world
  dispatchPendingRequests env ((w.trainsWaitingFor resources).toList.filterMap
    fun trainId => w.pendingDispatchRequests[trainId]?)

/-! ### Submitted requests -/

/-- One submitted request is one the train may wait with. -/
def OperationalWorld.admitRequest (w : OperationalWorld) (request : DispatchRequest) :
    Checked Unit := do
  let invalid := OperationalError.invalidDispatchRequest request.trainId
  refuseIf (request.trainId.isEmpty || request.interlockingRouteId.isEmpty
    || decide (w.nowMs < request.waitingSinceMs)) invalid
  let train ← w.trainOf request.trainId
  refuseIf (train.speedMmps != 0 || decide (train.motionState ≠ .standing)
    || train.motionSegment.isSome || train.authority.isSome) invalid
  let template ← w.templateOf request.interlockingRouteId
  demand (template.movementKind == train.movementKind) .wrongMovementKind
  let route ← w.routeOf train
  demand (template.routeTemplateId == route.templateId) invalid
  if template.authorityStartRouteMm ≠ train.headRouteMm then do
    let retained ← w.retainedRoute request.trainId
    demand (retained.any fun r => r.id == template.id) invalid
  refuseIf (decide (train.headRouteMm = route.lengthMm)) invalid
  if train.movementKind = .train then do
    let indexed ← w.departureInterlockingRoute request.trainId route.templateId
      train.headRouteMm
    demand (indexed.any fun r => r.id == request.interlockingRouteId) invalid
  refuseIf (w.pendingDispatchRequests[request.trainId]?.any fun existing =>
    decide (existing ≠ request)) invalid

/-- Checks submitted requests in order; `seen` holds the requests before. -/
def OperationalWorld.admitRequests (w : OperationalWorld) :
    List DispatchRequest → List DispatchRequest → Checked Unit
  | [], _ => .ok ()
  | request :: rest, seen => do
    -- The last request of a train is the one compared.
    refuseIf ((seen.find? fun earlier => earlier.trainId == request.trainId).any
      fun earlier => decide (earlier ≠ request)) (.invalidDispatchRequest request.trainId)
    w.admitRequest request
    w.admitRequests rest (request :: seen)

/-- Hands requests to the dispatcher; those not safe yet stay pending. -/
def submitDispatchRequests (env : Env) (requests : List DispatchRequest) : M (List String) := do
  let w ← M.world
  M.check w.ensureNotPrepared
  M.check (w.admitRequests requests [])
  M.update fun w => { w with
    pendingDispatchRequests := requests.foldl
      (fun acc request => acc.insert request.trainId request) w.pendingDispatchRequests }
  dispatchPending env

/-! ### Shunting -/

/-- Locks a shunting route and starts the movement. -/
def executeShuntingOrder (env : Env) (trainId interlockingRouteId : String) : M Unit := do
  let w ← M.world
  M.check w.ensureNotPrepared
  let train ← M.check (w.trainOf trainId)
  M.check (demand (train.movementKind == .shunting) .wrongMovementKind)
  record "shunting-order-derived" trainId (.text "formation-and-facility-demand")
  let _ ← lockRoute trainId interlockingRouteId
  let _ ← planMotion env trainId
  record "shunting-order-executing" trainId (.text interlockingRouteId)

/-- Tries shunting routes in order up to the first that can be locked. -/
def shuntOnFirst (env : Env) (need : AutomaticShuntingNeed) : List String → M String
  | [] => M.reject .noSafeShuntingRoute
  | routeId :: rest => do
    match ← TracedM.attempt (lockRoute need.trainId routeId) with
    | .error (.refused _) => shuntOnFirst env need rest
    | .error failure => TracedM.fail failure
    | .ok _ =>
      record "shunting-plan-derived" need.trainId
        (.text s!"need={need.id};purpose={need.purpose.debugName};route={routeId}")
      let _ ← planMotion env need.trainId
      record "shunting-plan-executing" need.trainId (.text need.id)
      pure routeId

/-- Derives the shunting route from the need. -/
def executeAutomaticShunting (env : Env) (need : AutomaticShuntingNeed) : M String := do
  let w ← M.world
  M.check w.ensureNotPrepared
  M.check (refuseIf (need.id.isEmpty || decide (need.minimumAuthorityEndRouteMm ≤ 0))
    .invalidShuntingNeed)
  let train ← M.check (w.trainOf need.trainId)
  M.check (demand (train.movementKind == .shunting) .wrongMovementKind)
  shuntOnFirst env need ((w.infra.shuntingInterlockingRoutes
    need.minimumAuthorityEndRouteMm).map (·.id))

end Zugfolge
