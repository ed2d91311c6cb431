/-
Fare control holds: a train is kept at a stop until the police have come.
-/
import Zugfolge.Operations.StopPlans

namespace Zugfolge

open Foundation

def fareControlPolicySchema : String := "zugfolge-fare-control-policy/v1"

def fareControlHoldSchema : String := "zugfolge-fare-control-hold/v1"

/-- The public cause of a hold. -/
def fareControlCause : String := "authority.police.fare-control"

/-- Refuses with a fare control code unless the condition holds. -/
def fareRequire (c : Bool) (code : String) : Checked Unit := demand c (.invalidFareControl code)

/-- The value of an option, or a refusal with a fare control code. -/
def fareExpect {α : Type} (o : Option α) (code : String) : Checked α :=
  orRefuse o (.invalidFareControl code)

/-- The hash of a policy without its hash field. -/
def fareControlPolicyHash (env : Env) (policy : FareControlPolicyV1) : String :=
  env.fareControlPolicyDigest { policy with contentHash := "" }

/-- The policy is complete and carries its own hash. -/
def validateFareControlPolicy (env : Env) (policy : FareControlPolicyV1) : Checked Unit := do
  fareRequire (policy.schema == fareControlPolicySchema
    && [policy.policyId, policy.worldId, policy.schedulePeriodId,
        policy.policeResponseModelId].all validId
    && decide (0 < policy.revision) && decide ((policy.revision : Int) ≤ maxStopContractInteger)
    && Text.isHash policy.contentHash
    && fareControlPolicyHash env policy == policy.contentHash) "invalid_fare_control_policy"
  fareRequire (policy.maxPoliceHoldsPerTrainRun == 1
    && policy.eligibleReasons == [.identityRefusal, .concreteDanger]
    && policy.targetRule == "next_unreached_scheduled_passenger_stop"
    && policy.publicCause == fareControlCause
    && decide (1 ≤ policy.maxWaitMs) && decide (policy.maxWaitMs ≤ 3600000)
    && Text.isHash policy.policeResponseModelHash
    && !policy.providerByStopId.isEmpty && decide (policy.providerByStopId.size ≤ 100000)
    && policy.providerByStopId.toList.all fun entry => validId entry.1 && validId entry.2)
    "invalid_fare_control_policy_contract"

namespace OperationalWorld

/-- Updates the fare control state, if there is one. -/
def updateFareControl (w : OperationalWorld) (f : FareControlState → FareControlState) :
    OperationalWorld :=
  { w with fareControlState := w.fareControlState.map f }

/-- The fare control state, empty when there is none. -/
def fareControlOrEmpty (w : OperationalWorld) : FareControlState := w.fareControlState.getD {}

/-- Updates the hold of a train, if there is one. -/
def updateHold (w : OperationalWorld) (trainId : String)
    (f : FareControlHoldV1 → FareControlHoldV1) : OperationalWorld :=
  w.updateFareControl fun state => { state with holds := state.holds.modify trainId f }

/-- Removes the due dates of the hold of a train. -/
def dropScheduledHolds (w : OperationalWorld) (trainId : String) : OperationalWorld :=
  w.updateFareControl fun state =>
    { state with scheduled := state.scheduled.filter fun s => s.trainId != trainId }

variable (w : OperationalWorld)

/-- The due date of the first scheduled hold. -/
def fareControlNextAt : Option SimMillis :=
  w.fareControlState.bind fun state => state.scheduled.toList.head?.map (·.atMs)

/-- The instant at which a requested hold begins, once the train has arrived. -/
def fareControlReadyAt (hold : FareControlHoldV1) : Checked (Option SimMillis) :=
  match w.trains[hold.trainRunId]?.bind (·.passengerStops) with
  | none => .ok none
  | some progress =>
    match progress.plan.stops.findIdx? fun stop => stop.stopId == hold.targetStopId with
    | none => .ok none
    | some index => do
      let stop ← orPanic progress.plan.stops[index]?
      let fact ← orPanic progress.receipts[index]?
      match fact.actualArrivalMs with
      | none => pure none
      | some arrival => do
        let dwelt ← orRefuse (addChecked64 arrival stop.minimumDwellMs) .arithmeticOverflow
        let ready := max dwelt stop.scheduledDepartureMs
        fareRequire (decide (ready ≤ maxStopContractInteger)) "fare_control_time_overflow"
        pure (some ready)

/-- The fare control state of a train that changes its region. -/
def fareControlHandover (trainId : String) : Option FareControlHandoverV1 := do
  let state ← w.fareControlState
  let hold ← state.holds[trainId]?
  some
    { hold, resumeRequest := state.resumeRequests[trainId]?
      revokedAuthority := state.revokedAuthorities[trainId]? }

/-- A new authority replaces the one a hold had taken. -/
def fareControlAuthorityReissued (trainId : String) : OperationalWorld :=
  w.updateFareControl fun state =>
    { state with revokedAuthorities := state.revokedAuthorities.erase trainId }

/-- Forgets the fare control state of a train that left the region. -/
def removeFareControlHandover (trainId : String) : OperationalWorld :=
  w.updateFareControl fun state =>
    { state with
      holds := state.holds.erase trainId
      resumeRequests := state.resumeRequests.erase trainId
      revokedAuthorities := state.revokedAuthorities.erase trainId
      scheduled := state.scheduled.filter fun s => s.trainId != trainId }

end OperationalWorld

/-- Replaces the due date of the hold of a train. -/
def replaceScheduledHold (trainId : String) (due : Option SimMillis) : M Unit := do
  M.update fun w => w.dropScheduledHolds trainId
  match due with
  | none => pure ()
  | some atMs => M.update fun w => w.updateFareControl fun state =>
    { state with scheduled := state.scheduled.insert ⟨atMs, trainId⟩ }

/-- Schedules the begin or the end of the hold of a train. -/
def scheduleFareControlHold (trainId : String) : M Unit := do
  let w ← M.world
  match w.fareControlHold trainId with
  | none => pure ()
  | some hold =>
    let due ← match hold.status with
      | .requested => M.check (w.fareControlReadyAt hold)
      | .active => pure hold.deadlineMs
      | .released => pure none
    replaceScheduledHold trainId due

/-- Publishes the state of the hold of a train. -/
def recordFareControlEvent (trainId kind : String) : M Unit := do
  let w ← M.world
  let hold ← M.check (fareExpect (w.fareControlHold trainId) "fare_control_hold_missing")
  record kind trainId (.fareControlHold
    { schemaVersion := "zugfolge-fare-control-hold-event/v1", worldId := hold.worldId
      trainRunId := hold.trainRunId, holdId := hold.holdId, targetStopId := hold.targetStopId
      atMs := w.nowMs, status := hold.status, outcome := hold.outcome
      revision := hold.revision, cause := fareControlCause, causalityId := hold.causalityId })

/-- The state with the hold of a train from another region. -/
def FareControlState.adopt (state : FareControlState) (trainId : String)
    (input : FareControlHandoverV1) : FareControlState :=
  { state with
    holds := state.holds.insert trainId input.hold
    resumeRequests := match input.resumeRequest with
      | some request => state.resumeRequests.insert trainId request
      | none => state.resumeRequests
    revokedAuthorities := match input.revokedAuthority with
      | some authority => state.revokedAuthorities.insert trainId authority
      | none => state.revokedAuthorities }

/-- Adopts the hold of a train from another region. -/
def adoptFareControlHandover (trainId : String) (input : Option FareControlHandoverV1) :
    M Unit := do
  match input with
  | none => pure ()
  | some input =>
    let w ← M.world
    M.check (fareRequire (input.hold.worldId == w.worldId
      && input.hold.trainRunId == trainId && (w.fareControlHold trainId).isNone)
      "fare_control_handover_conflict")
    M.update fun w => { w with
      fareControlState := some (w.fareControlOrEmpty.adopt trainId input) }
    scheduleFareControlHold trainId

/-- Binds a policy; holds already requested keep theirs. -/
def setFareControlPolicy (env : Env) (policy : FareControlPolicyV1) : M Unit := do
  let w ← M.world
  M.check (fareRequire w.preparedHandovers.isEmpty "fare_control_handover_pending")
  M.check (validateFareControlPolicy env policy)
  M.check (fareRequire (policy.worldId == w.worldId) "fare_control_world_mismatch")
  match w.fareControlState.bind (·.policy) with
  | some old =>
    if old = policy then pure ()
    else do
      M.check (fareRequire (policy.schedulePeriodId != old.schedulePeriodId
        || decide (old.revision < policy.revision)) "fare_control_policy_revision_regression")
      bindPolicy
  | none => bindPolicy
where
  /-- Stores the policy and publishes it. -/
  bindPolicy : M Unit := TracedM.staged do
    M.update fun w => { w with
      fareControlState := some { w.fareControlOrEmpty with policy := some policy } }
    let w ← M.world
    record "fare-control-policy-bound" w.worldId (.text policy.contentHash)

/-- A new hold of a train for the stop with the given index. -/
def OperationalWorld.newHold (w : OperationalWorld) (env : Env)
    (input : RequestFareControlHoldInputV1) (progress : OperationalPassengerStopProgress) :
    Checked FareControlHoldV1 := do
  let policy ← fareExpect (w.fareControlState.bind (·.policy)) "fare_control_policy_missing"
  fareRequire (policy.eligibleReasons.contains input.reason) "fare_control_reason_not_allowed"
  let index ← fareExpect (progress.receipts.findIdx? fun r => r.actualArrivalMs.isNone)
    "fare_control_future_stop_missing"
  let target ← orPanic progress.plan.stops[index]?
  let provider ← fareExpect policy.providerByStopId[target.stopId]?
    "fare_control_provider_missing"
  pure
    { schemaVersion := fareControlHoldSchema, worldId := w.worldId
      trainRunId := input.trainId, holdId := env.fareControlHoldId w.worldId input.trainId
      caseIds := Std.ExtTreeSet.ofList [input.caseId] compare, targetStopId := target.stopId
      requestedAtMs := w.nowMs, activatedAtMs := none, deadlineMs := none
      releasedAtMs := none, status := .requested, outcome := none, revision := 1
      causalityId := input.causalityId, providerId := provider
      policyHash := policy.contentHash, modelHash := policy.policeResponseModelHash, policy }

/-- A further case of a requested hold is admitted until the train arrives. -/
def admitCase (input : RequestFareControlHoldInputV1) (hold : FareControlHoldV1)
    (progress : OperationalPassengerStopProgress) : Checked Unit := do
  fareRequire (hold.status == .requested) "fare_control_train_quota_used"
  let index ← fareExpect
    (progress.plan.stops.findIdx? fun stop => stop.stopId == hold.targetStopId)
    "fare_control_target_unavailable"
  let fact ← orPanic progress.receipts[index]?
  fareRequire fact.actualArrivalMs.isNone "fare_control_bundling_closed"
  fareRequire (hold.policy.eligibleReasons.contains input.reason)
    "fare_control_reason_not_allowed"

/-- Requests a hold at the next stop the train has not reached. -/
def requestFareControlHold (env : Env) (input : RequestFareControlHoldInputV1) :
    M FareControlHoldV1 := do
  let w ← M.world
  M.check (fareRequire w.preparedHandovers.isEmpty "fare_control_handover_pending")
  M.check (fareRequire ([input.trainId, input.caseId, input.causalityId].all validId)
    "invalid_fare_control_request")
  let train ← M.check (fareExpect w.trains[input.trainId]? "fare_control_train_missing")
  M.check (fareRequire (train.movementKind == .train && train.publicPassengerStop)
    "fare_control_train_not_eligible")
  let progress ← M.check (fareExpect train.passengerStops "fare_control_stops_missing")
  M.check (fareRequire progress.cancellation.isNone "fare_control_target_unavailable")
  match w.fareControlHold input.trainId with
  | some hold =>
    M.check (admitCase input hold progress)
    if hold.caseIds.contains input.caseId then pure hold
    else TracedM.staged do
      M.check (fareRequire (decide (hold.caseIds.size < 20000)) "fare_control_case_limit")
      M.check (refuseIf (decide (u64Max ≤ hold.revision)) .arithmeticOverflow)
      M.update fun w => w.updateHold input.trainId fun h => { h with
        caseIds := h.caseIds.insert input.caseId
        revision := h.revision + 1, causalityId := input.causalityId }
      finish
  | none => TracedM.staged do
      let hold ← M.check (w.newHold env input progress)
      M.update fun w => w.updateFareControl fun state =>
        { state with holds := state.holds.insert input.trainId hold }
      finish
where
  /-- Publishes the request and answers the stored hold. -/
  finish : M FareControlHoldV1 := do
    recordFareControlEvent input.trainId "fare-control-hold-requested"
    let w ← M.world
    M.check (orPanic (w.fareControlHold input.trainId))

/-! ### Verification -/

namespace OperationalWorld

variable (w : OperationalWorld)

/-- The data of a hold that do not depend on its status. -/
def holdIsBound (env : Env) (trainId : String) (hold : FareControlHoldV1) : Bool :=
  hold.schemaVersion == fareControlHoldSchema && hold.worldId == w.worldId
    && hold.trainRunId == trainId
    && hold.holdId == env.fareControlHoldId w.worldId trainId
    && hold.policy.worldId == w.worldId && hold.policyHash == hold.policy.contentHash
    && hold.modelHash == hold.policy.policeResponseModelHash
    && hold.policy.providerByStopId[hold.targetStopId]? == some hold.providerId
    && !hold.caseIds.isEmpty && decide (hold.caseIds.size ≤ 20000)
    && hold.caseIds.toList.all validId && validId hold.causalityId
    && decide (0 < hold.revision) && decide ((hold.revision : Int) ≤ maxStopContractInteger)
    && decide (0 ≤ hold.requestedAtMs) && decide (hold.requestedAtMs ≤ w.nowMs)

/-- A requested hold waits for its train; the due date, if the train has arrived. -/
def verifyRequestedHold (trainId : String) (hold : FareControlHoldV1) (ready : Option SimMillis) :
    Checked (Option ScheduledFareControlHold) := do
  let train := w.trains[trainId]?
  fareRequire ((train.bind (·.passengerStops)).any fun progress =>
    progress.cancellation.isNone && progress.plan.stops.any fun stop =>
      stop.stopId == hold.targetStopId) "fare_control_target_unavailable"
  fareRequire (train.isSome && hold.activatedAtMs.isNone && hold.deadlineMs.isNone
    && hold.releasedAtMs.isNone && hold.outcome.isNone) "invalid_fare_control_requested"
  match ready with
  | none => pure none
  | some atMs => do
    fareRequire (decide (w.nowMs < atMs)) "fare_control_activation_overdue"
    pure (some ⟨atMs, trainId⟩)

/-- An active hold keeps its train standing without an authority until its deadline. -/
def verifyActiveHold (trainId : String) (hold : FareControlHoldV1) (ready : Option SimMillis) :
    Checked (Option ScheduledFareControlHold) := do
  let train ← fareExpect w.trains[trainId]? "fare_control_active_train_missing"
  let activated ← fareExpect hold.activatedAtMs "fare_control_activation_missing"
  let deadline ← fareExpect hold.deadlineMs "fare_control_deadline_missing"
  fareRequire (ready == some activated && decide (hold.requestedAtMs ≤ activated)
    && decide (activated ≤ w.nowMs)
    && addChecked64 activated hold.policy.maxWaitMs == some deadline
    && decide (deadline ≤ maxStopContractInteger) && decide (w.nowMs < deadline)
    && hold.releasedAtMs.isNone && hold.outcome.isNone && train.speedMmps == 0
    && train.motionSegment.isNone && train.authority.isNone) "invalid_fare_control_active"
  pure (some ⟨deadline, trainId⟩)

/-- A released hold carries its outcome and times in order. -/
def verifyReleasedHold (hold : FareControlHoldV1) : Checked Unit := do
  let releasedAt ← fareExpect hold.releasedAtMs "fare_control_release_missing"
  fareRequire (decide (hold.requestedAtMs ≤ releasedAt) && decide (releasedAt ≤ w.nowMs)
    && hold.outcome.isSome) "invalid_fare_control_released"
  if hold.outcome = some .targetUnavailable then
    fareRequire (hold.activatedAtMs.isNone && hold.deadlineMs.isNone)
      "invalid_fare_control_target_unavailable"
  else do
    let activated ← fareExpect hold.activatedAtMs "fare_control_activation_missing"
    let deadline ← fareExpect hold.deadlineMs "fare_control_deadline_missing"
    fareRequire (decide (hold.requestedAtMs ≤ activated) && decide (activated ≤ releasedAt)
      && addChecked64 activated hold.policy.maxWaitMs == some deadline
      && decide (deadline ≤ maxStopContractInteger)
      && (if hold.outcome = some .timeout then decide (releasedAt = deadline)
        else decide (releasedAt < deadline))) "invalid_fare_control_released_time"

/-- One hold is consistent; its due date, if it has one. -/
def verifyHold (env : Env) (trainId : String) (hold : FareControlHoldV1) :
    Checked (Option ScheduledFareControlHold) := do
  validateFareControlPolicy env hold.policy
  fareRequire (w.holdIsBound env trainId hold) "invalid_fare_control_hold"
  let ready ← w.fareControlReadyAt hold
  match hold.status with
  | .requested => w.verifyRequestedHold trainId hold ready
  | .active => w.verifyActiveHold trainId hold ready
  | .released => do
    w.verifyReleasedHold hold
    pure none

/-- An authority taken by a hold belongs to the train and to one of its locks. -/
def verifyRevokedAuthority (state : FareControlState) (trainId : String)
    (authority : MovementAuthority) : Checked Unit := do
  let hold ← fareExpect state.holds[trainId]? "fare_control_hold_missing"
  let train ← fareExpect w.trains[trainId]? "fare_control_train_missing"
  fareRequire (hold.status != .requested && train.authority.isNone
    && authority.trainId == trainId && authority.routeVersionId == train.routeVersionId
    && (hold.activatedAtMs.any fun activated => decide (authority.issuedAtMs ≤ activated))
    && w.routeLocks[authority.sourceRouteLockId]?.any fun lock => lock.trainId == trainId)
    "invalid_fare_control_revoked_authority"

/-- The fare control state is consistent. -/
def verifyFareControl (env : Env) : Checked Unit :=
  match w.fareControlState with
  | none => .ok ()
  | some state => do
    match state.policy with
    | none => pure ()
    | some policy => do
      validateFareControlPolicy env policy
      fareRequire (policy.worldId == w.worldId) "fare_control_world_mismatch"
    fareRequire (decide (state.holds.size ≤ 1000000)) "fare_control_hold_limit"
    let scheduled ← state.holds.toList.foldlM (fun acc entry => do
      let due ← w.verifyHold env entry.1 entry.2
      pure (match due with
        | some s => acc.insert s
        | none => acc)) (∅ : KeySet ScheduledFareControlHold)
    fareRequire (decide (scheduled = state.scheduled)) "fare_control_schedule_mismatch"
    state.resumeRequests.toList.forM fun entry =>
      fareRequire (entry.2.trainId == entry.1 && w.fareControlBlocksDeparture entry.1
        && decide (entry.2.waitingSinceMs ≤ w.nowMs)) "invalid_fare_control_resume_request"
    state.revokedAuthorities.toList.forM fun entry =>
      w.verifyRevokedAuthority state entry.1 entry.2

end OperationalWorld

end Zugfolge
