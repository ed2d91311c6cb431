/-
What a step does to a train.

An invariant of single trains reads a train after a step; the classification says where
that train comes from.  Evidence and waiting reason are left out.

* `TrainEffect`, `Step.trainEffect`: the origin of a train after a step.
-/
import Zugfolge.Behaviour.Effects

namespace Zugfolge

open Foundation

/-- The worlds have the same trains, up to evidence and waiting reasons. -/
def SameTrains (v w : OperationalWorld) : Prop :=
  ∀ id : String, (w.trains[id]?).map OperationalTrain.core
    = (v.trains[id]?).map OperationalTrain.core

namespace SameTrains

variable {v w u : OperationalWorld}

lemma of_eq (h : w.trains = v.trains) : SameTrains v w := fun id => by rw [h]

lemma refl (w : OperationalWorld) : SameTrains w w := of_eq rfl

lemma trans (h : SameTrains v w) (k : SameTrains w u) : SameTrains v u :=
  fun id => (k id).trans (h id)

lemma of_quiet (h : Quiet v w) : SameTrains v w := h.trains

lemma of_almostQuiet (h : AlmostQuiet v w) : SameTrains v w := (show Quiet _ w from h).trains

lemma before (h : SameTrains v w) {id : String} {train : OperationalTrain}
    (ht : w.trains[id]? = some train) :
    ∃ old, v.trains[id]? = some old ∧ train.core = old.core := by
  have hm := h id
  rw [ht] at hm
  cases hold : v.trains[id]? with
  | none =>
    rw [hold] at hm
    cases hm
  | some old =>
    rw [hold] at hm
    exact ⟨old, rfl, Option.some.inj hm⟩

end SameTrains

/-- In the later world one train is updated. -/
def UpdatesTrain (trainId : String) (f : OperationalTrain → OperationalTrain)
    (v w : OperationalWorld) : Prop :=
  ∀ (id : String) (train : OperationalTrain), w.trains[id]? = some train →
    ∃ old, v.trains[id]? = some old
      ∧ if id = trainId then train.core = (f old).core else train.core = old.core

namespace UpdatesTrain

variable {v w u : OperationalWorld} {trainId : String} {f : OperationalTrain → OperationalTrain}

/-- The update of a train in a world whose trains are read beforehand and afterwards. -/
lemma of_modify (hf : ∀ train, (f train).core = (f train.core).core)
    (hbefore : SameTrains v w) (hmodify : u.trains = w.trains.modify trainId f) :
    UpdatesTrain trainId f v u := by
  intro id train ht
  rw [hmodify, Registry.getElem?_modify] at ht
  split at ht
  case isTrue hid =>
    subst hid
    obtain ⟨middle, hmiddle, rfl⟩ := Option.map_eq_some_iff.mp ht
    obtain ⟨old, hold, hcore⟩ := hbefore.before hmiddle
    refine ⟨old, hold, ?_⟩
    rw [if_pos rfl, hf middle, hf old, hcore]
  case isFalse hid =>
    obtain ⟨old, hold, hcore⟩ := hbefore.before ht
    refine ⟨old, hold, ?_⟩
    rw [if_neg hid]
    exact hcore

lemma trans_same (h : UpdatesTrain trainId f v w) (k : SameTrains w u) :
    UpdatesTrain trainId f v u := by
  intro id train ht
  obtain ⟨middle, hmiddle, hcore⟩ := k.before ht
  obtain ⟨old, hold, hupdate⟩ := h id middle hmiddle
  refine ⟨old, hold, ?_⟩
  rw [hcore]
  exact hupdate

end UpdatesTrain

/-- A train after the release of one of its locks. -/
def RouteRelease.applied (release : RouteRelease) (train : OperationalTrain) : OperationalTrain :=
  { train with
    occupiedBlocks :=
      if release.terminal then train.occupiedBlocks ∪ release.template.overlapResources
      else train.occupiedBlocks
    authority := train.authority.filter fun authority =>
      !(authority.sourceRouteLockId == release.lock.id
        && decide (authority.endRouteMm ≤ train.headRouteMm)) }

/-- Where a train comes from that is there after a step: it is an old train, or one of the
old trains updated, or a new one. -/
inductive TrainEffect (d : Debt) (w : OperationalWorld) (vs : List Visit) (id : String)
    (train : OperationalTrain) : Prop where
  | kept {old : OperationalTrain} : w.trains[id]? = some old → train.core = old.core →
      TrainEffect d w vs id train
  | materialized {w₁ : OperationalWorld} {env : Env} {input : TrainMaterialization}
      {plan : MaterializationPlan} :
      vs = [⟨w₁, .materialize input⟩] → id = input.id →
      w.admitMaterialization input = .ok plan →
      train.core = (OperationalWorld.materializedTrain env input plan none).core →
      TrainEffect d w vs id train
  | reformed {w₁ : OperationalWorld} {newFormationId : String} {vehicleIds : List String}
      {old read : OperationalTrain} {change : FormationChange} :
      vs = [⟨w₁, .changeFormation id newFormationId vehicleIds⟩] →
      w.admitFormationChange id newFormationId vehicleIds = .ok (read, change) →
      w.trains[id]? = some old →
      train.core = { old.core with
        formationVersionId := change.formation.id
        tailRouteMm := change.tailRouteMm
        occupiedIntervals := change.occupiedIntervals
        occupiedBlocks := change.occupiedBlocks } →
      TrainEffect d w vs id train
  | rerouted {routeVersionId : String} {direction : Direction} {old : OperationalTrain} :
      w.admitReroute id routeVersionId = .ok direction → w.trains[id]? = some old →
      train.core = { old.core with routeVersionId, direction } → TrainEffect d w vs id train
  | authorized {templateId lockId : String} {continuation : Bool} {old read : OperationalTrain}
      {template : InterlockingRouteTemplate} :
      vs = [⟨w, .lockRoute id templateId⟩] →
      w.admitRoute id templateId continuation = .ok (read, template) →
      w.trains[id]? = some old →
      train.core = { old.core with
        authority := some (w.authorityFor read id lockId template) } →
      TrainEffect d w vs id train
  | started {segment : MotionSegment} {old : OperationalTrain} :
      vs = [⟨w, .planMotion id⟩] → decideMotion w id = .ok (.start segment) →
      w.trains[id]? = some old →
      (∀ progress, old.passengerStops = some progress → progress.arrivalAtNext = none) →
      train.core = { old.core with motionSegment := some segment, motionState := .moving } →
      TrainEffect d w vs id train
  | left {segment : MotionSegment} {old : OperationalTrain}
      {progress : OperationalPassengerStopProgress} {stop : OperationalPassengerStop}
      {due : SimMillis} :
      vs = [⟨w, .planMotion id⟩] → decideMotion w id = .ok (.start segment) →
      w.trains[id]? = some old → old.passengerStops = some progress →
      progress.arrivalAtNext.isSome = true → progress.departureDue = some due → due ≤ w.nowMs →
      progress.plan.stops[progress.nextStopIndex]? = some stop →
      old.headRouteMm = stop.routeMm →
      train.core = { old.core with
        motionSegment := some segment, motionState := .moving
        passengerStops := some (progress.left w.nowMs) } →
      TrainEffect d w vs id train
  | arrived {old : OperationalTrain} {progress : OperationalPassengerStopProgress}
      {stop : OperationalPassengerStop} {due : SimMillis} :
      w.trains[id]? = some old → old.passengerStops = some progress →
      old.arrivesAt progress = true →
      progress.plan.stops[progress.nextStopIndex]? = some stop →
      addChecked64 w.nowMs stop.minimumDwellMs = some due → due ≤ maxStopContractInteger →
      train.core = { old.core with passengerStops := some (progress.arrived w.nowMs) } →
      TrainEffect d w vs id train
  | cancelled {old : OperationalTrain} {receipt : OperationalPassengerStopCancellation} :
      w.trains[id]? = some old →
      train.core = { old.core with
        passengerStops :=
          old.passengerStops.map fun p => { p with cancellation := some receipt } } →
      TrainEffect d w vs id train
  | ended {w₁ : OperationalWorld} {old : OperationalTrain} {segment : MotionSegment}
      {head : RouteMillimetres} {speed : ℕ} {route : RouteVersion} {formation : FormationVersion}
      {place : TrainPlace} {leg : RouteLeg} :
      vs = [⟨w₁, .finishMotionSegment id⟩] → w.trains[id]? = some old →
      old.motionSegment = some segment → segment.positionAt w.nowMs = .ok head →
      w.infra.routeVersion old.routeVersionId = some route →
      w.formations[old.formationVersionId]? = some formation →
      w.placeOn id route formation head = .ok place →
      train.core = ((old.core.placed place).segmentEnded speed leg) → TrainEffect d w vs id train
  | released {releases : List RouteRelease} {old : OperationalTrain} :
      w.clearedRoutes id = .ok releases → w.trains[id]? = some old →
      train.core = releases.foldl (fun t release => release.applied t) old.core →
      TrainEffect d w vs id train
  | usedUp {head : RouteMillimetres} {old : OperationalTrain} :
      vs = [⟨w, .endAuthority id⟩] → w.trains[id]? = some old →
      train.core = old.core.authorityUsed head → TrainEffect d w vs id train
  | folded {old : OperationalTrain} {segment : MotionSegment} {head : RouteMillimetres}
      {route : RouteVersion} {formation : FormationVersion} {place : TrainPlace}
      {leg : RouteLeg} :
      vs = [⟨w, .foldPosition id⟩] → w.trains[id]? = some old →
      old.motionSegment = some segment → segment.positionAt w.nowMs = .ok head →
      w.infra.routeVersion old.routeVersionId = some route →
      w.formations[old.formationVersionId]? = some formation →
      w.placeOn id route formation head = .ok place →
      train.core = { old.core.placed place with direction := leg.direction } →
      TrainEffect d w vs id train
  | stopped {reason : String} {old : OperationalTrain} :
      vs = [⟨w, .safeStop id⟩] → w.trains[id]? = some old →
      train.core = (old.core.stopped reason).core → TrainEffect d w vs id train
  | freed {old : OperationalTrain} :
      w.trains[id]? = some old → old.motionSegment = none → old.authority = none →
      train.core = { old.core with motionState := .standing } → TrainEffect d w vs id train
  | withheld {old : OperationalTrain} :
      w.trains[id]? = some old → old.speedMmps = 0 → old.motionSegment = none →
      train.core = { old.core with authority := none } → TrainEffect d w vs id train
  | continued {env : Env} {continuation : MovementContinuation} {predecessor : OperationalTrain}
      {formation : FormationVersion} {tail : RouteMillimetres} {intervals : List TrackInterval}
      {blocks : KeySet String} {direction : Direction} {key : String} :
      vs = [⟨w, .continueMovement continuation.id⟩] →
      w.pendingMovementContinuations[key]? = some continuation →
      w.trains[continuation.predecessorTrainId]? = some predecessor →
      w.admitActivation continuation predecessor = .ok (intervals, blocks, direction) →
      w.formations[predecessor.formationVersionId]? = some formation →
      subChecked64 continuation.successor.headRouteMm formation.performance.lengthMm
        = some tail →
      id = continuation.successor.id →
      train.core = (OperationalWorld.successorTrain env continuation
        predecessor.formationVersionId tail intervals blocks direction none).core →
      TrainEffect d w vs id train
  | adopted {handover : RegionHandover} :
      vs = [⟨w, .acceptHandover handover⟩] → handover ∈ d.letters →
      w.admitHandover handover = .ok () → id = handover.train.id →
      train.core = { handover.train.core with
        occupiedBlocks := handover.train.occupiedBlocks ∪ handover.protectedResources } →
      TrainEffect d w vs id train

namespace TrainEffect

variable {d : Debt} {w v u : OperationalWorld} {vs : List Visit} {id trainId : String}
  {train : OperationalTrain} {f : OperationalTrain → OperationalTrain}

lemma of_same (h : SameTrains w u) (ht : u.trains[id]? = some train) :
    TrainEffect d w vs id train := by
  obtain ⟨old, hold, hcore⟩ := h.before ht
  exact .kept hold hcore

lemma of_update (h : UpdatesTrain trainId f w u) (ht : u.trains[id]? = some train)
    (hupdated : ∀ old, w.trains[trainId]? = some old → train.core = (f old).core →
      TrainEffect d w vs trainId train) : TrainEffect d w vs id train := by
  obtain ⟨old, hold, hcore⟩ := h id train ht
  split at hcore
  case isTrue hid =>
    subst hid
    exact hupdated old hold hcore
  case isFalse => exact .kept hold hcore

lemma of_insert {new : OperationalTrain} (hbefore : SameTrains w v)
    (hinsert : u.trains = v.trains.insert trainId new) (ht : u.trains[id]? = some train)
    (hnew : id = trainId → train = new → TrainEffect d w vs id train) :
    TrainEffect d w vs id train := by
  rw [hinsert, Registry.getElem?_insert] at ht
  split at ht
  case isTrue hid =>
    cases ht
    exact hnew hid rfl
  case isFalse => exact .of_same hbefore ht

lemma of_erase (herase : u.trains = w.trains.erase trainId) (ht : u.trains[id]? = some train) :
    TrainEffect d w vs id train := by
  rw [herase, Registry.getElem?_erase] at ht
  split at ht
  case isTrue => cases ht
  case isFalse => exact .kept ht rfl

end TrainEffect

/-! ### Trains after the larger writes -/

namespace OperationalWorld

variable (w : OperationalWorld)

lemma trains_commitRetirement (trainId : String) (signals : List String) :
    (w.commitRetirement trainId signals).trains = w.trains.erase trainId := by
  simp only [commitRetirement, rebuildResourceLifecycle, dropWaiting, dropSchedules,
    updateFareControl, dropLocks, dropDepartures, dropMotionEnds]

lemma trains_commitFinish (handover : RegionHandover) :
    (w.commitFinish handover).trains = w.trains.erase handover.train.id := by
  simp only [commitFinish, rebuildResourceLifecycle, releaseServicePlan, updateServiceOutcomes,
    dropWaiting, dropSchedules, dropDepartures, dropMotionEnds, removeFareControlHandover,
    updateFareControl, dropLocks]

lemma trains_commitSafeStop (trainId reason : String) :
    (w.commitSafeStop trainId reason).trains
      = w.trains.modify trainId fun train => train.stopped reason := by
  simp only [commitSafeStop, dropContinuationWaitsFrom, dropWaiting, dropDepartures,
    dropMotionEnds, updateTrain]

lemma trains_commitRouteLock (train : OperationalTrain) (trainId templateId lockId : String)
    (template : InterlockingRouteTemplate) :
    ((w.setSwitches template).commitRouteLock train trainId templateId lockId template).trains
      = w.trains.modify trainId fun t =>
        { t with authority := some (w.authorityFor train trainId lockId template) } := by
  simp only [commitRouteLock, setSwitches, dropWaiting, updateTrain,
    fareControlAuthorityReissued, updateFareControl, authorityFor]

lemma trains_commitHoldActivation (trainId : String) (train : OperationalTrain)
    (deadline : SimMillis) :
    (w.commitHoldActivation trainId train deadline).trains
      = w.trains.modify trainId fun t =>
        { t with authority := none, waitingReason := some fareControlCause } := by
  simp only [commitHoldActivation, updateHold, updateFareControl, dropWaiting, updateTrain]

lemma trains_commitHoldRelease (trainId : String) (outcome : FareControlHoldOutcomeV1)
    (causality : String) :
    (w.commitHoldRelease trainId outcome causality).trains = w.trains := by
  simp only [commitHoldRelease, dropScheduledHolds, updateHold, updateFareControl]

lemma trains_commitFormationChange (trainId : String) (change : FormationChange) :
    (w.commitFormationChange trainId change).trains
      = w.trains.modify trainId fun train => { train with
        formationVersionId := change.formation.id
        tailRouteMm := change.tailRouteMm
        occupiedIntervals := change.occupiedIntervals
        occupiedBlocks := change.occupiedBlocks } := by
  simp only [commitFormationChange, rebuildResourceLifecycle, updateTrain, putFormation]

lemma trains_continued (env : Env) (continuation : MovementContinuation)
    (predecessor : OperationalTrain) (tail : RouteMillimetres) (intervals : List TrackInterval)
    (blocks : KeySet String) (direction : Direction) :
    (w.continued env continuation predecessor tail intervals blocks direction).trains
      = (w.trains.erase predecessor.id).insert continuation.successor.id
        (successorTrain env continuation predecessor.formationVersionId tail intervals blocks
          direction none) := by
  simp only [continued, commitSuccessor, commitPredecessorEnd, moveProtection, dropMotionEnds,
    dropWaiting, dropLocks, successorTrain]

lemma trains_adopted (handover : RegionHandover) :
    (w.adopted handover).trains
      = (w.trains.insert handover.train.id handover.train).modify handover.train.id fun train =>
        { train with
          occupiedBlocks := train.occupiedBlocks ∪ handover.protectedResources } := by
  simp only [adopted, adoptSchedules, adoptLocks, updateTrain, putTrain, putFormation,
    adoptVehicles]

lemma trains_commitRelease (trainId : String) (release : RouteRelease) :
    (w.commitRelease trainId release).trains = w.trains.modify trainId release.applied := by
  simp only [commitRelease, updateTrain]
  rfl

lemma trains_released (trainId : String) (releases : List RouteRelease) :
    UpdatesTrain trainId (fun train => releases.foldl (fun t release => release.applied t) train)
      w (w.released trainId releases) := by
  induction releases generalizing w with
  | nil =>
    intro id train ht
    exact ⟨train, ht, by simp⟩
  | cons release releases ih =>
    intro id train ht
    obtain ⟨middle, hmiddle, hcore⟩ := ih (w.commitRelease trainId release) id train ht
    rw [trains_commitRelease, Registry.getElem?_modify] at hmiddle
    split at hmiddle
    case isTrue hid =>
      subst hid
      obtain ⟨old, hold, rfl⟩ := Option.map_eq_some_iff.mp hmiddle
      exact ⟨old, hold, by simpa using hcore⟩
    case isFalse hid =>
      rw [if_neg hid] at hcore
      exact ⟨middle, hmiddle, by rw [if_neg hid]; exact hcore⟩

end OperationalWorld

lemma core_foldl_applied (releases : List RouteRelease) (train : OperationalTrain) :
    (releases.foldl (fun t release => release.applied t) train).core
      = releases.foldl (fun t release => release.applied t) train.core := by
  induction releases generalizing train with
  | nil => rfl
  | cons release releases ih => exact ih (release.applied train)

lemma foldl_applied_keeps {β : Type} (f : OperationalTrain → β)
    (hf : ∀ (release : RouteRelease) train, f (release.applied train) = f train)
    (releases : List RouteRelease) (train : OperationalTrain) :
    f (releases.foldl (fun t release => release.applied t) train) = f train := by
  induction releases generalizing train with
  | nil => rfl
  | cons release releases ih => exact (ih _).trans (hf release train)

/-- The origin of a train after a step. -/
theorem Step.trainEffect {d d' : Debt} {w w' : OperationalWorld} {vs : List Visit}
    (h : Step d w vs d' w') {id : String} {train : OperationalTrain}
    (ht : w'.trains[id]? = some train) : TrainEffect d w vs id train := by
  cases h with
  | quiet hq => exact .of_same (.of_quiet hq) ht
  | materialize hadmitted hq =>
    refine .of_insert (.of_quiet hq) rfl ht fun hid htrain => ?_
    exact .materialized rfl hid hadmitted (by rw [htrain])
  | retireTrain => exact .of_erase (w.trains_commitRetirement _ _) ht
  | changeFormation hadmitted hq =>
    refine .of_update (.of_modify (fun _ => rfl) (.of_quiet hq)
      (OperationalWorld.trains_commitFormationChange _ _ _)) ht fun old hold hcore => ?_
    exact .reformed rfl hadmitted hold hcore
  | rerouteTrain hadmitted =>
    refine .of_update (.of_modify (fun _ => rfl) (.refl w) rfl) ht fun old hold hcore => ?_
    exact .rerouted hadmitted hold hcore
  | lockRoute hadmitted _ =>
    refine .of_update (.of_modify (fun _ => rfl) (.refl w)
      (w.trains_commitRouteLock _ _ _ _ _)) ht fun old hold hcore => ?_
    exact .authorized rfl hadmitted hold hcore
  | planMotion hplan hnone =>
    refine .of_update (.of_modify (fun _ => rfl) (.refl w) rfl) ht fun old hold hcore => ?_
    exact .started rfl hplan hold (fun progress => hnone old progress hold) hcore
  | @leaveStop _ w₁ trainId segment read progress stop due hplan hread hstops harrived hdue
      hnow hstop hhead _ hq =>
    have hstarted : UpdatesTrain trainId (fun t => { t with
        motionSegment := some segment, motionState := .moving, waitingReason := none }) w w₁ :=
      UpdatesTrain.trans_same (.of_modify (fun _ => rfl) (.refl w) rfl) (.of_quiet hq)
    have hleft : UpdatesTrain trainId (fun t => { t with
        passengerStops := t.passengerStops.map fun p => p.left w₁.nowMs }) w₁
        (w₁.departed trainId) := .of_modify (fun _ => rfl) (.refl w₁) rfl
    obtain ⟨middle, hmiddle, hcore⟩ := hleft id train ht
    obtain ⟨old, hold, hmid⟩ := hstarted id middle hmiddle
    split at hcore
    case isTrue hid =>
      subst hid
      rw [if_pos rfl] at hmid
      rw [hread, Option.some.injEq] at hold
      subst hold
      have hclock : w₁.nowMs = w.nowMs := hq.nowMs
      have hkept : middle.passengerStops = some progress :=
        (congrArg OperationalTrain.passengerStops hmid).trans hstops
      refine .left rfl hplan hread hstops harrived hdue hnow hstop hhead ?_
      calc train.core
          = { middle.core with
              passengerStops := middle.passengerStops.map fun p => p.left w₁.nowMs } := hcore
        _ = { read.core with
              motionSegment := some segment, motionState := .moving
              passengerStops := some (progress.left w.nowMs) } := by
            rw [hkept, hmid, hclock]
            rfl
    case isFalse hid =>
      rw [if_neg hid] at hmid
      exact .kept hold (hcore.trans hmid)
  | @arrive _ w₁ _ trainId read progress stop due hread hstops harrives hstop hdue hbound hq
      hscheduled =>
    have hafter := (SameTrains.of_quiet hq).trans
      (.of_almostQuiet (OperationalWorld.rescheduled_almost hscheduled).1)
    refine .of_update (UpdatesTrain.trans_same (.of_modify (fun _ => rfl) (.refl w) rfl) hafter)
      ht fun old hold hcore => ?_
    rw [hread, Option.some.injEq] at hold
    subst hold
    refine .arrived hread hstops harrives hstop hdue hbound ?_
    rw [hcore, hstops]
    rfl
  | cancelPlan =>
    refine .of_update (.of_modify (fun _ => rfl) (.refl w) rfl) ht fun old hold hcore => ?_
    exact .cancelled hold hcore
  | @finishMotionSegment _ w₁ trainId read head speed route formation place leg hread hreached
      hroute hformation hplace _ hq =>
    have hended : (w₁.segmentFinished trainId place speed leg).trains
        = w₁.trains.modify trainId fun t => (t.placed place).segmentEnded speed leg := by
      refine Std.ExtTreeMap.ext_getElem? fun key => ?_
      simp only [OperationalWorld.segmentFinished, OperationalWorld.updateTrain,
        Registry.getElem?_modify]
      split
      · rw [if_true, Option.map_map]
        rfl
      · rfl
    refine .of_update (.of_modify (fun _ => rfl) (.of_quiet hq) hended) ht
      fun old hold hcore => ?_
    rw [w.trainOf_eq_ok, hold, Option.some.injEq] at hread
    subst hread
    simp only [OperationalWorld.reachedNow, checked_bind_eq_ok, orRefuse_eq_ok] at hreached
    obtain ⟨segment, hsegment, position, hposition, _, -, _, -, hreached⟩ := hreached
    cases hreached
    rw [w.routeOf_eq_ok] at hroute
    rw [w.formationOf_eq_ok] at hformation
    exact .ended rfl hold hsegment hposition hroute hformation hplace hcore
  | releaseRoutes hcleared _ hq =>
    refine .of_update (UpdatesTrain.trans_same (w.trains_released _ _) (.of_quiet hq)) ht
      fun old hold hcore => ?_
    exact .released hcleared hold (hcore.trans (core_foldl_applied _ _))
  | endAuthority =>
    refine .of_update (.of_modify (fun _ => rfl) (.refl w) rfl) ht fun old hold hcore => ?_
    exact .usedUp rfl hold hcore
  | @foldPosition _ trainId read segment head route formation place leg hread hsegment
      hposition hroute hformation hplace =>
    refine .of_update (.of_modify (fun _ => rfl) (.refl w) rfl) ht fun old hold hcore => ?_
    rw [hread, Option.some.injEq] at hold
    subst hold
    exact .folded rfl hread hsegment hposition hroute hformation hplace hcore
  | safeStop =>
    refine .of_update (.of_modify (fun _ => rfl) (.refl w) (w.trains_commitSafeStop _ _)) ht
      fun old hold hcore => ?_
    exact .stopped rfl hold hcore
  | releaseInfrastructureStop hread hsegment hauthority _ =>
    refine .of_update (.of_modify (fun _ => rfl) (.refl w) rfl) ht fun old hold hcore => ?_
    rw [hread, Option.some.injEq] at hold
    subst hold
    exact .freed hread hsegment hauthority hcore
  | @activateHold _ scheduled _ read _ _ _ _ _ _ _ hread hspeed hsegment =>
    refine .of_update (.of_modify (fun _ => rfl) (.refl w)
      ((w.withoutDue scheduled).trains_commitHoldActivation _ _ _)) ht
      fun old hold hcore => ?_
    rw [hread, Option.some.injEq] at hold
    subst hold
    exact .withheld hread hspeed hsegment hcore
  | releaseHold hends =>
    refine .of_same (.of_eq ?_) ht
    rw [OperationalWorld.trains_commitHoldRelease]
    cases hends with
    | unreachable => rfl
    | resolved => rfl
    | expired => rfl
  | queueContinuation _ _ hq => exact .of_same (.of_quiet hq) ht
  | continueMovement hpending hpredecessor _ _ hadmitted _ _ hformation htail hq =>
    obtain ⟨middle, hmiddle, hcore⟩ := (SameTrains.of_quiet hq).before ht
    rw [OperationalWorld.trains_continued, Registry.getElem?_insert] at hmiddle
    split at hmiddle
    case isTrue hid =>
      cases hmiddle
      exact .continued rfl hpending hpredecessor hadmitted hformation htail hid hcore
    case isFalse =>
      rw [Registry.getElem?_erase] at hmiddle
      split at hmiddle
      case isTrue => cases hmiddle
      case isFalse => exact .kept hmiddle hcore
  | beginHandover _ _ hq _ => exact .of_same (.of_quiet hq) ht
  | acceptHandover hletter _ _ hadmitted _ _ _ _ _ _ _ hq =>
    obtain ⟨middle, hmiddle, hcore⟩ := (SameTrains.of_almostQuiet hq).before ht
    rw [OperationalWorld.trains_adopted, Registry.getElem?_modify] at hmiddle
    split at hmiddle
    case isTrue hid =>
      subst hid
      simp only [Registry.getElem?_insert, if_true, Option.map_some, Option.some.injEq]
        at hmiddle
      subst hmiddle
      exact .adopted rfl hletter hadmitted rfl hcore
    case isFalse hid =>
      rw [Registry.getElem?_insert, if_neg hid] at hmiddle
      exact .kept hmiddle hcore
  | @finishHandover _ _ _ handover _ _ _ _ _ _ hq =>
    obtain ⟨middle, hmiddle, hcore⟩ := (SameTrains.of_quiet hq).before ht
    have hgone : (w.commitFinish handover).trains[id]? = some middle := hmiddle
    rw [OperationalWorld.trains_commitFinish, Registry.getElem?_erase] at hgone
    split at hgone
    case isTrue => cases hgone
    case isFalse => exact .kept hgone hcore
  | _ => exact .of_same (.of_eq rfl) ht

end Zugfolge
