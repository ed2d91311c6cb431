/-
What a step does to one part of a world.

A step writes a whole world; an invariant reads a few parts of it.  For each part there is
a classification of the steps by what they do to it.

* `NetworkEffect`, `Step.networkEffect`: the steps that do not keep them, by name.
-/
import Zugfolge.Behaviour.Letters

namespace Zugfolge

open Foundation

/-- The world keeps its name, infrastructure, switches, disruptions and messages; locks may
go. -/
structure SameNetwork (w w' : OperationalWorld) : Prop where
  worldId : w'.worldId = w.worldId
  regionId : w'.regionId = w.regionId
  infraReleaseId : w'.infraReleaseId = w.infraReleaseId
  infra : w'.infra = w.infra
  switchPositions : w'.switchPositions = w.switchPositions
  activeDisruptions : w'.activeDisruptions = w.activeDisruptions
  preparedHandovers : w'.preparedHandovers = w.preparedHandovers
  locks : ∀ (id : String) (lock : RouteLock), w'.routeLocks[id]? = some lock →
    w.routeLocks[id]? = some lock

namespace SameNetwork

variable {w w' w'' : OperationalWorld}

lemma refl (w : OperationalWorld) : SameNetwork w w :=
  ⟨rfl, rfl, rfl, rfl, rfl, rfl, rfl, fun _ _ => id⟩

lemma trans (h : SameNetwork w w') (k : SameNetwork w' w'') : SameNetwork w w'' where
  worldId := k.worldId.trans h.worldId
  regionId := k.regionId.trans h.regionId
  infraReleaseId := k.infraReleaseId.trans h.infraReleaseId
  infra := k.infra.trans h.infra
  switchPositions := k.switchPositions.trans h.switchPositions
  activeDisruptions := k.activeDisruptions.trans h.activeDisruptions
  preparedHandovers := k.preparedHandovers.trans h.preparedHandovers
  locks id lock hlock := h.locks id lock (k.locks id lock hlock)

lemma of_quiet (h : Quiet w w') : SameNetwork w w' where
  worldId := h.worldId
  regionId := h.regionId
  infraReleaseId := h.infraReleaseId
  infra := h.infra
  switchPositions := h.switchPositions
  activeDisruptions := h.activeDisruptions
  preparedHandovers := h.preparedHandovers
  locks id lock hlock := by rwa [h.routeLocks] at hlock

lemma of_almostQuiet (h : AlmostQuiet w w') : SameNetwork w w' where
  worldId := h.worldId
  regionId := h.regionId
  infraReleaseId := h.infraReleaseId
  infra := h.infra
  switchPositions := h.switchPositions
  activeDisruptions := h.activeDisruptions
  preparedHandovers := h.preparedHandovers
  locks id lock hlock := by rwa [show w'.routeLocks = w.routeLocks from h.routeLocks] at hlock

end SameNetwork

/-! ### Writes that keep the network -/

namespace OperationalWorld

variable (w : OperationalWorld)

lemma mem_dropLocks {trainId id : String} {lock : RouteLock} :
    (w.dropLocks trainId).routeLocks[id]? = some lock
      ↔ w.routeLocks[id]? = some lock ∧ lock.trainId ≠ trainId := by
  rw [dropLocks, Registry.getElem?_filter, Option.filter_eq_some_iff, bne_iff_ne]

lemma erased_lock {locks : Registry String RouteLock} {key id : String} {lock : RouteLock}
    (h : (locks.erase key)[id]? = some lock) : locks[id]? = some lock := by
  rw [Registry.getElem?_erase] at h
  split at h
  · cases h
  · exact h

lemma markOccupied_network (blocks : KeySet String) : SameNetwork w (w.markOccupied blocks) := by
  constructor
  case locks => exact fun _ _ => id
  all_goals simp only [markOccupied]

lemma putTrain_network (train : OperationalTrain) : SameNetwork w (w.putTrain train) := by
  constructor
  case locks => exact fun _ _ => id
  all_goals simp only [putTrain]

variable (trainId : String)

lemma commitRetirement_network (signals : List String) :
    SameNetwork w (w.commitRetirement trainId signals) := by
  constructor
  case locks =>
    intro id lock hlock
    have hlocks : (w.commitRetirement trainId signals).routeLocks
        = (w.dropLocks trainId).routeLocks := by
      simp only [commitRetirement, rebuildResourceLifecycle, dropWaiting, dropSchedules,
        updateFareControl, dropDepartures, dropMotionEnds]
    rw [hlocks] at hlock
    exact (w.mem_dropLocks.mp hlock).1
  all_goals simp only [commitRetirement, rebuildResourceLifecycle, dropWaiting, dropSchedules,
    updateFareControl, dropLocks, dropDepartures, dropMotionEnds]

lemma commitFormationChange_network (change : FormationChange) :
    SameNetwork w (w.commitFormationChange trainId change) := by
  constructor
  case locks => exact fun _ _ => id
  all_goals simp only [commitFormationChange, rebuildResourceLifecycle, updateTrain, putFormation]

lemma segmentFinished_network (place : TrainPlace) (speed : ℕ)
    (leg : RouteLeg) : SameNetwork w (w.segmentFinished trainId place speed leg) := by
  constructor
  case locks => exact fun _ _ => id
  all_goals simp only [segmentFinished, updateTrain]

lemma released_network (releases : List RouteRelease) :
    SameNetwork w (w.released trainId releases) := by
  induction releases generalizing w with
  | nil => exact .refl w
  | cons release releases ih =>
    refine SameNetwork.trans ?_ (ih (w.commitRelease trainId release))
    constructor
    case locks => exact fun _ _ hlock => erased_lock hlock
    all_goals simp only [commitRelease, updateTrain]

lemma refreshResourceLifecycle_network (resources : KeySet String) :
    SameNetwork w (w.refreshResourceLifecycle resources) := by
  constructor
  case locks => exact fun _ _ => id
  all_goals simp only [refreshResourceLifecycle]

lemma commitSafeStop_network (trainId reason : String) :
    SameNetwork w (w.commitSafeStop trainId reason) := by
  constructor
  case locks => exact fun _ _ => id
  all_goals simp only [commitSafeStop, dropContinuationWaitsFrom, dropWaiting, dropDepartures,
    dropMotionEnds, updateTrain]

lemma commitHoldRelease_network (outcome : FareControlHoldOutcomeV1)
    (causality : String) : SameNetwork w (w.commitHoldRelease trainId outcome causality) := by
  constructor
  case locks => exact fun _ _ => id
  all_goals simp only [commitHoldRelease, dropScheduledHolds, updateHold, updateFareControl]

lemma commitHoldActivation_network (train : OperationalTrain)
    (deadline : SimMillis) : SameNetwork w (w.commitHoldActivation trainId train deadline) := by
  constructor
  case locks => exact fun _ _ => id
  all_goals simp only [commitHoldActivation, updateHold, updateFareControl, dropWaiting,
    updateTrain]

lemma continued_network (env : Env) (continuation : MovementContinuation)
    (predecessor : OperationalTrain) (tail : RouteMillimetres) (intervals : List TrackInterval)
    (blocks : KeySet String) (direction : Direction) :
    SameNetwork w (w.continued env continuation predecessor tail intervals blocks direction) := by
  constructor
  case locks =>
    intro id lock hlock
    have hlocks : (w.continued env continuation predecessor tail intervals blocks
        direction).routeLocks = (w.dropLocks predecessor.id).routeLocks := by
      simp only [continued, commitSuccessor, commitPredecessorEnd, moveProtection,
        dropMotionEnds, dropWaiting]
    rw [hlocks] at hlock
    exact (w.mem_dropLocks.mp hlock).1
  all_goals simp only [continued, commitSuccessor, commitPredecessorEnd, moveProtection,
    dropMotionEnds, dropWaiting, dropLocks]

lemma withoutDue_network (scheduled : ScheduledFareControlHold) :
    SameNetwork w (w.withoutDue scheduled) := by
  constructor
  case locks => exact fun _ _ => id
  all_goals simp only [withoutDue, updateFareControl]

lemma holdEnds_network {w w' : OperationalWorld} {trainId : String}
    {outcome : FareControlHoldOutcomeV1} (h : w.HoldEnds trainId w' outcome) :
    SameNetwork w w' := by
  cases h with
  | unreachable => exact .refl w
  | resolved => exact .refl w
  | expired => exact w.withoutDue_network _

lemma markArrived_network : SameNetwork w (w.markArrived trainId) := by
  constructor
  case locks => exact fun _ _ => id
  all_goals simp only [markArrived, updateTrain]

lemma departed_network : SameNetwork w (w.departed trainId) := by
  constructor
  case locks => exact fun _ _ => id
  all_goals simp only [departed, updateTrain]

lemma rescheduled_network {w w' : OperationalWorld} {trainId : String}
    (h : w.rescheduled trainId = .ok w') : SameNetwork w w' :=
  .of_almostQuiet (rescheduled_almost h).1

lemma startSegment_network (segment : MotionSegment) :
    SameNetwork w (w.startSegment trainId segment) := by
  constructor
  case locks => exact fun _ _ => id
  all_goals simp only [startSegment, updateTrain]

lemma commitFinish_network {w' : OperationalWorld} (handover : RegionHandover)
    (hq : Quiet { w.commitFinish handover with signalAspects := w'.signalAspects } w') :
    SameNetwork { w with preparedHandovers := w.preparedHandovers.erase handover.id } w' := by
  refine SameNetwork.trans ?_ (.of_quiet hq)
  constructor
  case locks =>
    intro id lock hlock
    have hlocks : (w.commitFinish handover).routeLocks
        = (w.dropLocks handover.train.id).routeLocks := by
      simp only [commitFinish, rebuildResourceLifecycle, releaseServicePlan,
        updateServiceOutcomes, dropWaiting, dropSchedules, dropDepartures, dropMotionEnds,
        removeFareControlHandover, updateFareControl]
    have hlock : (w.commitFinish handover).routeLocks[id]? = some lock := hlock
    rw [hlocks] at hlock
    exact (w.mem_dropLocks.mp hlock).1
  all_goals simp only [commitFinish, rebuildResourceLifecycle, releaseServicePlan,
    updateServiceOutcomes, dropWaiting, dropSchedules, dropDepartures, dropMotionEnds,
    removeFareControlHandover, updateFareControl, dropLocks]

lemma adopted_network {w' : OperationalWorld} (handover : RegionHandover)
    (hq : AlmostQuiet (w.adopted handover) w') :
    SameNetwork { w with
      routeLocks := w.routeLocks ∪ handover.routeLocks
      switchPositions := w.switchPositions ∪ handover.switchPositions } w' := by
  refine SameNetwork.trans ?_ (.of_quiet hq)
  constructor
  case locks =>
    intro id lock hlock
    have hlocks : (w.adopted handover).routeLocks = w.routeLocks ∪ handover.routeLocks := by
      simp only [adopted, adoptSchedules, adoptLocks, updateTrain, putTrain, putFormation,
        adoptVehicles]
    have hlock : (w.adopted handover).routeLocks[id]? = some lock := hlock
    rwa [hlocks] at hlock
  all_goals simp only [adopted, adoptSchedules, adoptLocks, updateTrain, putTrain, putFormation,
    adoptVehicles]

/-- Beside the lock and the switches a new lock keeps the network. -/
lemma commitRouteLock_network (train : OperationalTrain) (trainId templateId lockId : String)
    (template : InterlockingRouteTemplate) :
    SameNetwork { w.setSwitches template with
      routeLocks := w.routeLocks.insert lockId (w.lockFor trainId templateId lockId template) }
      ((w.setSwitches template).commitRouteLock train trainId templateId lockId template) := by
  constructor
  case locks =>
    intro id lock hlock
    have hlocks : ((w.setSwitches template).commitRouteLock train trainId templateId lockId
        template).routeLocks
          = w.routeLocks.insert lockId (w.lockFor trainId templateId lockId template) := by
      simp only [commitRouteLock, setSwitches, dropWaiting, updateTrain,
        fareControlAuthorityReissued, updateFareControl, lockFor]
    rwa [hlocks] at hlock
  all_goals simp only [commitRouteLock, setSwitches, dropWaiting, updateTrain,
    fareControlAuthorityReissued, updateFareControl]

end OperationalWorld

/-- What a step does to the network: it keeps it, or it is one of six kinds. -/
inductive NetworkEffect (d : Debt) (w : OperationalWorld) (vs : List Visit) :
    OperationalWorld → Prop where
  | kept {w' : OperationalWorld} : SameNetwork w w' → NetworkEffect d w vs w'
  | locked {trainId templateId lockId : String} {continuation : Bool} {train : OperationalTrain}
      {template : InterlockingRouteTemplate} :
      vs = [⟨w, .lockRoute trainId templateId⟩] →
      w.admitRoute trainId templateId continuation = .ok (train, template) →
      w.routeConflicts trainId template = false → lockId = w.nextLockId trainId templateId →
      NetworkEffect d w vs
        ((w.setSwitches template).commitRouteLock train trainId templateId lockId template)
  | disrupted {disruptionId : String} {effect : OperationalDisruption} :
      w.activeDisruptions[disruptionId]? = none →
      NetworkEffect d w vs (w.commitDisruption disruptionId effect)
  | cleared {disruptionId : String} :
      vs = [⟨w, .clearDisruption disruptionId⟩] →
      NetworkEffect d w vs
        { w with activeDisruptions := w.activeDisruptions.erase disruptionId }
  | begun {w' : OperationalWorld} {env : Env} {id trainId targetRegionId : String}
      {resources : KeySet String} {handover : RegionHandover} :
      w.Prepared env id trainId targetRegionId resources handover →
      SameNetwork { w with preparedHandovers := w.preparedHandovers.insert handover.id handover }
        w' →
      NetworkEffect d w vs w'
  | accepted {w' : OperationalWorld} {handover : RegionHandover} :
      handover ∈ d.letters → w.admitHandover handover = .ok () →
      SameNetwork { w with
        routeLocks := w.routeLocks ∪ handover.routeLocks
        switchPositions := w.switchPositions ∪ handover.switchPositions } w' →
      NetworkEffect d w vs w'
  | finished {w' : OperationalWorld} {handover : RegionHandover} :
      SameNetwork { w with preparedHandovers := w.preparedHandovers.erase handover.id } w' →
      NetworkEffect d w vs w'

/-- The effect of a step on the network. -/
theorem Step.networkEffect {d d' : Debt} {w w' : OperationalWorld} {vs : List Visit}
    (h : Step d w vs d' w') : NetworkEffect d w vs w' := by
  cases h with
  | lockRoute hadmitted hfree => exact .locked rfl hadmitted hfree rfl
  | activateDisruption hnew => exact .disrupted hnew
  | clearDisruption => exact .cleared rfl
  | @beginHandover _ _ _ handover _ _ _ _ _ hprepare hq _ =>
    refine .begun (w.prepareHandover_prepared hprepare) ?_
    have hkept := SameNetwork.of_quiet hq
    constructor
    case preparedHandovers =>
      exact congrArg (fun prepared => Std.ExtTreeMap.insert prepared handover.id handover)
        hkept.preparedHandovers
    case locks => exact hkept.locks
    case worldId => exact hkept.worldId
    case regionId => exact hkept.regionId
    case infraReleaseId => exact hkept.infraReleaseId
    case infra => exact hkept.infra
    case switchPositions => exact hkept.switchPositions
    case activeDisruptions => exact hkept.activeDisruptions
  | acceptHandover hletter _ _ hadmitted _ _ _ _ _ _ _ hq =>
    exact .accepted hletter hadmitted (w.adopted_network _ hq)
  | finishHandover _ _ _ _ _ _ hq => exact .finished (w.commitFinish_network _ hq)
  | quiet hq => exact .kept (.of_quiet hq)
  | materialize _ hq =>
    exact .kept ((SameNetwork.of_quiet hq).trans
      ((OperationalWorld.putTrain_network _ _).trans
        (OperationalWorld.markOccupied_network _ _)))
  | retireTrain => exact .kept (w.commitRetirement_network _ _)
  | changeFormation _ hq =>
    exact .kept ((SameNetwork.of_quiet hq).trans
      (OperationalWorld.commitFormationChange_network _ _ _))
  | planMotion => exact .kept (w.startSegment_network _ _)
  | leaveStop _ _ _ _ _ _ _ _ _ hq =>
    exact .kept ((w.startSegment_network _ _).trans
      ((SameNetwork.of_quiet hq).trans (OperationalWorld.departed_network _ _)))
  | arrive _ _ _ _ _ _ hq hdue =>
    exact .kept ((w.markArrived_network _).trans
      ((SameNetwork.of_quiet hq).trans (OperationalWorld.rescheduled_network hdue)))
  | queueContinuation _ _ hq =>
    have hkept := SameNetwork.of_quiet hq
    exact .kept ⟨hkept.worldId, hkept.regionId, hkept.infraReleaseId, hkept.infra,
      hkept.switchPositions, hkept.activeDisruptions, hkept.preparedHandovers, hkept.locks⟩
  | finishMotionSegment _ _ _ _ _ _ hq =>
    exact .kept ((SameNetwork.of_quiet hq).trans
      (OperationalWorld.segmentFinished_network _ _ _ _ _))
  | markOccupied => exact .kept (w.markOccupied_network _)
  | releaseRoutes _ _ hq => exact .kept ((w.released_network _ _).trans (.of_quiet hq))
  | refreshLifecycle => exact .kept (w.refreshResourceLifecycle_network _)
  | safeStop => exact .kept (w.commitSafeStop_network _ _)
  | releaseHold hends =>
    exact .kept ((OperationalWorld.holdEnds_network hends).trans
      (OperationalWorld.commitHoldRelease_network _ _ _ _))
  | activateHold =>
    exact .kept ((w.withoutDue_network _).trans
      (OperationalWorld.commitHoldActivation_network _ _ _ _))
  | continueMovement _ _ _ _ _ _ _ _ _ hq =>
    exact .kept ((w.continued_network _ _ _ _ _ _ _).trans (.of_quiet hq))
  | _ => exact .kept ⟨rfl, rfl, rfl, rfl, rfl, rfl, rfl, fun _ _ => id⟩

/-- A message in preparation was there before the step, or the step prepares it. -/
lemma Step.prepared_before {d d' : Debt} {w w' : OperationalWorld} {vs : List Visit}
    (h : Step d w vs d' w') {key : String} {handover : RegionHandover}
    (hkey : w'.preparedHandovers[key]? = some handover) :
    w.preparedHandovers[key]? = some handover
      ∨ ∃ env id trainId target resources,
        w.Prepared env id trainId target resources handover := by
  cases h.networkEffect with
  | kept hkept => exact .inl (hkept.preparedHandovers ▸ hkey)
  | locked =>
    refine .inl ?_
    rwa [OperationalWorld.commitRouteLock, OperationalWorld.setSwitches] at hkey
  | disrupted => exact .inl hkey
  | cleared => exact .inl hkey
  | @begun _ env id trainId target resources other hprepared hkept =>
    have hkey := hkept.preparedHandovers ▸ hkey
    rw [Registry.getElem?_insert] at hkey
    split at hkey
    case isTrue =>
      cases hkey
      exact .inr ⟨env, id, trainId, target, resources, hprepared⟩
    case isFalse => exact .inl hkey
  | accepted _ _ hkept => exact .inl (hkept.preparedHandovers ▸ hkey)
  | finished hkept =>
    have hkey := hkept.preparedHandovers ▸ hkey
    rw [Registry.getElem?_erase] at hkey
    split at hkey
    case isTrue => cases hkey
    case isFalse => exact .inl hkey

lemma Step.visit_region {d d' : Debt} {w w' : OperationalWorld} {vs : List Visit}
    (h : Step d w vs d' w') : ∀ v ∈ vs, v.before.regionId = w.regionId := by
  cases h with
  | materialize _ hq | changeFormation _ hq | finishMotionSegment _ _ _ _ _ _ hq
  | queueContinuation _ _ hq | beginHandover _ _ hq _ => simpa using hq.regionId
  | activateHold => simp [OperationalWorld.withoutDue, OperationalWorld.updateFareControl]
  | releaseHold hends => simpa using (OperationalWorld.holdEnds_network hends).regionId
  | _ => simp

lemma Step.region_eq {d d' : Debt} {w w' : OperationalWorld} {vs : List Visit}
    (h : Step d w vs d' w') : w'.regionId = w.regionId := by
  cases h.networkEffect with
  | kept hkept => exact hkept.regionId
  | locked => rfl
  | disrupted => rfl
  | cleared => rfl
  | begun _ hkept | accepted _ _ hkept | finished hkept => exact hkept.regionId

end Zugfolge
