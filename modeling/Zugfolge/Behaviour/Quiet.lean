/-
Quiet changes: what an operation writes beside the railway itself.

A quiet change leaves the trains where they are, with their rights and stop plans, and
leaves locks, signals, switches, vehicles, disruptions, holds and continuations alone.
Requests, waiting lists, other due dates, evidence and events may change.
-/
import Zugfolge.Operations.Network
import Zugfolge.Foundation.Paths

namespace Zugfolge

open Foundation

/-- A train without what only evidence and displays read. -/
def OperationalTrain.core (train : OperationalTrain) : OperationalTrain :=
  { train with serviceOutcome := none, waitingReason := none }

/-- The due dates of the fare control holds. -/
def OperationalWorld.dueHolds (w : OperationalWorld) : KeySet ScheduledFareControlHold :=
  (w.fareControlState.map (·.scheduled)).getD ∅

/-- The policy of new fare control holds. -/
def OperationalWorld.farePolicy (w : OperationalWorld) : Option FareControlPolicyV1 :=
  w.fareControlState.bind (·.policy)

/-- The change from `w` to `w'` does not touch the railway itself. -/
structure Quiet (w w' : OperationalWorld) : Prop where
  worldId : w'.worldId = w.worldId
  regionId : w'.regionId = w.regionId
  infraReleaseId : w'.infraReleaseId = w.infraReleaseId
  infra : w'.infra = w.infra
  nowMs : w'.nowMs = w.nowMs
  vehicles : w'.vehicles = w.vehicles
  vehicleTypes : w'.vehicleTypes = w.vehicleTypes
  formations : w'.formations = w.formations
  routeLocks : w'.routeLocks = w.routeLocks
  signalAspects : w'.signalAspects = w.signalAspects
  switchPositions : w'.switchPositions = w.switchPositions
  resourceLifecycle : w'.resourceLifecycle = w.resourceLifecycle
  activeDisruptions : w'.activeDisruptions = w.activeDisruptions
  preparedHandovers : w'.preparedHandovers = w.preparedHandovers
  handoverProtectionByTrain : w'.handoverProtectionByTrain = w.handoverProtectionByTrain
  scheduledMotionEnds : w'.scheduledMotionEnds = w.scheduledMotionEnds
  acceptedHandovers : w'.acceptedHandovers = w.acceptedHandovers
  finishedHandovers : w'.finishedHandovers = w.finishedHandovers
  continuations : w'.pendingMovementContinuations = w.pendingMovementContinuations
  stops : ∀ id : String, w'.infrastructureDisruptionStops.contains id
    = w.infrastructureDisruptionStops.contains id
  holds : ∀ id : String, w'.fareControlHold id = w.fareControlHold id
  dueHolds : w'.dueHolds = w.dueHolds
  farePolicy : w'.farePolicy = w.farePolicy
  authorityRevoked : ∀ id : String,
    w'.fareControlAuthorityRevoked id = w.fareControlAuthorityRevoked id
  trains : ∀ id : String, (w'.trains[id]?).map OperationalTrain.core
    = (w.trains[id]?).map OperationalTrain.core

/-- A world without the fields that belong to evidence, timetables and waiting lists. -/
def OperationalWorld.railway (w : OperationalWorld) : OperationalWorld :=
  { w with
    serviceOutcomeState := none
    serviceDayState := none
    commitSequence := 0
    eventSequence := 0
    events := []
    scheduledPassengerDepartures := ∅
    scheduledContinuationDue := ∅
    waitingByResource := ∅
    continuationsWaitingByResource := ∅
    pendingDispatchRequests := ∅
    completedMovementContinuations := ∅
    routeCompletedAtMs := ∅
    finishedHandoverReceipts := ∅ }

namespace Quiet

variable {w w' w'' : OperationalWorld}

lemma trans (h : Quiet w w') (k : Quiet w' w'') : Quiet w w'' where
  worldId := k.worldId.trans h.worldId
  regionId := k.regionId.trans h.regionId
  infraReleaseId := k.infraReleaseId.trans h.infraReleaseId
  infra := k.infra.trans h.infra
  nowMs := k.nowMs.trans h.nowMs
  vehicles := k.vehicles.trans h.vehicles
  vehicleTypes := k.vehicleTypes.trans h.vehicleTypes
  formations := k.formations.trans h.formations
  routeLocks := k.routeLocks.trans h.routeLocks
  signalAspects := k.signalAspects.trans h.signalAspects
  switchPositions := k.switchPositions.trans h.switchPositions
  resourceLifecycle := k.resourceLifecycle.trans h.resourceLifecycle
  activeDisruptions := k.activeDisruptions.trans h.activeDisruptions
  preparedHandovers := k.preparedHandovers.trans h.preparedHandovers
  handoverProtectionByTrain := k.handoverProtectionByTrain.trans h.handoverProtectionByTrain
  scheduledMotionEnds := k.scheduledMotionEnds.trans h.scheduledMotionEnds
  acceptedHandovers := k.acceptedHandovers.trans h.acceptedHandovers
  finishedHandovers := k.finishedHandovers.trans h.finishedHandovers
  continuations := k.continuations.trans h.continuations
  stops id := (k.stops id).trans (h.stops id)
  holds id := (k.holds id).trans (h.holds id)
  dueHolds := k.dueHolds.trans h.dueHolds
  farePolicy := k.farePolicy.trans h.farePolicy
  authorityRevoked id := (k.authorityRevoked id).trans (h.authorityRevoked id)
  trains id := (k.trains id).trans (h.trains id)

lemma of_railway (w : OperationalWorld) : Quiet w.railway w := by
  constructor
  all_goals intros; rfl

lemma to_railway (w : OperationalWorld) : Quiet w w.railway := by
  constructor
  all_goals intros; rfl

lemma of_same (h : w'.railway = w.railway) : Quiet w w' :=
  (to_railway w).trans (h ▸ of_railway w')

lemma refl (w : OperationalWorld) : Quiet w w := of_same rfl

lemma blocksDeparture (h : Quiet w w') (id : String) :
    w'.fareControlBlocksDeparture id = w.fareControlBlocksDeparture id := by
  unfold OperationalWorld.fareControlBlocksDeparture
  rw [h.holds]

lemma train_before (h : Quiet w w') {id : String} {train : OperationalTrain}
    (ht : w'.trains[id]? = some train) :
    ∃ old, w.trains[id]? = some old ∧ old.core = train.core :=
  Option.map_eq_some_iff.mp (by rw [← h.trains id, ht, Option.map_some])

lemma train_after (h : Quiet w w') {id : String} {train : OperationalTrain}
    (ht : w.trains[id]? = some train) :
    ∃ later, w'.trains[id]? = some later ∧ later.core = train.core :=
  Option.map_eq_some_iff.mp (by rw [h.trains id, ht, Option.map_some])

lemma updateTrain (w : OperationalWorld) (trainId : String)
    {f : OperationalTrain → OperationalTrain} (hf : ∀ train, (f train).core = train.core) :
    Quiet w (w.updateTrain trainId f) := by
  refine { refl w with trains := fun id => ?_ }
  · simp only [OperationalWorld.updateTrain, Registry.getElem?_modify]
    split
    case isTrue h =>
      subst h
      rw [Option.map_map]
      congr 1
      exact funext hf
    case isFalse => rfl

lemma foldl {ι : Type} {f : OperationalWorld → ι → OperationalWorld}
    (hf : ∀ w i, Quiet w (f w i)) (l : List ι) (w : OperationalWorld) :
    Quiet w (l.foldl f w) := by
  induction l generalizing w with
  | nil => exact refl w
  | cons i l ih => exact (hf w i).trans (ih _)

end Quiet

/-! ### Silent commands -/

/-- Quiet changes without visits. -/
def QuietRun (w : OperationalWorld) (visits : List Visit) (w' : OperationalWorld) : Prop :=
  Quiet w w' ∧ visits = []

lemma quietRun_composes : TracedM.Composes QuietRun where
  refl w := ⟨Quiet.refl w, rfl⟩
  trans h k := ⟨h.1.trans k.1, by rw [h.2, k.2]; rfl⟩

/-- A command that makes quiet changes only, and no visits, whatever its result. -/
abbrev Silent {α : Type} (m : M α) : Prop := TracedM.Always QuietRun m

namespace Silent

variable {α β : Type}

lemma pure (a : α) : Silent (pure a : M α) := .of_pure quietRun_composes a

lemma check (r : Checked α) : Silent (M.check r) := .of_lift quietRun_composes r

lemma world : Silent M.world := .of_read quietRun_composes

lemma update {f : OperationalWorld → OperationalWorld} (h : ∀ w, Quiet w (f w)) :
    Silent (M.update f) := .of_modify fun w => ⟨h w, rfl⟩

lemma bind {m : M α} {f : α → M β} (hm : Silent m) (hf : ∀ a, Silent (f a)) :
    Silent (m >>= f) := TracedM.Always.bind quietRun_composes hm hf

lemma forEach {f : α → M Unit} (hf : ∀ a, Silent (f a)) (as : List α) :
    Silent (TracedM.forEach f as) := TracedM.Always.forEach quietRun_composes hf as

lemma quiet {m : M α} (hm : Silent m) (w : OperationalWorld) : Quiet w (m w).state := (hm w).1

lemma visits {m : M α} (hm : Silent m) (w : OperationalWorld) : (m w).visits = [] := (hm w).2

end Silent

/-! ### Bookkeeping -/

lemma record_silent (kind subjectId : String) (detail : EventDetail) :
    Silent (record kind subjectId detail) :=
  .bind .world fun _ => .bind (.check _) fun _ => .bind (.check _) fun _ =>
    .update fun _ => .of_same rfl

lemma refreshContinuationSchedule_silent : Silent refreshContinuationSchedule :=
  .bind .world fun _ => .bind (.check _) fun _ => .update fun _ => .of_same rfl

namespace OperationalWorld

variable (w : OperationalWorld)

lemma dropWaiting_quiet (trainId : String) : Quiet w (w.dropWaiting trainId) := .of_same rfl

lemma dropDepartures_quiet (trainId : String) : Quiet w (w.dropDepartures trainId) := .of_same rfl

lemma schedulePassengerDeparture_quiet (trainId : String) :
    Quiet w (w.schedulePassengerDeparture trainId) := .of_same rfl

lemma updateServiceOutcomes_quiet (f : ServiceOutcomeState → ServiceOutcomeState) :
    Quiet w (w.updateServiceOutcomes f) := .of_same rfl

lemma updateServiceDays_quiet (f : ServiceDayState → ServiceDayState) :
    Quiet w (w.updateServiceDays f) := .of_same rfl

lemma clearContinuationReason_quiet (trainId : String) :
    Quiet w (w.clearContinuationReason trainId) :=
  Quiet.updateTrain w trainId fun train => by
    split <;> rfl

lemma wakeContinuations_quiet (ids : KeySet String) : Quiet w (w.wakeContinuations ids) := by
  have h1 : Quiet w { w with
      continuationsWaitingByResource :=
        Registry.dropMembers w.continuationsWaitingByResource ids.contains } := .of_same rfl
  refine h1.trans (Quiet.foldl (fun v id => ?_) _ _)
  split
  · exact v.clearContinuationReason_quiet _
  · exact Quiet.refl v

lemma registerMovementContinuationWait_quiet (continuation : MovementContinuation)
    (resources : KeySet String) :
    Quiet w (w.registerMovementContinuationWait continuation resources) := by
  have h1 : Quiet w { w with
      continuationsWaitingByResource :=
        Registry.addMemberAll w.continuationsWaitingByResource resources.toList
          continuation.id } := .of_same rfl
  exact h1.trans (Quiet.updateTrain _ _ fun _ => rfl)

end OperationalWorld

lemma wakeMovementContinuationsForResources_silent (resources : KeySet String) :
    Silent (wakeMovementContinuationsForResources resources) := by
  refine .bind .world fun w => ?_
  dsimp only
  split
  · exact .pure ()
  · exact .bind (.update fun v => v.wakeContinuations_quiet _) fun _ =>
      refreshContinuationSchedule_silent

/-! ### Fare control bookkeeping -/

namespace OperationalWorld

variable (w : OperationalWorld)

/-- A change of the fare control state that keeps policy, holds, due dates and revoked
authorities. -/
lemma updateFareControl_quiet {f : FareControlState → FareControlState}
    (hp : ∀ s, (f s).policy = s.policy) (hh : ∀ s, (f s).holds = s.holds)
    (hs : ∀ s, (f s).scheduled = s.scheduled)
    (hr : ∀ s, (f s).revokedAuthorities = s.revokedAuthorities) :
    Quiet w (w.updateFareControl f) := by
  refine { Quiet.refl w with
    holds := fun id => ?_, dueHolds := ?_, farePolicy := ?_, authorityRevoked := fun id => ?_ }
  · cases h : w.fareControlState with
    | none => simp [fareControlHold, updateFareControl, h]
    | some s => simp [fareControlHold, updateFareControl, h, hh]
  · cases h : w.fareControlState with
    | none => simp [dueHolds, updateFareControl, h]
    | some s => simp [dueHolds, updateFareControl, h, hs]
  · cases h : w.fareControlState with
    | none => simp [farePolicy, updateFareControl, h]
    | some s => simp [farePolicy, updateFareControl, h, hp]
  · cases h : w.fareControlState with
    | none => simp [fareControlAuthorityRevoked, updateFareControl, h]
    | some s => simp [fareControlAuthorityRevoked, updateFareControl, h, hr]

end OperationalWorld

lemma recordFareControlEvent_silent (trainId kind : String) :
    Silent (recordFareControlEvent trainId kind) :=
  .bind .world fun _ => .bind (.check _) fun _ => record_silent _ _ _

end Zugfolge
