/-
Holds, continuations and arrivals take steps.

The commands of the circle take the next command of the circle as a parameter, and each
takes steps if that command does; the circle is closed by induction on its depth.
-/
import Zugfolge.Behaviour.Rights

namespace Zugfolge

open Foundation

/-- A command that takes steps at any debt and settles all it owes itself. -/
abbrev Settles {α : Type} (m : M α) : Prop := ∀ d : Debt, Takes d m d

variable {continuation : MovementContinuation} {d : Debt} {predecessor : OperationalTrain}
  {progressContinuations : M (List String)} {progressHolds : M Unit} {trainId : String}
  {w : OperationalWorld} {α : Type}

/-- After the command no hold is due. -/
def LeavesNoneDue {α : Type} (m : M α) : Prop :=
  ∀ w, TracedM.Ensures
    (fun (_ : α) (w' : OperationalWorld) => ∀ scheduled ∈ w'.dueHolds, w'.nowMs < scheduled.atMs)
    m w

lemma Settles.progressed {m : M α} (hm : Settles m) (hnone : LeavesNoneDue m)
    (d : Debt) : Takes d.oweHolds m d := by
  intro w a ha
  have hpath := hm d.oweHolds w a ha
  have hlast := hpath.trans (Path.single (Step.holdsProgressed (hnone w a ha)))
  simpa using hlast.trans (Path.single (.relax d.holdsProgressed_le))

/-! ### Arrivals -/

/-- Scheduling a hold computes its due date anew. -/
lemma scheduleFareControlHold_run (trainId : String) (w : OperationalWorld) :
    scheduleFareControlHold trainId w
      = (M.check (w.rescheduled trainId) >>= fun w' => TracedM.write w') w := by
  unfold scheduleFareControlHold OperationalWorld.rescheduled
  rw [M.world_bind]
  cases hhold : w.fareControlHold trainId with
  | none => rfl
  | some hold =>
    dsimp only
    cases hstatus : hold.status with
    | requested =>
      simp only [OperationalWorld.holdDue, hstatus]
      cases w.fareControlReadyAt hold with
      | error e => rfl
      | ok due => cases due <;> rfl
    | active =>
      simp only [OperationalWorld.holdDue, hstatus]
      cases hold.deadlineMs <;> rfl
    | released =>
      simp only [OperationalWorld.holdDue, hstatus]
      rfl

/-- The due date of a hold is computed anew among writes that are settled together. -/
lemma Leads.rescheduled {d₀ d' : Debt} {w₀ w : OperationalWorld} {vs₀ : List Visit} {f : Unit → M α}
    (h : ∀ w', w.rescheduled trainId = .ok w' → Leads d₀ w₀ vs₀ w' (f ()) d') :
    Leads d₀ w₀ vs₀ w (scheduleFareControlHold trainId >>= f) d' := by
  have hrun := scheduleFareControlHold_run trainId w
  cases hw' : w.rescheduled trainId with
  | ok w' =>
    rw [hw', M.check_ok_bind, TracedM.write_apply] at hrun
    refine Reaches.carry (by rw [hrun]) fun _ _ => ?_
    rw [hrun]
    exact h w' hw'
  | error e =>
    rw [hw', M.check_error_bind] at hrun
    intro a ha
    rw [TracedM.bind_of_error _ (by rw [hrun])] at ha
    cases ha

lemma OperationalTrain.arrivesAt_congr {train other : OperationalTrain}
    (h : train.core = other.core) (progress : OperationalPassengerStopProgress) :
    train.arrivesAt progress = other.arrivesAt progress := by
  change train.core.arrivesAt progress = other.core.arrivesAt progress
  rw [h]

lemma recordPassengerArrivalWith_settles (env : Env)
    (hholds : Settles progressHolds) (hnone : LeavesNoneDue progressHolds) (trainId : String) :
    Settles (recordPassengerArrivalWith env progressHolds trainId) := by
  intro d w
  refine Leads.world (Leads.check fun train htrain => ?_)
  rw [orPanic_eq_ok] at htrain
  split
  · exact .of_pure _
  case h_2 progress hprogress =>
    split
    case isFalse => exact .of_pure _
    case isTrue harrives =>
      unfold markArrival
      refine Reaches.assoc (Leads.world (Reaches.assoc (Leads.check fun stop hstop =>
        Reaches.assoc (Leads.check fun _ hdue => Reaches.assoc ?_))))
      rw [orPanic_eq_ok] at hstop
      simp only [demand_eq_ok, Option.any_eq_true, decide_eq_true_eq] at hdue
      obtain ⟨due, hdue, hbound⟩ := hdue
      -- The receipt is published before the arrival is marked.
      refine Leads.silently (passengerReceipt_silent env _ _) fun _ hquiet => ?_
      refine Leads.quiet hquiet (Reaches.assoc (Leads.update (Leads.silently
        (.update fun v => v.schedulePassengerDeparture_quiet _) fun _ hscheduled => ?_)))
      refine Leads.rescheduled fun v hv => ?_
      obtain ⟨other, hother, hcore⟩ := hquiet.train_after htrain
      have hstops : other.passengerStops = some progress :=
        (congrArg OperationalTrain.passengerStops hcore).trans hprogress
      refine Reaches.settle (.arrive hother hstops
        ((OperationalTrain.arrivesAt_congr hcore progress).trans harrives) hstop
        (by rw [hquiet.nowMs]; exact hdue) hbound hscheduled hv) ?_
      exact Takes.andThen (hholds.progressed hnone d) fun _ => .of_pure _

/-! ### Continuations -/

lemma OperationalWorld.commitSuccessor_quiet {v w : OperationalWorld} (hq : Quiet v w)
    (continuation : MovementContinuation) (train successor : OperationalTrain)
    (hid : train.id = successor.id) (hcore : train.core = successor.core) :
    Quiet (v.commitSuccessor continuation train) (w.commitSuccessor continuation successor) :=
  { hq with
    continuations := by
      simp only [OperationalWorld.commitSuccessor]
      rw [hq.continuations]
    trains := fun id => by
      simp only [OperationalWorld.commitSuccessor, Registry.getElem?_insert, hid]
      split
      · simp [hcore]
      · exact hq.trains id }

/-- When a continuation is due: its predecessor stands at the end of its route, without a
pending hold, and has dwelt there. -/
lemma OperationalWorld.activationDue_eq_ok {atMs : SimMillis}
    (h : w.activationDue continuation predecessor = .ok (some atMs)) :
    w.physicalRouteComplete predecessor.id = .ok true
      ∧ w.fareControlPending predecessor.id = false ∧ predecessor.motionState = .standing
      ∧ ∃ completedAtMs dwelt, w.routeCompletedAtMs[predecessor.id]? = some completedAtMs
        ∧ addChecked64 completedAtMs continuation.minimumDwellMs = some dwelt
        ∧ atMs = max continuation.notBeforeMs dwelt := by
  simp only [activationDue, checked_bind_eq_ok] at h
  obtain ⟨complete, hcomplete, h⟩ := h
  split at h
  · cases h
  case isFalse hready =>
    simp only [Bool.or_eq_true, decide_eq_true_eq, not_or, Bool.not_eq_true', Bool.not_eq_false,
      Bool.not_eq_true, Classical.not_not] at hready
    obtain ⟨⟨rfl, hpending⟩, hstanding⟩ := hready
    simp only [checked_bind_eq_ok, orRefuse_eq_ok] at h
    obtain ⟨completedAtMs, hcompleted, dwelt, hdwelt, h⟩ := h
    cases h
    exact ⟨hcomplete, hpending, hstanding, completedAtMs, dwelt, hcompleted, hdwelt, rfl⟩

/-- What an admitted continuation promises: its successor runs a checked program on the track
of its predecessor, and no other train has its name. -/
lemma OperationalWorld.admitActivation_eq_ok
    {intervals : List TrackInterval} {blocks : KeySet String} {direction : Direction}
    (h : w.admitActivation continuation predecessor = .ok (intervals, blocks, direction)) :
    w.validateTrainProgramTemplate continuation.successor
        continuation.successorDispatch.interlockingRouteId = .ok ()
      ∧ (∃ own, w.validateContinuationIntervals continuation predecessor.routeVersionId
          predecessor.formationVersionId predecessor.occupiedIntervals
            = .ok (intervals, own, direction)
        ∧ blocks = own ∪ (w.handoverProtectionByTrain[predecessor.id]?).getD ∅)
      ∧ ∀ (id : String) (train : OperationalTrain), w.trains[id]? = some train →
        train.id ≠ predecessor.id → train.id ≠ continuation.successor.id := by
  simp only [admitActivation, checked_bind_eq_ok, refuseIf_eq_ok, orRefuse_eq_ok] at h
  obtain ⟨_, htemplate, ⟨found, own, turned⟩, hintervals, number, -, _, hfree, h⟩ := h
  cases h
  refine ⟨htemplate, ⟨own, hintervals, rfl⟩, fun id train htrain hne heq => ?_⟩
  rw [Registry.anyValue_eq_false] at hfree
  rcases Bool.and_eq_false_iff.mp (hfree id train htrain) with hsame | hother
  · exact hne (by simpa using hsame)
  · rw [heq, beq_self_eq_true, Bool.true_or] at hother
    cases hother

lemma replacePredecessor_takes (d : Debt) (env : Env)
    (hholds : Settles progressHolds) (hnone : LeavesNoneDue progressHolds) {key : String}
    {atMs : SimMillis} {intervals : List TrackInterval} {blocks : KeySet String}
    {direction : Direction} (hpending : w.pendingMovementContinuations[key]? = some continuation)
    (hpredecessor : w.trains[continuation.predecessorTrainId]? = some predecessor)
    (hdue : w.activationDue continuation predecessor = .ok (some atMs)) (hnow : atMs ≤ w.nowMs)
    (hadmitted : w.admitActivation continuation predecessor = .ok (intervals, blocks, direction))
    (hblocked : w.continuationBlockedResources predecessor.id intervals blocks = ∅)
    (hstanding : predecessor.motionState = .standing) :
    Leads d w [] w (replacePredecessor env progressHolds continuation predecessor intervals blocks
      direction) d := by
  refine Leads.world (Leads.about (Leads.update (Leads.check fun formation hformation => ?_)))
  rw [orPanic_eq_ok] at hformation
  refine Leads.silently (startServiceOutcome_silent env _ _) fun serviceOutcome hstarted => ?_
  refine Leads.check fun tail htail => Leads.update (Leads.world (Leads.check fun _ _ => ?_))
  rw [orRefuse_eq_ok] at htail
  have hquiet := OperationalWorld.commitSuccessor_quiet hstarted continuation
    (OperationalWorld.successorTrain env continuation predecessor.formationVersionId
      tail intervals blocks direction none)
    (OperationalWorld.successorTrain env continuation
      predecessor.formationVersionId tail intervals blocks direction serviceOutcome) rfl rfl
  refine Reaches.settle (.continueMovement hpending hpredecessor hdue hnow hadmitted hblocked
    hstanding hformation htail hquiet) ?_
  refine Takes.andThen (.silent (.update fun _ => .of_same rfl)) fun _ => ?_
  refine Follows.bind (Takes.silent (record_silent _ _ _)) fun _ => ?_
  refine Follows.bind (recordPassengerArrivalWith_settles env hholds hnone _ _) fun _ => ?_
  intro v
  refine Leads.update (Reaches.settle .rebuildLifecycle ?_)
  refine Takes.andThen (rebuildSignalAspects_takes _) fun _ => ?_
  refine Takes.relax d.oweAll_rebuilt_le ?_
  exact Follows.bind (Takes.silent (wakeMovementContinuationsForResources_silent _)) fun _ =>
    Takes.silent (refreshRouteCompletion_silent env _)

lemma activateMovementContinuationWith_settles (env : Env)
    (hholds : Settles progressHolds) (hnone : LeavesNoneDue progressHolds)
    (continuationId : String) :
    Settles (activateMovementContinuationWith env progressHolds continuationId) := by
  intro d w
  refine Leads.world (Leads.check fun continuation hpending => ?_)
  rw [orRefuse_eq_ok] at hpending
  split
  · exact .of_pure _
  case h_2 predecessor hpredecessor =>
    refine Leads.check fun due hdue => ?_
    split
    · exact .of_pure _
    case isFalse hnow =>
      refine Leads.check fun admitted hadmitted => ?_
      obtain ⟨intervals, blocks, direction⟩ := admitted
      dsimp only
      split
      · exact Takes.andThen (.silent (.update fun v =>
          v.registerMovementContinuationWait_quiet _ _)) fun _ => .of_pure _
      case isFalse hblocked =>
        cases due with
        | none => simp at hnow
        | some atMs =>
          simp only [Option.any_some, Bool.not_eq_true', Bool.not_eq_false,
            decide_eq_true_eq] at hnow
          refine Reaches.call (replacePredecessor_takes d env hholds hnone hpending
            hpredecessor hdue hnow hadmitted ?_
            (OperationalWorld.activationDue_eq_ok hdue).2.2.1) fun _ _ => .of_pure _
          simpa using hblocked

lemma continuationRound_settles (env : Env)
    (hholds : Settles progressHolds) (hnone : LeavesNoneDue progressHolds)
    (activated : List String) : Settles (continuationRound env progressHolds activated) := by
  intro d
  refine Follows.bind (Takes.silent refreshContinuationSchedule_silent) fun _ => fun w => ?_
  refine Leads.world ?_
  dsimp only
  split
  · exact .of_pure _
  · refine Takes.andThen (.collect (fun continuationId => ?_) _) fun _ => .of_pure _
    refine Follows.bind
      (activateMovementContinuationWith_settles env hholds hnone _ d) fun begun => ?_
    cases begun
    · exact .of_pure _
    · exact .of_pure _

lemma progressMovementContinuationsWith_settles (env : Env)
    (hholds : Settles progressHolds) (hnone : LeavesNoneDue progressHolds) :
    Settles (progressMovementContinuationsWith env progressHolds) := by
  intro d
  refine .staged (.bind
    (.repeatFrom _ (fun _ => continuationRound_settles env hholds hnone _ d) _ _)
    fun activated => .bind (Takes.silent refreshContinuationSchedule_silent) fun _ => ?_)
  dsimp only
  split
  · exact .bind (dispatchPending_takes d env) fun _ => .of_pure _
  · exact .of_pure _

/-! ### Holds -/

lemma OperationalWorld.requeueRequest_quiet (w : OperationalWorld) (trainId : String)
    (request : Option DispatchRequest) : Quiet w (w.requeueRequest trainId request) := by
  cases request with
  | none => exact .refl w
  | some request => exact .of_same rfl

lemma OperationalWorld.resumeRequest_quiet (w : OperationalWorld) (trainId : String)
    (mayDepart : Bool) : Quiet w (w.resumeRequest trainId mayDepart) := by
  have htaken : Quiet w (w.updateFareControl fun state =>
      { state with resumeRequests := state.resumeRequests.erase trainId }) :=
    w.updateFareControl_quiet (fun _ => rfl) (fun _ => rfl) (fun _ => rfl) fun _ => rfl
  have hresumed (request : Option DispatchRequest) := htaken.trans
    (OperationalWorld.requeueRequest_quiet _ trainId request)
  unfold OperationalWorld.resumeRequest
  dsimp only
  split
  · exact (hresumed _).trans (Quiet.updateTrain _ _ fun _ => rfl)
  · exact hresumed _

/-- The release of a hold, whatever ends it. -/
lemma releaseFareControlHoldWith_leads (env : Env) (hcontinuations : Settles progressContinuations)
    {outcome : FareControlHoldOutcomeV1} (causality : String)
    {w₀ w : OperationalWorld} (hends : w₀.HoldEnds trainId w outcome) :
    Leads d w₀ [] w
      (releaseFareControlHoldWith env progressContinuations trainId outcome causality) d := by
  refine Leads.world (Leads.check fun _ _ => Leads.about (Leads.update
    (Reaches.settle (.releaseHold hends) ?_)))
  refine Takes.andThen (refreshReleasedInfrastructureStop_takes d _) fun _ => fun v => ?_
  refine Leads.world ?_
  dsimp only
  refine Takes.andThen (.silent (.update fun u => u.resumeRequest_quiet _ _)) fun _ => ?_
  refine Follows.bind (Takes.silent (recordFareControlEvent_silent _ _)) fun _ => ?_
  split
  · exact .bind (Takes.silent (record_silent _ _ _)) fun _ =>
      .bind (dispatchPending_takes d env) fun _ => .bind (hcontinuations d) fun _ => .of_pure _
  · exact .of_pure _

/-- The begin of a hold whose due date has been taken. -/
lemma activateHold_leads {scheduled : ScheduledFareControlHold} {hold : FareControlHoldV1}
    (hdue : scheduled ∈ w.dueHolds) (hhold : w.fareControlHold scheduled.trainId = some hold)
    (hstatus : hold.status = .requested) :
    Leads d w [] (w.withoutDue scheduled) (activateHold scheduled hold) d := by
  refine Leads.world (Leads.check fun ready hready => Leads.check fun _ hnow =>
    Leads.check fun deadline hdeadline => Leads.check fun _ _ => Leads.check fun train htrain =>
    Leads.check fun _ hstopped => ?_)
  rw [fareExpect, orRefuse_eq_ok] at htrain
  rw [orRefuse_eq_ok] at hdeadline
  simp only [fareRequire, demand_eq_ok, Bool.and_eq_true, beq_iff_eq,
    Option.isNone_iff_eq_none] at hstopped hnow
  obtain ⟨rfl, hnow⟩ := hnow
  refine Leads.about (Leads.update (Reaches.settle (.activateHold hdue hhold hstatus
    (hnow ▸ hready) hnow hdeadline htrain hstopped.1 hstopped.2) ?_))
  refine Takes.andThen (rebuildSignalAspects_takes _) fun _ => ?_
  refine Takes.relax d.signalsRebuilt_le ?_
  exact .bind (Takes.silent (recordFareControlEvent_silent _ _)) fun _ =>
    Takes.silent (record_silent _ _ _)

lemma OperationalWorld.mem_dueHolds_of_head {scheduled : ScheduledFareControlHold}
    (h : (w.fareControlState.bind fun state => state.scheduled.toList.head?) = some scheduled) :
    scheduled ∈ w.dueHolds := by
  obtain ⟨state, hstate, hhead⟩ := Option.bind_eq_some_iff.mp h
  rw [dueHolds, hstate, Option.map_some, Option.getD_some, ← Std.ExtTreeSet.mem_toList]
  exact List.mem_of_head? hhead

lemma holdRound_settles (env : Env) (hcontinuations : Settles progressContinuations) :
    Settles (holdRound env progressContinuations) := by
  intro d w
  refine Leads.world ?_
  split
  · exact .of_pure _
  case h_2 next hnext =>
    have hdue := OperationalWorld.mem_dueHolds_of_head hnext
    split
    · exact .of_pure _
    case isFalse hlate =>
      refine Leads.update (Leads.check fun hold hhold => ?_)
      rw [fareExpect, orRefuse_eq_ok] at hhold
      dsimp only
      split
      case h_1 hstatus =>
        exact Reaches.call (activateHold_leads hdue hhold hstatus) fun _ _ => .of_pure _
      case h_2 hstatus =>
        exact Reaches.call (releaseFareControlHoldWith_leads env hcontinuations _
          (.expired hhold hstatus hdue rfl (Int.not_lt.mp hlate))) fun _ _ => .of_pure _
      · exact Reaches.call (Leads.reject _) fun _ _ => .of_pure _

lemma progressFareControlHoldsWith_settles (env : Env)
    (hcontinuations : Settles progressContinuations) :
    Settles (progressFareControlHoldsWith env progressContinuations) := fun d =>
  .repeatFrom _ (fun _ => holdRound_settles env hcontinuations d) _ _

/-- The due date found first is the earliest. -/
lemma OperationalWorld.head_dueHolds_le {first other : ScheduledFareControlHold}
    (hfirst : (w.fareControlState.bind fun state => state.scheduled.toList.head?) = some first)
    (hother : other ∈ w.dueHolds) : first.atMs ≤ other.atMs := by
  obtain ⟨state, hstate, hhead⟩ := Option.bind_eq_some_iff.mp hfirst
  rw [dueHolds, hstate, Option.map_some, Option.getD_some] at hother
  have hsorted := state.scheduled.ordered_toList
  rw [← Std.ExtTreeSet.mem_toList] at hother
  cases hlist : state.scheduled.toList with
  | nil => simp [hlist] at hhead
  | cons a l =>
    rw [hlist] at hhead hother hsorted
    cases hhead
    rcases List.mem_cons.mp hother with rfl | hin
    · exact le_rfl
    · have hlt := (List.pairwise_cons.mp hsorted).1 other hin
      have horder : ScheduledFareControlHold.order first other = .lt := hlt
      simp only [ScheduledFareControlHold.order, compareLex, compareOn,
        Ordering.then_eq_lt] at horder
      rcases horder with h | h
      · exact (compare_lt_iff_lt.mp h).le
      · exact (Std.compare_eq_iff_eq.mp h.1).le

/-- The last round over the holds finds none that is due. -/
lemma progressFareControlHoldsWith_leavesNoneDue (env : Env)
    (progressContinuations : M (List String)) :
    LeavesNoneDue (progressFareControlHoldsWith env progressContinuations) := by
  intro w a ha
  obtain ⟨_, v, hlast, hstate⟩ := TracedM.repeatFrom_ok ha
  have hround : TracedM.Ensures
      (fun (round : Bool × Unit) (w' : OperationalWorld) => round.1 = false →
        ∀ scheduled ∈ w'.dueHolds, w'.nowMs < scheduled.atMs)
      (holdRound env progressContinuations) v := by
    refine .read ?_
    split
    case h_1 hnone =>
      refine .of_pure fun _ scheduled hin => ?_
      rw [OperationalWorld.dueHolds] at hin
      cases hfare : v.fareControlState with
      | none => simp [hfare] at hin
      | some state =>
        rw [hfare, Option.bind_some, List.head?_eq_none_iff] at hnone
        rw [hfare, Option.map_some, Option.getD_some, ← Std.ExtTreeSet.mem_toList,
          hnone] at hin
        cases hin
    case h_2 next hnext =>
      split
      case isTrue hearly =>
        exact .of_pure fun _ scheduled hin =>
          lt_of_lt_of_le hearly (OperationalWorld.head_dueHolds_le hnext hin)
      case isFalse =>
        refine .skip fun _ _ => .skip fun hold _ => ?_
        split
        · exact .skip fun _ _ => .of_pure fun h => by cases h
        · exact .skip fun _ _ => .of_pure fun h => by cases h
        · exact .skip fun _ _ => .of_pure fun h => by cases h
  have hnone := hround _ hlast rfl
  rw [hstate] at hnone
  exact hnone

/-! ### The circle -/

/-- Whatever the depth of the circle, no hold is due behind it. -/
lemma progressHoldsWithin_leavesNoneDue (env : Env) (depth : ℕ) :
    LeavesNoneDue (progressHoldsWithin env depth) := by
  cases depth with
  | zero => exact fun _ => .of_fail _
  | succ depth => exact progressFareControlHoldsWith_leavesNoneDue env _

/-- Induction on the depth of the circle: every turn takes steps if the next one does. -/
lemma progressHoldsWithin_settles (env : Env) (depth : ℕ) :
    Settles (progressHoldsWithin env depth) := by
  induction depth with
  | zero => exact fun _ _ => .of_fail _
  | succ depth ih =>
    exact progressFareControlHoldsWith_settles env
      (progressMovementContinuationsWith_settles env ih
        (progressHoldsWithin_leavesNoneDue env depth))

lemma progressFareControlHolds_settles (env : Env) : Settles (progressFareControlHolds env) :=
  progressHoldsWithin_settles env env.fuel

lemma progressFareControlHolds_leavesNoneDue (env : Env) :
    LeavesNoneDue (progressFareControlHolds env) :=
  progressHoldsWithin_leavesNoneDue env env.fuel

lemma progressMovementContinuations_settles (env : Env) :
    Settles (progressMovementContinuations env) :=
  progressMovementContinuationsWith_settles env (progressFareControlHolds_settles env)
    (progressFareControlHolds_leavesNoneDue env)

lemma recordPassengerArrival_settles (env : Env) (trainId : String) :
    Settles (recordPassengerArrival env trainId) :=
  recordPassengerArrivalWith_settles env (progressFareControlHolds_settles env)
    (progressFareControlHolds_leavesNoneDue env) trainId

lemma releaseFareControlHold_leads (env : Env)
    {outcome : FareControlHoldOutcomeV1} (causality : String) (d : Debt)
    (hends : w.HoldEnds trainId w outcome) :
    Leads d w [] w (releaseFareControlHold env trainId outcome causality) d :=
  releaseFareControlHoldWith_leads env (progressMovementContinuations_settles env) _ hends

lemma cancelRequestedFareControlHold_settles (env : Env) (trainId causality : String) :
    Settles (cancelRequestedFareControlHold env trainId causality) := by
  intro d w
  refine Leads.world ?_
  split
  case isTrue hrequested =>
    simp only [Option.any_eq_true, beq_iff_eq] at hrequested
    obtain ⟨hold, hhold, hstatus⟩ := hrequested
    exact releaseFareControlHold_leads env causality d (.unreachable hhold hstatus)
  case isFalse => exact .of_pure _

lemma resolveFareControlHold_settles (env : Env) (input : ResolveFareControlHoldInputV1) :
    Settles (resolveFareControlHold env input) := by
  intro d w
  refine Leads.world (Leads.check fun _ _ => Leads.check fun hold hhold => Leads.check fun _ _ =>
    Leads.check fun _ hactive => ?_)
  rw [fareExpect, orRefuse_eq_ok] at hhold
  simp only [fareRequire, demand_eq_ok, Bool.and_eq_true, beq_iff_eq, Option.any_eq_true,
    decide_eq_true_eq] at hactive
  obtain ⟨hstatus, deadline, hdeadline, hnow⟩ := hactive
  exact .staged (Reaches.call (releaseFareControlHold_leads env _ d
    (.resolved hhold hstatus hdeadline hnow)) fun _ _ =>
      Leads.world (Reaches.last (Leads.check fun _ _ => .of_pure _)))

lemma requestFareControlHold_settles (env : Env) (input : RequestFareControlHoldInputV1) :
    Settles (requestFareControlHold env input) := by
  have hfinish : Silent (requestFareControlHold.finish input) :=
    .bind (recordFareControlEvent_silent _ _) fun _ => .bind .world fun _ => .check _
  intro d w
  refine Leads.world (Leads.check fun _ _ => Leads.check fun _ _ => Leads.check fun train htrain =>
    Leads.check fun _ _ => Leads.check fun progress hprogress => Leads.check fun _ _ => ?_)
  rw [fareExpect, orRefuse_eq_ok] at htrain hprogress
  split
  case h_1 hold hhold =>
    refine Leads.check fun _ hadmitted => ?_
    have hstatus : hold.status = .requested := by
      simp only [admitCase, checked_bind_eq_ok, fareRequire, demand_eq_ok, beq_iff_eq] at hadmitted
      exact hadmitted.choose_spec.1
    split
    · exact .of_pure _
    · exact .staged (Leads.check fun _ _ => Leads.check fun _ _ => Leads.update
        (Reaches.settle (.extendHold hhold hstatus) (Takes.silent hfinish _)))
  case h_2 hnone =>
    exact .staged (Leads.check fun hold hhold => Leads.update
      (Reaches.settle (.requestHold htrain hprogress hnone hhold) (Takes.silent hfinish _)))

lemma setFareControlPolicy_settles (env : Env) (policy : FareControlPolicyV1) :
    Settles (setFareControlPolicy env policy) := by
  intro d w
  refine Leads.world (Leads.check fun _ _ => Leads.check fun _ hvalid => Leads.check fun _ _ => ?_)
  have hbind : Leads d w [] w (setFareControlPolicy.bindPolicy policy) d :=
    .staged (Leads.update (Reaches.settle (.setFareControlPolicy hvalid)
      (Leads.world (Takes.silent (record_silent _ _ _) _))))
  split
  · split
    · exact .of_pure _
    · exact Leads.check fun _ _ => hbind
  · exact hbind

/-! ### Departures -/

lemma departureRound_settles (env : Env) : Settles (departureRound env) := by
  intro d w
  refine Leads.world ?_
  split
  · exact .of_pure _
  · split
    · exact .of_pure _
    · refine Takes.andThen (.silent (.update fun _ => .of_same rfl)) fun _ => fun v => ?_
      split
      · exact .of_pure _
      · split
        · exact .of_pure _
        · split
          · exact Takes.andThen (planMotion_takes d env _) fun _ => .of_pure _
          · exact Takes.andThen (dispatchPending_takes d env) fun _ => .of_pure _

lemma progressPassengerDepartures_settles (env : Env) :
    Settles (progressPassengerDepartures env) := fun d =>
  .repeatFrom _ (fun _ => departureRound_settles env d) _ _

/-! ### Queued continuations -/

lemma requeueMovementContinuation_settles (env : Env) (continuation : MovementContinuation) :
    Settles (requeueMovementContinuation env continuation) := fun d =>
  .staged (.bind (Takes.silent (.update fun _ => .of_same rfl)) fun _ =>
    .bind (Takes.silent (.update fun v => v.clearContinuationReason_quiet _)) fun _ =>
    .bind (Takes.silent refreshContinuationSchedule_silent) fun _ =>
    .bind (progressMovementContinuations_settles env d) fun _ => .of_pure _)

lemma queueNewContinuation_settles (env : Env)
    (hnew : w.pendingMovementContinuations[continuation.id]? = none) :
    Leads d w [] w (queueNewContinuation env continuation) d := by
  refine .staged (Leads.world (Leads.check fun _ hvalid => ?_))
  refine Leads.silently (planServiceOutcome_silent env _) fun _ hquiet => ?_
  refine Leads.about (Leads.update (Reaches.settle (.queueContinuation hnew hvalid hquiet) ?_))
  refine Leads.world (Leads.check fun _ _ => ?_)
  exact Takes.andThen (.silent (record_silent _ _ _)) fun _ =>
    .bind (Takes.silent refreshContinuationSchedule_silent) fun _ =>
    .bind (progressMovementContinuations_settles env d) fun _ => .of_pure _

lemma queueMovementContinuation_settles (env : Env) (continuation : MovementContinuation) :
    Settles (queueMovementContinuation env continuation) := by
  intro d w
  refine Leads.world (Leads.check fun _ _ => ?_)
  split
  · exact Leads.check fun _ _ => requeueMovementContinuation_settles env continuation d w
  case h_2 hnew =>
    split
    · exact Reaches.last (Leads.check fun _ _ => .of_pure _)
    · exact queueNewContinuation_settles env hnew

end Zugfolge
