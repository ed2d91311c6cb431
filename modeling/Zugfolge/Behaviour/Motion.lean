/-
Segments and the clock take steps.
-/
import Zugfolge.Behaviour.Circle

namespace Zugfolge

open Foundation

/-! ### Released routes -/

variable {v w : OperationalWorld}

/-- An update of one train that does not read what the core leaves out. -/
lemma Quiet.updateBoth (hq : Quiet v w) (trainId : String) {f : OperationalTrain → OperationalTrain}
    (hf : ∀ train, (f train).core = (f train.core).core) :
    Quiet (v.updateTrain trainId f) (w.updateTrain trainId f) :=
  { hq with
    trains := fun id => by
      simp only [OperationalWorld.updateTrain, Registry.getElem?_modify]
      split
      case isTrue =>
        have hcore : ∀ o : Option OperationalTrain, (o.map f).map OperationalTrain.core
            = ((o.map OperationalTrain.core).map f).map OperationalTrain.core := by
          intro o
          cases o with
          | none => rfl
          | some train => exact congrArg some (hf train)
        rw [hcore w.trains[trainId]?, hcore v.trains[trainId]?, hq.trains trainId]
      case isFalse => exact hq.trains id }

lemma OperationalWorld.commitRelease_quiet (hq : Quiet v w)
    (trainId : String) (release : RouteRelease) :
    Quiet (v.commitRelease trainId release) (w.commitRelease trainId release) := by
  have hlock : Quiet
      { v with
        routeLocks := v.routeLocks.erase release.lock.id
        resourceLifecycle := v.resourceLifecycle.eraseAll release.lock.resources.toList }
      { w with
        routeLocks := w.routeLocks.erase release.lock.id
        resourceLifecycle := w.resourceLifecycle.eraseAll release.lock.resources.toList } :=
    { hq with
      routeLocks := congrArg (·.erase release.lock.id) hq.routeLocks
      resourceLifecycle :=
        congrArg (Registry.eraseAll · release.lock.resources.toList) hq.resourceLifecycle }
  exact hlock.updateBoth trainId fun _ => rfl

/-- The releases of several locks are one step, up to what their events write. -/
lemma releaseRoutes_quiet (trainId : String) (releases : List RouteRelease) (hq : Quiet v w) :
    (TracedM.forEach (releaseRoute trainId) releases w).visits = []
      ∧ ((TracedM.forEach (releaseRoute trainId) releases w).result = .ok () →
        Quiet (v.released trainId releases)
          (TracedM.forEach (releaseRoute trainId) releases w).state) := by
  induction releases generalizing v w with
  | nil => exact ⟨rfl, fun _ => hq⟩
  | cons release releases ih =>
    have hrecord := record_silent
      (if release.terminal then "route-released-at-terminal" else "route-released-after-tail")
      trainId (.text release.lock.templateId)
    have hone : (releaseRoute trainId release w).visits = []
        ∧ Quiet (v.commitRelease trainId release) (releaseRoute trainId release w).state := by
      unfold releaseRoute
      rw [M.update_bind]
      exact ⟨hrecord.visits _, (OperationalWorld.commitRelease_quiet hq trainId release).trans
        (hrecord.quiet _)⟩
    unfold TracedM.forEach
    cases hr : (releaseRoute trainId release w).result with
    | error e =>
      rw [TracedM.bind_of_error _ hr]
      exact ⟨hone.1, fun h => by cases h⟩
    | ok u =>
      rw [TracedM.bind_of_ok _ hr, hone.1]
      exact ih hone.2

lemma releaseRoutesAfterTail_settles (trainId : String) :
    Settles (releaseRoutesAfterTail trainId) := by
  intro d w
  refine Leads.world (Leads.check fun releases hreleases => ?_)
  have hloop := releaseRoutes_quiet trainId releases (Quiet.refl w)
  refine Reaches.carry hloop.1 fun _ hok => ?_
  dsimp only
  have hwake : ∀ released : KeySet String, Settles (do
      wakeMovementContinuationsForResources released
      pure released) := fun _ _ =>
    .bind (Takes.silent (wakeMovementContinuationsForResources_silent _)) fun _ => .of_pure _
  have hquiet := hloop.2 hok
  cases releases with
  | nil =>
    exact Leads.quiet hquiet (hwake _ _ _)
  | cons release releases =>
    refine Reaches.settle (.releaseRoutes hreleases (by simp) hquiet) ?_
    split
    case isTrue hne =>
      have hempty := Bool.not_eq_true' _ ▸ hne
      refine Takes.andThen (rebuildSignalAspects_takes _) fun _ => fun v => ?_
      refine Leads.update (Reaches.settle .refreshLifecycle (Leads.relax ?_ (hwake _ _ _)))
      exact d.release_le hempty
    case isFalse hempty =>
      simp only [Bool.not_eq_true', Bool.not_eq_false] at hempty
      rw [Debt.release, if_pos hempty]
      exact hwake _ _ _

/-! ### Blocks kept -/

/-- Every train keeps the blocks it stands on. -/
def BlocksKept (w : OperationalWorld) (_ : List Visit) (w' : OperationalWorld) : Prop :=
  ∀ (id block : String), block ∈ w.blocksOfTrain id → block ∈ w'.blocksOfTrain id

lemma blocksKept_composes : TracedM.Composes BlocksKept where
  refl _ _ _ h := h
  trans h k id block hb := k id block (h id block hb)

lemma CoresKept.blocksKept {w w' : OperationalWorld} {vs : List Visit}
    (h : CoresKept w vs w') : BlocksKept w vs w' := by
  intro id block hb
  have hcores := congrArg (Option.map OperationalTrain.occupiedBlocks) (h id)
  rw [Option.map_map, Option.map_map] at hcores
  change (w'.trains[id]?).map OperationalTrain.occupiedBlocks
    = (w.trains[id]?).map OperationalTrain.occupiedBlocks at hcores
  unfold OperationalWorld.blocksOfTrain at hb ⊢
  rw [hcores]
  exact hb

lemma commitRelease_blocksKept (w : OperationalWorld) (trainId : String)
    (release : RouteRelease) : BlocksKept w [] (w.commitRelease trainId release) := by
  intro id block hb
  unfold OperationalWorld.blocksOfTrain at hb ⊢
  simp only [OperationalWorld.commitRelease, OperationalWorld.updateTrain,
    Registry.getElem?_modify]
  split
  case isTrue h =>
    subst h
    cases ht : w.trains[id]? with
    | none => simp [ht] at hb
    | some train =>
      simp only [ht, Option.map_some, Option.getD_some] at hb ⊢
      split
      · exact Std.ExtTreeSet.mem_union_iff.mpr (.inl hb)
      · exact hb
  case isFalse => exact hb

lemma releaseRoutesAfterTail_blocksKept (trainId : String) :
    TracedM.Always BlocksKept (releaseRoutesAfterTail trainId) := by
  have hsilent : ∀ {α : Type} {m : M α}, Silent m → TracedM.Always BlocksKept m :=
    fun hm v => (hm.coresKept v).blocksKept
  refine .bind blocksKept_composes (.of_read blocksKept_composes) fun w =>
    .bind blocksKept_composes (.of_lift blocksKept_composes _) fun releases =>
    .bind blocksKept_composes (.forEach blocksKept_composes (fun release => ?_) _) fun _ => ?_
  · exact .bind blocksKept_composes (.of_modify fun v => commitRelease_blocksKept v _ _)
      fun _ => hsilent (record_silent _ _ _)
  · have hwake : ∀ released : KeySet String, TracedM.Always BlocksKept (do
        wakeMovementContinuationsForResources released
        pure released) := fun _ =>
      hsilent (.bind (wakeMovementContinuationsForResources_silent _) fun _ => .pure _)
    dsimp only
    split
    · exact .bind blocksKept_composes
        (fun v => (rebuildSignalAspects_coresKept v).blocksKept) fun _ =>
        .bind blocksKept_composes (.of_modify fun _ _ _ h => h) fun _ => hwake _
    · exact hwake _

/-! ### Segment ends -/

lemma arriveAtSegmentEnd_takes {d : Debt} {w w₁ : OperationalWorld} {trainId : String}
    {train : OperationalTrain} {head : RouteMillimetres} {speed : ℕ} {route : RouteVersion}
    {formation : FormationVersion} {place : TrainPlace}
    (htrain : w.trainOf trainId = .ok train) (hreached : w.reachedNow train = .ok (head, speed))
    (hroute : w.routeOf train = .ok route)
    (hformation : w.formationOf train.formationVersionId = .ok formation)
    (hplace : w.placeOn trainId route formation head = .ok place)
    (hhead : head ≤ (train.authority.map (·.endRouteMm)).getD train.headRouteMm)
    (hquiet : Quiet w w₁) :
    Leads d w [] w₁ (arriveAtSegmentEnd trainId train route place speed) (d.settle trainId) := by
  refine Leads.about (Leads.update (Leads.check fun leg _ => Leads.update ?_))
  refine Reaches.settle (.finishMotionSegment htrain hreached hroute hformation hplace hhead
    hquiet) ?_
  -- The train stands on the blocks of its new place.
  obtain ⟨old, hold⟩ : ∃ old, w₁.trains[trainId]? = some old := by
    rw [OperationalWorld.trainOf, orRefuse_eq_ok] at htrain
    obtain ⟨old, hold, -⟩ := hquiet.train_after htrain
    exact ⟨old, hold⟩
  have hthere : (w₁.segmentFinished trainId place speed leg).trains[trainId]?
      = some ((old.placed place).segmentEnded speed leg) := by
    simp [OperationalWorld.segmentFinished, OperationalWorld.updateTrain, hold]
  refine Leads.update (Reaches.settle (.markOccupied hthere ?_) ?_)
  · exact KeySet.subset_iff.mpr fun _ h => h
  refine Reaches.call (releaseRoutesAfterTail_settles trainId _ _) fun released _ => ?_
  have hkept := releaseRoutesAfterTail_blocksKept trainId
    ((w₁.segmentFinished trainId place speed leg).markOccupied place.occupiedBlocks) trainId
  refine Leads.about (Leads.update (Reaches.settle .endAuthority ?_))
  refine Leads.update (Reaches.settle .refreshLifecycle (Leads.relax ?_
    (Takes.andThen (.silent (wakeMovementContinuationsForResources_silent _)) fun _ =>
      .of_pure _)))
  refine d.arrived_le trainId fun block hblock => ?_
  have hafter := hkept block (by
    simp only [OperationalWorld.blocksOfTrain, OperationalWorld.markOccupied, hthere,
      Option.map_some, Option.getD_some]
    exact hblock)
  unfold OperationalWorld.blocksOfTrain at hafter ⊢
  simp only [OperationalWorld.updateTrain, Registry.getElem?_modify, if_true, Option.map_map]
  exact hafter

lemma continueAfterSegment_settles (env : Env) (trainId : String) (released : KeySet String) :
    Settles (continueAfterSegment env trainId released) := by
  intro d w
  refine Leads.world (Leads.check fun train _ => ?_)
  dsimp only
  split
  · exact Takes.andThen (planMotion_takes d env _) fun _ =>
      .bind (dispatchWaitingForResources_takes d env _) fun _ => .of_pure _
  · split
    · exact Takes.andThen (dispatchWaitingForResources_takes d env _) fun _ => .of_pure _
    · split
      · exact Takes.relax (d.settle_le _) (safeStop_takes d _ _) w
      · exact Takes.andThen (.silent (refreshRouteCompletion_silent env _)) fun _ =>
          .bind (progressMovementContinuations_settles env d) fun _ =>
          .bind (dispatchPending_takes d env) fun _ => .of_pure _

lemma finishMotionSegment_takes (d : Debt) (env : Env) (trainId : String) :
    Takes d (finishMotionSegment env trainId) (d.settle trainId) := by
  intro w
  refine Leads.world (Leads.check fun train htrain => Leads.check fun reached hreached => ?_)
  obtain ⟨head, speed⟩ := reached
  refine Leads.check fun route hroute => Leads.check fun formation hformation =>
    Leads.check fun place hplace => ?_
  refine Leads.silently (measureServiceVehicleCost_silent env _ _) fun _ hquiet => ?_
  refine Leads.check fun _ hhead => ?_
  simp only [refuseIf_eq_ok, decide_eq_false_iff_not, not_lt] at hhead
  refine Reaches.call (arriveAtSegmentEnd_takes htrain hreached hroute hformation hplace hhead
    hquiet) fun released _ => ?_
  exact Takes.andThen (.silent (record_silent _ _ _)) fun _ =>
    .bind (recordPassengerArrival_settles env _ _) fun _ => continueAfterSegment_settles env _ _ _

/-! ### The clock -/

lemma motionEndRound_settles (env : Env) (atMs : SimMillis) :
    Settles (motionEndRound env atMs) := by
  intro d w
  refine Leads.world ?_
  split
  · exact .of_pure _
  case h_2 next _ =>
    split
    · exact .of_pure _
    · refine Leads.about (Leads.update (Reaches.settle (.dropMotionEnd rfl) ?_))
      dsimp only
      split
      · exact Takes.andThen (Takes.relax (d.spend_settle_le _)
          (finishMotionSegment_takes _ env _)) fun _ => .of_pure _
      · exact .of_pure _

/-- The first scheduled end is the earliest one. -/
lemma head_motionEnd_le {ends : KeySet ScheduledMotionEnd} {first other : ScheduledMotionEnd}
    (hfirst : ends.toList.head? = some first) (hother : other ∈ ends) :
    first.atMs ≤ other.atMs := by
  have hsorted := ends.ordered_toList
  rw [← Std.ExtTreeSet.mem_toList] at hother
  cases hlist : ends.toList with
  | nil => simp [hlist] at hfirst
  | cons a l =>
    rw [hlist] at hfirst hother hsorted
    cases hfirst
    rcases List.mem_cons.mp hother with rfl | hin
    · exact le_rfl
    · have hlt := (List.pairwise_cons.mp hsorted).1 other hin
      have horder : ScheduledMotionEnd.order first other = .lt := hlt
      simp only [ScheduledMotionEnd.order, compareLex, compareOn, Ordering.then_eq_lt] at horder
      rcases horder with h | h
      · exact (compare_lt_iff_lt.mp h).le
      · exact (Std.compare_eq_iff_eq.mp h.1).le

/-- No segment ends and no hold is due before an instant. -/
def OperationalWorld.NothingBefore (w : OperationalWorld) (atMs : SimMillis) : Prop :=
  (∀ scheduled ∈ w.scheduledMotionEnds, atMs ≤ scheduled.atMs)
    ∧ ∀ scheduled ∈ w.dueHolds, atMs ≤ scheduled.atMs

lemma OperationalWorld.NothingBefore.mono {atMs earlier : SimMillis}
    (h : w.NothingBefore atMs) (hle : earlier ≤ atMs) : w.NothingBefore earlier :=
  ⟨fun s hs => hle.trans (h.1 s hs), fun s hs => hle.trans (h.2 s hs)⟩

/-- A due date comes with a first due date, which is the instant of the next one. -/
lemma OperationalWorld.fareControlNextAt_le
    {scheduled : ScheduledFareControlHold} (hin : scheduled ∈ w.dueHolds) :
    ∃ atMs, w.fareControlNextAt = some atMs ∧ atMs ≤ scheduled.atMs := by
  unfold dueHolds at hin
  cases hfare : w.fareControlState with
  | none => simp [hfare] at hin
  | some state =>
    rw [hfare, Option.map_some, Option.getD_some] at hin
    obtain ⟨first, hfirst⟩ : ∃ first, state.scheduled.toList.head? = some first := by
      cases hlist : state.scheduled.toList with
      | nil => simp [← Std.ExtTreeSet.mem_toList, hlist] at hin
      | cons a l => exact ⟨a, rfl⟩
    refine ⟨first.atMs, by simp [fareControlNextAt, hfare, hfirst], ?_⟩
    refine head_dueHolds_le (w := w) (by simp [hfare, hfirst]) ?_
    simpa [dueHolds, hfare] using hin

lemma OperationalWorld.nextInstant_le {atMs : SimMillis}
    (h : w.nextInstant = some atMs) : w.NothingBefore atMs := by
  unfold OperationalWorld.nextInstant at h
  have hmin := (List.min?_eq_some_iff.mp h).2
  refine ⟨fun scheduled hin => ?_, fun scheduled hin => ?_⟩
  · obtain ⟨first, hfirst⟩ : ∃ first, w.scheduledMotionEnds.toList.head? = some first := by
      cases hlist : w.scheduledMotionEnds.toList with
      | nil => simp [← Std.ExtTreeSet.mem_toList, hlist] at hin
      | cons a l => exact ⟨a, rfl⟩
    exact le_trans (hmin _ (by simp [hfirst])) (head_motionEnd_le hfirst hin)
  · obtain ⟨next, hnext, hle⟩ := fareControlNextAt_le hin
    exact le_trans (hmin _ (by simp [hnext])) hle

lemma OperationalWorld.nextInstant_none (h : w.nextInstant = none)
    (atMs : SimMillis) : w.NothingBefore atMs := by
  unfold OperationalWorld.nextInstant at h
  refine ⟨fun scheduled hin => ?_, fun scheduled hin => ?_⟩
  · cases hlist : w.scheduledMotionEnds.toList with
    | nil => simp [← Std.ExtTreeSet.mem_toList, hlist] at hin
    | cons a l => simp [hlist] at h
  · obtain ⟨next, hnext, -⟩ := fareControlNextAt_le hin
    simp [hnext] at h

lemma setClock_takes (d : Debt) {atMs targetMs : SimMillis}
    (hle : atMs ≤ targetMs) (h : w.NothingBefore atMs) :
    Leads (d.approaching targetMs) w [] w (setClock atMs) (d.approaching targetMs).oweHolds :=
  Leads.about (Reaches.last (Leads.update (Reaches.settle (.tick rfl hle h.1 h.2) (.of_pure _))))

lemma progressFareControlHolds_takes (env : Env) (d : Debt) :
    Takes d.oweHolds (progressFareControlHolds env) d :=
  (progressFareControlHolds_settles env).progressed
    (progressFareControlHolds_leavesNoneDue env) d

lemma clockRound_takes (env : Env) (d : Debt) (targetMs : SimMillis) :
    Takes (d.approaching targetMs) (clockRound env targetMs) (d.approaching targetMs) := by
  intro w
  refine Leads.world ?_
  split
  · exact .of_pure _
  case h_2 atMs hnext =>
    split
    · exact .of_pure _
    case isFalse hle =>
      refine Reaches.call (setClock_takes d (Int.not_lt.mp hle)
        (OperationalWorld.nextInstant_le hnext)) fun _ _ => ?_
      exact Takes.andThen (.repeatFrom _
          (fun _ => motionEndRound_settles env _ (d.approaching targetMs).oweHolds) _ _)
        fun _ => .bind (progressFareControlHolds_takes env (d.approaching targetMs)) fun _ =>
        .bind (progressPassengerDepartures_settles env _) fun _ =>
        .bind (progressMovementContinuations_settles env _) fun _ =>
        .bind (Takes.silent (closeReadyServiceDays_silent env)) fun _ => .of_pure _

/-- The last round of the clock finds nothing that is due before the target. -/
lemma clockRound_ensures (env : Env) (targetMs : SimMillis) (w : OperationalWorld) :
    TracedM.Ensures
      (fun (round : Bool × Unit) (w' : OperationalWorld) => round.1 = false →
        w'.NothingBefore targetMs)
      (clockRound env targetMs) w := by
  refine .read ?_
  split
  case h_1 hnext =>
    exact .of_pure fun _ => OperationalWorld.nextInstant_none hnext targetMs
  case h_2 hnext =>
    split
    case isTrue hlate =>
      exact .of_pure fun _ => (OperationalWorld.nextInstant_le hnext).mono hlate.le
    case isFalse =>
      exact .skip fun _ _ => .skip fun _ _ => .skip fun _ _ => .skip fun _ _ => .skip fun _ _ =>
        .skip fun _ _ => .of_pure fun h => by cases h

lemma advanceTo_takes (env : Env) {d : Debt} (hclock : d.horizon = none) (targetMs : SimMillis) :
    Takes d (advanceTo env targetMs) d := by
  intro w
  refine Leads.world (Leads.check fun _ _ => Leads.check fun _ _ => Leads.check fun _ hlate => ?_)
  simp only [refuseIf_eq_ok, decide_eq_false_iff_not, not_lt] at hlate
  refine Reaches.settle (.approach hclock hlate) ?_
  refine Takes.andThen (.silent refreshContinuationSchedule_silent) fun _ => fun v => ?_
  refine Reaches.call (Follows.repeatFrom _ (fun _ => clockRound_takes env d targetMs) _ _ v)
    fun _ hloop => ?_
  obtain ⟨_, u, hlast, hstate⟩ := TracedM.repeatFrom_ok hloop
  have hends := clockRound_ensures env targetMs u _ hlast rfl
  rw [← hstate]
  -- The clock arrives at the target.
  refine Reaches.assoc (Leads.about (Leads.update (Reaches.settle
    (Step.tick rfl le_rfl hends.1 hends.2) ?_)))
  refine Reaches.settle (.clockReached rfl)
    (Reaches.settle (.relax (Debt.clockReached_le hclock targetMs)) ?_)
  exact Takes.andThen (progressFareControlHolds_takes env d) fun _ =>
    .bind (progressMovementContinuations_settles env d) fun _ =>
    Takes.silent (closeReadyServiceDays_silent env)

/-! ### Cancelled stop plans -/

lemma foldPosition_takes (d : Debt) (trainId : String) :
    Takes d (foldPosition trainId) (d.spend trainId) := by
  intro w
  refine Leads.world (Leads.check fun train htrain => ?_)
  rw [orPanic_eq_ok] at htrain
  split
  · exact Leads.relax (d.le_spend trainId) (.of_pure _)
  case h_2 segment hsegment =>
    refine Leads.check fun head hhead => Leads.check fun route hroute =>
      Leads.check fun formation hformation => Leads.check fun place hplace =>
      Leads.check fun leg _ => Leads.about (Leads.update ?_)
    rw [orRefuse_eq_ok] at hroute hformation
    refine Reaches.settle (.foldPosition htrain hsegment hhead hroute hformation hplace) ?_
    refine Takes.andThen (releaseRoutesAfterTail_settles trainId _) fun _ => fun v => ?_
    exact Reaches.last (Leads.update (Reaches.settle .refreshLifecycle
      (Leads.relax (d.folded_le trainId _) (.of_pure _))))

lemma cancelPassengerStopPlan_settles (env : Env) (input : CancelPassengerStopPlanInputV1) :
    Settles (cancelPassengerStopPlan env input) := by
  intro d w
  refine Leads.world (Leads.check fun _ _ => Leads.check fun train _ =>
    Leads.check fun progress _ => Leads.check fun _ _ => ?_)
  split
  · exact Leads.check fun _ _ => .of_pure _
  · refine .staged (Takes.andThen (foldPosition_takes d _) fun _ => ?_)
    refine .bind (fun v => Reaches.last (Leads.update (Reaches.settle .cancelPlan
      (.of_pure _)))) fun _ => ?_
    refine .bind (Takes.relax (d.spend_settle_le _) (safeStop_takes _ _ _)) fun _ => ?_
    refine .bind (cancelRequestedFareControlHold_settles env _ _ d) fun _ => ?_
    refine .bind (Takes.silent (record_silent _ _ _)) fun _ => fun v => ?_
    exact Leads.world (Leads.check fun _ _ => .of_pure _)

end Zugfolge
