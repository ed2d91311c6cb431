/-
Locks, stops, driver and dispatcher take steps.

A lock that is refused as unsafe changes nothing but the waiting list, so the dispatcher
may go on with the next candidate; any other refusal of a lock ends its operation.
-/
import Zugfolge.Behaviour.Step

namespace Zugfolge

open Foundation

/-! ### Commands and steps -/

/-- A command takes steps from debt `d` to debt `d'`. -/
abbrev Takes {α : Type} (d : Debt) (m : M α) (d' : Debt) : Prop := Follows Step d m d'

/-- A command in world `w` leads on from the steps taken so far. -/
abbrev Leads {α : Type} (d₀ : Debt) (w₀ : OperationalWorld) (vs₀ : List Visit)
    (w : OperationalWorld) (m : M α) (d : Debt) : Prop := Reaches Step d₀ w₀ vs₀ w m d

namespace Leads

variable {α β : Type} {d₀ d d' : Debt} {w₀ w : OperationalWorld} {vs₀ : List Visit}

lemma world {f : OperationalWorld → M β} (h : Leads d₀ w₀ vs₀ w (f w) d') :
    Leads d₀ w₀ vs₀ w (M.world >>= f) d' := Reaches.read h

lemma check {r : Checked α} {f : α → M β}
    (h : ∀ a, r = .ok a → Leads d₀ w₀ vs₀ w (f a) d') :
    Leads d₀ w₀ vs₀ w (M.check r >>= f) d' := Reaches.lift h

lemma update {g : OperationalWorld → OperationalWorld} {f : Unit → M β}
    (h : Leads d₀ w₀ vs₀ (g w) (f ()) d') : Leads d₀ w₀ vs₀ w (M.update g >>= f) d' :=
  Reaches.modify h

lemma about {act : Act} {f : Unit → M β} (h : Leads d₀ w₀ (vs₀ ++ [⟨w, act⟩]) w (f ()) d') :
    Leads d₀ w₀ vs₀ w (M.about act >>= f) d' := Reaches.note h

lemma reject (e : OperationalError) : Leads d₀ w₀ vs₀ w (M.reject e : M α) d' := Reaches.of_fail _

lemma silently {m : M α} {f : α → M β} (hm : Silent m)
    (h : ∀ a, Quiet w (m w).state → Leads d₀ w₀ vs₀ (m w).state (f a) d') :
    Leads d₀ w₀ vs₀ w (m >>= f) d' :=
  Reaches.carry (hm.visits w) fun a _ => h a (hm.quiet w)

lemma quiet {m : M α} (hq : Quiet w₀ w) (h : Leads d₀ w [] w m d') :
    Leads d₀ w₀ [] w m d' := Reaches.settle (.quiet hq) h

lemma relax {m : M α} (hd : d.Le d') (h : Leads d₀ w₀ vs₀ w m d) : Leads d₀ w₀ vs₀ w m d' := by
  intro a ha
  simpa using (h a ha).trans (Path.single (Step.relax hd))

end Leads

namespace Takes

variable {α β : Type} {d d₁ d' : Debt}

lemma silent {m : M α} (hm : Silent m) : Takes d m d :=
  Follows.of_always hm fun h => by
    obtain ⟨hq, rfl⟩ := h
    exact Step.quiet hq

lemma relax {m : M α} (hd : d₁.Le d') (h : Takes d m d₁) : Takes d m d' :=
  fun w => Leads.relax hd (h w)

lemma andThen {m : M α} {f : α → M β} {w : OperationalWorld} (hm : Takes d m d₁)
    (hf : ∀ a, Takes d₁ (f a) d') : Leads d w [] w (m >>= f) d' :=
  Reaches.call (hm w) fun a _ => hf a _

end Takes

/-! ### Locks -/

namespace OperationalWorld

variable (w : OperationalWorld)

lemma registerRouteWait_quiet (trainId : String) (resources : KeySet String) :
    Quiet w (w.registerRouteWait trainId resources) := by
  have h1 : Quiet w { w with
      waitingByResource :=
        Registry.addMemberAll w.waitingByResource resources.toList trainId } := .of_same rfl
  exact h1.trans (Quiet.updateTrain _ _ fun _ => rfl)

/-- No event can be published any more. -/
def Exhausted : Prop := maxPendingOperationalEvents ≤ w.events.length ∨ u64Max ≤ w.eventSequence

end OperationalWorld

lemma record_of_exhausted (kind subjectId : String) (detail : EventDetail)
    {w : OperationalWorld} (h : w.Exhausted) :
    ∃ e, record kind subjectId detail w = ⟨.error (.refused e), w, []⟩
      ∧ (e = .eventBudgetExceeded ∨ e = .arithmeticOverflow) := by
  unfold record
  rw [M.world_bind]
  by_cases h1 : maxPendingOperationalEvents ≤ w.events.length
  · refine ⟨.eventBudgetExceeded, ?_, .inl rfl⟩
    simp only [refuseIf, h1, decide_true, if_true, refuse, M.check_error_bind]
  · have h2 : u64Max ≤ w.eventSequence := h.resolve_left h1
    refine ⟨.arithmeticOverflow, ?_, .inr rfl⟩
    simp only [refuseIf, h1, h2, decide_true, decide_false, if_true, Bool.false_eq_true, if_false,
      refuse, M.check_ok_bind, M.check_error_bind]

lemma record_of_room (kind subjectId : String) (detail : EventDetail) {w : OperationalWorld}
    (h : ¬ w.Exhausted) :
    record kind subjectId detail w = ⟨.ok (), w.pushEvent kind subjectId detail, []⟩ := by
  obtain ⟨h1, h2⟩ := not_or.mp h
  unfold record
  rw [M.world_bind]
  simp only [refuseIf, h1, h2, decide_false, Bool.false_eq_true, if_false, M.check_ok_bind]
  rfl

variable {e : Failure} {templateId trainId : String}

/-- What a lock leaves behind when it is refused: the world as it was, but for an entry in
the waiting list, or a world in which no event can be published. -/
lemma lockRouteAt_refused {continuation registerWait : Bool} {w : OperationalWorld}
    (h : (lockRouteAt trainId templateId continuation registerWait w).result = .error e) :
    (((lockRouteAt trainId templateId continuation registerWait w).state = w
          ∨ ∃ resources, (lockRouteAt trainId templateId continuation registerWait w).state
            = w.registerRouteWait trainId resources)
        ∧ (lockRouteAt trainId templateId continuation registerWait w).visits = [])
      ∨ ((lockRouteAt trainId templateId continuation registerWait w).state.Exhausted
        ∧ ∀ id, e ≠ .refused (.unsafeRoute id)) := by
  unfold lockRouteAt at h ⊢
  rw [M.world_bind] at h ⊢
  cases hadmitted : w.admitRoute trainId templateId continuation with
  | error e' =>
    left
    rw [M.check_error_bind]
    exact ⟨.inl rfl, rfl⟩
  | ok found =>
    obtain ⟨train, template⟩ := found
    rw [hadmitted, M.check_ok_bind] at h
    rw [M.check_ok_bind]
    dsimp only at h ⊢
    by_cases hc : w.routeConflicts trainId template = true
    · left
      simp only [hc, if_true] at h ⊢
      split
      · exact ⟨.inr ⟨_, rfl⟩, rfl⟩
      · exact ⟨.inl rfl, rfl⟩
    · right
      rw [if_neg hc, M.about_bind, M.update_bind] at h ⊢
      by_cases hs : u64Max ≤ w.eventSequence
      · simp only [refuseIf, hs, decide_true, if_true, refuse, M.check_error_bind,
          Except.error.injEq] at h ⊢
        refine ⟨.inr hs, fun id => ?_⟩
        subst h
        simp
      · simp only [refuseIf, hs, decide_false, Bool.false_eq_true, if_false,
          M.check_ok_bind] at h ⊢
        rw [M.update_bind] at h ⊢
        generalize (w.setSwitches template).commitRouteLock train trainId templateId
          (w.nextLockId trainId templateId) template = v at h ⊢
        by_cases hv : v.Exhausted
        · obtain ⟨e', hrec, he'⟩ := record_of_exhausted "route-locked" trainId
            (.text templateId) hv
          rw [TracedM.bind_of_error (e := .refused e') _ (by rw [hrec])] at h ⊢
          simp only [Except.error.injEq] at h
          subst h
          refine ⟨by rw [hrec]; exact hv, fun id => ?_⟩
          rcases he' with rfl | rfl <;> simp
        · rw [TracedM.bind_of_ok (a := ()) _ (by rw [record_of_room _ _ _ hv])] at h
          simp at h

/-- A lock that is refused is a quiet step, or leaves a world in which no event can be
published. -/
lemma lockRouteAt_error {continuation registerWait : Bool} {w : OperationalWorld}
    (h : (lockRouteAt trainId templateId continuation registerWait w).result = .error e) :
    QuietRun w (lockRouteAt trainId templateId continuation registerWait w).visits
        (lockRouteAt trainId templateId continuation registerWait w).state
      ∨ ((lockRouteAt trainId templateId continuation registerWait w).state.Exhausted
        ∧ ∀ id, e ≠ .refused (.unsafeRoute id)) := by
  rcases lockRouteAt_refused h with ⟨hstate, hvisits⟩ | hexhausted
  · refine .inl ⟨?_, hvisits⟩
    rcases hstate with heq | ⟨resources, heq⟩
    · rw [heq]
      exact Quiet.refl w
    · rw [heq]
      exact w.registerRouteWait_quiet trainId resources
  · exact .inr hexhausted

/-- In a world in which no event can be published no lock is given. -/
lemma lockRouteAt_exhausted (trainId templateId : String) (continuation registerWait : Bool)
    {w : OperationalWorld} (hw : w.Exhausted) :
    (∃ e, (lockRouteAt trainId templateId continuation registerWait w).result = .error e)
      ∧ (lockRouteAt trainId templateId continuation registerWait w).state.Exhausted := by
  unfold lockRouteAt
  rw [M.world_bind]
  cases w.admitRoute trainId templateId continuation with
  | error e =>
    rw [M.check_error_bind]
    exact ⟨⟨e, rfl⟩, hw⟩
  | ok found =>
    rw [M.check_ok_bind]
    dsimp only
    split
    · split
      · exact ⟨⟨_, rfl⟩, hw⟩
      · exact ⟨⟨_, rfl⟩, hw⟩
    · rw [M.about_bind, M.update_bind]
      cases refuseIf (decide (u64Max ≤ w.eventSequence)) .arithmeticOverflow with
      | error e =>
        rw [M.check_error_bind]
        exact ⟨⟨e, rfl⟩, hw⟩
      | ok _ =>
        rw [M.check_ok_bind]
        dsimp only
        rw [M.update_bind]
        obtain ⟨e, hrec, -⟩ := record_of_exhausted "route-locked" trainId (.text templateId)
          (w := (w.setSwitches found.2).commitRouteLock found.1 trainId templateId
            (w.nextLockId trainId templateId) found.2) hw
        rw [TracedM.bind_of_error (e := .refused e) _ (by rw [hrec])]
        exact ⟨⟨_, rfl⟩, by rw [hrec]; exact hw⟩

lemma lockRouteAt_takes (d : Debt) (trainId templateId : String)
    (continuation registerWait : Bool) :
    Takes d (lockRouteAt trainId templateId continuation registerWait) d := by
  intro w
  refine Leads.world (Leads.check fun found hadmitted => ?_)
  obtain ⟨train, template⟩ := found
  dsimp only
  split
  · split
    · exact Leads.update (Leads.reject _)
    · exact Leads.reject _
  case isFalse hconflicts =>
    refine Leads.about (Leads.update (Leads.check fun _ _ => Leads.update ?_))
    refine Reaches.settle (.lockRoute hadmitted (by simpa using hconflicts)) ?_
    exact Takes.andThen (.silent (record_silent _ _ _)) fun _ => .of_pure _

lemma lockRoute_takes (d : Debt) (trainId templateId : String) :
    Takes d (lockRoute trainId templateId) d := fun _ =>
  Leads.world (Leads.check fun _ _ => lockRouteAt_takes d trainId templateId false true _)

/-- What `lockRoute` leaves behind when it is refused. -/
lemma lockRoute_error {w : OperationalWorld}
    (h : (lockRoute trainId templateId w).result = .error e) :
    QuietRun w (lockRoute trainId templateId w).visits (lockRoute trainId templateId w).state
      ∨ ((lockRoute trainId templateId w).state.Exhausted
        ∧ ∀ id, e ≠ .refused (.unsafeRoute id)) := by
  unfold lockRoute at h ⊢
  rw [M.world_bind] at h ⊢
  cases hprep : w.ensureNotPrepared with
  | error e' =>
    rw [M.check_error_bind]
    exact .inl ⟨Quiet.refl w, rfl⟩
  | ok _ =>
    rw [hprep, M.check_ok_bind] at h
    rw [M.check_ok_bind]
    exact lockRouteAt_error h

lemma lockRoute_exhausted (trainId templateId : String) {w : OperationalWorld}
    (hw : w.Exhausted) :
    (∃ e, (lockRoute trainId templateId w).result = .error e)
      ∧ (lockRoute trainId templateId w).state.Exhausted := by
  unfold lockRoute
  rw [M.world_bind]
  cases w.ensureNotPrepared with
  | error e => exact ⟨⟨e, rfl⟩, hw⟩
  | ok _ => exact lockRouteAt_exhausted trainId templateId false true hw

lemma Leads.unsafeLock {α : Type} {d d' : Debt} {w : OperationalWorld} {vs : List Visit}
    {w' : OperationalWorld} {m : M α} {id : String}
    (h : QuietRun w vs w' ∨ (w'.Exhausted ∧
      ∀ id', Failure.refused (.unsafeRoute id) ≠ .refused (.unsafeRoute id')))
    (hm : Leads d w' [] w' m d') : Leads d w vs w' m d' := by
  obtain ⟨hq, rfl⟩ := h.resolve_right fun hx => hx.2 id rfl
  exact Leads.quiet hq hm

lemma extendAuthorityOnce_takes (d : Debt) (trainId : String) :
    Takes d (extendAuthorityOnce trainId) d := by
  intro w
  refine Leads.world (Leads.check fun train _ => Leads.check fun route _ =>
    Leads.check fun authority _ => ?_)
  split
  · exact .of_pure _
  · split
    · exact .of_pure _
    · refine Reaches.attempt (lockRouteAt_takes d _ _ _ _ w) (fun _ _ => .of_pure _) fun e he => ?_
      split
      · rename_i heq
        cases heq
      · rename_i id heq
        simp only [Except.error.injEq] at heq
        subst heq
        exact Leads.unsafeLock (lockRouteAt_error he) (.of_pure _)
      · exact Reaches.of_fail _

lemma extendAvailableTrainAuthority_takes (d : Debt) (env : Env) (trainId : String) :
    Takes d (extendAvailableTrainAuthority env trainId) d :=
  .repeatFrom _ (fun _ => extendAuthorityOnce_takes d trainId) _ _

/-! ### Stops -/

lemma rebuildSignalAspects_takes (d : Debt) :
    Takes d rebuildSignalAspects d.signalsRebuilt := fun _ =>
  Leads.world (Leads.check fun _ haspects => Reaches.last (Leads.update
    (Reaches.settle (.rebuildSignals haspects) (.of_pure _))))

lemma safeStop_takes (d : Debt) (trainId reason : String) :
    Takes d (safeStop trainId reason) (d.settle trainId) := by
  intro w
  refine Leads.world (Leads.check fun _ _ => ?_)
  split
  · refine Leads.about (Leads.update (Reaches.settle .safeStop ?_))
    refine Takes.andThen (rebuildSignalAspects_takes _) fun _ => ?_
    refine Follows.bind (Takes.silent refreshContinuationSchedule_silent) fun _ => ?_
    exact Takes.relax (d.settle trainId).signalsRebuilt_le (.silent (record_silent _ _ _))
  · exact Leads.update (Leads.reject _)

/-- Every train keeps its core. -/
def CoresKept (w : OperationalWorld) (_ : List Visit) (w' : OperationalWorld) : Prop :=
  ∀ id : String, (w'.trains[id]?).map OperationalTrain.core
    = (w.trains[id]?).map OperationalTrain.core

lemma coresKept_composes : TracedM.Composes CoresKept where
  refl _ _ := rfl
  trans h k id := (k id).trans (h id)

lemma Silent.coresKept {α : Type} {m : M α} (hm : Silent m) : TracedM.Always CoresKept m :=
  fun w => (hm.quiet w).trains

lemma rebuildSignalAspects_coresKept : TracedM.Always CoresKept rebuildSignalAspects :=
  .bind coresKept_composes (.of_read coresKept_composes) fun _ =>
    .bind coresKept_composes (.of_lift coresKept_composes _) fun _ => .of_modify fun _ _ => rfl

/-- A safe stop leaves its train in a safe stop. -/
lemma safeStop_ensures (trainId reason : String) (w : OperationalWorld) :
    TracedM.Ensures
      (fun (_ : Unit) (w' : OperationalWorld) => ∃ train,
        w'.trains[trainId]? = some train ∧ train.motionState.isSafeStop = true)
      (safeStop trainId reason) w := by
  have hrest : TracedM.Always CoresKept (do
      rebuildSignalAspects
      refreshContinuationSchedule
      record "safe-stop" trainId (.text reason)) :=
    .bind coresKept_composes rebuildSignalAspects_coresKept fun _ =>
      .bind coresKept_composes refreshContinuationSchedule_silent.coresKept fun _ =>
        (record_silent _ _ _).coresKept
  refine .read (.lift fun _ _ => ?_)
  split
  case isTrue hin =>
    refine .note (.modify fun _ _ => ?_)
    obtain ⟨train, htrain⟩ := Registry.contains_iff.mp hin
    have hcore := hrest (w.commitSafeStop trainId reason) trainId
    have hstopped : (w.commitSafeStop trainId reason).trains[trainId]?
        = some (train.stopped reason) := by
      simp [OperationalWorld.commitSafeStop, OperationalWorld.dropContinuationWaitsFrom,
        OperationalWorld.dropWaiting, OperationalWorld.dropDepartures,
        OperationalWorld.dropMotionEnds, OperationalWorld.updateTrain, htrain]
    rw [hstopped] at hcore
    obtain ⟨last, hlast, heq⟩ := Option.map_eq_some_iff.mp hcore
    have hstate : last.core.motionState = (train.stopped reason).core.motionState :=
      congrArg OperationalTrain.motionState heq
    refine ⟨last, hlast, ?_⟩
    change last.core.motionState.isSafeStop = true
    rw [hstate]
    rfl
  case isFalse => exact .modify (.of_fail _)

lemma stopForInfrastructureDisruption_takes (d : Debt) (disruptionId trainId : String) :
    Takes d (stopForInfrastructureDisruption disruptionId trainId) d := by
  intro w
  refine Leads.world (Leads.check fun train _ => ?_)
  dsimp only
  split
  · exact .of_pure _
  · refine Reaches.call (safeStop_takes d _ _ w) fun _ hstop => ?_
    obtain ⟨stopped, hstopped, hsafe⟩ := safeStop_ensures _ _ _ _ hstop
    refine Leads.about (Reaches.last (Leads.update ?_))
    exact Reaches.settle (.stopForInfrastructure hstopped hsafe)
      (Leads.relax (d.settle_le _) (.of_pure _))

lemma refreshReleasedInfrastructureStop_takes (d : Debt) (trainId : String) :
    Takes d (refreshReleasedInfrastructureStop trainId) d := by
  intro w
  refine Leads.world ?_
  split
  · exact .of_pure _
  case h_2 evidence hevidence =>
    refine Leads.check fun train htrain => ?_
    rw [orPanic_eq_ok] at htrain
    split
    · exact .of_pure _
    · refine Leads.check fun _ hready => Leads.about (Reaches.last (Leads.update ?_))
      simp only [refuseIf_eq_ok, Bool.or_eq_false_iff, Option.isSome_eq_false_iff,
        Option.isNone_iff_eq_none] at hready
      refine Reaches.settle (.releaseInfrastructureStop htrain hready.1.1.2 hready.1.2 ?_)
        (.of_pure _)
      exact Registry.contains_iff.mpr ⟨evidence, hevidence⟩

lemma OperationalWorld.dropStopCause_quiet (w : OperationalWorld) (trainId disruptionId : String) :
    Quiet w (w.dropStopCause trainId disruptionId) := by
  refine { Quiet.refl w with stops := fun id => ?_ }
  · simp only [OperationalWorld.dropStopCause, Std.ExtTreeMap.contains_eq_isSome_getElem?,
      Registry.getElem?_modify]
    split
    case isTrue h =>
      subst h
      simp
    case isFalse => rfl

lemma releaseInfrastructureDisruptionStops_takes (d : Debt) (disruptionId : String) :
    Takes d (releaseInfrastructureDisruptionStops disruptionId) d := fun _ =>
  Leads.world (Follows.forEach (fun trainId =>
    Follows.bind (Takes.silent (.update fun w => w.dropStopCause_quiet trainId disruptionId))
      fun _ => refreshReleasedInfrastructureStop_takes d trainId) _ _)

lemma finishInfrastructureAuthorityReissue_takes (d : Debt) (trainId : String) :
    Takes d (finishInfrastructureAuthorityReissue trainId) d := by
  intro w
  refine Leads.world ?_
  split
  · exact .of_pure _
  · refine Leads.check fun train _ => ?_
    split
    · exact Leads.about (Reaches.last (Leads.update
        (Reaches.settle .finishAuthorityReissue (.of_pure _))))
    · exact .of_pure _

/-! ### The driver -/

/-- The departure behind a planned motion: the train leaves the stop it stands at, or it
stands at none. -/
lemma recordPassengerDeparture_leads {d : Debt} {env : Env}
    {w : OperationalWorld} {segment : MotionSegment}
    (hplan : decideMotion w trainId = .ok (.start segment)) :
    Leads d w [⟨w, .planMotion trainId⟩] (w.startSegment trainId segment)
      (recordPassengerDeparture env trainId) d := by
  have hstarted : ∀ started : OperationalTrain,
      (w.startSegment trainId segment).trains[trainId]? = some started →
      ∃ train, w.trains[trainId]? = some train ∧ started = { train with
        motionSegment := some segment, motionState := .moving, waitingReason := none } := by
    intro started hstarted
    simp only [OperationalWorld.startSegment, OperationalWorld.updateTrain,
      Registry.getElem?_modify, if_true, Option.map_eq_some_iff] at hstarted
    obtain ⟨train, htrain, hsame⟩ := hstarted
    exact ⟨train, htrain, hsame.symm⟩
  refine Leads.world (Leads.check fun started hthere => ?_)
  rw [orPanic_eq_ok] at hthere
  obtain ⟨train, htrain, rfl⟩ := hstarted started hthere
  dsimp only
  split
  case h_1 hnone =>
    refine Reaches.settle (.planMotion hplan fun other progress hother hprogress => ?_)
      (.of_pure _)
    rw [htrain, Option.some.injEq] at hother
    rw [← hother, hnone] at hprogress
    cases hprogress
  case h_2 progress hprogress =>
    split
    case isTrue hnone =>
      refine Reaches.settle (.planMotion hplan fun other found hother hfound => ?_) (.of_pure _)
      rw [htrain, Option.some.injEq] at hother
      rw [← hother, hprogress, Option.some.injEq] at hfound
      rwa [← hfound, ← Option.isNone_iff_eq_none]
    case isFalse harrived =>
      refine Leads.check fun stop hstop => Leads.check fun _ hdue => ?_
      rw [orPanic_eq_ok] at hstop
      simp only [refuseIf_eq_ok, Bool.or_eq_false_iff, Bool.not_eq_false', Option.any_some,
        Option.any_eq_true, decide_eq_true_eq, bne_eq_false_iff_eq] at hdue
      obtain ⟨⟨⟨due, hdue, hnow⟩, hhead⟩, hends⟩ := hdue
      refine Leads.silently (passengerReceipt_silent env _ _) fun _ hquiet => ?_
      refine Leads.update (Reaches.settle (.leaveStop hplan htrain hprogress ?_ hdue hnow hstop
        hhead hends hquiet) ?_)
      · rwa [Bool.not_eq_true, Option.isNone_eq_false_iff] at harrived
      · exact Takes.silent (.update fun v => v.dropDepartures_quiet _) _

lemma planMotion_takes (d : Debt) (env : Env) (trainId : String) :
    Takes d (planMotion env trainId) d := by
  intro w
  refine Leads.world (Leads.check fun plan hplan => ?_)
  cases plan with
  | stop reason refusal =>
    exact Reaches.call (safeStop_takes d _ _ w) fun _ _ => Leads.reject _
  | start segment =>
    refine Leads.about (Leads.update ?_)
    refine Reaches.call (recordPassengerDeparture_leads hplan) fun _ _ => ?_
    exact Takes.andThen (.silent (record_silent _ _ _)) fun _ => .of_pure _

/-! ### The dispatcher -/

lemma dispatchCandidate_takes (d : Debt) (candidate : DispatchRequest) :
    Takes d (dispatchCandidate candidate) d := by
  intro w
  refine Reaches.attempt (lockRoute_takes d _ _ w) (fun _ _ => ?_) fun e he => ?_
  · exact Takes.andThen (.silent (record_silent _ _ _)) fun _ => .of_pure _
  · split
    · rename_i heq
      cases heq
    · rename_i id heq
      simp only [Except.error.injEq] at heq
      subst heq
      exact Leads.unsafeLock (lockRoute_error he) (.of_pure _)
    · exact Reaches.of_fail _

lemma dispatchFirst_takes (d : Debt) (candidates : List DispatchRequest) :
    Takes d (dispatchFirst candidates) d := by
  induction candidates with
  | nil => exact .of_pure _
  | cons candidate rest ih =>
    refine Follows.bind (dispatchCandidate_takes d candidate) fun given => ?_
    cases given
    · exact ih
    · exact .of_pure _

lemma dispatch_takes (d : Debt) (requests : List DispatchRequest) :
    Takes d (dispatch requests) d := fun _ =>
  Leads.world (Leads.check fun _ _ => dispatchFirst_takes d _ _)

lemma OperationalWorld.completeRequest_quiet (w : OperationalWorld) (trainId : String) :
    Quiet w (w.completeRequest trainId) := by
  have h1 : Quiet w { w with
      pendingDispatchRequests := w.pendingDispatchRequests.erase trainId
      waitingByResource := Registry.dropMember w.waitingByResource trainId } := .of_same rfl
  exact h1.trans (Quiet.updateTrain _ _ fun train => by split <;> rfl)

lemma OperationalWorld.markMissingRoute_quiet (w : OperationalWorld) (trainId : String) :
    Quiet w (w.markMissingRoute trainId) :=
  (w.dropWaiting_quiet trainId).trans (Quiet.updateTrain _ _ fun _ => rfl)

lemma startCandidate_takes (d : Debt) (env : Env) (candidate : DispatchRequest) :
    Takes d (startCandidate env candidate) d := by
  refine Follows.bind (dispatchCandidate_takes d candidate) fun given => ?_
  cases given
  · exact .of_pure _
  · intro w
    refine Leads.world (Leads.check fun train _ => ?_)
    have hrest : Takes d (do
        finishInfrastructureAuthorityReissue candidate.trainId
        let _ ← planMotion env candidate.trainId
        pure (some candidate.trainId)) d :=
      Follows.bind (finishInfrastructureAuthorityReissue_takes d _) fun _ =>
        Follows.bind (planMotion_takes d env _) fun _ => .of_pure _
    split
    · exact Takes.andThen (extendAvailableTrainAuthority_takes d env _) fun _ => hrest
    · exact hrest w

lemma dispatchPendingRequests_takes (d : Debt) (env : Env) (requests : List DispatchRequest) :
    Takes d (dispatchPendingRequests env requests) d := by
  intro w
  refine Leads.world (Leads.check fun decisions _ => ?_)
  refine Takes.andThen (.silent (.forEach (fun _ => .update fun v =>
    v.completeRequest_quiet _) _)) fun _ => ?_
  refine Follows.bind (Takes.silent (.forEach (fun _ => .update fun v =>
    v.markMissingRoute_quiet _) _)) fun _ => ?_
  exact .collect (startCandidate_takes d env) _

lemma dispatchPending_takes (d : Debt) (env : Env) : Takes d (dispatchPending env) d := fun _ =>
  Leads.world (dispatchPendingRequests_takes d env _ _)

lemma dispatchWaitingForResources_takes (d : Debt) (env : Env) (resources : KeySet String) :
    Takes d (dispatchWaitingForResources env resources) d := fun _ =>
  Leads.world (dispatchPendingRequests_takes d env _ _)

lemma submitDispatchRequests_takes (d : Debt) (env : Env) (requests : List DispatchRequest) :
    Takes d (submitDispatchRequests env requests) d := fun _ =>
  Leads.world (Leads.check fun _ _ => Leads.check fun _ _ =>
    Takes.andThen (.silent (.update fun _ => .of_same rfl)) fun _ => dispatchPending_takes d env)

/-! ### Shunting -/

lemma executeShuntingOrder_takes (d : Debt) (env : Env) (trainId templateId : String) :
    Takes d (executeShuntingOrder env trainId templateId) d := fun _ =>
  Leads.world (Leads.check fun _ _ => Leads.check fun _ _ => Leads.check fun _ _ =>
    Takes.andThen (.silent (record_silent _ _ _)) fun _ =>
      Follows.bind (lockRoute_takes d _ _) fun _ =>
      Follows.bind (planMotion_takes d env _) fun _ => Takes.silent (record_silent _ _ _))

/-- Without room for an event no shunting route is found. -/
lemma shuntOnFirst_exhausted (env : Env) (need : AutomaticShuntingNeed)
    (routeIds : List String) {w : OperationalWorld} (hw : w.Exhausted) (answer : String) :
    (shuntOnFirst env need routeIds w).result ≠ .ok answer := by
  induction routeIds generalizing w with
  | nil =>
    intro h
    cases h
  | cons routeId rest ih =>
    intro h
    obtain ⟨⟨e, he⟩, hstate⟩ := lockRoute_exhausted need.trainId routeId hw
    unfold shuntOnFirst at h
    rw [TracedM.bind_of_ok (a := .error e) _ (by simp [TracedM.attempt, he])] at h
    cases e with
    | refused reason => exact ih hstate h
    | panicked => cases h
    | outOfFuel => cases h

lemma shuntOnFirst_takes (d : Debt) (env : Env) (need : AutomaticShuntingNeed)
    (routeIds : List String) : Takes d (shuntOnFirst env need routeIds) d := by
  induction routeIds with
  | nil => exact fun w => Leads.reject _
  | cons routeId rest ih =>
    intro w
    refine Reaches.attempt (lockRoute_takes d _ _ w) (fun _ _ => ?_) fun e he => ?_
    · exact Takes.andThen (.silent (record_silent _ _ _)) fun _ =>
        Follows.bind (planMotion_takes d env _) fun _ =>
        Follows.bind (Takes.silent (record_silent _ _ _)) fun _ => .of_pure _
    · cases e with
      | refused reason =>
        rcases lockRoute_error he with ⟨hq, hv⟩ | ⟨hx, -⟩
        · rw [hv]
          exact Leads.quiet hq (ih _)
        · intro answer hanswer
          exact absurd hanswer (shuntOnFirst_exhausted env need rest hx answer)
      | panicked | outOfFuel => exact Reaches.of_fail _

lemma executeAutomaticShunting_takes (d : Debt) (env : Env) (need : AutomaticShuntingNeed) :
    Takes d (executeAutomaticShunting env need) d := fun _ =>
  Leads.world (Leads.check fun _ _ => Leads.check fun _ _ => Leads.check fun _ _ =>
    Leads.check fun _ _ => shuntOnFirst_takes d env need _ _)

end Zugfolge
