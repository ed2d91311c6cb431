/-
Life cycles, roster, disruptions and handovers.

The life cycle of a resource is stored for all resources, rebuilt as a whole, refreshed for
some resources, or written for the blocks of a train.  `lifecycleOf` is its meaning.  Changes of
the roster, disruptions and handovers take steps.
-/
import Zugfolge.Behaviour.Motion
import Zugfolge.Behaviour.Signals

namespace Zugfolge

open Foundation

namespace OperationalWorld

variable (w : OperationalWorld)

lemma lifecycleProjection_getElem? (resource : String) :
    w.lifecycleProjection[resource]? = w.lifecycleOf resource := by
  unfold lifecycleProjection lifecycleOf
  simp only [Registry.getElem?_foldl_fill _ OperationalTrain.occupiedBlocks,
    Registry.getElem?_foldl_fill _ RegionHandover.protectedResources,
    Registry.getElem?_foldl_fill _ RouteLock.resources, Registry.any_values,
    Std.ExtTreeMap.getElem?_empty]
  split
  · rfl
  · by_cases hp : Registry.anyValue w.preparedHandovers
        (fun handover => handover.protectedResources.contains resource) = true
    · simp [hp]
    · simp [hp]

/-- The life cycle depends on blocks, locks and protected resources. -/
lemma lifecycleOf_congr {v w : OperationalWorld} {resource : String}
    (ht : (∃ (id : String) (train : OperationalTrain), w.trains[id]? = some train
        ∧ resource ∈ train.occupiedBlocks)
      ↔ ∃ (id : String) (train : OperationalTrain), v.trains[id]? = some train
        ∧ resource ∈ train.occupiedBlocks)
    (hl : (∃ (id : String) (lock : RouteLock), w.routeLocks[id]? = some lock
        ∧ resource ∈ lock.resources)
      ↔ ∃ (id : String) (lock : RouteLock), v.routeLocks[id]? = some lock
        ∧ resource ∈ lock.resources)
    (hp : w.preparedHandovers = v.preparedHandovers) :
    w.lifecycleOf resource = v.lifecycleOf resource := by
  have htrains : (Registry.anyValue w.trains fun train => train.occupiedBlocks.contains resource)
      = Registry.anyValue v.trains fun train => train.occupiedBlocks.contains resource := by
    rw [Bool.eq_iff_iff, Registry.anyValue_iff, Registry.anyValue_iff]
    simpa only [Std.ExtTreeSet.contains_iff_mem] using ht
  have hlocks : (Registry.anyValue w.routeLocks fun lock => lock.resources.contains resource)
      = Registry.anyValue v.routeLocks fun lock => lock.resources.contains resource := by
    rw [Bool.eq_iff_iff, Registry.anyValue_iff, Registry.anyValue_iff]
    simpa only [Std.ExtTreeSet.contains_iff_mem] using hl
  unfold lifecycleOf
  rw [htrains, hlocks, hp]

end OperationalWorld

/-- A quiet change keeps the life cycle of every resource. -/
lemma Quiet.lifecycleOf {v w : OperationalWorld} (hq : Quiet v w) (resource : String) :
    w.lifecycleOf resource = v.lifecycleOf resource := by
  have hblocks : ∀ {a b : OperationalWorld},
      (∀ (id : String) (train : OperationalTrain), b.trains[id]? = some train →
        ∃ old, a.trains[id]? = some old ∧ old.core = train.core) →
      (∃ (id : String) (train : OperationalTrain), b.trains[id]? = some train
        ∧ resource ∈ train.occupiedBlocks) →
      ∃ (id : String) (train : OperationalTrain), a.trains[id]? = some train
        ∧ resource ∈ train.occupiedBlocks := by
    rintro a b hab ⟨id, train, htrain, hin⟩
    obtain ⟨old, hold, hcore⟩ := hab id train htrain
    have hsame : old.core.occupiedBlocks = train.core.occupiedBlocks :=
      congrArg OperationalTrain.occupiedBlocks hcore
    exact ⟨id, old, hold, (hsame ▸ hin : resource ∈ old.core.occupiedBlocks)⟩
  refine OperationalWorld.lifecycleOf_congr ⟨hblocks fun _ _ => hq.train_before,
    hblocks fun _ _ => hq.train_after⟩ ?_ hq.preparedHandovers
  rw [hq.routeLocks]

/-! ### The roster -/

lemma registerVehicleType_settles (kind : VehicleType) (powered : Bool) :
    Settles (registerVehicleType kind powered) := by
  intro d w
  refine Leads.world (Leads.check fun _ _ => Leads.check fun _ _ => Leads.check fun _ hnew =>
    Leads.about (Reaches.last (Leads.update (Reaches.settle (.registerVehicleType ?_)
      (.of_pure _)))))
  rwa [refuseIf_eq_ok, Registry.contains_eq_false] at hnew

lemma registerVehicle_settles (vehicle : PhysicalVehicle) :
    Settles (registerVehicle vehicle) := by
  intro d w
  refine Leads.world (Leads.check fun _ _ => Leads.check fun _ _ => Leads.check fun _ _ =>
    Leads.about (Leads.update (Reaches.last (Leads.check fun _ hnew => ?_))))
  rw [refuseIf_eq_ok, Registry.contains_eq_false] at hnew
  exact Reaches.settle (.registerVehicle hnew) (.of_pure _)

lemma createFormation_settles (id : String) (predecessorId : Option String)
    (vehicleIds : List String) : Settles (createFormation id predecessorId vehicleIds) := by
  intro d w
  refine Leads.world (Leads.check fun _ hprepared => Leads.check fun formation hderive =>
    Leads.about (Leads.update (Leads.check fun _ hnew => ?_)))
  rw [refuseIf_eq_ok, Registry.contains_eq_false] at hnew
  exact Reaches.settle (.createFormation hprepared hderive hnew)
    (Takes.andThen (.silent (record_silent _ _ _)) fun _ => .of_pure _)

lemma OperationalWorld.putTrain_quiet (w : OperationalWorld) (train other : OperationalTrain)
    (hid : train.id = other.id) (hcore : train.core = other.core) :
    Quiet (w.putTrain train) (w.putTrain other) := by
  refine { Quiet.refl w with trains := fun id => ?_ }
  simp only [OperationalWorld.putTrain, Registry.getElem?_insert, hid]
  split
  · simp [hcore]
  · rfl

lemma Quiet.markOccupied {v w : OperationalWorld} (h : Quiet v w) (blocks : KeySet String) :
    Quiet (v.markOccupied blocks) (w.markOccupied blocks) :=
  { h with
    resourceLifecycle := by
      rw [OperationalWorld.markOccupied, OperationalWorld.markOccupied, h.resourceLifecycle] }

lemma materialize_settles (env : Env) (input : TrainMaterialization) :
    Settles (materialize env input) := by
  intro d w
  refine Leads.world (Leads.check fun plan hplan => ?_)
  refine Leads.silently (startServiceOutcome_silent env _ _) fun serviceOutcome hquiet => ?_
  refine Leads.about (Leads.update (Leads.update ?_))
  -- The evidence of the service is not part of the core of the train.
  have hcore := ((startServiceOutcome env input input.formationVersionId w).state.putTrain_quiet
    (OperationalWorld.materializedTrain env input plan none)
    (OperationalWorld.materializedTrain env input plan serviceOutcome) rfl rfl).markOccupied
      plan.occupiedBlocks
  have hstep := @Step.materialize d w _ env input plan hplan hquiet
  have hpath := Path.step hstep (Path.single (.quiet hcore))
  refine Reaches.along hpath ?_
  exact Takes.andThen (.silent (record_silent _ _ _)) fun _ =>
    .bind (recordPassengerArrival_settles env _ d) fun _ =>
    .bind (Takes.silent (refreshRouteCompletion_silent env _)) fun _ =>
    .bind (progressMovementContinuations_settles env d) fun _ => .of_pure _

lemma retireTrain_settles (env : Env) (trainId : String) : Settles (retireTrain env trainId) := by
  intro d w
  refine Leads.world (Leads.check fun _ hadmitted => Leads.check fun signals hsignals => ?_)
  dsimp only
  refine Leads.about (Leads.update (Reaches.settle (.retireTrain hadmitted hsignals) ?_))
  exact Takes.andThen (.silent (wakeMovementContinuationsForResources_silent _)) fun _ =>
    .bind (Takes.silent (record_silent _ _ _)) fun _ =>
    .bind (progressMovementContinuations_settles env d) fun _ =>
    .bind (dispatchPending_takes d env) fun _ => .of_pure _

lemma changeFormation_takes (d : Debt) (env : Env) (trainId newFormationId : String)
    (vehicleIds : List String) :
    Takes d (changeFormation env trainId newFormationId vehicleIds)
      (d.formationRenewed trainId) := by
  intro w
  refine Leads.world (Leads.check fun admitted hadmitted => ?_)
  obtain ⟨train, change⟩ := admitted
  refine Leads.silently (measureServiceVehicleCost_silent env _ _) fun _ hquiet => ?_
  refine Leads.about (Leads.update (Reaches.settle (.changeFormation hadmitted hquiet) ?_))
  refine Leads.relax (Debt.lifecycleRebuilt_le _) ?_
  exact Takes.andThen (.silent (.update fun v => v.updateServiceCapacity_quiet _)) fun _ =>
    Takes.silent (record_silent _ _ _)

lemma changeFormation_settles (env : Env) (trainId newFormationId : String)
    (vehicleIds : List String) :
    Settles (changeFormation env trainId newFormationId vehicleIds) := fun d =>
  Takes.relax (d.formationRenewed_le trainId) (changeFormation_takes d env _ _ _)

lemma rerouteTrain_settles (env : Env) (trainId routeVersionId : String) :
    Settles (rerouteTrain env trainId routeVersionId) := by
  intro d w
  refine Leads.world (Leads.check fun direction hadmitted => Leads.about (Leads.update
    (Reaches.settle (.rerouteTrain hadmitted) ?_)))
  exact Takes.andThen (.silent (record_silent _ _ _)) fun _ =>
    .bind (Takes.silent (refreshRouteCompletion_silent env _)) fun _ =>
    .bind (progressMovementContinuations_settles env d) fun _ => .of_pure _

/-! ### Restricted vehicles -/

lemma renewFormation_takes (d : Debt) (env : Env) (reason : String) (newIdOf : String → String)
    (trainId : String) :
    Takes d (renewFormation env reason newIdOf trainId) (d.formationRenewed trainId) := by
  refine .bind (Takes.relax (d.settle_le trainId) (safeStop_takes d trainId reason)) fun _ => ?_
  exact fun _ => Leads.world (Leads.check fun _ _ => Leads.check fun _ _ =>
    changeFormation_takes d env _ _ _ _)

lemma renewFormations_takes (d : Debt) (env : Env) (reason : String) (newIdOf : String → String)
    (trainIds : List String) :
    Takes (d.oweFormations trainIds)
      (TracedM.forEach (renewFormation env reason newIdOf) trainIds) d := by
  induction trainIds with
  | nil => exact Takes.relax d.oweFormations_nil_le (.of_pure _)
  | cons trainId trainIds ih =>
    exact .bind (Takes.relax (d.oweFormations_cons_le trainId trainIds)
      (renewFormation_takes _ env _ _ _)) fun _ => ih

lemma restrictVehicle_settles (env : Env) (disruptionId vehicleId : String)
    (restriction : VehicleRestriction) :
    Settles (restrictVehicle env disruptionId vehicleId restriction) := fun d _ =>
  Leads.world (Leads.check fun _ _ => Leads.about (Leads.update
    (Reaches.settle .restrictVehicle (renewFormations_takes d env _ _ _ _))))

lemma liftRestriction_settles (env : Env) (disruptionId releaseReference vehicleId : String) :
    Settles (liftRestriction env disruptionId releaseReference vehicleId) := fun d _ =>
  Leads.world (Leads.about (Leads.update
    (Reaches.settle .liftRestriction (renewFormations_takes d env _ _ _ _))))

/-! ### Disruptions -/

/-- The active disruptions stay as they are. -/
def DisruptionsKept (w : OperationalWorld) (_ : List Visit) (w' : OperationalWorld) : Prop :=
  w'.activeDisruptions = w.activeDisruptions

namespace DisruptionsKept

lemma composes : TracedM.Composes DisruptionsKept where
  refl _ := rfl
  trans h k := k.trans h

variable {α β : Type}

lemma bind {m : M α} {f : α → M β} (hm : TracedM.Always DisruptionsKept m)
    (hf : ∀ a, TracedM.Always DisruptionsKept (f a)) :
    TracedM.Always DisruptionsKept (m >>= f) := TracedM.Always.bind composes hm hf

lemma world : TracedM.Always DisruptionsKept M.world := .of_read composes

lemma check (r : Checked α) : TracedM.Always DisruptionsKept (M.check r) := .of_lift composes r

lemma about (act : Act) : TracedM.Always DisruptionsKept (M.about act) := .of_note fun _ => rfl

lemma update {f : OperationalWorld → OperationalWorld}
    (h : ∀ w, (f w).activeDisruptions = w.activeDisruptions) :
    TracedM.Always DisruptionsKept (M.update f) := .of_modify h

lemma pure (a : α) : TracedM.Always DisruptionsKept (pure a : M α) := .of_pure composes a

lemma of_silent {m : M α} (hm : Silent m) : TracedM.Always DisruptionsKept m :=
  fun w => (hm.quiet w).activeDisruptions

lemma safeStop (trainId reason : String) :
    TracedM.Always DisruptionsKept (safeStop trainId reason) := by
  refine bind world fun _ => bind (check _) fun _ => ?_
  split
  · exact bind (about _) fun _ => bind (update fun _ => rfl) fun _ =>
      bind (bind world fun _ => bind (check _) fun _ => update fun _ => rfl) fun _ =>
      bind (of_silent refreshContinuationSchedule_silent) fun _ =>
      of_silent (record_silent _ _ _)
  · exact bind (update fun _ => rfl) fun _ => .of_fail composes _

lemma stopForInfrastructureDisruption (disruptionId trainId : String) :
    TracedM.Always DisruptionsKept (stopForInfrastructureDisruption disruptionId trainId) := by
  refine bind world fun _ => bind (check _) fun _ => ?_
  dsimp only
  split
  · exact pure _
  · exact bind (safeStop _ _) fun _ => bind (about _) fun _ => update fun _ => rfl

lemma changeFormation (env : Env) (trainId newFormationId : String) (vehicleIds : List String) :
    TracedM.Always DisruptionsKept (changeFormation env trainId newFormationId vehicleIds) :=
  bind world fun _ => bind (check _) fun _ =>
    bind (of_silent (measureServiceVehicleCost_silent env _ _)) fun _ => bind (about _) fun _ =>
    bind (update fun _ => rfl) fun _ =>
    bind (of_silent (.update fun v => v.updateServiceCapacity_quiet _)) fun _ =>
    of_silent (record_silent _ _ _)

lemma renewFormation (env : Env) (reason : String) (newIdOf : String → String)
    (trainId : String) :
    TracedM.Always DisruptionsKept (renewFormation env reason newIdOf trainId) :=
  bind (safeStop _ _) fun _ => bind world fun _ => bind (check _) fun _ => bind (check _) fun _ =>
    changeFormation env _ _ _

lemma restrictVehicle (env : Env) (disruptionId vehicleId : String)
    (restriction : VehicleRestriction) :
    TracedM.Always DisruptionsKept (restrictVehicle env disruptionId vehicleId restriction) :=
  bind world fun _ => bind (check _) fun _ => bind (about _) fun _ =>
    bind (update fun _ => rfl) fun _ => .forEach composes (fun _ => renewFormation env _ _ _) _

end DisruptionsKept

lemma activateDisruption_settles (env : Env) (disruptionId : String)
    (effect : OperationalDisruption) : Settles (activateDisruption env disruptionId effect) := by
  intro d w
  refine Leads.world (Leads.check fun _ _ => ?_)
  split
  · exact Reaches.last (Leads.check fun _ _ => .of_pure _)
  case h_2 hnew =>
    refine Leads.check fun _ _ => ?_
    -- Nothing before the last step touches the active disruptions.
    have hlast : ∀ v : OperationalWorld, v.activeDisruptions[disruptionId]? = none →
        Leads d v [] v (do
          M.about (.activateDisruption disruptionId effect)
          M.update fun w => w.commitDisruption disruptionId effect
          record "disruption-activated" disruptionId
            (.text "concrete-resource-or-vehicle")) d := fun v hv =>
      Leads.about (Leads.update (Reaches.settle (.activateDisruption hv)
        (Takes.silent (record_silent _ _ _) _)))
    refine Reaches.call (Follows.forEach (fun trainId =>
      stopForInfrastructureDisruption_takes d disruptionId trainId) _ _) fun _ _ => ?_
    have hstops := TracedM.Always.forEach DisruptionsKept.composes
      (DisruptionsKept.stopForInfrastructureDisruption disruptionId)
      (((Registry.values w.trains).filter (w.affects effect)).map (·.id)) w
    dsimp only
    split
    · refine Reaches.call (restrictVehicle_settles env _ _ _ d _) fun _ _ => hlast _ ?_
      have hrestrict := DisruptionsKept.restrictVehicle env disruptionId
      rw [(hrestrict _ _ _).trans hstops]
      exact hnew
    · refine hlast _ ?_
      rw [hstops]
      exact hnew

lemma clearDisruption_settles (env : Env) (disruptionId releaseReference : String) :
    Settles (clearDisruption env disruptionId releaseReference) := by
  intro d w
  refine Leads.world (Leads.check fun _ _ => Leads.check fun _ _ => ?_)
  split
  · exact .of_pure _
  · have hlast : Takes d (do
        M.about (.clearDisruption disruptionId)
        M.update fun w =>
          { w with activeDisruptions := w.activeDisruptions.erase disruptionId }
        releaseInfrastructureDisruptionStops disruptionId
        rebuildSignalAspects
        record "disruption-cleared" disruptionId (.text releaseReference)
        let _ ← dispatchPending env
        pure ()) d := by
      refine fun v => Leads.about (Leads.update (Reaches.settle .clearDisruption ?_))
      refine Takes.andThen (releaseInfrastructureDisruptionStops_takes _ _) fun _ => ?_
      refine .bind (rebuildSignalAspects_takes _) fun _ => ?_
      refine Takes.relax d.signalsRebuilt_le ?_
      exact .bind (Takes.silent (record_silent _ _ _)) fun _ =>
        .bind (dispatchPending_takes _ env) fun _ => .of_pure _
    dsimp only
    split
    · exact Takes.andThen (liftRestriction_settles env _ _ _ d) fun _ => hlast
    · exact hlast w

/-! ### Handovers -/

/-- The signals are rebuilt among writes that are settled later. -/
lemma Leads.rebuiltSignals {α : Type} {d₀ d' : Debt} {w₀ w : OperationalWorld}
    {vs₀ : List Visit} {f : Unit → M α}
    (h : ∀ aspects, w.signalProjection = .ok aspects →
      Leads d₀ w₀ vs₀ { w with signalAspects := aspects } (f ()) d') :
    Leads d₀ w₀ vs₀ w (rebuildSignalAspects >>= f) d' := by
  cases haspects : w.signalProjection with
  | error e =>
    have hrun : rebuildSignalAspects w = ⟨.error e, w, []⟩ := by
      unfold rebuildSignalAspects
      rw [M.world_bind, haspects, M.check_error_bind]
    intro a ha
    rw [TracedM.bind_of_error _ (by rw [hrun])] at ha
    cases ha
  | ok aspects =>
    have hrun : rebuildSignalAspects w = ⟨.ok (), { w with signalAspects := aspects }, []⟩ := by
      unfold rebuildSignalAspects
      rw [M.world_bind, haspects, M.check_ok_bind]
      rfl
    refine Reaches.carry (by rw [hrun]) fun _ _ => ?_
    rw [hrun]
    exact h aspects haspects

lemma storePrepared_settles {d : Debt} {env : Env} {w : OperationalWorld}
    {handover : RegionHandover} {id trainId targetRegionId : String} {resources : KeySet String}
    (hbegin : w.mayBeginHandover id trainId targetRegionId = true)
    (hprepare : w.prepareHandover env id trainId targetRegionId resources = .ok handover) :
    Leads d w [] w (storePrepared env handover) d := by
  refine .staged (Leads.silently (record_silent _ _ _) fun _ hquiet => ?_)
  refine Leads.about (Leads.update (Leads.world (Reaches.last (Leads.check fun _ hverify => ?_))))
  exact Reaches.settle (.beginHandover hbegin hprepare hquiet hverify)
    (Leads.relax d.lifecycleRebuilt_le (.of_pure _))

lemma beginHandover_settles (env : Env) (id trainId targetRegionId : String)
    (protectedResources : KeySet String) :
    Settles (beginHandover env id trainId targetRegionId protectedResources) := by
  intro d w
  refine Leads.world (Leads.check fun _ _ => Leads.check fun _ _ => ?_)
  dsimp only
  split
  · exact Leads.check fun _ _ => .of_pure _
  · refine Leads.check fun _ hbegin => Leads.check fun handover hprepare => ?_
    rw [demand_eq_ok] at hbegin
    exact Reaches.call (storePrepared_settles hbegin hprepare) fun _ _ => .of_pure _

namespace AlmostQuiet

variable {v w u : OperationalWorld}

lemma refl (w : OperationalWorld) : AlmostQuiet w w := Quiet.refl w

lemma rewritten (h : Quiet v w) (u : OperationalWorld) :
    AlmostQuiet v { w with
      signalAspects := u.signalAspects
      resourceLifecycle := u.resourceLifecycle
      fareControlState := u.fareControlState } :=
  { h with
    signalAspects := rfl
    resourceLifecycle := rfl
    holds := fun _ => rfl
    dueHolds := rfl
    farePolicy := rfl
    authorityRevoked := fun _ => rfl }

lemma of_quiet (h : Quiet v w) : AlmostQuiet v w := rewritten h w

lemma trans (h : AlmostQuiet v w) (k : AlmostQuiet w u) : AlmostQuiet v u :=
  Quiet.trans (rewritten h u) k

lemma putTrain (h : AlmostQuiet v w) (train : OperationalTrain) :
    AlmostQuiet (v.putTrain train) (w.putTrain train) :=
  { rewritten h w with
    trains := fun id => by
      simp only [OperationalWorld.putTrain, Registry.getElem?_insert]
      split
      · rfl
      · exact h.trains id }

lemma adoptLocks (h : AlmostQuiet v w) (handover : RegionHandover) :
    AlmostQuiet (v.adoptLocks handover) (w.adoptLocks handover) :=
  { rewritten (Quiet.updateBoth h handover.train.id (f := fun train =>
      { train with occupiedBlocks := train.occupiedBlocks ∪ handover.protectedResources })
      fun _ => rfl) w with
    handoverProtectionByTrain := by
      simp only [OperationalWorld.adoptLocks]
      rw [show w.handoverProtectionByTrain = v.handoverProtectionByTrain from
        h.handoverProtectionByTrain]
    routeLocks := by
      simp only [OperationalWorld.adoptLocks]
      rw [show w.routeLocks = v.routeLocks from h.routeLocks]
    switchPositions := by
      simp only [OperationalWorld.adoptLocks]
      rw [show w.switchPositions = v.switchPositions from h.switchPositions] }

lemma adoptSchedules (h : AlmostQuiet v w) (handover : RegionHandover) :
    AlmostQuiet (v.adoptSchedules handover) (w.adoptSchedules handover) :=
  { rewritten h w with
    scheduledMotionEnds := by
      simp only [OperationalWorld.adoptSchedules]
      rw [show w.scheduledMotionEnds = v.scheduledMotionEnds from h.scheduledMotionEnds]
    acceptedHandovers := by
      simp only [OperationalWorld.adoptSchedules]
      rw [show w.acceptedHandovers = v.acceptedHandovers from h.acceptedHandovers] }

lemma write (w : OperationalWorld) (aspects : Registry String SignalAspect)
    (lifecycle : Registry String ResourceLifecycle) (fare : Option FareControlState) :
    AlmostQuiet w { w with
      signalAspects := aspects, resourceLifecycle := lifecycle, fareControlState := fare } :=
  Quiet.refl _

end AlmostQuiet

/-- A new due date leaves holds and railway alone. -/
lemma OperationalWorld.rescheduled_almost {v w : OperationalWorld} {trainId : String}
    (h : v.rescheduled trainId = .ok w) :
    AlmostQuiet v w ∧ ∀ id, w.fareControlHold id = v.fareControlHold id := by
  have hreplaced : ∀ due : Option SimMillis, AlmostQuiet v (v.replaceDue trainId due)
      ∧ ∀ id, (v.replaceDue trainId due).fareControlHold id = v.fareControlHold id := by
    intro due
    refine ⟨?_, fun id => ?_⟩
    · cases due <;> exact AlmostQuiet.write v _ _ _
    · cases due <;> cases hstate : v.fareControlState <;>
        simp [replaceDue, dropScheduledHolds, updateFareControl, fareControlHold, hstate]
  unfold rescheduled at h
  cases hhold : v.fareControlHold trainId with
  | none =>
    rw [hhold] at h
    cases h
    exact ⟨AlmostQuiet.refl v, fun _ => rfl⟩
  | some hold =>
    rw [hhold] at h
    simp only [checked_bind_eq_ok] at h
    obtain ⟨due, -, hw⟩ := h
    cases hw
    exact hreplaced due

lemma OperationalWorld.fareControlHold_congr {v w : OperationalWorld}
    (h : v.fareControlState = w.fareControlState) (id : String) :
    v.fareControlHold id = w.fareControlHold id := by
  rw [fareControlHold, fareControlHold, h]

/-- The world with the hold of a train from another region, not yet scheduled. -/
def OperationalWorld.withHold (w : OperationalWorld) (trainId : String)
    (input : FareControlHandoverV1) : OperationalWorld :=
  { w with fareControlState := some (w.fareControlOrEmpty.adopt trainId input) }

lemma OperationalWorld.fareControlHold_withHold (w : OperationalWorld) (trainId : String)
    (input : FareControlHandoverV1) (id : String) :
    (w.withHold trainId input).fareControlHold id = w.holdWith trainId (some input) id := by
  have hinsert : (w.withHold trainId input).fareControlHold id
      = if id = trainId then some input.hold else w.fareControlOrEmpty.holds[id]? :=
    Registry.getElem?_insert ..
  rw [hinsert, holdWith, Option.bind_some]
  split
  · rfl
  · cases hstate : w.fareControlState with
    | none | some state => simp [fareControlOrEmpty, fareControlHold, hstate]

lemma scheduleFareControlHold_almost (trainId : String) (w : OperationalWorld) :
    (scheduleFareControlHold trainId w).visits = []
      ∧ ((scheduleFareControlHold trainId w).result = .ok () →
        AlmostQuiet w (scheduleFareControlHold trainId w).state
          ∧ ∀ id, (scheduleFareControlHold trainId w).state.fareControlHold id
            = w.fareControlHold id) := by
  rw [scheduleFareControlHold_run]
  cases hdue : w.rescheduled trainId with
  | error e =>
    rw [M.check_error_bind]
    exact ⟨rfl, fun h => by cases h⟩
  | ok w' =>
    rw [M.check_ok_bind]
    exact ⟨rfl, fun _ => OperationalWorld.rescheduled_almost hdue⟩

lemma adoptFareControlHandover_almost (trainId : String) (input : Option FareControlHandoverV1)
    (w : OperationalWorld) :
    (adoptFareControlHandover trainId input w).visits = []
      ∧ ((adoptFareControlHandover trainId input w).result = .ok () →
        AlmostQuiet w (adoptFareControlHandover trainId input w).state
          ∧ (∀ brought, input = some brought → w.fareControlHold trainId = none)
          ∧ ∀ id, (adoptFareControlHandover trainId input w).state.fareControlHold id
            = w.holdWith trainId input id) := by
  cases input with
  | none => exact ⟨rfl, fun _ => ⟨AlmostQuiet.refl w, fun _ h => (by cases h), fun _ => rfl⟩⟩
  | some input =>
    unfold adoptFareControlHandover
    dsimp only
    rw [M.world_bind]
    cases hcheck : fareRequire (input.hold.worldId == w.worldId
        && input.hold.trainRunId == trainId && (w.fareControlHold trainId).isNone)
        "fare_control_handover_conflict" with
    | error e =>
      rw [M.check_error_bind]
      exact ⟨rfl, fun h => by cases h⟩
    | ok _ =>
      rw [M.check_ok_bind, M.update_bind]
      simp only [fareRequire, demand_eq_ok, Bool.and_eq_true,
        Option.isNone_iff_eq_none] at hcheck
      obtain ⟨hvisits, hdone⟩ :=
        scheduleFareControlHold_almost trainId (w.withHold trainId input)
      refine ⟨hvisits, fun hresult => ?_⟩
      obtain ⟨halmost, hholds⟩ := hdone hresult
      exact ⟨(AlmostQuiet.write w _ _ _).trans halmost, fun _ _ => hcheck.2,
        fun id => (hholds id).trans (w.fareControlHold_withHold trainId input id)⟩

lemma adoptTrain_takes {d : Debt} {env : Env} {w : OperationalWorld} {handover : RegionHandover}
    (hletter : handover ∈ d.letters) (haddressed : w.isAddressed env handover = true)
    (hnew : w.acceptedHandovers[handover.id]? = none)
    (hadmitted : w.admitHandover handover = .ok ()) :
    Leads d w [] w (adoptTrain env handover) d := by
  refine Leads.about (Leads.update (Leads.world (Leads.check fun formation hderive =>
    Leads.check fun _ hsame => Leads.update ?_)))
  simp only [demand_eq_ok, decide_eq_true_eq] at hsame
  subst hsame
  refine Leads.silently (adoptServiceOutcome_silent env _) fun _ hservice => Leads.update ?_
  generalize (adoptServiceOutcome env handover.train _).state = v at hservice ⊢
  have hput := (AlmostQuiet.of_quiet hservice).putTrain handover.train
  have hbefore : ∀ id, v.fareControlHold id = w.fareControlHold id := fun id => hservice.holds id
  have hclock : v.nowMs = w.nowMs := by
    simpa only [OperationalWorld.putFormation, OperationalWorld.adoptVehicles] using hservice.nowMs
  obtain ⟨hvisits, hadopted⟩ := adoptFareControlHandover_almost handover.train.id
    handover.fareControl (v.putTrain handover.train)
  refine Reaches.carry hvisits fun _ hresult => ?_
  obtain ⟨halmost, hfresh, hholds⟩ := hadopted hresult
  generalize (adoptFareControlHandover handover.train.id handover.fareControl
    (v.putTrain handover.train)).state = u at halmost hholds ⊢
  have hfare := hput.trans halmost
  have hnow : u.nowMs = w.nowMs := halmost.nowMs.trans hclock
  refine Leads.update (Leads.update (Leads.world (Leads.check fun _ hcovers => Leads.update ?_)))
  have hlocks := (hfare.trans (.of_quiet (OperationalWorld.schedulePassengerDeparture_quiet _
    handover.train.id))).adoptLocks handover
  have hdone := hlocks.adoptSchedules handover
  refine Leads.rebuiltSignals fun aspects haspects => ?_
  refine Leads.silently (record_silent _ _ _) fun _ hrecord => ?_
  refine Leads.world (Reaches.last (Leads.check fun _ hverify => ?_))
  refine Reaches.settle (.acceptHandover hletter haddressed hnew hadmitted hderive ?_ hverify ?_ ?_
    (fun input hinput => (hbefore _).symm.trans (hfresh input hinput)) ?_ ?_) (.of_pure _)
  · intro segment hsegment
    rw [hsegment] at hcovers
    rw [← hnow]
    simpa [OperationalWorld.adoptLocks, OperationalWorld.updateTrain,
      OperationalWorld.schedulePassengerDeparture] using hcovers
  · rw [hrecord.signalProjection, hrecord.signalAspects]
    exact haspects
  · intro resource
    rw [hrecord.lifecycleOf, hrecord.resourceLifecycle]
    exact OperationalWorld.lifecycleProjection_getElem? _ _
  · intro id
    rw [hrecord.holds]
    refine (OperationalWorld.fareControlHold_congr ?_ id).trans ((hholds id).trans ?_)
    · rfl
    · rw [OperationalWorld.holdWith, OperationalWorld.holdWith, ← hbefore]
      rfl
  · exact (hdone.trans
      (AlmostQuiet.write _ aspects (OperationalWorld.lifecycleProjection _) _)).trans
      (.of_quiet hrecord)

lemma acceptHandover_takes {d : Debt} (env : Env) {handover : RegionHandover}
    (hletter : handover ∈ d.letters) : Takes d (acceptHandover env handover) d := by
  intro w
  refine Leads.world (Leads.check fun _ haddressed => ?_)
  rw [demand_eq_ok] at haddressed
  split
  · exact Leads.check fun _ _ => .of_pure _
  case h_2 hnew =>
    exact Leads.check fun _ hadmitted => Reaches.call
      (.staged (adoptTrain_takes hletter haddressed hnew hadmitted)) fun _ _ => .of_pure _

lemma finishHandover_takes {d : Debt} (env : Env) {handover : RegionHandover}
    (hletter : handover ∈ d.letters) : Takes d (finishHandover env handover) d := by
  intro w
  refine Leads.world (Leads.check fun _ hacknowledged => ?_)
  rw [demand_eq_ok] at hacknowledged
  split
  · exact Reaches.last (Leads.check fun _ _ => .of_pure _)
  case h_2 hnew =>
    refine Leads.check fun _ hprepared => .staged (Leads.about (Leads.update ?_))
    rw [demand_eq_ok] at hprepared
    refine Leads.rebuiltSignals fun aspects haspects => ?_
    refine Leads.silently (record_silent _ _ _) fun _ hrecord => ?_
    refine Leads.world (Reaches.last (Leads.check fun _ hverify => ?_))
    refine Reaches.settle (.finishHandover hletter hacknowledged hnew hprepared hverify ?_ ?_)
      (.of_pure _)
    · rw [hrecord.signalProjection, hrecord.signalAspects]
      exact haspects
    · rw [hrecord.signalAspects]
      exact hrecord

end Zugfolge
