/-
Runs of a network take steps.

* `Operation.run_takes`: every successful operation of a region is a path of steps.
-/
import Zugfolge.Behaviour.Changes

namespace Zugfolge

open Foundation

/-! ### Operations -/

lemma silently_takes {α : Type} {d d' : Debt} {m : M α} (hm : Takes d m d') :
    Takes d (silently m) d' := .bind hm fun _ => .of_pure _

lemma commitRuntimeCommand_silent : Silent commitRuntimeCommand :=
  .bind .world fun _ => .bind (.check _) fun _ => .update fun _ => .of_same rfl

lemma drainEvents_silent : Silent drainEvents := .update fun _ => .of_same rfl

/-- Every successful operation is a path of steps that settles what it owes. -/
theorem Operation.run_takes (env : Env) (operation : Operation) {d : Debt}
    (hclock : d.horizon = none)
    (hletters : ∀ handover, operation.delivered = some handover → handover ∈ d.letters) :
    Takes d (operation.run env) d := by
  cases operation with
  | configureServiceOutcomes policy =>
    exact silently_takes (.silent (configureServiceOutcomes_silent policy))
  | configureServiceDays policy =>
    exact silently_takes (.silent (configureServiceDays_silent policy))
  | openServiceDay dayIndex => exact silently_takes (.silent (openServiceDay_silent env dayIndex))
  | setFareControlPolicy policy =>
    exact silently_takes (setFareControlPolicy_settles env policy d)
  | requestFareControlHold input =>
    exact silently_takes (requestFareControlHold_settles env input d)
  | resolveFareControlHold input =>
    exact silently_takes (resolveFareControlHold_settles env input d)
  | registerVehicleType kind powered =>
    exact silently_takes (registerVehicleType_settles kind powered d)
  | registerVehicle vehicle => exact silently_takes (registerVehicle_settles vehicle d)
  | createFormation id predecessorId vehicleIds =>
    exact silently_takes (createFormation_settles id predecessorId vehicleIds d)
  | materialize input => exact silently_takes (materialize_settles env input d)
  | retireTrain trainId => exact silently_takes (retireTrain_settles env trainId d)
  | changeFormation trainId newFormationId vehicleIds =>
    exact silently_takes (changeFormation_settles env trainId newFormationId vehicleIds d)
  | rerouteTrain trainId routeVersionId =>
    exact silently_takes (rerouteTrain_settles env trainId routeVersionId d)
  | lockRoute trainId templateId => exact silently_takes (lockRoute_takes d trainId templateId)
  | dispatch requests => exact silently_takes (dispatch_takes d requests)
  | submitDispatchRequests requests =>
    exact silently_takes (submitDispatchRequests_takes d env requests)
  | executeShuntingOrder trainId templateId =>
    exact silently_takes (executeShuntingOrder_takes d env trainId templateId)
  | executeAutomaticShunting need =>
    exact silently_takes (executeAutomaticShunting_takes d env need)
  | planMotion trainId => exact silently_takes (planMotion_takes d env trainId)
  | advanceTo targetMs => exact silently_takes (advanceTo_takes env hclock targetMs)
  | safeStop trainId reason =>
    exact silently_takes (Takes.relax (d.settle_le trainId) (safeStop_takes d trainId reason))
  | cancelPassengerStopPlan input =>
    exact silently_takes (cancelPassengerStopPlan_settles env input d)
  | queueMovementContinuation continuation =>
    exact silently_takes (queueMovementContinuation_settles env continuation d)
  | activateDisruption disruptionId effect =>
    exact silently_takes (activateDisruption_settles env disruptionId effect d)
  | clearDisruption disruptionId releaseReference =>
    exact silently_takes (clearDisruption_settles env disruptionId releaseReference d)
  | beginHandover id trainId targetRegionId protectedResources =>
    exact .bind (beginHandover_settles env id trainId targetRegionId protectedResources d)
      fun _ => .of_pure _
  | acceptHandover handover =>
    exact .bind (acceptHandover_takes env (hletters handover rfl)) fun _ => .of_pure _
  | finishHandover handover =>
    exact silently_takes (finishHandover_takes env (hletters handover rfl))
  | commitRuntimeCommand => exact silently_takes (.silent commitRuntimeCommand_silent)
  | drainEvents => exact silently_takes (.silent drainEvents_silent)

/-! ### Messages -/

lemma storePrepared_stored (env : Env) (handover : RegionHandover) (w : OperationalWorld) :
    TracedM.Ensures
      (fun (_ : Unit) (w' : OperationalWorld) => w'.preparedHandovers[handover.id]? = some handover)
      (storePrepared env handover) w := by
  refine .staged (.skip fun _ v => .note (.modify (.read ?_)))
  intro _ _
  change (Std.ExtTreeMap.insert _ handover.id handover)[handover.id]? = _
  simp

lemma beginHandover_answer (env : Env) (id trainId targetRegionId : String)
    (resources : KeySet String) (w : OperationalWorld) :
    TracedM.Ensures
      (fun (handover : RegionHandover) (w' : OperationalWorld) =>
        ∃ key : String, w'.preparedHandovers[key]? = some handover)
      (beginHandover env id trainId targetRegionId resources) w := by
  refine .read (.lift fun _ _ => .lift fun _ _ => ?_)
  dsimp only
  split
  case h_1 existing hold => exact .lift fun _ _ => .of_pure ⟨id, hold⟩
  · exact .lift fun _ _ => .lift fun handover _ =>
      .call (storePrepared_stored env handover w) fun _ _ hstored => .of_pure ⟨_, hstored⟩

lemma acceptHandover_answer (env : Env) (handover : RegionHandover) (w : OperationalWorld) :
    TracedM.Ensures (fun (answer : RegionHandover) (_ : OperationalWorld) =>
      answer = { handover with acknowledged := true }) (acceptHandover env handover) w := by
  refine .read (.lift fun _ _ => ?_)
  split
  · exact .lift fun _ _ => .of_pure rfl
  · exact .lift fun _ _ => .skip fun _ _ => .of_pure rfl

/-! ### Invariants of networks -/

/-- Steps keep the messages at hand. -/
lemma Step.letters_eq {d d' : Debt} {w w' : OperationalWorld} {vs : List Visit}
    (h : Step d w vs d' w') : d'.letters = d.letters := by
  cases h with
  | relax hle => exact hle.letters.symm
  | dropMotionEnd hd =>
    subst hd
    split
    · rfl
    · rfl
  | releaseRoutes =>
    unfold Debt.release
    split
    · rfl
    · rfl
  | _ => rfl

/-- An invariant `Inv` of the world of each region together with a property `Letter` of the
messages between them: every step keeps it as long as the visits satisfy `ok`. -/
structure NetworkInvariant (Inv : String → Debt → OperationalWorld → Prop)
    (Letter : RegionHandover → Prop) (ok : Visit → Prop) : Prop where
  step : ∀ {regionId : String} {d d' : Debt} {w w' : OperationalWorld} {vs : List Visit},
    Step d w vs d' w' → (∀ handover ∈ d.letters, Letter handover) → (∀ v ∈ vs, ok v) →
    Inv regionId d w → Inv regionId d' w'
  relabel : ∀ {regionId : String} {letters letters' : Set RegionHandover} {w : OperationalWorld},
    Inv regionId (.nothing letters) w → Inv regionId (.nothing letters') w
  prepared : ∀ {regionId : String} {letters : Set RegionHandover} {w : OperationalWorld}
    {key : String} {handover : RegionHandover}, Inv regionId (.nothing letters) w →
    w.preparedHandovers[key]? = some handover → Letter handover
  acknowledged : ∀ {handover : RegionHandover}, Letter handover →
    Letter { handover with acknowledged := true }

namespace NetworkInvariant

variable {Inv : String → Debt → OperationalWorld → Prop} {Letter : RegionHandover → Prop}
  {ok : Visit → Prop}

/-- A successful operation keeps the invariant and sends messages with the property. -/
lemma operation (h : NetworkInvariant Inv Letter ok) (env : Env) (operation : Operation)
    {letters : Set RegionHandover} (hletters : ∀ handover ∈ letters, Letter handover)
    (hdelivered : ∀ handover, operation.delivered = some handover → handover ∈ letters)
    {regionId : String} {w w' : OperationalWorld} {answer : Option RegionHandover}
    {visits : List Visit} (hrun : operation.run env w = ⟨.ok answer, w', visits⟩)
    (hok : ∀ v ∈ visits, ok v) (hw : Inv regionId (.nothing letters) w) :
    Inv regionId (.nothing letters) w' ∧ ∀ handover, answer = some handover → Letter handover := by
  have hpath := operation.run_takes env (d := .nothing letters) rfl hdelivered w answer
    (by rw [hrun])
  rw [hrun, List.nil_append] at hpath
  have hinv : (∀ handover ∈ (Debt.nothing letters).letters, Letter handover)
      ∧ Inv regionId (.nothing letters) w' :=
    hpath.preserves
      (P := fun d v => (∀ handover ∈ d.letters, Letter handover) ∧ Inv regionId d v)
      (fun hstep hvs hv => ⟨hstep.letters_eq ▸ hv.1, h.step hstep hv.1 hvs hv.2⟩)
      hok ⟨hletters, hw⟩
  refine ⟨hinv.2, ?_⟩
  -- Only handovers answer with a message.
  have hsilent : ∀ {α : Type} {m : M α}, silently m w = ⟨.ok answer, w', visits⟩ →
      ∀ handover, answer = some handover → Letter handover := by
    intro α m hm handover hanswer
    have hnone : TracedM.Ensures (fun (a : Option RegionHandover) (_ : OperationalWorld) =>
        a = none) (silently m) w := .skip fun _ _ => .of_pure rfl
    have := hnone answer (by rw [hm])
    rw [this] at hanswer
    cases hanswer
  cases operation with
  | beginHandover id trainId targetRegionId resources =>
    have hsent : TracedM.Ensures (fun (a : Option RegionHandover) (v : OperationalWorld) =>
        ∀ handover, a = some handover →
          ∃ key : String, v.preparedHandovers[key]? = some handover)
        ((Operation.beginHandover id trainId targetRegionId resources).run env) w :=
      .call (beginHandover_answer env _ _ _ _ w) fun prepared v hprepared =>
        .of_pure fun _ hanswer => by
          cases hanswer
          exact hprepared
    intro handover hanswer
    have hkept := hsent answer (by rw [hrun]) handover hanswer
    rw [hrun] at hkept
    obtain ⟨key, hkey⟩ := hkept
    exact h.prepared hinv.2 hkey
  | acceptHandover delivered =>
    have hsent : TracedM.Ensures (fun (a : Option RegionHandover) (_ : OperationalWorld) =>
        a = some { delivered with acknowledged := true })
        ((Operation.acceptHandover delivered).run env) w :=
      .call (acceptHandover_answer env _ w) fun sent v hsent => .of_pure (congrArg some hsent)
    intro handover hanswer
    have hsame := hsent answer (by rw [hrun])
    rw [hsame, Option.some.injEq] at hanswer
    rw [← hanswer]
    exact h.acknowledged (hletters _ (hdelivered _ rfl))
  | _ => exact hsilent hrun

/-- The invariant holds in all regions, and the property of all messages. -/
def Holds (Inv : String → Debt → OperationalWorld → Prop) (Letter : RegionHandover → Prop)
    (network : Network) : Prop :=
  (∀ (regionId : String) (w : OperationalWorld), network.worlds[regionId]? = some w →
      Inv regionId (.nothing ∅) w)
    ∧ ∀ handover ∈ network.letters, Letter handover

/-- One command keeps invariant and property. -/
lemma perform (h : NetworkInvariant Inv Letter ok) {env : Env} {network last : Network}
    {command : Command} {visits : List Visit}
    (hperform : network.perform env command = some (last, visits)) (hok : ∀ v ∈ visits, ok v)
    (hbefore : Holds Inv Letter network) : Holds Inv Letter last := by
  obtain ⟨hworlds, hletters⟩ := hbefore
  obtain ⟨w, w', answer, hw, hdelivered, hrun, rfl⟩ := Network.performed hperform
  have hsent : ∀ handover ∈ {sent | sent ∈ network.letters}, Letter handover := hletters
  obtain ⟨hlast, hanswer⟩ := h.operation env command.operation hsent hdelivered hrun hok
    (h.relabel (hworlds _ w hw))
  refine ⟨fun regionId v hv => ?_, fun handover hin => ?_⟩
  · simp only [Network.settle, Registry.getElem?_insert] at hv
    split at hv
    case isTrue hregion =>
      cases hv
      exact hregion ▸ h.relabel hlast
    case isFalse => exact hworlds regionId v hv
  · simp only [Network.settle, List.mem_append, Option.mem_toList] at hin
    exact hin.elim (hanswer handover) (hletters handover)

/-- Invariant and property hold in every network that is reached by a run whose visits
satisfy the condition. -/
theorem run (h : NetworkInvariant Inv Letter ok) {env : Env} {first last : Network}
    {visits : List Visit} (hrun : Network.Run env first visits last)
    (hok : ∀ v ∈ visits, ok v) (hfirst : Holds Inv Letter first) : Holds Inv Letter last := by
  induction hrun with
  | nil => exact hfirst
  | snoc _ hperform ih =>
    exact h.perform hperform (fun v hv => hok v (List.mem_append_right _ hv))
      (ih fun v hv => hok v (List.mem_append_left _ hv))

/-- They hold in every network that is reached from a start if they hold of new worlds. -/
theorem holds (h : NetworkInvariant Inv Letter ok)
    (hnew : ∀ (worldId regionId : String) (nowMs : SimMillis)
      (infra : InMemoryOperationalInfrastructure),
      Inv regionId (.nothing ∅) (.new worldId regionId nowMs infra))
    {env : Env} {first last : Network} {visits : List Visit} (hstart : first.IsStart)
    (hrun : Network.Run env first visits last) (hok : ∀ v ∈ visits, ok v) :
    Holds Inv Letter last := by
  refine h.run hrun hok ⟨fun regionId w hw => ?_, by simp [hstart.1]⟩
  obtain ⟨worldId, nowMs, infra, rfl⟩ := hstart.2 regionId w hw
  exact hnew worldId regionId nowMs infra

end NetworkInvariant

end Zugfolge
