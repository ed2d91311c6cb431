/-
Service days, service outcomes, receipts and policies are silent.

The commands here keep evidence; none of them touches the railway.

* service days: `closeReadyServiceDays_silent`, `openServiceDay_silent`,
  `measureServiceVehicleCost_silent`;
* service outcomes: `startServiceOutcome_silent`, `adoptServiceOutcome_silent`,
  `completeServiceOutcome_silent`;
* receipts and completed routes: `passengerReceipt_silent`, `refreshRouteCompletion_silent`.
-/
import Zugfolge.Behaviour.Quiet

namespace Zugfolge

open Foundation

/-! ### Service days -/

lemma updateServiceDays_silent (f : ServiceDayState → ServiceDayState) :
    Silent (M.update fun w => w.updateServiceDays f) :=
  .update fun w => w.updateServiceDays_quiet f

lemma recordDayClosed_silent (env : Env) (day : ℕ) (dayString : String)
    (progress : ServiceDayProgress)
    (group : (String × String) × List ServiceDayTemplateV1) :
    Silent (recordDayClosed env day dayString progress group) :=
  .bind (.check _) fun _ => .bind (.check _) fun _ => .bind .world fun _ =>
    record_silent _ _ _

lemma closeServiceDay_silent (env : Env) (day : ℕ) : Silent (closeServiceDay env day) :=
  .bind .world fun _ => .bind (.check _) fun _ => .bind (.check _) fun _ =>
    .bind (.check _) fun _ => .bind (updateServiceDays_silent _) fun _ =>
      .bind (.check _) fun _ => .forEach (recordDayClosed_silent env day _ _) _

lemma closeReadyServiceDays_silent (env : Env) : Silent (closeReadyServiceDays env) := by
  refine .bind .world fun w => ?_
  split
  · exact .pure ()
  · exact .forEach (closeServiceDay_silent env) _

lemma openOneServiceDay_silent (env : Env) (day : ℕ) : Silent (openOneServiceDay env day) :=
  .bind .world fun _ => .bind (.check _) fun _ => .bind (updateServiceDays_silent _) fun _ =>
    .bind (.check _) fun _ => .bind (updateServiceDays_silent _) fun _ =>
      .forEach (fun _ => .bind .world fun _ => .bind (.check _) fun _ =>
        .bind (.check _) fun _ => record_silent _ _ _) _

lemma openServiceDay_silent (env : Env) (dayIndex : ℕ) :
    Silent (openServiceDay env dayIndex) := by
  refine .bind .world fun w => .bind (.check _) fun state => .bind (.check _) fun _ =>
    .bind (.check _) fun _ => ?_
  split
  · exact .pure ()
  · exact .bind (.check _) fun _ => .bind (.forEach (openOneServiceDay_silent env) _) fun _ =>
      closeReadyServiceDays_silent env

lemma configureServiceDays_silent (policy : ServiceDayPolicyV1) :
    Silent (configureServiceDays policy) :=
  .bind .world fun _ => .bind (.check _) fun _ => .bind (.check _) fun _ =>
    .update fun _ => .of_same rfl

lemma bindServiceDay_silent (env : Env) (input : TrainMaterialization) :
    Silent (bindServiceDay env input) := by
  refine .bind .world fun w => ?_
  split
  · exact .pure ()
  · split
    · exact .check _
    · exact .bind (.check _) fun _ => .bind (.check _) fun _ => .bind (.check _) fun _ =>
        .bind (.check _) fun _ => .bind (.check _) fun _ => .bind (.check _) fun _ =>
        .bind (openServiceDay_silent env _) fun _ => .bind .world fun _ =>
        .bind (.check _) fun _ => .bind (.check _) fun _ => .check _

lemma startServiceVehicleCost_silent (env : Env) (input : TrainMaterialization) :
    Silent (startServiceVehicleCost env input) := by
  unfold startServiceVehicleCost
  split
  · exact .pure ()
  · exact updateServiceDays_silent _

lemma addVehicleDistance_silent (serviceRunId : String) (distance : Int) (vehicleId : String) :
    Silent (addVehicleDistance serviceRunId distance vehicleId) :=
  .bind .world fun _ => .bind (.check _) fun _ => .bind (.check _) fun _ =>
    .bind (.check _) fun _ => updateServiceDays_silent _

lemma measureServiceVehicleCost_silent (env : Env) (trainId : String)
    (headMm : RouteMillimetres) : Silent (measureServiceVehicleCost env trainId headMm) := by
  refine .bind .world fun w => ?_
  split
  · exact .pure ()
  · refine .bind (.check _) fun train => ?_
    split
    · exact .pure ()
    · split
      · exact .pure ()
      · exact .bind (.check _) fun _ => .bind (.check _) fun _ => .bind (.check _) fun _ =>
          .bind (.forEach (addVehicleDistance_silent _ _) _) fun _ => updateServiceDays_silent _

lemma recordServiceDayOutcome_silent (env : Env) (trainId : String) (outcome : TrainOutcome) :
    Silent (recordServiceDayOutcome env trainId outcome) := by
  refine .bind .world fun w => ?_
  split
  · exact .pure ()
  · exact .bind (.check _) fun _ => .bind (measureServiceVehicleCost_silent env _ _) fun _ =>
      .bind .world fun _ => .bind (.check _) fun _ => .bind (.check _) fun _ =>
      .bind (.check _) fun _ => .bind (updateServiceDays_silent _) fun _ =>
      .bind (.check _) fun _ => .bind (.check _) fun _ =>
      .bind (updateServiceDays_silent _) fun _ => .bind (.check _) fun _ =>
      .bind (updateServiceDays_silent _) fun _ => .bind (record_silent _ _ _) fun _ =>
        closeReadyServiceDays_silent env

/-! ### Service outcomes -/

lemma updateServiceOutcomes_silent (f : ServiceOutcomeState → ServiceOutcomeState) :
    Silent (M.update fun w => w.updateServiceOutcomes f) :=
  .update fun w => w.updateServiceOutcomes_quiet f

lemma configureServiceOutcomes_silent (policy : ServiceOutcomePolicy) :
    Silent (configureServiceOutcomes policy) :=
  .bind .world fun _ => .bind (.check _) fun _ => .bind (.check _) fun _ =>
    .update fun _ => .of_same rfl

lemma planServiceOutcome_silent (env : Env) (train : TrainMaterialization) :
    Silent (planServiceOutcome env train) := by
  refine .bind .world fun w => .bind (.check _) fun _ =>
    .bind (bindServiceDay_silent env train) fun _ => ?_
  split
  · exact .pure ()
  · refine .bind .world fun w => .bind (.check _) fun state => ?_
    split
    · exact .check _
    · exact .bind (updateServiceOutcomes_silent _) fun _ => record_silent _ _ _

lemma claimServiceDay_silent (binding : ServiceOutcomeBinding) :
    Silent (claimServiceDay binding) :=
  .bind .world fun _ => .bind (.check _) fun _ => .bind (.check _) fun _ =>
    updateServiceOutcomes_silent _

lemma startServiceOutcome_silent (env : Env) (input : TrainMaterialization)
    (formationId : String) : Silent (startServiceOutcome env input formationId) := by
  unfold startServiceOutcome
  split
  · exact .pure none
  · exact .bind .world fun _ => .bind (.check _) fun _ => .bind (.check _) fun _ =>
      .bind (planServiceOutcome_silent env input) fun _ => .bind .world fun _ =>
      .bind (claimServiceDay_silent _) fun _ =>
      .bind (startServiceVehicleCost_silent env input) fun _ => .pure _

lemma adoptServiceOutcome_silent (env : Env) (train : OperationalTrain) :
    Silent (adoptServiceOutcome env train) := by
  unfold adoptServiceOutcome
  split
  · exact .pure ()
  · refine .bind .world fun w => .bind (.check _) fun _ => ?_
    split
    · exact claimServiceDay_silent _
    · exact .bind (planServiceOutcome_silent env _) fun _ => claimServiceDay_silent _

lemma completeServiceOutcome_silent (env : Env) (trainId : String) :
    Silent (completeServiceOutcome env trainId) := by
  refine .bind .world fun w => .bind (.check _) fun train => ?_
  split
  · exact .pure ()
  · split
    · exact .pure ()
    · exact .bind (.check _) fun _ => .bind (record_silent _ _ _) fun _ =>
        .bind (recordServiceDayOutcome_silent env _ _) fun _ =>
        .bind (updateServiceOutcomes_silent _) fun _ =>
        .update fun v => Quiet.updateTrain v _ fun _ => rfl

lemma OperationalWorld.updateServiceCapacity_quiet (w : OperationalWorld) (trainId : String) :
    Quiet w (w.updateServiceCapacity trainId) := by
  refine Quiet.updateTrain w trainId fun train => ?_
  split
  · rfl
  · split <;> rfl

/-! ### Stop plans -/

lemma passengerReceipt_silent (env : Env) (trainId kind : String) :
    Silent (passengerReceipt env trainId kind) :=
  .bind .world fun _ => .bind (.check _) fun _ => .bind (.check _) fun _ =>
    .bind (.check _) fun _ => .bind (.check _) fun _ => record_silent _ _ _

lemma refreshRouteCompletion_silent (env : Env) (trainId : String) :
    Silent (refreshRouteCompletion env trainId) := by
  refine .bind .world fun w => .bind (.check _) fun complete => ?_
  split
  · exact .bind (completeServiceOutcome_silent env _) fun _ =>
      .bind (.update fun _ => .of_same rfl) fun _ => refreshContinuationSchedule_silent
  · exact .bind (.update fun _ => .of_same rfl) fun _ => refreshContinuationSchedule_silent

end Zugfolge
