/-
Runs of the economy of a world.

* `EconomyCommand.apply_changes`: a command that ends well repeats an earlier one, makes a change,
  or generates changes;
* `Run.invariant`: what every change keeps holds after a run.
-/
import Zugfolge.Economy.Changes

namespace Zugfolge.Economy

open Foundation

/-! ### The changes of the generator -/

/-- The commands that the generator gives. -/
inductive Generates (state : EconomyWorldState) : EconomyCommand → Prop
  | announce (input : TenderAnnouncement)
      (hrecipients : input.recipients.Perm state.prequalifications.keys) :
      Generates state (.announceTender input)
  | openTender (commandId tenderId : String) (time : Int) :
      Generates state (.openTender commandId tenderId time)
  | budget (time : Int) : Generates state (.generateDueTenders time)

/-- What the generator makes of a state, with the notices on the way. -/
inductive Generated (initial : EconomyWorldState) : EconomyWorldState → List EconomyNotice → Prop
  | start : Generated initial initial []
  | step {state next : EconomyWorldState} {notices : List EconomyNotice} {command : EconomyCommand}
      {effects : EconomyEffects} (hbefore : Generated initial state notices)
      (hgives : Generates state command) (hchange : Change state command next effects) :
      Generated initial next (notices ++ effects.notices)

lemma withBudget_prequalifications (state : EconomyWorldState) (policy : TenderGenerationPolicy)
    (period : Int) : (withBudget state policy period).prequalifications
    = state.prequalifications := by
  unfold withBudget
  split <;> rfl

lemma generated_generateTender {initial : EconomyWorldState} {policy : TenderGenerationPolicy}
    {planning : GtfsPlanningEnvelope} {lotId : String} {previous : Option TenderLifecycle}
    {period : Int} {generated next : Generation}
    (hpolicy : 0 ≤ policy.authorityBudgetCentsPerPeriod)
    (hbefore : Generated initial generated.state generated.notices)
    (h : generateTender policy planning lotId previous period generated = .ok next) :
    Generated initial next.state next.notices := by
  unfold generateTender at h
  simp only [bind_eq_ok_iff] at h
  obtain ⟨_, _, planned, _, announced, hannounced, ⟨opened, effects⟩, hopened, h⟩ := h
  cases h
  have hbudget : Generated initial (withBudget generated.state policy period)
      (generated.notices ++ EconomyEffects.none.notices) :=
    .step hbefore (.budget 0) (.budgeted 0 policy period hpolicy)
  have hannounce : Generated initial announced.1
      (generated.notices ++ announced.2.notices) := by
    rw [EconomyEffects.none, List.append_nil] at hbudget
    rcases announceTender_changes hannounced with ⟨-, heq⟩ | hchange
    · rw [heq]
      simpa [EconomyEffects.none] using hbudget
    · refine .step hbudget (.announce _ ?_) hchange
      rw [withBudget_prequalifications]
      exact List.perm_insertionSort _ _
  rcases openTender_changes hopened with ⟨-, heq⟩ | hchange
  · cases heq
    exact hannounce
  · have hopen := Generated.step hannounce (.openTender _ _ _) hchange
    cases hchange
    simpa [EconomyEffects.none] using hopen

/-- What the generator does are such changes. -/
lemma generated_generateDueTenders {initial : EconomyWorldState} {time : Int}
    {generated : Generation} (h : generateDueTenders initial time = .ok generated) :
    Generated initial generated.state generated.notices := by
  have hstart : Generated initial (Generation.start initial).state
      (Generation.start initial).notices := .start
  unfold generateDueTenders at h
  split at h
  · cases h
    exact hstart
  · cases hpolicy : initial.tenderGeneration with
    | none =>
      rw [hpolicy] at h
      cases h
      exact hstart
    | some policy =>
      rw [hpolicy] at h
      simp only [Option.elim_some, generateBy, bind_eq_ok_iff] at h
      obtain ⟨planning, hbasis, h⟩ := h
      have hvalid : 0 ≤ policy.authorityBudgetCentsPerPeriod := by
        simp only [generationBasis, bind_eq_ok_iff, require_eq_ok, exists_const] at hbasis
        obtain ⟨-, _, hvalid, -⟩ := hbasis
        exact budget_nonneg_of_validate hvalid
      refine @foldlM_invariant _ _ _ _ (fun generated : Generation =>
        Generated initial generated.state generated.notices) ?_ _ _ _ hstart h
      intro before entry after hbefore hentry
      unfold generateEntry at hentry
      simp only at hentry
      split at hentry
      · cases hentry
        exact hbefore
      · simp only [bind_eq_ok_iff, require_eq_ok, exists_const] at hentry
        obtain ⟨period, -, -, -, hentry⟩ := hentry
        split at hentry
        · cases hentry
          exact hbefore
        · exact generated_generateTender hvalid hbefore hentry

/-! ### Commands that end well -/

variable {state next : EconomyWorldState} {effects : EconomyEffects} {command : EconomyCommand}

/-- What a command that ends well has done. -/
inductive Applied (state : EconomyWorldState) :
    EconomyCommand → EconomyWorldState → EconomyEffects → Prop
  | repeated {command : EconomyCommand} (commandId : String)
      (hname : command.commandId = some commandId)
      (hold : commandId ∈ state.processedCommands) : Applied state command state .none
  | changed {command : EconomyCommand} {next : EconomyWorldState} {effects : EconomyEffects}
      (hchange : Change state command next effects) : Applied state command next effects
  | generated {next : EconomyWorldState} {notices : List EconomyNotice} (time : Int)
      (hgenerated : Generated state next notices) :
      Applied state (.generateDueTenders time) next { EconomyEffects.none with notices := notices }

variable {commandId : String}

lemma applied_of_changes (hname : command.commandId = some commandId)
    (h : Repeats state commandId (next, effects) ∨ Change state command next effects) :
    Applied state command next effects := by
  rcases h with ⟨hold, heq⟩ | hchange
  · cases heq
    exact .repeated commandId hname hold
  · exact .changed hchange

/-- A command that ends well repeats an earlier one, makes its change or generates changes. -/
theorem EconomyCommand.apply_changes (h : command.apply state = .ok (next, effects)) :
    Applied state command next effects := by
  cases command with
  | announceTender input =>
    exact applied_of_changes rfl (announceTender_changes h)
  | openTender commandId tenderId time =>
    exact applied_of_changes rfl (openTender_changes h)
  | submitBid commandId tenderId bid qualification =>
    exact applied_of_changes rfl (submitBid_changes h)
  | closeTender input =>
    exact applied_of_changes rfl (closeTender_changes h)
  | startFailedTenderPublicOperation input =>
    exact applied_of_changes rfl (startFailedTenderPublicOperation_changes h)
  | submitMobilizationReference input =>
    exact applied_of_changes rfl (submitMobilizationReference_changes h)
  | completeMobilization input =>
    exact applied_of_changes rfl (completeMobilization_changes h)
  | grantEmergencyStartPackage input =>
    exact applied_of_changes rfl (grantEmergencyStartPackage_changes h)
  | settleContractPeriod input =>
    obtain ⟨⟨result, profit⟩, hsettled, heq⟩ := map_eq_ok_iff.mp h
    cases heq
    exact .changed (settleContractPeriod_changes hsettled)
  | escalateOperator input =>
    obtain ⟨⟨result, decision⟩, hescalated, heq⟩ := map_eq_ok_iff.mp h
    cases heq
    exact .changed (escalateOperator_changes hescalated)
  | generateDueTenders time =>
    obtain ⟨generated, hgenerated, heq⟩ := map_eq_ok_iff.mp h
    cases heq
    exact .generated time (generated_generateDueTenders hgenerated)
  | seedEconomyAccount commandId accountId =>
    exact applied_of_changes rfl (seedEconomyAccount_changes h)
  | closeEconomyWorld commandId =>
    exact applied_of_changes rfl (closeEconomyWorld_changes h)

lemma Change.accepts (h : Change state command next effects)
    (hname : command.commandId = some commandId) : state.accepts commandId = true := by
  cases h <;> cases hname <;> assumption

/-- The command is new; those of the generator are not asked. -/
def isNewIn (state : EconomyWorldState) (command : EconomyCommand) : Bool :=
  command.commandId.all (state.accepts ·)

lemma Change.isNewIn (h : Change state command next effects) : isNewIn state command = true := by
  cases hname : command.commandId with
  | none => rw [Economy.isNewIn, hname, Option.all_none]
  | some commandId => rw [Economy.isNewIn, hname, Option.all_some, h.accepts hname]

lemma isNewIn_of_processed (hname : command.commandId = some commandId)
    (hold : commandId ∈ state.processedCommands) : isNewIn state command = false := by
  rw [isNewIn, hname, Option.all_some, EconomyWorldState.accepts,
    List.contains_iff_mem.mpr hold, Bool.not_true, Bool.false_and]

lemma sameTenders_withDecision {input : Escalation} :
    (withDecision state input (evaluateInsolvency input.signals)).tenders = state.tenders ∧
      (withDecision state input (evaluateInsolvency input.signals)).release = state.release ∧
      (withDecision state input (evaluateInsolvency input.signals)).budgets = state.budgets := by
  unfold withDecision withConsequence
  split <;> split <;> exact ⟨rfl, rfl, rfl⟩

/-- What a change makes of the tenders: it leaves them, goes on with one of them, or adds one. -/
lemma Change.tenders (h : Change state command next effects) :
    next.tenders = state.tenders ∨
      (∃ tenderId current bids phase, state.tenders.get? tenderId = some current ∧
        next.tenders = state.tenders.set tenderId ⟨current.tender, bids, phase⟩) ∨
      ∃ input profile tender, state.tenders.get? tender.id = none ∧
        profileOf state input = .ok profile ∧
        createTender input.tender profile input.release = .ok tender ∧
        next.tenders = state.tenders.set tender.id ⟨tender, [], .announced⟩ := by
  cases h with
  | announced input profile tender hnew hworld hfresh hprofile htender =>
    rw [← id_of_createTender htender] at hfresh
    exact .inr (.inr ⟨input, profile, tender, hfresh, hprofile, htender, rfl⟩)
  | opened commandId tenderId time current hnew hcurrent
  | bid commandId tenderId bid qualification current hnew hcurrent =>
    exact .inr (.inl ⟨tenderId, current, _, _, hcurrent, rfl⟩)
  | unwon input current budget hnew hcurrent
  | won input current award winner budget hnew hcurrent
  | startedPublic input current operation hnew hcurrent =>
    exact .inr (.inl ⟨input.tenderId, current, _, _, hcurrent, rfl⟩)
  | escalated => exact .inl sameTenders_withDecision.1
  | budgeted time policy period =>
    refine .inl ?_
    unfold withBudget
    split <;> rfl
  | _ => exact .inl rfl

/-- A tender stays what it was announced to be. -/
lemma Change.tender_kept (h : Change state command next effects) {tenderId : String}
    {current : TenderLifecycle} (hcurrent : state.tenders.get? tenderId = some current) :
    ∃ current', next.tenders.get? tenderId = some current' ∧ current'.tender = current.tender := by
  rcases h.tenders with heq | ⟨other, found, bids, phase, hfound, heq⟩ |
    ⟨input, profile, tender, hfresh, -, -, heq⟩
  · exact ⟨current, heq ▸ hcurrent, rfl⟩
  · rw [heq, EntryMap.get?_set]
    split
    · rename_i hsame
      rw [hsame, hfound] at hcurrent
      cases hcurrent
      exact ⟨_, rfl, rfl⟩
    · exact ⟨current, hcurrent, rfl⟩
  · refine ⟨current, ?_, rfl⟩
    rw [heq, EntryMap.get?_set_ne _ _ ?_, hcurrent]
    rintro rfl
    rw [hfresh] at hcurrent
    cases hcurrent

/-! ### Runs -/

/-- A command of a run with the time at which it came, what it found and what it left. -/
structure AppliedCommand where
  command : EconomyCommand
  time : Int
  before : EconomyWorldState
  after : EconomyWorldState
  effects : EconomyEffects

/-- Commands with times that do not decrease, the latest one first; the state and the time behind
them. -/
inductive Run (first : EconomyWorldState) (begin : Int) :
    List AppliedCommand → EconomyWorldState → Int → Prop
  | start : Run first begin [] first begin
  | step {history : List AppliedCommand} {state next : EconomyWorldState} {time now : Int}
      {command : EconomyCommand} {effects : EconomyEffects}
      (hbefore : Run first begin history state time)
      (happly : command.apply state = .ok (next, effects))
      (hclock : command.time.getD time = now) (hlater : time ≤ now) :
      Run first begin (⟨command, now, state, next, effects⟩ :: history) next now

/-- What a command of a run found was reached by the commands before it, and the command ended
well. -/
lemma Run.of_mem {first : EconomyWorldState} {begin time : Int} {history : List AppliedCommand}
    (h : Run first begin history state time) {entry : AppliedCommand} (hin : entry ∈ history) :
    ∃ earlier before, Run first begin earlier entry.before before ∧ earlier ⊆ history ∧
      entry.command.apply entry.before = .ok (entry.after, entry.effects) := by
  induction h with
  | start => cases hin
  | step hbefore happly hclock hlater ih =>
    rcases List.mem_cons.mp hin with rfl | hin
    · exact ⟨_, _, hbefore, List.subset_cons_self _ _, happly⟩
    · obtain ⟨earlier, before, hrun, hsubset, hentry⟩ := ih hin
      exact ⟨earlier, before, hrun, List.subset_cons_of_subset _ hsubset, hentry⟩

/-- Every command of a run was allowed in the state that it found. -/
def AllAllowed (allowed : EconomyWorldState → EconomyCommand → Bool)
    (history : List AppliedCommand) : Prop :=
  ∀ entry ∈ history, allowed entry.before entry.command = true

/-- The command was applied before, or it meets a condition. -/
def whenNew (condition : EconomyWorldState → EconomyCommand → Bool) (state : EconomyWorldState)
    (command : EconomyCommand) : Bool :=
  !isNewIn state command || condition state command

lemma of_whenNew {condition : EconomyWorldState → EconomyCommand → Bool}
    (h : whenNew condition state command = true) (hname : command.commandId = some commandId)
    (hnew : state.accepts commandId = true) : condition state command = true := by
  rwa [whenNew, isNewIn, hname, Option.all_some, hnew, Bool.not_true, Bool.false_or] at h

/-- A command that is allowed and comes at a time, or one of the generator. -/
def Given (allowed : EconomyWorldState → EconomyCommand → Bool) (now : Int)
    (state : EconomyWorldState) (command : EconomyCommand) : Prop :=
  (allowed state command = true ∧ command.time.getD now = now) ∨ Generates state command

lemma clock_eq {time now : Int} (h : command.time.getD time = now) : command.time.getD now
    = now := by
  cases htime : command.time with
  | none => rfl
  | some own =>
    rw [htime] at h
    exact h

section Invariant

variable {allowed : EconomyWorldState → EconomyCommand → Bool}
  {I : EconomyWorldState → Int → Prop}

lemma Applied.invariant {now : Int}
    (hchange : ∀ state command next effects, I state now → Given allowed now state command →
      Change state command next effects → I next now)
    (h : Applied state command next effects) (hstate : I state now)
    (hallowed : allowed state command = true) (hclock : command.time.getD now = now) :
    I next now := by
  cases h with
  | repeated => exact hstate
  | changed h => exact hchange _ _ _ _ hstate (.inl ⟨hallowed, hclock⟩) h
  | generated time h =>
    induction h with
    | start => exact hstate
    | step hbefore hgives h ih => exact hchange _ _ _ _ ih (.inr hgives) h

variable {first : EconomyWorldState}

/-- **What every change keeps, and what the passing of time keeps, holds after a run.** -/
theorem Run.invariant {begin time : Int} {history : List AppliedCommand}
    (hlater : ∀ state time now, time ≤ now → I state time → I state now)
    (hchange : ∀ state command next effects now, I state now → Given allowed now state command →
      Change state command next effects → I next now)
    (hfirst : I first begin) (h : Run first begin history state time)
    (hallowed : AllAllowed allowed history) : I state time := by
  induction h with
  | start => exact hfirst
  | @step history state next time now command effects hbefore happly hclock hlate ih =>
    have hstate := ih fun entry hentry => hallowed entry (List.mem_cons_of_mem _ hentry)
    exact command.apply_changes happly |>.invariant (fun _ _ _ _ => hchange _ _ _ _ now)
      (hlater _ _ _ hlate hstate) (hallowed _ List.mem_cons_self) (clock_eq hclock)

lemma Generated.invariant (I : EconomyWorldState → Prop) {initial : EconomyWorldState}
    {notices : List EconomyNotice}
    (hchange : ∀ state command next effects, I state → Generates state command →
      Change state command next effects → I next)
    (h : Generated initial state notices) (hinitial : I initial) : I state := by
  induction h with
  | start => exact hinitial
  | step hbefore hgives h ih => exact hchange _ _ _ _ ih hgives h

lemma startEconomyWorld_eq_ok {input : EconomyWorldStart}
    {effects : EconomyEffects} (h : startEconomyWorld input = .ok (first, effects)) :
    ∃ lots calendar, ∃ generated : Generation,
      Generated (initialState input lots calendar) generated.state generated.notices ∧
        first = { generated.state with revision := 0 } ∧
        effects = { EconomyEffects.none with
          notices :=
            input.accounts.map (calendarNotice input.worldId calendar) ++ generated.notices } := by
  unfold startEconomyWorld at h
  simp only [bind_eq_ok_iff, require_eq_ok, exists_const] at h
  obtain ⟨-, -, -, lots, -, -, -, calendar, -, generated, hgenerated, h⟩ := h
  cases h
  exact ⟨lots, calendar, generated, generated_generateDueTenders hgenerated, rfl, rfl⟩

/-- **What holds of a world before its first tenders, and is kept by every change, holds after every
run of the world.** -/
theorem Run.invariant_of_start {input : EconomyWorldStart}
    {begun : EconomyEffects} {history : List AppliedCommand} {time : Int}
    (hstart : startEconomyWorld input = .ok (first, begun))
    (hinitial : ∀ lots calendar, I (initialState input lots calendar) 0)
    (hrevision : ∀ state time revision, I state time →
      I { state with revision := revision } time)
    (hlater : ∀ state time now, time ≤ now → I state time → I state now)
    (hchange : ∀ state command next effects now, I state now → Given allowed now state command →
      Change state command next effects → I next now)
    (h : Run first 0 history state time) (hallowed : AllAllowed allowed history) :
    I state time := by
  obtain ⟨lots, calendar, generated, hgenerated, rfl, -⟩ := startEconomyWorld_eq_ok hstart
  refine h.invariant hlater hchange (hrevision _ _ 0 ?_) hallowed
  refine hgenerated.invariant (I · 0) (fun state command next effects hstate hgives hone => ?_)
    (hinitial lots calendar)
  exact hchange state command next effects 0 hstate (.inr hgives) hone

end Invariant

/-! ### Playing commands -/

/-- Applies commands one after the other, as long as they are allowed and their times do not
decrease. -/
def play (allowed : EconomyWorldState → EconomyCommand → Bool) :
    List EconomyCommand → EconomyWorldState → Int → Outcome (EconomyWorldState × Int)
  | [], state, time => .ok (state, time)
  | command :: commands, state, time => do
    let now := command.time.getD time
    require (allowed state command && time ≤ now) "Der Befehl ist nicht an der Reihe."
    let result ← command.apply state
    play allowed commands result.1 now

variable {commands : List EconomyCommand}

/-- What was played is a run of allowed commands. -/
lemma run_of_play {allowed : EconomyWorldState → EconomyCommand → Bool}
    {first : EconomyWorldState} {begin : Int} :
    ∀ {history : List AppliedCommand} {state next : EconomyWorldState} {time now : Int},
      Run first begin history state time → AllAllowed allowed history →
        play allowed commands state time = .ok (next, now) →
          ∃ later, Run first begin later next now ∧ AllAllowed allowed later := by
  induction commands with
  | nil =>
    intro history state next time now hrun hallowed h
    cases h
    exact ⟨history, hrun, hallowed⟩
  | cons command commands ih =>
    intro history state next time now hrun hallowed h
    simp only [play, bind_eq_ok_iff, require_eq_ok, exists_const, Bool.and_eq_true,
      decide_eq_true_eq] at h
    obtain ⟨⟨hcommand, hlater⟩, ⟨after, effects⟩, happly, h⟩ := h
    refine ih (.step hrun happly rfl hlater) ?_ h
    intro entry hentry
    rcases List.mem_cons.mp hentry with rfl | hentry
    · exact hcommand
    · exact hallowed entry hentry

lemma run_of_play_any {allowed : EconomyWorldState → EconomyCommand → Bool}
    {state : EconomyWorldState} {time : Int}
    {check : EconomyWorldState × Int → Bool}
    (h : (play allowed commands state time).toOption.any check = true) :
    ∃ result history, Run state time history result.1 result.2 ∧ AllAllowed allowed history ∧
      check result = true := by
  obtain ⟨result, hplay, hcheck⟩ := ok_of_any h
  obtain ⟨history, hrun, hallowed⟩ := run_of_play .start (by simp [AllAllowed]) hplay
  exact ⟨result, history, hrun, hallowed, hcheck⟩

/-! ### A small world -/

def smallRelease : EconomyRelease where
  version := "2026.2"
  rates := ⟨100, 100, 100, 100, 100, 100, 100, 100, 100⟩
  rules := {
    qualityBaselinePunctualityBasisPoints := 8500
    pointsPerExtraSeat := 40
    pointsPerPunctualityBasisPoint := 1
    pointsPerAdditionalStop := 300
    requirementFocusMaximumPoints := 1500
    contractBonusCentsPerPeriod := 100000
    penaltyRates := ⟨10, 10000, 100, 1000⟩
    penaltyFocusMultiplierBasisPoints := 20000
    publicOperationSurchargeBasisPoints := 2000 }
  tenderProfiles := [{
    id := "price"
    weights := ⟨7000, 3000⟩
    requirementFocus := .capacity
    penaltyFocus := .punctuality
    specialCondition := none
    viabilitySurchargeBasisPoints := 1000 }]
  fareInspection := false
  checksum := "release"

/-- A world with one lot and two accounts. -/
def smallWorld : EconomyWorldStart where
  worldId := "world-1"
  seed := 42
  durationMonths := .six
  release := smallRelease
  lots := some [⟨"lot-0", 100, 0⟩]
  planning := none
  tenderGeneration := none
  authorityBudgets := [⟨"authority-1", 0, 10000000, 0⟩]
  accounts := ["account-1", "account-2"]
  publicVehiclePoolByLot := .empty

/-- A tender of the lot, to be operated from the fourth day on. -/
def smallTender (incumbentOperatorId : String) : TenderInput where
  id := "tender-1"
  worldId := "world-1"
  lotId := "lot-0"
  incumbentOperatorId := incumbentOperatorId
  specification := {
    lines := ["S 1"]
    trainKmPerPeriod := 100
    stopsPerPeriod := 10
    serviceHoursPerPeriod := 10
    facilityHoursPerPeriod := 2
    energyKwhPerPeriod := 500
    vehicleCount := 2
    overnightUnits := 2
    protectionUnits := 2
    requirements := ⟨100, none, 0, true, 4, 1, []⟩ }
  planningEvidence := none
  announcedAt := 0
  opensAt := 100
  closesAt := 259300
  operatingFrom := 345600
  contractPeriods := 2
  periodDurationSeconds := 1814400
  smallLot := false

def smallAnnouncement (incumbentOperatorId : String) : TenderAnnouncement where
  commandId := "announce-1"
  release := smallRelease
  tender := smallTender incumbentOperatorId
  recipients := []
  automation := none

def smallHash : String := String.ofList (List.replicate 64 'a')

def smallBid (operatorId : String) : Bid where
  id := "bid-1"
  operatorId := operatorId
  orderingFeeCentsPerTrainKm := 100
  vehicle := {
    minimumSeats := 120
    firstClassBasisPoints := 0
    accessible := true
    bicyclePlaces := 8
    wheelchairPlaces := 2
    requiredEquipment := []
    formationId := "formation-1"
    maximumSpeedKph := 160
    operatingCostCentsPerTrainKm := 700
    vehicleAgeYears := 3
    traction := .electric
    replacementPlan := true
    evidence := ⟨"zugfolge-fleet-mobilization/v1", 7, smallHash, "formation-1"⟩ }
  promises := ⟨20, 9500, 0⟩
  submittedAt := 200

/-- The bid of an operator is submitted. -/
def smallSubmission (operatorId : String) : EconomyCommand :=
  .submitBid "bid-1" "tender-1" (smallBid operatorId) ⟨"account-1", 0, false, 0⟩

/-- The tender is closed. -/
def smallClosing : TenderClosing where
  commandId := "close-1"
  tenderId := "tender-1"
  time := 259300
  authorityId := "authority-1"
  budgetPeriod := 0
  vehiclePool := ["vehicle-1"]
  recipientByOperator := .empty

/-- The resources of an operator. -/
def smallProof : MobilizationProof where
  source := "m5-release"
  verifiedBy := "zugfolge-fleet-mobilization/v1"
  fleetRevision := 7
  snapshotHash := smallHash
  formationIds := ["formation-1"]
  personnelDutyIds := ["duty-1"]
  pathReservationIds := ["path-1"]

/-- The lot changes from one operator to another. -/
def smallTransition (previousOperatorId operatorId : String) (time revision : Int) :
    OperatingTransitionResult where
  schemaVersion := "zugfolge-operating-transition-result/v1"
  state := ⟨"world-1", revision⟩
  stateHash := smallHash
  outcome := {
    lotId := "lot-0"
    previousOperatorId := previousOperatorId
    operatorId := operatorId
    kind := .operatorChange
    seamless := false
    penaltyRequired := false
    trainRunIds := ["train-1"]
    livemapMarker := none }
  events := [
    ⟨"event-1", "world-1", "operating-duty-ended", time⟩,
    ⟨"event-2", "world-1", "operating-transition-completed", time⟩,
    ⟨"event-3", "world-1", "train-operation-assigned", time⟩,
    ⟨"event-4", "world-1", "livemap-operation-cleared", time⟩]
  idempotentReplay := false

/-- The winner of the tender takes over. -/
def smallCompletion (previousOperatorId operatorId : String) (revision : Int) :
    MobilizationCompletion where
  commandId := "complete-1"
  tenderId := "tender-1"
  time := 345600
  proof := some smallProof
  failurePenaltyCents := 0
  recipientAccountId := "account-1"
  publicVehiclePool := []
  operatingTransition := smallTransition previousOperatorId operatorId 345600 revision

/-- A start package for the first days. -/
def smallPackage (operatorId : String) (time : Int) : StartPackage where
  commandId := "grant-1"
  contractId := "start-1"
  operatorId := operatorId
  accountId := "account-1"
  lotId := "lot-0"
  time := time
  expires := 345600
  maximumTrainKmPerPeriod := 1200
  proof := smallProof
  operatingTransition := smallTransition "public" operatorId time 1

/-- An operator cannot pay. -/
def smallEscalation (operatorId : String) (time : Int) : Escalation where
  commandId := "escalate-1"
  operatorId := operatorId
  accountId := "account-2"
  period := 0
  time := time
  signals := ⟨0, 0, 0, 5000, false, true⟩

/-- Plays commands from the start of the small world. -/
def playSmallWorld (allowed : EconomyWorldState → EconomyCommand → Bool)
    (commands : List EconomyCommand) : Outcome (EconomyWorldState × Int) := do
  let started ← startEconomyWorld smallWorld
  play allowed commands started.1 0

lemma run_of_playSmallWorld {allowed : EconomyWorldState → EconomyCommand → Bool}
    {check : EconomyWorldState × Int → Bool}
    (h : (playSmallWorld allowed commands).toOption.any check = true) :
    ∃ first begun history state time, startEconomyWorld smallWorld = .ok (first, begun) ∧
      Run first 0 history state time ∧ AllAllowed allowed history ∧ check (state, time) = true := by
  cases hstart : startEconomyWorld smallWorld with
  | error error =>
    rw [playSmallWorld, hstart] at h
    cases h
  | ok started =>
    rw [playSmallWorld, hstart] at h
    obtain ⟨result, history, hrun, hallowed, hcheck⟩ := run_of_play_any h
    exact ⟨started.1, started.2, history, result.1, result.2, rfl, hrun, hallowed, hcheck⟩

/-! ### Worlds that are closed -/

/-- Nothing is done in a closed world, not even for tenders that are due. -/
lemma apply_closed (hclosed : state.closed = true) (h : command.apply state = .ok (next, effects)) :
    next = state ∧ effects = .none := by
  cases hname : command.commandId with
  | none =>
    cases command with
    | generateDueTenders time =>
      rw [EconomyCommand.apply, generateDueTenders, if_pos hclosed] at h
      cases h
      exact ⟨rfl, rfl⟩
    | _ => cases hname
  | some commandId =>
    cases EconomyCommand.apply_changes h with
    | repeated => exact ⟨rfl, rfl⟩
    | changed hchange =>
      have haccepts := hchange.accepts hname
      rw [EconomyWorldState.accepts, hclosed, Bool.not_true, Bool.and_false] at haccepts
      cases haccepts
    | generated => cases hname

/-- **Closed worlds.**  No run of a closed world changes it or does anything besides. -/
theorem closed_stays {first : EconomyWorldState} {begin time : Int} {history : List AppliedCommand}
    (hclosed : first.closed = true) (hrun : Run first begin history state time) :
    state = first ∧ ∀ entry ∈ history, entry.effects = .none := by
  induction hrun with
  | start => exact ⟨rfl, by simp⟩
  | step _ happly _ _ ih =>
    obtain ⟨rfl, hnothing⟩ := ih
    obtain ⟨rfl, hnone⟩ := apply_closed hclosed happly
    exact ⟨rfl, List.forall_mem_cons.mpr ⟨hnone, hnothing⟩⟩

/-- A closed world in which tenders fall due. -/
theorem closed_stays_due : ∃ (first state : EconomyWorldState) (begin time : Int)
    (history : List AppliedCommand), first.closed = true ∧ Run first begin history state time ∧
      time = 100 ∧ state = first ∧ ∀ entry ∈ history, entry.effects = .none := by
  have hplayed : (playSmallWorld (fun _ _ => true) [.closeEconomyWorld "close-1"]).toOption.any
      (fun first => first.1.closed && (play (fun _ _ => true) [.generateDueTenders 100]
        first.1 first.2).toOption.any fun last => last.2 == 100) = true := by
    decide +kernel
  obtain ⟨first, -, hplayed⟩ := ok_of_any hplayed
  obtain ⟨hclosed, hplayed⟩ := (Bool.and_eq_true ..).mp hplayed
  obtain ⟨last, history, hrun, -, htime⟩ := run_of_play_any hplayed
  exact ⟨first.1, last.1, first.2, last.2, history, hclosed, hrun, beq_iff_eq.mp htime,
    closed_stays hclosed hrun⟩

end Zugfolge.Economy
