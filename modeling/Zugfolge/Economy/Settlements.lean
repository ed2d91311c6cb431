/-
The settlements of a run.

Every period of a contract is settled once, and never for more train kilometres than were agreed.
The periods and the kilometres of a contract are looked up in the tender of its name, so that a
start package can be settled only if it was granted under the name of a tender that fits it.

* `settled_of_run`: what every run of such commands keeps.
-/
import Zugfolge.Economy.Amounts
import Zugfolge.Economy.Runs

namespace Zugfolge.Economy

open Foundation

/-! ### What was settled -/

def EconomyCommand.Settles (command : EconomyCommand) (contractId : String) (period : Int) : Prop :=
  ∃ input, command = .settleContractPeriod input ∧ input.contractId = contractId ∧
    input.period = period

/-- A period of a contract was settled in the run. -/
def SettledIn (history : List AppliedCommand) (contractId : String) (contract : ServiceContract)
    (period : Int) : Prop :=
  ∃ entry ∈ history, entry.command.Settles contractId period ∧
    entry.before.contracts.get? contractId = some contract

/-- A period of a contract has ended.  Its length is that of the tender of the contract, if there is
one. -/
def PeriodOver (state : EconomyWorldState) (contractId : String) (contract : ServiceContract)
    (period time : Int) : Prop :=
  ∃ length, 0 < length ∧
    (∀ current, state.tenders.get? contractId = some current →
      current.tender.lotId = contract.lotId → length = current.tender.periodDurationSeconds) ∧
    0 ≤ period ∧ contract.startsAt + period * length < contract.endsAt ∧
    min contract.endsAt (contract.startsAt + period * length + length) ≤ time

/-- The train kilometres that were agreed for a period: those of the start package or else those of
the tender. -/
def AgreedLimit (state : EconomyWorldState) (contractId : String) (contract : ServiceContract)
    (limit : Int) : Prop :=
  maximumTrainKm limit ∈ contract.evidenceRequired ∨
    (∀ other, maximumTrainKm other ∉ contract.evidenceRequired) ∧
      ∃ current, state.tenders.get? contractId = some current ∧
        current.tender.specification.trainKmPerPeriod = limit

/-- The settlement is a new one of an open world, with times that are exact, everything that has to
be shown and amounts that fit. -/
def Settlement.isInOrder (state : EconomyWorldState) (input : Settlement)
    (contract : ServiceContract) : Bool :=
  state.accepts input.commandId && isSafeInteger input.period && isSafeInteger input.time
    && input.performance.isComplete contract && amountsFit input contract
    && (!state.release.fareInspection || isSafeInteger (input.time * 1000))

/-- Every period is settled once: not a second time, at the first try once it has ended, and for no
more than was agreed. -/
structure SettledOnce (history : List AppliedCommand) (state : EconomyWorldState) : Prop where
  once : history.Pairwise fun later earlier => ∀ contractId period,
    later.command.Settles contractId period → ¬ earlier.command.Settles contractId period
  refused : ∀ {contractId : String} {contract : ServiceContract} {period : Int},
    SettledIn history contractId contract period → ∀ input : Settlement,
      input.contractId = contractId → input.period = period →
        ∃ message, settleContractPeriod state input = .error message
  succeeds : ∀ {contract : ServiceContract} (input : Settlement),
    state.contracts.get? input.contractId = some contract →
      ¬ SettledIn history input.contractId contract input.period →
        PeriodOver state input.contractId contract input.period input.time →
          input.isInOrder state contract = true →
            (∃ limit, AgreedLimit state input.contractId contract limit ∧
              input.performance.trainKm ≤ limit) →
              ∃ result, settleContractPeriod state input = .ok result
  limited : ∀ entry ∈ history, ∀ input contract limit,
    entry.command = .settleContractPeriod input →
      entry.before.contracts.get? input.contractId = some contract →
        AgreedLimit entry.before input.contractId contract limit → input.performance.trainKm ≤ limit

/-! ### What is noted of settlements -/

/-- What was settled, and what a command settles. -/
def settledAfter (settled : String → ServiceContract → Int → Prop) (state : EconomyWorldState)
    (command : EconomyCommand) (contractId : String) (contract : ServiceContract) (period : Int) :
    Prop :=
  (command.Settles contractId period ∧ state.contracts.get? contractId = some contract) ∨
    settled contractId contract period

lemma settledIn_cons {entry : AppliedCommand} {history : List AppliedCommand} {contractId : String}
    {contract : ServiceContract} {period : Int} :
    SettledIn (entry :: history) contractId contract period ↔
      settledAfter (SettledIn history) entry.before entry.command contractId contract period := by
  unfold settledAfter SettledIn
  simp only [List.mem_cons, exists_eq_or_imp]

/-- What was settled is noted, as long as the world is open. -/
def Noted (settled : String → ServiceContract → Int → Prop) (state : EconomyWorldState) : Prop :=
  ∀ contractId contract period, settled contractId contract period → state.closed = false →
    numbered contractId period ∈ state.settledPeriods

section Change

variable {state next : EconomyWorldState} {command : EconomyCommand} {effects : EconomyEffects}
  {settled : String → ServiceContract → Int → Prop}

lemma sameNotes_withDecision {input : Escalation} :
    (withDecision state input (evaluateInsolvency input.signals)).settledPeriods
        = state.settledPeriods ∧
      (withDecision state input (evaluateInsolvency input.signals)).closed = state.closed ∧
      (withDecision state input (evaluateInsolvency input.signals)).worldId = state.worldId := by
  unfold withDecision withConsequence
  split <;> split <;> exact ⟨rfl, rfl, rfl⟩

/-- An escalation makes no contract. -/
lemma contracts_of_withDecision {input : Escalation} {contractId : String}
    {contract : ServiceContract}
    (h : (withDecision state input (evaluateInsolvency input.signals)).contracts.get? contractId
      = some contract) : state.contracts.get? contractId = some contract := by
  have hconsequence : ∀ {decision : InsolvencyDecision},
      (withConsequence state input decision).contracts.get? contractId = some contract →
        state.contracts.get? contractId = some contract := by
    intro decision hfound
    unfold withConsequence at hfound
    split at hfound
    · exact (EntryMap.get?_foldl_delete hfound).1
    · exact hfound
  unfold withDecision at h
  split at h
  · exact hconsequence h
  · exact hconsequence h

lemma sameNotes_withBudget {policy : TenderGenerationPolicy} {period : Int} :
    (withBudget state policy period).settledPeriods = state.settledPeriods ∧
      (withBudget state policy period).closed = state.closed ∧
      (withBudget state policy period).worldId = state.worldId := by
  unfold withBudget
  split <;> exact ⟨rfl, rfl, rfl⟩

/-- What a change makes of the notes: it leaves them, adds the period that it settles, or closes the
world. -/
lemma Change.notes (h : Change state command next effects) :
    (next.settledPeriods = state.settledPeriods ∧ next.closed = state.closed ∧
      ∀ contractId period, ¬ command.Settles contractId period) ∨
    (∃ input, command = .settleContractPeriod input ∧
      next = withCommand (withSettlement state input) input.commandId) ∨
    next.closed = true := by
  have hother : ∀ {command : EconomyCommand}, (∀ input, command ≠ .settleContractPeriod input) →
      ∀ contractId period, ¬ command.Settles contractId period :=
    fun hne _ _ ⟨input, heq, _⟩ => hne input heq
  cases h with
  | settled input => exact .inr (.inl ⟨input, rfl, rfl⟩)
  | closed => exact .inr (.inr rfl)
  | escalated =>
    exact .inl ⟨sameNotes_withDecision.1, sameNotes_withDecision.2.1, hother (by simp)⟩
  | budgeted =>
    exact .inl ⟨sameNotes_withBudget.1, sameNotes_withBudget.2.1, hother (by simp)⟩
  | _ => exact .inl ⟨rfl, rfl, hother (by simp)⟩

/-- What a change settles is noted. -/
lemma Change.noted (hstate : Noted settled state) (h : Change state command next effects) :
    Noted (settledAfter settled state command) next := by
  intro contractId contract period hsettled hopen
  rcases h.notes with ⟨hperiods, hclosed, hother⟩ | ⟨input, rfl, rfl⟩ | hclosed
  · rcases hsettled with ⟨hsettles, -⟩ | hsettled
    · exact absurd hsettles (hother contractId period)
    · rw [hperiods]
      exact hstate _ _ _ hsettled (hclosed ▸ hopen)
  · refine List.mem_insert_iff.mpr ?_
    rcases hsettled with ⟨⟨input', heq, rfl, rfl⟩, -⟩ | hsettled
    · cases heq
      exact .inl rfl
    · exact .inr (hstate _ _ _ hsettled hopen)
  · rw [hclosed] at hopen
    cases hopen

/-- What was settled cannot be settled again. -/
lemma Noted.refused (hstate : Noted settled state) {input : Settlement} {contract : ServiceContract}
    (hsettled : settled input.contractId contract input.period) :
    ∃ message, settleContractPeriod state input = .error message := by
  cases hresult : settleContractPeriod state input with
  | error message => exact ⟨message, rfl⟩
  | ok result =>
    obtain ⟨⟨next, effects⟩, profit⟩ := result
    have hchange := settleContractPeriod_changes hresult
    cases hchange with
    | settled _ _ _ _ hnew _ hfresh =>
      have hopen := (Bool.and_eq_true _ _).mp hnew |>.2
      exact absurd (hstate _ _ _ hsettled (Bool.not_eq_true' _ |>.mp hopen)) hfresh

end Change

/-! ### Contracts that fit their tenders -/

/-- How many periods begin within a duration. -/
def periodCount (duration length : Int) : ℕ := ((duration + length - 1) / length).toNat

/-- None of the periods within a duration was settled under the name. -/
def isUnsettled (state : EconomyWorldState) (contractId : String) (duration length : Int) : Bool :=
  (List.range (periodCount duration length)).all fun period =>
    !state.settledPeriods.contains (numbered contractId (Int.ofNat period))

lemma not_mem_of_isUnsettled {state : EconomyWorldState} {contractId : String}
    {duration length period : Int} (h : isUnsettled state contractId duration length = true)
    (hlength : 0 < length) (hperiod : 0 ≤ period) (hbegins : period * length < duration) :
    numbered contractId period ∉ state.settledPeriods := by
  have hcount : period + 1 ≤ (duration + length - 1) / length := by
    rw [Int.le_ediv_iff_mul_le hlength, Int.add_mul, Int.one_mul]
    omega
  obtain ⟨n, rfl⟩ := Int.eq_ofNat_of_zero_le hperiod
  have hin := List.all_eq_true.mp h n (List.mem_range.mpr (by unfold periodCount; omega))
  rw [Bool.not_eq_true', Bool.eq_false_iff, Ne, List.contains_iff_mem] at hin
  exact hin

/-- When the command makes a contract, there is a tender of its name for the same lot with an exact
period and the same train kilometres, and none of its periods was settled under that name. -/
def agreesWithTender (state : EconomyWorldState) : EconomyCommand → Bool
  | .completeMobilization input =>
    input.operatingTransition.outcome.operatorId == "public" ||
      (state.tenders.get? input.tenderId).all fun current =>
        isUnsettled state input.tenderId
          (current.tender.contractPeriods * current.tender.periodDurationSeconds)
          current.tender.periodDurationSeconds
  | .grantEmergencyStartPackage input =>
    (state.tenders.get? input.contractId).any fun current =>
      current.tender.lotId == input.lotId
        && isSafeInteger current.tender.periodDurationSeconds
        && current.tender.specification.trainKmPerPeriod == input.maximumTrainKmPerPeriod
        && isUnsettled state input.contractId (input.expires - input.time)
          current.tender.periodDurationSeconds
  | _ => true

/-- The command was applied before, or it makes no contract that does not fit its tender. -/
def concludesSettleable : EconomyWorldState → EconomyCommand → Bool := whenNew agreesWithTender

/-- The dates of a tender that was announced. -/
structure Tender.Sound (tender : Tender) : Prop where
  begun : 0 ≤ tender.operatingFrom
  periods : 2 ≤ tender.contractPeriods
  length : 0 < tender.periodDurationSeconds

/-- The contract can be settled by its tender. -/
structure Fits (worldId : String) (tender : Tender) (contract : ServiceContract) : Prop where
  world : contract.worldId = worldId
  lot : tender.lotId = contract.lotId
  begun : 0 ≤ contract.startsAt
  exact : isSafeInteger tender.periodDurationSeconds = true ∨
    tender.periodDurationSeconds ≤ contract.endsAt - contract.startsAt
  limit : ∀ limit, maximumTrainKm limit ∈ contract.evidenceRequired →
    limit = tender.specification.trainKmPerPeriod

/-- The contract fits the tender of its name, and what is noted for its periods was settled. -/
def FitsIn (settled : String → ServiceContract → Int → Prop) (state : EconomyWorldState)
    (contractId : String) (contract : ServiceContract) : Prop :=
  ∃ current, state.tenders.get? contractId = some current ∧
    Fits state.worldId current.tender contract ∧
    ∀ period, 0 ≤ period →
      contract.startsAt + period * current.tender.periodDurationSeconds < contract.endsAt →
        numbered contractId period ∈ state.settledPeriods → settled contractId contract period

/-- The tenders are sound, and the contracts fit them. -/
structure Settling (settled : String → ServiceContract → Int → Prop) (state : EconomyWorldState) :
    Prop where
  tenders : ∀ {tenderId : String} {current : TenderLifecycle},
    state.tenders.get? tenderId = some current → current.tender.Sound
  contracts : ∀ {contractId : String} {contract : ServiceContract},
    state.contracts.get? contractId = some contract → FitsIn settled state contractId contract

section Change

variable {state next : EconomyWorldState} {command : EconomyCommand} {effects : EconomyEffects}
  {settled : String → ServiceContract → Int → Prop}

/-- A tender that was announced is sound. -/
lemma sound_of_createTender {input : TenderAnnouncement} {profile : TenderProfile} {tender : Tender}
    (hprofile : profileOf state input = .ok profile)
    (htender : createTender input.tender profile input.release = .ok tender) : tender.Sound := by
  obtain ⟨⟨-, -, hannounced, hduration⟩, ⟨hopens, hcloses, hfrom⟩, hperiods, hlength⟩ :=
    createTender_eq_ok htender
  have hperiod : 0 ≤ input.tender.announcementPeriod := by
    simp only [profileOf, deterministicProfileOrder, canonicalSubstreamState, bind_eq_ok_iff,
      require_eq_ok, exists_const, Bool.and_eq_true, decide_eq_true_eq] at hprofile
    obtain ⟨_, ⟨_, ⟨-, ⟨⟨-, hperiod⟩, -⟩, -⟩, -⟩, -⟩ := hprofile
    exact hperiod
  have hpositive : 0 ≤ input.tender.announcedAt := by
    rw [hduration] at hlength
    have hne : (input.tender.periodDurationSeconds == 0) = false :=
      beq_eq_false_iff_ne.mpr hlength.ne'
    rw [TenderInput.announcementPeriod, hne, if_neg Bool.false_ne_true,
      Int.fdiv_eq_ediv_of_nonneg _ hlength.le, Int.le_ediv_iff_mul_le hlength, Int.zero_mul]
      at hperiod
    exact hperiod
  exact ⟨by omega, hperiods, hlength⟩

/-- The tenders stay sound. -/
lemma Change.sound (hstate : ∀ {tenderId : String} {current : TenderLifecycle},
      state.tenders.get? tenderId = some current → current.tender.Sound)
    (h : Change state command next effects) {tenderId : String} {current : TenderLifecycle}
    (hcurrent : next.tenders.get? tenderId = some current) : current.tender.Sound := by
  rcases h.tenders with heq | ⟨other, found, bids, phase, hfound, heq⟩ |
    ⟨input, profile, tender, -, hprofile, htender, heq⟩
  · exact hstate (heq ▸ hcurrent)
  · rw [heq, EntryMap.get?_set] at hcurrent
    split at hcurrent
    · cases hcurrent
      have hsound := hstate hfound
      exact hsound
    · exact hstate hcurrent
  · rw [heq, EntryMap.get?_set] at hcurrent
    split at hcurrent
    · cases hcurrent
      exact sound_of_createTender hprofile htender
    · exact hstate hcurrent

/-- A contract that fits goes on to fit. -/
lemma FitsIn.kept {contractId : String} {contract : ServiceContract}
    (hfits : FitsIn settled state contractId contract) (h : Change state command next effects)
    (hworld : next.worldId = state.worldId)
    (hperiods : ∀ period, numbered contractId period ∈ next.settledPeriods →
      numbered contractId period ∈ state.settledPeriods ∨ command.Settles contractId period)
    (hcontract : state.contracts.get? contractId = some contract) :
    FitsIn (settledAfter settled state command) next contractId contract := by
  obtain ⟨current, hcurrent, hfits, hnoted⟩ := hfits
  obtain ⟨current', hcurrent', htender⟩ := h.tender_kept hcurrent
  refine ⟨current', hcurrent', by rw [hworld, htender]; exact hfits,
    fun period h0 hbegins hin => ?_⟩
  rw [htender] at hbegins
  rcases hperiods period hin with hin | hsettles
  · exact .inr (hnoted period h0 hbegins hin)
  · exact .inl ⟨hsettles, hcontract⟩

lemma Settling.kept (hstate : Settling settled state) (h : Change state command next effects)
    (hworld : next.worldId = state.worldId)
    (hperiods : ∀ contractId period, numbered contractId period ∈ next.settledPeriods →
      numbered contractId period ∈ state.settledPeriods ∨ command.Settles contractId period)
    (hcontracts : ∀ {contractId : String} {contract : ServiceContract},
      next.contracts.get? contractId = some contract →
        state.contracts.get? contractId = some contract) :
    Settling (settledAfter settled state command) next where
  tenders := h.sound hstate.tenders
  contracts hfound := (hstate.contracts (hcontracts hfound)).kept h hworld (hperiods _)
    (hcontracts hfound)

/-- A contract that is made has to fit. -/
lemma Settling.conclude (hstate : Settling settled state) (h : Change state command next effects)
    (hworld : next.worldId = state.worldId) (hperiods : next.settledPeriods = state.settledPeriods)
    {contractId : String} {contract : ServiceContract}
    (hcontracts : next.contracts = state.contracts.set contractId contract)
    (hfits : FitsIn (settledAfter settled state command) next contractId contract) :
    Settling (settledAfter settled state command) next where
  tenders := h.sound hstate.tenders
  contracts {other} found hfound := by
    rw [hcontracts, EntryMap.get?_set] at hfound
    split at hfound
    · rename_i heq
      cases hfound
      exact heq ▸ hfits
    · exact (hstate.contracts hfound).kept h hworld (fun period hin => .inl (hperiods ▸ hin)) hfound

lemma toList_maximumTrainKm (limit : Int) : (maximumTrainKm limit).toList
    = "maximum-train-km:".toList ++ (printInteger limit).toList := String.toList_append

lemma maximumTrainKm_notMem (limit : Int) :
    maximumTrainKm limit ∉ ["vehicles", "personnel", "paths"] := by
  have hhead : (maximumTrainKm limit).toList.head? = some 'm' := by
    rw [toList_maximumTrainKm]
    rfl
  intro hin
  have hfirst := List.mem_map_of_mem (f := fun text : String => text.toList.head?) hin
  rw [hhead] at hfirst
  revert hfirst
  decide

lemma maximumTrainKm_inj {limit limit' : Int} (h : maximumTrainKm limit = maximumTrainKm limit') :
    limit = limit' := by
  have hchars := congrArg String.toList h
  simp only [toList_maximumTrainKm, List.append_cancel_left_eq] at hchars
  have hread := congrArg parseInteger (String.toList_inj.mp hchars)
  rw [parseInteger_printInteger, parseInteger_printInteger] at hread
  exact Option.some.inj hread

/-- Every change keeps the contracts fitting if the command does. -/
lemma Change.settling {now : Int} (hstate : Settling settled state)
    (hgiven : Given concludesSettleable now state command) (h : Change state command next effects) :
    Settling (settledAfter settled state command) next := by
  have hsame : ∀ {next : EconomyWorldState}, next.settledPeriods = state.settledPeriods →
      ∀ contractId period, numbered contractId period ∈ next.settledPeriods →
        numbered contractId period ∈ state.settledPeriods ∨ command.Settles contractId period :=
    fun heq _ _ hin => .inl (heq ▸ hin)
  have hchange := h
  cases h with
  | takenOver input current winningBid mobilization hnew hcurrent hwinner hmobilization htime
      hoperator hprivate =>
    have hsound := hstate.tenders hcurrent
    have hends : 2 * current.tender.periodDurationSeconds
        ≤ current.tender.contractPeriods * current.tender.periodDurationSeconds :=
      Int.mul_le_mul_of_nonneg_right hsound.periods hsound.length.le
    have hlength := hsound.length
    rcases hgiven with ⟨hallowed, -⟩ | hgives
    · have hunsettled := of_whenNew hallowed rfl hnew
      rw [agreesWithTender, beq_eq_false_iff_ne.mpr hprivate, Bool.false_or, hcurrent,
        Option.all_some] at hunsettled
      refine hstate.conclude hchange rfl rfl rfl ⟨current, hcurrent, ?_, ?_⟩
      · refine ⟨rfl, rfl, hsound.begun.trans_eq htime.symm, .inr ?_, fun limit hin => ?_⟩
        · change _ ≤ input.time + _ - input.time
          omega
        · exact absurd hin (maximumTrainKm_notMem limit)
      · intro period h0 hbegins hin
        refine absurd hin (not_mem_of_isUnsettled hunsettled hlength h0 ?_)
        change input.time + _ < input.time + _ at hbegins
        omega
    · cases hgives
  | granted input hnew htime hpublic hfresh =>
    rcases hgiven with ⟨hallowed, -⟩ | hgives
    · obtain ⟨current, hcurrent, hagrees⟩ :=
        (Option.any_eq_true _ _).mp (of_whenNew hallowed rfl hnew)
      simp only [Bool.and_eq_true, beq_iff_eq] at hagrees
      obtain ⟨⟨⟨hlot, hsafe⟩, hkm⟩, hunsettled⟩ := hagrees
      refine hstate.conclude hchange rfl rfl rfl ⟨current, hcurrent, ?_, ?_⟩
      · refine ⟨rfl, hlot, htime.1, .inl hsafe, fun limit hin => ?_⟩
        have hin : maximumTrainKm limit ∈ ["vehicles", "personnel", "paths"]
            ++ [maximumTrainKm input.maximumTrainKmPerPeriod] := hin
        rcases List.mem_append.mp hin with hin | hin
        · exact absurd hin (maximumTrainKm_notMem limit)
        · rw [hkm]
          exact maximumTrainKm_inj (List.mem_singleton.mp hin)
      · intro period h0 hbegins hin
        refine absurd hin (not_mem_of_isUnsettled hunsettled (hstate.tenders hcurrent).length h0 ?_)
        change input.time + _ < input.expires at hbegins
        omega
    · cases hgives
  | settled input contract current entry hnew hperiod hfresh hcontract hcurrent hkm hentry =>
    refine hstate.kept hchange rfl (fun contractId period hin => ?_) id
    rcases List.mem_insert_iff.mp hin with heq | hin
    · obtain ⟨rfl, rfl⟩ := numbered_inj heq
      exact .inr ⟨input, rfl, rfl, rfl⟩
    · exact .inl hin
  | escalated =>
    exact hstate.kept hchange sameNotes_withDecision.2.2
      (hsame sameNotes_withDecision.1) contracts_of_withDecision
  | budgeted =>
    refine hstate.kept hchange sameNotes_withBudget.2.2
      (hsame sameNotes_withBudget.1) ?_
    unfold withBudget
    split <;> exact id
  | closed =>
    refine hstate.kept hchange rfl (fun _ _ hin => ?_) fun hfound => ?_
    · cases hin
    · cases hfound
  | _ => exact hstate.kept hchange rfl (hsame rfl) id

end Change

/-! ### Runs -/

section Run

variable {input : EconomyWorldStart} {first state next : EconomyWorldState}
  {begun effects : EconomyEffects} {command : EconomyCommand} {history : List AppliedCommand}
  {time : Int}

lemma change_of_settles {contractId : String} {period : Int}
    (hsettles : command.Settles contractId period)
    (happly : command.apply state = .ok (next, effects)) : Change state command next effects := by
  obtain ⟨settlement, rfl, -, -⟩ := hsettles
  obtain ⟨⟨⟨after, made⟩, profit⟩, hsettled, heq⟩ := map_eq_ok_iff.mp happly
  cases heq
  exact settleContractPeriod_changes hsettled

lemma found_of_settles {settlement : Settlement}
    (happly : (EconomyCommand.settleContractPeriod settlement).apply state = .ok (next, effects)) :
    ∃ contract current, state.contracts.get? settlement.contractId = some contract ∧
      state.tenders.get? settlement.contractId = some current ∧
      settlement.performance.trainKm ≤ current.tender.specification.trainKmPerPeriod := by
  have hchange := change_of_settles ⟨settlement, rfl, rfl, rfl⟩ happly
  cases hchange with
  | settled _ contract current _ _ _ _ hcontract hcurrent hkm =>
    exact ⟨contract, current, hcontract, hcurrent, hkm⟩

lemma settledAfter_eq {settled : String → ServiceContract → Int → Prop}
    (h : ∀ contractId period, ¬ command.Settles contractId period) :
    settledAfter settled state command = settled := by
  funext contractId contract period
  exact propext (or_iff_right fun hboth => h contractId period hboth.1)

/-- What every change keeps of what was settled holds after a run. -/
lemma Run.settled_invariant {allowed : EconomyWorldState → EconomyCommand → Bool}
    {I : (String → ServiceContract → Int → Prop) → EconomyWorldState → Prop}
    (hchange : ∀ settled state command next effects now, I settled state →
      Given allowed now state command → Change state command next effects →
        I (settledAfter settled state command) next)
    (hinitial : ∀ lots calendar, I (SettledIn []) (initialState input lots calendar))
    (hrevision : ∀ settled state revision, I settled state →
      I settled { state with revision := revision })
    (hstart : startEconomyWorld input = .ok (first, begun))
    (h : Run first 0 history state time) (hallowed : AllAllowed allowed history) :
    I (SettledIn history) state := by
  -- what the generator does settles nothing
  have hgenerated : ∀ {settled initial next notices}, I settled initial →
      Generated initial next notices → I settled next := by
    intro settled initial next notices hstate h
    refine h.invariant (I settled) (fun before command after effects hstate hgives h => ?_) hstate
    have hnext := hchange settled before command after effects 0 hstate (.inr hgives) h
    rwa [settledAfter_eq] at hnext
    rintro contractId period ⟨_, rfl, -⟩
    cases hgives
  induction h with
  | start =>
    obtain ⟨lots, calendar, generated, hgiven, rfl, -⟩ := startEconomyWorld_eq_ok hstart
    exact hrevision _ _ 0 (hgenerated (hinitial lots calendar) hgiven)
  | @step history before after _ now command effects hbefore happly hclock _ ih =>
    have hstate := ih fun entry hin => hallowed entry (List.mem_cons_of_mem _ hin)
    have heq : SettledIn (⟨command, now, before, after, effects⟩ :: history)
        = settledAfter (SettledIn history) before command := by
      funext contractId contract period
      exact propext settledIn_cons
    rw [heq]
    cases EconomyCommand.apply_changes happly with
    | repeated commandId hname hold =>
      rw [settledAfter_eq]
      · exact hstate
      · intro contractId period hsettles
        have hnew := (change_of_settles hsettles happly).isNewIn
        rw [isNewIn_of_processed hname hold] at hnew
        cases hnew
    | changed h =>
      exact hchange _ _ _ _ _ now hstate
        (.inl ⟨hallowed _ List.mem_cons_self, clock_eq hclock⟩) h
    | generated time h =>
      rw [settledAfter_eq]
      · exact hgenerated hstate h
      · rintro contractId period ⟨_, heq, -⟩
        cases heq

lemma Run.noted (hstart : startEconomyWorld input = .ok (first, begun))
    (h : Run first 0 history state time) : Noted (SettledIn history) state := by
  have hall : AllAllowed (fun _ _ => true) history := fun _ _ => rfl
  refine h.settled_invariant (I := Noted)
    (fun settled before command after effects now hstate _ hchange => hchange.noted hstate) ?_
    (fun _ _ _ hstate => hstate) hstart hall
  rintro lots calendar contractId contract period ⟨entry, hnone, -⟩
  cases hnone

lemma Run.settling (hstart : startEconomyWorld input = .ok (first, begun))
    (h : Run first 0 history state time) (hallowed : AllAllowed concludesSettleable history) :
    Settling (SettledIn history) state := by
  refine h.settled_invariant
    (fun settled before command after effects now hstate hgiven hchange =>
      hchange.settling hstate hgiven) ?_ ?_ hstart hallowed
  · intro lots calendar
    refine ⟨fun hnone => ?_, fun hnone => ?_⟩
    · cases hnone
    · cases hnone
  · intro settled state revision hstate
    exact ⟨hstate.tenders, hstate.contracts⟩

/-- No period is settled twice in a run. -/
lemma Run.settles_once (hstart : startEconomyWorld input = .ok (first, begun))
    (h : Run first 0 history state time) :
    history.Pairwise fun later earlier => ∀ contractId period,
      later.command.Settles contractId period → ¬ earlier.command.Settles contractId period := by
  induction h with
  | start => exact .nil
  | @step history before after _ now command effects hbefore happly _ _ ih =>
    refine .cons (fun earlier hin contractId period hlater hearlier => ?_) ih
    -- the earlier one has settled the period of some contract
    obtain ⟨_, _, -, -, hentry⟩ := hbefore.of_mem hin
    obtain ⟨earlierInput, heq, hid, hperiod⟩ := hearlier
    rw [heq] at hentry
    obtain ⟨contract, -, hcontract, -, -⟩ := found_of_settles hentry
    obtain ⟨laterInput, rfl, rfl, rfl⟩ := hlater
    have hearlier : SettledIn history laterInput.contractId contract laterInput.period :=
      ⟨earlier, hin, ⟨earlierInput, heq, hid, hperiod⟩, hid ▸ hcontract⟩
    obtain ⟨message, hrefused⟩ := (hbefore.noted hstart).refused hearlier
    obtain ⟨result, hsettled, -⟩ := map_eq_ok_iff.mp happly
    rw [hrefused] at hsettled
    cases hsettled

/-- A contract that fits is settled for a period that has ended and was not settled. -/
lemma FitsIn.settles {settled : String → ServiceContract → Int → Prop} {input : Settlement}
    {contract : ServiceContract} (hfits : FitsIn settled state input.contractId contract)
    (hcontract : state.contracts.get? input.contractId = some contract)
    (hnot : ¬ settled input.contractId contract input.period)
    (hover : PeriodOver state input.contractId contract input.period input.time)
    (horder : input.isInOrder state contract = true)
    (hlimit : ∃ limit, AgreedLimit state input.contractId contract limit ∧
      input.performance.trainKm ≤ limit) :
    ∃ result, settleContractPeriod state input = .ok result := by
  obtain ⟨current, hcurrent, hfits, hnoted⟩ := hfits
  obtain ⟨length, hlength, hsame, hperiod, hbegins, hends⟩ := hover
  obtain rfl := hsame current hcurrent hfits.lot
  have hkm : input.performance.trainKm ≤ current.tender.specification.trainKmPerPeriod := by
    obtain ⟨limit, hagreed, hle⟩ := hlimit
    rcases hagreed with hin | ⟨-, found, hfound, rfl⟩
    · rwa [← hfits.limit limit hin]
    · rw [hcurrent] at hfound
      cases hfound
      exact hle
  simp only [Settlement.isInOrder, Bool.and_eq_true] at horder
  obtain ⟨⟨⟨⟨⟨hnew, hsafe⟩, htime⟩, hcomplete⟩, hamounts⟩, hexact⟩ := horder
  have hexact' : state.release.fareInspection = true →
      isSafeInteger (input.time * 1000) = true := by
    intro hinspection
    rwa [hinspection, Bool.not_true, Bool.false_or] at hexact
  have hproduct := Int.mul_nonneg hperiod hlength.le
  have hbegun := hfits.begun
  have hrun : periodStart contract current.tender input.period
      < periodEnd contract current.tender input.period := by
    unfold periodEnd periodStart
    omega
  have hstart : 0 ≤ periodStart contract current.tender input.period := by
    unfold periodStart
    omega
  have hend : periodEnd contract current.tender input.period ≤ input.time := hends
  obtain ⟨settled, hsettled⟩ : ∃ settled, settleAmounts state input contract current.tender
      = .ok settled := settleAmounts_isOk hcomplete hamounts hstart hrun hend hexact'
  have hbound := htime
  simp only [isSafeInteger, Bool.and_eq_true, decide_eq_true_eq] at hbound
  have hmax : 0 ≤ maxSafeInteger := by decide
  have hexactly : ∀ n, 0 ≤ n → n ≤ input.time → isSafeInteger n = true := by
    intro n h0 hle
    simp only [isSafeInteger, Bool.and_eq_true, decide_eq_true_eq]
    omega
  have hduration : isSafeInteger current.tender.periodDurationSeconds = true := by
    rcases hfits.exact with hsafe | hle
    · exact hsafe
    · exact hexactly _ hlength.le (by omega)
  have hfresh : input.key ∉ state.settledPeriods := fun hin =>
    hnot (hnoted input.period hperiod hbegins hin)
  simp only [settleContractPeriod, bind_eq_ok_iff, require_eq_ok, exists_const, orThrow_eq_ok]
  refine ⟨_, true, requireNewCommand_eq_true.mpr hnew, rfl, ?_, ?_, contract, hcontract, ?_,
    current, hcurrent, ?_, ?_, decide_eq_true hend, decide_eq_true hkm, settled, hsettled, rfl⟩
  · simp only [Bool.and_eq_true, decide_eq_true_eq]
    exact ⟨⟨⟨hsafe, hperiod⟩, htime⟩, by omega⟩
  · rw [Bool.not_eq_true', Bool.eq_false_iff, Ne, List.contains_iff_mem]
    exact hfresh
  · exact beq_iff_eq.mpr hfits.world
  · simp only [Bool.and_eq_true, beq_iff_eq, decide_eq_true_eq]
    exact ⟨⟨hfits.lot, hduration⟩, hlength⟩
  · simp only [Bool.and_eq_true, decide_eq_true_eq]
    exact ⟨⟨hexactly _ hstart (by omega), hexactly _ (by omega) hend⟩, hbegins⟩

/-- **Every period of every contract is settled once after every run whose commands make contracts
only under the names of tenders that fit them.** -/
theorem settled_of_run (hstart : startEconomyWorld input = .ok (first, begun))
    (hrun : Run first 0 history state time)
    (hallowed : AllAllowed concludesSettleable history) : SettledOnce history state := by
  have hstate := hrun.settling hstart hallowed
  refine ⟨hrun.settles_once hstart, ?_, ?_, ?_⟩
  · rintro contractId contract period hsettled settlement rfl rfl
    exact (hrun.noted hstart).refused hsettled
  · intro contract settlement hcontract hnot hover horder hlimit
    exact (hstate.contracts hcontract).settles hcontract hnot hover horder hlimit
  · intro entry hin settlement contract limit heq hcontract hagreed
    obtain ⟨earlier, before, hearlier, hsubset, happly⟩ := hrun.of_mem hin
    have hbefore := hearlier.settling hstart fun entry hin => hallowed entry (hsubset hin)
    rw [heq] at happly
    obtain ⟨current, hcurrent, hfits, -⟩ := hbefore.contracts hcontract
    obtain ⟨-, current', -, hcurrent', hkm⟩ := found_of_settles happly
    rw [hcurrent] at hcurrent'
    cases hcurrent'
    rcases hagreed with hin | ⟨-, found, hfound, rfl⟩
    · rwa [hfits.limit limit hin]
    · rw [hcurrent] at hfound
      cases hfound
      exact hkm

end Run

/-- A first period is settled with everything that has to be shown. -/
def smallSettlement (contractId : String) (time trainKm : Int) : Settlement where
  commandId := "settle-1"
  contractId := contractId
  period := 0
  time := time
  performance := {
    trainKm := trainKm
    minimumSeatsProvided := some 120
    punctualityBasisPoints := 9500
    cancellations := 0
    missingSeats := 0
    missedConnections := 0
    evidence := ["vehicles", "personnel", "paths", maximumTrainKm 1200] }
  costs := []

/-- A start package that has run out cannot be settled. -/
theorem settled_fails : ¬ ∀ (input : EconomyWorldStart) (first : EconomyWorldState)
    (begun : EconomyEffects) (history : List AppliedCommand) (state : EconomyWorldState)
    (time : Int), startEconomyWorld input = .ok (first, begun) → Run first 0 history state time →
      SettledOnce history state := by
  intro hclaim
  have hplayed : (playSmallWorld (fun _ _ => true)
      [.grantEmergencyStartPackage (smallPackage "operator-a" 1000)]).toOption.any (fun result =>
        !result.1.closed && result.1.settledPeriods.isEmpty && !result.1.tenders.has "start-1"
          && (settleContractPeriod result.1 (smallSettlement "start-1" 345600 1000)).toOption.isNone
          && (result.1.contracts.get? "start-1").any fun contract =>
            contract.startsAt == 1000 && contract.endsAt == 345600
              && contract.evidenceRequired.contains (maximumTrainKm 1200)
              && (smallSettlement "start-1" 345600 1000).isInOrder result.1 contract) = true := by
    decide +kernel
  obtain ⟨first, begun, history, state, time, hstart, hrun, -, hcheck⟩ :=
    run_of_playSmallWorld hplayed
  simp only [Bool.and_eq_true, Bool.not_eq_true', List.isEmpty_iff] at hcheck
  obtain ⟨⟨⟨⟨hopen, hnone⟩, hfree⟩, hfails⟩, hcheck⟩ := hcheck
  obtain ⟨contract, hfound, hcheck⟩ := (Option.any_eq_true _ _).mp hcheck
  simp only [Bool.and_eq_true, beq_iff_eq, List.contains_iff_mem] at hcheck
  obtain ⟨⟨⟨hstarts, hends⟩, hlimit⟩, horder⟩ := hcheck
  have hnot : ¬ SettledIn history "start-1" contract 0 := by
    intro hsettled
    have hnoted := hrun.noted hstart _ _ _ hsettled hopen
    rw [hnone] at hnoted
    cases hnoted
  have hover : PeriodOver state "start-1" contract 0 345600 := by
    refine ⟨344600, by decide, fun current hcurrent => ?_, le_rfl, by omega, by omega⟩
    rw [EntryMap.has_eq_false_iff.mp hfree] at hcurrent
    cases hcurrent
  obtain ⟨result, hsettled⟩ := (hclaim _ _ _ _ _ _ hstart hrun).succeeds
    (smallSettlement "start-1" 345600 1000) hfound hnot hover horder
    ⟨1200, .inl hlimit, by decide⟩
  rw [hsettled] at hfails
  cases hfails

/-- A contract that was won is settled for its first period. -/
theorem settled_of_run_won : ∃ (first : EconomyWorldState) (begun : EconomyEffects)
    (history : List AppliedCommand) (state : EconomyWorldState) (time : Int),
    startEconomyWorld smallWorld = .ok (first, begun) ∧ Run first 0 history state time ∧
      state.settledPeriods = ["tender-1:0"] ∧ SettledOnce history state := by
  have hplayed : (playSmallWorld concludesSettleable
      [.announceTender (smallAnnouncement "public"), .openTender "open-1" "tender-1" 100,
       smallSubmission "operator-b", .closeTender smallClosing,
       .completeMobilization (smallCompletion "public" "operator-b" 1),
       .settleContractPeriod (smallSettlement "tender-1" 2160000 100)]).toOption.any
      (fun result => result.1.settledPeriods == ["tender-1:0"]) = true := by
    decide +kernel
  obtain ⟨first, begun, history, state, time, hstart, hrun, hallowed, hcheck⟩ :=
    run_of_playSmallWorld hplayed
  exact ⟨first, begun, history, state, time, hstart, hrun, beq_iff_eq.mp hcheck,
    settled_of_run hstart hrun hallowed⟩

end Zugfolge.Economy
