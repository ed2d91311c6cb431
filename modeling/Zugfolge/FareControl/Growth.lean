/-
What commands leave as it is.

No command takes an event out of the ledger or changes one, and every event that a command adds is
named after the command.
-/
import Zugfolge.FareControl.Balances

namespace Zugfolge.FareControl

open Foundation
open Economy (Outcome printInteger orThrow orThrow_eq_ok)

/-! ### Growth -/

/-- The ledger keeps its events, the new ones are named after the command, and the days stay as they
are. -/
structure Grows (h : Hashing) (command : FareControlCommandV1)
    (state after : FareControlWorldStateV1) : Prop where
  worldId : after.worldId = state.worldId
  operatorId : after.operatorId = state.operatorId
  receipts : after.receipts = state.receipts
  days : after.days = state.days
  kept : ∀ (k : String) (event : FareLedgerEventV1), state.ledgerEvents[k]? = some event →
    after.ledgerEvents[k]? = some event
  origin : ∀ (k : String) (event : FareLedgerEventV1), after.ledgerEvents[k]? = some event →
    (∃ tag ∈ eventTags,
      k = h.event (state.worldId, state.operatorId, command.commandId, event.caseId, tag))
      ∨ state.ledgerEvents[k]? = some event

section

variable {h : Hashing} {state middle after : FareControlWorldStateV1}
  {command : FareControlCommandV1}

lemma Grows.of_same (hworld : after.worldId = state.worldId)
    (hoperator : after.operatorId = state.operatorId) (hreceipts : after.receipts = state.receipts)
    (hdays : after.days = state.days) (hevents : after.ledgerEvents = state.ledgerEvents) :
    Grows h command state after :=
  ⟨hworld, hoperator, hreceipts, hdays, fun _ _ hevent => by rwa [hevents],
    fun _ _ hevent => .inr (by rwa [hevents] at hevent)⟩

lemma Grows.refl (state : FareControlWorldStateV1) : Grows h command state state :=
  .of_same rfl rfl rfl rfl rfl

lemma Grows.trans (hfirst : Grows h command state middle) (hsecond : Grows h command middle after) :
    Grows h command state after where
  worldId := hsecond.worldId.trans hfirst.worldId
  operatorId := hsecond.operatorId.trans hfirst.operatorId
  receipts := hsecond.receipts.trans hfirst.receipts
  days := hsecond.days.trans hfirst.days
  kept k event hevent := hsecond.kept k event (hfirst.kept k event hevent)
  origin k event hevent := by
    rcases hsecond.origin k event hevent with hnew | hold
    · rw [hfirst.worldId, hfirst.operatorId] at hnew
      exact .inl hnew
    · exact hfirst.origin k event hold

lemma Grows.foldlM {σ α : Type} (view : σ → FareControlWorldStateV1) {f : σ → α → Outcome σ}
    (hstep : ∀ (s : σ) (a : α) (s' : σ), f s a = .ok s' → Grows h command (view s) (view s'))
    {as : List α} {first last : σ} (hfold : as.foldlM f first = .ok last) :
    Grows h command (view first) (view last) :=
  foldlM_invariant (P := fun s => Grows h command (view first) (view s))
    (fun s a s' hs hone => hs.trans (hstep s a s' hone)) (.refl _) hfold

lemma Books.grows {case : FareInspectionCaseV1}
    {next : FareControlWorldStateV1 × FareInspectionCaseV1}
    (hbooks : Books h command state case next) : Grows h command state next.1 where
  worldId := by rw [hbooks.frame]
  operatorId := by rw [hbooks.frame]
  receipts := by rw [hbooks.frame]
  days := by rw [hbooks.frame]
  kept := hbooks.kept
  origin k event hevent := by
    rcases hbooks.origin k event hevent with ⟨hcase, -, hname⟩ | hold
    · exact .inl (hcase ▸ hname)
    · exact .inr hold

lemma Posted.grows {caseId : Option String} {release : EconomyReleaseDocument} {added : Account}
    (hposted : Posted h command state after caseId release added) :
    Grows h command state after where
  worldId := by rw [hposted.frame]
  operatorId := by rw [hposted.frame]
  receipts := by rw [hposted.frame]
  days := by rw [hposted.frame]
  kept := hposted.kept
  origin k event hevent := by
    rcases hposted.origin k event hevent with ⟨hcase, -, hname⟩ | hold
    · exact .inl (hcase ▸ hname)
    · exact .inr hold

/-- What only touches a case only adds to the ledger. -/
lemma onCase_grows {caseId : String}
    {change : FareControlWorldStateV1 → FareInspectionCaseV1 →
      Outcome (FareControlWorldStateV1 × FareInspectionCaseV1)}
    (hchange : ∀ (state : FareControlWorldStateV1) (case : FareInspectionCaseV1)
      (next : FareControlWorldStateV1 × FareInspectionCaseV1),
      change state case = .ok next → Grows h command state next.1)
    (hdone : onCase state caseId change = .ok after) : Grows h command state after := by
  unfold onCase at hdone
  simp only [bind_eq_ok_iff, orThrow_eq_ok] at hdone
  obtain ⟨case, -, changed, hchanged, heq⟩ := hdone
  cases heq
  have hgrows := hchange _ _ _ hchanged
  exact ⟨hgrows.worldId, hgrows.operatorId, hgrows.receipts, hgrows.days, hgrows.kept,
    hgrows.origin⟩

lemma openCase_grows {caseId : String} {pin : FareInspectionPinV1}
    (hopen : openCase h state command caseId pin = .ok after) : Grows h command state after := by
  unfold openCase at hopen
  simp only [bind_eq_ok_iff, need_eq_ok, exists_const] at hopen
  obtain ⟨-, -, -, hopen⟩ := hopen
  split at hopen
  · simp only [bind_eq_ok_iff, need_eq_ok, exists_const] at hopen
    cases hopen.2
    exact .refl state
  · simp only [bind_eq_ok_iff, need_eq_ok, exists_const] at hopen
    obtain ⟨-, r, -, deadline, -, heq⟩ := hopen
    cases heq
    exact .of_same rfl rfl rfl rfl rfl

lemma planPolice_grows {holdId train target : String} {caseIds : List String}
    {model : PoliceResponseModelV1}
    (hplan : planPolice h state command holdId train target caseIds model = .ok after) :
    Grows h command state after := by
  unfold planPolice at hplan
  simp only [bind_eq_ok_iff, need_eq_ok, exists_const] at hplan
  obtain ⟨-, -, -, -, -, planned, hplanned, heq⟩ := hplan
  cases heq
  have hgrows : Grows h command state planned.1 := by
    refine Grows.foldlM (fun current => current.1) (fun before caseId next hstep => ?_) hplanned
    unfold planCase at hstep
    simp only [bind_eq_ok_iff, orThrow_eq_ok, need_eq_ok, exists_const] at hstep
    obtain ⟨case, -, -, heq⟩ := hstep
    cases heq
    exact .of_same rfl rfl rfl rfl rfl
  exact hgrows.trans (.of_same rfl rfl rfl rfl rfl)

lemma resolvePolice_grows {evidence : PoliceOperationalEvidenceV1}
    (hresolve : resolvePolice h state command evidence = .ok after) :
    Grows h command state after := by
  unfold resolvePolice at hresolve
  simp only [bind_eq_ok_iff, orThrow_eq_ok, need_eq_ok, exists_const] at hresolve
  obtain ⟨plan, -, -, released, -, -, hresolve⟩ := hresolve
  split at hresolve
  · simp only [bind_eq_ok_iff, need_eq_ok, exists_const] at hresolve
    cases hresolve.2
    exact .refl state
  · simp only [bind_eq_ok_iff] at hresolve
    obtain ⟨-, -, resolved, hresolved, heq⟩ := hresolve
    cases heq
    have hgrows : Grows h command state resolved := by
      refine Grows.foldlM id (fun before outcome next hstep => ?_) hresolved
      unfold resolveCase at hstep
      simp only [bind_eq_ok_iff, orThrow_eq_ok] at hstep
      obtain ⟨case, -, r, -, handling, -, charged, hcost, settled, hsettled, heq⟩ := hstep
      cases heq
      have hboth := (cost_books hcost (by decide)).grows.trans (claimOrClose_books hsettled).grows
      exact ⟨hboth.worldId, hboth.operatorId, hboth.receipts, hboth.days, hboth.kept, hboth.origin⟩
    exact hgrows.trans (.of_same rfl rfl rfl rfl rfl)

lemma postDay_grows {release : EconomyReleaseDocument} {kind : FareLedgerEventKindV1} {delta : Int}
    {postings : List (FareLedgerRoleV1 × Int)} {tag : String}
    (hpost : postDay h state command release kind delta postings tag = .ok after)
    (htag : tag ∈ eventTags) : Grows h command state after := by
  unfold postDay at hpost
  split at hpost
  · exact (posted_of_post hpost htag).grows
  · cases hpost
    exact .refl state

lemma settleDay_grows {start : Int} {evidence : List ConfirmedFareContractRevenueV1}
    {release : EconomyReleaseDocument}
    (hsettle : settleDay h state command start evidence release = .ok after) :
    Grows h command state { after with days := state.days } := by
  unfold settleDay at hsettle
  simp only [bind_eq_ok_iff, need_eq_ok, exists_const] at hsettle
  obtain ⟨r, -, _, -, -, read, -, net, -, cap, -, premium, -, adjustment, -, -, oldPremium, -,
    oldAdjustment, -, withPremium, hpremium, withCap, hcap, revision, -, heq⟩ := hsettle
  cases heq
  have hgrows := (postDay_grows hpremium (by decide)).trans (postDay_grows hcap (by decide))
  exact hgrows.trans (.of_same rfl rfl rfl hgrows.days.symm rfl)

/-- The command settles the day. -/
def FareControlActionV1.settles (start : Int) : FareControlActionV1 → Bool
  | .settleDay day _ _ => day == start
  | _ => false

lemma action_cases (action : FareControlActionV1) :
    (∃ day evidence release, action = .settleDay day evidence release)
      ∨ ∀ day, action.settles day = false := by
  cases action with
  | settleDay day evidence release => exact .inl ⟨day, evidence, release, rfl⟩
  | _ => exact .inr fun _ => rfl

/-- Every command but a settlement only adds to the ledger. -/
lemma act_grows {action : FareControlActionV1} (hact : act h state command action = .ok after)
    (hother : ∀ start, action.settles start = false) : Grows h command state after := by
  unfold act at hact
  cases action with
  | openCase caseId pin => exact openCase_grows hact
  | inspectDocument caseId =>
    refine onCase_grows (fun state case next hchange => ?_) hact
    simp only [bind_eq_ok_iff] at hchange
    obtain ⟨inspected, -, heq⟩ := hchange
    cases heq
    exact .refl state
  | createClaim caseId kind =>
    exact onCase_grows (fun _ _ _ hchange => (createClaim_books hchange).grows) hact
  | closeCase caseId =>
    refine onCase_grows (fun state case next hchange => ?_) hact
    cases hchange
    exact .refl state
  | receiveProof caseId receivedAtMs =>
    exact onCase_grows (fun _ _ _ hchange => (receiveProof_books hchange).grows) hact
  | advanceTime =>
    exact Grows.foldlM id (fun _ _ _ hstep => onCase_grows
      (fun _ _ _ hchange => (advanceCase_books hchange).grows) hstep) hact
  | planPolice holdId train target caseIds model => exact planPolice_grows hact
  | resolvePolice evidence => exact resolvePolice_grows hact
  | settleDay start evidence release =>
    have hsame := hother start
    simp [FareControlActionV1.settles] at hsame

lemma act_adds {action : FareControlActionV1} (hact : act h state command action = .ok after) :
    Grows h command state { after with days := state.days } := by
  rcases action_cases action with ⟨day, evidence, release, rfl⟩ | hother
  · exact settleDay_grows hact
  · have hgrows := act_grows hact hother
    exact hgrows.trans (.of_same rfl rfl rfl hgrows.days.symm rfl)

end

/-! ### Runs -/

section

variable {h : Hashing} {state : FareControlWorldStateV1} {expectedHash : String}
  {command : FareControlCommandV1} {transition : FareControlTransitionV1}

lemma apply_keeps (happly : applyFareControl h state expectedHash command = .ok transition)
    (k : String) (event : FareLedgerEventV1) (hevent : state.ledgerEvents[k]? = some event) :
    transition.state.ledgerEvents[k]? = some event := by
  obtain ⟨-, ⟨receipt, -, hsame⟩ | ⟨-, -, next, revision, receipt, stateHash, hact, hstate, -⟩⟩ :=
    applyFareControl_cases happly
  · rw [hsame]
    exact hevent
  · have hgrows := act_adds hact
    rw [hstate]
    exact hgrows.kept k event hevent

lemma run_keeps {commands : List (String × FareControlCommandV1)}
    {after : FareControlWorldStateV1} (hrun : run h state commands = .ok after) (k : String)
    (event : FareLedgerEventV1) (hevent : state.ledgerEvents[k]? = some event) :
    after.ledgerEvents[k]? = some event := by
  refine foldlM_invariant (P := fun current => current.ledgerEvents[k]? = some event)
    (fun before sent next hbefore hstep => ?_) hevent hrun
  obtain ⟨transition, happly, rfl⟩ := map_eq_ok_iff.mp hstep
  exact apply_keeps happly k event hbefore

/-! ### Commands that are sent again -/

/-- The state knows a command, its receipt and its ledger events. -/
structure Answered (h : Hashing) (command : FareControlCommandV1)
    (transition : FareControlTransitionV1) (state : FareControlWorldStateV1) : Prop where
  checked : restoreFareControl h state state.stateHash = .ok state
  worldId : state.worldId = command.worldId
  operatorId : state.operatorId = command.operatorId
  named : isId command.commandId = true
  receipt : state.receipts[command.commandId]? = some transition.receipt
  commandHash : transition.receipt.commandHash = h.command
    (command.worldId, command.operatorId, command.commandId, command.nowMs, command.action)
  events : transition.receipt.ledgerEventIds.filterMap (fun id => state.ledgerEvents[id]?)
    = transition.ledgerEvents

/-- A command is known once it was carried out. -/
lemma answered_of_apply (happly : applyFareControl h state expectedHash command = .ok transition) :
    Answered h command transition transition.state := by
  have hcases := (applyFareControl_cases happly).2
  unfold applyFareControl at happly
  simp only [bind_eq_ok_iff, need_eq_ok, exists_const, Bool.and_eq_true, beq_iff_eq] at happly
  obtain ⟨restored, hrestore, ⟨⟨hworld, hoperator⟩, hnamed⟩, happly⟩ := happly
  cases restoreFareControl_eq_ok hrestore
  cases hreceipt : state.receipts[command.commandId]? with
  | some receipt =>
    rw [hreceipt] at happly
    simp only [Option.elim_some, bind_eq_ok_iff, need_eq_ok, exists_const, beq_iff_eq] at happly
    obtain ⟨hhash, heq⟩ := happly
    cases heq
    have hhead := (restoreFareControl_iff.mp hrestore).1
    simp only [FareControlWorldStateV1.headIsRight, Bool.and_eq_true, beq_iff_eq] at hhead
    exact ⟨hhead.1.2 ▸ hrestore, hworld.symm, hoperator.symm, hnamed, hreceipt, hhash, rfl⟩
  | none =>
    rw [hreceipt, Option.elim_none] at happly
    unfold applyNew at happly
    simp only [bind_eq_ok_iff, need_eq_ok, exists_const] at happly
    obtain ⟨-, -, next, hact, revision, -, checked, hchecked, heq⟩ := happly
    cases restoreFareControl_eq_ok hchecked
    cases heq
    have hgrows := act_adds hact
    refine ⟨hchecked, hgrows.worldId.trans hworld.symm, hgrows.operatorId.trans hoperator.symm,
      hnamed, (Registry.getElem?_insert ..).trans (if_pos rfl), rfl, ?_⟩
    rw [List.filterMap_map]
    refine (List.filterMap_congr fun event hevent => ?_).trans List.filterMap_some
    obtain ⟨k, hk⟩ := Registry.mem_values.mp (List.mem_filter.mp hevent).1
    obtain rfl := keyed_of_restore hchecked k event hk
    exact hk

/-- A command that is known stays known. -/
lemma Answered.step {other : FareControlCommandV1} {next : FareControlTransitionV1}
    (hknown : Answered h command transition state)
    (happly : applyFareControl h state expectedHash other = .ok next) :
    Answered h command transition next.state := by
  obtain ⟨-, ⟨receipt, -, hsame⟩ | ⟨hnew, -, after, revision, receipt, stateHash, hact, hstate,
    hchecked⟩⟩ := applyFareControl_cases happly
  · rwa [hsame]
  · have hgrows := act_adds hact
    have hne : command.commandId ≠ other.commandId := by
      intro heq
      rw [← heq, hknown.receipt] at hnew
      cases hnew
    refine ⟨hchecked, ?_, ?_, hknown.named, ?_, hknown.commandHash, ?_⟩
    · rw [hstate]
      exact hgrows.worldId.trans hknown.worldId
    · rw [hstate]
      exact hgrows.operatorId.trans hknown.operatorId
    · rw [hstate, Registry.getElem?_insert, if_neg hne]
      exact (congrArg (·[command.commandId]?) hgrows.receipts).trans hknown.receipt
    · rw [← hknown.events]
      refine List.filterMap_congr fun id hid => ?_
      have hcheck := (restoreFareControl_iff.mp hknown.checked).2.2.2.1 _ _ hknown.receipt
      unfold checkReceipt at hcheck
      simp only [bind_eq_ok_iff, need_eq_ok, exists_const, Bool.and_eq_true,
        List.all_eq_true] at hcheck
      obtain ⟨event, hevent⟩ := Registry.contains_iff.mp (hcheck.1.2 id hid)
      rw [hevent]
      exact apply_keeps happly id event hevent

/-- **Commands that are sent again.**  A command that was carried out, sent once more in any state
that follows, gives its receipt and its events again and changes nothing; another command under its
name is refused. -/
theorem answered_again {others : List (String × FareControlCommandV1)}
    {later : FareControlWorldStateV1} {retry : FareControlCommandV1}
    (happly : applyFareControl h state expectedHash command = .ok transition)
    (hothers : run h transition.state others = .ok later)
    (hworld : retry.worldId = command.worldId) (hoperator : retry.operatorId = command.operatorId)
    (hname : retry.commandId = command.commandId) :
    applyFareControl h later later.stateHash retry =
      if h.command (command.worldId, command.operatorId, command.commandId, command.nowMs,
          command.action)
        = h.command (retry.worldId, retry.operatorId, retry.commandId, retry.nowMs, retry.action)
      then .ok ⟨later, transition.receipt, transition.ledgerEvents⟩
      else .error "fare_command_conflict" := by
  have hknown : Answered h command transition later := by
    refine foldlM_invariant (fun before sent after hbefore hstep => ?_) (answered_of_apply happly)
      hothers
    obtain ⟨next, hnext, rfl⟩ := map_eq_ok_iff.mp hstep
    exact hbefore.step hnext
  simp only [applyFareControl, hknown.checked, bind, Except.bind, need, Economy.require, hworld,
    hoperator, hname, hknown.worldId, hknown.operatorId, hknown.named, hknown.receipt,
    hknown.commandHash, hknown.events, beq_self_eq_true, Bool.and_true, if_true, Option.elim_some,
    beq_iff_eq]
  split_ifs <;> rfl

/-- A case is opened, and the same command comes again after a claim was proven. -/
theorem answered_again_opened : ∃ (command : FareControlCommandV1)
    (first later : FareControlWorldStateV1) (transition : FareControlTransitionV1),
    applyFareControl smallHashing first first.stateHash command = .ok transition ∧
      run smallHashing transition.state (paidThenProven.drop 1) = .ok later ∧ later.revision = 4 ∧
      applyFareControl smallHashing later later.stateHash command =
        .ok ⟨later, transition.receipt, transition.ledgerEvents⟩ := by
  have hplayed : (initializeFareControl smallHashing "world" "operator" 0).toOption.any
      (fun first => paidThenProven.head?.any fun sent =>
        (applyFareControl smallHashing first first.stateHash sent.2).toOption.any fun opened =>
          (run smallHashing opened.state (paidThenProven.drop 1)).toOption.any fun later =>
            later.revision == 4) = true := by
    decide +kernel
  obtain ⟨first, -, hplayed⟩ := ok_of_any hplayed
  obtain ⟨sent, -, hplayed⟩ := (Option.any_eq_true _ _).mp hplayed
  obtain ⟨opened, happly, hplayed⟩ := ok_of_any hplayed
  obtain ⟨later, hrun, hcheck⟩ := ok_of_any hplayed
  have hagain := answered_again happly hrun rfl rfl rfl
  exact ⟨sent.2, first, later, opened, happly, hrun, beq_iff_eq.mp hcheck,
    hagain.trans (if_pos rfl)⟩

end

end Zugfolge.FareControl
