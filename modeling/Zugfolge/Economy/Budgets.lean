/-
The budgets of the authorities.

A tender that is closed is charged once to a budget: a tender that was won with the cost of the
contract, another one with the cost of the public operation.

* `budgets_of_run`: every run keeps this, and a tender that could not be closed can be closed later;
* `tender_goesOn`: in every run a tender only goes on, and what it was closed with stays.
-/
import Zugfolge.Economy.Runs

namespace Zugfolge.Economy

open Foundation

/-! ### What was closed -/

/-- What closes a tender. -/
def EconomyCommand.closing : EconomyCommand → Option TenderClosing
  | .closeTender input => some input
  | _ => none

/-- What has closed a tender; a command that was applied before closes nothing. -/
def AppliedCommand.closing (entry : AppliedCommand) : Option TenderClosing :=
  if isNewIn entry.before entry.command then entry.command.closing else none

/-- What closed tenders in a run, the latest one first. -/
def closings (history : List AppliedCommand) : List TenderClosing :=
  history.filterMap AppliedCommand.closing

def TenderPhase.isClosed : TenderPhase → Bool
  | .announced => false
  | .opened => false
  | .awarded _ => true
  | .failed _ _ => true

variable (state : EconomyWorldState)

/-- The tender of a name is closed. -/
def EconomyWorldState.hasClosed (tenderId : String) : Bool :=
  (state.tenders.get? tenderId).any fun current => current.phase.isClosed

/-- What a tender costs: a contract for the bid that has won, or a public operation. -/
def TenderLifecycle.cost (current : TenderLifecycle) : Int :=
  current.phase.winningBid.elim (publicCost state current.tender) (expectedCost current.tender)

/-- What the tender of a name costs. -/
def EconomyWorldState.costOf (tenderId : String) : Int :=
  (state.tenders.get? tenderId).elim 0 (TenderLifecycle.cost state)

/-- The costs of the tenders that were charged to a budget. -/
def chargedTo (closed : List TenderClosing) (key : String) : Int :=
  totalOf ((closed.filter fun input => input.budgetKey == key).map fun input =>
    state.costOf input.tenderId)

/-- What was committed of a budget before the first tenders. -/
def initiallyCommitted (initial : EntryMap String AuthorityBudget) (key : String) : Int :=
  (initial.get? key).elim 0 AuthorityBudget.committedCents

/-- Budgets are kept, and hold the costs of the tenders that were charged to them; every closed
tender was charged once. -/
structure Balanced (initial : EntryMap String AuthorityBudget) (closed : List TenderClosing)
    (state : EconomyWorldState) : Prop where
  kept : ∀ {key : String} {budget : AuthorityBudget}, state.budgets.get? key = some budget →
    budget.isKept = true
  charged : ∀ {key : String} {budget : AuthorityBudget}, state.budgets.get? key = some budget →
    budget.committedCents = initiallyCommitted initial key + chargedTo state closed key
  once : (closed.map TenderClosing.tenderId).Nodup
  closed_iff : ∀ tenderId,
    tenderId ∈ closed.map TenderClosing.tenderId ↔ state.hasClosed tenderId = true
  found : ∀ {key : String},
    (initial.has key = true ∨ ∃ input ∈ closed, input.budgetKey = key) →
      state.budgets.has key = true

/-! ### One change -/

section Change

variable {initial : EntryMap String AuthorityBudget} {closed : List TenderClosing}
  {state next : EconomyWorldState} {command : EconomyCommand} {effects : EconomyEffects}

lemma chargedTo_congr (hcost : ∀ input ∈ closed,
    next.costOf input.tenderId = state.costOf input.tenderId) (key : String) :
    chargedTo next closed key = chargedTo state closed key := by
  unfold chargedTo
  refine congrArg totalOf (List.map_congr_left fun input hinput => ?_)
  exact hcost input (List.mem_filter.mp hinput).1

namespace Balanced

lemma congr (h : Balanced initial closed state) (hbudgets : next.budgets = state.budgets)
    (hclosed : ∀ tenderId, next.hasClosed tenderId = state.hasClosed tenderId)
    (hcost : ∀ tenderId, state.hasClosed tenderId = true →
      next.costOf tenderId = state.costOf tenderId) : Balanced initial closed next where
  kept hfound := h.kept (hbudgets ▸ hfound)
  charged hfound := by
    rw [chargedTo_congr fun input hinput =>
      hcost _ ((h.closed_iff _).mp (List.mem_map_of_mem hinput))]
    exact h.charged (hbudgets ▸ hfound)
  once := h.once
  closed_iff tenderId := by rw [hclosed]; exact h.closed_iff tenderId
  found hkey := hbudgets ▸ h.found hkey

/-- A tender that is not closed changes and is still not closed. -/
lemma set_open (h : Balanced initial closed state) {tenderId : String} {current : TenderLifecycle}
    (hbudgets : next.budgets = state.budgets) (hrelease : next.release = state.release)
    (htenders : next.tenders = state.tenders.set tenderId current)
    (hopen : state.hasClosed tenderId = false) (hstill : current.phase.isClosed = false) :
    Balanced initial closed next := by
  refine h.congr hbudgets (fun other => ?_) fun other hother => ?_
  · unfold EconomyWorldState.hasClosed
    rw [htenders, EntryMap.get?_set]
    split
    · rename_i heq
      rw [heq, Option.any_some, hstill]
      exact hopen.symm
    · rfl
  · have hne : other ≠ tenderId := by
      rintro rfl
      rw [hopen] at hother
      cases hother
    unfold EconomyWorldState.costOf TenderLifecycle.cost publicCost
    rw [htenders, EntryMap.get?_set_ne _ _ hne, hrelease]

/-- The budgets stay balanced when a tender is closed and charged to one that has room for it. -/
lemma balanced_of_closing (h : Balanced initial closed state) {input : TenderClosing}
    {budget : AuthorityBudget}
    {current : TenderLifecycle} {cost : Int} (hrelease : next.release = state.release)
    (hopen : state.hasClosed input.tenderId = false)
    (hbudget : state.budgets.get? input.budgetKey = some budget)
    (htakes : budget.takes cost = true)
    (hbudgets : next.budgets = state.budgets.set input.budgetKey
      { budget with committedCents := budget.committedCents + cost })
    (htenders : next.tenders = state.tenders.set input.tenderId current)
    (hclosed : current.phase.isClosed = true) (hcost : current.cost next = cost) :
    Balanced initial (input :: closed) next := by
  -- the other closed tenders are as they were
  have hother : ∀ other ∈ closed, other.tenderId ≠ input.tenderId := by
    intro other hin heq
    have := (h.closed_iff _).mp (List.mem_map_of_mem hin)
    rw [heq, hopen] at this
    cases this
  have hsame : ∀ other ∈ closed, next.costOf other.tenderId = state.costOf other.tenderId := by
    intro other hin
    unfold EconomyWorldState.costOf TenderLifecycle.cost publicCost
    rw [htenders, EntryMap.get?_set_ne _ _ (hother other hin), hrelease]
  have hown : next.costOf input.tenderId = cost := by
    unfold EconomyWorldState.costOf
    rw [htenders, EntryMap.get?_set_self]
    exact hcost
  have hcharged : ∀ key, chargedTo next (input :: closed) key =
      (if input.budgetKey = key then cost else 0) + chargedTo state closed key := by
    intro key
    rw [← chargedTo_congr hsame key]
    unfold chargedTo
    rw [List.filter_cons]
    by_cases hkey : input.budgetKey = key
    · simp [hkey, hown]
    · simp [hkey]
  have hbudget_of : ∀ {key : String} {found : AuthorityBudget},
      next.budgets.get? key = some found →
        (key = input.budgetKey ∧
          found = { budget with committedCents := budget.committedCents + cost }) ∨
        (key ≠ input.budgetKey ∧ state.budgets.get? key = some found) := by
    intro key found hfound
    rw [hbudgets, EntryMap.get?_set] at hfound
    split at hfound
    · rename_i heq
      exact .inl ⟨heq, (Option.some.inj hfound).symm⟩
    · rename_i hne
      exact .inr ⟨hne, hfound⟩
  refine ⟨?_, ?_, ?_, ?_, ?_⟩
  · intro key found hfound
    rcases hbudget_of hfound with ⟨-, rfl⟩ | ⟨-, hfound⟩
    · exact AuthorityBudget.isKept_of_takes htakes
    · exact h.kept hfound
  · intro key found hfound
    rw [hcharged]
    rcases hbudget_of hfound with ⟨rfl, rfl⟩ | ⟨hne, hfound⟩
    · have := h.charged hbudget
      simp only [if_true]
      omega
    · rw [if_neg (Ne.symm hne), Int.zero_add]
      exact h.charged hfound
  · rw [List.map_cons, List.nodup_cons]
    refine ⟨fun hin => ?_, h.once⟩
    obtain ⟨other, hin, heq⟩ := List.mem_map.mp hin
    exact hother other hin heq
  · intro tenderId
    rw [List.map_cons, List.mem_cons, h.closed_iff]
    unfold EconomyWorldState.hasClosed
    rw [htenders, EntryMap.get?_set]
    split
    · rename_i heq
      simp [heq, hclosed]
    · rename_i hne
      exact or_iff_right hne
  · intro key hkey
    rw [hbudgets, EntryMap.has_set]
    rcases hkey with hinitial | ⟨other, hin, heq⟩
    · exact .inr (h.found (.inl hinitial))
    · rcases List.mem_cons.mp hin with rfl | hin
      · exact .inl heq.symm
      · exact .inr (h.found (.inr ⟨other, hin, heq⟩))

/-- A budget is opened with nothing committed. -/
lemma withBudget (h : Balanced initial closed state) {policy : TenderGenerationPolicy}
    (period : Int) (hpolicy : 0 ≤ policy.authorityBudgetCentsPerPeriod) :
    Balanced initial closed (withBudget state policy period) := by
  unfold Economy.withBudget
  split
  · exact h
  · rename_i hnew
    refine ⟨?_, ?_, h.once, h.closed_iff, fun hkey =>
      (EntryMap.has_set _ _ _ _).mpr (.inr (h.found hkey))⟩
    · intro key found hfound
      rw [EntryMap.get?_set] at hfound
      split at hfound
      · cases hfound
        exact decide_eq_true hpolicy
      · exact h.kept hfound
    · intro key found hfound
      rw [EntryMap.get?_set] at hfound
      split at hfound
      · rename_i heq
        -- nothing was charged to a budget that was not there
        have hinitial : initiallyCommitted initial key = 0 := by
          have hnone : initial.get? key = none := by
            refine EntryMap.has_eq_false_iff.mp (Bool.eq_false_iff.mpr fun hhas => hnew ?_)
            exact heq ▸ h.found (.inl hhas)
          rw [initiallyCommitted, hnone]
          rfl
        have hfree : closed.filter (fun input => input.budgetKey == key) = [] := by
          refine List.filter_eq_nil_iff.mpr fun input hin hkey => hnew ?_
          exact heq ▸ h.found (.inr ⟨input, hin, beq_iff_eq.mp hkey⟩)
        cases hfound
        rw [hinitial, chargedTo, hfree]
        rfl
      · exact h.charged hfound

end Balanced

lemma hasClosed_eq {tenderId : String} {current : TenderLifecycle}
    (hcurrent : state.tenders.get? tenderId = some current) :
    state.hasClosed tenderId = current.phase.isClosed := by
  rw [EconomyWorldState.hasClosed, hcurrent, Option.any_some]

/-- Every change keeps the balance, with what it has closed. -/
lemma Change.balanced (hstate : Balanced initial closed state)
    (h : Change state command next effects) :
    Balanced initial (command.closing.toList ++ closed) next := by
  cases h with
  | announced input profile tender hnew hworld hfresh hprofile htender =>
    refine hstate.set_open rfl rfl rfl ?_ rfl
    rw [EconomyWorldState.hasClosed, id_of_createTender htender, hfresh]
    rfl
  | opened commandId tenderId time current hnew hcurrent hphase =>
    exact hstate.set_open rfl rfl rfl (by rw [hasClosed_eq hcurrent, hphase]; rfl) rfl
  | bid commandId tenderId bid qualification current hnew hcurrent hphase =>
    exact hstate.set_open rfl rfl rfl (by rw [hasClosed_eq hcurrent, hphase]; rfl)
      (by rw [hphase]; rfl)
  | unwon input current budget hnew hcurrent hphase hbudget htakes
  | won input current award winner budget hnew hcurrent hphase haward hwinner hbudget htakes =>
    exact hstate.balanced_of_closing rfl (by rw [hasClosed_eq hcurrent, hphase]; rfl) hbudget
      htakes rfl rfl rfl rfl
  | startedPublic input current operation hnew hcurrent hwaiting =>
    -- the tender was closed, and costs what it did
    have hfailed : current.phase.isClosed = true ∧ current.phase.winningBid = none := by
      cases hphase : current.phase <;> rw [hphase] at hwaiting <;>
        first | exact ⟨rfl, rfl⟩ | cases hwaiting
    refine hstate.congr rfl (fun other => ?_) fun other _ => ?_
    · change (EntryMap.get? (EntryMap.set _ _ _) other).any _ = _
      rw [EntryMap.get?_set]
      split
      · rename_i heq
        rw [heq, hasClosed_eq hcurrent, hfailed.1]
        rfl
      · rfl
    · change (EntryMap.get? (EntryMap.set _ _ _) other).elim 0 _ = _
      rw [EntryMap.get?_set]
      split
      · rename_i heq
        rw [heq, EconomyWorldState.costOf, hcurrent, Option.elim_some, Option.elim_some,
          TenderLifecycle.cost, TenderLifecycle.cost, hfailed.2]
        rfl
      · rfl
  | referenced | failedMobilization | takenOver | granted | settled =>
    exact hstate.congr rfl (fun _ => rfl) fun _ _ => rfl
  | escalated input hnew =>
    have hsame := @sameTenders_withDecision state input
    refine hstate.congr hsame.2.2 (fun other => ?_) fun other _ => ?_
    · exact congrArg (fun tenders => (EntryMap.get? tenders other).any _) hsame.1
    · unfold EconomyWorldState.costOf TenderLifecycle.cost publicCost
      change (EntryMap.get? (withDecision state input _).tenders other).elim 0 _ = _
      rw [hsame.1]
      simp only [withCommand, hsame.2.1]
  | budgeted time policy period hpolicy => exact hstate.withBudget period hpolicy
  | seeded | closed => exact hstate.congr rfl (fun _ => rfl) fun _ _ => rfl

/-- A command keeps the balance, with what it has closed. -/
lemma Applied.balanced (hstate : Balanced initial closed state)
    (h : Applied state command next effects) :
    Balanced initial
      ((if isNewIn state command then command.closing else none).toList ++ closed) next := by
  cases h with
  | repeated commandId hname hold =>
    rw [if_neg (by rw [isNewIn_of_processed hname hold]; exact Bool.false_ne_true)]
    exact hstate
  | changed h =>
    rw [if_pos h.isNewIn]
    exact h.balanced hstate
  | generated time h =>
    change Balanced initial ((if _ then none else none).toList ++ closed) next
    rw [ite_self]
    exact h.invariant (Balanced initial closed) (fun state command next effects hstate hgives h =>
      by cases hgives <;> exact h.balanced hstate) hstate

end Change

/-! ### Runs -/

variable {input : EconomyWorldStart} {first state next : EconomyWorldState} {begun : EconomyEffects}
  {initial : EntryMap String AuthorityBudget} {closed : List TenderClosing}
  {history later : List AppliedCommand} {time now begin : Int}

lemma Run.balanced (hfirst : Balanced initial closed first)
    (h : Run first begin history state time) :
    Balanced initial (closings history ++ closed) state := by
  induction h with
  | start => exact hfirst
  | @step history state next time now command effects hbefore happly _ _ ih =>
    have hnext := (EconomyCommand.apply_changes happly).balanced ih
    rw [closings, List.filterMap_cons]
    cases hclosing : AppliedCommand.closing ⟨command, now, state, next, effects⟩ with
    | none | some closing =>
      rw [AppliedCommand.closing] at hclosing
      rwa [hclosing] at hnext

/-- A world starts balanced if its budgets are kept. -/
lemma balanced_of_start (hstart : startEconomyWorld input = .ok (first, begun))
    (hkept : ∀ budget ∈ input.authorityBudgets, budget.isKept = true) :
    Balanced (initialBudgets input) [] first := by
  obtain ⟨lots, calendar, generated, hgenerated, rfl, -⟩ := startEconomyWorld_eq_ok hstart
  have hinitial : Balanced (initialBudgets input) [] (initialState input lots calendar) := by
    refine ⟨?_, ?_, List.nodup_nil, fun tenderId => by simp [EconomyWorldState.hasClosed,
      initialState], ?_⟩
    · intro key budget hfound
      obtain ⟨found, hin, heq⟩ := List.mem_map.mp (EntryMap.mem_of_get?_ofEntries hfound)
      rw [← (Prod.mk.inj heq).2]
      exact hkept found hin
    · intro key budget hfound
      change (initialBudgets input).get? key = some budget at hfound
      rw [initiallyCommitted, hfound, chargedTo]
      simp
    · rintro key (hhas | ⟨_, hnone, -⟩)
      · exact hhas
      · cases hnone
  have hgenerated' : Balanced (initialBudgets input) [] generated.state :=
    hgenerated.invariant (Balanced (initialBudgets input) [])
      (fun state command next effects hstate hgives h =>
        by cases hgives <;> exact h.balanced hstate) hinitial
  exact hgenerated'.congr rfl (fun _ => rfl) fun _ _ => rfl

/-! ### Tenders that can be closed -/

/-- The state after a command was tried: a command that throws leaves it as it was. -/
def attempt (state : EconomyWorldState) (command : EconomyCommand) : EconomyWorldState :=
  (command.apply state).toOption.elim state Prod.fst

/-- What it costs to close a tender. -/
def TenderLifecycle.dueCost (state : EconomyWorldState) (current : TenderLifecycle) : Int :=
  ((awardTender current.tender current.bids current.tender.closesAt).toOption.bind
    Award.winner).elim (publicCost state current.tender) (expectedCost current.tender)

/-- There is a budget with room for what it costs to close the tender. -/
def hasRoom (state : EconomyWorldState) (input : TenderClosing) (current : TenderLifecycle) :
    Bool :=
  (state.budgets.get? input.budgetKey).any fun budget => budget.takes (current.dueCost state)

/-- An open tender is closed at its time by a new command if there is room in the budget. -/
lemma closeTender_isOk {closing : TenderClosing} {current : TenderLifecycle}
    (hnew : state.accepts closing.commandId = true)
    (hcurrent : state.tenders.get? closing.tenderId = some current)
    (hopen : current.phase = .opened) (htime : closing.time = current.tender.closesAt)
    (hroom : hasRoom state closing current = true) :
    ∃ result, closeTender state closing = .ok result := by
  obtain ⟨budget, hbudget, htakes⟩ := (Option.any_eq_true _ _).mp hroom
  have haward : ∃ award, awardTender current.tender current.bids current.tender.closesAt
      = .ok award := by
    unfold awardTender
    exact ⟨_, require_bind_eq_ok.mpr ⟨decide_eq_true le_rfl, rfl⟩⟩
  obtain ⟨award, haward⟩ := haward
  have hclosed : ∃ result, award.winner.elim (closeUnwon state closing current)
      (closeWon state closing current) = .ok result := by
    rw [TenderLifecycle.dueCost, haward] at htakes
    cases hwinner : award.winner with
    | none =>
      simp only [Except.toOption, Option.bind_some, hwinner, Option.elim_none] at htakes
      simp only [Option.elim_none, closeUnwon, bind_eq_ok_iff, orThrow_eq_ok,
        commitAuthorityBudget_eq_ok]
      exact ⟨_, budget, hbudget, _, ⟨htakes, rfl⟩, rfl⟩
    | some winner =>
      simp only [Except.toOption, Option.bind_some, hwinner, Option.elim_some] at htakes
      simp only [Option.elim_some, closeWon, bind_eq_ok_iff, orThrow_eq_ok,
        commitAuthorityBudget_eq_ok]
      exact ⟨_, budget, hbudget, _, ⟨htakes, rfl⟩, rfl⟩
  obtain ⟨result, hresult⟩ := hclosed
  refine ⟨result, onceOnly_eq_ok.mpr (.inr ⟨hnew, ?_⟩)⟩
  simp only [bind_eq_ok_iff, require_eq_ok, exists_const, lifecycle_eq_ok]
  refine ⟨current, hcurrent, ?_, award, htime ▸ haward, hresult⟩
  rw [hopen, htime, beq_self_eq_true, beq_self_eq_true, Bool.and_true]

/-- A change leaves an open tender open, or closes it. -/
lemma Change.hasOpen {command : EconomyCommand} {effects : EconomyEffects} {tenderId : String}
    {current : TenderLifecycle} (hcurrent : state.tenders.get? tenderId = some current)
    (hopen : current.phase = .opened) (h : Change state command next effects) :
    (∃ closing, command.closing = some closing ∧ closing.tenderId = tenderId) ∨
      ∃ current', next.tenders.get? tenderId = some current' ∧ current'.phase = .opened ∧
        current'.tender = current.tender := by
  -- a tender that is set in a state in which it was not open is another one
  have hset : ∀ {other : String} {changed : TenderLifecycle},
      next.tenders = state.tenders.set other changed → other ≠ tenderId →
        ∃ current', next.tenders.get? tenderId = some current' ∧ current'.phase = .opened ∧
          current'.tender = current.tender := by
    intro other changed htenders hne
    exact ⟨current, by rw [htenders, EntryMap.get?_set_ne _ _ (Ne.symm hne), hcurrent], hopen, rfl⟩
  have hother : ∀ {other : String} {found : TenderLifecycle},
      state.tenders.get? other = some found → found.phase ≠ .opened → other ≠ tenderId := by
    rintro other found hfound hphase rfl
    rw [hcurrent] at hfound
    exact hphase (Option.some.inj hfound ▸ hopen)
  cases h with
  | announced input profile tender hnew hworld hfresh hprofile htender =>
    refine .inr (hset rfl ?_)
    rintro rfl
    rw [id_of_createTender htender, hfresh] at hcurrent
    cases hcurrent
  | opened commandId other time found hnew hfound hphase =>
    exact .inr (hset rfl (hother hfound (by rw [hphase]; exact nofun)))
  | bid commandId other bid qualification found hnew hfound hphase =>
    by_cases heq : other = tenderId
    · subst heq
      rw [hcurrent] at hfound
      cases hfound
      exact .inr ⟨_, EntryMap.get?_set_self _ _ _, hopen, rfl⟩
    · exact .inr (hset rfl heq)
  | unwon input found budget hnew hfound | won input found award winner budget hnew hfound =>
    by_cases heq : input.tenderId = tenderId
    · exact .inl ⟨input, rfl, heq⟩
    · exact .inr (hset rfl heq)
  | startedPublic input found operation hnew hfound hwaiting =>
    refine .inr (hset rfl (hother hfound ?_))
    intro hphase
    rw [hphase] at hwaiting
    cases hwaiting
  | escalated =>
    exact .inr ⟨current, (congrArg (EntryMap.get? · tenderId)
      sameTenders_withDecision.1).trans hcurrent, hopen, rfl⟩
  | budgeted time policy period =>
    have hsame : (withBudget state policy period).tenders = state.tenders := by
      unfold withBudget
      split <;> rfl
    exact .inr ⟨current, by rw [hsame, hcurrent], hopen, rfl⟩
  | _ => exact .inr ⟨current, hcurrent, hopen, rfl⟩

/-- A tender that is open stays so until it is closed. -/
lemma Run.hasOpen {tenderId : String} {current : TenderLifecycle}
    (hcurrent : state.tenders.get? tenderId = some current) (hopen : current.phase = .opened)
    (h : Run state time later next now)
    (hnot : tenderId ∉ (closings later).map TenderClosing.tenderId) :
    ∃ current', next.tenders.get? tenderId = some current' ∧ current'.phase = .opened ∧
      current'.tender = current.tender := by
  induction h with
  | start => exact ⟨current, hcurrent, hopen, rfl⟩
  | @step history before after earlier now command effects _ happly _ _ ih =>
    have hmem : ∀ closing, AppliedCommand.closing ⟨command, now, before, after, effects⟩
        = some closing → closing.tenderId ≠ tenderId := by
      rintro closing hclosing rfl
      exact hnot (List.mem_map.mpr ⟨closing,
        List.mem_filterMap.mpr ⟨_, List.mem_cons_self, hclosing⟩, rfl⟩)
    obtain ⟨current', hfound, hphase, htender⟩ := ih fun hin => by
      obtain ⟨closing, hclosing, heq⟩ := List.mem_map.mp hin
      obtain ⟨entry, hentry, hclosing⟩ := List.mem_filterMap.mp hclosing
      exact hnot (List.mem_map.mpr ⟨closing, List.mem_filterMap.mpr
        ⟨entry, List.mem_cons_of_mem _ hentry, hclosing⟩, heq⟩)
    cases EconomyCommand.apply_changes happly with
    | repeated => exact ⟨current', hfound, hphase, htender⟩
    | changed hchange =>
      rcases hchange.hasOpen hfound hphase with ⟨closing, hclosing, heq⟩ |
        ⟨current'', hfound', hphase', htender'⟩
      · refine absurd heq (hmem closing ?_)
        rw [AppliedCommand.closing, if_pos hchange.isNewIn]
        exact hclosing
      · exact ⟨current'', hfound', hphase', htender'.trans htender⟩
    | generated time hgenerated =>
      refine hgenerated.invariant (fun state => ∃ current', state.tenders.get? tenderId
        = some current' ∧ current'.phase = .opened ∧ current'.tender = current.tender) ?_
        ⟨current', hfound, hphase, htender⟩
      rintro state command after effects ⟨found, hfound, hphase, htender⟩ hgives hchange
      rcases hchange.hasOpen hfound hphase with ⟨closing, hclosing, -⟩ |
        ⟨found', hfound', hphase', htender'⟩
      · cases hgives <;> cases hclosing
      · exact ⟨found', hfound', hphase', htender'.trans htender⟩

/-- The tender can be closed: it is open, and a new command closes it at its time if there is room
in the budget. -/
def Closable (state : EconomyWorldState) (tender : Tender) (tenderId : String) : Prop :=
  ∃ current, state.tenders.get? tenderId = some current ∧ current.phase = .opened ∧
    current.tender = tender ∧ ∀ retry : TenderClosing, retry.tenderId = tenderId →
      retry.time = tender.closesAt → state.accepts retry.commandId = true →
        hasRoom state retry current = true → ∃ result, closeTender state retry = .ok result

/-- **Budgets are kept and hold the costs of the tenders that were charged to them, each once, after
every run; a closing that throws leaves the state as it was, and its tender can be closed
later.** -/
theorem budgets_of_run (hstart : startEconomyWorld input = .ok (first, begun))
    (hkept : ∀ budget ∈ input.authorityBudgets, budget.isKept = true)
    (hrun : Run first 0 history state time) :
    (∀ key budget, state.budgets.get? key = some budget →
      budget.committedCents ≤ budget.availableCents ∧
      budget.committedCents = initiallyCommitted (initialBudgets input) key
        + chargedTo state (closings history) key) ∧
    ((closings history).map TenderClosing.tenderId).Nodup ∧
    (∀ tenderId, tenderId ∈ (closings history).map TenderClosing.tenderId ↔
      state.hasClosed tenderId = true) ∧
    ∀ closing message, closeTender state closing = .error message →
      attempt state (.closeTender closing) = state ∧
      ∀ current, state.tenders.get? closing.tenderId = some current → current.phase = .opened →
        ∀ later next now, Run state time later next now →
          closing.tenderId ∉ (closings later).map TenderClosing.tenderId →
            Closable next current.tender closing.tenderId := by
  have hbalanced := hrun.balanced (balanced_of_start hstart hkept)
  rw [List.append_nil] at hbalanced
  refine ⟨fun key budget hfound => ⟨of_decide_eq_true (hbalanced.kept hfound),
    hbalanced.charged hfound⟩, hbalanced.once, hbalanced.closed_iff, ?_⟩
  intro closing message herror
  refine ⟨?_, fun current hcurrent hopen later next now hlater hnot => ?_⟩
  · rw [attempt, EconomyCommand.apply, herror]
    rfl
  · obtain ⟨current', hfound, hphase, htender⟩ := hlater.hasOpen hcurrent hopen hnot
    refine ⟨current', hfound, hphase, htender, fun retry hid htime hnew hroom => ?_⟩
    exact closeTender_isOk hnew (hid ▸ hfound) hphase (htime.trans (htender ▸ rfl)) hroom

/-- A tender is charged to the budget. -/
theorem budgets_of_run_won : ∃ (first : EconomyWorldState) (begun : EconomyEffects)
    (history : List AppliedCommand) (state : EconomyWorldState) (time : Int),
    startEconomyWorld smallWorld = .ok (first, begun) ∧ Run first 0 history state time ∧
      state.hasClosed "tender-1" = true ∧
      ∀ key budget, state.budgets.get? key = some budget →
        budget.committedCents ≤ budget.availableCents ∧
        budget.committedCents = initiallyCommitted (initialBudgets smallWorld) key
          + chargedTo state (closings history) key := by
  have hplayed : (playSmallWorld (fun _ _ => true)
      [.announceTender (smallAnnouncement "public"), .openTender "open-1" "tender-1" 100,
       smallSubmission "operator-b", .closeTender smallClosing]).toOption.any
      (fun result => result.1.hasClosed "tender-1") = true := by
    decide +kernel
  obtain ⟨first, begun, history, state, time, hstart, hrun, -, hcheck⟩ :=
    run_of_playSmallWorld hplayed
  exact ⟨first, begun, history, state, time, hstart, hrun, hcheck,
    (budgets_of_run hstart (by decide) hrun).1⟩

/-! ### The course of a tender -/

/-- A tender has gone on: it is the one that was announced, it is not announced again, it keeps its
bids, and once it is closed no bid comes in and its winner stays. -/
structure TenderLifecycle.GoesOn (before after : TenderLifecycle) : Prop where
  tender : after.tender = before.tender
  opened : after.phase = .announced → before.phase = .announced
  bids : before.bids <+: after.bids
  closed : before.phase.isClosed = true → after.phase.isClosed = true ∧
    after.bids = before.bids ∧ after.phase.winningBid = before.phase.winningBid

variable {tenderId : String} {before middle after : TenderLifecycle}

lemma TenderLifecycle.GoesOn.refl (before : TenderLifecycle) : before.GoesOn before :=
  ⟨rfl, id, List.prefix_rfl, fun hclosed => ⟨hclosed, rfl, rfl⟩⟩

lemma TenderLifecycle.GoesOn.trans (h : before.GoesOn middle) (h' : middle.GoesOn after) :
    before.GoesOn after where
  tender := h'.tender.trans h.tender
  opened := h.opened ∘ h'.opened
  bids := h.bids.trans h'.bids
  closed hclosed := by
    obtain ⟨hmiddle, hbids, hwinner⟩ := h.closed hclosed
    obtain ⟨hafter, hbids', hwinner'⟩ := h'.closed hmiddle
    exact ⟨hafter, hbids'.trans hbids, hwinner'.trans hwinner⟩

/-- A change lets every tender go on. -/
lemma Change.goesOn {command : EconomyCommand} {effects : EconomyEffects}
    (h : Change state command next effects) (hbefore : state.tenders.get? tenderId = some before) :
    ∃ after, next.tenders.get? tenderId = some after ∧ before.GoesOn after := by
  have hset : ∀ {other : String} {current after : TenderLifecycle},
      state.tenders.get? other = some current → current.GoesOn after →
        ∃ later, (state.tenders.set other after).get? tenderId = some later ∧
          before.GoesOn later := by
    intro other current after hcurrent hgoes
    rw [EntryMap.get?_set]
    split
    · rename_i heq
      rw [← heq, hbefore] at hcurrent
      cases hcurrent
      exact ⟨after, rfl, hgoes⟩
    · exact ⟨before, hbefore, .refl before⟩
  cases h with
  | announced input profile tender hnew hworld hfresh hprofile htender =>
    refine ⟨before, (EntryMap.get?_set_ne _ _ ?_).trans hbefore, .refl before⟩
    rw [id_of_createTender htender]
    rintro rfl
    rw [hfresh] at hbefore
    cases hbefore
  | opened commandId other time current hnew hcurrent hphase =>
    exact hset hcurrent ⟨rfl, by simp, List.prefix_rfl, by simp [hphase, TenderPhase.isClosed]⟩
  | bid commandId other bid qualification current hnew hcurrent hphase =>
    exact hset hcurrent ⟨rfl, id, List.prefix_append .., by simp [hphase, TenderPhase.isClosed]⟩
  | unwon input current budget hnew hcurrent hphase
  | won input current award winner budget hnew hcurrent hphase =>
    exact hset hcurrent ⟨rfl, by simp, List.prefix_rfl, by simp [hphase, TenderPhase.isClosed]⟩
  | startedPublic input current operation hnew hcurrent hwaiting =>
    refine hset hcurrent ⟨rfl, by simp, List.prefix_rfl, fun _ => ⟨rfl, rfl, ?_⟩⟩
    cases hphase : current.phase <;> rw [hphase] at hwaiting <;> first | rfl | cases hwaiting
  | escalated input =>
    exact ⟨before, (congrArg (EntryMap.get? · tenderId) sameTenders_withDecision.1).trans hbefore,
      .refl before⟩
  | budgeted time policy period =>
    refine ⟨before, ?_, .refl before⟩
    unfold withBudget
    split <;> exact hbefore
  | _ => exact ⟨before, hbefore, .refl before⟩

/-- **The course of a tender.**  Every run, from any state on, lets every tender go on. -/
theorem tender_goesOn {begin : Int} (hrun : Run first begin history state time)
    (hbefore : first.tenders.get? tenderId = some before) :
    ∃ after, state.tenders.get? tenderId = some after ∧ before.GoesOn after := by
  refine hrun.invariant (I := fun state _ => ∃ after, state.tenders.get? tenderId = some after ∧
    before.GoesOn after) (fun _ _ _ _ => id) ?_ ⟨before, hbefore, .refl before⟩
    (show AllAllowed (fun _ _ => true) history from fun _ _ => rfl)
  rintro state command next effects now ⟨middle, hmiddle, hgoes⟩ - hchange
  obtain ⟨after, hafter, hgoes'⟩ := hchange.goesOn hmiddle
  exact ⟨after, hafter, hgoes.trans hgoes'⟩

/-- A tender that is announced goes on until it is won. -/
theorem tender_goesOn_won : ∃ (first state : EconomyWorldState) (begin time : Int)
    (history : List AppliedCommand) (before : TenderLifecycle),
    Run first begin history state time ∧ first.tenders.get? "tender-1" = some before ∧
      state.hasClosed "tender-1" = true ∧
      ∃ after, state.tenders.get? "tender-1" = some after ∧ before.GoesOn after := by
  have hplayed : (playSmallWorld (fun _ _ => true)
      [.announceTender (smallAnnouncement "public")]).toOption.any
      (fun first => (first.1.tenders.get? "tender-1").isSome &&
        (play (fun _ _ => true) [.openTender "open-1" "tender-1" 100,
          smallSubmission "operator-b", .closeTender smallClosing] first.1 first.2).toOption.any
          fun last => last.1.hasClosed "tender-1") = true := by
    decide +kernel
  obtain ⟨first, -, hplayed⟩ := ok_of_any hplayed
  obtain ⟨hbefore, hplayed⟩ := (Bool.and_eq_true ..).mp hplayed
  obtain ⟨before, hbefore⟩ := Option.isSome_iff_exists.mp hbefore
  obtain ⟨last, history, hrun, -, hclosed⟩ := run_of_play_any hplayed
  exact ⟨first.1, last.1, first.2, last.2, history, before, hrun, hbefore, hclosed,
    tender_goesOn hrun hbefore⟩

end Zugfolge.Economy
