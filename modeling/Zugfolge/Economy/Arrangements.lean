/-
Who runs a lot.

A lot is run under a contract or by the public operator, and at any time by one of them only.  This
is kept as long as no command starts an operation while a contract of the lot runs.

* `arranged_of_run`: what every run of such commands keeps.
-/
import Zugfolge.Economy.Runs

namespace Zugfolge.Economy

open Foundation

/-- Every lot has at most one arrangement: no two contracts of a lot run at one time, and the public
operator runs no lot with a contract that runs. -/
structure Arranged (contracts : EntryMap String ServiceContract)
    (operations : EntryMap String PublicOperation) (now : Int) : Prop where
  apart : ∀ {id id' : String} {contract contract' : ServiceContract},
    contracts.get? id = some contract → contracts.get? id' = some contract' → id ≠ id' →
      contract.lotId = contract'.lotId → ∀ time, ¬ (contract.runsAt time ∧ contract'.runsAt time)
  exclusive : ∀ {id : String} {contract : ServiceContract}, contracts.get? id = some contract →
    operations.has contract.lotId = true → ¬ contract.runsAt now

/-- Besides, every contract has begun, and the runtime knows its lot. -/
structure Arrangements (contracts : EntryMap String ServiceContract)
    (operations : EntryMap String PublicOperation)
    (runtime : EntryMap String OperatingRuntimeSnapshot) (now : Int) : Prop
    extends Arranged contracts operations now where
  begun : ∀ {id : String} {contract : ServiceContract}, contracts.get? id = some contract →
    contract.startsAt ≤ now
  known : ∀ {id : String} {contract : ServiceContract}, contracts.get? id = some contract →
    runtime.has contract.lotId = true

/-! ### What keeps the arrangements -/

section Arrangements

variable {contracts : EntryMap String ServiceContract}
  {operations : EntryMap String PublicOperation}
  {runtime : EntryMap String OperatingRuntimeSnapshot} {time now : Int}

lemma ended_of_not_runsAt {contract : ServiceContract} (hbegun : contract.startsAt ≤ now)
    (h : ¬ contract.runsAt now) : contract.endsAt ≤ now := by
  unfold ServiceContract.runsAt at h
  omega

lemma not_runsAt_of_ended {contract : ServiceContract} (h : contract.endsAt ≤ now) :
    ¬ contract.runsAt now := by
  unfold ServiceContract.runsAt
  omega

namespace Arrangements

lemma empty : Arrangements .empty operations runtime now where
  apart h := by cases h
  exclusive h := by cases h
  begun h := by cases h
  known h := by cases h

lemma later (h : Arrangements contracts operations runtime time) (hlater : time ≤ now) :
    Arrangements contracts operations runtime now where
  apart := h.apart
  exclusive hfound hpublic := by
    have hended := ended_of_not_runsAt (h.begun hfound) (h.exclusive hfound hpublic)
    exact not_runsAt_of_ended (by omega)
  begun hfound := by
    have hbegun := h.begun hfound
    omega
  known := h.known

lemma learn (h : Arrangements contracts operations runtime now) (lotId : String)
    (snapshot : OperatingRuntimeSnapshot) :
    Arrangements contracts operations (runtime.set lotId snapshot) now where
  apart := h.apart
  exclusive := h.exclusive
  begun := h.begun
  known hfound := (EntryMap.has_set _ _ _ _).mpr (.inr (h.known hfound))

lemma setPublic (h : Arrangements contracts operations runtime now) {lotId : String}
    (operation : PublicOperation)
    (hended : ∀ {id : String} {contract : ServiceContract}, contracts.get? id = some contract →
      contract.lotId = lotId → contract.endsAt ≤ now) :
    Arrangements contracts (operations.set lotId operation) runtime now where
  apart := h.apart
  exclusive hfound hpublic := by
    rcases (EntryMap.has_set _ _ _ _).mp hpublic with hlot | hpublic
    · exact not_runsAt_of_ended (hended hfound hlot)
    · exact h.exclusive hfound hpublic
  begun := h.begun
  known := h.known

/-- A contract that starts now takes over a lot whose other contracts have run out. -/
lemma setContract (h : Arrangements contracts operations runtime now) {id : String}
    {contract : ServiceContract} (snapshot : OperatingRuntimeSnapshot)
    (hstarts : contract.startsAt = now)
    (hended : ∀ {other : String} {contract' : ServiceContract},
      contracts.get? other = some contract' → other ≠ id → contract'.lotId = contract.lotId →
        contract'.endsAt ≤ now) :
    Arrangements (contracts.set id contract) (operations.delete contract.lotId)
      (runtime.set contract.lotId snapshot) now := by
  -- a contract is the new one, or was there under another name
  have hcases : ∀ {other : String} {found : ServiceContract},
      (contracts.set id contract).get? other = some found →
        (other = id ∧ found = contract) ∨ (other ≠ id ∧ contracts.get? other = some found) := by
    intro other found hfound
    rw [EntryMap.get?_set] at hfound
    split at hfound
    · rename_i heq
      exact .inl ⟨heq, (Option.some.inj hfound).symm⟩
    · rename_i hne
      exact .inr ⟨hne, hfound⟩
  -- the new one begins when the others of the lot have run out
  have hnew : ∀ {other : String} {found : ServiceContract}, contracts.get? other = some found →
      other ≠ id → found.lotId = contract.lotId →
        ∀ time, ¬ (contract.runsAt time ∧ found.runsAt time) := by
    rintro other found hfound hne hlot time ⟨⟨hstart, -⟩, -, hends⟩
    have := hended hfound hne hlot
    omega
  refine ⟨⟨?_, ?_⟩, ?_, ?_⟩
  · intro one other found found' hfound hfound' hne hlot time
    rcases hcases hfound with ⟨hone, heq⟩ | ⟨hone, hfound⟩
    · rcases hcases hfound' with ⟨hother, -⟩ | ⟨hother, hfound'⟩
      · exact absurd (hone.trans hother.symm) hne
      · rw [heq] at hlot ⊢
        exact hnew hfound' hother hlot.symm time
    · rcases hcases hfound' with ⟨-, heq⟩ | ⟨-, hfound'⟩
      · rw [heq] at hlot ⊢
        exact fun hboth => hnew hfound hone hlot time hboth.symm
      · exact h.apart hfound hfound' hne hlot time
  · intro other found hfound hpublic
    obtain ⟨hlot, hpublic⟩ := EntryMap.has_of_delete hpublic
    rcases hcases hfound with ⟨-, rfl⟩ | ⟨-, hfound⟩
    · exact absurd rfl hlot
    · exact h.exclusive hfound hpublic
  · intro other found hfound
    rcases hcases hfound with ⟨-, rfl⟩ | ⟨-, hfound⟩
    · exact hstarts.le
    · exact h.begun hfound
  · intro other found hfound
    refine (EntryMap.has_set _ _ _ _).mpr ?_
    rcases hcases hfound with ⟨-, rfl⟩ | ⟨-, hfound⟩
    · exact .inl rfl
    · exact .inr (h.known hfound)

end Arrangements

end Arrangements

/-! ### Commands that keep the arrangements -/

/-- All contracts of a lot apart from some have run out. -/
def hasRunOut (state : EconomyWorldState) (lotId : String) (time : Int)
    (except : String × ServiceContract → Bool) : Bool :=
  state.contracts.entries.all fun entry =>
    entry.2.lotId != lotId || entry.2.endsAt ≤ time || except entry

lemma ended_of_hasRunOut {state : EconomyWorldState} {lotId : String} {time : Int}
    {except : String × ServiceContract → Bool} (h : hasRunOut state lotId time except = true)
    {id : String} {contract : ServiceContract} (hfound : state.contracts.get? id = some contract)
    (hlot : contract.lotId = lotId) (hother : except (id, contract) = false) :
    contract.endsAt ≤ time := by
  have hentry := List.all_eq_true.mp h _ (EntryMap.get?_eq_some_iff.mp hfound)
  simpa [hlot, hother] using hentry

/-- When the command starts an operation, the other contracts of the lot have run out. -/
def startsApart (state : EconomyWorldState) : EconomyCommand → Bool
  | .completeMobilization input =>
    (state.tenders.get? input.tenderId).all fun current =>
      hasRunOut state current.tender.lotId input.time fun entry =>
        entry.1 == input.tenderId && input.operatingTransition.outcome.operatorId != "public"
  | .startFailedTenderPublicOperation input =>
    (state.tenders.get? input.tenderId).all fun current =>
      hasRunOut state current.tender.lotId input.time fun _ => false
  | .escalateOperator input =>
    !(evaluateInsolvency input.signals).publicOperatorTakesOver ||
      (contractsOf state input.operatorId).all fun held =>
        hasRunOut state held.2.lotId input.time fun entry =>
          entry.2.operatorId == input.operatorId
  | _ => true

/-- The command was applied before, or the other contracts of the lot have run out when it starts an
operation. -/
def keepsArrangements : EconomyWorldState → EconomyCommand → Bool := whenNew startsApart

def EconomyWorldState.arrangements (state : EconomyWorldState) (now : Int) : Prop :=
  Arrangements state.contracts state.publicOperations state.operatingRuntimeByLot now

/-- An operator loses its contracts, and the public operator takes the lots. -/
lemma Arrangements.withTakeover {state : EconomyWorldState} {now : Int} (h : state.arrangements now)
    {operatorId : String}
    (hended : ∀ held ∈ contractsOf state operatorId,
      hasRunOut state held.2.lotId now (fun entry => entry.2.operatorId == operatorId) = true) :
    (withTakeover state operatorId).arrangements now := by
  have hkept : ∀ {id : String} {contract : ServiceContract},
      (Economy.withTakeover state operatorId).contracts.get? id = some contract →
        state.contracts.get? id = some contract ∧ contract.operatorId ≠ operatorId := by
    intro id contract hfound
    obtain ⟨hfound, hother⟩ := EntryMap.get?_foldl_delete hfound
    refine ⟨hfound, fun hoperator => ?_⟩
    have hin : (id, contract) ∈ contractsOf state operatorId :=
      List.mem_filter.mpr ⟨EntryMap.get?_eq_some_iff.mp hfound, beq_iff_eq.mpr hoperator⟩
    exact hother _ hin rfl
  refine ⟨⟨?_, ?_⟩, fun hfound => h.begun (hkept hfound).1, fun hfound => h.known (hkept hfound).1⟩
  · intro id id' contract contract' hfound hfound'
    exact h.apart (hkept hfound).1 (hkept hfound').1
  · intro id contract hfound hpublic
    obtain ⟨hfound, hother⟩ := hkept hfound
    rcases EntryMap.has_foldl_set hpublic with hpublic | ⟨held, hheld, hlot⟩
    · exact h.exclusive hfound hpublic
    · exact not_runsAt_of_ended (ended_of_hasRunOut (hended held hheld) hfound hlot.symm
        (beq_eq_false_iff_ne.mpr hother))

lemma Arrangements.withDecision {state : EconomyWorldState} {input : Escalation}
    (h : state.arrangements input.time)
    (hended : startsApart state (.escalateOperator input) = true) :
    (withDecision state input (evaluateInsolvency input.signals)).arrangements input.time := by
  have htaken : (withConsequence state input
      (evaluateInsolvency input.signals)).arrangements input.time := by
    unfold withConsequence
    split
    · rename_i htakes
      rw [startsApart, htakes, Bool.not_true, Bool.false_or, List.all_eq_true] at hended
      exact Arrangements.withTakeover h hended
    · exact h
  unfold Economy.withDecision
  split
  · exact htaken
  · exact htaken

/-- Every change keeps the arrangements if the command does. -/
lemma Change.arrangements {state next : EconomyWorldState} {command : EconomyCommand}
    {effects : EconomyEffects} {now : Int} (hstate : state.arrangements now)
    (hgiven : Given keepsArrangements now state command) (h : Change state command next effects) :
    next.arrangements now := by
  cases h with
  | announced | opened | bid => exact hstate
  | unwon input current budget hnew hcurrent hphase hbudget htakes =>
    unfold EconomyWorldState.arrangements withCommand withFailure
    simp only
    split
    · rename_i hstarted
      rw [Bool.and_eq_true, Bool.not_eq_true'] at hstarted
      refine hstate.setPublic _ fun hfound hlot => ?_
      -- the runtime knows no contract of the lot
      have hknown := hstate.known hfound
      rw [hlot, hstarted.2] at hknown
      cases hknown
    · exact hstate
  | won => exact hstate
  | startedPublic input current operation hnew hcurrent hwaiting =>
    rcases hgiven with ⟨hkeeps, htime⟩ | hgives
    · have hended := of_whenNew hkeeps rfl hnew
      rw [startsApart, hcurrent] at hended
      obtain rfl : input.time = now := htime
      refine (hstate.setPublic operation fun hfound hlot => ?_).learn _ _
      exact ended_of_hasRunOut hended hfound hlot rfl
    · cases hgives
  | referenced => exact hstate
  | failedMobilization input current winningBid mobilization hnew hcurrent hwinner hmobilization
      hpublic =>
    rcases hgiven with ⟨hkeeps, htime⟩ | hgives
    · have hended := of_whenNew hkeeps rfl hnew
      rw [startsApart, hcurrent] at hended
      obtain rfl : input.time = now := htime
      refine (hstate.setPublic _ fun hfound hlot => ?_).learn _ _
      exact ended_of_hasRunOut hended hfound hlot (by simp [hpublic])
    · cases hgives
  | takenOver input current winningBid mobilization hnew hcurrent hwinner hmobilization htime
      hoperator hprivate =>
    rcases hgiven with ⟨hkeeps, hnow⟩ | hgives
    · have hended := of_whenNew hkeeps rfl hnew
      rw [startsApart, hcurrent] at hended
      obtain rfl : input.time = now := hnow
      refine hstate.setContract _ rfl fun hfound hother hlot => ?_
      exact ended_of_hasRunOut hended hfound hlot (by simp [hother])
    · cases hgives
  | granted input hnew htime hpublic hfresh =>
    rcases hgiven with ⟨-, hnow⟩ | hgives
    · obtain rfl : input.time = now := hnow
      refine hstate.setContract _ rfl fun hfound _ hlot => ?_
      exact ended_of_not_runsAt (hstate.begun hfound)
        (hstate.exclusive hfound ((congrArg _ hlot).trans hpublic))
    · cases hgives
  | settled => exact hstate
  | escalated input hnew =>
    rcases hgiven with ⟨hkeeps, htime⟩ | hgives
    · obtain rfl : input.time = now := htime
      exact Arrangements.withDecision hstate (of_whenNew hkeeps rfl hnew)
    · cases hgives
  | budgeted =>
    unfold withBudget
    split
    · exact hstate
    · exact hstate
  | seeded => exact hstate
  | closed => exact .empty

variable {input : EconomyWorldStart} {first state : EconomyWorldState} {begun : EconomyEffects}
  {history : List AppliedCommand} {time : Int}

/-- **Every lot has at most one arrangement after every run whose commands start operations only
when the other contracts of the lot have run out.** -/
theorem arranged_of_run (hstart : startEconomyWorld input = .ok (first, begun))
    (hrun : Run first 0 history state time) (hallowed : AllAllowed keepsArrangements history) :
    Arranged state.contracts state.publicOperations time :=
  (hrun.invariant_of_start (I := EconomyWorldState.arrangements) hstart (fun _ _ => .empty)
    (fun _ _ _ h => h) (fun _ _ _ hlater h => h.later hlater)
    (fun _ _ _ _ _ h hgiven hchange => hchange.arrangements h hgiven) hallowed).toArranged

/-- A start package runs out, the lot is tendered to another operator, and then the first one cannot
pay. -/
def insolvencyAfterTender : List EconomyCommand :=
  [.announceTender (smallAnnouncement "operator-a"), .openTender "open-1" "tender-1" 100,
   smallSubmission "operator-b", .grantEmergencyStartPackage (smallPackage "operator-a" 1000),
   .closeTender smallClosing,
   .completeMobilization (smallCompletion "operator-a" "operator-b" 2),
   .escalateOperator (smallEscalation "operator-a" 345700)]

/-- The public operator takes over a lot while the contract of another operator runs. -/
theorem arranged_fails : ¬ ∀ (input : EconomyWorldStart) (first : EconomyWorldState)
    (begun : EconomyEffects) (history : List AppliedCommand) (state : EconomyWorldState)
    (time : Int), startEconomyWorld input = .ok (first, begun) → Run first 0 history state time →
      Arranged state.contracts state.publicOperations time := by
  intro hclaim
  have hplayed : (playSmallWorld (fun _ _ => true) insolvencyAfterTender).toOption.any
      (fun result => (result.1.contracts.get? "tender-1").any fun contract =>
        result.1.publicOperations.has contract.lotId && decide (contract.runsAt result.2))
        = true := by
    decide +kernel
  obtain ⟨first, begun, history, state, time, hstart, hrun, -, hcheck⟩ :=
    run_of_playSmallWorld hplayed
  obtain ⟨contract, hfound, hcheck⟩ := (Option.any_eq_true _ _).mp hcheck
  rw [Bool.and_eq_true, decide_eq_true_eq] at hcheck
  exact (hclaim _ _ _ _ _ _ hstart hrun).exclusive hfound hcheck.1 hcheck.2

/-- The lot passes from a start package to the winner of the tender. -/
theorem arranged_of_run_tendered : ∃ (first : EconomyWorldState) (begun : EconomyEffects)
    (history : List AppliedCommand) (state : EconomyWorldState) (time : Int),
    startEconomyWorld smallWorld = .ok (first, begun) ∧ Run first 0 history state time ∧
      state.contracts.keys = ["start-1", "tender-1"] ∧
      Arranged state.contracts state.publicOperations time := by
  have hplayed : (playSmallWorld keepsArrangements (insolvencyAfterTender.take 6)).toOption.any
      (fun result => result.1.contracts.keys == ["start-1", "tender-1"]) = true := by
    decide +kernel
  obtain ⟨first, begun, history, state, time, hstart, hrun, hallowed, hcheck⟩ :=
    run_of_playSmallWorld hplayed
  exact ⟨first, begun, history, state, time, hstart, hrun, beq_iff_eq.mp hcheck,
    arranged_of_run hstart hrun hallowed⟩

end Zugfolge.Economy
