/-
The state of the economy of a world.
-/
import Zugfolge.Economy.Planning

namespace Zugfolge.Economy

open Foundation

/-! ### Tenders of a world -/

/-- How far a tender has come. -/
inductive TenderPhase where
  | announced
  | opened
  | awarded (winningBid : Bid)
  | failed (publicOperation : PublicOperation) (operationStarted : Option Bool)
  deriving DecidableEq

structure TenderLifecycle where
  tender : Tender
  bids : List Bid
  phase : TenderPhase

/-- Resources of a fleet, and whether they are those of the public entry. -/
structure FleetMobilizationReference where
  fleetRevision : Int
  snapshotHash : String
  formationIds : List String
  personnelDutyIds : List String
  pathReservationIds : List String
  entryFacility : Bool

/-- The winner of a tender prepares to run the lot. -/
structure Mobilization where
  tenderId : String
  winnerOperatorId : String
  deadline : Int
  proof : Option MobilizationProof
  reference : Option FleetMobilizationReference
  completed : Bool

/-- What a worker needs for the deadlines of a tender. -/
structure TenderAutomation where
  authorityId : String
  budgetPeriod : Int
  vehiclePool : List String
  recipientByOperator : EntryMap String String
  failurePenaltyCents : Int

/-! ### The runtime -/

/-- Something the runtime did. -/
structure OperatingRuntimeEvent where
  eventId : String
  worldId : String
  eventType : String
  atS : Int

/-- How a lot goes on. -/
inductive OperatingKind where
  | seamlessContinuation | operatorChange | publicOperation
  deriving DecidableEq

/-- The outcome of a change of operators. -/
structure OperatingTransitionOutcome where
  lotId : String
  previousOperatorId : String
  operatorId : String
  kind : OperatingKind
  seamless : Bool
  penaltyRequired : Bool
  trainRunIds : List String
  livemapMarker : Option String

structure OperatingState where
  worldId : String
  revision : Int

/-- What the runtime says of a change of operators. -/
structure OperatingTransitionResult where
  schemaVersion : String
  state : OperatingState
  stateHash : String
  outcome : OperatingTransitionOutcome
  events : List OperatingRuntimeEvent
  idempotentReplay : Bool

/-- A state of the runtime with its hash. -/
structure OperatingRuntimeSnapshot where
  state : OperatingState
  stateHash : String

/-! ### The world -/

structure EconomyWorldState where
  worldId : String
  closed : Bool
  seed : Int
  profile : WorldProfile
  releasePin : WorldEconomyPin
  release : EconomyRelease
  lots : List Lot
  planning : Option GtfsPlanningEnvelope
  tenderGeneration : Option TenderGenerationPolicy
  calendar : List TenderCalendarEntry
  tenders : EntryMap String TenderLifecycle
  contracts : EntryMap String ServiceContract
  mobilizations : EntryMap String Mobilization
  tenderAutomation : EntryMap String TenderAutomation
  publicOperations : EntryMap String PublicOperation
  budgets : EntryMap String AuthorityBudget
  prequalifications : EntryMap String Prequalification
  insolventOperators : List String
  operatorRestrictions : EntryMap String InsolvencyDecision
  settledPeriods : List String
  processedCommands : List String
  operatingRuntimeByLot : EntryMap String OperatingRuntimeSnapshot
  revision : Int

/-! ### Effects -/

/-- What a notice is about. -/
inductive NoticePayload where
  | calendar (calendar : List TenderCalendarEntry)
  | announcement (tenderId lotId : String) (profile : TenderProfile)
      (viabilityThresholdCentsPerTrainKm : String)
  | award (tenderId : String) (mobilizationDeadline : Int)
  | failedMobilization (tenderId penaltyCents : String) (trainRunIds : List String)
      (livemapMarker : Option String)
  | startPackage (contractId lotId operatorId : String) (maximumTrainKmPerPeriod expiresAtS : Int)
  | insolvency (stage : ℕ) (actions : List String) (channel : EscalationChannel)

structure EconomyNotice where
  id : String
  worldId : String
  recipientAccountId : String
  noticeType : String
  time : Int
  payload : NoticePayload

/-- What a settlement earned in a service interval. -/
structure FareContractRevenueEvidence where
  worldId : String
  operatorId : String
  contractId : String
  journalEffectId : String
  economyReleaseHash : String
  serviceStartMs : Int
  serviceEndMs : Int
  settledAtMs : Int
  orderingFeeCents : String
  bonusCents : String
  penaltyCents : String

/-- An entry for the books of an operator. -/
structure EconomyJournalEntry where
  worldId : String
  operatorId : String
  idempotencyKey : String
  time : Int
  description : String
  postings : List ClassifiedPosting
  revenueCents : Int
  contractRevenueEvidence : Option FareContractRevenueEvidence

/-- What a command has others do. -/
structure EconomyEffects where
  notices : List EconomyNotice
  journal : List EconomyJournalEntry
  runtimeEvents : List OperatingRuntimeEvent

/-- Nothing is to be done. -/
def EconomyEffects.none : EconomyEffects := ⟨[], [], []⟩

/-! ### Commands -/

/-- The state after a command. -/
def withCommand (state : EconomyWorldState) (commandId : String) : EconomyWorldState :=
  { state with
    processedCommands := state.processedCommands.insert commandId
    revision := state.revision + 1 }

/-- Whether a command is new; a closed world takes none. -/
def requireNewCommand (state : EconomyWorldState) (commandId : String) : Outcome Bool :=
  if state.processedCommands.contains commandId then .ok false
  else do
    require (!state.closed) ("Economy-Welt '" ++ state.worldId ++ "' ist fachlich geschlossen.")
    return true

/-- The command is new, and the world is not closed. -/
def EconomyWorldState.accepts (state : EconomyWorldState) (commandId : String) : Bool :=
  !state.processedCommands.contains commandId && !state.closed

variable {commandId : String} {state : EconomyWorldState}

lemma requireNewCommand_eq_true :
    requireNewCommand state commandId = .ok true ↔ state.accepts commandId = true := by
  unfold requireNewCommand EconomyWorldState.accepts
  split
  · rename_i hold
    rw [hold]
    constructor
    · intro h
      cases h
    · intro h
      cases h
  · rename_i hnew
    rw [require_bind_eq_ok, Bool.eq_false_of_not_eq_true hnew, Bool.not_false, Bool.true_and]
    exact and_iff_left rfl

lemma requireNewCommand_eq_false :
    requireNewCommand state commandId = .ok false ↔ commandId ∈ state.processedCommands := by
  unfold requireNewCommand
  split
  · rename_i hold
    exact ⟨fun _ => List.contains_iff_mem.mp hold, fun _ => rfl⟩
  · rename_i hnew
    rw [require_bind_eq_ok]
    constructor
    · rintro ⟨-, h⟩
      cases h
    · exact fun hold => absurd (List.contains_iff_mem.mpr hold) hnew

/-- Does something for a new command; one that was applied before changes nothing. -/
def onceOnly (state : EconomyWorldState) (commandId : String)
    (body : Outcome (EconomyWorldState × EconomyEffects)) :
    Outcome (EconomyWorldState × EconomyEffects) := do
  let isNew ← requireNewCommand state commandId
  if isNew then body else .ok (state, .none)

/-- What a command that ended well has done. -/
lemma onceOnly_eq_ok {body : Outcome (EconomyWorldState × EconomyEffects)}
    {result : EconomyWorldState × EconomyEffects} :
    onceOnly state commandId body = .ok result ↔
      (commandId ∈ state.processedCommands ∧ result = (state, .none)) ∨
        (state.accepts commandId = true ∧ body = .ok result) := by
  unfold onceOnly
  rw [bind_eq_ok_iff]
  constructor
  · rintro ⟨isNew, hnew, h⟩
    cases isNew with
    | false =>
      refine .inl ⟨requireNewCommand_eq_false.mp hnew, ?_⟩
      cases h
      rfl
    | true => exact .inr ⟨requireNewCommand_eq_true.mp hnew, h⟩
  · rintro (⟨hold, rfl⟩ | ⟨hnew, h⟩)
    · exact ⟨false, requireNewCommand_eq_false.mpr hold, rfl⟩
    · exact ⟨true, requireNewCommand_eq_true.mpr hnew, h⟩

/-- The tender of a name. -/
def lifecycle (state : EconomyWorldState) (tenderId : String) : Outcome TenderLifecycle :=
  orThrow (state.tenders.get? tenderId) ("Ausschreibung '" ++ tenderId ++ "' existiert in Welt '"
    ++ state.worldId ++ "' nicht.")

lemma lifecycle_eq_ok {tenderId : String} {current : TenderLifecycle} :
    lifecycle state tenderId = .ok current ↔ state.tenders.get? tenderId = some current :=
  orThrow_eq_ok

end Zugfolge.Economy
