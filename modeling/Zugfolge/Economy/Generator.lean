/-
The start of a world and the tenders that are due.

The generator goes through the calendar.  For a lot that is due it opens a budget, announces the
next tender and opens it.
-/
import Zugfolge.Economy.Operation

namespace Zugfolge.Economy

open Foundation

/-! ### When a lot is due -/

/-- The tender of a lot that is operated from the latest time on. -/
def latestTender (tenders : List TenderLifecycle) (lotId : String) : Option TenderLifecycle :=
  (tenders.filter fun candidate => candidate.tender.lotId == lotId).foldl (fun previous candidate =>
    if previous.all fun previous =>
        previous.tender.operatingFrom < candidate.tender.operatingFrom
    then some candidate else previous) none

/-- The lot is not yet operated as the tender decides. -/
def TenderPhase.isPending (mobilization : Option Mobilization) : TenderPhase → Bool
  | .announced => true
  | .opened => true
  | .awarded _ => !mobilization.any Mobilization.completed
  | .failed _ operationStarted => operationStarted == some false

variable (state : EconomyWorldState)

/-- The lot is not yet operated as its tender decides. -/
def isPending (previous : TenderLifecycle) : Bool :=
  previous.phase.isPending (state.mobilizations.get? previous.tender.id)

/-- How long a period of a world is. -/
def WorldProfile.periodSeconds (profile : WorldProfile) : Int := profile.periodWeeks * 7 * 86400

/-- A time in periods, if it is a whole number of them. -/
def wholePeriods (profile : WorldProfile) (time : Int) : Option Int :=
  if time % profile.periodSeconds == 0 then some (time / profile.periodSeconds) else none

/-- The period in which the next tender of a lot is announced. -/
def nextAnnouncement (entry : TenderCalendarEntry)
    (previous : Option TenderLifecycle) : Option Int :=
  previous.elim (some entry.announcementPeriod) fun previous =>
    (state.contracts.get? previous.tender.id).elim
      ((wholePeriods state.profile previous.tender.operatingFrom).map fun period =>
        period + failedOperationRetenderPeriods - state.profile.tenderLeadPeriods)
      fun contract => (wholePeriods state.profile contract.endsAt).map fun period =>
        period - state.profile.tenderLeadPeriods

/-- How many periods a contract runs that starts in a period. -/
def contractPeriodsFrom (profile : WorldProfile) (operatingPeriod : Int) : Int :=
  profile.totalPeriods.elim profile.contractPeriods fun total =>
    min profile.contractPeriods (total - operatingPeriod)

/-! ### The next tender of a lot -/

/-- The name of a tender that was generated. -/
def generatedTenderId (lotId : String) (operatingPeriod : Int) : String :=
  numbered ("tender:" ++ lotId) operatingPeriod

/-- The vehicles for a public operation of the lot. -/
def generatedVehiclePool (lotId : String) (previous : Option TenderLifecycle) : List String :=
  (state.publicOperations.get? lotId).elim
    ((previous.bind fun previous => state.tenderAutomation.get? previous.tender.id).elim []
      TenderAutomation.vehiclePool)
    PublicOperation.vehiclePool

/-- The operator of the lot before a time. -/
def incumbentOf (lotId : String) (operatingFrom : Int) : String :=
  if state.publicOperations.has lotId then "public"
  else
    let running := state.contracts.values.filter fun contract =>
      contract.lotId == lotId && operatingFrom ≤ contract.endsAt
    let latest := running.insertionSort fun left right => right.endsAt ≤ left.endsAt
    latest.head?.elim "public" ServiceContract.operatorId

/-- The state with a budget for a period. -/
def withBudget (policy : TenderGenerationPolicy) (period : Int) :
    EconomyWorldState :=
  if state.budgets.has (numbered policy.authorityId period) then state
  else { state with
    budgets := state.budgets.set (numbered policy.authorityId period) {
      authorityId := policy.authorityId
      period := period
      availableCents := policy.authorityBudgetCentsPerPeriod
      committedCents := 0 } }

/-- What is announced for a lot. -/
def generatedAnnouncement (policy : TenderGenerationPolicy)
    (lotId : String) (previous : Option TenderLifecycle) (announcementPeriod : Int)
    (planned : PlannedService) : TenderAnnouncement :=
  let operatingPeriod := announcementPeriod + state.profile.tenderLeadPeriods
  let announcedAt := announcementPeriod * state.profile.periodSeconds
  let operatingFrom := operatingPeriod * state.profile.periodSeconds
  let tenderId := generatedTenderId lotId operatingPeriod
  { commandId := "scheduler:" ++ tenderId ++ ":announce"
    release := state.release
    recipients := state.prequalifications.keys.insertionSort fun a b => (compare a b).isLE = true
    tender := {
      id := tenderId
      worldId := state.worldId
      lotId := lotId
      incumbentOperatorId := incumbentOf state lotId operatingFrom
      specification := planned.specification
      planningEvidence := some planned.evidence
      announcedAt := announcedAt
      opensAt := announcedAt
      closesAt := announcedAt + (if planned.lot.smallLot then smallLotBidWindowSeconds
        else regularLotBidWindowSeconds)
      operatingFrom := operatingFrom
      contractPeriods := contractPeriodsFrom state.profile operatingPeriod
      periodDurationSeconds := state.profile.periodSeconds
      smallLot := planned.lot.smallLot }
    automation := some {
      authorityId := policy.authorityId
      budgetPeriod := announcementPeriod
      vehiclePool := generatedVehiclePool state lotId previous
      recipientByOperator := .empty
      failurePenaltyCents := policy.failurePenaltyCents } }

/-- What was generated so far. -/
structure Generation where
  state : EconomyWorldState
  notices : List EconomyNotice
  transitions : ℕ

/-- The next tender of a lot: its budget is opened, then it is announced and opened. -/
def generateTender (policy : TenderGenerationPolicy) (planning : GtfsPlanningEnvelope)
    (lotId : String) (previous : Option TenderLifecycle) (announcementPeriod : Int)
    (generated : Generation) : Outcome Generation := do
  let state := generated.state
  let specifications ← deriveGtfsServiceSpecifications planning state.worldId
    state.profile.periodSeconds
  let planned ← orThrow (specifications.get? lotId)
    "Vergabekalender verweist auf ein Los ausserhalb des Angebotsplans."
  let input := generatedAnnouncement state policy lotId previous announcementPeriod planned
  let announced ← announceTender (withBudget state policy announcementPeriod) input
  let opened ← openTender announced.1
    (numbered ("scheduler:" ++ input.tender.id ++ ":open") input.tender.announcedAt)
    input.tender.id input.tender.announcedAt
  return {
    state := opened.1
    notices := generated.notices ++ announced.2.notices
    transitions := generated.transitions + 2 }

/-- What is done for an entry of the calendar. -/
def generateEntry (initial : EconomyWorldState) (policy : TenderGenerationPolicy)
    (planning : GtfsPlanningEnvelope) (time : Int) (generated : Generation)
    (entry : TenderCalendarEntry) : Outcome Generation := do
  let state := generated.state
  let previous := latestTender initial.tenders.values entry.lotId
  if previous.any (isPending state) then return generated
  let message := "Vergabe ist nicht an eine ganze Fahrplanperiode gebunden."
  let announcementPeriod ← orThrow (nextAnnouncement state entry previous) message
  require (isSafeInteger announcementPeriod && 0 ≤ announcementPeriod) message
  let operatingPeriod := announcementPeriod + state.profile.tenderLeadPeriods
  let announcedAt := announcementPeriod * state.profile.periodSeconds
  require (isSafeInteger announcedAt
      && isSafeInteger (operatingPeriod * state.profile.periodSeconds))
    "Vergabefrist liegt ausserhalb sicherer Weltsekunden."
  if time < announcedAt || contractPeriodsFrom state.profile operatingPeriod < 2 then
    return generated
  generateTender policy planning entry.lotId previous announcementPeriod generated

/-- Nothing was generated. -/
def Generation.start : Generation := ⟨state, [], 0⟩

/-- The rule and the plan by which a world generates tenders at a time. -/
def generationBasis (initial : EconomyWorldState) (policy : TenderGenerationPolicy) (time : Int) :
    Outcome GtfsPlanningEnvelope := do
  require (isSafeInteger time && 0 ≤ time)
    "Vergabezeit braucht nichtnegative ganze Weltsekunden."
  validateTenderGenerationPolicy policy
  orThrow initial.planning ("Automatische Ausschreibungen brauchen einen weltgebundenen " ++
    "Angebotsplan; Weltdeployment neu erzeugen.")

/-- Generates the tenders that are due by a rule. -/
def generateBy (initial : EconomyWorldState) (time : Int) (policy : TenderGenerationPolicy) :
    Outcome Generation := do
  let planning ← generationBasis initial policy time
  initial.calendar.foldlM (generateEntry initial policy planning time) (.start initial)

def generateDueTenders (initial : EconomyWorldState) (time : Int) : Outcome Generation :=
  if initial.closed then .ok (.start initial)
  else initial.tenderGeneration.elim (.ok (.start initial)) (generateBy initial time)

/-! ### The start -/

structure EconomyWorldStart where
  worldId : String
  seed : Int
  durationMonths : DurationMonths
  release : EconomyRelease
  lots : Option (List Lot)
  planning : Option GtfsPlanningEnvelope
  tenderGeneration : Option TenderGenerationPolicy
  authorityBudgets : List AuthorityBudget
  accounts : List String
  publicVehiclePoolByLot : EntryMap String (List String)

variable (input : EconomyWorldStart)

/-- The lots of a world, from the plan or as they are given. -/
def startLots : Outcome (List Lot) :=
  input.planning.elim (.ok (input.lots.getD [])) fun planning =>
    lotsFromGtfsPlanning planning input.worldId

/-- The vehicles belong to a lot, and none comes twice. -/
def isVehiclePool (lots : List Lot) (entry : String × List String) : Bool :=
  lots.any (fun lot => lot.id == entry.1) && !entry.2.isEmpty && decide entry.2.Nodup

/-- The notice for an account of the calendar of the world. -/
def calendarNotice (worldId : String) (calendar : List TenderCalendarEntry)
    (recipientAccountId : String) : EconomyNotice where
  id := "world-start:calendar:" ++ recipientAccountId
  worldId := worldId
  recipientAccountId := recipientAccountId
  noticeType := "tender-calendar-published"
  time := 0
  payload := .calendar calendar

/-- The budgets of a world before its first tenders. -/
def initialBudgets : EntryMap String AuthorityBudget :=
  .ofEntries (input.authorityBudgets.map fun budget =>
    (numbered budget.authorityId budget.period, budget))

/-- The state of a world before its first tenders. -/
def initialState (lots : List Lot) (calendar : List TenderCalendarEntry) : EconomyWorldState where
  worldId := input.worldId
  closed := false
  seed := input.seed
  profile := deriveWorldProfile input.durationMonths
  releasePin := pinEconomyRelease input.worldId input.release
  release := input.release
  lots := lots
  planning := input.planning
  tenderGeneration := input.tenderGeneration
  calendar := calendar
  tenders := .empty
  contracts := .empty
  mobilizations := .empty
  tenderAutomation := .empty
  publicOperations := .ofEntries (lots.map fun lot =>
    (lot.id, startPublicOperation lot.id ((input.publicVehiclePoolByLot.get? lot.id).getD [])))
  budgets := initialBudgets input
  prequalifications := .ofEntries (input.accounts.map fun accountId =>
    (accountId, initialPrequalification input.worldId accountId))
  insolventOperators := []
  operatorRestrictions := .empty
  settledPeriods := []
  processedCommands := []
  operatingRuntimeByLot := .empty
  revision := 0

def startEconomyWorld :
    Outcome (EconomyWorldState × EconomyEffects) := do
  require (input.lots.isNone != input.planning.isNone)
    "Weltstart braucht genau eine Losquelle: GTFS-Planung oder interne Testlose."
  input.tenderGeneration.elim (.ok ()) fun policy => do
    validateTenderGenerationPolicy policy
    require input.planning.isSome ("Automatische Ausschreibungen brauchen einen weltgebundenen " ++
      "Angebotsplan; Weltdeployment neu erzeugen.")
  let lots ← startLots input
  require (!isBlankText input.worldId && decide (lots.map Lot.id).Nodup)
    "Welt und Lose müssen eindeutig sein."
  require (input.publicVehiclePoolByLot.entries.all (isVehiclePool lots))
    "Eigenbetriebs-Fahrzeugpool passt nicht eindeutig zu einem Los."
  let calendar ← createTenderCalendar (deriveWorldProfile input.durationMonths) lots input.seed 0
  let generated ← generateDueTenders (initialState input lots calendar) 0
  return ({ generated.state with revision := 0 },
    { EconomyEffects.none with
      notices := input.accounts.map (calendarNotice input.worldId calendar) ++ generated.notices })

end Zugfolge.Economy
