/-
Profit and loss, insolvency and prequalification.
-/
import Zugfolge.Economy.Contracts

namespace Zugfolge.Economy

open Foundation

/-! ### Profit and loss -/

inductive CostType where
  | track | station | facility | energy | personnel | administration | vehicle | penalty | interest
  deriving DecidableEq

def CostType.name : CostType → String
  | .track => "track"
  | .station => "station"
  | .facility => "facility"
  | .energy => "energy"
  | .personnel => "personnel"
  | .administration => "administration"
  | .vehicle => "vehicle"
  | .penalty => "penalty"
  | .interest => "interest"

/-- The kinds of cost in their order. -/
def economyCostTypes : List CostType :=
  [.track, .station, .facility, .energy, .personnel, .administration, .vehicle, .penalty,
   .interest]

/-- A cost with what it is for. -/
structure ClassifiedPosting where
  amountCents : Int
  costType : CostType
  costCentreId : String
  reference : String

/-- The result of a period. -/
structure ProfitAndLoss where
  revenueCents : Int
  costsByType : List (CostType × Int)
  resultCents : Int
  explanation : List String

def costsOf (postings : List ClassifiedPosting) (costType : CostType) : Outcome Int :=
  (postings.filter fun posting => posting.costType == costType).foldlM (fun sum posting => do
    let amount ← assertNonnegativeI64 posting.amountCents "Kostenbuchung"
    addI64 sum amount (costType.name ++ "-Kosten")) 0

/-- The result of a period. -/
def calculateProfitAndLoss (revenueCents : Int) (postings : List ClassifiedPosting) :
    Outcome ProfitAndLoss := do
  let _ ← assertI64 revenueCents "Erloes"
  let costs ← economyCostTypes.mapM (costsOf postings)
  let total ← sumI64 costs "Gesamtkosten"
  let result ← subtractI64 revenueCents total "Periodenergebnis"
  return {
    revenueCents := revenueCents
    costsByType := economyCostTypes.zip costs
    resultCents := result
    explanation := ["Erlöse " ++ printInteger revenueCents]
      ++ (economyCostTypes.zip costs).map (fun entry =>
        entry.1.name ++ " " ++ printInteger entry.2)
      ++ ["Ergebnis " ++ printInteger result] }

/-! ### Insolvency -/

/-- What is known of the money of an operator. -/
structure InsolvencySignals where
  liquidCents : Int
  twoPeriodNeedCents : Int
  overdueCents : Int
  creditScore : Int
  contractTerminated : Bool
  unableToPay : Bool

/-- Where a message is shown. -/
inductive EscalationChannel where
  | mailbox | dailyReport
  deriving DecidableEq

def EscalationChannel.name : EscalationChannel → String
  | .mailbox => "mailbox"
  | .dailyReport => "daily-report"

/-- A message about a stage. -/
structure EscalationMessage where
  channel : EscalationChannel
  messageType : String
  stage : ℕ
  actions : List String

/-- What follows from a stage. -/
structure InsolvencyDecision where
  stage : ℕ
  messages : List EscalationMessage
  pathsBlocked : Bool
  creditBlocked : Bool
  purchasesBlocked : Bool
  publicOperatorTakesOver : Bool
  liquidated : Bool

def InsolvencySignals.stage (signals : InsolvencySignals) : ℕ :=
  if signals.unableToPay then 5
  else if signals.contractTerminated then 4
  else if signals.creditScore < 3000 then 3
  else if 0 < signals.overdueCents then 2
  else if signals.liquidCents < signals.twoPeriodNeedCents then 1
  else 0

/-- What is done at a stage. -/
def stageActions : ℕ → List String
  | 1 => ["Prognose prüfen", "Kosten senken"]
  | 2 => ["Verzugszins", "keine neuen Trassen"]
  | 3 => ["keine Kredite", "kein Fahrzeugkauf"]
  | 4 => ["Vertragskündigung", "Eigenbetrieb übernimmt"]
  | 5 => ["Assets verwerten", "Verträge kündigen", "Trassen freigeben"]
  | _ => []

/-- What follows for an operator. -/
def evaluateInsolvency (signals : InsolvencySignals) : InsolvencyDecision :=
  let stage := signals.stage
  { stage := stage
    messages :=
      if stage == 0 then []
      else [EscalationChannel.mailbox, .dailyReport].map fun channel =>
        { channel := channel
          messageType := "insolvency-stage-" ++ printInteger stage
          stage := stage
          actions := stageActions stage }
    pathsBlocked := 2 ≤ stage
    creditBlocked := 3 ≤ stage
    purchasesBlocked := 3 ≤ stage
    publicOperatorTakesOver := 4 ≤ stage
    liquidated := stage == 5 }

lemma takesOver_of_stage {signals : InsolvencySignals}
    (h : (evaluateInsolvency signals).stage = 5) :
    (evaluateInsolvency signals).publicOperatorTakesOver = true := by
  change signals.stage = 5 at h
  change decide (4 ≤ signals.stage) = true
  rw [h]
  decide

/-! ### Prequalification -/

/-- How an account stands in a world. -/
structure Prequalification where
  worldId : String
  accountId : String
  score : Int
  creditScore : Int
  smallLotsOnlyUntilPeriod : Option Int
  bankruptcies : Int

/-- The first prequalification of an account. -/
def initialPrequalification (worldId accountId : String) : Prequalification where
  worldId := worldId
  accountId := accountId
  score := 5000
  creditScore := 5000
  smallLotsOnlyUntilPeriod := none
  bankruptcies := 0

/-- What changes a prequalification. -/
structure PrequalificationUpdate where
  finalPerformanceBasisPoints : Option Int := none
  mobilizationFailed : Bool := false
  insolvencyAtPeriod : Option Int := none

def updatePrequalification (record : Prequalification) (input : PrequalificationUpdate) :
    Prequalification :=
  let score := record.score
    + input.finalPerformanceBasisPoints.elim 0 (fun points => Int.fdiv (points - 8500) 10)
    - (if input.mobilizationFailed then 1500 else 0)
  { record with
    score := max 0 (min 10000 score)
    creditScore := if input.insolvencyAtPeriod.isSome then max 0 (record.creditScore - 3000)
      else record.creditScore
    smallLotsOnlyUntilPeriod := input.insolvencyAtPeriod.elim record.smallLotsOnlyUntilPeriod
      fun period => some (period + 3)
    bankruptcies := record.bankruptcies + (if input.insolvencyAtPeriod.isSome then 1 else 0) }

/-- The account may bid for the lot. -/
def assertPrequalified (record : Prequalification) (worldId : String) (period : Int)
    (smallLot : Bool) (minimumScore : Int) : Outcome Unit :=
  require (record.worldId == worldId && minimumScore ≤ record.score
      && (smallLot || record.smallLotsOnlyUntilPeriod.getD (-1) ≤ period))
    "Präqualifikation reicht für dieses Los nicht aus."

end Zugfolge.Economy
