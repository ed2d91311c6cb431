/-
The zone outside of the simulated regions.

A train that leaves the network at a portal runs on in the external zone under a contract, which
says when and where it may come back.  The zone has no clock of its own and no infrastructure.
-/
import Mathlib.Data.List.Sort
import Zugfolge.Foundation.Text
import Zugfolge.Sim.Command

namespace Zugfolge.Sim

open Foundation
open Std (ExtTreeMap)

/-- The contract of a leg outside of the network. -/
structure ExternalLegContract where
  worldId : WorldId
  journeyChainId : String
  externalLegId : String
  sourceRegion : RegionId
  /-- The region in which the train comes back, if it does. -/
  targetRegion : Option RegionId
  fromPortal : String
  toPortal : Option String
  scheduledStart : SimTime
  scheduledEnd : SimTime
  reentryEarliest : Option SimTime
  reentryLatest : Option SimTime
  fixedCostCents : Int
  boundVehicleIds : List String
  boundPersonnelDutyIds : List String
  reentryRoute : List Waypoint
  firstResources : List String

/-- The value, or the error where there is none. -/
def okOr {α : Type} (value : Option α) (error : SimError) : Except SimError α :=
  value.elim (.error error) .ok

lemma okOr_eq_ok {α : Type} {value : Option α} {error : SimError} {a : α} :
    okOr value error = .ok a ↔ value = some a := by
  cases value <;> simp [okOr]

namespace ExternalLegContract

/-- A text occurs twice: in order, two neighbours are equal. -/
def hasRepeated (ids : List String) : Bool :=
  let sorted := ids.insertionSort (· ≤ ·)
  (sorted.zip sorted.tail).any fun pair => pair.1 == pair.2

variable (contract : ExternalLegContract)

/-- A name is blank, a time or the cost does not fit, or no vehicle is bound. -/
def isIncomplete : Bool :=
  Text.isBlank contract.journeyChainId || Text.isBlank contract.externalLegId
    || Text.isBlank contract.fromPortal || decide (contract.scheduledStart < 0)
    || decide (contract.scheduledEnd < contract.scheduledStart)
    || decide (contract.fixedCostCents < 0) || contract.boundVehicleIds.isEmpty
    || contract.boundVehicleIds.any Text.isBlank
    || contract.boundPersonnelDutyIds.any Text.isBlank

/-- A train on the route on which the train of the contract comes back. -/
def probe (contract : ExternalLegContract) (targetRegion : RegionId) : TrainRun where
  worldId := contract.worldId
  id := 1
  regionId := targetRegion
  operator := "probe"
  trainNumber := "probe"
  category := .regional
  route := contract.reentryRoute
  nextWaypoint := 0
  delaySeconds := 0
  positionMm := 0
  speedMmPerSecond := 0
  status := .planned

/-- The train comes back: at a portal, in a window around its end, on a valid route. -/
def validateReentry (targetRegion : RegionId) :
    Except SimError Unit := do
  let toPortal ← okOr contract.toPortal .invalidExternalLeg
  let earliest ← okOr contract.reentryEarliest .invalidExternalLeg
  let latest ← okOr contract.reentryLatest .invalidExternalLeg
  if Text.isBlank toPortal || decide (contract.scheduledEnd < earliest)
      || decide (latest < contract.scheduledEnd) || contract.reentryRoute.isEmpty
      || contract.firstResources.any Text.isBlank then
    .error .invalidExternalLeg
  else (contract.probe targetRegion).validate

/-- The train does not come back, and nothing is said about its return. -/
def validateEnd : Except SimError Unit :=
  if contract.toPortal.isSome || contract.reentryEarliest.isSome || contract.reentryLatest.isSome
      || !contract.reentryRoute.isEmpty || !contract.firstResources.isEmpty then
    .error .invalidExternalLeg
  else .ok ()

/-- The contract is complete and says either all or nothing about a return. -/
def validate : Except SimError Unit :=
  if contract.isIncomplete || hasRepeated contract.boundVehicleIds
      || hasRepeated contract.boundPersonnelDutyIds then
    .error .invalidExternalLeg
  else contract.targetRegion.elim contract.validateEnd contract.validateReentry

end ExternalLegContract

structure ExternalTrain where
  train : TrainRun
  contract : ExternalLegContract
  /-- The handover with which it came. -/
  acceptedToken : UInt64
  /-- The handover with which it is to go. -/
  reentryToken : Option UInt64

structure ExternalZone where
  worldId : WorldId
  regionId : RegionId
  now : SimTime
  nextToken : UInt64
  trains : Registry TrainRunId ExternalTrain

namespace ExternalZone

/-- An empty zone. -/
def new (worldId : WorldId) (regionId : RegionId) (now : SimTime) : ExternalZone where
  worldId := worldId
  regionId := regionId
  now := now
  nextToken := 1
  trains := .empty

/-- The train has come to the end of its route at the portal, and the leg has begun. -/
def atPortal (zone : ExternalZone) (train : TrainRun) (contract : ExternalLegContract) : Bool :=
  train.id != 0 &&
    train.route.getLast?.map Waypoint.operatingPoint == some contract.fromPortal &&
    train.nextWaypoint + 1 == train.route.length &&
    (train.status == .atPlatform || train.status == .completed) &&
    decide (contract.scheduledStart ≤ zone.now)

/-- Takes a train over and answers with the confirmation; a refusal changes nothing. -/
def acceptHandover (zone : ExternalZone) (envelope : HandoverEnvelope)
    (contract : ExternalLegContract) : Except SimError (Command × ExternalZone) := do
  contract.validate
  if envelope.worldId ≠ zone.worldId ∨ contract.worldId ≠ zone.worldId then
    .error .wrongWorld
  else if envelope.targetRegion ≠ zone.regionId
      ∨ envelope.sourceRegion ≠ contract.sourceRegion then
    .error .wrongRegion
  else if zone.atPortal envelope.train contract then
    if zone.trains.contains envelope.train.id then .error .duplicateTrain
    else
      .ok (.confirmHandover envelope.token zone.regionId, { zone with
        trains := zone.trains.insert envelope.train.id
          ⟨envelope.train, contract, envelope.token, none⟩ })
  else .error .invalidExternalLeg

/-- Moves the time forward. -/
def advanceTo (zone : ExternalZone) (target : SimTime) : Except SimError ExternalZone :=
  if target < zone.now then .error .timeReversal else .ok { zone with now := target }

/-- The train as it comes back: planned, at the start of its new route. -/
def returning (external : ExternalTrain) (targetRegion : RegionId) : TrainRun :=
  { external.train with
    regionId := targetRegion
    route := external.contract.reentryRoute
    nextWaypoint := 0
    positionMm := 0
    speedMmPerSecond := 0
    status := .planned }

/-- Prepares the return of a train under a new token; an earlier token counts no more. -/
def prepareReentry (zone : ExternalZone) (id : TrainRunId) :
    Except SimError (HandoverEnvelope × ExternalZone) := do
  let external ← okOr zone.trains[id]? .unknownTrain
  let targetRegion ← okOr external.contract.targetRegion .externalTrainNotReady
  let earliest ← okOr external.contract.reentryEarliest .invalidExternalLeg
  if zone.now < earliest then .error .externalTrainNotReady
  else
    .ok (⟨zone.worldId, zone.regionId, targetRegion, zone.nextToken,
      returning external targetRegion, external.contract.firstResources⟩, { zone with
        nextToken := UInt64.ofNat (addSatU64 zone.nextToken.toNat 1)
        trains := zone.trains.insert id { external with reentryToken := some zone.nextToken } })

/-- Lets a train go that has been taken over under its token. -/
def confirmReentry (zone : ExternalZone) (id : TrainRunId) (token : UInt64) :
    Except SimError ExternalZone := do
  let external ← okOr zone.trains[id]? .unknownTrain
  if external.reentryToken ≠ some token then .error .unknownHandover
  else .ok { zone with trains := zone.trains.erase id }

/-! ### What the calls do -/

variable {zone later : ExternalZone} {id : TrainRunId}

/-- A train that is taken over was not in the zone. -/
lemma acceptHandover_spec {envelope : HandoverEnvelope} {contract : ExternalLegContract}
    {answer : Command} (h : zone.acceptHandover envelope contract = .ok (answer, later)) :
    envelope.targetRegion = zone.regionId ∧ zone.trains.contains envelope.train.id = false ∧
      answer = .confirmHandover envelope.token zone.regionId ∧
      later = { zone with
        trains := zone.trains.insert envelope.train.id
          ⟨envelope.train, contract, envelope.token, none⟩ } := by
  rw [acceptHandover] at h
  cases hvalid : contract.validate with
  | error error =>
    rw [hvalid] at h
    cases h
  | ok _ =>
    simp only [hvalid, bind, Except.bind] at h
    split at h
    · cases h
    · split at h
      · cases h
      next hregion =>
        split at h
        · split at h
          · cases h
          next hfree =>
            cases h
            rw [not_or, not_not] at hregion
            exact ⟨hregion.1, (Bool.not_eq_true _).mp hfree, rfl, rfl⟩
        · cases h

/-- The return of a train of the zone is prepared under a token of its own. -/
lemma prepareReentry_spec {envelope : HandoverEnvelope}
    (h : zone.prepareReentry id = .ok (envelope, later)) :
    ∃ external targetRegion, zone.trains[id]? = some external ∧
      external.contract.targetRegion = some targetRegion ∧
      envelope = ⟨zone.worldId, zone.regionId, targetRegion, zone.nextToken,
        returning external targetRegion, external.contract.firstResources⟩ ∧
      later = { zone with
        nextToken := UInt64.ofNat (addSatU64 zone.nextToken.toNat 1)
        trains := zone.trains.insert id
          { external with reentryToken := some zone.nextToken } } := by
  rw [prepareReentry] at h
  cases hheld : okOr zone.trains[id]? .unknownTrain with
  | error error =>
    rw [hheld] at h
    cases h
  | ok external =>
    simp only [hheld, bind, Except.bind] at h
    split at h
    · cases h
    next targetRegion htarget =>
      split at h
      · cases h
      · split at h
        · cases h
        · cases h
          exact ⟨external, targetRegion, okOr_eq_ok.mp hheld, okOr_eq_ok.mp htarget, rfl, rfl⟩

/-- The zone lets a train go exactly under the token of its return. -/
lemma confirmReentry_spec (zone : ExternalZone) (id : TrainRunId) (token : UInt64) :
    (∃ external, zone.trains[id]? = some external ∧ external.reentryToken = some token ∧
      zone.confirmReentry id token = .ok { zone with trains := zone.trains.erase id }) ∨
    (∀ external, zone.trains[id]? = some external → external.reentryToken ≠ some token) ∧
      ∃ error, zone.confirmReentry id token = .error error := by
  rw [confirmReentry]
  cases hheld : zone.trains[id]? with
  | none => exact .inr ⟨(fun _ hnone => nomatch hnone), .unknownTrain, rfl⟩
  | some external =>
    by_cases htoken : external.reentryToken = some token
    · refine .inl ⟨external, rfl, htoken, ?_⟩
      simp [okOr, bind, Except.bind, htoken]
    · refine .inr ⟨fun other hother => Option.some.inj hother ▸ htoken, .unknownHandover, ?_⟩
      simp [okOr, bind, Except.bind, htoken]

lemma advanceTo_spec {target : SimTime} (h : zone.advanceTo target = .ok later) :
    later = { zone with now := target } := by
  rw [advanceTo] at h
  split at h
  · cases h
  · cases h
    rfl

end ExternalZone

end Zugfolge.Sim
