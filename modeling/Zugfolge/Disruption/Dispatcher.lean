/-
The virtual dispatcher.

Movements that compete in one region are ranked and get their departures one after another.  Each
one that leaves takes reservations in the capacity ledger, shifted to its departure.
-/
import Zugfolge.Disruption.Policy
import Zugfolge.Conflict.Reservation

namespace Zugfolge.Disruption

open Foundation Conflict Std

/-! ### Movements -/

inductive MovementKind where
  | passenger
  | emptyStock
  | freight
  | supplementary
  | shunting
  deriving DecidableEq

/-- The place of a kind in the rank. -/
def MovementKind.toNat : MovementKind → ℕ
  | passenger => 0
  | emptyStock => 1
  | freight => 2
  | supplementary => 3
  | shunting => 4

def MovementKind.name : MovementKind → String
  | passenger => "Passenger"
  | emptyStock => "EmptyStock"
  | freight => "Freight"
  | supplementary => "Supplementary"
  | shunting => "Shunting"

/-- When a movement may leave. -/
structure DepartureWindow where
  earliest : SimTime
  scheduled : SimTime
  latest : SimTime

/-- The consent to leave that was given to exactly this movement. -/
inductive DepartureAuthority where
  | none
  | mainSignal
  | cabSignalling
  | substituteSignal
  | writtenOrder
  | verbalConsent
  deriving DecidableEq

/-- Some consent was given. -/
def DepartureAuthority.isGranted (authority : DepartureAuthority) : Bool := authority != .none

/-- What was proved about the route. -/
structure RouteSafetyProof where
  routeSetAndLocked : Bool
  routeProvedClear : Bool
  overlapProvedClear : Bool
  flankProtectionProved : Bool

namespace RouteSafetyProof

/-- The proof of a route that is secured in the regular way. -/
def secured : RouteSafetyProof := ⟨true, true, true, true⟩

/-- Nothing is missing. -/
def isComplete (proof : RouteSafetyProof) : Bool :=
  proof.routeSetAndLocked && proof.routeProvedClear && proof.overlapProvedClear
    && proof.flankProtectionProved

end RouteSafetyProof

/-- A movement that asks to leave.  Its reservations are those of a departure at the earliest
time. -/
structure Movement where
  worldId : WorldId
  id : ℕ
  kind : MovementKind
  departure : DepartureWindow
  reservations : List (ConflictResource × SimTime × SimTime)
  minimumDwellMet : Bool
  routeSafety : RouteSafetyProof
  departureAuthority : DepartureAuthority
  personnelAndVehicleReady : Bool
  affectedConnections : ℕ
  contractEffectCents : Int
  networkStabilityRank : ℕ
  rotationEffectRank : ℕ
  recoverabilityRank : ℕ
  essentialForRecovery : Bool
  waitingSince : SimTime

/-- Why a movement leaves or waits. -/
inductive DepartureCause where
  | permittedEarlyDeparture
  | scheduledOrDelayedDeparture
  | resourceConflict
  | missingOperationalRelease
  | missingRouteProof
  | missingDepartureConsent
  | outsideDepartureWindow
  deriving DecidableEq

/-- How a decision came about. -/
structure DispatchExplanation where
  rule : String
  resources : List ConflictResource
  criteria : List String
  checkedAlternatives : List String
  stableTiebreak : ℕ
  deriving DecidableEq

/-- What becomes of a movement. -/
structure MovementDecision where
  movementId : ℕ
  departureAt : Option SimTime
  cause : DepartureCause
  explanation : DispatchExplanation
  deriving DecidableEq

namespace Movement

variable (movement : Movement)

/-- Every release that the movement needs is there. -/
def isReleased : Bool :=
  movement.minimumDwellMet && movement.routeSafety.isComplete
    && movement.departureAuthority.isGranted && movement.personnelAndVehicleReady

/-- A shunting movement that the recovery needs has waited for too long. -/
def starvesRecovery (time : SimTime) (maximumShuntingWaitSeconds : Int) : Bool :=
  movement.kind == .shunting && movement.essentialForRecovery
    && decide (maximumShuntingWaitSeconds ≤ subSat64 time movement.waitingSince)

/-- The order in which movements get their turn. -/
def rankOrder (time : SimTime) (maximumShuntingWaitSeconds : Int) : Movement → Movement →
    Ordering :=
  compareLex (compareOn fun movement => (!movement.isReleased).toNat)
    (compareLex (compareOn fun movement =>
        (!movement.starvesRecovery time maximumShuntingWaitSeconds).toNat)
      (compareLex (compareOn fun movement => u32Max - movement.affectedConnections)
        (compareLex (compareOn contractEffectCents)
          (compareLex (compareOn networkStabilityRank)
            (compareLex (compareOn rotationEffectRank)
              (compareLex (compareOn recoverabilityRank)
                (compareLex (compareOn fun movement => movement.kind.toNat)
                  (compareOn id))))))))

/-- The movements in the order of their turns. -/
def ranked (time : SimTime) (maximumShuntingWaitSeconds : Int) (movements : List Movement) :
    List Movement :=
  movements.mergeSort fun left right => (rankOrder time maximumShuntingWaitSeconds left right).isLE

/-- Earliest, scheduled and latest departure are in order. -/
def windowInOrder : Bool :=
  movement.departure.earliest ≤ movement.departure.scheduled
    && movement.departure.scheduled ≤ movement.departure.latest

/-- All kinds but passenger trains may leave before their scheduled time. -/
def canRunEarly : Bool := movement.kind != .passenger

/-- When the movement would leave, if its window is still open. -/
def desiredDeparture (time : SimTime) : Except DisruptionError (Option SimTime) :=
  if !movement.windowInOrder then .error .invalidMovement
  else
    let desired := max time
      (if movement.canRunEarly then movement.departure.earliest else movement.departure.scheduled)
    .ok (if desired ≤ movement.departure.latest then some desired else none)

/-- The release that is missing. -/
def holdCause : Option DepartureCause :=
  if !movement.minimumDwellMet || !movement.personnelAndVehicleReady then
    some .missingOperationalRelease
  else if !movement.routeSafety.isComplete then some .missingRouteProof
  else if !movement.departureAuthority.isGranted then some .missingDepartureConsent
  else none

/-- How much later than at the earliest time the movement leaves. -/
def shift (departureAt : SimTime) : Int := subSat64 departureAt movement.departure.earliest

/-- The reservations of the movement for a departure. -/
def shifted (departureAt : SimTime) : List (ConflictResource × SimTime × SimTime) :=
  movement.reservations.map fun item =>
    (item.1, item.2.1.plusSeconds (movement.shift departureAt),
      item.2.2.plusSeconds (movement.shift departureAt))

/-- The movement in the list of the checked alternatives. -/
def label : String := "Bewegung " ++ toString movement.id ++ " (" ++ movement.kind.name ++ ")"

variable (alternatives : List String)

/-- How a decision about the movement comes about. -/
def explanation : DispatchExplanation where
  rule := "virtual-dispatcher/rule-408-2025-v2"
  resources := movement.reservations.map Prod.fst
  criteria := ["Sicherheit und Konfliktfreiheit",
    "Fahrwegprüfung, Durchrutschweg und Flankenschutz",
    "individuelle Zustimmung zur Abfahrt",
    "Fahrgastwirkung und Anschlüsse",
    "Vertragsfolgen",
    "Netzstabilität",
    "Umlauf und Fahrzeug",
    "Wiederherstellbarkeit",
    "operative Präferenz"]
  checkedAlternatives := alternatives
  stableTiebreak := movement.id

/-- The movement does not leave. -/
def heldBack (cause : DepartureCause) : MovementDecision :=
  ⟨movement.id, none, cause, movement.explanation alternatives⟩

/-- The movement waits for a resource that others hold. -/
def waits : MovementDecision :=
  movement.heldBack (alternatives ++ ["Bewegung " ++ toString movement.id
    ++ " wartet wegen konkret ausgeschöpfter Konfliktressource"]) .resourceConflict

def leaves (departureAt : SimTime) : MovementDecision :=
  ⟨movement.id, some departureAt,
    if departureAt < movement.departure.scheduled then .permittedEarlyDeparture
    else .scheduledOrDelayedDeparture,
    movement.explanation alternatives⟩

end Movement

/-! ### The dispatcher -/

/-- The coordinator of a region, over the ledger of its reservations. -/
structure VirtualDispatcher where
  worldId : WorldId
  ledger : CapacityLedger
  maximumShuntingWaitSeconds : Int
  nextReservationId : ℕ

namespace VirtualDispatcher

/-- A dispatcher that has reserved nothing. -/
def new (worldId : WorldId) (exclusions : ResourceExclusions) (maximumShuntingWaitSeconds : Int) :
    VirtualDispatcher :=
  ⟨worldId, CapacityLedger.new exclusions, maximumShuntingWaitSeconds, 1⟩

/-- Reserves intervals one after another on a copy of the ledger.  An empty interval is an error;
where the ledger refuses one, there is no result. -/
def reserveAll (worldId : WorldId) : CapacityLedger → ResourceReservationId →
    List (ConflictResource × SimTime × SimTime) →
      Except DisruptionError (Option (CapacityLedger × ResourceReservationId))
  | tentative, reservationId, [] => .ok (some (tentative, reservationId))
  | tentative, reservationId, (resource, startsAt, endsAt) :: rest =>
    match ResourceReservation.new worldId reservationId resource startsAt endsAt with
    | .error _ => .error .invalidMovement
    | .ok reservation =>
      match (tentative.tryReserve reservation).2 with
      | .error _ => .ok none
      | .ok () => reserveAll worldId (tentative.tryReserve reservation).1
          (min (reservationId + 1) u64Max) rest

variable (dispatcher : VirtualDispatcher)

/-- The reservations of a movement for its departure, taken on a copy of the ledger. -/
def trial (movement : Movement) (departureAt : SimTime) :
    Except DisruptionError (Option (CapacityLedger × ResourceReservationId)) :=
  reserveAll dispatcher.worldId dispatcher.ledger dispatcher.nextReservationId
    (movement.shifted departureAt)

/-- Decides about one movement. -/
def consider (time : SimTime) (alternatives : List String) (movement : Movement) :
    VirtualDispatcher × Except DisruptionError MovementDecision :=
  match movement.desiredDeparture time with
  | .error error => (dispatcher, .error error)
  | .ok none => (dispatcher, .ok (movement.heldBack alternatives .outsideDepartureWindow))
  | .ok (some departureAt) =>
    match movement.holdCause with
    | some cause => (dispatcher, .ok (movement.heldBack alternatives cause))
    | none =>
      match dispatcher.trial movement departureAt with
      | .error error => (dispatcher, .error error)
      | .ok none => (dispatcher, .ok (movement.waits alternatives))
      | .ok (some (ledger, nextReservationId)) =>
        ({ dispatcher with ledger, nextReservationId },
          .ok (movement.leaves alternatives departureAt))

/-- Decides about the movements in their order, up to the first error. -/
def considerAll (time : SimTime) (alternatives : List String) (dispatcher : VirtualDispatcher) :
    List Movement → VirtualDispatcher × Except DisruptionError (List MovementDecision)
  | [] => (dispatcher, .ok [])
  | movement :: rest =>
    match dispatcher.consider time alternatives movement with
    | (next, .error error) => (next, .error error)
    | (next, .ok decision) =>
      let after := considerAll time alternatives next rest
      (after.1, after.2.map (decision :: ·))

/-- The movements of a call in the order of their turns. -/
def turns (time : SimTime) (movements : List Movement) : List Movement :=
  Movement.ranked time dispatcher.maximumShuntingWaitSeconds movements

/-- Decides about the movements of a call in the order of their rank. -/
def considerRanked (time : SimTime) (movements : List Movement) :
    VirtualDispatcher × Except DisruptionError (List MovementDecision) :=
  let ranked := dispatcher.turns time movements
  dispatcher.considerAll time (ranked.map Movement.label) ranked

/-- All movements belong to the world of the dispatcher. -/
def allAtHome (movements : List Movement) : Bool :=
  movements.all fun movement => movement.worldId = dispatcher.worldId

/-- Coordinates the movements of a call. -/
def coordinate (time : SimTime) (movements : List Movement) :
    VirtualDispatcher × Except DisruptionError (List MovementDecision) :=
  if !dispatcher.allAtHome movements then (dispatcher, .error .wrongWorld)
  else
    let after := dispatcher.considerRanked time movements
    (after.1, after.2.map fun decisions =>
      decisions.mergeSort fun left right => left.movementId ≤ right.movementId)

end VirtualDispatcher

end Zugfolge.Disruption
