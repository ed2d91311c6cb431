/-
Coordinated movements over histories of calls.

A dispatcher gets any calls, one after another.  What the granted movements have reserved never
exceeds a capacity and never overlaps on resources that exclude each other.  A call that breaks off
behind a granted movement leaves that movement's reservations in the ledger.

* `coordination_kept_iff`: which histories keep ledger and grants together.
-/
import Zugfolge.Disruption.Dispatcher
import Zugfolge.Conflict.Capacity
import Zugfolge.Foundation.Collect

namespace Zugfolge.Disruption

open Foundation Conflict Std

namespace VirtualDispatcher

/-! ### What a history grants -/

/-- The dispatcher after a call. -/
def step (dispatcher : VirtualDispatcher) (call : SimTime × List Movement) : VirtualDispatcher :=
  (dispatcher.coordinate call.1 call.2).1

/-- The movements to which decisions give a departure. -/
def grantsOf (movements : List Movement) (decisions : List MovementDecision) :
    List (Movement × SimTime) :=
  (movements.zip decisions).filterMap fun turn =>
    turn.2.departureAt.map fun departureAt => (turn.1, departureAt)

/-- The movements to which the decisions of a call that returns give a departure. -/
def granted (dispatcher : VirtualDispatcher) (call : SimTime × List Movement) :
    List (Movement × SimTime) :=
  if !dispatcher.allAtHome call.2 then []
  else
    grantsOf (dispatcher.turns call.1 call.2)
      ((dispatcher.considerRanked call.1 call.2).2.toOption.getD [])

/-- The reservations of granted movements, shifted to their departures. -/
def reservationsOf (granted : List (Movement × SimTime)) :
    List (ConflictResource × SimTime × SimTime) :=
  granted.flatMap fun grant => grant.1.shifted grant.2

/-- The reservations of all movements that a history grants. -/
def grantedReservations (dispatcher : VirtualDispatcher) :
    List (SimTime × List Movement) → List (ConflictResource × SimTime × SimTime)
  | [] => []
  | call :: calls =>
    reservationsOf (dispatcher.granted call) ++ grantedReservations (dispatcher.step call) calls

/-- The reservations of a world in a ledger, as resources with intervals. -/
def entries (worldId : WorldId) (ledger : CapacityLedger) :
    List (ConflictResource × SimTime × SimTime) :=
  (ledger.reservations worldId).map fun reservation => (reservation.resource, reservation.span)

/-- What lies in the ledger of the dispatcher. -/
def reserved (dispatcher : VirtualDispatcher) : List (ConflictResource × SimTime × SimTime) :=
  entries dispatcher.worldId dispatcher.ledger

/-! ### Calls that break off -/

/-- What the ledger says to the reservations of a movement, if the movement is released and its
window is open. -/
def answer (dispatcher : VirtualDispatcher) (time : SimTime) (movement : Movement) :
    Option (Except DisruptionError (Option (CapacityLedger × ResourceReservationId))) :=
  if movement.isReleased then
    ((movement.desiredDeparture time).toOption.bind id).map (dispatcher.trial movement)
  else none

/-- One of the intervals is empty, and the ledger takes those before it. -/
def meetsEmpty (dispatcher : VirtualDispatcher)
    (intervals : List (ConflictResource × SimTime × SimTime)) : Bool :=
  (List.range intervals.length).any fun n =>
    (intervals[n]?).any (fun interval => decide (interval.2.2 ≤ interval.2.1)) &&
      (reserveAll dispatcher.worldId dispatcher.ledger dispatcher.nextReservationId
        (intervals.take n)).toOption.any Option.isSome

/-- The window of the movement is out of order, or it may leave and one of the intervals that it
reserves, shifted to its departure, is empty while the ledger takes those before it. -/
def malformed (dispatcher : VirtualDispatcher) (time : SimTime) (movement : Movement) : Bool :=
  !movement.windowInOrder || movement.isReleased &&
    ((movement.desiredDeparture time).toOption.bind id).any fun departureAt =>
      dispatcher.meetsEmpty (movement.shifted departureAt)

/-- The movement may leave, and the ledger takes at least one reservation for it. -/
def takesUp (dispatcher : VirtualDispatcher) (time : SimTime) (movement : Movement) : Bool :=
  !movement.reservations.isEmpty && (dispatcher.answer time movement).any fun outcome =>
    outcome.toOption.any Option.isSome

/-- The dispatcher after the turn of a movement. -/
def next (dispatcher : VirtualDispatcher) (time : SimTime) (movement : Movement) :
    VirtualDispatcher := (dispatcher.consider time [] movement).1

/-- A malformed movement comes up. -/
def meetsMalformed (time : SimTime) (dispatcher : VirtualDispatcher) : List Movement → Bool
  | [] => false
  | movement :: rest =>
    dispatcher.malformed time movement || meetsMalformed time (dispatcher.next time movement) rest

/-- A malformed movement comes up behind one for which reservations were taken. -/
def breaksOff (time : SimTime) (dispatcher : VirtualDispatcher) : List Movement → Bool
  | [] => false
  | movement :: rest =>
    !dispatcher.malformed time movement &&
      if dispatcher.takesUp time movement then
        meetsMalformed time (dispatcher.next time movement) rest
      else breaksOff time (dispatcher.next time movement) rest

/-- The call is refused as a whole, or it does not break off behind a granted movement. -/
def undisturbed (dispatcher : VirtualDispatcher) (call : SimTime × List Movement) : Bool :=
  !dispatcher.allAtHome call.2 || !breaksOff call.1 dispatcher (dispatcher.turns call.1 call.2)

/-! ### One movement -/

variable {dispatcher : VirtualDispatcher} {time : SimTime} {movement : Movement}

lemma holdCause_eq_none : movement.holdCause = none ↔ movement.isReleased = true := by
  unfold Movement.holdCause Movement.isReleased
  cases movement.minimumDwellMet <;> cases movement.personnelAndVehicleReady <;>
    cases movement.routeSafety.isComplete <;> cases movement.departureAuthority.isGranted <;>
    simp

/-- Intervals that are reserved one after another end with an error at an empty one. -/
lemma reserveAll_isOk_eq_false {worldId : WorldId} {ledger : CapacityLedger}
    {reservationId : ResourceReservationId}
    {intervals : List (ConflictResource × SimTime × SimTime)} :
    (reserveAll worldId ledger reservationId intervals).isOk = false
      ↔ ∃ n, ∃ interval, intervals[n]? = some interval ∧ interval.2.2 ≤ interval.2.1
        ∧ (reserveAll worldId ledger reservationId (intervals.take n)).toOption.any Option.isSome
          = true := by
  induction intervals generalizing ledger reservationId with
  | nil => simp [reserveAll, Except.isOk, Except.toBool]
  | cons interval rest ih =>
    obtain ⟨resource, startsAt, endsAt⟩ := interval
    rw [← Nat.or_exists_add_one]
    by_cases hempty : endsAt ≤ startsAt
    · simp [reserveAll, ResourceReservation.new, hempty, Except.isOk, Except.toBool,
        Except.toOption]
    · cases htry : (ledger.tryReserve ⟨worldId, reservationId, resource, startsAt, endsAt⟩).2 with
      | error error =>
        simp [reserveAll, ResourceReservation.new, hempty, htry, Except.isOk, Except.toBool,
          Except.toOption]
      | ok _ => simpa [reserveAll, ResourceReservation.new, hempty, htry] using ih

/-- A movement is malformed where its window is out of order or its trial fails. -/
lemma malformed_eq (dispatcher : VirtualDispatcher) (time : SimTime) (movement : Movement) :
    dispatcher.malformed time movement =
      (!movement.windowInOrder || (dispatcher.answer time movement).any fun outcome =>
        !outcome.isOk) := by
  have hempty : ∀ intervals : List (ConflictResource × SimTime × SimTime),
      dispatcher.meetsEmpty intervals = !(reserveAll dispatcher.worldId dispatcher.ledger
        dispatcher.nextReservationId intervals).isOk := by
    intro intervals
    rw [Bool.eq_iff_iff, Bool.not_eq_true', reserveAll_isOk_eq_false]
    simp only [meetsEmpty, List.any_eq_true, List.mem_range, Bool.and_eq_true, Option.any_eq_true,
      decide_eq_true_eq]
    constructor
    · rintro ⟨n, -, ⟨interval, hin, hle⟩, htaken⟩
      exact ⟨n, interval, hin, hle, htaken⟩
    · rintro ⟨n, interval, hin, hle, htaken⟩
      exact ⟨n, (List.getElem?_eq_some_iff.mp hin).1, ⟨interval, hin, hle⟩, htaken⟩
  unfold malformed answer
  cases movement.isReleased with
  | false => simp
  | true =>
    rw [if_pos rfl, Option.any_map, Bool.true_and]
    simp only [hempty, trial]

/-- A movement is malformed and nothing changes, or it waits and nothing changes, or it leaves and
the ledger holds its reservations, too. -/
lemma consider_cases (dispatcher : VirtualDispatcher) (time : SimTime) (alternatives : List String)
    (movement : Movement) :
    (dispatcher.malformed time movement = true ∧
      ∃ error, dispatcher.consider time alternatives movement = (dispatcher, .error error)) ∨
    (dispatcher.malformed time movement = false ∧ dispatcher.takesUp time movement = false ∧
      ∃ checked cause, dispatcher.consider time alternatives movement
        = (dispatcher, .ok (movement.heldBack checked cause))) ∨
    (dispatcher.malformed time movement = false ∧
      dispatcher.takesUp time movement = !movement.reservations.isEmpty ∧
      ∃ departureAt ledger nextReservationId,
        dispatcher.trial movement departureAt = .ok (some (ledger, nextReservationId)) ∧
        dispatcher.consider time alternatives movement
          = ({ dispatcher with ledger, nextReservationId },
            .ok (movement.leaves alternatives departureAt))) := by
  rw [malformed_eq]
  unfold takesUp answer consider
  by_cases horder : movement.windowInOrder = true
  case neg => simp [Movement.desiredDeparture, horder]
  cases hdesired : movement.desiredDeparture time with
  | error error => simp [Movement.desiredDeparture, horder] at hdesired
  | ok desired =>
    cases desired with
    | none =>
      refine .inr (.inl ⟨by simp [horder, Except.toOption], by simp [Except.toOption], ?_⟩)
      exact ⟨_, _, rfl⟩
    | some departureAt =>
      cases hhold : movement.holdCause with
      | some cause =>
        have hreleased : movement.isReleased = false := by
          rw [← Bool.not_eq_true, ← holdCause_eq_none, hhold]
          exact Option.some_ne_none cause
        exact .inr (.inl ⟨by simp [horder, hreleased], by simp [hreleased], _, _, rfl⟩)
      | none =>
        have hreleased := holdCause_eq_none.mp hhold
        cases htrial : dispatcher.trial movement departureAt with
        | error error =>
          refine .inl ⟨?_, error, by simp only [htrial]⟩
          simp [hreleased, htrial, Except.toOption, Except.isOk, Except.toBool]
        | ok taken =>
          cases taken with
          | none =>
            refine .inr (.inl ⟨?_, ?_, alternatives ++ ["Bewegung "
              ++ toString movement.id
              ++ " wartet wegen konkret ausgeschöpfter Konfliktressource"],
              .resourceConflict, by simp only [htrial, Movement.waits]⟩)
            · simp [horder, hreleased, htrial, Except.toOption, Except.isOk,
                Except.toBool]
            · simp [hreleased, htrial, Except.toOption]
          | some result =>
            refine .inr (.inr ⟨?_, ?_, departureAt, result.1, result.2, htrial,
              by simp only [htrial]⟩)
            · simp [horder, hreleased, htrial, Except.toOption, Except.isOk,
                Except.toBool]
            · simp [hreleased, htrial, Except.toOption]

lemma consider_fst (dispatcher : VirtualDispatcher) (time : SimTime) (alternatives : List String)
    (movement : Movement) :
    (dispatcher.consider time alternatives movement).1 = dispatcher.next time movement := by
  unfold next consider
  split
  · rfl
  · rfl
  · split
    · rfl
    · split <;> rfl

/-! ### The ledger -/

/-- A ledger that keeps its capacities and its exclusions, and whose capacities were never set. -/
structure Sound (exclusions : ResourceExclusions) (ledger : CapacityLedger) : Prop where
  within : ledger.WithinCapacity
  apart : ledger.PartnersApart
  unset : ledger.capacities = ∅
  exclusive : ledger.exclusions = exclusions

variable {exclusions : ResourceExclusions} {ledger : CapacityLedger} {worldId : WorldId}

lemma Sound.capacity_eq (h : Sound exclusions ledger) (resource : ConflictResource) :
    ledger.capacity worldId resource = 1 := by
  rw [CapacityLedger.capacity, h.unset]
  simp

lemma new_sound (exclusions : ResourceExclusions) :
    Sound exclusions (CapacityLedger.new exclusions) where
  within := CapacityLedger.new_withinCapacity exclusions
  apart := by
    intro worldId first hfirst
    have hheld := (CapacityLedger.mem_reservations.mp hfirst).1
    simp [CapacityLedger.new] at hheld
  unset := rfl
  exclusive := rfl

lemma entries_new : entries worldId (CapacityLedger.new exclusions) = [] := by
  simp [entries, CapacityLedger.reservations, CapacityLedger.new]

/-- A reservation that is taken in stands beside those that are there. -/
lemma tryReserve_taken (h : Sound exclusions ledger) {reservation : ResourceReservation}
    (htaken : (ledger.tryReserve reservation).2 = .ok ()) :
    Sound exclusions (ledger.tryReserve reservation).1 ∧
      (entries reservation.worldId (ledger.tryReserve reservation).1).Perm
        (entries reservation.worldId ledger ++ [(reservation.resource, reservation.span)]) := by
  rcases ledger.tryReserve_cases reservation with
    ⟨conflict, heq⟩ | ⟨-, hfresh, -, -, hexclusions, hcapacities, hreserved⟩
  · rw [heq] at htaken
    cases htaken
  refine ⟨⟨h.within.tryReserve reservation, h.apart.tryReserve reservation,
    hcapacities.trans h.unset, hexclusions.trans h.exclusive⟩, ?_⟩
  have hperm := Registry.toList_insert_perm ledger.reserved reservation.ledgerKey reservation
  rw [Registry.erase_of_none hfresh, ← hreserved] at hperm
  have hworld := ((hperm.filter fun entry =>
    decide (entry.1.worldId = reservation.worldId)).map Prod.snd).map
      fun reservation : ResourceReservation => (reservation.resource, reservation.span)
  rw [List.filter_cons_of_pos (by simp [ResourceReservation.ledgerKey])] at hworld
  exact hworld.trans (List.perm_append_singleton _ _).symm

/-- A copy of the ledger that took all reservations of a movement holds them beside those of the
ledger. -/
lemma reserveAll_taken {items : List (ConflictResource × SimTime × SimTime)}
    {reservationId : ResourceReservationId} {result : CapacityLedger × ResourceReservationId}
    (h : Sound exclusions ledger)
    (htaken : reserveAll worldId ledger reservationId items = .ok (some result)) :
    Sound exclusions result.1
      ∧ (entries worldId result.1).Perm (entries worldId ledger ++ items)
      ∧ (items = [] → result = (ledger, reservationId)) := by
  induction items generalizing ledger reservationId with
  | nil =>
    cases htaken
    exact ⟨h, by simp, fun _ => rfl⟩
  | cons item rest ih =>
    obtain ⟨resource, startsAt, endsAt⟩ := item
    unfold reserveAll at htaken
    split at htaken
    · cases htaken
    next reservation hnew =>
      obtain ⟨hworld, hitem⟩ : reservation.worldId = worldId
          ∧ (reservation.resource, reservation.span) = (resource, startsAt, endsAt) := by
        unfold ResourceReservation.new at hnew
        split at hnew
        · cases hnew
        · cases hnew
          exact ⟨rfl, rfl⟩
      split at htaken
      · cases htaken
      next hreserved =>
        obtain ⟨hsound, hone⟩ := tryReserve_taken h hreserved
        obtain ⟨hafter, hall, -⟩ := ih hsound htaken
        rw [hworld, hitem] at hone
        have hwhole := hall.trans (hone.append_right rest)
        rw [List.append_assoc, List.singleton_append] at hwhole
        exact ⟨hafter, hwhole, fun hnil => absurd hnil (List.cons_ne_nil _ _)⟩

/-! ### All movements of a call -/

/-- What the turn of a movement keeps: the ledger is sound, and it holds what it held and what the
movement reserves if it leaves. -/
lemma consider_keeps (h : Sound exclusions dispatcher.ledger) (time : SimTime)
    (alternatives : List String) (movement : Movement) :
    let after := dispatcher.consider time alternatives movement
    Sound exclusions after.1.ledger ∧ after.1.worldId = dispatcher.worldId
      ∧ after.1.maximumShuntingWaitSeconds = dispatcher.maximumShuntingWaitSeconds
      ∧ after.1.reserved.Perm (dispatcher.reserved ++ reservationsOf
        (after.2.toOption.toList.flatMap fun decision => grantsOf [movement] [decision])) := by
  rcases dispatcher.consider_cases time alternatives movement with
    ⟨-, error, heq⟩ | ⟨-, -, checked, cause, heq⟩ | ⟨-, -, departureAt, ledger, id, htrial, heq⟩
  · rw [heq]
    exact ⟨h, rfl, rfl, by simp [Except.toOption, reservationsOf]⟩
  · rw [heq]
    exact ⟨h, rfl, rfl, by simp [Except.toOption, reservationsOf, grantsOf, Movement.heldBack]⟩
  · rw [heq]
    obtain ⟨hsound, hentries, -⟩ := reserveAll_taken h htrial
    refine ⟨hsound, rfl, rfl, ?_⟩
    simpa [reserved, Except.toOption, reservationsOf, grantsOf, Movement.leaves] using hentries

/-- What the turns of a call keep. -/
lemma considerAll_keeps (dispatcher : VirtualDispatcher) (time : SimTime)
    (movements : List Movement) (alternatives : List String)
    (h : Sound exclusions dispatcher.ledger) :
    let after := considerAll time alternatives dispatcher movements
    Sound exclusions after.1.ledger ∧ after.1.worldId = dispatcher.worldId
      ∧ after.1.maximumShuntingWaitSeconds = dispatcher.maximumShuntingWaitSeconds
      ∧ dispatcher.reserved.Subperm after.1.reserved
      ∧ ∀ decisions, after.2 = .ok decisions →
        after.1.reserved.Perm (dispatcher.reserved ++ reservationsOf (grantsOf movements decisions))
        := by
  induction movements generalizing dispatcher with
  | nil =>
    refine ⟨h, rfl, rfl, .refl _, fun decisions hok => ?_⟩
    simp [considerAll, grantsOf, reservationsOf]
  | cons movement rest ih =>
    obtain ⟨hsound, hworld, hwait, hone⟩ := consider_keeps h time alternatives movement
    have hgrown := (List.sublist_append_left dispatcher.reserved _).subperm.trans hone.symm.subperm
    unfold considerAll
    generalize dispatcher.consider time alternatives movement = turn at *
    obtain ⟨next, outcome⟩ := turn
    cases outcome with
    | error error => exact ⟨hsound, hworld, hwait, hgrown, fun _ hok => nomatch hok⟩
    | ok decision =>
      obtain ⟨hsound', hworld', hwait', hgrown', hall⟩ := ih next hsound
      refine ⟨hsound', hworld'.trans hworld, hwait'.trans hwait, hgrown.trans hgrown',
        fun decisions hok => ?_⟩
      obtain ⟨others, hothers, rfl⟩ := map_eq_ok_iff.mp hok
      have hwhole := (hall others hothers).trans (hone.append_right _)
      refine hwhole.trans (.of_eq ?_)
      simp [Except.toOption, reservationsOf, grantsOf, List.filterMap_cons]
      cases decision.departureAt <;> simp

/-- The turns end with an error exactly when a malformed movement comes up. -/
lemma meetsMalformed_iff (movements : List Movement) (alternatives : List String) :
    meetsMalformed time dispatcher movements = true
      ↔ ∃ error, (considerAll time alternatives dispatcher movements).2 = .error error := by
  induction movements generalizing dispatcher with
  | nil => simp [meetsMalformed, considerAll]
  | cons movement rest ih =>
    have hnext := consider_fst dispatcher time alternatives movement
    unfold meetsMalformed considerAll
    rcases dispatcher.consider_cases time alternatives movement with
      ⟨hbad, error, heq⟩ | ⟨hgood, -, checked, cause, heq⟩ |
      ⟨hgood, -, departureAt, ledger, id, -, heq⟩
    · simp [hbad, heq]
    all_goals
      rw [heq] at hnext
      rw [hgood, Bool.false_or, ← hnext, ih, heq]
      simp [map_eq_error_iff]

lemma ne_of_taken {other : VirtualDispatcher}
    {items : List (ConflictResource × SimTime × SimTime)} (hitems : items ≠ [])
    (h : (dispatcher.reserved ++ items).Subperm other.reserved) : other ≠ dispatcher := by
  rintro rfl
  have hlength := h.length_le
  have hpositive := List.length_pos_iff.mpr hitems
  rw [List.length_append] at hlength
  omega

/-- A call breaks off behind a granted movement exactly when its turns end with an error and the
dispatcher has changed. -/
lemma breaksOff_iff (h : Sound exclusions dispatcher.ledger) (movements : List Movement)
    (alternatives : List String) :
    breaksOff time dispatcher movements = true
      ↔ (∃ error, (considerAll time alternatives dispatcher movements).2 = .error error)
        ∧ (considerAll time alternatives dispatcher movements).1 ≠ dispatcher := by
  induction movements with
  | nil => simp [breaksOff, considerAll]
  | cons movement rest ih =>
    have hnext := consider_fst dispatcher time alternatives movement
    unfold breaksOff considerAll
    rcases dispatcher.consider_cases time alternatives movement with
      ⟨hbad, error, heq⟩ | ⟨hgood, hfree, checked, cause, heq⟩ |
      ⟨hgood, htakes, departureAt, ledger, id, htrial, heq⟩
    · simp [hbad, heq]
    · rw [heq] at hnext
      rw [hgood, hfree, ← hnext, heq]
      simpa [map_eq_error_iff] using ih
    · rw [heq] at hnext
      rw [hgood, htakes, ← hnext, heq]
      obtain ⟨hsound, hentries, hnone⟩ := reserveAll_taken h htrial
      by_cases hempty : movement.reservations = []
      · have hsame := hnone (by simp [Movement.shifted, hempty])
        obtain ⟨rfl, rfl⟩ := Prod.mk.inj hsame
        simpa [hempty, map_eq_error_iff] using ih
      · have hgrown := (considerAll_keeps
          { dispatcher with ledger, nextReservationId := id } time rest alternatives hsound).2.2.2.1
        have hchanged := ne_of_taken (by simpa [Movement.shifted] using hempty)
          (hentries.symm.subperm.trans hgrown)
        simp [hempty, map_eq_error_iff, meetsMalformed_iff rest alternatives, hchanged]

/-! ### Calls -/

lemma considerRanked_keeps (h : Sound exclusions dispatcher.ledger)
    (call : SimTime × List Movement) :
    let after := dispatcher.considerRanked call.1 call.2
    Sound exclusions after.1.ledger ∧ after.1.worldId = dispatcher.worldId
      ∧ dispatcher.reserved.Subperm after.1.reserved
      ∧ ∀ decisions, after.2 = .ok decisions → after.1.reserved.Perm (dispatcher.reserved
        ++ reservationsOf (grantsOf (dispatcher.turns call.1 call.2) decisions)) := by
  obtain ⟨hsound, hworld, -, hgrown, hall⟩ := considerAll_keeps dispatcher call.1
    (dispatcher.turns call.1 call.2) ((dispatcher.turns call.1 call.2).map Movement.label) h
  exact ⟨hsound, hworld, hgrown, hall⟩

lemma coordinate_abroad {call : SimTime × List Movement}
    (hhome : dispatcher.allAtHome call.2 = false) :
    dispatcher.coordinate call.1 call.2 = (dispatcher, .error .wrongWorld)
      ∧ dispatcher.granted call = [] := by
  simp [coordinate, granted, hhome]

lemma coordinate_home {call : SimTime × List Movement}
    (hhome : dispatcher.allAtHome call.2 = true) :
    dispatcher.step call = (dispatcher.considerRanked call.1 call.2).1
      ∧ (∀ error, (dispatcher.coordinate call.1 call.2).2 = .error error
        ↔ (dispatcher.considerRanked call.1 call.2).2 = .error error)
      ∧ dispatcher.granted call = grantsOf (dispatcher.turns call.1 call.2)
        ((dispatcher.considerRanked call.1 call.2).2.toOption.getD []) := by
  simp [step, coordinate, granted, hhome, map_eq_error_iff]

/-- What a call keeps: the ledger is sound, and it holds what it held and what the granted
movements reserve. -/
lemma step_keeps (h : Sound exclusions dispatcher.ledger) (call : SimTime × List Movement) :
    Sound exclusions (dispatcher.step call).ledger
      ∧ (dispatcher.step call).worldId = dispatcher.worldId
      ∧ (dispatcher.reserved ++ reservationsOf (dispatcher.granted call)).Subperm
          (dispatcher.step call).reserved := by
  cases hhome : dispatcher.allAtHome call.2 with
  | false =>
    obtain ⟨hcall, hnone⟩ := coordinate_abroad hhome
    rw [step, hcall, hnone]
    exact ⟨h, rfl, by simp [reservationsOf, List.Subperm.refl]⟩
  | true =>
    obtain ⟨hstep, -, hgranted⟩ := coordinate_home hhome
    obtain ⟨hsound, hworld, hgrown, hall⟩ := considerRanked_keeps h call
    rw [hstep, hgranted]
    refine ⟨hsound, hworld, ?_⟩
    cases hresult : (dispatcher.considerRanked call.1 call.2).2 with
    | error error => simpa [Except.toOption, grantsOf, reservationsOf] using hgrown
    | ok decisions => exact (hall decisions hresult).symm.subperm

/-- A call is undisturbed exactly when an error leaves the dispatcher as it was. -/
lemma undisturbed_iff (h : Sound exclusions dispatcher.ledger) (call : SimTime × List Movement) :
    dispatcher.undisturbed call = true
      ↔ ∀ error, (dispatcher.coordinate call.1 call.2).2 = .error error →
        dispatcher.step call = dispatcher := by
  unfold undisturbed
  cases hhome : dispatcher.allAtHome call.2 with
  | false => simp [step, (coordinate_abroad hhome).1]
  | true =>
    obtain ⟨hstep, herror, -⟩ := coordinate_home hhome
    rw [Bool.not_true, Bool.false_or, Bool.not_eq_true', ← Bool.not_eq_true, hstep,
      breaksOff_iff h (dispatcher.turns call.1 call.2)
        ((dispatcher.turns call.1 call.2).map Movement.label), not_and, not_not]
    simp only [herror]
    exact forall_exists_index

/-- An undisturbed call leaves nothing but the reservations of the granted movements. -/
lemma step_undisturbed (h : Sound exclusions dispatcher.ledger) {call : SimTime × List Movement}
    (hcall : dispatcher.undisturbed call = true) :
    (dispatcher.step call).reserved.Perm
      (dispatcher.reserved ++ reservationsOf (dispatcher.granted call)) := by
  have hsame := (undisturbed_iff h call).mp hcall
  cases hhome : dispatcher.allAtHome call.2 with
  | false =>
    obtain ⟨hrefused, hnone⟩ := coordinate_abroad hhome
    rw [step, hrefused, hnone]
    simp [reservationsOf]
  | true =>
    obtain ⟨hstep, herror, hgranted⟩ := coordinate_home hhome
    cases hresult : (dispatcher.considerRanked call.1 call.2).2 with
    | error error =>
      rw [hsame error ((herror error).mpr hresult), hgranted, hresult]
      simp [Except.toOption, grantsOf, reservationsOf]
    | ok decisions =>
      rw [hstep, hgranted, hresult]
      exact (considerRanked_keeps h call).2.2.2 decisions hresult

/-! ### Histories -/

/-- What a history keeps. -/
lemma history_keeps (h : Sound exclusions dispatcher.ledger)
    (calls : List (SimTime × List Movement)) :
    Sound exclusions (calls.foldl step dispatcher).ledger
      ∧ (calls.foldl step dispatcher).worldId = dispatcher.worldId
      ∧ (dispatcher.reserved ++ dispatcher.grantedReservations calls).Subperm
          (calls.foldl step dispatcher).reserved := by
  induction calls generalizing dispatcher with
  | nil => exact ⟨h, rfl, by simp [grantedReservations, List.Subperm.refl]⟩
  | cons call calls ih =>
    obtain ⟨hsound, hworld, hone⟩ := step_keeps h call
    obtain ⟨hsound', hworld', hall⟩ := ih hsound
    refine ⟨hsound', hworld'.trans hworld, ?_⟩
    rw [grantedReservations, ← List.append_assoc]
    exact ((List.subperm_append_right _).mpr hone).trans hall

lemma history_undisturbed (h : Sound exclusions dispatcher.ledger)
    {calls : List (SimTime × List Movement)}
    (hcalls : AllSteps step undisturbed dispatcher calls = true) :
    (calls.foldl step dispatcher).reserved.Perm
      (dispatcher.reserved ++ dispatcher.grantedReservations calls) := by
  induction calls generalizing dispatcher with
  | nil => simp [grantedReservations]
  | cons call calls ih =>
    rw [AllSteps, Bool.and_eq_true] at hcalls
    have hone := step_undisturbed h hcalls.1
    have hall := ih (step_keeps h call).1 hcalls.2
    rw [grantedReservations, ← List.append_assoc]
    exact hall.trans (hone.append_right _)

lemma Sound.entries_apart (h : Sound exclusions ledger) : (entries worldId ledger).Pairwise
    fun x y => exclusions.MutuallyExclusive x.1 y.1 → ¬ Overlaps x.2 y.2 := by
  have hdifferent : (ledger.reservations worldId).Nodup := by
    refine List.Nodup.map_on ?_ ((Registry.nodup_toList ledger.reserved).filter _)
    rintro ⟨key, reservation⟩ hin ⟨key', reservation'⟩ hin' heq
    obtain rfl : reservation = reservation' := heq
    rw [(ledger.keyed _ _ (Registry.mem_toList.mp (List.mem_of_mem_filter hin))).1,
      (ledger.keyed _ _ (Registry.mem_toList.mp (List.mem_of_mem_filter hin'))).1]
  refine List.pairwise_map.mpr (hdifferent.pairwise_of_forall_ne fun x hx y hy hne hexclusive => ?_)
  exact h.apart worldId x hx y hy hne (h.exclusive.symm ▸ hexclusive) (h.capacity_eq x.resource)
    (h.capacity_eq y.resource)

lemma Sound.entries_within (h : Sound exclusions ledger) (resource : ConflictResource)
    (t : SimTime) :
    (entries worldId ledger).countP (fun item => decide (item.1 = resource ∧ Covers item.2 t))
      ≤ ledger.capacity worldId resource := by
  refine Nat.le_trans (Nat.le_of_eq ?_) (h.within worldId resource t)
  rw [CapacityLedger.loadAt, load, CapacityLedger.intervals, entries, List.countP_map,
    List.countP_map, List.countP_filter]
  refine List.countP_congr fun reservation _ => ?_
  simp only [Function.comp, Bool.and_eq_true, decide_eq_true_eq]
  exact and_comm

/-- **Coordinated movements.**  After any calls the reservations of all granted movements, shifted
to their departures, nowhere exceed the capacity of a resource, and no two of them overlap on
resources that exclude each other.  At every point of the history the ledger holds nothing but
those reservations, and every call that ends with an error leaves the dispatcher as it was, if and
only if no call breaks off behind a movement for which it has taken a reservation. -/
theorem coordination_kept_iff (worldId : WorldId) (exclusions : ResourceExclusions)
    (maximumShuntingWaitSeconds : Int) (calls : List (SimTime × List Movement)) :
    let start := new worldId exclusions maximumShuntingWaitSeconds
    let held := start.grantedReservations calls
    (∀ resource t, held.countP (fun item => decide (item.1 = resource ∧ Covers item.2 t))
      ≤ (calls.foldl step start).ledger.capacity worldId resource) ∧
    (held.Pairwise fun x y => exclusions.MutuallyExclusive x.1 y.1 → ¬ Overlaps x.2 y.2) ∧
    (((∀ past, past <+: calls →
        (past.foldl step start).reserved.Perm (start.grantedReservations past)) ∧
      ∀ past call, past ++ [call] <+: calls →
        ∀ error, ((past.foldl step start).coordinate call.1 call.2).2 = .error error →
          ((past.foldl step start).coordinate call.1 call.2).1 = past.foldl step start)
      ↔ AllSteps step undisturbed start calls = true) := by
  intro start held
  have hsound := new_sound exclusions
  have hnothing : start.reserved = [] := entries_new
  obtain ⟨hafter, hworld, hheld⟩ := @history_keeps start _ hsound calls
  rw [hnothing, List.nil_append, reserved, hworld] at hheld
  refine ⟨fun resource t => ?_, ?_, ⟨fun hkept => ?_, fun hcalls => ⟨?_, ?_⟩⟩⟩
  · exact (hheld.countP_le _).trans (hafter.entries_within resource t)
  · obtain ⟨part, hperm, hsublist⟩ := hheld
    refine (hperm.pairwise_iff fun hxy hexclusive hoverlaps => ?_).mp
      (hafter.entries_apart.sublist hsublist)
    exact hxy hexclusive.symm hoverlaps.symm
  · refine AllSteps.iff_forall.mpr fun past call hpast => ?_
    exact (undisturbed_iff (history_keeps hsound past).1 call).mpr (hkept.2 past call hpast)
  · rintro past ⟨rest, rfl⟩
    have hone := history_undisturbed hsound (AllSteps.append.mp hcalls).1
    rwa [hnothing, List.nil_append] at hone
  · intro past call hpast
    exact (undisturbed_iff (history_keeps hsound past).1 call).mp
      (AllSteps.iff_forall.mp hcalls past call hpast)

/-- A passenger train that asks for a facility over a minute. -/
def passenger (id : ℕ) (departure : DepartureWindow) : Movement where
  worldId := 7
  id := id
  kind := .passenger
  departure := departure
  reservations := [(.facility 1, departure.earliest, departure.earliest + 60)]
  minimumDwellMet := true
  routeSafety := .secured
  departureAuthority := .mainSignal
  personnelAndVehicleReady := true
  affectedConnections := 0
  contractEffectCents := 0
  networkStabilityRank := 0
  rotationEffectRank := 0
  recoverabilityRank := 0
  essentialForRecovery := false
  waitingSince := departure.earliest

/-- Two passenger trains; the window of the second one is out of order. -/
def brokenOff : SimTime × List Movement :=
  (100, [passenger 1 ⟨100, 100, 500⟩, passenger 2 ⟨200, 100, 500⟩])

/-- The call ends with an error and grants nothing, but the first train keeps its reservation. -/
theorem brokenOff_leaves_reservation :
    let start := new 7 ResourceExclusions.new 300
    (start.coordinate brokenOff.1 brokenOff.2).2 = .error .invalidMovement
      ∧ start.granted brokenOff = []
      ∧ (start.coordinate brokenOff.1 brokenOff.2).1.reserved = [(.facility 1, 100, 160)]
      ∧ start.reserved = []
      ∧ (start.coordinate brokenOff.1 brokenOff.2).1.nextReservationId = 2
      ∧ start.nextReservationId = 1 := by
  intro start
  have hturns : start.turns brokenOff.1 brokenOff.2 = brokenOff.2 :=
    List.mergeSort_of_pairwise (by decide +kernel)
  simp only [coordinate, granted, considerRanked, hturns]
  decide +kernel

end VirtualDispatcher

end Zugfolge.Disruption
