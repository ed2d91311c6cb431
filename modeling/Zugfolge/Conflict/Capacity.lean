/-
Capacity over histories of calls.

Any calls of a capacity ledger, accepted and refused ones in any order, starting from a
ledger without reservations.

* `capacity_kept`: no capacity is exceeded, a refusal changes nothing, and a call leaves other
  worlds alone;
* `CapacityLedger.PartnersApart`, `leavesPartnersApart`, `partnersApart_iff`: which calls
  keep resources apart that exclude each other.
-/
import Zugfolge.Conflict.Reservation
import Zugfolge.Foundation.Histories

namespace Zugfolge.Conflict

open Foundation Std

/-! ### Calls as steps -/

/-- A call of a capacity ledger. -/
inductive CapacityCommand where
  | setCapacity (worldId : WorldId) (resource : ConflictResource) (capacity : ℕ)
  | tryReserve (reservation : ResourceReservation)
  | release (worldId : WorldId) (id : ResourceReservationId)

/-- The world a call is about. -/
def CapacityCommand.worldId : CapacityCommand → WorldId
  | setCapacity worldId _ _ => worldId
  | tryReserve reservation => reservation.worldId
  | release worldId _ => worldId

def errorOf {α : Type} : Except CapacityConflict α → Option CapacityConflict
  | .ok _ => none
  | .error conflict => some conflict

namespace CapacityLedger

variable {ledger : CapacityLedger}

/-- The ledger after a call. -/
def apply (ledger : CapacityLedger) : CapacityCommand → CapacityLedger
  | .setCapacity worldId resource capacity => (ledger.setCapacity worldId resource capacity).1
  | .tryReserve reservation => (ledger.tryReserve reservation).1
  | .release worldId id => (ledger.release worldId id).1

/-- The error a call returns. -/
def refusal (ledger : CapacityLedger) : CapacityCommand → Option CapacityConflict
  | .setCapacity worldId resource capacity =>
    errorOf (ledger.setCapacity worldId resource capacity).2
  | .tryReserve reservation => errorOf (ledger.tryReserve reservation).2
  | .release worldId id => errorOf (ledger.release worldId id).2

/-- A call that returns an error leaves the ledger unchanged. -/
lemma apply_of_refusal {command : CapacityCommand} {conflict : CapacityConflict}
    (h : ledger.refusal command = some conflict) : ledger.apply command = ledger := by
  cases command with
  | setCapacity worldId resource capacity =>
    rw [refusal] at h
    rcases ledger.setCapacity_cases worldId resource capacity with
      ⟨other, heq, -⟩ | ⟨-, -, heq⟩
    · rw [apply, heq]
    · rw [heq] at h
      cases h
  | tryReserve reservation =>
    rw [refusal] at h
    rcases ledger.tryReserve_cases reservation with ⟨other, heq⟩ | ⟨-, -, -, hok, -⟩
    · rw [apply, heq]
    · rw [hok] at h
      cases h
  | release worldId id =>
    rw [refusal] at h
    rcases ledger.release_cases worldId id with ⟨other, heq⟩ | ⟨reservation, hok, -⟩
    · rw [apply, heq]
    · rw [hok] at h
      cases h

/-! ### The entries of a world -/

/-- Ledgers with the same entries of a world have the same reservations in it. -/
lemma reservations_congr {ledger other : CapacityLedger} {worldId : WorldId}
    (h : ∀ key : WorldScoped ResourceReservationId, key.worldId = worldId →
      other.reserved[key]? = ledger.reserved[key]?) :
    other.reservations worldId = ledger.reservations worldId := by
  have hfilter : other.reserved.filter (fun key _ => decide (key.worldId = worldId))
      = ledger.reserved.filter fun key _ => decide (key.worldId = worldId) := by
    refine ExtTreeMap.ext_getElem? fun key => ?_
    rw [Registry.getElem?_filter, Registry.getElem?_filter]
    by_cases hkey : key.worldId = worldId
    · rw [h key hkey]
    · simp [hkey]
  have hlists := congrArg ExtTreeMap.toList hfilter
  rw [ExtTreeMap.toList_filter, ExtTreeMap.toList_filter] at hlists
  exact congrArg (List.map Prod.snd) hlists

lemma capacity_insert (ledger : CapacityLedger) (worldId other : WorldId)
    (resource asked : ConflictResource) (capacity : ℕ) :
    CapacityLedger.capacity { ledger with
        capacities := ledger.capacities.insert ⟨worldId, resource⟩ capacity } other asked
      = if other = worldId ∧ asked = resource then capacity else ledger.capacity other asked := by
  rw [CapacityLedger.capacity, Registry.getElem?_insert, CapacityLedger.capacity]
  by_cases h : other = worldId ∧ asked = resource
  · simp [h]
  · simp [h]

lemma capacity_congr {ledger other : CapacityLedger}
    (h : other.capacities = ledger.capacities) (worldId : WorldId)
    (resource : ConflictResource) :
    other.capacity worldId resource = ledger.capacity worldId resource := by
  rw [capacity, capacity, h]

/-- A call changes nothing in another world. -/
lemma apply_other_world (ledger : CapacityLedger) (command : CapacityCommand)
    {worldId : WorldId} (h : worldId ≠ command.worldId) :
    (ledger.apply command).reservations worldId = ledger.reservations worldId
      ∧ ∀ resource, (ledger.apply command).capacity worldId resource
        = ledger.capacity worldId resource := by
  cases command with
  | setCapacity other resource capacity =>
    rw [apply]
    rcases ledger.setCapacity_cases other resource capacity with
      ⟨conflict, heq, -⟩ | ⟨-, -, heq⟩
    · rw [heq]
      exact ⟨rfl, fun _ => rfl⟩
    · rw [heq]
      refine ⟨rfl, fun asked => ?_⟩
      rw [capacity_insert, if_neg fun hsame => h hsame.1]
  | tryReserve reservation =>
    rw [apply]
    rcases ledger.tryReserve_cases reservation with
      ⟨conflict, heq⟩ | ⟨-, -, -, -, -, hcapacities, hreserved⟩
    · rw [heq]
      exact ⟨rfl, fun _ => rfl⟩
    · refine ⟨reservations_congr fun key hkey => ?_, capacity_congr hcapacities worldId⟩
      rw [hreserved, Registry.getElem?_insert, if_neg]
      rintro rfl
      exact h hkey.symm
  | release other id =>
    rw [apply]
    rcases ledger.release_cases other id with
      ⟨conflict, heq⟩ | ⟨reservation, -, -, -, hcapacities, hreserved⟩
    · rw [heq]
      exact ⟨rfl, fun _ => rfl⟩
    · refine ⟨reservations_congr fun key hkey => ?_, capacity_congr hcapacities worldId⟩
      rw [hreserved, Registry.getElem?_erase, if_neg]
      rintro rfl
      exact h hkey.symm

/-! ### Capacity is kept -/

/-- No resource of any world holds more reservations at an instant than it takes. -/
def WithinCapacity (ledger : CapacityLedger) : Prop :=
  ∀ worldId resource t, ledger.loadAt worldId resource t ≤ ledger.capacity worldId resource

lemma new_withinCapacity (exclusions : ResourceExclusions) :
    (new exclusions).WithinCapacity := by
  intro worldId resource t
  have hempty : (new exclusions).reserved.toList = [] := by simp [new]
  rw [loadAt_eq, hempty]
  exact Nat.zero_le _

/-- A lowered capacity is checked against the load. -/
lemma WithinCapacity.setCapacity (h : ledger.WithinCapacity) (worldId : WorldId)
    (resource : ConflictResource) (capacity : ℕ) :
    (ledger.setCapacity worldId resource capacity).1.WithinCapacity := by
  rcases ledger.setCapacity_cases worldId resource capacity with
    ⟨conflict, heq, -⟩ | ⟨-, hlowered, heq⟩
  · rw [heq]
    exact h
  · rw [heq]
    intro other asked t
    rw [capacity_insert]
    change ledger.loadAt other asked t ≤ _
    split
    next hsame =>
      obtain ⟨rfl, rfl⟩ := hsame
      by_cases hless : capacity < ledger.capacity other asked
      · exact hlowered hless t
      · exact (h other asked t).trans (Nat.le_of_not_lt hless)
    · exact h other asked t

/-- A new reservation loads its own resource only, where there is room for it. -/
lemma WithinCapacity.tryReserve (h : ledger.WithinCapacity)
    (reservation : ResourceReservation) : (ledger.tryReserve reservation).1.WithinCapacity := by
  rcases ledger.tryReserve_cases reservation with
    ⟨conflict, heq⟩ | ⟨-, hfresh, hroom, -, -, hcapacities, hreserved⟩
  · rw [heq]
    exact h
  · intro worldId resource t
    have hperm := Registry.toList_insert_perm ledger.reserved reservation.ledgerKey reservation
    rw [Registry.erase_of_none hfresh, ← hreserved] at hperm
    rw [loadAt_of_perm hperm, capacity_congr hcapacities]
    split
    next hheld =>
      obtain ⟨hworld, hresource, hcovers⟩ := hheld
      have hown := hroom reservation.resource List.mem_cons_self t hcovers
      rw [← hworld, ← hresource]
      exact hown
    · exact h worldId resource t

lemma WithinCapacity.release (h : ledger.WithinCapacity) (worldId : WorldId)
    (id : ResourceReservationId) : (ledger.release worldId id).1.WithinCapacity := by
  rcases ledger.release_cases worldId id with
    ⟨conflict, heq⟩ | ⟨reservation, -, hknown, -, hcapacities, hreserved⟩
  · rw [heq]
    exact h
  · intro other resource t
    have hperm := Registry.toList_perm_cons hknown
    rw [← hreserved] at hperm
    have hload := loadAt_of_perm hperm other resource t
    rw [capacity_congr hcapacities]
    exact (Nat.le_add_right _ _).trans (hload.symm.le.trans (h other resource t))

lemma WithinCapacity.apply (h : ledger.WithinCapacity) (command : CapacityCommand) :
    (ledger.apply command).WithinCapacity := by
  cases command with
  | setCapacity worldId resource capacity => exact h.setCapacity worldId resource capacity
  | tryReserve reservation => exact h.tryReserve reservation
  | release worldId id => exact h.release worldId id

/-- **Capacity is kept.**  After any calls no resource of any world holds more reservations
at an instant than its capacity; a reservation is refused for capacity only where one more
would be too many on its own resource or on one that its resource excludes; a refused call
changes nothing, and no call changes another world. -/
theorem capacity_kept (exclusions : ResourceExclusions) (commands : List CapacityCommand) :
    let ledger := commands.foldl apply (new exclusions)
    (∀ worldId resource t,
      ledger.loadAt worldId resource t ≤ ledger.capacity worldId resource) ∧
    (∀ (reservation : ResourceReservation) (resource : ConflictResource)
      (startsAt endsAt : SimTime) (capacity : ℕ),
      (ledger.tryReserve reservation).2
          = .error (.exhausted resource startsAt endsAt capacity) →
        (resource = reservation.resource
          ∨ ledger.exclusions.excludes reservation.resource resource = true) ∧
        capacity = ledger.capacity reservation.worldId resource ∧ startsAt < endsAt ∧
        ∀ t, Covers (startsAt, endsAt) t → Covers reservation.span t
          ∧ capacity < ledger.loadAt reservation.worldId resource t + 1) ∧
    (∀ command conflict, ledger.refusal command = some conflict →
      ledger.apply command = ledger) ∧
    ∀ command worldId, worldId ≠ command.worldId →
      (ledger.apply command).reservations worldId = ledger.reservations worldId
        ∧ ∀ resource, (ledger.apply command).capacity worldId resource
          = ledger.capacity worldId resource := by
  intro ledger
  have hwithin : ledger.WithinCapacity :=
    foldl_invariant (fun _ command h => h.apply command) (new_withinCapacity exclusions) commands
  refine ⟨hwithin, fun reservation resource startsAt endsAt capacity hrefused => ?_,
    fun _ _ => apply_of_refusal, fun command _ => ledger.apply_other_world command⟩
  obtain ⟨hvalid, asked, hasked, hobjection⟩ := tryReserve_exhausted hrefused
  obtain ⟨startsAt', endsAt', heq, hspan, hover⟩ := objection_eq_some hvalid hobjection
  cases heq
  exact ⟨mem_incompatible.mp hasked, rfl, hspan, hover⟩

/-- The first route of the station head held for ten seconds. -/
def headReservation : CapacityCommand := .tryReserve ⟨1, 1, .route 3 1, 0, 10⟩

/-- The second route is refused although nothing holds it: the first one excludes it. -/
theorem excluded_route_refused :
    let ledger := [headReservation].foldl apply (new StationHead.exclusions)
    let reservation : ResourceReservation := ⟨1, 2, .route 3 2, 0, 10⟩
    (ledger.tryReserve reservation).2 = .error (.exhausted (.route 3 1) 0 10 1)
      ∧ ∀ t, ledger.loadAt 1 reservation.resource t + 1
        ≤ ledger.capacity 1 reservation.resource := by
  intro ledger reservation
  refine ⟨by decide +kernel, fun t => ?_⟩
  have hfree : ledger.intervals 1 reservation.resource = [] := by decide +kernel
  have hcapacity : ledger.capacity 1 reservation.resource = 1 := by decide +kernel
  rw [loadAt, hfree, hcapacity]
  exact le_rfl

/-! ### Resources that exclude each other -/

/-- No two reservations on mutually exclusive resources of capacity one overlap. -/
def PartnersApart (ledger : CapacityLedger) : Prop :=
  ∀ worldId, ∀ first ∈ ledger.reservations worldId, ∀ second ∈ ledger.reservations worldId,
    first ≠ second → ledger.exclusions.MutuallyExclusive first.resource second.resource →
    ledger.capacity worldId first.resource = 1 → ledger.capacity worldId second.resource = 1 →
      ¬ Overlaps first.span second.span

/-- A reservation on the resource overlaps one on another resource of capacity one, and the
two resources exclude each other. -/
def meetsPartner (ledger : CapacityLedger) (worldId : WorldId) (resource : ConflictResource) :
    Bool :=
  (ledger.reservations worldId).any fun first =>
    first.resource = resource && (ledger.reservations worldId).any fun second =>
      second.resource ≠ resource
        && decide (ledger.exclusions.MutuallyExclusive resource second.resource)
        && ledger.capacity worldId second.resource = 1 && first.overlaps second

/-- The call does not set the capacity of a resource to one while a reservation on it
overlaps one on a partner of capacity one, unless the resource itself is overloaded, so
that the call is refused. -/
def leavesPartnersApart (ledger : CapacityLedger) : CapacityCommand → Bool
  | .setCapacity worldId resource capacity => capacity ≠ 1
      || (firstCapacityConflict (ledger.intervals worldId resource) 1).isSome
      || !ledger.meetsPartner worldId resource
  | .tryReserve _ => true
  | .release _ _ => true

lemma meetsPartner_iff {worldId : WorldId} {resource : ConflictResource} :
    ledger.meetsPartner worldId resource = true ↔
      ∃ first ∈ ledger.reservations worldId, first.resource = resource ∧
        ∃ second ∈ ledger.reservations worldId, second.resource ≠ resource ∧
          ledger.exclusions.MutuallyExclusive resource second.resource ∧
          ledger.capacity worldId second.resource = 1 ∧ Overlaps first.span second.span := by
  simp only [meetsPartner, List.any_eq_true, Bool.and_eq_true, decide_eq_true_eq,
    ResourceReservation.overlaps_iff, and_assoc]

lemma WithinCapacity.apart (h : ledger.WithinCapacity) {worldId : WorldId}
    {first second : ResourceReservation} (hfirst : first ∈ ledger.reservations worldId)
    (hsecond : second ∈ ledger.reservations worldId) (hdifferent : first ≠ second)
    (hresource : first.resource = second.resource)
    (hcapacity : ledger.capacity worldId first.resource = 1) :
    ¬ Overlaps first.span second.span := by
  intro hoverlaps
  obtain ⟨t, hcovers, hcovers'⟩ := hoverlaps.exists_covers (nonempty_of_mem hfirst)
    (nonempty_of_mem hsecond)
  have hload := two_le_loadAt hfirst hsecond hdifferent hresource hcovers hcovers'
  have hroom := h worldId first.resource t
  omega

/-- A resource within its capacity is refused a lower one only if the lower one is
overloaded. -/
lemma overloaded_eq_false {worldId : WorldId} {resource : ConflictResource} {capacity : ℕ}
    (h : ∀ t, ledger.loadAt worldId resource t ≤ capacity) :
    (firstCapacityConflict (ledger.intervals worldId resource) capacity).isSome = false := by
  rw [Option.isSome_eq_false_iff, Option.isNone_iff_eq_none, firstCapacityConflict,
    firstOverload_eq_none_iff (fun _ hi => (intervals_nonempty hi).le)
      (Int.natCast_nonneg capacity)]
  intro t
  exact_mod_cast h t

/-- A new reservation stays apart from the reservations of all partners of capacity one. -/
lemma PartnersApart.tryReserve (h : ledger.PartnersApart) (reservation : ResourceReservation) :
    (ledger.tryReserve reservation).1.PartnersApart := by
  rcases ledger.tryReserve_cases reservation with
    ⟨conflict, heq⟩ | ⟨hvalid, hfresh, hroom, -, hexclusions, hcapacities, hreserved⟩
  · rw [heq]
    exact h
  -- every reservation is the new one or an old one
  have hsplit : ∀ worldId other,
      other ∈ (ledger.tryReserve reservation).1.reservations worldId →
      other = reservation ∧ worldId = reservation.worldId
        ∨ other ∈ ledger.reservations worldId := by
    intro worldId other hin
    rw [mem_reservations, hreserved, Registry.getElem?_insert] at hin
    obtain ⟨hkey, hworld⟩ := hin
    split at hkey
    · cases hkey
      exact .inl ⟨rfl, hworld.symm⟩
    · exact .inr (mem_reservations.mpr ⟨hkey, hworld⟩)
  -- the new one stays apart from every old one of a partner
  have hnew : ∀ other ∈ ledger.reservations reservation.worldId,
      ledger.exclusions.MutuallyExclusive reservation.resource other.resource →
      ledger.capacity reservation.worldId other.resource = 1 →
        ¬ Overlaps reservation.span other.span := by
    intro other hin hexclusive hcapacity hoverlaps
    obtain ⟨t, hcovers, hcovers'⟩ := hoverlaps.exists_covers hvalid (nonempty_of_mem hin)
    have hload := hroom other.resource (mem_incompatible.mpr (.inr hexclusive.1)) t hcovers
    have hheld : 0 < ledger.loadAt reservation.worldId other.resource t := by
      refine load_pos_iff.mpr ⟨other.span, ?_, hcovers'⟩
      refine List.mem_map_of_mem (List.mem_filter.mpr ⟨hin, decide_eq_true rfl⟩)
    omega
  intro worldId first hfirst second hsecond hdifferent hexclusive hone hone'
  rw [hexclusions] at hexclusive
  rw [capacity_congr hcapacities] at hone hone'
  rcases hsplit worldId first hfirst with ⟨rfl, rfl⟩ | hold
  · rcases hsplit _ second hsecond with ⟨rfl, -⟩ | hold'
    · exact absurd rfl hdifferent
    · exact hnew second hold' hexclusive hone'
  · rcases hsplit worldId second hsecond with ⟨rfl, rfl⟩ | hold'
    · exact fun hoverlaps => hnew first hold hexclusive.symm hone hoverlaps.symm
    · exact h worldId first hold second hold' hdifferent hexclusive hone hone'

/-- Giving back a reservation keeps the others apart. -/
lemma PartnersApart.release (h : ledger.PartnersApart) (worldId : WorldId)
    (id : ResourceReservationId) : (ledger.release worldId id).1.PartnersApart := by
  rcases ledger.release_cases worldId id with
    ⟨conflict, heq⟩ | ⟨reservation, -, -, hexclusions, hcapacities, hreserved⟩
  · rw [heq]
    exact h
  have hold : ∀ worldId' other,
      other ∈ (ledger.release worldId id).1.reservations worldId' →
        other ∈ ledger.reservations worldId' := by
    intro worldId' other hin
    rw [mem_reservations, hreserved, Registry.getElem?_erase] at hin
    obtain ⟨hkey, hworld⟩ := hin
    split at hkey
    · cases hkey
    · exact mem_reservations.mpr ⟨hkey, hworld⟩
  intro worldId' first hfirst second hsecond hdifferent hexclusive hone hone'
  rw [hexclusions] at hexclusive
  rw [capacity_congr hcapacities] at hone hone'
  exact h worldId' first (hold _ _ hfirst) second (hold _ _ hsecond) hdifferent hexclusive
    hone hone'

/-- A capacity that is set keeps partners apart exactly when no reservation on the resource
meets one on a partner. -/
lemma PartnersApart.setCapacity_iff (h : ledger.PartnersApart) (hwithin : ledger.WithinCapacity)
    (worldId : WorldId) (resource : ConflictResource) (capacity : ℕ) :
    (ledger.setCapacity worldId resource capacity).1.PartnersApart
      ↔ ledger.leavesPartnersApart (.setCapacity worldId resource capacity) = true := by
  have hwithin' := hwithin.setCapacity worldId resource capacity
  simp only [leavesPartnersApart, Bool.or_eq_true, decide_eq_true_eq, Bool.not_eq_true',
    ← Bool.not_eq_true, meetsPartner_iff]
  rcases ledger.setCapacity_cases worldId resource capacity with
    ⟨conflict, heq, hreason⟩ | ⟨hpositive, -, heq⟩
  · rw [heq]
    refine ⟨fun _ => .inl ?_, fun _ => h⟩
    rcases hreason with rfl | hoverloaded
    · exact .inl (by decide)
    · by_cases hone : capacity = 1
      · subst hone
        exact .inr hoverloaded
      · exact .inl hone
  rw [heq] at hwithin' ⊢
  -- the load is within the new capacity, too
  have hload : ∀ t, ledger.loadAt worldId resource t ≤ capacity := by
    intro t
    have := hwithin' worldId resource t
    rw [capacity_insert, if_pos ⟨rfl, rfl⟩] at this
    exact this
  constructor
  · intro hafter
    by_cases hone : capacity = 1
    · refine .inr ?_
      rintro ⟨first, hfirst, rfl, second, hsecond, hother, hexclusive, hcapacity, hoverlaps⟩
      refine hafter worldId first hfirst second hsecond (fun heq' => hother (heq' ▸ rfl))
        hexclusive ?_ ?_ hoverlaps
      · rw [capacity_insert, if_pos ⟨rfl, rfl⟩, hone]
      · rw [capacity_insert, if_neg fun hsame => hother hsame.2]
        exact hcapacity
    · exact .inl (.inl hone)
  · intro hcondition
    -- one of the two reservations lies on the resource, the other on a partner
    have hpartner : ∀ first ∈ ledger.reservations worldId, first.resource = resource →
        ∀ second ∈ ledger.reservations worldId, second.resource ≠ resource →
        ledger.exclusions.MutuallyExclusive resource second.resource → capacity = 1 →
        ledger.capacity worldId second.resource = 1 → ¬ Overlaps first.span second.span := by
      intro first hfirst hresource second hsecond hother hexclusive hone hcapacity hoverlaps
      rcases hcondition with (hne | hoverloaded) | hmeets
      · exact hne hone
      · subst hone
        rw [overloaded_eq_false hload] at hoverloaded
        cases hoverloaded
      · exact hmeets ⟨first, hfirst, hresource, second, hsecond, hother, hexclusive, hcapacity,
          hoverlaps⟩
    intro other first hfirst second hsecond hdifferent hexclusive hone hone'
    rw [capacity_insert] at hone hone'
    by_cases hworld : other = worldId
    · subst hworld
      by_cases hresource : first.resource = resource
      · rw [if_pos ⟨rfl, hresource⟩] at hone
        by_cases hresource' : second.resource = resource
        · refine hwithin'.apart hfirst hsecond hdifferent (hresource.trans hresource'.symm) ?_
          rw [capacity_insert, if_pos ⟨rfl, hresource⟩, hone]
        · rw [if_neg fun hsame => hresource' hsame.2] at hone'
          exact hpartner first hfirst hresource second hsecond hresource'
            (hresource ▸ hexclusive) hone hone'
      · rw [if_neg fun hsame => hresource hsame.2] at hone
        by_cases hresource' : second.resource = resource
        · rw [if_pos ⟨rfl, hresource'⟩] at hone'
          exact fun hoverlaps => hpartner second hsecond hresource' first hfirst hresource
            (hresource' ▸ hexclusive.symm) hone' hone hoverlaps.symm
        · rw [if_neg fun hsame => hresource' hsame.2] at hone'
          exact h other first hfirst second hsecond hdifferent hexclusive hone hone'
    · rw [if_neg fun hsame => hworld hsame.1] at hone hone'
      exact h other first hfirst second hsecond hdifferent hexclusive hone hone'

/-- **Which calls keep partners apart.**  In every state a history of calls reaches, no two
reservations on mutually exclusive resources of capacity one overlap, if and only if no
call of the history sets the capacity of a resource to one while a reservation on it
overlaps one on a partner of capacity one. -/
theorem partnersApart_iff (exclusions : ResourceExclusions) (commands : List CapacityCommand) :
    (∀ past, past <+: commands → (past.foldl apply (new exclusions)).PartnersApart)
      ↔ AllSteps apply leavesPartnersApart (new exclusions) commands = true := by
  have hnew : (new exclusions).WithinCapacity ∧ (new exclusions).PartnersApart := by
    refine ⟨new_withinCapacity exclusions, fun worldId first hfirst => ?_⟩
    have := (mem_reservations.mp hfirst).1
    simp [new] at this
  have hstep : ∀ (ledger : CapacityLedger) (command : CapacityCommand),
      ledger.WithinCapacity ∧ ledger.PartnersApart →
      ((ledger.apply command).WithinCapacity ∧ (ledger.apply command).PartnersApart
        ↔ ledger.leavesPartnersApart command = true) := by
    rintro ledger command ⟨hwithin, h⟩
    rw [and_iff_right (hwithin.apply command)]
    cases command with
    | setCapacity worldId resource capacity =>
      exact h.setCapacity_iff hwithin worldId resource capacity
    | tryReserve reservation => exact ⟨fun _ => rfl, fun _ => h.tryReserve reservation⟩
    | release worldId id => exact ⟨fun _ => rfl, fun _ => h.release worldId id⟩
  rw [← AllSteps.iff_invariant hstep hnew]
  refine forall₂_congr fun past _ => ?_
  rw [and_iff_right]
  exact foldl_invariant (fun _ command h => h.apply command) (new_withinCapacity exclusions) past

/-- A route of capacity two is held beside its partner; then its capacity is lowered. -/
def loweredRoute : List CapacityCommand :=
  [.setCapacity 1 (.route 3 1) 2, headReservation, .tryReserve ⟨1, 2, .route 3 2, 0, 10⟩,
    .setCapacity 1 (.route 3 1) 1]

/-- Lowering a capacity does not look at the partners of the resource. -/
theorem loweredRoute_not_apart :
    ¬ (loweredRoute.foldl apply (new StationHead.exclusions)).PartnersApart := by
  intro h
  have hfirst : (⟨1, 1, .route 3 1, 0, 10⟩ : ResourceReservation)
      ∈ (loweredRoute.foldl apply (new StationHead.exclusions)).reservations 1 := by
    decide +kernel
  have hsecond : (⟨1, 2, .route 3 2, 0, 10⟩ : ResourceReservation)
      ∈ (loweredRoute.foldl apply (new StationHead.exclusions)).reservations 1 := by
    decide +kernel
  exact h 1 _ hfirst _ hsecond (by decide) (by decide +kernel) (by decide +kernel)
    (by decide +kernel) (by decide)

end CapacityLedger

end Zugfolge.Conflict
