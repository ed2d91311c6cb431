/-
Reservations with capacity.

Facilities, stabling and shunting hold a resource over a half-open interval.  A resource
takes as many reservations at once as its capacity says, one unless it was set; worlds
have nothing to do with each other.
-/
import Zugfolge.Conflict.Blocking

namespace Zugfolge.Conflict

open Foundation Std

/-! ### Keys of a world -/

abbrev WorldId : Type := ℕ

abbrev ResourceReservationId : Type := ℕ

/-- A key that is unique within a world only. -/
structure WorldScoped (κ : Type) where
  worldId : WorldId
  key : κ
  deriving DecidableEq

namespace WorldScoped

variable {κ : Type} [Ord κ]

instance : Ord (WorldScoped κ) where
  compare := compareLex (compareOn worldId) (compareOn key)

instance [TransOrd κ] : TransOrd (WorldScoped κ) :=
  inferInstanceAs (TransCmp (compareLex (compareOn worldId) (compareOn key)))

instance [TransOrd κ] [LawfulEqOrd κ] : LawfulEqOrd (WorldScoped κ) :=
  lawfulEq_of_lex fun ⟨_, _⟩ ⟨_, _⟩ => by simp_all [compareOn]

end WorldScoped

/-! ### The ledger -/

/-- A reservation of a resource over the interval from `startsAt` until before `endsAt`. -/
structure ResourceReservation where
  worldId : WorldId
  id : ResourceReservationId
  resource : ConflictResource
  startsAt : SimTime
  endsAt : SimTime
  deriving DecidableEq

/-- Why a call was refused. -/
inductive CapacityConflict where
  | invalidInterval
  | invalidCapacity
  | duplicateReservation
  | exhausted (resource : ConflictResource) (startsAt endsAt : SimTime) (capacity : ℕ)
  | unknownReservation
  deriving DecidableEq

namespace ResourceReservation

/-- Builds a reservation over an interval that is not empty. -/
def new (worldId : WorldId) (id : ResourceReservationId) (resource : ConflictResource)
    (startsAt endsAt : SimTime) : Except CapacityConflict ResourceReservation :=
  if endsAt ≤ startsAt then .error .invalidInterval
  else .ok ⟨worldId, id, resource, startsAt, endsAt⟩

variable (reservation : ResourceReservation)

/-- Start and end of a reservation; the end no longer belongs to it. -/
def span : SimTime × SimTime := (reservation.startsAt, reservation.endsAt)

/-- Two reservations overlap; to touch is no conflict. -/
def overlaps (other : ResourceReservation) : Bool :=
  decide (reservation.startsAt < other.endsAt) && decide (other.startsAt < reservation.endsAt)

def ledgerKey : WorldScoped ResourceReservationId := ⟨reservation.worldId, reservation.id⟩

lemma overlaps_iff {reservation other : ResourceReservation} :
    reservation.overlaps other = true ↔ Overlaps reservation.span other.span := by
  simp [overlaps, Overlaps, span]

end ResourceReservation

/-- The first span over which more than `capacity` intervals lie. -/
def firstCapacityConflict (intervals : List (SimTime × SimTime)) (capacity : ℕ) :
    Option (SimTime × SimTime) := firstOverload intervals capacity

/-- The reservations of all worlds, with the capacities that were set.  Each reservation
lies under its own key and holds an interval that is not empty. -/
structure CapacityLedger where
  exclusions : ResourceExclusions
  capacities : Registry (WorldScoped ConflictResource) ℕ
  reserved : Registry (WorldScoped ResourceReservationId) ResourceReservation
  keyed : ∀ (key : WorldScoped ResourceReservationId) (reservation : ResourceReservation),
    reserved[key]? = some reservation →
      key = reservation.ledgerKey ∧ reservation.startsAt < reservation.endsAt

namespace CapacityLedger

/-- A ledger without reservations. -/
def new (exclusions : ResourceExclusions) : CapacityLedger where
  exclusions := exclusions
  capacities := ∅
  reserved := ∅
  keyed := by simp

variable (ledger : CapacityLedger)

/-- The reservations of a world, in the order of their numbers. -/
def reservations (worldId : WorldId) : List ResourceReservation :=
  (ledger.reserved.toList.filter fun entry => entry.1.worldId = worldId).map Prod.snd

/-- The capacity of a resource, one unless it was set. -/
def capacity (worldId : WorldId) (resource : ConflictResource) : ℕ :=
  (ledger.capacities[(⟨worldId, resource⟩ : WorldScoped ConflictResource)]?).getD 1

/-- The intervals of the reservations on a resource. -/
def intervals (worldId : WorldId) (resource : ConflictResource) : List (SimTime × SimTime) :=
  ((ledger.reservations worldId).filter fun reservation =>
    reservation.resource = resource).map ResourceReservation.span

/-- Sets how many reservations a resource of one world takes at once. -/
def setCapacity (worldId : WorldId) (resource : ConflictResource) (capacity : ℕ) :
    CapacityLedger × Except CapacityConflict Unit :=
  if capacity = 0 then (ledger, .error .invalidCapacity)
  else
    match if capacity < ledger.capacity worldId resource then
        firstCapacityConflict (ledger.intervals worldId resource) capacity else none with
    | some (startsAt, endsAt) =>
      (ledger, .error (.exhausted resource startsAt endsAt capacity))
    | none => ({ ledger with
        capacities := ledger.capacities.insert ⟨worldId, resource⟩ capacity }, .ok ())

/-- The intervals that lie on a resource together with a new reservation: those that
overlap it, cut to its own interval, and its own one. -/
def contested (reservation : ResourceReservation) (resource : ConflictResource) :
    List (SimTime × SimTime) :=
  (((ledger.reservations reservation.worldId).filter fun existing =>
    existing.resource = resource && reservation.overlaps existing).map fun existing =>
      (max existing.startsAt reservation.startsAt, min existing.endsAt reservation.endsAt))
    ++ [(reservation.startsAt, reservation.endsAt)]

/-- What a resource has against a new reservation. -/
def objection (reservation : ResourceReservation) (resource : ConflictResource) :
    Option CapacityConflict :=
  let capacity := ledger.capacity reservation.worldId resource
  (firstCapacityConflict (ledger.contested reservation resource) capacity).map fun span =>
    .exhausted resource span.1 span.2 capacity

/-- The resources that are asked about a new reservation: its own one and those it
excludes. -/
def incompatible (reservation : ResourceReservation) : List ConflictResource :=
  reservation.resource :: ledger.exclusions.excludedBy reservation.resource

/-- Checks a reservation and takes it in. -/
def tryReserve (reservation : ResourceReservation) :
    CapacityLedger × Except CapacityConflict Unit :=
  if h : reservation.endsAt ≤ reservation.startsAt then (ledger, .error .invalidInterval)
  else if ledger.reserved.contains reservation.ledgerKey then
    (ledger, .error .duplicateReservation)
  else
    match (ledger.incompatible reservation).findSome? (ledger.objection reservation) with
    | some conflict => (ledger, .error conflict)
    | none => ({ ledger with
        reserved := ledger.reserved.insert reservation.ledgerKey reservation
        keyed := by
          intro key other hother
          rw [Registry.getElem?_insert] at hother
          split at hother
          next hkey =>
            cases hother
            exact ⟨hkey, Int.not_le.mp h⟩
          · exact ledger.keyed key other hother }, .ok ())

/-- Gives a reservation back. -/
def release (worldId : WorldId) (id : ResourceReservationId) :
    CapacityLedger × Except CapacityConflict ResourceReservation :=
  match ledger.reserved[(⟨worldId, id⟩ : WorldScoped ResourceReservationId)]? with
  | none => (ledger, .error .unknownReservation)
  | some reservation => ({ ledger with
      reserved := ledger.reserved.erase ⟨worldId, id⟩
      keyed := by
        intro key other hother
        rw [Registry.getElem?_erase] at hother
        split at hother
        · cases hother
        · exact ledger.keyed key other hother }, .ok reservation)

/-! ### What the operations do -/

variable {ledger}

variable {resource : ConflictResource} {t : SimTime} {worldId : WorldId}

lemma mem_reservations {reservation : ResourceReservation} :
    reservation ∈ ledger.reservations worldId
      ↔ ledger.reserved[reservation.ledgerKey]? = some reservation
        ∧ reservation.worldId = worldId := by
  simp only [reservations, List.mem_map, List.mem_filter, decide_eq_true_eq, Prod.exists,
    Registry.mem_toList, exists_eq_right]
  constructor
  · rintro ⟨key, hkey, hworld⟩
    obtain rfl := (ledger.keyed key reservation hkey).1
    exact ⟨hkey, hworld⟩
  · rintro ⟨hkey, hworld⟩
    exact ⟨reservation.ledgerKey, hkey, hworld⟩

lemma nonempty_of_mem {reservation : ResourceReservation}
    (h : reservation ∈ ledger.reservations worldId) :
    reservation.startsAt < reservation.endsAt :=
  (ledger.keyed _ _ (mem_reservations.mp h).1).2

lemma mem_incompatible {reservation : ResourceReservation} :
    resource ∈ ledger.incompatible reservation ↔ resource = reservation.resource
      ∨ ledger.exclusions.excludes reservation.resource resource = true := by
  rw [incompatible, List.mem_cons, ResourceExclusions.mem_excludedBy]

lemma intervals_nonempty
    {i : SimTime × SimTime} (h : i ∈ ledger.intervals worldId resource) : i.1 < i.2 := by
  simp only [intervals, List.mem_map, List.mem_filter] at h
  obtain ⟨reservation, ⟨hin, -⟩, rfl⟩ := h
  exact nonempty_of_mem hin

/-- How many reservations hold a resource at an instant. -/
def loadAt (ledger : CapacityLedger) (worldId : WorldId) (resource : ConflictResource)
    (t : SimTime) : ℕ := load (ledger.intervals worldId resource) t

lemma contested_eq (ledger : CapacityLedger) (reservation : ResourceReservation)
    (resource : ConflictResource) :
    ledger.contested reservation resource
      = (((ledger.reservations reservation.worldId).filter fun existing =>
          existing.resource = resource && reservation.overlaps existing).map fun existing =>
            cut existing.span reservation.span) ++ [reservation.span] := rfl

/-- Within its own interval a new reservation contests exactly what lies on the resource. -/
lemma load_contested {reservation : ResourceReservation} (h : Covers reservation.span t) :
    load (ledger.contested reservation resource) t
      = ledger.loadAt reservation.worldId resource t + 1 := by
  rw [contested_eq, load_append, load_singleton h, loadAt, intervals, load, load,
    List.countP_map, List.countP_map, List.countP_filter, List.countP_filter]
  congr 1
  refine List.countP_congr fun existing _ => ?_
  simp only [Function.comp, covers_cut, Bool.and_eq_true, decide_eq_true_eq,
    ResourceReservation.overlaps_iff]
  constructor
  · rintro ⟨⟨hcovers, -⟩, hresource, -⟩
    exact ⟨hcovers, hresource⟩
  · rintro ⟨hcovers, hresource⟩
    exact ⟨⟨hcovers, h⟩, hresource, overlaps_of_covers h hcovers⟩

lemma load_contested_outside {reservation : ResourceReservation} (h : ¬ Covers reservation.span t) :
    load (ledger.contested reservation resource) t = 0 := by
  refine load_eq_zero_iff.mpr fun i hi hcovers => h ?_
  rw [contested_eq, List.mem_append, List.mem_map, List.mem_singleton] at hi
  rcases hi with ⟨existing, -, rfl⟩ | rfl
  · exact (covers_cut.mp hcovers).2
  · exact hcovers

lemma contested_valid {reservation : ResourceReservation}
    (hvalid : reservation.startsAt < reservation.endsAt) {i : SimTime × SimTime}
    (h : i ∈ ledger.contested reservation resource) : i.1 ≤ i.2 := by
  rw [contested_eq, List.mem_append, List.mem_map, List.mem_singleton] at h
  rcases h with ⟨existing, hin, rfl⟩ | rfl
  · rw [List.mem_filter, Bool.and_eq_true, ResourceReservation.overlaps_iff] at hin
    exact (cut_nonempty (nonempty_of_mem hin.1) hvalid hin.2.2.symm).le
  · exact hvalid.le

/-- A resource objects over a span within the new interval where one more reservation is
more than it takes. -/
lemma objection_eq_some {reservation : ResourceReservation}
    {conflict : CapacityConflict} (hvalid : reservation.startsAt < reservation.endsAt)
    (h : ledger.objection reservation resource = some conflict) :
    ∃ startsAt endsAt, conflict = .exhausted resource startsAt endsAt
        (ledger.capacity reservation.worldId resource) ∧ startsAt < endsAt ∧
      ∀ t, Covers (startsAt, endsAt) t → Covers reservation.span t ∧
        ledger.capacity reservation.worldId resource
          < ledger.loadAt reservation.worldId resource t + 1 := by
  obtain ⟨⟨startsAt, endsAt⟩, hfound, rfl⟩ := Option.map_eq_some_iff.mp h
  obtain ⟨hspan, hover⟩ := firstOverload_eq_some (fun _ => contested_valid hvalid) hfound
  refine ⟨startsAt, endsAt, rfl, hspan, fun t ht => ?_⟩
  have hload := hover t ht
  by_cases hown : Covers reservation.span t
  · rw [load_contested hown] at hload
    exact ⟨hown, by exact_mod_cast hload⟩
  · rw [load_contested_outside hown] at hload
    omega

/-- A resource has no objection exactly when one more reservation is not too many at any
instant of the new interval. -/
lemma objection_eq_none_iff {reservation : ResourceReservation}
    (hvalid : reservation.startsAt < reservation.endsAt) :
    ledger.objection reservation resource = none ↔ ∀ t, Covers reservation.span t →
      ledger.loadAt reservation.worldId resource t + 1
        ≤ ledger.capacity reservation.worldId resource := by
  rw [objection, Option.map_eq_none_iff, firstCapacityConflict,
    firstOverload_eq_none_iff (fun _ => contested_valid hvalid) (Int.natCast_nonneg _)]
  constructor
  · intro h t ht
    have := h t
    rw [load_contested ht] at this
    exact_mod_cast this
  · intro h t
    by_cases ht : Covers reservation.span t
    · rw [load_contested ht]
      exact_mod_cast h t ht
    · rw [load_contested_outside ht]
      omega

/-! ### What the operations change -/

/-- A capacity is refused and nothing changes, or it is positive, no lower than the load
if it is lowered, and taken. -/
lemma setCapacity_cases (ledger : CapacityLedger) (worldId : WorldId)
    (resource : ConflictResource) (capacity : ℕ) :
    (∃ conflict, ledger.setCapacity worldId resource capacity = (ledger, .error conflict)
      ∧ (capacity = 0
        ∨ (firstCapacityConflict (ledger.intervals worldId resource) capacity).isSome = true)) ∨
    (0 < capacity ∧ (capacity < ledger.capacity worldId resource →
        ∀ t, ledger.loadAt worldId resource t ≤ capacity) ∧
      ledger.setCapacity worldId resource capacity = ({ ledger with
        capacities := ledger.capacities.insert ⟨worldId, resource⟩ capacity }, .ok ())) := by
  by_cases hzero : capacity = 0
  · exact .inl ⟨.invalidCapacity, by simp [setCapacity, hzero], .inl hzero⟩
  by_cases hlowered : capacity < ledger.capacity worldId resource
  · cases hfound : firstCapacityConflict (ledger.intervals worldId resource) capacity with
    | some span =>
      refine .inl ⟨.exhausted resource span.1 span.2 capacity, ?_, .inr rfl⟩
      simp [setCapacity, hzero, hlowered, hfound]
    | none =>
      refine .inr ⟨Nat.pos_of_ne_zero hzero, fun _ t => ?_, ?_⟩
      · have hload := (firstOverload_eq_none_iff
          (fun _ hi => (intervals_nonempty hi).le) (Int.natCast_nonneg capacity)).mp hfound t
        exact_mod_cast hload
      · simp [setCapacity, hzero, hlowered, hfound]
  · refine .inr ⟨Nat.pos_of_ne_zero hzero, fun h => absurd h hlowered, ?_⟩
    simp [setCapacity, hzero, hlowered]

/-- A reservation is refused and nothing changes, or no asked resource objects and it is
taken in. -/
lemma tryReserve_cases (ledger : CapacityLedger) (reservation : ResourceReservation) :
    (∃ conflict, ledger.tryReserve reservation = (ledger, .error conflict)) ∨
    (reservation.startsAt < reservation.endsAt ∧
      ledger.reserved[reservation.ledgerKey]? = none ∧
      (∀ resource ∈ ledger.incompatible reservation, ∀ t, Covers reservation.span t →
        ledger.loadAt reservation.worldId resource t + 1
          ≤ ledger.capacity reservation.worldId resource) ∧
      (ledger.tryReserve reservation).2 = .ok () ∧
      (ledger.tryReserve reservation).1.exclusions = ledger.exclusions ∧
      (ledger.tryReserve reservation).1.capacities = ledger.capacities ∧
      (ledger.tryReserve reservation).1.reserved
        = ledger.reserved.insert reservation.ledgerKey reservation) := by
  by_cases hvalid : reservation.endsAt ≤ reservation.startsAt
  · exact .inl ⟨.invalidInterval, by simp [tryReserve, hvalid]⟩
  by_cases hknown : ledger.reserved.contains reservation.ledgerKey = true
  · exact .inl ⟨.duplicateReservation, by simp [tryReserve, hvalid, hknown]⟩
  cases hfound : (ledger.incompatible reservation).findSome? (ledger.objection reservation) with
  | some conflict => exact .inl ⟨conflict, by simp [tryReserve, hvalid, hknown, hfound]⟩
  | none =>
    have hspan : reservation.startsAt < reservation.endsAt := Int.not_le.mp hvalid
    refine .inr ⟨hspan, ?_, fun resource hin => ?_, ?_, ?_, ?_, ?_⟩
    · exact Registry.contains_eq_false.mp (Bool.not_eq_true _ ▸ hknown)
    · exact (objection_eq_none_iff hspan).mp
        (List.findSome?_eq_none_iff.mp hfound resource hin)
    all_goals simp [tryReserve, hvalid, hknown, hfound]

/-- A refusal for capacity is the objection of an asked resource. -/
lemma tryReserve_exhausted {reservation : ResourceReservation}
    {startsAt endsAt : SimTime} {capacity : ℕ} (h : (ledger.tryReserve reservation).2
      = .error (.exhausted resource startsAt endsAt capacity)) :
    reservation.startsAt < reservation.endsAt ∧ ∃ asked ∈ ledger.incompatible reservation,
      ledger.objection reservation asked = some (.exhausted resource startsAt endsAt capacity) := by
  rw [tryReserve] at h
  split at h
  · cases h
  next hvalid =>
    split at h
    · cases h
    split at h
    next conflict hfound =>
      cases h
      exact ⟨Int.not_le.mp hvalid, List.exists_of_findSome?_eq_some hfound⟩
    · cases h

/-- An unknown reservation is refused and nothing changes; a known one is erased. -/
lemma release_cases (ledger : CapacityLedger) (worldId : WorldId) (id : ResourceReservationId) :
    (∃ conflict, ledger.release worldId id = (ledger, .error conflict)) ∨
    (∃ reservation, (ledger.release worldId id).2 = .ok reservation ∧
      ledger.reserved[(⟨worldId, id⟩ : WorldScoped ResourceReservationId)]? = some reservation ∧
      (ledger.release worldId id).1.exclusions = ledger.exclusions ∧
      (ledger.release worldId id).1.capacities = ledger.capacities ∧
      (ledger.release worldId id).1.reserved = ledger.reserved.erase ⟨worldId, id⟩) := by
  cases hknown : ledger.reserved[(⟨worldId, id⟩ : WorldScoped ResourceReservationId)]? with
  | none =>
    refine .inl ⟨.unknownReservation, ?_⟩
    rw [release]
    split
    · rfl
    next hsome => simp [hknown] at hsome
  | some reservation =>
    refine .inr ⟨reservation, ?_⟩
    rw [release]
    split
    next hnone => simp [hknown] at hnone
    next other hother =>
      rw [hknown] at hother
      cases hother
      exact ⟨rfl, rfl, rfl, rfl, rfl⟩

/-! ### Loads and entries -/

lemma loadAt_eq (ledger : CapacityLedger) (worldId : WorldId) (resource : ConflictResource)
    (t : SimTime) :
    ledger.loadAt worldId resource t = ledger.reserved.toList.countP fun entry =>
      decide (entry.1.worldId = worldId ∧ entry.2.resource = resource
        ∧ Covers entry.2.span t) := by
  rw [loadAt, load, intervals, reservations, List.countP_map, List.countP_filter,
    List.countP_map, List.countP_filter]
  refine List.countP_congr fun entry _ => ?_
  simp only [Function.comp, Bool.and_eq_true, decide_eq_true_eq]
  tauto

lemma loadAt_of_perm {ledger other : CapacityLedger}
    {entry : WorldScoped ResourceReservationId × ResourceReservation}
    (h : other.reserved.toList.Perm (entry :: ledger.reserved.toList)) (worldId : WorldId)
    (resource : ConflictResource) (t : SimTime) :
    other.loadAt worldId resource t = ledger.loadAt worldId resource t
      + if entry.1.worldId = worldId ∧ entry.2.resource = resource ∧ Covers entry.2.span t
        then 1 else 0 := by
  rw [loadAt_eq, loadAt_eq, h.countP_eq, List.countP_cons]
  simp only [decide_eq_true_eq]

/-- Two different reservations that hold a resource at an instant load it twice. -/
lemma two_le_loadAt {first second : ResourceReservation}
    (hfirst : first ∈ ledger.reservations worldId)
    (hsecond : second ∈ ledger.reservations worldId) (hdifferent : first ≠ second)
    (hresource : first.resource = second.resource) (hcovers : Covers first.span t)
    (hcovers' : Covers second.span t) : 2 ≤ ledger.loadAt worldId first.resource t := by
  obtain ⟨hkey, hworld⟩ := mem_reservations.mp hfirst
  obtain ⟨hkey', hworld'⟩ := mem_reservations.mp hsecond
  have hkeys : second.ledgerKey ≠ first.ledgerKey := by
    intro heq
    rw [heq, hkey] at hkey'
    exact hdifferent (Option.some.inj hkey')
  have hrest : 0 < (ledger.reserved.erase first.ledgerKey).toList.countP fun entry =>
      decide (entry.1.worldId = worldId ∧ entry.2.resource = first.resource
        ∧ Covers entry.2.span t) := by
    refine List.countP_pos_iff.mpr ⟨(second.ledgerKey, second), ?_, ?_⟩
    · rw [Registry.mem_toList, Registry.getElem?_erase, if_neg hkeys]
      exact hkey'
    · exact decide_eq_true ⟨hworld', hresource.symm, hcovers'⟩
  rw [loadAt_eq, (Registry.toList_perm_cons hkey).countP_eq, List.countP_cons,
    if_pos (decide_eq_true ⟨hworld, rfl, hcovers⟩)]
  omega

end CapacityLedger

end Zugfolge.Conflict
