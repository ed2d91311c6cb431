/-
Seats on the segments of trains.

Every segment notes which seats are occupied and, for each class, where the search for a free one
begins.  A seat for a whole leg is searched from the largest of these numbers on.

* `cached_of_reached`: the number that a segment notes is its least free seat;
* `reservedSeat_eq_some_iff`: the seat found for a leg is the least one free on all its segments;
* `seatPlan_reserves`: a plan reserves these seats, and which legs leave a journey without a plan.
-/
import Mathlib.Data.List.Perm.Subperm
import Zugfolge.Foundation.Collect
import Zugfolge.Foundation.Machine

namespace Zugfolge.Demand

open Foundation

/-! ### Legs and segments -/

inductive ComfortClassV1 where
  | standard | premium
  deriving DecidableEq

/-- What a passenger needs space for. -/
inductive SpaceNeedsV1 where
  | ordinary | wheelchair | bicycle | stroller

/-- What a passenger asks of a train. -/
structure DemandProfileV1 where
  comfortClass : ComfortClassV1
  spaceNeeds : SpaceNeedsV1
  requiresReservation : Bool

/-- What a train offers on each segment. -/
structure TrainCapacityV1 where
  standardSeats : ℕ
  standardStanding : ℕ
  premiumSeats : ℕ
  wheelchairSpaces : ℕ
  bicycleSpaces : ℕ
  strollerSpaces : ℕ

def TrainCapacityV1.seats (capacity : TrainCapacityV1) : ComfortClassV1 → ℕ
  | .premium => capacity.premiumSeats
  | .standard => capacity.standardSeats

/-- A leg of a journey: a service between two of its stops. -/
structure Leg where
  service : ℕ
  board : ℕ
  alight : ℕ
  reservationRequired : Bool

/-- What is taken on a segment. -/
structure SegmentUsage where
  standard : KeySet ℕ
  premium : KeySet ℕ
  standing : ℕ
  nextStandardSeat : ℕ
  nextPremiumSeat : ℕ
  wheelchair : ℕ
  bicycle : ℕ
  stroller : ℕ

/-- The segments of every service. -/
abbrev Usage : Type := List (List SegmentUsage)

namespace SegmentUsage

variable (usage : SegmentUsage)

/-- The occupied seats of a class. -/
def occupied : ComfortClassV1 → KeySet ℕ
  | .premium => usage.premium
  | .standard => usage.standard

/-- Where the search for a free seat of a class begins. -/
def nextSeat : ComfortClassV1 → ℕ
  | .premium => usage.nextPremiumSeat
  | .standard => usage.nextStandardSeat

/-- Counts on while the number is occupied, at most once for each occupied number; `none` where the
number leaves its 32 bits. -/
def countOn (occupied : KeySet ℕ) : ℕ → ℕ → Option ℕ
  | 0, next => some next
  | fuel + 1, next =>
    if occupied.contains next then
      if next < u32Max then countOn occupied fuel (next + 1) else none
    else some next

def occupySeat (seat : ℕ) : ComfortClassV1 → Option SegmentUsage
  | .premium =>
    let premium := usage.premium.insert seat
    (countOn premium premium.size usage.nextPremiumSeat).map fun next =>
      { usage with premium := premium, nextPremiumSeat := next }
  | .standard =>
    let standard := usage.standard.insert seat
    (countOn standard standard.size usage.nextStandardSeat).map fun next =>
      { usage with standard := standard, nextStandardSeat := next }

/-- There is space for what a passenger needs it for. -/
def hasSpace (capacity : TrainCapacityV1) : SpaceNeedsV1 → Bool
  | .ordinary => true
  | .wheelchair => usage.wheelchair < capacity.wheelchairSpaces
  | .bicycle => usage.bicycle < capacity.bicycleSpaces
  | .stroller => usage.stroller < capacity.strollerSpaces

end SegmentUsage

/-- Occupies a seat on a segment of a service. -/
def occupyAt (usage : Usage) (service segment seat : ℕ) (comfortClass : ComfortClassV1) :
    Option Usage := do
  let segments ← usage[service]?
  let state ← segments[segment]?
  let next ← state.occupySeat seat comfortClass
  return usage.set service (segments.set segment next)

/-! ### Plans -/

/-- The seat of a passenger on a segment. -/
structure SeatAssignment where
  service : ℕ
  segment : ℕ
  seat : Option ℕ
  reserved : Bool
  deriving DecidableEq

/-- The first free seat from the largest noted number on. -/
def reservedSeat (comfortClass : ComfortClassV1) (seats : ℕ) (segments : List SegmentUsage) :
    Option ℕ :=
  (segments.map (·.nextSeat comfortClass)).max?.bind fun start =>
    (List.range' start (seats + 1 - start)).find? fun seat =>
      segments.all fun state => !(state.occupied comfortClass).contains seat

section Plan

variable (services : List TrainCapacityV1) (profile : DemandProfileV1) (usage : Usage)

/-- A leg needs a reservation. -/
def Leg.reserved (leg : Leg) : Bool := profile.requiresReservation || leg.reservationRequired

def Leg.segments (leg : Leg) : List SegmentUsage :=
  ((usage[leg.service]?.getD []).take leg.alight).drop leg.board

/-- The place of a passenger on a segment of a leg. -/
def Leg.assign (leg : Leg) (capacity : TrainCapacityV1) (reservedSeat : Option ℕ)
    (entry : SegmentUsage × ℕ) : Option SeatAssignment :=
  let firstFree := entry.1.nextSeat profile.comfortClass
  let seat := reservedSeat <|>
    if firstFree ≤ capacity.seats profile.comfortClass then some firstFree else none
  if !entry.1.hasSpace capacity profile.spaceNeeds then none
  else if seat.isNone && (profile.comfortClass == .premium || leg.reserved profile
      || decide (capacity.standardStanding ≤ entry.1.standing)) then none
  else some ⟨leg.service, entry.2, seat, leg.reserved profile⟩

/-- The places of a passenger on a leg. -/
def Leg.plan (leg : Leg) (capacity : TrainCapacityV1) : Option (List SeatAssignment) :=
  let segments := leg.segments usage
  let places := fun seat => (segments.zipIdx leg.board).mapM (leg.assign profile capacity seat)
  if leg.reserved profile then
    (reservedSeat profile.comfortClass (capacity.seats profile.comfortClass) segments).bind
      fun seat => places (some seat)
  else places none

/-- The places of a passenger on a journey, if there are any; `none` where the call panics. -/
def seatPlan : List Leg → Option (Option (List SeatAssignment))
  | [] => some (some [])
  | leg :: legs => do
    let capacity ← services[leg.service]?
    let segments ← usage[leg.service]?
    if leg.reserved profile && leg.board < leg.alight && segments.length < leg.alight then none
    else match leg.plan profile usage capacity with
      | none => some none
      | some places => return (← seatPlan legs).map (places ++ ·)

end Plan

/-! ### What the segments note -/

namespace SegmentUsage

variable {usage next : SegmentUsage}

/-- All numbers that were counted are occupied, and the last one is free unless every number was
counted. -/
lemma countOn_spec {occupied : KeySet ℕ} {fuel first last : ℕ}
    (h : countOn occupied fuel first = some last) :
    (first ≤ last ∧ ∀ seat, first ≤ seat → seat < last → seat ∈ occupied) ∧
      (last ∈ occupied → last = first + fuel) := by
  induction fuel generalizing first with
  | zero =>
    cases h
    exact ⟨⟨le_rfl, fun seat hfrom hto => absurd hfrom (not_le.mpr hto)⟩, fun _ => rfl⟩
  | succ fuel ih =>
    rw [countOn] at h
    split at h
    next hin =>
      split at h
      next =>
        obtain ⟨⟨hle, hall⟩, hlast⟩ := ih h
        refine ⟨⟨by omega, fun seat hfrom hto => ?_⟩, fun hmem => by rw [hlast hmem]; omega⟩
        rcases hfrom.eq_or_lt with rfl | hlt
        · exact Std.ExtTreeSet.contains_iff_mem.mp hin
        · exact hall seat hlt hto
      next => cases h
    next hout =>
      cases h
      refine ⟨⟨le_rfl, fun seat hfrom hto => absurd hfrom (not_le.mpr hto)⟩, fun hmem => ?_⟩
      exact absurd (Std.ExtTreeSet.contains_iff_mem.mpr hmem) hout

/-- Counting on as often as there are occupied numbers ends at the least one that is free. -/
lemma isLeast_countOn {occupied : KeySet ℕ} {first last : ℕ}
    (hfirst : ∀ seat, 1 ≤ seat → seat < first → seat ∈ occupied) (hone : 1 ≤ first)
    (h : countOn occupied occupied.size first = some last) :
    IsLeast {seat | 1 ≤ seat ∧ seat ∉ occupied} last := by
  obtain ⟨⟨hle, hcounted⟩, hlast⟩ := countOn_spec h
  refine ⟨⟨hone.trans hle, fun hmem => ?_⟩, fun seat ⟨hpos, hout⟩ => ?_⟩
  · -- One more number than there are would be occupied.
    have hsub : List.range' first (occupied.size + 1) ⊆ occupied.toList := by
      intro seat hseat
      rw [List.mem_range'_1] at hseat
      rw [Std.ExtTreeSet.mem_toList]
      rcases (Nat.le_of_lt_succ hseat.2 : seat ≤ first + occupied.size).eq_or_lt with rfl | hlt
      · exact hlast hmem ▸ hmem
      · exact hcounted seat hseat.1 (hlast hmem ▸ hlt)
    have hlength := ((List.nodup_range' 1).subperm hsub).length_le
    rw [List.length_range', Std.ExtTreeSet.length_toList] at hlength
    omega
  · by_contra hlt
    by_cases hbefore : seat < first
    · exact hout (hfirst seat hpos hbefore)
    · exact hout (hcounted seat (not_lt.mp hbefore) (not_le.mp hlt))

/-- **The invariant.**  The number noted for a class is its least seat that is free. -/
def Cached (usage : SegmentUsage) : Prop := ∀ comfortClass,
  IsLeast {seat | 1 ≤ seat ∧ seat ∉ usage.occupied comfortClass} (usage.nextSeat comfortClass)

/-- A seat that is occupied keeps the noted numbers right. -/
lemma Cached.occupySeat (h : usage.Cached) {seat : ℕ} {comfortClass : ComfortClassV1}
    (hnext : usage.occupySeat seat comfortClass = some next) : next.Cached := by
  have hcounted : ∀ {occupied : KeySet ℕ} {first last : ℕ},
      IsLeast {seat | 1 ≤ seat ∧ seat ∉ occupied} first →
      countOn (occupied.insert seat) (occupied.insert seat).size first = some last →
      IsLeast {other | 1 ≤ other ∧ other ∉ occupied.insert seat} last := by
    intro occupied first last hleast hcount
    refine isLeast_countOn (fun other hpos hlt => ?_) hleast.1.1 hcount
    by_contra hout
    rw [KeySet.mem_insert, not_or] at hout
    exact absurd (hleast.2 ⟨hpos, hout.2⟩) (not_le.mpr hlt)
  cases comfortClass with
  | standard =>
    obtain ⟨last, hlast, rfl⟩ := Option.map_eq_some_iff.mp hnext
    rintro (_ | _)
    · exact hcounted (h .standard) hlast
    · exact h .premium
  | premium =>
    obtain ⟨last, hlast, rfl⟩ := Option.map_eq_some_iff.mp hnext
    rintro (_ | _)
    · exact h .standard
    · exact hcounted (h .premium) hlast

end SegmentUsage

/-- What calls to occupy seats make of segments on which no seat is occupied. -/
inductive Reached : Usage → Prop
  | start {usage : Usage} (hempty : ∀ segments ∈ usage, ∀ state ∈ segments, state.standard = ∅ ∧
      state.premium = ∅ ∧ state.nextStandardSeat = 1 ∧ state.nextPremiumSeat = 1) : Reached usage
  | occupy {usage next : Usage} {service segment seat : ℕ} {comfortClass : ComfortClassV1}
      (hbefore : Reached usage) (h : occupyAt usage service segment seat comfortClass = some next) :
      Reached next

/-- On every segment that is reached, the noted numbers are right. -/
lemma cached_of_reached {usage : Usage} (h : Reached usage) :
    ∀ segments ∈ usage, ∀ state ∈ segments, state.Cached := by
  induction h with
  | start hempty =>
    intro segments hsegments state hstate
    obtain ⟨hstandard, hpremium, hnextStandard, hnextPremium⟩ :=
      hempty segments hsegments state hstate
    rintro (_ | _)
    · simp only [SegmentUsage.occupied, SegmentUsage.nextSeat, hstandard, hnextStandard]
      exact ⟨⟨le_rfl, Std.ExtTreeSet.not_mem_empty⟩, fun _ hseat => hseat.1⟩
    · simp only [SegmentUsage.occupied, SegmentUsage.nextSeat, hpremium, hnextPremium]
      exact ⟨⟨le_rfl, Std.ExtTreeSet.not_mem_empty⟩, fun _ hseat => hseat.1⟩
  | occupy hbefore h ih =>
    obtain ⟨segments, hsegments, h⟩ := Option.bind_eq_some_iff.mp h
    obtain ⟨state, hstate, h⟩ := Option.bind_eq_some_iff.mp h
    obtain ⟨next, hnext, h⟩ := Option.bind_eq_some_iff.mp h
    cases h
    intro others hothers other hother
    rcases List.mem_or_eq_of_mem_set hothers with hold | rfl
    · exact ih others hold other hother
    · have hin := ih segments (List.mem_of_getElem? hsegments)
      rcases List.mem_or_eq_of_mem_set hother with hold | rfl
      · exact hin other hold
      · exact (hin state (List.mem_of_getElem? hstate)).occupySeat hnext

/-! ### The seat of a leg -/

/-- The seats of a class that are free on all of the segments. -/
def freeSeats (comfortClass : ComfortClassV1) (seats : ℕ) (segments : List SegmentUsage) : Set ℕ :=
  {seat | (1 ≤ seat ∧ seat ≤ seats) ∧ ∀ state ∈ segments, seat ∉ state.occupied comfortClass}

section Search

variable {comfortClass : ComfortClassV1} {seats : ℕ} {segments : List SegmentUsage}

/-- The search for a seat begins at a number from one on, and no seat before it is free. -/
lemma exists_start (comfortClass : ComfortClassV1) (seats : ℕ)
    (hcached : ∀ state ∈ segments, state.Cached) (hsome : segments ≠ []) :
    ∃ start, (segments.map (·.nextSeat comfortClass)).max? = some start ∧ 1 ≤ start ∧
      ∀ seat ∈ freeSeats comfortClass seats segments, start ≤ seat := by
  cases hmax : (segments.map (·.nextSeat comfortClass)).max? with
  | none =>
    rw [List.max?_eq_none_iff, List.map_eq_nil_iff] at hmax
    exact absurd hmax hsome
  | some start =>
    obtain ⟨state, hstate, rfl⟩ := List.mem_map.mp (List.max?_mem hmax)
    have hleast := hcached state hstate comfortClass
    exact ⟨_, rfl, hleast.1.1, fun seat hseat => hleast.2 ⟨hseat.1.1, hseat.2 state hstate⟩⟩

/-- The seat found for a leg is the least one that is free on all its segments. -/
lemma reservedSeat_eq_some_iff (hcached : ∀ state ∈ segments, state.Cached)
    (hsome : segments ≠ []) {seat : ℕ} : reservedSeat comfortClass seats segments = some seat ↔
      IsLeast (freeSeats comfortClass seats segments) seat := by
  obtain ⟨start, hstart, hone, hbefore⟩ := exists_start comfortClass seats hcached hsome
  have hfree (seat : ℕ) : (segments.all fun state => !(state.occupied comfortClass).contains seat)
      = true ↔ ∀ state ∈ segments, seat ∉ state.occupied comfortClass := by
    simp only [List.all_eq_true, Bool.not_eq_true', ← Bool.not_eq_true,
      Std.ExtTreeSet.contains_iff_mem]
  rw [reservedSeat, hstart, Option.bind_some, List.find?_range'_eq_some, hfree, List.mem_range'_1]
  constructor
  · rintro ⟨hall, ⟨hfrom, hto⟩, hleast⟩
    refine ⟨⟨⟨hone.trans hfrom, by omega⟩, hall⟩, fun other hother => ?_⟩
    by_contra hlt
    have hnot := hleast other (hbefore other hother) (not_le.mp hlt)
    rw [(hfree other).mpr hother.2] at hnot
    cases hnot
  · rintro ⟨hseat, hleast⟩
    refine ⟨hseat.2, ⟨hbefore seat hseat, by have := hbefore seat hseat; have := hseat.1.2; omega⟩,
      fun other hfrom hlt => ?_⟩
    rw [Bool.not_eq_true', Bool.eq_false_iff, Ne, hfree]
    intro hall
    have hother : other ∈ freeSeats comfortClass seats segments :=
      ⟨⟨hone.trans hfrom, hlt.le.trans hseat.1.2⟩, hall⟩
    exact absurd (hleast hother) (not_le.mpr hlt)

lemma reservedSeat_eq_none_iff (hcached : ∀ state ∈ segments, state.Cached)
    (hsome : segments ≠ []) : reservedSeat comfortClass seats segments = none ↔
      freeSeats comfortClass seats segments = ∅ := by
  rw [Option.eq_none_iff_forall_ne_some, Set.eq_empty_iff_forall_notMem]
  simp only [Ne, reservedSeat_eq_some_iff hcached hsome]
  constructor
  · intro hnone seat hseat
    classical
    exact hnone _ ⟨Nat.find_spec ⟨seat, hseat⟩, fun other hother => Nat.find_min' _ hother⟩
  · exact fun hempty seat hleast => hempty seat hleast.1

end Search

/-! ### Legs without a plan -/

section Journeys

variable {services : List TrainCapacityV1} {profile : DemandProfileV1} {usage : Usage} {leg : Leg}
  {capacity : TrainCapacityV1}

/-- The leg goes from a stop of a service to a later one. -/
structure Leg.Inside (leg : Leg) (services : List TrainCapacityV1) (usage : Usage) : Prop where
  onward : leg.board < leg.alight
  served : leg.service < services.length
  within : ∃ segments, usage[leg.service]? = some segments ∧ leg.alight ≤ segments.length

/-- A segment has no place: there is no space, or, without a reservation, neither a free seat nor,
in the standard class, a place to stand. -/
def Leg.NoPlace (leg : Leg) (profile : DemandProfileV1) (capacity : TrainCapacityV1)
    (state : SegmentUsage) : Prop :=
  state.hasSpace capacity profile.spaceNeeds = false ∨ leg.reserved profile = false ∧
    freeSeats profile.comfortClass (capacity.seats profile.comfortClass) [state] = ∅ ∧
      (profile.comfortClass = .premium ∨ capacity.standardStanding ≤ state.standing)

/-- Nobody is taken on the leg: a reservation finds no seat that is free on all segments, or one of
them has no place. -/
def Leg.Refused (leg : Leg) (profile : DemandProfileV1) (usage : Usage)
    (capacity : TrainCapacityV1) : Prop :=
  leg.reserved profile = true ∧ freeSeats profile.comfortClass
      (capacity.seats profile.comfortClass) (leg.segments usage) = ∅ ∨
    ∃ state ∈ leg.segments usage, leg.NoPlace profile capacity state

lemma nextSeat_le_iff {state : SegmentUsage} (h : state.Cached) (comfortClass : ComfortClassV1)
    (seats : ℕ) :
    state.nextSeat comfortClass ≤ seats ↔ freeSeats comfortClass seats [state] ≠ ∅ := by
  rw [← Set.nonempty_iff_ne_empty]
  constructor
  · exact fun hle => ⟨_, ⟨(h comfortClass).1.1, hle⟩, by simpa using (h comfortClass).1.2⟩
  · rintro ⟨seat, ⟨hone, hle⟩, hfree⟩
    exact ((h comfortClass).2 ⟨hone, hfree state (List.mem_singleton_self _)⟩).trans hle

lemma assign_eq_none_iff {seat : Option ℕ} {entry : SegmentUsage × ℕ} (h : entry.1.Cached)
    (hseat : leg.reserved profile = seat.isSome) :
    leg.assign profile capacity seat entry = none ↔ leg.NoPlace profile capacity entry.1 := by
  have hnext := nextSeat_le_iff h profile.comfortClass (capacity.seats profile.comfortClass)
  cases seat with
  | some seat => simp [Leg.assign, Leg.NoPlace, hseat]
  | none =>
    by_cases hle : entry.1.nextSeat profile.comfortClass ≤ capacity.seats profile.comfortClass
    · simp [Leg.assign, Leg.NoPlace, hle, hseat, hnext.mp hle]
    · simp [Leg.assign, Leg.NoPlace, hle, hseat, not_not.mp (mt hnext.mpr hle)]
      grind

lemma places_eq_none_iff (hcached : ∀ state ∈ leg.segments usage, state.Cached) (seat : Option ℕ)
    (hseat : leg.reserved profile = seat.isSome) :
    ((leg.segments usage).zipIdx leg.board).mapM (leg.assign profile capacity seat) = none ↔
      ∃ state ∈ leg.segments usage, leg.NoPlace profile capacity state := by
  rw [mapM_eq_none_iff]
  constructor
  · rintro ⟨entry, hentry, hnone⟩
    have hin := List.fst_mem_of_mem_zipIdx hentry
    exact ⟨entry.1, hin, (assign_eq_none_iff (hcached _ hin) hseat).mp hnone⟩
  · rintro ⟨state, hstate, h⟩
    obtain ⟨index, hindex⟩ := List.getElem?_of_mem hstate
    exact ⟨(state, leg.board + index), List.mk_add_mem_zipIdx_iff_getElem?.mpr hindex,
      (assign_eq_none_iff (hcached _ hstate) hseat).mpr h⟩

lemma plan_eq_none_iff (hcached : ∀ state ∈ leg.segments usage, state.Cached)
    (hsome : leg.segments usage ≠ []) :
    leg.plan profile usage capacity = none ↔ leg.Refused profile usage capacity := by
  unfold Leg.plan Leg.Refused
  split
  next hreserved =>
    rw [Option.bind_eq_none_iff]
    by_cases hfree : freeSeats profile.comfortClass (capacity.seats profile.comfortClass)
        (leg.segments usage) = ∅
    · simp [hreserved, hfree, (reservedSeat_eq_none_iff hcached hsome).mpr hfree]
    · obtain ⟨seat, hseat⟩ := Option.ne_none_iff_exists'.mp
        (mt (reservedSeat_eq_none_iff hcached hsome).mp hfree)
      simp [hreserved, hfree, hseat, places_eq_none_iff hcached (some seat) hreserved]
  next hreserved =>
    rw [Bool.not_eq_true] at hreserved
    simp [hreserved, places_eq_none_iff hcached none hreserved]

/-- The plan of a leg that needs a reservation has its least free seat on every segment. -/
lemma plan_reserves (hcached : ∀ state ∈ leg.segments usage, state.Cached)
    (hsome : leg.segments usage ≠ []) (hreserved : leg.reserved profile = true)
    {places : List SeatAssignment} (h : leg.plan profile usage capacity = some places) :
    ∃ seat, IsLeast (freeSeats profile.comfortClass (capacity.seats profile.comfortClass)
        (leg.segments usage)) seat ∧
      ∀ index < (leg.segments usage).length,
        ⟨leg.service, leg.board + index, some seat, true⟩ ∈ places := by
  rw [Leg.plan, if_pos hreserved] at h
  obtain ⟨seat, hseat, h⟩ := Option.bind_eq_some_iff.mp h
  refine ⟨seat, (reservedSeat_eq_some_iff hcached hsome).mp hseat, fun index hindex => ?_⟩
  have hentry : ((leg.segments usage)[index], leg.board + index) ∈
      (leg.segments usage).zipIdx leg.board :=
    List.mk_add_mem_zipIdx_iff_getElem?.mpr (List.getElem?_eq_getElem hindex)
  obtain ⟨place, hplace, hassign⟩ := exists_of_mem_forall₂ (forall₂_of_mapM h).flip hentry
  simp only [Leg.assign, hreserved] at hassign
  split at hassign
  · cases hassign
  · cases hassign
    exact hplace

lemma Leg.Inside.length_segments (h : leg.Inside services usage) :
    (leg.segments usage).length = leg.alight - leg.board := by
  obtain ⟨segments, hsegments, hwithin⟩ := h.within
  rw [Leg.segments, hsegments, Option.getD_some, List.length_drop, List.length_take,
    min_eq_left hwithin]

lemma Leg.Inside.segments_ne_nil (h : leg.Inside services usage) : leg.segments usage ≠ [] := by
  rw [← List.length_pos_iff, h.length_segments]
  exact Nat.sub_pos_of_lt h.onward

lemma Reached.cached_segments (h : Reached usage) (leg : Leg) :
    ∀ state ∈ leg.segments usage, state.Cached := by
  intro state hstate
  have hin := List.mem_of_mem_take (List.mem_of_mem_drop hstate)
  cases hsegments : usage[leg.service]? with
  | none =>
    rw [hsegments] at hin
    cases hin
  | some segments =>
    rw [hsegments] at hin
    exact cached_of_reached h segments (List.mem_of_getElem? hsegments) state hin

/-- Whatever seats were occupied, a journey is left without a plan exactly if one of its legs is
refused, and each leg that needs a reservation gets, on all its segments, the least seat of the
class that is free on all of them. -/
theorem seatPlan_reserves (services : List TrainCapacityV1) (profile : DemandProfileV1)
    (usage : Usage) (hreached : Reached usage) (legs : List Leg)
    (hinside : ∀ leg ∈ legs, leg.Inside services usage) :
    ∃ plan, seatPlan services profile usage legs = some plan ∧
      (plan = none ↔ ∃ leg ∈ legs, ∃ capacity, services[leg.service]? = some capacity ∧
        leg.Refused profile usage capacity) ∧
      ∀ places, plan = some places → ∀ leg ∈ legs, leg.reserved profile = true →
        ∀ capacity, services[leg.service]? = some capacity → ∃ seat,
          IsLeast (freeSeats profile.comfortClass (capacity.seats profile.comfortClass)
            (leg.segments usage)) seat ∧
          ∀ segment, leg.board ≤ segment → segment < leg.alight →
            ⟨leg.service, segment, some seat, true⟩ ∈ places := by
  induction legs with
  | nil => exact ⟨some [], rfl, by simp, by simp⟩
  | cons leg legs ih =>
    obtain ⟨plan, hplan, hnone, hplaces⟩ := ih fun other hother =>
      hinside other (List.mem_cons_of_mem _ hother)
    have hleg := hinside leg List.mem_cons_self
    have hcached := hreached.cached_segments leg
    have hsome := hleg.segments_ne_nil
    obtain ⟨segments, hsegments, hwithin⟩ := hleg.within
    obtain ⟨capacity, hcapacity⟩ : ∃ capacity, services[leg.service]? = some capacity :=
      ⟨_, List.getElem?_eq_getElem hleg.served⟩
    have hrefused : leg.plan profile usage capacity = none ↔ leg.Refused profile usage capacity :=
      plan_eq_none_iff hcached hsome
    have hplanned : seatPlan services profile usage (leg :: legs) =
        some ((leg.plan profile usage capacity).bind fun places => plan.map (places ++ ·)) := by
      simp only [seatPlan, hcapacity, hsegments, Option.bind_eq_bind, Option.bind_some,
        not_lt.mpr hwithin, hplan]
      cases leg.plan profile usage capacity <;> simp
    refine ⟨_, hplanned, ?_, fun places h other hother hreserved => ?_⟩
    · -- A leg is refused, or a later one is.
      rw [Option.bind_eq_none_iff, List.exists_mem_cons_iff, ← hnone]
      simp only [hcapacity, Option.some.injEq, exists_eq_left', ← hrefused, Option.map_eq_none_iff]
      cases leg.plan profile usage capacity <;> simp
    · obtain ⟨first, hfirst, h⟩ := Option.bind_eq_some_iff.mp h
      obtain ⟨rest, hrest, rfl⟩ := Option.map_eq_some_iff.mp h
      intro offered hoffered
      rcases List.mem_cons.mp hother with rfl | hother
      · cases hcapacity.symm.trans hoffered
        obtain ⟨seat, hleast, hin⟩ := plan_reserves hcached hsome hreserved hfirst
        refine ⟨seat, hleast, fun segment hfrom hto => List.mem_append_left _ ?_⟩
        have hplace := hin (segment - other.board) (by rw [hleg.length_segments]; omega)
        rwa [Nat.add_sub_cancel' hfrom] at hplace
      · obtain ⟨seat, hleast, hin⟩ := hplaces rest hrest other hother hreserved offered hoffered
        refine ⟨seat, hleast, fun segment hfrom hto => ?_⟩
        exact List.mem_append_right _ (hin segment hfrom hto)

/-- With its first seat occupied on one segment and the second one on the next, a train gives a
reservation over both the third one. -/
theorem seatPlan_reserves_third : ∃ usage,
    (occupyAt [List.replicate 2 ⟨∅, ∅, 0, 1, 1, 0, 0, 0⟩] 0 0 1 .standard).bind
      (occupyAt · 0 1 2 .standard) = some usage ∧
    seatPlan [⟨3, 0, 0, 0, 0, 0⟩] ⟨.standard, .ordinary, true⟩ usage [⟨0, 0, 2, false⟩] =
      some (some [⟨0, 0, some 3, true⟩, ⟨0, 1, some 3, true⟩]) ∧
    IsLeast (freeSeats .standard 3 (Leg.segments usage ⟨0, 0, 2, false⟩)) 3 := by
  let first : SegmentUsage := ⟨(∅ : KeySet ℕ).insert 1, ∅, 0, 2, 1, 0, 0, 0⟩
  let second : SegmentUsage := ⟨(∅ : KeySet ℕ).insert 2, ∅, 0, 1, 1, 0, 0, 0⟩
  have hfirst : occupyAt [List.replicate 2 ⟨∅, ∅, 0, 1, 1, 0, 0, 0⟩] 0 0 1 .standard
      = some [[first, ⟨∅, ∅, 0, 1, 1, 0, 0, 0⟩]] := rfl
  have hsecond : occupyAt [[first, ⟨∅, ∅, 0, 1, 1, 0, 0, 0⟩]] 0 1 2 .standard
      = some [[first, second]] := rfl
  obtain ⟨plan, hplan, -, hplaces⟩ := seatPlan_reserves [⟨3, 0, 0, 0, 0, 0⟩]
    ⟨.standard, .ordinary, true⟩ [[first, second]] (.occupy (.occupy (.start (by simp)) hfirst)
      hsecond) [⟨0, 0, 2, false⟩] (by simpa using ⟨by decide, by decide, _, rfl, by decide⟩)
  have hthird : plan = some [⟨0, 0, some 3, true⟩, ⟨0, 1, some 3, true⟩] :=
    (Option.some.inj hplan).symm
  obtain ⟨seat, hleast, hin⟩ :=
    hplaces _ hthird _ (List.mem_singleton_self _) rfl ⟨3, 0, 0, 0, 0, 0⟩ rfl
  have hseat : seat = 3 := by simpa using hin 0 le_rfl Nat.two_pos
  exact ⟨_, by rw [hfirst, Option.bind_some, hsecond], hthird ▸ hplan, hseat ▸ hleast⟩

/-- A journey without space for a wheelchair has no plan, though a seat is free. -/
theorem wheelchair_without_space : ∃ services profile usage leg, Reached usage ∧
    leg.Inside services usage ∧ leg.reserved profile = true ∧
    seatPlan services profile usage [leg] = some none ∧
    IsLeast (freeSeats .standard 1 (leg.segments usage)) 1 := by
  refine ⟨[⟨1, 0, 0, 0, 0, 0⟩], ⟨.standard, .wheelchair, true⟩, [[⟨∅, ∅, 0, 1, 1, 0, 0, 0⟩]],
    ⟨0, 0, 1, false⟩, .start (by simp), ⟨by decide, by decide, _, rfl, by decide⟩, rfl, rfl, ?_⟩
  refine ⟨⟨⟨le_rfl, le_rfl⟩, ?_⟩, fun seat hseat => hseat.1.1⟩
  rintro state (_ | ⟨_, ⟨⟩⟩)
  exact Std.ExtTreeSet.not_mem_empty

end Journeys

end Zugfolge.Demand
