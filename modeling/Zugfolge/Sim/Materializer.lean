/-
From services to train runs.

A service departs again and again; the materializer turns the departures of the next hours into
train runs and remembers which ones it has handed out.

* `RollingMaterializer.run_exactlyOnce_iff`: which runs in turn hand out every due departure once.
-/
import Mathlib.Data.List.TakeWhile
import Zugfolge.Foundation.Histories
import Zugfolge.Foundation.Once
import Zugfolge.Sim.Apply

namespace Zugfolge.Sim

open Foundation
open Std (TransOrd LawfulEqOrd TransCmp)

/-! ### Services -/

/-- A value of 64 signed bits. -/
def Fits64 (value : Int) : Prop := i64Min ≤ value ∧ value ≤ i64Max

instance (value : Int) : Decidable (Fits64 value) :=
  inferInstanceAs (Decidable (i64Min ≤ value ∧ value ≤ i64Max))

/-- A service that departs every so many seconds; the times of its route are relative to its
departure. -/
structure ServiceTemplate where
  serviceId : UInt64
  worldId : WorldId
  regionId : RegionId
  operator : String
  trainNumber : String
  category : TrainCategory
  firstDeparture : SimTime
  intervalSeconds : ℕ
  lastDeparture : SimTime
  relativeRoute : List Waypoint
  fits : Fits64 firstDeparture ∧ Fits64 lastDeparture

namespace ServiceTemplate

/-- The service departs at an interval, on a route. -/
def valid (service : ServiceTemplate) : Bool :=
  service.intervalSeconds != 0 && !service.relativeRoute.isEmpty

/-- Goes on from departure to departure until one is no earlier than now. -/
def catchUp (interval now : Int) : ℕ → SimTime → SimTime
  | 0, departure => departure
  | rounds + 1, departure =>
    if departure < now then catchUp interval now rounds (addSat64 departure interval)
    else departure

/-- The first departure that is no earlier than now. -/
def nextDeparture (service : ServiceTemplate) (now : SimTime) : SimTime :=
  if service.firstDeparture < now then
    let interval : Int := service.intervalSeconds
    let departure := addSat64 service.firstDeparture
      ((subSat64 now service.firstDeparture).tdiv interval * interval)
    catchUp interval now (now - departure).toNat departure
  else service.firstDeparture

/-- Goes on from departure to departure until one lies behind the last one or the limit; `none`
where that never happens. -/
def visit (service : ServiceTemplate) (limit : SimTime) : ℕ → SimTime → Option (List SimTime)
  | 0, _ => none
  | rounds + 1, departure =>
    if departure ≤ service.lastDeparture ∧ departure ≤ limit then
      (service.visit limit rounds (addSat64 departure service.intervalSeconds)).map
        (departure :: ·)
    else some []

/-- The departures from now on until the end of the window. -/
def departures (service : ServiceTemplate) (now : SimTime) (window : MaterializationWindow) :
    Option (List SimTime) :=
  let limit := addSat64 now window.seconds
  let departure := service.nextDeparture now
  service.visit limit ((min service.lastDeparture limit - departure).toNat + 2) departure

/-- The service departs at the time, and the time lies in the window. -/
def Due (service : ServiceTemplate) (now : SimTime) (window : MaterializationWindow)
    (time : SimTime) : Prop :=
  (∃ k : ℕ, time = service.firstDeparture + k * service.intervalSeconds) ∧
    now ≤ time ∧ time ≤ service.lastDeparture ∧ time ≤ now + window.seconds

/-- The service and the window go on until the end of time. -/
def endless (service : ServiceTemplate) (now : SimTime) (window : MaterializationWindow) : Bool :=
  decide (i64Max ≤ service.lastDeparture) && decide (i64Max ≤ now + window.seconds)

/-! ### The departures of a service -/

variable {service : ServiceTemplate} {now limit departure time : SimTime}
  {window : MaterializationWindow} {rounds : ℕ}

/-- The times before the end of time that a service reaches from a departure, as far as they are
not earlier than now, are those that it reaches from the other one. -/
def SameFrom (interval now first second : Int) : Prop :=
  ∀ time, now ≤ time → time < i64Max →
    ((∃ k : ℕ, time = first + k * interval) ↔ ∃ k : ℕ, time = second + k * interval)

lemma sameFrom_refl (interval now departure : Int) : SameFrom interval now departure departure :=
  fun _ _ _ => .rfl

/-- Several intervals on, but not behind now. -/
lemma sameFrom_add {interval now departure : Int} (q : ℕ) (hpos : 0 < interval)
    (hnow : departure + q * interval ≤ now) :
    SameFrom interval now departure (departure + q * interval) := by
  intro time htime _
  constructor
  · rintro ⟨k, rfl⟩
    have hle : q ≤ k := by
      have hmul : (q : Int) * interval ≤ k * interval := by linarith
      exact_mod_cast le_of_mul_le_mul_right hmul hpos
    refine ⟨k - q, ?_⟩
    push_cast [hle]
    ring
  · rintro ⟨k, rfl⟩
    refine ⟨q + k, ?_⟩
    push_cast
    ring

lemma SameFrom.trans {interval now first second third : Int}
    (h : SameFrom interval now first second) (h' : SameFrom interval now second third) :
    SameFrom interval now first third :=
  fun time hnow hend => (h time hnow hend).trans (h' time hnow hend)

lemma addSat64_cases {departure interval : Int} (hlow : i64Min ≤ departure)
    (hpos : 0 ≤ interval) :
    departure + interval ≤ i64Max ∧ addSat64 departure interval = departure + interval ∨
      i64Max < departure + interval ∧ addSat64 departure interval = i64Max := by
  rcases le_or_gt (departure + interval) i64Max with hle | hgt
  · exact .inl ⟨hle, clamp64_of_mem ⟨by linarith, hle⟩⟩
  · refine .inr ⟨hgt, ?_⟩
    rw [addSat64, clamp64, min_eq_left hgt.le]
    rfl

/-- One interval on from a departure before now. -/
lemma sameFrom_next {interval now departure : Int} (hpos : 0 < interval)
    (hlow : i64Min ≤ departure) (hnow : departure < now) :
    SameFrom interval now departure (addSat64 departure interval) := by
  intro time htime hend
  -- now lies behind the departure, so that the time is not the departure itself
  have hlater : ∀ k : ℕ, time = departure + k * interval →
      ∃ j : ℕ, time = departure + interval + j * interval := by
    intro k htime'
    cases k with
    | zero =>
      rw [Nat.cast_zero, zero_mul, add_zero] at htime'
      linarith
    | succ k =>
      refine ⟨k, ?_⟩
      rw [htime']
      push_cast
      ring
  have hnonneg : ∀ j : ℕ, 0 ≤ (j : Int) * interval :=
    fun j => mul_nonneg (Int.natCast_nonneg j) hpos.le
  rcases addSat64_cases hlow hpos.le with ⟨-, hsum⟩ | ⟨hgt, hsum⟩
  · rw [hsum]
    constructor
    · rintro ⟨k, hk⟩
      exact hlater k hk
    · rintro ⟨k, rfl⟩
      refine ⟨k + 1, ?_⟩
      push_cast
      ring
  · rw [hsum]
    refine iff_of_false ?_ ?_
    · rintro ⟨k, hk⟩
      obtain ⟨j, hj⟩ := hlater k hk
      linarith [hnonneg j]
    · rintro ⟨k, hk⟩
      linarith [hnonneg k]

/-- Enough rounds lead to a departure that is not earlier than now. -/
lemma catchUp_spec {interval now departure : Int} (hpos : 0 < interval) (hnow : now ≤ i64Max)
    (hfits : Fits64 departure) (hrounds : (now - departure).toNat ≤ rounds) :
    now ≤ catchUp interval now rounds departure ∧
      Fits64 (catchUp interval now rounds departure) ∧
      SameFrom interval now departure (catchUp interval now rounds departure) := by
  induction rounds generalizing departure with
  | zero =>
    have hle : now ≤ departure := by omega
    exact ⟨hle, hfits, sameFrom_refl _ _ _⟩
  | succ rounds ih =>
    rw [catchUp]
    split
    next hearly =>
      have hbounds : Fits64 (addSat64 departure interval) :=
        ⟨min_le_clamp64 _, clamp64_le_max _⟩
      have hcloser : (now - addSat64 departure interval).toNat ≤ rounds := by
        rcases addSat64_cases hfits.1 hpos.le with ⟨-, hsum⟩ | ⟨-, hsum⟩
        · rw [hsum]
          omega
        · rw [hsum]
          omega
      obtain ⟨hreached, hfits', hsame⟩ := ih hbounds hcloser
      exact ⟨hreached, hfits', (sameFrom_next hpos hfits.1 hearly).trans hsame⟩
    next hlate => exact ⟨not_lt.mp hlate, hfits, sameFrom_refl _ _ _⟩

/-- The next departure is not earlier than now, and the service departs at the same times from
there on. -/
lemma nextDeparture_spec (hpos : 0 < service.intervalSeconds) (hnow : Fits64 now) :
    now ≤ service.nextDeparture now ∧ Fits64 (service.nextDeparture now) ∧
      SameFrom service.intervalSeconds now service.firstDeparture
        (service.nextDeparture now) := by
  have hpos' : (0 : Int) < service.intervalSeconds := by exact_mod_cast hpos
  obtain ⟨hlow, hhigh⟩ := service.fits.1
  rw [nextDeparture]
  split
  next hearly =>
    set interval : Int := (service.intervalSeconds : Int)
    set gap := subSat64 now service.firstDeparture with hgap
    have hgap_nonneg : 0 ≤ gap := by
      rw [hgap, subSat64, clamp64]
      have hdiff : 0 ≤ now - service.firstDeparture := by linarith
      exact le_max_of_le_right (le_min (by decide) hdiff)
    have hgap_le : gap ≤ now - service.firstDeparture :=
      clamp64_le (by linarith [show i64Min ≤ 0 by decide]) le_rfl
    -- whole intervals up to the gap
    have hquot : 0 ≤ gap.tdiv interval := Int.tdiv_nonneg hgap_nonneg hpos'.le
    have hwhole : gap.tdiv interval * interval ≤ gap := by
      rw [Int.tdiv_eq_ediv_of_nonneg hgap_nonneg]
      exact Int.ediv_mul_le gap hpos'.ne'
    have hjump : addSat64 service.firstDeparture (gap.tdiv interval * interval)
        = service.firstDeparture + gap.tdiv interval * interval := by
      have hnonneg : 0 ≤ gap.tdiv interval * interval := mul_nonneg hquot hpos'.le
      exact clamp64_of_mem ⟨by linarith, by linarith [hnow.2]⟩
    have hfits : Fits64 (addSat64 service.firstDeparture (gap.tdiv interval * interval)) :=
      ⟨min_le_clamp64 _, clamp64_le_max _⟩
    obtain ⟨hreached, hfits', hsame⟩ := catchUp_spec hpos' hnow.2 hfits le_rfl
    refine ⟨hreached, hfits', SameFrom.trans ?_ hsame⟩
    rw [hjump]
    have hcast : ((gap.tdiv interval).toNat : Int) = gap.tdiv interval := Int.toNat_of_nonneg hquot
    have hadd : SameFrom interval now service.firstDeparture
        (service.firstDeparture + (gap.tdiv interval).toNat * interval) :=
      sameFrom_add _ hpos' (by rw [hcast]; linarith)
    rwa [hcast] at hadd
  next hlate => exact ⟨not_lt.mp hlate, service.fits.1, sameFrom_refl _ _ _⟩

lemma visit_endless (hlast : i64Max ≤ service.lastDeparture) (hlimit : i64Max ≤ limit)
    (hdeparture : departure ≤ i64Max) : service.visit limit rounds departure = none := by
  induction rounds generalizing departure with
  | zero => rfl
  | succ rounds ih =>
    have hlater : addSat64 departure service.intervalSeconds ≤ i64Max := clamp64_le_max _
    rw [visit, if_pos ⟨hdeparture.trans hlast, hdeparture.trans hlimit⟩, ih hlater,
      Option.map_none]

/-- The departures that are visited are those within the limits. -/
lemma mem_visit {times : List SimTime} (hfits : Fits64 departure)
    (hvisit : service.visit limit rounds departure = some times) :
    time ∈ times ↔ (∃ k : ℕ, time = departure + k * service.intervalSeconds) ∧
      time ≤ service.lastDeparture ∧ time ≤ limit := by
  induction rounds generalizing departure times with
  | zero => cases hvisit
  | succ rounds ih =>
    have hnonneg : ∀ k : ℕ, (0 : Int) ≤ k * service.intervalSeconds :=
      fun k => mul_nonneg (Int.natCast_nonneg k) (Int.natCast_nonneg _)
    rw [visit] at hvisit
    split at hvisit
    next hin =>
      obtain ⟨rest, hrest, rfl⟩ := Option.map_eq_some_iff.mp hvisit
      have hlaterFits : Fits64 (addSat64 departure service.intervalSeconds) :=
        ⟨min_le_clamp64 _, clamp64_le_max _⟩
      have hlater := ih hlaterFits hrest
      rw [List.mem_cons, hlater]
      have hfirst : (∃ k : ℕ, time = departure + k * service.intervalSeconds) ↔
          time = departure ∨
            ∃ k : ℕ, time = departure + service.intervalSeconds + k * service.intervalSeconds := by
        constructor
        · rintro ⟨k, rfl⟩
          cases k with
          | zero => exact .inl (by rw [Nat.cast_zero, zero_mul, add_zero])
          | succ k =>
            refine .inr ⟨k, ?_⟩
            push_cast
            ring
        · rintro (rfl | ⟨k, rfl⟩)
          · exact ⟨0, by rw [Nat.cast_zero, zero_mul, add_zero]⟩
          · refine ⟨k + 1, ?_⟩
            push_cast
            ring
      rw [hfirst]
      rcases addSat64_cases hfits.1 (Int.natCast_nonneg service.intervalSeconds) with
        ⟨-, hsum⟩ | ⟨hgt, hsum⟩
      · rw [hsum]
        constructor
        · rintro (rfl | ⟨hk, hbounds⟩)
          · exact ⟨.inl rfl, hin⟩
          · exact ⟨.inr hk, hbounds⟩
        · rintro ⟨rfl | hk, hbounds⟩
          · exact .inl rfl
          · exact .inr ⟨hk, hbounds⟩
      · -- the next departure would lie behind the end of time
        rw [hsum] at hrest
        have hend : ¬ (i64Max ≤ service.lastDeparture ∧ i64Max ≤ limit) := by
          rintro ⟨hlast, hlimit⟩
          rw [visit_endless hlast hlimit le_rfl] at hrest
          cases hrest
        rw [hsum]
        constructor
        · rintro (rfl | ⟨⟨k, rfl⟩, hlast, hlimit⟩)
          · exact ⟨.inl rfl, hin⟩
          · exact absurd ⟨by linarith [hnonneg k], by linarith [hnonneg k]⟩ hend
        · rintro ⟨rfl | ⟨k, rfl⟩, hlast, hlimit⟩
          · exact .inl rfl
          · exact absurd ⟨by linarith [hnonneg k], by linarith [hnonneg k]⟩ hend
    next hout =>
      cases hvisit
      refine iff_of_false List.not_mem_nil ?_
      rintro ⟨⟨k, rfl⟩, hlast, hlimit⟩
      exact hout ⟨by linarith [hnonneg k], by linarith [hnonneg k]⟩

/-- Enough rounds lead behind the limits, if these lie before the end of time. -/
lemma visit_returns (hpos : 0 < service.intervalSeconds) (hfits : Fits64 departure)
    (hend : ¬ (i64Max ≤ service.lastDeparture ∧ i64Max ≤ limit))
    (hrounds : (min service.lastDeparture limit + 1 - departure).toNat + 1 ≤ rounds) :
    ∃ times, service.visit limit rounds departure = some times := by
  induction rounds generalizing departure with
  | zero => omega
  | succ rounds ih =>
    rw [visit]
    split
    next hin =>
      have hle : departure ≤ min service.lastDeparture limit := le_min hin.1 hin.2
      have hpos' : (0 : Int) < service.intervalSeconds := by exact_mod_cast hpos
      have hbefore : min service.lastDeparture limit < i64Max := by
        rw [min_lt_iff]
        exact (not_and_or.mp hend).imp not_le.mp not_le.mp
      have harith : ∀ bound d d' : Int, d ≤ bound → d < d' ∨ bound < d' →
          (bound + 1 - d).toNat + 1 ≤ rounds + 1 → (bound + 1 - d').toNat + 1 ≤ rounds := by
        intro bound d d' hd hd' hfuel
        omega
      have hcloser := harith _ _ (addSat64 departure service.intervalSeconds) hle (by
        rcases addSat64_cases hfits.1 hpos'.le with ⟨-, hsum⟩ | ⟨-, hsum⟩
        · exact .inl (by rw [hsum]; linarith)
        · exact .inr (by rw [hsum]; exact hbefore)) hrounds
      obtain ⟨times, htimes⟩ := ih ⟨min_le_clamp64 _, clamp64_le_max _⟩ hcloser
      exact ⟨_, Option.map_eq_some_iff.mpr ⟨times, htimes, rfl⟩⟩
    · exact ⟨[], rfl⟩

lemma le_limit_iff (hnow : i64Min ≤ now) (htime : time ≤ i64Max) :
    time ≤ addSat64 now window.seconds ↔ time ≤ now + window.seconds := by
  have hseconds : (0 : Int) ≤ window.seconds :=
    mul_nonneg (Int.natCast_nonneg window.hours) (by decide)
  rcases addSat64_cases hnow hseconds with ⟨-, hsum⟩ | ⟨hgt, hsum⟩
  · rw [hsum]
  · rw [hsum]
    exact iff_of_true htime (by linarith)

lemma pos_of_valid (hvalid : service.valid = true) : 0 < service.intervalSeconds := by
  rw [valid, Bool.and_eq_true, bne_iff_ne] at hvalid
  omega

/-- A service and a window that end return the departures. -/
lemma departures_returns (hvalid : service.valid = true) (hnow : Fits64 now)
    (hend : service.endless now window = false) :
    ∃ times, service.departures now window = some times := by
  obtain ⟨-, hfits, -⟩ := nextDeparture_spec (pos_of_valid hvalid) hnow
  have hends : ¬ (i64Max ≤ service.lastDeparture ∧
      i64Max ≤ addSat64 now window.seconds) := by
    rintro ⟨hlast, hlimit⟩
    rw [le_limit_iff hnow.1 le_rfl] at hlimit
    rw [endless, Bool.and_eq_false_iff, decide_eq_false_iff_not, decide_eq_false_iff_not] at hend
    exact hend.elim (fun h => h hlast) fun h => h hlimit
  refine visit_returns (pos_of_valid hvalid) hfits hends ?_
  have harith : ∀ bound d : Int, (bound + 1 - d).toNat + 1 ≤ (bound - d).toNat + 2 := by
    intro bound d
    omega
  exact harith _ _

/-- The departures of a valid service are those that are due. -/
lemma mem_departures {times : List SimTime} (hvalid : service.valid = true) (hnow : Fits64 now)
    (h : service.departures now window = some times) :
    time ∈ times ↔ service.Due now window time := by
  obtain ⟨hreached, hfits, hsame⟩ := nextDeparture_spec (pos_of_valid hvalid) hnow
  have hends : ¬ (i64Max ≤ service.lastDeparture ∧
      i64Max ≤ addSat64 now window.seconds) := by
    rintro ⟨hlast, hlimit⟩
    rw [departures, visit_endless hlast hlimit hfits.2] at h
    cases h
  rw [mem_visit hfits h, Due]
  constructor
  · rintro ⟨⟨k, hk⟩, hlast, hlimit⟩
    have hnonneg : (0 : Int) ≤ k * service.intervalSeconds :=
      mul_nonneg (Int.natCast_nonneg k) (Int.natCast_nonneg _)
    have hlater : now ≤ time := by linarith
    have hmax : time ≤ i64Max := hlast.trans service.fits.2.2
    have hbefore : time < i64Max :=
      lt_of_le_of_ne hmax fun heq => hends ⟨heq ▸ hlast, heq ▸ hlimit⟩
    exact ⟨(hsame time hlater hbefore).mpr ⟨k, hk⟩, hlater, hlast,
      (le_limit_iff hnow.1 hmax).mp hlimit⟩
  · rintro ⟨hk, hlater, hlast, hwindow⟩
    have hmax : time ≤ i64Max := hlast.trans service.fits.2.2
    have hlimit := (le_limit_iff hnow.1 hmax).mpr hwindow
    have hbefore : time < i64Max :=
      lt_of_le_of_ne hmax fun heq => hends ⟨heq ▸ hlast, heq ▸ hlimit⟩
    exact ⟨(hsame time hlater hbefore).mp hk, hlast, hlimit⟩

end ServiceTemplate

/-! ### The materializer -/

/-- What the materializer remembers of a departure. -/
structure DepartureKey where
  serviceId : UInt64
  time : SimTime
  deriving DecidableEq

instance : Ord DepartureKey where
  compare := compareLex (compareOn DepartureKey.serviceId) (compareOn DepartureKey.time)

instance : TransOrd DepartureKey :=
  inferInstanceAs (TransCmp (compareLex (compareOn DepartureKey.serviceId)
    (compareOn DepartureKey.time)))

instance : LawfulEqOrd DepartureKey :=
  lawfulEq_of_lex fun ⟨_, _⟩ ⟨_, _⟩ => by simp_all [compareOn]

structure Departure where
  service : ServiceTemplate
  time : SimTime

namespace Departure

/-- The service and the time. -/
def key (departure : Departure) : DepartureKey := ⟨departure.service.serviceId, departure.time⟩

/-- A waypoint of the route of a service at the departure. -/
def pointAt (time : SimTime) (point : Waypoint) : Waypoint :=
  { point with
    arrival := addSat64 point.arrival time
    departure := addSat64 point.departure time }

/-- The train run of a departure. -/
def run (departure : Departure) : TrainRun where
  worldId := departure.service.worldId
  id := Simulation.rotateLeft departure.service.serviceId 19 ^^^ UInt64.ofInt departure.time
  regionId := departure.service.regionId
  operator := departure.service.operator
  trainNumber := departure.service.trainNumber
  category := departure.service.category
  route := departure.service.relativeRoute.map (pointAt departure.time)
  nextWaypoint := 0
  delaySeconds := 0
  positionMm := 0
  speedMmPerSecond := 0
  status := .planned

end Departure

structure MaterializerCall where
  now : SimTime
  window : MaterializationWindow
  services : List ServiceTemplate
  fits : Fits64 now

/-- The departures that were handed out. -/
structure RollingMaterializer where
  emitted : KeySet DepartureKey

namespace RollingMaterializer

/-- A materializer that has handed out nothing. -/
def new : RollingMaterializer := ⟨∅⟩

/-- Hands out the new departures of one service after the other; the first invalid one ends the
call, which keeps what it has remembered until then. -/
def handOut (now : SimTime) (window : MaterializationWindow) :
    KeySet DepartureKey → List ServiceTemplate →
      Option (Except SimError (List Departure) × KeySet DepartureKey)
  | emitted, [] => some (.ok [], emitted)
  | emitted, service :: services =>
    if service.valid then
      (service.departures now window).bind fun times =>
        let issued := issue Departure.key emitted (times.map (Departure.mk service))
        (handOut now window issued.2 services).map fun rest =>
          (rest.1.map (issued.1 ++ ·), rest.2)
    else some (.error .invalidRoute, emitted)

/-- Hands out the runs of the window that were not handed out before. -/
def materialize (m : RollingMaterializer) (call : MaterializerCall) :
    Option (Except SimError (List TrainRun) × RollingMaterializer) :=
  (handOut call.now call.window m.emitted call.services).map fun reply =>
    (reply.1.map (List.map Departure.run), ⟨reply.2⟩)

/-- One call after another; a call that is refused hands out nothing. -/
def emit (m : RollingMaterializer) (call : MaterializerCall) :
    Option (RollingMaterializer × List TrainRun) :=
  (m.materialize call).map fun reply => (reply.2, (reply.1.toOption).getD [])

end RollingMaterializer

namespace MaterializerCall

/-- All services are valid, so that the call is not refused. -/
def valid (call : MaterializerCall) : Bool := call.services.all ServiceTemplate.valid

/-- A valid service of the call departs then, and the departure lies in the window. -/
def Due (call : MaterializerCall) (key : DepartureKey) : Prop :=
  ∃ service ∈ call.services, service.valid = true ∧ service.serviceId = key.serviceId ∧
    service.Due call.now call.window key.time

/-- The services in front of the first invalid one. -/
def early (call : MaterializerCall) : List ServiceTemplate :=
  call.services.takeWhile ServiceTemplate.valid

end MaterializerCall

namespace RollingMaterializer

/-- No service in front of the first invalid one goes on until the end of time, and in front of
an invalid service nothing is new. -/
def inTurn (m : RollingMaterializer) (call : MaterializerCall) : Bool :=
  call.early.all (fun service => !service.endless call.now call.window) &&
    (call.valid || call.early.all fun service =>
      (service.departures call.now call.window).any fun times =>
        times.all fun time => m.emitted.contains ⟨service.serviceId, time⟩)

/-- Every departure that is due in some call, also in a refused one, was handed out exactly once,
and nothing else was handed out. -/
structure ExactlyOnce (calls : List MaterializerCall) (handed : List Departure) : Prop where
  once : ∀ call ∈ calls, ∀ key, call.Due key → (handed.map Departure.key).count key = 1
  due : ∀ departure ∈ handed, ∃ call ∈ calls, call.valid = true ∧ call.Due departure.key

/-- What is due in a refused call is due in a call that is not refused as well. -/
def Recovered (calls : List MaterializerCall) : Prop :=
  ∀ call ∈ calls, ∀ key, call.Due key → ∃ other ∈ calls, other.valid = true ∧ other.Due key

/-! ### Calls -/

variable {now : SimTime} {window : MaterializationWindow} {emitted : KeySet DepartureKey}
  {services : List ServiceTemplate} {m : RollingMaterializer} {call : MaterializerCall}

/-- Valid services hand out what is due and new. -/
lemma handOut_valid (emitted : KeySet DepartureKey) (hnow : Fits64 now)
    (hvalid : ∀ service ∈ services, service.valid = true)
    (hends : ∀ service ∈ services, service.endless now window = false) :
    ∃ fresh later, handOut now window emitted services = some (.ok fresh, later) ∧
      (∀ handed, Recorded Departure.key emitted handed →
        Recorded Departure.key later (handed ++ fresh)) ∧
      (∀ key, key ∈ emitted ∨ (∃ service ∈ services, service.serviceId = key.serviceId ∧
        service.Due now window key.time) → key ∈ later) ∧
      ∀ departure ∈ fresh, departure.service ∈ services ∧
        departure.service.Due now window departure.time := by
  induction services generalizing emitted with
  | nil =>
    refine ⟨[], emitted, rfl, fun handed hrecorded => ?_, ?_, fun _ hin => nomatch hin⟩
    · rwa [List.append_nil]
    · rintro key (hold | ⟨service, hin, -⟩)
      · exact hold
      · cases hin
  | cons service services ih =>
    obtain ⟨hfirst, hrest⟩ := List.forall_mem_cons.mp hvalid
    obtain ⟨hend, hends⟩ := List.forall_mem_cons.mp hends
    obtain ⟨times, htimes⟩ := ServiceTemplate.departures_returns hfirst hnow hend
    set things := times.map (Departure.mk service) with hthings
    set issued := issue Departure.key emitted things with hissued
    obtain ⟨fresh, later, hlater, hrecord, hremember, hdue⟩ := ih issued.2 hrest hends
    refine ⟨issued.1 ++ fresh, later, ?_, fun handed hrecorded => ?_, fun key hkey => ?_,
      fun departure hin => ?_⟩
    · rw [handOut, if_pos hfirst, htimes, Option.bind_some, ← hthings, ← hissued]
      simp only [hlater]
      rfl
    · rw [← List.append_assoc]
      exact hrecord _ (hrecorded.issue things)
    · refine hremember key ?_
      rw [hissued, mem_issued]
      rcases hkey with hold | ⟨other, hin, hid, hother⟩
      · exact .inl (.inl hold)
      · rcases List.mem_cons.mp hin with rfl | hin
        · refine .inl (.inr (List.mem_map.mpr ⟨⟨other, key.time⟩, ?_, ?_⟩))
          · exact List.mem_map_of_mem
              ((ServiceTemplate.mem_departures hfirst hnow htimes).mpr hother)
          · rw [Departure.key, hid]
        · exact .inr ⟨other, hin, hid, hother⟩
    · rcases List.mem_append.mp hin with hin | hin
      · obtain ⟨time, htime, rfl⟩ := List.mem_map.mp (mem_issue hin).1
        exact ⟨List.mem_cons_self,
          (ServiceTemplate.mem_departures hfirst hnow htimes).mp htime⟩
      · exact ⟨List.mem_cons_of_mem service (hdue departure hin).1, (hdue departure hin).2⟩

/-- An invalid service behind others without new departures changes nothing. -/
lemma handOut_invalid (hinvalid : services.all ServiceTemplate.valid = false)
    (hold : (services.takeWhile ServiceTemplate.valid).all (fun service =>
      (service.departures now window).any fun times =>
        times.all fun time => emitted.contains ⟨service.serviceId, time⟩) = true) :
    handOut now window emitted services = some (.error .invalidRoute, emitted) := by
  induction services with
  | nil => cases hinvalid
  | cons service services ih =>
    rw [handOut]
    split
    next hvalid =>
      rw [List.all_cons, hvalid, Bool.true_and] at hinvalid
      rw [List.takeWhile_cons_of_pos hvalid, List.all_cons, Bool.and_eq_true,
        Option.any_eq_true] at hold
      obtain ⟨⟨times, htimes, hseen⟩, hrest⟩ := hold
      have hnothing : issue Departure.key emitted (times.map (Departure.mk service))
          = ([], emitted) := by
        refine issue_old fun departure hin => ?_
        obtain ⟨time, htime, rfl⟩ := List.mem_map.mp hin
        exact Std.ExtTreeSet.contains_iff_mem.mp (List.all_eq_true.mp hseen time htime)
      rw [htimes, Option.bind_some, hnothing]
      simp only [ih hinvalid hrest]
      rfl
    · rfl

/-- A call in turn hands out what is due and new, or it is refused and changes nothing. -/
lemma emit_spec (hok : m.inTurn call = true) :
    (call.valid = true ∧ ∃ fresh later, m.emit call = some (later, fresh.map Departure.run) ∧
      (∀ handed, Recorded Departure.key m.emitted handed →
        Recorded Departure.key later.emitted (handed ++ fresh)) ∧
      (∀ key, key ∈ m.emitted ∨ call.Due key → key ∈ later.emitted) ∧
      ∀ departure ∈ fresh, call.Due departure.key) ∨
    call.valid = false ∧ m.emit call = some (m, []) := by
  rw [inTurn, Bool.and_eq_true, List.all_eq_true] at hok
  obtain ⟨hends, hquiet⟩ := hok
  cases hvalid : call.valid with
  | true =>
    have hall : ∀ service ∈ call.services, service.valid = true := List.all_eq_true.mp hvalid
    have hearly : call.early = call.services := List.takeWhile_eq_self_iff.mpr hall
    rw [hearly] at hends
    obtain ⟨fresh, later, hlater, hrecord, hremember, hdue⟩ :=
      handOut_valid m.emitted call.fits hall fun service hin => by
        simpa using hends service hin
    refine .inl ⟨rfl, fresh, ⟨later⟩, ?_, hrecord,
      fun key hkey => hremember key (hkey.imp_right ?_), fun departure hin => ?_⟩
    · rw [emit, materialize, hlater]
      rfl
    · rintro ⟨service, hin, -, hservice⟩
      exact ⟨service, hin, hservice⟩
    · obtain ⟨hin, htime⟩ := hdue departure hin
      exact ⟨departure.service, hin, hall _ hin, rfl, htime⟩
  | false =>
    rw [hvalid, Bool.false_or] at hquiet
    refine .inr ⟨rfl, ?_⟩
    rw [emit, materialize, handOut_invalid hvalid hquiet]
    rfl

/-! ### Runs -/

def run (m : RollingMaterializer) (calls : List MaterializerCall) :
    Option (RollingMaterializer × List TrainRun) :=
  runAll emit m calls

/-- The materializer remembers exactly what was handed out, each departure once, and that is
what was due in the calls that were not refused. -/
structure Handed (m : RollingMaterializer) (calls : List MaterializerCall)
    (handed : List Departure) : Prop where
  recorded : Recorded Departure.key m.emitted handed
  remembered : ∀ call ∈ calls, call.valid = true → ∀ key, call.Due key → key ∈ m.emitted
  due : ∀ departure ∈ handed, ∃ call ∈ calls, call.valid = true ∧ call.Due departure.key

variable {calls : List MaterializerCall} {handed : List Departure}

lemma handed_new : new.Handed [] [] :=
  ⟨recorded_empty, (fun _ hin => nomatch hin), (fun _ hin => nomatch hin)⟩

/-- What was handed out is all that is due exactly if the refused calls are made up for. -/
lemma Handed.exactlyOnce_iff (h : m.Handed calls handed) :
    ExactlyOnce calls handed ↔ Recovered calls := by
  constructor
  · intro honce call hin key hkey
    have hpos : 0 < (handed.map Departure.key).count key :=
      (honce.once call hin key hkey).symm ▸ Nat.one_pos
    obtain ⟨departure, hdeparture, rfl⟩ := List.mem_map.mp (List.count_pos_iff.mp hpos)
    exact honce.due departure hdeparture
  · refine fun hrecovered => ⟨fun call hin key hkey => ?_, h.due⟩
    obtain ⟨other, hother, hvalid, hdue⟩ := hrecovered call hin key hkey
    exact h.recorded.count_eq_one (h.remembered other hother hvalid key hdue)

/-- A call in turn hands out what is due and new. -/
lemma Handed.step (h : m.Handed calls handed) (hok : m.inTurn call = true) :
    ∃ later fresh, m.emit call = some (later, fresh.map Departure.run) ∧
      later.Handed (calls ++ [call]) (handed ++ fresh) := by
  rcases emit_spec hok with
    ⟨hvalid, fresh, later, hemit, hrecord, hremember, hfresh⟩ | ⟨hinvalid, hemit⟩
  · refine ⟨later, fresh, hemit, hrecord handed h.recorded, fun other hin hother key hkey => ?_,
      fun departure hin => ?_⟩
    · rcases List.mem_append.mp hin with hin | hin
      · exact hremember key (.inl (h.remembered other hin hother key hkey))
      · rw [List.mem_singleton.mp hin] at hkey
        exact hremember key (.inr hkey)
    · rcases List.mem_append.mp hin with hin | hin
      · obtain ⟨other, hother, hdue⟩ := h.due departure hin
        exact ⟨other, List.mem_append_left _ hother, hdue⟩
      · exact ⟨call, List.mem_append_right _ List.mem_cons_self, hvalid, hfresh departure hin⟩
  · refine ⟨m, [], hemit, by rw [List.append_nil]; exact h.recorded,
      fun other hin hother => ?_, fun departure hin => ?_⟩
    · rcases List.mem_append.mp hin with hin | hin
      · exact h.remembered other hin hother
      · rw [List.mem_singleton.mp hin, hinvalid] at hother
        cases hother
    · rw [List.append_nil] at hin
      obtain ⟨other, hother, hdue⟩ := h.due departure hin
      exact ⟨other, List.mem_append_left _ hother, hdue⟩

/-- A run in turn hands out what is due and new in its calls. -/
lemma Handed.run {more : List MaterializerCall} (h : m.Handed calls handed)
    (hok : AllRun emit inTurn m more = true) :
    ∃ last fresh, m.run more = some (last, fresh.map Departure.run) ∧
      last.Handed (calls ++ more) (handed ++ fresh) := by
  induction more generalizing m calls handed with
  | nil => exact ⟨m, [], rfl, by rwa [List.append_nil, List.append_nil]⟩
  | cons call more ih =>
    rw [AllRun, Bool.and_eq_true] at hok
    obtain ⟨later, fresh, hemit, hlater⟩ := h.step hok.1
    have hmore := hok.2
    simp only [hemit] at hmore
    obtain ⟨last, rest, hrun, hlast⟩ := ih hlater hmore
    refine ⟨last, fresh ++ rest, ?_, ?_⟩
    · have hrest : runAll emit later more = some (last, rest.map Departure.run) := hrun
      rw [RollingMaterializer.run, runAll, hemit]
      simp only [hrest, Option.map_some, List.map_append]
    · rwa [List.append_assoc, List.append_assoc, List.singleton_append] at hlast

/-- **Rolling materialisation.**  In every run of calls in turn all calls return; every departure
that is due in some call is handed out exactly once over the whole run, and nothing else is, exactly
if what is due in refused calls is due in others as well. -/
theorem run_exactlyOnce_iff (hok : AllRun emit inTurn new calls = true) :
    ∃ last handed, new.run calls = some (last, handed.map Departure.run) ∧
      (ExactlyOnce calls handed ↔ Recovered calls) := by
  obtain ⟨last, handed, hrun, hlast⟩ := handed_new.run hok
  exact ⟨last, handed, hrun, hlast.exactlyOnce_iff⟩

end RollingMaterializer

/-! ### A call that is refused on its way -/

namespace TwoStops

/-- A service at every so many seconds, two times. -/
def service (serviceId : UInt64) (intervalSeconds : ℕ) : ServiceTemplate where
  serviceId := serviceId
  worldId := 42
  regionId := 7
  operator := "Elbtalbahn"
  trainNumber := "RE"
  category := .regional
  firstDeparture := 0
  intervalSeconds := intervalSeconds
  lastDeparture := 3600
  relativeRoute := (train 1).route
  fits := by decide

/-- A call with such services. -/
def callAt (now : SimTime) (fits : Fits64 now) (services : List ServiceTemplate) :
    MaterializerCall :=
  ⟨now, (region 7 ConservativeDispatcher.conservative).window, services, fits⟩

/-- The second service has no interval; the next call is without it. -/
def refusedOnce : List MaterializerCall :=
  [callAt 0 (by decide) [service 9 3600, service 10 0], callAt 0 (by decide) [service 9 3600]]

/-- The departures of the first service are remembered without being handed out. -/
theorem refusedOnce_loses_departures : ¬ ∀ (calls : List MaterializerCall)
    (last : RollingMaterializer) (handed : List Departure),
      calls.IsChain (fun a b => a.now ≤ b.now) →
        RollingMaterializer.new.run calls = some (last, handed.map Departure.run) →
          RollingMaterializer.ExactlyOnce calls handed := by
  intro hclaim
  have hnothing : (RollingMaterializer.new.run refusedOnce).map Prod.snd = some [] := by
    decide +kernel
  obtain ⟨⟨last, log⟩, hrun, rfl⟩ := Option.map_eq_some_iff.mp hnothing
  have honce := (hclaim refusedOnce last [] (by decide) hrun).once
    (callAt 0 (by decide) [service 9 3600]) (by simp [refusedOnce]) ⟨9, 0⟩
    ⟨service 9 3600, List.mem_singleton.mpr rfl, rfl, rfl, ⟨0, by decide⟩, by decide⟩
  cases honce

/-- The service without an interval comes first; the next call is without it. -/
def refusedAtOnce : List MaterializerCall :=
  [callAt 0 (by decide) [service 10 0, service 9 3600], callAt 0 (by decide) [service 9 3600]]

/-- What is due in the refused call is handed out in the next one. -/
theorem run_exactlyOnce_iff_refused : ∃ last handed,
    RollingMaterializer.new.run refusedAtOnce = some (last, handed.map Departure.run) ∧
      RollingMaterializer.ExactlyOnce refusedAtOnce handed := by
  obtain ⟨last, handed, hrun, honce⟩ :=
    RollingMaterializer.run_exactlyOnce_iff (by decide +kernel :
      AllRun RollingMaterializer.emit RollingMaterializer.inTurn .new refusedAtOnce = true)
  refine ⟨last, handed, hrun, honce.mpr fun call hin key hkey => ?_⟩
  refine ⟨callAt 0 (by decide) [service 9 3600], by simp [refusedAtOnce], rfl, ?_⟩
  obtain ⟨departing, hservice, hvalid, hdue⟩ := hkey
  rcases List.mem_pair.mp hin with rfl | rfl
  · rcases List.mem_pair.mp hservice with rfl | rfl
    · cases hvalid
    · exact ⟨_, List.mem_singleton_self _, hvalid, hdue⟩
  · exact ⟨departing, hservice, hvalid, hdue⟩

end TwoStops

end Zugfolge.Sim
