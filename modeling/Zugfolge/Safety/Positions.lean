/-
Where a train is while it runs a planned segment.

* `planned_positions`: it stays before both ends, and goes back at most where it brakes;
* `positions_step_back`: at some instants it does.
-/
import Zugfolge.Behaviour.Driving
import Zugfolge.Foundation.Collect

namespace Zugfolge

open Foundation

/-! ### Positions -/

/-- A position is the rounded way from the start, at most to the end of the segment; in the last
millisecond it may be that end. -/
lemma MotionSegment.positionAt_cases {segment : MotionSegment} {atMs : SimMillis}
    {position : RouteMillimetres} (h : segment.positionAt atMs = .ok position) :
    (segment.startedAtMs ≤ atMs ∧ atMs ≤ segment.validUntilMs)
      ∧ (0 ≤ segment.startRouteMm ∧ segment.startRouteMm ≤ segment.segmentEndRouteMm
        ∧ segment.segmentEndRouteMm ≤ segment.authorityEndRouteMm)
      ∧ (position = min (segment.startRouteMm + kinematicDistanceMm segment.startSpeedMmps
            segment.accelerationMmps2 (subSat64 atMs segment.startedAtMs))
            segment.segmentEndRouteMm
        ∨ (atMs = segment.validUntilMs ∧ position = segment.segmentEndRouteMm)) := by
  simp only [positionAt, validateBounds, covers, checked_bind_eq_ok, demand_eq_ok, refuseIf_eq_ok,
    Bool.and_eq_true, Bool.or_eq_false_iff, decide_eq_true_eq, decide_eq_false_iff_not,
    not_lt] at h
  obtain ⟨_, hcovers, _, ⟨⟨hzero, hforward⟩, hauthority⟩, reached, hreached, h⟩ := h
  refine ⟨hcovers, ⟨hzero, hforward, hauthority⟩, ?_⟩
  have hfit := checked64_eq_some (orRefuse_eq_ok.mp hreached)
  have hway : reached = segment.startRouteMm + kinematicDistanceMm segment.startSpeedMmps
      segment.accelerationMmps2 (subSat64 atMs segment.startedAtMs) := by
    rw [hfit.1]
    have hbounds := hfit.2
    unfold i64Min i64Max at hbounds
    unfold addSat128 clamp128 i128Min i128Max at hbounds ⊢
    omega
  split at h
  case isTrue hsnap => exact .inr ⟨hsnap.1, (Except.ok.inj h).symm⟩
  case isFalse =>
    refine .inl ((Except.ok.inj h).symm.trans ?_)
    rw [hway, min_assoc, min_eq_right hauthority]

/-- A successful plan is what the driver has decided. -/
lemma decideMotion_of_planMotion {env : Env} {trainId : String} {w : OperationalWorld}
    {segment : MotionSegment} (h : (planMotion env trainId w).result = .ok segment) :
    decideMotion w trainId = .ok (.start segment) := by
  obtain ⟨_, hw, h⟩ := TracedM.ok_of_bind h
  cases hw
  obtain ⟨plan, hplan, h⟩ := TracedM.ok_of_bind h
  cases plan with
  | stop reason refusal =>
    obtain ⟨_, -, h⟩ := TracedM.ok_of_bind h
    cases h
  | start planned =>
    obtain ⟨_, -, h⟩ := TracedM.ok_of_bind h
    obtain ⟨_, -, h⟩ := TracedM.ok_of_bind h
    obtain ⟨_, -, h⟩ := TracedM.ok_of_bind h
    obtain ⟨_, -, h⟩ := TracedM.ok_of_bind h
    cases h
    exact hplan

lemma min_sub_min_le (start : Int) {a b : Int} (h : b ≤ a) (stop : Int) :
    min (start + a) stop - min (start + b) stop ≤ a - b := by
  omega

/-- How far the rounded way steps back in a planned segment. -/
lemma DriverView.Plans.way_back {view : DriverView} {nowMs : SimMillis} {segment : MotionSegment}
    (h : view.Plans nowMs segment) (hsound : view.Sound) (hspeed : view.speedMmps ≤ u32Max)
    (hclock : i64Min ≤ nowMs) {s t : SimMillis} (hstart : nowMs ≤ s) (hst : s ≤ t)
    (hend : t ≤ segment.validUntilMs) :
    (0 ≤ segment.accelerationMmps2 →
        kinematicDistanceMm view.speedMmps segment.accelerationMmps2 (subSat64 s nowMs)
          ≤ kinematicDistanceMm view.speedMmps segment.accelerationMmps2 (subSat64 t nowMs))
      ∧ 2000000 * (kinematicDistanceMm view.speedMmps segment.accelerationMmps2 (subSat64 s nowMs)
          - kinematicDistanceMm view.speedMmps segment.accelerationMmps2 (subSat64 t nowMs))
        ≤ segment.accelerationMmps2.natAbs + 3997999 := by
  have helapsed : 0 ≤ subSat64 s nowMs :=
    le_max_of_le_right (le_min (by decide) (Int.sub_nonneg.mpr hstart))
  have hafter : subSat64 s nowMs ≤ subSat64 t nowMs :=
    clamp64_mono (Int.sub_le_sub_right hst nowMs)
  by_cases hforward : 0 ≤ segment.accelerationMmps2
  · have hmono := kinematicDistanceMm_mono (v := view.speedMmps) hforward helapsed hafter
    exact ⟨fun _ => hmono, by omega⟩
  · refine ⟨fun hnot => absurd hnot hforward, ?_⟩
    have hbrakes : view.brakes = true ∧ (view.brake : Int) ≤ i32Max
        ∧ segment.accelerationMmps2 = -(view.brake : Int) := by
      have htraction := hsound.traction_pos
      have hmax : 0 ≤ i32Max := by decide
      rcases h.acceleration with hbrakes | ⟨-, -, ha⟩ | ⟨-, -, ha⟩
      · exact hbrakes
      · exact absurd (by omega) hforward
      · exact absurd (by omega) hforward
    obtain ⟨hbrakes, hfit, ha⟩ := hbrakes
    obtain ⟨duration, _, huntil, -, -, hone, hduration, -, -⟩ := h.braking hsound hspeed hbrakes
    obtain ⟨-, hlong, hstop, -⟩ := toTargetMs_mem hsound hspeed
    have hlate : subSat64 t nowMs ≤ view.toTargetMs := by
      have hvalid : t ≤ nowMs + duration := by
        rw [huntil] at hend
        exact hend.trans (max_le (hclock.trans (Int.le_add_of_nonneg_right (by omega)))
          (min_le_right _ _))
      refine max_le (le_trans (by decide) (zero_le_one.trans (hone.trans hduration))) ?_
      exact (min_le_right _ _).trans ((Int.sub_left_le_of_le_add hvalid).trans hduration)
    have hbraked : (view.brake : Int) * subSat64 t nowMs ≤ 1000 * view.speedMmps + view.brake :=
      (Int.mul_le_mul_of_nonneg_left hlate (Int.natCast_nonneg _)).trans hstop
    have hback := braking_back hspeed hfit helapsed hafter (hlate.trans hlong) hbraked
    rw [ha]
    omega

/-- **Positions in a planned segment.**  A train stays before the end of its segment and of its
authority.  As long as it does not brake, it does not go back; while it brakes, a later position
may lie before an earlier one by less than two millimetres and the two-millionth part of the
braking rate, and so by one millimetre at most for rates of up to two metres per second squared. -/
theorem planned_positions {env : Env} {trainId : String} {w : OperationalWorld}
    {segment : MotionSegment} (hplan : (planMotion env trainId w).result = .ok segment)
    (hclock : i64Min ≤ w.nowMs) (hspeed : segment.startSpeedMmps ≤ u32Max) {s t : SimMillis}
    {earlier later : RouteMillimetres} (hst : s ≤ t) (hs : segment.positionAt s = .ok earlier)
    (ht : segment.positionAt t = .ok later) :
    later ≤ segment.segmentEndRouteMm ∧ later ≤ segment.authorityEndRouteMm
      ∧ (0 ≤ segment.accelerationMmps2 → earlier ≤ later)
      ∧ 2000000 * (earlier - later) ≤ segment.accelerationMmps2.natAbs + 3997999
      ∧ (-2000 ≤ segment.accelerationMmps2 → earlier ≤ later + 1) := by
  obtain ⟨view, -, hsound, hview⟩ := decideMotion_view (decideMotion_of_planMotion hplan)
  obtain ⟨hcovers, ⟨-, -, hauthority⟩, hlater⟩ := MotionSegment.positionAt_cases ht
  obtain ⟨hcovers', -, hearlier⟩ := MotionSegment.positionAt_cases hs
  have hend : later ≤ segment.segmentEndRouteMm := MotionSegment.positionAt_le ht
  have hend' : earlier ≤ segment.segmentEndRouteMm := MotionSegment.positionAt_le hs
  refine ⟨hend, hend.trans hauthority, ?_⟩
  have hback : (0 ≤ segment.accelerationMmps2 → earlier ≤ later)
      ∧ 2000000 * (earlier - later) ≤ segment.accelerationMmps2.natAbs + 3997999 := by
    have hsame : earlier ≤ later → (0 ≤ segment.accelerationMmps2 → earlier ≤ later)
        ∧ 2000000 * (earlier - later) ≤ segment.accelerationMmps2.natAbs + 3997999 :=
      fun hle => ⟨fun _ => hle, by linarith [Int.natCast_nonneg segment.accelerationMmps2.natAbs]⟩
    rcases hlater with hlater | ⟨-, hlater⟩
    · rcases hearlier with hearlier | ⟨huntil, -⟩
      · have hplanned := hview
        obtain ⟨_, _, -, -, hstarted, -, -, hstartSpeed, -⟩ := hplanned
        rw [hstartSpeed] at hspeed hlater hearlier
        rw [hstarted] at hlater hearlier hcovers'
        obtain ⟨hforward, hway⟩ := hview.way_back hsound hspeed hclock hcovers'.1 hst hcovers.2
        rcases le_total (kinematicDistanceMm view.speedMmps segment.accelerationMmps2
            (subSat64 s w.nowMs)) (kinematicDistanceMm view.speedMmps segment.accelerationMmps2
            (subSat64 t w.nowMs)) with hle | hge
        · rw [hearlier, hlater] at hsame ⊢
          exact hsame (min_le_min_right _ (Int.add_le_add_left hle _))
        · have hgap := min_sub_min_le (segment.startRouteMm) hge segment.segmentEndRouteMm
          rw [← hearlier, ← hlater] at hgap
          refine ⟨fun hnonneg => ?_, by linarith⟩
          linarith [hforward hnonneg]
      · -- The earlier instant is the end of the segment, and so is the later one.
        have hinstant : s = t := le_antisymm hst (huntil ▸ hcovers.2)
        rw [hinstant] at hs
        exact hsame (Except.ok.inj (hs.symm.trans ht)).le
    · exact hsame (hlater ▸ hend')
  exact ⟨hback.1, hback.2, fun hrate => by
    have hlimit := hback.2
    have habs : (segment.accelerationMmps2.natAbs : Int) ≤ 2000
        ∨ 0 ≤ segment.accelerationMmps2 := by
      omega
    rcases habs with habs | hforward
    · by_contra hfar
      linarith [Int.lt_iff_add_one_le.mp (not_le.mp hfar)]
    · exact (hback.1 hforward).trans (Int.le_add_of_nonneg_right zero_le_one)⟩

/-! ### A train that brakes at the end of a siding -/

namespace Siding

/-- A railcar of the small railway, a little slower than its line allows. -/
def railcar : VehicleType := { Crossover.railcar with maximumSpeedMmps := 19990 }

/-- The railcar runs on the siding until it has to brake. -/
def running : List Command :=
  [.registerVehicleType railcar true, .registerVehicle (Crossover.vehicle "v1"),
    .createFormation "f1" none ["v1"],
    .materialize (Crossover.train "T2" "2" "siding" "f1" 0), .lockRoute "T2" "t3",
    .planMotion "T2", .advanceTo 47527].map Crossover.inA

/-- The region when the railcar has to brake. -/
def world : Option OperationalWorld :=
  (Crossover.start.performAll Crossover.env running).bind fun r => r.1.worlds["A"]?

/-- The segment of the railcar has the given positions at two instants. -/
def positions (segment : MotionSegment) (s t : SimMillis) (earlier later : RouteMillimetres) :
    Bool :=
  ((segment.positionAt s).toOption == some earlier)
    && ((segment.positionAt t).toOption == some later)
    && segment.accelerationMmps2 == -800 && segment.startSpeedMmps == 19990

/-- Half a second before the railcar stands, it is a millimetre further than one millisecond
later. -/
lemma braking : ∃ w segment, (planMotion Crossover.env "T2" w).result = .ok segment
    ∧ w.nowMs = 47527
    ∧ segment.positionAt 71977 = .ok 999884 ∧ segment.positionAt 71978 = .ok 999883
    ∧ segment.accelerationMmps2 = -800 ∧ segment.startSpeedMmps = 19990 := by
  have hfound : (world.any fun w => w.nowMs == 47527
      && ((planMotion Crossover.env "T2" w).result.toOption.any fun segment =>
        positions segment 71977 71978 999884 999883)) = true := by
    decide +kernel
  simp only [Option.any_eq_true, Bool.and_eq_true, positions, beq_iff_eq] at hfound
  obtain ⟨w, -, hnow, segment, hsegment, ⟨⟨hs, ht⟩, hrate⟩, hspeed⟩ := hfound
  exact ⟨w, segment, ok_of_toOption hsegment, hnow, ok_of_toOption hs, ok_of_toOption ht, hrate,
    hspeed⟩

end Siding

/-- The train on the siding steps back by one millimetre at most. -/
theorem planned_positions_siding : ∃ w segment,
    (planMotion Crossover.env "T2" w).result = .ok segment
      ∧ segment.positionAt 71977 = .ok 999884 ∧ segment.positionAt 71978 = .ok 999883
      ∧ (999883 : Int) ≤ segment.segmentEndRouteMm
      ∧ (999884 : Int) ≤ 999883 + 1 := by
  obtain ⟨w, segment, hplan, hnow, hs, ht, hrate, hspeed⟩ := Siding.braking
  have hplanned := planned_positions hplan (by rw [hnow]; decide) (by rw [hspeed]; decide)
    (by decide) hs ht
  exact ⟨w, segment, hplan, hs, ht, hplanned.1, hplanned.2.2.2.2 (by rw [hrate]; decide)⟩

/-- A planned segment may step back. -/
theorem positions_step_back : ¬ ∀ (env : Env) (trainId : String) (w : OperationalWorld)
    (segment : MotionSegment), (planMotion env trainId w).result = .ok segment →
    ∀ (s t : SimMillis) (earlier later : RouteMillimetres), s ≤ t →
      segment.positionAt s = .ok earlier → segment.positionAt t = .ok later →
      earlier ≤ later := by
  intro h
  obtain ⟨w, segment, hplan, -, hs, ht, -⟩ := Siding.braking
  exact absurd (h _ _ w segment hplan _ _ _ _ (by decide) hs ht) (by decide)

end Zugfolge
