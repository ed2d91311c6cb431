/-
Planned segments that get a train nowhere.

A segment makes progress if its end is another position or another speed than its start.  The driver
plans one that does not when the rounded way and the rounded change of speed are both zero, and the
segment that follows is the same again.

* `halted_short`: a train on its way to a stop gets into one.
-/
import Zugfolge.Safety.Positions

namespace Zugfolge

open Foundation

/-- The segment makes progress: its end is another position or another speed than its start, and if
it has a length, another position. -/
def MotionSegment.MakesProgress (segment : MotionSegment) : Prop :=
  ∀ head speed, segment.positionAt segment.validUntilMs = .ok head →
    segment.speedAt segment.validUntilMs = .ok speed →
    (head ≠ segment.startRouteMm ∨ speed ≠ segment.startSpeedMmps)
      ∧ (segment.startRouteMm < segment.segmentEndRouteMm → head ≠ segment.startRouteMm)

namespace DriverView

variable (view : DriverView)

/-- The driver's next segment makes no progress.  Either there is no track left before the next
boundary and one millisecond changes the speed by less than half a millimetre per second; or the
train brakes, and the way until it stands, or the way of the millisecond that it takes to reach a
target that it does not exceed, is rounded to nothing. -/
def stalls : Bool :=
  if view.boundary = 0 then
    if view.headRouteMm = view.authorityEndRouteMm then view.speedMmps == 0
    else if view.brakes then view.speedMmps == 0 || decide (view.brake < 500)
    else view.speedMmps == view.limit || decide (view.traction < 500)
  else
    view.brakes
      && (if view.target = 0 then
          decide (2 ≤ view.boundary)
            && decide (kinematicDistanceMm view.speedMmps (-(view.brake : Int)) view.toTargetMs = 0)
        else
          decide (view.speedMmps ≤ view.target)
            && decide (kinematicDistanceMm view.speedMmps (-(view.brake : Int)) 1 = 0)
            && (view.speedMmps == 0 || decide (view.brake < 500)))

end DriverView

/-! ### The end of a segment -/

/-- The position at the end of a segment over a rounded way. -/
def endPosition (start stop way : Int) : Int :=
  if decide (min (start + way) stop = start) && decide (stop = start + 1) then stop
  else min (start + way) stop

/-- The end position is the start just if there is no way to go, or if the way is rounded to nothing
and more than a millimetre would be left. -/
lemma endPosition_eq_start {start distance way : Int} (hway : 0 ≤ way) (hforward : 0 ≤ distance) :
    endPosition start (start + distance) way = start ↔ distance = 0 ∨ (way = 0 ∧ 2 ≤ distance) := by
  unfold endPosition
  rw [min_add_add_left]
  split
  next hsnap =>
    simp only [Bool.and_eq_true, decide_eq_true_eq] at hsnap
    have hsnap := hsnap.2
    omega
  next hexact =>
    simp only [Bool.and_eq_true, decide_eq_true_eq] at hexact
    rcases hforward.eq_or_lt with rfl | hpos
    · simpa using hway
    · omega

/-- A sum that is not negative is reached exactly if it is a position. -/
lemma checkedI64_addSat128 {start way reached : Int} (hstart : 0 ≤ start) (hway : 0 ≤ way) :
    checkedI64 (addSat128 start way) = .ok reached
      ↔ start + way ≤ i64Max ∧ reached = start + way := by
  rw [checkedI64, orRefuse_eq_ok]
  constructor
  · intro h
    have hfit := checked64_eq_some h
    unfold i64Min i64Max at hfit
    unfold i64Max
    unfold addSat128 clamp128 i128Min i128Max at hfit
    omega
  · rintro ⟨hfit, rfl⟩
    unfold i64Max at hfit
    have hsum : addSat128 start way = start + way :=
      clamp128_of_mem (by unfold i128Min i128Max; omega)
    rw [hsum, checked64, if_pos (by unfold i64Min i64Max; omega)]

lemma addSat64_of_lt {a b : Int} (ha : i64Min ≤ a) (hb : 0 ≤ b) (h : addSat64 a b < i64Max) :
    addSat64 a b = a + b := by
  unfold addSat64 clamp64 at h ⊢
  omega

lemma addChecked64_one {start stop : Int} (hstart : 0 ≤ start) (hstop : stop ≤ i64Max) :
    addChecked64 start 1 = some stop ↔ stop = start + 1 := by
  constructor
  · exact fun h => (checked64_eq_some h).1
  · rintro rfl
    have hmin : i64Min ≤ 0 := by decide
    rw [addChecked64, checked64, if_pos ⟨by omega, hstop⟩]

lemma braked_speed_ne {v : ℕ} {braking : Int} (hv : v ≤ u32Max) (hbraking : 0 ≤ braking) :
    (min (max ((v : Int) - (braking + 500) / 1000) 0) u32Max).toNat ≠ v ↔ v ≠ 0 ∧
    500 ≤ braking := by
  omega

/-- What the end of a segment depends on. -/
structure MotionSegment.EndsAfter (segment : MotionSegment) (duration distance : Int) : Prop where
  elapsed : subSat64 segment.validUntilMs segment.startedAtMs = duration
  lasting : segment.startedAtMs < segment.validUntilMs
  zero_le : 0 ≤ segment.startRouteMm
  forward : 0 ≤ distance
  ending : segment.segmentEndRouteMm = segment.startRouteMm + distance
  authority : segment.segmentEndRouteMm ≤ segment.authorityEndRouteMm
  fits : segment.authorityEndRouteMm ≤ i64Max

namespace MotionSegment.EndsAfter

variable {segment : MotionSegment} {duration distance : Int}

lemma validateBounds_eq (h : segment.EndsAfter duration distance) :
    segment.validateBounds = .ok () := by
  have hzero := h.zero_le
  have hforward : segment.startRouteMm ≤ segment.segmentEndRouteMm :=
    h.ending ▸ Int.le_add_of_nonneg_right h.forward
  have hauthority := h.authority
  simp only [validateBounds, refuseIf_eq_ok, Bool.or_eq_false_iff, decide_eq_false_iff_not, not_lt]
  exact ⟨⟨hzero, hforward⟩, hauthority⟩

lemma covers_end (h : segment.EndsAfter duration distance) :
    segment.covers segment.validUntilMs = true := by
  simp only [covers, Bool.and_eq_true, decide_eq_true_eq]
  exact ⟨h.lasting.le, le_rfl⟩

/-- The position at the end, unless the way leaves the range of positions. -/
lemma positionAt_end (h : segment.EndsAfter duration distance) {head : RouteMillimetres} :
    segment.positionAt segment.validUntilMs = .ok head
      ↔ segment.startRouteMm + kinematicDistanceMm segment.startSpeedMmps
          segment.accelerationMmps2 duration ≤ i64Max
        ∧ head = endPosition segment.startRouteMm segment.segmentEndRouteMm
          (kinematicDistanceMm segment.startSpeedMmps segment.accelerationMmps2 duration) := by
  have hway := kinematicDistanceMm_nonneg segment.startSpeedMmps segment.accelerationMmps2 duration
  have hzero := h.zero_le
  have hfits := h.authority.trans h.fits
  have hforward : segment.startRouteMm ≤ segment.segmentEndRouteMm :=
    h.ending ▸ Int.le_add_of_nonneg_right h.forward
  unfold positionAt
  simp only [h.covers_end, h.validateBounds_eq, h.elapsed, checked_bind_eq_ok, demand_eq_ok,
    checkedI64_addSat128 hzero hway, addChecked64_one hzero hfits]
  have hsame : ∀ reached : Int, min (min reached segment.authorityEndRouteMm)
      segment.segmentEndRouteMm = min reached segment.segmentEndRouteMm := fun reached => by
    rw [min_assoc, min_eq_right h.authority]
  simp only [hsame]
  constructor
  · rintro ⟨_, -, _, -, _, ⟨hfit, rfl⟩, hend⟩
    refine ⟨hfit, ?_⟩
    unfold endPosition
    split at hend
    next hsnap =>
      rw [if_pos (by simpa using hsnap.2.2)]
      exact (Except.ok.inj hend).symm
    next hexact =>
      rw [if_neg (fun hsnap => hexact ⟨trivial, h.lasting, by simpa using hsnap⟩)]
      exact (Except.ok.inj hend).symm
  · rintro ⟨hfit, rfl⟩
    refine ⟨(), trivial, (), trivial, _, ⟨hfit, rfl⟩, ?_⟩
    unfold endPosition
    split
    next hsnap =>
      rw [if_pos (by simpa using hsnap.2.2)]
      rfl
    next hexact =>
      rw [if_neg (fun hsnap => hexact ⟨trivial, h.lasting, by simpa using hsnap⟩)]
      rfl

lemma speedAt_end (h : segment.EndsAfter duration distance) {head : RouteMillimetres}
    (hhead : segment.positionAt segment.validUntilMs = .ok head) {speed : ℕ} :
    segment.speedAt segment.validUntilMs = .ok speed
      ↔ speed = if decide (segment.segmentEndRouteMm = segment.authorityEndRouteMm)
          && decide (head = segment.authorityEndRouteMm) then 0
        else (min (kinematicSpeedMmps segment.startSpeedMmps segment.accelerationMmps2 duration)
          u32Max).toNat := by
  unfold speedAt
  simp only [h.covers_end, h.validateBounds_eq, h.elapsed, checked_bind_eq_ok, demand_eq_ok, hhead]
  by_cases hend : segment.segmentEndRouteMm = segment.authorityEndRouteMm
  · by_cases hat : head = segment.authorityEndRouteMm
    · simp [hend, hat, bind, Except.bind, pure, Except.pure, eq_comm]
    · simp [hend, hat, bind, Except.bind, pure, Except.pure, eq_comm]
  · simp [hend, bind, Except.bind, pure, Except.pure, eq_comm]

/-- A segment makes progress if its end is another position, or if it has no length and its end is
another speed; nothing is asked of a way that leaves the range of positions. -/
lemma makesProgress_iff (h : segment.EndsAfter duration distance) : segment.MakesProgress
    ↔ (segment.startRouteMm + kinematicDistanceMm segment.startSpeedMmps segment.accelerationMmps2
        duration ≤ i64Max →
      (distance ≠ 0 ∧ (kinematicDistanceMm segment.startSpeedMmps segment.accelerationMmps2 duration
          = 0 → distance = 1))
        ∨ (distance = 0 ∧ (if segment.startRouteMm = segment.authorityEndRouteMm then 0
          else (min (kinematicSpeedMmps segment.startSpeedMmps segment.accelerationMmps2 duration)
            u32Max).toNat) ≠ segment.startSpeedMmps)) := by
  have hway := kinematicDistanceMm_nonneg segment.startSpeedMmps segment.accelerationMmps2 duration
  have hforward := h.forward
  have hstart := @endPosition_eq_start segment.startRouteMm _ _ hway hforward
  rw [← h.ending] at hstart
  have hlength : segment.startRouteMm < segment.segmentEndRouteMm ↔ distance ≠ 0 := by
    rw [h.ending, lt_add_iff_pos_right]
    exact ⟨fun hpos => hpos.ne', fun hne => lt_of_le_of_ne hforward (Ne.symm hne)⟩
  constructor
  · intro hprogress hfit
    have hhead := h.positionAt_end.mpr ⟨hfit, rfl⟩
    obtain ⟨hmoves, hpositive⟩ := hprogress _ _ hhead ((h.speedAt_end hhead).mpr rfl)
    rw [hlength] at hpositive
    by_cases hzero : distance = 0
    · refine .inr ⟨hzero, ?_⟩
      have hsame := hstart.mpr (.inl hzero)
      have hstop : segment.segmentEndRouteMm = segment.startRouteMm := by
        rw [h.ending, hzero, add_zero]
      rcases hmoves with hmoves | hmoves
      · exact absurd hsame hmoves
      · rw [hsame, hstop] at hmoves
        simpa using hmoves
    · refine .inl ⟨hzero, fun hnone => ?_⟩
      by_contra hlong
      exact hpositive hzero (hstart.mpr (.inr ⟨hnone, by omega⟩))
  · intro hmoves head speed hhead hspeed
    have hspeed := (h.speedAt_end hhead).mp hspeed
    obtain ⟨hfit, rfl⟩ := h.positionAt_end.mp hhead
    rw [hlength]
    rcases hmoves hfit with ⟨hpos, hone⟩ | ⟨hzero, hother⟩
    · have hmoved : endPosition segment.startRouteMm segment.segmentEndRouteMm
          (kinematicDistanceMm segment.startSpeedMmps segment.accelerationMmps2 duration)
          ≠ segment.startRouteMm := fun hsame => by
        rcases hstart.mp hsame with hzero | ⟨hnone, hlong⟩
        · exact hpos hzero
        · have hshort := hone hnone
          omega
      exact ⟨.inl hmoved, fun _ => hmoved⟩
    · have hsame := hstart.mpr (.inl hzero)
      have hstop : segment.segmentEndRouteMm = segment.startRouteMm := by
        rw [h.ending, hzero, add_zero]
      refine ⟨.inr ?_, fun hpos => absurd hzero hpos⟩
      rw [hspeed, hsame, hstop]
      simpa using hother

end MotionSegment.EndsAfter

/-! ### The end of a planned segment -/

namespace DriverView

variable {view : DriverView} {nowMs : SimMillis} {segment : MotionSegment}

lemma boundary_le_authority (hsound : view.Sound) :
    view.boundary ≤ view.authorityEndRouteMm - view.headRouteMm := by
  have hroom : 0 ≤ view.authorityEndRouteMm - view.headRouteMm := Int.sub_nonneg.mpr hsound.head_le
  exact max_le (clamp64_le (le_trans (by decide) hroom)
    (Int.sub_le_sub_right hsound.boundary_le _)) hroom

/-- A planned segment ends after its duration, a distance behind its start. -/
lemma Plans.endsAfter (h : view.Plans nowMs segment) (hsound : view.Sound) (hrange : view.InRange)
    (hnow : i64Min ≤ nowMs) (hclock : segment.validUntilMs < i64Max) {duration distance : Int}
    (huntil : segment.validUntilMs = addSat64 nowMs duration) (hone : 1 ≤ duration)
    (hlong : duration ≤ i64Max)
    (hend : segment.segmentEndRouteMm = addSat64 view.headRouteMm distance)
    (hforward : 0 ≤ distance) (hway : distance ≤ view.boundary) :
    segment.EndsAfter duration distance := by
  obtain ⟨_, _, -, -, hstarted, -, hstart, -, hauthority, -⟩ := h
  have hclamp : addSat64 nowMs duration = nowMs + duration :=
    addSat64_of_lt hnow (zero_le_one.trans hone) (huntil ▸ hclock)
  have hlast := hway.trans (boundary_le_authority hsound)
  have hzero := hsound.head_nonneg
  have hmax : view.authorityEndRouteMm ≤ i64Max :=
    (Int.le_add_of_nonneg_right (Int.natCast_nonneg _)).trans hrange.authorityEnd
  have hposition : addSat64 view.headRouteMm distance = view.headRouteMm + distance :=
    clamp64_of_mem ⟨by linarith [(by decide : i64Min ≤ 0)], by linarith⟩
  rw [hclamp] at huntil
  rw [hposition] at hend
  refine ⟨?_, ?_, hstart ▸ hzero, hforward, ?_, ?_, hauthority ▸ hmax⟩
  · rw [huntil, hstarted, subSat64, add_sub_cancel_left]
    exact clamp64_of_mem ⟨le_trans (by decide) (zero_le_one.trans hone), hlong⟩
  · rw [huntil, hstarted]
    exact Int.lt_add_of_pos_right _ (Int.lt_of_lt_of_le zero_lt_one hone)
  · rw [hend, hstart]
  · rw [hend, hauthority]
    linarith

/-- A train that is where it may go at most needs a change of speed. -/
lemma Plans.progress_here (h : view.Plans nowMs segment) (hsound : view.Sound)
    (hrange : view.InRange) (hends : segment.EndsAfter 1 0)
    (hsmall : segment.accelerationMmps2 ≤ i32Max) :
    segment.MakesProgress
      ↔ (if view.headRouteMm = view.authorityEndRouteMm then 0
          else (min (kinematicSpeedMmps view.speedMmps segment.accelerationMmps2 1) u32Max).toNat)
        ≠ view.speedMmps := by
  obtain ⟨_, _, -, -, -, -, hstart, hspeed, hauthority, -⟩ := h
  rw [hends.makesProgress_iff, hstart, hspeed, hauthority]
  have hfit : view.headRouteMm + kinematicDistanceMm view.speedMmps segment.accelerationMmps2 1
      ≤ i64Max := by
    have hway := kinematicDistanceMm_one_le hrange.speed hsmall
    linarith [hsound.head_le, hrange.authorityEnd]
  constructor
  · intro hmoves
    rcases hmoves hfit with ⟨hne, -⟩ | ⟨-, hother⟩
    · exact absurd rfl hne
    · exact hother
  · exact fun hother _ => .inr ⟨rfl, hother⟩

lemma toTargetMs_one (hsound : view.Sound) (hslow : view.speedMmps ≤ view.target) :
    view.toTargetMs = 1 := by
  have hbrake := hsound.brake_pos
  have hgap : view.speedMmps - view.target = 0 := Nat.sub_eq_zero_of_le hslow
  have hrest : (view.brake - 1 : Int) / view.brake = 0 :=
    Int.ediv_eq_zero_of_lt (by omega) (by omega)
  unfold toTargetMs
  rw [hgap, Int.natCast_zero, Int.zero_mul, Int.zero_add, hrest]
  decide

/-- How long the segment of a braking train lasts, and how far it goes. -/
structure BrakesAlong (view : DriverView) (segment : MotionSegment) (duration distance : Int) :
    Prop where
  fits : (view.brake : Int) ≤ i32Max
  acceleration : segment.accelerationMmps2 = -(view.brake : Int)
  first : duration = firstBoundaryOrEventMs view.speedMmps (-(view.brake : Int)) view.boundary
    view.toTargetMs
  lasting : 1 ≤ duration
  short : duration ≤ view.toTargetMs
  stand : view.target = 0 → distance = view.boundary
  moving : view.target ≠ 0 →
    distance = min (kinematicDistanceMm view.speedMmps (-(view.brake : Int)) duration) view.boundary
  ends : segment.EndsAfter duration distance

lemma Plans.brakesAlong (h : view.Plans nowMs segment) (hsound : view.Sound)
    (hrange : view.InRange) (hnow : i64Min ≤ nowMs) (hclock : segment.validUntilMs < i64Max)
    (hbrakes : view.brakes = true) :
    ∃ duration distance, view.BrakesAlong segment duration distance := by
  obtain ⟨-, hlong, -⟩ := toTargetMs_mem hsound hrange.speed
  obtain ⟨hfit, ha⟩ : (view.brake : Int) ≤ i32Max
      ∧ segment.accelerationMmps2 = -(view.brake : Int) := by
    rcases h.acceleration with ⟨-, hfit, ha⟩ | ⟨hfree, -⟩ | ⟨hfree, -⟩
    · exact ⟨hfit, ha⟩
    · exact absurd hbrakes (Bool.eq_false_iff.mp hfree)
    · exact absurd hbrakes (Bool.eq_false_iff.mp hfree)
  obtain ⟨duration, distance, huntil, hend, hduration, hlasting, hshort, hstand, hmoving⟩ :=
    h.braking hsound hrange.speed hbrakes
  have hdistance : 0 ≤ distance ∧ distance ≤ view.boundary := by
    by_cases htarget : view.target = 0
    · rw [hstand htarget]
      exact ⟨boundary_nonneg, le_rfl⟩
    · rw [hmoving htarget]
      exact ⟨le_min (kinematicDistanceMm_nonneg _ _ _) boundary_nonneg, min_le_right _ _⟩
  exact ⟨duration, distance, hfit, ha, hduration, hlasting, hshort, hstand, hmoving,
    h.endsAfter hsound hrange hnow hclock huntil hlasting
      (hshort.trans (hlong.trans longestMs_le)) hend hdistance.1 hdistance.2⟩

namespace BrakesAlong

variable {duration distance : Int}

/-- Braking changes the speed where it takes away half a millimetre per second at least. -/
lemma speed_ne_iff (halong : view.BrakesAlong segment duration distance) (hrange : view.InRange)
    {elapsed : Int} (hzero : 0 ≤ elapsed) (hlate : elapsed ≤ longestMs) :
    (min (kinematicSpeedMmps view.speedMmps (-(view.brake : Int)) elapsed) u32Max).toNat
      ≠ view.speedMmps ↔ view.speedMmps ≠ 0 ∧ 500 ≤ view.brake * elapsed := by
  rw [kinematicSpeedMmps_braking hrange.speed halong.fits hzero hlate]
  exact braked_speed_ne hrange.speed (Int.mul_nonneg (Int.natCast_nonneg _) hzero)

/-- At the boundary a braking train needs a change of speed within a millisecond. -/
lemma progress_here (halong : view.BrakesAlong segment duration distance)
    (h : view.Plans nowMs segment) (hsound : view.Sound) (hrange : view.InRange)
    (hbrakes : view.brakes = true) (hhere : view.boundary = 0) :
    segment.MakesProgress ↔ view.stalls = false := by
  obtain ⟨hone, hlong, -⟩ := toTargetMs_mem hsound hrange.speed
  have hmillisecond : duration = 1 := by
    rw [halong.first, hhere]
    exact firstBoundaryOrEventMs_here le_rfl hone (hlong.trans longestMs_le)
  have hnowhere : distance = 0 := by
    by_cases htarget : view.target = 0
    · rw [halong.stand htarget, hhere]
    · rw [halong.moving htarget, hhere]
      exact min_eq_right (kinematicDistanceMm_nonneg _ _ _)
  subst hmillisecond hnowhere
  have hsmall : segment.accelerationMmps2 ≤ i32Max := by
    have hfits := halong.fits
    rw [halong.acceleration]
    omega
  rw [h.progress_here hsound hrange halong.ends hsmall, halong.acceleration]
  unfold stalls
  rw [if_pos hhere, if_pos hbrakes]
  split
  next => rw [beq_eq_false_iff_ne, ne_comm]
  next =>
    rw [halong.speed_ne_iff hrange zero_le_one (by decide), Int.mul_one]
    simp only [Bool.or_eq_false_iff, beq_eq_false_iff_ne, decide_eq_false_iff_not, not_lt]
    omega

/-- Before the boundary a braking train needs a way of its own or a change of speed. -/
lemma makesProgress_iff (halong : view.BrakesAlong segment duration distance)
    (h : view.Plans nowMs segment) (hsound : view.Sound) (hahead : view.boundary ≠ 0) :
    segment.MakesProgress ↔
      (view.headRouteMm + kinematicDistanceMm view.speedMmps (-(view.brake : Int)) duration
          ≤ i64Max →
        (distance ≠ 0 ∧ (kinematicDistanceMm view.speedMmps (-(view.brake : Int)) duration = 0 →
            distance = 1))
          ∨ (distance = 0 ∧ (min (kinematicSpeedMmps view.speedMmps (-(view.brake : Int)) duration)
            u32Max).toNat ≠ view.speedMmps)) := by
  have happart : view.headRouteMm ≠ view.authorityEndRouteMm := fun hsame => by
    have hroom := boundary_le_authority hsound
    have hboundary : 0 ≤ view.boundary := boundary_nonneg
    rw [hsame, sub_self] at hroom
    omega
  obtain ⟨_, _, -, -, -, -, hstart, hspeed, hauthority, -⟩ := h
  rw [halong.ends.makesProgress_iff, hstart, hspeed, hauthority, halong.acceleration,
    if_neg happart]

lemma head_fits (hsound : view.Sound) (hrange : view.InRange) :
    view.headRouteMm + 0 ≤ i64Max := by
  rw [add_zero]
  exact hsound.head_le.trans ((Int.le_add_of_nonneg_right (Int.natCast_nonneg _)).trans
    hrange.authorityEnd)

/-- A train that brakes to a stand is carried to the boundary, unless its way is rounded to
nothing and the boundary is no single millimetre away. -/
lemma progress_to_stand (halong : view.BrakesAlong segment duration distance)
    (h : view.Plans nowMs segment) (hsound : view.Sound) (hrange : view.InRange)
    (hbrakes : view.brakes = true) (hahead : view.boundary ≠ 0) (htarget : view.target = 0) :
    segment.MakesProgress ↔ view.stalls = false := by
  obtain ⟨hone, hlong, -⟩ := toTargetMs_mem hsound hrange.speed
  have hboundary : 0 ≤ view.boundary := boundary_nonneg
  rw [halong.makesProgress_iff h hsound hahead, halong.stand htarget]
  unfold stalls
  rw [if_neg hahead, hbrakes, Bool.true_and, if_pos htarget]
  simp only [Bool.and_eq_false_iff, decide_eq_false_iff_not, not_le]
  constructor
  · intro hmoves
    by_contra hnot
    obtain ⟨hlength, hnone⟩ := not_or.mp hnot
    have hnone := not_not.mp hnone
    have hlast : duration = view.toTargetMs := by
      rw [halong.first]
      exact firstBoundaryOrEventMs_before (by omega)
    rw [hlast, hnone] at hmoves
    have hmoves := hmoves (head_fits hsound hrange)
    omega
  · intro hnot _
    refine .inl ⟨hahead, fun hnone => ?_⟩
    have hcases := @firstBoundaryOrEventMs_cases view.speedMmps (-(view.brake : Int))
      view.boundary _ hone (hlong.trans longestMs_le)
    rw [← halong.first] at hcases
    rcases hcases with ⟨hlast, -⟩ | hreached
    · rw [← hlast, hnone] at hnot
      omega
    · omega

/-- A train that brakes to another speed is carried over its way, and where that is rounded to
nothing the speed has to change. -/
lemma progress_to_speed (halong : view.BrakesAlong segment duration distance)
    (h : view.Plans nowMs segment) (hsound : view.Sound) (hrange : view.InRange)
    (hbrakes : view.brakes = true) (hahead : view.boundary ≠ 0) (htarget : view.target ≠ 0) :
    segment.MakesProgress ↔ view.stalls = false := by
  obtain ⟨hone, hlong, -, hgap⟩ := toTargetMs_mem hsound hrange.speed
  have hboundary : 0 ≤ view.boundary := boundary_nonneg
  have hway := kinematicDistanceMm_nonneg view.speedMmps (-(view.brake : Int)) duration
  have hlasting := halong.lasting
  have hshort := halong.short
  rw [halong.makesProgress_iff h hsound hahead, halong.moving htarget]
  unfold stalls
  rw [if_neg hahead, hbrakes, Bool.true_and, if_neg htarget]
  simp only [Bool.and_eq_false_iff, Bool.or_eq_false_iff, decide_eq_false_iff_not,
    beq_eq_false_iff_ne, not_le, not_lt]
  by_cases hnone : kinematicDistanceMm view.speedMmps (-(view.brake : Int)) duration = 0
  · have hlast : duration = view.toTargetMs := by
      have hcases := @firstBoundaryOrEventMs_cases view.speedMmps (-(view.brake : Int))
        view.boundary _ hone (hlong.trans longestMs_le)
      rw [← halong.first] at hcases
      exact hcases.elim And.left fun hreached => by omega
    have hchange := halong.speed_ne_iff hrange (zero_le_one.trans hlasting) (hshort.trans hlong)
    have hmin : min (kinematicDistanceMm view.speedMmps (-(view.brake : Int)) duration)
        view.boundary = 0 := by
      rw [hnone]
      exact min_eq_left hboundary
    constructor
    · intro hmoves
      rcases hmoves (by rw [hnone]; exact head_fits hsound hrange) with ⟨hne, -⟩ | ⟨-, hother⟩
      · exact absurd hmin hne
      · obtain ⟨hrolling, hbraked⟩ := hchange.mp hother
        by_cases hslow : view.speedMmps ≤ view.target
        · rw [hlast, toTargetMs_one hsound hslow, Int.mul_one] at hbraked
          exact .inr ⟨hrolling, by omega⟩
        · exact .inl (.inl (not_le.mp hslow))
    · intro hfree _
      refine .inr ⟨hmin, hchange.mpr ?_⟩
      by_cases hslow : view.speedMmps ≤ view.target
      · have hmillisecond := hlast.trans (toTargetMs_one hsound hslow)
        rw [hmillisecond] at hnone ⊢
        rcases hfree with (hfast | hway) | ⟨hrolling, hbraked⟩
        · omega
        · exact absurd hnone hway
        · exact ⟨hrolling, by omega⟩
      · rw [hlast]
        exact ⟨by omega, by omega⟩
  · have hlength : min (kinematicDistanceMm view.speedMmps (-(view.brake : Int)) duration)
        view.boundary ≠ 0 := by omega
    refine iff_of_true (fun _ => .inl ⟨hlength, fun hzero => absurd hzero hnone⟩) ?_
    by_cases hslow : view.speedMmps ≤ view.target
    · have hmillisecond : duration = 1 := by
        rw [toTargetMs_one hsound hslow] at hshort
        omega
      rw [hmillisecond] at hnone
      exact .inl (.inr hnone)
    · exact .inl (.inl (not_le.mp hslow))

end BrakesAlong

lemma Plans.braking_progress (h : view.Plans nowMs segment) (hsound : view.Sound)
    (hrange : view.InRange) (hnow : i64Min ≤ nowMs) (hclock : segment.validUntilMs < i64Max)
    (hbrakes : view.brakes = true) : segment.MakesProgress ↔ view.stalls = false := by
  obtain ⟨duration, distance, halong⟩ := h.brakesAlong hsound hrange hnow hclock hbrakes
  by_cases hhere : view.boundary = 0
  · exact halong.progress_here h hsound hrange hbrakes hhere
  · by_cases htarget : view.target = 0
    · exact halong.progress_to_stand h hsound hrange hbrakes hhere htarget
    · exact halong.progress_to_speed h hsound hrange hbrakes hhere htarget

/-- An accelerating train has room for the acceleration. -/
lemma room_of_free (hsound : view.Sound) (hrange : view.InRange) (hfree : view.brakes = false) :
    stoppingDistanceForSpeed view.speedMmps view.brake < subSat64 view.remaining view.margin
      ∧ subSat64 view.remaining view.margin ≤ i64Max := by
  have hstopping := stoppingDistanceForSpeed_nonneg view.speedMmps view.brake
  rw [← hsound.stopping] at hstopping ⊢
  have hmargin : 0 ≤ view.margin := by
    unfold margin roundingMargin
    split
    · exact le_max_of_le_right (le_min (by decide) (by omega))
    · exact le_rfl
  have hnot : ¬ view.remaining ≤ addSat64 view.stoppingDistance view.margin := fun hnear =>
    Bool.false_ne_true (hfree.symm.trans (brakes_iff.mpr (.inr hnear)))
  have hremaining := hrange.remaining
  refine ⟨?_, clamp64_le_max _⟩
  have hsum : addSat64 view.stoppingDistance view.margin = view.stoppingDistance + view.margin :=
    addSat64_of_lt (le_trans (by decide) hstopping) hmargin (by omega)
  have hdifference : subSat64 view.remaining view.margin = view.remaining - view.margin := by
    have hmin : i64Min ≤ 0 := by decide
    exact clamp64_of_mem ⟨by omega, by omega⟩
  rw [hdifference]
  omega

/-- An accelerating train makes progress, except where it is only let a millisecond. -/
lemma Plans.accelerating_progress (h : view.Plans nowMs segment) (hsound : view.Sound)
    (hrange : view.InRange) (hnow : i64Min ≤ nowMs) (hclock : segment.validUntilMs < i64Max)
    (hfree : view.brakes = false) (hslow : view.speedMmps < view.limit)
    (ha : segment.accelerationMmps2 = min view.traction
      (min (mulSatU32 (view.limit - view.speedMmps) 1000 : ℕ) i32Max)) :
    segment.MakesProgress ↔ view.stalls = false := by
  have htraction := hsound.traction_pos
  have hgap : 1000 ≤ mulSatU32 (view.limit - view.speedMmps) 1000
      ∧ mulSatU32 (view.limit - view.speedMmps) 1000 ≤ (view.limit - view.speedMmps) * 1000 := by
    unfold mulSatU32 u32Max
    omega
  have hpositive : 0 < segment.accelerationMmps2 := by
    rw [ha]
    unfold i32Max
    omega
  have hlargest : segment.accelerationMmps2 ≤ i32Max := by
    rw [ha]
    omega
  have hfast := hslow.trans_le hrange.limit
  obtain ⟨hroom, hfit⟩ := room_of_free hsound hrange hfree
  have hgap : segment.accelerationMmps2 ≤ (view.limit - view.speedMmps : ℕ) * 1000 := by
    rw [ha]
    omega
  obtain ⟨hone, hmax, hprogress⟩ := accelerationBoundary_progress hpositive hlargest hgap hslow
    hfast.le hroom hfit
  have hplan := h
  obtain ⟨extent, distance, -, hextent, -, huntil, hstart, hstartSpeed, hauthority, hend⟩ := hplan
  unfold segmentExtent at hextent
  rw [if_pos hpositive] at hextent
  simp only [checked_bind_eq_ok] at hextent
  obtain ⟨covered, hcovered, hextent⟩ := hextent
  cases hextent
  have hcovered := (checked64_eq_some (orRefuse_eq_ok.mp hcovered)).1
  subst hcovered
  generalize accelerationBrakeBoundaryMs view.speedMmps segment.accelerationMmps2 view.brake
    (subSat64 view.remaining view.margin) view.limit = toBoundary at *
  have hboundary : 0 ≤ view.boundary := boundary_nonneg
  obtain ⟨hlasting, hshort⟩ := @firstBoundaryOrEventMs_mem view.speedMmps
    segment.accelerationMmps2 view.boundary _ hone hmax
  have hcases := @firstBoundaryOrEventMs_cases view.speedMmps segment.accelerationMmps2
    view.boundary _ hone hmax
  have hhere := fun hzero : view.boundary ≤ 0 => firstBoundaryOrEventMs_here
    (v := view.speedMmps) (a := segment.accelerationMmps2) hzero hone hmax
  generalize firstBoundaryOrEventMs view.speedMmps segment.accelerationMmps2 view.boundary
    (max toBoundary 1) = duration at *
  have hway := kinematicDistanceMm_nonneg view.speedMmps segment.accelerationMmps2 duration
  have hnonneg : 0 ≤ min (kinematicDistanceMm view.speedMmps segment.accelerationMmps2 duration)
      view.boundary := le_min hway hboundary
  rw [max_eq_left hlasting] at huntil
  rw [max_eq_left hnonneg] at hend
  have hends := h.endsAfter hsound hrange hnow hclock huntil hlasting (hshort.trans hmax) hend
    hnonneg (min_le_right _ _)
  have hother : ∀ elapsed, kinematicSpeedMmps view.speedMmps segment.accelerationMmps2 elapsed
      ≠ view.speedMmps → (min (kinematicSpeedMmps view.speedMmps segment.accelerationMmps2 elapsed)
        u32Max).toNat ≠ view.speedMmps := by
    intro elapsed hne
    have hpos : 0 ≤ kinematicSpeedMmps view.speedMmps segment.accelerationMmps2 elapsed :=
      le_max_right _ _
    omega
  unfold stalls
  by_cases hzero : view.boundary = 0
  · have hmillisecond := hhere hzero.le
    have hnowhere : min (kinematicDistanceMm view.speedMmps segment.accelerationMmps2 duration)
        view.boundary = 0 := by omega
    rw [hnowhere, hmillisecond] at hends
    rw [h.progress_here hsound hrange hends hlargest, if_pos hzero, hfree]
    split
    next => rw [beq_eq_false_iff_ne, ne_comm]
    next =>
      rw [if_neg Bool.false_ne_true, Bool.or_eq_false_iff, beq_eq_false_iff_ne,
        decide_eq_false_iff_not, not_lt]
      by_cases hstrong : 500 ≤ segment.accelerationMmps2
      · have hfaster := @lt_kinematicSpeedMmps view.speedMmps segment.accelerationMmps2 1
          hfast.le (by omega)
        exact iff_of_true (hother 1 hfaster.ne') ⟨hslow.ne, by omega⟩
      · have hsame := kinematicSpeedMmps_one (v := view.speedMmps) hpositive.le
          (not_le.mp hstrong) hfast.le
        rw [hsame]
        unfold i32Max at ha
        omega
  · have happart : view.headRouteMm ≠ view.authorityEndRouteMm := fun hsame => by
      have hroom := boundary_le_authority hsound
      rw [hsame, sub_self] at hroom
      omega
    rw [hends.makesProgress_iff, hstart, hstartSpeed, hauthority, if_neg happart, if_neg hzero,
      hfree, Bool.false_and]
    refine iff_of_true (fun _ => ?_) rfl
    by_cases hnone : kinematicDistanceMm view.speedMmps segment.accelerationMmps2 duration = 0
    · refine .inr ⟨by omega, ?_⟩
      rcases hcases with ⟨hlast, -⟩ | hreached
      · rw [hlast] at hnone ⊢
        exact hother _ (hprogress hnone)
      · omega
    · exact .inl ⟨by omega, fun hway => absurd hway hnone⟩

/-- A train that keeps its speed makes progress, except where it is only let a millisecond. -/
lemma Plans.holding_progress (h : view.Plans nowMs segment) (hsound : view.Sound)
    (hrange : view.InRange) (hnow : i64Min ≤ nowMs) (hclock : segment.validUntilMs < i64Max)
    (hfree : view.brakes = false) (hspeed : view.speedMmps = view.limit)
    (ha : segment.accelerationMmps2 = 0) :
    segment.MakesProgress ↔ view.stalls = false := by
  have hplan := h
  obtain ⟨duration, distance, -, hextent, -, huntil, hstart, hstartSpeed, hauthority, hend⟩ := hplan
  have hboundary : 0 ≤ view.boundary := boundary_nonneg
  unfold segmentExtent at hextent
  rw [ha, if_neg (by decide), if_pos rfl] at hextent
  simp only [checked_bind_eq_ok] at hextent
  obtain ⟨taken, htaken, hextent⟩ := hextent
  cases hextent
  generalize hstartBraking : max (subSat64 (subSat64 view.remaining view.stoppingDistance)
    view.margin) 1 = untilBraking at *
  have hbraking : 1 ≤ untilBraking := hstartBraking ▸ le_max_right _ _
  unfold analyticDurationMs at htaken
  unfold stalls
  by_cases hzero : view.boundary = 0
  · have hnowhere : min view.boundary untilBraking = 0 := by omega
    rw [hnowhere, if_pos le_rfl] at htaken
    cases htaken
    rw [hnowhere] at hend
    have hends := h.endsAfter hsound hrange hnow hclock huntil (by decide) (by decide) hend le_rfl
      hboundary
    rw [h.progress_here hsound hrange hends (by rw [ha]; decide), if_pos hzero, hfree, ha]
    split
    next => rw [beq_eq_false_iff_ne, ne_comm]
    next =>
      have hsame := kinematicSpeedMmps_one (v := view.speedMmps) le_rfl (by decide) hrange.speed
      have hfits := hrange.speed
      rw [hsame, hspeed]
      simp
      omega
  · have hfirst : 1 ≤ min view.boundary untilBraking := by omega
    rw [if_neg (by omega), if_neg (by decide), if_neg (by decide)] at htaken
    split at htaken
    next => cases htaken
    next hrolling =>
      cases htaken
      obtain ⟨hlasting, hlong, hway⟩ := steady_progress (Nat.pos_of_ne_zero hrolling)
        hrange.speed hfirst
      rw [max_eq_left hlasting] at huntil
      have hends := h.endsAfter hsound hrange hnow hclock huntil hlasting hlong hend (by omega)
        (min_le_left _ _)
      have hmoves := one_le_kinematicDistanceMm (v := view.speedMmps) (a := 0) le_rfl
        (zero_le_one.trans hlasting) hway
      rw [hends.makesProgress_iff, hstartSpeed, ha, if_neg hzero, hfree, Bool.false_and]
      exact iff_of_true (fun _ => .inl ⟨by omega, fun hnone => by omega⟩) rfl

/-- A planned segment makes no progress in exactly the situations given. -/
theorem Plans.progress (h : view.Plans nowMs segment) (hsound : view.Sound)
    (hrange : view.InRange) (hnow : i64Min ≤ nowMs) (hclock : segment.validUntilMs < i64Max) :
    segment.MakesProgress ↔ view.stalls = false := by
  rcases h.acceleration with ⟨hbrakes, -⟩ | ⟨hfree, hslow, ha⟩ | ⟨hfree, hspeed, ha⟩
  · exact h.braking_progress hsound hrange hnow hclock hbrakes
  · exact h.accelerating_progress hsound hrange hnow hclock hfree hslow ha
  · exact h.holding_progress hsound hrange hnow hclock hfree hspeed ha

end DriverView

/-- **Progress of planned segments.**  A planned segment ends at another position or at another
speed than it starts with, and a segment of some length at another position, except in exactly the
situations of `DriverView.stalls`. -/
theorem planned_progress {env : Env} {trainId : String} {w : OperationalWorld}
    {segment : MotionSegment} {view : DriverView}
    (hplan : (planMotion env trainId w).result = .ok segment)
    (hview : w.driverView trainId = .ok view) (hrange : view.InRange) (hnow : i64Min ≤ w.nowMs)
    (hclock : segment.validUntilMs < i64Max) :
    segment.MakesProgress ↔ view.stalls = false := by
  obtain ⟨seen, hseen, hsound, hplans⟩ := decideMotion_view (decideMotion_of_planMotion hplan)
  cases hview.symm.trans hseen
  exact hplans.progress hsound hrange hnow hclock

/-! ### A train with weak brakes at its stop -/

namespace WeakBrakes

/-- The small railway with a platform in the middle of its second block. -/
def infra : InMemoryOperationalInfrastructure :=
  ⟨{ Crossover.release with
      platformIntervals := Std.ExtTreeMap.ofList
        [("p0", ⟨"e1", 900000, 1000000, .along⟩), ("p1", ⟨"e2", 400000, 500000, .along⟩),
          ("p2", ⟨"e2", 900000, 1000000, .along⟩)] compare }, "binding", by decide +kernel⟩

/-- The railway as one region. -/
def start : Network :=
  { worlds := Std.ExtTreeMap.ofList [("A", .new "world" "A" 0 infra)] compare, letters := [] }

/-- A railcar that brakes with less than half a metre per second squared. -/
def railcar : VehicleType :=
  { Crossover.railcar with serviceBrakeMmps2 := 400, emergencyBrakeMmps2 := 600 }

/-- A stop of one second at a platform. -/
def stop (index : ℕ) (name platform : String) (routeMm : RouteMillimetres)
    (arrival departure : SimMillis) : OperationalPassengerStop :=
  { stopId := name, stationId := name, stopSequence := index, routeMm, platformId := platform
    scheduledArrivalMs := arrival, scheduledDepartureMs := departure, minimumDwellMs := 1000 }

/-- From platform to platform. -/
def plan : OperationalPassengerStopPlan :=
  { schemaVersion := "zugfolge-operational-passenger-stop-plan/v1", worldId := "world"
    infrastructureReleaseId := "release", timetableReleaseId := "timetable"
    serviceId := "service", serviceRunId := "run", trainRunId := "T1", routeVersionId := "main"
    sourceBindingHash := Crossover.digest ""
    stops := [stop 0 "west" "p0" 1000000 0 2000, stop 1 "middle" "p1" 1500000 60000 61000,
      stop 2 "east" "p2" 2000000 90000 91000] }

/-- The train runs to its second stop. -/
def running : List Command :=
  [.registerVehicleType railcar true, .registerVehicle (Crossover.vehicle "v1"),
    .createFormation "f1" none ["v1"],
    .materialize { Crossover.train "T1" "1" "main" "f1" 1000000 with
      stopPlan := some plan, publicPassengerStop := true, scheduledDepartureMs := some 2000 },
    .lockRoute "T1" "t2", .advanceTo 60655].map Crossover.inA

/-- The region in the middle of a call, when the train has reached its stop and is planned on; the
segment that has ended there is cleared by hand. -/
def world : Option OperationalWorld :=
  ((start.performAll Crossover.env running).bind fun r => r.1.worlds["A"]?).map fun w =>
    w.updateTrain "T1" fun train => { train with motionSegment := none }

/-- The values of the view lie in their ranges. -/
def fits (view : DriverView) : Bool :=
  decide (view.speedMmps ≤ u32Max) && decide (view.limit ≤ u32Max)
    && decide (view.remaining ≤ i64Max)
    && decide (view.authorityEndRouteMm + u32Max ≤ i64Max)

lemma inRange_of_fits {view : DriverView} (h : fits view = true) : view.InRange := by
  simp only [fits, Bool.and_eq_true, decide_eq_true_eq] at h
  exact ⟨h.1.1.1, h.1.1.2, h.1.2, h.2⟩

/-- The train does not come to a stand: it is at its stop and still rolls with 204 millimetres per
second. -/
lemma rolling : ∃ w segment view, (planMotion Crossover.env "T1" w).result = .ok segment
    ∧ w.driverView "T1" = .ok view ∧ view.InRange ∧ view.stalls = true ∧ w.nowMs = 60655
    ∧ segment.validUntilMs = 60656 ∧ segment.positionAt segment.validUntilMs = .ok 1500000
    ∧ segment.speedAt segment.validUntilMs = .ok 204 ∧ segment.startRouteMm = 1500000
    ∧ segment.startSpeedMmps = 204 := by
  have hfound : (world.any fun w => w.nowMs == 60655
      && ((w.driverView "T1").toOption.any fun view => fits view && view.stalls)
      && ((planMotion Crossover.env "T1" w).result.toOption.any fun segment =>
        segment.validUntilMs == 60656
          && (segment.positionAt segment.validUntilMs).toOption == some 1500000
          && (segment.speedAt segment.validUntilMs).toOption == some 204
          && segment.startRouteMm == 1500000 && segment.startSpeedMmps == 204)) = true := by
    decide +kernel
  simp only [Option.any_eq_true, Bool.and_eq_true, beq_iff_eq] at hfound
  obtain ⟨w, -, ⟨hnow, view, hview, hfits, hstalls⟩, segment, hsegment,
    ⟨⟨⟨huntil, hposition⟩, hspeed⟩, hstart⟩, hstartSpeed⟩ := hfound
  exact ⟨w, segment, view, ok_of_toOption hsegment, ok_of_toOption hview, inRange_of_fits hfits,
    hstalls, hnow, huntil, ok_of_toOption hposition, ok_of_toOption hspeed, hstart, hstartSpeed⟩

end WeakBrakes

/-- The segment planned at the stop makes no progress. -/
theorem planned_progress_weakBrakes : ∃ w segment view,
    (planMotion Crossover.env "T1" w).result = .ok segment ∧ w.driverView "T1" = .ok view
      ∧ view.stalls = true ∧ ¬ segment.MakesProgress := by
  obtain ⟨w, segment, view, hplan, hview, hrange, hstalls, hnow, huntil, -⟩ := WeakBrakes.rolling
  have hprogress := planned_progress hplan hview hrange (by rw [hnow]; decide)
    (by rw [huntil]; decide)
  refine ⟨w, segment, view, hplan, hview, hstalls, fun hmoves => ?_⟩
  rw [hprogress.mp hmoves] at hstalls
  exact Bool.false_ne_true hstalls

/-- A train may get a segment without progress. -/
theorem halted_short : ¬ ∀ (env : Env) (trainId : String) (w : OperationalWorld)
    (segment : MotionSegment), (planMotion env trainId w).result = .ok segment →
    segment.MakesProgress := by
  intro h
  obtain ⟨w, segment, -, hplan, -, -, -, -, -, hposition, hspeed, hstart, hstartSpeed⟩ :=
    WeakBrakes.rolling
  have hmoves := (h _ _ w segment hplan _ _ hposition hspeed).1
  rw [hstart, hstartSpeed] at hmoves
  exact absurd hmoves (by decide)

end Zugfolge
