/-
What the driver sees, and the segment planned from it.
-/
import Zugfolge.Behaviour.Segments
import Zugfolge.Driving.Kinematics

namespace Zugfolge

open Foundation

/-! ### The view -/

/-- What the next segment of a train depends on. -/
structure DriverView where
  speedMmps : ℕ
  limit : ℕ
  targetSpeed : ℕ
  remaining : Int
  stoppingDistance : Int
  traction : Int
  brake : ℕ
  headRouteMm : RouteMillimetres
  authorityEndRouteMm : RouteMillimetres
  boundaryRouteMm : RouteMillimetres

namespace DriverView

variable (view : DriverView)

/-- The room left for rounding. -/
def margin : Int := roundingMargin view.speedMmps view.targetSpeed

/-- The way to the next boundary. -/
def boundary : Int := max (subSat64 view.boundaryRouteMm view.headRouteMm) 0

/-- The train is too fast, or has to brake for its target. -/
def brakes : Bool :=
  decide (view.limit < view.speedMmps)
    || decide (view.remaining ≤ addSat64 view.stoppingDistance view.margin)

/-- The speed that a braking train brakes to. -/
def target : ℕ :=
  if view.limit < view.speedMmps then view.limit else min view.targetSpeed view.limit

/-- The time to brake to the target, rounded up to a whole millisecond. -/
def toTargetMs : Int :=
  max ((((view.speedMmps - view.target : ℕ) : Int) * 1000 + view.brake - 1) / view.brake) 1

/-- The segment is the one planned at an instant. -/
def Plans (nowMs : SimMillis) (segment : MotionSegment) : Prop :=
  ∃ duration distance,
    chosenAcceleration view.speedMmps view.limit view.remaining view.stoppingDistance view.margin
        view.traction view.brake = .ok segment.accelerationMmps2
      ∧ segmentExtent view.speedMmps view.limit view.targetSpeed view.brake
        segment.accelerationMmps2 view.remaining view.stoppingDistance view.margin view.boundary
        = .ok (duration, distance)
      ∧ segment.startedAtMs = nowMs
      ∧ segment.validUntilMs = addSat64 nowMs (max duration 1)
      ∧ segment.startRouteMm = view.headRouteMm
      ∧ segment.startSpeedMmps = view.speedMmps
      ∧ segment.authorityEndRouteMm = view.authorityEndRouteMm
      ∧ segment.segmentEndRouteMm = addSat64 view.headRouteMm distance

/-- What is known of every view. -/
structure Sound : Prop where
  traction_pos : 0 < view.traction
  traction_le : view.traction ≤ i32Max
  brake_pos : 0 < view.brake
  stopping : view.stoppingDistance = stoppingDistanceForSpeed view.speedMmps view.brake
  stopping_le : view.stoppingDistance ≤ i64Max
  head_nonneg : 0 ≤ view.headRouteMm
  head_le : view.headRouteMm ≤ view.authorityEndRouteMm
  boundary_le : view.boundaryRouteMm ≤ view.authorityEndRouteMm

/-- The values lie in the ranges of their machine types, the positions with some room behind
them. -/
structure InRange : Prop where
  speed : view.speedMmps ≤ u32Max
  limit : view.limit ≤ u32Max
  remaining : view.remaining ≤ i64Max
  authorityEnd : view.authorityEndRouteMm + u32Max ≤ i64Max

end DriverView

/-- The view of a train with its profile, its braking target and its stopping distance. -/
def OperationalTrain.view (train : OperationalTrain) (formation : FormationVersion)
    (authority : MovementAuthority) (leg : RouteLeg) (motionEnd : RouteMillimetres)
    (profile : MotionProfile) (target : Int × ℕ) (stoppingDistance : Int) : DriverView :=
  { speedMmps := train.speedMmps
    limit := profile.limit
    targetSpeed := target.2
    remaining := target.1
    stoppingDistance
    traction := (formation.performance.accelerationMmps2 : Int)
      - gradeAcceleration profile.maximumGradient
    brake := ((formation.performance.serviceBrakeMmps2 : Int)
      + gradeAcceleration profile.minimumGradient).toNat
    headRouteMm := train.headRouteMm
    authorityEndRouteMm := authority.endRouteMm
    boundaryRouteMm := min (min (min authority.endRouteMm motionEnd) leg.routeEndMm)
      profile.nextTailBoundary }

/-- What the driver of a train sees on its leg, up to the end of its motion. -/
def OperationalWorld.driverViewOn (w : OperationalWorld) (train : OperationalTrain)
    (formation : FormationVersion) (route : RouteVersion) (authority : MovementAuthority)
    (leg : RouteLeg) (motionEnd : RouteMillimetres) : Checked DriverView := do
  let limitOf := w.legLimit train formation
  let profile ← motionProfile limitOf train formation.performance.lengthMm
    authority.endRouteMm route leg
  let brake := ((formation.performance.serviceBrakeMmps2 : Int)
    + gradeAcceleration profile.minimumGradient).toNat
  let target ← brakingTarget limitOf train route motionEnd brake
  let stoppingDistance ← stoppingDistanceMm train.speedMmps brake
  pure (train.view formation authority leg motionEnd profile target stoppingDistance)

/-- What the driver of a train sees. -/
def OperationalWorld.driverView (w : OperationalWorld) (trainId : String) : Checked DriverView := do
  let train ← w.trainOf trainId
  let formation ← w.formationOf train.formationVersionId
  let route ← w.routeOf train
  let authority ← orRefuse train.authority .noAuthority
  let leg ← orRefuse (route.legAt train.headRouteMm) (.incompleteRoute route.id)
  w.driverViewOn train formation route authority leg
    (train.passengerBrakingTarget.elim authority.endRouteMm
      fun stop => min stop authority.endRouteMm)

/-! ### Routes begin at zero -/

/-- Chained legs do not begin before zero if the first one does not. -/
lemma legsChained_nonneg {expected : RouteMillimetres} {legs : List RouteLeg}
    (h : legsChained expected legs = true) (hexpected : 0 ≤ expected) :
    ∀ leg ∈ legs, 0 ≤ leg.routeStartMm := by
  induction legs generalizing expected with
  | nil => simp
  | cons first rest ih =>
    unfold legsChained at h
    rw [Bool.and_eq_true] at h
    obtain ⟨hfirst, hrest⟩ := h
    simp only [RouteLeg.isComplete, Bool.not_eq_true', Bool.or_eq_false_iff,
      decide_eq_false_iff_not, not_not, not_le] at hfirst
    have hlength : 0 < first.lengthMm := hfirst.1.1.1.1.1.1.1.1.2
    have hstart : first.routeStartMm = expected := hfirst.1.1.1.1.1.1.2
    rw [← hstart] at hexpected
    have hend : 0 ≤ first.routeEndMm :=
      le_max_of_le_right (le_min (by decide) (Int.add_nonneg hexpected hlength.le))
    intro leg hleg
    rcases List.mem_cons.mp hleg with rfl | hleg
    · exact hexpected
    · exact ih hrest hend leg hleg

lemma OperationalWorld.head_nonneg {w : OperationalWorld} {train : OperationalTrain}
    {route : RouteVersion} {leg : RouteLeg} {head : RouteMillimetres}
    (hroute : w.routeOf train = .ok route) (hleg : route.legAt head = some leg) : 0 ≤ head := by
  simp only [OperationalWorld.routeOf, OperationalWorld.routeNamed, orRefuse_eq_ok] at hroute
  have hvalid := InMemoryOperationalInfrastructure.validated.1 _ (Registry.mem_toList.mpr hroute)
  simp only [OperationalInfraRelease.validateRoute, RouteVersion.validate, checked_bind_eq_ok,
    demand_eq_ok] at hvalid
  obtain ⟨_, _, _, ⟨_, _, _, hchained, _⟩, _⟩ := hvalid
  have hstart := legsChained_nonneg hchained le_rfl leg (List.mem_of_find?_eq_some hleg)
  have hunder := List.find?_some hleg
  simp only [Bool.and_eq_true, decide_eq_true_eq] at hunder
  exact hstart.trans hunder.1

/-- The segment of a train that may move is planned from what its driver sees. -/
lemma plannedSegment_view {w : OperationalWorld} {train : OperationalTrain}
    {formation : FormationVersion} {route : RouteVersion} {authority : MovementAuthority}
    {leg : RouteLeg} {motionEnd : RouteMillimetres} {segment : MotionSegment}
    (h : plannedSegment w train formation route authority leg motionEnd = .ok (.start segment))
    (hzero : 0 ≤ train.headRouteMm) (hahead : train.headRouteMm ≤ authority.endRouteMm) :
    ∃ view, w.driverViewOn train formation route authority leg motionEnd = .ok view
      ∧ view.Sound ∧ view.Plans w.nowMs segment := by
  unfold plannedSegment at h
  simp only [checked_bind_eq_ok] at h
  obtain ⟨profile, hprofile, h⟩ := h
  split at h
  case isTrue => cases h
  case isFalse hforces =>
    simp only [not_or, not_le] at hforces
    simp only [checked_bind_eq_ok, demand_eq_ok, decide_eq_true_eq] at h
    obtain ⟨_, htraction, _, -, target, htarget, stopping, hstopping, acceleration,
      hacceleration, ⟨duration, distance⟩, hextent, h⟩ := h
    cases h
    refine ⟨train.view formation authority leg motionEnd profile target stopping, ?_, ?_, duration,
      distance, hacceleration, hextent, rfl, rfl, rfl, rfl, rfl, rfl⟩
    · simp only [OperationalWorld.driverViewOn, checked_bind_eq_ok]
      exact ⟨profile, hprofile, target, htarget, stopping, hstopping, rfl⟩
    · have hstop := checked64_eq_some (orRefuse_eq_ok.mp hstopping)
      exact
        { traction_pos := hforces.1, traction_le := htraction
          brake_pos := Int.pos_iff_toNat_pos.mp hforces.2
          stopping := hstop.1, stopping_le := hstop.1 ▸ hstop.2.2
          head_nonneg := hzero, head_le := hahead
          boundary_le := ((min_le_left _ _).trans (min_le_left _ _)).trans (min_le_left _ _) }

/-- The segment of a train is planned from what its driver sees. -/
lemma decideMotion_view {w : OperationalWorld} {trainId : String} {segment : MotionSegment}
    (h : decideMotion w trainId = .ok (.start segment)) :
    ∃ view, w.driverView trainId = .ok view ∧ view.Sound ∧ view.Plans w.nowMs segment := by
  unfold decideMotion at h
  simp only [checked_bind_eq_ok, refuseIf_eq_ok] at h
  obtain ⟨_, -, _, -, train, htrain, formation, hformation, route, hroute, authority, hauthority,
    _, -, h⟩ := h
  split at h
  case isTrue => cases h
  case isFalse hvalid =>
    simp only [not_or, not_lt] at hvalid
    simp only [checked_bind_eq_ok] at h
    obtain ⟨_, -, leg, hleg, h⟩ := h
    split at h
    case isTrue => cases h
    case isFalse =>
      have hzero := OperationalWorld.head_nonneg hroute (orRefuse_eq_ok.mp hleg)
      obtain ⟨view, hview, hplan⟩ := plannedSegment_view h hzero hvalid.2.1
      refine ⟨view, ?_, hplan⟩
      simp only [OperationalWorld.driverView, checked_bind_eq_ok]
      refine ⟨train, htrain, formation, hformation, route, hroute, authority, hauthority, leg, hleg,
        ?_⟩
      cases hstop : train.passengerBrakingTarget with
      | none | some stop =>
        simp only [hstop] at hview
        exact hview

/-! ### The parts of a plan -/

namespace DriverView

variable {view : DriverView} {nowMs : SimMillis} {segment : MotionSegment}

lemma boundary_nonneg : 0 ≤ view.boundary := le_max_right _ _

lemma brakes_iff : view.brakes = true ↔ view.limit < view.speedMmps
    ∨ view.remaining ≤ addSat64 view.stoppingDistance view.margin := by
  simp only [brakes, Bool.or_eq_true, decide_eq_true_eq]

/-- A train brakes, accelerates towards its limit, or keeps its speed. -/
lemma Plans.acceleration (h : view.Plans nowMs segment) :
    (view.brakes = true ∧ (view.brake : Int) ≤ i32Max
        ∧ segment.accelerationMmps2 = -(view.brake : Int))
      ∨ (view.brakes = false ∧ view.speedMmps < view.limit
        ∧ segment.accelerationMmps2 = min view.traction
          (min (mulSatU32 (view.limit - view.speedMmps) 1000 : ℕ) i32Max))
      ∨ (view.brakes = false ∧ view.speedMmps = view.limit
        ∧ segment.accelerationMmps2 = 0) := by
  obtain ⟨_, _, hchosen, -⟩ := h
  unfold chosenAcceleration at hchosen
  split at hchosen
  case isTrue hbrakes =>
    simp only [checked_bind_eq_ok, demand_eq_ok, decide_eq_true_eq] at hchosen
    obtain ⟨_, hfit, hchosen⟩ := hchosen
    exact .inl ⟨brakes_iff.mpr hbrakes, hfit, (Except.ok.inj hchosen).symm⟩
  case isFalse hbrakes =>
    have hfree : view.brakes = false := Bool.eq_false_iff.mpr fun h => hbrakes (brakes_iff.mp h)
    split at hchosen
    case isTrue hslow =>
      refine .inr (.inl ⟨hfree, hslow, (Except.ok.inj hchosen).symm.trans ?_⟩)
      congr 1
    case isFalse hfast =>
      exact .inr (.inr ⟨hfree, by omega, (Except.ok.inj hchosen).symm⟩)

/-- Braking takes at least a millisecond, and at most a millisecond longer than to stand. -/
lemma toTargetMs_mem (hsound : view.Sound) (hspeed : view.speedMmps ≤ u32Max) :
    1 ≤ view.toTargetMs ∧ view.toTargetMs ≤ longestMs
      ∧ view.brake * view.toTargetMs ≤ 1000 * view.speedMmps + view.brake
      ∧ ((view.speedMmps - view.target : ℕ) : Int) * 1000 ≤ view.brake * view.toTargetMs := by
  have hbrake := hsound.brake_pos
  have hgap : ((view.speedMmps - view.target : ℕ) : Int) ≤ view.speedMmps := by omega
  unfold toTargetMs longestMs
  unfold u32Max at hspeed
  generalize ((view.speedMmps - view.target : ℕ) : Int) = gap at *
  have hdiv := Int.mul_ediv_add_emod (gap * 1000 + view.brake - 1) view.brake
  have hmod := Int.emod_lt_of_pos (gap * 1000 + view.brake - 1)
    (Int.natCast_pos.mpr hbrake)
  have hrest := Int.emod_nonneg (gap * 1000 + view.brake - 1) (by omega : (view.brake : Int) ≠ 0)
  generalize (gap * 1000 + view.brake - 1) / view.brake = quotient at *
  generalize (gap * 1000 + view.brake - 1) % view.brake = rest at *
  have hquotient : quotient ≤ 1000 * view.speedMmps := by
    by_contra hlarge
    have hstep : (view.brake : Int) * (1000 * view.speedMmps + 1) ≤ view.brake * quotient :=
      Int.mul_le_mul_of_nonneg_left (by omega) (by omega)
    have hone : 1 * (1000 * (view.speedMmps : Int)) ≤ view.brake * (1000 * view.speedMmps) :=
      Int.mul_le_mul_of_nonneg_right (by omega) (by omega)
    rw [Int.mul_add, Int.mul_one] at hstep
    omega
  rcases le_or_gt quotient 1 with hsmall | hlarge
  · rw [max_eq_right hsmall, Int.mul_one]
    have hproduct : (view.brake : Int) * quotient ≤ view.brake * 1 :=
      Int.mul_le_mul_of_nonneg_left hsmall (by omega)
    exact ⟨le_rfl, by omega, by omega, by omega⟩
  · rw [max_eq_left hlarge.le]
    exact ⟨hlarge.le, by omega, by omega, by omega⟩

lemma longestMs_le : longestMs ≤ i64Max := by decide

/-- While the train brakes, the segment takes at most the time to the target; its way is the way to
the boundary if the target is a stand. -/
lemma Plans.braking (h : view.Plans nowMs segment) (hsound : view.Sound)
    (hspeed : view.speedMmps ≤ u32Max) (hbrakes : view.brakes = true) :
    ∃ duration distance, segment.validUntilMs = addSat64 nowMs duration
      ∧ segment.segmentEndRouteMm = addSat64 view.headRouteMm distance
      ∧ duration = firstBoundaryOrEventMs view.speedMmps (-(view.brake : Int)) view.boundary
        view.toTargetMs
      ∧ 1 ≤ duration ∧ duration ≤ view.toTargetMs
      ∧ (view.target = 0 → distance = view.boundary)
      ∧ (view.target ≠ 0 → distance
        = min (kinematicDistanceMm view.speedMmps (-(view.brake : Int)) duration)
          view.boundary) := by
  obtain ⟨hone, hlong, -⟩ := toTargetMs_mem hsound hspeed
  have hbrake := hsound.brake_pos
  rcases h.acceleration with ⟨-, -, ha⟩ | ⟨hfree, -⟩ | ⟨hfree, -⟩
  · obtain ⟨duration, distance, -, hextent, -, huntil, -, -, -, hend⟩ := h
    have hmem := @firstBoundaryOrEventMs_mem view.speedMmps (-(view.brake : Int))
      view.boundary _ hone (hlong.trans longestMs_le)
    unfold segmentExtent at hextent
    rw [ha, if_neg (by omega), if_neg (by omega)] at hextent
    dsimp only at hextent
    change (if view.target = 0 then _ else _) = _ at hextent
    split at hextent
    next hstand =>
      cases hextent
      refine ⟨_, _, ?_, hend, rfl, hmem.1, hmem.2, fun _ => rfl, fun hmoving =>
        absurd hstand hmoving⟩
      rw [huntil]
      exact congrArg _ (max_eq_left hmem.1)
    next hmoving =>
      simp only [checked_bind_eq_ok] at hextent
      obtain ⟨covered, hcovered, hextent⟩ := hextent
      cases hextent
      have hway := (checked64_eq_some (orRefuse_eq_ok.mp hcovered)).1
      refine ⟨_, _, ?_, hend, rfl, hmem.1, hmem.2, fun hstand => absurd hstand hmoving,
        fun _ => ?_⟩
      · rw [huntil]
        exact congrArg _ (max_eq_left hmem.1)
      · rw [hway]
        exact max_eq_left (le_min (kinematicDistanceMm_nonneg _ _ _) boundary_nonneg)
  · rw [hfree] at hbrakes
    cases hbrakes
  · rw [hfree] at hbrakes
    cases hbrakes

end DriverView

end Zugfolge
