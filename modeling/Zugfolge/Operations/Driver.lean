/-
The virtual driver: the next motion segment of a train.

The driver obeys the speed limits under the whole train, brakes for the next lower
limit, the next stop and the end of the authority, and ends a segment at the first
event that changes its plan.
-/
import Zugfolge.Operations.Interlocking

namespace Zugfolge

open Foundation

namespace OperationalWorld

/-- The speed limit on a leg for a train with its formation. -/
def legLimit (w : OperationalWorld) (train : OperationalTrain) (formation : FormationVersion)
    (leg : RouteLeg) : ℕ :=
  let limit := min leg.speedLimitMmps formation.performance.maximumSpeedMmps
  let limit := if train.movementKind = .shunting then min limit shuntingMaximumSpeedMmps
    else limit
  (Registry.values w.activeDisruptions).foldl (fun acc effect =>
    match effect with
    | .speedRestriction edgeId maximumSpeed =>
      if edgeId = leg.edgeId then min acc maximumSpeed else acc
    | _ => acc) limit

end OperationalWorld

/-- The limits and gradients a train is bound by. -/
structure MotionProfile where
  limit : ℕ
  maximumGradient : Int
  minimumGradient : Int
  nextTailBoundary : RouteMillimetres

/-- Adds one leg of the route to the profile. -/
def MotionProfile.addLeg (limitOf : RouteLeg → ℕ) (train : OperationalTrain) (lengthMm : ℕ)
    (authorityEnd : RouteMillimetres) (profile : MotionProfile) (leg : RouteLeg) :
    Checked MotionProfile := do
  let behindTail := decide (train.tailRouteMm < leg.routeEndMm)
  let profile ←
    if behindTail && decide (leg.routeStartMm ≤ train.headRouteMm) then do
      let gradient ← leg.directedGradient
      pure { profile with
        limit := min profile.limit (limitOf leg)
        maximumGradient := max profile.maximumGradient gradient }
    else pure profile
  let profile ←
    if behindTail && decide (leg.routeStartMm < authorityEnd) then do
      let gradient ← leg.directedGradient
      pure { profile with minimumGradient := min profile.minimumGradient gradient }
    else pure profile
  let boundary := addSat64 leg.routeEndMm lengthMm
  if train.headRouteMm < boundary then
    pure { profile with nextTailBoundary := min profile.nextTailBoundary boundary }
  else pure profile

/-- The profile of a train whose head stands on `leg`. -/
def motionProfile (limitOf : RouteLeg → ℕ) (train : OperationalTrain) (lengthMm : ℕ)
    (authorityEnd : RouteMillimetres) (route : RouteVersion) (leg : RouteLeg) :
    Checked MotionProfile := do
  let gradient ← leg.directedGradient
  route.legs.foldlM (MotionProfile.addLeg limitOf train lengthMm authorityEnd)
    { limit := limitOf leg, maximumGradient := gradient, minimumGradient := gradient
      nextTailBoundary := authorityEnd }

/-- The acceleration of gravity along a gradient. -/
def gradeAcceleration (gradient : Int) : Int := divRoundHalfAway (gradient * 980665) 100000

/-- The braking target: the way left to it, counted as a way to a stand, and its speed. -/
def brakingTarget (limitOf : RouteLeg → ℕ) (train : OperationalTrain) (route : RouteVersion)
    (motionEnd : RouteMillimetres) (brake : ℕ) : Checked (Int × ℕ) :=
  route.legs.foldlM (fun acc leg =>
    if train.headRouteMm < leg.routeStartMm ∧ leg.routeStartMm < motionEnd then do
      let targetLimit := limitOf leg
      let stopping ← stoppingDistanceMm targetLimit brake
      let equivalent := addSat64 (subSat64 leg.routeStartMm train.headRouteMm) stopping
      pure (if equivalent < acc.1 then (equivalent, targetLimit) else acc)
    else pure acc) (subSat64 motionEnd train.headRouteMm, 0)

/-- The room left for rounding before a target above zero. -/
def roundingMargin (speedMmps targetSpeed : ℕ) : Int :=
  if 0 < targetSpeed then addSat64 (((speedMmps + 999) / 1000 : ℕ) : Int) 2 else 0

def chosenAcceleration (speedMmps limit : ℕ) (remaining stoppingDistance margin traction : Int)
    (brake : ℕ) : Checked Int :=
  if limit < speedMmps ∨ remaining ≤ addSat64 stoppingDistance margin then do
    demand (decide ((brake : Int) ≤ i32Max)) .arithmeticOverflow
    pure (-(brake : Int))
  else if speedMmps < limit then
    -- Less than a millisecond before the limit, rounding must not exceed it.
    let gap := mulSatU32 (limit - speedMmps) 1000
    pure (min traction (if (gap : Int) ≤ i32Max then (gap : Int) else i32Max))
  else pure 0

/-- Duration and way of the segment. -/
def segmentExtent (speedMmps limit targetSpeed brake : ℕ) (acceleration remaining
    stoppingDistance margin boundary : Int) : Checked (Int × Int) :=
  if 0 < acceleration then do
    let accelerationBoundary := accelerationBrakeBoundaryMs speedMmps acceleration brake
      (subSat64 remaining margin) limit
    let duration := firstBoundaryOrEventMs speedMmps acceleration boundary
      (max accelerationBoundary 1)
    let covered ← checkedI64 (kinematicDistanceMm speedMmps acceleration duration)
    pure (duration, max (min covered boundary) 0)
  else if acceleration = 0 then do
    let brakeStart := max (subSat64 (subSat64 remaining stoppingDistance) margin) 1
    let distance := min boundary brakeStart
    let duration ← analyticDurationMs speedMmps acceleration distance limit
    pure (duration, distance)
  else do
    let target := if limit < speedMmps then limit else min targetSpeed limit
    let toTarget := max ((((speedMmps - target : ℕ) : Int) * 1000 + brake - 1) / brake) 1
    let duration := firstBoundaryOrEventMs speedMmps acceleration boundary toTarget
    if target = 0 then pure (duration, boundary)
    else do
      let covered ← checkedI64 (kinematicDistanceMm speedMmps acceleration duration)
      pure (duration, max (min covered boundary) 0)

/-- What the driver decides about a train: a segment, or a stop with its reason and the
refusal that follows it. -/
inductive MotionPlan where
  | start (segment : MotionSegment)
  | stop (reason : String) (refusal : OperationalError)

/-- The segment of a train that may move. -/
def plannedSegment (w : OperationalWorld) (train : OperationalTrain)
    (formation : FormationVersion) (route : RouteVersion) (authority : MovementAuthority)
    (leg : RouteLeg) (motionEnd : RouteMillimetres) : Checked MotionPlan := do
  let limitOf := w.legLimit train formation
  let profile ← motionProfile limitOf train formation.performance.lengthMm
    authority.endRouteMm route leg
  let traction : Int := (formation.performance.accelerationMmps2 : Int)
    - gradeAcceleration profile.maximumGradient
  let brake : Int := (formation.performance.serviceBrakeMmps2 : Int)
    + gradeAcceleration profile.minimumGradient
  if traction ≤ 0 ∨ brake ≤ 0 then
    pure (.stop "insufficient-gradient-traction-or-braking" .unsafeState)
  else do
    demand (decide (traction ≤ i32Max)) .arithmeticOverflow
    demand (decide (brake ≤ u32Max)) .arithmeticOverflow
    let brake := brake.toNat
    let (remaining, targetSpeed) ← brakingTarget limitOf train route motionEnd brake
    let stoppingDistance ← stoppingDistanceMm train.speedMmps brake
    let margin := roundingMargin train.speedMmps targetSpeed
    let acceleration ← chosenAcceleration train.speedMmps profile.limit remaining
      stoppingDistance margin traction brake
    let boundary := max (subSat64
      (min (min (min authority.endRouteMm motionEnd) leg.routeEndMm) profile.nextTailBoundary)
      train.headRouteMm) 0
    let (duration, distance) ← segmentExtent train.speedMmps profile.limit targetSpeed brake
      acceleration remaining stoppingDistance margin boundary
    pure (.start
      { startedAtMs := w.nowMs
        validUntilMs := addSat64 w.nowMs (max duration 1)
        startRouteMm := train.headRouteMm
        startSpeedMmps := train.speedMmps
        accelerationMmps2 := acceleration
        routeVersionId := train.routeVersionId
        authorityEndRouteMm := authority.endRouteMm
        segmentEndRouteMm := addSat64 train.headRouteMm distance })

/-- What the driver decides about a train. -/
def decideMotion (w : OperationalWorld) (trainId : String) : Checked MotionPlan := do
  refuseIf (Registry.anyValue w.preparedHandovers fun handover => handover.train.id == trainId)
    .invalidHandover
  refuseIf (w.passengerStopWaiting trainId) .passengerDepartureTooEarly
  let train ← w.trainOf trainId
  let formation ← w.formationOf train.formationVersionId
  let route ← w.routeOf train
  let authority ← orRefuse train.authority .noAuthority
  refuseIf (train.passengerStops.isSome && train.motionSegment.isSome) .unsafeState
  let motionEnd := match train.passengerBrakingTarget with
    | some stop => min stop authority.endRouteMm
    | none => authority.endRouteMm
  if authority.routeVersionId ≠ train.routeVersionId
      ∨ authority.endRouteMm < train.headRouteMm ∨ formation.performance.mobile = false then
    pure (.stop "invalid-authority-or-formation" .unsafeState)
  else do
    refuseIf (train.publicPassengerStop && train.scheduledDepartureMs.any fun departure =>
      decide (w.nowMs < departure)) .passengerDepartureTooEarly
    let leg ← orRefuse (route.legAt train.headRouteMm) (.incompleteRoute route.id)
    if !protectionSystemsCompatible leg formation.performance.protectionSystems then
      pure (.stop "incompatible-protection-system" (.incompatibleProtectionSystem trainId))
    else plannedSegment w train formation route authority leg motionEnd

/-- What the start of a segment writes. -/
def OperationalWorld.startSegment (w : OperationalWorld) (trainId : String)
    (segment : MotionSegment) : OperationalWorld :=
  { w with
    scheduledMotionEnds := w.scheduledMotionEnds.insert
      { atMs := segment.validUntilMs, trainId, segmentStartedAtMs := w.nowMs } }.updateTrain
    trainId fun train => { train with
      motionSegment := some segment, motionState := .moving, waitingReason := none }

/-- Plans the next motion segment of a train. -/
def planMotion (env : Env) (trainId : String) : M MotionSegment := do
  let w ← M.world
  match ← M.check (decideMotion w trainId) with
  | .stop reason refusal =>
    safeStop trainId reason
    M.reject refusal
  | .start segment =>
    M.about (.planMotion trainId)
    M.update fun w => w.startSegment trainId segment
    recordPassengerDeparture env trainId
    record "motion-segment-started" trainId (.text s!"valid-until={segment.validUntilMs}")
    pure segment

end Zugfolge
