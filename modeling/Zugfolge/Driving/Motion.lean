/-
Analytic motion segments and the kinematics of the driver.

A motion segment fixes start, speed and acceleration of a train between two events;
position and speed inside of it are read off, not stored.
-/
import Zugfolge.Infrastructure.Track

namespace Zugfolge

open Foundation

/-- The greatest speed of a shunting movement. -/
def shuntingMaximumSpeedMmps : ℕ := 6944

/-- The value itself when it fits into 64 bits, or an overflow. -/
def checkedI64 (value : Int) : Checked Int := orRefuse (checked64 value) .arithmeticOverflow

/-- An analytic section of a movement. -/
structure MotionSegment where
  startedAtMs : SimMillis
  validUntilMs : SimMillis
  startRouteMm : RouteMillimetres
  startSpeedMmps : ℕ
  accelerationMmps2 : Int
  routeVersionId : String
  authorityEndRouteMm : RouteMillimetres
  segmentEndRouteMm : RouteMillimetres
  deriving DecidableEq

/-- The way covered after a time from a start speed: the two terms of the kinematic
formula, each rounded on its own. -/
def kinematicDistanceMm (startSpeedMmps : ℕ) (accelerationMmps2 elapsedMs : Int) : Int :=
  let velocityDistance := divRoundHalfAway (mulSat128 startSpeedMmps elapsedMs) 1000
  let accelerationDistance :=
    divRoundHalfAway (mulSat128 (mulSat128 accelerationMmps2 elapsedMs) elapsedMs) 2000000
  max (addSat128 velocityDistance accelerationDistance) 0

/-- The speed after a time from a start speed. -/
def kinematicSpeedMmps (startSpeedMmps : ℕ) (accelerationMmps2 elapsedMs : Int) : Int :=
  max (addSat128 startSpeedMmps (divRoundHalfAway (mulSat128 accelerationMmps2 elapsedMs) 1000)) 0

namespace MotionSegment

variable (segment : MotionSegment)

/-- The instant lies in the validity of the segment. -/
def covers (atMs : SimMillis) : Bool :=
  decide (segment.startedAtMs ≤ atMs) && decide (atMs ≤ segment.validUntilMs)

/-- The segment runs forward and stays in the authority. -/
def validateBounds : Checked Unit :=
  refuseIf (decide (segment.startRouteMm < 0)
    || decide (segment.segmentEndRouteMm < segment.startRouteMm)
    || decide (segment.authorityEndRouteMm < segment.segmentEndRouteMm)) .unsafeState

/-- The position of the head at an instant of the segment. -/
def positionAt (atMs : SimMillis) : Checked RouteMillimetres := do
  demand (segment.covers atMs) .outsideMotionValidity
  segment.validateBounds
  let elapsed := subSat64 atMs segment.startedAtMs
  let distance := kinematicDistanceMm segment.startSpeedMmps segment.accelerationMmps2 elapsed
  let reached ← checkedI64 (addSat128 segment.startRouteMm distance)
  let position := min (min reached segment.authorityEndRouteMm) segment.segmentEndRouteMm
  -- A section of one millimetre that rounds to no way at all ends at its bound.
  if atMs = segment.validUntilMs ∧ segment.startedAtMs < segment.validUntilMs
      ∧ position = segment.startRouteMm
      ∧ addChecked64 segment.startRouteMm 1 = some segment.segmentEndRouteMm then
    pure segment.segmentEndRouteMm
  else pure position

/-- The speed at an instant of the segment. -/
def speedAt (atMs : SimMillis) : Checked ℕ := do
  demand (segment.covers atMs) .outsideMotionValidity
  segment.validateBounds
  let atAuthorityEnd ←
    if atMs = segment.validUntilMs
        ∧ segment.segmentEndRouteMm = segment.authorityEndRouteMm then do
      let position ← segment.positionAt atMs
      pure (decide (position = segment.authorityEndRouteMm))
    else pure false
  if atAuthorityEnd then pure 0
  else
    let elapsed := subSat64 atMs segment.startedAtMs
    pure (min (kinematicSpeedMmps segment.startSpeedMmps segment.accelerationMmps2 elapsed)
      u32Max).toNat

end MotionSegment

/-! ### Boundaries of a segment -/

/-- The braking way from a speed, rounded up. -/
def stoppingDistanceForSpeed (speedMmps : Int) (brakeMmps2 : ℕ) : Int :=
  let denominator := mulSat128 (max brakeMmps2 1 : ℕ) 2
  addSat128 (mulSat128 speedMmps speedMmps) (denominator - 1) / denominator

/-- The braking way from a speed, if it fits into a route position. -/
def stoppingDistanceMm (speedMmps brakeMmps2 : ℕ) : Checked Int :=
  checkedI64 (stoppingDistanceForSpeed speedMmps brakeMmps2)

variable (startSpeedMmps : ℕ)

/-- The way needed to accelerate for a time and to brake to a stand afterwards. -/
def accelerateAndStopMm (accelerationMmps2 : Int) (brakeMmps2 : ℕ) (elapsedMs : Int) : Int :=
  addSat128 (kinematicDistanceMm startSpeedMmps accelerationMmps2 elapsedMs)
    (stoppingDistanceForSpeed
      (kinematicSpeedMmps startSpeedMmps accelerationMmps2 elapsedMs) brakeMmps2)

/-- The first millisecond of an acceleration after which only the braking way is left. -/
def accelerationBrakeBoundaryMs (accelerationMmps2 : Int)
    (brakeMmps2 : ℕ) (remainingMm : Int) (speedLimitMmps : ℕ) : Int :=
  let acceleration : Int := max (accelerationMmps2.natAbs) 1
  let toLimitMs :=
    addSat64 (mulSat64 ((speedLimitMmps - startSpeedMmps : ℕ) : Int) 1000) 499 / acceleration
  let required := accelerateAndStopMm startSpeedMmps accelerationMmps2 brakeMmps2
  if remainingMm ≤ required 0 then 0
  else if required toLimitMs < remainingMm then max toLimitMs 1
  else bisect (fun elapsed => decide (remainingMm ≤ required elapsed)) 1 (max toLimitMs 1)

/-- The first millisecond at which the distance is covered, or the event before it. -/
def firstBoundaryOrEventMs (accelerationMmps2 distanceMm eventMs : Int) :
    Int :=
  let distanceAt := kinematicDistanceMm startSpeedMmps accelerationMmps2
  if distanceAt eventMs < distanceMm then eventMs
  else bisect (fun elapsed => decide (distanceMm ≤ distanceAt elapsed)) 1 eventMs

/-- The time a segment of the given distance takes. -/
def analyticDurationMs (accelerationMmps2 distanceMm : Int) (speedLimitMmps : ℕ) : Checked Int :=
  if distanceMm ≤ 0 then .ok 1
  else if 0 < accelerationMmps2 then
    let acceleration : Int := max (accelerationMmps2.natAbs) 1
    let toLimit := addSat64 (mulSat64 ((speedLimitMmps - startSpeedMmps : ℕ) : Int) 1000)
      (acceleration - 1) / acceleration
    .ok (firstBoundaryOrEventMs startSpeedMmps accelerationMmps2 distanceMm (max toLimit 1))
  else if accelerationMmps2 < 0 then
    let deceleration : Int := max (accelerationMmps2.natAbs) 1
    let toStop := addSat64 (mulSat64 startSpeedMmps 1000) (deceleration - 1) / deceleration
    .ok (firstBoundaryOrEventMs startSpeedMmps accelerationMmps2 distanceMm (max toStop 1))
  else if startSpeedMmps = 0 then refuse .unsafeState
  else
    .ok (addSat64 (mulSat64 distanceMm 1000) ((startSpeedMmps : Int) - 1) / startSpeedMmps)

end Zugfolge
