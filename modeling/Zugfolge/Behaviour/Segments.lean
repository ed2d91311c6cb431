/-
What the driver decides.
-/
import Zugfolge.Behaviour.Letters

namespace Zugfolge

open Foundation

/-! ### Positions -/

lemma MotionSegment.positionAt_le {segment : MotionSegment} {atMs : SimMillis}
    {position : RouteMillimetres} (h : segment.positionAt atMs = .ok position) :
    position ≤ segment.segmentEndRouteMm := by
  simp only [positionAt, checked_bind_eq_ok] at h
  obtain ⟨_, -, _, -, reached, -, h⟩ := h
  split at h
  case isTrue =>
    cases h
    exact le_rfl
  case isFalse =>
    cases h
    exact min_le_right _ _

/-! ### Segments -/

/-- A segment is not longer than the way to the first boundary. -/
lemma segmentExtent_le {speed limit targetSpeed brake : ℕ}
    {acceleration remaining stopping margin boundary duration distance : Int}
    (hboundary : 0 ≤ boundary)
    (h : segmentExtent speed limit targetSpeed brake acceleration remaining stopping margin boundary
      = .ok (duration, distance)) : distance ≤ boundary := by
  unfold segmentExtent at h
  split at h
  case isTrue =>
    simp only [checked_bind_eq_ok] at h
    obtain ⟨covered, -, h⟩ := h
    cases h
    exact max_le (min_le_right _ _) hboundary
  case isFalse =>
    split at h
    case isTrue =>
      simp only [checked_bind_eq_ok] at h
      obtain ⟨_, -, h⟩ := h
      cases h
      exact min_le_left _ _
    case isFalse =>
      dsimp only at h
      generalize (if limit < speed then limit else min targetSpeed limit) = target at h
      split at h
      case isTrue =>
        cases h
        exact le_rfl
      case isFalse =>
        simp only [checked_bind_eq_ok] at h
        obtain ⟨covered, -, h⟩ := h
        cases h
        exact max_le (min_le_right _ _) hboundary

/-- What is known of a train that may start with a segment. -/
structure MotionStart (w : OperationalWorld) (trainId : String) (train : OperationalTrain)
    (authority : MovementAuthority) (segment : MotionSegment) : Prop where
  known : w.trains[trainId]? = some train
  granted : train.authority = some authority
  unprepared : (Registry.anyValue w.preparedHandovers fun handover =>
    handover.train.id == trainId) = false
  ready : w.passengerStopWaiting trainId = false
  single : train.passengerStops.isSome = true → train.motionSegment = none
  ahead : train.headRouteMm ≤ authority.endRouteMm
  sameRoute : authority.routeVersionId = train.routeVersionId
  startedAtMs : segment.startedAtMs = w.nowMs
  startRouteMm : segment.startRouteMm = train.headRouteMm
  ending : ∀ bound : RouteMillimetres, i64Min ≤ bound → train.headRouteMm ≤ bound →
    bound = authority.endRouteMm ∨ train.passengerBrakingTarget = some bound →
    segment.segmentEndRouteMm ≤ bound

/-- A planned segment ends before everything it has to end before. -/
lemma plannedSegment_start {w : OperationalWorld} {train : OperationalTrain}
    {formation : FormationVersion} {route : RouteVersion} {authority : MovementAuthority}
    {leg : RouteLeg} {motionEnd : RouteMillimetres} {segment : MotionSegment}
    (h : plannedSegment w train formation route authority leg motionEnd = .ok (.start segment)) :
    segment.startedAtMs = w.nowMs ∧ segment.startRouteMm = train.headRouteMm
      ∧ ∀ bound : RouteMillimetres, i64Min ≤ bound → train.headRouteMm ≤ bound →
        min authority.endRouteMm motionEnd ≤ bound → segment.segmentEndRouteMm ≤ bound := by
  unfold plannedSegment at h
  simp only [checked_bind_eq_ok] at h
  obtain ⟨profile, -, h⟩ := h
  split at h
  case isTrue => cases h
  case isFalse =>
    simp only [checked_bind_eq_ok] at h
    obtain ⟨_, -, _, -, ⟨remaining, targetSpeed⟩, -, stopping, -, acceleration, -,
      ⟨duration, distance⟩, hextent, h⟩ := h
    cases h
    refine ⟨rfl, rfl, fun bound hmin hhead hend => ?_⟩
    have hdistance := segmentExtent_le (le_max_right _ _) hextent
    have hroom : 0 ≤ bound - train.headRouteMm := Int.sub_nonneg.mpr hhead
    have hfirst : min (min (min authority.endRouteMm motionEnd) leg.routeEndMm)
        profile.nextTailBoundary ≤ bound :=
      ((min_le_left _ _).trans (min_le_left _ _)).trans hend
    have hway : distance ≤ bound - train.headRouteMm :=
      hdistance.trans (max_le
        (clamp64_le (le_trans (by decide) hroom) (Int.sub_le_sub_right hfirst _)) hroom)
    exact clamp64_le hmin (by linarith)

/-- What is known of a train that may start. -/
lemma decideMotion_start {w : OperationalWorld} {trainId : String} {segment : MotionSegment}
    (h : decideMotion w trainId = .ok (.start segment)) :
    ∃ train authority, MotionStart w trainId train authority segment := by
  unfold decideMotion at h
  simp only [checked_bind_eq_ok, refuseIf_eq_ok, w.trainOf_eq_ok, orRefuse_eq_ok,
    Bool.and_eq_false_iff] at h
  obtain ⟨_, hprepared, _, hready, train, htrain, formation, -, route, -, authority, hauthority,
    _, hsingle, h⟩ := h
  split at h
  case isTrue => cases h
  case isFalse hvalid =>
    simp only [not_or, Classical.not_not, not_lt] at hvalid
    simp only [checked_bind_eq_ok] at h
    obtain ⟨_, -, leg, -, h⟩ := h
    split at h
    case isTrue => cases h
    case isFalse =>
      obtain ⟨hstarted, hfrom, hending⟩ := plannedSegment_start h
      refine ⟨train, authority,
        { known := htrain, granted := hauthority, unprepared := hprepared, ready := hready
          single := fun hstops => ?_, ahead := hvalid.2.1, sameRoute := hvalid.1
          startedAtMs := hstarted, startRouteMm := hfrom
          ending := fun bound hmin hhead hbound => hending bound hmin hhead ?_ }⟩
      · rcases hsingle with hnone | hnone
        · rw [hstops] at hnone
          cases hnone
        · simpa using hnone
      · rcases hbound with rfl | htarget
        · exact min_le_left _ _
        · rw [htarget]
          exact (min_le_right _ _).trans (min_le_left _ _)

end Zugfolge
