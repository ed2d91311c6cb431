/-
The run path and its running times.

A run path is an itinerary cut into segments of constant speed and gradient.  The running
time at the end of every segment is computed in floating point; here it is a parameter of
the model.
-/
import Zugfolge.Infra.Track

namespace Zugfolge.Infra

open Foundation
open Std (ExtTreeSet)

/-! ### The path -/

/-- A segment of constant speed and gradient. -/
structure RunSegment where
  length : Length
  speedLimit : Speed
  gradient : Gradient
  lengthPositive : 0 < length
  speedPositive : 0 < speedLimit

/-- Checks the values of a segment. -/
def RunSegment.new (length : Length) (speedLimit : Speed) (gradient : Gradient) :
    Except InfraError RunSegment :=
  if hlength : 0 < length then
    if hspeed : 0 < speedLimit then .ok ⟨length, speedLimit, gradient, hlength, hspeed⟩
    else .error (.nonPositiveSpeed "Segment-Vmax" speedLimit)
  else .error (.nonPositiveLength "Fahrwegsegment" length)

/-- The segments of a run, in the order of the run. -/
abbrev RunPath : Type := List RunSegment

/-- The segment between two neighbouring boundaries of a track. -/
def einzelnesSegment (train : TrainCharacteristics) (track : Track) (direction : TravelDirection)
    (lo hi : Length) : Except InfraError RunSegment :=
  match track.speedAt lo, track.protectionAt lo, track.electrificationAt lo,
      track.gradientFor lo direction with
  | some vmaxInfra, some protectionInfra, some electrificationInfra, some gradientInfra =>
    if !train.isCompatibleWithProtection protectionInfra then
      .error (.trainProtectionIncompatible track.id lo)
    else if !train.isCompatibleWithElectrification electrificationInfra then
      .error (.trainTractionIncompatible track.id lo)
    else RunSegment.new (hi.minus lo) (train.effectiveSpeedLimit vmaxInfra) gradientInfra
  | _, _, _, _ => .error (.trackProfileGap track.id lo)

/-- Where the speed or the gradient of a track changes within a range, with its ends. -/
def rangeBoundaries (track : Track) (start finish : Length) : List Length :=
  let inside := fun position : Length => decide (start < position) && decide (position < finish)
  let speeds := (track.speed.bands.map Band.start).filter inside
  let gradients := (track.gradient.bands.map Band.start).filter inside
  (ExtTreeSet.ofList (start :: finish :: speeds ++ gradients) compare : KeySet Length).toList

def RunPath.pushTrackRange (path : RunPath) (train : TrainCharacteristics) (track : Track)
    (direction : TravelDirection) (start finish : Length) : Except InfraError RunPath :=
  if start < 0 ∨ track.length < finish ∨ finish ≤ start then
    .error (.invalidRunRange track.id start finish)
  else do
    let points := rangeBoundaries track start finish
    let segments ← (points.zip points.tail).mapM fun stretch =>
      einzelnesSegment train track direction stretch.1 stretch.2
    pure (path ++ match direction with
      | .withChainage => segments
      | .againstChainage => segments.reverse)

/-! ### Running times -/

/-- A position of a running-time table and the time needed to it. -/
structure RunningTimeCheckpoint where
  position : Length
  elapsed : Int

/-- The computation in floating point: where it fails, and the seconds to the end of each
segment. -/
structure Dynamics where
  fault : RunPath → TrainCharacteristics → (entrySpeed exitSpeed : Speed) → Option InfraError
  elapsed : RunPath → TrainCharacteristics → (entrySpeed exitSpeed : Speed) → ℕ → Int

/-- Running times do not fall along a path. -/
structure Dynamics.Monotone (dynamics : Dynamics) : Prop where
  nonneg : ∀ path train entry exit, 0 ≤ dynamics.elapsed path train entry exit 0
  step : ∀ path train entry exit index, dynamics.elapsed path train entry exit index
    ≤ dynamics.elapsed path train entry exit (index + 1)

/-- The checkpoints behind a position, from the number of a segment on. -/
def checkpointsFrom (elapsed : ℕ → Int) : RunPath → ℕ → Length → List RunningTimeCheckpoint
  | [], _, _ => []
  | segment :: path, index, position =>
    let next := position.plus segment.length
    ⟨next, elapsed index⟩ :: checkpointsFrom elapsed path (index + 1) next

/-- The running-time table of a path that is entered and left with given speeds. -/
def deriveRunningTimeTableWithExit (dynamics : Dynamics) (path : RunPath)
    (train : TrainCharacteristics) (entrySpeed exitSpeed : Speed) :
    Except InfraError (List RunningTimeCheckpoint) :=
  if path.isEmpty then .error .emptyRunPath
  else match dynamics.fault path train entrySpeed exitSpeed with
    | some error => .error error
    | none =>
      .ok (⟨0, 0⟩ :: checkpointsFrom (dynamics.elapsed path train entrySpeed exitSpeed) path 0 0)

/-- The total of a table: the time of its last checkpoint. -/
def runningTimeTotal (table : List RunningTimeCheckpoint) : Int :=
  (table.getLast?.map RunningTimeCheckpoint.elapsed).getD 0

/-! ### Where the segments of a path meet -/

/-- The positions where the segments of a path meet, with both ends. -/
def marks : Length → RunPath → List Length
  | start, [] => [start]
  | start, segment :: path => start :: marks (start + segment.length) path

def pathLength (path : RunPath) : Int := (path.map RunSegment.length).sum

@[simp] lemma pathLength_nil : pathLength [] = 0 := rfl

@[simp] lemma pathLength_cons (segment : RunSegment) (path : RunPath) :
    pathLength (segment :: path) = segment.length + pathLength path := by
  simp [pathLength]

@[simp] lemma pathLength_append (path other : RunPath) :
    pathLength (path ++ other) = pathLength path + pathLength other := by
  simp [pathLength]

@[simp] lemma pathLength_reverse (path : RunPath) : pathLength path.reverse = pathLength path := by
  simp [pathLength, List.sum_reverse]

lemma pathLength_nonneg (path : RunPath) : 0 ≤ pathLength path := by
  induction path with
  | nil => exact le_rfl
  | cons segment path ih =>
    have hsegment := segment.lengthPositive
    rw [pathLength_cons]
    linarith

lemma start_mem_marks (start : Length) (path : RunPath) : start ∈ marks start path := by
  cases path with
  | nil => exact List.mem_singleton_self start
  | cons segment path => exact List.mem_cons_self

lemma end_mem_marks (start : Length) (path : RunPath) :
    start + pathLength path ∈ marks start path := by
  induction path generalizing start with
  | nil => simp [marks]
  | cons segment path ih =>
    rw [pathLength_cons, ← Int.add_assoc]
    exact List.mem_cons_of_mem start (ih _)

lemma marks_eq_cons (start : Length) (path : RunPath) :
    marks start path = start :: (marks start path).tail := by
  cases path <;> rfl

lemma marks_sorted (start : Length) (path : RunPath) :
    (marks start path).Pairwise (· < ·) ∧ ∀ mark ∈ marks start path, start ≤ mark := by
  induction path generalizing start with
  | nil => simp [marks]
  | cons segment path ih =>
    have hsegment := segment.lengthPositive
    obtain ⟨hsorted, hfrom⟩ := ih (start + segment.length)
    refine ⟨List.pairwise_cons.mpr ⟨fun mark hmark => ?_, hsorted⟩, fun mark hmark => ?_⟩
    · linarith [hfrom mark hmark]
    · rcases List.mem_cons.mp hmark with rfl | hmark
      · exact le_rfl
      · linarith [hfrom mark hmark]

lemma getLast_marks (start : Length) (path : RunPath) (h : marks start path ≠ []) :
    (marks start path).getLast h = start + pathLength path := by
  induction path generalizing start with
  | nil => simp [marks]
  | cons segment path ih =>
    have hrest : marks (start + segment.length) path ≠ [] := by
      rw [marks_eq_cons]
      simp
    rw [pathLength_cons, ← Int.add_assoc, ← ih _ hrest]
    exact List.getLast_cons hrest

/-- A longer path has the marks of its parts. -/
lemma mem_marks_append {start position : Length} {path other : RunPath} :
    position ∈ marks start (path ++ other)
      ↔ position ∈ marks start path ∨ position ∈ marks (start + pathLength path) other := by
  induction path generalizing start with
  | nil =>
    rw [List.nil_append, pathLength_nil, Int.add_zero, marks, List.mem_singleton]
    constructor
    · exact .inr
    · rintro (rfl | h)
      · exact start_mem_marks _ other
      · exact h
  | cons segment path ih =>
    rw [List.cons_append, marks, marks, List.mem_cons, List.mem_cons, ih, pathLength_cons,
      ← Int.add_assoc, or_assoc]

/-! ### A range of a track -/

variable {direction : TravelDirection} {track : Track} {train : TrainCharacteristics}

/-- The segment between two boundaries has their distance as its length. -/
lemma einzelnesSegment_length {lo hi : Length} {segment : RunSegment}
    (h : einzelnesSegment train track direction lo hi = .ok segment) :
    segment.length = hi.minus lo := by
  rw [einzelnesSegment] at h
  split at h
  · split at h
    · cases h
    · split at h
      · cases h
      · rw [RunSegment.new] at h
        split at h
        · split at h
          · cases h
            rfl
          · cases h
        · cases h
  · cases h

/-- The segments of neighbouring boundaries reach from the first to the last one. -/
lemma pathLength_of_mapM {points : List Length} :
    ∀ {first : Length} {segments : RunPath}, (first :: points).Pairwise (· < ·) →
      (∀ point ∈ first :: points, 0 ≤ point ∧ point ≤ i64Max) →
      ((first :: points).zip points).mapM
        (fun stretch => einzelnesSegment train track direction stretch.1 stretch.2)
          = .ok segments →
      first + pathLength segments = (first :: points).getLast (by simp) := by
  induction points with
  | nil =>
    intro first segments _ _ h
    cases h
    simp
  | cons next points ih =>
    intro first segments hsorted hbounds h
    rw [List.zip_cons_cons, List.mapM_cons] at h
    cases hsegment : einzelnesSegment train track direction first next with
    | error error =>
      rw [hsegment] at h
      cases h
    | ok segment =>
      cases hrest : ((next :: points).zip points).mapM
          (fun stretch => einzelnesSegment train track direction stretch.1 stretch.2) with
      | error error =>
        rw [hsegment, hrest] at h
        cases h
      | ok rest =>
        rw [hsegment, hrest] at h
        cases h
        have hlast := ih (List.pairwise_cons.mp hsorted).2
          (fun point hpoint => hbounds point (List.mem_cons_of_mem first hpoint)) hrest
        obtain ⟨hfirst, -⟩ := hbounds first List.mem_cons_self
        obtain ⟨-, hnext⟩ := hbounds next (by simp)
        have hlt := (List.pairwise_cons.mp hsorted).1 next List.mem_cons_self
        have hlength := einzelnesSegment_length hsegment
        rw [Length.minus_eq ⟨by
          have : i64Min ≤ 0 := by decide
          linarith, by linarith⟩] at hlength
        rw [pathLength_cons, hlength, List.getLast_cons (by simp), ← hlast]
        ring

lemma le_getLast_of_sorted {rest : List Length} :
    ∀ {first : Length}, (first :: rest).Pairwise (· < ·) → ∀ point ∈ first :: rest,
      point ≤ (first :: rest).getLast (by simp) := by
  induction rest with
  | nil => simp
  | cons next rest ih =>
    intro first hsorted point hpoint
    rw [List.pairwise_cons] at hsorted
    rw [List.getLast_cons (by simp)]
    rcases List.mem_cons.mp hpoint with rfl | hpoint
    · exact (hsorted.1 next List.mem_cons_self).le.trans
        (ih hsorted.2 next List.mem_cons_self)
    · exact ih hsorted.2 point hpoint

/-- In an ascending list with a least and a greatest member these are its ends. -/
lemma ends_of_sorted {points : List Length} {start finish : Length}
    (hsorted : points.Pairwise (· < ·)) (hstart : start ∈ points) (hfinish : finish ∈ points)
    (hbounds : ∀ point ∈ points, start ≤ point ∧ point ≤ finish) :
    ∃ rest, points = start :: rest ∧ (start :: rest).getLast (by simp) = finish := by
  cases points with
  | nil => cases hstart
  | cons first rest =>
    have hfirst : first = start := by
      rcases List.mem_cons.mp hstart with heq | hin
      · exact heq.symm
      · have hlt := (List.pairwise_cons.mp hsorted).1 start hin
        have hle := (hbounds first List.mem_cons_self).1
        exact absurd (lt_of_lt_of_le hlt hle) (lt_irrefl _)
    subst hfirst
    refine ⟨rest, rfl, ?_⟩
    exact le_antisymm (hbounds _ (List.getLast_mem _)).2
      (le_getLast_of_sorted hsorted finish hfinish)

lemma mem_rangeBoundaries {start finish point : Length} :
    point ∈ rangeBoundaries track start finish ↔ point = start ∨ point = finish ∨
      (point ∈ track.speed.bands.map Band.start ∨ point ∈ track.gradient.bands.map Band.start)
        ∧ start < point ∧ point < finish := by
  simp only [rangeBoundaries, ExtTreeSet.mem_toList, KeySet.mem_ofList, List.cons_append,
    List.mem_cons, List.mem_append, List.mem_filter, Bool.and_eq_true, decide_eq_true_eq]
  tauto

/-- A pushed range lies on the track, and its segments have its length. -/
lemma pushTrackRange_ok {path next : RunPath} {start finish : Length}
    (h : path.pushTrackRange train track direction start finish = .ok next) :
    0 ≤ start ∧ start < finish ∧ finish ≤ track.length ∧
      ∃ segments, next = path ++ segments ∧ start + pathLength segments = finish := by
  rw [RunPath.pushTrackRange] at h
  split at h
  · cases h
  next hrange =>
    simp only [not_or, not_lt, not_le] at hrange
    obtain ⟨hstart, hfinish, hlt⟩ := hrange
    refine ⟨hstart, hlt, hfinish, ?_⟩
    have hsorted : (rangeBoundaries track start finish).Pairwise (· < ·) := KeySet.sorted_toList _
    have hbounds : ∀ point ∈ rangeBoundaries track start finish,
        start ≤ point ∧ point ≤ finish := by
      intro point hpoint
      rcases mem_rangeBoundaries.mp hpoint with rfl | rfl | ⟨-, hafter, hbefore⟩
      · exact ⟨le_rfl, hlt.le⟩
      · exact ⟨hlt.le, le_rfl⟩
      · exact ⟨hafter.le, hbefore.le⟩
    obtain ⟨rest, hpoints, hlast⟩ := ends_of_sorted hsorted
      (mem_rangeBoundaries.mpr (.inl rfl)) (mem_rangeBoundaries.mpr (.inr (.inl rfl))) hbounds
    simp only [hpoints, List.tail_cons] at h
    rw [hpoints] at hsorted hbounds
    cases hsegments : ((start :: rest).zip rest).mapM
        (fun stretch => einzelnesSegment train track direction stretch.1 stretch.2) with
    | error error =>
      rw [hsegments] at h
      cases h
    | ok segments =>
      rw [hsegments] at h
      cases h
      have hlength := pathLength_of_mapM hsorted (fun point hpoint =>
        ⟨hstart.trans (hbounds point hpoint).1,
          ((hbounds point hpoint).2.trans hfinish).trans track.bounded⟩) hsegments
      rw [hlast] at hlength
      cases direction with
      | withChainage => exact ⟨segments, rfl, hlength⟩
      | againstChainage => exact ⟨segments.reverse, rfl, by simpa using hlength⟩

end Zugfolge.Infra
