/-
The live feed: snapshots, deltas and the view of a client.

A publisher turns the snapshots of a region into numbered deltas.  A client starts with a
snapshot and applies the deltas in the order of their numbers.

* `LiveSnapshot.inStep_iff`: exactly when the client accepts every delta.
-/
import Zugfolge.Foundation.Deltas
import Zugfolge.Sim.Journey

namespace Zugfolge.Sim

open Foundation
open Std (ExtTreeMap)

/-! ### Snapshots -/

/-- A train as the public sees it. -/
structure PublicTrain where
  id : TrainRunId
  operator : String
  trainNumber : String
  category : TrainCategory
  positionMm : Int
  speedMmPerSecond : ℕ
  delaySeconds : Int
  nextOperatingPoint : String
  status : OperatingStatus
  deriving DecidableEq

/-- The public part of a train run; `none` where its next waypoint does not lie on its route. -/
def PublicTrain.ofRun (train : TrainRun) : Option PublicTrain :=
  (train.route[train.nextWaypoint]?).map fun point =>
    ⟨train.id, train.operator, train.trainNumber, train.category, train.positionMm,
      train.speedMmPerSecond, train.delaySeconds, point.operatingPoint, train.status⟩

/-- What the public sees of a region. -/
structure LiveSnapshot where
  worldId : WorldId
  sequence : ℕ
  time : SimTime
  trains : List PublicTrain
  deriving DecidableEq

/-- The snapshot of a region: all its trains, under the number of its last event. -/
def Simulation.snapshot {δ : Type} (s : Simulation δ) : Option LiveSnapshot :=
  ((Registry.values s.trains).mapM PublicTrain.ofRun).map fun trains =>
    ⟨s.worldId, s.sequence, s.now, trains⟩

/-! ### Deltas -/

/-- What has changed since the delta before. -/
structure LiveDelta where
  worldId : WorldId
  sequence : ℕ
  time : SimTime
  changed : List PublicTrain
  removed : List TrainRunId

/-- What a client knows. -/
structure LiveView where
  worldId : WorldId
  sequence : ℕ
  time : SimTime
  trains : Registry TrainRunId PublicTrain

namespace LiveView

/-- A client starts with a snapshot. -/
def fromSnapshot (snapshot : LiveSnapshot) : LiveView where
  worldId := snapshot.worldId
  sequence := snapshot.sequence
  time := snapshot.time
  trains := Registry.index PublicTrain.id snapshot.trains

/-- Applies the delta with the next number; `none` where that number leaves its type. -/
def apply (view : LiveView) (delta : LiveDelta) : Option (Except SimError LiveView) :=
  if delta.worldId ≠ view.worldId then some (.error .wrongWorld)
  else
    (addCheckedU64 view.sequence 1).map fun next =>
      if delta.sequence ≠ next then .error .sequenceGap
      else
        .ok { view with
          sequence := delta.sequence
          time := delta.time
          trains := Registry.patch PublicTrain.id view.trains delta.changed delta.removed }

end LiveView

/-- A publisher, its last number and the trains that it has published. -/
structure DeltaPublisher where
  worldId : WorldId
  sequence : ℕ
  previous : Registry TrainRunId PublicTrain

namespace DeltaPublisher

/-- A publisher starts with the snapshot that its clients start with. -/
def new (snapshot : LiveSnapshot) : DeltaPublisher where
  worldId := snapshot.worldId
  sequence := 0
  previous := Registry.index PublicTrain.id snapshot.trains

/-- The next delta, with the trains that are gone. -/
def publish (publisher : DeltaPublisher) (snapshot : LiveSnapshot) :
    Except SimError (LiveDelta × DeltaPublisher) :=
  if snapshot.worldId ≠ publisher.worldId then .error .wrongWorld
  else
    let current := Registry.index PublicTrain.id snapshot.trains
    let sequence := addSatU64 publisher.sequence 1
    .ok (⟨publisher.worldId, sequence, snapshot.time,
        Registry.changed publisher.previous current, Registry.removed publisher.previous current⟩,
      { publisher with sequence := sequence, previous := current })

end DeltaPublisher

/-! ### A client behind a publisher -/

namespace LiveView

/-- The publisher publishes the snapshots and the client applies the deltas, in order; `none`
where one of them is refused. -/
def follow (publisher : DeltaPublisher) (view : LiveView) : List LiveSnapshot → Option LiveView
  | [] => some view
  | snapshot :: snapshots =>
    (publisher.publish snapshot).toOption.bind fun published =>
      (view.apply published.1).bind fun answer =>
        answer.toOption.bind fun later => follow published.2 later snapshots

variable {view last : LiveView} {publisher : DeltaPublisher}

/-- The client knows exactly the trains of the snapshot. -/
def Shows (view : LiveView) (snapshot : LiveSnapshot) : Prop :=
  view.trains = Registry.index PublicTrain.id snapshot.trains

/-- The client and the publisher know the same trains of the same world. -/
structure Agree (publisher : DeltaPublisher) (view : LiveView) : Prop where
  worldId : view.worldId = publisher.worldId
  trains : view.trains = publisher.previous

/-- The publisher behind a snapshot. -/
def published (publisher : DeltaPublisher) (snapshot : LiveSnapshot) : DeltaPublisher where
  worldId := publisher.worldId
  sequence := addSatU64 publisher.sequence 1
  previous := Registry.index PublicTrain.id snapshot.trains

/-- The client behind a snapshot. -/
def updated (view : LiveView) (snapshot : LiveSnapshot) : LiveView where
  worldId := view.worldId
  sequence := view.sequence + 1
  time := snapshot.time
  trains := Registry.index PublicTrain.id snapshot.trains

/-- The delta of a snapshot has the next number of the client. -/
def Fits (publisher : DeltaPublisher) (view : LiveView) : Prop :=
  addSatU64 publisher.sequence 1 = view.sequence + 1 ∧ view.sequence + 1 ≤ u64Max

lemma agree_updated (h : Agree publisher view) (snapshot : LiveSnapshot) :
    Agree (published publisher snapshot) (view.updated snapshot) :=
  ⟨h.worldId, rfl⟩

/-- The client takes over what the publisher makes of a snapshot if the number fits. -/
lemma follow_cons {snapshot : LiveSnapshot} {snapshots : List LiveSnapshot}
    (h : Agree publisher view) (hworld : snapshot.worldId = publisher.worldId) :
    follow publisher view (snapshot :: snapshots) = some last ↔
      Fits publisher view ∧
        follow (published publisher snapshot) (view.updated snapshot) snapshots = some last := by
  set current := Registry.index PublicTrain.id snapshot.trains with hcurrent
  have hpatch : Registry.patch PublicTrain.id view.trains
      (Registry.changed publisher.previous current)
      (Registry.removed publisher.previous current) = current := by
    rw [h.trains]
    exact Registry.patch_difference (Registry.indexed_index snapshot.trains)
  rw [follow, DeltaPublisher.publish, if_neg (not_not.mpr hworld)]
  simp only [Except.toOption, Option.bind_some]
  rw [apply, if_neg (not_not.mpr h.worldId.symm), addCheckedU64]
  by_cases hfits : Fits publisher view
  · rw [if_pos hfits.2, Option.map_some, if_neg (not_not.mpr hfits.1), and_iff_right hfits,
      ← hcurrent, hpatch, hfits.1]
    rw [published, updated, hfits.1]
    rfl
  · refine iff_of_false (fun hlast => ?_) fun hboth => hfits hboth.1
    split at hlast
    next hbound =>
      rw [Option.map_some, if_pos (fun hnumber => hfits ⟨hnumber, hbound⟩)] at hlast
      cases hlast
    · cases hlast

/-- A client with the number of the publisher accepts every delta until the numbers run out. -/
lemma follow_iff {snapshots : List LiveSnapshot} (h : Agree publisher view)
    (hnumber : view.sequence = publisher.sequence) (hbound : publisher.sequence ≤ u64Max)
    (hworld : ∀ snapshot ∈ snapshots, snapshot.worldId = publisher.worldId) :
    (∃ last, follow publisher view snapshots = some last) ↔
      publisher.sequence + snapshots.length ≤ u64Max := by
  induction snapshots generalizing publisher view with
  | nil => exact iff_of_true ⟨view, rfl⟩ hbound
  | cons snapshot snapshots ih =>
    obtain ⟨hfirst, hrest⟩ := List.forall_mem_cons.mp hworld
    simp only [follow_cons h hfirst, exists_and_left, List.length_cons]
    by_cases hnext : publisher.sequence + 1 ≤ u64Max
    · have hsat : addSatU64 publisher.sequence 1 = publisher.sequence + 1 := min_eq_right hnext
      have hfits : Fits publisher view := by
        rw [Fits, hsat, hnumber]
        exact ⟨rfl, hnext⟩
      have hpublished : (published publisher snapshot).sequence = publisher.sequence + 1 := hsat
      have hlater := ih (agree_updated h snapshot)
        (by rw [hpublished, updated, hnumber]) (hpublished ▸ hnext) hrest
      rw [and_iff_right hfits, hlater, hpublished]
      omega
    · refine iff_of_false (fun hboth => ?_) (by omega)
      have hclient : view.sequence + 1 ≤ u64Max := hboth.1.2
      omega

/-- A client that accepts every delta knows the trains of the last snapshot. -/
lemma follow_shows {snapshots : List LiveSnapshot} {first : LiveSnapshot}
    (h : Agree publisher view) (hfirst : view.Shows first)
    (hworld : ∀ snapshot ∈ snapshots, snapshot.worldId = publisher.worldId)
    (hfollow : follow publisher view snapshots = some last) :
    last.Shows (snapshots.getLastD first) := by
  induction snapshots generalizing publisher view first with
  | nil =>
    cases hfollow
    exact hfirst
  | cons snapshot snapshots ih =>
    obtain ⟨hhead, hrest⟩ := List.forall_mem_cons.mp hworld
    obtain ⟨-, hfollow⟩ := (follow_cons h hhead).mp hfollow
    have hlast : (snapshot :: snapshots).getLastD first = snapshots.getLastD snapshot := by
      cases snapshots <;> rfl
    rw [hlast]
    exact ih (agree_updated h snapshot) rfl hrest hfollow

end LiveView

namespace LiveSnapshot

/-- A client that starts with the first snapshot accepts every delta of a publisher that starts
there too, and ends with exactly the trains of the last one. -/
def InStep (first : LiveSnapshot) (snapshots : List LiveSnapshot) : Prop :=
  ∃ last, LiveView.follow (.new first) (.fromSnapshot first) snapshots = some last ∧
    last.Shows (snapshots.getLastD first)

/-- **The live feed.**  A client is in step with a publisher for every sequence of snapshots of a
world exactly if nothing is published, or if the first snapshot has the number zero and the
numbers of the deltas do not run out. -/
theorem inStep_iff {first : LiveSnapshot} {snapshots : List LiveSnapshot}
    (hworld : ∀ snapshot ∈ snapshots, snapshot.worldId = first.worldId) :
    first.InStep snapshots ↔
      snapshots = [] ∨ first.sequence = 0 ∧ snapshots.length ≤ u64Max := by
  have hagree : LiveView.Agree (.new first) (.fromSnapshot first) := ⟨rfl, rfl⟩
  have hshows : first.InStep snapshots ↔
      ∃ last, LiveView.follow (.new first) (.fromSnapshot first) snapshots = some last := by
    refine exists_congr fun last => and_iff_left_of_imp fun hfollow => ?_
    exact LiveView.follow_shows hagree rfl hworld hfollow
  rw [hshows]
  cases snapshots with
  | nil => exact iff_of_true ⟨_, rfl⟩ (.inl rfl)
  | cons snapshot snapshots =>
    rw [or_iff_right (List.cons_ne_nil snapshot snapshots)]
    by_cases hzero : first.sequence = 0
    · rw [LiveView.follow_iff hagree hzero (Nat.zero_le _) hworld, and_iff_right hzero]
      simp [DeltaPublisher.new]
    · refine iff_of_false ?_ fun hboth => hzero hboth.1
      rintro ⟨last, hfollow⟩
      -- the first delta has the number one
      obtain ⟨⟨hnumber, -⟩, -⟩ :=
        (LiveView.follow_cons hagree (hworld snapshot List.mem_cons_self)).mp hfollow
      have hone : (1 : ℕ) = first.sequence + 1 := hnumber
      omega

end LiveSnapshot

/-! ### A client behind a region that has run already -/

namespace TwoStops

/-- The train as the public sees it, with so many seconds of delay. -/
def seenTrain (delaySeconds : Int) : PublicTrain :=
  ⟨1, "Elbtalbahn", "RE", .regional, 0, 0, delaySeconds, "Leipzig Hbf", .planned⟩

/-- The snapshots of a region that has taken the train in, and that has delayed it then. -/
def seen : LiveSnapshot := ⟨42, 1, 0, [seenTrain 0]⟩

/-- The snapshot of the region behind the delay. -/
def seenLater : LiveSnapshot := ⟨42, 2, 0, [seenTrain 60]⟩

/-- The first delta has the number one, and the client expects the number two. -/
theorem seen_out_of_step : ¬ ∀ (first : LiveSnapshot) (snapshots : List LiveSnapshot),
    (∀ snapshot ∈ snapshots, snapshot.worldId = first.worldId) →
      (first :: snapshots).IsChain (fun a b => a.time ≤ b.time ∧ a.sequence ≤ b.sequence) →
        first.InStep snapshots := by
  intro hclaim
  obtain ⟨last, hfollow, -⟩ := hclaim seen [seenLater] (by decide) (by decide)
  have hrefused : LiveView.follow (.new seen) (.fromSnapshot seen) [seenLater] = none := by
    decide +kernel
  rw [hrefused] at hfollow
  cases hfollow

example : ((region 7 ConservativeDispatcher.conservative).apply (.materialize (train 1))).bind
    (fun reply => reply.2.snapshot) = some seen := by decide +kernel

/-- A client that starts with an empty region is in step. -/
theorem empty_in_step : (⟨42, 0, 0, []⟩ : LiveSnapshot).InStep [seen, seenLater] :=
  (LiveSnapshot.inStep_iff (by decide)).mpr (.inr ⟨rfl, by decide⟩)

end TwoStops

end Zugfolge.Sim
