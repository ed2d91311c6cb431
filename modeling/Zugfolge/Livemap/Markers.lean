/-
Which marker the map shows.

A feed is told from when on a run is marked or no longer marked, in any order: late, or ahead of
time.  What it shows of a train is to depend on the changes it was told of, not on their order.

* `MarkerCall`, `MarkedFeed`, `MarkedFeed.step`: a feed and the changes it was told of.
-/
import Zugfolge.Foundation.Timelines
import Zugfolge.Livemap.Publications
import Zugfolge.Livemap.Replica

namespace Zugfolge.Livemap

open Foundation

/-! ### What a feed is told -/

/-- What a feed is called with. -/
inductive MarkerCall where
  | publish (nowMs : Int) (input : DeltaInput)
  | setOperationMarker (nowMs : Int) (trainRunIds : List String)
      (operationMarker : Option PublicOperationMarker) (time : Int)
  | subscribe (number : ℕ) (throwsOn : LiveDelta → Bool)
  | unsubscribe (number : ℕ)

/-- A feed with all changes that it was told of and the runs they are for. -/
structure MarkedFeed where
  feed : LivemapFeed
  received : List (String × OperationMarkerChange)

/-- The runs that a change of markers is for, if it passes its checks. -/
def namedRuns (trainRunIds : List String) (operationMarker : Option PublicOperationMarker)
    (time : Int) : List String :=
  (checkMarkerChange "Zuglaufkennungen für Markeraktualisierungen dürfen nicht leer sein."
    trainRunIds operationMarker time).toOption.getD []

/-- The change as it is recorded. -/
def markerChange (operationMarker : Option PublicOperationMarker) (time : Int) :
    OperationMarkerChange :=
  ⟨operationMarker.map fun _ => PUBLIC_OPERATION_MARKER, time⟩

namespace MarkedFeed

/-- What happens to a feed. -/
def step (marked : MarkedFeed) : MarkerCall → MarkedFeed
  | .publish nowMs input => { marked with feed := (marked.feed.publish nowMs input).1 }
  | .setOperationMarker nowMs trainRunIds operationMarker time =>
    { feed := (marked.feed.setOperationMarker nowMs trainRunIds operationMarker time).1
      received := marked.received ++ (namedRuns trainRunIds operationMarker time).map
        fun trainRunId => (trainRunId, markerChange operationMarker time) }
  | .subscribe number throwsOn => { marked with feed := marked.feed.subscribe number throwsOn }
  | .unsubscribe number => { marked with feed := marked.feed.unsubscribe number }

/-- The runs and times of all changes that a feed was told of. -/
def times (marked : MarkedFeed) : List (String × Int) :=
  marked.received.map fun told => (told.1, told.2.effectiveAt)

end MarkedFeed

/-! ### The latest change -/

/-- A change that a feed was told of takes effect for a train by a time. -/
structure Applies (received : List (String × OperationMarkerChange)) (train : PublicTrain)
    (time : Int) (trainRunId : String) (change : OperationMarkerChange) : Prop where
  told : (trainRunId, change) ∈ received
  concerns : LivemapFeed.concerns trainRunId train = true
  effective : change.effectiveAt ≤ time

/-- The latest change of a train at a time; of two at one time it is the one of the train of the
day. -/
structure IsLatest (received : List (String × OperationMarkerChange)) (train : PublicTrain)
    (time : Int) (trainRunId : String) (change : OperationMarkerChange) : Prop extends
    Applies received train time trainRunId change where
  last : ∀ other otherChange, Applies received train time other otherChange →
    otherChange.effectiveAt < change.effectiveAt ∨
      otherChange.effectiveAt = change.effectiveAt ∧ (other = train.id → trainRunId = train.id)

/-- Every train on the map looks as its latest change says; it has one if any change takes effect
for it. -/
def MarkedFeed.ShowsLatest (marked : MarkedFeed) : Prop :=
  ∀ train ∈ marked.feed.snapshot.trains,
    (∀ trainRunId change, IsLatest marked.received train marked.feed.atS trainRunId change →
      train.operationMarker = change.operationMarker) ∧
    ((∃ trainRunId change, Applies marked.received train marked.feed.atS trainRunId change) →
      ∃ trainRunId change, IsLatest marked.received train marked.feed.atS trainRunId change)

/-! ### Looking trains up -/

/-- A change marks a train or takes its mark away. -/
def OperationMarkerChange.IsPlain (change : OperationMarkerChange) : Prop :=
  change.operationMarker = none ∨ change.operationMarker = some PUBLIC_OPERATION_MARKER

lemma isPlain_markerChange (operationMarker : Option PublicOperationMarker) (time : Int) :
    (markerChange operationMarker time).IsPlain := by
  cases operationMarker with
  | none => exact .inl rfl
  | some _ => exact .inr rfl

lemma operationMarker_project {train : PublicTrain} {change : OperationMarkerChange}
    (h : change.IsPlain) :
    (projectOperationMarker train change.operationMarker).operationMarker
      = change.operationMarker := by
  rcases h with h | h
  · rw [h]
    rfl
  · rw [h]
    rfl

namespace LivemapFeed

variable {feed : LivemapFeed} {train : PublicTrain} {time : Int}

/-- The changes that are recorded of a run. -/
def timelineOf (feed : LivemapFeed) (trainRunId : String) : List OperationMarkerChange :=
  (feed.operationMarkerTimelines[trainRunId]?).getD []

lemma operationMarkerAt_eq (feed : LivemapFeed) (trainRunId : String) (time : Int) :
    feed.operationMarkerAt trainRunId time
      = Timeline.effective OperationMarkerChange.effectiveAt (feed.timelineOf trainRunId) time :=
  rfl

lemma exists_markTrain_eq (feed : LivemapFeed) (time : Int) (train : PublicTrain) :
    ∃ marker, feed.markTrain time train = { train with operationMarker := marker } := by
  unfold markTrain
  cases feed.operationMarkerForTrain train time with
  | none => exact ⟨train.operationMarker, rfl⟩
  | some change =>
    change ∃ marker, projectOperationMarker train change.operationMarker
      = { train with operationMarker := marker }
    unfold projectOperationMarker
    split
    · exact ⟨_, rfl⟩
    · exact ⟨_, rfl⟩

lemma operationMarkerForTrain_marked (marker : Option PublicOperationMarker) :
    feed.operationMarkerForTrain { train with operationMarker := marker } time
      = feed.operationMarkerForTrain train time := rfl

/-- A train that has been marked looks as its markers say. -/
lemma markTrain_markTrain (feed : LivemapFeed) (time : Int) (train : PublicTrain) :
    feed.markTrain time (feed.markTrain time train) = feed.markTrain time train := by
  obtain ⟨marker, hmarker⟩ := feed.exists_markTrain_eq time train
  have hsame : feed.operationMarkerForTrain (feed.markTrain time train) time
      = feed.operationMarkerForTrain train time := by
    rw [hmarker]
    exact operationMarkerForTrain_marked marker
  unfold markTrain at hsame ⊢
  rw [hsame]
  cases feed.operationMarkerForTrain train time with
  | none => rfl
  | some change =>
    change projectOperationMarker (projectOperationMarker train change.operationMarker)
      change.operationMarker = projectOperationMarker train change.operationMarker
    unfold projectOperationMarker
    split
    · rfl
    · rfl

lemma markTrain_congr {other : LivemapFeed}
    (h : other.operationMarkerForTrain train time = feed.operationMarkerForTrain train time) :
    other.markTrain time train = feed.markTrain time train := by
  unfold markTrain
  rw [h]

end LivemapFeed

namespace MarkedFeed

/-- A train is valid and from the commit of its region. -/
structure Sound (feed : LivemapFeed) (train : PublicTrain) : Prop where
  valid : LivemapFeed.validateTrain train = .ok ()
  bound : LivemapFeed.isBound feed.entities.operationalRegions train = true

/-- The timelines hold what the feed was told, and every train is valid. -/
structure Recorded (marked : MarkedFeed) : Prop where
  keyed : Registry.Indexed PublicTrain.id marked.feed.entities.trains
  ascending : ∀ trainRunId, Timeline.Ascending OperationMarkerChange.effectiveAt
    (marked.feed.timelineOf trainRunId)
  recorded : ∀ trainRunId change,
    change ∈ marked.feed.timelineOf trainRunId ↔ (trainRunId, change) ∈ marked.received
  plain : ∀ told ∈ marked.received, told.2.IsPlain
  sound : ∀ train ∈ Registry.values marked.feed.entities.trains, Sound marked.feed train

/-- The timelines hold what the feed was told, and every train is shown as they say. -/
structure Tracks (marked : MarkedFeed) : Prop extends Recorded marked where
  shown : ∀ train ∈ Registry.values marked.feed.entities.trains,
    marked.feed.markTrain marked.feed.atS train = train

namespace Tracks

variable {marked : MarkedFeed}

lemma operationMarkerAt_iff (h : marked.Tracks) {trainRunId : String} {time : Int}
    {change : OperationMarkerChange} :
    marked.feed.operationMarkerAt trainRunId time = some change ↔
      (trainRunId, change) ∈ marked.received ∧ change.effectiveAt ≤ time ∧
        ∀ other, (trainRunId, other) ∈ marked.received → other.effectiveAt ≤ time →
          other.effectiveAt ≤ change.effectiveAt := by
  rw [LivemapFeed.operationMarkerAt_eq, (h.ascending trainRunId).effective_iff]
  simp only [h.recorded]

/-- The latest change of a train is the one that is effective for it. -/
lemma operationMarkerForTrain_of_isLatest (h : marked.Tracks) {train : PublicTrain} {time : Int}
    {trainRunId : String} {change : OperationMarkerChange}
    (hlatest : IsLatest marked.received train time trainRunId change) :
    marked.feed.operationMarkerForTrain train time = some change := by
  have hself : marked.feed.operationMarkerAt trainRunId time = some change := by
    refine h.operationMarkerAt_iff.mpr ⟨hlatest.told, hlatest.effective, ?_⟩
    intro other hother hle
    rcases hlatest.last trainRunId other ⟨hother, hlatest.concerns, hle⟩ with hlt | ⟨heq, -⟩
    · exact hlt.le
    · exact heq.le
  unfold LivemapFeed.operationMarkerForTrain LivemapFeed.laterChange
  by_cases hexact : trainRunId = train.id
  · rw [← hexact, hself]
    have hbase : (((verifiedBaseTrainRunId train).bind fun base =>
        marked.feed.operationMarkerAt base time).any fun b =>
          decide (change.effectiveAt < b.effectiveAt)) = false := by
      rw [Option.any_eq_false]
      intro b hb
      obtain ⟨base, hbase, hb⟩ := Option.bind_eq_some_iff.mp hb
      obtain ⟨hin, hle, -⟩ := h.operationMarkerAt_iff.mp hb
      have hconcerns : LivemapFeed.concerns base train = true := by
        unfold LivemapFeed.concerns
        rw [hbase, beq_self_eq_true, Bool.or_true]
      rcases hlatest.last base b ⟨hin, hconcerns, hle⟩ with hlt | ⟨heq, -⟩
      · simpa using hlt.le
      · simpa using heq.le
    rw [Option.all_some, hbase]
    rfl
  · have hbase : verifiedBaseTrainRunId train = some trainRunId := by
      have hconcerns := hlatest.concerns
      unfold LivemapFeed.concerns at hconcerns
      rw [Bool.or_eq_true, beq_iff_eq, beq_iff_eq] at hconcerns
      exact hconcerns.resolve_left fun heq => hexact heq.symm
    rw [hbase, Option.bind_some, hself]
    cases hown : marked.feed.operationMarkerAt train.id time with
    | none => rfl
    | some e =>
      obtain ⟨hin, hle, -⟩ := h.operationMarkerAt_iff.mp hown
      have hconcerns : LivemapFeed.concerns train.id train = true := by
        unfold LivemapFeed.concerns
        rw [beq_self_eq_true, Bool.true_or]
      have hlt : e.effectiveAt < change.effectiveAt :=
        (hlatest.last train.id e ⟨hin, hconcerns, hle⟩).resolve_right
          fun hboth => hexact (hboth.2 rfl)
      simp [hlt]

/-- A train for which a change takes effect has a latest one. -/
lemma exists_isLatest (h : marked.Tracks) {train : PublicTrain} {time : Int}
    (happlies : ∃ trainRunId change, Applies marked.received train time trainRunId change) :
    ∃ trainRunId change, IsLatest marked.received train time trainRunId change := by
  -- The latest change of the train is the latest one of one of its two runs.
  have hlatestOf : ∀ trainRunId change, Applies marked.received train time trainRunId change →
      ∃ last, marked.feed.operationMarkerAt trainRunId time = some last ∧
        Applies marked.received train time trainRunId last ∧
          ∀ other, Applies marked.received train time trainRunId other →
            other.effectiveAt ≤ last.effectiveAt := by
    intro trainRunId change hchange
    cases heffective : marked.feed.operationMarkerAt trainRunId time with
    | none =>
      have hin := (h.recorded trainRunId change).mpr hchange.told
      have hlt := (h.ascending trainRunId).effective_eq_none_iff.mp heffective change hin
      have hle := hchange.effective
      omega
    | some last =>
      obtain ⟨hin, hle, hlast⟩ := h.operationMarkerAt_iff.mp heffective
      exact ⟨last, rfl, ⟨hin, hchange.concerns, hle⟩,
        fun other hother => hlast other hother.told hother.effective⟩
  have hruns : ∀ trainRunId change, Applies marked.received train time trainRunId change →
      trainRunId = train.id ∨ verifiedBaseTrainRunId train = some trainRunId := by
    intro trainRunId change hchange
    have hconcerns := hchange.concerns
    unfold LivemapFeed.concerns at hconcerns
    rw [Bool.or_eq_true, beq_iff_eq, beq_iff_eq] at hconcerns
    exact hconcerns.imp_left Eq.symm
  by_cases hexact : ∃ change, Applies marked.received train time train.id change
  · obtain ⟨change, hchange⟩ := hexact
    obtain ⟨e, -, hin, hlast⟩ := hlatestOf train.id change hchange
    by_cases hlater : ∃ base b, Applies marked.received train time base b ∧
        e.effectiveAt < b.effectiveAt
    · obtain ⟨base, b, hb, hlt⟩ := hlater
      obtain ⟨last, -, hinLast, hlastOf⟩ := hlatestOf base b hb
      refine ⟨base, last, hinLast, fun other otherChange hother => ?_⟩
      have hbLe := hlastOf b hb
      rcases hruns other otherChange hother with rfl | hbase
      · have hle := hlast otherChange hother
        exact .inl (by omega)
      · rcases hruns base b hb with rfl | hbase'
        · have hle := hlast b hb
          omega
        · rw [hbase] at hbase'
          cases hbase'
          rcases (hlastOf otherChange hother).lt_or_eq with hlt' | heq
          · exact .inl hlt'
          · refine .inr ⟨heq, fun hid => ?_⟩
            exact hid
    · refine ⟨train.id, e, hin, fun other otherChange hother => ?_⟩
      have hle : otherChange.effectiveAt ≤ e.effectiveAt := by
        by_contra hgt
        exact hlater ⟨other, otherChange, hother, not_le.mp hgt⟩
      exact hle.lt_or_eq.imp id fun heq => ⟨heq, fun _ => rfl⟩
  · obtain ⟨trainRunId, change, hchange⟩ := happlies
    obtain ⟨last, -, hin, hlast⟩ := hlatestOf trainRunId change hchange
    refine ⟨trainRunId, last, hin, fun other otherChange hother => ?_⟩
    have hother' : other = trainRunId := by
      rcases hruns other otherChange hother with rfl | hbase
      · exact absurd ⟨otherChange, hother⟩ hexact
      · rcases hruns trainRunId change hchange with rfl | hbase'
        · exact absurd ⟨change, hchange⟩ hexact
        · rw [hbase] at hbase'
          exact Option.some.inj hbase'
    subst hother'
    exact (hlast otherChange hother).lt_or_eq.imp id fun heq => ⟨heq, id⟩

lemma showsLatest (h : marked.Tracks) : marked.ShowsLatest := by
  intro train htrain
  refine ⟨fun trainRunId change hlatest => ?_, h.exists_isLatest⟩
  have hshown := h.shown train htrain
  unfold LivemapFeed.markTrain at hshown
  rw [h.operationMarkerForTrain_of_isLatest hlatest, Option.map_some, Option.getD_some] at hshown
  have hplain := h.plain _ hlatest.told
  calc train.operationMarker
      = (projectOperationMarker train change.operationMarker).operationMarker := by rw [hshown]
    _ = change.operationMarker := operationMarker_project hplain

end Tracks

/-! ### Publications -/

/-- What has passed the checks: every train that is set is valid, and every train that will be shown
is bound to a frame that will be shown. -/
lemma checkEmission_ok {feed : LivemapFeed} {input checked : DeltaInput}
    (h : feed.checkEmission input = .ok checked) :
    (∀ train ∈ input.changed, LivemapFeed.validateTrain train = .ok ()) ∧
      (∀ train ∈ Registry.values (feed.nextTrains input),
        LivemapFeed.isBound (feed.entities.apply checked).operationalRegions train = true) ∧
      checked.changed = input.changed ∧ checked.removed = input.removed ∧
        checked.atS = input.atS := by
  simp only [LivemapFeed.checkEmission, bind_eq_ok_iff] at h
  obtain ⟨_, hvalid, _, _, _, _, _, _, _, hbound, _, _, _, _, _, _, hpure⟩ := h
  cases hpure
  refine ⟨fun train htrain => forM_eq_ok_iff.mp hvalid train htrain, fun train htrain => ?_, rfl,
    rfl, rfl⟩
  exact require_eq_ok.mp (forM_eq_ok_iff.mp hbound train htrain)

namespace Recorded

variable {marked : MarkedFeed}

/-- A feed shows trains as its timelines say after a delta whose trains are as the timelines say, if
every train that stays is, too. -/
lemma write (h : marked.Recorded) {nowMs : Int} {input checked : DeltaInput}
    (hchecked : marked.feed.checkEmission input = .ok checked)
    (hmarked : ∀ train ∈ input.changed, marked.feed.markTrain input.atS train = train)
    (hstays : ∀ train ∈ Registry.values marked.feed.entities.trains,
      train.id ∉ input.changed.map PublicTrain.id → train.id ∉ input.removed →
        marked.feed.markTrain input.atS train = train) :
    Tracks ⟨marked.feed.write nowMs checked, marked.received⟩ := by
  obtain ⟨hvalid, hbound, hchanged, hremoved, htime⟩ := checkEmission_ok hchecked
  have hnext : (marked.feed.write nowMs checked).entities.trains
      = marked.feed.nextTrains input := by
    change Registry.patch PublicTrain.id _ checked.changed checked.removed = _
    rw [hchanged, hremoved]
    rfl
  have hmem : ∀ train ∈ Registry.values (marked.feed.write nowMs checked).entities.trains,
      train ∈ input.changed ∨ train ∈ Registry.values marked.feed.entities.trains ∧
        train.id ∉ input.changed.map PublicTrain.id ∧ train.id ∉ input.removed := by
    intro train htrain
    rw [hnext] at htrain
    exact Registry.mem_values_patch h.keyed htrain
  refine ⟨⟨?_, h.ascending, h.recorded, h.plain, fun train htrain => ⟨?_, ?_⟩⟩,
    fun train htrain => ?_⟩
  · rw [hnext]
    exact h.keyed.patch _ _
  · rcases hmem train htrain with hin | ⟨hin, -⟩
    · exact hvalid train hin
    · exact (h.sound train hin).valid
  · exact hbound train (hnext ▸ htrain)
  · change marked.feed.markTrain checked.atS train = train
    rw [htime]
    rcases hmem train htrain with hin | ⟨hin, hset, hgone⟩
    · exact hmarked train hin
    · exact hstays train hin hset hgone

end Recorded

end MarkedFeed

namespace LivemapFeed

/-- Whether a publication is written. -/
def passes (feed : LivemapFeed) (input : DeltaInput) : Bool :=
  (feed.checkPublication input).toOption.any fun marked =>
    (feed.checkEmission marked).toOption.isSome

/-- Whether every train that a publication leaves as it is looks at the new time as it did. -/
def leavesMarked (feed : LivemapFeed) (input : DeltaInput) : Bool :=
  (Registry.values feed.entities.trains).all fun train =>
    (input.changed.map PublicTrain.id).contains train.id || input.removed.contains train.id
      || decide (feed.markTrain input.atS train = train)

end LivemapFeed

namespace MarkedFeed

/-- A publication shows its trains as their markers say. -/
lemma Tracks.publish {marked : MarkedFeed} (h : marked.Tracks) {nowMs : Int} {input : DeltaInput}
    (hleaves : marked.feed.passes input = true → marked.feed.leavesMarked input = true) :
    (marked.step (.publish nowMs input)).Tracks := by
  cases hpublication : marked.feed.checkPublication input with
  | error error =>
    have hsame : (marked.feed.publish nowMs input).1 = marked.feed := by
      rw [LivemapFeed.publish, hpublication]
      rfl
    rw [step, hsame]
    exact h
  | ok published =>
    cases hemission : marked.feed.checkEmission published with
    | error error =>
      have hsame : (marked.feed.publish nowMs input).1 = marked.feed := by
        rw [LivemapFeed.publish, hpublication]
        change (marked.feed.emit nowMs published).1 = marked.feed
        rw [LivemapFeed.emit, hemission]
        rfl
      rw [step, hsame]
      exact h
    | ok checked =>
      have hwrite : (marked.feed.publish nowMs input).1
          = marked.feed.write nowMs checked := by
        rw [LivemapFeed.publish, hpublication]
        change (marked.feed.emit nowMs published).1 = _
        rw [LivemapFeed.emit, hemission]
        rfl
      have hpasses : marked.feed.passes input = true := by
        rw [LivemapFeed.passes, hpublication]
        change ((marked.feed.checkEmission published).toOption.isSome) = true
        rw [hemission]
        rfl
      have hleaves := List.all_eq_true.mp (hleaves hpasses)
      have hids : published.changed.map PublicTrain.id = input.changed.map PublicTrain.id :=
        (LivemapFeed.sameIds_of_checkPublication hpublication).changed .train
      simp only [LivemapFeed.checkPublication, bind_eq_ok_iff] at hpublication
      obtain ⟨-, -, -, -, hpure⟩ := hpublication
      cases hpure
      rw [step, hwrite]
      refine h.toRecorded.write hemission (fun train htrain => ?_) fun train htrain hset hgone => ?_
      · obtain ⟨old, -, rfl⟩ := List.mem_map.mp htrain
        exact marked.feed.markTrain_markTrain input.atS old
      · have hleft := hleaves train htrain
        have hset : (input.changed.map PublicTrain.id).contains train.id = false := by
          rw [← Bool.not_eq_true, List.contains_iff_mem]
          rwa [← hids]
        have hgone : input.removed.contains train.id = false := by
          rw [← Bool.not_eq_true, List.contains_iff_mem]
          exact hgone
        rw [hset, hgone, Bool.false_or, Bool.false_or] at hleft
        exact of_decide_eq_true hleft

end MarkedFeed

/-! ### Recording one change -/

namespace LivemapFeed

variable {feed : LivemapFeed} {change : OperationMarkerChange}

/-- Whether a later change is known of a run. -/
def knowsLater (feed : LivemapFeed) (change : OperationMarkerChange) (trainRunId : String) : Bool :=
  feed.latestOperationMarkers[trainRunId]?.any fun latest =>
    change.effectiveAt < latest.effectiveAt

/-- The timelines stand in the order of their times, and none of some runs has an entry of the time
of a change. -/
structure Awaits (feed : LivemapFeed) (change : OperationMarkerChange)
    (trainRunIds : List String) : Prop where
  ascending : ∀ trainRunId, Timeline.Ascending OperationMarkerChange.effectiveAt
    (feed.timelineOf trainRunId)
  fresh : ∀ trainRunId ∈ trainRunIds, ∀ other ∈ feed.timelineOf trainRunId,
    other.effectiveAt ≠ change.effectiveAt

lemma Awaits.not_isRecorded {trainRunIds : List String} (h : feed.Awaits change trainRunIds)
    {trainRunId : String} (hin : trainRunId ∈ trainRunIds) :
    isRecorded (feed.timelineOf trainRunId) change = false := by
  rw [isRecorded, Option.any_eq_false]
  intro previous hprevious
  have hmem := ((h.ascending trainRunId).effective_iff.mp hprevious).1
  have hne := h.fresh trainRunId hin previous hmem
  simp [hne]

/-- Recording a change puts it into the timeline of its run and says whether no later one is
known. -/
lemma recordOperationMarker_new {trainRunId : String}
    (h : isRecorded (feed.timelineOf trainRunId) change = false) :
    (∀ other, (feed.recordOperationMarker trainRunId change).1.timelineOf other
      = if other = trainRunId then recordChange (feed.timelineOf trainRunId) change
        else feed.timelineOf other) ∧
      (∀ other, other ≠ trainRunId → ∀ change',
        (feed.recordOperationMarker trainRunId change).1.knowsLater change' other
          = feed.knowsLater change' other) ∧
        (feed.recordOperationMarker trainRunId change).2 = !feed.knowsLater change trainRunId := by
  have htimeline : ∀ other, ((feed.operationMarkerTimelines.insert trainRunId
      (recordChange (feed.timelineOf trainRunId) change))[other]?).getD []
        = if other = trainRunId then recordChange (feed.timelineOf trainRunId) change
          else feed.timelineOf other := by
    intro other
    rw [Registry.getElem?_insert]
    split
    · rfl
    · rfl
  have hnew : isRecorded ((feed.operationMarkerTimelines[trainRunId]?).getD []) change = false := h
  cases hlater : feed.knowsLater change trainRunId with
  | true =>
    have heq : feed.recordOperationMarker trainRunId change = ({ feed with
        operationMarkerTimelines := feed.operationMarkerTimelines.insert trainRunId
          (recordChange (feed.timelineOf trainRunId) change) }, false) := by
      unfold knowsLater at hlater
      simp only [recordOperationMarker, hnew, hlater]
      rfl
    rw [heq]
    exact ⟨htimeline, fun _ _ _ => rfl, rfl⟩
  | false =>
    have heq : feed.recordOperationMarker trainRunId change = ({ feed with
        operationMarkerTimelines := feed.operationMarkerTimelines.insert trainRunId
          (recordChange (feed.timelineOf trainRunId) change)
        latestOperationMarkers := feed.latestOperationMarkers.insert trainRunId change },
          true) := by
      unfold knowsLater at hlater
      simp only [recordOperationMarker, hnew, hlater]
      rfl
    rw [heq]
    refine ⟨htimeline, fun other hne change' => ?_, rfl⟩
    unfold knowsLater
    simp only [Registry.getElem?_insert, if_neg hne]

/-- What is effective for a run after a change has been recorded for some runs. -/
def updated (now : Int) (change : OperationMarkerChange) (named : Bool)
    (effective : Option OperationMarkerChange) : Option OperationMarkerChange :=
  if named && change.effectiveAt ≤ now then
    (effective.filter fun last => change.effectiveAt < last.effectiveAt).or (some change)
  else effective

lemma effective_recordChange {timeline : List OperationMarkerChange}
    (h : Timeline.Ascending OperationMarkerChange.effectiveAt timeline) {named : Bool}
    (hfresh : named = true → ∀ other ∈ timeline, other.effectiveAt ≠ change.effectiveAt)
    (now : Int) :
    effectiveChange (if named = true then recordChange timeline change else timeline) now
      = updated now change named (effectiveChange timeline now) := by
  unfold updated
  cases named with
  | false => rfl
  | true =>
    rw [if_pos rfl, Bool.true_and]
    split
    next hle => exact h.effective_record_of_le (hfresh rfl) (of_decide_eq_true hle)
    next hlt =>
      have hlt : now < change.effectiveAt := by
        rw [decide_eq_true_eq] at hlt
        exact not_le.mp hlt
      exact h.effective_record_of_lt (hfresh rfl) hlt

/-- The change that is effective for a train is the one that was, or it is the new one; then the
one that was is not later. -/
lemma laterChange_updated {now : Int} {exact base : Option OperationMarkerChange}
    {namedExact namedBase : Bool}
    (hexact : namedExact = true → ∀ e ∈ exact, e.effectiveAt ≠ change.effectiveAt)
    (hbase : namedBase = true → ∀ b ∈ base, b.effectiveAt ≠ change.effectiveAt) :
    laterChange (updated now change namedExact exact) (updated now change namedBase base)
        = laterChange exact base ∨
      laterChange (updated now change namedExact exact) (updated now change namedBase base)
          = some change ∧ change.effectiveAt ≤ now ∧ (namedExact || namedBase) = true ∧
        (laterChange exact base).all (fun old => old.effectiveAt < change.effectiveAt
          || (old.effectiveAt == change.effectiveAt && namedExact)) = true := by
  unfold laterChange updated
  by_cases hnow : change.effectiveAt ≤ now
  · cases namedExact <;> cases namedBase <;> rcases exact with _ | e <;> rcases base with _ | b <;>
      simp [hnow, Option.filter] at hexact hbase ⊢ <;> grind
  · simp [hnow]

lemma laterChange_updated_exact {now : Int} {exact : Option OperationMarkerChange}
    {last : OperationMarkerChange} (hexact : ∀ e ∈ exact, e.effectiveAt ≠ change.effectiveAt)
    (hlast : change.effectiveAt < last.effectiveAt ∨ last = change) :
    laterChange (updated now change true exact) (some last) = laterChange exact (some last) := by
  unfold laterChange updated
  by_cases hnow : change.effectiveAt ≤ now
  · rcases exact with _ | e <;> simp [hnow, Option.filter] at hexact ⊢ <;> grind
  · simp [hnow]

lemma laterChange_updated_base {now : Int} {base : Option OperationMarkerChange}
    {last : OperationMarkerChange} (hbase : ∀ b ∈ base, b.effectiveAt ≠ change.effectiveAt)
    (hlast : change.effectiveAt < last.effectiveAt ∨ last = change) :
    laterChange (some last) (updated now change true base) = laterChange (some last) base := by
  unfold laterChange updated
  by_cases hnow : change.effectiveAt ≤ now
  · rcases base with _ | b <;> simp [hnow, Option.filter] at hbase ⊢ <;> grind
  · simp [hnow]

/-- The second feed has recorded a change for some runs and shows what the first one shows. -/
structure Records (feed feed' : LivemapFeed) (change : OperationMarkerChange)
    (trainRunIds : List String) : Prop where
  same : SameStream feed feed'
  timelines : ∀ other, feed'.timelineOf other
    = if trainRunIds.contains other = true then recordChange (feed.timelineOf other) change
      else feed.timelineOf other

namespace Records

variable {feed' : LivemapFeed} {trainRunIds : List String}

lemma entities (h : Records feed feed' change trainRunIds) : feed'.entities = feed.entities :=
  congrArg Replica.entities h.same.replica

lemma atS (h : Records feed feed' change trainRunIds) : feed'.atS = feed.atS :=
  congrArg Replica.atS h.same.replica

lemma operationMarkerAt (h : Records feed feed' change trainRunIds)
    (hawaits : feed.Awaits change trainRunIds) (trainRunId : String) (now : Int) :
    feed'.operationMarkerAt trainRunId now
      = updated now change (trainRunIds.contains trainRunId)
          (feed.operationMarkerAt trainRunId now) := by
  change effectiveChange (feed'.timelineOf trainRunId) now = _
  rw [h.timelines]
  exact effective_recordChange (hawaits.ascending trainRunId)
    (fun hin => hawaits.fresh trainRunId (List.contains_iff_mem.mp hin)) now

/-- Whatever is effective for a run that is to be recorded is of another time. -/
lemma fresh_operationMarkerAt (hawaits : feed.Awaits change trainRunIds) {trainRunId : String}
    (hin : trainRunIds.contains trainRunId = true) {now : Int} :
    ∀ e ∈ feed.operationMarkerAt trainRunId now, e.effectiveAt ≠ change.effectiveAt := by
  intro e he
  have hmem := ((hawaits.ascending trainRunId).effective_iff.mp he).1
  exact hawaits.fresh trainRunId (List.contains_iff_mem.mp hin) e hmem

/-- The two runs of a train. -/
lemma any_concerns (trainRunIds : List String) (train : PublicTrain) :
    trainRunIds.any (fun trainRunId => concerns trainRunId train)
      = (trainRunIds.contains train.id
        || (verifiedBaseTrainRunId train).any trainRunIds.contains) := by
  rw [Bool.eq_iff_iff, Bool.or_eq_true, List.any_eq_true, List.contains_iff_mem, Option.any_eq_true]
  constructor
  · rintro ⟨trainRunId, hin, hconcerns⟩
    unfold concerns at hconcerns
    rw [Bool.or_eq_true, beq_iff_eq, beq_iff_eq] at hconcerns
    rcases hconcerns with rfl | hbase
    · exact .inl hin
    · exact .inr ⟨trainRunId, hbase, List.contains_iff_mem.mpr hin⟩
  · rintro (hin | ⟨base, hbase, hin⟩)
    · exact ⟨train.id, hin, by simp [concerns]⟩
    · exact ⟨base, List.contains_iff_mem.mp hin, by simp [concerns, hbase]⟩

/-- What is effective for a train after a change has been recorded. -/
lemma operationMarkerForTrain (h : Records feed feed' change trainRunIds)
    (hawaits : feed.Awaits change trainRunIds) (train : PublicTrain) (now : Int) :
    feed'.operationMarkerForTrain train now
      = laterChange
          (updated now change (trainRunIds.contains train.id)
            (feed.operationMarkerAt train.id now))
          (updated now change ((verifiedBaseTrainRunId train).any trainRunIds.contains)
            ((verifiedBaseTrainRunId train).bind fun base => feed.operationMarkerAt base now)) := by
  unfold LivemapFeed.operationMarkerForTrain
  rw [h.operationMarkerAt hawaits]
  cases verifiedBaseTrainRunId train with
  | none => rfl
  | some base =>
    rw [Option.bind_some, Option.bind_some, h.operationMarkerAt hawaits]
    rfl

/-- A run of a train that has the change already keeps the other one from changing anything. -/
lemma operationMarkerForTrain_again {trainRunId other : String}
    (h : Records feed feed' change [trainRunId]) (hawaits : feed.Awaits change [trainRunId])
    {train : PublicTrain} (hne : other ≠ trainRunId) (hother : concerns other train = true)
    (hknown : change ∈ feed.timelineOf other) {now : Int} (hnow : change.effectiveAt ≤ now) :
    feed'.operationMarkerForTrain train now = feed.operationMarkerForTrain train now := by
  -- The run that has the change has it or a later one in effect.
  obtain ⟨last, hlast, hlater⟩ : ∃ last, feed.operationMarkerAt other now = some last ∧
      (change.effectiveAt < last.effectiveAt ∨ last = change) := by
    have hascending := hawaits.ascending other
    cases heffective : feed.operationMarkerAt other now with
    | none =>
      have hlt := hascending.effective_eq_none_iff.mp heffective change hknown
      omega
    | some last =>
      obtain ⟨hmem, -, hall⟩ := hascending.effective_iff.mp heffective
      refine ⟨last, rfl, ?_⟩
      rcases (hall change hknown hnow).lt_or_eq with hlt | heq
      · exact .inl hlt
      · exact .inr (hascending.eq_of_time hmem hknown heq.symm)
  rw [h.operationMarkerForTrain hawaits]
  unfold LivemapFeed.operationMarkerForTrain
  by_cases hexact : other = train.id
  · subst hexact
    have hunnamed : [trainRunId].contains train.id = false := by
      rw [← Bool.not_eq_true, List.contains_iff_mem, List.mem_singleton]
      exact hne
    rw [hunnamed, hlast]
    cases hbase : verifiedBaseTrainRunId train with
    | none => rfl
    | some base =>
      change laterChange (some last) (updated now change ([trainRunId].contains base)
        (feed.operationMarkerAt base now)) = laterChange (some last) _
      cases hnamed : [trainRunId].contains base with
      | false => rfl
      | true => exact laterChange_updated_base (fresh_operationMarkerAt hawaits hnamed) hlater
  · have hbase : verifiedBaseTrainRunId train = some other := by
      unfold concerns at hother
      rw [Bool.or_eq_true, beq_iff_eq, beq_iff_eq] at hother
      exact hother.resolve_left fun heq => hexact heq.symm
    have hunnamed : [trainRunId].contains other = false := by
      rw [← Bool.not_eq_true, List.contains_iff_mem, List.mem_singleton]
      exact hne
    rw [hbase, Option.any_some, hunnamed, Option.bind_some, hlast]
    cases hnamed : [trainRunId].contains train.id with
    | false => rfl
    | true => exact laterChange_updated_exact (fresh_operationMarkerAt hawaits hnamed) hlater

end Records

/-- Whether a change that is told of some runs is the latest one that is effective for a train. -/
def takesEffect (feed : LivemapFeed) (change : OperationMarkerChange) (trainRunIds : List String)
    (train : PublicTrain) : Bool :=
  change.effectiveAt ≤ feed.atS && trainRunIds.any (fun trainRunId => concerns trainRunId train)
    && (feed.operationMarkerForTrain train feed.atS).all fun old =>
      old.effectiveAt < change.effectiveAt
        || (old.effectiveAt == change.effectiveAt && trainRunIds.contains train.id)

/-- A recorded change is the one for a train only if it takes effect. -/
lemma Records.operationMarkerForTrain_cases {feed' : LivemapFeed} {trainRunIds : List String}
    (h : Records feed feed' change trainRunIds) (hawaits : feed.Awaits change trainRunIds)
    (train : PublicTrain) :
    feed'.operationMarkerForTrain train feed.atS = feed.operationMarkerForTrain train feed.atS ∨
      feed'.operationMarkerForTrain train feed.atS = some change ∧
        feed.takesEffect change trainRunIds train = true := by
  have hbase : (verifiedBaseTrainRunId train).any trainRunIds.contains = true →
      ∀ b ∈ (verifiedBaseTrainRunId train).bind fun base => feed.operationMarkerAt base feed.atS,
        b.effectiveAt ≠ change.effectiveAt := by
    intro hnamed b hb
    obtain ⟨base, hsome, hb⟩ := Option.bind_eq_some_iff.mp hb
    rw [hsome, Option.any_some] at hnamed
    exact Records.fresh_operationMarkerAt hawaits hnamed b hb
  have hexact : trainRunIds.contains train.id = true →
      ∀ e ∈ feed.operationMarkerAt train.id feed.atS, e.effectiveAt ≠ change.effectiveAt :=
    fun hnamed => Records.fresh_operationMarkerAt hawaits hnamed
  rw [h.operationMarkerForTrain hawaits]
  rcases laterChange_updated hexact hbase with
    hsame | ⟨hnew, hnow, hnamed, hold⟩
  · exact .inl hsame
  · refine .inr ⟨hnew, ?_⟩
    rw [takesEffect, Bool.and_eq_true, Bool.and_eq_true, Records.any_concerns]
    exact ⟨⟨decide_eq_true hnow, hnamed⟩, hold⟩

/-! ### The trains that are shown anew -/

lemma records_recordOperationMarker {trainRunId : String}
    (hawaits : feed.Awaits change [trainRunId]) :
    Records feed (feed.recordOperationMarker trainRunId change).1 change [trainRunId] where
  same := sameStream_recordOperationMarker feed trainRunId change
  timelines := by
    intro other
    have hnew := hawaits.not_isRecorded (List.mem_singleton_self trainRunId)
    rw [(recordOperationMarker_new hnew).1 other]
    by_cases heq : other = trainRunId
    · simp [heq]
    · simp [heq]

/-- A change of one run leaves the other runs waiting for it. -/
lemma Awaits.recordOperationMarker {trainRunId : String} {rest : List String}
    (h : feed.Awaits change (trainRunId :: rest)) (hnodup : (trainRunId :: rest).Nodup) :
    (feed.recordOperationMarker trainRunId change).1.Awaits change rest := by
  have hfirst : feed.Awaits change [trainRunId] :=
    ⟨h.ascending, fun other hother => h.fresh other (by simp_all)⟩
  have hrecords := (records_recordOperationMarker hfirst).timelines
  refine ⟨fun other => ?_, fun other hother entry hentry => ?_⟩
  · rw [hrecords]
    split
    next hin =>
      have hin := List.mem_singleton.mp (List.contains_iff_mem.mp hin)
      exact (h.ascending other).record (h.fresh other (hin ▸ List.mem_cons_self))
    next => exact h.ascending other
  · have hne : other ≠ trainRunId := fun heq => (List.nodup_cons.mp hnodup).1 (heq ▸ hother)
    have hunnamed : [trainRunId].contains other = false := by
      rw [← Bool.not_eq_true, List.contains_iff_mem, List.mem_singleton]
      exact hne
    rw [hrecords, hunnamed] at hentry
    exact h.fresh other (List.mem_cons_of_mem _ hother) entry hentry

/-- All changes of a call are recorded. -/
lemma records_recordAll {trainRunIds : List String} (hnodup : trainRunIds.Nodup)
    (hawaits : feed.Awaits change trainRunIds) (changed : Registry String PublicTrain) :
    Records feed (recordAll change trainRunIds feed changed).1 change trainRunIds := by
  refine ⟨sameStream_recordAll change trainRunIds feed changed, ?_⟩
  induction trainRunIds generalizing feed changed with
  | nil => exact fun other => rfl
  | cons trainRunId rest ih =>
    have hfirst : feed.Awaits change [trainRunId] :=
      ⟨hawaits.ascending, fun other hother => hawaits.fresh other (by simp_all)⟩
    have hrecords := (records_recordOperationMarker hfirst).timelines
    have hrest : ∀ changed' other,
        (recordAll change rest (feed.recordOperationMarker trainRunId change).1
          changed').1.timelineOf other
        = if (trainRunId :: rest).contains other = true
          then recordChange (feed.timelineOf other) change else feed.timelineOf other := by
      intro changed' other
      rw [ih (List.nodup_cons.mp hnodup).2 (hawaits.recordOperationMarker hnodup) changed' other,
        hrecords, List.contains_cons, List.contains_cons, List.contains_nil, Bool.or_false]
      by_cases hin : other ∈ rest
      · have hne : other ≠ trainRunId := fun heq => (List.nodup_cons.mp hnodup).1 (heq ▸ hin)
        simp [hin, hne]
      · simp [hin]
    intro other
    rw [recordAll]
    split
    · exact hrest _ other
    · exact hrest _ other

/-- Whether a run of a train is among some runs, and the change that is told of it is effective and
no later one is known. -/
def isReached (feed : LivemapFeed) (change : OperationMarkerChange) (trainRunIds : List String)
    (train : PublicTrain) : Bool :=
  trainRunIds.any fun trainRunId =>
    concerns trainRunId train && !feed.knowsLater change trainRunId
      && change.effectiveAt ≤ feed.atS

/-- The trains that are collected are the ones that have been reached and look different now. -/
def Collects (feed : LivemapFeed) (reached : PublicTrain → Bool)
    (changed : Registry String PublicTrain) : Prop :=
  ∀ id train', changed[id]? = some train' ↔
    ∃ train ∈ Registry.values feed.entities.trains, train.id = id ∧ reached train = true ∧
      train' = feed.markTrain feed.atS train ∧ train' ≠ train

lemma collects_empty (feed : LivemapFeed) : feed.Collects (fun _ => false) .empty := by
  intro id train'
  simp

/-- Every train that has been reached has a run, besides some runs, that has the change in its
timeline. -/
def Covers (feed : LivemapFeed) (change : OperationMarkerChange) (trainRunIds : List String)
    (reached : PublicTrain → Bool) : Prop :=
  ∀ train, reached train = true → change.effectiveAt ≤ feed.atS ∧
    ∃ other ∉ trainRunIds, concerns other train = true ∧ change ∈ feed.timelineOf other

section OneRun

variable {trainRunId : String} {reached : PublicTrain → Bool}
  {changed : Registry String PublicTrain}

lemma markTrain_of_covers (hawaits : feed.Awaits change [trainRunId])
    (hcovers : feed.Covers change [trainRunId] reached) {train : PublicTrain}
    (hreached : reached train = true) :
    (feed.recordOperationMarker trainRunId change).1.markTrain feed.atS train
      = feed.markTrain feed.atS train := by
  have hrecords := records_recordOperationMarker hawaits
  obtain ⟨hnow, other, hother, hconcerns, hknown⟩ := hcovers train hreached
  have hne : other ≠ trainRunId := fun heq => hother (List.mem_singleton.mpr heq)
  exact markTrain_congr
    (hrecords.operationMarkerForTrain_again hawaits hne hconcerns hknown hnow)

lemma Collects.skip (h : feed.Collects reached changed) (hawaits : feed.Awaits change [trainRunId])
    (hcovers : feed.Covers change [trainRunId] reached) :
    (feed.recordOperationMarker trainRunId change).1.Collects reached changed := by
  have hrecords := records_recordOperationMarker hawaits
  intro id train'
  rw [h id train', hrecords.entities, hrecords.atS]
  refine exists_congr fun train => and_congr_right fun _ => and_congr_right fun _ =>
    and_congr_right fun hreached => ?_
  rw [markTrain_of_covers hawaits hcovers hreached]

/-- The trains of a run that are looked up again are collected. -/
lemma Collects.reach (h : feed.Collects reached changed)
    (hkeyed : Registry.Indexed PublicTrain.id feed.entities.trains)
    (hawaits : feed.Awaits change [trainRunId])
    (hcovers : feed.Covers change [trainRunId] reached) :
    (feed.recordOperationMarker trainRunId change).1.Collects
      (fun train => reached train || concerns trainRunId train)
      (Registry.file PublicTrain.id changed
        ((feed.recordOperationMarker trainRunId change).1.remarked trainRunId)) := by
  have hrecords := records_recordOperationMarker hawaits
  have hstale := fun train => @markTrain_of_covers _ _ _ _ hawaits hcovers train
  have hremarked : ∀ train', train' ∈ (feed.recordOperationMarker trainRunId change).1.remarked
      trainRunId ↔ ∃ train ∈ Registry.values feed.entities.trains,
        concerns trainRunId train = true ∧
          train' = (feed.recordOperationMarker trainRunId change).1.markTrain feed.atS train ∧
            train' ≠ train := by
    intro train'
    simp only [remarked, List.mem_filterMap, List.mem_filter, hrecords.entities, hrecords.atS]
    refine exists_congr fun train => ?_
    rw [and_assoc]
    refine and_congr_right fun _ => and_congr_right fun _ => ?_
    by_cases hsame :
        (feed.recordOperationMarker trainRunId change).1.markTrain feed.atS train = train
    · rw [if_pos hsame]
      refine iff_of_false (Option.some_ne_none _).symm ?_
      rintro ⟨rfl, hne⟩
      exact hne hsame
    · rw [if_neg hsame, Option.some.injEq, eq_comm]
      constructor
      · rintro rfl
        exact ⟨rfl, hsame⟩
      · exact fun hboth => hboth.1
  have hsame : ∀ train ∈ Registry.values feed.entities.trains,
      ∀ other ∈ Registry.values feed.entities.trains, train.id = other.id → train = other := by
    intro train htrain other hother heq
    obtain ⟨k, hk⟩ := Registry.mem_values.mp htrain
    obtain ⟨l, hl⟩ := Registry.mem_values.mp hother
    rw [← hkeyed k train hk, heq, hkeyed l other hl, hl] at hk
    exact (Option.some.inj hk).symm
  intro id train'
  rw [hrecords.entities, hrecords.atS]
  rcases Registry.getElem?_file PublicTrain.id changed
      ((feed.recordOperationMarker trainRunId change).1.remarked trainRunId) id with
    ⟨filed, hin, hid, hfiled⟩ | ⟨hnone, hfiled⟩
  · -- A train of the run stands there, and no other train has its identifier.
    obtain ⟨train, htrain, hconcerns, rfl, hne⟩ := (hremarked filed).mp hin
    rw [id_markTrain] at hid
    rw [hfiled, Option.some.injEq]
    constructor
    · rintro rfl
      exact ⟨train, htrain, hid, (Bool.or_eq_true _ _).mpr (.inr hconcerns), rfl, hne⟩
    · rintro ⟨other, hother, hotherId, -, rfl, -⟩
      rw [hsame train htrain other hother (hid.trans hotherId.symm)]
  · -- None does, so whatever stands there was collected before.
    rw [hfiled, h id train']
    refine exists_congr fun train => and_congr_right fun htrain => and_congr_right fun hid => ?_
    constructor
    · rintro ⟨hreached, rfl, hne⟩
      exact ⟨(Bool.or_eq_true _ _).mpr (.inl hreached), (hstale train hreached).symm, hne⟩
    · rintro ⟨hreached, heq, hne⟩
      rcases (Bool.or_eq_true _ _).mp hreached with hreached | hconcerns
      · exact ⟨hreached, heq.trans (hstale train hreached), hne⟩
      · have hin := (hremarked train').mpr ⟨train, htrain, hconcerns, heq, hne⟩
        refine absurd ?_ (hnone train' hin)
        rw [heq, id_markTrain, hid]

end OneRun

lemma isReached_recordOperationMarker {trainRunId : String} {rest : List String}
    (hawaits : feed.Awaits change [trainRunId]) (hnew : trainRunId ∉ rest) (train : PublicTrain) :
    (feed.recordOperationMarker trainRunId change).1.isReached change rest train
      = feed.isReached change rest train := by
  have hnot := hawaits.not_isRecorded (List.mem_singleton_self trainRunId)
  unfold isReached
  rw [(records_recordOperationMarker hawaits).atS]
  rw [Bool.eq_iff_iff, List.any_eq_true, List.any_eq_true]
  refine exists_congr fun other => and_congr_right fun hother => ?_
  have hne : other ≠ trainRunId := fun heq => hnew (heq ▸ hother)
  rw [(recordOperationMarker_new hnot).2.1 other hne]

/-- **The trains of a call.**  Whatever trains are collected in a call are the ones that have been
reached and look different in the end. -/
lemma collects_recordAll {trainRunIds : List String} (hnodup : trainRunIds.Nodup)
    (hkeyed : Registry.Indexed PublicTrain.id feed.entities.trains)
    (hawaits : feed.Awaits change trainRunIds) {reached : PublicTrain → Bool}
    {changed : Registry String PublicTrain} (h : feed.Collects reached changed)
    (hcovers : feed.Covers change trainRunIds reached) :
    (recordAll change trainRunIds feed changed).1.Collects
      (fun train => reached train || feed.isReached change trainRunIds train)
      (recordAll change trainRunIds feed changed).2 := by
  induction trainRunIds generalizing feed reached changed with
  | nil =>
    have hsame : (fun train => reached train || feed.isReached change [] train) = reached := by
      funext train
      exact Bool.or_false _
    rw [hsame]
    exact h
  | cons trainRunId rest ih =>
    obtain ⟨hnew, hrest⟩ := List.nodup_cons.mp hnodup
    have hfirst : feed.Awaits change [trainRunId] :=
      ⟨hawaits.ascending, fun other hother =>
        hawaits.fresh other (List.mem_singleton.mp hother ▸ List.mem_cons_self)⟩
    have hcoversFirst : feed.Covers change [trainRunId] reached := by
      intro train hreached
      obtain ⟨hnow, other, hother, hboth⟩ := hcovers train hreached
      refine ⟨hnow, other, fun hin => hother ?_, hboth⟩
      exact List.mem_singleton.mp hin ▸ List.mem_cons_self
    have hrecords := records_recordOperationMarker hfirst
    have hkept : ∀ other ∉ trainRunId :: rest, ∀ entry ∈ feed.timelineOf other,
        entry ∈ (feed.recordOperationMarker trainRunId change).1.timelineOf other := by
      intro other hother entry hentry
      rw [hrecords.timelines, if_neg]
      · exact hentry
      · rw [List.contains_iff_mem, List.mem_singleton]
        exact fun heq => hother (heq ▸ List.mem_cons_self)
    have hkeyed' : Registry.Indexed PublicTrain.id
        (feed.recordOperationMarker trainRunId change).1.entities.trains := by
      rw [hrecords.entities]
      exact hkeyed
    have hawaits' := hawaits.recordOperationMarker hnodup
    have hflag := (recordOperationMarker_new
      (hfirst.not_isRecorded (List.mem_singleton_self trainRunId))).2.2
    have hsplit : ∀ train, feed.isReached change (trainRunId :: rest) train
        = ((concerns trainRunId train && !feed.knowsLater change trainRunId
            && change.effectiveAt ≤ feed.atS)
          || (feed.recordOperationMarker trainRunId change).1.isReached change rest train) := by
      intro train
      rw [isReached_recordOperationMarker hfirst hnew]
      rfl
    rw [recordAll]
    simp only [hsplit]
    split
    next hskip =>
      -- The run is passed over: nothing more is reached.
      have hpassed : ∀ train, (concerns trainRunId train
          && !feed.knowsLater change trainRunId && change.effectiveAt ≤ feed.atS) = false := by
        intro train
        rw [hflag, Bool.not_not, Bool.or_eq_true, decide_eq_true_eq] at hskip
        rcases hskip with hlater | hfuture
        · rw [hlater, Bool.not_true, Bool.and_false, Bool.false_and]
        · rw [decide_eq_false (not_le.mpr hfuture), Bool.and_false]
      simp only [hpassed, Bool.false_or]
      refine ih hrest hkeyed' hawaits' (h.skip hfirst hcoversFirst) ?_
      intro train hreached
      obtain ⟨hnow, other, hother, hconcerns, hknown⟩ := hcovers train hreached
      exact ⟨hrecords.atS ▸ hnow, other, fun hin => hother (List.mem_cons_of_mem _ hin),
        hconcerns, hkept other hother change hknown⟩
    next hlooked =>
      -- The trains of the run are looked up again.
      rw [hflag, Bool.not_not, Bool.or_eq_true, decide_eq_true_eq, not_or, not_lt,
        Bool.not_eq_true] at hlooked
      have hreach : ∀ train, (reached train || ((concerns trainRunId train
          && !feed.knowsLater change trainRunId && change.effectiveAt ≤ feed.atS)
          || (feed.recordOperationMarker trainRunId change).1.isReached change rest train))
        = ((reached train || concerns trainRunId train)
          || (feed.recordOperationMarker trainRunId change).1.isReached change rest train) := by
        intro train
        rw [hlooked.1, decide_eq_true hlooked.2, Bool.not_false, Bool.and_true, Bool.and_true,
          Bool.or_assoc]
      simp only [hreach]
      refine ih hrest hkeyed' hawaits' (h.reach hkeyed hfirst hcoversFirst) ?_
      intro train hreached
      refine ⟨hrecords.atS ▸ hlooked.2, ?_⟩
      rcases (Bool.or_eq_true _ _).mp hreached with hreached | hconcerns
      · obtain ⟨-, other, hother, hconcerns, hknown⟩ := hcovers train hreached
        exact ⟨other, fun hin => hother (List.mem_cons_of_mem _ hin), hconcerns,
          hkept other hother change hknown⟩
      · refine ⟨trainRunId, hnew, hconcerns, ?_⟩
        rw [hrecords.timelines, if_pos]
        · exact Timeline.mem_record.mpr (.inl rfl)
        · exact List.contains_iff_mem.mpr (List.mem_singleton_self _)

end LivemapFeed

end Zugfolge.Livemap
