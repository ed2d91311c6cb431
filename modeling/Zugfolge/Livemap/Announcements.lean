/-
Markers that come in any order (`setOperationMarker` of `packages/livemap/src/stream.ts`).

* `latest_markers_shown`: as long as all calls are such, trains look as their latest change says.
-/
import Zugfolge.Foundation.Histories
import Zugfolge.Livemap.Markers

namespace Zugfolge.Livemap

open Foundation

namespace LivemapFeed

/-- Whether a change is the latest one that is effective for a train and would let it look
different, while a later one is known of every run of the train that the change is told of. -/
def overlooks (feed : LivemapFeed) (change : OperationMarkerChange) (trainRunIds : List String) :
    Bool :=
  (Registry.values feed.entities.trains).any fun train =>
    feed.takesEffect change trainRunIds train
      && decide (projectOperationMarker train change.operationMarker ≠ train)
      && trainRunIds.all fun trainRunId =>
        !concerns trainRunId train || feed.knowsLater change trainRunId

variable {feed : LivemapFeed} {change : OperationMarkerChange} {trainRunIds : List String}

/-- Trains that are valid and bound pass the checks once more with other markers. -/
lemma checkEmission_of_sound
    (hsound : ∀ train ∈ Registry.values feed.entities.trains, MarkedFeed.Sound feed train)
    (hkeyed : Registry.Indexed PublicTrain.id feed.entities.trains) {trains : List PublicTrain}
    (htrains : ∀ train ∈ trains, ∃ shown ∈ Registry.values feed.entities.trains, ∃ marker,
      train = { shown with operationMarker := marker }) (time : Int) :
    feed.checkEmission { atS := time, changed := trains }
      = .ok { atS := time, changed := trains } := by
  have hvalid : ∀ train ∈ trains, MarkedFeed.Sound feed train := by
    intro train htrain
    obtain ⟨shown, hshown, marker, rfl⟩ := htrains train htrain
    obtain ⟨hvalid, hbound⟩ := hsound shown hshown
    exact ⟨hvalid, hbound⟩
  have hnext : ∀ train ∈ Registry.values (feed.nextTrains { atS := time, changed := trains }),
      MarkedFeed.Sound feed train := by
    intro train htrain
    rcases Registry.mem_values_patch hkeyed htrain with hin | ⟨hin, -⟩
    · exact hvalid train hin
    · exact hsound train hin
  have hcommit : ∀ train, MarkedFeed.Sound feed train →
      isFromCommit feed.entities.operationalRegions train = true := by
    intro train htrain
    have hbound := htrain.bound
    unfold isBound at hbound
    unfold isFromCommit
    rw [Option.all_eq_true] at hbound ⊢
    intro state hstate
    obtain ⟨frame, hframe, hboth⟩ := (Option.any_eq_true _ _).mp (hbound state hstate)
    rw [Bool.and_eq_true] at hboth
    exact (Option.any_eq_true _ _).mpr ⟨frame, hframe, hboth.1⟩
  simp only [checkEmission, bind_eq_ok_iff]
  refine ⟨(), forM_eq_ok_iff.mpr fun train htrain => (hvalid train htrain).valid, [], rfl, (), rfl,
    (), forM_eq_ok_iff.mpr fun train htrain => ?_, (), forM_eq_ok_iff.mpr fun train htrain => ?_,
    [], rfl, (), rfl, (), rfl, rfl⟩
  · exact require_eq_ok.mpr (hcommit train (hvalid train htrain))
  · exact require_eq_ok.mpr (hnext train htrain).bound

end LivemapFeed

namespace MarkedFeed

variable {marked : MarkedFeed} {change : OperationMarkerChange} {trainRunIds : List String}

/-- What is recorded in a call is what the feed was told. -/
lemma Tracks.recorded_recordAll (h : marked.Tracks) (hnodup : trainRunIds.Nodup)
    (hawaits : marked.feed.Awaits change trainRunIds) (hplain : change.IsPlain) :
    Recorded ⟨(LivemapFeed.recordAll change trainRunIds marked.feed .empty).1,
      marked.received ++ trainRunIds.map fun trainRunId => (trainRunId, change)⟩ := by
  have hrecords := LivemapFeed.records_recordAll hnodup hawaits .empty
  refine ⟨?_, fun trainRunId => ?_, fun trainRunId other => ?_, fun told htold => ?_,
    fun train htrain => ?_⟩
  · change Registry.Indexed PublicTrain.id
      (LivemapFeed.recordAll change trainRunIds marked.feed .empty).1.entities.trains
    rw [hrecords.entities]
    exact h.keyed
  · change Timeline.Ascending _
      ((LivemapFeed.recordAll change trainRunIds marked.feed .empty).1.timelineOf trainRunId)
    rw [hrecords.timelines]
    split
    next hin =>
      exact (h.ascending trainRunId).record
        (hawaits.fresh trainRunId (List.contains_iff_mem.mp hin))
    next => exact h.ascending trainRunId
  · change other ∈ (LivemapFeed.recordAll change trainRunIds marked.feed .empty).1.timelineOf
      trainRunId ↔ _
    have hmem : (trainRunId, other) ∈ trainRunIds.map (fun trainRunId => (trainRunId, change))
        ↔ trainRunId ∈ trainRunIds ∧ other = change := by
      rw [List.mem_map]
      constructor
      · rintro ⟨_, hin, heq⟩
        cases heq
        exact ⟨hin, rfl⟩
      · rintro ⟨hin, rfl⟩
        exact ⟨trainRunId, hin, rfl⟩
    rw [hrecords.timelines, List.mem_append, hmem, ← h.recorded]
    split
    next hin =>
      rw [and_iff_right (List.contains_iff_mem.mp hin), or_comm]
      exact Timeline.mem_record
    next hout =>
      rw [List.contains_iff_mem] at hout
      exact (or_iff_left fun hboth => hout hboth.1).symm
  · rcases List.mem_append.mp htold with hold | hnew
    · exact h.plain told hold
    · obtain ⟨_, -, rfl⟩ := List.mem_map.mp hnew
      exact hplain
  · have hshown : train ∈ Registry.values marked.feed.entities.trains := by
      rw [← hrecords.entities]
      exact htrain
    obtain ⟨hvalid, hbound⟩ := h.sound train hshown
    refine ⟨hvalid, ?_⟩
    change LivemapFeed.isBound
      (LivemapFeed.recordAll change trainRunIds marked.feed .empty).1.entities.operationalRegions
        train = true
    rw [hrecords.entities]
    exact hbound

/-- A train that is not reached in a call looks as before, unless it is overlooked. -/
lemma Tracks.markTrain_of_unreached (h : marked.Tracks) {feed' : LivemapFeed}
    (hrecords : marked.feed.Records feed' change trainRunIds)
    (hawaits : marked.feed.Awaits change trainRunIds)
    (hrespects : marked.feed.overlooks change trainRunIds = false) {train : PublicTrain}
    (htrain : train ∈ Registry.values marked.feed.entities.trains)
    (hunreached : marked.feed.isReached change trainRunIds train = false) :
    feed'.markTrain marked.feed.atS train = train := by
  rcases hrecords.operationMarkerForTrain_cases hawaits train with hsame | ⟨hnew, htakes⟩
  · rw [LivemapFeed.markTrain_congr hsame]
    exact h.shown train htrain
  · by_contra hne
    have hproject : feed'.markTrain marked.feed.atS train
        = projectOperationMarker train change.operationMarker := by
      unfold LivemapFeed.markTrain
      rw [hnew]
      rfl
    rw [hproject] at hne
    unfold LivemapFeed.overlooks at hrespects
    rw [List.any_eq_false] at hrespects
    refine hrespects train htrain ?_
    rw [htakes, decide_eq_true hne, Bool.and_true, Bool.true_and, List.all_eq_true]
    intro trainRunId hin
    unfold LivemapFeed.takesEffect at htakes
    rw [Bool.and_eq_true, Bool.and_eq_true] at htakes
    unfold LivemapFeed.isReached at hunreached
    rw [List.any_eq_false] at hunreached
    have hnot := hunreached trainRunId hin
    rw [htakes.1.1, Bool.and_true, Bool.and_eq_true, not_and_or, Bool.not_eq_true,
      Bool.not_eq_true'] at hnot
    rcases hnot with hother | hlater
    · rw [hother]
      rfl
    · rw [Bool.not_eq_false] at hlater
      rw [hlater, Bool.or_true]

lemma Recorded.awaits (h : marked.Recorded) {trainRunIds : List String}
    (hdistinct : (times ⟨marked.feed,
      marked.received ++ trainRunIds.map fun trainRunId => (trainRunId, change)⟩).Nodup) :
    trainRunIds.Nodup ∧ marked.feed.Awaits change trainRunIds := by
  unfold times at hdistinct
  rw [List.map_append, List.map_map] at hdistinct
  obtain ⟨-, hnew, hdisjoint⟩ := List.nodup_append.mp hdistinct
  refine ⟨List.Nodup.of_map _ hnew, h.ascending, fun trainRunId hin other hother heq => ?_⟩
  refine hdisjoint (trainRunId, other.effectiveAt) ?_ (trainRunId, change.effectiveAt) ?_
    (by rw [heq])
  · exact List.mem_map.mpr ⟨(trainRunId, other), (h.recorded trainRunId other).mp hother, rfl⟩
  · exact List.mem_map.mpr ⟨trainRunId, hin, rfl⟩

/-- Once the trains that look different are sent, every train is shown as its markers say. -/
lemma Recorded.tracks_emit (h : marked.Recorded) {changed : Registry String PublicTrain}
    (hstays : ∀ train ∈ Registry.values marked.feed.entities.trains, changed[train.id]? = none →
      marked.feed.markTrain marked.feed.atS train = train)
    (hchanged : ∀ id train', changed[id]? = some train' → train'.id = id ∧
      ∃ train ∈ Registry.values marked.feed.entities.trains,
        train' = marked.feed.markTrain marked.feed.atS train) (nowMs : Int) :
    Tracks ⟨if changed.isEmpty then marked.feed
      else (marked.feed.emit nowMs
        { atS := marked.feed.atS, changed := Registry.values changed }).1, marked.received⟩ := by
  cases hempty : changed.isEmpty with
  | true =>
    refine ⟨h, fun train htrain => hstays train htrain ?_⟩
    rw [Std.ExtTreeMap.isEmpty_iff.mp hempty]
    exact Std.ExtTreeMap.getElem?_empty
  | false =>
    have hvalues : ∀ train' ∈ Registry.values changed,
        ∃ train ∈ Registry.values marked.feed.entities.trains,
          train' = marked.feed.markTrain marked.feed.atS train := by
      intro train' htrain'
      obtain ⟨id, hid⟩ := Registry.mem_values.mp htrain'
      exact (hchanged id train' hid).2
    have hchecked := LivemapFeed.checkEmission_of_sound h.sound h.keyed (fun train' htrain' => by
      obtain ⟨train, htrain, rfl⟩ := hvalues train' htrain'
      obtain ⟨marker, hmarker⟩ := marked.feed.exists_markTrain_eq marked.feed.atS train
      exact ⟨train, htrain, marker, hmarker⟩) marked.feed.atS
    have hwrite : (marked.feed.emit nowMs
        { atS := marked.feed.atS, changed := Registry.values changed }).1
        = marked.feed.write nowMs
          { atS := marked.feed.atS, changed := Registry.values changed } := by
      rw [LivemapFeed.emit, hchecked]
      rfl
    rw [if_neg (by decide), hwrite]
    refine h.write hchecked (fun train' htrain' => ?_) fun train htrain hset _ => ?_
    · obtain ⟨train, -, rfl⟩ := hvalues train' htrain'
      exact marked.feed.markTrain_markTrain marked.feed.atS train
    · refine hstays train htrain ?_
      cases hfound : changed[train.id]? with
      | none => rfl
      | some train' =>
        refine absurd (List.mem_map.mpr ⟨train', ?_, (hchanged _ _ hfound).1⟩) hset
        exact Registry.mem_values.mpr ⟨train.id, hfound⟩

/-- A call that overlooks no train shows all trains as their markers say. -/
lemma Tracks.setOperationMarker (h : marked.Tracks) {nowMs : Int} {trainRunIds : List String}
    {operationMarker : Option PublicOperationMarker} {time : Int}
    (hdistinct :
      (marked.step (.setOperationMarker nowMs trainRunIds operationMarker time)).times.Nodup)
    (hrespects : marked.feed.overlooks (markerChange operationMarker time)
      (namedRuns trainRunIds operationMarker time) = false) :
    (marked.step (.setOperationMarker nowMs trainRunIds operationMarker time)).Tracks := by
  cases hcheck : checkMarkerChange
      "Zuglaufkennungen für Markeraktualisierungen dürfen nicht leer sein."
      trainRunIds operationMarker time with
  | error error =>
    have hnamed : namedRuns trainRunIds operationMarker time = [] := by
      rw [namedRuns, hcheck]
      rfl
    have hsame : (marked.feed.setOperationMarker nowMs trainRunIds operationMarker time).1
        = marked.feed := by
      rw [LivemapFeed.setOperationMarker, hcheck]
      rfl
    rw [step, hnamed, hsame, List.map_nil, List.append_nil]
    exact h
  | ok identifiers =>
    have hnamed : namedRuns trainRunIds operationMarker time = identifiers := by
      rw [namedRuns, hcheck]
      rfl
    rw [hnamed] at hrespects
    rw [step, hnamed] at hdistinct ⊢
    obtain ⟨hnodup, hawaits⟩ := h.awaits hdistinct
    have hrecords := LivemapFeed.records_recordAll hnodup hawaits .empty
    have hcollects := LivemapFeed.collects_recordAll hnodup h.keyed hawaits
      (LivemapFeed.collects_empty marked.feed) fun _ hreached => absurd hreached Bool.false_ne_true
    have hrecorded := h.recorded_recordAll hnodup hawaits
      (isPlain_markerChange operationMarker time)
    generalize hresult : LivemapFeed.recordAll (markerChange operationMarker time) identifiers
      marked.feed .empty = result at hrecorded hrecords hcollects
    have hfeed : (marked.feed.setOperationMarker nowMs trainRunIds operationMarker time).1
        = if result.2.isEmpty then result.1
          else (result.1.emit nowMs
            { atS := result.1.atS, changed := Registry.values result.2 }).1 := by
      rw [LivemapFeed.setOperationMarker, hcheck, hrecords.atS, ← hresult, orRefuse]
      exact apply_ite Prod.fst _ _ _
    rw [hfeed]
    refine hrecorded.tracks_emit (fun train htrain habsent => ?_) (fun id train' hin => ?_) nowMs
    · rw [hrecords.entities] at htrain
      rw [hrecords.atS]
      cases hreached : marked.feed.isReached (markerChange operationMarker time) identifiers
          train with
      | false => exact h.markTrain_of_unreached hrecords hawaits hrespects htrain hreached
      | true =>
        by_contra hne
        have hin := (hcollects train.id _).mpr ⟨train, hrecords.entities ▸ htrain, rfl,
          hreached, congrArg (LivemapFeed.markTrain _ · train) hrecords.atS.symm, hne⟩
        rw [habsent] at hin
        cases hin
    · obtain ⟨train, htrain, hid, -, rfl, -⟩ := (hcollects id train').mp hin
      exact ⟨(result.1.id_markTrain result.1.atS train).trans hid, train, htrain, rfl⟩

/-- Whether a publication leaves no train whose marker changes by its time, and a change of markers
overlooks no train. -/
def respects (marked : MarkedFeed) : MarkerCall → Bool
  | .publish _ input => !marked.feed.passes input || marked.feed.leavesMarked input
  | .setOperationMarker _ trainRunIds operationMarker time =>
    !marked.feed.overlooks (markerChange operationMarker time)
      (namedRuns trainRunIds operationMarker time)
  | .subscribe _ _ => true
  | .unsubscribe _ => true

lemma tracks_new (worldId streamId : String) (historyLimit : ℕ) :
    Tracks ⟨LivemapFeed.new worldId historyLimit streamId, []⟩ := by
  have hnone : ∀ train, train ∉ Registry.values
      (LivemapFeed.new worldId historyLimit streamId).entities.trains := by
    intro train htrain
    obtain ⟨id, hid⟩ := Registry.mem_values.mp htrain
    simp [LivemapFeed.new, LiveEntities.empty] at hid
  have hempty : ∀ trainRunId,
      (LivemapFeed.new worldId historyLimit streamId).timelineOf trainRunId = [] := by
    intro trainRunId
    simp [LivemapFeed.timelineOf, LivemapFeed.new]
  refine ⟨⟨Registry.indexed_empty _, fun trainRunId => ?_, fun trainRunId change => ?_,
    fun _ htold => (nomatch htold), fun train htrain => absurd htrain (hnone train)⟩,
    fun train htrain => absurd htrain (hnone train)⟩
  · rw [hempty]
    exact Timeline.Ascending.nil
  · rw [hempty]
    exact iff_of_false List.not_mem_nil List.not_mem_nil

/-- What the feed was told of is never forgotten. -/
lemma times_step (marked : MarkedFeed) (call : MarkerCall) :
    marked.times <+: (marked.step call).times := by
  cases call with
  | setOperationMarker nowMs trainRunIds operationMarker time =>
    unfold times step
    rw [List.map_append]
    exact List.prefix_append _ _
  | publish nowMs input | subscribe number throwsOn | unsubscribe number => exact List.prefix_rfl

lemma times_foldl (marked : MarkedFeed) (calls : List MarkerCall) :
    marked.times <+: (calls.foldl step marked).times := by
  induction calls generalizing marked with
  | nil => exact List.prefix_rfl
  | cons call calls ih => exact (marked.times_step call).trans (ih (marked.step call))

lemma Tracks.step (h : marked.Tracks) {call : MarkerCall}
    (hdistinct : (marked.step call).times.Nodup) (hrespects : marked.respects call = true) :
    (marked.step call).Tracks := by
  cases call with
  | publish nowMs input =>
    refine h.publish fun hpasses => ?_
    rw [respects, hpasses] at hrespects
    exact hrespects
  | setOperationMarker nowMs trainRunIds operationMarker time =>
    refine h.setOperationMarker hdistinct ?_
    rw [respects, Bool.not_eq_true'] at hrespects
    exact hrespects
  | subscribe number throwsOn | unsubscribe number =>
    exact ⟨⟨h.keyed, h.ascending, h.recorded, h.plain,
      fun train htrain => ⟨(h.sound train htrain).valid, (h.sound train htrain).bound⟩⟩,
      h.shown⟩

lemma Tracks.foldl {calls : List MarkerCall} {marked : MarkedFeed} (h : marked.Tracks)
    (hdistinct : (calls.foldl MarkedFeed.step marked).times.Nodup)
    (hrespects : AllSteps MarkedFeed.step respects marked calls = true) :
    (calls.foldl MarkedFeed.step marked).Tracks := by
  induction calls generalizing marked with
  | nil => exact h
  | cons call calls ih =>
    rw [AllSteps, Bool.and_eq_true] at hrespects
    refine ih (h.step ?_ hrespects.1) hdistinct hrespects.2
    exact hdistinct.sublist (times_foldl (marked.step call) calls).sublist

end MarkedFeed

/-- **Late and early changes.**  A new feed is told of changes of markers in any order, no two of
one run and one time, and publishes in between.  As long as no change overlooks a train and no
publication leaves a train whose marker changes by its time, every train looks as the latest of its
changes says. -/
theorem latest_markers_shown {worldId streamId : String} {historyLimit : ℕ} {feed : LivemapFeed}
    {calls : List MarkerCall}
    (hcreate : LivemapFeed.create worldId historyLimit streamId = .ok feed)
    (hdistinct : (calls.foldl MarkedFeed.step ⟨feed, []⟩).times.Nodup)
    (hrespects : AllSteps MarkedFeed.step MarkedFeed.respects ⟨feed, []⟩ calls = true) :
    (calls.foldl MarkedFeed.step ⟨feed, []⟩).ShowsLatest := by
  have hnew : feed = LivemapFeed.new worldId historyLimit streamId := by
    simp only [LivemapFeed.create, bind_eq_ok_iff] at hcreate
    obtain ⟨-, -, -, -, -, -, hpure⟩ := hcreate
    cases hpure
    rfl
  subst hnew
  exact ((MarkedFeed.tracks_new worldId streamId historyLimit).foldl hdistinct
    hrespects).showsLatest

/-- A train of a small example. -/
def nightTrain : PublicTrain where
  id := "EN1"
  operator := "Bahn"
  trainNumber := "1"
  category := "EN"
  positionMm := 0
  speedMmPerSecond := 0
  status := "running"

/-- A feed after some calls. -/
def told (calls : List MarkerCall) : MarkedFeed :=
  calls.foldl MarkedFeed.step ⟨.new "w1" 256 "s1", []⟩

/-- The train is marked from the 40th second on, and its mark is to end in the 100th. -/
theorem latest_markers_shown_in_order :
    (told [.publish 0 { atS := 50, changed := [nightTrain] },
      .setOperationMarker 0 ["EN1"] (some PUBLIC_OPERATION_MARKER) 40,
      .setOperationMarker 0 ["EN1"] none 100,
      .publish 0 { atS := 110, changed := [nightTrain] }]).ShowsLatest :=
  @latest_markers_shown "w1" "s1" 256 _ _ rfl (by decide +kernel) (by decide +kernel)

/-- If the feed hears of the end first, it shows the train without its mark in the 50th second.  And
a mark that was announced for the 60th second is missing in the 70th if the train is not published
again. -/
theorem late_marker_overlooked :
    LivemapFeed.create "w1" 256 "s1" = .ok (.new "w1" 256 "s1") ∧
    ((told [.publish 0 { atS := 50, changed := [nightTrain] },
        .setOperationMarker 0 ["EN1"] none 100,
        .setOperationMarker 0 ["EN1"] (some PUBLIC_OPERATION_MARKER) 40]).times.Nodup ∧
      ¬ (told [.publish 0 { atS := 50, changed := [nightTrain] },
        .setOperationMarker 0 ["EN1"] none 100,
        .setOperationMarker 0 ["EN1"] (some PUBLIC_OPERATION_MARKER) 40]).ShowsLatest) ∧
    ((told [.publish 0 { atS := 50, changed := [nightTrain] },
        .setOperationMarker 0 ["EN1"] (some PUBLIC_OPERATION_MARKER) 60,
        .publish 0 { atS := 70 }]).times.Nodup ∧
      ¬ (told [.publish 0 { atS := 50, changed := [nightTrain] },
        .setOperationMarker 0 ["EN1"] (some PUBLIC_OPERATION_MARKER) 60,
        .publish 0 { atS := 70 }]).ShowsLatest) := by
  refine ⟨rfl, ⟨by decide +kernel, fun hshows => ?_⟩, by decide +kernel, fun hshows => ?_⟩
  · have hreceived : (told [.publish 0 { atS := 50, changed := [nightTrain] },
        .setOperationMarker 0 ["EN1"] none 100,
        .setOperationMarker 0 ["EN1"] (some PUBLIC_OPERATION_MARKER) 40]).received
        = [("EN1", ⟨none, 100⟩), ("EN1", ⟨some PUBLIC_OPERATION_MARKER, 40⟩)] := by
      decide +kernel
    have htime : (told [.publish 0 { atS := 50, changed := [nightTrain] },
        .setOperationMarker 0 ["EN1"] none 100,
        .setOperationMarker 0 ["EN1"] (some PUBLIC_OPERATION_MARKER) 40]).feed.atS = 50 := by
      decide +kernel
    have hlatest := (hshows nightTrain (by decide +kernel)).1 "EN1"
      ⟨some PUBLIC_OPERATION_MARKER, 40⟩
      { told := by decide +kernel
        concerns := by decide +kernel
        effective := by decide +kernel
        last := by
          intro other otherChange hother
          have hin := hother.told
          have hle := hother.effective
          rw [hreceived] at hin
          rw [htime] at hle
          rcases List.mem_cons.mp hin with heq | hin
          · cases heq
            exact absurd hle (by decide)
          · cases List.mem_singleton.mp hin
            exact .inr ⟨rfl, id⟩ }
    exact absurd hlatest (by decide +kernel)
  · have hreceived : (told [.publish 0 { atS := 50, changed := [nightTrain] },
        .setOperationMarker 0 ["EN1"] (some PUBLIC_OPERATION_MARKER) 60,
        .publish 0 { atS := 70 }]).received
        = [("EN1", ⟨some PUBLIC_OPERATION_MARKER, 60⟩)] := by
      decide +kernel
    have hlatest := (hshows nightTrain (by decide +kernel)).1 "EN1"
      ⟨some PUBLIC_OPERATION_MARKER, 60⟩
      { told := by decide +kernel
        concerns := by decide +kernel
        effective := by decide +kernel
        last := by
          intro other otherChange hother
          have hin := hother.told
          rw [hreceived] at hin
          cases List.mem_singleton.mp hin
          exact .inr ⟨rfl, id⟩ }
    exact absurd hlatest (by decide +kernel)

end Zugfolge.Livemap
