/-
What a publication does to the entities of a feed.

Checks and markers change how entities look, but neither their identifiers nor which of them are
removed.
-/
import Zugfolge.Foundation.Collect
import Zugfolge.Livemap.Feed

namespace Zugfolge.Livemap

open Foundation

/-- The five kinds of entities. -/
inductive EntityKind where
  | train
  | externalTrain
  | objectState
  | disruption
  | operationalRegion

namespace DeltaInput

/-- The identifiers of the entities that a delta sets. -/
def changedIds (input : DeltaInput) : EntityKind → List String
  | .train => input.changed.map PublicTrain.id
  | .externalTrain => input.changedExternalTrains.map PublicExternalTrain.id
  | .objectState => input.changedObjectStates.map PublicObjectState.id
  | .disruption => input.changedDisruptions.map LiveEntities.disruptionKey
  | .operationalRegion =>
    input.changedOperationalRegions.map PublicOperationalRegionFrame.regionId

/-- The identifiers of the entities that a delta deletes. -/
def removedIds (input : DeltaInput) : EntityKind → List String
  | .train => input.removed
  | .externalTrain => input.removedExternalTrainIds
  | .objectState => input.removedObjectStateIds
  | .disruption => input.removedDisruptionIds
  | .operationalRegion => input.removedOperationalRegionIds

end DeltaInput

namespace LiveEntities

/-- Whether an entity is shown. -/
def shows (entities : LiveEntities) : EntityKind → String → Bool
  | .train, id => entities.trains.contains id
  | .externalTrain, id => entities.externalTrains.contains id
  | .objectState, id => entities.objectStates.contains id
  | .disruption, id => entities.disruptions.contains id
  | .operationalRegion, id => entities.operationalRegions.contains id

/-- After a delta, whatever it has set is shown and what was shown before, unless the delta has
deleted it. -/
lemma shows_apply (entities : LiveEntities) (input : DeltaInput) (kind : EntityKind)
    (id : String) :
    (entities.apply input).shows kind id = true ↔
      id ∉ input.removedIds kind ∧
        (id ∈ input.changedIds kind ∨ entities.shows kind id = true) := by
  cases kind with
  | train | externalTrain | objectState | disruption | operationalRegion =>
    exact Registry.contains_patch _ _ _ _ _

end LiveEntities

/-- The two deltas speak of the same entities. -/
structure SameIds (input output : DeltaInput) : Prop where
  changed : ∀ kind, output.changedIds kind = input.changedIds kind
  removed : ∀ kind, output.removedIds kind = input.removedIds kind

lemma SameIds.trans {a b c : DeltaInput} (hab : SameIds a b) (hbc : SameIds b c) : SameIds a c :=
  ⟨fun kind => (hbc.changed kind).trans (hab.changed kind),
    fun kind => (hbc.removed kind).trans (hab.removed kind)⟩

lemma require_eq_ok {condition : Bool} {error : LivemapError} {u : Unit} :
    require condition error = .ok u ↔ condition = true := by
  unfold require
  cases condition with
  | true => simp
  | false => simp

lemma regionId_of_frame {frame frame' : PublicOperationalRegionFrame}
    (h : publicOperationalRegionFrame frame = .ok frame') : frame'.regionId = frame.regionId := by
  simp only [publicOperationalRegionFrame, bind_eq_ok_iff] at h
  obtain ⟨-, -, -, -, -, -, _, -, -, -, hpure⟩ := h
  cases hpure
  rfl

lemma id_of_objectState {state state' : PublicObjectState}
    (h : publicObjectState state = .ok state') : state'.id = state.id := by
  simp only [publicObjectState, bind_eq_ok_iff] at h
  obtain ⟨-, -, hpure⟩ := h
  cases hpure
  rfl

namespace LivemapFeed

lemma id_markTrain (feed : LivemapFeed) (time : Int) (train : PublicTrain) :
    (feed.markTrain time train).id = train.id := by
  unfold markTrain
  cases feed.operationMarkerForTrain train time with
  | none => rfl
  | some change =>
    change (projectOperationMarker train change.operationMarker).id = train.id
    unfold projectOperationMarker
    split
    · rfl
    · rfl

/-- Marking the trains of a publication leaves them their identifiers. -/
lemma sameIds_of_checkPublication {feed : LivemapFeed} {input marked : DeltaInput}
    (h : feed.checkPublication input = .ok marked) : SameIds input marked := by
  simp only [checkPublication, bind_eq_ok_iff] at h
  obtain ⟨-, -, -, -, hpure⟩ := h
  cases hpure
  refine ⟨fun kind => ?_, fun kind => ?_⟩
  · cases kind with
    | train =>
      change (input.changed.map (feed.markTrain input.atS)).map PublicTrain.id
        = input.changed.map PublicTrain.id
      rw [List.map_map]
      exact List.map_congr_left fun train _ => feed.id_markTrain input.atS train
    | externalTrain | objectState | disruption | operationalRegion => rfl
  · cases kind with
    | train | externalTrain | objectState | disruption | operationalRegion => rfl

/-- What has passed the checks speaks of the same entities, and no object state of it is both
changed and removed. -/
lemma sameIds_of_checkEmission {feed : LivemapFeed} {input checked : DeltaInput}
    (h : feed.checkEmission input = .ok checked) :
    SameIds input checked ∧
      ∀ id ∈ input.removedObjectStateIds, id ∉ input.changedIds .objectState := by
  simp only [checkEmission, bind_eq_ok_iff] at h
  obtain ⟨-, -, frames, hframes, -, -, -, -, -, -, states, hstates, -, -, _, hdisjoint, hpure⟩ :=
    h
  have hframeIds : frames.map PublicOperationalRegionFrame.regionId
      = input.changedOperationalRegions.map PublicOperationalRegionFrame.regionId :=
    map_of_mapM_ok (fun _ _ _ => regionId_of_frame) hframes
  have hstateIds : states.map PublicObjectState.id
      = input.changedObjectStates.map PublicObjectState.id :=
    map_of_mapM_ok (fun _ _ _ => id_of_objectState) hstates
  cases hpure
  refine ⟨⟨fun kind => ?_, fun kind => ?_⟩, fun id hid => ?_⟩
  · cases kind with
    | train => rfl
    | externalTrain =>
      change (input.changedExternalTrains.map publicExternalTrain).map PublicExternalTrain.id = _
      rw [List.map_map]
      rfl
    | objectState => exact hstateIds
    | disruption => rfl
    | operationalRegion => exact hframeIds
  · cases kind with
    | train | externalTrain | objectState | disruption | operationalRegion => rfl
  · have hall := (Bool.and_eq_true_iff.mp (require_eq_ok.mp hdisjoint)).2
    have hnot := List.all_eq_true.mp hall id hid
    rw [hstateIds, Bool.not_eq_true', List.contains_eq_mem, decide_eq_false_iff_not] at hnot
    exact hnot

end LivemapFeed

/-- A publication was written to a feed and sent to its listeners. -/
structure Published (feed : LivemapFeed) (nowMs : Int) (input : DeltaInput) (feed' : LivemapFeed)
    (delta : LiveDelta) : Prop where
  written : feed' = feed.write nowMs delta.toDeltaInput
  sent : delta = feed.deltaAt delta.toDeltaInput (feed.log.sequence + 1)
  ids : SameIds input delta.toDeltaInput
  disjoint : ∀ id ∈ input.removedObjectStateIds, id ∉ input.changedIds .objectState

/-- Every publication that ends well was written and sent. -/
lemma published_of_ok {feed : LivemapFeed} {nowMs : Int} {input : DeltaInput} {delta : LiveDelta}
    (h : (feed.publish nowMs input).2 = .ok delta) :
    Published feed nowMs input (feed.publish nowMs input).1 delta := by
  unfold LivemapFeed.publish at *
  cases hmarked : feed.checkPublication input with
  | error error =>
    rw [hmarked] at h
    cases h
  | ok marked =>
    rw [hmarked] at h
    change (feed.emit nowMs marked).2 = .ok delta at h
    change Published feed nowMs input (feed.emit nowMs marked).1 delta
    have hsame := LivemapFeed.sameIds_of_checkPublication hmarked
    unfold LivemapFeed.emit at *
    cases hchecked : feed.checkEmission marked with
    | error error =>
      rw [hchecked] at h
      cases h
    | ok checked =>
      rw [hchecked] at h
      change feed.answer checked = .ok delta at h
      obtain ⟨hids, hdisjoint⟩ := LivemapFeed.sameIds_of_checkEmission hchecked
      unfold LivemapFeed.answer at h
      split at h
      · cases h
        refine ⟨rfl, rfl, hsame.trans hids, fun id hid => ?_⟩
        rw [← hsame.changed]
        refine hdisjoint id ?_
        have hremoved := hsame.removed .objectState
        change marked.removedObjectStateIds = input.removedObjectStateIds at hremoved
        rw [hremoved]
        exact hid
      · cases h

end Zugfolge.Livemap
