/-
What a client makes of a stream.

A client files the entities of a snapshot under their identifiers and applies one delta after
another to them.
-/
import Zugfolge.Livemap.Feed

namespace Zugfolge.Livemap

open Foundation

/-! ### Replicas -/

/-- What a client holds of a feed. -/
structure Replica where
  worldId : String
  streamId : String
  sequence : ℕ
  atS : Int
  entities : LiveEntities

namespace Replica

/-- What a client makes of a snapshot: it files the entities under their identifiers. -/
def ofSnapshot (snapshot : LiveSnapshot) : Replica where
  worldId := snapshot.worldId
  streamId := snapshot.streamId
  sequence := snapshot.sequence
  atS := snapshot.atS
  entities :=
    { trains := Registry.index PublicTrain.id snapshot.trains
      externalTrains := Registry.index PublicExternalTrain.id snapshot.externalTrains
      disruptions := Registry.index LiveEntities.disruptionKey snapshot.disruptions
      objectStates := Registry.index PublicObjectState.id snapshot.objectStates
      operationalRegions :=
        Registry.index PublicOperationalRegionFrame.regionId snapshot.operationalRegions }

/-- Sets what a delta has changed and deletes what it has removed. -/
def apply (replica : Replica) (delta : LiveDelta) : Replica :=
  { replica with
    sequence := delta.sequence
    atS := delta.atS
    entities := replica.entities.apply delta.toDeltaInput }

/-- What a client shows. -/
def snapshot (replica : Replica) : LiveSnapshot where
  worldId := replica.worldId
  streamId := replica.streamId
  sequence := replica.sequence
  atS := replica.atS
  trains := Registry.values replica.entities.trains
  externalTrains := Registry.values replica.entities.externalTrains
  disruptions := Registry.values replica.entities.disruptions
  objectStates := Registry.values replica.entities.objectStates
  operationalRegions := Registry.values replica.entities.operationalRegions

/-- How far a client has followed its stream. -/
def cursor (replica : Replica) : LivemapCursor := ⟨replica.streamId, replica.sequence⟩

/-- A client that has followed a feed to its end. -/
def ofFeed (feed : LivemapFeed) : Replica :=
  ⟨feed.worldId, feed.streamId, feed.log.sequence, feed.atS, feed.entities⟩

lemma ofFeed_write (feed : LivemapFeed) (nowMs : Int) (checked : DeltaInput) :
    ofFeed (feed.write nowMs checked)
      = (ofFeed feed).apply (feed.deltaAt checked (feed.log.sequence + 1)) := rfl

end Replica

/-! ### Entities under their own identifiers -/

/-- Every entity stands under its own identifier. -/
structure LiveEntities.Keyed (entities : LiveEntities) : Prop where
  trains : Registry.Indexed PublicTrain.id entities.trains
  externalTrains : Registry.Indexed PublicExternalTrain.id entities.externalTrains
  disruptions : Registry.Indexed LiveEntities.disruptionKey entities.disruptions
  objectStates : Registry.Indexed PublicObjectState.id entities.objectStates
  operationalRegions :
    Registry.Indexed PublicOperationalRegionFrame.regionId entities.operationalRegions

namespace LiveEntities

lemma keyed_empty : empty.Keyed where
  trains := Registry.indexed_empty _
  externalTrains := Registry.indexed_empty _
  disruptions := Registry.indexed_empty _
  objectStates := Registry.indexed_empty _
  operationalRegions := Registry.indexed_empty _

lemma Keyed.apply {entities : LiveEntities} (h : entities.Keyed) (input : DeltaInput) :
    (entities.apply input).Keyed where
  trains := h.trains.patch _ _
  externalTrains := h.externalTrains.patch _ _
  disruptions := h.disruptions.patch _ _
  objectStates := h.objectStates.patch _ _
  operationalRegions := h.operationalRegions.patch _ _

end LiveEntities

lemma Replica.ofSnapshot_snapshot {feed : LivemapFeed} (h : feed.entities.Keyed) :
    Replica.ofSnapshot feed.snapshot = Replica.ofFeed feed := by
  unfold Replica.ofSnapshot LivemapFeed.snapshot Replica.ofFeed
  simp only [Registry.index_values h.trains, Registry.index_values h.externalTrains,
    Registry.index_values h.disruptions, Registry.index_values h.objectStates,
    Registry.index_values h.operationalRegions]

/-! ### What a call does to a feed -/

/-- Two feeds that differ at most in what they know about markers. -/
structure SameStream (feed feed' : LivemapFeed) : Prop where
  replica : Replica.ofFeed feed' = Replica.ofFeed feed
  log : feed'.log = feed.log
  listeners : feed'.listeners = feed.listeners

lemma SameStream.refl (feed : LivemapFeed) : SameStream feed feed := ⟨rfl, rfl, rfl⟩

lemma SameStream.trans {f g h : LivemapFeed} (hfg : SameStream f g) (hgh : SameStream g h) :
    SameStream f h :=
  ⟨hgh.replica.trans hfg.replica, hgh.log.trans hfg.log, hgh.listeners.trans hfg.listeners⟩

/-- A call writes one checked delta, or its clients see nothing of it. -/
def Emits (feed feed' : LivemapFeed) : Prop :=
  SameStream feed feed' ∨
    ∃ marked nowMs checked, SameStream feed marked ∧ feed' = marked.write nowMs checked

namespace LivemapFeed

lemma emits_emit (feed : LivemapFeed) (nowMs : Int) (input : DeltaInput) :
    Emits feed (feed.emit nowMs input).1 := by
  unfold emit orRefuse
  split
  · exact .inl (.refl feed)
  · exact .inr ⟨feed, nowMs, _, .refl feed, rfl⟩

lemma emits_publish (feed : LivemapFeed) (nowMs : Int) (input : DeltaInput) :
    Emits feed (feed.publish nowMs input).1 := by
  unfold publish orRefuse
  split
  · exact .inl (.refl feed)
  · exact emits_emit feed nowMs _

lemma sameStream_recordOperationMarker (feed : LivemapFeed) (trainRunId : String)
    (change : OperationMarkerChange) :
    SameStream feed (feed.recordOperationMarker trainRunId change).1 := by
  simp only [recordOperationMarker]
  split
  · exact .refl feed
  · split
    · exact ⟨rfl, rfl, rfl⟩
    · exact ⟨rfl, rfl, rfl⟩

lemma sameStream_recordAll (change : OperationMarkerChange) (trainRunIds : List String)
    (feed : LivemapFeed) (changed : Registry String PublicTrain) :
    SameStream feed (recordAll change trainRunIds feed changed).1 := by
  induction trainRunIds generalizing feed changed with
  | nil => exact .refl feed
  | cons trainRunId rest ih =>
    have hfirst := sameStream_recordOperationMarker feed trainRunId change
    simp only [recordAll]
    split
    · exact hfirst.trans (ih _ _)
    · exact hfirst.trans (ih _ _)

lemma emits_setOperationMarker (feed : LivemapFeed) (nowMs : Int) (trainRunIds : List String)
    (operationMarker : Option PublicOperationMarker) (time : Int) :
    Emits feed (feed.setOperationMarker nowMs trainRunIds operationMarker time).1 := by
  unfold setOperationMarker orRefuse
  split
  · exact .inl (.refl feed)
  next identifiers _ =>
    have hrecorded := sameStream_recordAll
      ⟨operationMarker.map fun _ => PUBLIC_OPERATION_MARKER, time⟩ identifiers feed .empty
    simp only
    split
    · exact .inl hrecorded
    · rcases emits_emit _ nowMs _ with hsame | ⟨marked, nowMs, checked, hsame, hwrite⟩
      · exact .inl (hrecorded.trans hsame)
      · exact .inr ⟨marked, nowMs, checked, hrecorded.trans hsame, hwrite⟩

end LivemapFeed

end Zugfolge.Livemap
