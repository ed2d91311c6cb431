/-
The feed of one world (`LivemapFeed` of `packages/livemap/src/stream.ts`).

A feed keeps what the map shows and the last deltas, and sends every new delta to its listeners.
A delta is checked as a whole before anything is written.
-/
import Zugfolge.Foundation.Deltas
import Zugfolge.Livemap.Types

namespace Zugfolge.Livemap

open Foundation

/-! ### What a feed shows -/

/-- The five maps of a feed. -/
structure LiveEntities where
  trains : Registry String PublicTrain
  externalTrains : Registry String PublicExternalTrain
  disruptions : Registry String PublicInfrastructureDisruption
  objectStates : Registry String PublicObjectState
  operationalRegions : Registry String PublicOperationalRegionFrame

namespace LiveEntities

/-- Nothing is shown. -/
def empty : LiveEntities := ⟨.empty, .empty, .empty, .empty, .empty⟩

def disruptionKey (disruption : PublicInfrastructureDisruption) : String := disruption.disruptionId

/-- Sets what a delta has changed and deletes what it has removed. -/
def apply (entities : LiveEntities) (input : DeltaInput) : LiveEntities where
  trains := Registry.patch PublicTrain.id entities.trains input.changed input.removed
  externalTrains := Registry.patch PublicExternalTrain.id entities.externalTrains
    input.changedExternalTrains input.removedExternalTrainIds
  disruptions := Registry.patch disruptionKey entities.disruptions input.changedDisruptions
    input.removedDisruptionIds
  objectStates := Registry.patch PublicObjectState.id entities.objectStates
    input.changedObjectStates input.removedObjectStateIds
  operationalRegions := Registry.patch PublicOperationalRegionFrame.regionId
    entities.operationalRegions input.changedOperationalRegions input.removedOperationalRegionIds

end LiveEntities

/-- A change of the marker of a run; no marker means that the mark is taken away. -/
structure OperationMarkerChange where
  operationMarker : Option PublicOperationMarker
  effectiveAt : Int
deriving DecidableEq

/-- A listener with all it has received so far, and the deltas it fails on. -/
structure Subscription where
  number : ℕ
  throwsOn : LiveDelta → Bool
  received : List LiveDelta

structure LivemapFeed where
  worldId : String
  streamId : String
  atS : Int
  lastPublishedAtMs : Option Int
  entities : LiveEntities
  operationMarkerTimelines : Registry String (List OperationMarkerChange)
  latestOperationMarkers : Registry String OperationMarkerChange
  listeners : List Subscription
  log : DeltaLog LiveDelta LiveDelta.sequence

namespace LivemapFeed

def new (worldId : String) (historyLimit : ℕ) (streamId : String) : LivemapFeed where
  worldId := worldId
  streamId := streamId
  atS := 0
  lastPublishedAtMs := none
  entities := .empty
  operationMarkerTimelines := .empty
  latestOperationMarkers := .empty
  listeners := []
  log := .empty historyLimit

/-- Whether a text can name a stream. -/
def validStreamId (streamId : String) : Bool :=
  1 ≤ streamId.length && streamId.length ≤ 128
    && streamId.toList.all fun c => c.isAlphanum || c == '_' || c == '-'

/-- A new feed of a world that has a name, with a history of positive length. -/
def create (worldId : String) (historyLimit : ℕ) (streamId : String) :
    Except LivemapError LivemapFeed := do
  require (!worldId.isEmpty) (.rangeError "worldId darf nicht leer sein.")
  require (isSafeInteger historyLimit && 0 < historyLimit)
    (.rangeError "historyLimit muss eine positive Ganzzahl sein.")
  require (validStreamId streamId)
    (.rangeError "streamId muss eine nichtleere opaque Transportkennung sein.")
  return new worldId historyLimit streamId

def subscriberCount (feed : LivemapFeed) : ℕ := feed.listeners.length

/-- What the feed shows. -/
def snapshot (feed : LivemapFeed) : LiveSnapshot where
  worldId := feed.worldId
  streamId := feed.streamId
  sequence := feed.log.sequence
  atS := feed.atS
  trains := Registry.values feed.entities.trains
  externalTrains := Registry.values feed.entities.externalTrains
  disruptions := Registry.values feed.entities.disruptions
  objectStates := Registry.values feed.entities.objectStates
  operationalRegions := Registry.values feed.entities.operationalRegions

/-! ### Emission -/

/-- Whether a frame is the commit that the operational view of a train is from. -/
def isCommitOf (state : PublicOperationalTrainState) (frame : PublicOperationalRegionFrame) :
    Bool :=
  frame.commitSequence == state.commitSequence && frame.simulationTimeMs == state.simulationTimeMs

variable (regions : Registry String PublicOperationalRegionFrame)

/-- Whether the operational view of a train, if it has one, is from the frame of its region. -/
def isFromCommit (train : PublicTrain) :
    Bool :=
  train.operational.all fun state => regions[state.regionId]?.any (isCommitOf state)

/-- Whether a train is also placed on the map of the release of that frame. -/
def isBound (train : PublicTrain) : Bool :=
  train.operational.all fun state => regions[state.regionId]?.any fun frame =>
    isCommitOf state frame && train.mapPosition.all fun position =>
      position.infrastructureReleaseId == frame.infrastructureReleaseId

/-- What leaves the server of an external train. -/
def publicExternalTrain (train : PublicExternalTrain) : PublicExternalTrain where
  id := train.id
  operator := train.operator
  trainNumber := train.trainNumber
  category := train.category
  journeyChainId := train.journeyChainId
  externalLegId := train.externalLegId
  fromPortalId := train.fromPortalId
  toPortalId := train.toPortalId
  scheduledEndS := train.scheduledEndS
  reentryEarliestS := train.reentryEarliestS
  reentryLatestS := train.reentryLatestS
  delaySeconds := train.delaySeconds
  status := train.status
  progressBasisPoints := train.progressBasisPoints

/-- Identifiers that are changed and identifiers that are removed occur once and not in both
lists. -/
def areDisjoint (changed removed : List String) : Bool :=
  allDistinct changed && allDistinct removed && removed.all (fun id => !id.isEmpty)
    && removed.all fun id => !changed.contains id

/-- The trains after a delta. -/
def nextTrains (feed : LivemapFeed) (input : DeltaInput) : Registry String PublicTrain :=
  Registry.patch PublicTrain.id feed.entities.trains input.changed input.removed

/-- The frames after a delta. -/
def nextOperationalRegions (feed : LivemapFeed) (changed : List PublicOperationalRegionFrame)
    (removed : List String) : Registry String PublicOperationalRegionFrame :=
  Registry.patch PublicOperationalRegionFrame.regionId feed.entities.operationalRegions changed
    removed

/-- Refuses a train with a position or an operational view that is not valid. -/
def validateTrain (train : PublicTrain) : Except LivemapError Unit := do
  validateMapProjection train
  validateOperationalState train

/-- Refuses a changed train that is not from the commit of its region. -/
def validateCommit (train : PublicTrain) :
    Except LivemapError Unit :=
  require (isFromCommit regions train)
    (.rangeError ("Geaenderter Zug '" ++ train.id
      ++ "' gehoert nicht zum publizierten Regionscommit."))

/-- Refuses a train that is not bound to the frame of its region. -/
def validateBinding (train : PublicTrain) : Except LivemapError Unit :=
  require (isBound regions train)
    (.rangeError ("Zug '" ++ train.id
      ++ "' ist nicht an denselben committed Regionsframe gebunden."))

/-- Checks a delta against what the feed shows and brings it into the form in which it is written.
The trains are looked through in the order of their identifiers. -/
def checkEmission (feed : LivemapFeed) (input : DeltaInput) : Except LivemapError DeltaInput := do
  input.changed.forM validateTrain
  let changedOperationalRegions ←
    input.changedOperationalRegions.mapM publicOperationalRegionFrame
  require (areDisjoint
      (changedOperationalRegions.map PublicOperationalRegionFrame.regionId)
      input.removedOperationalRegionIds)
    (.rangeError
      "Geaenderte und entfernte operative Regionsframes muessen eindeutig und disjunkt sein.")
  let regions := feed.nextOperationalRegions changedOperationalRegions
    input.removedOperationalRegionIds
  input.changed.forM (validateCommit regions)
  (Registry.values (feed.nextTrains input)).forM (validateBinding regions)
  let changedObjectStates ← input.changedObjectStates.mapM publicObjectState
  require (allDistinct (changedObjectStates.map PublicObjectState.id))
    (.rangeError
      "Ein Livemap-Delta darf keine doppelten Infrastrukturzustandskennungen besitzen.")
  require (areDisjoint (changedObjectStates.map PublicObjectState.id) input.removedObjectStateIds)
    (.rangeError
      "Geaenderte und entfernte Infrastrukturzustaende muessen eindeutig und disjunkt sein.")
  return { input with
    changedExternalTrains := input.changedExternalTrains.map publicExternalTrain
    changedObjectStates := changedObjectStates
    changedOperationalRegions := changedOperationalRegions }

/-- The delta of a place in the stream. -/
def deltaAt (feed : LivemapFeed) (checked : DeltaInput) (sequence : ℕ) : LiveDelta :=
  { checked with worldId := feed.worldId, streamId := feed.streamId, sequence := sequence }

/-- Hands a delta to the listeners, one after another, until one of them fails; says whether all
of them returned. -/
def deliver (delta : LiveDelta) : List Subscription → List Subscription × Bool
  | [] => ([], true)
  | listener :: rest =>
    let heard := { listener with received := listener.received ++ [delta] }
    if listener.throwsOn delta then (heard :: rest, false)
    else (heard :: (deliver delta rest).1, (deliver delta rest).2)

/-- Writes a checked delta.  Nothing of this can fail, and the listeners come last. -/
def write (feed : LivemapFeed) (nowMs : Int) (checked : DeltaInput) : LivemapFeed :=
  { feed with
    entities := feed.entities.apply checked
    atS := checked.atS
    lastPublishedAtMs := some nowMs
    log := feed.log.push (feed.deltaAt checked) fun _ => rfl
    listeners := (deliver (feed.deltaAt checked (feed.log.sequence + 1)) feed.listeners).1 }

/-- What the caller gets of a checked delta. -/
def answer (feed : LivemapFeed) (checked : DeltaInput) : Except LivemapError LiveDelta :=
  if (deliver (feed.deltaAt checked (feed.log.sequence + 1)) feed.listeners).2 then
    .ok (feed.deltaAt checked (feed.log.sequence + 1))
  else .error .listenerError

end LivemapFeed

/-- Goes on with what has passed the checks; a refusal leaves the state as it is. -/
def orRefuse {σ α β : Type} (state : σ) (checks : Except LivemapError α)
    (next : α → σ × Except LivemapError β) : σ × Except LivemapError β :=
  match checks with
  | .error error => (state, .error error)
  | .ok checked => next checked

namespace LivemapFeed

/-- Checks a delta, writes it and sends it to the listeners. -/
def emit (feed : LivemapFeed) (nowMs : Int) (input : DeltaInput) :
    LivemapFeed × Except LivemapError LiveDelta :=
  orRefuse feed (feed.checkEmission input) fun checked =>
    (feed.write nowMs checked, feed.answer checked)

end LivemapFeed

/-! ### Markers -/

variable (timeline : List OperationMarkerChange)

/-- The last change that is effective at a time; the changes stand in the order of their times. -/
def effectiveChange (time : Int) :
    Option OperationMarkerChange :=
  (timeline.takeWhile fun change => change.effectiveAt ≤ time).getLast?

/-- Whether the last change that is effective at a time is from that time and sets the same. -/
def isRecorded (change : OperationMarkerChange) : Bool :=
  (effectiveChange timeline change.effectiveAt).any fun previous =>
    previous.effectiveAt == change.effectiveAt
      && previous.operationMarker.isNone == change.operationMarker.isNone

/-- Puts a change behind all changes that are not later. -/
def recordChange (change : OperationMarkerChange) :
    List OperationMarkerChange :=
  (timeline.takeWhile fun other => other.effectiveAt ≤ change.effectiveAt) ++ change ::
    timeline.dropWhile fun other => other.effectiveAt ≤ change.effectiveAt

/-- Shows a train with or without the marker. -/
def projectOperationMarker (train : PublicTrain) (operationMarker : Option PublicOperationMarker) :
    PublicTrain :=
  if operationMarker.isSome then { train with operationMarker := some PUBLIC_OPERATION_MARKER }
  else { train with operationMarker := none }

namespace LivemapFeed

def operationMarkerAt (feed : LivemapFeed) (trainRunId : String) (time : Int) :
    Option OperationMarkerChange :=
  effectiveChange ((feed.operationMarkerTimelines[trainRunId]?).getD []) time

/-- The later one of two changes; of two at one time the first one. -/
def laterChange (exact base : Option OperationMarkerChange) : Option OperationMarkerChange :=
  if exact.all fun e => base.any fun b => e.effectiveAt < b.effectiveAt then base else exact

/-- The change that is effective for a train: the one of the train or the one of its run. -/
def operationMarkerForTrain (feed : LivemapFeed) (train : PublicTrain) (time : Int) :
    Option OperationMarkerChange :=
  laterChange (feed.operationMarkerAt train.id time)
    ((verifiedBaseTrainRunId train).bind fun base => feed.operationMarkerAt base time)

/-- Records a change of the marker of a run and says whether it is the latest one that is known of
the run. -/
def recordOperationMarker (feed : LivemapFeed) (trainRunId : String)
    (change : OperationMarkerChange) : LivemapFeed × Bool :=
  let timeline := (feed.operationMarkerTimelines[trainRunId]?).getD []
  if isRecorded timeline change then (feed, false)
  else
    let recorded := { feed with
      operationMarkerTimelines :=
        feed.operationMarkerTimelines.insert trainRunId (recordChange timeline change) }
    if feed.latestOperationMarkers[trainRunId]?.any fun latest =>
      change.effectiveAt < latest.effectiveAt then (recorded, false)
    else
      ({ recorded with
        latestOperationMarkers := feed.latestOperationMarkers.insert trainRunId change }, true)

/-- Shows a train as its markers say, if anything is known of them. -/
def markTrain (feed : LivemapFeed) (time : Int) (train : PublicTrain) : PublicTrain :=
  ((feed.operationMarkerForTrain train time).map fun change =>
    projectOperationMarker train change.operationMarker).getD train

/-- Refuses a marker with an unknown schema. -/
def validateMarker (marker : Option PublicOperationMarker) : Except LivemapError Unit :=
  require (marker.all PublicOperationMarker.isKnown)
    (.typeError "Livemap-Betriebsmarker hat ein unbekanntes Schema.")

/-- Checks what is to be published and shows its trains as their markers say. -/
def checkPublication (feed : LivemapFeed) (input : DeltaInput) :
    Except LivemapError DeltaInput := do
  require (isSafeInteger input.atS && 0 ≤ input.atS && feed.atS ≤ input.atS)
    (.rangeError "Livemap-Deltazeit muss eine sichere, nicht fallende Weltsekunde sein.")
  input.changed.forM fun train => validateMarker train.operationMarker
  return { input with changed := input.changed.map (feed.markTrain input.atS) }

/-- Publishes a delta. -/
def publish (feed : LivemapFeed) (nowMs : Int) (input : DeltaInput) :
    LivemapFeed × Except LivemapError LiveDelta :=
  orRefuse feed (feed.checkPublication input) fun marked => feed.emit nowMs marked

end LivemapFeed

/-- Checks a change of markers and gives the runs in the order of their identifiers.  Feed and
registry differ in one message. -/
def checkMarkerChange (emptyMessage : String) (trainRunIds : List String)
    (operationMarker : Option PublicOperationMarker) (time : Int) :
    Except LivemapError (List String) := do
  require (isSafeInteger time && 0 ≤ time)
    (.rangeError "Markerzeit muss eine sichere, nichtnegative Weltsekunde sein.")
  LivemapFeed.validateMarker operationMarker
  require (!trainRunIds.isEmpty)
    (.rangeError "Eine Markeraktualisierung braucht mindestens einen Zuglauf.")
  require (trainRunIds.all fun id => !id.isEmpty) (.rangeError emptyMessage)
  return (trainRunIds.eraseDups).mergeSort isNotAfter

namespace LivemapFeed

/-- Whether a change of a run concerns a train. -/
def concerns (trainRunId : String) (train : PublicTrain) : Bool :=
  train.id == trainRunId || verifiedBaseTrainRunId train == some trainRunId

/-- The trains of a run that look different once their markers are looked up again. -/
def remarked (feed : LivemapFeed) (trainRunId : String) : List PublicTrain :=
  ((Registry.values feed.entities.trains).filter (concerns trainRunId)).filterMap fun train =>
    if feed.markTrain feed.atS train = train then none else some (feed.markTrain feed.atS train)

/-- Records a change for one run after another and collects the trains that look different. -/
def recordAll (change : OperationMarkerChange) :
    List String → LivemapFeed → Registry String PublicTrain →
      LivemapFeed × Registry String PublicTrain
  | [], feed, changed => (feed, changed)
  | trainRunId :: rest, feed, changed =>
    let recorded := feed.recordOperationMarker trainRunId change
    if !recorded.2 || feed.atS < change.effectiveAt then recordAll change rest recorded.1 changed
    else recordAll change rest recorded.1
      (Registry.file PublicTrain.id changed (recorded.1.remarked trainRunId))

/-- Sets or takes away the marker of some runs from a time on.  Trains that are there get a new
delta; everything else is only recorded. -/
def setOperationMarker (feed : LivemapFeed) (nowMs : Int) (trainRunIds : List String)
    (operationMarker : Option PublicOperationMarker) (time : Int) :
    LivemapFeed × Except LivemapError (Option LiveDelta) :=
  orRefuse feed (checkMarkerChange
      "Zuglaufkennungen für Markeraktualisierungen dürfen nicht leer sein."
      trainRunIds operationMarker time) fun identifiers =>
    let change : OperationMarkerChange :=
      ⟨operationMarker.map fun _ => PUBLIC_OPERATION_MARKER, time⟩
    let recorded := recordAll change identifiers feed .empty
    if recorded.2.isEmpty then (recorded.1, .ok none)
    else
      let emitted := recorded.1.emit nowMs
        { atS := feed.atS, changed := Registry.values recorded.2 }
      (emitted.1, emitted.2.map some)

/-! ### Replay and subscription -/

/-- The deltas after a sequence number of a client; `none` if the log does not reach back. -/
def deltasAfter (feed : LivemapFeed) (sequence : Int) : Option (List LiveDelta) :=
  if isSafeInteger sequence && 0 ≤ sequence then feed.log.after sequence.toNat else none

end LivemapFeed

/-- How far a client has followed a stream. -/
structure LivemapCursor where
  streamId : String
  sequence : Int

/-- The answer to a client that wants to go on. -/
inductive LivemapSubscription where
  | resume (replay : List LiveDelta)
  | reset

namespace LivemapFeed

/-- Adds a listener. -/
def subscribe (feed : LivemapFeed) (number : ℕ) (throwsOn : LiveDelta → Bool) : LivemapFeed :=
  { feed with listeners := feed.listeners ++ [⟨number, throwsOn, []⟩] }

/-- Takes a listener away. -/
def unsubscribe (feed : LivemapFeed) (number : ℕ) : LivemapFeed :=
  { feed with listeners := feed.listeners.filter fun listener => listener.number != number }

/-- Answers with the deltas after a cursor and adds the listener in the same turn; a cursor that
the log does not reach back to gets a reset, and no listener is added. -/
def subscribeAfter (feed : LivemapFeed) (cursor : LivemapCursor) (number : ℕ)
    (throwsOn : LiveDelta → Bool) : LivemapFeed × LivemapSubscription :=
  if cursor.streamId != feed.streamId then (feed, .reset)
  else
    ((feed.deltasAfter cursor.sequence).map fun replay =>
      (feed.subscribe number throwsOn, LivemapSubscription.resume replay)).getD (feed, .reset)

/-- Sends every listener away. -/
def invalidate (feed : LivemapFeed) : LivemapFeed := { feed with listeners := [] }

end LivemapFeed

end Zugfolge.Livemap
