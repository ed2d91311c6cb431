/-
The registry of feeds (`LivemapRegistry` of `packages/livemap/src/stream.ts`).

A registry keeps the feed of every world and remembers which region has published what.  Feeds that
nobody listens to expire, and one of them makes room for a new one.
-/
import Zugfolge.Foundation.Ownership
import Zugfolge.Livemap.Feed

namespace Zugfolge.Livemap

open Foundation

/-! ### What a call reads from outside -/

/-- The readings of the clock, the projectors, if there are any, and the name of a new stream.  A
projector that throws gives nothing. -/
structure Surroundings where
  accessMs : Int
  deltaAccessMs : Int
  publishedMs : Int
  streamId : String
  projectTrain : Option (String → PublicTrain → Option PublicTrain) := none
  projectExternal : Option (String → PublicExternalTrain → Option PublicExternalTrain) := none
  projectDisruption :
    Option (String → PublicInfrastructureDisruption → Option (List PublicObjectState)) := none

namespace Surroundings

/-- What a projector gives, which must have kept some marks of what it was given. -/
def kept {α : Type} (projected : Option α) (isKept : α → Bool) (message : String) :
    Except LivemapError α := do
  let result ← (projected.map Except.ok).getD (.error .projectorError)
  require (isKept result) (.typeError message)
  return result

/-- Places a train on the map; a train with an operational view is placed already. -/
def projectOne (around : Surroundings) (worldId : String) (train : PublicTrain) :
    Except LivemapError PublicTrain :=
  (around.projectTrain.map fun project =>
    if train.operational.isSome then .ok train
    else kept (project worldId train)
      (fun projected => projected.id == train.id && projected.positionMm == train.positionMm)
      "Livemap-Kartenprojektor darf Zugidentitaet oder Betriebsposition nicht veraendern.").getD
    (.ok train)

def projectTrains (around : Surroundings) (worldId : String) (trains : List PublicTrain) :
    Except LivemapError (List PublicTrain) := trains.mapM (around.projectOne worldId)

/-- Renames an external train. -/
def projectOneExternal (around : Surroundings) (worldId : String) (train : PublicExternalTrain) :
    Except LivemapError PublicExternalTrain :=
  (around.projectExternal.map fun project =>
    kept (project worldId train)
      (fun projected => projected.id == train.id
        && projected.journeyChainId == train.journeyChainId
        && projected.externalLegId == train.externalLegId)
      "Livemap-Kartenprojektor darf Aussenlaufidentitaeten nicht veraendern.").getD (.ok train)

def projectExternalTrains (around : Surroundings) (worldId : String)
    (trains : List PublicExternalTrain) : Except LivemapError (List PublicExternalTrain) :=
  trains.mapM (around.projectOneExternal worldId)

/-- Whether states are those of tracks, name their disruption and have different identifiers. -/
def areStatesOf (disruption : PublicInfrastructureDisruption) (states : List PublicObjectState) :
    Bool :=
  (states.all fun state => state.objectKind == .track
      && state.disruptionId == some disruption.disruptionId)
    && allDistinct (states.map PublicObjectState.id)

/-- The states of the tracks that a disruption concerns. -/
def projectDisruptionStates (around : Surroundings) (worldId : String)
    (disruption : PublicInfrastructureDisruption) :
    Except LivemapError (List PublicObjectState) :=
  (around.projectDisruption.map fun project =>
    kept (project worldId disruption) (areStatesOf disruption)
      "Livemap-Objektzustandsprojektor verletzt Ressourcen- oder Stoerungsbindung.").getD (.ok [])

/-- The states of every disruption of a list in which no disruption occurs twice. -/
def projectDisruptions (around : Surroundings) (worldId duplicateMessage : String) :
    List String → List PublicInfrastructureDisruption →
      Except LivemapError (List (String × List PublicObjectState))
  | _, [] => .ok []
  | seen, disruption :: rest => do
    require (!seen.contains disruption.disruptionId) (.rangeError duplicateMessage)
    let states ← around.projectDisruptionStates worldId disruption
    let more ←
      around.projectDisruptions worldId duplicateMessage (disruption.disruptionId :: seen) rest
    return (disruption.disruptionId, states) :: more

end Surroundings

/-! ### Entries -/

/-- The identifiers of the object states that stem from each disruption. -/
abbrev DerivedStates : Type := Registry String (List String)

/-- The feed of a world and what each region has published in it. -/
structure RegistryEntry where
  feed : LivemapFeed
  trainIdsByRegion : Ownership String String
  externalTrainIdsByRegion : Ownership String String
  objectStateIdsByRegion : Ownership String String
  derivedObjectStateIdsByRegion : Registry String DerivedStates
  lastAccessMs : Int
  initialized : Bool

/-- All that a region shows at one moment. -/
structure RegionSnapshot where
  atS : Int
  trains : List PublicTrain := []
  externalTrains : List PublicExternalTrain := []
  disruptions : List PublicInfrastructureDisruption := []
  objectStates : List PublicObjectState := []
  operationalRegions : Option (List PublicOperationalRegionFrame) := none

/-- A delta of a region with what the region owns after it: the trains, external trains and object
states that it has taken over, and those that are its own. -/
structure RegionPublication where
  input : DeltaInput
  takenTrains : List String
  ownTrains : KeySet String
  ownExternalTrains : KeySet String
  takenObjectStates : List String
  ownObjectStates : KeySet String
  derived : DerivedStates

def setOf (ids : List String) : KeySet String := KeySet.addAll ∅ ids

/-- Notes the states of disruptions under the identifiers of these. -/
def noteDerived (derived : DerivedStates) (projected : List (String × List PublicObjectState)) :
    DerivedStates :=
  projected.foldl (fun noted entry =>
    noted.insert entry.1 (entry.2.map PublicObjectState.id)) derived

namespace RegistryEntry

/-- The entry of a new feed. -/
def new (feed : LivemapFeed) (nowMs : Int) : RegistryEntry where
  feed := feed
  trainIdsByRegion := .empty
  externalTrainIdsByRegion := .empty
  objectStateIdsByRegion := .empty
  derivedObjectStateIdsByRegion := .empty
  lastAccessMs := nowMs
  initialized := false

/-- What the first snapshot of a region, or a later one, changes. -/
def initialization (entry : RegistryEntry) (around : Surroundings) (worldId regionId : String)
    (snapshot : RegionSnapshot) : Except LivemapError RegionPublication := do
  require (snapshot.operationalRegions.all fun frames =>
      frames.length ≤ 1 && frames.all fun frame => frame.regionId == regionId)
    (.rangeError
      "Ein Regionssnapshot darf nur seinen eigenen operativen Regionsframe enthalten.")
  let trains ← around.projectTrains worldId snapshot.trains
  let nextIds := trains.map PublicTrain.id
  require (allDistinct nextIds)
    (.rangeError "Ein Regionssnapshot darf keine doppelten Zuglaufkennungen besitzen.")
  let externalTrains ← around.projectExternalTrains worldId snapshot.externalTrains
  let nextExternalIds := externalTrains.map PublicExternalTrain.id
  require (allDistinct nextExternalIds)
    (.rangeError "Ein Regionssnapshot darf keine doppelten Aussenlaufkennungen besitzen.")
  let projected ← around.projectDisruptions worldId
    "Ein Regionssnapshot darf keine doppelten Stoerungskennungen besitzen." []
    snapshot.disruptions
  let objectStates := snapshot.objectStates ++ projected.flatMap Prod.snd
  let nextObjectStateIds := objectStates.map PublicObjectState.id
  require (allDistinct nextObjectStateIds)
    (.rangeError
      "Ein Regionssnapshot darf keine doppelten Infrastrukturzustandskennungen besitzen.")
  return {
    input := {
      atS := snapshot.atS
      changed := trains
      removed := (entry.trainIdsByRegion.owned regionId).toList.filter fun id =>
        !nextIds.contains id && !entry.trainIdsByRegion.ownedElsewhere regionId id
      changedExternalTrains := externalTrains
      removedExternalTrainIds :=
        (entry.externalTrainIdsByRegion.owned regionId).toList.filter fun id =>
          !nextExternalIds.contains id
      changedDisruptions := snapshot.disruptions
      removedDisruptionIds := []
      changedObjectStates := objectStates
      removedObjectStateIds :=
        (entry.objectStateIdsByRegion.owned regionId).toList.filter fun id =>
          !nextObjectStateIds.contains id
            && !entry.objectStateIdsByRegion.ownedElsewhere regionId id
      changedOperationalRegions := snapshot.operationalRegions.getD []
      removedOperationalRegionIds :=
        if snapshot.operationalRegions.any List.isEmpty then [regionId] else [] }
    takenTrains := nextIds
    ownTrains := setOf nextIds
    ownExternalTrains := setOf nextExternalIds
    takenObjectStates := nextObjectStateIds
    ownObjectStates := setOf nextObjectStateIds
    derived := noteDerived .empty projected }

/-- The states that no longer stem from the disruptions that have changed or are gone. -/
def derivedRemoved (previous next : DerivedStates) (input : DeltaInput) : List String :=
  (input.changedDisruptions.flatMap fun disruption =>
      ((previous[disruption.disruptionId]?).getD []).filter fun id =>
        !((next[disruption.disruptionId]?).getD []).contains id)
    ++ input.removedDisruptionIds.flatMap fun id => (previous[id]?).getD []

/-- What a delta of a region changes. -/
def regionDelta (entry : RegistryEntry) (around : Surroundings) (worldId regionId : String)
    (input : DeltaInput) : Except LivemapError RegionPublication := do
  require ((input.changedOperationalRegions.all fun frame => frame.regionId == regionId)
      && input.removedOperationalRegionIds.all fun id => id == regionId)
    (.rangeError "Ein Regionsdelta darf keinen fremden operativen Regionsframe veraendern.")
  let trains ← around.projectTrains worldId input.changed
  let externalTrains ← around.projectExternalTrains worldId input.changedExternalTrains
  let projected ← around.projectDisruptions worldId
    "Ein Regionsdelta darf keine doppelten Stoerungskennungen besitzen." []
    input.changedDisruptions
  let previous := (entry.derivedObjectStateIdsByRegion[regionId]?).getD .empty
  let next := noteDerived previous projected
  let objectStates := input.changedObjectStates ++ projected.flatMap Prod.snd
  let changedObjectStateIds := objectStates.map PublicObjectState.id
  let requested := (input.removedObjectStateIds ++ derivedRemoved previous next input).eraseDups
  return {
    input := { input with
      changed := trains
      removed := input.removed.filter fun id =>
        !entry.trainIdsByRegion.ownedElsewhere regionId id
      changedExternalTrains := externalTrains
      changedObjectStates := objectStates
      removedObjectStateIds := requested.filter fun id =>
        !entry.objectStateIdsByRegion.ownedElsewhere regionId id }
    takenTrains := trains.map PublicTrain.id
    ownTrains := KeySet.removeAll
      (KeySet.addAll (entry.trainIdsByRegion.owned regionId) (trains.map PublicTrain.id))
      input.removed
    ownExternalTrains := KeySet.removeAll
      (KeySet.addAll (entry.externalTrainIdsByRegion.owned regionId)
        (externalTrains.map PublicExternalTrain.id)) input.removedExternalTrainIds
    takenObjectStates := changedObjectStateIds
    ownObjectStates := KeySet.removeAll
      (KeySet.addAll (entry.objectStateIdsByRegion.owned regionId) changedObjectStateIds) requested
    derived := Registry.eraseAll next input.removedDisruptionIds }

/-- Notes what a region owns after a publication.  External trains are not taken away from other
regions. -/
def record (entry : RegistryEntry) (regionId : String) (publication : RegionPublication)
    (feed : LivemapFeed) (initialized : Bool) : RegistryEntry :=
  { entry with
    feed := feed
    trainIdsByRegion :=
      entry.trainIdsByRegion.takeOver regionId publication.takenTrains publication.ownTrains
    externalTrainIdsByRegion :=
      entry.externalTrainIdsByRegion.takeOver regionId [] publication.ownExternalTrains
    objectStateIdsByRegion :=
      entry.objectStateIdsByRegion.takeOver regionId publication.takenObjectStates
        publication.ownObjectStates
    derivedObjectStateIdsByRegion :=
      entry.derivedObjectStateIdsByRegion.insert regionId publication.derived
    initialized := initialized }

/-- Publishes what a region changes and notes what it owns once the feed has returned. -/
def publish (entry : RegistryEntry) (around : Surroundings) (regionId : String)
    (publication : RegionPublication) (initialized : Bool) :
    RegistryEntry × Except LivemapError LiveDelta :=
  let published := entry.feed.publish around.publishedMs publication.input
  (if published.2.isOk then entry.record regionId publication published.1 initialized
    else { entry with feed := published.1 }, published.2)

def initializeRegion (entry : RegistryEntry) (around : Surroundings) (worldId regionId : String)
    (snapshot : RegionSnapshot) : RegistryEntry × Except LivemapError LiveDelta :=
  orRefuse entry (entry.initialization around worldId regionId snapshot) fun publication =>
    entry.publish around regionId publication true

def publishRegionDelta (entry : RegistryEntry) (around : Surroundings)
    (worldId regionId : String) (input : DeltaInput) :
    RegistryEntry × Except LivemapError LiveDelta :=
  orRefuse entry (entry.regionDelta around worldId regionId input) fun publication =>
    entry.publish around regionId publication entry.initialized

/-- The frame of a region that the feed shows. -/
def previousFrame (entry : RegistryEntry) (regionId : String) :
    Option PublicOperationalRegionFrame :=
  entry.feed.snapshot.operationalRegions.find? fun frame => frame.regionId == regionId

/-- Whether a frame may follow the one the feed shows. -/
def isNextCommit (previous next : PublicOperationalRegionFrame) : Bool :=
  next.commitSequence == previous.commitSequence + 1
    && previous.simulationTimeMs ≤ next.simulationTimeMs

/-- The delta that leads to an operational snapshot of a region. -/
def operationalDelta (entry : RegistryEntry) (regionId : String) (atS : Int)
    (trains : List PublicTrain) (frame : PublicOperationalRegionFrame) :
    Except LivemapError DeltaInput := do
  require ((entry.previousFrame regionId).all fun previous => isNextCommit previous frame)
    (.rangeError "Operative Regionscommits muessen lueckenlos und zeitlich monoton sein.")
  let nextIds := trains.map PublicTrain.id
  require (allDistinct nextIds)
    (.rangeError "Operativer Regionssnapshot darf keine doppelten Zugkennungen besitzen.")
  let previousTrains := Registry.index PublicTrain.id entry.feed.snapshot.trains
  return {
    atS := atS
    changed := trains.filter fun train =>
      previousTrains[train.id]?.all fun previous => !sameTrainProjection previous train
    removed := (entry.trainIdsByRegion.owned regionId).toList.filter fun id =>
      !nextIds.contains id
    changedOperationalRegions := [frame] }

end RegistryEntry

/-! ### The registry -/

/-- The feeds of all worlds, with the markers that were set in each of them. -/
structure LivemapRegistry where
  maxFeeds : ℕ
  idleTtlMs : Int
  historyLimit : ℕ
  feeds : EntryMap String RegistryEntry
  operationMarkerTimelines : Registry String (Registry String (List OperationMarkerChange))

/-- All that a region shows of its operation at one moment. -/
structure OperationalLivemapRegionSnapshot where
  atS : Int
  trains : List PublicTrain
  operationalRegions : List PublicOperationalRegionFrame

namespace LivemapRegistry

/-- Whether nobody listens to a feed and its time is over. -/
def isExpired (registry : LivemapRegistry) (nowMs : Int) (entry : RegistryEntry) : Bool :=
  entry.feed.subscriberCount == 0 && registry.idleTtlMs ≤ nowMs - entry.lastAccessMs

/-- Drops all feeds whose time is over. -/
def pruneExpired (registry : LivemapRegistry) (nowMs : Int) : LivemapRegistry :=
  { registry with
    feeds := registry.feeds.filterValues fun entry => !registry.isExpired nowMs entry }

/-- Puts an entry in its place. -/
def put (registry : LivemapRegistry) (worldId : String) (entry : RegistryEntry) :
    LivemapRegistry :=
  { registry with feeds := registry.feeds.set worldId entry }

/-- Sets the markers again that were set in a world. -/
def replayOperationMarkers (registry : LivemapRegistry) (around : Surroundings)
    (worldId : String) (feed : LivemapFeed) : Except LivemapError LivemapFeed :=
  ((registry.operationMarkerTimelines[worldId]?).getD .empty).toList.foldlM (fun marked entry =>
    entry.2.foldlM (fun marked change =>
      let set := marked.setOperationMarker around.publishedMs [entry.1] change.operationMarker
        change.effectiveAt
      set.2.map fun _ => set.1) marked) feed

/-- Adds a world with a new feed. -/
def addWorld (registry : LivemapRegistry) (around : Surroundings) (worldId : String) :
    LivemapRegistry × Except LivemapError RegistryEntry :=
  orRefuse registry
    (LivemapFeed.create worldId registry.historyLimit around.streamId >>=
      registry.replayOperationMarkers around worldId) fun feed =>
    (registry.put worldId (.new feed around.accessMs), .ok (.new feed around.accessMs))

/-- The world that has to make room: the one whose last access is longest ago of those that nobody
listens to. -/
def evictable (registry : LivemapRegistry) : Option String :=
  ((registry.feeds.entries.filter fun entry => entry.2.feed.subscriberCount == 0).mergeSort
    fun left right => left.2.lastAccessMs ≤ right.2.lastAccessMs).head?.map Prod.fst

/-- Adds a world; if there are too many, another one makes room. -/
def makeRoom (registry : LivemapRegistry) (around : Surroundings) (worldId : String) :
    LivemapRegistry × Except LivemapError RegistryEntry :=
  if registry.feeds.entries.length < registry.maxFeeds then registry.addWorld around worldId
  else
    (registry.evictable.map fun evicted =>
      addWorld { registry with feeds := registry.feeds.delete evicted } around worldId).getD
      (registry, .error (.capacityError registry.maxFeeds))

/-- The entry of a world, which is made if there is none. -/
def entryForWorld (registry : LivemapRegistry) (around : Surroundings) (worldId : String) :
    LivemapRegistry × Except LivemapError RegistryEntry :=
  let pruned := registry.pruneExpired around.accessMs
  ((pruned.feeds.get? worldId).map fun entry =>
    let touched := { entry with lastAccessMs := around.accessMs }
    (pruned.put worldId touched, Except.ok touched)).getD (pruned.makeRoom around worldId)

/-- The entry of a world that was initialised. -/
def initializedWorld (registry : LivemapRegistry) (nowMs : Int) (worldId : String) :
    LivemapRegistry × Option RegistryEntry :=
  let pruned := registry.pruneExpired nowMs
  (((pruned.feeds.get? worldId).filter RegistryEntry.initialized).map fun entry =>
    let touched := { entry with lastAccessMs := nowMs }
    (pruned.put worldId touched, some touched)).getD (pruned, none)

/-- Works on the entry of a world and puts it back. -/
def within {α : Type} (registry : LivemapRegistry) (worldId : String)
    (done : RegistryEntry × Except LivemapError α) : LivemapRegistry × Except LivemapError α :=
  (registry.put worldId done.1, done.2)

/-- Whether a text can name a region. -/
def isRegionId (regionId : String) : Bool :=
  !regionId.isEmpty && textLength regionId ≤ 200

/-- Initialises or restores one region of a world. -/
def initializeRegion (registry : LivemapRegistry) (around : Surroundings)
    (worldId regionId : String) (snapshot : RegionSnapshot) :
    LivemapRegistry × Except LivemapError LiveDelta :=
  orRefuse registry
    (require (isRegionId regionId) (.rangeError "regionId muss 1 bis 200 Zeichen besitzen."))
    fun _ =>
      let accessed := registry.entryForWorld around worldId
      orRefuse accessed.1 accessed.2 fun entry =>
        accessed.1.within worldId (entry.initializeRegion around worldId regionId snapshot)

/-- Publishes a delta of one region; there is no answer if the world was not initialised. -/
def publishRegionDelta (registry : LivemapRegistry) (around : Surroundings) (nowMs : Int)
    (worldId regionId : String) (input : DeltaInput) :
    LivemapRegistry × Except LivemapError (Option LiveDelta) :=
  let accessed := registry.initializedWorld nowMs worldId
  (accessed.2.map fun entry =>
    let done := entry.publishRegionDelta around worldId regionId input
    accessed.1.within worldId (done.1, done.2.map some)).getD (accessed.1, .ok none)

/-- Checks an operational snapshot of a region and gives its frame. -/
def operationalFrame (regionId : String) (snapshot : OperationalLivemapRegionSnapshot) :
    Except LivemapError PublicOperationalRegionFrame := do
  let frame ← ((snapshot.operationalRegions.head?.filter fun frame =>
      snapshot.operationalRegions.length == 1 && frame.regionId == regionId).map Except.ok).getD
    (.error (.rangeError
      "Operativer Regionssnapshot braucht genau seinen committed Regionsframe."))
  require (snapshot.trains.all fun train =>
      (train.operational.any fun state => state.regionId == regionId)
        && train.mapPosition.isSome)
    (.rangeError ("Operativer Regionssnapshot darf nur exakt georeferenzierte Zuege seiner Region"
      ++ " enthalten."))
  return frame

/-- Takes over a complete operational snapshot of one region. -/
def publishOperationalRegionSnapshot (registry : LivemapRegistry) (around : Surroundings)
    (worldId regionId : String) (snapshot : OperationalLivemapRegionSnapshot) :
    LivemapRegistry × Except LivemapError (Option LiveDelta) :=
  orRefuse registry (operationalFrame regionId snapshot) fun frame =>
    let accessed := registry.initializedWorld around.accessMs worldId
    (accessed.2.map fun entry =>
      orRefuse accessed.1
        (entry.operationalDelta regionId snapshot.atS snapshot.trains frame) fun input =>
          accessed.1.publishRegionDelta around around.deltaAccessMs worldId regionId input).getD
      (accessed.1, .ok none)

/-! ### Markers and worlds that end -/

/-- Notes a change for every run that does not have it. -/
def recordOperationMarkers (registry : LivemapRegistry) (worldId : String)
    (identifiers : List String) (change : OperationMarkerChange) : LivemapRegistry :=
  let byTrain := (registry.operationMarkerTimelines[worldId]?).getD .empty
  { registry with
    operationMarkerTimelines :=
      registry.operationMarkerTimelines.insert worldId (identifiers.foldl (fun noted trainRunId =>
        let timeline := (noted[trainRunId]?).getD []
        if isRecorded timeline change then noted
        else noted.insert trainRunId (recordChange timeline change)) byTrain) }

/-- Sets or takes away the marker of some runs of a world; the registry remembers it for feeds
that are made later. -/
def setOperationMarker (registry : LivemapRegistry) (around : Surroundings) (worldId : String)
    (trainRunIds : List String) (operationMarker : Option PublicOperationMarker) (time : Int) :
    LivemapRegistry × Except LivemapError (Option LiveDelta) :=
  orRefuse registry (checkMarkerChange
      "Zuglaufkennungen fuer Markeraktualisierungen duerfen nicht leer sein."
      trainRunIds operationMarker time) fun identifiers =>
    let change : OperationMarkerChange :=
      ⟨operationMarker.map fun _ => PUBLIC_OPERATION_MARKER, time⟩
    let accessed :=
      (registry.recordOperationMarkers worldId identifiers change).entryForWorld around worldId
    orRefuse accessed.1 accessed.2 fun entry =>
      let set :=
        entry.feed.setOperationMarker around.publishedMs trainRunIds operationMarker time
      accessed.1.within worldId ({ entry with feed := set.1 }, set.2)

/-- Closes the routes of a world after a failed publication. -/
def markUnavailable (registry : LivemapRegistry) (worldId : String) : LivemapRegistry :=
  ((registry.feeds.get? worldId).map fun entry =>
    registry.put worldId { entry with initialized := false, feed := entry.feed.invalidate }).getD
    registry

/-- Forgets a world and its markers. -/
def releaseWorld (registry : LivemapRegistry) (worldId : String) : LivemapRegistry :=
  { registry with
    feeds := registry.feeds.delete worldId
    operationMarkerTimelines := registry.operationMarkerTimelines.erase worldId }

end LivemapRegistry

end Zugfolge.Livemap
