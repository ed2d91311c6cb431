/-
What the public map shows (`packages/livemap/src/stream.ts`): trains, external trains,
disruptions, object states and the frames of the operational regions.

Numbers are integers together with the test `isSafeInteger`; lists that a delta may leave out are
empty.  Texts are compared by their UTF-8 bytes, which is the order of their characters.
-/
import Mathlib.Data.List.Infix
import Zugfolge.Foundation.EntryMap
import Zugfolge.Foundation.Text

namespace Zugfolge.Livemap

open Foundation

/-- Whether a number is an integer that a double holds exactly. -/
def isSafeInteger (value : Int) : Bool :=
  -9007199254740991 ≤ value && value ≤ 9007199254740991

/-- The refusals of feeds and registries; the last two are errors that a projector or a listener
has thrown. -/
inductive LivemapError where
  | rangeError (message : String)
  | typeError (message : String)
  | capacityError (maxFeeds : ℕ)
  | projectorError
  | listenerError

/-- Fails with an error unless a condition holds. -/
def require (condition : Bool) (error : LivemapError) : Except LivemapError Unit :=
  if condition then .ok () else .error error

/-- Whether the first text does not come after the second one. -/
def isNotAfter (left right : String) : Bool := (compare left right).isLE

/-- Whether no text occurs twice. -/
def allDistinct (texts : List String) : Bool := decide texts.Nodup

/-- The length of a text in units of 16 bits. -/
def textLength (text : String) : ℕ :=
  text.toList.foldl (fun total c => total + if c.toNat < 0x10000 then 1 else 2) 0

/-! ### Positions and motion -/

/-- A position on the map from the pinned infrastructure release. -/
structure PublicMapPosition where
  infrastructureReleaseId : String
  resourceId : String
  trackId : String
  offsetMm : Int
  latitudeE7 : Int
  longitudeE7 : Int
  bearingMilliDegrees : Option Int := none
deriving DecidableEq

inductive TrackDirection where
  | along
  | against
deriving DecidableEq

structure PublicTrackInterval where
  trackId : String
  fromMm : Int
  toMm : Int
  direction : TrackDirection
deriving DecidableEq

structure PublicRouteGeometryPoint where
  routeMm : Int
  trackId : String
  offsetMm : Int
  latitudeE7 : Int
  longitudeE7 : Int
  bearingMilliDegrees : Option Int := none
deriving DecidableEq

/-- Whether a bearing is an angle in milli-degrees. -/
def isBearing (bearing : Int) : Bool := isSafeInteger bearing && 0 ≤ bearing && bearing < 360000

/-- Whether a latitude and a longitude lie on the map. -/
def isOnMap (latitudeE7 longitudeE7 : Int) : Bool :=
  isSafeInteger latitudeE7 && -900000000 ≤ latitudeE7 && latitudeE7 ≤ 900000000
    && isSafeInteger longitudeE7 && -1800000000 ≤ longitudeE7 && longitudeE7 ≤ 1800000000

def validRouteGeometryPoint (point : PublicRouteGeometryPoint) : Bool :=
  isSafeInteger point.routeMm && 0 ≤ point.routeMm && isSafeInteger point.offsetMm
    && 0 ≤ point.offsetMm && !point.trackId.isEmpty && isOnMap point.latitudeE7 point.longitudeE7
    && point.bearingMilliDegrees.all isBearing

/-- Whether a point may follow a point, given the point before that one. -/
def continues (beforePrevious : Option PublicRouteGeometryPoint)
    (previous point : PublicRouteGeometryPoint) : Bool :=
  if previous.routeMm < point.routeMm then point.trackId == previous.trackId
  else point.routeMm == previous.routeMm && point.trackId != previous.trackId
    && point.latitudeE7 == previous.latitudeE7 && point.longitudeE7 == previous.longitudeE7
    && beforePrevious.all fun before => before.routeMm != point.routeMm

/-- The points after a first one are valid and each of them may follow. -/
def isContinuousFrom (beforePrevious : Option PublicRouteGeometryPoint)
    (previous : PublicRouteGeometryPoint) : List PublicRouteGeometryPoint → Bool
  | [] => true
  | point :: rest =>
    validRouteGeometryPoint point && continues beforePrevious previous point
      && isContinuousFrom (some previous) point rest

/-- Where the track changes, a geometry has both offsets at one place. -/
def isContinuousRouteGeometry (geometry : List PublicRouteGeometryPoint) : Bool :=
  2 ≤ geometry.length && geometry.head?.all fun first =>
    validRouteGeometryPoint first && isContinuousFrom none first geometry.tail

/-- A stretch of motion that the server has authorised. -/
structure PublicMotionSegment where
  startedAtMs : Int
  validUntilMs : Int
  startRouteMm : Int
  startSpeedMmPerSecond : Int
  accelerationMmPerSecondSquared : Int
  authorityEndRouteMm : Int
  segmentEndRouteMm : Int
  geometry : List PublicRouteGeometryPoint
deriving DecidableEq

/-- A stretch without extent needs exactly one place. -/
def isMotionSegmentGeometry (segment : PublicMotionSegment) : Bool :=
  if segment.startRouteMm = segment.segmentEndRouteMm then
    segment.startedAtMs < segment.validUntilMs && segment.geometry.length == 1
      && segment.geometry.head?.any fun point =>
        validRouteGeometryPoint point && point.routeMm == segment.startRouteMm
  else
    isContinuousRouteGeometry segment.geometry
      && (segment.geometry.head?.any fun point => point.routeMm ≤ segment.startRouteMm)
      && segment.geometry.getLast?.any fun point => segment.segmentEndRouteMm ≤ point.routeMm

/-! ### Trains -/

/-- What the mark of a public operation is made of.  `isShared` says whether the object is the one
constant of the program, which is what a comparison of references sees. -/
structure PublicOperationMarker where
  schemaVersion : String
  kind : String
  isShared : Bool := false
deriving DecidableEq

/-- The schema of operation markers. -/
def PUBLIC_OPERATION_MARKER_SCHEMA : String := "zugfolge-livemap-operation-marker/v1"

/-- The one marker that feeds hand out. -/
def PUBLIC_OPERATION_MARKER : PublicOperationMarker where
  schemaVersion := PUBLIC_OPERATION_MARKER_SCHEMA
  kind := "public-operator"
  isShared := true

/-- Whether a marker has the schema and the kind that are known. -/
def PublicOperationMarker.isKnown (marker : PublicOperationMarker) : Bool :=
  marker.schemaVersion == PUBLIC_OPERATION_MARKER_SCHEMA && marker.kind == "public-operator"

inductive DisruptionEffect where
  | closure
  | singleTrack
  | speedRestriction
  | platformChange
  | trafficHold
  | routeDeviation
  | vehicleRestriction
  | platformUsableLength
deriving DecidableEq

/-- What a train shows of a disruption. -/
structure PublicDisruptionMarker where
  disruptionId : String
  causeCode : Int
  causeLabel : String
  fineCauseId : String
  fineCauseLabel : String
  effect : DisruptionEffect
  affectedResource : String
  validUntilS : Int
deriving DecidableEq

/-- How a train moves. -/
inductive MovementKind where
  | train
  | shunting
deriving DecidableEq

structure PublicOperationalTrainState where
  regionId : String
  commitSequence : Int
  simulationTimeMs : Int
  routeVersionId : String
  formationVersionId : String
  movementKind : MovementKind := .train
  headRouteMm : Int
  tailRouteMm : Int
  direction : TrackDirection := .along
  occupiedIntervals : List PublicTrackInterval := []
  occupiedBlocks : List String := []
  authorityEndRouteMm : Option Int := none
  motionSegment : Option PublicMotionSegment := none
  waitingReason : Option String := none
deriving DecidableEq

structure PublicTrain where
  id : String
  baseTrainRunId : Option String := none
  operatorId : Option String := none
  operator : String
  trainNumber : String
  category : String
  positionMm : Int
  speedMmPerSecond : Int
  delaySeconds : Option Int := none
  nextOperatingPoint : Option String := none
  status : String
  operational : Option PublicOperationalTrainState := none
  mapPosition : Option PublicMapPosition := none
  operationMarker : Option PublicOperationMarker := none
  disruption : Option PublicDisruptionMarker := none
deriving DecidableEq

/-- What separates a run from the day of its train. -/
def dayInfix : String := ":day-"

/-- Whether a text is a number of a day: digits that do not begin with a zero. -/
def isDayNumber (text : List Char) : Bool :=
  (text.head?.any fun c => c != '0') && text.all Text.isDigit

/-- The run of a train, if the identifier of the train is the one of a day of that run. -/
def verifiedBaseTrainRunId (train : PublicTrain) : Option String :=
  train.baseTrainRunId.filter fun base =>
    !decide (dayInfix.toList <:+: base.toList)
      && (base ++ dayInfix).toList.isPrefixOf train.id.toList
      && isDayNumber (train.id.toList.drop (base ++ dayInfix).toList.length)

/-- Whether two trains look the same. -/
def sameTrainProjection (left right : PublicTrain) : Bool := left == right

def PublicMapPosition.isValid (position : PublicMapPosition) : Bool :=
  !position.trackId.isEmpty && !position.infrastructureReleaseId.isEmpty
    && !position.resourceId.isEmpty && isSafeInteger position.offsetMm && 0 ≤ position.offsetMm
    && isOnMap position.latitudeE7 position.longitudeE7
    && position.bearingMilliDegrees.all isBearing

/-- Refuses a train whose position is not one on the map. -/
def validateMapProjection (train : PublicTrain) : Except LivemapError Unit :=
  require (train.mapPosition.all PublicMapPosition.isValid)
    (.rangeError ("Zug '" ++ train.id ++ "' besitzt keine gueltige ganzzahlige Kartenposition."))

def PublicTrackInterval.isValid (interval : PublicTrackInterval) : Bool :=
  !interval.trackId.isEmpty && isSafeInteger interval.fromMm && isSafeInteger interval.toMm
    && 0 ≤ interval.fromMm && interval.fromMm < interval.toMm

def PublicOperationalTrainState.isValid (state : PublicOperationalTrainState) : Bool :=
  !state.regionId.isEmpty && isSafeInteger state.commitSequence && 0 ≤ state.commitSequence
    && isSafeInteger state.simulationTimeMs && 0 ≤ state.simulationTimeMs
    && !state.routeVersionId.isEmpty && !state.formationVersionId.isEmpty
    && isSafeInteger state.headRouteMm && isSafeInteger state.tailRouteMm
    && state.tailRouteMm ≤ state.headRouteMm
    && state.occupiedIntervals.all PublicTrackInterval.isValid
    && state.occupiedBlocks.all fun block => !block.isEmpty

def PublicMotionSegment.isValid (segment : PublicMotionSegment) : Bool :=
  isSafeInteger segment.startedAtMs && isSafeInteger segment.validUntilMs
    && segment.startedAtMs ≤ segment.validUntilMs && isSafeInteger segment.startRouteMm
    && isSafeInteger segment.startSpeedMmPerSecond
    && isSafeInteger segment.accelerationMmPerSecondSquared
    && isSafeInteger segment.authorityEndRouteMm && isSafeInteger segment.segmentEndRouteMm
    && segment.startRouteMm ≤ segment.authorityEndRouteMm
    && segment.startRouteMm ≤ segment.segmentEndRouteMm
    && segment.segmentEndRouteMm ≤ segment.authorityEndRouteMm && isMotionSegmentGeometry segment

/-- Refuses a train whose operational view or whose motion is not consistent. -/
def validateOperationalState (train : PublicTrain) : Except LivemapError Unit := do
  require (train.operational.all PublicOperationalTrainState.isValid)
    (.rangeError ("Zug '" ++ train.id ++ "' besitzt keinen gueltigen exakten Betriebszustand."))
  require (train.operational.all fun state => state.motionSegment.all PublicMotionSegment.isValid)
    (.rangeError ("Zug '" ++ train.id
      ++ "' besitzt keinen gueltigen autorisierten Bewegungsabschnitt."))

/-! ### External trains -/

/-- Where a train outside of the network stands. -/
inductive ExternalTrainStatus where
  | outside
  | readyAtBoundary
  | waitingForCapacity
  | completedOutside

/-- A train that runs outside of the network. -/
structure PublicExternalTrain where
  id : String
  operator : String
  trainNumber : String
  category : String
  journeyChainId : String
  externalLegId : String
  fromPortalId : String
  toPortalId : Option String
  scheduledEndS : Int
  reentryEarliestS : Option Int
  reentryLatestS : Option Int
  delaySeconds : Int
  status : ExternalTrainStatus
  progressBasisPoints : Int

/-! ### Disruptions and object states -/

/-- Whether a disruption was planned. -/
inductive DisruptionKind where
  | planned
  | unplanned

/-- A disruption of the infrastructure; `isConstruction` is its `authoritativeObjectState`. -/
structure PublicInfrastructureDisruption extends PublicDisruptionMarker where
  kind : DisruptionKind
  positionMm : Int
  publishedAtS : Int
  startsAtS : Int
  isConstruction : Bool := false

/-- The kinds of objects that have a state. -/
inductive LivemapObjectKind where
  | track
  | railContext
  | station
  | platform
  | switch
  | signal
  | block
  | facility
  | operatingPoint
deriving DecidableEq

/-- The states that differ from the normal one. -/
inductive ObjectStateKind where
  | restriction
  | closure
  | construction

/-- The state of an object that differs from the normal one. -/
structure PublicObjectState where
  id : String
  objectKind : LivemapObjectKind
  objectId : String
  state : ObjectStateKind
  disruptionId : Option String := none
  validUntilS : Option Int := none

/-- Lets an object state pass that keeps the sparse contract. -/
def publicObjectState (state : PublicObjectState) : Except LivemapError PublicObjectState := do
  require (!state.id.isEmpty && !state.objectId.isEmpty
      && state.disruptionId.all (fun id => !id.isEmpty)
      && state.validUntilS.all fun validUntil => isSafeInteger validUntil && 0 ≤ validUntil)
    (.typeError "Livemap-Infrastrukturzustand verletzt den sparsamen v1-Vertrag.")
  return state

/-! ### Frames of operational regions -/

inductive PublicOperationalSignalAspect where
  | stop
  | proceed
  | shuntingProceed
  | failed

inductive PublicOperationalVehicleRestriction where
  | powerBasisPoints (amount : Int)
  | maximumSpeed (amount : Int)
  | serviceBrake (amount : Int)
  | emergencyBrake (amount : Int)
  | protectionUnavailable (protection : String)
  | doorAvailabilityBasisPoints (amount : Int)
  | immobilized

/-- What a disruption does to the operation. -/
inductive PublicOperationalDisruptionEffect where
  | resourceClosed (resourceId : String)
  | speedRestriction (edgeId : String) (maximumSpeedMmps : Int)
  | signalFailed (signalId : String)
  | switchFailed (switchId : String)
  | trackDetectionFailed (resourceId : String)
  | vehicleRestricted (vehicleId : String) (restriction : PublicOperationalVehicleRestriction)

structure PublicOperationalDisruption where
  disruptionId : String
  effect : PublicOperationalDisruptionEffect

/-- A route that is locked for a train. -/
structure PublicOperationalRouteLock where
  id : String
  templateId : String
  trainId : String
  resources : List String
  releaseAfterTailRouteMm : Int
  lockedAtMs : Int

/-- The committed head of a region. -/
structure PublicOperationalRegionFrame where
  regionId : String
  infrastructureReleaseId : String
  commitSequence : Int
  simulationTimeMs : Int
  staleAfterMs : Int
  routeLocks : List PublicOperationalRouteLock := []
  signals : EntryMap String PublicOperationalSignalAspect := .empty
  activeDisruptions : List PublicOperationalDisruption := []

/-- The amounts of a restriction are not negative, shares fit into 16 bits. -/
def publicOperationalRestriction :
    PublicOperationalVehicleRestriction → Except LivemapError Unit
  | .immobilized => .ok ()
  | .protectionUnavailable protection =>
    require (!protection.isEmpty)
      (.typeError "Operative Zugsicherungseinschraenkung ist ungueltig.")
  | .powerBasisPoints amount =>
    require (isSafeInteger amount && 0 ≤ amount && amount ≤ 65535)
      (.typeError "Operative Fahrzeugeinschraenkung ist ungueltig.")
  | .doorAvailabilityBasisPoints amount =>
    require (isSafeInteger amount && 0 ≤ amount && amount ≤ 65535)
      (.typeError "Operative Fahrzeugeinschraenkung ist ungueltig.")
  | .maximumSpeed amount =>
    require (isSafeInteger amount && 0 ≤ amount)
      (.typeError "Operative Fahrzeugeinschraenkung ist ungueltig.")
  | .serviceBrake amount =>
    require (isSafeInteger amount && 0 ≤ amount)
      (.typeError "Operative Fahrzeugeinschraenkung ist ungueltig.")
  | .emergencyBrake amount =>
    require (isSafeInteger amount && 0 ≤ amount)
      (.typeError "Operative Fahrzeugeinschraenkung ist ungueltig.")

/-- What an effect names must have a name, and a restricted speed is positive. -/
def validateEffect : PublicOperationalDisruptionEffect → Except LivemapError Unit
  | .resourceClosed resourceId =>
    require (!resourceId.isEmpty) (.typeError "Operative Ressourcenstoerung ist ungueltig.")
  | .trackDetectionFailed resourceId =>
    require (!resourceId.isEmpty) (.typeError "Operative Ressourcenstoerung ist ungueltig.")
  | .signalFailed signalId =>
    require (!signalId.isEmpty) (.typeError "Operativer Signalausfall ist ungueltig.")
  | .switchFailed switchId =>
    require (!switchId.isEmpty) (.typeError "Operativer Weichenausfall ist ungueltig.")
  | .speedRestriction edgeId maximumSpeedMmps =>
    require (!edgeId.isEmpty && isSafeInteger maximumSpeedMmps && 0 < maximumSpeedMmps)
      (.typeError "Operative Langsamfahrstelle ist ungueltig.")
  | .vehicleRestricted vehicleId restriction => do
    require (!vehicleId.isEmpty) (.typeError "Operative Fahrzeugstoerung ist ungueltig.")
    publicOperationalRestriction restriction

/-- Lets a disruption of the operation pass that names what it does. -/
def publicOperationalDisruption (disruption : PublicOperationalDisruption) :
    Except LivemapError PublicOperationalDisruption := do
  require (!disruption.disruptionId.isEmpty)
    (.typeError "Operative Stoerung besitzt keine gueltige Kennung oder Wirkung.")
  validateEffect disruption.effect
  return disruption

/-- Whether a lock holds what it says at the time of its frame. -/
def PublicOperationalRouteLock.isValid (simulationTimeMs : Int)
    (lock : PublicOperationalRouteLock) : Bool :=
  !lock.id.isEmpty && !lock.templateId.isEmpty && !lock.trainId.isEmpty
    && !lock.resources.isEmpty && lock.resources.all (fun resource => !resource.isEmpty)
    && allDistinct lock.resources && isSafeInteger lock.releaseAfterTailRouteMm
    && 0 ≤ lock.releaseAfterTailRouteMm && isSafeInteger lock.lockedAtMs && 0 ≤ lock.lockedAtMs
    && lock.lockedAtMs ≤ simulationTimeMs

/-- Lets a frame pass that is bound to a commit, a time and a release; its signals and its
disruptions are put in order. -/
def publicOperationalRegionFrame (frame : PublicOperationalRegionFrame) :
    Except LivemapError PublicOperationalRegionFrame := do
  require (!frame.regionId.isEmpty && !frame.infrastructureReleaseId.isEmpty
      && isSafeInteger frame.commitSequence && 0 ≤ frame.commitSequence
      && isSafeInteger frame.simulationTimeMs && 0 ≤ frame.simulationTimeMs
      && isSafeInteger frame.staleAfterMs && frame.simulationTimeMs ≤ frame.staleAfterMs)
    (.rangeError "Operativer Regionsframe verletzt Commit-, Zeit- oder Releasebindung.")
  require (frame.routeLocks.all (PublicOperationalRouteLock.isValid frame.simulationTimeMs)
      && allDistinct (frame.routeLocks.map PublicOperationalRouteLock.id))
    (.rangeError
      "Operativer Regionsframe besitzt keine gueltige eindeutige Fahrstrassenverriegelung.")
  require (frame.signals.keys.all fun signalId => !signalId.isEmpty)
    (.rangeError "Operativer Regionsframe besitzt einen unbekannten Signalbegriff.")
  let activeDisruptions ← (frame.activeDisruptions.mergeSort fun left right =>
    isNotAfter left.disruptionId right.disruptionId).mapM publicOperationalDisruption
  require (allDistinct (activeDisruptions.map PublicOperationalDisruption.disruptionId))
    (.rangeError "Operativer Regionsframe besitzt doppelte aktive Stoerungen.")
  return { frame with
    signals := frame.signals.sortKeys isNotAfter
    activeDisruptions := activeDisruptions }

/-! ### Snapshots and deltas -/

/-- What a feed shows at one moment. -/
structure LiveSnapshot where
  worldId : String
  streamId : String
  sequence : ℕ
  atS : Int
  trains : List PublicTrain
  externalTrains : List PublicExternalTrain
  disruptions : List PublicInfrastructureDisruption
  objectStates : List PublicObjectState
  operationalRegions : List PublicOperationalRegionFrame

/-- What is put into a feed at one moment. -/
structure DeltaInput where
  atS : Int
  changed : List PublicTrain := []
  removed : List String := []
  changedExternalTrains : List PublicExternalTrain := []
  removedExternalTrainIds : List String := []
  changedDisruptions : List PublicInfrastructureDisruption := []
  removedDisruptionIds : List String := []
  changedObjectStates : List PublicObjectState := []
  removedObjectStateIds : List String := []
  changedOperationalRegions : List PublicOperationalRegionFrame := []
  removedOperationalRegionIds : List String := []

/-- What a feed sends to its listeners: what was put in, with its place in the stream. -/
structure LiveDelta extends DeltaInput where
  worldId : String
  streamId : String
  sequence : ℕ

end Zugfolge.Livemap
