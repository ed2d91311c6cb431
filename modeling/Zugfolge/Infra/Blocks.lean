/-
Block sections.

The block sections of a track follow from its signals, its protection and its length: every
signal that bounds a block and both ends of the track are boundaries, and a stretch without
any data is cut into virtual blocks of equal length.
-/
import Zugfolge.Infra.Track

namespace Zugfolge.Infra

open Foundation Std

/-! ### Signals and sections -/

/-- The longest block of a stretch without data, unless another length is given. -/
def defaultMaxBlockLength : Length := Length.fromMetres 2000

/-- The kind of a signal or of a block marker. -/
inductive SignalKind where
  | main
  | distant
  | lzbBlockMarker
  | etcsBlockMarker

namespace SignalKind

/-- Everything but a distant signal bounds a block. -/
def boundsBlock : SignalKind → Bool
  | distant => false
  | _ => true

/-- The signal is a main signal along the track. -/
def isLinesideMain : SignalKind → Bool
  | main => true
  | _ => false

end SignalKind

/-- A signal at a position along a track. -/
structure Signal where
  position : Length
  kind : SignalKind

/-- How a block came about. -/
inductive BlockKind where
  | signalled
  | cabSignalled
  | virtual

/-- The trust in a kind of block for itself. -/
def BlockKind.basisConfidence : BlockKind → Confidence
  | signalled | cabSignalled => .surveyed
  | virtual => .derived

/-- A piece of track that only one train may use at a time. -/
structure BlockSection where
  track : TrackId
  start : Length
  finish : Length
  kind : BlockKind
  protection : TrainProtection
  qualityClass : QualityClass

/-- A train may use the block with its own protection. -/
def BlockSection.isUsableByTrain (block : BlockSection) (train : TrainProtection) : Bool :=
  match block.kind with
  | .cabSignalled => decide (∃ system ∈ block.protection.systems,
      system.isContinuous = true ∧ train.contains system = true)
  | .signalled | .virtual => block.protection.isCompatibleWith train

/-! ### Deriving the sections -/

/-- What the protection over a stretch means for its blocks. -/
structure ProtectionSummary where
  confidence : Confidence
  anyUnprotected : Bool
  continuous : Bool
  governing : TrainProtection

/-- A rounded fraction of a stretch, counted from its start. -/
def splitPoint (start span : Length) (index count : Int) : Length :=
  let numerator := mulSat64 span index
  let half := count / 2
  start.plus (addSat64 numerator half / count)

/-- Sums up the protection over a stretch. -/
def protectionOver (protection : BandProfile TrainProtection) (start finish : Length) :
    ProtectionSummary :=
  let bands := protection.bands.filter fun band =>
    ! (decide (band.finish ≤ start) || decide (finish ≤ band.start))
  let common := bands.foldl (fun common band =>
    some (match common with
      | some bisher => bisher ∩ band.value.systems
      | none => band.value.systems)) none
  { confidence := bands.foldl (fun confidence band =>
      confidence.weakest band.provenance.confidence) .surveyed
    anyUnprotected := bands.isEmpty || bands.any fun band => band.value.isUnprotected
    continuous := !bands.isEmpty && bands.all fun band => band.value.hasContinuousSupervision
    governing := ⟨common.getD ∅⟩ }

/-- A block of a track; its class follows from its kind and from its protection. -/
def makeBlock (track : Track) (start finish : Length) (kind : BlockKind) : BlockSection :=
  let summary := protectionOver track.protection start finish
  { track := track.id
    start := start
    finish := finish
    kind := kind
    protection := summary.governing
    qualityClass := if summary.anyUnprotected then .c
      else .fromConfidence (kind.basisConfidence.weakest summary.confidence) }

/-- What becomes of the stretch between two boundaries. -/
inductive SegmentPlan where
  | single (kind : BlockKind)
  | splitVirtual

/-- A supervised or marked stretch is one block; only a long one without any data is cut. -/
def planSegment (rawLength maxLength : Length) (summary : ProtectionSummary)
    (anyMain bothMarked anyMarked : Bool) : SegmentPlan :=
  if summary.anyUnprotected then .single .virtual
  else if summary.continuous then .single (if anyMain then .signalled else .cabSignalled)
  else if bothMarked then .single .signalled
  else if rawLength ≤ maxLength then .single (if anyMarked then .signalled else .virtual)
  else .splitVirtual

def checkTrackSignals (trackLength : Length) : Option Length → List Signal → Except InfraError Unit
  | _, [] => .ok ()
  | previous, signal :: signals =>
    if previous.any fun vorher => decide (signal.position < vorher) then
      .error (.unorderedSignals signal.position)
    else if signal.position < 0 ∨ trackLength < signal.position then
      .error (.signalOutsideTrack signal.position trackLength)
    else checkTrackSignals trackLength (some signal.position) signals

/-- The blocks of the stretch between two boundaries. -/
def blocksBetween (track : Track) (mainPositions markerPositions : List Length)
    (maxBlockLength start finish : Length) : List BlockSection :=
  let rawLength := finish.minus start
  let summary := protectionOver track.protection start finish
  let anyMain := decide (start ∈ mainPositions) || decide (finish ∈ mainPositions)
  let bothMarked := decide (start ∈ markerPositions) && decide (finish ∈ markerPositions)
  let anyMarked := decide (start ∈ markerPositions) || decide (finish ∈ markerPositions)
  match planSegment rawLength maxBlockLength summary anyMain bothMarked anyMarked with
  | .single kind => [makeBlock track start finish kind]
  | .splitVirtual =>
    let count := addSat64 rawLength (maxBlockLength - 1) / maxBlockLength
    (List.range count.toNat).map fun schritt =>
      makeBlock track (splitPoint start rawLength schritt count)
        (splitPoint start rawLength (schritt + 1) count) .virtual

def deriveBlockSections (track : Track) (signals : List Signal) (maxBlockLength : Length) :
    Except InfraError (List BlockSection) :=
  if maxBlockLength ≤ 0 then .error (.nonPositiveLength "Blockhöchstlänge" maxBlockLength)
  else do
    checkTrackSignals track.length none signals
    let markers := signals.filter fun signal => signal.kind.boundsBlock
    let mains := markers.filter fun signal => signal.kind.isLinesideMain
    let boundaries : KeySet Length :=
      ExtTreeSet.ofList (0 :: track.length :: markers.map Signal.position) compare
    let points := boundaries.toList
    pure ((points.zip points.tail).flatMap fun stretch =>
      blocksBetween track (mains.map Signal.position) (markers.map Signal.position)
        maxBlockLength stretch.1 stretch.2)

end Zugfolge.Infra
