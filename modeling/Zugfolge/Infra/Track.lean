/-
Tracks.

A track lies on an edge between two operating points or within one operating point.  Its
speed, gradient, electrification and protection are profiles over its whole length.
-/
import Zugfolge.Infra.Bands
import Zugfolge.Infra.Train

namespace Zugfolge.Infra

/-- Where a track lies. -/
inductive TrackOwner where
  | edge (edge : TrackEdgeId)
  | operatingPoint (point : OperatingPointId)
  deriving DecidableEq

/-- The operating point a track belongs to, if it does not lie on the line. -/
def TrackOwner.point : TrackOwner → Option OperatingPointId
  | edge _ => none
  | operatingPoint point => some point

inductive TrackKind where
  | throughMainTrack
  | mainTrack
  | secondaryTrack
  | stablingTrack
  | sidingTrack

/-- Trains run on the track; on the others there is only shunting. -/
def TrackKind.carriesTrainRuns : TrackKind → Bool
  | throughMainTrack | mainTrack => true
  | secondaryTrack | stablingTrack | sidingTrack => false

/-- In which direction a track is used. -/
inductive TrackDirection where
  | bidirectional
  | withChainage
  | againstChainage

/-- A run in this direction is allowed. -/
def TrackDirection.allows : TrackDirection → TravelDirection → Bool
  | bidirectional, _ => true
  | withChainage, direction => direction == .withChainage
  | againstChainage, direction => direction == .againstChainage

structure Track where
  id : TrackId
  owner : TrackOwner
  designation : String
  kind : TrackKind
  direction : TrackDirection
  length : Length
  speed : BandProfile SpeedLimit
  gradient : BandProfile Gradient
  electrification : BandProfile Electrification
  protection : BandProfile TrainProtection
  positive : 0 < length
  bounded : length ≤ Foundation.i64Max
  covered : speed.length = length ∧ gradient.length = length ∧
    electrification.length = length ∧ protection.length = length

namespace Track

variable (track : Track)

def speedAt (position : Length) : Option SpeedLimit := track.speed.valueAt position

/-- The gradient at a position, seen in the direction of a run. -/
def gradientFor (position : Length) (direction : TravelDirection) : Option Gradient :=
  (track.gradient.valueAt position).map fun gradient =>
    match direction with
    | .withChainage => gradient
    | .againstChainage => max (-Foundation.i32Max - 1) (min Foundation.i32Max (-gradient))

def electrificationAt (position : Length) : Option Electrification :=
  track.electrification.valueAt position

def protectionAt (position : Length) : Option TrainProtection :=
  track.protection.valueAt position

end Track

/-- A track that is being built; its length is a value of 64 bits. -/
structure TrackBuilder where
  id : TrackId
  owner : TrackOwner
  designation : String
  length : Length
  bounded : length ≤ Foundation.i64Max
  kind : TrackKind
  direction : TrackDirection
  usableLength : Option Length
  speed : Option (BandProfile SpeedLimit)
  gradient : Option (BandProfile Gradient)
  electrification : Option (BandProfile Electrification)
  protection : Option (BandProfile TrainProtection)

/-- A new track, without any profile yet. -/
def Track.builder (id : TrackId) (owner : TrackOwner) (designation : String) (length : Length)
    (bounded : length ≤ Foundation.i64Max) : TrackBuilder :=
  ⟨id, owner, designation, length, bounded, .mainTrack, .bidirectional, none, none, none, none,
    none⟩

/-- A profile that must be there and have the length of the track. -/
def pflichtprofil {α : Type} (profile : Option (BandProfile α)) (what : String)
    (length : Length) : Except InfraError {profile : BandProfile α // profile.length = length} :=
  match profile with
  | none => .error (.missingProfile what)
  | some profile =>
    if h : profile.length = length then .ok ⟨profile, h⟩
    else .error (.profileLength what profile.length length)

/-- Checks the lengths and the profiles of a track. -/
def TrackBuilder.build (builder : TrackBuilder) : Except InfraError Track :=
  let usable := builder.usableLength.getD builder.length
  if Foundation.Text.isBlank builder.designation then .error (.emptyName "Gleis")
  else if hlength : 0 < builder.length then
    if usable ≤ 0 then .error (.nonPositiveLength "Nutzlänge" usable)
    else if builder.length < usable then
      .error (.usableLengthExceedsLength builder.id usable builder.length)
    else do
      let speed ← pflichtprofil builder.speed "vmax" builder.length
      let gradient ← pflichtprofil builder.gradient "neigung" builder.length
      let electrification ←
        pflichtprofil builder.electrification "elektrifizierung" builder.length
      let protection ← pflichtprofil builder.protection "zugsicherung" builder.length
      pure ⟨builder.id, builder.owner, builder.designation, builder.kind, builder.direction,
        builder.length, speed.1, gradient.1, electrification.1, protection.1, hlength,
        builder.bounded, speed.2, gradient.2, electrification.2, protection.2⟩
  else .error (.nonPositiveLength "Gleislänge" builder.length)

/-! ### A plain line -/

namespace PlainLine

def surveyed : Provenance := ⟨.surveyed⟩

/-- A level track for 120 km/h with the given supply and protection. -/
def track (length : Length) (bounded : length ≤ Foundation.i64Max)
    (electrification : List (Band Electrification)) (protection : List (Band TrainProtection)) :
    Except InfraError Track := do
  let speed ← BandProfile.uniform "vmax" length (← SpeedLimit.uniform 33334) surveyed
  let gradient ← BandProfile.uniform "neigung" length (0 : Gradient) surveyed
  let electrification ← BandProfile.new "elektrifizierung" length electrification
  let protection ← BandProfile.new "zugsicherung" length protection
  { Track.builder 21 (.edge 1) "Gleis" length bounded with
    speed := some speed
    gradient := some gradient
    electrification := some electrification
    protection := some protection }.build

/-- A line under overhead wire with inductive protection all along. -/
def uniform (length : Length) (bounded : length ≤ Foundation.i64Max) : Except InfraError Track :=
  track length bounded [⟨0, length, .overhead .ac15kV, surveyed⟩]
    [⟨0, length, .single .pzb, surveyed⟩]

end PlainLine

end Zugfolge.Infra
