/-
What the conflict engine knows about the network.

The view puts block sections, interlocking plans and signalling parameters beside the
operating graph, and answers which resources a track consists of for a train.  Setting and
releasing a route takes as long as the interlocking of the operating point needs; the sighting
time, the approach distance and the overlap belong to the operating point.
-/
import Zugfolge.Conflict.Blocking
import Zugfolge.Infra.Blocks
import Zugfolge.Infra.Graph

namespace Zugfolge.Conflict

open Infra (Length)
open Foundation Std

inductive InterlockingKind where
  | mechanical
  | electroMechanical
  | relay
  | electronic
  | digital

namespace InterlockingKind

/-- The seconds to set and lock a route. -/
def routeSettingTimeS : InterlockingKind → Int
  | mechanical => 60
  | electroMechanical => 40
  | relay => 20
  | electronic => 12
  | digital => 8

def routeReleaseTimeS : InterlockingKind → Int
  | mechanical => 30
  | electroMechanical => 20
  | relay => 12
  | electronic => 6
  | digital => 4

lemma routeSettingTimeS_pos (kind : InterlockingKind) : 0 < kind.routeSettingTimeS := by
  cases kind <;> decide

lemma routeReleaseTimeS_pos (kind : InterlockingKind) : 0 < kind.routeReleaseTimeS := by
  cases kind <;> decide

end InterlockingKind

/-- The parameters of an operating point. -/
structure SignallingParameters where
  interlocking : InterlockingKind
  signalSightingTimeS : Int
  approachDistance : Length
  overlapLength : Length
  sightingNonneg : 0 ≤ signalSightingTimeS
  approachPositive : 0 < approachDistance
  overlapPositive : 0 < overlapLength

namespace SignallingParameters

/-- The default values: an electronic interlocking on a main line. -/
def electronicMainLine : SignallingParameters where
  interlocking := .electronic
  signalSightingTimeS := 5
  approachDistance := Length.fromMetres 1000
  overlapLength := Length.fromMetres 200
  sightingNonneg := by decide
  approachPositive := by decide
  overlapPositive := by decide

/-- Checks the parameters of an operating point. -/
def new (interlocking : InterlockingKind) (signalSightingTimeS : Int)
    (approachDistance overlapLength : Length) : Except ConflictError SignallingParameters :=
  if hsighting : 0 ≤ signalSightingTimeS then
    if happroach : 0 < approachDistance then
      if hoverlap : 0 < overlapLength then
        .ok ⟨interlocking, signalSightingTimeS, approachDistance, overlapLength, hsighting,
          happroach, hoverlap⟩
      else .error (.nonPositiveLength "Durchrutschweg" overlapLength)
    else .error (.nonPositiveLength "Vorsignalabstand" approachDistance)
  else .error (.negativeDuration "Signalsichtzeit" signalSightingTimeS)

variable (parameters : SignallingParameters)

/-- The seconds to set and lock a route. -/
def routeSettingTimeS : Int := parameters.interlocking.routeSettingTimeS

def routeReleaseTimeS : Int := parameters.interlocking.routeReleaseTimeS

end SignallingParameters

/-- The default parameters of a network and its exceptions. -/
structure SignallingModel where
  default : SignallingParameters
  perPoint : Registry OperatingPointId SignallingParameters

namespace SignallingModel

/-- The same parameters everywhere. -/
def new (parameters : SignallingParameters) : SignallingModel := ⟨parameters, ∅⟩

/-- Other parameters for one operating point. -/
def withPoint (model : SignallingModel) (point : OperatingPointId)
    (parameters : SignallingParameters) : SignallingModel :=
  { model with perPoint := model.perPoint.insert point parameters }

/-- The parameters of an operating point. -/
def «at» (model : SignallingModel) (point : OperatingPointId) : SignallingParameters :=
  (model.perPoint[point]?).getD model.default

end SignallingModel

open Infra (Length OperatingGraph Track BlockSection TrainCharacteristics)

/-- A piece of track, along the chainage, that holds exactly one resource. -/
structure ResourceSpan where
  resource : ConflictResource
  start : Length
  finish : Length

/-- All that the conflict engine knows about the network. -/
structure Infrastructure where
  graph : OperatingGraph
  blocks : Registry TrackId (List BlockSection)
  interlocking : Registry OperatingPointId InterlockingPlan
  exclusions : ResourceExclusions
  signalling : SignallingModel

namespace Infrastructure

variable (infrastructure : Infrastructure)

/-- The track with this number. -/
def track (id : TrackId) : Except ConflictError Track :=
  match infrastructure.graph.track id with
  | some track => .ok track
  | none => .error (.unknownTrack id)

/-- The block with this place among the sections of a track. -/
def blockSpan (id : TrackId) (numbered : BlockSection × ℕ) : ResourceSpan :=
  ⟨.block id (min numbered.2 u32Max), numbered.1.start, numbered.1.finish⟩

/-- The resources of a track in the order of the chainage. -/
def spansOf (id : TrackId) : Except ConflictError (List ResourceSpan) :=
  match infrastructure.track id with
  | .error error => .error error
  | .ok track =>
    if track.owner.point.isSome then .ok [⟨.track id, 0, track.length⟩]
    else match infrastructure.blocks[id]? with
      | some (first :: sections) => .ok ((first :: sections).zipIdx.map (blockSpan id))
      | _ => .ok [⟨.block id 0, 0, track.length⟩]

/-- The resources of a track that a train can use with its protection. -/
def spansOfForTrain (id : TrackId) (train : TrainCharacteristics) :
    Except ConflictError (List ResourceSpan) :=
  match infrastructure.track id with
  | .error error => .error error
  | .ok track =>
    if track.owner.point.isSome then infrastructure.spansOf id
    else match infrastructure.blocks[id]? with
      | none => infrastructure.spansOf id
      | some sections =>
        if sections.isEmpty then infrastructure.spansOf id
        else
          let usable := sections.zipIdx.filter fun numbered =>
            numbered.1.isUsableByTrain train.protection
          if usable.isEmpty then .error (.noCompatibleBlock id)
          else .ok (usable.map (blockSpan id))

/-- The stored block sections of a track on the line; none for a track that counts as one
block or lies in an operating point. -/
def sectionsOf (id : TrackId) : List BlockSection :=
  match infrastructure.graph.track id with
  | none => []
  | some track => if track.owner.point.isSome then [] else (infrastructure.blocks[id]?).getD []

variable {infrastructure} {id : TrackId} {train : TrainCharacteristics}

lemma track_eq_ok {track : Track} :
    infrastructure.track id = .ok track ↔ infrastructure.graph.track id = some track := by
  rw [Infrastructure.track]
  cases infrastructure.graph.track id with
  | none => simp
  | some found => simp

/-- A track without stored sections is one resource over its whole length. -/
lemma spansOfForTrain_whole (train : TrainCharacteristics) {track : Track}
    (htrack : infrastructure.graph.track id = some track)
    (hnone : infrastructure.sectionsOf id = []) :
    ∃ resource, infrastructure.spansOfForTrain id train = .ok [⟨resource, 0, track.length⟩] := by
  have hok := track_eq_ok.mpr htrack
  rw [sectionsOf, htrack] at hnone
  by_cases hstation : track.owner.point.isSome = true
  · exact ⟨.track id, by simp [spansOfForTrain, spansOf, hok, hstation]⟩
  · refine ⟨.block id 0, ?_⟩
    cases hblocks : infrastructure.blocks[id]? with
    | none => simp [spansOfForTrain, spansOf, hok, hstation, hblocks]
    | some sections =>
      cases sections with
      | nil => simp [spansOfForTrain, spansOf, hok, hstation, hblocks]
      | cons first rest => simp [hstation, hblocks] at hnone

/-- Of stored sections a train gets those that it can use. -/
lemma spansOfForTrain_sections {spans : List ResourceSpan}
    (hsections : infrastructure.sectionsOf id ≠ [])
    (hspans : infrastructure.spansOfForTrain id train = .ok spans) :
    spans.map (fun span => (span.start, span.finish))
      = ((infrastructure.sectionsOf id).filter fun block =>
          block.isUsableByTrain train.protection).map
        fun block => (block.start, block.finish) := by
  cases htrack : infrastructure.graph.track id with
  | none => simp [sectionsOf, htrack] at hsections
  | some track =>
    have hok := track_eq_ok.mpr htrack
    by_cases hstation : track.owner.point.isSome = true
    · simp [sectionsOf, htrack, hstation] at hsections
    · cases hblocks : infrastructure.blocks[id]? with
      | none => simp [sectionsOf, htrack, hstation, hblocks] at hsections
      | some sections =>
        have hsame : infrastructure.sectionsOf id = sections := by
          simp [sectionsOf, htrack, hstation, hblocks]
        rw [hsame] at hsections ⊢
        have hstored : sections.isEmpty = false := by
          rw [← Bool.not_eq_true, List.isEmpty_iff]
          exact hsections
        simp only [spansOfForTrain, hok, hstation, hblocks, hstored, Bool.false_eq_true,
          if_false] at hspans
        split at hspans
        · cases hspans
        · cases hspans
          have hfilter : sections.filter
                (fun block => block.isUsableByTrain train.protection)
              = (sections.zipIdx.filter fun numbered =>
                  numbered.1.isUsableByTrain train.protection).map Prod.fst := by
            conv_lhs => rw [← List.zipIdx_map_fst 0 sections]
            rw [List.filter_map]
            rfl
          rw [hfilter, List.map_map, List.map_map]
          rfl

end Infrastructure

/-! ### Building the view -/

/-- The parts of a view that is being built. -/
structure InfrastructureBuilder where
  graph : OperatingGraph
  blocks : Registry TrackId (List BlockSection)
  interlocking : Registry OperatingPointId InterlockingPlan
  signalling : SignallingModel

/-- A new view of a graph. -/
def Infrastructure.builder (graph : OperatingGraph) : InfrastructureBuilder :=
  ⟨graph, ∅, ∅, .new .electronicMainLine⟩

namespace InfrastructureBuilder

variable (builder : InfrastructureBuilder)

/-- Stores the block sections of a track. -/
def withBlocks (track : TrackId) (sections : List BlockSection) : InfrastructureBuilder :=
  { builder with blocks := builder.blocks.insert track sections }

/-- Stores the interlocking plan of an operating point. -/
def withInterlocking (plan : InterlockingPlan) : InfrastructureBuilder :=
  { builder with interlocking := builder.interlocking.insert plan.operatingPoint plan }

/-- Stores the signalling parameters. -/
def withSignalling (signalling : SignallingModel) : InfrastructureBuilder :=
  { builder with signalling := signalling }

/-- Block sections belong to a track of the line and lie on it. -/
def checkBlocks (entry : TrackId × List BlockSection) : Except ConflictError Unit :=
  match builder.graph.track entry.1 with
  | none => .error (.unknownTrack entry.1)
  | some track =>
    if entry.2.any fun block => block.track ≠ entry.1 then .error (.unknownTrack entry.1)
    else if track.owner.point.isSome then .error (.blocksOnStationTrack entry.1)
    else .ok ()

/-- An interlocking plan belongs to a known operating point. -/
def checkInterlocking (point : OperatingPointId) : Except ConflictError Unit :=
  if (builder.graph.operatingPoint point).isNone then .error (.unknownOperatingPoint point)
  else .ok ()

/-- Checks the references and builds the view. -/
def build : Except ConflictError Infrastructure := do
  builder.blocks.toList.forM builder.checkBlocks
  builder.interlocking.keys.forM builder.checkInterlocking
  pure ⟨builder.graph, builder.blocks, builder.interlocking,
    (Registry.values builder.interlocking).foldl ResourceExclusions.withPlan .new,
    builder.signalling⟩

end InfrastructureBuilder

end Zugfolge.Conflict
