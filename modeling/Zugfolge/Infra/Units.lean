/-
Units, errors and the quality of data.

Lengths and positions are whole millimetres, speeds millimetres per second and gradients
tenths of a per mille.  Sums and differences of lengths stop at the bounds of 64 bits.  An
error says what is wrong with the data, and names the object and the value.  Every value of the
operating graph says how far it can be trusted.
-/
import Zugfolge.Foundation.Machine
import Zugfolge.Foundation.Registry

namespace Zugfolge.Infra

open Foundation

/-- A length or a position along a track, in millimetres. -/
abbrev Length : Type := Int

/-- A speed, in millimetres per second. -/
abbrev Speed : Type := Int

/-- A gradient in the direction of the chainage, in tenths of a per mille. -/
abbrev Gradient : Type := Int

/-- An acceleration, in millimetres per second squared. -/
abbrev Acceleration : Type := Int

/-- A mass, in kilograms. -/
abbrev Mass : Type := Int

/-- The direction of a run, seen along the chainage. -/
inductive TravelDirection where
  | withChainage
  | againstChainage
  deriving DecidableEq

/-- The other direction. -/
def TravelDirection.opposite : TravelDirection → TravelDirection
  | withChainage => againstChainage
  | againstChainage => withChainage

namespace Length

/-- A length in whole metres. -/
def fromMetres (metres : Int) : Length := mulSat64 metres 1000

/-- The sum of two lengths. -/
def plus (a b : Length) : Length := addSat64 a b

/-- The difference of two lengths. -/
def minus (a b : Length) : Length := subSat64 a b

lemma plus_le {a b : Length} (h : i64Min ≤ a + b) : plus a b ≤ a + b :=
  clamp64_le h le_rfl

lemma plus_nonneg {a b : Length} (h : 0 ≤ a + b) : 0 ≤ plus a b := by
  have hmono := clamp64_mono h
  rwa [clamp64_of_mem ⟨by decide, by decide⟩] at hmono

lemma plus_eq {a b : Length} (h : i64Min ≤ a + b ∧ a + b ≤ i64Max) : plus a b = a + b :=
  clamp64_of_mem h

lemma minus_eq {a b : Length} (h : i64Min ≤ a - b ∧ a - b ≤ i64Max) : minus a b = a - b :=
  clamp64_of_mem h

end Length

open Foundation Std

abbrev OperatingPointId : Type := ℕ

abbrev TrackEdgeId : Type := ℕ

abbrev TrackId : Type := ℕ

abbrev PlatformId : Type := ℕ

abbrev HeadNodeId : Type := ℕ

abbrev HeadElementId : Type := ℕ

abbrev SwitchId : Type := ℕ

abbrev HeadSignalId : Type := ℕ

/-- What is wrong with the operating graph or with one of its parts. -/
inductive InfraError where
  | emptyName (what : String)
  | nonPositiveLength (what : String) (value : Length)
  | nonPositiveSpeed (what : String) (value : Speed)
  | nonPositiveMass (what : String) (value : Mass)
  | nonPositiveAcceleration (what : String) (value : Acceleration)
  | emptyElectricSystems
  | emptyProfile (what : String)
  | profileStart (what : String) (first : Length)
  | profileBand (what : String) (index : ℕ)
  | profileGap (what : String) (index : ℕ) (ends starts : Length)
  | profileEnd (what : String) (last length : Length)
  | missingProfile (what : String)
  | profileLength (what : String) (profile track : Length)
  | usableLengthExceedsLength (track : TrackId) (usable length : Length)
  | emptyGraph
  | duplicateOperatingPoint (point : OperatingPointId)
  | duplicateOperatingPointCode (code : String) (first second : OperatingPointId)
  | duplicateEdge (edge : TrackEdgeId)
  | duplicateTrack (track : TrackId)
  | duplicatePlatform (platform : PlatformId)
  | unknownEdgeEndpoint (edge : TrackEdgeId) (point : OperatingPointId)
  | selfLoopEdge (edge : TrackEdgeId)
  | unknownTrackOwner (track : TrackId)
  | duplicateTrackDesignation (designation : String) (first second : TrackId)
  | unknownPlatformTrack (platform : PlatformId) (track : TrackId)
  | platformOnLine (platform : PlatformId) (track : TrackId)
  | platformOutsideTrack (platform : PlatformId) (finish trackLength : Length)
  | edgeWithoutTrack (edge : TrackEdgeId)
  | operatingPointWithoutTrack (point : OperatingPointId)
  | isolatedOperatingPoint (point : OperatingPointId)
  | unorderedSignals (position : Length)
  | signalOutsideTrack (position trackLength : Length)
  | invalidRunRange (track : TrackId) (start finish : Length)
  | trackProfileGap (track : TrackId) (position : Length)
  | trainProtectionIncompatible (track : TrackId) (position : Length)
  | trainTractionIncompatible (track : TrackId) (position : Length)
  | emptyRunPath
  | insufficientTraction (position : Length)
  | insufficientBraking (position : Length)
  | emptyStationHead
  | duplicateHeadNode (node : HeadNodeId)
  | duplicateHeadElement (element : HeadElementId)
  | duplicateSwitch (switch : SwitchId)
  | duplicateHeadSignal (signal : HeadSignalId)
  | unknownElementNode (element : HeadElementId) (node : HeadNodeId)
  | selfLoopHeadElement (element : HeadElementId)
  | headNodeDegree (node : HeadNodeId) (kind : String) (expected actual : ℕ)
  | switchNodeMismatch (switch : SwitchId)
  | signalPlacement (signal : HeadSignalId)

/-! ### Filing -/

/-- Every object of a registry stands under its own number. -/
def Keyed {β : Type} (id : β → ℕ) (objects : Registry ℕ β) : Prop :=
  ∀ key object, objects[key]? = some object → id object = key

/-- Files objects under their numbers and reports the first number given twice. -/
def sammle {β : Type} (id : β → ℕ) (duplicate : ℕ → InfraError) (items : List β) :
    Except InfraError (Registry ℕ β) :=
  items.foldlM (fun filed item =>
    if filed.contains (id item) then .error (duplicate (id item))
    else .ok (filed.insert (id item) item)) ∅

lemma sammle_keyed {β : Type} {id : β → ℕ} {duplicate : ℕ → InfraError} {items : List β}
    {filed : Registry ℕ β} (h : sammle id duplicate items = .ok filed) : Keyed id filed := by
  have hfold : ∀ (items : List β) (start : Registry ℕ β), Keyed id start →
      items.foldlM (fun filed item =>
        if filed.contains (id item) then Except.error (duplicate (id item))
        else Except.ok (filed.insert (id item) item)) start = .ok filed → Keyed id filed := by
    intro items
    induction items with
    | nil =>
      intro start hstart heq
      cases heq
      exact hstart
    | cons item items ih =>
      intro start hstart heq
      rw [List.foldlM_cons] at heq
      split at heq
      · cases heq
      · refine ih _ (fun key object hobject => ?_) heq
        rw [Registry.getElem?_insert] at hobject
        split at hobject
        next hkey =>
          cases hobject
          exact hkey.symm
        · exact hstart key object hobject
  exact hfold items ∅ (by simp [Keyed]) h

/-- How far data can be trusted. -/
inductive Confidence where
  | assumed
  | derived
  | surveyed

namespace Confidence

/-- The place of a degree of trust, from the weakest one on. -/
def rank : Confidence → ℕ
  | assumed => 0
  | derived => 1
  | surveyed => 2

/-- The weaker of two degrees of trust. -/
def weakest (a b : Confidence) : Confidence := if a.rank ≤ b.rank then a else b

end Confidence

/-- Where data come from; of the source only its confidence is used. -/
structure Provenance where
  confidence : Confidence

/-- The quality of derived data. -/
inductive QualityClass where
  | c
  | b
  | a

/-- The best class a confidence supports. -/
def QualityClass.fromConfidence : Confidence → QualityClass
  | .assumed => c
  | .derived => b
  | .surveyed => a

end Zugfolge.Infra
