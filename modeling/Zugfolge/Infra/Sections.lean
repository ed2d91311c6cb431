/-
The sections of a track tile it.

Every block marker and both ends of the track bound a section; what lies between two
neighbouring boundaries is one section or is cut into virtual ones of nearly equal length.
The cut is computed in saturating numbers, so it is right only as long as the product of
the length and the number of parts fits into 64 bits.
-/
import Zugfolge.Foundation.Collect
import Zugfolge.Foundation.Tilings
import Zugfolge.Infra.Blocks
import Zugfolge.Infra.Dynamics

namespace Zugfolge.Infra

open Foundation
open Std (ExtTreeSet)

/-- Start and end of a section. -/
def BlockSection.span (block : BlockSection) : Length × Length := (block.start, block.finish)

variable (track : Track) (signals : List Signal) (maxBlockLength : Length)

/-- The signals and markers that bound a block. -/
def blockMarkers : List Signal := signals.filter fun signal => signal.kind.boundsBlock

/-- The ends of the track and the positions of its block markers, in order. -/
def realBoundaries : List Length :=
  (ExtTreeSet.ofList (0 :: track.length :: (blockMarkers signals).map Signal.position) compare
    : KeySet Length).toList

/-- What becomes of the stretch between two neighbouring boundaries. -/
def planOf (stretch : Length × Length) : SegmentPlan :=
  let mains := ((blockMarkers signals).filter fun signal => signal.kind.isLinesideMain).map
    Signal.position
  let markers := (blockMarkers signals).map Signal.position
  planSegment (stretch.2.minus stretch.1) maxBlockLength
    (protectionOver track.protection stretch.1 stretch.2)
    (decide (stretch.1 ∈ mains) || decide (stretch.2 ∈ mains))
    (decide (stretch.1 ∈ markers) && decide (stretch.2 ∈ markers))
    (decide (stretch.1 ∈ markers) || decide (stretch.2 ∈ markers))

/-- The sections between two neighbouring boundaries. -/
def blocksOf (stretch : Length × Length) : List BlockSection :=
  blocksBetween track
    (((blockMarkers signals).filter fun signal => signal.kind.isLinesideMain).map
      Signal.position)
    ((blockMarkers signals).map Signal.position) maxBlockLength stretch.1 stretch.2

/-- How many parts of at most a given length a stretch needs. -/
def partsNeeded (most length : Int) : Int := (length + most - 1) / most

variable {track signals maxBlockLength}

lemma deriveBlockSections_eq_ok {sections : List BlockSection} :
    deriveBlockSections track signals maxBlockLength = .ok sections ↔
      0 < maxBlockLength ∧ checkTrackSignals track.length none signals = .ok () ∧
        (windows (realBoundaries track signals)).flatMap (blocksOf track signals maxBlockLength)
          = sections := by
  rw [deriveBlockSections]
  split
  next hmax =>
    constructor
    · intro h
      cases h
    · intro h
      exact absurd h.1 (not_lt.mpr hmax)
  next hmax =>
    rw [not_le] at hmax
    cases hcheck : checkTrackSignals track.length none signals with
    | error error =>
      constructor
      · intro h
        cases h
      · rintro ⟨-, h, -⟩
        cases h
    | ok _ =>
      constructor
      · intro h
        exact ⟨hmax, rfl, Except.ok.inj h⟩
      · rintro ⟨-, -, h⟩
        exact congrArg Except.ok h

/-- Signals that pass the check lie on the track. -/
lemma position_of_check {length : Length} {previous : Option Length}
    (h : checkTrackSignals length previous signals = .ok ()) :
    ∀ signal ∈ signals, 0 ≤ signal.position ∧ signal.position ≤ length := by
  induction signals generalizing previous with
  | nil =>
    intro signal hsignal
    cases hsignal
  | cons first signals ih =>
    rw [checkTrackSignals] at h
    split at h
    · cases h
    · split at h
      · cases h
      next hinside =>
        rw [not_or, not_lt, not_lt] at hinside
        exact List.forall_mem_cons.mpr ⟨hinside, ih h⟩

lemma mem_realBoundaries {position : Length} :
    position ∈ realBoundaries track signals ↔ position = 0 ∨ position = track.length ∨
      ∃ signal ∈ signals, signal.kind.boundsBlock = true ∧ signal.position = position := by
  simp only [realBoundaries, blockMarkers, ExtTreeSet.mem_toList, KeySet.mem_ofList,
    List.mem_cons, List.mem_map, List.mem_filter, and_assoc]

lemma realBoundaries_sorted : (realBoundaries track signals).Pairwise (· < ·) :=
  KeySet.sorted_toList _

/-- Boundaries from signals on the track reach from its start to its end. -/
lemma realBoundaries_ends
    (hsignals : ∀ signal ∈ signals, 0 ≤ signal.position ∧ signal.position ≤ track.length) :
    (∀ position ∈ realBoundaries track signals, 0 ≤ position ∧ position ≤ track.length) ∧
    ∃ rest, realBoundaries track signals = 0 :: rest ∧
      ((0 : Length) :: rest).getLast (by simp) = track.length := by
  have hbounds : ∀ position ∈ realBoundaries track signals,
      0 ≤ position ∧ position ≤ track.length := by
    intro position hposition
    rcases mem_realBoundaries.mp hposition with rfl | rfl | ⟨signal, hsignal, -, rfl⟩
    · exact ⟨le_refl _, track.positive.le⟩
    · exact ⟨track.positive.le, le_refl _⟩
    · exact hsignals signal hsignal
  exact ⟨hbounds, ends_of_sorted realBoundaries_sorted (mem_realBoundaries.mpr (.inl rfl))
    (mem_realBoundaries.mpr (.inr (.inl rfl))) hbounds⟩

/-! ### Cuts -/

lemma whole_parts {length count : Int} (hcount : 0 < count) :
    (length * count + count / 2) / count = length := by
  rw [Int.mul_comm, Int.add_comm, Int.add_mul_ediv_left _ _ hcount.ne',
    Int.ediv_eq_zero_of_lt (by omega) (by omega), Int.zero_add]

/-- The cuts of a stretch, where the product fits into 64 bits. -/
lemma splitPoint_eq {start length count index : Int} (hstart : 0 ≤ start)
    (hfinish : start + length ≤ i64Max) (hcount : 0 < count) (hlength : count ≤ length)
    (hfits : length * count ≤ i64Max) (hindex : 0 ≤ index) (hle : index ≤ count) :
    splitPoint start length index count
      = start + (length * index + count / 2) / count := by
  have hbounds : i64Min ≤ 0 := by decide
  have hproduct : 0 ≤ length * index := Int.mul_nonneg (by omega) hindex
  have hmost : length * index ≤ length * count := Int.mul_le_mul_of_nonneg_left hle (by omega)
  have hquotient : clamp64 (length * index + count / 2) / count
      = (length * index + count / 2) / count := by
    rcases hle.lt_or_eq with hlt | rfl
    · have hbefore : length * (index + 1) ≤ length * count :=
        Int.mul_le_mul_of_nonneg_left (by omega) (by omega)
      rw [Int.mul_add, Int.mul_one] at hbefore
      rw [clamp64_of_mem ⟨by omega, by omega⟩]
    · -- the last cut may be stopped, but not by a whole part
      have hlow : length * index ≤ clamp64 (length * index + index / 2) := by
        have hmono := clamp64_mono (x := length * index) (y := length * index + index / 2)
          (by omega)
        rwa [clamp64_of_mem ⟨by omega, hfits⟩] at hmono
      have hhigh : clamp64 (length * index + index / 2) ≤ length * index + index / 2 :=
        clamp64_le (by omega) (le_refl _)
      rw [whole_parts hcount]
      refine le_antisymm ?_ ((Int.le_ediv_iff_mul_le hcount).mpr hlow)
      exact (Int.ediv_le_ediv hcount hhigh).trans_eq (whole_parts hcount)
  have hoffset : (length * index + count / 2) / count ≤ length :=
    calc (length * index + count / 2) / count
        ≤ (length * count + count / 2) / count := Int.ediv_le_ediv hcount (by omega)
      _ = length := whole_parts hcount
  have hnonneg : 0 ≤ (length * index + count / 2) / count :=
    Int.ediv_nonneg (by omega) hcount.le
  have hfit : clamp64 (length * index) = length * index := clamp64_of_mem ⟨by omega, by omega⟩
  have hsum : i64Min ≤ start + (length * index + count / 2) / count
      ∧ start + (length * index + count / 2) / count ≤ i64Max := ⟨by omega, by omega⟩
  rw [splitPoint, mulSat64, hfit, addSat64, hquotient]
  exact Length.plus_eq hsum

/-- The last cut falls short of the end, where the product does not fit. -/
lemma splitPoint_last_lt {start length count : Int} (hstart : 0 ≤ start) (hcount : 0 < count)
    (hover : i64Max < length * count) :
    splitPoint start length count count < start + length := by
  have hbounds : i64Min ≤ i64Max := by decide
  have hzero : 0 ≤ i64Max := by decide
  have hproduct : clamp64 (length * count) = i64Max := by
    unfold clamp64
    omega
  have hsum : clamp64 (i64Max + count / 2) = i64Max := by
    unfold clamp64
    omega
  have hshort : i64Max / count < length := (Int.ediv_lt_iff_lt_mul hcount).mpr hover
  have hnonneg : 0 ≤ i64Max / count := Int.ediv_nonneg hzero hcount.le
  have hmin : i64Min ≤ start + i64Max / count := by
    have hbelow : i64Min ≤ 0 := by decide
    omega
  rw [splitPoint, mulSat64, hproduct, addSat64, hsum]
  exact (Length.plus_le hmin).trans_lt (Int.add_lt_add_left hshort start)

lemma part_bounds {value length count most : Int} (hcount : 0 < count) (hlength : count ≤ length)
    (hmost : length ≤ count * most) :
    value / count + 1 ≤ (value + length) / count ∧
      (value + length) / count ≤ value / count + most := by
  constructor
  · rw [← Int.add_mul_ediv_left value 1 hcount.ne', Int.mul_one]
    exact Int.ediv_le_ediv hcount (by omega)
  · rw [← Int.add_mul_ediv_left value most hcount.ne']
    exact Int.ediv_le_ediv hcount (by omega)

/-- A stretch longer than a part needs at least two parts and no more than its length, and
so many parts are enough. -/
lemma partsNeeded_bounds {most length : Int} (hmost : 0 < most) (hlong : most < length) :
    2 ≤ partsNeeded most length ∧ partsNeeded most length ≤ length ∧
      length ≤ partsNeeded most length * most := by
  have hrest := Int.emod_add_mul_ediv (length + most - 1) most
  have hhigh := Int.emod_lt_of_pos (length + most - 1) hmost
  refine ⟨(Int.le_ediv_iff_mul_le hmost).mpr (by omega), ?_, ?_⟩
  · refine Int.le_of_lt_add_one ((Int.ediv_lt_iff_lt_mul hmost).mpr ?_)
    have hlength : length * 1 ≤ length * most :=
      Int.mul_le_mul_of_nonneg_left (by omega) (by omega)
    calc length + most - 1 < length * most + most := by omega
      _ = (length + 1) * most := by ring
  · rw [partsNeeded, Int.mul_comm]
    omega

/-! ### The sections of one stretch -/

lemma lt_of_splitVirtual {rawLength maxLength : Length} {summary : ProtectionSummary}
    {anyMain bothMarked anyMarked : Bool}
    (h : planSegment rawLength maxLength summary anyMain bothMarked anyMarked
      = .splitVirtual) : maxLength < rawLength := by
  rw [planSegment] at h
  split_ifs at h with hprotected hcontinuous hmarked hshort
  exact not_le.mp hshort

lemma blocksOf_single {stretch : Length × Length} {kind : BlockKind}
    (h : planOf track signals maxBlockLength stretch = .single kind) :
    blocksOf track signals maxBlockLength stretch
      = [makeBlock track stretch.1 stretch.2 kind] := by
  rw [planOf] at h
  simp only [blocksOf, blocksBetween, h]

/-- The number of parts a stretch is cut into, in saturating numbers. -/
def partCount (most length : Int) : Int := addSat64 length (most - 1) / most

/-- A part of a stretch that is cut. -/
def part (track : Track) (start length count : Int) (i : ℕ) : BlockSection :=
  makeBlock track (splitPoint start length i count) (splitPoint start length (i + 1 : ℕ) count)
    .virtual

lemma blocksOf_split {stretch : Length × Length}
    (h : planOf track signals maxBlockLength stretch = .splitVirtual) :
    blocksOf track signals maxBlockLength stretch
      = (List.range (partCount maxBlockLength (stretch.2.minus stretch.1)).toNat).map
          (part track stretch.1 (stretch.2.minus stretch.1)
            (partCount maxBlockLength (stretch.2.minus stretch.1))) := by
  rw [planOf] at h
  simp only [blocksOf, blocksBetween, h, List.bind_eq_flatMap, List.pure_def,
    ← List.map_eq_flatMap, List.map_map]
  rfl

/-- A stretch that is cut is cut into some part, and where the product fits into as many as
it needs. -/
lemma partCount_bounds {most length : Int} (hmost : 0 < most) (hlong : most < length)
    (hlength : length ≤ i64Max) :
    0 < partCount most length ∧
      (length * partsNeeded most length ≤ i64Max →
        partCount most length = partsNeeded most length) ∧
      (i64Max < length * partsNeeded most length →
        length * partCount most length ≤ i64Max → partCount most length = 1) := by
  obtain ⟨htwo, -, -⟩ := partsNeeded_bounds hmost hlong
  have hbounds : i64Min ≤ 0 := by decide
  have hdouble : length * 2 ≤ length * partsNeeded most length :=
    Int.mul_le_mul_of_nonneg_left htwo (by omega)
  have hexact (hsum : length + most - 1 ≤ i64Max) :
      partCount most length = partsNeeded most length := by
    rw [partCount, partsNeeded, addSat64, clamp64_of_mem ⟨by omega, by omega⟩]
    congr 1
    omega
  have hpos : 0 < partCount most length := by
    refine Int.lt_of_lt_of_le Int.zero_lt_one ((Int.le_ediv_iff_mul_le hmost).mpr ?_)
    have hlow : clamp64 length ≤ addSat64 length (most - 1) := clamp64_mono (by omega)
    rw [clamp64_of_mem ⟨by omega, hlength⟩] at hlow
    omega
  refine ⟨hpos, fun hfits => hexact (by omega), fun hover hfits => ?_⟩
  by_contra hmore
  have hparts : length * 2 ≤ length * partCount most length :=
    Int.mul_le_mul_of_nonneg_left (by omega) (by omega)
  rw [hexact (by omega)] at hfits
  omega

lemma splitPoint_zero {start length count : Int} (hstart : 0 ≤ start) (hmax : start ≤ i64Max)
    (hcount : 0 < count) : splitPoint start length 0 count = start := by
  have hbounds : i64Min ≤ 0 := by decide
  have hzero : clamp64 (length * 0) = 0 := by
    rw [Int.mul_zero]
    decide
  have hhalf : addSat64 0 (count / 2) / count = 0 := by
    have hlow : 0 ≤ addSat64 0 (count / 2) := by
      have hmono := clamp64_mono (x := 0) (y := 0 + count / 2) (by omega)
      rwa [show clamp64 0 = 0 by decide] at hmono
    have hhigh : addSat64 0 (count / 2) ≤ 0 + count / 2 := clamp64_le (by omega) (le_refl _)
    exact Int.ediv_eq_zero_of_lt hlow (by omega)
  have hmem : i64Min ≤ start + 0 ∧ start + 0 ≤ i64Max := ⟨by omega, by omega⟩
  rw [splitPoint, mulSat64, hzero, hhalf]
  exact (Length.plus_eq hmem).trans (Int.add_zero start)

/-- Where the product fits, every part of a stretch reaches from one cut to the next one, is
not empty and no longer than the longest block. -/
lemma part_length {start length most : Int} (hstart : 0 ≤ start)
    (hfinish : start + length ≤ i64Max) (hmost : 0 < most) (hlong : most < length)
    (hfits : length * partsNeeded most length ≤ i64Max) {i : ℕ}
    (hi : i < (partsNeeded most length).toNat) :
    splitPoint start length i (partsNeeded most length)
        < splitPoint start length (i + 1 : ℕ) (partsNeeded most length) ∧
      splitPoint start length (i + 1 : ℕ) (partsNeeded most length)
        - splitPoint start length i (partsNeeded most length) ≤ most := by
  obtain ⟨htwo, hcount, henough⟩ := partsNeeded_bounds hmost hlong
  generalize partsNeeded most length = count at *
  have hpos : 0 < count := by omega
  have hbounds := @part_bounds (length * i + count / 2) _ _ _ hpos hcount henough
  have hnext : length * ((i + 1 : ℕ) : Int) + count / 2
      = length * i + count / 2 + length := by
    push_cast
    ring
  rw [splitPoint_eq hstart hfinish hpos hcount hfits (by omega) (by omega),
    splitPoint_eq hstart hfinish hpos hcount hfits (by omega) (by omega), hnext]
  exact ⟨Int.add_lt_add_left (Int.lt_of_add_one_le hbounds.1) start, by linarith [hbounds.2]⟩

/-- Where the product fits, the parts of a stretch tile it. -/
lemma tiled_parts (track : Track) {start length most : Int} (hstart : 0 ≤ start)
    (hfinish : start + length ≤ i64Max) (hmost : 0 < most) (hlong : most < length)
    (hfits : length * partsNeeded most length ≤ i64Max) :
    Tiled BlockSection.span start
      ((List.range (partsNeeded most length).toNat).map
        (part track start length (partsNeeded most length))) (start + length) := by
  have hlt (i : ℕ) (hi : i < (partsNeeded most length).toNat) :=
    (part_length hstart hfinish hmost hlong hfits hi).1
  obtain ⟨htwo, hcount, -⟩ := partsNeeded_bounds hmost hlong
  have hpos : 0 < partsNeeded most length := by omega
  have hfirst : splitPoint start length (0 : ℕ) (partsNeeded most length) = start :=
    splitPoint_zero hstart (by omega) hpos
  have hlast : splitPoint start length ((partsNeeded most length).toNat : ℕ)
      (partsNeeded most length) = start + length := by
    rw [splitPoint_eq hstart hfinish hpos hcount hfits (by omega) (by omega),
      Int.toNat_of_nonneg hpos.le, whole_parts hpos]
  have hspan : ∀ i < (partsNeeded most length).toNat,
      (part track start length (partsNeeded most length) i).span
        = (splitPoint start length i (partsNeeded most length),
          splitPoint start length (i + 1 : ℕ) (partsNeeded most length)) := fun _ _ => rfl
  have htiled := tiled_range
    (f := fun i : ℕ => splitPoint start length i (partsNeeded most length)) hspan hlt
  rw [hfirst, hlast] at htiled
  exact htiled

/-- The cut of a stretch is right where the product of its length and the number of its
parts fits into 64 bits. -/
def CutFits (maxBlockLength : Length) (stretch : Length × Length) : Prop :=
  (stretch.2 - stretch.1) * partsNeeded maxBlockLength (stretch.2 - stretch.1) ≤ i64Max

instance (maxBlockLength : Length) (stretch : Length × Length) :
    Decidable (CutFits maxBlockLength stretch) := inferInstanceAs (Decidable (_ ≤ _))

/-- A stretch of the track: not empty, and within it. -/
structure IsStretch (track : Track) (stretch : Length × Length) : Prop where
  start : 0 ≤ stretch.1
  lt : stretch.1 < stretch.2
  finish : stretch.2 ≤ track.length

lemma IsStretch.length {stretch : Length × Length} (h : IsStretch track stretch) :
    stretch.2.minus stretch.1 = stretch.2 - stretch.1
      ∧ stretch.2 - stretch.1 ≤ i64Max := by
  have hmin : i64Min ≤ 0 := by decide
  have hfrom := h.start
  have hlt := h.lt
  have hto := h.finish.trans track.bounded
  exact ⟨Length.minus_eq ⟨by linarith, by linarith⟩, by linarith⟩

/-- The sections of a stretch start where it does. -/
lemma blocksOf_head {stretch : Length × Length} (hmax : 0 < maxBlockLength)
    (h : IsStretch track stretch) :
    ∃ block others, blocksOf track signals maxBlockLength stretch = block :: others
      ∧ block.span.1 = stretch.1 := by
  cases hplan : planOf track signals maxBlockLength stretch with
  | single kind => exact ⟨_, [], blocksOf_single hplan, rfl⟩
  | splitVirtual =>
    have hlong : maxBlockLength < stretch.2.minus stretch.1 := lt_of_splitVirtual hplan
    obtain ⟨hlength, hfits⟩ := h.length
    rw [hlength] at hlong
    obtain ⟨hpos, -, -⟩ := partCount_bounds hmax hlong hfits
    rw [blocksOf_split hplan, hlength]
    have hparts : (partCount maxBlockLength (stretch.2 - stretch.1)).toNat ≠ 0 := by omega
    obtain ⟨count, hcount⟩ := Nat.exists_eq_succ_of_ne_zero hparts
    rw [hcount, List.range_succ_eq_map, List.map_cons]
    exact ⟨_, _, rfl, splitPoint_zero h.start
      ((h.lt.le.trans h.finish).trans track.bounded) hpos⟩

/-- Where the cut fits, the sections of a stretch tile it, and none that was cut is longer
than the longest block. -/
lemma tiled_blocksOf {stretch : Length × Length} (hmax : 0 < maxBlockLength)
    (h : IsStretch track stretch)
    (hfits : planOf track signals maxBlockLength stretch = .splitVirtual →
      CutFits maxBlockLength stretch) :
    Tiled BlockSection.span stretch.1 (blocksOf track signals maxBlockLength stretch) stretch.2 ∧
      (planOf track signals maxBlockLength stretch = .splitVirtual →
        ∀ block ∈ blocksOf track signals maxBlockLength stretch,
          block.finish - block.start ≤ maxBlockLength) := by
  cases hplan : planOf track signals maxBlockLength stretch with
  | single kind =>
    rw [blocksOf_single hplan]
    refine ⟨⟨rfl, h.lt, rfl⟩, fun h => ?_⟩
    cases h
  | splitVirtual =>
    have hlong : maxBlockLength < stretch.2.minus stretch.1 := lt_of_splitVirtual hplan
    obtain ⟨hlength, hmost⟩ := h.length
    rw [blocksOf_split hplan]
    rw [hlength] at hlong ⊢
    have hcut := hfits hplan
    obtain ⟨-, hexact, -⟩ := partCount_bounds hmax hlong hmost
    rw [hexact hcut]
    have hend : stretch.1 + (stretch.2 - stretch.1) = stretch.2 := by ring
    have hinside : stretch.1 + (stretch.2 - stretch.1) ≤ i64Max := by
      rw [hend]
      exact h.finish.trans track.bounded
    constructor
    · have htiled := tiled_parts track h.start hinside hmax hlong hcut
      rwa [hend] at htiled
    · rintro - block hblock
      obtain ⟨i, hi, rfl⟩ := List.mem_map.mp hblock
      exact (part_length h.start hinside hmax hlong hcut (List.mem_range.mp hi)).2

/-- Where the cut does not fit, the sections of a stretch do not tile it or are too long. -/
lemma too_long_of_not_cutFits {stretch : Length × Length} (hmax : 0 < maxBlockLength)
    (h : IsStretch track stretch)
    (hplan : planOf track signals maxBlockLength stretch = .splitVirtual)
    (hover : ¬ CutFits maxBlockLength stretch)
    (htiled : Tiled BlockSection.span stretch.1
      (blocksOf track signals maxBlockLength stretch) stretch.2) :
    ∃ block ∈ blocksOf track signals maxBlockLength stretch,
      maxBlockLength < block.finish - block.start := by
  have hlong : maxBlockLength < stretch.2.minus stretch.1 := lt_of_splitVirtual hplan
  obtain ⟨hlength, hmost⟩ := h.length
  rw [blocksOf_split hplan] at htiled ⊢
  rw [hlength] at hlong htiled ⊢
  obtain ⟨hpos, -, hone⟩ := partCount_bounds hmax hlong hmost
  have hend : stretch.1 + (stretch.2 - stretch.1) = stretch.2 := by ring
  by_cases hfits : (stretch.2 - stretch.1)
      * partCount maxBlockLength (stretch.2 - stretch.1) ≤ i64Max
  · -- one part alone, as long as the stretch
    rw [hone (not_le.mp hover) hfits] at htiled ⊢
    obtain ⟨hstart, -, hfinish⟩ := htiled
    refine ⟨part track stretch.1 (stretch.2 - stretch.1) 1 0, List.mem_singleton_self _, ?_⟩
    have hfirst : (part track stretch.1 (stretch.2 - stretch.1) 1 0).start = stretch.1 := hstart
    have hlast : (part track stretch.1 (stretch.2 - stretch.1) 1 0).finish = stretch.2 := hfinish
    rw [hfirst, hlast]
    exact hlong
  · -- the last part ends too early
    have hparts : (partCount maxBlockLength (stretch.2 - stretch.1)).toNat ≠ 0 := by omega
    obtain ⟨count, hcount⟩ := Nat.exists_eq_succ_of_ne_zero hparts
    have hwhole : ((count + 1 : ℕ) : Int)
        = partCount maxBlockLength (stretch.2 - stretch.1) := by omega
    rw [hcount] at htiled
    have hlast := htiled.range_end
      (f := fun i : ℕ => splitPoint stretch.1 (stretch.2 - stretch.1) i
        (partCount maxBlockLength (stretch.2 - stretch.1))) (fun _ _ => rfl)
    have hshort := splitPoint_last_lt h.start hpos (not_le.mp hfits)
    rw [hend] at hshort
    rw [hwhole] at hlast
    exact absurd hlast hshort.ne

/-! ### The sections of the track -/

/-- What the sections of a track are for: they tile it, every position lies in one of them,
every block marker bounds one, and none that was cut is too long. -/
structure SectionsRight (track : Track) (signals : List Signal) (maxBlockLength : Length)
    (sections : List BlockSection) : Prop where
  tiled : Tiled BlockSection.span 0 sections track.length
  once : ∀ position, 0 ≤ position → position < track.length →
    load (sections.map BlockSection.span) position = 1
  bounded : ∀ signal ∈ signals, signal.kind.boundsBlock = true →
    ∃ block ∈ sections, block.start = signal.position ∨ block.finish = signal.position
  short : ∀ stretch ∈ windows (realBoundaries track signals),
    planOf track signals maxBlockLength stretch = .splitVirtual →
      ∀ block ∈ blocksOf track signals maxBlockLength stretch,
        block.finish - block.start ≤ maxBlockLength

lemma boundary_of_tiled {start finish : Length} {sections : List BlockSection}
    (h : Tiled BlockSection.span start sections finish) (hlt : start < finish) :
    ∃ block ∈ sections, block.finish = finish := by
  induction sections generalizing start with
  | nil => exact absurd hlt (not_lt.mpr (le_of_eq h.symm))
  | cons block sections ih =>
    obtain ⟨-, -, hrest⟩ := h
    rcases hrest.le.lt_or_eq with hmore | hend
    · obtain ⟨last, hlast, heq⟩ := ih hrest hmore
      exact ⟨last, List.mem_cons_of_mem block hlast, heq⟩
    · exact ⟨block, List.mem_cons_self, hend⟩

/-- **The sections of a track.**  They tile the track without a gap or an overlap, with
every block marker as a boundary and no virtual part longer than the longest block, exactly
if the cut of every stretch without data fits into 64 bits. -/
theorem deriveBlockSections_right_iff {sections : List BlockSection}
    (h : deriveBlockSections track signals maxBlockLength = .ok sections) :
    SectionsRight track signals maxBlockLength sections ↔
      ∀ stretch ∈ windows (realBoundaries track signals),
        planOf track signals maxBlockLength stretch = .splitVirtual →
          CutFits maxBlockLength stretch := by
  obtain ⟨hmax, hcheck, rfl⟩ := deriveBlockSections_eq_ok.mp h
  have hsignals := position_of_check hcheck
  obtain ⟨hbounds, rest, hpoints, hlast⟩ := realBoundaries_ends hsignals
  have hstretch : ∀ stretch ∈ windows (realBoundaries track signals),
      IsStretch track stretch := by
    intro stretch hmem
    obtain ⟨hleft, hright, hlt⟩ := lt_of_mem_windows realBoundaries_sorted hmem
    exact ⟨(hbounds _ hleft).1, hlt, (hbounds _ hright).2⟩
  have hheads : ∀ stretch ∈ windows (realBoundaries track signals), ∃ block others,
      blocksOf track signals maxBlockLength stretch = block :: others
        ∧ block.span.1 = stretch.1 :=
    fun stretch hmem => blocksOf_head hmax (hstretch stretch hmem)
  constructor
  · intro hright stretch hmem hplan
    by_contra hover
    have htiled := hright.tiled
    rw [hpoints] at htiled hheads hmem
    rw [← hlast] at htiled
    obtain ⟨block, hblock, hlong⟩ := too_long_of_not_cutFits hmax
      (hstretch stretch (hpoints ▸ hmem)) hplan hover (Tiled.window hheads htiled stretch hmem)
    exact absurd (hright.short stretch (hpoints ▸ hmem) hplan block hblock) (not_le.mpr hlong)
  · intro hfits
    have htiled : Tiled BlockSection.span 0 ((windows (realBoundaries track signals)).flatMap
        (blocksOf track signals maxBlockLength)) track.length := by
      rw [hpoints, ← hlast]
      refine tiled_windows fun stretch hmem => ?_
      rw [← hpoints] at hmem
      exact (tiled_blocksOf hmax (hstretch stretch hmem) (hfits stretch hmem)).1
    refine ⟨htiled, fun position => htiled.load_eq_one, fun signal hsignal hbounding => ?_,
      fun stretch hmem => (tiled_blocksOf hmax (hstretch stretch hmem) (hfits stretch hmem)).2⟩
    rcases (hsignals signal hsignal).2.lt_or_eq with hinside | hend
    · have hmem : signal.position ∈ realBoundaries track signals :=
        mem_realBoundaries.mpr (.inr (.inr ⟨signal, hsignal, hbounding, rfl⟩))
      have hnotlast : (realBoundaries track signals).getLast? ≠ some signal.position := by
        rw [hpoints, List.getLast?_eq_some_getLast (by simp), hlast]
        exact fun heq => hinside.ne (Option.some.inj heq).symm
      obtain ⟨next, hwindow⟩ := exists_window_of_mem hmem hnotlast
      obtain ⟨block, others, hblocks, hstart⟩ := hheads _ hwindow
      refine ⟨block, List.mem_flatMap.mpr ⟨_, hwindow, ?_⟩, .inl hstart⟩
      rw [hblocks]
      exact List.mem_cons_self
    · obtain ⟨block, hblock, heq⟩ := boundary_of_tiled htiled track.positive
      exact ⟨block, hblock, .inr (heq.trans hend.symm)⟩

/-- A line of six times ten to the eighteenth millimetres, cut into halves: the second part
ends where 64 bits end. -/
theorem not_deriveBlockSections_right : ∃ track sections,
    deriveBlockSections track [] 3000000000000000000 = .ok sections ∧
      track.length = 6000000000000000000 ∧
      sections.map BlockSection.span
        = [(0, 3000000000000000000), (3000000000000000000, 4611686018427387903)] ∧
      ¬ SectionsRight track [] 3000000000000000000 sections := by
  have hrun : ((PlainLine.uniform 6000000000000000000 (by decide)).toOption.any fun track =>
      decide (track.length = 6000000000000000000) &&
      (deriveBlockSections track [] 3000000000000000000).toOption.any fun sections =>
        decide (sections.map BlockSection.span
          = [(0, 3000000000000000000), (3000000000000000000, 4611686018427387903)])) = true := by
    decide +kernel
  obtain ⟨track, -, hrun⟩ := (Option.any_eq_true _ _).mp hrun
  rw [Bool.and_eq_true, decide_eq_true_eq] at hrun
  obtain ⟨sections, hsections, hspans⟩ := ok_of_any hrun.2
  rw [decide_eq_true_eq] at hspans
  refine ⟨track, sections, hsections, hrun.1, hspans, fun hright => ?_⟩
  have honce := hright.once 5000000000000000000 (by decide) (by rw [hrun.1]; decide)
  rw [hspans] at honce
  exact absurd honce (by decide)

theorem deriveBlockSections_right_iff_uniform : ∃ track sections,
    deriveBlockSections track [] defaultMaxBlockLength = .ok sections ∧
      sections.length = 5 ∧ SectionsRight track [] defaultMaxBlockLength sections := by
  have hrun : ((PlainLine.uniform 9000000 (by decide)).toOption.any fun track =>
      ((windows (realBoundaries track [])).all fun stretch =>
        decide (CutFits defaultMaxBlockLength stretch)) &&
      (deriveBlockSections track [] defaultMaxBlockLength).toOption.any fun sections =>
        decide (sections.length = 5)) = true := by
    decide +kernel
  obtain ⟨track, -, hrun⟩ := (Option.any_eq_true _ _).mp hrun
  rw [Bool.and_eq_true, List.all_eq_true] at hrun
  obtain ⟨sections, hsections, hlength⟩ := ok_of_any hrun.2
  exact ⟨track, sections, hsections, of_decide_eq_true hlength,
    (deriveBlockSections_right_iff hsections).mpr fun stretch hstretch _ =>
      of_decide_eq_true (hrun.1 stretch hstretch)⟩

end Zugfolge.Infra
