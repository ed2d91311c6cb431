/-
The equipment of a train along a range.

A range of a track is cut where its speed or its gradient changes, and the protection and
the supply are compared with the train at the start of every segment only.  Where they
change within a segment the change goes unnoticed.

* `pushTrackRange_safe_iff`: when an accepted range fits the train all along.
-/
import Zugfolge.Foundation.Collect
import Zugfolge.Foundation.Tilings
import Zugfolge.Infra.Dynamics

namespace Zugfolge.Infra

open Foundation

/-! ### The band at a position -/

/-- Start and end of a band. -/
def Band.span {α : Type} (band : Band α) : Length × Length := (band.start, band.finish)

lemma Band.contains_iff {α : Type} {band : Band α} {position : Length} :
    band.contains position = true ↔ Covers band.span position := by
  simp [Band.contains, Covers, Band.span]

lemma le_start_of_tiles {α : Type} {bands : List (Band α)} :
    ∀ {start finish : Length}, Tiles start bands finish → ∀ band ∈ bands,
      start ≤ band.start ∧ band.start < band.finish := by
  induction bands with
  | nil => simp
  | cons first bands ih =>
    rintro start finish ⟨rfl, hextent, hrest⟩ band hband
    rcases List.mem_cons.mp hband with rfl | hband
    · exact ⟨le_refl _, hextent⟩
    · obtain ⟨hstart, hlt⟩ := ih hrest band hband
      exact ⟨hextent.le.trans hstart, hlt⟩

/-- Of bands that tile a stretch only one contains a position. -/
lemma find_contains_of_tiles {α : Type} {bands : List (Band α)} {position : Length} :
    ∀ {start finish : Length}, Tiles start bands finish → ∀ {band : Band α}, band ∈ bands →
      Covers band.span position →
      (bands.find? fun band => band.contains position) = some band := by
  induction bands with
  | nil => simp
  | cons first bands ih =>
    rintro start finish ⟨rfl, -, hrest⟩ band hband hcovers
    rcases List.mem_cons.mp hband with rfl | hband
    · exact List.find?_cons_of_pos (p := fun band : Band α => band.contains position)
        (Band.contains_iff.mpr hcovers)
    · have hafter := (le_start_of_tiles hrest band hband).1
      have hnot : ¬ first.contains position = true := by
        rw [Band.contains_iff]
        exact fun hfirst => absurd (hafter.trans hcovers.1) (not_le.mpr hfirst.2)
      rw [List.find?_cons_of_neg (p := fun band : Band α => band.contains position) hnot]
      exact ih hrest hband hcovers

/-- Before the end of the track the value at a position is that of the band it lies in. -/
lemma BandProfile.valueAt_eq_some_iff {α : Type} {profile : BandProfile α} {position : Length}
    (hstart : 0 ≤ position) (hfinish : position < profile.length) {value : α} :
    profile.valueAt position = some value ↔
      ∃ band ∈ profile.bands, Covers band.span position ∧ band.value = value := by
  have hinside : ¬ (position < 0 ∨ profile.length < position) := by
    rw [not_or, not_lt, not_lt]
    exact ⟨hstart, hfinish.le⟩
  rw [valueAt, bandAt, if_neg hinside, if_neg hfinish.ne, Option.map_eq_some_iff]
  constructor
  · rintro ⟨band, hfind, rfl⟩
    exact ⟨band, List.mem_of_find?_eq_some hfind,
      Band.contains_iff.mp
        (List.find?_some (p := fun band : Band α => band.contains position) hfind), rfl⟩
  · rintro ⟨band, hband, hcovers, rfl⟩
    exact ⟨band, find_contains_of_tiles profile.tiles hband hcovers, rfl⟩

/-! ### Where a track fits a train -/

variable (train : TrainCharacteristics) (track : Track)

/-- Protection and supply at a position fit the train. -/
def Suits (position : Length) : Prop :=
  (∃ protection, track.protectionAt position = some protection ∧
    train.isCompatibleWithProtection protection = true) ∧
  ∃ electrification, track.electrificationAt position = some electrification ∧
    train.isCompatibleWithElectrification electrification = true

/-- The bands whose protection or supply does not fit the train. -/
def misfits : List (Length × Length) :=
  (track.protection.bands.filter fun band =>
    !train.isCompatibleWithProtection band.value).map Band.span ++
  (track.electrification.bands.filter fun band =>
    !train.isCompatibleWithElectrification band.value).map Band.span

/-- A position where a range is cut: its start, or a change of speed or gradient in it. -/
def IsCut (start finish position : Length) : Prop :=
  position = start ∨
    (position ∈ track.speed.bands.map Band.start ∨
      position ∈ track.gradient.bands.map Band.start) ∧ start < position ∧ position < finish

variable {train track}

/-- A profile fits at a position exactly if no band that does not fit covers it. -/
lemma fits_iff {α : Type} {profile : BandProfile α} {fits : α → Bool} {position : Length}
    (hstart : 0 ≤ position) (hfinish : position < profile.length) :
    (∃ value, profile.valueAt position = some value ∧ fits value = true) ↔
      ¬ ∃ misfit ∈ (profile.bands.filter fun band => !fits band.value).map Band.span,
        Covers misfit position := by
  constructor
  · rintro ⟨value, hvalue, hfits⟩ ⟨misfit, hmisfit, hcovers⟩
    obtain ⟨band, hband, rfl⟩ := List.mem_map.mp hmisfit
    rw [List.mem_filter, Bool.not_eq_true'] at hband
    have hother := (profile.valueAt_eq_some_iff hstart hfinish).mpr
      ⟨band, hband.1, hcovers, rfl⟩
    rw [hvalue] at hother
    rw [← Option.some.inj hother, hfits] at hband
    cases hband.2
  · intro hnone
    obtain ⟨value, hvalue⟩ := profile.valueAt_isSome hstart hfinish.le
    refine ⟨value, hvalue, ?_⟩
    obtain ⟨band, hband, hcovers, rfl⟩ := (profile.valueAt_eq_some_iff hstart hfinish).mp hvalue
    by_contra hmisfit
    refine hnone ⟨band.span, List.mem_map_of_mem (List.mem_filter.mpr ⟨hband, ?_⟩), hcovers⟩
    rw [Bool.not_eq_true']
    exact Bool.not_eq_true _ ▸ hmisfit

/-- The track fits the train exactly where no band that does not fit it lies. -/
lemma suits_iff {position : Length} (hstart : 0 ≤ position) (hfinish : position < track.length) :
    Suits train track position ↔ ¬ ∃ misfit ∈ misfits train track, Covers misfit position := by
  obtain ⟨-, -, helectrification, hprotection⟩ := track.covered
  rw [Suits, misfits]
  have hp := @fits_iff _ _ train.isCompatibleWithProtection _ hstart
    (hfinish.trans_eq hprotection.symm)
  have he := @fits_iff _ _ train.isCompatibleWithElectrification _ hstart
    (hfinish.trans_eq helectrification.symm)
  refine (and_congr hp he).trans ?_
  rw [← not_or]
  refine not_congr ?_
  simp only [List.mem_append, or_and_right, exists_or]

lemma misfit_nonempty {misfit : Length × Length} (h : misfit ∈ misfits train track) :
    misfit.1 < misfit.2 := by
  rw [misfits, List.mem_append, List.mem_map, List.mem_map] at h
  rcases h with ⟨band, hband, rfl⟩ | ⟨band, hband, rfl⟩
  · exact (le_start_of_tiles track.protection.tiles band (List.mem_of_mem_filter hband)).2
  · exact (le_start_of_tiles track.electrification.tiles band (List.mem_of_mem_filter hband)).2

/-! ### What the check looks at -/

/-- A segment can be made exactly if the track fits the train at its start. -/
lemma exists_einzelnesSegment_iff {direction : TravelDirection} {lo hi : Length}
    (hlo : 0 ≤ lo) (hlt : lo < hi) (hhi : hi ≤ track.length) :
    (∃ segment, einzelnesSegment train track direction lo hi = .ok segment)
      ↔ Suits train track lo := by
  obtain ⟨hspeed, hgradient, helectrification, hprotection⟩ := track.covered
  have hend : lo ≤ track.length := hlt.le.trans hhi
  obtain ⟨speed, hspeedAt⟩ := track.speed.valueAt_isSome hlo (hend.trans_eq hspeed.symm)
  obtain ⟨gradient, hgradientAt⟩ :=
    track.gradient.valueAt_isSome hlo (hend.trans_eq hgradient.symm)
  obtain ⟨electrification, helectrificationAt⟩ :=
    track.electrification.valueAt_isSome hlo (hend.trans_eq helectrification.symm)
  obtain ⟨protection, hprotectionAt⟩ :=
    track.protection.valueAt_isSome hlo (hend.trans_eq hprotection.symm)
  have hlength : 0 < hi.minus lo := by
    have hbounds : i64Min ≤ 0 := by decide
    have htop := hhi.trans track.bounded
    rw [Length.minus_eq ⟨by linarith, by linarith⟩]
    linarith
  rw [Suits, Track.protectionAt, Track.electrificationAt, hprotectionAt, helectrificationAt]
  simp only [einzelnesSegment, Track.speedAt, Track.protectionAt, Track.electrificationAt,
    Track.gradientFor, hspeedAt, hgradientAt, hprotectionAt, helectrificationAt,
    Option.map_some, Option.some.injEq, exists_eq_left']
  cases hp : train.isCompatibleWithProtection protection with
  | false => simp
  | true =>
    cases he : train.isCompatibleWithElectrification electrification with
    | false => simp
    | true => simp [RunSegment.new, hlength, train.effectiveSpeedLimit_pos speed]

/-- The first members of the windows of a range are its cuts. -/
lemma exists_window_iff {start finish position : Length} (hlt : start < finish) :
    (∃ next, (position, next) ∈ windows (rangeBoundaries track start finish))
      ↔ IsCut track start finish position := by
  have hsorted : (rangeBoundaries track start finish).Pairwise (· < ·) := KeySet.sorted_toList _
  have hbounds : ∀ point ∈ rangeBoundaries track start finish, start ≤ point ∧ point ≤ finish := by
    intro point hpoint
    rcases mem_rangeBoundaries.mp hpoint with rfl | rfl | ⟨-, hafter, hbefore⟩
    · exact ⟨le_refl _, hlt.le⟩
    · exact ⟨hlt.le, le_refl _⟩
    · exact ⟨hafter.le, hbefore.le⟩
  constructor
  · rintro ⟨next, hwindow⟩
    obtain ⟨hleft, hright, hstep⟩ := lt_of_mem_windows hsorted hwindow
    rcases mem_rangeBoundaries.mp hleft with heq | heq | hinside
    · exact .inl heq
    · exact absurd (hbounds next hright).2 (not_le.mpr (heq ▸ hstep))
    · exact .inr hinside
  · intro hcut
    have hmem : position ∈ rangeBoundaries track start finish :=
      mem_rangeBoundaries.mpr (hcut.imp_right .inr)
    have hbefore : position < finish := by
      rcases hcut with rfl | hinside
      · exact hlt
      · exact hinside.2.2
    refine exists_window_of_mem hmem fun hlast => ?_
    obtain ⟨rest, hpoints, hend⟩ := ends_of_sorted hsorted
      (mem_rangeBoundaries.mpr (.inl rfl)) (mem_rangeBoundaries.mpr (.inr (.inl rfl))) hbounds
    rw [hpoints, List.getLast?_eq_some_getLast (by simp), hend] at hlast
    exact hbefore.ne (Option.some.inj hlast).symm

/-- A range is accepted exactly if it lies on the track and the track fits the train at
every cut. -/
lemma exists_pushTrackRange_iff {path : RunPath} {direction : TravelDirection}
    {start finish : Length} :
    (∃ next, path.pushTrackRange train track direction start finish = .ok next) ↔
      0 ≤ start ∧ start < finish ∧ finish ≤ track.length ∧
        ∀ position, IsCut track start finish position → Suits train track position := by
  rw [RunPath.pushTrackRange]
  split
  next hrange =>
    constructor
    · rintro ⟨next, h⟩
      cases h
    · rintro ⟨hstart, hlt, hfinish, -⟩
      rcases hrange with h | h | h
      · exact absurd hstart (not_le.mpr h)
      · exact absurd hfinish (not_le.mpr h)
      · exact absurd hlt (not_lt.mpr h)
  next hrange =>
    simp only [not_or, not_lt, not_le] at hrange
    obtain ⟨hstart, hfinish, hlt⟩ := hrange
    have hwindows : (∃ segments, (windows (rangeBoundaries track start finish)).mapM
        (fun stretch => einzelnesSegment train track direction stretch.1 stretch.2)
          = .ok segments)
        ↔ ∀ position, IsCut track start finish position → Suits train track position := by
      rw [mapM_ok_iff]
      have hmember (window : Length × Length)
          (hwindow : window ∈ windows (rangeBoundaries track start finish)) :
          0 ≤ window.1 ∧ window.1 < window.2 ∧ window.2 ≤ track.length := by
        obtain ⟨hleft, hright, hstep⟩ := lt_of_mem_windows (KeySet.sorted_toList _) hwindow
        refine ⟨?_, hstep, ?_⟩
        · rcases mem_rangeBoundaries.mp hleft with heq | heq | hinside
          · rwa [heq]
          · exact heq ▸ hstart.trans hlt.le
          · exact hstart.trans hinside.2.1.le
        · rcases mem_rangeBoundaries.mp hright with heq | heq | hinside
          · exact heq ▸ hlt.le.trans hfinish
          · rwa [heq]
          · exact hinside.2.2.le.trans hfinish
      constructor
      · intro h position hcut
        obtain ⟨next, hwindow⟩ := (exists_window_iff hlt).mpr hcut
        obtain ⟨hlo, hstep, hhi⟩ := hmember _ hwindow
        exact (exists_einzelnesSegment_iff hlo hstep hhi).mp (h _ hwindow)
      · intro h window hwindow
        obtain ⟨hlo, hstep, hhi⟩ := hmember window hwindow
        exact (exists_einzelnesSegment_iff hlo hstep hhi).mpr
          (h window.1 ((exists_window_iff hlt).mp ⟨window.2, hwindow⟩))
    rw [← hwindows]
    constructor
    · rintro ⟨next, h⟩
      obtain ⟨segments, hsegments, -⟩ := bind_eq_ok_iff.mp h
      exact ⟨hstart, hlt, hfinish, segments, hsegments⟩
    · rintro ⟨-, -, -, segments, hsegments⟩
      exact ⟨_, bind_eq_ok_iff.mpr ⟨segments, hsegments, rfl⟩⟩

/-- **The equipment along a range.**  An accepted range fits the train at every position
exactly if, whenever a band that does not fit reaches into the range, some such band covers
a cut. -/
theorem pushTrackRange_safe_iff (path : RunPath) (train : TrainCharacteristics) (track : Track)
    (direction : TravelDirection) (start finish : Length) :
    ((∃ next, path.pushTrackRange train track direction start finish = .ok next) →
      ∀ position, start ≤ position → position < finish → Suits train track position) ↔
    (0 ≤ start → start < finish → finish ≤ track.length →
      (∃ misfit ∈ misfits train track, Overlaps misfit (start, finish)) →
        ∃ misfit ∈ misfits train track, ∃ cut, IsCut track start finish cut
          ∧ Covers misfit cut) := by
  have hinside {position : Length} (hlt : start < finish)
      (hcut : IsCut track start finish position) : start ≤ position ∧ position < finish := by
    rcases hcut with rfl | ⟨-, hafter, hbefore⟩
    · exact ⟨le_refl _, hlt⟩
    · exact ⟨hafter.le, hbefore⟩
  constructor
  · rintro h hstart hlt hfinish ⟨misfit, hmisfit, hoverlaps⟩
    by_contra hnone
    have hpushed := (@exists_pushTrackRange_iff _ _ path direction _ _).mpr
      ⟨hstart, hlt, hfinish, fun position hcut => by
        obtain ⟨hfrom, hto⟩ := hinside hlt hcut
        rw [suits_iff (hstart.trans hfrom) (hto.trans_le hfinish)]
        rintro ⟨other, hother, hcovers⟩
        exact hnone ⟨other, hother, position, hcut, hcovers⟩⟩
    obtain ⟨position, hcovers, hfrom, hto⟩ :=
      hoverlaps.exists_covers (misfit_nonempty hmisfit) hlt
    exact (suits_iff (hstart.trans hfrom) (hto.trans_le hfinish)).mp
      (h hpushed position hfrom hto) ⟨misfit, hmisfit, hcovers⟩
  · intro h hpushed position hfrom hto
    obtain ⟨hstart, hlt, hfinish, hcuts⟩ := exists_pushTrackRange_iff.mp hpushed
    rw [suits_iff (hstart.trans hfrom) (hto.trans_le hfinish)]
    rintro ⟨misfit, hmisfit, hcovers⟩
    obtain ⟨other, hother, cut, hcut, hcoversCut⟩ := h hstart hlt hfinish
      ⟨misfit, hmisfit, overlaps_of_covers hcovers ⟨hfrom, hto⟩⟩
    obtain ⟨hcutfrom, hcutto⟩ := hinside hlt hcut
    exact (suits_iff (hstart.trans hcutfrom) (hcutto.trans_le hfinish)).mp (hcuts cut hcut)
      ⟨other, hother, hcoversCut⟩

/-! ### A wire that ends -/

namespace PlainLine

/-- A line of one kilometre, its second half without a wire. -/
def halfWired : Except InfraError Track :=
  PlainLine.track 1000000 (by decide)
    [⟨0, 500000, .overhead .ac15kV, surveyed⟩, ⟨500000, 1000000, .unelectrified, surveyed⟩]
    [⟨0, 1000000, .single .pzb, surveyed⟩]

def railcar : Except InfraError TrainCharacteristics := do
  let systems ← ElectricSystems.fromSystems {.ac15kV}
  TrainCharacteristics.new "Triebwagen" 120000 70000 38889 .standard 600 800 (.electric systems)
    (.single .pzb)

end PlainLine

/-- The electric railcar is accepted on the whole line, and where the wire has ended it does
not fit. -/
theorem not_pushTrackRange_safe : ∃ (train : TrainCharacteristics) (track : Track),
    (∃ next, RunPath.pushTrackRange [] train track .withChainage 0 1000000 = .ok next) ∧
      ¬ Suits train track 700000 := by
  have hrun : (PlainLine.railcar.toOption.any fun train =>
      PlainLine.halfWired.toOption.any fun track =>
        (RunPath.pushTrackRange [] train track .withChainage 0 1000000).toOption.isSome &&
          (track.electrificationAt 700000).all fun electrification =>
            !train.isCompatibleWithElectrification electrification) = true := by
    decide +kernel
  obtain ⟨train, -, hrun⟩ := (Option.any_eq_true _ _).mp hrun
  obtain ⟨track, -, hrun⟩ := (Option.any_eq_true _ _).mp hrun
  rw [Bool.and_eq_true, Option.isSome_iff_exists] at hrun
  obtain ⟨⟨next, hnext⟩, hmisfit⟩ := hrun
  refine ⟨train, track, ⟨next, ok_of_toOption hnext⟩, ?_⟩
  rintro ⟨-, electrification, hat, hfits⟩
  rw [hat, Option.all_some, hfits] at hmisfit
  cases hmisfit

end Zugfolge.Infra
