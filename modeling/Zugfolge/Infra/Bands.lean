/-
Band profiles.

Speed, gradient, electrification and protection change along a track.  A profile cuts the
track into bands of constant value; the bands follow each other from the start of the track
to its end.
-/
import Zugfolge.Infra.Units

namespace Zugfolge.Infra

/-- A section of a track, from its start to before its end, with the value that holds on
it. -/
structure Band (α : Type) where
  start : Length
  finish : Length
  value : α
  provenance : Provenance

namespace Band

variable {α : Type} (band : Band α)

/-- The position lies in the band. -/
def contains (position : Length) : Bool :=
  decide (band.start ≤ position) && decide (position < band.finish)

end Band

/-- The bands follow each other from one position to another one, each with an extent. -/
def Tiles {α : Type} : Length → List (Band α) → Length → Prop
  | start, [], finish => start = finish
  | start, band :: bands, finish =>
    band.start = start ∧ band.start < band.finish ∧ Tiles band.finish bands finish

/-- A profile over the whole length of a track. -/
structure BandProfile (α : Type) where
  length : Length
  bands : List (Band α)
  positive : 0 < length
  tiles : Tiles 0 bands length

namespace BandProfile

variable {α : Type}

/-- The first band without an extent. -/
def firstEmpty (bands : List (Band α)) : Option ℕ :=
  bands.findIdx? fun band => ! decide (0 < band.finish.minus band.start)

/-- The first place where two neighbours do not meet. -/
def firstGap : ℕ → List (Band α) → Option (ℕ × Length × Length)
  | index, band :: next :: bands =>
    if band.finish ≠ next.start then some (index + 1, band.finish, next.start)
    else firstGap (index + 1) (next :: bands)
  | _, _ => none

/-- Bands with an extent that meet tile the way from the first to the last one. -/
lemma tiles_of_checks (first : Band α) (bands : List (Band α)) :
    ∀ index, firstEmpty (first :: bands) = none → firstGap index (first :: bands) = none →
      Tiles first.start (first :: bands) ((first :: bands).getLast (by simp)).finish := by
  induction bands generalizing first with
  | nil =>
    intro index hempty _
    rw [firstEmpty, List.findIdx?_eq_none_iff] at hempty
    have hextent := hempty first (by simp)
    simp only [Bool.not_eq_false', decide_eq_true_eq] at hextent
    refine ⟨rfl, ?_, rfl⟩
    by_contra hle
    exact absurd hextent (not_lt.mpr
      (Foundation.clamp64_le (by decide) (by linarith [not_lt.mp hle])))
  | cons next bands ih =>
    intro index hempty hgap
    rw [firstEmpty, List.findIdx?_eq_none_iff] at hempty
    have hextent := hempty first (by simp)
    simp only [Bool.not_eq_false', decide_eq_true_eq] at hextent
    rw [firstGap] at hgap
    split at hgap
    · cases hgap
    next hmeet =>
      rw [not_not] at hmeet
      have hrest := ih next (index + 1)
        (List.findIdx?_eq_none_iff.mpr fun band hband =>
          hempty band (List.mem_cons_of_mem first hband)) hgap
      refine ⟨rfl, ?_, ?_⟩
      · by_contra hle
        exact absurd hextent (not_lt.mpr
          (Foundation.clamp64_le (by decide) (by linarith [not_lt.mp hle])))
      · rw [hmeet]
        simpa using hrest

/-- Checks the bands of a profile against the length of the track. -/
def new (what : String) (length : Length) (bands : List (Band α)) :
    Except InfraError (BandProfile α) :=
  if hpositive : 0 < length then
    match hbands : bands with
    | [] => .error (.emptyProfile what)
    | first :: rest =>
      if hstart : first.start = 0 then
        match hempty : firstEmpty bands with
        | some index => .error (.profileBand what index)
        | none =>
          match hgap : firstGap 0 bands with
          | some gap => .error (.profileGap what gap.1 gap.2.1 gap.2.2)
          | none =>
            let last := (first :: rest).getLast (by simp)
            if hend : last.finish = length then
              .ok ⟨length, first :: rest, hpositive, by
                subst hbands
                have htiles := tiles_of_checks first rest 0 hempty hgap
                rwa [hstart, show _ = _ from hend] at htiles⟩
            else .error (.profileEnd what last.finish length)
      else .error (.profileStart what first.start)
  else .error (.nonPositiveLength what length)

/-- A profile with one value over the whole length. -/
def uniform (what : String) (length : Length) (value : α) (provenance : Provenance) :
    Except InfraError (BandProfile α) :=
  new what length [⟨0, length, value, provenance⟩]

variable (profile : BandProfile α)

/-- The band at a position; at the very end of the track the last one. -/
def bandAt (position : Length) : Option (Band α) :=
  if position < 0 ∨ profile.length < position then none
  else if position = profile.length then profile.bands.getLast?
  else profile.bands.find? fun band => band.contains position

def valueAt (position : Length) : Option α := (profile.bandAt position).map Band.value

lemma exists_contains_of_tiles {bands : List (Band α)} :
    ∀ {start finish position : Length}, Tiles start bands finish → start ≤ position →
      position < finish → ∃ band ∈ bands, band.contains position = true := by
  induction bands with
  | nil =>
    rintro start finish position rfl hstart hfinish
    exact absurd hstart (not_le.mpr hfinish)
  | cons band bands ih =>
    rintro start finish position ⟨rfl, -, hrest⟩ hstart hfinish
    by_cases hinside : position < band.finish
    · exact ⟨band, List.mem_cons_self, by simp [Band.contains, hstart, hinside]⟩
    · obtain ⟨other, hother, hcontains⟩ := ih hrest (not_lt.mp hinside) hfinish
      exact ⟨other, List.mem_cons_of_mem band hother, hcontains⟩

/-- Every position on the track has a value. -/
lemma valueAt_isSome {position : Length} (hstart : 0 ≤ position)
    (hfinish : position ≤ profile.length) : ∃ value, profile.valueAt position = some value := by
  rw [valueAt, bandAt, if_neg (by
    rintro (h | h)
    · exact absurd hstart (not_le.mpr h)
    · exact absurd hfinish (not_le.mpr h))]
  split
  · cases hbands : profile.bands with
    | nil =>
      have htiles := profile.tiles
      rw [hbands] at htiles
      exact absurd profile.positive (by rw [← show (0 : Length) = profile.length from htiles]; simp)
    | cons first rest => simp [List.getLast?_cons]
  next hinside =>
    obtain ⟨band, hband, hcontains⟩ :=
      exists_contains_of_tiles profile.tiles hstart (lt_of_le_of_ne hfinish hinside)
    cases hfind : profile.bands.find? fun band => band.contains position with
    | none => exact absurd hcontains (List.find?_eq_none.mp hfind band hband)
    | some found => exact ⟨found.value, rfl⟩

end BandProfile

end Zugfolge.Infra
