/-
When a request is granted.

The wished path takes the fastest itinerary, the shorter one of two equally fast ones, at the
wished time.  A request is granted if the first candidate has no deviation, and every detour
against the shortest itinerary is one.  So the wished path is not granted when the fastest
itinerary is not a shortest one, however free it is.

* `granted_right_iff`: the decision is right exactly where the itineraries fit together.
-/
import Zugfolge.Planner.Itineraries

namespace Zugfolge.Planner

open Conflict (OccupationLedger)
open Foundation
open Infra (Length Dynamics)
open TrainPathPlanner (schnellsteFahrzeit kuerzesteLaenge)

/-- The itinerary of the wished path: the first one of the shortest among the fastest. -/
def wunschweg (basis : List Laufweg) : Option Laufweg :=
  minByKey (fun laufweg => (laufweg.2.runningTimeS, laufweg.1.length)) basis

/-- At the wished time the itinerary violates no window and has no conflict on any day of the
horizon. -/
def Clear (planner : TrainPathPlanner) (ledger : OccupationLedger) (request : PathRequest)
    (laufweg : Laufweg) : Prop :=
  request.boundaryViolation request.desiredDeparture
      (request.desiredDeparture.plusSeconds laufweg.2.runningTimeS) = none ∧
    ∃ pattern, TrainPathPlanner.angebot request laufweg.2 0 = .ok pattern ∧
      planner.ersteKollision ledger pattern request.desiredDeparture = none

/-- With a longer stop an itinerary takes more time than the fastest one without. -/
def WaitsCost (planner : TrainPathPlanner) (request : PathRequest) (basis : List Laufweg) :
    Prop :=
  ∀ laufweg ∈ basis, ∀ stelle ∈ planner.betriebshalte laufweg.1 request, ∀ gebaut profil,
    planner.Waits laufweg.1 stelle.1 gebaut → gebaut ≠ laufweg.1 →
      planner.profil request gebaut = .ok profil →
        schnellsteFahrzeit basis < profil.runningTimeS

/-- If the wished path is free, its itinerary is a shortest one and may be returned, and if it
is not, neither is another itinerary as fast and as short as any. -/
def RoutesAgree (planner : TrainPathPlanner) (ledger : OccupationLedger) (request : PathRequest)
    (basis : List Laufweg) (wunsch : Laufweg) : Prop :=
  (Clear planner ledger request wunsch →
    0 < planner.options.maxCandidates ∧ wunsch.1.length = kuerzesteLaenge basis) ∧
  (¬ Clear planner ledger request wunsch → 0 < planner.options.maxCandidates →
    ∀ other ∈ basis, other.2.runningTimeS = schnellsteFahrzeit basis →
      other.1.length = kuerzesteLaenge basis → ¬ Clear planner ledger request other)

/-! ### The fastest and the shortest itinerary -/

section

variable {α : Type} {key : α → Int × Int} {entries : List α} {best : α}

/-- The entry that is chosen is one of the list, and no other one has a lesser key. -/
lemma minByKey_spec (h : minByKey key entries = some best) :
    best ∈ entries ∧ ∀ entry ∈ entries, (key best).1 ≤ (key entry).1 ∧
      ((key entry).1 = (key best).1 → (key best).2 ≤ (key entry).2) := by
  -- the chosen entry is least among the first one and those behind it
  have hfold : ∀ (behind : List α) (first : α),
      behind.foldl (fun best entry => if (key entry).1 < (key best).1
          ∨ (key entry).1 = (key best).1 ∧ (key entry).2 < (key best).2 then entry
        else best) first = best →
      best ∈ first :: behind ∧ ∀ entry ∈ first :: behind, (key best).1 ≤ (key entry).1 ∧
        ((key entry).1 = (key best).1 → (key best).2 ≤ (key entry).2) := by
    intro behind
    induction behind with
    | nil =>
      rintro first rfl
      exact ⟨List.mem_cons_self, by simp⟩
    | cons second behind ih =>
      intro first hbest
      rw [List.foldl_cons] at hbest
      obtain ⟨hin, hleast⟩ := ih _ hbest
      rw [List.forall_mem_cons] at hleast
      rw [List.forall_mem_cons, List.forall_mem_cons]
      split at hin
      next hlt =>
        rw [if_pos hlt] at hleast
        have hsecond := hleast.1
        exact ⟨List.mem_cons_of_mem _ hin, by omega, hleast⟩
      next hge =>
        rw [if_neg hge] at hleast
        have hfirst := hleast.1
        refine ⟨?_, hfirst, by omega, hleast.2⟩
        rcases List.mem_cons.mp hin with heq | hin
        · exact heq ▸ List.mem_cons_self
        · exact List.mem_cons_of_mem _ (List.mem_cons_of_mem _ hin)
  cases entries with
  | nil => cases h
  | cons first behind => exact hfold behind first (Option.some.inj h)

end

lemma min_spec {numbers : List Int} {number : Int} (h : number ∈ numbers) :
    numbers.min?.getD 0 ∈ numbers ∧ numbers.min?.getD 0 ≤ number := by
  cases hmin : numbers.min? with
  | none =>
    rw [List.min?_eq_none_iff.mp hmin] at h
    cases h
  | some least =>
    obtain ⟨hin, hleast⟩ := List.min?_eq_some_iff.mp hmin
    exact ⟨hin, hleast number h⟩

lemma schnellsteFahrzeit_le {basis : List Laufweg} {laufweg : Laufweg} (h : laufweg ∈ basis) :
    schnellsteFahrzeit basis ≤ laufweg.2.runningTimeS :=
  (min_spec (List.mem_map_of_mem h)).2

lemma kuerzesteLaenge_le {basis : List Laufweg} {laufweg : Laufweg} (h : laufweg ∈ basis) :
    kuerzesteLaenge basis ≤ laufweg.1.length :=
  (min_spec (List.mem_map_of_mem h)).2

lemma wunschweg_spec {basis : List Laufweg} {wunsch : Laufweg} (h : wunschweg basis = some wunsch) :
    wunsch ∈ basis ∧ wunsch.2.runningTimeS = schnellsteFahrzeit basis ∧
      ∀ laufweg ∈ basis, laufweg.2.runningTimeS = schnellsteFahrzeit basis →
        wunsch.1.length ≤ laufweg.1.length := by
  obtain ⟨hin, hleast⟩ := minByKey_spec h
  have hfastest : wunsch.2.runningTimeS = schnellsteFahrzeit basis := by
    refine le_antisymm ?_ (schnellsteFahrzeit_le hin)
    obtain ⟨fastest, hfastest, htime⟩ := List.mem_map.mp (min_spec
      (List.mem_map_of_mem (f := fun laufweg : Laufweg => laufweg.2.runningTimeS) hin)).1
    exact ((hleast fastest hfastest).1.trans_eq htime)
  refine ⟨hin, hfastest, fun laufweg hlaufweg hfast => ?_⟩
  exact (hleast laufweg hlaufweg).2 (hfast.trans hfastest.symm)

/-! ### Candidates without a deviation -/

lemma isExact_iff {deviation : CandidateDeviation} : deviation.isExact = true ↔
    deviation.shiftS = 0 ∧ deviation.extraRunningTimeS = 0 ∧ deviation.operationalStops = [] ∧
      deviation.detour ≤ 0 := by
  simp [CandidateDeviation.isExact, and_assoc]

/-- A candidate that ranks before one without a deviation has none either. -/
lemma isExact_of_rankKey_le {candidate exact : PathCandidate}
    (h : candidate.rankKey ≤ exact.rankKey) (hexact : exact.deviation.ranking = [0, 0, 0, 0, 0])
    (hextra : 0 ≤ candidate.deviation.extraRunningTimeS)
    (hdetour : 0 ≤ candidate.deviation.detour) : candidate.deviation.isExact = true := by
  have hbefore : ¬ List.Lex (· < ·) exact.rankKey candidate.rankKey := not_lt.mpr h
  rw [PathCandidate.rankKey, PathCandidate.rankKey, hexact, CandidateDeviation.ranking]
    at hbefore
  simp only [List.cons_append, List.cons_lex_cons_iff] at hbefore
  have hshift : (0 : Int) ≤ candidate.deviation.shiftS.natAbs := Int.natCast_nonneg _
  have hstops : (0 : Int) ≤ candidate.deviation.operationalStops.length := Int.natCast_nonneg _
  have hlength : (0 : Int) ≤ candidate.deviation.detour := hdetour
  have hleast : ∀ detour : Int, detour = 0 → detour ≤ 0 := fun _ => Eq.le
  rw [isExact_iff, ← List.length_eq_zero_iff]
  refine ⟨?_, ?_, ?_, hleast _ ?_⟩ <;> omega

/-- The first candidate ranks before all others. -/
lemma rank_head_le {alle behind : List PathCandidate} {bester candidate : PathCandidate}
    (h : rank alle = bester :: behind) (hin : candidate ∈ alle) :
    bester.rankKey ≤ candidate.rankKey := by
  have htotal : Std.Total fun a b : PathCandidate => a.rankKey ≤ b.rankKey :=
    ⟨fun a b => le_total a.rankKey b.rankKey⟩
  have htrans : IsTrans PathCandidate fun a b => a.rankKey ≤ b.rankKey :=
    ⟨fun _ _ _ => le_trans⟩
  have hsorted := List.pairwise_insertionSort
    (fun a b : PathCandidate => a.rankKey ≤ b.rankKey) alle
  rw [← rank, h, List.pairwise_cons] at hsorted
  rw [← mem_rank, h] at hin
  rcases List.mem_cons.mp hin with rfl | hin
  · exact le_rfl
  · exact hsorted.1 candidate hin

section

variable {planner : TrainPathPlanner} {ledger : OccupationLedger} {request : PathRequest}
  {basis : List Laufweg}

lemma subSat64_nonneg {a b : Int} (h : b ≤ a) : 0 ≤ subSat64 a b := by
  unfold subSat64 clamp64 i64Min i64Max
  omega

lemma subSat64_eq_zero {a b : Int} (h : subSat64 a b = 0) : a = b := by
  unfold subSat64 clamp64 i64Min i64Max at h
  omega

variable {candidate : PathCandidate} {laufweg : Laufweg}

/-- A candidate is its itinerary without a longer stop, or it takes longer than the fastest
one. -/
lemma unchanged_or_slower (hbasis : planner.basisprofile request = .ok basis)
    (hwait : WaitsCost planner request basis) (hin : laufweg ∈ basis)
    {kuerzeste : Length} {shift : Int}
    (h : planner.Drawn ledger request (schnellsteFahrzeit basis) kuerzeste shift laufweg.1
      candidate) :
    planner.profil request candidate.itinerary = .ok laufweg.2 ∨
      0 < candidate.deviation.extraRunningTimeS := by
  obtain ⟨profil, hprofil, -, hextra, -⟩ := h.made
  by_cases hsame : candidate.itinerary = laufweg.1
  · rw [hsame]
    exact .inl (TrainPathPlanner.profil_of_mem_basisprofile hbasis hin)
  · rcases h.halts with ⟨heq, -⟩ | ⟨stelle, hstelle, hwaits, -⟩
    · exact absurd heq hsame
    · have hslower := hwait laufweg hin stelle hstelle _ profil hwaits hsame hprofil
      have hnonneg := subSat64_nonneg hslower.le
      rw [← hextra] at hnonneg
      refine .inr (lt_of_le_of_ne hnonneg fun heq => ?_)
      rw [hextra] at heq
      exact hslower.ne (subSat64_eq_zero heq.symm).symm

/-- No candidate is faster than the fastest itinerary or shorter than the shortest one. -/
lemma nonneg_of_drawn (hbasis : planner.basisprofile request = .ok basis)
    (hwait : WaitsCost planner request basis) (hin : laufweg ∈ basis) {shift : Int}
    (h : planner.Drawn ledger request (schnellsteFahrzeit basis) (kuerzesteLaenge basis) shift
      laufweg.1 candidate) :
    0 ≤ candidate.deviation.extraRunningTimeS ∧ 0 ≤ candidate.deviation.detour := by
  refine ⟨?_, ?_⟩
  · rcases unchanged_or_slower hbasis hwait hin h with hsame | hslower
    · obtain ⟨profil, hprofil, -, hextra, -⟩ := h.made
      rw [hsame] at hprofil
      cases hprofil
      rw [hextra]
      exact subSat64_nonneg (schnellsteFahrzeit_le hin)
    · exact hslower.le
  · rw [h.detour]
    exact subSat64_nonneg (kuerzesteLaenge_le hin)

/-- A candidate without a deviation takes one of the fastest and shortest itineraries at the
wished time. -/
lemma clear_of_exact (hbasis : planner.basisprofile request = .ok basis)
    (hwait : WaitsCost planner request basis)
    (hclock : i64Min ≤ request.desiredDeparture ∧ request.desiredDeparture ≤ i64Max)
    (hin : laufweg ∈ basis)
    (h : planner.Drawn ledger request (schnellsteFahrzeit basis) (kuerzesteLaenge basis)
      candidate.deviation.shiftS laufweg.1 candidate)
    (hexact : candidate.deviation.isExact = true) :
    laufweg.2.runningTimeS = schnellsteFahrzeit basis ∧
      laufweg.1.length = kuerzesteLaenge basis ∧ Clear planner ledger request laufweg := by
  obtain ⟨hshift, hzero, -, hdetour⟩ := isExact_iff.mp hexact
  obtain ⟨profil, hprofil, hmade, hextra, hviolation⟩ := h.made
  have hfree := h.free
  rcases unchanged_or_slower hbasis hwait hin h with hsame | hslower
  · rw [hsame] at hprofil
    cases hprofil
    have hdeparture : request.desiredDeparture.plusSeconds 0 = request.desiredDeparture := by
      rw [Conflict.SimTime.plusSeconds, addSat64, add_zero, clamp64_of_mem hclock]
    rw [hshift, hdeparture] at hviolation hfree
    rw [hshift] at hmade
    rw [h.detour] at hdetour
    refine ⟨subSat64_eq_zero (hextra.symm.trans hzero), ?_, hviolation, _, hmade, hfree⟩
    exact subSat64_eq_zero (le_antisymm hdetour (subSat64_nonneg (kuerzesteLaenge_le hin)))
  · exact absurd hzero hslower.ne'

/-- One of the fastest and shortest itineraries that is free is a candidate without a
deviation. -/
lemma exact_of_clear
    (hclock : i64Min ≤ request.desiredDeparture ∧ request.desiredDeparture ≤ i64Max)
    (hfast : laufweg.2.runningTimeS = schnellsteFahrzeit basis)
    (hshort : laufweg.1.length = kuerzesteLaenge basis)
    (hclear : Clear planner ledger request laufweg) :
    ∃ candidate, planner.kandidat ledger request (schnellsteFahrzeit basis)
        (kuerzesteLaenge basis) 0 laufweg = .ok (some candidate) ∧
      candidate.deviation.ranking = [0, 0, 0, 0, 0] := by
  obtain ⟨hviolation, pattern, hmade, hfree⟩ := hclear
  have hdeparture : request.desiredDeparture.plusSeconds 0 = request.desiredDeparture := by
    rw [Conflict.SimTime.plusSeconds, addSat64, add_zero, clamp64_of_mem hclock]
  have hzero : ∀ number : Int, subSat64 number number = 0 := by
    intro number
    rw [subSat64, sub_self]
    rfl
  have htolerance : ¬ request.tolerances.extraRunningTimeS < 0 :=
    not_lt.mpr request.tolerances.extraNonneg
  refine ⟨⟨pattern, laufweg.1, ⟨0, 0, [], 0⟩,
    planner.ersteAbfahrt pattern request.desiredDeparture⟩, ?_, rfl⟩
  rw [hfast] at hviolation
  have hdetour : laufweg.1.length.minus (kuerzesteLaenge basis) = 0 := by
    rw [hshort]
    exact hzero _
  rw [TrainPathPlanner.kandidat]
  simp only [hfast, hzero, if_neg htolerance, hmade, hdeparture, hviolation, hfree, hdetour]
  rfl

/-- A request is granted exactly if a fastest itinerary that is a shortest one as well is free
at the wished time. -/
lemma granted_iff (hbasis : planner.basisprofile request = .ok basis)
    (hwait : WaitsCost planner request basis)
    (hclock : i64Min ≤ request.desiredDeparture ∧ request.desiredDeparture ≤ i64Max)
    {outcome : PlannerOutcome} (hplan : planner.plan ledger request = .ok outcome) :
    outcome.decision = .granted ↔ 0 < planner.options.maxCandidates ∧
      ∃ laufweg ∈ basis, laufweg.2.runningTimeS = schnellsteFahrzeit basis ∧
        laufweg.1.length = kuerzesteLaenge basis ∧ Clear planner ledger request laufweg := by
  obtain ⟨other, alle, hother, halle, hcandidates, hdecision⟩ :=
    TrainPathPlanner.plan_eq_ok hplan
  rw [hbasis] at hother
  cases hother
  have hdrawn := fun candidate (hin : candidate ∈ alle) =>
    (TrainPathPlanner.drawn_of_mem_kandidaten hbasis halle hin).2
  have hgranted : outcome.decision = .granted ↔
      ∃ bester, outcome.candidates.head? = some bester ∧ bester.deviation.isExact = true := by
    rw [hdecision]
    cases outcome.candidates.head? with
    | none => simp
    | some bester => simp
  rw [hgranted, hcandidates]
  constructor
  · rintro ⟨bester, hbester, hexact⟩
    have hin := List.mem_of_mem_head? hbester
    obtain ⟨laufweg, hlaufweg, h⟩ := hdrawn bester (mem_rank.mp (List.mem_of_mem_take hin))
    refine ⟨Nat.pos_of_ne_zero fun hzero => ?_, laufweg, hlaufweg,
      clear_of_exact hbasis hwait hclock hlaufweg h hexact⟩
    rw [hzero, List.take_zero] at hin
    cases hin
  · rintro ⟨hmax, laufweg, hlaufweg, hfast, hshort, hclear⟩
    obtain ⟨exact, hkandidat, hranking⟩ := exact_of_clear hclock hfast hshort hclear
    have hin := (TrainPathPlanner.mem_kandidaten_iff halle).mpr
      ⟨0, List.mem_cons_self, laufweg, hlaufweg, hkandidat⟩
    obtain ⟨bester, behind, hrank⟩ := List.exists_cons_of_ne_nil
      (List.ne_nil_of_mem (mem_rank.mpr hin))
    refine ⟨bester, ?_, ?_⟩
    · rw [List.head?_take, if_neg hmax.ne', hrank, List.head?_cons]
    · have hbester : bester ∈ alle := mem_rank.mp (hrank ▸ List.mem_cons_self)
      obtain ⟨from', hfrom, h⟩ := hdrawn bester hbester
      obtain ⟨hextra, hdetour⟩ := nonneg_of_drawn hbasis hwait hfrom h
      exact isExact_of_rankKey_le (rank_head_le hrank hin) hranking hextra hdetour

/-- **When the decision is right.**  A request is granted exactly if its wished path is free
just where the fastest and the shortest itineraries fit together. -/
theorem granted_right_iff (hbasis : planner.basisprofile request = .ok basis)
    (hwait : WaitsCost planner request basis)
    (hclock : i64Min ≤ request.desiredDeparture ∧ request.desiredDeparture ≤ i64Max)
    {outcome : PlannerOutcome} (hplan : planner.plan ledger request = .ok outcome)
    {wunsch : Laufweg} (hwunsch : wunschweg basis = some wunsch) :
    (outcome.decision = .granted ↔ Clear planner ledger request wunsch)
      ↔ RoutesAgree planner ledger request basis wunsch := by
  obtain ⟨hin, hfast, hshortest⟩ := wunschweg_spec hwunsch
  rw [granted_iff hbasis hwait hclock hplan, RoutesAgree]
  constructor
  · intro hright
    refine ⟨fun hclear => ?_, fun hnot hmax other hother hotherFast hotherShort hclear => ?_⟩
    · obtain ⟨hmax, other, hother, hotherFast, hotherShort, -⟩ := hright.mpr hclear
      refine ⟨hmax, le_antisymm ?_ (kuerzesteLaenge_le hin)⟩
      rw [← hotherShort]
      exact hshortest other hother hotherFast
    · exact hnot (hright.mp ⟨hmax, other, hother, hotherFast, hotherShort, hclear⟩)
  · rintro ⟨hfree, hother⟩
    constructor
    · rintro ⟨hmax, other, hin, hotherFast, hotherShort, hclear⟩
      by_contra hnot
      exact hother hnot hmax other hin hotherFast hotherShort hclear
    · intro hclear
      obtain ⟨hmax, hshort⟩ := hfree hclear
      exact ⟨hmax, wunsch, hin, hfast, hshort, hclear⟩

end

/-! ### A short slow track beside a long fast one -/

namespace SmallLine

open Conflict.SmallLine (track inductive' surveyed station_bounded)
open Infra (RunPath Track TrackEdge SpeedLimit BandProfile InfraError OperatingGraph
  OperatingGraphBuilder)

/-- The seconds in which the railcar comes to the end of each track of its way, from a stand to a
stand, over the slow track and over the fast one. -/
def arrivals (path : RunPath) : List Int :=
  if path.any fun segment => segment.speedLimit == 3000 then [22, 55, 75] else [19, 33, 49]

/-- The running times of the railcar between the stations. -/
def dynamics : Dynamics where
  fault _ _ _ _ := none
  elapsed path _ _ _ index := (arrivals path).getD index 0

/-- A track of 100 metres between the stations for 10.8 km/h. -/
def slowTrack : Except InfraError Track := do
  let plain ← track 21 (.edge 1) 100000 station_bounded [⟨0, 100000, inductive', surveyed⟩]
  let speed ← BandProfile.uniform "vmax" 100000 (← SpeedLimit.uniform 3000) surveyed
  { Track.builder 21 (.edge 1) "Nebengleis" 100000 station_bounded with
    speed := some speed
    gradient := some plain.gradient
    electrification := some plain.electrification
    protection := some plain.protection }.build

/-- Between the stations lies a second track as well, of 200 metres for 120 km/h. -/
def twoTracks : Except InfraError OperatingGraph := do
  let edge ← TrackEdge.new 1 1 2 "Strecke" 100000
  let first ← track 11 (.operatingPoint 1) 100000 station_bounded
    [⟨0, 100000, inductive', surveyed⟩]
  let second ← track 12 (.operatingPoint 2) 100000 station_bounded
    [⟨0, 100000, inductive', surveyed⟩]
  let slow ← slowTrack
  let fast ← track 22 (.edge 1) 200000 platform_bounded [⟨0, 200000, inductive', surveyed⟩]
  (⟨[⟨1, "AA", .station⟩, ⟨2, "BB", .station⟩], [edge], [first, second, slow, fast], []⟩ :
    OperatingGraphBuilder).build

/-- The planner of this line. -/
def twoTracksPlanner : Option TrainPathPlanner := do
  let graph ← twoTracks.toOption
  let infrastructure ← (Conflict.Infrastructure.builder graph).build.toOption
  some ⟨SmallLine.dynamics, infrastructure, .default⟩

/-- What becomes of a request while the line is free. -/
structure Wished where
  planner : TrainPathPlanner
  request : PathRequest
  basis : List Laufweg
  wunsch : Laufweg
  outcome : PlannerOutcome
  isBasis : planner.basisprofile request = .ok basis
  isWished : wunschweg basis = some wunsch
  isOutcome : planner.plan (.new .new) request = .ok outcome

/-- A railcar on Mondays at eight, without any tolerance. -/
def wished (planner : TrainPathPlanner) : Option Wished := do
  let request ← requestOf 1 0 28800 [.monday] .exact
  match hbasis : planner.basisprofile request with
  | .error _ => none
  | .ok basis =>
    match hwunsch : wunschweg basis, hplan : planner.plan (.new .new) request with
    | some wunsch, .ok outcome =>
      some ⟨planner, request, basis, wunsch, outcome, hbasis, hwunsch, hplan⟩
    | _, _ => none

/-- The wished path over the fast track is free, but it is not granted, since the fast track is
the longer one. -/
theorem fast_track_not_granted : ¬ ∀ planner ledger request basis wunsch outcome,
    TrainPathPlanner.basisprofile planner request = .ok basis → wunschweg basis = some wunsch →
      planner.plan ledger request = .ok outcome →
        (outcome.decision = .granted ↔ Clear planner ledger request wunsch) := by
  intro hright
  have hrun : ((twoTracksPlanner.bind wished).any fun run =>
      decide (run.outcome.decision = .alternative) &&
      (run.request.boundaryViolation run.request.desiredDeparture
        (run.request.desiredDeparture.plusSeconds run.wunsch.2.runningTimeS)).isNone &&
      (TrainPathPlanner.angebot run.request run.wunsch.2 0).toOption.any fun pattern =>
        (run.planner.ersteKollision (.new .new) pattern run.request.desiredDeparture).isNone)
      = true := by
    decide +kernel
  obtain ⟨run, -, hrun⟩ := (Option.any_eq_true _ _).mp hrun
  rw [Bool.and_eq_true, Bool.and_eq_true, decide_eq_true_eq] at hrun
  obtain ⟨⟨hdecision, hviolation⟩, hfree⟩ := hrun
  obtain ⟨pattern, hmade, hfree⟩ := (Option.any_eq_true _ _).mp hfree
  have hclear : Clear run.planner (.new .new) run.request run.wunsch :=
    ⟨Option.isNone_iff_eq_none.mp hviolation, pattern, ok_of_toOption hmade,
      Option.isNone_iff_eq_none.mp hfree⟩
  have hgranted := (hright _ _ _ _ _ _ run.isBasis run.isWished run.isOutcome).mpr hclear
  rw [hdecision] at hgranted
  cases hgranted

/-- On the line with one track the decision is right. -/
theorem one_track_right : ∃ run ∈ (plannerOf 7).bind wished,
    (run.outcome.decision = .granted ↔ Clear run.planner (.new .new) run.request run.wunsch) := by
  have hrun : (((plannerOf 7).bind wished).any fun run =>
      decide (run.request.desiredDeparture = 28800 ∧ run.basis.length = 1 ∧
        0 < run.planner.options.maxCandidates) &&
      run.basis.all fun laufweg =>
        (run.planner.betriebshalte laufweg.1 run.request).isEmpty &&
          decide (laufweg.1.length = kuerzesteLaenge run.basis)) = true := by
    decide +kernel
  obtain ⟨run, hin, hrun⟩ := (Option.any_eq_true _ _).mp hrun
  rw [Bool.and_eq_true, decide_eq_true_eq, List.all_eq_true] at hrun
  obtain ⟨⟨hdeparture, hone, hmax⟩, hall⟩ := hrun
  simp only [Bool.and_eq_true, List.isEmpty_iff, decide_eq_true_eq] at hall
  have hwait : WaitsCost run.planner run.request run.basis := by
    intro laufweg hlaufweg stelle hstelle
    rw [(hall laufweg hlaufweg).1] at hstelle
    cases hstelle
  have hclock : i64Min ≤ run.request.desiredDeparture ∧ run.request.desiredDeparture ≤ i64Max := by
    rw [hdeparture]
    decide
  refine ⟨run, hin, (granted_right_iff run.isBasis hwait hclock run.isOutcome run.isWished).mpr ?_⟩
  obtain ⟨hwunsch, -, -⟩ := wunschweg_spec run.isWished
  refine ⟨fun _ => ⟨hmax, (hall _ hwunsch).2⟩, fun hnot _ other hother _ _ => ?_⟩
  obtain ⟨only, honly⟩ := List.length_eq_one_iff.mp hone
  rw [honly, List.mem_singleton] at hwunsch hother
  rwa [hother, ← hwunsch]

end SmallLine

end Zugfolge.Planner
