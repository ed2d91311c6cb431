/-
What a candidate keeps.

Candidates are found on every itinerary with every shift, with and without a longer stop.  All
of them stay within the tolerances of the request, keep its windows, and their runs fit into
the ledger on every day of the horizon.

* `candidates_keep`: every candidate keeps what its request asks.
-/
import Zugfolge.Planner.Offers

namespace Zugfolge.Planner

open Conflict (SimTime ServicePattern OccupationLedger TrainRun)
open Foundation

/-- No blocking time of the run overlaps one of another run in the ledger, on the same resource
or on one that its own excludes. -/
def Fits (ledger : OccupationLedger) (run : TrainRun) : Prop :=
  ∀ step ∈ run.staircase.steps, ∀ entry ∈ ledger.entries, entry.1 ≠ run.reference →
    entry.2.resource = step.resource
      ∨ ledger.exclusions.excludes step.resource entry.2.resource = true →
    ¬ Overlaps step.span entry.2.span

/-- No blocking time of the run overlaps any one in the ledger on such a resource. -/
def FitsAll (ledger : OccupationLedger) (run : TrainRun) : Prop :=
  ∀ step ∈ run.staircase.steps, ∀ entry ∈ ledger.entries,
    entry.2.resource = step.resource
      ∨ ledger.exclusions.excludes step.resource entry.2.resource = true →
    ¬ Overlaps step.span entry.2.span

/-- A candidate stays within the tolerances of its request, its journey keeps the boundary
windows, and every run of the horizon departs within the service window and fits into the
ledger. -/
structure Keeps (planner : TrainPathPlanner) (ledger : OccupationLedger) (request : PathRequest)
    (candidate : PathCandidate) : Prop where
  shift : request.tolerances.allowsShift candidate.deviation.shiftS = true
  extra : candidate.deviation.extraRunningTimeS ≤ request.tolerances.extraRunningTimeS
  stops : candidate.deviation.operationalStops.length ≤ request.tolerances.maxOperationalStops
  journey : ∃ basis profil, planner.basisprofile request = .ok basis ∧
    (∃ laufweg ∈ basis, planner.Halts request laufweg.1 candidate) ∧
    planner.profil request candidate.itinerary = .ok profil ∧
    candidate.pattern.profile = profil.toOccupationProfile ∧
    candidate.deviation.extraRunningTimeS
      = subSat64 profil.runningTimeS (TrainPathPlanner.schnellsteFahrzeit basis) ∧
    ∀ window ∈ request.boundaryWindows, window.allows
      (request.desiredDeparture.plusSeconds candidate.deviation.shiftS)
      ((request.desiredDeparture.plusSeconds candidate.deviation.shiftS).plusSeconds
        profil.runningTimeS) = true
  admitted :
    request.admits (request.desiredDeparture.plusSeconds candidate.deviation.shiftS) = true
  runs : ∀ run ∈ offerRuns (request.desiredDeparture.plusSeconds candidate.deviation.shiftS)
    candidate.pattern planner.options.horizonDays,
      request.admits run.departure = true ∧ Fits ledger run

section

variable {planner : TrainPathPlanner} {ledger : OccupationLedger} {request : PathRequest}

/-- A run is told of no violation if it departs within the service window and keeps all
boundary windows. -/
lemma boundaryViolation_eq_none_iff {departure arrival : SimTime} :
    request.boundaryViolation departure arrival = none ↔
      request.admits departure = true ∧
        ∀ window ∈ request.boundaryWindows, window.allows departure arrival = true := by
  have hexplain : ∀ window : BoundaryPlanningWindow,
      window.explainViolation departure arrival = none
        ↔ window.allows departure arrival = true := by
    intro window
    rw [BoundaryPlanningWindow.explainViolation]
    cases window.allows departure arrival with
    | true => simp
    | false => simp
  have hwindow : (request.serviceWindow.any fun window => !window.contains departure)
      = !request.admits departure := by
    rw [PathRequest.admits]
    cases request.serviceWindow with
    | none => rfl
    | some window => rfl
  rw [PathRequest.boundaryViolation, hwindow]
  cases request.admits departure with
  | false => simp
  | true => simp [List.findSome?_eq_none_iff, hexplain]

/-- A pattern is free within the horizon if its runs fit into the ledger. -/
lemma ersteKollision_eq_none_iff {pattern : ServicePattern} {departure : SimTime} :
    planner.ersteKollision ledger pattern departure = none ↔
      ∀ run ∈ offerRuns departure pattern planner.options.horizonDays, Fits ledger run := by
  have hfits : ∀ fahrt, Fits ledger fahrt ↔ (ledger.check fahrt).isClear = true := fun _ =>
    ledger.check_isClear_iff.symm
  rw [TrainPathPlanner.ersteKollision, List.findSome?_eq_none_iff]
  simp only [offerRuns, List.mem_filterMap]
  constructor
  · rintro h run ⟨day, hin, hrun⟩
    have hday := h day hin
    rw [hrun] at hday
    exact (hfits run).mpr (by simpa using hday)
  · intro h day hin
    cases hrun : pattern.materialise day with
    | none => rfl
    | some fahrt => simpa using (hfits fahrt).mp (h fahrt ⟨day, hin, hrun⟩)

/-- The runs of an offer depart within the service window of the request. -/
lemma admits_of_mem_offerRuns {profil : Conflict.ItineraryProfile} {shift : Int}
    {pattern : ServicePattern} (hmade : TrainPathPlanner.angebot request profil shift = .ok pattern)
    {departure : SimTime} {horizonDays : Int} {run : TrainRun}
    (h : run ∈ offerRuns departure pattern horizonDays) : request.admits run.departure = true := by
  obtain ⟨-, -, -, hwindow, -⟩ := angebot_eq_ok hmade
  obtain ⟨day, -, hrun⟩ := List.mem_filterMap.mp h
  rw [Conflict.ServicePattern.materialise_departure hrun, PathRequest.admits]
  rw [ServicePattern.materialise] at hrun
  split at hrun
  next hruns =>
    rw [ServicePattern.runsOn, Bool.and_eq_true, hwindow] at hruns
    cases hservice : request.serviceWindow with
    | none => rfl
    | some window =>
      rw [hservice] at hruns
      exact hruns.2
  next => cases hrun

/-- **Every candidate of the planner keeps what its request asks.** -/
theorem candidates_keep {outcome : PlannerOutcome}
    (h : planner.plan ledger request = .ok outcome) :
    ∀ candidate ∈ outcome.candidates, Keeps planner ledger request candidate := by
  intro candidate hcandidate
  obtain ⟨basis, hbasis, hdrawn⟩ := TrainPathPlanner.drawn_of_plan h
  obtain ⟨hshift, laufweg, hlaufweg, hdrawn⟩ := hdrawn candidate hcandidate
  obtain ⟨profil, hprofil, hmade, hextra, hviolation⟩ := hdrawn.made
  obtain ⟨hadmitted, hwindows⟩ := boundaryViolation_eq_none_iff.mp hviolation
  have hfits := ersteKollision_eq_none_iff.mp hdrawn.free
  exact ⟨PathTolerances.allowsShift_of_mem hshift, hdrawn.extra, hdrawn.stops,
    ⟨basis, profil, hbasis, ⟨laufweg, hlaufweg, hdrawn.halts⟩, hprofil, (angebot_eq_ok hmade).1,
      hextra, hwindows⟩, hadmitted,
    fun run hrun => ⟨admits_of_mem_offerRuns hmade hrun, hfits run hrun⟩⟩

end

namespace SmallLine

open Conflict (Weekday)

/-- A train of Tuesdays is offered a path that keeps what it asks. -/
theorem planned_keeps : ∃ run ∈ planned [.tuesday], ∃ candidate ∈ run.outcome.candidates,
    Keeps run.planner (.new .new) run.request candidate := by
  have hrun : ((planned [.tuesday]).any fun run => !run.outcome.candidates.isEmpty) = true := by
    decide +kernel
  obtain ⟨run, hin, hrun⟩ := (Option.any_eq_true _ _).mp hrun
  obtain ⟨candidate, hcandidate⟩ :=
    List.exists_mem_of_ne_nil run.outcome.candidates (by simpa using hrun)
  exact ⟨run, hin, candidate, hcandidate, candidates_keep run.isOutcome candidate hcandidate⟩

/-- What the planner makes of a request while other runs are in the ledger. -/
structure PlannedBeside where
  planner : TrainPathPlanner
  ledger : OccupationLedger
  request : PathRequest
  outcome : PlannerOutcome
  isOutcome : planner.plan ledger request = .ok outcome

/-- Another request for the same number was granted its path, whose first run is in the ledger. -/
def sameNumber : Option PlannedBeside := do
  let planner ← plannerOf 7
  let other ← requestOf 2 0 86700 [.tuesday] .exact
  let granted ← (planner.plan (.new .new) other).toOption
  let offer ← granted.offer
  let run ← (offerRuns other.desiredDeparture offer.pattern 7).head?
  let ledger := (OccupationLedger.new .new).insert run
  let request ← requestOf 1 0 86700 [.tuesday] .exact
  match h : planner.plan ledger request with
  | .ok outcome => some ⟨planner, ledger, request, outcome, h⟩
  | .error _ => none

/-- A path on top of the run in the ledger is offered, since both have the same number and leave at
the same time. -/
theorem same_number_overlaps : ¬ ∀ planner ledger request outcome,
    TrainPathPlanner.plan planner ledger request = .ok outcome →
      ∀ candidate ∈ outcome.candidates, Keeps planner ledger request candidate ∧
        ∀ run ∈ offerRuns (request.desiredDeparture.plusSeconds candidate.deviation.shiftS)
          candidate.pattern planner.options.horizonDays, FitsAll ledger run := by
  intro hclaim
  have hfound : (sameNumber.any fun found => found.outcome.candidates.any fun candidate =>
      (offerRuns (found.request.desiredDeparture.plusSeconds candidate.deviation.shiftS)
        candidate.pattern found.planner.options.horizonDays).any fun run =>
          run.staircase.steps.any fun step => found.ledger.entries.any fun entry =>
            decide (entry.2.resource = step.resource ∧ Overlaps step.span entry.2.span))
      = true := by
    decide +kernel
  obtain ⟨found, -, hfound⟩ := (Option.any_eq_true _ _).mp hfound
  obtain ⟨candidate, hcandidate, hfound⟩ := List.any_eq_true.mp hfound
  obtain ⟨run, hrun, hfound⟩ := List.any_eq_true.mp hfound
  obtain ⟨step, hstep, hfound⟩ := List.any_eq_true.mp hfound
  obtain ⟨entry, hentry, hfound⟩ := List.any_eq_true.mp hfound
  obtain ⟨hresource, hoverlaps⟩ := of_decide_eq_true hfound
  exact (hclaim _ _ _ _ found.isOutcome candidate hcandidate).2 run hrun step hstep entry hentry
    (.inl hresource) hoverlaps

end SmallLine

end Zugfolge.Planner
