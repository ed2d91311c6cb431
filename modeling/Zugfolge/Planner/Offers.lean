/-
The runs of an offer.

An accepted offer enters its runs into the ledger: one for every day of the horizon on which its
pattern runs.  A shift that leads across midnight changes the day of every departure, but the
pattern keeps the weekdays of the request.

* `candidate_follows_iff`: an offer follows its request exactly when they do.
-/
import Zugfolge.Conflict.Coverage
import Zugfolge.Planner.Plan

namespace Zugfolge.Planner

open Conflict (SimTime ServicePattern OccupationLedger TrainRun secondsPerDay)
open Foundation

/-- The runs of an offer from a departure on. -/
def offerRuns (departure : SimTime) (pattern : ServicePattern) (horizonDays : Int) :
    List TrainRun :=
  (daysFrom departure horizonDays).filterMap pattern.materialise

/-! ### Departures and days -/

/-- The wished departure on a day. -/
def PathRequest.desiredOn (request : PathRequest) (day : Int) : SimTime :=
  day * secondsPerDay + request.desiredDeparture % secondsPerDay

/-- A departure lies in the window of the request. -/
def PathRequest.admits (request : PathRequest) (departure : SimTime) : Bool :=
  request.serviceWindow.all fun window => window.contains departure

/-- The departures that an offer with a shift enters are the shifted departures of its request:
each of them belongs to an operating day, and none of an operating day within the horizon is
missing unless it lies outside of the window. -/
structure FollowsRequest (request : PathRequest) (shift horizonDays : Int)
    (pattern : ServicePattern) : Prop where
  wished : ∀ run ∈ offerRuns (request.desiredDeparture.plusSeconds shift) pattern horizonDays,
    ∃ day, request.operatingDays.containsDay day = true ∧
      run.departure = request.desiredOn day + shift
  complete : ∀ day ∈ daysFrom request.desiredDeparture horizonDays,
    request.operatingDays.containsDay day = true →
      request.admits (request.desiredOn day + shift) = true →
      ∃ run ∈ offerRuns (request.desiredDeparture.plusSeconds shift) pattern horizonDays,
        run.departure = request.desiredOn day + shift

/-- By how many days a shift moves the departure. -/
def PathRequest.daysMoved (request : PathRequest) (shift : Int) : Int :=
  (request.desiredDeparture + shift) / secondsPerDay - request.desiredDeparture / secondsPerDay

/-- On every day of the horizon with a departure in the window the request runs if and only if
it runs on the day that the departure was wished for. -/
def weekdaysMoveAlong (request : PathRequest) (shift horizonDays : Int) : Bool :=
  (daysFrom (request.desiredDeparture.plusSeconds shift) horizonDays).all fun day =>
    !request.admits (request.desiredOn (day - request.daysMoved shift) + shift) ||
      request.operatingDays.containsDay day
        == request.operatingDays.containsDay (day - request.daysMoved shift)

/-- The departures of the horizon are numbers of 64 bits. -/
structure InClock (request : PathRequest) (shift horizonDays : Int) : Prop where
  wished : i64Min ≤ request.desiredDeparture ∧ request.desiredDeparture ≤ i64Max
  first : i64Min ≤ (request.desiredDeparture + shift) / secondsPerDay * secondsPerDay
  last : ((request.desiredDeparture + shift) / secondsPerDay + max horizonDays 1) * secondsPerDay
    ≤ i64Max

/-! ### An offer and its request -/

/-- The days of a horizon that ends within the clock. -/
lemma mem_daysFrom {departure : SimTime} {horizonDays day : Int} (hlow : i64Min ≤ departure)
    (hhigh : departure / secondsPerDay + horizonDays ≤ i64Max) :
    day ∈ daysFrom departure horizonDays ↔ departure / secondsPerDay ≤ day ∧
      day < departure / secondsPerDay + horizonDays := by
  have hcount : ∀ tag0 horizon : Int, i64Min ≤ tag0 → tag0 + horizon ≤ i64Max →
      (addSat64 tag0 horizon - tag0).toNat = horizon.toNat := by
    intro tag0 horizon hfrom hto
    unfold addSat64 clamp64
    omega
  have hfirst : i64Min ≤ departure / secondsPerDay := by
    simp only [secondsPerDay, i64Min] at hlow ⊢
    exact (Int.le_ediv_iff_mul_le (by decide)).mpr (le_trans (by decide) hlow)
  have hshift : ∀ tag0 horizon other : Int,
      (∃ offset : ℕ, offset ∈ List.range horizon.toNat ∧ tag0 + (offset : Int) = other)
        ↔ tag0 ≤ other ∧ other < tag0 + horizon := by
    intro tag0 horizon other
    simp only [List.mem_range]
    constructor
    · rintro ⟨offset, hoffset, rfl⟩
      omega
    · rintro ⟨hfrom, hto⟩
      exact ⟨(other - tag0).toNat, by omega, by omega⟩
  rw [daysFrom, List.mem_map, hcount _ _ hfirst hhigh]
  exact hshift _ _ _

/-- What an offer takes over from its request. -/
lemma angebot_eq_ok {request : PathRequest} {profil : Conflict.ItineraryProfile} {shift : Int}
    {pattern : ServicePattern}
    (h : TrainPathPlanner.angebot request profil shift = .ok pattern) :
    pattern.profile = profil.toOccupationProfile ∧ pattern.number = request.number ∧
      pattern.operatingDays = request.operatingDays ∧
      pattern.serviceWindow = request.serviceWindow ∧
      pattern.departureTimeS = request.desiredDeparture.plusSeconds shift % secondsPerDay := by
  rw [TrainPathPlanner.angebot] at h
  split at h
  · cases h
  next plain hplain =>
    rw [ServicePattern.new] at hplain
    split at hplain
    · cases hplain
      cases h
      cases hwindow : request.serviceWindow with
      | none | some window => exact ⟨rfl, rfl, rfl, rfl, rfl⟩
    · cases hplain

namespace InClock

variable {request : PathRequest} {shift horizonDays : Int}

lemma plusSeconds_eq (h : InClock request shift horizonDays) :
    request.desiredDeparture.plusSeconds shift = request.desiredDeparture + shift := by
  obtain ⟨-, hfirst, hlast⟩ := h
  have hfits : ∀ d s horizon : Int, i64Min ≤ (d + s) / 86400 * 86400 →
      ((d + s) / 86400 + max horizon 1) * 86400 ≤ i64Max → i64Min ≤ d + s ∧ d + s ≤ i64Max := by
    intro d s horizon hlow hhigh
    omega
  exact clamp64_of_mem (hfits _ _ horizonDays hfirst hlast)

lemma mem_days (h : InClock request shift horizonDays) {day : Int} :
    day ∈ daysFrom (request.desiredDeparture.plusSeconds shift) horizonDays ↔
      (request.desiredDeparture + shift) / secondsPerDay ≤ day ∧
        day < (request.desiredDeparture + shift) / secondsPerDay + horizonDays := by
  have hfits : ∀ d s horizon : Int, i64Min ≤ (d + s) / 86400 * 86400 →
      ((d + s) / 86400 + max horizon 1) * 86400 ≤ i64Max →
      i64Min ≤ d + s ∧ (d + s) / 86400 + horizon ≤ i64Max := by
    intro d s horizon hlow hhigh
    unfold i64Min i64Max at *
    omega
  obtain ⟨hlow, hhigh⟩ := hfits _ _ _ h.first h.last
  rw [h.plusSeconds_eq]
  exact mem_daysFrom hlow hhigh

/-- The wished days of the horizon, moved by the shift, are the days of the horizon. -/
lemma mem_wishedDays (h : InClock request shift horizonDays) {day : Int} :
    day ∈ daysFrom request.desiredDeparture horizonDays ↔
      day + request.daysMoved shift
        ∈ daysFrom (request.desiredDeparture.plusSeconds shift) horizonDays := by
  have hfits : ∀ d s horizon : Int, d ≤ i64Max → i64Min ≤ (d + s) / 86400 * 86400 →
      ((d + s) / 86400 + max horizon 1) * 86400 ≤ i64Max → d / 86400 + horizon ≤ i64Max := by
    intro d s horizon hd hlow hhigh
    unfold i64Min i64Max at *
    omega
  have hmoved : ∀ a b horizon day : Int, (b ≤ day ∧ day < b + horizon) ↔
      a ≤ day + (a - b) ∧ day + (a - b) < a + horizon := by
    intro a b horizon day
    omega
  rw [h.mem_days, mem_daysFrom h.wished.1 (hfits _ _ _ h.wished.2 h.first h.last)]
  exact hmoved _ _ _ _

end InClock

section

variable {request : PathRequest} {shift horizonDays : Int} {pattern : ServicePattern}

/-- A day of the horizon has a departure with the time of day of the shifted wish. -/
lemma departureOn_of_mem (hclock : InClock request shift horizonDays)
    (htime : pattern.departureTimeS = request.desiredDeparture.plusSeconds shift % secondsPerDay)
    {day : Int} (hfrom : (request.desiredDeparture + shift) / secondsPerDay ≤ day)
    (hto : day < (request.desiredDeparture + shift) / secondsPerDay + horizonDays) :
    pattern.departureOn day = request.desiredOn (day - request.daysMoved shift) + shift := by
  have hgeneral : ∀ d s horizon day : Int, i64Min ≤ (d + s) / 86400 * 86400 →
      ((d + s) / 86400 + max horizon 1) * 86400 ≤ i64Max → (d + s) / 86400 ≤ day →
      day < (d + s) / 86400 + horizon →
      addSat64 (mulSat64 day 86400) ((d + s) % 86400)
        = (day - ((d + s) / 86400 - d / 86400)) * 86400 + d % 86400 + s := by
    intro d s horizon day hlow hhigh hfrom hto
    unfold addSat64 mulSat64 clamp64 i64Min i64Max at *
    omega
  rw [ServicePattern.departureOn, htime, hclock.plusSeconds_eq]
  exact hgeneral _ _ _ _ hclock.first hclock.last hfrom hto

lemma day_of_desiredOn {day other : Int}
    (h : request.desiredOn day + shift = request.desiredOn other + shift) : day = other := by
  have hgeneral : ∀ d s a b : Int, a * 86400 + d + s = b * 86400 + d + s → a = b := by
    intro d s a b heq
    omega
  exact hgeneral _ _ _ _ h

/-- A pattern runs on a day of the horizon if the day is an operating day and the window
admits the shifted departure. -/
lemma runsOn_of_mem (hclock : InClock request shift horizonDays)
    {profil : Conflict.ItineraryProfile}
    (hmade : TrainPathPlanner.angebot request profil shift = .ok pattern) {day : Int}
    (hday : day ∈ daysFrom (request.desiredDeparture.plusSeconds shift) horizonDays) :
    pattern.departureOn day = request.desiredOn (day - request.daysMoved shift) + shift ∧
      pattern.runsOn day = (request.operatingDays.containsDay day &&
        request.admits (request.desiredOn (day - request.daysMoved shift) + shift)) := by
  obtain ⟨-, -, hdays, hwindow, htime⟩ := angebot_eq_ok hmade
  obtain ⟨hfrom, hto⟩ := hclock.mem_days.mp hday
  have hdeparture := departureOn_of_mem hclock htime hfrom hto
  refine ⟨hdeparture, ?_⟩
  rw [ServicePattern.runsOn, hdays, hwindow, hdeparture, PathRequest.admits]
  cases request.serviceWindow with
  | none => rfl
  | some window => rfl

/-- The runs of an offer, by their days. -/
lemma exists_run_iff (hclock : InClock request shift horizonDays)
    {profil : Conflict.ItineraryProfile}
    (hmade : TrainPathPlanner.angebot request profil shift = .ok pattern) {departure : SimTime} :
    (∃ run ∈ offerRuns (request.desiredDeparture.plusSeconds shift) pattern horizonDays,
      run.departure = departure) ↔
      ∃ day ∈ daysFrom (request.desiredDeparture.plusSeconds shift) horizonDays,
        request.operatingDays.containsDay day = true ∧
          request.admits (request.desiredOn (day - request.daysMoved shift) + shift) = true ∧
          request.desiredOn (day - request.daysMoved shift) + shift = departure := by
  simp only [offerRuns, List.mem_filterMap]
  constructor
  · rintro ⟨run, ⟨day, hday, hrun⟩, rfl⟩
    obtain ⟨hdeparture, hruns⟩ := runsOn_of_mem hclock hmade hday
    refine ⟨day, hday, ?_⟩
    rw [← hdeparture, Conflict.ServicePattern.materialise_departure hrun]
    rw [ServicePattern.materialise] at hrun
    split at hrun
    next hon =>
      rw [hruns, Bool.and_eq_true, ← hdeparture] at hon
      exact ⟨hon.1, hon.2, rfl⟩
    · cases hrun
  · rintro ⟨day, hday, hoperates, hadmitted, rfl⟩
    obtain ⟨hdeparture, hruns⟩ := runsOn_of_mem hclock hmade hday
    rw [hoperates, hadmitted, Bool.and_self] at hruns
    exact ⟨_, ⟨day, hday, by rw [ServicePattern.materialise, if_pos hruns]⟩, hdeparture⟩

/-- **What a shift does to the days of an offer.**  A candidate of the planner enters the
shifted departures of its request, all of them and no others, exactly when the shift does not
bring a departure from a day with traffic to one without or the other way round. -/
theorem candidate_follows_iff {planner : TrainPathPlanner} {ledger : OccupationLedger}
    {outcome : PlannerOutcome} {candidate : PathCandidate}
    (hplan : planner.plan ledger request = .ok outcome)
    (hcandidate : candidate ∈ outcome.candidates)
    (hclock : InClock request candidate.deviation.shiftS horizonDays) :
    FollowsRequest request candidate.deviation.shiftS horizonDays candidate.pattern
      ↔ weekdaysMoveAlong request candidate.deviation.shiftS horizonDays = true := by
  obtain ⟨-, ⟨profil, hmade, -⟩, -⟩ := TrainPathPlanner.offers_of_plan hplan candidate hcandidate
  set shift := candidate.deviation.shiftS
  rw [weekdaysMoveAlong, List.all_eq_true]
  constructor
  · intro hfollows day hday
    rw [Bool.or_eq_true, Bool.not_eq_true', beq_iff_eq]
    cases hadmitted :
        request.admits (request.desiredOn (day - request.daysMoved shift) + shift) with
    | false => exact .inl rfl
    | true =>
      refine .inr (Bool.eq_iff_iff.mpr ⟨fun hoperates => ?_, fun hoperates => ?_⟩)
      · obtain ⟨run, hrun, hdeparture⟩ := (exists_run_iff hclock hmade).mpr
          ⟨day, hday, hoperates, hadmitted, rfl⟩
        obtain ⟨other, hother, heq⟩ := hfollows.wished run hrun
        rw [hdeparture] at heq
        rw [day_of_desiredOn heq]
        exact hother
      · have hwished : day - request.daysMoved shift
            ∈ daysFrom request.desiredDeparture horizonDays := by
          rw [hclock.mem_wishedDays, Int.sub_add_cancel]
          exact hday
        obtain ⟨other, -, hother, -, heq⟩ := (exists_run_iff hclock hmade).mp
          (hfollows.complete _ hwished hoperates hadmitted)
        have hsame : other = day := by linarith [day_of_desiredOn heq]
        rwa [← hsame]
  · intro hmoves
    have hagree : ∀ day ∈ daysFrom (request.desiredDeparture.plusSeconds shift) horizonDays,
        request.admits (request.desiredOn (day - request.daysMoved shift) + shift) = true →
        request.operatingDays.containsDay day
          = request.operatingDays.containsDay (day - request.daysMoved shift) := by
      intro day hday hadmitted
      have hmove := hmoves day hday
      rwa [hadmitted, Bool.not_true, Bool.false_or, beq_iff_eq] at hmove
    constructor
    · intro run hrun
      obtain ⟨day, hday, hoperates, hadmitted, heq⟩ :=
        (exists_run_iff hclock hmade).mp ⟨run, hrun, rfl⟩
      rw [hagree day hday hadmitted] at hoperates
      exact ⟨_, hoperates, heq.symm⟩
    · intro day hday hoperates hadmitted
      rw [hclock.mem_wishedDays] at hday
      refine (exists_run_iff hclock hmade).mpr ⟨_, hday, ?_, ?_, ?_⟩
      · rw [hagree _ hday (by rwa [Int.add_sub_cancel]), Int.add_sub_cancel]
        exact hoperates
      · rwa [Int.add_sub_cancel]
      · rw [Int.add_sub_cancel]

end

/-! ### Requests for the line with two stations -/

namespace SmallLine

open Conflict (Weekday Infrastructure)

/-- The requests of the line are for a railcar with both kinds of protection, from the first
station to the second one. -/
def requestOf (id : PathRequestId) (offset : ℕ) (departure : SimTime) (days : List Weekday)
    (tolerances : PathTolerances) : Option PathRequest := do
  let train ← Conflict.SmallLine.railcar ⟨{.pzb, .lzb}⟩
  let days ← (Conflict.OperatingDays.fromDays days).toOption
  (PathRequest.new id (Conflict.StationHead.number offset) train 1 2 [] departure days
    tolerances).toOption

/-- The planner of the line, with a horizon. -/
def plannerOf (horizonDays : Int) : Option TrainPathPlanner :=
  Conflict.SmallLine.network.map fun infrastructure =>
    ⟨Conflict.SmallLine.dynamics, infrastructure,
      PlannerOptions.default.withHorizonDays horizonDays⟩

/-- Ten minutes earlier or not at all. -/
def tenMinutesEarlier : PathTolerances :=
  ⟨600, 0, 600, 0, 0, by decide, by decide, by decide, by decide⟩

/-- What the planner makes of a request while the line is free. -/
structure Planned where
  planner : TrainPathPlanner
  request : PathRequest
  outcome : PlannerOutcome
  isOutcome : planner.plan (.new .new) request = .ok outcome

/-- The path of a train that wishes to leave five minutes after midnight on some weekdays. -/
def planned (days : List Weekday) : Option Planned := do
  let planner ← plannerOf 7
  let request ← requestOf 1 0 86700 days tenMinutesEarlier
  match h : planner.plan (.new .new) request with
  | .ok outcome => some ⟨planner, request, outcome, h⟩
  | .error _ => none

/-- A train that wishes to leave on Tuesdays at five minutes past midnight is offered to leave
on Tuesdays at five minutes to midnight instead, almost a day later. -/
theorem midnight_keeps_weekdays : ¬ ∀ planner ledger request outcome,
    TrainPathPlanner.plan planner ledger request = .ok outcome →
      ∀ candidate ∈ outcome.candidates, FollowsRequest request candidate.deviation.shiftS
        planner.options.horizonDays candidate.pattern := by
  intro hfollows
  have hrun : ((planned [.tuesday]).any fun run => run.outcome.candidates.any fun candidate =>
      decide (candidate.deviation.shiftS = -600 ∧ run.request.desiredDeparture = 86700 ∧
        run.request.operatingDays.containsDay 2 = false) &&
      (offerRuns (run.request.desiredDeparture.plusSeconds candidate.deviation.shiftS)
        candidate.pattern run.planner.options.horizonDays).any fun entered =>
          decide (entered.departure = 172500)) = true := by
    decide +kernel
  obtain ⟨run, -, hrun⟩ := (Option.any_eq_true _ _).mp hrun
  obtain ⟨candidate, hcandidate, hrun⟩ := List.any_eq_true.mp hrun
  rw [Bool.and_eq_true, decide_eq_true_eq, List.any_eq_true] at hrun
  obtain ⟨⟨hshift, hwish, hnot⟩, entered, hentered, hdeparture⟩ := hrun
  obtain ⟨day, hday, heq⟩ :=
    (hfollows _ _ _ _ run.isOutcome candidate hcandidate).wished entered hentered
  have hgeneral : ∀ day : Int, 172500 = day * 86400 + 86700 % 86400 + -600 → day = 2 := by
    omega
  rw [of_decide_eq_true hdeparture, hshift, PathRequest.desiredOn, hwish] at heq
  rw [hgeneral day heq, hnot] at hday
  cases hday

/-- A daily train is offered every departure ten minutes earlier. -/
theorem candidate_follows_daily : ∃ planner ledger request outcome, ∃ candidate,
    TrainPathPlanner.plan planner ledger request = .ok outcome ∧ candidate ∈ outcome.candidates ∧
      candidate.deviation.shiftS = -600 ∧
      FollowsRequest request candidate.deviation.shiftS 7 candidate.pattern := by
  have hrun : ((planned [.monday, .tuesday, .wednesday, .thursday, .friday, .saturday, .sunday]).any
      fun run => run.outcome.candidates.any fun candidate =>
        decide (candidate.deviation.shiftS = -600 ∧ run.request.desiredDeparture = 86700) &&
          weekdaysMoveAlong run.request candidate.deviation.shiftS 7) = true := by
    decide +kernel
  obtain ⟨run, -, hrun⟩ := (Option.any_eq_true _ _).mp hrun
  obtain ⟨candidate, hcandidate, hrun⟩ := List.any_eq_true.mp hrun
  rw [Bool.and_eq_true, decide_eq_true_eq] at hrun
  obtain ⟨⟨hshift, hwish⟩, hmoves⟩ := hrun
  have hclock : InClock run.request candidate.deviation.shiftS 7 := by
    constructor <;> rw [hwish] <;> first | rw [hshift]; decide | decide
  exact ⟨run.planner, _, run.request, run.outcome, candidate, run.isOutcome, hcandidate, hshift,
    (candidate_follows_iff run.isOutcome hcandidate hclock).mpr hmoves⟩

end SmallLine

end Zugfolge.Planner
