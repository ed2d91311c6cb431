/-
The path planner.

The planner treats one request against a ledger.  It has three degrees of freedom: the tracks,
the time and a longer stop where another train is let past.  Every candidate is free on every
day of the horizon; the first one in the published order is offered.  Candidates are ordered by
a list of criteria, one after the other, never by a single value.

* `TrainPathPlanner.Drawn`, `drawn_of_plan`: what a candidate is drawn from;
* `TrainPathPlanner.offers_of_plan`: every candidate is an offer that was found free.
-/
import Mathlib.Data.List.ReduceOption
import Zugfolge.Conflict.Ledger
import Zugfolge.Conflict.Profile
import Zugfolge.Foundation.Collect
import Zugfolge.Planner.Route

namespace Zugfolge.Planner

open Conflict (OperatingPointId SimTime TrackId ServicePattern Itinerary ItineraryProfile)
open Infra (Length)

/-- How far a candidate deviates from its request. -/
structure CandidateDeviation where
  shiftS : Int
  extraRunningTimeS : Int
  operationalStops : List OperatingPointId
  detour : Length

namespace CandidateDeviation

variable (deviation : CandidateDeviation)

/-- The candidate is what was requested. -/
def isExact : Bool :=
  deviation.shiftS = 0 && deviation.extraRunningTimeS = 0 && deviation.operationalStops.isEmpty
    && !decide (0 < deviation.detour)

/-- The criteria in their order: the amount of the shift, the longer running time, the
operational stops, the detour, and the earlier one of two shifts. -/
def ranking : List Int :=
  [deviation.shiftS.natAbs, deviation.extraRunningTimeS, deviation.operationalStops.length,
    deviation.detour, deviation.shiftS]

end CandidateDeviation

/-- An offer that was found free, with its itinerary and its deviation from the request. -/
structure PathCandidate where
  pattern : ServicePattern
  itinerary : Itinerary
  deviation : CandidateDeviation
  firstDeparture : SimTime

namespace PathCandidate

variable (candidate : PathCandidate)

/-- The tracks of the itinerary, the last criterion. -/
def tracks : List TrackId := candidate.itinerary.legs.map fun leg => leg.leg.track

/-- All criteria in their order. -/
def rankKey : List Int := candidate.deviation.ranking ++ candidate.tracks.map Int.ofNat

end PathCandidate

/-- Orders candidates by the published criteria. -/
def rank (candidates : List PathCandidate) : List PathCandidate :=
  candidates.insertionSort fun a b => a.rankKey ≤ b.rankKey

@[simp] lemma mem_rank {candidates : List PathCandidate} {candidate : PathCandidate} :
    candidate ∈ rank candidates ↔ candidate ∈ candidates :=
  List.mem_insertionSort _

open Conflict (OperatingPointId SimTime TrackId ServicePattern Itinerary ItineraryProfile
  Infrastructure OccupationLedger ConflictReport OccupationConflict deriveOccupationProfile
  secondsPerDay ConflictResource)
open Foundation
open Infra (Length Dynamics)

/-! ### Options and outcomes -/

/-- How far the planner searches. -/
structure PlannerOptions where
  maxRouteCandidates : ℕ
  maxCandidates : ℕ
  horizonDays : Int
  minimumOperationalDwellS : Int
  maxDwellRounds : ℕ

namespace PlannerOptions

/-- The default bounds: a week covers every pattern of weekdays once. -/
def default : PlannerOptions := ⟨8, 16, 7, 60, 6⟩

/-- Sets the bound of the itineraries. -/
def withMaxRouteCandidates (options : PlannerOptions) (value : ℕ) : PlannerOptions :=
  { options with maxRouteCandidates := value }

/-- Sets the horizon, at least one day. -/
def withHorizonDays (options : PlannerOptions) (value : Int) : PlannerOptions :=
  { options with horizonDays := if value < 1 then 1 else value }

end PlannerOptions

/-- What became of a request. -/
inductive PathDecision where
  | granted
  | alternative
  | rejected
  deriving DecidableEq

/-- The outcome of a request, with what was in the way of the wished path. -/
structure PlannerOutcome where
  request : PathRequestId
  decision : PathDecision
  candidates : List PathCandidate
  desiredConflicts : ConflictReport
  desiredBoundaryViolation : Option String

/-- The offered candidate. -/
def PlannerOutcome.offer (outcome : PlannerOutcome) : Option PathCandidate :=
  outcome.candidates.head?

structure DayConflict where
  departure : SimTime
  report : ConflictReport

/-- An itinerary with its profile. -/
abbrev Laufweg : Type := Itinerary × ItineraryProfile

/-- A duration in whole minutes, rounded up. -/
def aufVolleMinute (seconds : Int) : Int :=
  if seconds ≤ 0 then 0 else addSat64 seconds 59 / 60 * 60

/-- The same itinerary with another dwell at the end of one leg. -/
def mitHaltezeit (infrastructure : Infrastructure) (laufweg : Itinerary) (abschnitt : ℕ)
    (haltezeit : Int) : Except PlannerError Itinerary :=
  let legs := laufweg.legs.zipIdx.map fun leg =>
    if leg.2 = abschnitt then leg.1.leg.withDwell haltezeit else leg.1.leg
  match Itinerary.new infrastructure.graph legs with
  | .ok itinerary => .ok itinerary
  | .error error => .error (.conflict error)

/-- The first entry with the least key. -/
def minByKey {α : Type} (key : α → Int × Int) : List α → Option α
  | [] => none
  | entry :: entries =>
    some (entries.foldl (fun best entry =>
      if (key entry).1 < (key best).1
        ∨ (key entry).1 = (key best).1 ∧ (key entry).2 < (key best).2 then entry
      else best) entry)

/-! ### The planner -/

/-- The network, its running times and the bounds of the search. -/
structure TrainPathPlanner where
  dynamics : Dynamics
  infrastructure : Infrastructure
  options : PlannerOptions

/-- The days of a horizon from a departure on. -/
def daysFrom (departure : SimTime) (horizonDays : Int) : List Int :=
  let tag0 := departure / secondsPerDay
  (List.range (addSat64 tag0 horizonDays - tag0).toNat).map fun offset : ℕ => tag0 + offset

namespace TrainPathPlanner

variable (planner : TrainPathPlanner)

/-- The profile of an itinerary for the train of a request. -/
def profil (request : PathRequest) (laufweg : Itinerary) : Except PlannerError ItineraryProfile :=
  match deriveOccupationProfile planner.dynamics planner.infrastructure laufweg request.train with
  | .ok profil => .ok profil
  | .error error => .error (.conflict error)

/-- The itineraries that have a profile, and the last error of those that have none. -/
def sammleProfile (request : PathRequest) (laufwege : List Itinerary) :
    List Laufweg × Option PlannerError :=
  laufwege.foldl (fun stand laufweg =>
    match planner.profil request laufweg with
    | .ok profil => (stand.1 ++ [(laufweg, profil)], stand.2)
    | .error error => (stand.1, some error)) ([], none)

/-- The itineraries with their profiles, without further stops. -/
def basisprofile (request : PathRequest) : Except PlannerError (List Laufweg) := do
  let laufwege ← enumerateItineraries planner.infrastructure.graph request
    planner.options.maxRouteCandidates
  let (basis, letzterFehler) := planner.sammleProfile request laufwege
  if basis.isEmpty then
    .error (letzterFehler.getD (.noRoute request.origin request.destination))
  else .ok basis

/-- The offer of a candidate: the time of day of the shifted departure on the operating days
of the request. -/
def angebot (request : PathRequest) (profil : ItineraryProfile) (shift : Int) :
    Except PlannerError ServicePattern :=
  let abfahrt := request.desiredDeparture.plusSeconds shift
  match ServicePattern.new request.number profil.toOccupationProfile (abfahrt % secondsPerDay)
      request.operatingDays with
  | .error error => .error (.conflict error)
  | .ok pattern =>
    .ok (match request.serviceWindow with
      | some window => pattern.withServiceWindow window
      | none => pattern)

/-- The first conflict within the horizon; days without traffic are passed over. -/
def ersteKollision (ledger : OccupationLedger) (pattern : ServicePattern) (departure : SimTime) :
    Option DayConflict :=
  (daysFrom departure planner.options.horizonDays).findSome? fun tag =>
    match pattern.materialise tag with
    | none => none
    | some fahrt =>
      let bericht := ledger.check fahrt
      if !bericht.isClear then some ⟨fahrt.departure, bericht⟩ else none

/-- The first departure within the horizon. -/
def ersteAbfahrt (pattern : ServicePattern) (departure : SimTime) : SimTime :=
  match (daysFrom departure planner.options.horizonDays).find? fun tag => pattern.runsOn tag with
  | none => departure
  | some tag => pattern.departureOn tag

/-- The legs at whose end the train may stand longer: stops of the request, and operating
points where trains can cross; neither the first leg nor the last one. -/
def betriebshalte (laufweg : Itinerary) (request : PathRequest) : List (ℕ × OperatingPointId) :=
  let letzter := laufweg.legs.length - 1
  laufweg.legs.zipIdx.filterMap fun leg =>
    if decide (0 < leg.2) && decide (leg.2 < letzter) && leg.1.inStation then
      let punkt := leg.1.finish
      (planner.infrastructure.graph.operatingPoint punkt).bind fun betriebsstelle =>
        if (request.stopAt punkt).isSome || betriebsstelle.kind.allowsCrossing then
          some (leg.2, punkt)
        else none
    else none

/-- When the train leaves the leg it stands on. -/
def haltEnde (laufweg : Laufweg) (abschnitt : ℕ) : Int :=
  match laufweg.1.legs[abschnitt]? with
  | none => 0
  | some leg =>
    (((laufweg.2.occupations.filter fun belegung =>
      belegung.resource = ConflictResource.track leg.leg.track).map
        fun belegung => belegung.exitS).getLast?).getD 0

/-- By how much a longer stop resolves the conflicts behind it. -/
def zuwachs (kollision : DayConflict) (haltEnde : Int) : Option Int :=
  ((kollision.report.conflicts.filter fun befund =>
    haltEnde ≤ befund.own.entry - kollision.departure).map
      fun befund => subSat64 befund.other.finish befund.own.start).max?.filter (0 < ·)

/-- Tries ever longer stops at the end of a leg until the path is free; a conflict before the
stop is never resolved by waiting. -/
def betriebshaltFrom (ledger : OccupationLedger) (request : PathRequest) (laufweg : Itinerary)
    (abschnitt : ℕ) (shift : Int) : ℕ → Int → Except PlannerError (Option Laufweg)
  | 0, _ => .ok none
  | rounds + 1, haltezeit => do
    let gebaut ← mitHaltezeit planner.infrastructure laufweg abschnitt haltezeit
    let profil ← planner.profil request gebaut
    let angebot ← angebot request profil shift
    match planner.ersteKollision ledger angebot (request.desiredDeparture.plusSeconds shift) with
    | none => .ok (some (gebaut, profil))
    | some kollision =>
      match zuwachs kollision (haltEnde (gebaut, profil) abschnitt) with
      | none => .ok none
      | some zuwachs =>
        betriebshaltFrom ledger request laufweg abschnitt shift rounds
          (addSat64 haltezeit (aufVolleMinute zuwachs))

/-- The shortest stop at the end of a leg after which the path is free. -/
def betriebshalt (ledger : OccupationLedger) (request : PathRequest) (laufweg : Itinerary)
    (abschnitt : ℕ) (shift : Int) : Except PlannerError (Option Laufweg) :=
  let vorhanden := ((laufweg.legs[abschnitt]?).map fun leg => leg.leg.dwellS).getD 0
  planner.betriebshaltFrom ledger request laufweg abschnitt shift planner.options.maxDwellRounds
    (addSat64 vorhanden (aufVolleMinute planner.options.minimumOperationalDwellS))

/-- The first candidate with a longer stop at the end of one of the given legs. -/
def mitBetriebshalt (ledger : OccupationLedger) (request : PathRequest) (schnellste : Int)
    (kuerzeste : Length) (shift : Int) (laufweg : Itinerary) :
    List (ℕ × OperatingPointId) → Except PlannerError (Option PathCandidate)
  | [] => .ok none
  | (abschnitt, punkt) :: halte =>
    let toleranz := request.tolerances
    let abfahrt := request.desiredDeparture.plusSeconds shift
    let neuerHalt := (request.stopAt punkt).isNone
    let weiter := mitBetriebshalt ledger request schnellste kuerzeste shift laufweg halte
    if neuerHalt ∧ toleranz.maxOperationalStops = 0 then weiter
    else do
      match ← planner.betriebshalt ledger request laufweg abschnitt shift with
      | none => weiter
      | some halt =>
        let mehrfahrzeit := subSat64 halt.2.runningTimeS schnellste
        if toleranz.extraRunningTimeS < mehrfahrzeit then weiter
        else do
          let angebot ← angebot request halt.2 shift
          if (request.boundaryViolation abfahrt
              (abfahrt.plusSeconds halt.2.runningTimeS)).isSome then weiter
          else
            pure (some ⟨angebot, halt.1, ⟨shift, mehrfahrzeit,
              if neuerHalt then [punkt] else [], laufweg.length.minus kuerzeste⟩,
              planner.ersteAbfahrt angebot abfahrt⟩)

/-- The candidate on one itinerary with one shift, if there is one. -/
def kandidat (ledger : OccupationLedger) (request : PathRequest) (schnellste : Int)
    (kuerzeste : Length) (shift : Int) (laufweg : Laufweg) :
    Except PlannerError (Option PathCandidate) :=
  let toleranz := request.tolerances
  let mehrfahrzeit := subSat64 laufweg.2.runningTimeS schnellste
  if toleranz.extraRunningTimeS < mehrfahrzeit then .ok none
  else match angebot request laufweg.2 shift with
    | .error error => .error error
    | .ok angebot =>
      let abfahrt := request.desiredDeparture.plusSeconds shift
      if (request.boundaryViolation abfahrt
          (abfahrt.plusSeconds laufweg.2.runningTimeS)).isSome then .ok none
      else if (planner.ersteKollision ledger angebot abfahrt).isNone then
        .ok (some ⟨angebot, laufweg.1,
          ⟨shift, mehrfahrzeit, [], laufweg.1.length.minus kuerzeste⟩,
          planner.ersteAbfahrt angebot abfahrt⟩)
      else if toleranz.extraRunningTimeS = 0 then .ok none
      else planner.mitBetriebshalt ledger request schnellste kuerzeste shift laufweg.1
        (planner.betriebshalte laufweg.1 request)

/-- All candidates: every shift on every itinerary.  The profiles with a longer stop do not
depend on the shift; the source keeps them, here they are computed again. -/
def kandidaten (ledger : OccupationLedger) (request : PathRequest) (basis : List Laufweg)
    (schnellste : Int) (kuerzeste : Length) : Except PlannerError (List PathCandidate) := do
  let gefunden ← (request.tolerances.shifts.flatMap fun shift =>
    basis.map fun laufweg => (shift, laufweg)).mapM fun lage =>
      planner.kandidat ledger request schnellste kuerzeste lage.1 lage.2
  pure gefunden.reduceOption

/-- What is in the way of the wished path. -/
def wunschBericht (ledger : OccupationLedger) (request : PathRequest) (laufweg : Laufweg)
    (violation : Option String) : Except PlannerError ConflictReport :=
  if violation.isSome then .ok ⟨[]⟩
  else do
    let angebot ← angebot request laufweg.2 0
    match planner.ersteKollision ledger angebot request.desiredDeparture with
    | none => .ok ⟨[]⟩
    | some kollision => .ok kollision.report

/-- Treats a request against a ledger. -/
def plan (ledger : OccupationLedger) (request : PathRequest) :
    Except PlannerError PlannerOutcome := do
  let basis ← planner.basisprofile request
  let schnellste := ((basis.map fun laufweg => laufweg.2.runningTimeS).min?).getD 0
  let kuerzeste := ((basis.map fun laufweg => laufweg.1.length).min?).getD 0
  match minByKey (fun laufweg => (laufweg.2.runningTimeS, laufweg.1.length)) basis with
  | none => .error (.noRoute request.origin request.destination)
  | some wunsch =>
    let violation := request.boundaryViolation request.desiredDeparture
      (request.desiredDeparture.plusSeconds wunsch.2.runningTimeS)
    let bericht ← planner.wunschBericht ledger request wunsch violation
    let kandidaten ← planner.kandidaten ledger request basis schnellste kuerzeste
    let kandidaten := (rank kandidaten).take planner.options.maxCandidates
    let decision := match kandidaten.head? with
      | some bester => if bester.deviation.isExact then PathDecision.granted else .alternative
      | none => .rejected
    pure ⟨request.id, decision, kandidaten, bericht, violation⟩

/-! ### What a candidate is -/

/-- The pattern was made for the request with a shift, and it was found free on every day of the
horizon. -/
structure Offers (ledger : OccupationLedger) (request : PathRequest) (shift : Int)
    (pattern : ServicePattern) : Prop where
  made : ∃ profil, angebot request profil shift = .ok pattern ∧
    request.boundaryViolation (request.desiredDeparture.plusSeconds shift)
      ((request.desiredDeparture.plusSeconds shift).plusSeconds profil.runningTimeS) = none
  free : planner.ersteKollision ledger pattern (request.desiredDeparture.plusSeconds shift) = none

/-- An itinerary waits longer than another one at the end of a leg. -/
def Waits (laufweg : Itinerary) (abschnitt : ℕ) (gebaut : Itinerary) : Prop :=
  ∃ laenger, 0 ≤ laenger ∧ mitHaltezeit planner.infrastructure laufweg abschnitt
    (addSat64 (((laufweg.legs[abschnitt]?).map fun leg => leg.leg.dwellS).getD 0) laenger)
      = .ok gebaut

/-- A candidate is the itinerary that is tried, or the same one with a longer stop, and its
operational stops name the place of the stop if none was requested there. -/
def Halts (request : PathRequest) (laufweg : Itinerary) (candidate : PathCandidate) : Prop :=
  (candidate.itinerary = laufweg ∧ candidate.deviation.operationalStops = []) ∨
    ∃ stelle ∈ planner.betriebshalte laufweg request,
      planner.Waits laufweg stelle.1 candidate.itinerary ∧
        candidate.deviation.operationalStops
          = if (request.stopAt stelle.2).isNone then [stelle.2] else []

/-- A candidate was drawn from the profile of its own itinerary, keeps the tolerances and the
windows of the request, and was found free on every day of the horizon. -/
structure Drawn (ledger : OccupationLedger) (request : PathRequest) (schnellste : Int)
    (kuerzeste : Length) (shift : Int) (laufweg : Itinerary) (candidate : PathCandidate) :
    Prop where
  shiftS : candidate.deviation.shiftS = shift
  detour : candidate.deviation.detour = laufweg.length.minus kuerzeste
  made : ∃ profil, planner.profil request candidate.itinerary = .ok profil ∧
    angebot request profil shift = .ok candidate.pattern ∧
    candidate.deviation.extraRunningTimeS = subSat64 profil.runningTimeS schnellste ∧
    request.boundaryViolation (request.desiredDeparture.plusSeconds shift)
      ((request.desiredDeparture.plusSeconds shift).plusSeconds profil.runningTimeS) = none
  extra : candidate.deviation.extraRunningTimeS ≤ request.tolerances.extraRunningTimeS
  stops : candidate.deviation.operationalStops.length ≤ request.tolerances.maxOperationalStops
  halts : planner.Halts request laufweg candidate
  free : planner.ersteKollision ledger candidate.pattern
    (request.desiredDeparture.plusSeconds shift) = none

variable {planner} {ledger : OccupationLedger} {request : PathRequest} {schnellste shift : Int}
  {kuerzeste : Length}

variable {basis : List Laufweg} {laufweg : Itinerary} {outcome : PlannerOutcome}

lemma Drawn.offers {candidate : PathCandidate}
    (h : planner.Drawn ledger request schnellste kuerzeste shift laufweg candidate) :
    planner.Offers ledger request shift candidate.pattern := by
  obtain ⟨profil, -, hpattern, -, hviolation⟩ := h.made
  exact ⟨⟨profil, hpattern, hviolation⟩, h.free⟩

lemma aufVolleMinute_nonneg (seconds : Int) : 0 ≤ aufVolleMinute seconds := by
  unfold aufVolleMinute addSat64 clamp64 i64Min i64Max
  split <;> omega

lemma addSat64_addSat64 {start first second : Int} (hstart : 0 ≤ start) (hfirst : 0 ≤ first)
    (hsecond : 0 ≤ second) :
    addSat64 (addSat64 start first) second = addSat64 start (first + second) := by
  unfold addSat64 clamp64 i64Min i64Max
  omega

/-- The search for a stop ends with a path that is free. -/
lemma betriebshaltFrom_free {abschnitt : ℕ} {halt : Laufweg} {rounds : ℕ} :
    ∀ {laenger : Int}, 0 ≤ laenger →
      planner.betriebshaltFrom ledger request laufweg abschnitt shift rounds
        (addSat64 (((laufweg.legs[abschnitt]?).map fun leg => leg.leg.dwellS).getD 0) laenger)
          = .ok (some halt) →
      planner.Waits laufweg abschnitt halt.1 ∧
        planner.profil request halt.1 = .ok halt.2 ∧
        ∃ pattern, angebot request halt.2 shift = .ok pattern ∧
          planner.ersteKollision ledger pattern (request.desiredDeparture.plusSeconds shift)
            = none := by
  have hdwell : 0 ≤ ((laufweg.legs[abschnitt]?).map fun leg => leg.leg.dwellS).getD 0 := by
    cases laufweg.legs[abschnitt]? with
    | none => exact le_rfl
    | some leg => exact leg.dwellNonneg
  induction rounds with
  | zero =>
    intro laenger hlaenger h
    rw [betriebshaltFrom] at h
    cases h
  | succ rounds ih =>
    intro laenger hlaenger h
    rw [betriebshaltFrom, bind_eq_ok_iff] at h
    obtain ⟨gebaut, hgebaut, h⟩ := h
    rw [bind_eq_ok_iff] at h
    obtain ⟨profil, hprofil, h⟩ := h
    rw [bind_eq_ok_iff] at h
    obtain ⟨pattern, hpattern, h⟩ := h
    split at h
    next hfree =>
      cases h
      exact ⟨⟨laenger, hlaenger, hgebaut⟩, hprofil, pattern, hpattern, hfree⟩
    · split at h
      · cases h
      next zuwachs hzuwachs =>
        have hminute := aufVolleMinute_nonneg zuwachs
        rw [addSat64_addSat64 hdwell hlaenger hminute] at h
        exact ih (Int.add_nonneg hlaenger hminute) h

/-- A candidate with a longer stop is drawn from the profile with this stop. -/
lemma drawn_of_mitBetriebshalt {candidate : PathCandidate} {halte : List (ℕ × OperatingPointId)}
    (hhalte : ∀ stelle ∈ halte, stelle ∈ planner.betriebshalte laufweg request)
    (h : planner.mitBetriebshalt ledger request schnellste kuerzeste shift laufweg halte
      = .ok (some candidate)) :
    planner.Drawn ledger request schnellste kuerzeste shift laufweg candidate := by
  induction halte with
  | nil =>
    rw [mitBetriebshalt] at h
    cases h
  | cons stelle halte ih =>
    obtain ⟨abschnitt, punkt⟩ := stelle
    obtain ⟨hstelle, hhalte⟩ := List.forall_mem_cons.mp hhalte
    rw [mitBetriebshalt] at h
    simp only at h
    split at h
    · exact ih hhalte h
    next hallowed =>
      rw [bind_eq_ok_iff] at h
      obtain ⟨gefunden, hgefunden, h⟩ := h
      cases gefunden with
      | none => exact ih hhalte h
      | some halt =>
        obtain ⟨hwaits, hprofil, pattern, hpattern, hfree⟩ :=
          betriebshaltFrom_free (aufVolleMinute_nonneg _) hgefunden
        simp only at h
        split at h
        · exact ih hhalte h
        next hextra =>
          rw [bind_eq_ok_iff] at h
          obtain ⟨other, hother, h⟩ := h
          rw [hpattern] at hother
          cases hother
          split at h
          · exact ih hhalte h
          next hviolation =>
            cases h
            rw [Bool.not_eq_true, Option.isSome_eq_false_iff, Option.isNone_iff_eq_none]
              at hviolation
            refine ⟨rfl, rfl, ⟨halt.2, hprofil, hpattern, rfl, hviolation⟩,
              not_lt.mp hextra, ?_, .inr ⟨_, hstelle, hwaits, rfl⟩, hfree⟩
            simp only
            split
            next hnew =>
              have hsome := not_and.mp hallowed hnew
              exact Nat.one_le_iff_ne_zero.mpr hsome
            next => exact Nat.zero_le _

/-- A candidate is drawn from the itinerary that is tried. -/
lemma drawn_of_kandidat {laufweg : Laufweg} {candidate : PathCandidate}
    (hprofil : planner.profil request laufweg.1 = .ok laufweg.2)
    (h : planner.kandidat ledger request schnellste kuerzeste shift laufweg
      = .ok (some candidate)) :
    planner.Drawn ledger request schnellste kuerzeste shift laufweg.1 candidate := by
  rw [kandidat] at h
  simp only at h
  split at h
  · cases h
  next hextra =>
    split at h
    · cases h
    next pattern hpattern =>
      split at h
      · cases h
      next hviolation =>
        split at h
        next hfree =>
          cases h
          rw [Bool.not_eq_true, Option.isSome_eq_false_iff, Option.isNone_iff_eq_none]
            at hviolation
          exact ⟨rfl, rfl, ⟨laufweg.2, hprofil, hpattern, rfl, hviolation⟩, not_lt.mp hextra,
            Nat.zero_le _, .inl ⟨rfl, rfl⟩, Option.isNone_iff_eq_none.mp hfree⟩
        · split at h
          · cases h
          · exact drawn_of_mitBetriebshalt (fun _ hstelle => hstelle) h

/-- The itineraries with a profile are some of those that are listed, each with its own. -/
lemma profil_of_mem_sammleProfile {laufwege : List Itinerary} {laufweg : Laufweg}
    (h : laufweg ∈ (planner.sammleProfile request laufwege).1) :
    laufweg.1 ∈ laufwege ∧ planner.profil request laufweg.1 = .ok laufweg.2 := by
  have hfold : ∀ (behind : List Itinerary) (stand : List Laufweg × Option PlannerError),
      laufweg ∈ (behind.foldl (fun stand laufweg =>
        match planner.profil request laufweg with
        | .ok profil => (stand.1 ++ [(laufweg, profil)], stand.2)
        | .error error => (stand.1, some error)) stand).1 →
      laufweg ∈ stand.1
        ∨ laufweg.1 ∈ behind ∧ planner.profil request laufweg.1 = .ok laufweg.2 := by
    intro behind
    induction behind with
    | nil => exact fun stand hin => .inl hin
    | cons first behind ih =>
      intro stand hin
      rw [List.foldl_cons] at hin
      rcases ih _ hin with hin | ⟨hbehind, hprofil⟩
      · split at hin
        next profil hprofil =>
          rcases List.mem_append.mp hin with hin | hin
          · exact .inl hin
          · rw [List.mem_singleton.mp hin]
            exact .inr ⟨List.mem_cons_self, hprofil⟩
        next => exact .inl hin
      · exact .inr ⟨List.mem_cons_of_mem _ hbehind, hprofil⟩
  rcases hfold laufwege ([], none) h with hin | hin
  · cases hin
  · exact hin

lemma profil_of_mem_basisprofile {laufweg : Laufweg}
    (h : planner.basisprofile request = .ok basis) (hin : laufweg ∈ basis) :
    planner.profil request laufweg.1 = .ok laufweg.2 := by
  rw [basisprofile, bind_eq_ok_iff] at h
  obtain ⟨laufwege, -, h⟩ := h
  simp only at h
  split at h
  next => cases h
  next =>
    cases h
    exact (profil_of_mem_sammleProfile hin).2

/-- The running time of the fastest itinerary. -/
def schnellsteFahrzeit (basis : List Laufweg) : Int :=
  ((basis.map fun laufweg => laufweg.2.runningTimeS).min?).getD 0

/-- The length of the shortest itinerary. -/
def kuerzesteLaenge (basis : List Laufweg) : Length :=
  ((basis.map fun laufweg => laufweg.1.length).min?).getD 0

/-- The outcome of a request: the first candidates in their order, and what the first one is. -/
lemma plan_eq_ok (h : planner.plan ledger request = .ok outcome) :
    ∃ basis alle, planner.basisprofile request = .ok basis ∧
      planner.kandidaten ledger request basis (schnellsteFahrzeit basis) (kuerzesteLaenge basis)
        = .ok alle ∧
      outcome.candidates = (rank alle).take planner.options.maxCandidates ∧
      outcome.decision = match outcome.candidates.head? with
        | some bester => if bester.deviation.isExact then PathDecision.granted else .alternative
        | none => .rejected := by
  rw [plan, bind_eq_ok_iff] at h
  obtain ⟨basis, hbasis, h⟩ := h
  simp only at h
  split at h
  · cases h
  rw [bind_eq_ok_iff] at h
  obtain ⟨bericht, -, h⟩ := h
  rw [bind_eq_ok_iff] at h
  obtain ⟨alle, halle, h⟩ := h
  cases h
  exact ⟨basis, alle, hbasis, halle, rfl, rfl⟩

/-- The candidates are those of the itineraries with the shifts. -/
lemma mem_kandidaten_iff {alle : List PathCandidate}
    (h : planner.kandidaten ledger request basis schnellste kuerzeste = .ok alle)
    {candidate : PathCandidate} :
    candidate ∈ alle ↔ ∃ shift ∈ request.tolerances.shifts, ∃ laufweg ∈ basis,
      planner.kandidat ledger request schnellste kuerzeste shift laufweg
        = .ok (some candidate) := by
  rw [kandidaten, bind_eq_ok_iff] at h
  obtain ⟨gefunden, hgefunden, h⟩ := h
  cases h
  rw [List.reduceOption_mem_iff]
  constructor
  · intro hin
    obtain ⟨lage, hlage, hkandidat⟩ := exists_of_mem_mapM_ok hgefunden hin
    obtain ⟨shift, hshift, hpair⟩ := List.mem_flatMap.mp hlage
    obtain ⟨laufweg, hlaufweg, rfl⟩ := List.mem_map.mp hpair
    exact ⟨shift, hshift, laufweg, hlaufweg, hkandidat⟩
  · rintro ⟨shift, hshift, laufweg, hlaufweg, hkandidat⟩
    have hlage : (shift, laufweg) ∈ request.tolerances.shifts.flatMap fun shift =>
        basis.map fun laufweg => (shift, laufweg) :=
      List.mem_flatMap.mpr ⟨shift, hshift, List.mem_map_of_mem hlaufweg⟩
    obtain ⟨found, hin, hfound⟩ := exists_mem_of_mapM_ok hgefunden hlage
    rw [hkandidat] at hfound
    cases hfound
    exact hin

lemma drawn_of_mem_kandidaten {alle : List PathCandidate}
    (hbasis : planner.basisprofile request = .ok basis)
    (h : planner.kandidaten ledger request basis schnellste kuerzeste = .ok alle)
    {candidate : PathCandidate} (hin : candidate ∈ alle) :
    candidate.deviation.shiftS ∈ request.tolerances.shifts ∧ ∃ laufweg ∈ basis,
      planner.Drawn ledger request schnellste kuerzeste candidate.deviation.shiftS laufweg.1
        candidate := by
  obtain ⟨shift, hshift, laufweg, hlaufweg, hkandidat⟩ := (mem_kandidaten_iff h).mp hin
  have hdrawn := drawn_of_kandidat (profil_of_mem_basisprofile hbasis hlaufweg) hkandidat
  rw [hdrawn.shiftS]
  exact ⟨hshift, laufweg, hlaufweg, hdrawn⟩

/-- Every candidate of an outcome is drawn from one of the itineraries. -/
theorem drawn_of_plan (h : planner.plan ledger request = .ok outcome) :
    ∃ basis, planner.basisprofile request = .ok basis ∧ ∀ candidate ∈ outcome.candidates,
      candidate.deviation.shiftS ∈ request.tolerances.shifts ∧ ∃ laufweg ∈ basis,
        planner.Drawn ledger request (schnellsteFahrzeit basis) (kuerzesteLaenge basis)
          candidate.deviation.shiftS laufweg.1 candidate := by
  obtain ⟨basis, alle, hbasis, halle, hcandidates, -⟩ := plan_eq_ok h
  refine ⟨basis, hbasis, fun candidate hcandidate => ?_⟩
  rw [hcandidates] at hcandidate
  exact drawn_of_mem_kandidaten hbasis halle (mem_rank.mp (List.mem_of_mem_take hcandidate))

/-- **What the planner offers.**  Every candidate was made for the request with an admissible
shift, keeps the windows of the request, and was found free on every day of the horizon. -/
theorem offers_of_plan (h : planner.plan ledger request = .ok outcome) :
    ∀ candidate ∈ outcome.candidates,
      candidate.deviation.shiftS ∈ request.tolerances.shifts ∧
        planner.Offers ledger request candidate.deviation.shiftS candidate.pattern := by
  intro candidate hcandidate
  obtain ⟨basis, -, hdrawn⟩ := drawn_of_plan h
  obtain ⟨hshift, laufweg, -, hdrawn⟩ := hdrawn candidate hcandidate
  exact ⟨hshift, hdrawn.offers⟩

end TrainPathPlanner

end Zugfolge.Planner
