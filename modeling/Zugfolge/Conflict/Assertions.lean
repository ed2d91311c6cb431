/-
The debug assertions of the occupation profile.

The derivation of a profile asserts that every position it asks the timeline for is a cut and
that the instants of every blocking time do not fall.  With its assertions a derivation gives
the profile or nothing.

* `Claim.OnWay`, `profile_asserted_iff`: the assertions hold when all claims lie on the way.
-/
import Zugfolge.Conflict.Timeline

namespace Zugfolge.Conflict

open Infra (Length TrainCharacteristics Dynamics)
open Foundation
open Std (ExtTreeMap)

/-! ### The derivation with its assertions -/

namespace Timeline

variable (timeline : Timeline)

/-- When the head reaches a position, asserted to be a cut. -/
def arrivalAsserted (position : Length) : Option Int :=
  if timeline.arrival.contains position then some (timeline.arrivalAt position) else none

/-- When the head leaves a position. -/
def departureAsserted (position : Length) : Option Int :=
  (timeline.departure[position]?).or (timeline.arrivalAsserted position)

/-- When the train last started to move before a position. -/
def motionStartAsserted (position : Length) : Option Int :=
  ((timeline.stops.filter fun halt => decide (halt.1 ≤ position)).getLast?).elim (some 0)
    fun halt => timeline.departureAsserted halt.1

end Timeline

variable (infrastructure : Infrastructure)

/-- Where a train has cleared a claim that ends before its way. -/
def clearedPosition (train : TrainCharacteristics) (total : Length) (claim : Claim) : Length :=
  let parameter := infrastructure.signalling.«at» claim.governingPoint
  let raeumweg := (claim.finish.plus train.length).plus parameter.overlapLength
  if total < raeumweg then total else raeumweg

/-- When a train that leaves the end of a claim at an instant has cleared it. -/
def clearedAsserted (train : TrainCharacteristics)
    (timeline : Timeline) (total : Length) (claim : Claim) (exitS : Int) : Option Int :=
  if total ≤ claim.finish then some exitS
  else (timeline.arrivalAsserted (clearedPosition infrastructure train total claim)).map
    (max exitS)

/-- Where the approach to a claim begins. -/
def approachPosition (claim : Claim) : Length :=
  let parameter := infrastructure.signalling.«at» claim.governingPoint
  let vorsignal := claim.start.minus parameter.approachDistance
  if vorsignal < 0 then 0 else vorsignal

/-- The phases of the blocking time of one claim, asserted not to fall. -/
def occupationAsserted (train : TrainCharacteristics)
    (timeline : Timeline) (total : Length) (claim : Claim) : Option RelativeOccupation := do
  let parameter := infrastructure.signalling.«at» claim.governingPoint
  let entryS ← timeline.departureAsserted claim.start
  let travelEndS ← timeline.arrivalAsserted claim.finish
  let exitS ← timeline.departureAsserted claim.finish
  let clearedS ← clearedAsserted infrastructure train timeline total claim exitS
  let ankunft ← timeline.arrivalAsserted (approachPosition infrastructure claim)
  let anfahrt ← timeline.motionStartAsserted claim.start
  let approachStartS := max ankunft anfahrt
  let sightingS := subSat64 approachStartS parameter.signalSightingTimeS
  let belegung : RelativeOccupation :=
    { resource := claim.resource
      direction := claim.direction
      governingPoint := claim.governingPoint
      startS := subSat64 sightingS parameter.routeSettingTimeS
      sightingS
      approachStartS
      entryS
      travelEndS
      exitS
      clearedS
      endS := addSat64 clearedS parameter.routeReleaseTimeS }
  if belegung.isOrdered then some belegung else none

/-- The station calls of the legs from a place and a position on. -/
def stationCallsAssertedFrom (timeline : Timeline) :
    ℕ → Length → List CheckedLeg → Option (List RelativeStationCall)
  | _, _, [] => some []
  | index, offset, leg :: legs => do
    let position := offset.plus leg.length
    let rest ← stationCallsAssertedFrom timeline (index + 1) position legs
    if 0 < index ∧ leg.inStation = true then do
      let arrivalS ← timeline.arrivalAsserted position
      let departureS ← timeline.departureAsserted position
      some (⟨leg.finish, arrivalS, departureS⟩ :: rest)
    else some rest

/-- The relative occupation profile of an itinerary, nothing where an assertion fails. -/
def deriveAsserted (dynamics : Dynamics) (infrastructure : Infrastructure)
    (itinerary : Itinerary) (train : TrainCharacteristics) :
    Except ConflictError (Option ItineraryProfile) := do
  let claims ← anspruechen infrastructure itinerary train
  let timeline ← timelineOf dynamics infrastructure itinerary train claims
  pure do
    let occupations ←
      claims.mapM (occupationAsserted infrastructure train timeline itinerary.length)
    let calls ← stationCallsAssertedFrom timeline 0 0 itinerary.legs
    let runningTimeS ← timeline.arrivalAsserted itinerary.length
    some
      { occupations
        runningTimeS
        length := itinerary.length
        stationCalls := ⟨itinerary.origin, 0, 0⟩ :: calls }

/-! ### When the assertions hold -/

section Lookup

variable {timeline : Timeline} {bis position : Length} {ankunft abfahrt : Int}

lemma arrivalAsserted_eq_some {zeit : Int} :
    timeline.arrivalAsserted position = some zeit ↔
      position ∈ timeline.arrival ∧ timeline.arrivalAt position = zeit := by
  rw [Timeline.arrivalAsserted]
  split
  next h => simp [ExtTreeMap.contains_iff_mem.mp h]
  next h =>
    have hnot : position ∉ timeline.arrival := fun hin => h (ExtTreeMap.contains_iff_mem.mpr hin)
    simp [hnot]

lemma departureAsserted_eq_some
    (h : InOrder timeline.arrival timeline.departure bis ankunft abfahrt) {zeit : Int} :
    timeline.departureAsserted position = some zeit ↔
      position ∈ timeline.arrival ∧ timeline.departureAt position = zeit := by
  by_cases hin : position ∈ timeline.arrival
  · obtain ⟨a, d, -, hd⟩ := h.exists_times hin
    rw [Timeline.departureAsserted, InOrder.departureAt_eq hd, hd]
    simp [hin]
  · have hnone : timeline.departure[position]? = none := by
      rw [Option.eq_none_iff_forall_ne_some]
      intro d hd
      obtain ⟨a, ha⟩ := h.came position d hd
      exact hin (by rw [ExtTreeMap.mem_iff_isSome_getElem?, ha]; rfl)
    rw [Timeline.departureAsserted, hnone, Option.none_or, arrivalAsserted_eq_some]
    simp [hin]

lemma motionStartAsserted_eq
    (h : InOrder timeline.arrival timeline.departure bis ankunft abfahrt)
    (hhalts : ∀ halt ∈ timeline.stops, halt.1 ∈ timeline.arrival) :
    timeline.motionStartAsserted position = some (timeline.motionStart position) := by
  rw [Timeline.motionStartAsserted, Timeline.motionStart]
  cases hlast : (timeline.stops.filter fun halt => decide (halt.1 ≤ position)).getLast? with
  | none => rfl
  | some halt =>
    have hmem := (List.mem_filter.mp (List.mem_of_getLast? hlast)).1
    exact (departureAsserted_eq_some h).mpr ⟨hhalts halt hmem, rfl⟩

end Lookup

section Claim

variable {infrastructure : Infrastructure} {train : TrainCharacteristics} {itinerary : Itinerary}
  {timeline : Timeline} {total : Length} {ankunft abfahrt : Int} {claim : Claim}

/-- The assertions about a claim hold exactly if the positions are cuts and the blocking time
does not fall. -/
lemma occupationAsserted_eq_some
    (h : claim.Timed infrastructure train timeline total ankunft abfahrt)
    {occupation : RelativeOccupation} :
    occupationAsserted infrastructure train timeline total claim = some occupation ↔
      (claim.start ∈ timeline.arrival ∧ claim.finish ∈ timeline.arrival
        ∧ (claim.finish < total → clearedPosition infrastructure train total claim
          ∈ timeline.arrival)
        ∧ approachPosition infrastructure claim ∈ timeline.arrival)
      ∧ (occupationOf infrastructure train timeline total claim).isOrdered = true
      ∧ occupationOf infrastructure train timeline total claim = occupation := by
  have hmotion : timeline.motionStartAsserted claim.start
      = some (timeline.motionStart claim.start) :=
    motionStartAsserted_eq h.inOrder fun halt hhalt => (h.halts halt hhalt).2
  simp only [occupationAsserted, Option.bind_eq_bind, Option.bind_eq_some_iff, hmotion,
    departureAsserted_eq_some h.inOrder, arrivalAsserted_eq_some]
  have hcleared (clearedS : Int) :
      clearedAsserted infrastructure train timeline total claim
          (timeline.departureAt claim.finish) = some clearedS ↔
        (claim.finish < total →
          clearedPosition infrastructure train total claim ∈ timeline.arrival) ∧
        (occupationOf infrastructure train timeline total claim).clearedS = clearedS := by
    rw [clearedAsserted]
    simp only [occupationOf]
    split
    next hend => simp [not_lt.mpr hend]
    next hinner =>
      simp only [Option.map_eq_some_iff, arrivalAsserted_eq_some, not_le.mp hinner, true_imp_iff]
      constructor
      · rintro ⟨_, ⟨hin, rfl⟩, rfl⟩
        exact ⟨hin, rfl⟩
      · rintro ⟨hin, rfl⟩
        exact ⟨_, ⟨hin, rfl⟩, rfl⟩
  constructor
  · rintro ⟨_, ⟨hstart, rfl⟩, _, ⟨hfinish, rfl⟩, _, ⟨-, rfl⟩, _, hcleared', _,
      ⟨happroach, rfl⟩, _, hanfahrt, hordered⟩
    obtain ⟨hclear, rfl⟩ := (hcleared _).mp hcleared'
    obtain rfl := Option.some.inj hanfahrt
    split at hordered
    next hord =>
      obtain rfl := Option.some.inj hordered
      exact ⟨⟨hstart, hfinish, hclear, happroach⟩, hord, rfl⟩
    next => cases hordered
  · rintro ⟨⟨hstart, hfinish, hclear, happroach⟩, hordered, rfl⟩
    refine ⟨_, ⟨hstart, rfl⟩, _, ⟨hfinish, rfl⟩, _, ⟨hfinish, rfl⟩, _,
      (hcleared _).mpr ⟨hclear, rfl⟩, _, ⟨happroach, rfl⟩, _, rfl, if_pos hordered⟩

lemma Claim.Timed.mem_arrival
    (h : claim.Timed infrastructure train timeline total ankunft abfahrt) {position : Length}
    (hcut : position ∈ cutsOfClaim infrastructure train claim) (hfrom : 0 ≤ position)
    (hto : position ≤ total) : position ∈ timeline.arrival := by
  rcases eq_or_lt_of_le hfrom with rfl | hpositive
  · exact h.inOrder.zero_mem
  · rcases eq_or_lt_of_le hto with rfl | hbefore
    · rw [ExtTreeMap.mem_iff_isSome_getElem?, h.inOrder.arrives]
      rfl
    · exact h.cuts position hcut hpositive hbefore

/-- All positions that a claim on the way asks for are cuts. -/
lemma asked_mem_arrival (h : claim.Timed infrastructure train timeline total ankunft abfahrt)
    (hstart : 0 ≤ claim.start) (hstart' : claim.start ≤ total) (hfinish : 0 ≤ claim.finish)
    (hfinish' : claim.finish ≤ total) :
    claim.start ∈ timeline.arrival ∧ claim.finish ∈ timeline.arrival
      ∧ (claim.finish < total → clearedPosition infrastructure train total claim
        ∈ timeline.arrival)
      ∧ approachPosition infrastructure claim ∈ timeline.arrival := by
  refine ⟨h.mem_arrival (by simp [cutsOfClaim]) hstart hstart',
    h.mem_arrival (by simp [cutsOfClaim]) hfinish hfinish', fun _ => ?_, ?_⟩
  · rw [clearedPosition]
    split
    · rw [ExtTreeMap.mem_iff_isSome_getElem?, h.inOrder.arrives]
      rfl
    next hinner =>
      refine h.mem_arrival (by simp [cutsOfClaim]) ?_ (not_lt.mp hinner)
      have hlength := train.lengthPositive
      exact (le_min (by linarith) (hfinish.trans hfinish')).trans h.raeumweg_ge
  · rw [approachPosition]
    split
    · exact h.inOrder.zero_mem
    next hnot =>
      refine h.mem_arrival (by simp [cutsOfClaim]) (not_lt.mp hnot) (le_trans ?_ hstart')
      have hmin : i64Min ≤ 0 := by decide
      have hdistance := (infrastructure.signalling.«at» claim.governingPoint).approachPositive
      exact clamp64_le (hmin.trans hstart) (by linarith)

/-- A blocking time can only fall between entry and end of travel. -/
lemma isOrdered_iff (h : claim.Timed infrastructure train timeline total ankunft abfahrt)
    (hstart : claim.start ∈ timeline.arrival) (hfinish : claim.finish ∈ timeline.arrival)
    (hclear : claim.finish < total → clearedPosition infrastructure train total claim
      ∈ timeline.arrival)
    (happroach : approachPosition infrastructure claim ∈ timeline.arrival) :
    (occupationOf infrastructure train timeline total claim).isOrdered = true ↔
      timeline.departureAt claim.start ≤ timeline.arrivalAt claim.finish := by
  set occupation := occupationOf infrastructure train timeline total claim with hoccupation
  have hmin : i64Min ≤ 0 := by decide
  obtain ⟨a, d, ha, hd⟩ := h.inOrder.exists_times hstart
  obtain ⟨a', d', ha', hd'⟩ := h.inOrder.exists_times hfinish
  have hnonneg := (h.inOrder.along claim.start a ha).1
  have hbefore : approachPosition infrastructure claim ≤ claim.start := by
    have hdistance := (infrastructure.signalling.«at» claim.governingPoint).approachPositive
    rw [approachPosition]
    split
    · exact hnonneg
    · exact clamp64_le (hmin.trans hnonneg) (by linarith)
  -- the approach begins before the train leaves the start of the claim
  obtain ⟨hlow, hhigh, -⟩ := h.le_departure happroach hbefore hd
  have hmotion : timeline.motionStart claim.start ≤ d := by
    rw [Timeline.motionStart]
    split
    next halt hhalt =>
      obtain ⟨hstop, hle⟩ := List.mem_filter.mp (List.mem_of_getLast? hhalt)
      exact (h.le_departure (h.halts halt hstop).2 (of_decide_eq_true hle) hd).2.2.2
    next =>
      exact (h.inOrder.along claim.start a ha).2.2.trans
        (h.inOrder.waits claim.start a d ha hd)
  have hentry : occupation.approachStartS ≤ occupation.entryS := by
    have hd_eq : occupation.entryS = d := InOrder.departureAt_eq hd
    rw [hd_eq]
    exact max_le hhigh hmotion
  have happroach : 0 ≤ occupation.approachStartS := hlow.trans (le_max_left _ _)
  have hsighting : occupation.sightingS ≤ occupation.approachStartS :=
    subSat64_le (hmin.trans happroach)
      (infrastructure.signalling.«at» claim.governingPoint).sightingNonneg
  have hsetting : occupation.startS ≤ occupation.sightingS :=
    subSat64_le (min_le_clamp64 _)
      (infrastructure.signalling.«at» claim.governingPoint).interlocking.routeSettingTimeS_pos.le
  have hexit : occupation.travelEndS ≤ occupation.exitS := by
    have hleft := InOrder.departureAt_eq hd'
    have hreached := InOrder.arrivalAt_eq ha'
    have hwait := h.inOrder.waits claim.finish a' d' ha' hd'
    rw [← hleft, ← hreached] at hwait
    exact hwait
  have hclock {p : Length} (hp : p ∈ timeline.arrival) :
      timeline.arrivalAt p ≤ i64Max ∧ timeline.departureAt p ≤ i64Max := by
    obtain ⟨b, e, hb, he⟩ := h.inOrder.exists_times hp
    have hlast := (h.inOrder.le_abfahrt he).trans h.inOrder.bounded
    rw [InOrder.arrivalAt_eq hb, InOrder.departureAt_eq he]
    exact ⟨(h.inOrder.waits p b e hb he).trans hlast, hlast⟩
  have hcleared : occupation.exitS ≤ occupation.clearedS ∧ occupation.clearedS ≤ i64Max := by
    simp only [hoccupation, occupationOf]
    split
    · exact ⟨le_refl _, (hclock hfinish).2⟩
    next hinner =>
      exact ⟨le_max_left _ _,
        max_le (hclock hfinish).2 (hclock (hclear (not_le.mp hinner))).1⟩
  have hend : occupation.clearedS ≤ occupation.endS :=
    le_addSat64 hcleared.2 (le_refl _) (infrastructure.signalling.«at»
      claim.governingPoint).interlocking.routeReleaseTimeS_pos.le
  rw [RelativeOccupation.isOrdered]
  simp only [Bool.and_eq_true, decide_eq_true_eq, hsetting, hsighting, hentry, hexit, hcleared.1,
    hend, true_and, and_true]
  exact Iff.rfl

/-- The claim lies on the way and ends behind its start, or it is the place at the end of the
way where the train does not dwell. -/
def Claim.OnWay (itinerary : Itinerary) (claim : Claim) : Prop :=
  0 ≤ claim.start ∧ claim.finish ≤ itinerary.length ∧
    (claim.start < claim.finish ∨ claim.start = itinerary.length
      ∧ claim.finish = itinerary.length ∧ finalDwell itinerary = 0)

/-- On the way no assertion about a claim fails. -/
lemma occupationAsserted_of_onWay (h : claim.Timed infrastructure train timeline
    itinerary.length ankunft (addSat64 ankunft (finalDwell itinerary)))
    (hway : claim.OnWay itinerary) :
    occupationAsserted infrastructure train timeline itinerary.length claim
      = some (occupationOf infrastructure train timeline itinerary.length claim) := by
  obtain ⟨hfrom, hto, hends⟩ := hway
  have hle : claim.start ≤ claim.finish := by
    rcases hends with hlt | ⟨hstart, hfinish, -⟩
    · exact hlt.le
    · rw [hstart, hfinish]
  have hasked := asked_mem_arrival h hfrom (hle.trans hto) (hfrom.trans hle) hto
  refine (occupationAsserted_eq_some h).mpr ⟨hasked, ?_, rfl⟩
  obtain ⟨hstart, hfinish, hclear, happroach⟩ := hasked
  refine (isOrdered_iff h hstart hfinish hclear happroach).mpr ?_
  obtain ⟨a, d, ha, hd⟩ := h.inOrder.exists_times hstart
  obtain ⟨a', d', ha', hd'⟩ := h.inOrder.exists_times hfinish
  rw [InOrder.departureAt_eq hd, InOrder.arrivalAt_eq ha']
  rcases hends with hlt | ⟨hstart, hfinish, hdwell⟩
  · exact h.inOrder.ordered _ _ d a' hd ha' hlt
  · -- at the end of the way the train does not wait
    rw [hstart, h.inOrder.departs] at hd
    rw [hfinish, h.inOrder.arrives] at ha'
    have hmin : i64Min ≤ 0 := by decide
    have hreached := (h.inOrder.along _ _ h.inOrder.arrives).2.2
    have hwait := h.inOrder.waits _ _ _ h.inOrder.arrives h.inOrder.departs
    have hzero : addSat64 ankunft 0 = ankunft := by
      rw [addSat64, Int.add_zero]
      exact clamp64_of_mem ⟨hmin.trans hreached, hwait.trans h.inOrder.bounded⟩
    rw [← Option.some.inj hd, ← Option.some.inj ha', hdwell, hzero]

/-- Every span that a train gets on the track of a leg has a length. -/
lemma span_positive {leg : CheckedLeg} {spans : List ResourceSpan}
    (hsections : ∀ block ∈ infrastructure.sectionsOf leg.leg.track, block.start < block.finish)
    (hspans : infrastructure.spansOfForTrain leg.leg.track train = .ok spans) :
    ∀ span ∈ spans, span.start < span.finish := by
  intro span hspan
  by_cases hnone : infrastructure.sectionsOf leg.leg.track = []
  · cases htrack : infrastructure.graph.track leg.leg.track with
    | none => simp [Infrastructure.spansOfForTrain, Infrastructure.track, htrack] at hspans
    | some track =>
      obtain ⟨resource, hone⟩ := Infrastructure.spansOfForTrain_whole train htrack hnone
      rw [hone] at hspans
      cases hspans
      rw [List.mem_singleton.mp hspan]
      exact track.positive
  · have hsame := Infrastructure.spansOfForTrain_sections hnone hspans
    have hmem : (span.start, span.finish) ∈ spans.map fun span => (span.start, span.finish) :=
      List.mem_map_of_mem hspan
    rw [hsame] at hmem
    obtain ⟨block, hblock, heq⟩ := List.mem_map.mp hmem
    obtain ⟨hstart, hfinish⟩ := Prod.mk.inj heq
    rw [← hstart, ← hfinish]
    exact hsections block (List.mem_of_mem_filter hblock)

lemma clamp64_lt_or {x y : Int} (h : x < y) :
    clamp64 x < clamp64 y ∨ (clamp64 x = i64Max ∧ clamp64 y = i64Max)
      ∨ clamp64 x = i64Min ∧ clamp64 y = i64Min := by
  have hbounds : i64Min < i64Max := by decide
  unfold clamp64
  omega

lemma addSat64_lt_or {offset x y : Int} (hfrom : 0 ≤ offset) (hto : offset ≤ i64Max)
    (hstart : 0 ≤ addSat64 offset x)
    (h : x < y ∨ (x = i64Max ∧ y = i64Max) ∨ x = i64Min ∧ y = i64Min) :
    addSat64 offset x < addSat64 offset y
      ∨ addSat64 offset x = i64Max ∧ addSat64 offset y = i64Max := by
  have hbounds : i64Max = 9223372036854775807 ∧ i64Min = -9223372036854775808 := ⟨rfl, rfl⟩
  unfold addSat64 clamp64 at *
  omega

/-- A claim behind the start of the line ends behind its start, unless both are beyond the
numbers of 64 bits. -/
lemma claim_positive {claims : List Claim}
    (hsections : ∀ leg ∈ itinerary.legs, ∀ block ∈ infrastructure.sectionsOf leg.leg.track,
      block.start < block.finish)
    (hclaims : anspruechen infrastructure itinerary train = .ok claims) (hmem : claim ∈ claims)
    (hstart : 0 ≤ claim.start) :
    claim.start < claim.finish ∨ claim.start = i64Max ∧ claim.finish = i64Max := by
  obtain ⟨placed, hplaced, eigene, heigene, hin⟩ := (mem_anspruechenFrom hclaims).2 claim hmem
  obtain ⟨-, hline, -⟩ := onLine_zero.placed placed hplaced
  have hfrom := hline.1
  have hto := hline.2
  obtain ⟨spans, hspans, rfl⟩ := claimsOfLeg_eq_ok.mp heigene
  rcases mem_claimsOfLeg.mp hin with ⟨span, hspan, rfl⟩ | ⟨route, -, rfl⟩
  · have hpositive := span_positive (hsections placed.2 (mem_of_placed placed hplaced)) hspans
      span hspan
    rw [claimOfSpan] at hstart ⊢
    cases hdirection : placed.2.leg.direction with
    | withChainage =>
      rw [hdirection] at hstart
      exact addSat64_lt_or hfrom hto hstart (.inl hpositive)
    | againstChainage =>
      rw [hdirection] at hstart
      exact addSat64_lt_or hfrom hto hstart (clamp64_lt_or (by linarith))
  · have hzero : addSat64 placed.1 0 = placed.1 := by
      have hmin : i64Min ≤ 0 := by decide
      rw [addSat64, Int.add_zero]
      exact clamp64_of_mem ⟨hmin.trans hfrom, hto⟩
    have hends := addSat64_lt_or hfrom hto (hzero.symm ▸ hfrom) (.inl placed.2.positive)
    rwa [hzero] at hends

end Claim

/-! ### The profile with its assertions -/

/-- All legs end at cuts, so that the station calls can be told. -/
lemma stationCallsAsserted_eq {timeline : Timeline} {bis : Length} {ankunft abfahrt : Int}
    (h : InOrder timeline.arrival timeline.departure bis ankunft abfahrt)
    {legs : List CheckedLeg} :
    ∀ (index : ℕ) (offset : Length),
      (∀ placed ∈ placedFrom offset legs,
        placed.1.plus placed.2.length ∈ timeline.arrival) →
      stationCallsAssertedFrom timeline index offset legs
        = some (stationCallsFrom timeline index offset legs) := by
  induction legs with
  | nil => exact fun _ _ _ => rfl
  | cons leg legs ih =>
    intro index offset hends
    have hend := hends (offset, leg) List.mem_cons_self
    have hrest := ih (index + 1) (offset.plus leg.length) fun placed hplaced =>
      hends placed (List.mem_cons_of_mem _ hplaced)
    have harrival := arrivalAsserted_eq_some.mpr ⟨hend, rfl⟩
    have hdeparture := (departureAsserted_eq_some h).mpr ⟨hend, rfl⟩
    simp only [stationCallsAssertedFrom, stationCallsFrom, hrest]
    split
    · simp [harrival, hdeparture]
    · rfl

lemma mapM_eq_some_map {α β : Type} {f : α → Option β} {g : α → β} {l : List α}
    (h : ∀ a ∈ l, f a = some (g a)) : l.mapM f = some (l.map g) := by
  induction l with
  | nil => rfl
  | cons a l ih =>
    obtain ⟨ha, hrest⟩ := List.forall_mem_cons.mp h
    simp [List.mapM_cons, ha, ih hrest]

/-- The assertions about a claim fail where it does not lie on the way. -/
lemma onWay_of_occupationAsserted {infrastructure : Infrastructure}
    {itinerary : Itinerary} {train : TrainCharacteristics} {claims : List Claim}
    {timeline : Timeline} {ankunft : Int} {claim : Claim} {occupation : RelativeOccupation}
    (h : claim.Timed infrastructure train timeline itinerary.length ankunft
      (addSat64 ankunft (finalDwell itinerary)))
    (hsections : ∀ leg ∈ itinerary.legs, ∀ block ∈ infrastructure.sectionsOf leg.leg.track,
      block.start < block.finish)
    (hclaims : anspruechen infrastructure itinerary train = .ok claims) (hmem : claim ∈ claims)
    (hclock : ankunft < i64Max)
    (hasserted : occupationAsserted infrastructure train timeline itinerary.length claim
      = some occupation) : claim.OnWay itinerary := by
  obtain ⟨⟨hstart, hfinish, hclear, happroach⟩, hordered, -⟩ :=
    (occupationAsserted_eq_some h).mp hasserted
  have hleaves := (isOrdered_iff h hstart hfinish hclear happroach).mp hordered
  obtain ⟨a, d, ha, hd⟩ := h.inOrder.exists_times hstart
  obtain ⟨a', d', ha', hd'⟩ := h.inOrder.exists_times hfinish
  have hfrom := (h.inOrder.along _ a ha).1
  have hto := (h.inOrder.along _ a' ha').2.1
  refine ⟨hfrom, hto, ?_⟩
  rcases claim_positive hsections hclaims hmem hfrom with hlt | ⟨hlast, hlast'⟩
  · exact .inl hlt
  · -- the way ends where the numbers end
    have htotal : itinerary.length = i64Max := le_antisymm h.total_le (hlast' ▸ hto)
    refine .inr ⟨hlast.trans htotal.symm, hlast'.trans htotal.symm, ?_⟩
    rw [hlast, hlast', ← htotal, InOrder.departureAt_eq h.inOrder.departs,
      InOrder.arrivalAt_eq h.inOrder.arrives] at hleaves
    have hdwell : 0 ≤ finalDwell itinerary := dwellAt_nonneg itinerary _
    have hmin := (h.inOrder.along _ _ h.inOrder.arrives).2.2
    have hbounds : i64Min ≤ 0 := by decide
    unfold addSat64 clamp64 at hleaves
    omega

/-- **The debug assertions of a profile.**  Wherever a profile is derived, no assertion fails if
all claims lie on the way and end behind their start.  Where every section has a length and the
clock has not run to its end, no assertion fails only then. -/
theorem profile_asserted_iff {dynamics : Dynamics} {infrastructure : Infrastructure}
    {itinerary : Itinerary} {train : TrainCharacteristics} {profile : ItineraryProfile}
    (hmonotone : dynamics.Monotone)
    (h : deriveOccupationProfile dynamics infrastructure itinerary train = .ok profile) :
    ∃ claims timeline, anspruechen infrastructure itinerary train = .ok claims ∧
      timelineOf dynamics infrastructure itinerary train claims = .ok timeline ∧
      ((∀ claim ∈ claims, claim.OnWay itinerary) →
        deriveAsserted dynamics infrastructure itinerary train = .ok (some profile)) ∧
      ((∀ leg ∈ itinerary.legs, ∀ block ∈ infrastructure.sectionsOf leg.leg.track,
          block.start < block.finish) →
        timeline.arrivalAt itinerary.length < i64Max →
        deriveAsserted dynamics infrastructure itinerary train = .ok (some profile) →
        ∀ claim ∈ claims, claim.OnWay itinerary) := by
  rw [deriveOccupationProfile, bind_eq_ok_iff] at h
  obtain ⟨claims, hclaims, h⟩ := h
  rw [bind_eq_ok_iff] at h
  obtain ⟨timeline, htimeline, h⟩ := h
  cases h
  obtain ⟨ankunft, hankunft, htimed⟩ := timed_of_timelineOf hmonotone hclaims htimeline
  refine ⟨claims, timeline, hclaims, htimeline, fun hway => ?_,
    fun hsections hclock hasserted => ?_⟩
  · have hoccupations : claims.mapM
        (occupationAsserted infrastructure train timeline itinerary.length)
        = some (claims.map (occupationOf infrastructure train timeline itinerary.length)) :=
      mapM_eq_some_map fun claim hclaim =>
        occupationAsserted_of_onWay (htimed claim hclaim) (hway claim hclaim)
    obtain ⟨-, ⟨ankunft', hinOrder⟩, -⟩ := zeitachse_inOrder hmonotone htimeline
    have hcalls := stationCallsAsserted_eq hinOrder 0 0 fun placed hplaced =>
      legEnd_mem_arrival hmonotone htimeline hplaced
    have hend : itinerary.length ∈ timeline.arrival := by
      rw [ExtTreeMap.mem_iff_isSome_getElem?, hinOrder.arrives]
      rfl
    have hrunning := arrivalAsserted_eq_some.mpr ⟨hend, rfl⟩
    refine bind_eq_ok_iff.mpr ⟨claims, hclaims, bind_eq_ok_iff.mpr ⟨timeline, htimeline, ?_⟩⟩
    simp only [hoccupations, hcalls, hrunning, Option.bind_eq_bind, Option.bind_some]
    rfl
  · rw [deriveAsserted, bind_eq_ok_iff] at hasserted
    obtain ⟨claims', hclaims', hasserted⟩ := hasserted
    obtain rfl := Except.ok.inj (hclaims.symm.trans hclaims')
    rw [bind_eq_ok_iff] at hasserted
    obtain ⟨timeline', htimeline', hasserted⟩ := hasserted
    obtain rfl := Except.ok.inj (htimeline.symm.trans htimeline')
    obtain ⟨occupations, hoccupations, -⟩ :=
      Option.bind_eq_some_iff.mp (Except.ok.inj hasserted)
    intro claim hclaim
    obtain ⟨occupation, -, hoccupation⟩ :=
      exists_of_mem_forall₂ (forall₂_of_mapM hoccupations).flip hclaim
    exact onWay_of_occupationAsserted (htimed claim hclaim) hsections hclaims hclaim
      (hankunft ▸ hclock) hoccupation

namespace SmallLine

open Infra

lemma station_bounded : (100000 : Length) ≤ Foundation.i64Max := by decide

/-- An older release of the network, in which the line is shorter by a third. -/
def olderGraph : Except InfraError OperatingGraph := do
  let edge ← TrackEdge.new 1 1 2 "Strecke" 2000000
  let first ← track 11 (.operatingPoint 1) 100000 station_bounded
    [⟨0, 100000, inductive', surveyed⟩]
  let second ← track 12 (.operatingPoint 2) 100000 station_bounded
    [⟨0, 100000, inductive', surveyed⟩]
  let line ← track 21 (.edge 1) 2000000 (by decide) [⟨0, 2000000, inductive', surveyed⟩]
  (⟨[⟨1, "AA", .station⟩, ⟨2, "BB", .station⟩], [edge], [first, second, line], []⟩ :
    OperatingGraphBuilder).build

/-- The network, an itinerary of its older release and a railcar. -/
def olderJourney : Option (Infrastructure × Itinerary × TrainCharacteristics) := do
  let infrastructure ← network
  let graph ← olderGraph.toOption
  let itinerary ← (Itinerary.new graph [.new 11 .withChainage, .new 21 .withChainage,
    .new 12 .withChainage]).toOption
  let train ← railcar ⟨{.pzb, .lzb}⟩
  some (infrastructure, itinerary, train)

/-- An itinerary of the older release has a profile, but the last block of the line ends behind
its way, where no assertion holds. -/
theorem olderJourney_asserts : ¬ ∀ dynamics : Dynamics, dynamics.Monotone →
    ∀ infrastructure itinerary train profile,
      deriveOccupationProfile dynamics infrastructure itinerary train = .ok profile →
        deriveAsserted dynamics infrastructure itinerary train = .ok (some profile) := by
  intro hasserted
  have hrun : (olderJourney.any fun run =>
      (deriveOccupationProfile dynamics run.1 run.2.1 run.2.2).toOption.isSome
        && (deriveAsserted dynamics run.1 run.2.1 run.2.2).toOption.any Option.isNone)
      = true := by
    decide +kernel
  obtain ⟨⟨infrastructure, itinerary, train⟩, -, hrun⟩ := (Option.any_eq_true _ _).mp hrun
  rw [Bool.and_eq_true] at hrun
  obtain ⟨profile, hprofile⟩ := Option.isSome_iff_exists.mp hrun.1
  have hsome := hasserted dynamics dynamics_monotone infrastructure itinerary train profile
    (ok_of_toOption hprofile)
  simp only at hrun hsome
  rw [hsome] at hrun
  exact absurd hrun.2 (by simp [Except.toOption])

/-- An itinerary of the network itself keeps its assertions. -/
theorem profile_asserted_railcar : ∃ infrastructure itinerary train profile,
    deriveOccupationProfile dynamics infrastructure itinerary train = .ok profile ∧
      deriveAsserted dynamics infrastructure itinerary train = .ok (some profile) := by
  have hrun : ((derived ⟨{.pzb, .lzb}⟩ 60).any fun run => run.claims.all fun claim =>
      decide (0 ≤ claim.start ∧ claim.finish ≤ run.itinerary.length
        ∧ claim.start < claim.finish)) = true := by
    decide +kernel
  obtain ⟨run, -, hrun⟩ := (Option.any_eq_true _ _).mp hrun
  obtain ⟨claims, timeline, hclaims, -, hasserted, -⟩ :=
    profile_asserted_iff dynamics_monotone run.isProfile
  obtain rfl : claims = run.claims := by
    rw [run.areClaims] at hclaims
    exact (Except.ok.inj hclaims).symm
  refine ⟨run.infrastructure, run.itinerary, run.train, run.profile, run.isProfile,
    hasserted fun claim hclaim => ?_⟩
  obtain ⟨hfrom, hto, hlt⟩ := of_decide_eq_true (List.all_eq_true.mp hrun claim hclaim)
  exact ⟨hfrom, hto, .inl hlt⟩

end SmallLine

end Zugfolge.Conflict
