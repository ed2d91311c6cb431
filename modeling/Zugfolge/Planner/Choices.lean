/-
The tracks along a sequence and the itineraries over them.

Along a sequence of operating points a track is chosen at every point and on every edge
between two points.  Every choice passes the check of an itinerary, and the itinerary calls at
the points of the sequence.
-/
import Zugfolge.Foundation.Collect
import Zugfolge.Planner.Route

namespace Zugfolge.Planner

open Conflict (OperatingPointId TrackId TravelDirection ItineraryLeg Itinerary CheckedLeg)
open Foundation
open Infra (OperatingGraph OperatingGraphBuilder TrackEdge TrackEdgeId TrackOwner Track Keyed)

/-! ### Tracks and edges of a built graph -/

/-- The tracks and the edges of a graph stand under their own numbers. -/
structure Filed (graph : OperatingGraph) : Prop where
  tracks : Keyed Track.id graph.tracks
  edges : Keyed TrackEdge.id graph.edges

lemma filed_of_build {builder : OperatingGraphBuilder} {graph : OperatingGraph}
    (h : builder.build = .ok graph) : Filed graph := by
  rw [OperatingGraphBuilder.build] at h
  obtain ⟨points, -, h⟩ := bind_eq_ok_iff.mp h
  split at h
  next => cases h
  next =>
    obtain ⟨-, -, h⟩ := bind_eq_ok_iff.mp h
    obtain ⟨edges, hedges, h⟩ := bind_eq_ok_iff.mp h
    obtain ⟨tracks, htracks, h⟩ := bind_eq_ok_iff.mp h
    obtain ⟨platforms, -, h⟩ := bind_eq_ok_iff.mp h
    obtain ⟨-, -, h⟩ := bind_eq_ok_iff.mp h
    obtain ⟨-, -, h⟩ := bind_eq_ok_iff.mp h
    obtain ⟨-, -, h⟩ := bind_eq_ok_iff.mp h
    obtain ⟨-, -, h⟩ := bind_eq_ok_iff.mp h
    obtain ⟨-, -, h⟩ := bind_eq_ok_iff.mp h
    obtain ⟨-, -, h⟩ := bind_eq_ok_iff.mp h
    cases h
    exact ⟨Infra.sammle_keyed htracks, Infra.sammle_keyed hedges⟩

lemma nodup_ids {β : Type} {id : β → ℕ} {objects : Registry ℕ β} (h : Keyed id objects) :
    ((Registry.values objects).map id).Nodup := by
  have hkeys : (Registry.values objects).map id = objects.toList.map Prod.fst := by
    rw [Registry.values, List.map_map]
    exact List.map_congr_left fun entry hentry =>
      h entry.1 entry.2 (Registry.mem_toList.mp hentry)
  rw [hkeys, List.Nodup, List.pairwise_map]
  exact (Std.ExtTreeMap.distinct_keys_toList (t := objects)).imp
    fun hne heq => hne (Std.compare_eq_iff_eq.mpr heq)

variable {graph : OperatingGraph} {request : PathRequest}

variable {index : ℕ} {kante : TrackEdge} {richtung : TravelDirection} {track : TrackId}

/-- The tracks to choose from lie at their place and admit trains in the direction. -/
lemma mem_gleise (hfiled : Filed graph) {owner : TrackOwner}
    {geeignet : TrackId → Bool} {id : TrackId} :
    id ∈ gleise graph owner richtung geeignet ↔
      ∃ gleis, graph.track id = some gleis ∧ gleis.owner = owner ∧
        gleis.kind.carriesTrainRuns = true ∧ gleis.direction.allows richtung = true ∧
          geeignet id = true := by
  simp only [gleise, List.mem_insertionSort, List.mem_map, List.mem_filter,
    OperatingGraph.tracksOf, Registry.mem_values, OperatingGraph.track, Bool.and_eq_true,
    decide_eq_true_eq]
  constructor
  · rintro ⟨gleis, ⟨⟨⟨key, hkey⟩, howner⟩, ⟨hkind, hdirection⟩, hfit⟩, rfl⟩
    refine ⟨gleis, ?_, howner, hkind, hdirection, hfit⟩
    rw [hfiled.tracks key gleis hkey]
    exact hkey
  · rintro ⟨gleis, hgleis, howner, hkind, hdirection, hfit⟩
    have hid := hfiled.tracks id gleis hgleis
    exact ⟨gleis, ⟨⟨⟨id, hgleis⟩, howner⟩, ⟨hkind, hdirection⟩, by rwa [hid]⟩, hid⟩

lemma nodup_gleise (hfiled : Filed graph) (owner : TrackOwner) (richtung : TravelDirection)
    (geeignet : TrackId → Bool) : (gleise graph owner richtung geeignet).Nodup := by
  rw [gleise, (List.perm_insertionSort _ _).nodup_iff]
  exact (nodup_ids hfiled.tracks).sublist
    ((List.filter_sublist.trans List.filter_sublist).map Track.id)

/-- The direction along an edge that leads to one of its ends. -/
def richtungNach (kante : TrackEdge) (finish : OperatingPointId) : TravelDirection :=
  if kante.endOf .withChainage = finish then .withChainage else .againstChainage

lemma richtungZwischen_eq (graph : OperatingGraph) (start finish : OperatingPointId) :
    richtungZwischen graph start finish
      = ((graph.edgesAt start).find? fun kante => kante.otherEnd start = some finish).map
          fun kante => (kante.id, richtungNach kante finish) := by
  rw [richtungZwischen]
  induction graph.edgesAt start with
  | nil => rfl
  | cons kante kanten ih =>
    rw [List.findSome?_cons, List.find?_cons]
    by_cases hends : kante.otherEnd start = some finish
    · simp [hends, richtungNach]
    · simp only [hends, ne_eq, not_false_eq_true, if_true, decide_false]
      exact ih

/-- A direction between two points leads along an edge of the graph from one to the other. -/
lemma endOf_richtungNach {start finish : OperatingPointId}
    (h : kante.otherEnd start = some finish) :
    kante.endOf (richtungNach kante finish) = finish ∧
      kante.endOf (richtungNach kante finish).opposite = start := by
  rw [TrackEdge.otherEnd] at h
  rw [richtungNach]
  split at h
  next hstart =>
    cases h
    have hfinish : kante.endOf .withChainage = kante.finish := rfl
    rw [if_pos hfinish]
    exact ⟨hfinish, hstart.symm⟩
  next hstart =>
    split at h
    next hfinish =>
      cases h
      have hne : kante.endOf .withChainage ≠ kante.start := by
        intro heq
        rw [TrackEdge.endOf] at heq
        exact hstart (hfinish.trans heq)
      rw [if_neg hne]
      exact ⟨rfl, hfinish.symm⟩
    next => cases h

lemma edge_of_mem_edgesAt (hfiled : Filed graph) {start : OperatingPointId}
    (h : kante ∈ graph.edgesAt start) : graph.edge kante.id = some kante := by
  obtain ⟨key, hkey⟩ := Registry.mem_values.mp (List.mem_filter.mp h).1
  rw [hfiled.edges key kante hkey]
  exact hkey

/-! ### Legs along a sequence -/

/-- The leg calls at an operating point on a track of it, at a stop beside a platform. -/
structure Calls (graph : OperatingGraph) (request : PathRequest) (point : OperatingPointId)
    (dwellS : Int) (leg : CheckedLeg) : Prop where
  inStation : leg.inStation = true
  start : leg.start = point
  finish : leg.finish = point
  dwell : leg.leg.dwellS = dwellS
  platform : (request.stopAt point).isSome = true → hatBahnsteig graph leg.leg.track request = true

/-- How long a train stands at an operating point that is not its destination. -/
def PathRequest.dwellAt (request : PathRequest) (point : OperatingPointId) : Int :=
  ((request.stopAt point).map RequestedStop.minimumDwellS).getD 0

lemma PathRequest.dwellAt_nonneg (request : PathRequest) (point : OperatingPointId) :
    0 ≤ request.dwellAt point := by
  rw [dwellAt]
  cases request.stopAt point with
  | none => exact le_rfl
  | some halt => exact halt.dwellNonneg

/-- The legs call at the points of a sequence in turn, and lead from each to the next. -/
inductive Follows (graph : OperatingGraph) (request : PathRequest) :
    List OperatingPointId → List CheckedLeg → Prop
  | destination {point : OperatingPointId} {leg : CheckedLeg}
      (h : Calls graph request point 0 leg) : Follows graph request [point] [leg]
  | step {point next : OperatingPointId} {points : List OperatingPointId}
      {here line : CheckedLeg} {legs : List CheckedLeg}
      (h : Calls graph request point (request.dwellAt point) here)
      (hline : line.inStation = false ∧ line.start = point ∧ line.finish = next ∧
        line.leg.dwellS = 0)
      (hrest : Follows graph request (next :: points) legs) :
      Follows graph request (point :: next :: points) (here :: line :: legs)

/-- A track of an operating point passes the check at an even place. -/
lemma checkLeg_station {gleis : Track}
    {point : OperatingPointId} {dwellS : Int} {vorher : Option CheckedLeg}
    (htrack : graph.track track = some gleis) (howner : gleis.owner = .operatingPoint point)
    (hkind : gleis.kind.carriesTrainRuns = true)
    (hdirection : gleis.direction.allows richtung = true) (hdwell : 0 ≤ dwellS)
    (hindex : index % 2 = 0) (hvorher : ∀ leg, vorher = some leg → leg.finish = point) :
    ∃ leg, Itinerary.checkLeg graph index vorher
        ((ItineraryLeg.new track richtung).withDwell dwellS) = .ok leg ∧
      leg.leg = (ItineraryLeg.new track richtung).withDwell dwellS ∧
      leg.inStation = true ∧ leg.start = point ∧ leg.finish = point := by
  have hconnected : (vorher.filter fun leg => leg.finish ≠ point) = none := by
    rw [Option.filter_eq_none_iff]
    intro leg hleg
    simp [hvorher leg hleg]
  refine ⟨⟨_, gleis.length, point, point, true, gleis.positive, gleis.bounded, hdwell⟩, ?_, rfl,
    rfl, rfl, rfl⟩
  have hends : Itinerary.endsOf graph index
      ((ItineraryLeg.new track richtung).withDwell dwellS) gleis = .ok (point, point, true) := by
    rw [Itinerary.endsOf, howner]
    simp [hindex]
  simp only [Itinerary.checkLeg, ItineraryLeg.withDwell, ItineraryLeg.new] at hends ⊢
  rw [htrack]
  simp only [hkind, hdirection, Bool.not_true, Bool.false_eq_true, if_false,
    dif_neg (not_lt.mpr hdwell), hends, hconnected]

/-- A track of an edge passes the check at an odd place. -/
lemma checkLeg_line {gleis : Track} {point next : OperatingPointId} {vorher : CheckedLeg}
    (htrack : graph.track track = some gleis) (howner : gleis.owner = .edge kante.id)
    (hkind : gleis.kind.carriesTrainRuns = true)
    (hdirection : gleis.direction.allows richtung = true)
    (hedge : graph.edge kante.id = some kante) (hstart : kante.endOf richtung.opposite = point)
    (hfinish : kante.endOf richtung = next) (hindex : index % 2 = 1)
    (hvorher : vorher.finish = point) :
    ∃ leg, Itinerary.checkLeg graph index (some vorher)
        ((ItineraryLeg.new track richtung).withDwell 0) = .ok leg ∧
      leg.leg = (ItineraryLeg.new track richtung).withDwell 0 ∧
      leg.inStation = false ∧ leg.start = point ∧ leg.finish = next := by
  have hconnected : ((some vorher).filter fun leg => leg.finish ≠ point) = none := by
    rw [Option.filter_eq_none_iff]
    intro leg hleg
    simp [← Option.some.inj hleg, hvorher]
  refine ⟨⟨_, gleis.length, point, next, false, gleis.positive, gleis.bounded, le_rfl⟩, ?_, rfl,
    rfl, rfl, rfl⟩
  have hends : Itinerary.endsOf graph index
      ((ItineraryLeg.new track richtung).withDwell 0) gleis = .ok (point, next, false) := by
    rw [Itinerary.endsOf, howner]
    simp only [ItineraryLeg.withDwell, ItineraryLeg.new, hindex, hedge, hstart, hfinish,
      lt_irrefl, one_ne_zero, if_false]
  simp only [Itinerary.checkLeg, ItineraryLeg.withDwell, ItineraryLeg.new] at hends ⊢
  rw [htrack]
  simp only [hkind, hdirection, Bool.not_true, Bool.false_eq_true, if_false, lt_irrefl,
    dif_neg, not_false_eq_true, hends, hconnected]

/-! ### The choices along a sequence -/

/-- The tracks of an operating point for runs in a direction, at a stop only those beside a
platform for the train. -/
def bahnhofsgleise (graph : OperatingGraph) (request : PathRequest) (punkt : OperatingPointId)
    (richtung : TravelDirection) : List TrackId :=
  gleise graph (.operatingPoint punkt) richtung fun gleis =>
    (request.stopAt punkt).isNone || hatBahnsteig graph gleis request

/-- The tracks of an edge for runs in a direction. -/
def streckengleise (graph : OperatingGraph) (kante : TrackEdgeId) (richtung : TravelDirection) :
    List TrackId :=
  gleise graph (.edge kante) richtung fun _ => true

lemma nodup_bahnhofsgleise (hfiled : Filed graph) (punkt : OperatingPointId)
    (richtung : TravelDirection) : (bahnhofsgleise graph request punkt richtung).Nodup :=
  nodup_gleise hfiled _ _ _

lemma nodup_streckengleise (hfiled : Filed graph) (kante : TrackEdgeId)
    (richtung : TravelDirection) : (streckengleise graph kante richtung).Nodup :=
  nodup_gleise hfiled _ _ _

/-- At the destination there is one choice, among the tracks for the direction of arrival. -/
lemma schritteFrom_destination_iff {vorher punkt : OperatingPointId} {steps : List Choice} :
    schritteFrom graph request vorher [punkt] = .ok steps ↔
      ∃ kante richtung, richtungZwischen graph vorher punkt = some (kante, richtung) ∧
        bahnhofsgleise graph request punkt richtung ≠ [] ∧
        steps = [⟨bahnhofsgleise graph request punkt richtung, richtung, 0⟩] := by
  rw [schritteFrom]
  simp only
  cases richtungZwischen graph vorher punkt with
  | none => simp
  | some gefunden =>
    obtain ⟨kante, richtung⟩ := gefunden
    simp only [List.isEmpty_nil, if_true, Option.some.injEq, Prod.mk.injEq]
    rw [← bahnhofsgleise]
    constructor
    · intro h
      split at h
      next => cases h
      next hsome =>
        cases h
        exact ⟨kante, richtung, ⟨rfl, rfl⟩, by simpa using hsome, rfl⟩
    · rintro ⟨_, _, ⟨rfl, rfl⟩, hsome, rfl⟩
      rw [if_neg (by simpa using hsome)]

/-- At any other point there are two choices: the track in the operating point and the track
of the edge by which it is left. -/
lemma schritteFrom_step_iff {vorher punkt naechster : OperatingPointId}
    {points : List OperatingPointId} {steps : List Choice} :
    schritteFrom graph request vorher (punkt :: naechster :: points) = .ok steps ↔
      ∃ kante richtung rest, richtungZwischen graph punkt naechster = some (kante, richtung) ∧
        bahnhofsgleise graph request punkt richtung ≠ [] ∧
        streckengleise graph kante richtung ≠ [] ∧
        schritteFrom graph request punkt (naechster :: points) = .ok rest ∧
        steps = ⟨bahnhofsgleise graph request punkt richtung, richtung, request.dwellAt punkt⟩
          :: ⟨streckengleise graph kante richtung, richtung, 0⟩ :: rest := by
  rw [schritteFrom]
  simp only
  cases richtungZwischen graph punkt naechster with
  | none => simp
  | some gefunden =>
    obtain ⟨kante, richtung⟩ := gefunden
    simp only [List.isEmpty_cons, Bool.false_eq_true, if_false, Option.some.injEq,
      Prod.mk.injEq]
    rw [← bahnhofsgleise, ← streckengleise]
    constructor
    · intro h
      split at h
      next => cases h
      next hstation =>
        split at h
        next => cases h
        next hline =>
          obtain ⟨rest, hrest, h⟩ := bind_eq_ok_iff.mp h
          cases h
          exact ⟨kante, richtung, rest, ⟨rfl, rfl⟩, by simpa using hstation,
            by simpa using hline, hrest, rfl⟩
    · rintro ⟨_, _, rest, ⟨rfl, rfl⟩, hstation, hline, hrest, rfl⟩
      rw [if_neg (by simpa using hstation), if_neg (by simpa using hline), hrest]
      rfl

/-- A track that was chosen in an operating point gives a leg that calls there. -/
lemma calls_of_mem_bahnhofsgleise (hfiled : Filed graph) {point : OperatingPointId} {dwellS : Int}
    {vorher : Option CheckedLeg}
    (hin : track ∈ bahnhofsgleise graph request point richtung) (hdwell : 0 ≤ dwellS)
    (hindex : index % 2 = 0) (hvorher : ∀ leg, vorher = some leg → leg.finish = point) :
    ∃ leg, Itinerary.checkLeg graph index vorher
        ((ItineraryLeg.new track richtung).withDwell dwellS) = .ok leg ∧
      leg.leg = (ItineraryLeg.new track richtung).withDwell dwellS ∧
      Calls graph request point dwellS leg := by
  obtain ⟨gleis, htrack, howner, hkind, hdirection, hfit⟩ := (mem_gleise hfiled).mp hin
  obtain ⟨leg, hcheck, hleg, hstation, hstart, hfinish⟩ :=
    checkLeg_station htrack howner hkind hdirection hdwell hindex hvorher
  refine ⟨leg, hcheck, hleg, hstation, hstart, hfinish, by rw [hleg]; rfl, fun hstop => ?_⟩
  rw [Bool.or_eq_true, Option.isNone_iff_eq_none] at hfit
  rcases hfit with hnone | hplatform
  · rw [hnone] at hstop
    cases hstop
  · rw [hleg]
    exact hplatform

/-- **Every choice of tracks along a sequence passes the check of an itinerary**, and its legs
follow the sequence. -/
lemma checkLegs_of_schritteFrom (hfiled : Filed graph) {points : List OperatingPointId} :
    ∀ {vorher punkt : OperatingPointId} {steps : List Choice} {kombination : List TrackId}
      {index : ℕ} {previous : Option CheckedLeg},
      schritteFrom graph request vorher (punkt :: points) = .ok steps →
      List.Forall₂ (fun track step => track ∈ step.tracks) kombination steps →
      index % 2 = 0 → (∀ leg, previous = some leg → leg.finish = punkt) →
      ∃ legs, Itinerary.checkLegs graph index previous (legsOf steps kombination) = .ok legs ∧
        legs.map CheckedLeg.leg = legsOf steps kombination ∧
        Follows graph request (punkt :: points) legs := by
  induction points with
  | nil =>
    intro vorher punkt steps kombination index previous hsteps hpick hindex hprevious
    obtain ⟨kante, richtung, -, -, rfl⟩ := schritteFrom_destination_iff.mp hsteps
    obtain ⟨track, tracks, htrack, hnil, rfl⟩ := List.forall₂_cons_right_iff.mp hpick
    obtain rfl := List.forall₂_nil_right_iff.mp hnil
    obtain ⟨leg, hcheck, hleg, hcalls⟩ :=
      calls_of_mem_bahnhofsgleise hfiled htrack le_rfl hindex hprevious
    refine ⟨[leg], ?_, by rw [List.map_singleton, hleg]; rfl, .destination hcalls⟩
    change (Itinerary.checkLeg graph index previous _ >>= _) = _
    rw [bind_eq_ok_iff]
    exact ⟨leg, hcheck, rfl⟩
  | cons naechster points ih =>
    intro vorher punkt steps kombination index previous hsteps hpick hindex hprevious
    obtain ⟨kante, richtung, rest, hedge, -, -, hrest, rfl⟩ := schritteFrom_step_iff.mp hsteps
    obtain ⟨track, behind, htrack, hbehind, rfl⟩ := List.forall₂_cons_right_iff.mp hpick
    obtain ⟨lineTrack, tracks, hlineTrack, htracks, rfl⟩ :=
      List.forall₂_cons_right_iff.mp hbehind
    obtain ⟨here, hcheck, hleg, hcalls⟩ := calls_of_mem_bahnhofsgleise hfiled htrack
      (request.dwellAt_nonneg punkt) hindex hprevious
    -- the edge leads from the point to the next one
    rw [richtungZwischen_eq, Option.map_eq_some_iff] at hedge
    obtain ⟨edge, hfind, hpair⟩ := hedge
    obtain ⟨rfl, rfl⟩ := Prod.mk.inj hpair
    have hends : edge.otherEnd punkt = some naechster := by simpa using List.find?_some hfind
    have hodd : (index + 1) % 2 = 1 := by omega
    have heven : (index + 1 + 1) % 2 = 0 := by omega
    obtain ⟨hfinish, hstart⟩ := endOf_richtungNach hends
    have hchosen : lineTrack ∈ streckengleise graph edge.id (richtungNach edge naechster) :=
      hlineTrack
    obtain ⟨gleis, hgleis, howner, hkind, hdirection, -⟩ := (mem_gleise hfiled).mp hchosen
    obtain ⟨line, hlineCheck, hlineLeg, hstation, hlineStart, hlineFinish⟩ :=
      checkLeg_line hgleis howner hkind hdirection
        (edge_of_mem_edgesAt hfiled (List.mem_of_find?_eq_some hfind)) hstart hfinish hodd
        hcalls.finish
    have hconnected : ∀ leg, some line = some leg → leg.finish = naechster := by
      rintro leg h
      rw [← Option.some.inj h, hlineFinish]
    obtain ⟨legs, hlegs, hmap, hfollows⟩ := ih hrest htracks heven hconnected
    refine ⟨here :: line :: legs, ?_, ?_, .step hcalls
      ⟨hstation, hlineStart, hlineFinish, by rw [hlineLeg]; rfl⟩ hfollows⟩
    · change (Itinerary.checkLeg graph index previous _ >>= _) = _
      refine bind_eq_ok_iff.mpr ⟨here, hcheck, ?_⟩
      refine bind_eq_ok_iff.mpr ⟨line :: legs, ?_, rfl⟩
      change (Itinerary.checkLeg graph (index + 1) (some here) _ >>= _) = _
      refine bind_eq_ok_iff.mpr ⟨line, hlineCheck, ?_⟩
      exact bind_eq_ok_iff.mpr ⟨legs, hlegs, rfl⟩
    · rw [List.map_cons, List.map_cons, hmap, hleg, hlineLeg]
      rfl

/-! ### Itineraries along a sequence -/

namespace Follows

variable {points : List OperatingPointId} {legs : List CheckedLeg}

lemma legs_ne_nil (h : Follows graph request points legs) : legs ≠ [] := by
  cases h with
  | destination | step => exact List.cons_ne_nil _ _

lemma inStation_getLast (h : Follows graph request points legs) :
    (legs.getLast h.legs_ne_nil).inStation = true := by
  induction h with
  | destination h => exact h.inStation
  | step _ _ hrest ih =>
    rw [List.getLast_cons (List.cons_ne_nil _ _), List.getLast_cons hrest.legs_ne_nil]
    exact ih

end Follows

variable {steps : List Choice}

/-- Along a sequence every choice of tracks is an itinerary. -/
lemma new_of_schritte (hfiled : Filed graph) {points : List OperatingPointId}
    {kombination : List TrackId}
    (hsteps : schritte graph request points = .ok steps) (hpoints : points ≠ [])
    (hpick : List.Forall₂ (fun track step => track ∈ step.tracks) kombination steps) :
    ∃ itinerary, Itinerary.new graph (legsOf steps kombination) = .ok itinerary ∧
      itinerary.legs.map CheckedLeg.leg = legsOf steps kombination ∧
      Follows graph request points itinerary.legs := by
  obtain ⟨punkt, points, rfl⟩ := List.exists_cons_of_ne_nil hpoints
  rw [schritte] at hsteps
  have hnone : ∀ leg : CheckedLeg, none = some leg → leg.finish = punkt := fun _ h => nomatch h
  obtain ⟨legs, hcheck, hmap, hfollows⟩ :=
    checkLegs_of_schritteFrom hfiled hsteps hpick (Nat.zero_mod 2) hnone
  have hsome : legsOf steps kombination ≠ [] := by
    rw [← hmap]
    simpa using hfollows.legs_ne_nil
  refine ⟨⟨legs, hfollows.legs_ne_nil⟩, ?_, hmap, hfollows⟩
  rw [Itinerary.new, if_neg (by simpa using hsome), hcheck]
  simp only
  rw [dif_pos hfollows.legs_ne_nil, hfollows.inStation_getLast]
  rfl

/-- At every step of a sequence there is a track to choose, and none is offered twice. -/
lemma tracks_of_schritteFrom (hfiled : Filed graph) {points : List OperatingPointId} :
    ∀ {vorher punkt : OperatingPointId} {steps : List Choice},
      schritteFrom graph request vorher (punkt :: points) = .ok steps →
        steps ≠ [] ∧ ∀ step ∈ steps, step.tracks ≠ [] ∧ step.tracks.Nodup := by
  induction points with
  | nil =>
    intro vorher punkt steps h
    obtain ⟨kante, richtung, -, hstation, rfl⟩ := schritteFrom_destination_iff.mp h
    refine ⟨List.cons_ne_nil _ _, ?_⟩
    rw [List.forall_mem_singleton]
    exact ⟨hstation, nodup_bahnhofsgleise hfiled _ _⟩
  | cons naechster points ih =>
    intro vorher punkt steps h
    obtain ⟨kante, richtung, rest, -, hstation, hline, hrest, rfl⟩ :=
      schritteFrom_step_iff.mp h
    refine ⟨List.cons_ne_nil _ _, ?_⟩
    rw [List.forall_mem_cons, List.forall_mem_cons]
    exact ⟨⟨hstation, nodup_bahnhofsgleise hfiled _ _⟩,
      ⟨hline, nodup_streckengleise hfiled _ _⟩, (ih hrest).2⟩

lemma tracks_of_schritte (hfiled : Filed graph) {points : List OperatingPointId}
    (h : schritte graph request points = .ok steps) (hpoints : points ≠ []) :
    steps ≠ [] ∧ ∀ step ∈ steps, step.tracks ≠ [] ∧ step.tracks.Nodup := by
  obtain ⟨punkt, points, rfl⟩ := List.exists_cons_of_ne_nil hpoints
  exact tracks_of_schritteFrom hfiled h

/-! ### The combinations of tracks -/

/-- All combinations of tracks, those with the first tracks first. -/
def alle : List Choice → List (List TrackId)
  | [] => [[]]
  | step :: steps => step.tracks.flatMap fun track => (alle steps).map (track :: ·)

/-- Walking over the tracks of a step collects the first combinations that begin with them. -/
private lemma foldl_take {further : ℕ → List (List TrackId)} {all : List (List TrackId)}
    {limit : ℕ} (hfurther : ∀ rest, further rest = all.take rest) (tracks : List TrackId) :
    ∀ ergebnis : List (List TrackId),
      tracks.foldl (fun ergebnis track =>
          ergebnis ++ (further (limit - ergebnis.length)).map (track :: ·)) ergebnis
        = ergebnis ++ (tracks.flatMap fun track => all.map (track :: ·)).take
            (limit - ergebnis.length) := by
  induction tracks with
  | nil => simp
  | cons track tracks ih =>
    intro ergebnis
    rw [List.foldl_cons, ih, hfurther, List.flatMap_cons, List.take_append, List.append_assoc,
      List.map_take, List.length_append, List.length_take, List.length_map]
    congr 3
    omega

lemma kombinationenFrom_eq_take (steps : List Choice) :
    ∀ limit : ℕ, kombinationenFrom steps limit = (alle steps).take limit := by
  induction steps with
  | nil =>
    intro limit
    rw [kombinationenFrom, alle]
    cases limit with
    | zero => rfl
    | succ limit => simp
  | cons step steps ih =>
    intro limit
    rw [kombinationenFrom, foldl_take ih, List.nil_append, alle, List.length_nil, Nat.sub_zero]

lemma kombinationen_eq_take (h : steps ≠ []) (limit : ℕ) :
    kombinationen steps limit = (alle steps).take limit := by
  rw [kombinationen, if_neg (by simpa using h), kombinationenFrom_eq_take]

/-- A combination takes one of its tracks at every step. -/
lemma mem_alle_iff :
    ∀ {kombination : List TrackId}, kombination ∈ alle steps ↔
      List.Forall₂ (fun track step => track ∈ step.tracks) kombination steps := by
  induction steps with
  | nil =>
    intro kombination
    rw [alle, List.mem_singleton, List.forall₂_nil_right_iff]
  | cons step steps ih =>
    intro kombination
    rw [alle, List.mem_flatMap, List.forall₂_cons_right_iff]
    constructor
    · rintro ⟨track, htrack, hin⟩
      obtain ⟨tracks, htracks, rfl⟩ := List.mem_map.mp hin
      exact ⟨track, tracks, htrack, ih.mp htracks, rfl⟩
    · rintro ⟨track, tracks, htrack, htracks, rfl⟩
      exact ⟨track, htrack, List.mem_map.mpr ⟨tracks, ih.mpr htracks, rfl⟩⟩

lemma nodup_alle (h : ∀ step ∈ steps, step.tracks.Nodup) :
    (alle steps).Nodup := by
  induction steps with
  | nil => exact List.nodup_singleton _
  | cons step steps ih =>
    obtain ⟨hstep, hsteps⟩ := List.forall_mem_cons.mp h
    rw [alle, List.nodup_flatMap]
    refine ⟨fun track _ => (ih hsteps).map (List.cons_injective), hstep.imp ?_⟩
    intro track other hne tracks hfirst hsecond
    obtain ⟨_, -, rfl⟩ := List.mem_map.mp hfirst
    obtain ⟨_, -, heq⟩ := List.mem_map.mp hsecond
    exact hne (List.cons.inj heq).1.symm

lemma alle_ne_nil (h : ∀ step ∈ steps, step.tracks ≠ []) :
    alle steps ≠ [] := by
  induction steps with
  | nil => exact List.cons_ne_nil _ _
  | cons step steps ih =>
    obtain ⟨hstep, hsteps⟩ := List.forall_mem_cons.mp h
    obtain ⟨track, htrack⟩ := List.exists_mem_of_ne_nil _ hstep
    obtain ⟨tracks, htracks⟩ := List.exists_mem_of_ne_nil _ (ih hsteps)
    refine List.ne_nil_of_mem (a := track :: tracks) ?_
    rw [alle]
    exact List.mem_flatMap.mpr ⟨track, htrack, List.mem_map.mpr ⟨tracks, htracks, rfl⟩⟩

end Zugfolge.Planner
