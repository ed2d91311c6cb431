/-
What the enumeration of itineraries lists.

The sequences are taken one after the other, and each gives the itineraries over its first
combinations of tracks, as many as the limit leaves.  The itineraries of a sequence differ in
their tracks, those of two sequences in their points.

* `Lists`, `enumerateItineraries_lists`: what is listed.
-/
import Zugfolge.Conflict.Assertions
import Zugfolge.Planner.Choices
import Zugfolge.Planner.Offers
import Zugfolge.Planner.Sequences

namespace Zugfolge.Planner

open Conflict (OperatingPointId TrackId Itinerary CheckedLeg)
open Foundation
open Infra (Length OperatingGraph OperatingGraphBuilder)

/-- An enumeration lists itineraries up to its limit, shorter ones first.  Each of them follows
a sequence that serves the request, and where no two edges join the same points none is listed
twice. -/
structure Lists (graph : OperatingGraph) (request : PathRequest) (limit : ℕ)
    (laufwege : List Itinerary) : Prop where
  limited : laufwege.length ≤ limit
  shorter : laufwege.Pairwise fun laufweg later => laufweg.legs.length ≤ later.legs.length
  follows : ∀ laufweg ∈ laufwege, ∃ folge, Serves graph request folge ∧
    Follows graph request folge laufweg.legs
  once : Simple graph → laufwege.Nodup

variable {graph : OperatingGraph} {request : PathRequest}

/-! ### The points of an itinerary -/

namespace Follows

variable {points : List OperatingPointId} {legs : List CheckedLeg}

lemma length_eq (h : Follows graph request points legs) :
    legs.length + 1 = 2 * points.length := by
  induction h with
  | destination => rfl
  | step _ _ _ ih =>
    simp only [List.length_cons] at ih ⊢
    omega

lemma points_eq (h : Follows graph request points legs) :
    (legs.filter CheckedLeg.inStation).map CheckedLeg.start = points := by
  induction h with
  | destination h => simp [h.inStation, h.start]
  | step h hline _ ih => simp [h.inStation, h.start, hline.1, ih]

end Follows

/-! ### The itineraries of a sequence -/

/-- The itineraries over the first combinations of tracks along a sequence. -/
def Along (graph : OperatingGraph) (request : PathRequest) (folge : List OperatingPointId)
    (laufwege : List Itinerary) : Prop :=
  ∃ steps limit, schritte graph request folge = .ok steps ∧
    ((kombinationen steps limit).mapM fun kombination =>
      Itinerary.new graph (legsOf steps kombination)) = .ok laufwege

lemma Serves.ne_nil {folge : List OperatingPointId} (h : Serves graph request folge) :
    folge ≠ [] := by
  rintro rfl
  cases h.starts

namespace Along

variable {folge : List OperatingPointId} {laufwege : List Itinerary}

/-- The itineraries follow their sequence over the combinations of tracks. -/
lemma tracks_eq (h : Along graph request folge laufwege) (hfiled : Filed graph)
    (hfolge : folge ≠ []) :
    (∀ laufweg ∈ laufwege, Follows graph request folge laufweg.legs) ∧
      (laufwege.map fun laufweg => laufweg.legs.map fun leg => leg.leg.track).Nodup := by
  obtain ⟨steps, limit, hsteps, hlaufwege⟩ := h
  obtain ⟨hsome, htracks⟩ := tracks_of_schritte hfiled hsteps hfolge
  rw [kombinationen_eq_take hsome] at hlaufwege
  have hnew : ∀ kombination ∈ (alle steps).take limit, ∀ laufweg,
      Itinerary.new graph (legsOf steps kombination) = .ok laufweg →
        Follows graph request folge laufweg.legs ∧
          (laufweg.legs.map fun leg => leg.leg.track) = kombination := by
    intro kombination hin laufweg hlaufweg
    have hpick := mem_alle_iff.mp (List.mem_of_mem_take hin)
    obtain ⟨expected, hexpected, hlegs, hfollows⟩ := new_of_schritte hfiled hsteps hfolge hpick
    rw [hlaufweg] at hexpected
    cases hexpected
    refine ⟨hfollows, ?_⟩
    calc (laufweg.legs.map fun leg => leg.leg.track)
        = (laufweg.legs.map CheckedLeg.leg).map fun leg => leg.track := by
          rw [List.map_map]
          rfl
      _ = (kombination.zip steps).map Prod.fst := by
          rw [hlegs, legsOf, List.map_map]
          rfl
      _ = kombination := List.map_fst_zip hpick.length_eq.le
  refine ⟨fun laufweg hin => ?_, ?_⟩
  · obtain ⟨kombination, hkombination, hlaufweg⟩ := exists_of_mem_mapM_ok hlaufwege hin
    exact (hnew kombination hkombination laufweg hlaufweg).1
  · have heq : (laufwege.map fun laufweg => laufweg.legs.map fun leg => leg.leg.track)
        = ((alle steps).take limit).map id :=
      map_of_mapM_ok (fun kombination hin laufweg hlaufweg =>
        (hnew kombination hin laufweg hlaufweg).2) hlaufwege
    rw [heq, List.map_id]
    exact (nodup_alle fun step hstep => (htracks step hstep).2).sublist (List.take_sublist _ _)

end Along

lemma length_kombinationen_le (steps : List Choice) (limit : ℕ) :
    (kombinationen steps limit).length ≤ limit := by
  rw [kombinationen]
  split
  next => exact Nat.zero_le _
  next =>
    rw [kombinationenFrom_eq_take]
    exact List.length_take_le _ _

/-! ### One sequence after the other -/

/-- The enumeration adds the itineraries of some of the sequences, in their order. -/
lemma laufwegeFrom_eq_ok {limit : ℕ} {folgen : List (List OperatingPointId)} :
    ∀ {laufwege out : List Itinerary} {fehlenderHalt fehlend : Option OperatingPointId},
      laufwegeFrom graph request limit folgen laufwege fehlenderHalt = .ok (out, fehlend) →
      laufwege.length ≤ limit →
      out.length ≤ limit ∧ ∃ used : List (List OperatingPointId × List Itinerary),
        out = laufwege ++ used.flatMap Prod.snd ∧ (used.map Prod.fst).Sublist folgen ∧
          ∀ entry ∈ used, Along graph request entry.1 entry.2 := by
  induction folgen with
  | nil =>
    intro laufwege out fehlenderHalt fehlend h hlimit
    cases h
    exact ⟨hlimit, [], by simp⟩
  | cons folge folgen ih =>
    intro laufwege out fehlenderHalt fehlend h hlimit
    rw [laufwegeFrom] at h
    split at h
    next halt hhalt =>
      obtain ⟨hout, used, heq, hsub, hused⟩ := ih h hlimit
      exact ⟨hout, used, heq, hsub.cons folge, hused⟩
    next steps hsteps =>
      simp only at h
      split at h
      next => cases h
      next neue hneue =>
        have halong : Along graph request folge neue := ⟨steps, _, hsteps, hneue⟩
        have hlength : (laufwege ++ neue).length ≤ limit := by
          have hsame : (neue.map fun _ => ())
              = (kombinationen steps (limit - laufwege.length)).map fun _ => () :=
            map_of_mapM_ok (fun _ _ _ _ => rfl) hneue
          have hcount := congrArg List.length hsame
          have hfew := length_kombinationen_le steps (limit - laufwege.length)
          rw [List.length_map, List.length_map] at hcount
          rw [List.length_append]
          omega
        split at h
        next =>
          cases h
          refine ⟨hlength, [(folge, neue)], by simp, by simp, ?_⟩
          rw [List.forall_mem_singleton]
          exact halong
        next =>
          obtain ⟨hout, used, heq, hsub, hused⟩ := ih h hlength
          refine ⟨hout, (folge, neue) :: used, ?_, hsub.cons_cons folge,
            List.forall_mem_cons.mpr ⟨halong, hused⟩⟩
          rw [heq, List.flatMap_cons, List.append_assoc]

/-- The itineraries of some of the sequences of a request, one sequence after the other. -/
structure Gathered (graph : OperatingGraph) (request : PathRequest)
    (used : List (List OperatingPointId × List Itinerary)) : Prop where
  found : (used.map Prod.fst).Sublist (punktfolgen graph request)
  along : ∀ entry ∈ used, Along graph request entry.1 entry.2

namespace Gathered

variable {used : List (List OperatingPointId × List Itinerary)}
  {entry : List OperatingPointId × List Itinerary}

lemma serves (h : Gathered graph request used) (hentry : entry ∈ used) :
    Serves graph request entry.1 :=
  serves_of_mem_punktfolgen (h.found.subset (List.mem_map_of_mem hentry))

lemma follows (h : Gathered graph request used) (hfiled : Filed graph) (hentry : entry ∈ used) :
    ∀ laufweg ∈ entry.2, Follows graph request entry.1 laufweg.legs :=
  ((h.along entry hentry).tracks_eq hfiled (h.serves hentry).ne_nil).1

/-- The itineraries of one sequence have the same length, and shorter sequences come first. -/
lemma shorter (h : Gathered graph request used) (hfiled : Filed graph) :
    (used.flatMap Prod.snd).Pairwise
      fun laufweg later => laufweg.legs.length ≤ later.legs.length := by
  rw [List.pairwise_flatMap]
  constructor
  · intro entry hentry
    refine List.pairwise_of_forall_mem_list fun laufweg hfirst later hlater => ?_
    have hlength := (h.follows hfiled hentry laufweg hfirst).length_eq
    have hlengthLater := (h.follows hfiled hentry later hlater).length_eq
    omega
  · have hshorter := shorter_first_punktfolgen.sublist h.found
    rw [List.pairwise_map] at hshorter
    refine hshorter.imp_of_mem ?_
    intro entry next hentry hnext hle laufweg hfirst later hlater
    have hlength := (h.follows hfiled hentry laufweg hfirst).length_eq
    have hlengthLater := (h.follows hfiled hnext later hlater).length_eq
    omega

lemma once (h : Gathered graph request used) (hfiled : Filed graph) (hsimple : Simple graph) :
    (used.flatMap Prod.snd).Nodup := by
  rw [List.nodup_flatMap]
  constructor
  · intro entry hentry
    exact ((h.along entry hentry).tracks_eq hfiled (h.serves hentry).ne_nil).2.of_map _
  · have hdiffer := (nodup_punktfolgen hsimple).sublist h.found
    rw [List.Nodup, List.pairwise_map] at hdiffer
    refine hdiffer.imp_of_mem ?_
    intro entry next hentry hnext hne laufweg hfirst hlater
    have hpoints := (h.follows hfiled hentry laufweg hfirst).points_eq
    rw [(h.follows hfiled hnext laufweg hlater).points_eq] at hpoints
    exact hne hpoints.symm

end Gathered

/-- **The itineraries that are listed for a request.** -/
theorem enumerateItineraries_lists {builder : OperatingGraphBuilder}
    (hbuild : builder.build = .ok graph) {limit : ℕ} {laufwege : List Itinerary}
    (h : enumerateItineraries graph request limit = .ok laufwege) :
    Lists graph request limit laufwege := by
  have hfiled := filed_of_build hbuild
  rw [enumerateItineraries] at h
  split at h
  next => cases h
  next =>
    split at h
    next => cases h
    next out fehlenderHalt hout =>
      split at h
      next => cases h
      next =>
        cases h
        obtain ⟨hlimit, used, rfl, hsub, hused⟩ := laufwegeFrom_eq_ok hout (Nat.zero_le limit)
        have hgathered : Gathered graph request used := ⟨hsub, hused⟩
        refine ⟨hlimit, hgathered.shorter hfiled, fun laufweg hin => ?_, hgathered.once hfiled⟩
        obtain ⟨entry, hentry, hin⟩ := List.mem_flatMap.mp hin
        exact ⟨entry.1, hgathered.serves hentry, hgathered.follows hfiled hentry laufweg hin⟩

/-! ### A stop at the destination -/

namespace SmallLine

open Conflict.SmallLine (track inductive' surveyed station_bounded railcar)
open Infra (TrackEdge Platform InfraError)

lemma platform_bounded : (200000 : Length) ≤ i64Max := by decide

/-- The parts of a line of 100 metres with a platform of 150 metres at its second station. -/
def withPlatform : Except InfraError OperatingGraphBuilder := do
  let edge ← TrackEdge.new 1 1 2 "Strecke" 100000
  let first ← track 11 (.operatingPoint 1) 100000 station_bounded
    [⟨0, 100000, inductive', surveyed⟩]
  let second ← track 12 (.operatingPoint 2) 200000 platform_bounded
    [⟨0, 200000, inductive', surveyed⟩]
  let line ← track 21 (.edge 1) 100000 station_bounded [⟨0, 100000, inductive', surveyed⟩]
  let platform ← Platform.new 1 12 "Bahnsteig" 0 150000 760
  pure ⟨[⟨1, "AA", .station⟩, ⟨2, "BB", .station⟩], [edge], [first, second, line], [platform]⟩

/-- The itineraries of a request on the line, at most eight. -/
structure Listed where
  builder : OperatingGraphBuilder
  graph : OperatingGraph
  request : PathRequest
  laufwege : List Itinerary
  isGraph : builder.build = .ok graph
  areItineraries : enumerateItineraries graph request 8 = .ok laufwege

/-- A railcar asks for a stop of one minute at the second station, where its run ends. -/
def stopAtDestination : Option Listed := do
  let builder ← withPlatform.toOption
  let train ← railcar ⟨{.pzb, .lzb}⟩
  let days ← (Conflict.OperatingDays.fromDays [.monday]).toOption
  let halt ← (RequestedStop.new 2 60).toOption
  let request ← (PathRequest.new 1 (Conflict.StationHead.number 0) train 1 2 [halt] 28800 days
    .exact).toOption
  match hgraph : builder.build with
  | .ok graph => match hlaufwege : enumerateItineraries graph request 8 with
    | .ok laufwege => some ⟨builder, graph, request, laufwege, hgraph, hlaufwege⟩
    | .error _ => none
  | .error _ => none

/-- The itinerary ends at the requested stop without its dwell. -/
theorem destination_without_dwell : ¬ ∀ builder graph request limit laufwege,
    OperatingGraphBuilder.build builder = .ok graph →
      enumerateItineraries graph request limit = .ok laufwege →
        Lists graph request limit laufwege ∧ laufwege.Nodup ∧
          ∀ laufweg ∈ laufwege, ∀ halt ∈ request.stops, ∃ leg ∈ laufweg.legs,
            Calls graph request halt.point halt.minimumDwellS leg := by
  intro hlists
  have hrun : (stopAtDestination.any fun run => run.laufwege.any fun laufweg =>
      run.request.stops.any fun halt => laufweg.legs.all fun leg =>
        decide (leg.leg.dwellS ≠ halt.minimumDwellS)) = true := by
    decide +kernel
  obtain ⟨run, -, hrun⟩ := (Option.any_eq_true _ _).mp hrun
  obtain ⟨laufweg, hlaufweg, hrun⟩ := List.any_eq_true.mp hrun
  obtain ⟨halt, hhalt, hrun⟩ := List.any_eq_true.mp hrun
  obtain ⟨-, -, hstops⟩ := hlists _ _ _ _ _ run.isGraph run.areItineraries
  obtain ⟨leg, hleg, hcalls⟩ := hstops laufweg hlaufweg halt hhalt
  exact of_decide_eq_true (List.all_eq_true.mp hrun leg hleg) hcalls.dwell

/-- The itineraries of the request on the line are listed. -/
theorem stopAtDestination_lists : ∃ run ∈ stopAtDestination, run.laufwege ≠ [] ∧
    Lists run.graph run.request 8 run.laufwege := by
  have hrun : (stopAtDestination.any fun run => !run.laufwege.isEmpty) = true := by
    decide +kernel
  obtain ⟨run, hin, hrun⟩ := (Option.any_eq_true _ _).mp hrun
  exact ⟨run, hin, by simpa using hrun,
    enumerateItineraries_lists run.isGraph run.areItineraries⟩

end SmallLine

end Zugfolge.Planner
