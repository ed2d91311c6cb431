/-
Parallel edges along a sequence of operating points.

The planner looks up the edge between two points by the points alone and takes the one with the
lowest number.  If trains cannot use this one in the direction of the run, the sequence is
rejected, although it may be travelled over another edge between the same points.

* `accepts_iff`: what can be travelled is accepted exactly over the lowest edges.
-/
import Zugfolge.Conflict.Assertions
import Zugfolge.Planner.Choices
import Zugfolge.Planner.Offers

namespace Zugfolge.Planner

open Conflict (OperatingPointId Itinerary)
open Foundation
open Infra (OperatingGraph OperatingGraphBuilder TrackEdge InfraError)

/-! ### What can be travelled -/

/-- From one point of a sequence to the next one; the last one leads to the destination. -/
structure Etappe where
  start : OperatingPointId
  finish : OperatingPointId
  last : Bool

/-- From point to point along a sequence. -/
def etappen : List OperatingPointId → List Etappe
  | punkt :: naechster :: points =>
    ⟨punkt, naechster, points.isEmpty⟩ :: etappen (naechster :: points)
  | _ => []

/-- Trains can use the edge: in the direction of the run they find a track on the edge and in the
operating point they leave by it, and in the destination. -/
structure Usable (graph : OperatingGraph) (request : PathRequest) (etappe : Etappe)
    (kante : TrackEdge) : Prop where
  leads : kante.otherEnd etappe.start = some etappe.finish
  departs : bahnhofsgleise graph request etappe.start (richtungNach kante etappe.finish) ≠ []
  line : streckengleise graph kante.id (richtungNach kante etappe.finish) ≠ []
  arrives : etappe.last = true →
    bahnhofsgleise graph request etappe.finish (richtungNach kante etappe.finish) ≠ []

/-- The sequence can be travelled over some choice of edges. -/
def Travellable (graph : OperatingGraph) (request : PathRequest)
    (points : List OperatingPointId) : Prop :=
  etappen points ≠ [] ∧ ∃ kanten,
    List.Forall₂ (fun etappe kante => kante ∈ graph.edgesAt etappe.start ∧
      Usable graph request etappe kante) (etappen points) kanten

/-- Along the sequence the construction makes itineraries, up to any limit, without an error. -/
def Accepts (graph : OperatingGraph) (request : PathRequest) (points : List OperatingPointId) :
    Prop :=
  ∃ steps, schritte graph request points = .ok steps ∧ ∀ limit, 0 < limit →
    ∃ laufwege, ((kombinationen steps limit).mapM fun kombination =>
      Itinerary.new graph (legsOf steps kombination)) = .ok laufwege ∧ laufwege ≠ []

/-- The edge with the lowest number between two points. -/
def lowestEdge (graph : OperatingGraph) (etappe : Etappe) : Option TrackEdge :=
  (graph.edgesAt etappe.start).find? fun kante =>
    kante.otherEnd etappe.start = some etappe.finish

/-- From point to point trains can use the edge with the lowest number. -/
def LowestUsable (graph : OperatingGraph) (request : PathRequest)
    (points : List OperatingPointId) : Prop :=
  ∀ etappe ∈ etappen points, ∀ kante, lowestEdge graph etappe = some kante →
    Usable graph request etappe kante

/-! ### What the construction accepts -/

variable {graph : OperatingGraph} {request : PathRequest}

lemma usable_lowest_iff {etappe : Etappe} {kante : TrackEdge}
    (h : lowestEdge graph etappe = some kante) : Usable graph request etappe kante ↔
      bahnhofsgleise graph request etappe.start (richtungNach kante etappe.finish) ≠ [] ∧
      streckengleise graph kante.id (richtungNach kante etappe.finish) ≠ [] ∧
      (etappe.last = true →
        bahnhofsgleise graph request etappe.finish (richtungNach kante etappe.finish) ≠ []) := by
  refine ⟨fun husable => ⟨husable.departs, husable.line, husable.arrives⟩, ?_⟩
  rintro ⟨hdeparts, hline, harrives⟩
  exact ⟨by simpa using List.find?_some h, hdeparts, hline, harrives⟩

lemma richtungZwischen_eq_some {start finish : OperatingPointId} {last : Bool}
    {kante : TrackEdge} (h : lowestEdge graph ⟨start, finish, last⟩ = some kante) :
    richtungZwischen graph start finish = some (kante.id, richtungNach kante finish) := by
  rw [lowestEdge] at h
  rw [richtungZwischen_eq, h, Option.map_some]

/-- There are choices along a sequence exactly if the lowest edges can be used. -/
lemma schritteFrom_ok_iff {points : List OperatingPointId} :
    ∀ {vorher punkt naechster : OperatingPointId},
      (∀ etappe ∈ etappen (punkt :: naechster :: points),
        ∃ kante, lowestEdge graph etappe = some kante) →
      ((∃ steps, schritteFrom graph request vorher (punkt :: naechster :: points) = .ok steps) ↔
        LowestUsable graph request (punkt :: naechster :: points)) := by
  induction points with
  | nil =>
    intro vorher punkt naechster hedges
    obtain ⟨kante, hlowest⟩ := hedges _ List.mem_cons_self
    have hkante : lowestEdge graph ⟨punkt, naechster, true⟩ = some kante := hlowest
    have hrichtung := richtungZwischen_eq_some hkante
    have hsingle : LowestUsable graph request [punkt, naechster] ↔
        Usable graph request ⟨punkt, naechster, true⟩ kante := by
      simp only [LowestUsable, etappen, List.isEmpty_nil, List.forall_mem_singleton, hkante]
      exact ⟨fun h => h kante rfl, fun h other heq => Option.some.inj heq ▸ h⟩
    rw [hsingle, usable_lowest_iff hkante]
    simp only [schritteFrom_step_iff, schritteFrom_destination_iff, hrichtung,
      Option.some.injEq, Prod.mk.injEq]
    constructor
    · rintro ⟨_, _, _, _, ⟨rfl, rfl⟩, hdeparts, hline, ⟨_, _, ⟨rfl, rfl⟩, harrives, -⟩, -⟩
      exact ⟨hdeparts, hline, fun _ => harrives⟩
    · rintro ⟨hdeparts, hline, harrives⟩
      exact ⟨_, _, _, _, ⟨rfl, rfl⟩, hdeparts, hline,
        ⟨_, _, ⟨rfl, rfl⟩, harrives trivial, rfl⟩, rfl⟩
  | cons weiter points ih =>
    intro vorher punkt naechster hedges
    rw [etappen, List.forall_mem_cons] at hedges
    obtain ⟨⟨kante, hlowest⟩, hedges⟩ := hedges
    have hkante : lowestEdge graph ⟨punkt, naechster, false⟩ = some kante := hlowest
    have hrichtung := richtungZwischen_eq_some hkante
    have hfirst : LowestUsable graph request (punkt :: naechster :: weiter :: points) ↔
        Usable graph request ⟨punkt, naechster, false⟩ kante ∧
          LowestUsable graph request (naechster :: weiter :: points) := by
      rw [LowestUsable, etappen, List.forall_mem_cons, List.isEmpty_cons, hkante]
      exact and_congr_left' ⟨fun h => h kante rfl, fun h other heq => Option.some.inj heq ▸ h⟩
    rw [hfirst, ← @ih punkt _ _ hedges, usable_lowest_iff hkante]
    simp only [@schritteFrom_step_iff _ _ _ _ _ (weiter :: points), hrichtung,
      Option.some.injEq, Prod.mk.injEq]
    constructor
    · rintro ⟨_, _, _, rest, ⟨rfl, rfl⟩, hdeparts, hline, hrest, -⟩
      exact ⟨⟨hdeparts, hline, fun h => absurd h Bool.false_ne_true⟩, rest, hrest⟩
    · rintro ⟨⟨hdeparts, hline, -⟩, rest, hrest⟩
      exact ⟨_, _, _, rest, ⟨rfl, rfl⟩, hdeparts, hline, hrest, rfl⟩

/-- Where there are choices along a sequence, the construction makes itineraries. -/
lemma accepts_iff_schritte (hfiled : Filed graph) {points : List OperatingPointId}
    (hpoints : points ≠ []) :
    Accepts graph request points ↔ ∃ steps, schritte graph request points = .ok steps := by
  refine exists_congr fun steps => ⟨And.left, fun hsteps => ⟨hsteps, fun limit hlimit => ?_⟩⟩
  obtain ⟨hsome, htracks⟩ := tracks_of_schritte hfiled hsteps hpoints
  rw [kombinationen_eq_take hsome]
  obtain ⟨laufwege, hlaufwege⟩ := mapM_ok_iff.mpr fun kombination hin => by
    obtain ⟨laufweg, hnew, -⟩ := new_of_schritte hfiled hsteps hpoints
      (mem_alle_iff.mp (List.mem_of_mem_take hin))
    exact ⟨laufweg, hnew⟩
  refine ⟨laufwege, hlaufwege, ?_⟩
  have hall := alle_ne_nil fun step hstep => (htracks step hstep).1
  obtain ⟨kombination, hin⟩ := List.exists_mem_of_ne_nil ((alle steps).take limit)
    (by simpa [hall] using hlimit.ne')
  obtain ⟨laufweg, hin, -⟩ := exists_mem_of_mapM_ok hlaufwege hin
  exact List.ne_nil_of_mem hin

/-- **A sequence that can be travelled over some choice of edges is accepted exactly if it can be
travelled over the edges with the lowest numbers.** -/
theorem accepts_iff {builder : OperatingGraphBuilder} (hbuild : builder.build = .ok graph)
    {points : List OperatingPointId} (htravel : Travellable graph request points) :
    Accepts graph request points ↔ LowestUsable graph request points := by
  obtain ⟨hsome, kanten, husable⟩ := htravel
  have hedges : ∀ etappe ∈ etappen points, ∃ kante, lowestEdge graph etappe = some kante := by
    intro etappe hin
    obtain ⟨kante, -, hhere, h⟩ := exists_of_mem_forall₂ husable.flip hin
    cases hfound : lowestEdge graph etappe with
    | some lowest => exact ⟨lowest, rfl⟩
    | none => exact absurd h.leads (by simpa using List.find?_eq_none.mp hfound kante hhere)
  match points, hsome with
  | punkt :: naechster :: points, _ =>
    rw [accepts_iff_schritte (filed_of_build hbuild) (List.cons_ne_nil _ _), schritte]
    exact schritteFrom_ok_iff hedges

/-! ### Two edges between two stations -/

instance (graph : OperatingGraph) (request : PathRequest) (etappe : Etappe) (kante : TrackEdge) :
    Decidable (Usable graph request etappe kante) :=
  decidable_of_iff (kante.otherEnd etappe.start = some etappe.finish ∧
      bahnhofsgleise graph request etappe.start (richtungNach kante etappe.finish) ≠ [] ∧
      streckengleise graph kante.id (richtungNach kante etappe.finish) ≠ [] ∧
      (etappe.last = true →
        bahnhofsgleise graph request etappe.finish (richtungNach kante etappe.finish) ≠ []))
    ⟨fun ⟨leads, departs, line, arrives⟩ => ⟨leads, departs, line, arrives⟩,
      fun h => ⟨h.leads, h.departs, h.line, h.arrives⟩⟩

namespace SmallLine

open Conflict.SmallLine (track inductive' surveyed station_bounded)

/-- The parts of a line with two edges between its stations: trains run on the first one only
against the chainage, on the second one in both directions. -/
def twoWays : Except InfraError OperatingGraphBuilder := do
  let single ← TrackEdge.new 1 1 2 "Gegengleis" 100000
  let double ← TrackEdge.new 2 1 2 "Regelgleis" 100000
  let first ← track 11 (.operatingPoint 1) 100000 station_bounded
    [⟨0, 100000, inductive', surveyed⟩]
  let second ← track 12 (.operatingPoint 2) 100000 station_bounded
    [⟨0, 100000, inductive', surveyed⟩]
  let oneWay ← track 21 (.edge 1) 100000 station_bounded [⟨0, 100000, inductive', surveyed⟩]
  let bothWays ← track 22 (.edge 2) 100000 station_bounded [⟨0, 100000, inductive', surveyed⟩]
  pure ⟨[⟨1, "AA", .station⟩, ⟨2, "BB", .station⟩], [single, double],
    [first, second, { oneWay with direction := .againstChainage }, bothWays], []⟩

/-- The line with two edges as it is built, and the request of a railcar. -/
structure TwoWays where
  builder : OperatingGraphBuilder
  graph : OperatingGraph
  isGraph : builder.build = .ok graph
  request : PathRequest

/-- The railcar stops nowhere between the stations. -/
def twoWaysRequest : Option TwoWays := do
  let builder ← twoWays.toOption
  let request ← requestOf 1 0 28800 [.monday] .exact
  match h : builder.build with
  | .ok graph => some ⟨builder, graph, h, request⟩
  | .error _ => none

/-- Along the chainage trains can use the second edge, but the construction looks at the first
one and rejects the sequence. -/
theorem second_edge_rejected : ¬ ∀ builder graph request points,
    OperatingGraphBuilder.build builder = .ok graph → Travellable graph request points →
      Accepts graph request points := by
  intro haccepts
  have hrun : (twoWaysRequest.any fun run =>
      ((run.graph.edgesAt 1).any fun kante =>
        decide (Usable run.graph run.request ⟨1, 2, true⟩ kante)) &&
      (schritte run.graph run.request [1, 2]).toOption.isNone) = true := by
    decide +kernel
  obtain ⟨run, -, hrun⟩ := (Option.any_eq_true _ _).mp hrun
  rw [Bool.and_eq_true, List.any_eq_true] at hrun
  obtain ⟨⟨kante, hhere, husable⟩, hnone⟩ := hrun
  obtain ⟨steps, hsteps, -⟩ := haccepts run.builder run.graph run.request [1, 2] run.isGraph
    ⟨List.cons_ne_nil _ _, [kante], .cons ⟨hhere, of_decide_eq_true husable⟩ .nil⟩
  rw [hsteps] at hnone
  cases hnone

/-- Against the chainage trains can use the first edge, and the construction accepts the
sequence. -/
theorem first_edge_accepted : ∃ run ∈ twoWaysRequest, Accepts run.graph run.request [2, 1] := by
  have hrun : (twoWaysRequest.any fun run =>
      (lowestEdge run.graph ⟨2, 1, true⟩).any fun kante =>
        decide (Usable run.graph run.request ⟨2, 1, true⟩ kante)) = true := by
    decide +kernel
  obtain ⟨run, hrun, hedge⟩ := (Option.any_eq_true _ _).mp hrun
  obtain ⟨kante, hkante, hedge⟩ := (Option.any_eq_true _ _).mp hedge
  have husable := of_decide_eq_true hedge
  have hhere := List.mem_of_find?_eq_some hkante
  have htravel : Travellable run.graph run.request [2, 1] :=
    ⟨List.cons_ne_nil _ _, [kante], .cons ⟨hhere, husable⟩ .nil⟩
  refine ⟨run, hrun, (accepts_iff run.isGraph htravel).mpr ?_⟩
  intro etappe hin other hother
  obtain rfl : etappe = ⟨2, 1, true⟩ := List.mem_singleton.mp hin
  rw [hkante] at hother
  cases hother
  exact husable

end SmallLine

end Zugfolge.Planner
