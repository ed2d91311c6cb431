/-
The resources that trains hold in a region.

A train that is handed over to a region takes resources with it.  They are released when the
train leaves the first stop of its route and when it is removed after its journey.  A train that
ends its journey otherwise, or is handed over to the next region, keeps them.

* `Simulation.settled`: the condition on a call;
* `Simulation.run_owned`: resources over whole runs.
-/
import Zugfolge.Sim.Journeys

namespace Zugfolge.Sim

open Foundation
open Std (ExtTreeMap ExtTreeSet)

namespace Simulation

variable {δ : Type} {s t : Simulation δ} {id : TrainRunId} {train : TrainRun}

/-- The train holds a resource. -/
def owns (s : Simulation δ) (id : TrainRunId) : Bool :=
  Registry.anyValue s.resourceOwners fun owner => owner == id

/-- Every owner of a resource is a train of the region that is not over. -/
def Owned (s : Simulation δ) : Prop :=
  ∀ (resource : String) (owner : TrainRunId), s.resourceOwners[resource]? = some owner →
    ∃ train, s.trains[owner]? = some train ∧ train.status.over = false

lemma owns_eq_false : s.owns id = false ↔
    ∀ (resource : String) (owner : TrainRunId), s.resourceOwners[resource]? = some owner →
      owner ≠ id := by
  rw [owns, Registry.anyValue_eq_false]
  simp only [beq_eq_false_iff_ne]

/-! ### Conditions -/

section Conditions

variable [Dispatcher δ]

/-- If the event ends the journey of a train, then the train holds nothing, or it leaves the
first stop of its route. -/
def endsUnowned (s : Simulation δ) (event : ScheduledEvent) : Bool :=
  (s.trains[event.trainRunId]?).all fun train =>
    train.status.over || train.nextWaypoint != event.waypoint || !s.owns event.trainRunId ||
      match event.kind with
      | .arrive => (train.route[event.waypoint]?).all fun waypoint =>
        (s.arrivalDecision event train waypoint).all fun decision => decision.ends.isNone
      | .depart => (s.departureDecision event train).all fun decision =>
        decision.ends.isNone &&
          (!decision.letsGo event.time || event.waypoint + 1 != train.route.length ||
            event.waypoint == 0)

/-- If the train is written, then it is not over, or it holds nothing and takes nothing. -/
def settles (s : Simulation δ) (train : TrainRun) (resources : List String) : Bool :=
  !train.status.over || !(s.checkTrain train).any Except.isOk ||
    !s.owns train.id && (s.trains.contains train.id || resources.isEmpty)

/-- The calls after which no train that is over or gone holds a resource; a call that is refused
and writes nothing is one. -/
def settled (s : Simulation δ) : Call → Bool
  | .command (.materialize train) => s.settles train []
  | .acceptHandover envelope =>
    !s.receives envelope ||
      (s.takenOver envelope.train).all fun train => s.settles train envelope.resources
  | .command (.advanceTo target) =>
    decide (target < s.now) ||
      AllHandled (due target) tick endsUnowned (s.drainBound target + 1) s
  | .command (.dispatch id time trigger facts) =>
    decide (time < s.now) ||
      AllHandled (due time) tick endsUnowned (s.drainBound time + 1) s &&
        (s.advance time).all fun advanced =>
          (advanced.1.trains[id]?).all fun train =>
            (Dispatcher.decide advanced.1.dispatcher train time trigger facts).all fun decided =>
              decided.1.ends.isNone || !advanced.1.owns id
  | .command (.confirmHandover token targetRegion) =>
    (s.pendingHandovers[token]?).all fun pending =>
      pending.targetRegion != targetRegion || !s.owns pending.trainRunId
  | _ => true

end Conditions

/-! ### Moving the clock -/

lemma Owned.of_forall (hs : s.Owned)
    (howners : ∀ (resource : String) (owner : TrainRunId),
      t.resourceOwners[resource]? = some owner → s.resourceOwners[resource]? = some owner)
    (htrains : ∀ (owner : TrainRunId) (train : TrainRun), (∃ resource : String,
      t.resourceOwners[resource]? = some owner) → s.trains[owner]? = some train →
      train.status.over = false →
      ∃ after, t.trains[owner]? = some after ∧ after.status.over = false) : t.Owned := by
  intro resource owner howner
  obtain ⟨train, htrain, hrunning⟩ := hs resource owner (howners resource owner howner)
  exact htrains owner train ⟨resource, howner⟩ htrain hrunning

/-- A train is written with a status, and its resources stay. -/
lemma Owned.insert (hs : s.Owned) (hkept : train.status.over = false ∨ s.owns id = false)
    (htrains : t.trains = s.trains.insert id train)
    (howners : t.resourceOwners = s.resourceOwners) : t.Owned := by
  refine hs.of_forall (fun _ _ h => by rwa [howners] at h) ?_
  rintro owner held ⟨resource, howner⟩ hheld hrunning
  rw [howners] at howner
  rw [htrains, Registry.getElem?_insert]
  split
  next heq =>
    subst heq
    rcases hkept with hkept | hnone
    · exact ⟨train, rfl, hkept⟩
    · exact absurd rfl (owns_eq_false.mp hnone resource owner howner)
  · exact ⟨held, hheld, hrunning⟩

lemma Owned.delayed (hs : s.Owned) (h : Delayed s t) : t.Owned := by
  refine hs.of_forall (fun _ _ howner => by rwa [h.resourceOwners] at howner) ?_
  intro owner held _ hheld hrunning
  obtain ⟨delay, hsame⟩ := h.trains owner
  rw [hheld, Option.map_some] at hsame
  exact ⟨_, hsame, hrunning⟩

section Processing

variable [Dispatcher δ] {event : ScheduledEvent} {waypoint : Waypoint} {out : Output}

/-- An event that ends the journey of a train that holds nothing keeps the resources in order. -/
lemma Moved.owned (hlive : s.Live event train waypoint) (hid : train.id = event.trainRunId)
    (hs : s.Owned) (hok : s.endsUnowned event = true)
    (h : Moved s event train waypoint t out) : t.Owned := by
  simp only [endsUnowned, hlive.held, hlive.running, hlive.here, bne_self_eq_false,
    Option.all_some, Bool.false_or, Bool.or_eq_true, Bool.not_eq_true'] at hok
  have hreleased : ∀ {written : TrainRun} {u : Simulation δ},
      written.status.over = false ∨ s.owns event.trainRunId = false ∨ event.waypoint = 0 →
      u.trains = s.trains.insert event.trainRunId written →
      u.resourceOwners = (if event.waypoint = 0 then
        s.resourceOwners.filter fun _ owner => owner != train.id else s.resourceOwners) →
      u.Owned := by
    intro written u hkept htrains howners
    split at howners
    next hfirst =>
      refine hs.of_forall (fun resource owner howner => ?_) ?_
      · rw [howners, Registry.getElem?_filter] at howner
        exact (Option.filter_eq_some_iff.mp howner).1
      · rintro owner held ⟨resource, howner⟩ hheld hrunning
        rw [howners, Registry.getElem?_filter, hid] at howner
        have hne := (Option.filter_eq_some_iff.mp howner).2
        rw [bne_iff_ne] at hne
        exact ⟨held, by rw [htrains, Registry.getElem?_insert, if_neg hne]; exact hheld, hrunning⟩
    next hlater =>
      refine hs.insert (hkept.imp_right fun hrest => ?_) htrains howners
      exact hrest.resolve_right hlater
  cases h with
  | endsArriving kind decided ended =>
    refine hs.insert (.inr (hok.resolve_right fun hends => ?_)) rfl rfl
    simp [kind, hlive.point, decided, ended] at hends
  | @stands _ _ status _ kind decided ended stood =>
    refine hs.insert (.inl ?_) rfl rfl
    rcases stood with rfl | rfl <;> rfl
  | endsDeparting kind decided ended =>
    refine hs.insert (.inr (hok.resolve_right fun hends => ?_)) rfl rfl
    simp [kind, decided, ended] at hends
  | holds => exact hs.of_forall (fun _ _ h => h) fun _ held _ hheld hrunning =>
    ⟨held, hheld, hrunning⟩
  | finishes kind decided goes last =>
    refine hreleased (.inr (hok.imp_right fun hends => ?_)) rfl rfl
    simp only [kind, decided, Option.all_some, goes, last, Bool.not_true, bne_self_eq_false,
      Bool.false_or, Bool.and_eq_true, beq_iff_eq] at hends
    exact hends.2
  | leaves => exact hreleased (.inl rfl) rfl rfl

lemma tick_owned (hkeyed : s.Keyed) (hs : s.Owned) (hok : s.endsUnowned event = true)
    (h : s.tick event = some (t, out)) : t.Owned := by
  cases handled_of_processScheduled h with
  | stale => exact hs
  | live concerned moved =>
    exact moved.owned concerned (hkeyed _ _ concerned.held) hs hok

omit [Dispatcher δ] in
lemma placeTrains_owned {time : SimTime} (hs : s.Owned) (h : s.placeTrains time = some t) :
    t.Owned := by
  obtain ⟨heq, htrains⟩ := placeTrains_spec h
  refine hs.of_forall (fun _ _ h => by rwa [heq] at h) fun owner held _ hheld hrunning => ?_
  rcases htrains owner with ⟨hnone, -⟩ | ⟨train, after, htrain, hplaced, hafter⟩
  · rw [hnone] at hheld
    cases hheld
  · obtain rfl := Option.some.inj (htrain.symm.trans hheld)
    obtain ⟨position, speed, rfl⟩ := placed_spec hplaced
    exact ⟨_, hafter, hrunning⟩

lemma advance_owned {target : SimTime} {kinds : Output} (hkeyed : s.Keyed) (hs : s.Owned)
    (hok : AllHandled (due target) tick endsUnowned (s.drainBound target + 1) s = true)
    (h : s.advance target = some (t, kinds)) : t.Owned := by
  obtain ⟨u, hdrain, -, hplaced⟩ := advance_spec h
  have hu : u.Keyed ∧ u.Owned :=
    drain_invariant (fun v (_ : Output) => v.Keyed ∧ v.Owned)
      (fun v event w log out hv _ hends htick =>
        ⟨hv.1.framed (tick_framed htick), tick_owned hv.1 hv.2 hends htick⟩)
      [] ⟨hkeyed, hs⟩ hok hdrain
  exact placeTrains_owned hu.2 hplaced

/-! ### Calls -/

omit [Dispatcher δ] in
/-- Taking a train in keeps the resources in order, for it holds none before. -/
lemma Owned.enter (hs : s.Owned) (hfree : s.trains.contains train.id = false)
    (htrains : t.trains = s.trains.insert train.id train) (resources : List String)
    (howners : t.resourceOwners = Registry.fill s.resourceOwners resources train.id)
    (hrunning : train.status.over = false ∨ resources = []) : t.Owned := by
  intro resource owner howner
  rw [howners, Registry.getElem?_fill] at howner
  rw [htrains, Registry.getElem?_insert]
  split at howner
  next hin =>
    cases howner
    have hnonempty : resources ≠ [] := List.ne_nil_of_mem hin
    exact ⟨train, if_pos rfl, hrunning.resolve_right hnonempty⟩
  next hnot =>
    obtain ⟨held, hheld, hstatus⟩ := hs resource owner howner
    have hne : owner ≠ train.id := by
      rintro rfl
      rw [Registry.contains_eq_false.mp hfree] at hheld
      cases hheld
    exact ⟨held, by rw [if_neg hne]; exact hheld, hstatus⟩

omit [Dispatcher δ] in
lemma settles_iff {resources : List String} {first : Waypoint}
    (hcheck : s.checkTrain train = some (.ok first)) : s.settles train resources = true ↔
      train.status.over = false ∨ s.owns train.id = false ∧
        (s.trains.contains train.id = true ∨ resources = []) := by
  simp [settles, hcheck, Except.isOk, Except.toBool]

/-- A settled call keeps the resources in order. -/
lemma call_owned {c : Call} {log : List DomainEvent} (hkeyed : s.Keyed) (hs : s.Owned)
    (hok : s.settled c = true) (h : s.call c = some (t, log)) : t.Owned := by
  cases called_of_call h with
  | refused => exact hs
  | replaced checked held =>
    exact hs.insert (((settles_iff checked).mp hok).imp_right And.left) rfl rfl
  | entered checked free => exact hs.enter free rfl [] rfl (.inr rfl)
  | advanced forward moved =>
    rw [settled, decide_eq_false (not_lt.mpr forward), Bool.false_or] at hok
    exact (advance_owned hkeyed hs hok moved : Owned _)
  | delayed done =>
    rcases delayTrain_spec done with ⟨-, herror, -⟩ | ⟨_, -, -, hdelayed⟩
    · cases herror
    · exact (hs.delayed hdelayed : Owned _)
  | disrupted named held done => exact (hs.delayed (delayTrains_spec held done).1 : Owned _)
  | @confirmed token targetRegion gone pending =>
    simp only [settled, pending, Option.all_some, bne_self_eq_false, Bool.false_or,
      Bool.not_eq_true', owns_eq_false] at hok
    refine hs.of_forall (fun _ _ h => h) ?_
    rintro owner held ⟨resource, howner⟩ hheld hrunning
    have hne : owner ≠ gone := hok resource owner howner
    exact ⟨held, by rw [Registry.getElem?_erase, if_neg hne]; exact hheld, hrunning⟩
  | lost forward moved unknown =>
    rw [settled, decide_eq_false (not_lt.mpr forward), Bool.false_or, Bool.and_eq_true] at hok
    exact advance_owned hkeyed hs hok.1 moved
  | @directed id time trigger facts v w _ train decision dispatcher forward moved held decided
      hit =>
    rw [settled, decide_eq_false (not_lt.mpr forward), Bool.false_or, Bool.and_eq_true] at hok
    obtain ⟨hevents, hends⟩ := hok
    simp only [moved, Option.all_some, held, decided, Bool.or_eq_true,
      Bool.not_eq_true'] at hends
    have hv : v.Owned := advance_owned hkeyed hs hevents moved
    have hw : w.Owned := by
      cases hit with
      | ends ended =>
        refine hv.insert (.inr (hends.resolve_left fun hnone => ?_)) rfl rfl
        rw [ended] at hnone
        cases hnone
      | holds | waits | skips => exact hv.insert (.inl rfl) rfl rfl
      | nothing => exact hv
    exact hw
  | ruled => exact hs
  | requested => exact hs
  | @overwritten envelope train _ receives taken checked held =>
    rw [settled, receives, taken, Bool.not_true, Bool.false_or, Option.all_some] at hok
    exact hs.insert (((settles_iff checked).mp hok).imp_right And.left) rfl rfl
  | @accepted envelope train _ receives taken checked free =>
    obtain ⟨hid, -, -⟩ := takenOver_spec taken
    rw [settled, receives, taken, Bool.not_true, Bool.false_or, Option.all_some] at hok
    refine hs.enter free rfl envelope.resources (by rw [hid])
      (((settles_iff checked).mp hok).imp_right fun hnone => hnone.2.resolve_left ?_)
    rw [free]
    exact Bool.false_ne_true
  | swept swept =>
    refine hs.of_forall (fun resource owner howner => ?_) ?_
    · exact ((swept.resourceOwners resource owner).mp howner).1
    · rintro owner held ⟨resource, howner⟩ hheld hrunning
      have hkept := ((swept.resourceOwners resource owner).mp howner).2
      exact ⟨held, by rw [swept.trains owner, if_neg hkept]; exact hheld, hrunning⟩

/-! ### Runs -/

/-- **Resources.**  In every run from a new region whose calls are settled, every owner of a
resource is a train of the region that is not over. -/
theorem run_owned {worldId : WorldId} {regionId : RegionId} {now : SimTime}
    {window : MaterializationWindow} {dispatcher : δ} {calls : List Call} {log : List DomainEvent}
    (hok : AllRun call settled (.new worldId regionId now window dispatcher) calls = true)
    (h : (Simulation.new worldId regionId now window dispatcher).run calls = some (t, log)) :
    t.Owned := by
  have hnew : (Simulation.new worldId regionId now window dispatcher).Keyed ∧
      (Simulation.new worldId regionId now window dispatcher).Owned := by
    constructor
    · intro id train htrain
      simp [Simulation.new] at htrain
    · intro resource owner howner
      simp [Simulation.new] at howner
  have hlast : t.Keyed ∧ t.Owned :=
    AllRun.invariant (fun u (_ : List DomainEvent) => u.Keyed ∧ u.Owned)
      (fun u c v _ _ hu hc hcall => ⟨call_keyed hu.1 hcall, call_owned hu.1 hu.2 hc hcall⟩)
      [] hnew hok h
  exact hlast.2

end Processing

end Simulation

/-! ### A train that ends behind its first stop -/

namespace TwoStops

/-- The content of a handover of a train that has left its first stop, with a resource. -/
def underWay (id : TrainRunId) : HandoverEnvelope where
  worldId := 42
  sourceRegion := 6
  targetRegion := 7
  token := 1
  train := { train id with nextWaypoint := 1, status := .running }
  resources := ["Gleis 1"]

/-- The train completes its journey and keeps the resource. -/
theorem completed_keeps_resource : ¬ ∀ (calls : List Call)
    (t : Simulation ConservativeDispatcher) (log : List DomainEvent),
    (region 7 ConservativeDispatcher.conservative).run calls = some (t, log) →
      ∀ (resource : String) (owner : TrainRunId), t.resourceOwners[resource]? = some owner →
        ∃ train, t.trains[owner]? = some train ∧ train.status.over = false := by
  intro hclaim
  have hrun : ((region 7 ConservativeDispatcher.conservative).run
      [.acceptHandover (underWay 1), .command (.advanceTo 4000)]).any (fun result =>
        result.1.resourceOwners["Gleis 1"]? == some 1 &&
          (result.1.trains[(1 : TrainRunId)]?).any fun train => train.status.over) = true := by
    decide +kernel
  obtain ⟨⟨t, log⟩, hresult, hkept⟩ := (Option.any_eq_true _ _).mp hrun
  rw [Bool.and_eq_true, beq_iff_eq] at hkept
  obtain ⟨ended, hended, hover⟩ := (Option.any_eq_true _ _).mp hkept.2
  obtain ⟨held, hheld, hrunning⟩ := hclaim _ _ _ hresult _ _ hkept.1
  obtain rfl := Option.some.inj (hended.symm.trans hheld)
  rw [hrunning] at hover
  cases hover

/-- The content of a handover of a train before its first stop, with a resource. -/
def beforeStart (id : TrainRunId) : HandoverEnvelope :=
  { underWay id with train := train id }

/-- A train that leaves its first stop passes its resource on to the next one. -/
theorem run_owned_passed_on : ∃ (t : Simulation ConservativeDispatcher) (log : List DomainEvent),
    (region 7 ConservativeDispatcher.conservative).run [.acceptHandover (beforeStart 1),
      .command (.advanceTo 3000), .acceptHandover { underWay 2 with token := 2 }]
        = some (t, log) ∧ t.resourceOwners["Gleis 1"]? = some 2 ∧ t.Owned := by
  have hrun : ((region 7 ConservativeDispatcher.conservative).run
      [.acceptHandover (beforeStart 1), .command (.advanceTo 3000),
        .acceptHandover { underWay 2 with token := 2 }]).any (fun result =>
          result.1.resourceOwners["Gleis 1"]? == some 2) = true := by
    decide +kernel
  have hok : AllRun Simulation.call Simulation.settled
      (region 7 ConservativeDispatcher.conservative) [.acceptHandover (beforeStart 1),
        .command (.advanceTo 3000), .acceptHandover { underWay 2 with token := 2 }] = true := by
    decide +kernel
  obtain ⟨⟨t, log⟩, hresult, howner⟩ := (Option.any_eq_true _ _).mp hrun
  exact ⟨t, log, hresult, beq_iff_eq.mp howner, Simulation.run_owned hok hresult⟩

end TwoStops

end Zugfolge.Sim
