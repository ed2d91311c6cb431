/-
What the handling of a queued event does to a region.

An event is stale, or it belongs to a train that is on its way to, or stands at, the waypoint
of the event.  Then the train arrives, is held, ends its run or leaves.
-/
import Zugfolge.Sim.Apply

namespace Zugfolge.Sim

open Foundation
open Std (ExtTreeMap ExtTreeSet)

namespace DispatchDecision

/-- The status in which a decision ends a run. -/
def ends : DispatchDecision → Option OperatingStatus
  | .cancel | .triggerRailReplacement => some .cancelled
  | .shortTurn => some .completed
  | _ => none

/-- A train that is to depart leaves under the decision. -/
def letsGo (decision : DispatchDecision) (time : SimTime) : Bool :=
  match decision with
  | .cancel | .triggerRailReplacement | .shortTurn => false
  | .holdUntil limit => decide (limit ≤ time)
  | _ => true

lemma over_of_ends {decision : DispatchDecision} {status : OperatingStatus}
    (h : decision.ends = some status) : status.over = true := by
  cases decision <;> cases h <;> rfl

end DispatchDecision

namespace Simulation

variable {δ : Type} {s t : Simulation δ} {event : ScheduledEvent} {train : TrainRun}
  {waypoint : Waypoint} {out : Output}

/-! ### Writes -/

lemma setStatus_eq {id : TrainRunId} {status : OperatingStatus} (h : s.trains[id]? = some train) :
    s.setStatus id status = s.putTrain id { train with status := status } := by
  have htrains : (s.trains.modify id fun train => { train with status := status })
      = s.trains.insert id { train with status := status } := by
    refine ExtTreeMap.ext_getElem? fun j => ?_
    rw [Registry.getElem?_modify, Registry.getElem?_insert, h, Option.map_some]
  rw [setStatus, putTrain, htrains]

lemma getElem?_putTrain (s : Simulation δ) (id : TrainRunId) (train : TrainRun) :
    (s.putTrain id train).trains[id]? = some train := ExtTreeMap.getElem?_insert_self

lemma putTrain_putTrain {id : TrainRunId} {first second : TrainRun} :
    (s.putTrain id first).putTrain id second = s.putTrain id second := by
  have htrains : (s.trains.insert id first).insert id second = s.trains.insert id second := by
    refine ExtTreeMap.ext_getElem? fun j => ?_
    simp only [Registry.getElem?_insert]
    split
    · rfl
    · rfl
  simp only [putTrain, htrains]

lemma putTrain_self {id : TrainRunId} (h : s.trains[id]? = some train) :
    s.putTrain id train = s := by
  have htrains : s.trains.insert id train = s.trains := by
    refine ExtTreeMap.ext_getElem? fun j => ?_
    rw [Registry.getElem?_insert]
    split
    next heq => rw [heq, h]
    · rfl
  rw [putTrain, htrains]

/-! ### Effects of an event -/

/-- The event concerns a train that is on its way to its waypoint or stands there. -/
structure Live (s : Simulation δ) (event : ScheduledEvent) (train : TrainRun)
    (waypoint : Waypoint) : Prop where
  held : s.trains[event.trainRunId]? = some train
  running : train.status.over = false
  here : train.nextWaypoint = event.waypoint
  point : train.route[event.waypoint]? = some waypoint

section Processing

variable [Dispatcher δ]

/-- The decision about a train that is to arrive. -/
def arrivalDecision (s : Simulation δ) (event : ScheduledEvent) (train : TrainRun)
    (waypoint : Waypoint) : Option DispatchDecision :=
  (Dispatcher.decide s.dispatcher (standing train waypoint (s.delayAt event train waypoint))
    event.time .arrival (.neutral 0 event.time)).map Prod.fst

/-- The decision about a train that is to depart. -/
def departureDecision (s : Simulation δ) (event : ScheduledEvent) (train : TrainRun) :
    Option DispatchDecision :=
  (Dispatcher.decide s.dispatcher train event.time .departure (.neutral 0 event.time)).map
    Prod.fst

/-- What an event does with the train that it concerns. -/
inductive Moved (s : Simulation δ) (event : ScheduledEvent) (train : TrainRun)
    (waypoint : Waypoint) : Simulation δ → Output → Prop where
  | endsArriving {dispatcher : δ} {decision : DispatchDecision} {status : OperatingStatus}
      (kind : event.kind = .arrive)
      (decided : s.arrivalDecision event train waypoint = some decision)
      (ended : decision.ends = some status) :
      Moved s event train waypoint
        { s with
          trains := s.trains.insert event.trainRunId
            { standing train waypoint (s.delayAt event train waypoint) with status := status }
          dispatcher := dispatcher }
        [(event.time, .arrived train.id waypoint.operatingPoint)]
  | stands {dispatcher : δ} {decision : DispatchDecision} {status : OperatingStatus}
      {time : SimTime} (kind : event.kind = .arrive)
      (decided : s.arrivalDecision event train waypoint = some decision)
      (ended : decision.ends = none) (stood : status = .atPlatform ∨ status = .waiting)
      (later : event.time ≤ time) :
      Moved s event train waypoint
        { s with
          trains := s.trains.insert event.trainRunId
            { standing train waypoint (s.delayAt event train waypoint) with status := status }
          schedule := s.schedule.insert ⟨time, event.trainRunId, event.waypoint, .depart⟩
          dispatcher := dispatcher }
        [(event.time, .arrived train.id waypoint.operatingPoint)]
  | endsDeparting {dispatcher : δ} {decision : DispatchDecision} {status : OperatingStatus}
      (kind : event.kind = .depart)
      (decided : s.departureDecision event train = some decision)
      (ended : decision.ends = some status) :
      Moved s event train waypoint
        { s with
          trains := s.trains.insert event.trainRunId { train with status := status }
          dispatcher := dispatcher } []
  | holds {dispatcher : δ} {limit : SimTime} (kind : event.kind = .depart)
      (later : event.time < limit) :
      Moved s event train waypoint
        { s with
          schedule := s.schedule.insert ⟨limit, event.trainRunId, event.waypoint, .depart⟩
          dispatcher := dispatcher } []
  | finishes {dispatcher : δ} {decision : DispatchDecision} (kind : event.kind = .depart)
      (decided : s.departureDecision event train = some decision)
      (goes : decision.letsGo event.time = true)
      (last : event.waypoint + 1 = train.route.length) :
      Moved s event train waypoint
        { s with
          trains := s.trains.insert event.trainRunId { train with status := .completed }
          resourceOwners := if event.waypoint = 0 then
            s.resourceOwners.filter fun _ owner => owner != train.id else s.resourceOwners
          dispatcher := dispatcher }
        [(event.time, .departed train.id waypoint.operatingPoint),
          (event.time, .completed train.id)]
  | leaves {dispatcher : δ} {decision : DispatchDecision} {next : Waypoint}
      (kind : event.kind = .depart)
      (decided : s.departureDecision event train = some decision)
      (goes : decision.letsGo event.time = true)
      (following : train.route[event.waypoint + 1]? = some next) :
      Moved s event train waypoint
        { s with
          trains := s.trains.insert event.trainRunId
            { train with nextWaypoint := event.waypoint + 1, status := .running }
          schedule := s.schedule.insert
            ⟨addSat64 next.arrival train.delaySeconds, train.id, event.waypoint + 1, .arrive⟩
          resourceOwners := if event.waypoint = 0 then
            s.resourceOwners.filter fun _ owner => owner != train.id else s.resourceOwners
          dispatcher := dispatcher }
        [(event.time, .departed train.id waypoint.operatingPoint)]

/-- What an event does: nothing if it is stale, else something with its train. -/
inductive Handled (s : Simulation δ) (event : ScheduledEvent) : Simulation δ → Output → Prop where
  | stale (old : ∀ train, s.trains[event.trainRunId]? = some train →
      train.status.over = true ∨ train.nextWaypoint ≠ event.waypoint) : Handled s event s []
  | live {train : TrainRun} {waypoint : Waypoint} {t : Simulation δ} {out : Output}
      (concerned : s.Live event train waypoint) (moved : Moved s event train waypoint t out) :
      Handled s event t out

/-! ### Every event has one of the effects -/

lemma askDispatcher_eq_some {time : SimTime} {trigger : DispatchTrigger} {facts : DispatchFacts}
    {result : DispatchDecision × Simulation δ}
    (h : s.askDispatcher train time trigger facts = some result) :
    ∃ dispatcher, Dispatcher.decide s.dispatcher train time trigger facts
      = some (result.1, dispatcher) ∧ result.2 = { s with dispatcher := dispatcher } := by
  obtain ⟨decided, hdecided, rfl⟩ := Option.map_eq_some_iff.mp h
  exact ⟨decided.2, hdecided, rfl⟩

omit [Dispatcher δ] in
/-- A departure is scheduled no earlier than it is requested and planned. -/
lemma scheduleDeparture_spec {id : TrainRunId} {index : ℕ} {requested : SimTime}
    (hstands : train.status = .atPlatform) (htrain : s.trains[id]? = some train)
    (h : s.scheduleDeparture id index requested = some t) :
    ∃ status time, (status = .atPlatform ∨ status = .waiting) ∧ (requested ≤ time ∧
        ∀ point, train.route[index]? = some point →
          max (addSat64 point.arrival point.minimumDwellSeconds)
            (addSat64 point.departure (max train.delaySeconds 0)) ≤ time) ∧
      t = { s with
        trains := s.trains.insert id { train with status := status }
        schedule := s.schedule.insert ⟨time, id, index, .depart⟩ } := by
  rw [scheduleDeparture, htrain, Option.bind_some] at h
  obtain ⟨point, hpoint, rfl⟩ := Option.map_eq_some_iff.mp h
  dsimp only
  rw [max_assoc, hpoint]
  have hlater := le_max_left requested (max (addSat64 point.arrival point.minimumDwellSeconds)
    (addSat64 point.departure (max train.delaySeconds 0)))
  have hplanned := le_max_right requested (max (addSat64 point.arrival point.minimumDwellSeconds)
    (addSat64 point.departure (max train.delaySeconds 0)))
  generalize max requested _ = time at hlater hplanned ⊢
  have hbounds : requested ≤ time ∧ ∀ other, some point = some other →
      max (addSat64 other.arrival other.minimumDwellSeconds)
        (addSat64 other.departure (max train.delaySeconds 0)) ≤ time := by
    refine ⟨hlater, fun other hother => ?_⟩
    cases hother
    exact hplanned
  split
  · refine ⟨.waiting, time, .inr rfl, hbounds, ?_⟩
    rw [setStatus_eq htrain]
    rfl
  · refine ⟨.atPlatform, time, .inl rfl, hbounds, ?_⟩
    have hsame : { train with status := .atPlatform } = train := by
      rw [← hstands]
    rw [hsame]
    exact congrArg (fun u : Simulation δ => u.enqueue ⟨time, id, index, .depart⟩)
      (putTrain_self htrain).symm

/-- What an arrival does. -/
lemma moved_of_arrive (hkind : event.kind = .arrive)
    (h : s.arrive event train waypoint = some (t, out)) : Moved s event train waypoint t out := by
  obtain ⟨result, hresult, h⟩ := Option.bind_eq_some_iff.mp h
  obtain ⟨u, hafter, heq⟩ := Option.map_eq_some_iff.mp h
  obtain ⟨rfl, rfl⟩ := Prod.mk.inj heq
  obtain ⟨dispatcher, hdecide, hstate⟩ := askDispatcher_eq_some hresult
  have hdecided : s.arrivalDecision event train waypoint = some result.1 := by
    rw [arrivalDecision]
    exact congrArg (Option.map Prod.fst) hdecide
  have htrain : result.2.trains[event.trainRunId]?
      = some (standing train waypoint (s.delayAt event train waypoint)) := by
    rw [hstate]
    simp [putTrain]
  have hstatus : ∀ status, result.2.setStatus event.trainRunId status
      = { s with
        trains := s.trains.insert event.trainRunId
          { standing train waypoint (s.delayAt event train waypoint) with status := status }
        dispatcher := dispatcher } := by
    intro status
    have hput : ∀ first second : TrainRun,
        ({ s.putTrain event.trainRunId first with dispatcher := dispatcher } :
          Simulation δ).putTrain event.trainRunId second
        = { s.putTrain event.trainRunId second with dispatcher := dispatcher } := by
      intro first second
      exact congrArg (fun u : Simulation δ => { u with dispatcher := dispatcher }) putTrain_putTrain
    rw [setStatus_eq htrain, hstate, hput]
    rfl
  have hstands : ∀ requested, event.time ≤ requested → result.1.ends = none →
      result.2.scheduleDeparture event.trainRunId event.waypoint requested = some u →
      Moved s event train waypoint u
        [(event.time, .arrived train.id waypoint.operatingPoint)] := by
    intro requested hrequested hends hscheduled
    obtain ⟨status, time, hstood, ⟨hlater, -⟩, rfl⟩ :=
      scheduleDeparture_spec rfl htrain hscheduled
    have htrains : result.2.trains.insert event.trainRunId
        { standing train waypoint (s.delayAt event train waypoint) with status := status }
        = s.trains.insert event.trainRunId
          { standing train waypoint (s.delayAt event train waypoint) with status := status } := by
      have hwrites := hstatus status
      rw [setStatus_eq htrain] at hwrites
      exact congrArg Simulation.trains hwrites
    rw [htrains, hstate]
    exact .stands hkind hdecided hends hstood (hrequested.trans hlater)
  have hskip : result.1.ends = none →
      some (result.2.enqueue ⟨event.time, event.trainRunId, event.waypoint, .depart⟩) = some u →
      Moved s event train waypoint u
        [(event.time, .arrived train.id waypoint.operatingPoint)] := by
    intro hends hskipped
    cases hskipped
    have hwrites := hstatus .atPlatform
    rw [setStatus_eq htrain] at hwrites
    have hsame : result.2 = _ := (putTrain_self htrain).symm.trans hwrites
    rw [hsame]
    exact .stands hkind hdecided hends (.inl rfl) le_rfl
  cases hd : result.1 <;> simp only [afterArrival, hd] at hafter
  case cancel | triggerRailReplacement | shortTurn =>
    cases hafter
    rw [hstatus]
    exact .endsArriving hkind hdecided (by rw [hd]; rfl)
  case skipStop => exact hskip (by rw [hd]; rfl) hafter
  case holdUntil limit => exact hstands _ (le_max_right _ _) (by rw [hd]; rfl) hafter
  all_goals exact hstands _ le_rfl (by rw [hd]; rfl) hafter

/-- What a departure does. -/
lemma moved_of_depart (hlive : s.Live event train waypoint) (hkind : event.kind = .depart)
    (h : s.depart event train waypoint = some (t, out)) : Moved s event train waypoint t out := by
  obtain ⟨result, hresult, h⟩ := Option.bind_eq_some_iff.mp h
  obtain ⟨dispatcher, hdecide, hstate⟩ := askDispatcher_eq_some hresult
  have hdecided : s.departureDecision event train = some result.1 := by
    rw [departureDecision]
    exact congrArg (Option.map Prod.fst) hdecide
  have htrain : result.2.trains[event.trainRunId]? = some train := by
    rw [hstate]
    exact hlive.held
  have hstatus : ∀ status, result.2.setStatus event.trainRunId status
      = { s with
        trains := s.trains.insert event.trainRunId { train with status := status }
        dispatcher := dispatcher } := by
    intro status
    rw [setStatus_eq htrain, hstate]
    rfl
  have hleave : result.1.letsGo event.time = true →
      result.2.leave event train waypoint = some (t, out) →
      Moved s event train waypoint t out := by
    intro hgoes hleft
    rw [leave] at hleft
    split at hleft
    next hlast =>
      obtain ⟨rfl, rfl⟩ := Prod.mk.inj (Option.some.inj hleft)
      have hfinish := @Moved.finishes δ _ s event train waypoint dispatcher _ hkind hdecided
        hgoes hlast
      convert hfinish using 1
      split
      next hfirst =>
        have hkept : (result.2.releaseResources train.id).trains[event.trainRunId]? = some train :=
          htrain
        rw [setStatus_eq hkept, hstate]
        simp only [putTrain, releaseResources]
      next hnot => rw [hstatus]
    next hnotLast =>
      obtain ⟨next, hnext, heq⟩ := Option.map_eq_some_iff.mp hleft
      obtain ⟨rfl, rfl⟩ := Prod.mk.inj heq
      rw [hlive.here] at hnext
      have hgoesOn := @Moved.leaves δ _ s event train waypoint dispatcher _ _ hkind hdecided
        hgoes hnext
      convert hgoesOn using 1
      rw [hlive.here, hstate]
      split
      · simp only [putTrain, enqueue, releaseResources]
      · simp only [putTrain, enqueue]
  cases hd : result.1 <;> rw [hd] at h <;> simp only at h
  case cancel | triggerRailReplacement | shortTurn =>
    obtain ⟨rfl, rfl⟩ := Prod.mk.inj (Option.some.inj h)
    rw [hstatus]
    exact .endsDeparting hkind hdecided (by rw [hd]; rfl)
  case holdUntil limit =>
    split at h
    next hlater =>
      obtain ⟨rfl, rfl⟩ := Prod.mk.inj (Option.some.inj h)
      rw [hstate, enqueue]
      have hholds := @Moved.holds δ _ s event train waypoint dispatcher _ hkind hlater
      rw [← hkind] at hholds
      exact hholds
    next hnow => exact hleave (by rw [hd]; exact decide_eq_true (not_lt.mp hnow)) h
  all_goals exact hleave (by rw [hd]; rfl) h

/-- An event is stale or does something with its train. -/
lemma handled_of_processScheduled (h : s.processScheduled event = some (t, out)) :
    s.Handled event t out := by
  rw [processScheduled] at h
  cases htrain : s.trains[event.trainRunId]? with
  | none =>
    rw [htrain] at h
    obtain ⟨rfl, rfl⟩ := Prod.mk.inj (Option.some.inj h)
    exact .stale fun train hheld => by rw [htrain] at hheld; cases hheld
  | some train =>
    simp only [htrain] at h
    split at h
    next hold =>
      obtain ⟨rfl, rfl⟩ := Prod.mk.inj (Option.some.inj h)
      refine .stale fun other hheld => ?_
      rw [htrain] at hheld
      cases hheld
      exact hold
    next hlive =>
      rw [not_or, Bool.not_eq_true, not_not] at hlive
      obtain ⟨waypoint, hpoint, h⟩ := Option.bind_eq_some_iff.mp h
      have hconcerned : s.Live event train waypoint := ⟨htrain, hlive.1, hlive.2, hpoint⟩
      cases hkind : event.kind with
      | arrive =>
        rw [hkind] at h
        exact .live hconcerned (moved_of_arrive hkind h)
      | depart =>
        rw [hkind] at h
        exact .live hconcerned (moved_of_depart hconcerned hkind h)

end Processing

/-! ### The event that is due -/

lemma due_eq_some {target : SimTime} (h : s.due target = some event) :
    event ∈ s.schedule ∧ event.time ≤ target ∧ ∀ other ∈ s.schedule, event.time ≤ other.time := by
  obtain ⟨hfirst, htime⟩ := Option.filter_eq_some_iff.mp h
  rw [← ExtTreeSet.min?_eq_head?_toList] at hfirst
  obtain ⟨hin, hleast⟩ := ExtTreeSet.min?_eq_some_iff_mem_and_forall.mp hfirst
  exact ⟨hin, of_decide_eq_true htime,
    fun other hother => ScheduledEvent.time_le_of_order (hleast other hother)⟩

lemma order_of_due {target : SimTime} (h : s.due target = some event) :
    ∀ other ∈ s.schedule, (ScheduledEvent.order event other).isLE = true := by
  obtain ⟨hfirst, -⟩ := Option.filter_eq_some_iff.mp h
  rw [← ExtTreeSet.min?_eq_head?_toList] at hfirst
  exact (ExtTreeSet.min?_eq_some_iff_mem_and_forall.mp hfirst).2

/-- If no event is due, then all events of the queue lie behind the time. -/
lemma due_eq_none {target : SimTime} (h : s.due target = none) :
    ∀ other ∈ s.schedule, target < other.time := by
  intro other hother
  rw [due, ← ExtTreeSet.min?_eq_head?_toList] at h
  cases hmin : s.schedule.min? with
  | none =>
    rw [ExtTreeSet.min?_eq_none_iff] at hmin
    have hempty : other ∈ (∅ : KeySet ScheduledEvent) := by
      rw [← hmin]
      exact hother
    simp at hempty
  | some first =>
    rw [hmin] at h
    have hlate : ¬ first.time ≤ target := by
      intro hle
      rw [Option.filter_some, if_pos (by simpa using hle)] at h
      cases h
    have hleast := (ExtTreeSet.min?_eq_some_iff_mem_and_forall.mp hmin).2 other hother
    exact (not_le.mp hlate).trans_le (ScheduledEvent.time_le_of_order hleast)

end Simulation

end Zugfolge.Sim
