/-
Commands do not look at the owners of resources.

A region notes who owns a resource when it takes a train over, and frees it when the train
leaves; only a further handover asks for it.

* `Simulation.apply_forget`: forgetting them before a command or behind it is the same;
* `Simulation.answers`, `Simulation.answers_forget`: the owners do not show in the answers.
-/
import Zugfolge.Sim.Calls

namespace Zugfolge.Sim

open Foundation
open Std (ExtTreeMap ExtTreeSet)

namespace Simulation

variable {δ α β : Type} {s : Simulation δ}

/-- The region without the owners of its resources. -/
def forget (s : Simulation δ) : Simulation δ := { s with resourceOwners := ∅ }

/-- An answer and the state behind it, without the owners of resources. -/
def forgetBehind (reply : α × Simulation δ) : α × Simulation δ := (reply.1, reply.2.forget)

/-- A state and what was put out, without the owners of resources. -/
def forgetBefore (result : Simulation δ × α) : Simulation δ × α := (result.1.forget, result.2)

/-! ### Writes -/

lemma forget_releaseResources (s : Simulation δ) (id : TrainRunId) :
    s.forget.releaseResources id = (s.releaseResources id).forget := by
  have hnone : (∅ : Registry String TrainRunId).filter (fun _ owner => owner != id) = ∅ := by
    refine ExtTreeMap.ext_getElem? fun k => ?_
    rw [Registry.getElem?_filter]
    simp
  rw [releaseResources, forget, hnone]
  rfl

lemma forget_events (s : Simulation δ) (kinds : Output) :
    s.forget.events kinds = (s.events kinds).map forgetBehind := by
  rw [events, events, apply_ite (Option.map forgetBehind)]
  rfl

lemma forget_andThen (reply : Reply δ α) {next : α → Simulation δ → Reply δ β}
    (hnext : ∀ a s, next a s.forget = (next a s).map forgetBehind) :
    Reply.andThen (reply.map forgetBehind) next = (Reply.andThen reply next).map forgetBehind := by
  cases reply with
  | none => rfl
  | some reply =>
    obtain ⟨answer, s⟩ := reply
    cases answer with
    | error error => rfl
    | ok a => exact hnext a s

/-! ### Arrivals and departures -/

lemma forget_scheduleDeparture (s : Simulation δ) (id : TrainRunId) (waypoint : ℕ)
    (requested : SimTime) : s.forget.scheduleDeparture id waypoint requested
      = (s.scheduleDeparture id waypoint requested).map forget := by
  have htrains : s.forget.trains[id]? = s.trains[id]? := rfl
  rw [scheduleDeparture, scheduleDeparture, htrains]
  cases s.trains[id]? with
  | none => rfl
  | some train =>
    simp only [Option.bind_some, Option.map_map]
    congr 1
    funext point
    have hwaits : ∀ time : SimTime,
        (if s.forget.now < time then s.forget.setStatus id .waiting else s.forget)
          = (if s.now < time then s.setStatus id .waiting else s).forget :=
      fun time => (apply_ite forget (s.now < time) (s.setStatus id .waiting) s).symm
    simp only [Function.comp_apply, hwaits]
    rfl

lemma forget_afterArrival (s : Simulation δ) (event : ScheduledEvent)
    (decision : DispatchDecision) :
    s.forget.afterArrival event decision = (s.afterArrival event decision).map forget := by
  cases decision with
  | cancel | triggerRailReplacement | shortTurn | skipStop => rfl
  | proceed | breakConnection | shortenTrain | strengthenTrain | activateReserveRotation
  | provideReplacementVehicle | requestReroute | returnPath | holdUntil limit =>
    exact forget_scheduleDeparture s _ _ _

lemma forget_leave (s : Simulation δ) (event : ScheduledEvent) (train : TrainRun)
    (waypoint : Waypoint) :
    s.forget.leave event train waypoint = (s.leave event train waypoint).map forgetBefore := by
  have hfreed : (if event.waypoint = 0 then s.forget.releaseResources train.id else s.forget)
      = (if event.waypoint = 0 then s.releaseResources train.id else s).forget := by
    split
    · exact forget_releaseResources s train.id
    · rfl
  rw [leave, leave]
  simp only [hfreed]
  split
  · rfl
  · rw [Option.map_map]
    rfl

section Processing

variable [Dispatcher δ]

lemma forget_askDispatcher (s : Simulation δ) (train : TrainRun) (time : SimTime)
    (trigger : DispatchTrigger) (facts : DispatchFacts) :
    s.forget.askDispatcher train time trigger facts
      = (s.askDispatcher train time trigger facts).map forgetBehind := by
  rw [askDispatcher, askDispatcher, Option.map_map]
  rfl

lemma forget_arrive (s : Simulation δ) (event : ScheduledEvent) (train : TrainRun)
    (waypoint : Waypoint) :
    s.forget.arrive event train waypoint = (s.arrive event train waypoint).map forgetBefore := by
  set stood := standing train waypoint (s.delayAt event train waypoint) with hstood
  have hasked := forget_askDispatcher (s.putTrain event.trainRunId stood) stood event.time
    .arrival (.neutral 0 event.time)
  have hleft : s.forget.arrive event train waypoint
      = (((s.putTrain event.trainRunId stood).forget.askDispatcher stood event.time .arrival
          (.neutral 0 event.time)).bind fun result =>
        (result.2.afterArrival event result.1).map fun t =>
          (t, [(event.time, EventKind.arrived train.id waypoint.operatingPoint)])) := rfl
  rw [hleft, hasked, arrive, ← hstood]
  cases (s.putTrain event.trainRunId stood).askDispatcher stood event.time .arrival
    (.neutral 0 event.time) with
  | none => rfl
  | some result =>
    simp only [Option.map_some, Option.bind_some, forgetBehind, forget_afterArrival,
      Option.map_map]
    rfl

lemma forget_depart (s : Simulation δ) (event : ScheduledEvent) (train : TrainRun)
    (waypoint : Waypoint) :
    s.forget.depart event train waypoint = (s.depart event train waypoint).map forgetBefore := by
  rw [depart, depart, forget_askDispatcher]
  cases s.askDispatcher train event.time .departure (.neutral 0 event.time) with
  | none => rfl
  | some result =>
    obtain ⟨decision, t⟩ := result
    simp only [Option.map_some, Option.bind_some, forgetBehind]
    cases decision with
    | cancel | triggerRailReplacement | shortTurn => rfl
    | holdUntil limit =>
      simp only
      split
      · rfl
      · exact forget_leave t event train waypoint
    | proceed | breakConnection | skipStop | shortenTrain | strengthenTrain
    | activateReserveRotation | provideReplacementVehicle | requestReroute | returnPath =>
      exact forget_leave t event train waypoint

lemma forget_tick (s : Simulation δ) (event : ScheduledEvent) :
    s.forget.tick event = (s.tick event).map forgetBefore := by
  have htaken : s.forget.takeOut event = (s.takeOut event).forget := rfl
  rw [tick, tick, htaken, processScheduled, processScheduled]
  have htrains : (s.takeOut event).forget.trains = (s.takeOut event).trains := rfl
  rw [htrains]
  cases (s.takeOut event).trains[event.trainRunId]? with
  | none => rfl
  | some train =>
    simp only
    split
    · rfl
    · cases train.route[event.waypoint]? with
      | none => rfl
      | some waypoint =>
        simp only [Option.bind_some]
        cases event.kind with
        | arrive => exact forget_arrive (s.takeOut event) event train waypoint
        | depart => exact forget_depart (s.takeOut event) event train waypoint

omit [Dispatcher δ] in
lemma forget_placeTrains (s : Simulation δ) (time : SimTime) :
    s.forget.placeTrains time = (s.placeTrains time).map forget := by
  have htrains : s.forget.trains = s.trains := rfl
  rw [placeTrains, placeTrains, htrains]
  split
  · rfl
  · rfl

lemma forget_advance (s : Simulation δ) (target : SimTime) :
    s.forget.advance target = (s.advance target).map forgetBefore := by
  have hdrain : drain (due target) tick (s.drainBound target + 1) s.forget
      = (drain (due target) tick (s.drainBound target + 1) s).map forgetBefore :=
    drain_map forget (fun _ => rfl) (fun s event => forget_tick s event) _ s
  have hbound : s.forget.drainBound target = s.drainBound target := rfl
  rw [advance, advance, hbound, hdrain]
  cases drain (due target) tick (s.drainBound target + 1) s with
  | none => rfl
  | some result =>
    simp only [Option.map_some, Option.bind_some, forgetBefore, forget_placeTrains,
      Option.map_map]
    rfl

end Processing

/-! ### Commands -/

lemma forget_materialize (s : Simulation δ) (train : TrainRun) :
    s.forget.materialize train = (s.materialize train).map forgetBehind := by
  have hcheck : s.forget.checkTrain train = s.checkTrain train := rfl
  have htrains : s.forget.trains = s.trains := rfl
  rw [materialize, materialize, hcheck, htrains]
  cases s.checkTrain train with
  | none => rfl
  | some checked =>
    cases checked with
    | error error => rfl
    | ok first =>
      simp only
      split
      · rfl
      · exact forget_events ((s.putTrain train.id train).enqueue _) _

lemma forget_rescheduleTrain (s : Simulation δ) (id : TrainRunId) :
    s.forget.rescheduleTrain id = (s.rescheduleTrain id).map forgetBehind := by
  have htrains : s.forget.trains = s.trains := rfl
  rw [rescheduleTrain, rescheduleTrain, htrains]
  cases s.trains[id]? with
  | none => rfl
  | some train =>
    simp only
    cases train.status with
    | planned | running | atPlatform | waiting =>
      simp only [Option.map_map]
      rfl
    | completed | cancelled => rfl

lemma forget_delayTrain (s : Simulation δ) (id : TrainRunId) (seconds : ℕ) :
    s.forget.delayTrain id seconds = (s.delayTrain id seconds).map forgetBehind := by
  have htrains : s.forget.trains = s.trains := rfl
  rw [delayTrain, delayTrain, htrains]
  cases s.trains[id]? with
  | none => rfl
  | some train =>
    simp only
    have hrescheduled := forget_rescheduleTrain
      (s.putTrain id { train with delaySeconds := addSat64 train.delaySeconds seconds }) id
    exact (congrArg (fun reply => Reply.andThen reply _) hrescheduled).trans
      (forget_andThen _ fun _ _ => rfl)

lemma forget_delayTrains (s : Simulation δ) (seconds : ℕ) (ids : List TrainRunId) :
    s.forget.delayTrains seconds ids = (s.delayTrains seconds ids).map forgetBehind := by
  induction ids generalizing s with
  | nil => rfl
  | cons id ids ih =>
    rw [delayTrains, delayTrains, forget_delayTrain]
    refine forget_andThen _ fun kind t => ?_
    rw [ih]
    exact forget_andThen _ fun _ _ => rfl

lemma forget_applyDisruption (s : Simulation δ) (application : DisruptionApplication) :
    s.forget.applyDisruption application
      = (s.applyDisruption application).map forgetBehind := by
  have htrains : s.forget.trains = s.trains := rfl
  rw [applyDisruption, applyDisruption, htrains]
  simp only [forget_delayTrains]
  split
  · rfl
  · split
    · rfl
    · exact forget_andThen _ fun _ _ => forget_events _ _

lemma forget_confirmHandover (s : Simulation δ) (token : UInt64) (targetRegion : RegionId) :
    s.forget.confirmHandover token targetRegion
      = (s.confirmHandover token targetRegion).map forgetBehind := by
  have hpending : s.forget.pendingHandovers = s.pendingHandovers := rfl
  rw [confirmHandover, confirmHandover, hpending]
  cases s.pendingHandovers[token]? with
  | none => rfl
  | some pending =>
    simp only
    split
    · rfl
    · exact forget_events { s with
        pendingHandovers := s.pendingHandovers.erase token
        trains := s.trains.erase pending.trainRunId } _

lemma forget_applyExternalDispatch (s : Simulation δ) (id : TrainRunId) (time : SimTime)
    (decision : DispatchDecision) :
    s.forget.applyExternalDispatch id time decision
      = (s.applyExternalDispatch id time decision).map forgetBehind := by
  have htrains : s.forget.trains = s.trains := rfl
  rw [applyExternalDispatch, applyExternalDispatch, htrains]
  cases s.trains[id]? with
  | none => rfl
  | some train =>
    simp only
    cases decision with
    | cancel | triggerRailReplacement | shortTurn | proceed | breakConnection | shortenTrain
    | strengthenTrain | activateReserveRotation | provideReplacementVehicle | requestReroute
    | returnPath => rfl
    | holdUntil limit =>
      simp only
      split
      · split
        · rfl
        · rfl
      · rfl
    | skipStop =>
      simp only
      split
      · rw [Option.map_map]
        rfl
      · rfl

section Commands

variable [Dispatcher δ]

lemma forget_advanceTo (s : Simulation δ) (target : SimTime) :
    s.forget.advanceTo target = (s.advanceTo target).map forgetBehind := by
  have hnow : s.forget.now = s.now := rfl
  rw [advanceTo, advanceTo, hnow, forget_advance]
  split
  · rfl
  · cases s.advance target with
    | none => rfl
    | some result => exact forget_events result.1 result.2

lemma forget_dispatch (s : Simulation δ) (id : TrainRunId) (time : SimTime)
    (trigger : DispatchTrigger) (facts : DispatchFacts) :
    s.forget.dispatch id time trigger facts
      = (s.dispatch id time trigger facts).map forgetBehind := by
  have hnow : s.forget.now = s.now := rfl
  rw [dispatch, dispatch, hnow, forget_advance]
  split
  · rfl
  · cases s.advance time with
    | none => rfl
    | some result =>
      obtain ⟨t, out⟩ := result
      simp only [Option.map_some, Option.bind_some, forgetBefore]
      have htrains : t.forget.trains = t.trains := rfl
      rw [htrains]
      cases t.trains[id]? with
      | none => rfl
      | some train =>
        simp only [forget_askDispatcher]
        cases t.askDispatcher train time trigger facts with
        | none => rfl
        | some decided =>
          simp only [Option.map_some, Option.bind_some, forgetBehind,
            forget_applyExternalDispatch]
          exact forget_andThen _ fun _ u => forget_events u _

/-- A command does the same without the owners of resources. -/
theorem apply_forget (s : Simulation δ) (command : Command) :
    s.forget.apply command = (s.apply command).map forgetBehind := by
  cases command with
  | materialize train => exact forget_materialize s train
  | advanceTo target => exact forget_advanceTo s target
  | addDelay id seconds =>
    rw [apply, apply, forget_delayTrain]
    exact forget_andThen _ fun _ t => forget_events t _
  | applyDisruption application => exact forget_applyDisruption s application
  | confirmHandover token targetRegion => exact forget_confirmHandover s token targetRegion
  | dispatch id time trigger facts => exact forget_dispatch s id time trigger facts

/-- The answers to commands, one after another, as long as they return. -/
def answers (s : Simulation δ) :
    List Command → List (Option (Except SimError (List DomainEvent)))
  | [] => []
  | command :: commands =>
    match s.apply command with
    | none => [none]
    | some (answer, t) => some answer :: t.answers commands

/-- The answers are the same without the owners of resources. -/
theorem answers_forget (s : Simulation δ) (commands : List Command) :
    s.forget.answers commands = s.answers commands := by
  induction commands generalizing s with
  | nil => rfl
  | cons command commands ih =>
    rw [answers, answers, apply_forget]
    cases s.apply command with
    | none => rfl
    | some reply =>
      simp only [Option.map_some, forgetBehind, ih]

end Commands

end Simulation

end Zugfolge.Sim
