/-
Trains that are held at a stop.

A decision from outside that holds a train enters one more departure into the queue, next to the
one that is there already, and a delay drops both and schedules the departure anew.

* `Simulation.run_held`: a train that is held departs in time.
* `Simulation.run_rests`: a train that arrives stays for its least stop.
-/
import Zugfolge.Rules.Dispatcher
import Zugfolge.Sim.Clock
import Zugfolge.Sim.Journeys

namespace Zugfolge.Sim

open Foundation
open Std (ExtTreeMap ExtTreeSet)

/-- The report says that the train departs. -/
def departs (id : TrainRunId) : EventKind → Bool
  | .departed other _ => other == id
  | _ => false

lemma departs_of_concerns {id : TrainRunId} {kind : EventKind}
    (h : Stage.concerns id kind = false) : departs id kind = false := by
  cases kind <;> first | exact h | rfl

namespace Simulation

variable {δ : Type} {s t u : Simulation δ} {id : TrainRunId} {waypoint : ℕ} {bound : SimTime}
  {train : TrainRun} {out more : Output}

/-- The train, if it is there, stands at the stop, where nothing is scheduled for it before the
bound, or it is over. -/
def Held (s : Simulation δ) (id : TrainRunId) (waypoint : ℕ) (bound : SimTime) : Prop :=
  ∀ train, s.trains[id]? = some train → train.status.over = true ∨
    train.status.waitsFor = some .depart ∧ train.nextWaypoint = waypoint ∧
      ∀ event ∈ s.schedule, event.trainRunId = id → event.waypoint = waypoint →
        bound ≤ event.time

/-- The departure that a delay schedules for a train that stands at the stop. -/
def rescheduled (s : Simulation δ) (id : TrainRunId) (waypoint seconds : ℕ) : Option SimTime :=
  ((s.trains[id]?).filter fun train =>
      train.status.waitsFor == some .depart && train.nextWaypoint == waypoint).bind fun train =>
    (train.route[waypoint]?).map fun point =>
      max (addSat64 point.departure (max (addSat64 train.delaySeconds seconds) 0)) s.now

/-- A train that is held in the first state departs no earlier than it may, and until it does it
is held in the second one. -/
def StaysHeld (id : TrainRunId) (waypoint : ℕ) (bound : SimTime) (s t : Simulation δ)
    (out : Output) : Prop :=
  s.Held id waypoint bound →
    (∀ entry, out.find? (fun entry => departs id entry.2) = some entry → bound ≤ entry.1) ∧
      ((∀ entry ∈ out, departs id entry.2 = false) → t.Held id waypoint bound)

lemma Held.congr (h : s.Held id waypoint bound) (hsame : SameTrain s t id) :
    t.Held id waypoint bound := by
  intro train htrain
  rw [hsame.held] at htrain
  refine (h train htrain).imp_right fun ⟨hstands, hwaypoint, hlater⟩ =>
    ⟨hstands, hwaypoint, fun event hin hid => ?_⟩
  exact hlater event ((hsame.scheduled event hid).mp hin) hid

/-- What is written of the train, with what is scheduled beside its earlier events. -/
lemma Held.write {written : TrainRun} {event : ScheduledEvent} (h : s.Held id waypoint bound)
    (htrain : s.trains[id]? = some train) (hrunning : train.status.over = false)
    (hthere : t.trains[id]? = some written) (hwaypoint : written.nextWaypoint = train.nextWaypoint)
    (hstands : written.status.waitsFor = some .depart)
    (hschedule : ∀ later ∈ t.schedule, later = event ∨ later ∈ s.schedule)
    (hlater : bound ≤ event.time) : t.Held id waypoint bound := by
  intro after hafter
  obtain rfl := Option.some.inj (hthere.symm.trans hafter)
  obtain hover | ⟨-, hhere, hbound⟩ := h train htrain
  · rw [hrunning] at hover
    cases hover
  · refine .inr ⟨hstands, hwaypoint.trans hhere, fun later hin hid hplace => ?_⟩
    rcases hschedule later hin with rfl | hin
    · exact hlater
    · exact hbound later hin hid hplace

lemma Held.of_over {written : TrainRun} (hthere : t.trains[id]? = some written)
    (hover : written.status.over = true) : t.Held id waypoint bound := by
  intro after hafter
  obtain rfl := Option.some.inj (hthere.symm.trans hafter)
  exact .inl hover

namespace StaysHeld

lemma of_quiet (hquiet : ∀ entry ∈ out, departs id entry.2 = false)
    (hkept : s.Held id waypoint bound → t.Held id waypoint bound) :
    StaysHeld id waypoint bound s t out := by
  refine fun hheld => ⟨fun _ hfound => ?_, fun _ => hkept hheld⟩
  have hdeparts := List.find?_some hfound
  rw [hquiet _ (List.mem_of_find?_eq_some hfound)] at hdeparts
  cases hdeparts

lemma trans (hfirst : StaysHeld id waypoint bound s t out)
    (hsecond : StaysHeld id waypoint bound t u more) :
    StaysHeld id waypoint bound s u (out ++ more) := by
  intro hheld
  obtain ⟨hbound, hkept⟩ := hfirst hheld
  rw [List.find?_append]
  cases hfound : out.find? fun entry => departs id entry.2 with
  | some first =>
    refine ⟨fun entry hentry => ?_, fun hquiet => ?_⟩
    · cases hentry
      exact hbound first hfound
    · have hdeparts := List.find?_some hfound
      rw [hquiet first (List.mem_append_left _ (List.mem_of_find?_eq_some hfound))] at hdeparts
      cases hdeparts
  | none =>
    have hquiet : ∀ entry ∈ out, departs id entry.2 = false := by
      simpa using List.find?_eq_none.mp hfound
    obtain ⟨hlater, hlast⟩ := hsecond (hkept hquiet)
    exact ⟨hlater, fun hnone => hlast fun entry hin => hnone entry (List.mem_append_right _ hin)⟩

lemma of_same (hsame : SameTrain s t id) (hunnamed : Unnamed id out) :
    StaysHeld id waypoint bound s t out :=
  of_quiet (fun _ hin => departs_of_concerns (hunnamed _ (List.mem_map_of_mem hin)))
    fun hheld => hheld.congr hsame

end StaysHeld

/-! ### Moving the clock -/

section Processing

variable [Dispatcher δ] {event : ScheduledEvent} {point : Waypoint} {target : SimTime}

omit [Dispatcher δ] in
lemma Held.takeOut (h : s.Held id waypoint bound) (event : ScheduledEvent) :
    (s.takeOut event).Held id waypoint bound := fun train htrain =>
  (h train htrain).imp_right fun ⟨hstands, hwaypoint, hlater⟩ =>
    ⟨hstands, hwaypoint, fun later hin => hlater later (KeySet.mem_erase.mp hin).1⟩

/-- An event of the train itself. -/
lemma Moved.staysHeld (hid : train.id = event.trainRunId) (hlive : s.Live event train point)
    (hbound : s.Held event.trainRunId waypoint bound → bound ≤ event.time)
    (h : Moved s event train point t out) :
    StaysHeld event.trainRunId waypoint bound s t out := by
  have hinsert : ∀ {later : ScheduledEvent}, ∀ other ∈ s.schedule.insert later,
      other = later ∨ other ∈ s.schedule := fun _ hin => KeySet.mem_insert.mp hin
  have hthere : ∀ {written : TrainRun},
      (s.trains.insert event.trainRunId written)[event.trainRunId]? = some written := by
    simp
  cases h with
  | endsArriving _ _ ended =>
    exact .of_quiet (by simp [departs]) fun _ =>
      .of_over hthere (DispatchDecision.over_of_ends ended)
  | stands _ _ _ stood later =>
    refine .of_quiet (by simp [departs]) fun hheld => ?_
    refine hheld.write hlive.held hlive.running hthere rfl ?_ hinsert ((hbound hheld).trans later)
    rcases stood with rfl | rfl <;> rfl
  | endsDeparting _ _ ended =>
    exact .of_quiet (by simp) fun _ => .of_over hthere (DispatchDecision.over_of_ends ended)
  | holds _ later =>
    refine .of_quiet (by simp) fun hheld => ?_
    obtain hover | ⟨hstands, -⟩ := hheld train hlive.held
    · rw [hlive.running] at hover
      cases hover
    · exact hheld.write hlive.held hlive.running hlive.held rfl hstands hinsert
        ((hbound hheld).trans later.le)
  | finishes | leaves =>
    refine fun hheld => ⟨fun entry hentry => ?_, fun hquiet => ?_⟩
    · rw [List.find?_cons_of_pos (by simp [departs, hid])] at hentry
      cases hentry
      exact hbound hheld
    · simp [departs, hid] at hquiet

/-- Handling the event that is due. -/
lemma tick_staysHeld (hkeyed : s.Keyed) (hdue : s.due target = some event)
    (h : s.tick event = some (t, out)) : StaysHeld id waypoint bound s t out := by
  have htake : StaysHeld id waypoint bound s (s.takeOut event) [] :=
    .of_quiet (by simp) fun hheld => hheld.takeOut event
  cases handled_of_processScheduled h with
  | stale => exact htake
  | @live train point _ _ concerned moved =>
    have hid : train.id = event.trainRunId := hkeyed _ _ concerned.held
    by_cases hother : id = event.trainRunId
    · subst hother
      intro hheld
      obtain hover | ⟨-, hhere, hlater⟩ := hheld train concerned.held
      · rw [concerned.running] at hover
        cases hover
      · exact moved.staysHeld hid concerned (fun _ => hlater event (due_eq_some hdue).1 rfl
          (concerned.here.symm.trans hhere)) (hheld.takeOut event)
    · obtain ⟨hsame, hunnamed⟩ := moved.elsewhere hid hother
      exact htake.trans (.of_same hsame hunnamed)

/-- Moving the clock. -/
lemma advance_staysHeld (hkeyed : s.Keyed) (h : s.advance target = some (t, out)) :
    StaysHeld id waypoint bound s t out := by
  obtain ⟨u, hdrain, -, hplaced⟩ := advance_spec h
  have hdrained : u.Keyed ∧ StaysHeld id waypoint bound s u ([] ++ out) :=
    drain_invariant (fun v log => v.Keyed ∧ StaysHeld id waypoint bound s v log)
      (fun v event w log out hv hdue _ htick =>
        ⟨hv.1.framed (tick_framed htick), hv.2.trans (tick_staysHeld hv.1 hdue htick)⟩)
      [] ⟨hkeyed, .of_quiet (by simp) fun hheld => hheld⟩ (AllHandled.trivial _ _) hdrain
  rw [← List.append_nil out]
  refine hdrained.2.trans (.of_quiet (by simp) fun hheld after hafter => ?_)
  obtain ⟨heq, htrains⟩ := placeTrains_spec hplaced
  rcases htrains id with ⟨-, hnone⟩ | ⟨train, placed, htrain, hplaced, hthere⟩
  · rw [hnone] at hafter
    cases hafter
  · obtain rfl := Option.some.inj (hthere.symm.trans hafter)
    obtain ⟨position, speed, rfl⟩ := placed_spec hplaced
    rw [heq]
    exact hheld train htrain

end Processing

/-! ### Delays -/

section Delays

variable {seconds : ℕ} {answer : Except SimError (SimTime × EventKind)}

/-- A train that stands is scheduled to depart anew. -/
lemma delayTrain_stands (htrain : s.trains[id]? = some train)
    (hstands : train.status.waitsFor = some .depart)
    (h : s.delayTrain id seconds = some (answer, t)) :
    ∃ point, train.route[train.nextWaypoint]? = some point ∧
      t = ((s.putTrain id { train with
          delaySeconds := addSat64 train.delaySeconds seconds }).dropEvents id).enqueue
        ⟨max (addSat64 point.departure (max (addSat64 train.delaySeconds seconds) 0)) s.now, id,
          train.nextWaypoint, .depart⟩ := by
  have hthere := s.getElem?_putTrain id
    { train with delaySeconds := addSat64 train.delaySeconds seconds }
  cases hpoint : train.route[train.nextWaypoint]? with
  | none =>
    cases hstatus : train.status <;>
      simp_all [delayTrain, rescheduleTrain, Reply.andThen, OperatingStatus.waitsFor]
  | some point =>
    refine ⟨point, rfl, ?_⟩
    cases hstatus : train.status <;>
      simp_all [delayTrain, rescheduleTrain, Reply.andThen, OperatingStatus.waitsFor] <;>
      exact h.2.symm

lemma rescheduled_eq (htrain : s.trains[id]? = some train) {point : Waypoint}
    (hstands : train.status.waitsFor = some .depart)
    (hpoint : train.route[train.nextWaypoint]? = some point) :
    s.rescheduled id train.nextWaypoint seconds = some
      (max (addSat64 point.departure (max (addSat64 train.delaySeconds seconds) 0)) s.now) := by
  rw [rescheduled, htrain, Option.filter_some, if_pos (by simp [hstands]), Option.bind_some, hpoint,
    Option.map_some]

/-- A delay that schedules the departure no earlier than the bound keeps the train held, and so
does the same delay once more. -/
lemma delayTrain_held (hheld : s.Held id waypoint bound)
    (hlater : ∀ time, s.rescheduled id waypoint seconds = some time → bound ≤ time)
    (h : s.delayTrain id seconds = some (answer, t)) :
    t.Held id waypoint bound ∧
      ∀ time, t.rescheduled id waypoint seconds = some time → bound ≤ time := by
  cases htrain : s.trains[id]? with
  | none =>
    rcases delayTrain_spec h with ⟨-, -, rfl⟩ | ⟨_, hcontains, -⟩
    · exact ⟨hheld, hlater⟩
    · rw [Registry.contains_eq_false.mpr htrain] at hcontains
      cases hcontains
  | some train =>
    rcases hheld train htrain with hover | ⟨hstands, rfl, -⟩
    · obtain ⟨delay, -, htrains, -⟩ := delayTrain_queue htrain h
      have hthere : t.trains[id]? = some { train with delaySeconds := delay } := by
        rw [htrains, Registry.getElem?_insert, if_pos rfl]
      refine ⟨.of_over hthere hover, fun time htime => ?_⟩
      have hends : train.status.waitsFor ≠ some .depart := by
        cases hstatus : train.status <;> simp_all [OperatingStatus.over, OperatingStatus.waitsFor]
      rw [rescheduled, hthere, Option.filter_some, if_neg (by simp [hends])] at htime
      cases htime
    · obtain ⟨point, hpoint, rfl⟩ := delayTrain_stands htrain hstands h
      have hfirst := hlater _ (rescheduled_eq htrain hstands hpoint)
      refine ⟨fun after hafter => ?_, fun time htime => ?_⟩
      · simp only [enqueue, dropEvents, putTrain, Registry.getElem?_insert, if_true] at hafter
        cases hafter
        refine .inr ⟨hstands, rfl, fun event hin hid _ => ?_⟩
        rcases KeySet.mem_insert.mp hin with rfl | hin
        · exact hfirst
        · simp [dropEvents, hid] at hin
      · have hthere := s.getElem?_putTrain id
          { train with delaySeconds := addSat64 train.delaySeconds seconds }
        have htime := (rescheduled_eq hthere hstands hpoint).symm.trans htime
        cases htime
        have hmore := le_clamp64_add (x := train.delaySeconds + seconds)
          (Int.natCast_nonneg seconds)
        refine hfirst.trans (max_le_max (clamp64_mono ?_) le_rfl)
        exact Int.add_le_add_left (max_le_max hmore le_rfl) _

/-- The delays of a list of trains. -/
lemma delayTrains_held {seconds : ℕ} :
    ∀ {ids : List TrainRunId} {s t : Simulation δ} {answer : Except SimError Output},
      s.Held id waypoint bound →
      (id ∈ ids → ∀ time, s.rescheduled id waypoint seconds = some time → bound ≤ time) →
      s.delayTrains seconds ids = some (answer, t) → t.Held id waypoint bound := by
  intro ids
  induction ids with
  | nil =>
    intro s t answer hheld _ h
    cases h
    exact hheld
  | cons other ids ih =>
    intro s t answer hheld hlater h
    have hfirst : ∀ {v : Simulation δ} {done}, s.delayTrain other seconds = some (done, v) →
        v.Held id waypoint bound ∧
          (id ∈ ids → ∀ time, v.rescheduled id waypoint seconds = some time → bound ≤ time) := by
      intro v done hdone
      by_cases hother : other = id
      · subst hother
        have hdelayed := delayTrain_held hheld (hlater List.mem_cons_self) hdone
        exact ⟨hdelayed.1, fun _ => hdelayed.2⟩
      · have hsame := delayTrain_other hother hdone
        refine ⟨hheld.congr hsame, fun hin time htime => ?_⟩
        rw [rescheduled, hsame.held] at htime
        refine hlater (List.mem_cons_of_mem _ hin) time ?_
        rcases delayTrain_spec hdone with ⟨-, -, rfl⟩ | ⟨_, -, -, hafter⟩
        · exact htime
        · rwa [hafter.now] at htime
    rw [delayTrains] at h
    rcases Reply.andThen_eq_some h with ⟨error, hrefused, -⟩ | ⟨kind, v, hdone, h⟩
    · exact (hfirst hrefused).1
    · obtain ⟨hvheld, hvlater⟩ := hfirst hdone
      rcases Reply.andThen_eq_some h with ⟨error, hrefused, -⟩ | ⟨kinds, w, hrest, h⟩
      · exact ih hvheld hvlater hrefused
      · cases h
        exact ih hvheld hvlater hrest

end Delays

/-! ### Calls -/

section Calls

variable [Dispatcher δ]

/-- The calls that leave a train that stands at a stop there until the bound: none takes a train in
with its number or decides about it, and a delay schedules its departure no earlier. -/
def keepsHold (id : TrainRunId) (waypoint : ℕ) (bound : SimTime) (s : Simulation δ) : Call → Bool
  | .command (.materialize train) => train.id != id
  | .acceptHandover envelope =>
    (s.takenOver envelope.train).all fun train => train.id != id
  | .command (.dispatch other time _ _) => other != id &&
      (s.advance time).all fun advanced => advanced.1.trains.contains other
  | c => !c.delays.1.contains id ||
      (s.rescheduled id waypoint c.delays.2).all fun time => decide (bound ≤ time)

omit [Dispatcher δ] in
/-- The events of a train at a stop come no earlier than the bound. -/
def standsAlone (s : Simulation δ) (id : TrainRunId) (waypoint : ℕ) (bound : SimTime) : Bool :=
  s.schedule.toList.all fun event =>
    event.trainRunId != id || event.waypoint != waypoint || decide (bound ≤ event.time)

variable {c : Call}

lemma Offers.ne_of_keepsHold (h : s.Offers c train)
    (hok : keepsHold id waypoint bound s c = true) : train.id ≠ id := by
  rcases h with rfl | ⟨envelope, rfl, -, htaken⟩
  · exact bne_iff_ne.mp hok
  · rw [keepsHold, htaken] at hok
    exact bne_iff_ne.mp hok

lemma later_of_keepsHold (hok : keepsHold id waypoint bound s c = true) (hin : id ∈ c.delays.1)
    {time : SimTime} (htime : s.rescheduled id waypoint c.delays.2 = some time) : bound ≤ time := by
  have hdelayed : (!c.delays.1.contains id ||
      (s.rescheduled id waypoint c.delays.2).all fun time => decide (bound ≤ time)) = true := by
    cases c with
    | command command =>
      cases command with
      | addDelay => exact hok
      | applyDisruption => exact hok
      | _ => cases hin
    | _ => cases hin
  simpa [hin, htime] using hdelayed

lemma call_staysHeld {log : List DomainEvent} (hkeyed : s.Keyed)
    (hok : keepsHold id waypoint bound s c = true) (h : s.call c = some (t, log)) :
    StaysHeld id waypoint bound s t (entries log) := by
  have hmet := met_of_call id h
  generalize entries log = kinds at hmet
  cases hmet with
  | apart same unnamed => exact .of_same same unnamed
  | dropped gone unnamed =>
    refine .of_quiet (fun entry hin => departs_of_concerns
      (unnamed _ (List.mem_map_of_mem hin))) fun _ after hafter => ?_
    rw [gone] at hafter
    cases hafter
  | advanced clock moved same unnamed =>
    exact (advance_staysHeld hkeyed moved).trans (.of_same same unnamed)
  | lost moved unknown =>
    simp [keepsHold, moved, unknown] at hok
  | delayed named done after same unnamed =>
    refine .of_quiet (fun entry hin => departs_of_concerns
      (unnamed _ (List.mem_map_of_mem hin))) fun hheld => ?_
    exact (delayTrains_held hheld (fun hin _ => later_of_keepsHold hok (named id hin)) done).congr
      same
  | directed => simp [keepsHold] at hok
  | written offered _ _ own | taken offered _ _ own =>
    exact absurd own (offered.ne_of_keepsHold hok)

omit [Dispatcher δ] in
/-- A decision to hold a train that stands holds it, where nothing is scheduled for it earlier. -/
lemma Directed.held {time : SimTime} (h : Directed s id train time (.holdUntil bound) t)
    (htrain : s.trains[id]? = some train) (hstands : train.status.waitsFor = some .depart)
    (halone : s.standsAlone id train.nextWaypoint bound = true) :
    t.Held id train.nextWaypoint bound := by
  have hlater : ∀ event ∈ s.schedule, event.trainRunId = id →
      event.waypoint = train.nextWaypoint → bound ≤ event.time := by
    intro event hin hid hplace
    simpa [hid, hplace] using List.all_eq_true.mp halone event (Std.ExtTreeSet.mem_toList.mpr hin)
  have hthere : ∀ {status : OperatingStatus}, (s.trains.insert id
      { train with status := status })[id]? = some { train with status := status } := by
    simp
  cases h with
  | ends ended => cases ended
  | holds held =>
    cases held
    intro after hafter
    obtain rfl := Option.some.inj (hthere.symm.trans hafter)
    refine .inr ⟨rfl, rfl, fun event hin hid hplace => ?_⟩
    rcases KeySet.mem_insert.mp hin with rfl | hin
    · exact le_rfl
    · exact hlater event hin hid hplace
  | waits held =>
    intro after hafter
    obtain rfl := Option.some.inj (hthere.symm.trans hafter)
    exact .inr ⟨rfl, rfl, hlater⟩
  | skips skipped => cases skipped
  | nothing =>
    intro after hafter
    obtain rfl := Option.some.inj (htrain.symm.trans hafter)
    exact .inr ⟨hstands, rfl, hlater⟩

lemma run_staysHeld {rest : List Call} {log : List DomainEvent} (hkeyed : s.Keyed)
    (hkeeps : AllRun call (keepsHold id waypoint bound) s rest = true)
    (h : s.run rest = some (t, log)) : StaysHeld id waypoint bound s t (entries log) := by
  have hrun : t.Keyed ∧ StaysHeld id waypoint bound s t (entries ([] ++ log)) := by
    refine AllRun.invariant (fun z (log : List DomainEvent) => z.Keyed ∧
      StaysHeld id waypoint bound s z (entries log)) (fun z c z' log out hz hc hzcall => ?_)
      [] ⟨hkeyed, .of_quiet (by simp [entries]) fun hheld => hheld⟩ hkeeps h
    rw [entries, List.map_append]
    exact ⟨call_keyed hz.1 hzcall, hz.2.trans (call_staysHeld hz.1 hc hzcall)⟩
  exact hrun.2

/-- **Trains that are held.**  A decision from outside that is accepted holds a train that stands at
a stop until a time; if nothing is scheduled there for the train before that time, and no delay
schedules anything earlier, then the train does not depart before it. -/
theorem run_held {worldId : WorldId} {regionId : RegionId} {now time limit : SimTime}
    {window : MaterializationWindow} {initial dispatcher : δ} {past rest : List Call}
    {v w x : Simulation δ} {trigger : DispatchTrigger} {facts : DispatchFacts} {moved : Output}
    {first log second : List DomainEvent}
    (hpast : (Simulation.new worldId regionId now window initial).run past = some (u, first))
    (hforth : u.now ≤ time) (hmoved : u.advance time = some (x, moved))
    (htrain : x.trains[id]? = some train) (hstands : train.status.waitsFor = some .depart)
    (hdecided : Dispatcher.decide x.dispatcher train time trigger facts
      = some (.holdUntil limit, dispatcher))
    (halone : x.standsAlone id train.nextWaypoint limit = true)
    (hcall : u.call (.command (.dispatch id time trigger facts)) = some (v, log))
    (hkeeps : AllRun call (keepsHold id train.nextWaypoint limit) v rest = true)
    (hrest : v.run rest = some (w, second)) :
    ∀ entry, (entries second).find? (fun entry => departs id entry.2) = some entry →
      limit ≤ entry.1 := by
  have hv : v.Keyed := call_keyed (keyed_of_run hpast) hcall
  have hheld : v.Held id train.nextWaypoint limit := by
    obtain ⟨⟨answer, v⟩, hreply, heq⟩ := Option.map_eq_some_iff.mp hcall
    cases heq
    rcases dispatch_spec hreply with ⟨hback, -⟩ | ⟨y, kinds, -, hadvance, hdone⟩
    · exact absurd hforth (not_le.mpr hback)
    obtain ⟨rfl, rfl⟩ := Prod.mk.inj (Option.some.inj (hmoved.symm.trans hadvance))
    rcases hdone with ⟨hunknown, -⟩ | ⟨held, decision, after, w, hthere, hdecide, hit, -, rfl⟩
    · rw [Registry.contains_eq_false.mp hunknown] at htrain
      cases htrain
    · obtain rfl := Option.some.inj (htrain.symm.trans hthere)
      obtain ⟨rfl, rfl⟩ := Prod.mk.inj (Option.some.inj (hdecided.symm.trans hdecide))
      exact hit.held hthere hstands halone
  exact (run_staysHeld hv hkeeps hrest hheld).1

end Calls

/-! ### The least stop -/

section Stops

variable [Dispatcher δ] {event : ScheduledEvent} {point : Waypoint}

/-- An arrival leaves time for the least stop: no other event of the train at the stop comes before
it is over, and the decision about the train, or else the planned times with what is left of the
delay, let it depart no earlier. -/
def leavesRest (s : Simulation δ) (event : ScheduledEvent) (train : TrainRun) (point : Waypoint) :
    Bool :=
  let bound := event.time + point.minimumDwellSeconds
  let planned := max (addSat64 point.arrival point.minimumDwellSeconds)
    (addSat64 point.departure (max (s.delayAt event train point) 0))
  s.standsAlone event.trainRunId event.waypoint bound &&
    (s.arrivalDecision event train point).all fun decision =>
      decision.ends.isSome || point.minimumDwellSeconds == 0 || match decision with
        | .skipStop => false
        | .holdUntil limit => decide (bound ≤ max limit planned)
        | _ => decide (bound ≤ planned)

/-- A train that arrives with time for the least stop is held until it is over. -/
lemma arrive_held (hlive : s.Live event train point)
    (hrests : s.leavesRest event train point = true)
    (h : s.arrive event train point = some (t, out)) :
    out = [(event.time, .arrived train.id point.operatingPoint)] ∧
      t.Held event.trainRunId event.waypoint (event.time + point.minimumDwellSeconds) := by
  obtain ⟨⟨decision, asked⟩, hresult, h⟩ := Option.bind_eq_some_iff.mp h
  obtain ⟨v, hafter, heq⟩ := Option.map_eq_some_iff.mp h
  obtain ⟨rfl, rfl⟩ := Prod.mk.inj heq
  refine ⟨rfl, ?_⟩
  obtain ⟨dispatcher, hdecide, hstate⟩ := askDispatcher_eq_some hresult
  change asked = _ at hstate
  have hdecided : s.arrivalDecision event train point = some decision :=
    congrArg (Option.map Prod.fst) hdecide
  simp only [leavesRest, hdecided, Option.all_some, Bool.and_eq_true] at hrests
  obtain ⟨halone, hrests⟩ := hrests
  set bound := event.time + (point.minimumDwellSeconds : Int)
  set stood := standing train point (s.delayAt event train point)
  have htrain : asked.trains[event.trainRunId]? = some stood := by
    rw [hstate]
    exact Std.ExtTreeMap.getElem?_insert_self
  have hstands : ∀ {status : OperatingStatus} {time : SimTime} {w : Simulation δ},
      status = .atPlatform ∨ status = .waiting → bound ≤ time →
      w.trains[event.trainRunId]? = some { stood with status := status } →
      w.schedule = asked.schedule.insert ⟨time, event.trainRunId, event.waypoint, .depart⟩ →
      w.Held event.trainRunId event.waypoint bound := by
    intro status time w hstatus hbound hthere hschedule after hafter
    obtain rfl := Option.some.inj (hthere.symm.trans hafter)
    refine .inr ⟨by rcases hstatus with rfl | rfl <;> rfl, hlive.here,
      fun later hin hid hplace => ?_⟩
    rw [hschedule, hstate] at hin
    rcases KeySet.mem_insert.mp hin with rfl | hin
    · exact hbound
    · simpa [hid, hplace] using
        List.all_eq_true.mp halone later (Std.ExtTreeSet.mem_toList.mpr hin)
  have hends : ∀ status : OperatingStatus, status.over = true →
      (asked.setStatus event.trainRunId status).Held event.trainRunId event.waypoint bound := by
    intro status hover
    rw [setStatus_eq htrain]
    exact .of_over Std.ExtTreeMap.getElem?_insert_self hover
  have hscheduled : ∀ requested, point.minimumDwellSeconds = 0 ∧ event.time ≤ requested ∨
      bound ≤ max requested (max (addSat64 point.arrival point.minimumDwellSeconds)
        (addSat64 point.departure (max stood.delaySeconds 0))) →
      asked.scheduleDeparture event.trainRunId event.waypoint requested = some v →
      v.Held event.trainRunId event.waypoint bound := by
    intro requested hbound hdone
    obtain ⟨status, time, hstatus, ⟨hrequested, hplanned⟩, rfl⟩ :=
      scheduleDeparture_spec rfl htrain hdone
    refine hstands hstatus ?_ Std.ExtTreeMap.getElem?_insert_self rfl
    rcases hbound with ⟨hzero, hle⟩ | hbound
    · simpa [bound, hzero] using hle.trans hrequested
    · exact hbound.trans (max_le hrequested (hplanned point hlive.point))
  cases decision <;> simp only [afterArrival, DispatchDecision.ends, Option.isSome_none,
    Bool.false_or, Bool.or_eq_true, beq_iff_eq, Bool.or_false, decide_eq_true_eq] at hafter hrests
  case cancel | triggerRailReplacement | shortTurn =>
    cases hafter
    exact hends _ rfl
  case skipStop =>
    cases hafter
    exact hstands (.inl rfl) (by simp [bound, hrests]) htrain rfl
  case holdUntil limit =>
    refine hscheduled _ (hrests.imp (⟨·, le_max_right _ _⟩) fun hle => hle.trans ?_) hafter
    exact max_le_max_right _ (le_max_left _ _)
  all_goals exact hscheduled _ (hrests.imp (⟨·, le_rfl⟩) (·.trans (le_max_right _ _))) hafter

/-- **Least stops.**  A train that arrives with time for the least stop departs no earlier than when
it is over, if no call that follows takes in the train anew, decides about it or delays it to an
earlier departure.  The clock may have handled other events of its call before the arrival, and it
goes on from there. -/
theorem run_rests {worldId : WorldId} {regionId : RegionId} {now target : SimTime} {handled : ℕ}
    {window : MaterializationWindow} {initial : δ} {past rest : List Call} {v w x : Simulation δ}
    {before : Output} {first second : List DomainEvent}
    (hpast : (Simulation.new worldId regionId now window initial).run past = some (u, first))
    (hbefore : drain (due target) tick handled u = some (x, before))
    (hlive : x.Live event train point) (hkind : event.kind = .arrive)
    (hrests : (x.takeOut event).leavesRest event train point = true)
    (hcall : x.tick event = some (v, out))
    (hkeeps : AllRun call (keepsHold event.trainRunId event.waypoint
      (event.time + point.minimumDwellSeconds)) v rest = true)
    (hrest : v.run rest = some (w, second)) :
    out = [(event.time, .arrived train.id point.operatingPoint)] ∧
      ∀ entry, (entries second).find? (fun entry => departs event.trainRunId entry.2) = some entry →
        event.time + point.minimumDwellSeconds ≤ entry.1 := by
  have hframed : Framed u x :=
    drain_keeps (Framed u) (fun s' event t' out' hs' _ htick => hs'.trans (tick_framed htick))
      (.refl u) hbefore
  have hv : v.Keyed := ((keyed_of_run hpast).framed hframed).framed (tick_framed hcall)
  have harrived : (x.takeOut event).arrive event train point = some (v, out) := by
    have hthere : (x.takeOut event).trains[event.trainRunId]? = some train := hlive.held
    rw [tick, processScheduled, hthere] at hcall
    simpa [hlive.running, hlive.here, hlive.point, hkind] using hcall
  have htaken : (x.takeOut event).Live event train point :=
    ⟨hlive.held, hlive.running, hlive.here, hlive.point⟩
  obtain ⟨hout, hheld⟩ := arrive_held htaken hrests harrived
  exact ⟨hout, (run_staysHeld hv hkeeps hrest hheld).1⟩

end Stops

end Simulation

/-! ### A train that is held in vain -/

namespace TwoStops

open Zugfolge.Rules

/-- A region where operators decide by hand. -/
def byHand : Simulation RuleDispatcher :=
  region 7 { program := ⟨operatingProgramSchema, "welt", "evu", 1, true, []⟩, checksum := ""
             decisions := [] }

/-- A hold that is decided by hand. -/
def heldFacts (time limit : SimTime) : DispatchFacts :=
  { DispatchFacts.neutral 1 time with
    holdUntil := limit
    manualOverride := some (.holdUntil limit)
    manualReason := some "Anschluss abwarten" }

def holdByHand (time limit : SimTime) : Call :=
  .command (.dispatch 1 time .connectionRisk (heldFacts time limit))

/-- A train that is to wait for ten minutes leaves at its planned time. -/
theorem not_held : ¬ ∀ (u v w x : Simulation RuleDispatcher) (moved : Output) (train : TrainRun)
    (log second : List DomainEvent),
    (byHand.run [.command (.materialize (TwoStops.train 1))]).map Prod.fst = some u →
      u.advance 110 = some (x, moved) → x.trains[(1 : TrainRunId)]? = some train →
      train.status.waitsFor = some .depart → u.call (holdByHand 110 600) = some (v, log) →
      (log.map DomainEvent.kind).contains
        (.dispatchApplied 1 1 .connectionRisk (.holdUntil 600)) = true →
      v.run [.command (.advanceTo 200)] = some (w, second) →
      ∀ entry, (entries second).find? (fun entry => departs 1 entry.2) = some entry →
        600 ≤ entry.1 := by
  intro hclaim
  have hrun : ((byHand.run [.command (.materialize (train 1))]).any fun u =>
      (u.1.advance 110).any fun x => (x.1.trains[(1 : TrainRunId)]?).any fun train =>
        train.status.waitsFor == some .depart && (u.1.call (holdByHand 110 600)).any fun v =>
          (v.2.map DomainEvent.kind).contains
            (.dispatchApplied 1 1 .connectionRisk (.holdUntil 600)) &&
          (v.1.run [.command (.advanceTo 200)]).any fun w =>
            ((entries w.2).find? fun entry => departs 1 entry.2).any fun entry =>
              decide (entry.1 < 600)) = true := by
    decide +kernel
  obtain ⟨⟨u, first⟩, hu, hrun⟩ := (Option.any_eq_true _ _).mp hrun
  obtain ⟨⟨x, moved⟩, hx, hrun⟩ := (Option.any_eq_true _ _).mp hrun
  obtain ⟨train, htrain, hrun⟩ := (Option.any_eq_true _ _).mp hrun
  rw [Bool.and_eq_true, beq_iff_eq] at hrun
  obtain ⟨⟨v, log⟩, hv, hdone⟩ := (Option.any_eq_true _ _).mp hrun.2
  rw [Bool.and_eq_true] at hdone
  obtain ⟨⟨w, second⟩, hw, hdeparts⟩ := (Option.any_eq_true _ _).mp hdone.2
  obtain ⟨entry, hentry, hearly⟩ := (Option.any_eq_true _ _).mp hdeparts
  refine absurd (hclaim u v w x moved train log second ?_ hx htrain hrun.1 hv hdone.1 hw entry
    hentry) (not_le.mpr (of_decide_eq_true hearly))
  rw [hu, Option.map_some]

/-- A train that is late anyway. -/
def late : List Call :=
  [.command (.materialize (train 1)), .command (.advanceTo 105), .command (.addDelay 1 600)]

/-- A hold until before its new departure holds it, and a further delay does no harm. -/
theorem run_held_late : ∃ (v w : Simulation RuleDispatcher) (second : List DomainEvent)
    (entry : SimTime × EventKind),
    v.run [.command (.advanceTo 200), .command (.addDelay 1 60), .command (.advanceTo 1000)]
      = some (w, second) ∧
      (entries second).find? (fun entry => departs 1 entry.2) = some entry ∧ 700 ≤ entry.1 := by
  have hrun : ((byHand.run late).any fun u => decide (u.1.now ≤ 110) &&
      (u.1.advance 110).any fun x => (x.1.trains[(1 : TrainRunId)]?).any fun train =>
        train.status.waitsFor == some .depart &&
        x.1.standsAlone 1 train.nextWaypoint 700 && (Dispatcher.decide x.1.dispatcher train 110
          .connectionRisk (heldFacts 110 700)).any (fun decided => decided.1 == .holdUntil 700) &&
        (u.1.call (holdByHand 110 700)).any fun v =>
          AllRun Simulation.call (Simulation.keepsHold 1 train.nextWaypoint 700) v.1
            [.command (.advanceTo 200), .command (.addDelay 1 60), .command (.advanceTo 1000)] &&
          (v.1.run [.command (.advanceTo 200), .command (.addDelay 1 60),
              .command (.advanceTo 1000)]).any fun w =>
            ((entries w.2).find? fun entry => departs 1 entry.2).isSome) = true := by
    decide +kernel
  obtain ⟨⟨u, first⟩, hu, hrun⟩ := (Option.any_eq_true _ _).mp hrun
  rw [Bool.and_eq_true, decide_eq_true_eq] at hrun
  obtain ⟨⟨x, moved⟩, hx, hmet⟩ := (Option.any_eq_true _ _).mp hrun.2
  obtain ⟨train, htrain, hmet⟩ := (Option.any_eq_true _ _).mp hmet
  simp only [Bool.and_eq_true, beq_iff_eq] at hmet
  obtain ⟨⟨⟨hstands, halone⟩, hdecided⟩, hafter⟩ := hmet
  obtain ⟨⟨decision, dispatcher⟩, hdecide, hhold⟩ := (Option.any_eq_true _ _).mp hdecided
  obtain rfl := beq_iff_eq.mp hhold
  obtain ⟨⟨v, log⟩, hv, hafter⟩ := (Option.any_eq_true _ _).mp hafter
  rw [Bool.and_eq_true] at hafter
  obtain ⟨⟨w, second⟩, hw, hentry⟩ := (Option.any_eq_true _ _).mp hafter.2
  obtain ⟨entry, hentry⟩ := Option.isSome_iff_exists.mp hentry
  exact ⟨v, w, second, entry, hw, hentry, Simulation.run_held hu hrun.1 hx htrain hstands hdecide
    halone hv hafter.1 hw entry hentry⟩

/-- A train that is ten thousand seconds late and makes up for it departs as it arrives, where it is
to stop for thirty seconds. -/
theorem recovering_departs_at_once : ¬ ∀ (t : Simulation ConservativeDispatcher)
    (log : List DomainEvent),
    (region 7 ConservativeDispatcher.conservative).run recovering = some (t, log) →
      ∀ arrived ∈ log, ∀ departed ∈ log, arrived.kind = .arrived 1 "Leipzig Hbf" →
        departed.kind = .departed 1 "Leipzig Hbf" → ∀ point ∈ (train 1).route.head?,
          arrived.time + point.minimumDwellSeconds ≤ departed.time := by
  intro hclaim
  have hrun : ((region 7 ConservativeDispatcher.conservative).run recovering).any (fun result =>
      result.2.contains ⟨42, 3, 10100, .arrived 1 "Leipzig Hbf"⟩ &&
        result.2.contains ⟨42, 4, 10100, .departed 1 "Leipzig Hbf"⟩) = true := by
    decide +kernel
  obtain ⟨⟨t, log⟩, hresult, hin⟩ := (Option.any_eq_true _ _).mp hrun
  rw [Bool.and_eq_true, List.contains_iff_mem, List.contains_iff_mem] at hin
  exact absurd (hclaim t log hresult _ hin.1 _ hin.2 rfl rfl _ rfl) (by decide)

/-- A punctual train rests. -/
theorem run_rests_punctual : ∃ (v w : Simulation ConservativeDispatcher) (second : List DomainEvent)
    (entry : SimTime × EventKind), v.run [.command (.advanceTo 5000)] = some (w, second) ∧
      (entries second).find? (fun entry => departs 1 entry.2) = some entry ∧ 130 ≤ entry.1 := by
  let rest : List Call := [.command (.advanceTo 5000)]
  let event : ScheduledEvent := ⟨100, 1, 0, .arrive⟩
  have hrun : ((region 7 ConservativeDispatcher.conservative).run
      [.command (.materialize (train 1))]).any fun u => (u.1.trains[(1 : TrainRunId)]?).any
        fun train => !train.status.over && train.nextWaypoint == 0 &&
          (train.route[0]?).any fun point => point.minimumDwellSeconds == 30 &&
            (u.1.takeOut event).leavesRest event train point && (u.1.tick event).any fun v =>
              AllRun Simulation.call (Simulation.keepsHold 1 0 130) v.1 rest &&
                (v.1.run rest).any fun w =>
                  ((entries w.2).find? fun entry => departs 1 entry.2).isSome := by
    decide +kernel
  obtain ⟨⟨u, first⟩, hu, hrun⟩ := (Option.any_eq_true _ _).mp hrun
  obtain ⟨train, htrain, hrun⟩ := (Option.any_eq_true _ _).mp hrun
  simp only [Bool.and_eq_true, Bool.not_eq_true', beq_iff_eq] at hrun
  obtain ⟨⟨hrunning, hhere⟩, hrun⟩ := hrun
  obtain ⟨point, hpoint, hrun⟩ := (Option.any_eq_true _ _).mp hrun
  simp only [Bool.and_eq_true, beq_iff_eq] at hrun
  obtain ⟨⟨hdwell, hrests⟩, hrun⟩ := hrun
  obtain ⟨⟨v, out⟩, hv, hrun⟩ := (Option.any_eq_true _ _).mp hrun
  rw [Bool.and_eq_true] at hrun
  obtain ⟨⟨w, second⟩, hw, hentry⟩ := (Option.any_eq_true _ _).mp hrun.2
  obtain ⟨entry, hentry⟩ := Option.isSome_iff_exists.mp hentry
  have hnone : drain (Simulation.due 100) Simulation.tick 0 u = some (u, []) := rfl
  have hbound := (Simulation.run_rests hu hnone ⟨htrain, hrunning, hhere, hpoint⟩ rfl hrests hv
    (by rw [hdwell]; exact hrun.1) hw).2 entry hentry
  rw [hdwell] at hbound
  exact ⟨v, w, second, entry, hw, hentry, hbound⟩

end TwoStops

end Zugfolge.Sim
