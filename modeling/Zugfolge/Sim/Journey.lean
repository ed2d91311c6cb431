/-
The journey of a train in the log of a region.

A train arrives at a stop, departs from it, arrives at the next one and so on; behind its last
departure it is completed.  A decision from outside lets it skip a stop or ends its run.
-/
import Zugfolge.Sim.Run

namespace Zugfolge.Sim

open Foundation
open Std (ExtTreeMap ExtTreeSet)

/-! ### Stages -/

/-- How far a train has come on its journey. -/
inductive Stage where
  | toward (waypoint : ℕ)
  | standing (waypoint : ℕ)
  | left
  | finished
  deriving DecidableEq

namespace Stage

/-- The waypoint of a route lies at an operating point. -/
def lies (route : List Waypoint) (waypoint : ℕ) (point : String) : Bool :=
  (route[waypoint]?).any fun stop => stop.operatingPoint == point

/-- The stage behind a stop that the train leaves. -/
def behind (route : List Waypoint) (waypoint : ℕ) : Stage :=
  if waypoint + 1 = route.length then .left else .toward (waypoint + 1)

/-- The stage when the train skips what it is on its way to, or where it stands. -/
def skip (route : List Waypoint) : Stage → Stage
  | .toward waypoint => if waypoint + 1 < route.length then .toward (waypoint + 1) else
      .toward waypoint
  | .standing waypoint => if waypoint + 1 < route.length then .toward (waypoint + 1) else
      .standing waypoint
  | .left => .left
  | .finished => .finished

/-- The stage behind a report about a train; `none` where the report does not belong there. -/
def next (route : List Waypoint) (id : TrainRunId) (stage : Stage) : EventKind → Option Stage
  | .arrived other point =>
    if other ≠ id then some stage
    else
      match stage with
      | .toward waypoint => if lies route waypoint point then some (.standing waypoint) else none
      | .standing _ | .left | .finished => none
  | .departed other point =>
    if other ≠ id then some stage
    else
      match stage with
      | .standing waypoint => if lies route waypoint point then some (behind route waypoint) else
          none
      | .toward _ | .left | .finished => none
  | .completed other =>
    if other ≠ id then some stage
    else
      match stage with
      | .left => some .finished
      | .toward _ | .standing _ | .finished => none
  | .dispatchApplied other _ _ decision =>
    if other ≠ id then some stage
    else if decision.ends.isSome then some .finished
    else if decision = .skipStop then some (stage.skip route)
    else some stage
  | .materialized _ | .delayChanged _ _ | .handoverRequested _ _ _ | .handoverCompleted _ _ _
  | .disruptionApplied _ => some stage

/-- The stage behind a list of reports. -/
def follows (route : List Waypoint) (id : TrainRunId) (stage : Stage) (kinds : List EventKind) :
    Option Stage :=
  kinds.foldlM (next route id) stage

variable {route : List Waypoint} {id : TrainRunId} {stage : Stage}

@[simp] lemma follows_nil : follows route id stage [] = some stage := rfl

lemma follows_cons (kind : EventKind) (kinds : List EventKind) :
    follows route id stage (kind :: kinds)
      = (stage.next route id kind).bind fun later => follows route id later kinds := rfl

lemma follows_append (first second : List EventKind) :
    follows route id stage (first ++ second)
      = (follows route id stage first).bind fun later => follows route id later second := by
  rw [follows, List.foldlM_append]
  rfl

/-- The train of a report. -/
def concerns (id : TrainRunId) : EventKind → Bool
  | .arrived other _ | .departed other _ | .completed other | .dispatchApplied other _ _ _ =>
    other == id
  | .materialized _ | .delayChanged _ _ | .handoverRequested _ _ _ | .handoverCompleted _ _ _
  | .disruptionApplied _ => false

lemma follows_of_not_concerns {kinds : List EventKind}
    (h : ∀ kind ∈ kinds, concerns id kind = false) : follows route id stage kinds = some stage := by
  induction kinds with
  | nil => rfl
  | cons kind kinds ih =>
    rw [List.forall_mem_cons] at h
    have hsame : stage.next route id kind = some stage := by
      cases kind <;> simp_all [concerns, next]
    rw [follows_cons, hsame]
    exact ih h.2

lemma next_finished {kind : EventKind} {later : Stage}
    (h : Stage.finished.next route id kind = some later) : later = .finished := by
  cases kind <;> grind [next, skip]

/-- Once a train is over it is never reported to be completed, and before that only once. -/
lemma count_completed_le {kinds : List EventKind} {last : Stage}
    (h : follows route id stage kinds = some last) :
    kinds.count (.completed id) ≤ if stage = .finished then 0 else 1 := by
  induction kinds generalizing stage with
  | nil => simp
  | cons kind kinds ih =>
    rw [follows_cons] at h
    obtain ⟨later, hnext, hrest⟩ := Option.bind_eq_some_iff.mp h
    have hcount := ih hrest
    by_cases hkind : kind = .completed id
    · subst hkind
      have hstages : stage = .left ∧ later = .finished := by
        cases stage <;> simp_all [next]
      obtain ⟨rfl, rfl⟩ := hstages
      simpa using hcount
    · rw [List.count_cons_of_ne hkind]
      refine hcount.trans ?_
      split
      · exact Nat.zero_le _
      next hnot =>
        have hstage : stage ≠ .finished := fun hover => hnot (next_finished (hover ▸ hnext))
        rw [if_neg hstage]

end Stage

namespace Simulation

variable {δ : Type} {s t : Simulation δ} {id : TrainRunId} {train : TrainRun}
  {route : List Waypoint} {stage : Stage}

/-! ### What a region expects of a train -/

/-- The trains are entered under their numbers. -/
def Keyed (s : Simulation δ) : Prop :=
  ∀ (id : TrainRunId) (train : TrainRun), s.trains[id]? = some train → train.id = id

/-- The event is scheduled for the train, at a waypoint or behind it. -/
def Awaits (s : Simulation δ) (id : TrainRunId) (waypoint : ℕ) (event : ScheduledEvent) : Prop :=
  event ∈ s.schedule ∧ event.trainRunId = id ∧ waypoint ≤ event.waypoint

/-- A train that is under way waits for its one arrival before any departure, a train that
stands waits for departures only, and a train that is over for nothing. -/
inductive OnCourse (s : Simulation δ) (id : TrainRunId) (train : TrainRun) : Stage → Prop where
  | toward (time : SimTime)
      (arrives : s.Awaits id train.nextWaypoint ⟨time, id, train.nextWaypoint, .arrive⟩)
      (awaited : ∀ event, s.Awaits id train.nextWaypoint event →
        event = ⟨time, id, train.nextWaypoint, .arrive⟩ ∨
          event.waypoint = train.nextWaypoint ∧ event.kind = .depart ∧ time ≤ event.time) :
      OnCourse s id train (.toward train.nextWaypoint)
  | standing (stands : train.status = .atPlatform ∨ train.status = .waiting)
      (awaited : ∀ event, s.Awaits id train.nextWaypoint event →
        event.waypoint = train.nextWaypoint ∧ event.kind = .depart) :
      OnCourse s id train (.standing train.nextWaypoint)
  | finished {stage : Stage} (ended : train.status.over = true) : OnCourse s id train stage

/-- The train, if it is there, has its route and has come as far as the stage says. -/
def Course (s : Simulation δ) (id : TrainRunId) (route : List Waypoint) (stage : Stage) : Prop :=
  ∀ train, s.trains[id]? = some train → train.route = route ∧ OnCourse s id train stage

/-- The two regions hold the same of a train: the train and what is scheduled for it. -/
structure SameTrain (s t : Simulation δ) (id : TrainRunId) : Prop where
  held : t.trains[id]? = s.trains[id]?
  scheduled : ∀ event, event.trainRunId = id → (event ∈ t.schedule ↔ event ∈ s.schedule)

lemma OnCourse.congr {later : TrainRun} (h : OnCourse s id train stage)
    (hscheduled : ∀ event, event.trainRunId = id → (event ∈ t.schedule ↔ event ∈ s.schedule))
    (hwaypoint : later.nextWaypoint = train.nextWaypoint) (hstatus : later.status = train.status) :
    OnCourse t id later stage := by
  have hawaits : ∀ event, t.Awaits id train.nextWaypoint event ↔
      s.Awaits id train.nextWaypoint event := by
    intro event
    constructor
    · rintro ⟨hin, hid, hahead⟩
      exact ⟨(hscheduled event hid).mp hin, hid, hahead⟩
    · rintro ⟨hin, hid, hahead⟩
      exact ⟨(hscheduled event hid).mpr hin, hid, hahead⟩
  cases h with
  | toward time arrives awaited =>
    rw [← hwaypoint]
    refine .toward time ?_ fun event hevent => ?_
    · rw [hwaypoint, hawaits]
      exact arrives
    · rw [hwaypoint, hawaits] at hevent
      rw [hwaypoint]
      exact awaited event hevent
  | standing stands awaited =>
    rw [← hwaypoint]
    refine .standing (hstatus ▸ stands) fun event hevent => ?_
    rw [hwaypoint, hawaits] at hevent
    rw [hwaypoint]
    exact awaited event hevent
  | finished ended => exact .finished (hstatus ▸ ended)

lemma Course.congr (h : s.Course id route stage) (hsame : SameTrain s t id) :
    t.Course id route stage := by
  intro train htrain
  rw [hsame.held] at htrain
  obtain ⟨hroute, hcourse⟩ := h train htrain
  exact ⟨hroute, hcourse.congr hsame.scheduled rfl rfl⟩

lemma Keyed.framed (hs : s.Keyed) (h : Framed s t) : t.Keyed := by
  intro id train htrain
  obtain ⟨earlier, hearlier, hid, -⟩ := h.exists_train htrain
  rw [← hid]
  exact hs id earlier hearlier

/-! ### Moving the clock -/

section Processing

variable [Dispatcher δ] {event : ScheduledEvent} {waypoint : Waypoint} {out : Output}

/-- An event does nothing with the other trains and reports nothing about them. -/
lemma Moved.elsewhere (hid : train.id = event.trainRunId) (hother : id ≠ event.trainRunId)
    (h : Moved s event train waypoint t out) :
    SameTrain s t id ∧ ∀ kind ∈ out.map Prod.snd, Stage.concerns id kind = false := by
  have hne : (event.trainRunId == id) = false := beq_false_of_ne hother.symm
  have hinsert : ∀ later : ScheduledEvent, later.trainRunId = event.trainRunId →
      ∀ other : ScheduledEvent, other.trainRunId = id →
        (other ∈ s.schedule.insert later ↔ other ∈ s.schedule) := by
    intro later hlater other hconcerned
    rw [KeySet.mem_insert]
    refine ⟨fun hin => hin.resolve_left ?_, .inr⟩
    rintro rfl
    exact hother (hconcerned.symm.trans hlater)
  cases h with
  | endsArriving => exact ⟨⟨by simp [hother], fun _ _ => .rfl⟩, by simp [Stage.concerns, hid, hne]⟩
  | stands => exact ⟨⟨by simp [hother], hinsert _ rfl⟩, by simp [Stage.concerns, hid, hne]⟩
  | endsDeparting => exact ⟨⟨by simp [hother], fun _ _ => .rfl⟩, by simp⟩
  | holds => exact ⟨⟨rfl, hinsert _ rfl⟩, by simp⟩
  | finishes => exact ⟨⟨by simp [hother], fun _ _ => .rfl⟩, by simp [Stage.concerns, hid, hne]⟩
  | leaves => exact ⟨⟨by simp [hother], hinsert _ hid⟩, by simp [Stage.concerns, hid, hne]⟩

/-- An event of the train itself brings it further on its journey. -/
lemma Moved.course (hlive : s.Live event train waypoint) (hid : train.id = event.trainRunId)
    (hcourse : OnCourse s event.trainRunId train stage)
    (hin : event ∈ s.schedule)
    (hfirst : ∀ other ∈ s.schedule, (ScheduledEvent.order event other).isLE = true)
    (h : Moved (s.takeOut event) event train waypoint t out) :
    ∃ later, Stage.follows train.route event.trainRunId stage (out.map Prod.snd) = some later ∧
      ∀ moved, t.trains[event.trainRunId]? = some moved →
        OnCourse t event.trainRunId moved later := by
  have hlies : Stage.lies train.route event.waypoint waypoint.operatingPoint = true := by
    rw [Stage.lies, hlive.point, Option.any_some, beq_self_eq_true]
  have hevent : s.Awaits event.trainRunId train.nextWaypoint event :=
    ⟨hin, rfl, hlive.here.le⟩
  cases hcourse with
  | finished ended =>
    rw [hlive.running] at ended
    cases ended
  | toward time arrives awaited =>
    -- a departure that is scheduled already does not come before the arrival
    have heq : event = ⟨time, event.trainRunId, train.nextWaypoint, .arrive⟩ := by
      refine (awaited event hevent).resolve_right ?_
      rintro ⟨hwaypoint, hdepart, hlate⟩
      have hnot := ScheduledEvent.not_order_depart_arrive (a := event)
        (b := ⟨time, event.trainRunId, train.nextWaypoint, .arrive⟩) rfl hwaypoint hdepart rfl
        hlate
      rw [hfirst _ arrives.1] at hnot
      cases hnot
    have hkind : event.kind = .arrive := by rw [heq]
    have hdeparture : ∀ other, other ∈ (s.takeOut event).schedule →
        other.trainRunId = event.trainRunId → train.nextWaypoint ≤ other.waypoint →
        other.waypoint = train.nextWaypoint ∧ other.kind = .depart := by
      intro other hother hconcerned hahead
      obtain ⟨hother, hne⟩ := KeySet.mem_erase.mp hother
      rcases awaited other ⟨hother, hconcerned, hahead⟩ with hsame | ⟨hwaypoint, hdepart, -⟩
      · exact absurd (hsame.trans heq.symm) hne
      · exact ⟨hwaypoint, hdepart⟩
    have harrived : Stage.follows train.route event.trainRunId (.toward train.nextWaypoint)
        [.arrived train.id waypoint.operatingPoint] = some (.standing train.nextWaypoint) := by
      simp [Stage.follows_cons, Stage.next, hid, hlive.here, hlies]
    cases h with
    | endsArriving _ _ ended =>
      refine ⟨_, harrived, fun moved hmoved => .finished ?_⟩
      simp only [Registry.getElem?_insert, if_true, Option.some.injEq] at hmoved
      rw [← hmoved]
      exact DispatchDecision.over_of_ends ended
    | stands _ _ _ stood =>
      refine ⟨_, harrived, fun moved hmoved => ?_⟩
      simp only [Registry.getElem?_insert, if_true, Option.some.injEq] at hmoved
      subst hmoved
      refine .standing (by rcases stood with rfl | rfl <;> simp) ?_
      rintro other ⟨hother, hconcerned, hahead⟩
      rcases KeySet.mem_insert.mp hother with rfl | hother
      · exact ⟨hlive.here.symm, rfl⟩
      · exact hdeparture other hother hconcerned hahead
    | endsDeparting kind | holds kind | finishes kind | leaves kind =>
      rw [hkind] at kind; cases kind
  | standing stands awaited =>
    have hkind : event.kind = .depart := (awaited event hevent).2
    have hdeparture : ∀ other, other ∈ (s.takeOut event).schedule →
        other.trainRunId = event.trainRunId → train.nextWaypoint ≤ other.waypoint →
        other.waypoint = train.nextWaypoint ∧ other.kind = .depart := by
      intro other hother hconcerned hahead
      exact awaited other ⟨(KeySet.mem_erase.mp hother).1, hconcerned, hahead⟩
    have hdeparted : Stage.next train.route event.trainRunId (.standing train.nextWaypoint)
        (.departed train.id waypoint.operatingPoint)
        = some (Stage.behind train.route event.waypoint) := by
      simp [Stage.next, hid, hlive.here, hlies]
    cases h with
    | endsArriving kind | stands kind => rw [hkind] at kind; cases kind
    | endsDeparting _ _ ended =>
      refine ⟨_, rfl, fun moved hmoved => .finished ?_⟩
      simp only [Registry.getElem?_insert, if_true, Option.some.injEq] at hmoved
      rw [← hmoved]
      exact DispatchDecision.over_of_ends ended
    | holds =>
      refine ⟨_, rfl, fun moved hmoved => ?_⟩
      obtain rfl := Option.some.inj (hlive.held.symm.trans hmoved)
      refine .standing stands ?_
      rintro other ⟨hother, hconcerned, hahead⟩
      rcases KeySet.mem_insert.mp hother with rfl | hother
      · exact ⟨hlive.here.symm, rfl⟩
      · exact hdeparture other hother hconcerned hahead
    | finishes _ _ _ last =>
      refine ⟨.finished, ?_, fun moved hmoved => .finished ?_⟩
      · rw [List.map_cons, Stage.follows_cons, hdeparted, Stage.behind, if_pos last]
        simp [Stage.follows_cons, Stage.next, hid]
      · simp only [Registry.getElem?_insert, if_true, Option.some.injEq] at hmoved
        rw [← hmoved]
        rfl
    | @leaves _ _ next _ _ _ following =>
      have hin : event.waypoint + 1 < train.route.length :=
        (List.getElem?_eq_some_iff.mp following).1
      refine ⟨.toward (event.waypoint + 1), ?_, fun moved hmoved => ?_⟩
      · rw [List.map_cons, Stage.follows_cons, hdeparted, Stage.behind, if_neg hin.ne]
        rfl
      · simp only [Registry.getElem?_insert, if_true, Option.some.injEq] at hmoved
        subst hmoved
        refine .toward (addSat64 next.arrival train.delaySeconds) ?_ ?_
        · exact ⟨KeySet.mem_insert.mpr (.inl (by rw [hid])), rfl, le_rfl⟩
        · rintro other ⟨hother, hconcerned, hahead⟩
          rcases KeySet.mem_insert.mp hother with rfl | hother
          · exact .inl (by rw [← hid])
          · have hbefore := (hdeparture other hother hconcerned
              (hlive.here.le.trans ((Nat.le_succ _).trans hahead))).1
            rw [hlive.here] at hbefore
            exact absurd (hbefore ▸ hahead) (Nat.not_succ_le_self _)

/-- Handling an event brings its train further on its journey and leaves the others alone. -/
lemma tick_course {target : SimTime} (hkeyed : s.Keyed) (hcourse : s.Course id route stage)
    (hdue : s.due target = some event) (h : s.tick event = some (t, out)) :
    ∃ later, Stage.follows route id stage (out.map Prod.snd) = some later ∧
      t.Course id route later := by
  cases handled_of_processScheduled h with
  | stale old =>
    refine ⟨stage, rfl, fun train htrain => ?_⟩
    obtain ⟨hroute, honcourse⟩ := hcourse train htrain
    refine ⟨hroute, ?_⟩
    -- an event that is not live is not the one that the train waits for
    have hscheduled : ∀ other, (s.takeOut event).Awaits id train.nextWaypoint other →
        s.Awaits id train.nextWaypoint other := by
      rintro other ⟨hother, hconcerned, hahead⟩
      exact ⟨(KeySet.mem_erase.mp hother).1, hconcerned, hahead⟩
    cases honcourse with
    | toward time arrives awaited =>
      by_cases hover : train.status.over = true
      · exact .finished hover
      · obtain ⟨hother, hconcerned, hahead⟩ := arrives
        refine .toward time ⟨KeySet.mem_erase.mpr ⟨hother, ?_⟩, hconcerned, hahead⟩
          fun other hother => awaited other (hscheduled other hother)
        rintro rfl
        exact (old train htrain).elim hover fun hne => hne rfl
    | standing stands awaited =>
      exact .standing stands fun other hother => awaited other (hscheduled other hother)
    | finished ended => exact .finished ended
  | @live train waypoint _ _ concerned moved =>
    have hheld : s.trains[event.trainRunId]? = some train := concerned.held
    have hid : train.id = event.trainRunId := hkeyed _ _ hheld
    by_cases hother : id = event.trainRunId
    · subst hother
      obtain ⟨rfl, honcourse⟩ := hcourse train hheld
      have hlive : s.Live event train waypoint :=
        ⟨hheld, concerned.running, concerned.here, concerned.point⟩
      obtain ⟨later, hfollows, hlater⟩ := moved.course hlive hid honcourse (due_eq_some hdue).1
        (order_of_due hdue)
      refine ⟨later, hfollows, fun after hafter => ⟨?_, hlater after hafter⟩⟩
      obtain ⟨earlier, hearlier, -, hroute⟩ := (moved.framed concerned).exists_train hafter
      obtain rfl := Option.some.inj (hheld.symm.trans hearlier)
      exact hroute.symm
    · obtain ⟨hsame, hnone⟩ := moved.elsewhere hid hother
      refine ⟨stage, Stage.follows_of_not_concerns hnone, hcourse.congr ⟨hsame.held, ?_⟩⟩
      intro other hconcerned
      rw [hsame.scheduled other hconcerned]
      have hne : other ≠ event := by
        rintro rfl
        exact hother hconcerned.symm
      exact ⟨fun hother => (KeySet.mem_erase.mp hother).1,
        fun hother => KeySet.mem_erase.mpr ⟨hother, hne⟩⟩

omit [Dispatcher δ] in
lemma placeTrains_course {time : SimTime} (hcourse : s.Course id route stage)
    (h : s.placeTrains time = some t) : t.Course id route stage := by
  obtain ⟨heq, htrains⟩ := placeTrains_spec h
  intro after hafter
  rcases htrains id with ⟨-, hnone⟩ | ⟨train, placed, htrain, hplaced, hthere⟩
  · rw [hnone] at hafter
    cases hafter
  · obtain rfl := Option.some.inj (hthere.symm.trans hafter)
    obtain ⟨position, speed, rfl⟩ := placed_spec hplaced
    obtain ⟨hroute, honcourse⟩ := hcourse train htrain
    refine ⟨hroute, honcourse.congr (fun _ _ => ?_) rfl rfl⟩
    rw [heq]

/-- Moving the clock reports what the journey of a train has come to. -/
lemma advance_course {target : SimTime} {kinds : Output} (hkeyed : s.Keyed)
    (hcourse : s.Course id route stage) (h : s.advance target = some (t, kinds)) :
    ∃ later, Stage.follows route id stage (kinds.map Prod.snd) = some later ∧
      t.Course id route later := by
  obtain ⟨u, hdrain, -, hplaced⟩ := advance_spec h
  have hdrained : u.Keyed ∧ ∃ later,
      Stage.follows route id stage (([] ++ kinds).map Prod.snd) = some later ∧
      u.Course id route later := by
    refine drain_invariant (fun v (kinds : Output) => v.Keyed ∧ ∃ later,
      Stage.follows route id stage (kinds.map Prod.snd) = some later ∧ v.Course id route later)
      (fun v event w log out hv hdue _ htick => ?_) [] ⟨hkeyed, stage, rfl, hcourse⟩
      (AllHandled.trivial _ _) hdrain
    obtain ⟨hvkeyed, later, hfollows, hvcourse⟩ := hv
    obtain ⟨last, hmore, hlast⟩ := tick_course hvkeyed hvcourse hdue htick
    refine ⟨hvkeyed.framed (tick_framed htick), last, ?_, hlast⟩
    rw [List.map_append, Stage.follows_append, hfollows, Option.bind_some, hmore]
  obtain ⟨-, later, hfollows, hucourse⟩ := hdrained
  exact ⟨later, hfollows, placeTrains_course hucourse hplaced⟩

end Processing

end Simulation

end Zugfolge.Sim
