/-
Journeys over whole runs of a region.

Between the call that takes a train in and the next one that takes in a train with its number,
the log reports a journey, as long as decisions from outside and delays meet the train where
its status says that it is.

* `Simulation.run_journeys`: journeys over whole runs.
-/
import Zugfolge.Sim.Trains

namespace Zugfolge.Sim

open Foundation
open Std (ExtTreeMap ExtTreeSet)

namespace Simulation

variable {δ : Type} {s t : Simulation δ} {id : TrainRunId} {train : TrainRun}
  {route : List Waypoint} {stage : Stage}

/-! ### Orderly calls -/

/-- The arrivals at the next waypoint of the train that are yet to come. -/
def arrivalsDue (s : Simulation δ) (id : TrainRunId) (train : TrainRun) : List ScheduledEvent :=
  s.schedule.toList.filter fun event => event.trainRunId == id &&
    event.waypoint == train.nextWaypoint && event.kind == .arrive

/-- A train that passes the checks is not written over another one, and nothing is left in the
queue of an earlier train with its number. -/
def admits (s : Simulation δ) (train : TrainRun) : Bool :=
  !((s.checkTrain train).any fun checked => checked.toOption.isSome) ||
    match s.trains[train.id]? with
    | some held => held == train
    | none => s.schedule.toList.all fun event => event.trainRunId != train.id ||
        decide (event.waypoint < train.nextWaypoint)

/-- The status of a train that stands says so: it has arrived. -/
def delayable (s : Simulation δ) (id : TrainRunId) : Bool :=
  (s.trains[id]?).all fun train =>
    !(train.status == .atPlatform || train.status == .waiting) || (s.arrivalsDue id train).isEmpty

/-- A decision from outside changes nothing with a train that is over, and it does not hold a
train under way to a time before its arrival. -/
def directable (s : Simulation δ) (id : TrainRunId) (train : TrainRun) (time : SimTime)
    (decision : DispatchDecision) : Bool :=
  match decision with
  | .cancel | .triggerRailReplacement => !train.status.over || train.status == .cancelled
  | .shortTurn => !train.status.over || train.status == .completed
  | .holdUntil limit =>
    decide (limit ≤ time) || !train.status.over &&
      (s.arrivalsDue id train).all fun event => decide (event.time ≤ limit)
  | .skipStop => decide (train.route.length ≤ train.nextWaypoint + 1) || !train.status.over
  | _ => true

section Conditions

variable [Dispatcher δ]

/-- The event concerns no train that is on its way to, or stands at, the waypoint. -/
def passesBy (s : Simulation δ) (event : ScheduledEvent) : Bool :=
  (s.trains[event.trainRunId]?).all fun train =>
    train.status.over || train.nextWaypoint != event.waypoint

/-- The calls that leave every train on its journey; a decision about a train that is not there
loses what is reported until then, so there may be nothing. -/
def orderly (s : Simulation δ) : Call → Bool
  | .command (.materialize train) => s.admits train
  | .acceptHandover envelope =>
    !s.receives envelope || (s.takenOver envelope.train).all s.admits
  | .command (.addDelay id _) => s.delayable id
  | .command (.applyDisruption application) =>
    application.affectedTrainRunIds.all s.delayable
  | .command (.dispatch id time trigger facts) =>
    (s.advance time).all fun advanced =>
      match advanced.1.trains[id]? with
      | none => AllHandled (due time) tick passesBy (s.drainBound time + 1) s
      | some train =>
        (Dispatcher.decide advanced.1.dispatcher train time trigger facts).all fun decided =>
          advanced.1.directable id train time decided.1
  | _ => true

end Conditions

lemma mem_arrivalsDue {event : ScheduledEvent} : event ∈ s.arrivalsDue id train ↔
    event ∈ s.schedule ∧ event.trainRunId = id ∧ event.waypoint = train.nextWaypoint ∧
      event.kind = .arrive := by
  simp [arrivalsDue, and_assoc]

lemma eq_of_admits {first : Waypoint} (hok : s.admits train = true)
    (hcheck : s.checkTrain train = some (.ok first))
    (hheld : s.trains.contains train.id = true) : s.putTrain train.id train = s := by
  obtain ⟨held, hthere⟩ := Registry.contains_iff.mp hheld
  simp only [admits, hcheck, Option.any_some, Except.toOption, Option.isSome_some, Bool.not_true,
    Bool.false_or, hthere, beq_iff_eq] at hok
  exact putTrain_self (hok ▸ hthere)

/-! ### Delays and decisions -/

/-- The train does not stand according to its status while it is under way. -/
def UnderWay (s : Simulation δ) (id : TrainRunId) (stage : Stage) : Prop :=
  ∀ train waypoint, s.trains[id]? = some train → stage = .toward waypoint →
    train.status.waitsFor ≠ some .depart

lemma underWay_of_delayable (hcourse : s.Course id route stage)
    (hok : s.delayable id = true) : s.UnderWay id stage := by
  rintro train waypoint htrain rfl hwaits
  obtain ⟨-, honcourse⟩ := hcourse train htrain
  have hstands : (train.status == .atPlatform || train.status == .waiting) = true := by
    cases hstatus : train.status <;> simp_all [OperatingStatus.waitsFor]
  simp only [delayable, htrain, Option.all_some, hstands, Bool.not_true, Bool.false_or,
    List.isEmpty_iff] at hok
  cases honcourse with
  | toward time arrives awaited =>
    have hin := mem_arrivalsDue.mpr ⟨arrives.1, rfl, rfl, rfl⟩
    rw [hok] at hin
    cases hin
  | finished ended => cases hstatus : train.status <;> simp_all [OperatingStatus.over]

variable {other : TrainRunId} {seconds : ℕ}

/-- A delay leaves the train where it is on its journey. -/
lemma delayTrain_course {answer : Except SimError (SimTime × EventKind)}
    (hcourse : s.Course id route stage) (hway : s.UnderWay id stage)
    (h : s.delayTrain id seconds = some (answer, t)) :
    t.Course id route stage ∧ t.UnderWay id stage := by
  cases hheld : s.trains[id]? with
  | none =>
    rcases delayTrain_spec h with ⟨-, -, rfl⟩ | ⟨_, hcontains, -⟩
    · exact ⟨hcourse, hway⟩
    · rw [Registry.contains_eq_false.mpr hheld] at hcontains
      cases hcontains
  | some train =>
    obtain ⟨delay, time, htrains, hqueue⟩ := delayTrain_queue hheld h
    have hthere : t.trains[id]? = some { train with delaySeconds := delay } := by
      rw [htrains, Registry.getElem?_insert, if_pos rfl]
    obtain ⟨hroute, honcourse⟩ := hcourse train hheld
    refine ⟨fun after hafter => ?_, fun after waypoint hafter hstage => ?_⟩
    · obtain rfl := Option.some.inj (hthere.symm.trans hafter)
      refine ⟨hroute, ?_⟩
      cases honcourse with
      | toward old arrives awaited =>
        have hwaits := hway train _ hheld rfl
        cases hkind : train.status.waitsFor with
        | none =>
          have hover : train.status.over = true := by
            cases hstatus : train.status <;> simp_all [OperatingStatus.waitsFor,
              OperatingStatus.over]
          exact .finished hover
        | some kind =>
          have harrive : kind = .arrive := by
            cases kind with
            | arrive => rfl
            | depart => exact absurd hkind hwaits
          subst harrive
          refine .toward time ⟨(hqueue _).mpr (.inr ⟨_, hkind, rfl⟩), rfl, le_rfl⟩ ?_
          rintro event ⟨hin, hconcerned, -⟩
          rcases (hqueue event).mp hin with ⟨-, hne⟩ | ⟨kind, hsame, rfl⟩
          · exact absurd hconcerned hne
          · rw [hkind] at hsame
            cases hsame
            exact .inl rfl
      | standing stands awaited =>
        refine .standing stands ?_
        rintro event ⟨hin, hconcerned, -⟩
        rcases (hqueue event).mp hin with ⟨-, hne⟩ | ⟨kind, hsame, rfl⟩
        · exact absurd hconcerned hne
        · rcases stands with hstands | hstands <;> rw [hstands] at hsame <;> cases hsame <;>
            exact ⟨rfl, rfl⟩
      | finished ended => exact .finished ended
    · obtain rfl := Option.some.inj (hthere.symm.trans hafter)
      exact hway train waypoint hheld hstage

/-- Delays leave a train where it is on its journey. -/
lemma delayTrains_course :
    ∀ {ids : List TrainRunId} {s t : Simulation δ} {answer : Except SimError Output},
      s.Course id route stage → (id ∈ ids → s.UnderWay id stage) →
      s.delayTrains seconds ids = some (answer, t) → t.Course id route stage := by
  intro ids
  induction ids with
  | nil =>
    intro s t answer hcourse _ h
    cases h
    exact hcourse
  | cons other ids ih =>
    intro s t answer hcourse hway h
    have hfirst : ∀ {v : Simulation δ} {done}, s.delayTrain other seconds = some (done, v) →
        v.Course id route stage ∧ (id ∈ ids → v.UnderWay id stage) := by
      intro v done hdone
      by_cases hother : other = id
      · subst hother
        have hdelayed := delayTrain_course hcourse (hway List.mem_cons_self) hdone
        exact ⟨hdelayed.1, fun _ => hdelayed.2⟩
      · have hsame := delayTrain_other hother hdone
        refine ⟨hcourse.congr hsame, fun hin train waypoint htrain => ?_⟩
        rw [hsame.held] at htrain
        exact hway (List.mem_cons_of_mem _ hin) train waypoint htrain
    rw [delayTrains] at h
    rcases Reply.andThen_eq_some h with ⟨error, hrefused, -⟩ | ⟨kind, v, hdone, h⟩
    · exact (hfirst hrefused).1
    · obtain ⟨hvcourse, hvway⟩ := hfirst hdone
      rcases Reply.andThen_eq_some h with ⟨error, hrefused, -⟩ | ⟨kinds, w, hrest, h⟩
      · exact ih hvcourse hvway hrefused
      · cases h
        exact ih hvcourse hvway hrest

/-- A decision from outside that is in order brings the train to the stage that it reports, and
leaves the other trains alone. -/
lemma Directed.course {time : SimTime} {decision : DispatchDecision}
    (decisionId : UInt64) (trigger : DispatchTrigger) (h : Directed s other train time decision t)
    (htrain : s.trains[other]? = some train) (hcourse : s.Course id route stage)
    (hok : s.directable other train time decision = true) :
    ∃ later, stage.next route id (.dispatchApplied other decisionId trigger decision)
        = some later ∧ t.Course id route later := by
  by_cases hother : other = id
  · subst hother
    obtain ⟨hroute, honcourse⟩ := hcourse train htrain
    have hnext : stage.next route other (.dispatchApplied other decisionId trigger decision)
        = if decision.ends.isSome then some .finished
          else if decision = .skipStop then some (stage.skip route) else some stage := by
      simp [Stage.next]
    rw [hnext]
    cases h with
    | ends ended =>
      refine ⟨.finished, by rw [ended]; rfl, fun after hafter => ?_⟩
      rw [Registry.getElem?_insert, if_pos rfl] at hafter
      cases hafter
      exact ⟨hroute, .finished (DispatchDecision.over_of_ends ended)⟩
    | @holds limit held later ahead =>
      subst held
      rw [directable, Bool.or_eq_true, decide_eq_true_eq, Bool.and_eq_true,
        Bool.not_eq_true', List.all_eq_true] at hok
      obtain ⟨hrunning, harrivals⟩ := hok.resolve_left (not_le.mpr later)
      refine ⟨stage, rfl, fun after hafter => ?_⟩
      rw [Registry.getElem?_insert, if_pos rfl] at hafter
      cases hafter
      refine ⟨hroute, ?_⟩
      cases honcourse with
      | toward old arrives awaited =>
        refine .toward old ⟨KeySet.mem_insert.mpr (.inr arrives.1), rfl, le_rfl⟩ ?_
        rintro event ⟨hin, hconcerned, hahead⟩
        rcases KeySet.mem_insert.mp hin with rfl | hin
        · have hold := harrivals _ (mem_arrivalsDue.mpr ⟨arrives.1, rfl, rfl, rfl⟩)
          exact .inr ⟨rfl, rfl, of_decide_eq_true hold⟩
        · exact awaited event ⟨hin, hconcerned, hahead⟩
      | standing stands awaited =>
        refine .standing (.inr rfl) ?_
        rintro event ⟨hin, hconcerned, hahead⟩
        rcases KeySet.mem_insert.mp hin with rfl | hin
        · exact ⟨rfl, rfl⟩
        · exact awaited event ⟨hin, hconcerned, hahead⟩
      | finished ended =>
        rw [hrunning] at ended
        cases ended
    | @waits limit held later behind =>
      subst held
      rw [directable, Bool.or_eq_true, decide_eq_true_eq, Bool.and_eq_true,
        Bool.not_eq_true', List.all_eq_true] at hok
      obtain ⟨hrunning, -⟩ := hok.resolve_left (not_le.mpr later)
      refine ⟨stage, rfl, fun after hafter => ?_⟩
      rw [Registry.getElem?_insert, if_pos rfl] at hafter
      cases hafter
      refine ⟨hroute, ?_⟩
      cases honcourse with
      | toward old arrives awaited => exact .toward old arrives awaited
      | standing stands awaited => exact .standing (.inr rfl) awaited
      | finished ended =>
        rw [hrunning] at ended
        cases ended
    | @skips next arrival skipped following later =>
      subst skipped
      have hin : train.nextWaypoint + 1 < train.route.length :=
        (List.getElem?_eq_some_iff.mp following).1
      rw [directable, Bool.or_eq_true, decide_eq_true_eq, Bool.not_eq_true'] at hok
      have hrunning := hok.resolve_left (not_le.mpr hin)
      have hskipped : stage.skip route = .toward (train.nextWaypoint + 1) ∧
          ∀ event, s.Awaits other train.nextWaypoint event →
            event.waypoint = train.nextWaypoint := by
        cases honcourse with
        | toward old arrives awaited =>
          refine ⟨by rw [Stage.skip, ← hroute, if_pos hin], fun event hevent => ?_⟩
          rcases awaited event hevent with rfl | ⟨hwaypoint, -⟩
          · rfl
          · exact hwaypoint
        | standing stands awaited =>
          exact ⟨by rw [Stage.skip, ← hroute, if_pos hin],
            fun event hevent => (awaited event hevent).1⟩
        | finished ended =>
          rw [hrunning] at ended
          cases ended
      refine ⟨_, rfl, fun after hafter => ?_⟩
      rw [Registry.getElem?_insert, if_pos rfl] at hafter
      cases hafter
      refine ⟨hroute, ?_⟩
      rw [hskipped.1]
      refine .toward arrival ⟨KeySet.mem_insert.mpr (.inl rfl), rfl, le_rfl⟩ ?_
      rintro event ⟨hevent, hconcerned, hahead⟩
      rcases KeySet.mem_insert.mp hevent with rfl | hevent
      · exact .inl rfl
      · have hbehind : event.waypoint = train.nextWaypoint :=
          hskipped.2 event ⟨hevent, hconcerned, (Nat.le_succ _).trans hahead⟩
        exact absurd (hbehind ▸ hahead) (Nat.not_succ_le_self _)
    | nothing kept here =>
      rw [kept]
      by_cases hskip : decision = .skipStop
      · refine ⟨stage.skip route, by rw [if_pos hskip]; rfl, fun after hafter => ?_⟩
        obtain rfl := Option.some.inj (htrain.symm.trans hafter)
        refine ⟨hroute, ?_⟩
        have hlast : ¬ train.nextWaypoint + 1 < train.route.length := not_lt.mpr (here hskip)
        cases honcourse with
        | toward old arrives awaited =>
          rw [Stage.skip, ← hroute, if_neg hlast]
          exact .toward old arrives awaited
        | standing stands awaited =>
          rw [Stage.skip, ← hroute, if_neg hlast]
          exact .standing stands awaited
        | finished ended => exact .finished ended
      · exact ⟨stage, by rw [if_neg hskip]; rfl, hcourse⟩
  · exact ⟨stage, by simp [Stage.next, hother], hcourse.congr (h.elsewhere hother)⟩

/-! ### Calls -/

lemma Keyed.insert (hs : s.Keyed) (htrains : t.trains = s.trains.insert train.id train) :
    t.Keyed := by
  intro other held hheld
  rw [htrains, Registry.getElem?_insert] at hheld
  split at hheld
  next heq =>
    cases hheld
    exact heq.symm
  · exact hs other held hheld

lemma Keyed.of_forall (hs : s.Keyed) (h : ∀ (other : TrainRunId) (held : TrainRun),
    t.trains[other]? = some held → ∃ earlier, s.trains[other]? = some earlier ∧
      earlier.id = held.id) : t.Keyed := by
  intro other held hheld
  obtain ⟨earlier, hearlier, hid⟩ := h other held hheld
  rw [← hid]
  exact hs other earlier hearlier

lemma Keyed.delayed (hs : s.Keyed) (h : Delayed s t) : t.Keyed := by
  refine hs.of_forall fun other held hheld => ?_
  obtain ⟨delay, hsame⟩ := h.trains other
  rw [hheld] at hsame
  obtain ⟨earlier, hearlier, rfl⟩ := Option.map_eq_some_iff.mp hsame.symm
  exact ⟨earlier, hearlier, rfl⟩

lemma Keyed.directed {time : SimTime} {decision : DispatchDecision}
    (hs : s.Keyed) (htrain : s.trains[other]? = some train)
    (h : Directed s other train time decision t) : t.Keyed := by
  have hwritten : ∀ written : TrainRun, t.trains = s.trains.insert other written →
      written.id = train.id → t.Keyed := by
    intro written htrains hid
    have hkey : written.id = other := hid.trans (hs other train htrain)
    subst hkey
    exact hs.insert htrains
  cases h with
  | ends | holds | waits | skips => exact hwritten _ rfl rfl
  | nothing => exact hs

section Calls

variable [Dispatcher δ]

variable {c : Call} {kinds : Output} {out : List DomainEvent} {status : OperatingStatus}
  {target : SimTime}

/-- Every call keeps the trains under their numbers. -/
lemma call_keyed (hs : s.Keyed) (h : s.call c = some (t, out)) : t.Keyed := by
  have hadvanced : ∀ {target : SimTime} {v : Simulation δ} {kinds : Output},
      s.advance target = some (v, kinds) → v.Keyed :=
    fun hadvance => hs.framed (advance_framed hadvance)
  cases called_of_call h with
  | refused => exact hs
  | replaced => exact hs.insert rfl
  | entered => exact hs.insert rfl
  | advanced forward moved => exact (hadvanced moved : Keyed _)
  | delayed done =>
    rcases delayTrain_spec done with ⟨-, herror, -⟩ | ⟨_, -, -, hdelayed⟩
    · cases herror
    · exact (hs.delayed hdelayed : Keyed _)
  | disrupted named held done => exact (hs.delayed (delayTrains_spec held done).1 : Keyed _)
  | confirmed pending =>
    refine hs.of_forall fun other held hheld => ⟨held, ?_, rfl⟩
    rw [Registry.getElem?_erase] at hheld
    split at hheld
    · cases hheld
    · exact hheld
  | lost forward moved => exact hadvanced moved
  | @directed _ _ _ _ v w _ _ _ dispatcher forward moved held decided hit =>
    have hv : ({ v with dispatcher := dispatcher } : Simulation δ).Keyed :=
      (hadvanced moved : v.Keyed)
    exact (hv.directed held hit : Keyed _)
  | ruled => exact hs
  | requested => exact hs
  | overwritten => exact hs.insert rfl
  | accepted => exact hs.insert rfl
  | swept swept =>
    refine hs.of_forall fun other held hheld => ⟨held, ?_, rfl⟩
    rw [swept.trains other] at hheld
    split at hheld
    · cases hheld
    · exact hheld

lemma keyed_of_run {worldId : WorldId} {regionId : RegionId} {now : SimTime}
    {window : MaterializationWindow} {dispatcher : δ} {past : List Call} {log : List DomainEvent}
    (h : (Simulation.new worldId regionId now window dispatcher).run past = some (s, log)) :
    s.Keyed := by
  refine AllRun.invariant (fun z (_ : List DomainEvent) => z.Keyed)
    (fun z c z' _ _ hz _ hcall => call_keyed hz hcall) [] (fun id train htrain => ?_)
    (AllRun.trivial call _ _) h
  simp [Simulation.new] at htrain

/-- Where no event concerns a train nothing is reported. -/
lemma quiet_of_allHandled
    (hok : AllHandled (due target) tick passesBy (s.drainBound target + 1) s = true)
    (h : s.advance target = some (t, kinds)) : kinds = [] := by
  obtain ⟨u, hdrain, -, -⟩ := advance_spec h
  refine drain_invariant (fun _ (kinds : Output) => kinds = [])
    (fun v event w log out hv _ hpasses htick => ?_) [] rfl hok hdrain
  subst hv
  cases handled_of_processScheduled htick with
  | stale => rfl
  | live concerned moved =>
    have hheld : v.trains[event.trainRunId]? = some _ := concerned.held
    simp only [passesBy, hheld, Option.all_some, concerned.running, concerned.here,
      bne_self_eq_false, Bool.or_false] at hpasses
    cases hpasses

lemma delayable_of_orderly {other : TrainRunId} (hok : s.orderly c = true)
    (hin : other ∈ c.delays.1) : s.delayable other = true := by
  cases c with
  | command command =>
    cases command with
    | addDelay id seconds =>
      rw [List.mem_singleton.mp hin]
      exact hok
    | applyDisruption application => exact List.all_eq_true.mp hok other hin
    | _ => cases hin
  | _ => cases hin

lemma Offers.admits (h : s.Offers c train) (hok : s.orderly c = true) : s.admits train = true := by
  rcases h with rfl | ⟨envelope, rfl, hreceives, htaken⟩
  · exact hok
  · simpa only [orderly, hreceives, htaken, Option.all_some, Bool.not_true, Bool.false_or] using hok

/-- A call in order that does not take the train in reports what its journey has come to. -/
lemma call_course (hkeyed : s.Keyed) (hcourse : s.Course id route stage) (hok : s.orderly c = true)
    (hnew : ∀ train, s.takesIn c = some train → train.id ≠ id) (h : s.call c = some (t, out)) :
    ∃ later, Stage.follows route id stage (out.map DomainEvent.kind) = some later ∧
      t.Course id route later := by
  have hmet := met_of_call id h
  rw [← map_snd_entries]
  generalize entries out = kinds at hmet
  cases hmet with
  | apart same unnamed => exact ⟨stage, Stage.follows_of_not_concerns unnamed, hcourse.congr same⟩
  | dropped gone unnamed =>
    refine ⟨stage, Stage.follows_of_not_concerns unnamed, fun after hafter => ?_⟩
    rw [gone] at hafter
    cases hafter
  | advanced clock moved same unnamed =>
    obtain ⟨later, hfollows, hv⟩ := advance_course hkeyed hcourse moved
    refine ⟨later, ?_, hv.congr same⟩
    rw [List.map_append, Stage.follows_append, hfollows, Option.bind_some,
      Stage.follows_of_not_concerns unnamed]
  | lost moved unknown =>
    obtain ⟨later, hfollows, hv⟩ := advance_course hkeyed hcourse moved
    simp only [orderly, moved, Option.all_some, Registry.contains_eq_false.mp unknown] at hok
    rw [quiet_of_allHandled hok moved] at hfollows
    exact ⟨later, hfollows, hv⟩
  | delayed named done after same unnamed =>
    refine ⟨stage, Stage.follows_of_not_concerns unnamed,
      (delayTrains_course hcourse (fun hin => ?_) done).congr same⟩
    exact underWay_of_delayable hcourse (delayable_of_orderly hok (named id hin))
  | @directed _ trigger facts v _ _ _ _ _ dispatcher moved held decided hit same =>
    obtain ⟨later, hfollows, hv⟩ := advance_course hkeyed hcourse moved
    simp only [orderly, moved, Option.all_some, held, decided] at hok
    have hvd : ({ v with dispatcher := dispatcher } : Simulation δ).Course id route later :=
      hv.congr ⟨rfl, fun _ _ => .rfl⟩
    obtain ⟨last, hlast, hw⟩ := hit.course facts.decisionId trigger held hvd hok
    refine ⟨last, ?_, hw.congr same⟩
    rw [List.map_append, Stage.follows_append, hfollows, Option.bind_some, List.map_singleton,
      Stage.follows_cons, hlast]
    rfl
  | written offered checked held own =>
    rw [eq_of_admits (offered.admits hok) checked held]
    exact ⟨stage, rfl, hcourse⟩
  | taken offered checked free own => exact absurd own (hnew _ (offered.takesIn checked free))

omit [Dispatcher δ] in
/-- A train that is taken in is on its way to its next waypoint. -/
lemma course_of_admits {first : Waypoint} (hok : s.admits train = true)
    (hcheck : s.checkTrain train = some (.ok first)) (hfree : s.trains.contains train.id = false)
    (htrains : t.trains = s.trains.insert train.id train)
    (hschedule : t.schedule
      = s.schedule.insert ⟨first.arrival, train.id, train.nextWaypoint, .arrive⟩) :
    t.Course train.id train.route (.toward train.nextWaypoint) := by
  have hnone : s.trains[train.id]? = none := Registry.contains_eq_false.mp hfree
  simp only [admits, hcheck, Option.any_some, Except.toOption, Option.isSome_some, Bool.not_true,
    Bool.false_or, hnone, List.all_eq_true, Std.ExtTreeSet.mem_toList, Bool.or_eq_true,
    bne_iff_ne, decide_eq_true_eq] at hok
  intro after hafter
  rw [htrains, Registry.getElem?_insert, if_pos rfl] at hafter
  cases hafter
  refine ⟨rfl, .toward first.arrival ⟨?_, rfl, le_rfl⟩ ?_⟩
  · rw [hschedule]
    exact KeySet.mem_insert.mpr (.inl rfl)
  · rintro event ⟨hin, hconcerned, hahead⟩
    rw [hschedule] at hin
    rcases KeySet.mem_insert.mp hin with rfl | hin
    · exact .inl rfl
    · rcases hok event hin with hother | hbehind
      · exact absurd hconcerned hother
      · exact absurd hahead (not_le.mpr hbehind)

/-- A call in order that takes a train in puts it on its journey. -/
lemma takesIn_course (hok : s.orderly c = true)
    (htakes : s.takesIn c = some train) (h : s.call c = some (t, out)) :
    t.Course train.id train.route (.toward train.nextWaypoint) := by
  cases c with
  | command command =>
    obtain ⟨⟨answer, v⟩, hreply, heq⟩ := Option.map_eq_some_iff.mp h
    obtain ⟨rfl, -⟩ := Prod.mk.inj heq
    cases command with
    | materialize other =>
      rw [takesIn] at htakes
      split at htakes
      next henters =>
        cases htakes
        obtain ⟨⟨first, hcheck⟩, hfree⟩ := enters_iff.mp henters
        rcases materialize_spec hreply with ⟨_, herror, -⟩ | ⟨_, -, hheld, -⟩
          | ⟨first, hcheck, -, -, rfl⟩
        · rw [hcheck] at herror
          cases herror
        · rw [hfree] at hheld
          cases hheld
        · exact course_of_admits hok hcheck hfree rfl rfl
      · cases htakes
    | _ => cases htakes
  | acceptHandover envelope =>
    obtain ⟨⟨answer, v⟩, hreply, heq⟩ := Option.map_eq_some_iff.mp h
    obtain ⟨rfl, -⟩ := Prod.mk.inj heq
    rw [takesIn] at htakes
    split at htakes
    next hreceives =>
      obtain ⟨htaken, henters⟩ := Option.filter_eq_some_iff.mp htakes
      obtain ⟨⟨first, hcheck⟩, hfree⟩ := enters_iff.mp henters
      simp only [orderly, hreceives, htaken, Option.all_some, Bool.not_true, Bool.false_or] at hok
      rcases acceptHandover_spec hreply with ⟨-, -, ⟨-, hnot⟩ | ⟨_, _, -, hsame, -, hheld, -⟩⟩
        | ⟨_, _, -, hsame, hfirst, -, -, rfl⟩
      · exact absurd hcheck (hnot _ _ hreceives htaken)
      · obtain rfl := Option.some.inj (htaken.symm.trans hsame)
        rw [hfree] at hheld
        cases hheld
      · obtain rfl := Option.some.inj (htaken.symm.trans hsame)
        exact course_of_admits hok hfirst hfree rfl rfl
    · cases htakes
  | _ => cases htakes

/-! ### Trains that are over -/

/-- Moving the clock leaves a train that is over as it is. -/
lemma advance_over (hkeyed : s.Keyed)
    (hheld : s.trains[id]? = some train) (hover : train.status.over = true)
    (h : s.advance target = some (t, kinds)) : t.trains[id]? = some train := by
  obtain ⟨u, hdrain, -, hplaced⟩ := advance_spec h
  have hu : u.Keyed ∧ u.trains[id]? = some train := by
    refine drain_keeps (fun v => v.Keyed ∧ v.trains[id]? = some train)
      (fun v event w out hv _ htick => ⟨hv.1.framed (tick_framed htick), ?_⟩)
      ⟨hkeyed, hheld⟩ hdrain
    cases handled_of_processScheduled htick with
    | stale => exact hv.2
    | @live other waypoint _ _ concerned moved =>
      have hother : id ≠ event.trainRunId := by
        rintro rfl
        obtain rfl := Option.some.inj (hv.2.symm.trans concerned.held)
        rw [concerned.running] at hover
        cases hover
      rw [(moved.elsewhere (hv.1 _ _ concerned.held) hother).1.held]
      exact hv.2
  have hstays : placed target train = some train := by
    rw [placed, if_neg]
    intro hrunning
    rw [hrunning] at hover
    cases hover
  rcases (placeTrains_spec hplaced).2 id with ⟨hnone, -⟩ | ⟨held, after, hu', hafter, hthere⟩
  · rw [hu.2] at hnone
    cases hnone
  · obtain rfl := Option.some.inj (hu.2.symm.trans hu')
    rwa [← Option.some.inj (hstays.symm.trans hafter)] at hthere

omit [Dispatcher δ] in
/-- A decision that is in order leaves the status of a train that is over. -/
lemma Directed.over {time : SimTime} {decision : DispatchDecision}
    (h : Directed s id train time decision t) (htrain : s.trains[id]? = some train)
    (hok : s.directable id train time decision = true) (hover : train.status.over = true) :
    ∃ after, t.trains[id]? = some after ∧ after.status = train.status := by
  cases h with
  | @ends status ended =>
    refine ⟨_, by rw [Registry.getElem?_insert, if_pos rfl], ?_⟩
    cases decision <;> cases ended <;> simp_all [directable]
  | holds held later ahead | waits held later behind =>
    subst held
    simp only [directable, hover, Bool.not_true, Bool.false_and, Bool.or_false,
      decide_eq_true_eq] at hok
    exact absurd later (not_lt.mpr hok)
  | skips skipped following =>
    subst skipped
    simp only [directable, hover, Bool.not_true, Bool.or_false, decide_eq_true_eq] at hok
    exact absurd (List.getElem?_eq_some_iff.mp following).1 (not_lt.mpr hok)
  | nothing => exact ⟨_, htrain, rfl⟩

omit [Dispatcher δ] in
/-- The train, if it is there, has the status. -/
def Ended (s : Simulation δ) (id : TrainRunId) (status : OperatingStatus) : Prop :=
  ∀ train, s.trains[id]? = some train → train.status = status

omit [Dispatcher δ] in
lemma Ended.of_forall (hs : s.Ended id status)
    (h : ∀ after, t.trains[id]? = some after → ∃ before, s.trains[id]? = some before ∧
      before.status = after.status) : t.Ended id status := by
  intro after hafter
  obtain ⟨before, hbefore, hsame⟩ := h after hafter
  rw [← hsame]
  exact hs before hbefore

omit [Dispatcher δ] in
lemma Ended.congr (hs : s.Ended id status) (h : SameTrain s t id) : t.Ended id status := by
  intro after hafter
  rw [h.held] at hafter
  exact hs after hafter

omit [Dispatcher δ] in
lemma Ended.delayed (hs : s.Ended id status) (h : Delayed s t) :
    t.Ended id status := by
  refine hs.of_forall fun after hafter => ?_
  obtain ⟨delay, hsame⟩ := h.trains id
  rw [hafter] at hsame
  obtain ⟨before, hbefore, rfl⟩ := Option.map_eq_some_iff.mp hsame.symm
  exact ⟨before, hbefore, rfl⟩

lemma Ended.advance (hs : s.Ended id status) (hkeyed : s.Keyed) (hover : status.over = true)
    (h : s.advance target = some (t, kinds)) : t.Ended id status := by
  refine hs.of_forall fun after hafter => ?_
  obtain ⟨before, hbefore, -⟩ := (advance_framed h).exists_train hafter
  have hstays := advance_over hkeyed hbefore (by rw [hs before hbefore]; exact hover) h
  obtain rfl := Option.some.inj (hstays.symm.trans hafter)
  exact ⟨_, hbefore, rfl⟩

/-- A call in order that does not take the train in leaves it over. -/
lemma call_ended (hkeyed : s.Keyed) (hover : status.over = true) (hs : s.Ended id status)
    (hok : s.orderly c = true) (hnew : ∀ train, s.takesIn c = some train → train.id ≠ id)
    (h : s.call c = some (t, out)) : t.Ended id status := by
  have hmet := met_of_call id h
  generalize entries out = kinds at hmet
  cases hmet with
  | apart same => exact hs.congr same
  | dropped gone =>
    intro after hafter
    rw [gone] at hafter
    cases hafter
  | advanced clock moved same => exact (hs.advance hkeyed hover moved).congr same
  | lost moved => exact hs.advance hkeyed hover moved
  | delayed named done after same => exact (hs.delayed after).congr same
  | @directed _ _ _ v w _ _ _ _ _ moved held decided hit same =>
    have hv : v.Ended id status := hs.advance hkeyed hover moved
    simp only [orderly, moved, Option.all_some, held, decided] at hok
    have hbefore : _ = status := hv _ held
    obtain ⟨last, hlast, hsame⟩ := hit.over held hok (hbefore ▸ hover)
    have hw : w.Ended id status := by
      intro after hafter
      obtain rfl := Option.some.inj (hlast.symm.trans hafter)
      exact hsame.trans hbefore
    exact hw.congr same
  | written offered checked held own => rwa [eq_of_admits (offered.admits hok) checked held]
  | taken offered checked free own => exact absurd own (hnew _ (offered.takesIn checked free))

/-! ### Runs -/

/-- The call does not take in a train with the number. -/
def leavesOut (id : TrainRunId) (s : Simulation δ) (c : Call) : Bool :=
  (s.takesIn c).all fun train => train.id != id

omit [Dispatcher δ] in
lemma ne_of_leavesOut (h : leavesOut id s c = true) :
    ∀ train, s.takesIn c = some train → train.id ≠ id := by
  intro train htakes
  rw [leavesOut, htakes, Option.all_some, bne_iff_ne] at h
  exact h

/-- **Journeys.**  In every run from a new region whose calls are in order: from the call that
takes a train in, as long as no other train is taken in with its number, the log reports a
journey of the train with one completion at most, and once the train is over it keeps its
status. -/
theorem run_journeys {train : TrainRun} {worldId : WorldId} {regionId : RegionId}
    {now : SimTime} {window : MaterializationWindow} {dispatcher : δ} {past rest more : List Call}
    {c : Call}
    {u v w : Simulation δ} {first out second : List DomainEvent}
    (hok : AllRun call orderly (.new worldId regionId now window dispatcher)
      (past ++ c :: (rest ++ more)) = true)
    (hpast : (Simulation.new worldId regionId now window dispatcher).run past = some (u, first))
    (htakes : u.takesIn c = some train) (hcall : u.call c = some (v, out))
    (hrest : v.run rest = some (w, second))
    (hstay : AllRun call (leavesOut train.id) v rest = true) :
    (Stage.follows train.route train.id (.toward train.nextWaypoint)
        (second.map DomainEvent.kind)).isSome = true ∧
      (second.map DomainEvent.kind).count (.completed train.id) ≤ 1 ∧
      ∀ (between after : List Call) (x : Simulation δ) (third : List DomainEvent)
        (earlier later : TrainRun), rest = between ++ after → v.run between = some (x, third) →
        x.trains[train.id]? = some earlier → earlier.status.over = true →
        w.trains[train.id]? = some later → later.status = earlier.status := by
  obtain ⟨-, hrestOk⟩ := AllRun.append hok hpast
  have hu : u.Keyed := keyed_of_run hpast
  rw [AllRun, hcall, Bool.and_eq_true] at hrestOk
  obtain ⟨hcallOk, hrestOk⟩ := hrestOk
  have hv : v.Keyed := call_keyed hu hcall
  have hboth := AllRun.and (AllRun.append hrestOk hrest).1 hstay
  -- the reports since the train was taken in lead to the stage where it is
  have hcourse : w.Keyed ∧ ∃ later, Stage.follows train.route train.id
      (.toward train.nextWaypoint) (([] ++ second).map DomainEvent.kind) = some later ∧
      w.Course train.id train.route later := by
    refine AllRun.invariant (fun x (log : List DomainEvent) => x.Keyed ∧ ∃ later,
      Stage.follows train.route train.id (.toward train.nextWaypoint) (log.map DomainEvent.kind)
        = some later ∧ x.Course train.id train.route later)
      (fun x c y log out hx hc hxcall => ?_) []
      ⟨hv, _, rfl, takesIn_course hcallOk htakes hcall⟩ hboth hrest
    rw [Bool.and_eq_true] at hc
    obtain ⟨hxkeyed, later, hfollows, hxcourse⟩ := hx
    obtain ⟨last, hmore, hlast⟩ :=
      call_course hxkeyed hxcourse hc.1 (ne_of_leavesOut hc.2) hxcall
    refine ⟨call_keyed hxkeyed hxcall, last, ?_, hlast⟩
    rw [List.map_append, Stage.follows_append, hfollows, Option.bind_some, hmore]
  obtain ⟨-, last, hfollows, -⟩ := hcourse
  refine ⟨by rw [List.nil_append] at hfollows; rw [hfollows]; rfl, ?_, ?_⟩
  · exact Stage.count_completed_le hfollows
  · rintro between after x third earlier later rfl hbetween hearlier hover hlater
    obtain ⟨y, fourth, fifth, hy, hafter, -⟩ := runAll_append hrest
    obtain ⟨rfl, rfl⟩ := Prod.mk.inj (Option.some.inj (hy.symm.trans hbetween))
    obtain ⟨hbetweenOk, hafterOk⟩ := AllRun.append hboth hbetween
    have hykeyed : y.Keyed := by
      refine AllRun.invariant (fun z (_ : List DomainEvent) => z.Keyed)
        (fun z c z' _ _ hz _ hcall => call_keyed hz hcall) [] hv hbetweenOk hbetween
    have hended : w.Keyed ∧ w.Ended train.id earlier.status := by
      refine AllRun.invariant (fun z (_ : List DomainEvent) => z.Keyed ∧
        z.Ended train.id earlier.status) (fun z c z' _ _ hz hc hzcall => ?_) []
        ⟨hykeyed, fun train htrain => ?_⟩ hafterOk hafter
      · rw [Bool.and_eq_true] at hc
        exact ⟨call_keyed hz.1 hzcall,
          call_ended hz.1 hover hz.2 hc.1 (ne_of_leavesOut hc.2) hzcall⟩
      · rw [hearlier] at htrain
        rw [Option.some.inj htrain]
    exact hended.2 later hlater

end Calls

end Simulation

/-! ### A train that is held after its journey -/

namespace TwoStops

/-- A train that is delayed and held after it has come to its end. -/
def revived : List Call :=
  [.command (.advanceTo 4000), .command (.addDelay 1 10000),
    .command (.dispatch 1 4000 .delayThreshold (.neutral 0 4000)), .command (.advanceTo 20000)]

/-- The train departs from its last stop twice and is completed twice. -/
theorem revived_completes_twice : ¬ ∀ (rest : List Call)
    (v w : Simulation ConservativeDispatcher) (out second : List DomainEvent),
    (region 7 ConservativeDispatcher.conservative).call (.command (.materialize (train 1)))
      = some (v, out) → v.run rest = some (w, second) →
      (second.map DomainEvent.kind).count (.completed 1) ≤ 1 := by
  intro hclaim
  have hrun : ((region 7 ConservativeDispatcher.conservative).call
      (.command (.materialize (train 1)))).any (fun entered => (entered.1.run revived).any
        fun result => decide (1 < (result.2.map DomainEvent.kind).count (.completed 1)))
          = true := by
    decide +kernel
  obtain ⟨⟨v, out⟩, hentered, hrun⟩ := (Option.any_eq_true _ _).mp hrun
  obtain ⟨⟨w, second⟩, hresult, htwice⟩ := (Option.any_eq_true _ _).mp hrun
  exact absurd (hclaim _ _ _ _ _ hentered hresult) (not_le.mpr (of_decide_eq_true htwice))

/-- A train that is held on its way and delayed at its stop makes one journey. -/
def heldOnce : List Call :=
  [.command (.advanceTo 200), .command (.dispatch 1 200 .connectionRisk (.neutral 0 200)),
    .command (.advanceTo 3710), .command (.addDelay 1 60), .command (.advanceTo 4000)]

/-- The train arrives and departs once at each stop and is completed once. -/
theorem run_journeys_held : ∃ (v w : Simulation ConservativeDispatcher)
    (out second : List DomainEvent),
    (region 7 ConservativeDispatcher.conservative).call (.command (.materialize (train 1)))
      = some (v, out) ∧ v.run heldOnce = some (w, second) ∧ second.length = 7 ∧
      (Stage.follows (train 1).route 1 (.toward 0)
        (second.map DomainEvent.kind)).isSome = true := by
  have hrun : ((region 7 ConservativeDispatcher.conservative).call
      (.command (.materialize (train 1)))).any (fun entered =>
        AllRun Simulation.call (Simulation.leavesOut 1) entered.1 heldOnce &&
        (entered.1.run heldOnce).any fun result => decide (result.2.length = 7)) = true := by
    decide +kernel
  have hok : AllRun Simulation.call Simulation.orderly
      (region 7 ConservativeDispatcher.conservative)
      ([] ++ .command (.materialize (train 1)) :: (heldOnce ++ [])) = true := by
    decide +kernel
  have htakes : (region 7 ConservativeDispatcher.conservative).takesIn
      (.command (.materialize (train 1))) = some (train 1) := by
    decide +kernel
  obtain ⟨⟨v, out⟩, hentered, hrun⟩ := (Option.any_eq_true _ _).mp hrun
  rw [Bool.and_eq_true] at hrun
  obtain ⟨⟨w, second⟩, hresult, hlength⟩ := (Option.any_eq_true _ _).mp hrun.2
  exact ⟨v, w, out, second, hentered, hresult, of_decide_eq_true hlength,
    (Simulation.run_journeys hok rfl htakes hentered hresult hrun.1).1⟩

end TwoStops

end Zugfolge.Sim
