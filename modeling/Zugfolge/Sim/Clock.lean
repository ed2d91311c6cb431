/-
The clock of a region and the order of its events.

The queue is worked off in the order of time, so the clock runs forward as long as nothing is
scheduled in the past.  A train that leaves is scheduled to arrive at the planned time with its
delay, even if it leaves after that.

* `Simulation.advance_onTime`, `Simulation.call_onTime`, `run_chronicle`: calls and runs.
-/
import Mathlib.Data.List.Pairwise
import Zugfolge.Sim.Run

namespace Zugfolge.Sim

open Foundation
open Std (ExtTreeMap ExtTreeSet)

namespace Simulation

variable {δ : Type} {s t u : Simulation δ}

/-! ### In time -/

section Conditions

variable [Dispatcher δ]

/-- If the event lets a train leave for its next waypoint, then the planned arrival there,
with the delay of the train, still lies ahead. -/
def leavesInTime (s : Simulation δ) (event : ScheduledEvent) : Bool :=
  match s.trains[event.trainRunId]? with
  | none => true
  | some train =>
    train.status.over || train.nextWaypoint != event.waypoint || event.kind != .depart ||
      !((s.departureDecision event train).any fun decision => decision.letsGo event.time) ||
      (train.route[event.waypoint + 1]?).all fun next =>
        decide (event.time ≤ addSat64 next.arrival train.delaySeconds)

/-- All trains that leave during the call leave in time. -/
def punctual (s : Simulation δ) : Call → Bool
  | .command (.advanceTo target) | .command (.dispatch _ target _ _) =>
    AllHandled (due target) tick leavesInTime (s.drainBound target + 1) s
  | _ => true

/-- No event that is handled during the call moves the clock back. -/
def clockRuns (s : Simulation δ) : Call → Bool
  | .command (.advanceTo target) | .command (.dispatch _ target _ _) =>
    AllHandled (due target) tick (fun u event => decide (u.now ≤ event.time))
      (s.drainBound target + 1) s
  | _ => true

lemma arrival_of_leavesInTime {event : ScheduledEvent} {train : TrainRun} {waypoint : Waypoint}
    {decision : DispatchDecision} {next : Waypoint} (hlive : s.Live event train waypoint)
    (hkind : event.kind = .depart) (hdecided : s.departureDecision event train = some decision)
    (hgoes : decision.letsGo event.time = true)
    (hnext : train.route[event.waypoint + 1]? = some next) (h : s.leavesInTime event = true) :
    event.time ≤ addSat64 next.arrival train.delaySeconds := by
  simp only [leavesInTime, hlive.held, hlive.running, hlive.here, hkind, hdecided, hnext,
    Option.any_some, hgoes, Option.all_some, bne_self_eq_false, Bool.not_true, Bool.or_false,
    Bool.false_or, decide_eq_true_eq] at h
  exact h

end Conditions

/-! ### Nothing in the past -/

/-- Nothing is scheduled in the past. -/
def Forward (s : Simulation δ) : Prop := ∀ event ∈ s.schedule, s.now ≤ event.time

/-- What is put out between two states lies between their times, in order. -/
structure InBetween (s t : Simulation δ) (kinds : Output) : Prop where
  forward : s.now ≤ t.now
  lower : ∀ entry ∈ kinds, s.now ≤ entry.1
  upper : ∀ entry ∈ kinds, entry.1 ≤ t.now
  sorted : kinds.Pairwise fun a b => a.1 ≤ b.1

namespace InBetween

variable {first second : Output}

lemma refl (s : Simulation δ) : InBetween s s [] :=
  ⟨le_rfl, (fun _ h => nomatch h), (fun _ h => nomatch h), .nil⟩

lemma trans (hfirst : InBetween s t first) (hsecond : InBetween t u second) :
    InBetween s u (first ++ second) where
  forward := hfirst.forward.trans hsecond.forward
  lower := fun entry hentry => by
    rcases List.mem_append.mp hentry with hin | hin
    · exact hfirst.lower entry hin
    · exact hfirst.forward.trans (hsecond.lower entry hin)
  upper := fun entry hentry => by
    rcases List.mem_append.mp hentry with hin | hin
    · exact (hfirst.upper entry hin).trans hsecond.forward
    · exact hsecond.upper entry hin
  sorted := List.pairwise_append.mpr ⟨hfirst.sorted, hsecond.sorted,
    fun a ha b hb => (hfirst.upper a ha).trans (hsecond.lower b hb)⟩

lemma of_now (hforward : s.now ≤ t.now) (h : ∀ entry ∈ first, entry.1 = t.now) :
    InBetween s t first where
  forward := hforward
  lower := fun entry hentry => (h entry hentry).symm ▸ hforward
  upper := fun entry hentry => (h entry hentry).le
  sorted := List.pairwise_of_forall_mem_list fun a ha b hb => by rw [h a ha, h b hb]

end InBetween

section Processing

variable [Dispatcher δ]

/-- What an event does keeps the queue ahead of the clock if trains leave in time. -/
lemma Moved.forward {event : ScheduledEvent} {train : TrainRun} {waypoint : Waypoint}
    {out : Output} (hlive : s.Live event train waypoint) (hs : s.Forward)
    (hnow : s.now = event.time) (hok : s.leavesInTime event = true)
    (h : Moved s event train waypoint t out) :
    t.Forward ∧ t.now = event.time ∧ ∀ entry ∈ out, entry.1 = event.time := by
  have hinsert : ∀ later : ScheduledEvent, event.time ≤ later.time →
      ∀ other ∈ s.schedule.insert later, s.now ≤ other.time := by
    intro later hlater other hother
    rcases KeySet.mem_insert.mp hother with rfl | hin
    · rw [hnow]
      exact hlater
    · exact hs other hin
  cases h with
  | endsArriving => exact ⟨hs, hnow, by simp⟩
  | stands _ _ _ _ later => exact ⟨hinsert _ later, hnow, by simp⟩
  | endsDeparting => exact ⟨hs, hnow, by simp⟩
  | holds _ later => exact ⟨hinsert _ later.le, hnow, by simp⟩
  | finishes => exact ⟨hs, hnow, by simp⟩
  | leaves kind decided goes following =>
    exact ⟨hinsert _ (arrival_of_leavesInTime hlive kind decided goes following hok), hnow,
      by simp⟩

/-- Handling the event that is due moves the clock to it. -/
lemma tick_inBetween {target : SimTime} {event : ScheduledEvent} {out : Output}
    (hs : s.Forward) (hdue : s.due target = some event) (hok : s.leavesInTime event = true)
    (h : s.tick event = some (t, out)) :
    t.Forward ∧ t.now ≤ target ∧ InBetween s t out := by
  obtain ⟨hin, htarget, hleast⟩ := due_eq_some hdue
  have htaken : (s.takeOut event).Forward := fun other hother =>
    hleast other (KeySet.mem_erase.mp hother).1
  have hresult : t.Forward ∧ t.now = event.time ∧ ∀ entry ∈ out, entry.1 = event.time := by
    cases handled_of_processScheduled h with
    | stale => exact ⟨htaken, rfl, fun _ h => nomatch h⟩
    | live concerned moved => exact moved.forward concerned htaken rfl hok
  obtain ⟨hforward, hnow, hout⟩ := hresult
  refine ⟨hforward, hnow ▸ htarget, .of_now (hnow ▸ hs event hin) fun entry hentry => ?_⟩
  rw [hout entry hentry, hnow]

/-- Moving the clock puts out what happens on the way in the order of time. -/
lemma advance_inBetween {target : SimTime} {kinds : Output} (hs : s.Forward)
    (htarget : s.now ≤ target)
    (hok : AllHandled (due target) tick leavesInTime (s.drainBound target + 1) s = true)
    (h : s.advance target = some (t, kinds)) :
    t.Forward ∧ t.now = target ∧ InBetween s t kinds := by
  obtain ⟨u, hdrain, hdone, hplaced⟩ := advance_spec h
  have hdrained : u.Forward ∧ u.now ≤ target ∧ InBetween s u ([] ++ kinds) :=
    drain_invariant (fun u kinds => u.Forward ∧ u.now ≤ target ∧ InBetween s u kinds)
      (fun v event w log out hv hdue hevent htick => by
        obtain ⟨hforward, hbefore, hbetween⟩ := tick_inBetween hv.1 hdue hevent htick
        exact ⟨hforward, hbefore, hv.2.2.trans hbetween⟩)
      [] ⟨hs, htarget, .refl s⟩ hok hdrain
  obtain ⟨-, hbefore, hbetween⟩ := hdrained
  rw [(placeTrains_spec hplaced).1]
  refine ⟨fun event hevent => (due_eq_none hdone event hevent).le, rfl, ?_⟩
  exact ⟨htarget, hbetween.lower, fun entry hentry => (hbetween.upper entry hentry).trans hbefore,
    hbetween.sorted⟩

end Processing

/-! ### Calls -/

/-- A call answers with numbered events, the next ones of the region; `numbered` tells whether
the numbers of the region are those of the events. -/
structure OnTime (s t : Simulation δ) (out : List DomainEvent) : Prop where
  forward : s.now ≤ t.now
  lower : ∀ event ∈ out, s.now ≤ event.time
  upper : ∀ event ∈ out, event.time ≤ t.now
  sorted : out.Pairwise fun a b => a.time ≤ b.time

/-- The events carry the next numbers of the region. -/
def Gapless (s t : Simulation δ) (out : List DomainEvent) : Prop :=
  out.map DomainEvent.sequence = List.range' (s.sequence + 1) out.length ∧
    t.sequence = s.sequence + out.length

lemma OnTime.of_quiet (h : s.now = t.now) : OnTime s t [] :=
  ⟨h.le, (fun _ h => nomatch h), (fun _ h => nomatch h), .nil⟩

lemma Gapless.of_quiet (h : t.sequence = s.sequence) : Gapless s t [] := ⟨rfl, h⟩

/-- Numbering what lies in between gives events in between with the next numbers. -/
lemma InBetween.numbered {kinds : Output} (h : InBetween s t kinds)
    (hsequence : u.sequence = s.sequence) :
    OnTime s { t with sequence := u.sequence + kinds.length } (u.numbered kinds) ∧
      Gapless s { t with sequence := u.sequence + kinds.length } (u.numbered kinds) := by
  have hmem : ∀ event ∈ u.numbered kinds, ∃ entry ∈ kinds, event.time = entry.1 := by
    intro event hevent
    obtain ⟨entry, hentry, rfl⟩ := List.mem_map.mp hevent
    exact ⟨entry.1, List.fst_mem_of_mem_zipIdx hentry, rfl⟩
  have htimes : ((u.numbered kinds).map DomainEvent.time) = kinds.map Prod.fst := by
    rw [Simulation.numbered, List.map_map]
    have hzip := List.zipIdx_map_fst (u.sequence + 1) kinds
    rw [← hzip, List.map_map, hzip]
    rfl
  have hlength : (u.numbered kinds).length = kinds.length := by
    rw [Simulation.numbered, List.length_map, List.length_zipIdx]
  refine ⟨⟨h.forward, fun event hevent => ?_, fun event hevent => ?_, ?_⟩, ?_, ?_⟩
  · obtain ⟨entry, hentry, htime⟩ := hmem event hevent
    rw [htime]
    exact h.lower entry hentry
  · obtain ⟨entry, hentry, htime⟩ := hmem event hevent
    rw [htime]
    exact h.upper entry hentry
  · have hsorted := List.pairwise_map.mpr h.sorted
    rw [← htimes] at hsorted
    exact List.pairwise_map.mp hsorted
  · rw [hlength, Simulation.numbered, List.map_map, ← hsequence]
    exact List.zipIdx_map_snd (u.sequence + 1) kinds
  · rw [hlength, hsequence]

lemma forward_insert {event : ScheduledEvent} (hs : s.Forward) (h : s.now ≤ event.time) :
    ∀ other ∈ s.schedule.insert event, s.now ≤ other.time := by
  intro other hother
  rcases KeySet.mem_insert.mp hother with rfl | hin
  · exact h
  · exact hs other hin

lemma Delayed.forward (h : Delayed s t) (hs : s.Forward) : t.Forward := by
  intro event hevent
  rw [h.now]
  rcases h.schedule event hevent with hin | ⟨-, -, -, hnow, -⟩
  · exact hs event hin
  · exact hnow

lemma Directed.forward {id : TrainRunId} {train : TrainRun} {time : SimTime}
    {decision : DispatchDecision} (h : Directed s id train time decision t) (hs : s.Forward)
    (hnow : s.now ≤ time) : t.Forward ∧ t.now = s.now := by
  cases h with
  | ends => exact ⟨fun event hevent => hs event (KeySet.mem_filter.mp hevent).1, rfl⟩
  | holds _ later => exact ⟨forward_insert hs (hnow.trans later.le), rfl⟩
  | waits => exact ⟨hs, rfl⟩
  | skips _ _ later => exact ⟨forward_insert hs (hnow.trans later), rfl⟩
  | nothing => exact ⟨hs, rfl⟩

lemma onTime_of_now (kinds : Output) (hnow : t.now = s.now) (hsequence : t.sequence = s.sequence)
    (h : ∀ entry ∈ kinds, entry.1 = s.now) :
    OnTime s { t with sequence := t.sequence + kinds.length } (t.numbered kinds) ∧
      Gapless s { t with sequence := t.sequence + kinds.length } (t.numbered kinds) :=
  (InBetween.of_now hnow.ge fun entry hentry => (h entry hentry).trans hnow.symm).numbered
    hsequence

section Calls

variable [Dispatcher δ]

/-- A call that keeps trains in time moves the clock on and answers with the events in order;
unless it takes a train over, the events carry the next numbers. -/
lemma call_onTime {c : Call} {out : List DomainEvent} (hs : s.Forward)
    (hok : s.punctual c = true) (h : s.call c = some (t, out)) :
    t.Forward ∧ OnTime s t out ∧
      ((∀ envelope, c ≠ .acceptHandover envelope) → Gapless s t out) := by
  -- a call that puts out one event at once
  have honce : ∀ (kind : EventKind) (v : Simulation δ), v.now = s.now → v.sequence = s.sequence →
      OnTime s { v with sequence := v.sequence + 1 } (v.numbered [(s.now, kind)]) ∧
        Gapless s { v with sequence := v.sequence + 1 } (v.numbered [(s.now, kind)]) := by
    intro kind v hnow hsequence
    exact onTime_of_now [(s.now, kind)] hnow hsequence (by simp)
  cases called_of_call h with
  | refused | replaced => exact ⟨hs, .of_quiet rfl, fun _ => .of_quiet rfl⟩
  | @entered train first checked free =>
    obtain ⟨hontime, hgapless⟩ := honce (.materialized train.id) s rfl rfl
    exact ⟨forward_insert hs (checkTrain_eq_ok checked).2.2.1,
      ⟨hontime.forward, hontime.lower, hontime.upper, hontime.sorted⟩, fun _ => hgapless⟩
  | advanced forward moved =>
    obtain ⟨hforward, -, hbetween⟩ := advance_inBetween hs forward hok moved
    obtain ⟨hontime, hgapless⟩ := hbetween.numbered (advance_framed moved).sequence
    exact ⟨hforward, hontime, fun _ => hgapless⟩
  | delayed done =>
    rcases delayTrain_spec done with ⟨-, herror, -⟩ | ⟨_, -, -, hdelayed⟩
    · cases herror
    · obtain ⟨hontime, hgapless⟩ := honce _ _ hdelayed.now hdelayed.sequence
      exact ⟨hdelayed.forward hs, hontime, fun _ => hgapless⟩
  | @disrupted _ applied _ v kinds named held done =>
    obtain ⟨hdelayed, others, hok, hkinds⟩ := delayTrains_spec held done
    cases hok
    have hall : ∀ entry ∈ kinds ++ [(v.now, EventKind.disruptionApplied applied)],
        entry.1 = s.now := by
      intro entry hentry
      rcases List.mem_append.mp hentry with hentry | hentry
      · exact (hkinds entry hentry).1
      · rw [List.mem_singleton.mp hentry]
        exact hdelayed.now
    obtain ⟨hontime, hgapless⟩ := onTime_of_now _ hdelayed.now hdelayed.sequence hall
    rw [List.length_append, List.length_singleton] at hontime hgapless
    exact ⟨hdelayed.forward hs, hontime, fun _ => hgapless⟩
  | @confirmed token targetRegion id pending =>
    obtain ⟨hontime, hgapless⟩ :=
      honce (.handoverCompleted id token targetRegion) s rfl rfl
    exact ⟨hs, ⟨hontime.forward, hontime.lower, hontime.upper, hontime.sorted⟩,
      fun _ => hgapless⟩
  | lost forward moved unknown =>
    obtain ⟨hforward, -, hbetween⟩ := advance_inBetween hs forward hok moved
    exact ⟨hforward, ⟨hbetween.forward, (fun _ h => nomatch h), (fun _ h => nomatch h), .nil⟩,
      fun _ => .of_quiet (advance_framed moved).sequence⟩
  | @directed id time trigger facts v w kinds _ decision _ forward moved held decided hit =>
    obtain ⟨hforward, hnow, hbetween⟩ := advance_inBetween hs forward hok moved
    obtain ⟨hlast, hwnow⟩ := hit.forward (fun event hevent => hforward event hevent) hnow.le
    have hwsequence : w.sequence = s.sequence := by
      rw [← (advance_framed moved).sequence]
      cases hit <;> rfl
    have hwhole : InBetween s w (kinds ++
        [(time, .dispatchApplied id facts.decisionId trigger decision)]) := by
      refine hbetween.trans (.of_now hwnow.ge fun entry hentry => ?_)
      rw [List.mem_singleton.mp hentry, hwnow]
      exact hnow.symm
    obtain ⟨hontime, hgapless⟩ := hwhole.numbered hwsequence
    rw [List.length_append, List.length_singleton] at hontime hgapless
    exact ⟨hlast, hontime, fun _ => hgapless⟩
  | ruled => exact ⟨hs, .of_quiet rfl, fun _ => .of_quiet rfl⟩
  | @requested _ id targetRegion held asked =>
    obtain ⟨hontime, hgapless⟩ := honce (.handoverRequested id
      (s.handoverToken id targetRegion) targetRegion) s rfl rfl
    exact ⟨hs, ⟨hontime.forward, hontime.lower, hontime.upper, hontime.sorted⟩,
      fun _ => hgapless⟩
  | overwritten =>
    exact ⟨hs, .of_quiet rfl, fun hnot => absurd rfl (hnot _)⟩
  | accepted receives taken checked free =>
    exact ⟨forward_insert hs (checkTrain_eq_ok checked).2.2.1, .of_quiet rfl,
      fun hnot => absurd rfl (hnot _)⟩
  | swept swept =>
    refine ⟨fun event hevent => ?_, .of_quiet swept.now.symm, fun _ => .of_quiet swept.sequence⟩
    rw [swept.now]
    exact hs event ((swept.schedule event).mp hevent).1

/-- During a call that keeps trains in time the clock never runs back. -/
lemma clockRuns_of_punctual {c : Call} (hs : s.Forward) (hok : s.punctual c = true) :
    s.clockRuns c = true := by
  have hforward : ∀ target, AllHandled (due target) tick leavesInTime
      (s.drainBound target + 1) s = true →
      AllHandled (due target) tick (fun u event => decide (u.now ≤ event.time))
        (s.drainBound target + 1) s = true := by
    intro target hall
    refine AllHandled.imp Forward (fun u event v out hu hdue hevent htick => ?_)
      (fun u event hu hdue _ => ?_) hs hall
    · exact (tick_inBetween hu hdue hevent htick).1
    · exact decide_eq_true (hu event (due_eq_some hdue).1)
  cases c with
  | command command =>
    cases command with
    | advanceTo target => exact hforward target hok
    | dispatch id time trigger facts => exact hforward time hok
    | _ => rfl
  | _ => rfl

/-! ### Runs -/

/-- The call takes a train over. -/
def takesOver : Call → Bool
  | .acceptHandover _ => true
  | _ => false

lemma run_forward {calls : List Call} {log : List DomainEvent} (hs : s.Forward)
    (hok : AllRun call punctual s calls = true) (h : s.run calls = some (t, log)) :
    t.Forward ∧ s.now ≤ t.now := by
  refine AllRun.invariant (fun u (_ : List DomainEvent) => u.Forward ∧ s.now ≤ u.now)
    (fun u c v log out hu hc hcall => ?_) [] ⟨hs, le_rfl⟩ hok h
  obtain ⟨hforward, hontime, -⟩ := call_onTime hu.1 hc hcall
  exact ⟨hforward, hu.2.trans hontime.forward⟩

/-- **The clock and the log.**  If all trains leave in time, then in every run from a new
region the clock never runs back, neither from call to call nor from event to event, and the
log is in the order of time; without trains that are taken over its numbers have no gap. -/
theorem run_chronicle {worldId : WorldId} {regionId : RegionId} {now : SimTime}
    {window : MaterializationWindow} {dispatcher : δ} {calls : List Call} {t : Simulation δ}
    {log : List DomainEvent}
    (hok : AllRun call punctual (.new worldId regionId now window dispatcher) calls = true)
    (h : (Simulation.new worldId regionId now window dispatcher).run calls = some (t, log)) :
    AllRun call clockRuns (.new worldId regionId now window dispatcher) calls = true ∧
      (∀ (past middle rest : List Call) (u v : Simulation δ) (first second : List DomainEvent),
        calls = past ++ middle ++ rest →
        (Simulation.new worldId regionId now window dispatcher).run past = some (u, first) →
        u.run middle = some (v, second) → u.now ≤ v.now) ∧
      (log.Pairwise fun a b => a.time ≤ b.time) ∧
      ((∀ c ∈ calls, takesOver c = false) →
        log.map DomainEvent.sequence = List.range' 1 log.length) := by
  have hnew : (Simulation.new worldId regionId now window dispatcher).Forward := by
    intro event hevent
    simp [Simulation.new] at hevent
  refine ⟨?_, ?_, ?_, ?_⟩
  · refine AllRun.imp Forward (fun u c v out hu hc hcall => ?_)
      (fun u c hu hc => clockRuns_of_punctual hu hc) hnew hok
    exact (call_onTime hu hc hcall).1
  · rintro past middle rest u v first second rfl hpast hmiddle
    rw [List.append_assoc] at hok
    obtain ⟨hfirst, hrest⟩ := AllRun.append hok hpast
    obtain ⟨hmiddleOk, -⟩ := AllRun.append hrest hmiddle
    exact (run_forward (run_forward hnew hfirst hpast).1 hmiddleOk hmiddle).2
  · have hsorted : t.Forward ∧ (∀ event ∈ ([] : List DomainEvent) ++ log, event.time ≤ t.now) ∧
        (([] : List DomainEvent) ++ log).Pairwise fun a b => a.time ≤ b.time := by
      refine AllRun.invariant (fun u (log : List DomainEvent) => u.Forward ∧
        (∀ event ∈ log, event.time ≤ u.now) ∧ log.Pairwise fun a b => a.time ≤ b.time)
        (fun u c v log out hu hc hcall => ?_) [] ⟨hnew, (fun _ h => nomatch h), .nil⟩ hok h
      obtain ⟨hforward, hontime, -⟩ := call_onTime hu.1 hc hcall
      refine ⟨hforward, fun event hevent => ?_, List.pairwise_append.mpr
        ⟨hu.2.2, hontime.sorted, fun a ha b hb => (hu.2.1 a ha).trans (hontime.lower b hb)⟩⟩
      rcases List.mem_append.mp hevent with hin | hin
      · exact (hu.2.1 event hin).trans hontime.forward
      · exact hontime.upper event hin
    exact hsorted.2.2
  · intro hnone
    have hkept : ∀ c ∈ calls, (!takesOver c) = true := fun c hc => by rw [hnone c hc]; rfl
    have hboth := AllRun.and hok (AllRun.of_forall hkept)
    have hnumbers : t.Forward ∧ t.sequence = ([] ++ log).length ∧
        ([] ++ log).map DomainEvent.sequence = List.range' 1 ([] ++ log).length := by
      refine AllRun.invariant (fun u (log : List DomainEvent) => u.Forward ∧
        u.sequence = log.length ∧ log.map DomainEvent.sequence = List.range' 1 log.length)
        (fun u c v log out hu hc hcall => ?_) [] ⟨hnew, rfl, rfl⟩ hboth h
      rw [Bool.and_eq_true, Bool.not_eq_true'] at hc
      obtain ⟨hforward, -, hgapless⟩ := call_onTime hu.1 hc.1 hcall
      obtain ⟨hmap, hsequence⟩ := hgapless fun envelope heq => by
        rw [heq] at hc
        cases hc.2
      refine ⟨hforward, by rw [hsequence, hu.2.1, List.length_append], ?_⟩
      rw [List.map_append, hu.2.2, hmap, hu.2.1, List.length_append, Nat.add_comm log.length 1,
        List.range'_append_1]
    exact hnumbers.2.2

end Calls

end Simulation

/-! ### A train that makes up for its delay -/

namespace TwoStops

/-- A rule that takes up any delay. -/
def recovery : DelayRule := ⟨100000, none, 0⟩

/-- A train that is ten thousand seconds late makes up for its delay at its first stop. -/
def recovering : List Call :=
  [.command (.materialize (train 1)), .setDelayRule 1 0 recovery,
    .command (.addDelay 1 10000), .command (.advanceTo 20000)]

/-- The train leaves the first stop after ten thousand seconds and arrives at the second one
after 3700 seconds. -/
theorem recovering_runs_back : ¬ ∀ (calls : List Call)
    (t : Simulation ConservativeDispatcher) (log : List DomainEvent),
    (region 7 ConservativeDispatcher.conservative).run calls = some (t, log) →
      log.Pairwise fun a b => a.time ≤ b.time := by
  intro hclaim
  have hrun : ((region 7 ConservativeDispatcher.conservative).run recovering).any (fun result =>
      !decide (result.2.Pairwise fun a b => a.time ≤ b.time)) = true := by
    decide +kernel
  obtain ⟨⟨t, log⟩, hresult, hnot⟩ := (Option.any_eq_true _ _).mp hrun
  rw [Bool.not_eq_true', decide_eq_false_iff_not] at hnot
  exact hnot (hclaim _ _ _ hresult)

/-- A train that is a minute late and stays so keeps the log in order. -/
theorem run_chronicle_late : ∃ (t : Simulation ConservativeDispatcher) (log : List DomainEvent),
    (region 7 ConservativeDispatcher.conservative).run [.command (.materialize (train 1)),
      .command (.addDelay 1 60), .command (.advanceTo 10000)] = some (t, log) ∧
      log.length = 7 ∧ log.map DomainEvent.sequence = List.range' 1 log.length := by
  have hrun : ((region 7 ConservativeDispatcher.conservative).run
      [.command (.materialize (train 1)), .command (.addDelay 1 60),
        .command (.advanceTo 10000)]).any (fun result => decide (result.2.length = 7)) = true := by
    decide +kernel
  obtain ⟨⟨t, log⟩, hresult, hlength⟩ := (Option.any_eq_true _ _).mp hrun
  have hok : AllRun Simulation.call Simulation.punctual
      (region 7 ConservativeDispatcher.conservative) [.command (.materialize (train 1)),
        .command (.addDelay 1 60), .command (.advanceTo 10000)] = true := by
    decide +kernel
  exact ⟨t, log, hresult, of_decide_eq_true hlength,
    (Simulation.run_chronicle hok hresult).2.2.2 (by decide)⟩

end TwoStops

end Zugfolge.Sim
