/-
What a call does with one train.

A call leaves a train alone, moves the clock, delays the train or directs it, drops it, or takes
in a train with its number.
-/
import Zugfolge.Sim.Journey

namespace Zugfolge.Sim

open Foundation
open Std (ExtTreeMap ExtTreeSet)

/-- The time that a call moves the clock to. -/
def Call.target : Call → Option SimTime
  | .command (.advanceTo target) | .command (.dispatch _ target _ _) => some target
  | _ => none

/-- The trains that a call delays, and by how much. -/
def Call.delays : Call → List TrainRunId × ℕ
  | .command (.addDelay id seconds) => ([id], seconds)
  | .command (.applyDisruption application) =>
    (application.affectedTrainRunIds, application.delaySeconds)
  | _ => ([], 0)

/-- Reports without their numbers. -/
def entries (out : List DomainEvent) : Output := out.map fun event => (event.time, event.kind)

lemma map_snd_entries (out : List DomainEvent) :
    (entries out).map Prod.snd = out.map DomainEvent.kind := List.map_map

namespace Simulation

variable {δ : Type} {s t : Simulation δ} {id other : TrainRunId} {train : TrainRun}

/-! ### Taking a train in -/

/-- The train, which the checks let pass, takes a number that is free. -/
def enters (s : Simulation δ) (train : TrainRun) : Bool :=
  (s.checkTrain train).any (fun checked => checked.toOption.isSome) &&
    !s.trains.contains train.id

/-- The train that a call takes in. -/
def takesIn (s : Simulation δ) : Call → Option TrainRun
  | .command (.materialize train) => if s.enters train then some train else none
  | .acceptHandover envelope =>
    if s.receives envelope then (s.takenOver envelope.train).filter s.enters else none
  | _ => none

/-- The call offers the train to the region. -/
def Offers (s : Simulation δ) (c : Call) (train : TrainRun) : Prop :=
  c = .command (.materialize train) ∨ ∃ envelope, c = .acceptHandover envelope ∧
    s.receives envelope = true ∧ s.takenOver envelope.train = some train

lemma enters_iff : s.enters train = true ↔
    (∃ first, s.checkTrain train = some (.ok first)) ∧ s.trains.contains train.id = false := by
  rw [enters, Bool.and_eq_true, Bool.not_eq_true', Option.any_eq_true]
  refine and_congr_left fun _ => ⟨?_, ?_⟩
  · rintro ⟨_ | first, hcheck, hok⟩
    · cases hok
    · exact ⟨first, hcheck⟩
  · rintro ⟨first, hcheck⟩
    exact ⟨_, hcheck, rfl⟩

lemma Offers.takesIn {c : Call} {first : Waypoint} (h : s.Offers c train)
    (hcheck : s.checkTrain train = some (.ok first)) (hfree : s.trains.contains train.id = false) :
    s.takesIn c = some train := by
  have henters := enters_iff.mpr ⟨⟨first, hcheck⟩, hfree⟩
  rcases h with rfl | ⟨envelope, rfl, hreceives, htaken⟩
  · rw [Simulation.takesIn, if_pos henters]
  · rw [Simulation.takesIn, if_pos hreceives, htaken, Option.filter_some, if_pos henters]

/-! ### The other trains -/

lemma sameTrain_insert {written : TrainRun} (hother : other ≠ id)
    (htrains : t.trains = s.trains.insert other written)
    (hschedule : ∀ event, event.trainRunId = id → (event ∈ t.schedule ↔ event ∈ s.schedule)) :
    SameTrain s t id :=
  ⟨by rw [htrains, Registry.getElem?_insert, if_neg hother.symm], hschedule⟩

lemma mem_schedule_insert {event later : ScheduledEvent} (hother : later.trainRunId ≠ id)
    (hevent : event.trainRunId = id) :
    event ∈ s.schedule.insert later ↔ event ∈ s.schedule := by
  rw [KeySet.mem_insert]
  refine ⟨fun hin => hin.resolve_left ?_, .inr⟩
  rintro rfl
  exact hother hevent

/-- A delay leaves the other trains alone. -/
lemma delayTrain_other {seconds : ℕ} {answer : Except SimError (SimTime × EventKind)}
    (hother : other ≠ id) (h : s.delayTrain other seconds = some (answer, t)) :
    SameTrain s t id := by
  cases hheld : s.trains[other]? with
  | none =>
    rcases delayTrain_spec h with ⟨-, -, rfl⟩ | ⟨_, hcontains, -⟩
    · exact ⟨rfl, fun _ _ => .rfl⟩
    · rw [Registry.contains_eq_false.mpr hheld] at hcontains
      cases hcontains
  | some train =>
    obtain ⟨delay, time, htrains, hqueue⟩ := delayTrain_queue hheld h
    refine sameTrain_insert hother htrains fun event hconcerned => ?_
    rw [hqueue event]
    constructor
    · rintro (⟨hin, -⟩ | ⟨kind, -, rfl⟩)
      · exact hin
      · exact absurd hconcerned hother
    · intro hin
      exact .inl ⟨hin, fun heq => hother (heq.symm.trans hconcerned)⟩

lemma Directed.elsewhere {time : SimTime} {decision : DispatchDecision}
    (h : Directed s other train time decision t) (hother : other ≠ id) : SameTrain s t id := by
  cases h with
  | ends =>
    refine sameTrain_insert hother rfl fun event hconcerned => ?_
    rw [KeySet.mem_filter, hconcerned]
    simp [hother.symm]
  | holds => exact sameTrain_insert hother rfl fun _ hevent => mem_schedule_insert hother hevent
  | waits => exact sameTrain_insert hother rfl fun _ _ => .rfl
  | skips => exact sameTrain_insert hother rfl fun _ hevent => mem_schedule_insert hother hevent
  | nothing => exact ⟨rfl, fun _ _ => .rfl⟩

/-! ### Calls -/

section Calls

variable [Dispatcher δ]

/-- The reports say nothing about the train. -/
def Unnamed (id : TrainRunId) (kinds : Output) : Prop :=
  ∀ kind ∈ kinds.map Prod.snd, Stage.concerns id kind = false

/-- What a call does with one train, with what it reports. -/
inductive Met (s : Simulation δ) (id : TrainRunId) : Call → Simulation δ → Output → Prop where
  | apart {c : Call} {t : Simulation δ} {kinds : Output} (same : SameTrain s t id)
      (unnamed : Unnamed id kinds) : Met s id c t kinds
  | dropped {c : Call} {t : Simulation δ} {kinds : Output} (gone : t.trains[id]? = none)
      (unnamed : Unnamed id kinds) : Met s id c t kinds
  | advanced {c : Call} {target : SimTime} {v t : Simulation δ} {kinds more : Output}
      (clock : c.target = some target) (moved : s.advance target = some (v, kinds))
      (same : SameTrain v t id) (unnamed : Unnamed id more) : Met s id c t (kinds ++ more)
  | lost {other : TrainRunId} {time : SimTime} {trigger : DispatchTrigger} {facts : DispatchFacts}
      {v : Simulation δ} {kinds : Output} (moved : s.advance time = some (v, kinds))
      (unknown : v.trains.contains other = false) :
      Met s id (.command (.dispatch other time trigger facts)) v []
  | delayed {c : Call} {ids : List TrainRunId} {answer : Except SimError Output}
      {v t : Simulation δ} {kinds : Output} (named : ∀ other ∈ ids, other ∈ c.delays.1)
      (done : s.delayTrains c.delays.2 ids = some (answer, v)) (after : Delayed s v)
      (same : SameTrain v t id) (unnamed : Unnamed id kinds) : Met s id c t kinds
  | directed {time : SimTime} {trigger : DispatchTrigger} {facts : DispatchFacts}
      {v w t : Simulation δ} {kinds : Output} {train : TrainRun} {decision : DispatchDecision}
      {dispatcher : δ} (moved : s.advance time = some (v, kinds))
      (held : v.trains[id]? = some train)
      (decided : Dispatcher.decide v.dispatcher train time trigger facts
        = some (decision, dispatcher))
      (hit : Directed { v with dispatcher := dispatcher } id train time decision w)
      (same : SameTrain w t id) :
      Met s id (.command (.dispatch id time trigger facts)) t
        (kinds ++ [(time, .dispatchApplied id facts.decisionId trigger decision)])
  | written {c : Call} {train : TrainRun} {first : Waypoint} (offered : s.Offers c train)
      (checked : s.checkTrain train = some (.ok first))
      (held : s.trains.contains train.id = true) (own : train.id = id) :
      Met s id c (s.putTrain train.id train) []
  | taken {c : Call} {train : TrainRun} {first : Waypoint} {t : Simulation δ} {kinds : Output}
      (offered : s.Offers c train) (checked : s.checkTrain train = some (.ok first))
      (free : s.trains.contains train.id = false) (own : train.id = id) : Met s id c t kinds

omit [Dispatcher δ] in
lemma entries_numbered (kinds : Output) : entries (s.numbered kinds) = kinds := by
  rw [entries, numbered, List.map_map]
  exact List.zipIdx_map_fst _ kinds

/-- Every call does one of these with a train. -/
lemma met_of_call (id : TrainRunId) {c : Call} {out : List DomainEvent}
    (h : s.call c = some (t, out)) : Met s id c t (entries out) := by
  have hnone : Unnamed id [] := fun _ hin => nomatch hin
  -- a train that is written or taken in is the train itself, or it leaves the train alone
  have hwritten : ∀ {c : Call} {train : TrainRun} {first : Waypoint}, s.Offers c train →
      s.checkTrain train = some (.ok first) → s.trains.contains train.id = true →
      Met s id c (s.putTrain train.id train) [] := by
    intro c train first hoffers hcheck hheld
    by_cases hown : train.id = id
    · exact .written hoffers hcheck hheld hown
    · exact .apart (sameTrain_insert hown rfl fun _ _ => .rfl) hnone
  have htaken : ∀ {c : Call} {train : TrainRun} {first : Waypoint} {v : Simulation δ}
      {kinds : Output}, s.Offers c train → s.checkTrain train = some (.ok first) →
      s.trains.contains train.id = false → v.trains = s.trains.insert train.id train →
      v.schedule = s.schedule.insert ⟨first.arrival, train.id, train.nextWaypoint, .arrive⟩ →
      Unnamed id kinds → Met s id c v kinds := by
    intro c train first v kinds hoffers hcheck hfree htrains hschedule hkinds
    by_cases hown : train.id = id
    · exact .taken hoffers hcheck hfree hown
    · refine .apart (sameTrain_insert hown htrains fun _ hevent => ?_) hkinds
      rw [hschedule, mem_schedule_insert hown hevent]
  cases called_of_call h with
  | refused => exact .apart ⟨rfl, fun _ _ => .rfl⟩ hnone
  | replaced checked held => exact hwritten (.inl rfl) checked held
  | entered checked free =>
    rw [entries_numbered]
    exact htaken (.inl rfl) checked free rfl rfl (by simp [Unnamed, Stage.concerns])
  | @advanced target v kinds forward moved =>
    rw [entries_numbered, ← List.append_nil kinds]
    exact .advanced rfl moved ⟨rfl, fun _ _ => .rfl⟩ hnone
  | @delayed other seconds v delay done =>
    rw [entries_numbered]
    have hdone : s.delayTrains seconds [other]
        = some (.ok [(s.now, .delayChanged other delay)], v) := by
      rw [delayTrains, done]
      rfl
    rcases delayTrain_spec done with ⟨-, herror, -⟩ | ⟨_, -, -, hafter⟩
    · cases herror
    · exact .delayed (fun _ hin => hin) hdone hafter ⟨rfl, fun _ _ => .rfl⟩
        (by simp [Unnamed, Stage.concerns])
  | @disrupted application applied ids v kinds named held done =>
    obtain ⟨hafter, others, hkinds, hdelays⟩ := delayTrains_spec held done
    cases hkinds
    rw [entries_numbered]
    refine .delayed named done hafter ⟨rfl, fun _ _ => .rfl⟩ fun kind hkind => ?_
    rw [List.map_append, List.mem_append] at hkind
    rcases hkind with hkind | hkind
    · obtain ⟨entry, hentry, rfl⟩ := List.mem_map.mp hkind
      obtain ⟨-, other, delay, hdelayed⟩ := hdelays entry hentry
      rw [hdelayed]
      rfl
    · obtain rfl := List.mem_singleton.mp hkind
      rfl
  | @confirmed token targetRegion dropped pending =>
    rw [entries_numbered]
    have hunnamed : Unnamed id
        [(s.now, .handoverCompleted dropped token targetRegion)] := by
      simp [Unnamed, Stage.concerns]
    by_cases hown : dropped = id
    · exact .dropped (by rw [Registry.getElem?_erase, if_pos hown.symm]) hunnamed
    · refine .apart ⟨?_, fun _ _ => .rfl⟩ hunnamed
      rw [Registry.getElem?_erase, if_neg (Ne.symm hown)]
  | lost forward moved unknown => exact .lost moved unknown
  | @directed other time trigger facts v w kinds train decision dispatcher forward moved held
      decided hit =>
    rw [entries_numbered]
    by_cases hown : other = id
    · subst hown
      exact .directed moved held decided hit ⟨rfl, fun _ _ => .rfl⟩
    · have hsame : SameTrain { v with dispatcher := dispatcher } w id := hit.elsewhere hown
      exact .advanced rfl moved ⟨hsame.held, hsame.scheduled⟩ (by simp [Unnamed, Stage.concerns,
        hown])
  | ruled => exact .apart ⟨rfl, fun _ _ => .rfl⟩ hnone
  | requested =>
    rw [entries_numbered]
    exact .apart ⟨rfl, fun _ _ => .rfl⟩ (by simp [Unnamed, Stage.concerns])
  | overwritten receives taken checked held =>
    exact hwritten (.inr ⟨_, rfl, receives, taken⟩) checked held
  | accepted receives taken checked free =>
    exact htaken (.inr ⟨_, rfl, receives, taken⟩) checked free rfl rfl hnone
  | @swept before t swept =>
    by_cases hown : id ∈ s.finishedBefore before
    · exact .dropped (by rw [swept.trains id, if_pos hown]) hnone
    · refine .apart ⟨by rw [swept.trains id, if_neg hown], fun event hconcerned => ?_⟩ hnone
      rw [swept.schedule event, hconcerned]
      exact and_iff_left hown

end Calls

end Simulation

end Zugfolge.Sim
