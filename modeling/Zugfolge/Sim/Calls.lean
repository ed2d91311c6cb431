/-
What a command does to a region.
-/
import Zugfolge.Sim.Advance

namespace Zugfolge.Sim

open Foundation
open Std (ExtTreeMap ExtTreeSet)

namespace Reply

variable {δ α β : Type}

lemma andThen_eq_some {reply : Reply δ α} {next : α → Simulation δ → Reply δ β}
    {answer : Except SimError β} {t : Simulation δ} (h : reply.andThen next = some (answer, t)) :
    (∃ error, reply = some (.error error, t) ∧ answer = .error error) ∨
      ∃ a u, reply = some (.ok a, u) ∧ next a u = some (answer, t) := by
  rcases reply with _ | ⟨_ | a, u⟩
  · cases h
  · cases h
    exact .inl ⟨_, rfl, rfl⟩
  · exact .inr ⟨a, u, rfl, h⟩

end Reply

namespace Simulation

variable {δ : Type} {s t u : Simulation δ}

/-! ### Numbering -/

/-- The numbered output of a call. -/
def numbered (s : Simulation δ) (kinds : Output) : List DomainEvent :=
  (kinds.zipIdx (s.sequence + 1)).map fun entry => ⟨s.worldId, entry.2, entry.1.1, entry.1.2⟩

lemma events_eq_some {kinds : Output} {answer : Except SimError (List DomainEvent)}
    (h : s.events kinds = some (answer, t)) :
    answer = .ok (s.numbered kinds) ∧ t = { s with sequence := s.sequence + kinds.length } := by
  rw [events] at h
  split at h
  · cases h
    exact ⟨rfl, rfl⟩
  · cases h

/-! ### Taking a train in -/

/-- A train that the checks let pass is not over and on its route before the arrival. -/
lemma checkTrain_eq_ok {train : TrainRun} {first : Waypoint}
    (h : s.checkTrain train = some (.ok first)) :
    train.nextWaypoint < train.route.length ∧ train.route[train.nextWaypoint]? = some first ∧
      s.now ≤ first.arrival ∧ train.worldId = s.worldId ∧ train.regionId = s.regionId := by
  rw [checkTrain] at h
  split at h
  · cases h
  next hvalid =>
    have hin := TrainRun.lt_length_of_validate hvalid
    split at h
    · cases h
    next hworld =>
      split at h
      · cases h
      next hregion =>
        obtain ⟨point, hpoint, h⟩ := Option.bind_eq_some_iff.mp h
        split at h
        · cases h
        next hlate =>
          obtain ⟨horizon, -, h⟩ := Option.map_eq_some_iff.mp h
          split at h
          · cases h
          · cases h
            exact ⟨hin, hpoint, not_lt.mp hlate, not_not.mp hworld, not_not.mp hregion⟩

/-- A train is refused, replaces the train with its number or is taken in. -/
lemma materialize_spec {train : TrainRun} {answer : Except SimError (List DomainEvent)}
    (h : s.materialize train = some (answer, t)) :
    (∃ error, s.checkTrain train = some (.error error) ∧ answer = .error error ∧ t = s) ∨
    (∃ first, s.checkTrain train = some (.ok first) ∧ s.trains.contains train.id = true ∧
      answer = .error .duplicateTrain ∧ t = s.putTrain train.id train) ∨
    (∃ first, s.checkTrain train = some (.ok first) ∧ s.trains.contains train.id = false ∧
      answer = .ok (s.numbered [(s.now, .materialized train.id)]) ∧
      t = { s with
        trains := s.trains.insert train.id train
        schedule := s.schedule.insert ⟨first.arrival, train.id, train.nextWaypoint, .arrive⟩
        sequence := s.sequence + 1 }) := by
  rw [materialize] at h
  split at h
  · cases h
  next error hcheck =>
    cases h
    exact .inl ⟨error, hcheck, rfl, rfl⟩
  next first hcheck =>
    split at h
    next hheld =>
      cases h
      exact .inr (.inl ⟨first, hcheck, hheld, rfl, rfl⟩)
    next hfree =>
      obtain ⟨rfl, rfl⟩ := events_eq_some h
      exact .inr (.inr ⟨first, hcheck, (Bool.not_eq_true _).mp hfree, rfl, rfl⟩)

/-! ### Delays -/

/-- The effect of delays: trains keep all but their delays, and what they wait for may be
scheduled anew, no earlier than now. -/
structure Delayed (s t : Simulation δ) : Prop where
  worldId : t.worldId = s.worldId
  regionId : t.regionId = s.regionId
  now : t.now = s.now
  sequence : t.sequence = s.sequence
  window : t.window = s.window
  pendingHandovers : t.pendingHandovers = s.pendingHandovers
  delayRules : t.delayRules = s.delayRules
  resourceOwners : t.resourceOwners = s.resourceOwners
  trains : ∀ id : TrainRunId, ∃ delay : Int,
    t.trains[id]? = (s.trains[id]?).map fun train => { train with delaySeconds := delay }
  schedule : ∀ event ∈ t.schedule, event ∈ s.schedule ∨ ∃ train,
    s.trains[event.trainRunId]? = some train ∧ event.waypoint = train.nextWaypoint ∧
      s.now ≤ event.time ∧
      (event.kind = .arrive ∧ (train.status = .planned ∨ train.status = .running) ∨
        event.kind = .depart ∧ (train.status = .atPlatform ∨ train.status = .waiting))

namespace Delayed

lemma refl (s : Simulation δ) : Delayed s s where
  worldId := rfl
  regionId := rfl
  now := rfl
  sequence := rfl
  window := rfl
  pendingHandovers := rfl
  delayRules := rfl
  resourceOwners := rfl
  trains := fun id => by
    cases htrain : s.trains[id]? with
    | none => exact ⟨0, rfl⟩
    | some train => exact ⟨train.delaySeconds, rfl⟩
  schedule := fun _ hin => .inl hin

lemma trans (hfirst : Delayed s t) (hsecond : Delayed t u) : Delayed s u where
  worldId := hsecond.worldId.trans hfirst.worldId
  regionId := hsecond.regionId.trans hfirst.regionId
  now := hsecond.now.trans hfirst.now
  sequence := hsecond.sequence.trans hfirst.sequence
  window := hsecond.window.trans hfirst.window
  pendingHandovers := hsecond.pendingHandovers.trans hfirst.pendingHandovers
  delayRules := hsecond.delayRules.trans hfirst.delayRules
  resourceOwners := hsecond.resourceOwners.trans hfirst.resourceOwners
  trains := fun id => by
    obtain ⟨first, hone⟩ := hfirst.trains id
    obtain ⟨second, htwo⟩ := hsecond.trains id
    refine ⟨second, ?_⟩
    rw [htwo, hone, Option.map_map]
    rfl
  schedule := fun event hin => by
    rcases hsecond.schedule event hin with hin | ⟨train, htrain, hwaypoint, hnow, hkind⟩
    · exact hfirst.schedule event hin
    · obtain ⟨delay, hone⟩ := hfirst.trains event.trainRunId
      rw [htrain] at hone
      obtain ⟨earlier, hearlier, rfl⟩ := Option.map_eq_some_iff.mp hone.symm
      exact .inr ⟨earlier, hearlier, hwaypoint, hfirst.now ▸ hnow, hkind⟩

lemma contains_eq (h : Delayed s t) (id : TrainRunId) :
    t.trains.contains id = s.trains.contains id := by
  obtain ⟨delay, hid⟩ := h.trains id
  rw [ExtTreeMap.contains_eq_isSome_getElem?, ExtTreeMap.contains_eq_isSome_getElem?, hid,
    Option.isSome_map]

end Delayed

variable {answer : Except SimError (List DomainEvent)} {id : TrainRunId} {seconds : ℕ}
  {train : TrainRun}

/-- The queue of a train is replaced by the one event that it waits for. -/
lemma rescheduleTrain_queue {answer : Except SimError Unit}
    (htrain : s.trains[id]? = some train) (h : s.rescheduleTrain id = some (answer, t)) :
    t.trains = s.trains ∧ ∃ time, ∀ event, event ∈ t.schedule ↔
      event ∈ s.schedule ∧ event.trainRunId ≠ id ∨
        ∃ kind, train.status.waitsFor = some kind ∧
          event = ⟨time, id, train.nextWaypoint, kind⟩ := by
  have hdropped : train.status.waitsFor = none → ∀ event, event ∈ (s.dropEvents id).schedule ↔
      event ∈ s.schedule ∧ event.trainRunId ≠ id ∨ ∃ kind, train.status.waitsFor = some kind ∧
        event = ⟨0, id, train.nextWaypoint, kind⟩ := by
    intro hnone event
    simp [hnone, dropEvents]
  have hentered : ∀ {kind : ScheduledKind}, train.status.waitsFor = some kind → ∀ time event,
      event ∈ ((s.dropEvents id).enqueue ⟨time, id, train.nextWaypoint, kind⟩).schedule ↔
      event ∈ s.schedule ∧ event.trainRunId ≠ id ∨ ∃ kind, train.status.waitsFor = some kind ∧
        event = ⟨time, id, train.nextWaypoint, kind⟩ := by
    intro kind hkind time event
    rw [enqueue, KeySet.mem_insert, or_comm]
    simp [hkind, dropEvents]
  simp only [rescheduleTrain, htrain] at h
  cases hstatus : train.status <;> simp only [hstatus] at h hdropped hentered
  case completed | cancelled =>
    cases h
    exact ⟨rfl, _, hdropped rfl⟩
  all_goals
    obtain ⟨point, -, heq⟩ := Option.map_eq_some_iff.mp h
    obtain ⟨-, rfl⟩ := Prod.mk.inj heq
    exact ⟨rfl, _, hentered rfl _⟩

/-- What a train of the region waits for is scheduled anew. -/
lemma rescheduleTrain_spec {answer : Except SimError Unit}
    (htrain : s.trains[id]? = some train) (h : s.rescheduleTrain id = some (answer, t)) :
    answer = .ok () ∧ Delayed s t := by
  have hdrop : Delayed s (s.dropEvents id) :=
    { Delayed.refl s with
      schedule := fun event hin => .inl (KeySet.mem_filter.mp hin).1 }
  have hentry : ∀ event : ScheduledEvent, event.trainRunId = id →
      event.waypoint = train.nextWaypoint → s.now ≤ event.time →
      (event.kind = .arrive ∧ (train.status = .planned ∨ train.status = .running) ∨
        event.kind = .depart ∧ (train.status = .atPlatform ∨ train.status = .waiting)) →
      Delayed s ((s.dropEvents id).enqueue event) := by
    intro event hid hwaypoint hnow hkind
    refine { Delayed.refl s with schedule := fun other hin => ?_ }
    rcases KeySet.mem_insert.mp hin with rfl | hin
    · exact .inr ⟨train, by rw [hid]; exact htrain, hwaypoint, hnow, hkind⟩
    · exact .inl (KeySet.mem_filter.mp hin).1
  simp only [rescheduleTrain, htrain] at h
  cases hstatus : train.status <;> simp only [hstatus] at h
  case completed | cancelled =>
    cases h
    exact ⟨rfl, hdrop⟩
  all_goals
    obtain ⟨point, -, heq⟩ := Option.map_eq_some_iff.mp h
    obtain ⟨rfl, rfl⟩ := Prod.mk.inj heq
    exact ⟨rfl, hentry _ rfl rfl (le_max_right _ _) (by simp [hstatus])⟩

/-- A train of the region is delayed; a train that is not there is refused. -/
lemma delayTrain_spec {answer : Except SimError (SimTime × EventKind)}
    (h : s.delayTrain id seconds = some (answer, t)) :
    (s.trains.contains id = false ∧ answer = .error .unknownTrain ∧ t = s) ∨
      ∃ delay, s.trains.contains id = true ∧ answer = .ok (s.now, .delayChanged id delay) ∧
        Delayed s t := by
  rw [delayTrain] at h
  cases htrain : s.trains[id]? with
  | none =>
    simp only [htrain] at h
    cases h
    exact .inl ⟨Registry.contains_eq_false.mpr htrain, rfl, rfl⟩
  | some train =>
    simp only [htrain] at h
    have hput : Delayed s (s.putTrain id
        { train with delaySeconds := addSat64 train.delaySeconds seconds }) := by
      refine { Delayed.refl s with trains := fun other => ?_ }
      rw [putTrain, Registry.getElem?_insert]
      split
      next heq => exact ⟨addSat64 train.delaySeconds seconds, by rw [heq, htrain]; rfl⟩
      · exact (Delayed.refl s).trains other
    have hthere := s.getElem?_putTrain id
      { train with delaySeconds := addSat64 train.delaySeconds seconds }
    rcases Reply.andThen_eq_some h with ⟨error, hrefused, -⟩ | ⟨_, v, hdone, hanswer⟩
    · cases (rescheduleTrain_spec hthere hrefused).1
    · cases hanswer
      have hdelayed := hput.trans (rescheduleTrain_spec hthere hdone).2
      refine .inr ⟨addSat64 train.delaySeconds seconds,
        Registry.contains_iff.mpr ⟨train, htrain⟩, ?_, hdelayed⟩
      rw [hdelayed.now]

/-- A delay is written to the train, and its queue is replaced. -/
lemma delayTrain_queue
    {answer : Except SimError (SimTime × EventKind)} (htrain : s.trains[id]? = some train)
    (h : s.delayTrain id seconds = some (answer, t)) :
    ∃ delay time, t.trains = s.trains.insert id { train with delaySeconds := delay } ∧
      ∀ event, event ∈ t.schedule ↔ event ∈ s.schedule ∧ event.trainRunId ≠ id ∨
        ∃ kind, train.status.waitsFor = some kind ∧
          event = ⟨time, id, train.nextWaypoint, kind⟩ := by
  rw [delayTrain] at h
  simp only [htrain] at h
  have hthere := s.getElem?_putTrain id
    { train with delaySeconds := addSat64 train.delaySeconds seconds }
  have hdone : ∃ done, (s.putTrain id { train with
      delaySeconds := addSat64 train.delaySeconds seconds }).rescheduleTrain id
        = some (done, t) := by
    rcases Reply.andThen_eq_some h with ⟨error, hrefused, -⟩ | ⟨done, v, hdone, hanswer⟩
    · exact ⟨_, hrefused⟩
    · cases hanswer
      exact ⟨_, hdone⟩
  obtain ⟨done, hdone⟩ := hdone
  obtain ⟨htrains, time, hqueue⟩ := rescheduleTrain_queue hthere hdone
  exact ⟨_, time, htrains, hqueue⟩

/-- Trains of the region are delayed one after another. -/
lemma delayTrains_spec :
    ∀ {ids : List TrainRunId} {s t : Simulation δ} {answer : Except SimError Output},
      (∀ id ∈ ids, s.trains.contains id = true) → s.delayTrains seconds ids = some (answer, t) →
      Delayed s t ∧ ∃ kinds, answer = .ok kinds ∧ ∀ entry ∈ kinds, entry.1 = s.now ∧
        ∃ id delay, entry.2 = .delayChanged id delay := by
  intro ids
  induction ids with
  | nil =>
    intro s t answer _ h
    cases h
    exact ⟨.refl _, [], rfl, fun _ hin => nomatch hin⟩
  | cons id ids ih =>
    intro s t answer hheld h
    rw [List.forall_mem_cons] at hheld
    rw [delayTrains] at h
    rcases Reply.andThen_eq_some h with ⟨error, hrefused, -⟩ | ⟨kind, v, hfirst, h⟩
    · rcases delayTrain_spec hrefused with ⟨hnot, -, -⟩ | ⟨_, -, hok, -⟩
      · rw [hheld.1] at hnot
        cases hnot
      · cases hok
    · rcases delayTrain_spec hfirst with ⟨-, herror, -⟩ | ⟨delay, -, hkind, hdelayed⟩
      · cases herror
      · cases hkind
        have hrestHeld : ∀ other ∈ ids, v.trains.contains other = true := by
          intro other hother
          rw [hdelayed.contains_eq]
          exact hheld.2 other hother
        rcases Reply.andThen_eq_some h with ⟨error, hrefused, -⟩ | ⟨kinds, w, hrest, h⟩
        · obtain ⟨-, kinds, hok, -⟩ := ih hrestHeld hrefused
          cases hok
        · obtain ⟨hmore, others, hok, hkinds⟩ := ih hrestHeld hrest
          cases hok
          cases h
          refine ⟨hdelayed.trans hmore, _, rfl, ?_⟩
          rw [List.forall_mem_cons]
          refine ⟨⟨rfl, id, delay, rfl⟩, fun entry hentry => ?_⟩
          rw [← hdelayed.now]
          exact hkinds entry hentry

/-- A disruption is refused, or it delays its trains one after another. -/
lemma applyDisruption_delays {application : DisruptionApplication}
    (h : s.applyDisruption application = some (answer, t)) :
    (∃ error, answer = .error error ∧ t = s) ∨
      ∃ ids v kinds applied, (∀ id ∈ ids, id ∈ application.affectedTrainRunIds) ∧
        (∀ id ∈ ids, s.trains.contains id = true) ∧
        s.delayTrains application.delaySeconds ids = some (.ok kinds, v) ∧
        answer = .ok (v.numbered (kinds ++ [(v.now, .disruptionApplied applied)])) ∧
        t = { v with sequence := v.sequence + (kinds.length + 1) } := by
  rw [applyDisruption] at h
  split at h
  · cases h
    exact .inl ⟨_, rfl, rfl⟩
  · dsimp only at h
    split at h
    · cases h
      exact .inl ⟨_, rfl, rfl⟩
    next hknown =>
      have hheld : ∀ id ∈ (Std.ExtTreeSet.ofList application.affectedTrainRunIds compare).toList,
          s.trains.contains id = true := by
        intro id hid
        rw [List.any_eq_true] at hknown
        push Not at hknown
        simpa using hknown id hid
      have hnamed : ∀ id ∈ (Std.ExtTreeSet.ofList application.affectedTrainRunIds compare).toList,
          id ∈ application.affectedTrainRunIds := by
        intro id hid
        rwa [ExtTreeSet.mem_toList, KeySet.mem_ofList] at hid
      rcases Reply.andThen_eq_some h with ⟨error, hrefused, -⟩ | ⟨kinds, v, hdelay, h⟩
      · obtain ⟨-, kinds, hok, -⟩ := delayTrains_spec hheld hrefused
        cases hok
      · obtain ⟨rfl, rfl⟩ := events_eq_some h
        refine .inr ⟨_, v, kinds, _, hnamed, hheld, hdelay, rfl, ?_⟩
        rw [List.length_append, List.length_singleton]

/-- A disruption is refused, or it delays trains. -/
lemma applyDisruption_spec {application : DisruptionApplication}
    (h : s.applyDisruption application = some (answer, t)) :
    (∃ error, answer = .error error ∧ t = s) ∨
      ∃ v kinds, Delayed s v ∧ answer = .ok (v.numbered kinds) ∧
        t = { v with sequence := v.sequence + kinds.length } ∧
        ∀ entry ∈ kinds, entry.1 = s.now ∧ ((∃ id delay, entry.2 = .delayChanged id delay) ∨
          ∃ applied, entry.2 = .disruptionApplied applied) := by
  rcases applyDisruption_delays h with hrefused | ⟨ids, v, kinds, applied, -, hheld, hdelay, rfl,
    rfl⟩
  · exact .inl hrefused
  · obtain ⟨hdelayed, others, hok, hkinds⟩ := delayTrains_spec hheld hdelay
    cases hok
    refine .inr ⟨v, _, hdelayed, rfl, ?_, fun entry hentry => ?_⟩
    · rw [List.length_append, List.length_singleton]
    · rcases List.mem_append.mp hentry with hentry | hentry
      · obtain ⟨htime, hkind⟩ := hkinds entry hentry
        exact ⟨htime, .inl hkind⟩
      · obtain rfl := List.mem_singleton.mp hentry
        exact ⟨hdelayed.now, .inr ⟨_, rfl⟩⟩

/-! ### Dropping a train -/

/-- A confirmation is refused, or it drops the train of the handover. -/
lemma confirmHandover_spec {token : UInt64} {targetRegion : RegionId}
    (h : s.confirmHandover token targetRegion = some (answer, t)) :
    (∃ error, answer = .error error ∧ t = s ∧
      s.pendingHandovers[token]?.all (fun pending => pending.targetRegion != targetRegion)) ∨
    ∃ id, s.pendingHandovers[token]? = some ⟨id, targetRegion⟩ ∧
      answer = .ok (s.numbered [(s.now, .handoverCompleted id token targetRegion)]) ∧
      t = { s with
        pendingHandovers := s.pendingHandovers.erase token
        trains := s.trains.erase id
        sequence := s.sequence + 1 } := by
  rw [confirmHandover] at h
  cases hpending : s.pendingHandovers[token]? with
  | none =>
    simp only [hpending] at h
    cases h
    exact .inl ⟨_, rfl, rfl, rfl⟩
  | some pending =>
    simp only [hpending] at h
    split at h
    next hother =>
      cases h
      exact .inl ⟨_, rfl, rfl, by simpa using hother⟩
    next hsame =>
      obtain ⟨rfl, rfl⟩ := events_eq_some h
      obtain ⟨id, region⟩ := pending
      obtain rfl : region = targetRegion := not_not.mp hsame
      exact .inr ⟨id, rfl, rfl, rfl⟩

/-! ### Decisions from outside -/

/-- The effect of a decision that hits a train at a time. -/
inductive Directed (s : Simulation δ) (id : TrainRunId) (train : TrainRun) (time : SimTime)
    (decision : DispatchDecision) : Simulation δ → Prop where
  | ends {status : OperatingStatus} (ended : decision.ends = some status) :
      Directed s id train time decision
        { s with
          trains := s.trains.insert id { train with status := status }
          schedule := s.schedule.filter fun event => event.trainRunId != id }
  | holds {limit : SimTime} (held : decision = .holdUntil limit) (later : time < limit)
      (ahead : train.nextWaypoint < train.route.length) :
      Directed s id train time decision
        { s with
          trains := s.trains.insert id { train with status := .waiting }
          schedule := s.schedule.insert ⟨limit, id, train.nextWaypoint, .depart⟩ }
  | waits {limit : SimTime} (held : decision = .holdUntil limit) (later : time < limit)
      (behind : train.route.length ≤ train.nextWaypoint) :
      Directed s id train time decision
        { s with trains := s.trains.insert id { train with status := .waiting } }
  | skips {next : Waypoint} {arrival : SimTime} (skipped : decision = .skipStop)
      (following : train.route[train.nextWaypoint + 1]? = some next) (later : time ≤ arrival) :
      Directed s id train time decision
        { s with
          trains := s.trains.insert id
            { train with nextWaypoint := train.nextWaypoint + 1, status := .running }
          schedule := s.schedule.insert ⟨arrival, id, train.nextWaypoint + 1, .arrive⟩ }
  | nothing (kept : decision.ends = none)
      (here : decision = .skipStop → train.route.length ≤ train.nextWaypoint + 1) :
      Directed s id train time decision s

/-- A decision about a train of the region has one of the effects. -/
lemma applyExternalDispatch_spec {time : SimTime}
    {decision : DispatchDecision} {answer : Except SimError Unit}
    (htrain : s.trains[id]? = some train)
    (h : s.applyExternalDispatch id time decision = some (answer, t)) :
    answer = .ok () ∧ Directed s id train time decision t := by
  have hends : ∀ status, decision.ends = some status →
      Directed s id train time decision ((s.setStatus id status).dropEvents id) := by
    intro status hended
    rw [setStatus_eq htrain]
    exact .ends hended
  simp only [applyExternalDispatch, htrain] at h
  cases hdecision : decision <;> simp only [hdecision] at h hends
  case cancel | triggerRailReplacement | shortTurn =>
    cases h
    exact ⟨rfl, hends _ rfl⟩
  case holdUntil limit =>
    split at h
    next hlater =>
      cases h
      rw [setStatus_eq htrain]
      refine ⟨rfl, ?_⟩
      split
      next hahead => exact .holds rfl hlater hahead
      next hbehind => exact .waits rfl hlater (not_lt.mp hbehind)
    next hnow =>
      cases h
      exact ⟨rfl, .nothing rfl fun heq => nomatch heq⟩
  case skipStop =>
    split at h
    next hahead =>
      obtain ⟨next, hnext, heq⟩ := Option.map_eq_some_iff.mp h
      obtain ⟨rfl, rfl⟩ := Prod.mk.inj heq
      exact ⟨rfl, .skips rfl hnext (le_max_right _ _)⟩
    next hlast =>
      cases h
      exact ⟨rfl, .nothing rfl fun _ => not_lt.mp hlast⟩
  all_goals
    cases h
    exact ⟨rfl, .nothing rfl fun heq => nomatch heq⟩

variable [Dispatcher δ]

/-- The clock is moved, or the call is refused since it would run backwards. -/
lemma advanceTo_spec {target : SimTime} (h : s.advanceTo target = some (answer, t)) :
    (target < s.now ∧ answer = .error .timeReversal ∧ t = s) ∨
      ∃ v kinds, s.now ≤ target ∧ s.advance target = some (v, kinds) ∧
        answer = .ok (v.numbered kinds) ∧
        t = { v with sequence := v.sequence + kinds.length } := by
  rw [advanceTo] at h
  split at h
  next hback =>
    cases h
    exact .inl ⟨hback, rfl, rfl⟩
  next hforth =>
    obtain ⟨⟨v, kinds⟩, hadvance, h⟩ := Option.bind_eq_some_iff.mp h
    obtain ⟨rfl, rfl⟩ := events_eq_some h
    exact .inr ⟨v, kinds, not_lt.mp hforth, hadvance, rfl, rfl⟩

/-- The clock is moved, and then the train is refused or a decision hits it. -/
lemma dispatch_spec {time : SimTime} {trigger : DispatchTrigger} {facts : DispatchFacts}
    (h : s.dispatch id time trigger facts = some (answer, t)) :
    (time < s.now ∧ answer = .error .timeReversal ∧ t = s) ∨
    ∃ v kinds, s.now ≤ time ∧ s.advance time = some (v, kinds) ∧
      ((v.trains.contains id = false ∧ answer = .error .unknownTrain ∧ t = v) ∨
        ∃ train decision dispatcher w, v.trains[id]? = some train ∧
          Dispatcher.decide v.dispatcher train time trigger facts = some (decision, dispatcher) ∧
          Directed { v with dispatcher := dispatcher } id train time decision w ∧
          answer = .ok (w.numbered
            (kinds ++ [(time, .dispatchApplied id facts.decisionId trigger decision)])) ∧
          t = { w with sequence := w.sequence + (kinds.length + 1) }) := by
  rw [dispatch] at h
  split at h
  next hback =>
    cases h
    exact .inl ⟨hback, rfl, rfl⟩
  next hforth =>
    obtain ⟨⟨v, kinds⟩, hadvance, h⟩ := Option.bind_eq_some_iff.mp h
    refine .inr ⟨v, kinds, not_lt.mp hforth, hadvance, ?_⟩
    cases htrain : v.trains[id]? with
    | none =>
      simp only [htrain] at h
      cases h
      exact .inl ⟨Registry.contains_eq_false.mpr htrain, rfl, rfl⟩
    | some train =>
      simp only [htrain] at h
      obtain ⟨⟨decision, decided⟩, hasked, h⟩ := Option.bind_eq_some_iff.mp h
      obtain ⟨dispatcher, hdecide, hstate⟩ := askDispatcher_eq_some hasked
      simp only at hdecide hstate h
      subst hstate
      have hthere : ({ v with dispatcher := dispatcher } : Simulation δ).trains[id]?
          = some train := htrain
      rcases Reply.andThen_eq_some h with ⟨error, hrefused, -⟩ | ⟨_, w, hdone, h⟩
      · cases (applyExternalDispatch_spec hthere hrefused).1
      · obtain ⟨rfl, rfl⟩ := events_eq_some h
        refine .inr ⟨train, decision, dispatcher, w, rfl, hdecide,
          (applyExternalDispatch_spec hthere hdone).2, rfl, ?_⟩
        rw [List.length_append, List.length_singleton]

end Simulation

end Zugfolge.Sim
