/-
Runs of a region.

A run is a list of calls of a region, one after another; what the calls answer with is the log
of the run.

* `Simulation.run`: a run with its log.
-/
import Zugfolge.Foundation.Histories
import Zugfolge.Sim.Calls

namespace Zugfolge.Sim

open Foundation
open Std (ExtTreeMap ExtTreeSet)

inductive Call where
  | command (command : Command)
  | setDelayRule (trainRunId : TrainRunId) (waypoint : ℕ) (rule : DelayRule)
  | requestHandover (trainRunId : TrainRunId) (targetRegion : RegionId)
  | prepareHandover (trainRunId : TrainRunId) (targetRegion : RegionId) (resources : List String)
  | acceptHandover (envelope : HandoverEnvelope)
  | dematerializeBefore (before : SimTime)

namespace Simulation

variable {δ : Type} {s t : Simulation δ}

/-! ### The calls beside the commands -/

/-- A handover is noted, or refused since the train is not there. -/
lemma requestHandover_spec {id : TrainRunId} {targetRegion : RegionId}
    {answer : Except SimError (List DomainEvent)}
    (h : s.requestHandover id targetRegion = some (answer, t)) :
    (s.trains.contains id = false ∧ answer = .error .unknownTrain ∧ t = s) ∨
      (s.trains.contains id = true ∧
        answer = .ok (s.numbered [(s.now,
          .handoverRequested id (s.handoverToken id targetRegion) targetRegion)]) ∧
        t = { s with
          pendingHandovers := s.pendingHandovers.insert (s.handoverToken id targetRegion)
            ⟨id, targetRegion⟩
          sequence := s.sequence + 1 }) := by
  rw [requestHandover] at h
  split at h
  next hheld =>
    dsimp only at h
    obtain ⟨rfl, rfl⟩ := events_eq_some h
    exact .inr ⟨hheld, rfl, rfl⟩
  next hnot =>
    cases h
    exact .inl ⟨(Bool.not_eq_true _).mp hnot, rfl, rfl⟩

/-- A handover is prepared by noting it, and the train goes into the envelope as it is. -/
lemma prepareHandover_spec {id : TrainRunId} {targetRegion : RegionId} {resources : List String}
    {answer : Except SimError (HandoverEnvelope × List DomainEvent)}
    (h : s.prepareHandover id targetRegion resources = some (answer, t)) :
    (s.trains.contains id = false ∧ answer = .error .unknownTrain ∧ t = s) ∨
      ∃ train events, s.trains[id]? = some train ∧
        s.requestHandover id targetRegion = some (.ok events, t) ∧
        answer = .ok (⟨s.worldId, s.regionId, targetRegion, s.handoverToken id targetRegion,
          train, resources⟩, events) := by
  rw [prepareHandover] at h
  cases htrain : s.trains[id]? with
  | none =>
    simp only [htrain] at h
    cases h
    exact .inl ⟨Registry.contains_eq_false.mpr htrain, rfl, rfl⟩
  | some train =>
    simp only [htrain] at h
    rcases Reply.andThen_eq_some h with ⟨error, hrefused, -⟩ | ⟨events, u, hrequest, h⟩
    · rcases requestHandover_spec hrefused with ⟨hnot, -, -⟩ | ⟨-, hok, -⟩
      · rw [Registry.contains_iff.mpr ⟨train, htrain⟩] at hnot
        cases hnot
      · cases hok
    · cases h
      exact .inr ⟨train, events, rfl, hrequest, rfl⟩

/-- The content of a handover is addressed to the region, and what it is to reserve is free. -/
def receives (s : Simulation δ) (envelope : HandoverEnvelope) : Bool :=
  decide (envelope.worldId = s.worldId) && decide (envelope.targetRegion = s.regionId) &&
    envelope.resources.all fun resource => !s.resourceOwners.contains resource

lemma receives_iff {envelope : HandoverEnvelope} : s.receives envelope = true ↔
    envelope.worldId = s.worldId ∧ envelope.targetRegion = s.regionId ∧
      ∀ resource ∈ envelope.resources, s.resourceOwners.contains resource = false := by
  rw [receives, Bool.and_eq_true, Bool.and_eq_true, decide_eq_true_eq, decide_eq_true_eq,
    List.all_eq_true, and_assoc]
  simp only [Bool.not_eq_true']

/-- A handover is refused, or the train is taken in with its resources; a refused one may have
replaced the train with its number. -/
lemma acceptHandover_spec {envelope : HandoverEnvelope} {answer : Except SimError Command}
    (h : s.acceptHandover envelope = some (answer, t)) :
    (∃ error, answer = .error error ∧
      ((t = s ∧ ∀ train first, s.receives envelope = true →
        s.takenOver envelope.train = some train → s.checkTrain train ≠ some (.ok first)) ∨
      ∃ train first, s.receives envelope = true ∧ s.takenOver envelope.train = some train ∧
        s.checkTrain train = some (.ok first) ∧ s.trains.contains train.id = true ∧
        t = s.putTrain train.id train)) ∨
    ∃ train first, s.receives envelope = true ∧ s.takenOver envelope.train = some train ∧
      s.checkTrain train = some (.ok first) ∧ s.trains.contains train.id = false ∧
      answer = .ok (.confirmHandover envelope.token s.regionId) ∧
      t = { s with
        trains := s.trains.insert train.id train
        schedule := s.schedule.insert ⟨first.arrival, train.id, train.nextWaypoint, .arrive⟩
        sequence := s.sequence + 1
        resourceOwners :=
          Registry.fill s.resourceOwners envelope.resources envelope.train.id } := by
  rw [acceptHandover] at h
  split at h
  next hworld =>
    cases h
    refine .inl ⟨_, rfl, .inl ⟨rfl, fun _ _ hreceives => ?_⟩⟩
    exact absurd (receives_iff.mp hreceives).1 hworld
  next hworld =>
    split at h
    next hregion =>
      cases h
      refine .inl ⟨_, rfl, .inl ⟨rfl, fun _ _ hreceives => ?_⟩⟩
      exact absurd (receives_iff.mp hreceives).2.1 hregion
    next hregion =>
      split at h
      next hoccupied =>
        cases h
        refine .inl ⟨_, rfl, .inl ⟨rfl, fun _ _ hreceives => ?_⟩⟩
        obtain ⟨resource, hin, hheld⟩ := List.any_eq_true.mp hoccupied
        rw [(receives_iff.mp hreceives).2.2 resource hin] at hheld
        cases hheld
      next hfree =>
        have hreceives : s.receives envelope = true := by
          refine receives_iff.mpr ⟨not_not.mp hworld, not_not.mp hregion, fun resource hin => ?_⟩
          by_contra hheld
          exact hfree (List.any_eq_true.mpr ⟨resource, hin, (Bool.not_eq_false _).mp hheld⟩)
        obtain ⟨train, htaken, h⟩ := Option.bind_eq_some_iff.mp h
        rcases Reply.andThen_eq_some h with ⟨error, hrefused, rfl⟩ | ⟨events, u, hdone, h⟩
        · refine .inl ⟨error, rfl, ?_⟩
          rcases materialize_spec hrefused with ⟨_, hcheck, -, hsame⟩
            | ⟨first, hcheck, hheld, -, hput⟩ | ⟨_, -, -, hok, -⟩
          · refine .inl ⟨hsame, fun other first _ hother hpasses => ?_⟩
            obtain rfl := Option.some.inj (htaken.symm.trans hother)
            rw [hcheck] at hpasses
            cases hpasses
          · exact .inr ⟨train, first, hreceives, htaken, hcheck, hheld, hput⟩
          · cases hok
        · rcases materialize_spec hdone with ⟨_, -, herror, -⟩ | ⟨_, -, -, herror, -⟩
            | ⟨first, hcheck, hheld, -, rfl⟩
          · cases herror
          · cases herror
          · cases h
            exact .inr ⟨train, first, hreceives, htaken, hcheck, hheld, rfl, rfl⟩

lemma takenOver_spec {train taken : TrainRun} (h : s.takenOver train = some taken) :
    taken.id = train.id ∧ taken.nextWaypoint = train.nextWaypoint ∧
      taken.status = train.status := by
  obtain ⟨point, -, rfl⟩ := Option.map_eq_some_iff.mp h
  exact ⟨rfl, rfl, rfl⟩

lemma setDelayRule_spec {id : TrainRunId} {waypoint : ℕ} {rule : DelayRule}
    {answer : Except SimError Unit} (h : s.setDelayRule id waypoint rule = some (answer, t)) :
    t = s ∨ t = { s with delayRules := s.delayRules.insert (⟨id, waypoint⟩ : StopKey) rule } := by
  rw [setDelayRule] at h
  split at h
  · cases h
    exact .inl rfl
  · split at h
    · cases h
      exact .inl rfl
    · cases h
      exact .inr rfl

/-- The trains that are over and old are gone, with their events and their resources; nothing
else changes. -/
structure Swept (s : Simulation δ) (gone : List TrainRunId) (t : Simulation δ) : Prop where
  worldId : t.worldId = s.worldId
  regionId : t.regionId = s.regionId
  now : t.now = s.now
  sequence : t.sequence = s.sequence
  window : t.window = s.window
  pendingHandovers : t.pendingHandovers = s.pendingHandovers
  delayRules : t.delayRules = s.delayRules
  dispatcher : t.dispatcher = s.dispatcher
  trains : ∀ id : TrainRunId, t.trains[id]? = if id ∈ gone then none else s.trains[id]?
  schedule : ∀ event, event ∈ t.schedule ↔ event ∈ s.schedule ∧ event.trainRunId ∉ gone
  resourceOwners : ∀ (resource : String) (owner : TrainRunId),
    t.resourceOwners[resource]? = some owner ↔
      s.resourceOwners[resource]? = some owner ∧ owner ∉ gone

lemma dematerializeBefore_spec (s : Simulation δ) (before : SimTime) :
    Swept s (s.finishedBefore before) (s.dematerializeBefore before).2 := by
  have hall : ∀ (gone : List TrainRunId) (s : Simulation δ), Swept s gone
      (gone.foldl (fun t id => (({ t with trains := t.trains.erase id } :
        Simulation δ).dropEvents id).releaseResources id) s) := by
    intro gone
    induction gone with
    | nil => exact fun s => ⟨rfl, rfl, rfl, rfl, rfl, rfl, rfl, rfl, fun _ => by simp,
        fun _ => by simp, fun _ _ => by simp⟩
    | cons id gone ih =>
      intro s
      rw [List.foldl_cons]
      have hrest := ih ((({ s with trains := s.trains.erase id } :
        Simulation δ).dropEvents id).releaseResources id)
      refine ⟨hrest.worldId, hrest.regionId, hrest.now, hrest.sequence, hrest.window,
        hrest.pendingHandovers, hrest.delayRules, hrest.dispatcher, fun other => ?_,
        fun event => ?_, fun resource owner => ?_⟩
      · rw [hrest.trains other]
        simp only [releaseResources, dropEvents, Registry.getElem?_erase, List.mem_cons]
        by_cases hother : other = id
        · simp [hother]
        · simp [hother]
      · rw [hrest.schedule event]
        simp only [releaseResources, dropEvents, KeySet.mem_filter, List.mem_cons, not_or,
          bne_iff_ne, ne_eq]
        tauto
      · rw [hrest.resourceOwners resource owner]
        simp only [releaseResources, dropEvents, Registry.getElem?_filter,
          Option.filter_eq_some_iff, List.mem_cons, not_or, bne_iff_ne, ne_eq]
        tauto
  exact hall _ s

/-! ### Runs -/

section Running

variable [Dispatcher δ]

/-- The state after a call and the events that it answers with; a refused call answers with
none. -/
def call (s : Simulation δ) : Call → Option (Simulation δ × List DomainEvent)
  | .command command => (s.apply command).map fun reply =>
    (reply.2, (reply.1.toOption).getD [])
  | .setDelayRule id waypoint rule => (s.setDelayRule id waypoint rule).map fun reply =>
    (reply.2, [])
  | .requestHandover id targetRegion => (s.requestHandover id targetRegion).map fun reply =>
    (reply.2, (reply.1.toOption).getD [])
  | .prepareHandover id targetRegion resources =>
    (s.prepareHandover id targetRegion resources).map fun reply =>
      (reply.2, (reply.1.toOption.map Prod.snd).getD [])
  | .acceptHandover envelope => (s.acceptHandover envelope).map fun reply =>
    -- the event of the train that is taken in is numbered but not handed out
    (reply.2, [])
  | .dematerializeBefore before => some ((s.dematerializeBefore before).2, [])

/-- What a call does, with the events that it answers with. -/
inductive Called (s : Simulation δ) : Call → Simulation δ → List DomainEvent → Prop where
  | refused {c : Call} : Called s c s []
  | replaced {train : TrainRun} {first : Waypoint} (checked : s.checkTrain train = some (.ok first))
      (held : s.trains.contains train.id = true) :
      Called s (.command (.materialize train)) (s.putTrain train.id train) []
  | entered {train : TrainRun} {first : Waypoint} (checked : s.checkTrain train = some (.ok first))
      (free : s.trains.contains train.id = false) :
      Called s (.command (.materialize train))
        { s with
          trains := s.trains.insert train.id train
          schedule := s.schedule.insert ⟨first.arrival, train.id, train.nextWaypoint, .arrive⟩
          sequence := s.sequence + 1 }
        (s.numbered [(s.now, .materialized train.id)])
  | advanced {target : SimTime} {v : Simulation δ} {kinds : Output} (forward : s.now ≤ target)
      (moved : s.advance target = some (v, kinds)) :
      Called s (.command (.advanceTo target))
        { v with sequence := v.sequence + kinds.length } (v.numbered kinds)
  | delayed {id : TrainRunId} {seconds : ℕ} {v : Simulation δ} {delay : Int}
      (done : s.delayTrain id seconds = some (.ok (s.now, .delayChanged id delay), v)) :
      Called s (.command (.addDelay id seconds)) { v with sequence := v.sequence + 1 }
        (v.numbered [(s.now, .delayChanged id delay)])
  | disrupted {application applied : DisruptionApplication} {ids : List TrainRunId}
      {v : Simulation δ} {kinds : Output}
      (named : ∀ id ∈ ids, id ∈ application.affectedTrainRunIds)
      (held : ∀ id ∈ ids, s.trains.contains id = true)
      (done : s.delayTrains application.delaySeconds ids = some (.ok kinds, v)) :
      Called s (.command (.applyDisruption application))
        { v with sequence := v.sequence + (kinds.length + 1) }
        (v.numbered (kinds ++ [(v.now, .disruptionApplied applied)]))
  | confirmed {token : UInt64} {targetRegion : RegionId} {id : TrainRunId}
      (pending : s.pendingHandovers[token]? = some ⟨id, targetRegion⟩) :
      Called s (.command (.confirmHandover token targetRegion))
        { s with
          pendingHandovers := s.pendingHandovers.erase token
          trains := s.trains.erase id
          sequence := s.sequence + 1 }
        (s.numbered [(s.now, .handoverCompleted id token targetRegion)])
  | lost {id : TrainRunId} {time : SimTime} {trigger : DispatchTrigger} {facts : DispatchFacts}
      {v : Simulation δ} {kinds : Output} (forward : s.now ≤ time)
      (moved : s.advance time = some (v, kinds)) (unknown : v.trains.contains id = false) :
      Called s (.command (.dispatch id time trigger facts)) v []
  | directed {id : TrainRunId} {time : SimTime} {trigger : DispatchTrigger} {facts : DispatchFacts}
      {v w : Simulation δ} {kinds : Output} {train : TrainRun} {decision : DispatchDecision}
      {dispatcher : δ} (forward : s.now ≤ time) (moved : s.advance time = some (v, kinds))
      (held : v.trains[id]? = some train)
      (decided : Dispatcher.decide v.dispatcher train time trigger facts
        = some (decision, dispatcher))
      (hit : Directed { v with dispatcher := dispatcher } id train time decision w) :
      Called s (.command (.dispatch id time trigger facts))
        { w with sequence := w.sequence + (kinds.length + 1) }
        (w.numbered (kinds ++ [(time, .dispatchApplied id facts.decisionId trigger decision)]))
  | ruled {id : TrainRunId} {waypoint : ℕ} {rule : DelayRule} :
      Called s (.setDelayRule id waypoint rule)
        { s with delayRules := s.delayRules.insert (⟨id, waypoint⟩ : StopKey) rule } []
  | requested {c : Call} {id : TrainRunId} {targetRegion : RegionId}
      (held : s.trains.contains id = true) (asked : c = .requestHandover id targetRegion ∨
        ∃ resources, c = .prepareHandover id targetRegion resources) :
      Called s c
        { s with
          pendingHandovers := s.pendingHandovers.insert (s.handoverToken id targetRegion)
            ⟨id, targetRegion⟩
          sequence := s.sequence + 1 }
        (s.numbered [(s.now, .handoverRequested id (s.handoverToken id targetRegion)
          targetRegion)])
  | overwritten {envelope : HandoverEnvelope} {train : TrainRun} {first : Waypoint}
      (receives : s.receives envelope = true) (taken : s.takenOver envelope.train = some train)
      (checked : s.checkTrain train = some (.ok first))
      (held : s.trains.contains train.id = true) :
      Called s (.acceptHandover envelope) (s.putTrain train.id train) []
  | accepted {envelope : HandoverEnvelope} {train : TrainRun} {first : Waypoint}
      (receives : s.receives envelope = true) (taken : s.takenOver envelope.train = some train)
      (checked : s.checkTrain train = some (.ok first))
      (free : s.trains.contains train.id = false) :
      Called s (.acceptHandover envelope)
        { s with
          trains := s.trains.insert train.id train
          schedule := s.schedule.insert ⟨first.arrival, train.id, train.nextWaypoint, .arrive⟩
          sequence := s.sequence + 1
          resourceOwners :=
            Registry.fill s.resourceOwners envelope.resources envelope.train.id } []
  | swept {before : SimTime} {t : Simulation δ} (swept : Swept s (s.finishedBefore before) t) :
      Called s (.dematerializeBefore before) t []

/-- Every command has one of the effects. -/
lemma called_of_apply {command : Command} {answer : Except SimError (List DomainEvent)}
    (h : s.apply command = some (answer, t)) :
    Called s (.command command) t ((answer.toOption).getD []) := by
  cases command with
  | materialize train =>
    rcases materialize_spec h with ⟨_, -, rfl, rfl⟩ | ⟨first, hcheck, hheld, rfl, rfl⟩
      | ⟨first, hcheck, hfree, rfl, rfl⟩
    · exact .refused
    · exact .replaced hcheck hheld
    · exact .entered hcheck hfree
  | advanceTo target =>
    rcases advanceTo_spec h with ⟨-, rfl, rfl⟩ | ⟨v, kinds, hforward, hadvance, rfl, rfl⟩
    · exact .refused
    · exact .advanced hforward hadvance
  | addDelay id seconds =>
    rcases Reply.andThen_eq_some h with ⟨_, hrefused, rfl⟩ | ⟨kind, v, hdone, hevents⟩
    · rcases delayTrain_spec hrefused with ⟨-, -, rfl⟩ | ⟨_, -, hdone, -⟩
      · exact .refused
      · cases hdone
    · obtain ⟨rfl, rfl⟩ := events_eq_some hevents
      rcases delayTrain_spec hdone with ⟨-, herror, -⟩ | ⟨delay, -, hkind, -⟩
      · cases herror
      · cases hkind
        exact .delayed hdone
  | applyDisruption application =>
    rcases applyDisruption_delays h with ⟨_, rfl, rfl⟩
      | ⟨ids, v, kinds, applied, hnamed, hheld, hdelay, rfl, rfl⟩
    · exact .refused
    · exact .disrupted hnamed hheld hdelay
  | confirmHandover token targetRegion =>
    rcases confirmHandover_spec h with ⟨_, rfl, rfl, -⟩ | ⟨id, hpending, rfl, rfl⟩
    · exact .refused
    · exact .confirmed hpending
  | dispatch id time trigger facts =>
    rcases dispatch_spec h with ⟨-, rfl, rfl⟩ | ⟨v, kinds, hforward, hadvance, hrest⟩
    · exact .refused
    · rcases hrest with ⟨hunknown, rfl, rfl⟩
        | ⟨train, decision, dispatcher, w, htrain, hdecide, hdirected, rfl, rfl⟩
      · exact .lost hforward hadvance hunknown
      · exact .directed hforward hadvance htrain hdecide hdirected

/-- Every call has one of the effects. -/
lemma called_of_call {c : Call} {out : List DomainEvent} (h : s.call c = some (t, out)) :
    Called s c t out := by
  cases c with
  | command command =>
    obtain ⟨⟨answer, v⟩, hreply, heq⟩ := Option.map_eq_some_iff.mp h
    obtain ⟨rfl, rfl⟩ := Prod.mk.inj heq
    exact called_of_apply hreply
  | setDelayRule id waypoint rule =>
    obtain ⟨⟨answer, v⟩, hreply, heq⟩ := Option.map_eq_some_iff.mp h
    obtain ⟨rfl, rfl⟩ := Prod.mk.inj heq
    rcases setDelayRule_spec hreply with rfl | rfl
    · exact .refused
    · exact .ruled
  | requestHandover id targetRegion =>
    obtain ⟨⟨answer, v⟩, hreply, heq⟩ := Option.map_eq_some_iff.mp h
    obtain ⟨rfl, rfl⟩ := Prod.mk.inj heq
    rcases requestHandover_spec hreply with ⟨-, rfl, rfl⟩ | ⟨hheld, rfl, rfl⟩
    · exact .refused
    · exact .requested hheld (.inl rfl)
  | prepareHandover id targetRegion resources =>
    obtain ⟨⟨answer, v⟩, hreply, heq⟩ := Option.map_eq_some_iff.mp h
    obtain ⟨rfl, rfl⟩ := Prod.mk.inj heq
    rcases prepareHandover_spec hreply with ⟨-, rfl, rfl⟩ | ⟨train, events, -, hrequest, rfl⟩
    · exact .refused
    · rcases requestHandover_spec hrequest with ⟨-, hrefused, -⟩ | ⟨hheld, hevents, rfl⟩
      · cases hrefused
      · cases hevents
        exact .requested hheld (.inr ⟨resources, rfl⟩)
  | acceptHandover envelope =>
    obtain ⟨⟨answer, v⟩, hreply, heq⟩ := Option.map_eq_some_iff.mp h
    obtain ⟨rfl, rfl⟩ := Prod.mk.inj heq
    rcases acceptHandover_spec hreply with ⟨-, -, ⟨rfl, -⟩ | ⟨train, first, hreceives, htaken,
      hcheck, hheld, rfl⟩⟩ | ⟨train, first, hreceives, htaken, hcheck, hfree, -, rfl⟩
    · exact .refused
    · exact .overwritten hreceives htaken hcheck hheld
    · exact .accepted hreceives htaken hcheck hfree
  | dematerializeBefore before =>
    cases h
    exact .swept (dematerializeBefore_spec s before)

/-- Runs calls one after another; the events that they answer with are the log of the run. -/
def run (s : Simulation δ) (calls : List Call) : Option (Simulation δ × List DomainEvent) :=
  runAll call s calls

end Running

end Simulation

end Zugfolge.Sim
