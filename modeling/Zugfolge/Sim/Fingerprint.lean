/-
The fingerprint of a region.

The hash of a region is taken over a list of named values: the world, the region, the time and the
number of the last event, then some values of every train and the entries of the queue.

* `Simulation.hashFields_inj`: what the fields tell about the region;
* `Simulation.answers_eq`: the fields and what is left out decide all further answers.
-/
import Zugfolge.Foundation.Blocks
import Zugfolge.Foundation.Deltas
import Zugfolge.Sim.Blind

namespace Zugfolge.Sim

open Foundation
open Std (ExtTreeMap ExtTreeSet)

/-- A named value that goes into a hash. -/
inductive HashField where
  | int (name : String) (value : Int)
  | uint (name : String) (value : ℕ)
  deriving DecidableEq

namespace Simulation

variable {δ : Type} {s t : Simulation δ}

def trainFields (entry : TrainRunId × TrainRun) : List HashField :=
  [.uint "train-id" entry.1.toNat, .uint "waypoint" entry.2.nextWaypoint,
    .int "delay" entry.2.delaySeconds, .int "position" entry.2.positionMm,
    .uint "status" entry.2.status.code]

/-- The fields of an entry of the queue. -/
def eventFields (event : ScheduledEvent) : List HashField :=
  [.int "event-at" event.time, .uint "event-train" event.trainRunId.toNat,
    .uint "event-waypoint" event.waypoint, .uint "event-kind" event.kind.code]

/-- What goes into the hash of a region. -/
def hashFields (s : Simulation δ) : List HashField :=
  [.uint "world" s.worldId.toNat, .uint "region" s.regionId.toNat, .int "now" s.now,
    .uint "sequence" s.sequence] ++
    (s.trains.toList.flatMap trainFields ++ s.schedule.toList.flatMap eventFields)

/-! ### What the fields tell -/

lemma code_inj {status status' : OperatingStatus} (h : status.code = status'.code) :
    status = status' := by
  cases status <;> cases status' <;> first | rfl | cases h

lemma kindCode_inj {kind kind' : ScheduledKind} (h : kind.code = kind'.code) : kind = kind' := by
  cases kind <;> cases kind' <;> first | rfl | cases h

/-- What the fields say about a train. -/
def Marked (entry entry' : TrainRunId × TrainRun) : Prop :=
  entry.1 = entry'.1 ∧ entry.2.nextWaypoint = entry'.2.nextWaypoint ∧
    entry.2.delaySeconds = entry'.2.delaySeconds ∧ entry.2.positionMm = entry'.2.positionMm ∧
    entry.2.status = entry'.2.status

lemma Marked.symm {entry entry' : TrainRunId × TrainRun} (h : Marked entry entry') :
    Marked entry' entry := by
  obtain ⟨hid, hwaypoint, hdelay, hposition, hstatus⟩ := h
  exact ⟨hid.symm, hwaypoint.symm, hdelay.symm, hposition.symm, hstatus.symm⟩

lemma trainFields_inj {entry entry' : TrainRunId × TrainRun}
    (h : trainFields entry = trainFields entry') : Marked entry entry' := by
  simp only [trainFields, List.cons.injEq, HashField.uint.injEq, HashField.int.injEq, true_and,
    and_true] at h
  obtain ⟨hid, hwaypoint, hdelay, hposition, hstatus⟩ := h
  exact ⟨UInt64.toNat_inj.mp hid, hwaypoint, hdelay, hposition, code_inj hstatus⟩

lemma eventFields_inj {event event' : ScheduledEvent} (h : eventFields event = eventFields event') :
    event = event' := by
  simp only [eventFields, List.cons.injEq, HashField.uint.injEq, HashField.int.injEq, true_and,
    and_true] at h
  obtain ⟨htime, hid, hwaypoint, hkind⟩ := h
  cases event
  cases event'
  simp only at htime hid hwaypoint hkind
  rw [htime, UInt64.toNat_inj.mp hid, hwaypoint, kindCode_inj hkind]

/-- A field with which the fields of a train begin. -/
def BeginsTrain (field : HashField) : Prop := ∃ value, field = .uint "train-id" value

lemma not_beginsTrain (events : List ScheduledEvent) :
    ∀ field ∈ (events.flatMap eventFields).head?, ¬ BeginsTrain field := by
  intro field hfield
  cases events with
  | nil => cases hfield
  | cons event events =>
    cases hfield
    rintro ⟨value, heq⟩
    cases heq

lemma length_trainFields (entry : TrainRunId × TrainRun) : (trainFields entry).length = 5 := rfl

lemma beginsTrain (entry : TrainRunId × TrainRun) :
    ∃ field ∈ (trainFields entry).head?, BeginsTrain field := ⟨_, rfl, entry.1.toNat, rfl⟩

lemma flatMap_eventFields_inj {events events' : List ScheduledEvent}
    (h : events.flatMap eventFields = events'.flatMap eventFields) : events = events' := by
  have hbegins : ∀ event, ∃ field ∈ (eventFields event).head?, True := fun _ => ⟨_, rfl, trivial⟩
  have hnothing : ∀ field ∈ ([] : List HashField).head?, ¬ True := fun _ hin => nomatch hin
  have hlength : ∀ event, (eventFields event).length = 4 := fun _ => rfl
  obtain ⟨hblocks, -⟩ := blocks_inj (fun _ => True) hlength hbegins hnothing hnothing
    (congrArg (· ++ []) h)
  exact List.map_injective_iff.mpr (fun _ _ => eventFields_inj) hblocks

/-- Equal fields say the same of the region, of each of its trains and of the queue. -/
theorem hashFields_inj (h : s.hashFields = t.hashFields) :
    s.worldId = t.worldId ∧ s.regionId = t.regionId ∧ s.now = t.now ∧ s.sequence = t.sequence ∧
      s.trains.toList.map trainFields = t.trains.toList.map trainFields ∧
      s.schedule = t.schedule := by
  obtain ⟨hhead, hbody⟩ := List.append_inj h rfl
  simp only [List.cons.injEq, HashField.uint.injEq, HashField.int.injEq, true_and,
    and_true] at hhead
  obtain ⟨hworld, hregion, hnow, hsequence⟩ := hhead
  obtain ⟨htrains, hevents⟩ := blocks_inj BeginsTrain length_trainFields beginsTrain
    (not_beginsTrain s.schedule.toList) (not_beginsTrain t.schedule.toList) hbody
  refine ⟨UInt64.toNat_inj.mp hworld, UInt32.toNat_inj.mp hregion, hnow, hsequence, htrains,
    ExtTreeSet.ext_mem fun event => ?_⟩
  rw [← ExtTreeSet.mem_toList, flatMap_eventFields_inj hevents, ExtTreeSet.mem_toList]

/-! ### What is left out -/

/-- Two trains agree in all that does not go into the hash. -/
structure SameTrainBeside (a b : TrainRun) : Prop where
  worldId : a.worldId = b.worldId
  id : a.id = b.id
  regionId : a.regionId = b.regionId
  operator : a.operator = b.operator
  trainNumber : a.trainNumber = b.trainNumber
  category : a.category = b.category
  route : a.route = b.route
  speedMmPerSecond : a.speedMmPerSecond = b.speedMmPerSecond

/-- Two regions agree in all that does not go into the hash, but for the owners of resources. -/
structure AgreesBeside (s t : Simulation δ) : Prop where
  window : s.window = t.window
  pendingHandovers : s.pendingHandovers = t.pendingHandovers
  delayRules : s.delayRules = t.delayRules
  dispatcher : s.dispatcher = t.dispatcher
  trains : ∀ (id : TrainRunId) (a b : TrainRun), s.trains[id]? = some a →
    t.trains[id]? = some b → SameTrainBeside a b

lemma eq_of_marked {id : TrainRunId} {a b : TrainRun} (hmarked : Marked (id, a) (id, b))
    (hbeside : SameTrainBeside a b) : a = b := by
  obtain ⟨-, hwaypoint, hdelay, hposition, hstatus⟩ := hmarked
  obtain ⟨hworld, hid, hregion, hoperator, hnumber, hcategory, hroute, hspeed⟩ := hbeside
  cases a
  cases b
  simp only at *
  subst_vars
  rfl

lemma train_of_fields {id : TrainRunId} {a : TrainRun}
    (hfields : s.trains.toList.map trainFields = t.trains.toList.map trainFields)
    (ha : s.trains[id]? = some a) : ∃ b, t.trains[id]? = some b ∧ Marked (id, a) (id, b) := by
  have hin : trainFields (id, a) ∈ t.trains.toList.map trainFields :=
    hfields ▸ List.mem_map_of_mem (Registry.mem_toList.mpr ha)
  obtain ⟨⟨id', b⟩, hb, heq⟩ := List.mem_map.mp hin
  have hmarked := (trainFields_inj heq).symm
  obtain rfl : id = id' := hmarked.1
  exact ⟨b, Registry.mem_toList.mp hb, hmarked⟩

/-- Two regions with the same fields that agree in what is left out are the same but for the
owners of resources. -/
lemma forget_eq (h : s.hashFields = t.hashFields) (hbeside : s.AgreesBeside t) :
    s.forget = t.forget := by
  obtain ⟨hworld, hregion, hnow, hsequence, hfields, hschedule⟩ := hashFields_inj h
  have htrains : s.trains = t.trains := by
    refine ExtTreeMap.ext_getElem? fun id => Option.ext fun train => ?_
    constructor
    · intro hs
      obtain ⟨b, hb, hmarked⟩ := train_of_fields hfields hs
      rw [hb, eq_of_marked hmarked (hbeside.trains id train b hs hb)]
    · intro ht
      obtain ⟨a, ha, hmarked⟩ := train_of_fields hfields.symm ht
      rw [ha, eq_of_marked hmarked.symm (hbeside.trains id a train ha ht)]
  simp only [forget, hworld, hregion, hnow, hsequence, htrains, hschedule, hbeside.window,
    hbeside.pendingHandovers, hbeside.delayRules, hbeside.dispatcher]

/-- **The fingerprint.**  Two regions whose hashes are taken over the same fields answer all
further commands alike, if they agree in what does not go into the hash: the window, the pending
handovers, the delay rules, the dispatcher and the other values of the trains. -/
theorem answers_eq [Dispatcher δ] (h : s.hashFields = t.hashFields) (hbeside : s.AgreesBeside t)
    (commands : List Command) : s.answers commands = t.answers commands := by
  calc s.answers commands
      = s.forget.answers commands := (answers_forget s commands).symm
    _ = t.forget.answers commands := by rw [forget_eq h hbeside]
    _ = t.answers commands := answers_forget t commands

end Simulation

/-! ### Two regions with one fingerprint -/

namespace TwoStops

/-- A region with the train, and a handover of it that is pending to another region. -/
def asked (targetRegion : RegionId) : Simulation ConservativeDispatcher :=
  (((after [.materialize (train 1)]).requestHandover 1 targetRegion).map Prod.snd).getD
    (region 7 .conservative)

/-- The hash is taken over the same fields, and one region confirms what the other refuses. -/
theorem asked_answers_differ : ¬ ∀ s t : Simulation ConservativeDispatcher,
    s.hashFields = t.hashFields → ∀ commands, s.answers commands = t.answers commands := by
  intro hclaim
  have hfields : (asked 8).hashFields = (asked 9).hashFields := by decide +kernel
  have hanswers := hclaim (asked 8) (asked 9) hfields [.confirmHandover 131082 8]
  revert hanswers
  decide +kernel

/-- Two regions that differ in the owner of a resource answer alike. -/
theorem answers_eq_owned : ({ asked 8 with
      resourceOwners := Std.ExtTreeMap.empty.insert "block:1" 1 } :
        Simulation ConservativeDispatcher).answers [.confirmHandover 131082 8]
    = (asked 8).answers [.confirmHandover 131082 8] :=
  Simulation.answers_eq rfl ⟨rfl, rfl, rfl, rfl, fun _ a b ha hb => by
    obtain rfl : a = b := Option.some.inj (ha.symm.trans hb)
    exact ⟨rfl, rfl, rfl, rfl, rfl, rfl, rfl, rfl⟩⟩ _

end TwoStops

end Zugfolge.Sim
