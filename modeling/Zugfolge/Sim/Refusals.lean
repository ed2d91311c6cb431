/-
What a refused command leaves behind.

A command that is refused is to leave the region as it was.  Two commands write before they
check: a train replaces the one with its number before its number is found to be taken, and
the clock moves before the train of a decision is found to be unknown.

* `refused_unchanged_iff`: a refused command leaves the region as it was unless it spoils it.
-/
import Zugfolge.Sim.Calls

namespace Zugfolge.Sim

open Foundation
open Std (ExtTreeMap ExtTreeSet)

namespace Simulation

variable {δ : Type} {s t : Simulation δ}

/-- The clock stands at the time, no event is due and every running train is where it belongs. -/
def idleUntil (s : Simulation δ) (time : SimTime) : Bool :=
  decide (s.now = time) && (s.due time).isNone &&
    Registry.allValues s.trains fun train => placed time train == some train

/-- A command that is refused only after it has changed something: a train with a number that
another train has, or a decision about an unknown train while the clock has to move. -/
def spoils (s : Simulation δ) : Command → Bool
  | .materialize train =>
    (s.checkTrain train).any (fun checked => checked.toOption.isSome) &&
      (s.trains[train.id]?).any fun held => held != train
  | .dispatch id time _ _ =>
    decide (s.now ≤ time) && !s.trains.contains id && !s.idleUntil time
  | .advanceTo _ | .addDelay _ _ | .applyDisruption _ | .confirmHandover _ _ => false

lemma idleUntil_iff {time : SimTime} :
    s.idleUntil time = true ↔ s.now = time ∧ s.due time = none ∧
      ∀ (id : TrainRunId) (train : TrainRun), s.trains[id]? = some train →
        placed time train = some train := by
  rw [idleUntil, Bool.and_eq_true, Bool.and_eq_true, decide_eq_true_eq, Option.isNone_iff_eq_none,
    Registry.allValues_iff, and_assoc]
  simp only [beq_iff_eq]

/-- Placing the trains changes nothing exactly when the clock stands there and they are there. -/
lemma placeTrains_eq_self_iff {time : SimTime} (h : s.placeTrains time = some t) :
    t = s ↔ s.now = time ∧ ∀ (id : TrainRunId) (train : TrainRun), s.trains[id]? = some train →
      placed time train = some train := by
  obtain ⟨heq, htrains⟩ := placeTrains_spec h
  constructor
  · intro hsame
    have hnow : time = s.now := by rw [← hsame, heq]
    refine ⟨hnow.symm, fun id train htrain => ?_⟩
    rcases htrains id with ⟨hnone, -⟩ | ⟨held, after, hheld, hplaced, hafter⟩
    · rw [htrain] at hnone
      cases hnone
    · obtain rfl := Option.some.inj (htrain.symm.trans hheld)
      rw [hsame, htrain] at hafter
      rw [hplaced, hafter]
  · rintro ⟨rfl, hthere⟩
    have hsame : t.trains = s.trains := by
      refine ExtTreeMap.ext_getElem? fun id => ?_
      rcases htrains id with ⟨hnone, hafter⟩ | ⟨held, after, hheld, hplaced, hafter⟩
      · rw [hnone, hafter]
      · rw [hheld, hafter, ← hplaced, hthere id held hheld]
    rw [heq, hsame]

section Commands

variable [Dispatcher δ]

/-- Moving the clock changes nothing exactly when it is idle until then. -/
lemma advance_eq_self_iff {time : SimTime} {kinds : Output}
    (h : s.advance time = some (t, kinds)) : t = s ↔ s.idleUntil time = true := by
  obtain ⟨u, hdrain, hdone, hplaced⟩ := advance_spec h
  have hschedule : t.schedule = u.schedule := by
    rw [(placeTrains_spec hplaced).1]
  rw [idleUntil_iff]
  constructor
  · rintro rfl
    have hidle : t.due time = none := by
      rw [due, hschedule]
      exact hdone
    have hsame : u = t := by
      rw [drain, hidle] at hdrain
      cases hdrain
      rfl
    subst hsame
    obtain ⟨hnow, hthere⟩ := (placeTrains_eq_self_iff hplaced).mp rfl
    exact ⟨hnow, hidle, hthere⟩
  · rintro ⟨hnow, hidle, hthere⟩
    have hsame : u = s := by
      rw [drain, hidle] at hdrain
      cases hdrain
      rfl
    subst hsame
    exact (placeTrains_eq_self_iff hplaced).mpr ⟨hnow, hthere⟩

/-- **Refused commands.**  A command that is refused leaves the region as it was if and only
if it is none of the two kinds that change something before they are refused. -/
theorem refused_unchanged_iff {command : Command} {error : SimError}
    (h : s.apply command = some (.error error, t)) : t = s ↔ s.spoils command = false := by
  have hunchanged : ∀ {command : Command}, s.spoils command = false → t = s →
      (t = s ↔ s.spoils command = false) := fun hspoils hsame => ⟨fun _ => hspoils, fun _ => hsame⟩
  cases command with
  | materialize train =>
    rcases materialize_spec h with ⟨_, hcheck, -, hsame⟩ | ⟨first, hcheck, hheld, -, rfl⟩
      | ⟨_, _, _, hok, -⟩
    · exact hunchanged (by simp [spoils, hcheck, Except.toOption]) hsame
    · obtain ⟨held, hheld⟩ := Registry.contains_iff.mp hheld
      simp only [spoils, hcheck, hheld, Option.any_some, Except.toOption, Option.isSome_some,
        Bool.true_and, bne_eq_false_iff_eq]
      constructor
      · intro hsame
        have hthere : (s.putTrain train.id train).trains[train.id]? = some train := by
          simp [putTrain]
        rw [hsame, hheld] at hthere
        exact Option.some.inj hthere
      · rintro rfl
        exact putTrain_self hheld
    · cases hok
  | advanceTo target =>
    rcases advanceTo_spec h with ⟨-, -, hsame⟩ | ⟨_, _, _, _, hok, -⟩
    · exact hunchanged rfl hsame
    · cases hok
  | addDelay id seconds =>
    rcases Reply.andThen_eq_some h with ⟨_, hrefused, -⟩ | ⟨_, _, -, hevents⟩
    · rcases delayTrain_spec hrefused with ⟨-, -, hsame⟩ | ⟨_, -, hok, -⟩
      · exact hunchanged rfl hsame
      · cases hok
    · cases (events_eq_some hevents).1
  | applyDisruption application =>
    rcases applyDisruption_spec h with ⟨_, -, hsame⟩ | ⟨_, _, -, hok, -⟩
    · exact hunchanged rfl hsame
    · cases hok
  | confirmHandover token targetRegion =>
    rcases confirmHandover_spec h with ⟨_, -, hsame, -⟩ | ⟨_, -, hok, -⟩
    · exact hunchanged rfl hsame
    · cases hok
  | dispatch id time trigger facts =>
    rcases dispatch_spec h with ⟨hback, -, hsame⟩ | ⟨v, kinds, hforth, hadvance, hrest⟩
    · refine hunchanged ?_ hsame
      rw [spoils, decide_eq_false (not_le.mpr hback), Bool.false_and, Bool.false_and]
    · rcases hrest with ⟨hunknown, -, rfl⟩ | ⟨_, _, _, _, _, _, _, hok, -⟩
      · rw [(advance_framed hadvance).contains_eq] at hunknown
        rw [advance_eq_self_iff hadvance, spoils, decide_eq_true hforth, hunknown]
        simp
      · cases hok

end Commands

end Simulation

/-! ### A number that is taken -/

namespace TwoStops

/-- A second train with the number of the first one is refused, and yet it has replaced it. -/
theorem duplicate_overwrites : ¬ ∀ (s t : Simulation ConservativeDispatcher) (command : Command)
    (error : SimError), s.apply command = some (.error error, t) → t = s := by
  intro hclaim
  have hrun : (((region 7 ConservativeDispatcher.conservative).apply
      (.materialize (train 1))).any fun first =>
      (first.2.apply (.materialize { train 1 with delaySeconds := 600 })).any fun second =>
        second.1.toOption.isNone &&
          decide ((second.2.trains[(1 : TrainRunId)]?).map TrainRun.delaySeconds
          ≠ (first.2.trains[(1 : TrainRunId)]?).map TrainRun.delaySeconds)) = true := by
    decide +kernel
  obtain ⟨first, -, hrun⟩ := (Option.any_eq_true _ _).mp hrun
  obtain ⟨⟨answer, after⟩, hsecond, hrun⟩ := (Option.any_eq_true _ _).mp hrun
  rw [Bool.and_eq_true, decide_eq_true_eq] at hrun
  cases answer with
  | ok _ => cases hrun.1
  | error error => exact hrun.2 (by rw [hclaim _ _ _ _ hsecond])

/-- A train that is delayed without being there leaves the region as it was. -/
theorem refused_unchanged_unknown : ∃ (t : Simulation ConservativeDispatcher) (error : SimError),
    (region 7 .conservative).apply (.addDelay 1 60) = some (.error error, t) ∧
      (t = region 7 .conservative ↔
        (region 7 ConservativeDispatcher.conservative).spoils (.addDelay 1 60) = false) :=
  ⟨_, _, rfl, Simulation.refused_unchanged_iff rfl⟩

end TwoStops

end Zugfolge.Sim
