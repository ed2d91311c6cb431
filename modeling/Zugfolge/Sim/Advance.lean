/-
What moving the clock leaves as it is, and that it ends.

Moving the clock changes how far the trains have come, but neither which trains there are nor
their routes, and it works off all that is due.
-/
import Zugfolge.Sim.Ticks

namespace Zugfolge.Sim

open Foundation
open Std (ExtTreeMap ExtTreeSet)

namespace Simulation

variable {δ : Type}

/-- The same region with the same trains, further on their ways. -/
structure Framed (s t : Simulation δ) : Prop where
  worldId : t.worldId = s.worldId
  regionId : t.regionId = s.regionId
  sequence : t.sequence = s.sequence
  window : t.window = s.window
  pendingHandovers : t.pendingHandovers = s.pendingHandovers
  delayRules : t.delayRules = s.delayRules
  trains : ∀ id : TrainRunId, (t.trains[id]?).map (fun train => (train.id, train.route))
    = (s.trains[id]?).map fun train => (train.id, train.route)

namespace Framed

variable {s t u : Simulation δ}

lemma refl (s : Simulation δ) : Framed s s :=
  ⟨rfl, rfl, rfl, rfl, rfl, rfl, fun _ => rfl⟩

lemma trans (hfirst : Framed s t) (hsecond : Framed t u) : Framed s u where
  worldId := hsecond.worldId.trans hfirst.worldId
  regionId := hsecond.regionId.trans hfirst.regionId
  sequence := hsecond.sequence.trans hfirst.sequence
  window := hsecond.window.trans hfirst.window
  pendingHandovers := hsecond.pendingHandovers.trans hfirst.pendingHandovers
  delayRules := hsecond.delayRules.trans hfirst.delayRules
  trains := fun id => (hsecond.trains id).trans (hfirst.trains id)

lemma contains_eq (h : Framed s t) (id : TrainRunId) :
    t.trains.contains id = s.trains.contains id := by
  have hid := congrArg Option.isSome (h.trains id)
  rw [ExtTreeMap.contains_eq_isSome_getElem?, ExtTreeMap.contains_eq_isSome_getElem?]
  simpa using hid

lemma exists_train (h : Framed s t) {id : TrainRunId} {train : TrainRun}
    (htrain : t.trains[id]? = some train) :
    ∃ earlier, s.trains[id]? = some earlier ∧ earlier.id = train.id
      ∧ earlier.route = train.route := by
  have hid := h.trains id
  rw [htrain, Option.map_some] at hid
  obtain ⟨earlier, hearlier, heq⟩ := Option.map_eq_some_iff.mp hid.symm
  obtain ⟨hsame, hroute⟩ := Prod.mk.inj heq
  exact ⟨earlier, hearlier, hsame, hroute⟩

end Framed

section Processing

variable [Dispatcher δ] {s t : Simulation δ} {event : ScheduledEvent} {out : Output}

lemma map_insert_eq {trains : Registry TrainRunId TrainRun} {id : TrainRunId}
    {train written : TrainRun} (hheld : trains[id]? = some train) (hid : written.id = train.id)
    (hroute : written.route = train.route) (other : TrainRunId) :
    ((trains.insert id written)[other]?).map (fun train => (train.id, train.route))
      = (trains[other]?).map fun train => (train.id, train.route) := by
  rw [Registry.getElem?_insert]
  split
  next heq => rw [heq, hheld, Option.map_some, Option.map_some, hid, hroute]
  · rfl

variable {longest : ℕ} {target : SimTime} {train : TrainRun}

lemma Moved.framed {waypoint : Waypoint} (hlive : s.Live event train waypoint)
    (h : Moved s event train waypoint t out) : Framed s t := by
  cases h with
  | endsArriving | stands | endsDeparting =>
    refine ⟨rfl, rfl, rfl, rfl, rfl, rfl, fun id => map_insert_eq hlive.held ?_ ?_ id⟩ <;> rfl
  | holds => exact ⟨rfl, rfl, rfl, rfl, rfl, rfl, fun _ => rfl⟩
  | finishes | leaves =>
    refine ⟨rfl, rfl, rfl, rfl, rfl, rfl, fun id => map_insert_eq hlive.held ?_ ?_ id⟩ <;> rfl

lemma Handled.framed (h : Handled s event t out) : Framed s t := by
  cases h with
  | stale => exact .refl s
  | live concerned moved => exact moved.framed concerned

lemma tick_framed (h : s.tick event = some (t, out)) : Framed s t :=
  (Framed.mk rfl rfl rfl rfl rfl rfl fun _ => rfl :
    Framed s (s.takeOut event)).trans (handled_of_processScheduled h).framed

omit [Dispatcher δ] in
lemma placed_spec {time : SimTime} {train after : TrainRun} (h : placed time train = some after) :
    ∃ position speed, after = { train with
      positionMm := position, speedMmPerSecond := speed } := by
  rw [placed] at h
  split at h
  next hrunning =>
    obtain ⟨position, speed, rfl⟩ := interpolate_spec h
    exact ⟨position, speed, by rw [← hrunning]⟩
  · cases h
    exact ⟨_, _, rfl⟩

omit [Dispatcher δ] in
/-- Placing the trains moves the clock and places each of them. -/
lemma placeTrains_spec {time : SimTime} (h : s.placeTrains time = some t) :
    t = { s with now := time, trains := t.trains } ∧
      ∀ id : TrainRunId, s.trains[id]? = none ∧ t.trains[id]? = none ∨
        ∃ train after, s.trains[id]? = some train ∧ placed time train = some after ∧
          t.trains[id]? = some after := by
  rw [placeTrains] at h
  split at h
  next hall =>
    cases h
    refine ⟨rfl, fun id => ?_⟩
    rw [ExtTreeMap.getElem?_map]
    cases htrain : s.trains[id]? with
    | none => exact .inl ⟨rfl, rfl⟩
    | some train =>
      obtain ⟨after, hafter⟩ :=
        Option.isSome_iff_exists.mp (Registry.allValues_iff.mp hall id train htrain)
      exact .inr ⟨train, after, rfl, hafter, by rw [Option.map_some, hafter, Option.getD_some]⟩
  · cases h

omit [Dispatcher δ] in
lemma placeTrains_framed {time : SimTime} (h : s.placeTrains time = some t) : Framed s t := by
  obtain ⟨heq, htrains⟩ := placeTrains_spec h
  rw [heq]
  refine ⟨rfl, rfl, rfl, rfl, rfl, rfl, fun id => ?_⟩
  rcases htrains id with ⟨hbefore, hafter⟩ | ⟨train, after, hbefore, hplaced, hafter⟩
  · simp only [hbefore, hafter, Option.map_none]
  · obtain ⟨position, speed, rfl⟩ := placed_spec hplaced
    simp only [hbefore, hafter, Option.map_some]

/-! ### The queue is worked off -/

omit [Dispatcher δ] in
lemma length_le_longestRoute {id : TrainRunId}
    (h : s.trains[id]? = some train) : train.route.length ≤ s.longestRoute := by
  have hall : ∀ (l : List TrainRun), train ∈ l → train.route.length
      ≤ l.foldr (fun train longest => max train.route.length longest) 0 := by
    intro l
    induction l with
    | nil => exact fun hin => nomatch hin
    | cons first rest ih =>
      intro hin
      rw [List.foldr_cons]
      rcases List.mem_cons.mp hin with rfl | hin
      · exact le_max_left _ _
      · exact (ih hin).trans (le_max_right _ _)
  exact hall _ (Registry.mem_values.mpr ⟨id, h⟩)

/-- No train has more waypoints than that. -/
def RoutesWithin (longest : ℕ) (s : Simulation δ) : Prop :=
  ∀ (id : TrainRunId) (train : TrainRun), s.trains[id]? = some train →
    train.route.length ≤ longest

omit [Dispatcher δ] in
lemma RoutesWithin.framed (hs : RoutesWithin longest s) (h : Framed s t) :
    RoutesWithin longest t := by
  intro id train htrain
  obtain ⟨earlier, hearlier, -, hroute⟩ := h.exists_train htrain
  rw [← hroute]
  exact hs id earlier hearlier

/-- What an event brings into the queue weighs less than the event. -/
lemma Moved.weigh_lt {waypoint : Waypoint}
    (h : Moved s event train waypoint t out) (hlength : train.route.length ≤ longest)
    (hdue : event.time ≤ target) :
    KeySet.weigh t.schedule (weight target longest)
      < weight target longest event + KeySet.weigh s.schedule (weight target longest) := by
  have hpositive : 0 < weight target longest event := by
    have hgeneral : ∀ a b : Int, ∀ n m : ℕ, a ≤ b → 0 < (b + 1 - a).toNat + n + m := by
      intro a b n m hle
      omega
    exact hgeneral _ _ _ _ hdue
  have hinsert := KeySet.weigh_insert_le s.schedule
  cases h with
  | endsArriving | endsDeparting | finishes => exact Nat.lt_add_of_pos_left hpositive
  | @stands _ _ _ time hkind _ _ _ hlater =>
    refine (hinsert _ _).trans_lt (Nat.add_lt_add_right ?_ _)
    have hgeneral : ∀ a b c : Int, ∀ n : ℕ, a ≤ b →
        (c + 1 - b).toNat + (1 - 1) + n < (c + 1 - a).toNat + (1 - 0) + n := by
      intro a b c n hle
      omega
    rw [weight, weight, hkind]
    exact hgeneral _ _ _ _ hlater
  | @holds _ limit hkind hlater =>
    refine (hinsert _ _).trans_lt (Nat.add_lt_add_right ?_ _)
    have hgeneral : ∀ a b c : Int, ∀ n : ℕ, a < b → a ≤ c →
        (c + 1 - b).toNat + (1 - 1) + n < (c + 1 - a).toNat + (1 - 1) + n := by
      intro a b c n hlt hle
      omega
    rw [weight, weight, hkind]
    exact hgeneral _ _ _ _ hlater hdue
  | @leaves _ _ next hkind _ _ hnext =>
    refine (hinsert _ _).trans_lt (Nat.add_lt_add_right ?_ _)
    have hin : event.waypoint + 1 < train.route.length :=
      (List.getElem?_eq_some_iff.mp hnext).1
    have hstops : longest - event.waypoint = longest - (event.waypoint + 1) + 1 := by omega
    have hgeneral : ∀ a b c : Int, ∀ n : ℕ, a ≤ c → i64Min ≤ b →
        (c + 1 - b).toNat + (1 - 0) + n
          < (c + 1 - a).toNat + (1 - 1) + (n + ((c + 1 - i64Min).toNat + 1)) := by
      intro a b c n hle hlow
      omega
    rw [weight, weight, hkind, hstops, Nat.succ_mul]
    exact hgeneral _ _ _ _ hdue (min_le_clamp64 _)

/-- Handling the event that is due lowers the weight of the queue. -/
lemma tick_lowers (hs : RoutesWithin longest s)
    (hdue : s.due target = some event) (h : s.tick event = some (t, out)) :
    KeySet.weigh t.schedule (weight target longest)
      < KeySet.weigh s.schedule (weight target longest) := by
  obtain ⟨hin, htime, -⟩ := due_eq_some hdue
  rw [KeySet.weigh_erase hin]
  cases handled_of_processScheduled h with
  | stale =>
    have hgeneral : ∀ a b : Int, ∀ n m : ℕ, a ≤ b → 0 < (b + 1 - a).toNat + n + m := by
      intro a b n m hle
      omega
    exact Nat.lt_add_of_pos_left (hgeneral _ _ _ _ htime)
  | live concerned moved => exact moved.weigh_lt (hs _ _ concerned.held) htime

lemma advance_spec (h : s.advance target = some (t, out)) :
    ∃ u : Simulation δ, drain (due target) tick (s.drainBound target + 1) s = some (u, out) ∧
      u.due target = none ∧ u.placeTrains target = some t := by
  obtain ⟨⟨u, kinds⟩, hdrain, h⟩ := Option.bind_eq_some_iff.mp h
  obtain ⟨placed, hplaced, heq⟩ := Option.map_eq_some_iff.mp h
  obtain ⟨rfl, rfl⟩ := Prod.mk.inj heq
  refine ⟨u, hdrain, ?_, hplaced⟩
  refine drain_done (RoutesWithin s.longestRoute)
    (fun s' => KeySet.weigh s'.schedule (weight target s.longestRoute))
    (fun s' event t' out' hwithin hdue htick => ?_)
    (fun id train htrain => length_le_longestRoute htrain) (Nat.lt_succ_self _) hdrain
  exact ⟨hwithin.framed (tick_framed htick), tick_lowers hwithin hdue htick⟩

lemma advance_framed (h : s.advance target = some (t, out)) : Framed s t := by
  obtain ⟨u, hdrain, -, hplaced⟩ := advance_spec h
  have hframed : Framed s u :=
    drain_keeps (Framed s)
      (fun s' event t' out' hs' _ htick => hs'.trans (tick_framed htick)) (.refl s) hdrain
  exact hframed.trans (placeTrains_framed hplaced)

end Processing

end Simulation

end Zugfolge.Sim
