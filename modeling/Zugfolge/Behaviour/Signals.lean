/-
What the signals show.

Every lock asks for an aspect at its signal, or for none.
-/
import Zugfolge.Behaviour.Step

namespace Zugfolge

open Foundation

namespace OperationalWorld

variable (w : OperationalWorld)

/-- The signal and the aspect one lock asks for. -/
def lockAspect (lock : RouteLock) : Checked (Option (String × SignalAspect)) := do
  let train ← orRefuse w.trains[lock.trainId]? .unsafeState
  if train.motionState.isSafeStop || w.fareControlBlocksDeparture train.id
      || w.fareControlAuthorityRevoked train.id then
    pure none
  else do
    let template ← w.templateOf lock.templateId
    if w.infrastructureSignalWithheld train.id template.authorityEndRouteMm then pure none
    else pure (some (template.signalId, template.movementKind.aspect))

/-- Shows an aspect at a signal; a failed signal stays failed. -/
def showAspect (aspects : Registry String SignalAspect) :
    Option (String × SignalAspect) → Checked (Registry String SignalAspect)
  | none => .ok aspects
  | some (signalId, expected) =>
    match aspects[signalId]? with
    | some .failed => .ok aspects
    | some aspect => do
      demand (aspect == expected) .unsafeState
      pure aspects
    | none => .ok (aspects.insert signalId expected)

lemma addLockAspect_eq (aspects : Registry String SignalAspect) (lock : RouteLock) :
    w.addLockAspect aspects lock = (w.lockAspect lock >>= showAspect aspects) := by
  unfold addLockAspect lockAspect
  cases orRefuse w.trains[lock.trainId]? .unsafeState with
  | error e => rfl
  | ok train =>
    simp only [bind, Except.bind, pure, Except.pure]
    split
    · rfl
    · cases w.templateOf lock.templateId with
      | error e => rfl
      | ok template =>
        dsimp only
        split
        · rfl
        · rfl

/-- The projection depends on what the locks ask for and on the active disruptions. -/
lemma signalProjection_congr {v w : OperationalWorld} (hlocks : w.routeLocks = v.routeLocks)
    (hfailed : w.activeDisruptions = v.activeDisruptions)
    (hasked : ∀ (id : String) (lock : RouteLock), v.routeLocks[id]? = some lock →
      w.lockAspect lock = v.lockAspect lock) :
    w.signalProjection = v.signalProjection := by
  have hfold : ∀ (locks : List RouteLock) (aspects : Registry String SignalAspect),
      (∀ lock ∈ locks, w.lockAspect lock = v.lockAspect lock) →
        locks.foldlM w.addLockAspect aspects = locks.foldlM v.addLockAspect aspects := by
    intro locks
    induction locks with
    | nil => exact fun _ _ => rfl
    | cons lock locks ih =>
      intro aspects hin
      rw [List.foldlM_cons, List.foldlM_cons, addLockAspect_eq, addLockAspect_eq,
        hin lock (by simp)]
      congr 1
      exact funext fun next => ih next fun l hl => hin l (List.mem_cons_of_mem _ hl)
  have hbase : w.failedSignals = v.failedSignals := by
    unfold failedSignals
    rw [hfailed]
  unfold signalProjection
  rw [hlocks, hbase]
  refine hfold _ _ fun lock hin => ?_
  obtain ⟨id, hlock⟩ := Registry.mem_values.mp hin
  exact hasked id lock hlock

end OperationalWorld

/-- What a lock asks for depends on its train and on what keeps the train from leaving. -/
lemma OperationalWorld.lockAspect_congr {v w : OperationalWorld} {lock : RouteLock}
    (hinfra : w.infra = v.infra)
    (htrain : (w.trains[lock.trainId]?).map OperationalTrain.core
      = (v.trains[lock.trainId]?).map OperationalTrain.core)
    (hrest : ∀ train : OperationalTrain, v.trains[lock.trainId]? = some train →
      w.fareControlBlocksDeparture train.id = v.fareControlBlocksDeparture train.id
      ∧ w.fareControlAuthorityRevoked train.id = v.fareControlAuthorityRevoked train.id
      ∧ ∀ endMm, w.infrastructureSignalWithheld train.id endMm
        = v.infrastructureSignalWithheld train.id endMm) :
    w.lockAspect lock = v.lockAspect lock := by
  unfold OperationalWorld.lockAspect OperationalWorld.templateOf
  cases hv : v.trains[lock.trainId]? with
  | none =>
    rw [hv, Option.map_none, Option.map_eq_none_iff] at htrain
    rw [htrain]
    rfl
  | some train =>
    rw [hv, Option.map_some, Option.map_eq_some_iff] at htrain
    obtain ⟨other, hother, hcore⟩ := htrain
    have hid : other.core.id = train.core.id := congrArg OperationalTrain.id hcore
    have hstate : other.core.motionState = train.core.motionState :=
      congrArg OperationalTrain.motionState hcore
    change other.id = train.id at hid
    change other.motionState = train.motionState at hstate
    obtain ⟨hblocks, hrevoked, hwithheld⟩ := hrest train hv
    rw [hother, hinfra]
    simp only [orRefuse, bind, Except.bind, hid, hstate, hblocks, hrevoked, hwithheld]

/-- A signal is withheld as before when stop and authority are as before. -/
lemma OperationalWorld.infrastructureSignalWithheld_congr {v w : OperationalWorld}
    {trainId : String}
    (hstops : w.infrastructureDisruptionStops.contains trainId
      = v.infrastructureDisruptionStops.contains trainId)
    (hauthority : (w.trains[trainId]?).map OperationalTrain.authority
      = (v.trains[trainId]?).map OperationalTrain.authority) (endMm : RouteMillimetres) :
    w.infrastructureSignalWithheld trainId endMm
      = v.infrastructureSignalWithheld trainId endMm := by
  have hcovers : ∀ u : OperationalWorld,
      (u.trains[trainId]?.any fun train => train.authority.any fun authority =>
        decide (endMm ≤ authority.endRouteMm))
      = ((u.trains[trainId]?).map OperationalTrain.authority).any fun authority =>
        authority.any fun authority => decide (endMm ≤ authority.endRouteMm) := by
    intro u
    cases u.trains[trainId]? with
    | none => rfl
    | some train => rfl
  unfold OperationalWorld.infrastructureSignalWithheld
  rw [hcovers w, hcovers v, hstops, hauthority]

lemma Quiet.lockAspect {v w : OperationalWorld} (hq : Quiet v w) (lock : RouteLock) :
    w.lockAspect lock = v.lockAspect lock := by
  refine OperationalWorld.lockAspect_congr hq.infra (hq.trains _) fun train _ =>
    ⟨hq.blocksDeparture _, hq.authorityRevoked _,
      OperationalWorld.infrastructureSignalWithheld_congr (hq.stops _) ?_⟩
  have hcores := congrArg (Option.map OperationalTrain.authority) (hq.trains train.id)
  rwa [Option.map_map, Option.map_map] at hcores

lemma Quiet.signalProjection {v w : OperationalWorld} (hq : Quiet v w) :
    w.signalProjection = v.signalProjection :=
  OperationalWorld.signalProjection_congr hq.routeLocks hq.activeDisruptions
    fun _ lock _ => hq.lockAspect lock

end Zugfolge
