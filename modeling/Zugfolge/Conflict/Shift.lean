/-
Shifting a run until it is free.

A run in conflict can be moved back as a whole.  Every conflict names the delay that
resolves it; the search leaps by the longest of these delays and looks again, a fixed
number of times.

* `earliestConflictFreeShift_isLeast`: what it finds is free and nothing before it is;
* `impossible_right_iff`: when it is right to give up;
* `minimumHeadway`, `minimumHeadway_isLeast_iff`: the distance of two departures.
-/
import Zugfolge.Conflict.Ledger
import Zugfolge.Foundation.Leaps
import Mathlib.Data.Int.ConditionallyCompleteOrder

namespace Zugfolge.Conflict

open Foundation

/-! ### The search -/

/-- How many rounds the search makes at most. -/
def maxShiftRounds : ℕ := 64

/-- What shifting a run brings about. -/
inductive ShiftOutcome where
  | clear
  | later (seconds : Int)
  | impossible
  deriving DecidableEq

/-- The shift at which the run was found free. -/
def ShiftOutcome.shift : ShiftOutcome → Option Int
  | clear => some 0
  | later seconds => some seconds
  | impossible => none

/-- The longest delay that resolves one of the conflicts. -/
def ConflictReport.furthestShiftS (report : ConflictReport) : Int :=
  (report.conflicts.map OccupationConflict.resolvingShiftS).max?.getD 0

namespace OccupationLedger

variable (ledger : OccupationLedger) (run : TrainRun)

/-- Checks a run after a shift, still under its own name. -/
def checkShifted (shift : Int) : ConflictReport :=
  ledger.checkStaircase (run.staircase.shifted shift) (some run.reference)

/-- The rounds of the search from a shift on. -/
def shiftRounds (limitS : Int) : ℕ → Int → ShiftOutcome
  | 0, _ => .impossible
  | rounds + 1, shift =>
    let report := ledger.checkShifted run shift
    if report.isClear then
      if shift = 0 then .clear else .later shift
    else
      let step := report.furthestShiftS
      if step ≤ 0 then .impossible
      else
        let next := addSat64 shift step
        if limitS < next then .impossible else shiftRounds limitS rounds next

/-- The least delay after which the run has no conflict. -/
def earliestConflictFreeShift (limitS : Int) : ShiftOutcome :=
  ledger.shiftRounds run limitS maxShiftRounds 0

/-! ### What stands in the way -/

/-- A blocking time of the run and an entry of another run that must not be held at
once. -/
def rivals : Set (BlockingTime × LedgerEntry) :=
  {pair | pair.1 ∈ run.staircase.steps ∧ pair.2 ∈ ledger.entries ∧
    pair.2.1 ≠ run.reference ∧
    (pair.2.2.resource = pair.1.resource
      ∨ ledger.exclusions.excludes pair.1.resource pair.2.2.resource = true)}

/-- The blocking time, shifted, overlaps the entry. -/
def MeetsAt (pair : BlockingTime × LedgerEntry) (shift : Int) : Prop :=
  Overlaps (pair.1.shifted shift).span pair.2.2.span

/-- The run, shifted, has a conflict with the ledger. -/
def ConflictsAt (shift : Int) : Prop := ∃ pair ∈ ledger.rivals run, MeetsAt pair shift

variable {ledger run}

lemma mem_resolvingShifts_finish {conflicts : List OccupationConflict} {delay : Int} :
    delay ∈ (ConflictReport.finish conflicts).conflicts.map OccupationConflict.resolvingShiftS
      ↔ ∃ conflict ∈ conflicts, conflict.resolvingShiftS = delay := by
  have hlabel : (ConflictReport.finish conflicts).conflicts.map
      OccupationConflict.resolvingShiftS
        = (conflicts.insertionSort fun a b => (a.order b).isLE).map
            OccupationConflict.resolvingShiftS := by
    rw [ConflictReport.finish, List.map_map]
    calc _ = ((conflicts.insertionSort fun a b => (a.order b).isLE).zipIdx.map Prod.fst).map
            OccupationConflict.resolvingShiftS := by rw [List.map_map]; rfl
      _ = _ := by rw [List.zipIdx_map_fst]
  rw [hlabel, List.mem_map]
  simp only [List.mem_insertionSort]

/-- The conflicts of a report, by the delays that resolve them. -/
lemma mem_resolvingShifts {shift delay : Int} :
    delay ∈ (ledger.checkShifted run shift).conflicts.map OccupationConflict.resolvingShiftS
      ↔ ∃ pair ∈ ledger.rivals run, MeetsAt pair shift ∧
          subSat64 pair.2.2.finish (pair.1.shifted shift).start = delay := by
  rw [checkShifted, checkStaircase, mem_resolvingShifts_finish]
  simp only [List.mem_flatMap, List.mem_filterMap, BlockingTimeStaircase.shifted, List.mem_map]
  constructor
  · rintro ⟨conflict, ⟨_, ⟨step, hstep, rfl⟩, resource, hresource, entry, hentry, hfound⟩, rfl⟩
    have hplace : entry.2.resource = resource := ledger.placed resource entry hentry
    subst hplace
    rw [List.mem_cons, ResourceExclusions.mem_excludedBy] at hresource
    split at hfound
    · cases hfound
    next hother =>
      split at hfound
      next hmeet =>
        cases hfound
        exact ⟨(step, entry), ⟨hstep, mem_entries.mpr hentry,
          fun heq => hother (congrArg some heq.symm), hresource⟩,
          BlockingTime.overlaps_iff.mp hmeet, rfl⟩
      next => cases hfound
  · rintro ⟨⟨step, entry⟩, ⟨hstep, hentry, hother, hresource⟩, hmeet, rfl⟩
    refine ⟨⟨"", .of (step.shifted shift) entry.2, step.shifted shift, entry.2, entry.1⟩,
      ⟨step.shifted shift, ⟨step, hstep, rfl⟩, entry.2.resource, ?_, entry,
        mem_entries.mp hentry, ?_⟩, rfl⟩
    · rw [List.mem_cons, ResourceExclusions.mem_excludedBy]
      exact hresource
    · rw [if_neg fun heq => hother (Option.some.inj heq).symm,
        if_pos (BlockingTime.overlaps_iff.mpr hmeet)]

variable {shift limitS found : Int} {rounds : ℕ}

lemma checkShifted_isClear_iff :
    (ledger.checkShifted run shift).isClear = true ↔ ¬ ledger.ConflictsAt run shift := by
  rw [ConflictReport.isClear, List.isEmpty_iff,
    ← List.map_eq_nil_iff (f := OccupationConflict.resolvingShiftS),
    List.eq_nil_iff_forall_not_mem]
  simp only [mem_resolvingShifts]
  constructor
  · rintro h ⟨pair, hpair, hmeet⟩
    exact h _ ⟨pair, hpair, hmeet, rfl⟩
  · rintro h delay ⟨pair, hpair, hmeet, -⟩
    exact h ⟨pair, hpair, hmeet⟩

/-- The longest delay is that of one conflict, and no other is longer. -/
lemma furthestShiftS_of_conflictsAt (h : ledger.ConflictsAt run shift) :
    (∃ pair ∈ ledger.rivals run, MeetsAt pair shift ∧
      subSat64 pair.2.2.finish (pair.1.shifted shift).start
        = (ledger.checkShifted run shift).furthestShiftS) ∧
    ∀ pair ∈ ledger.rivals run, MeetsAt pair shift →
      subSat64 pair.2.2.finish (pair.1.shifted shift).start
        ≤ (ledger.checkShifted run shift).furthestShiftS := by
  obtain ⟨pair, hpair, hmeet⟩ := h
  have hmem := mem_resolvingShifts.mpr ⟨pair, hpair, hmeet, rfl⟩
  rw [ConflictReport.furthestShiftS]
  cases hmax : ((ledger.checkShifted run shift).conflicts.map
      OccupationConflict.resolvingShiftS).max? with
  | none =>
    rw [List.max?_eq_none_iff.mp hmax] at hmem
    cases hmem
  | some furthest =>
    obtain ⟨hin, hall⟩ := List.max?_eq_some_iff.mp hmax
    refine ⟨mem_resolvingShifts.mp hin, fun other hother hmeets => ?_⟩
    exact hall _ (mem_resolvingShifts.mpr ⟨other, hother, hmeets, rfl⟩)

lemma furthestShiftS_of_not_conflictsAt (h : ¬ ledger.ConflictsAt run shift) :
    (ledger.checkShifted run shift).furthestShiftS = 0 := by
  have hclear := checkShifted_isClear_iff.mpr h
  rw [ConflictReport.isClear, List.isEmpty_iff] at hclear
  rw [ConflictReport.furthestShiftS, hclear]
  rfl

/-! ### One round of the search -/

/-- The shift that the next round looks at. -/
def leap (ledger : OccupationLedger) (run : TrainRun) (shift : Int) : Int :=
  addSat64 shift (ledger.checkShifted run shift).furthestShiftS

/-- The shifts a machine integer can count. -/
def shifts : Set Int := Set.Icc 0 i64Max

lemma shifted_span (time : BlockingTime) (shift : Int) :
    (time.shifted shift).span = (clamp64 (time.start + shift), clamp64 (time.finish + shift)) :=
  rfl

lemma delay_pos {start finish : Int} (h : start < finish) : 0 < subSat64 finish start := by
  have hmin : i64Min < 0 := by decide
  have hmax : 0 < i64Max := by decide
  unfold subSat64 clamp64
  omega

/-- Before its delay is over a shifted start still lies before the end of the other
run. -/
lemma start_before {start finish shift later : Int} (hshift : 0 ≤ shift) (hle : shift ≤ later)
    (hstart : clamp64 (start + shift) < finish)
    (hlt : later < addSat64 shift (subSat64 finish (clamp64 (start + shift)))) :
    clamp64 (start + later) < finish := by
  have hmin : i64Min ≤ 0 := by decide
  have hdelay : subSat64 finish (clamp64 (start + shift)) ≤ finish - clamp64 (start + shift) :=
    clamp64_le (by omega) (le_refl _)
  have hpos := delay_pos hstart
  have hnext : addSat64 shift (subSat64 finish (clamp64 (start + shift)))
      ≤ shift + subSat64 finish (clamp64 (start + shift)) :=
    clamp64_le (by omega) (le_refl _)
  have hmoved := clamp64_add_le (x := start + shift) (n := later - shift) (by omega)
  rw [show start + shift + (later - shift) = start + later by omega] at hmoved
  omega

/-- Once its delay is over a start lies no longer before the end of the other run. -/
lemma start_not_before {start finish shift step later : Int} (hshift : 0 ≤ shift)
    (hmin : i64Min ≤ start) (hmax : finish ≤ i64Max)
    (hstart : clamp64 (start + shift) < finish)
    (hstep : subSat64 finish (clamp64 (start + shift)) ≤ step)
    (hle : addSat64 shift step ≤ later) (hlater : later < i64Max) :
    ¬ clamp64 (start + later) < finish := by
  intro hbefore
  have hshifted := lt_of_clamp64_lt hmax hstart
  have hmoved := lt_of_clamp64_lt hmax hbefore
  rw [clamp64_of_mem ⟨by omega, by omega⟩] at hstep
  unfold addSat64 at hle
  unfold subSat64 at hstep
  unfold clamp64 at hle hstep
  have hbounds : i64Min ≤ 0 := by decide
  omega

lemma MeetsAt.delay_pos {pair : BlockingTime × LedgerEntry} (h : MeetsAt pair shift) :
    0 < subSat64 pair.2.2.finish (pair.1.shifted shift).start :=
  OccupationLedger.delay_pos h.1

lemma MeetsAt.stays {pair : BlockingTime × LedgerEntry} {shift later : Int}
    (h : MeetsAt pair shift) (hshift : 0 ≤ shift) (hle : shift ≤ later)
    (hlt : later
      < addSat64 shift (subSat64 pair.2.2.finish (pair.1.shifted shift).start)) :
    MeetsAt pair later := by
  refine ⟨start_before hshift hle h.1 hlt, ?_⟩
  have hlonger : clamp64 (pair.1.finish + shift) ≤ clamp64 (pair.1.finish + later) :=
    clamp64_mono (Int.add_le_add_left hle _)
  exact h.2.trans_le hlonger

lemma exists_meetsAt_until_leap (hshift : 0 ≤ shift) (h : ledger.ConflictsAt run shift) :
    ∃ pair ∈ ledger.rivals run,
      ∀ later, shift ≤ later → later < ledger.leap run shift → MeetsAt pair later := by
  obtain ⟨⟨pair, hpair, hmeet, hdelay⟩, -⟩ := furthestShiftS_of_conflictsAt h
  refine ⟨pair, hpair, fun later hle hlt => hmeet.stays hshift hle ?_⟩
  rw [hdelay]
  exact hlt

lemma furthestShiftS_pos (h : ledger.ConflictsAt run shift) :
    0 < (ledger.checkShifted run shift).furthestShiftS := by
  obtain ⟨⟨pair, -, hmeet, hdelay⟩, -⟩ := furthestShiftS_of_conflictsAt h
  rw [← hdelay]
  exact hmeet.delay_pos

lemma furthestShiftS_nonneg :
    0 ≤ (ledger.checkShifted run shift).furthestShiftS := by
  by_cases h : ledger.ConflictsAt run shift
  · exact (furthestShiftS_pos h).le
  · exact (furthestShiftS_of_not_conflictsAt h).ge

lemma leap_mem (h : shift ∈ shifts) :
    shift ≤ ledger.leap run shift ∧ ledger.leap run shift ∈ shifts := by
  obtain ⟨hfrom, hto⟩ := h
  have hstep := @furthestShiftS_nonneg ledger run shift
  have hmin : i64Min ≤ 0 := by decide
  have honward : shift ≤ ledger.leap run shift := by
    rw [leap, addSat64, ← clamp64_of_mem ⟨hmin.trans hfrom, hto⟩]
    refine clamp64_mono ?_
    rw [clamp64_of_mem ⟨hmin.trans hfrom, hto⟩]
    linarith
  exact ⟨honward, hfrom.trans honward, clamp64_le_max _⟩

lemma leap_of_not_conflictsAt (h : shift ∈ shifts)
    (hfree : ¬ ledger.ConflictsAt run shift) : ledger.leap run shift = shift := by
  have hmin : i64Min ≤ 0 := by decide
  rw [leap, furthestShiftS_of_not_conflictsAt hfree, addSat64, add_zero]
  exact clamp64_of_mem ⟨hmin.trans h.1, h.2⟩

lemma le_iterate_leap (h : shift ∈ shifts) (n : ℕ) :
    shift ≤ (ledger.leap run)^[n] shift := by
  induction n generalizing shift with
  | zero => exact le_refl shift
  | succ n ih =>
    obtain ⟨honward, hmem⟩ := @leap_mem ledger run _ h
    exact honward.trans (ih hmem)

/-! ### The rounds -/

lemma shiftRounds_of_free (h : ¬ ledger.ConflictsAt run shift) :
    (ledger.shiftRounds run limitS (rounds + 1) shift).shift = some shift := by
  simp only [shiftRounds, checkShifted_isClear_iff.mpr h, if_true]
  split
  next hzero => rw [hzero]; rfl
  next => rfl

lemma shiftRounds_of_conflictsAt (h : ledger.ConflictsAt run shift) :
    ledger.shiftRounds run limitS (rounds + 1) shift
      = if limitS < ledger.leap run shift then .impossible
        else ledger.shiftRounds run limitS rounds (ledger.leap run shift) := by
  have hconflict : ¬ (ledger.checkShifted run shift).isClear = true :=
    fun hclear => checkShifted_isClear_iff.mp hclear h
  rw [shiftRounds, if_neg hconflict, if_neg (not_le.mpr (furthestShiftS_pos h))]
  rfl

/-- What the rounds find is the least free shift. -/
lemma shiftRounds_isLeast (hshift : shift ∈ shifts)
    (h : (ledger.shiftRounds run limitS rounds shift).shift = some found) :
    IsLeast (freeFrom (ledger.ConflictsAt run) shift) found := by
  induction rounds generalizing shift with
  | zero => cases h
  | succ rounds ih =>
    by_cases hconflict : ledger.ConflictsAt run shift
    · rw [shiftRounds_of_conflictsAt hconflict] at h
      split at h
      · cases h
      · obtain ⟨honward, hmem⟩ := @leap_mem ledger run _ hshift
        obtain ⟨pair, hpair, hmeets⟩ := exists_meetsAt_until_leap hshift.1 hconflict
        exact isLeast_freeFrom_of_leap honward
          (fun later hle hlt => ⟨pair, hpair, hmeets later hle hlt⟩) (ih hmem h)
    · rw [shiftRounds_of_free hconflict] at h
      cases h
      exact ⟨⟨le_refl found, hconflict⟩, fun v hv => hv.1⟩

/-- The rounds find a free shift that so many leaps lead to, unless it lies beyond the
limit. -/
lemma shiftRounds_eq_some_iff (hshift : shift ∈ shifts) :
    (ledger.shiftRounds run limitS rounds shift).shift = some found ↔
      ∃ n < rounds, (ledger.leap run)^[n] shift = found ∧ ¬ ledger.ConflictsAt run found ∧
        (found = shift ∨ found ≤ limitS) := by
  induction rounds generalizing shift with
  | zero =>
    constructor
    · intro h
      cases h
    · rintro ⟨n, hn, -⟩
      exact absurd hn n.not_lt_zero
  | succ rounds ih =>
    by_cases hconflict : ledger.ConflictsAt run shift
    · obtain ⟨honward, hmem⟩ := @leap_mem ledger run _ hshift
      rw [shiftRounds_of_conflictsAt hconflict]
      constructor
      · intro h
        split at h
        next => cases h
        next hlimit =>
          obtain ⟨n, hn, hreach, hfree, hwithin⟩ := (ih hmem).mp h
          refine ⟨n + 1, Nat.succ_lt_succ hn, hreach, hfree, .inr ?_⟩
          rcases hwithin with rfl | hwithin
          · exact not_lt.mp hlimit
          · exact hwithin
      · rintro ⟨n, hn, hreach, hfree, hwithin⟩
        have hmoved : found ≠ shift := fun heq => hfree (heq ▸ hconflict)
        cases n with
        | zero => exact absurd hreach.symm hmoved
        | succ n =>
          have hlimit : found ≤ limitS := hwithin.resolve_left hmoved
          have hbefore : ledger.leap run shift ≤ found := hreach ▸ le_iterate_leap hmem n
          rw [if_neg (not_lt.mpr (hbefore.trans hlimit))]
          exact (ih hmem).mpr ⟨n, Nat.lt_of_succ_lt_succ hn, hreach, hfree, .inr hlimit⟩
    · rw [shiftRounds_of_free hconflict, Option.some.injEq]
      constructor
      · intro h
        subst h
        exact ⟨0, rounds.succ_pos, rfl, hconflict, .inl rfl⟩
      · rintro ⟨n, -, hreach, -, -⟩
        rwa [Function.iterate_fixed (leap_of_not_conflictsAt hshift hconflict)] at hreach

/-- **The least delay.**  A run reported as free at a shift has no conflict there, and one
at every shorter shift. -/
theorem earliestConflictFreeShift_isLeast {limitS found : Int}
    (h : (ledger.earliestConflictFreeShift run limitS).shift = some found) :
    ¬ ledger.ConflictsAt run found ∧
      ∀ shift, 0 ≤ shift → shift < found → ledger.ConflictsAt run shift := by
  have hleast := shiftRounds_isLeast ⟨le_refl 0, by decide⟩ h
  exact ⟨hleast.1.2, fun shift hfrom hto => blocked_of_lt_least hleast hfrom hto⟩

/-- A station head with one run on its first route. -/
def headLedger : OccupationLedger :=
  (new StationHead.exclusions).insert (StationHead.run 2 100 (.route 3 1) 0 60)

theorem earliestConflictFreeShift_isLeast_stationHead :
    headLedger.earliestConflictFreeShift (StationHead.run 4 120 (.route 3 2) 0 60) 600
      = .later 40 ∧
    ¬ headLedger.ConflictsAt (StationHead.run 4 120 (.route 3 2) 0 60) 40 ∧
      ∀ shift, 0 ≤ shift → shift < 40 →
        headLedger.ConflictsAt (StationHead.run 4 120 (.route 3 2) 0 60) shift :=
  ⟨by decide +kernel, @earliestConflictFreeShift_isLeast _ _ 600 _ (by decide +kernel)⟩

/-! ### When the rounds are enough -/

/-- The starts of the run and the ends in the ledger are instants of 64 bits. -/
structure OnClock (ledger : OccupationLedger) (run : TrainRun) : Prop where
  run : ∀ step ∈ run.staircase.steps, IsInstant step.start
  ledger : ∀ entry ∈ ledger.entries, IsInstant entry.2.finish

/-- Leaps never pass the least free shift. -/
lemma leapsTo_leap {target : Int}
    (h : IsLeast (freeFrom (ledger.ConflictsAt run) 0) target) (htarget : target ∈ shifts) :
    LeapsTo shifts (ledger.leap run) target where
  keeps shift hshift _ := (leap_mem hshift).2
  short shift hshift hlt := by
    have hconflict := blocked_of_lt_least h hshift.1 hlt
    obtain ⟨pair, hpair, hmeets⟩ := exists_meetsAt_until_leap hshift.1 hconflict
    exact not_lt.mp fun hpast => h.1.2 ⟨pair, hpair, hmeets target hlt.le hpast⟩
  rests := leap_of_not_conflictsAt htarget h.1.2

/-- So many leaps lead to the least free shift as single overlaps cover the way. -/
lemma iterate_leap_eq_iff {target : Int} (hclock : OnClock ledger run)
    (h : IsLeast (freeFrom (ledger.ConflictsAt run) 0) target) (htarget : target ∈ shifts)
    (n : ℕ) :
    (ledger.leap run)^[n] 0 = target
      ↔ CoveredBy (ledger.rivals run) MeetsAt n 0 target := by
  refine iterate_eq_iff_coveredBy (leapsTo_leap h htarget) ?_ ?_ ?_ ⟨le_refl 0, by decide⟩ h.1.1
  · exact fun shift hshift _ => (leap_mem hshift).1
  · intro shift hshift pair hpair hmeet later hleap hlater
    have hall := (furthestShiftS_of_conflictsAt ⟨pair, hpair, hmeet⟩).2 pair hpair hmeet
    have hpast := start_not_before hshift.1 (hclock.run pair.1 hpair.1).1
      (hclock.ledger pair.2 hpair.2.1).2 hmeet.1 hall hleap (hlater.trans_le htarget.2)
    exact fun hmeets => hpast hmeets.1
  · intro shift hshift hlt
    exact exists_meetsAt_until_leap hshift.1 (blocked_of_lt_least h hshift.1 hlt)

/-- What the search finds: the least free delay, if it lies within the limit and fewer
single overlaps cover the way than the search makes rounds. -/
lemma earliestConflictFreeShift_eq_iff (hclock : OnClock ledger run) (hlimit : limitS ≤ i64Max) :
    (ledger.earliestConflictFreeShift run limitS).shift = some found ↔
      IsLeast (freeFrom (ledger.ConflictsAt run) 0) found ∧ (found = 0 ∨ found ≤ limitS) ∧
        CoveredBy (ledger.rivals run) MeetsAt 63 0 found := by
  have hzero : (0 : Int) ∈ shifts := ⟨le_refl 0, by decide⟩
  have hmem (hleast : IsLeast (freeFrom (ledger.ConflictsAt run) 0) found)
      (hwithin : found = 0 ∨ found ≤ limitS) : found ∈ shifts := by
    rcases hwithin with rfl | hwithin
    · exact hzero
    · exact ⟨hleast.1.1, hwithin.trans hlimit⟩
  constructor
  · intro h
    have hleast := shiftRounds_isLeast hzero h
    obtain ⟨n, hn, hreach, -, hwithin⟩ := (shiftRounds_eq_some_iff hzero).mp h
    have hfound := hmem hleast hwithin
    have hreaches := (leapsTo_leap hleast hfound).iterate_of_le hreach (Nat.le_of_lt_succ hn)
    exact ⟨hleast, hwithin, (iterate_leap_eq_iff hclock hleast hfound 63).mp hreaches⟩
  · rintro ⟨hleast, hwithin, hcover⟩
    have hreach := (iterate_leap_eq_iff hclock hleast (hmem hleast hwithin) 63).mpr hcover
    exact (shiftRounds_eq_some_iff hzero).mpr ⟨63, by decide, hreach, hleast.1.2, hwithin⟩

/-- **When the search is right to give up.**  The search gives up only when no delay up to
the limit is free, exactly if the delays before the least free one within the limit lie
under at most 63 single overlaps. -/
theorem impossible_right_iff {limitS : Int} (hclock : OnClock ledger run)
    (hlimit : limitS ≤ i64Max) :
    (ledger.earliestConflictFreeShift run limitS = .impossible →
        ∀ shift, 0 ≤ shift → shift ≤ limitS → ledger.ConflictsAt run shift) ↔
      ∀ shift, IsLeast (freeFrom (ledger.ConflictsAt run) 0) shift → shift ≤ limitS →
        CoveredBy (ledger.rivals run) MeetsAt 63 0 shift := by
  constructor
  · intro h shift hleast hwithin
    cases hfound : (ledger.earliestConflictFreeShift run limitS).shift with
    | none =>
      have himpossible : ledger.earliestConflictFreeShift run limitS = .impossible := by
        cases houtcome : ledger.earliestConflictFreeShift run limitS with
        | impossible => rfl
        | clear | later seconds => rw [houtcome] at hfound; cases hfound
      exact absurd (h himpossible shift hleast.1.1 hwithin) hleast.1.2
    | some found =>
      obtain ⟨hleast', -, hcover⟩ :=
        (earliestConflictFreeShift_eq_iff hclock hlimit).mp hfound
      rwa [hleast.unique hleast']
  · intro h himpossible shift hfrom hto
    by_contra hfree
    obtain ⟨least, hleast, hlower⟩ := Int.exists_least_of_bdd
      (P := fun shift => shift ∈ freeFrom (ledger.ConflictsAt run) 0)
      ⟨0, fun shift hshift => hshift.1⟩ ⟨shift, hfrom, hfree⟩
    have hwithin : least ≤ limitS := (hlower shift ⟨hfrom, hfree⟩).trans hto
    have hfound := (@earliestConflictFreeShift_eq_iff _ _ limitS _ hclock hlimit).mpr
      ⟨⟨hleast, hlower⟩, .inr hwithin, h least ⟨hleast, hlower⟩ hwithin⟩
    rw [himpossible] at hfound
    cases hfound

/-- A station head with many short runs on its first route, one second apart. -/
def crowdedHead (count : ℕ) : OccupationLedger :=
  ((List.range count).map fun k =>
    StationHead.run (2 * k + 2) (10 * k) (.route 3 1) 0 9).foldl offer (new StationHead.exclusions)

/-- With 63 short runs before it the next one is still found free. -/
example : (crowdedHead 63).earliestConflictFreeShift (StationHead.run 1 0 (.route 3 1) 0 2) 1000
    = .later 629 := by decide +kernel

/-- With 64 short runs the search gives up, though the run is free within the limit. -/
theorem not_impossible_right :
    (crowdedHead 64).earliestConflictFreeShift (StationHead.run 1 0 (.route 3 1) 0 2) 1000
        = .impossible ∧
      ¬ (crowdedHead 64).ConflictsAt (StationHead.run 1 0 (.route 3 1) 0 2) 639 :=
  ⟨by decide +kernel, checkShifted_isClear_iff.mp (by decide +kernel)⟩

theorem impossible_right_iff_crowdedHead :
    ((crowdedHead 64).earliestConflictFreeShift (StationHead.run 1 0 (.route 3 1) 0 2) 1000
        = .impossible →
      ∀ shift, 0 ≤ shift → shift ≤ 1000 →
        (crowdedHead 64).ConflictsAt (StationHead.run 1 0 (.route 3 1) 0 2) shift) ↔
      ∀ shift, IsLeast (freeFrom
        ((crowdedHead 64).ConflictsAt (StationHead.run 1 0 (.route 3 1) 0 2)) 0) shift →
        shift ≤ 1000 →
        CoveredBy ((crowdedHead 64).rivals (StationHead.run 1 0 (.route 3 1) 0 2)) MeetsAt 63 0
          shift :=
  impossible_right_iff ⟨by decide +kernel, by decide +kernel⟩ (by decide)

end OccupationLedger

/-! ### The distance of two departures -/

open OccupationLedger

/-- The least distance of the departures of two runs at which they are free of each other,
as the search finds it. -/
def minimumHeadway (first second : TrainRun) (exclusions : ResourceExclusions) (limitS : Int) :
    Option Int :=
  let ledger := (OccupationLedger.new exclusions).insert first
  let distance := subSat64 second.departure first.departure
  match ledger.earliestConflictFreeShift second limitS with
  | .clear => some distance
  | .later shift => some (addSat64 distance shift)
  | .impossible => none

variable (first second : TrainRun) (exclusions : ResourceExclusions)

/-- The second run departs so much later than the first. -/
def distance : Int := second.departure - first.departure

/-- Departing at this distance from the first run, the second one nowhere overlaps it. -/
def FreeAt (gap : Int) : Prop :=
  ∀ step ∈ second.staircase.steps, ∀ other ∈ first.staircase.steps,
    (other.resource = step.resource
      ∨ exclusions.excludes step.resource other.resource = true) →
    ¬ Overlaps (step.shifted (gap - distance first second)).span other.span

/-- The distances of departure at which the second run is free of the first. -/
def freeGaps : Set Int := {gap | 0 ≤ gap ∧ FreeAt first second exclusions gap}

/-- A ledger with only the first run. -/
abbrev ledgerOf : OccupationLedger := (OccupationLedger.new exclusions).insert first

variable {first second exclusions}

lemma mem_entries_ledgerOf {entry : LedgerEntry} :
    entry ∈ (ledgerOf first exclusions).entries
      ↔ entry.1 = first.reference ∧ entry.2 ∈ first.staircase.steps := by
  rw [mem_entries_insert]
  constructor
  · rintro (hnew | h)
    · rw [mem_entries, entriesAt_new] at hnew
      cases hnew
    · exact h
  · exact Or.inr

/-- A shift of the second run is free exactly if the distance it leads to is. -/
lemma freeAt_iff (hdistinct : first.reference ≠ second.reference) {shift : Int} :
    FreeAt first second exclusions (distance first second + shift)
      ↔ ¬ (ledgerOf first exclusions).ConflictsAt second shift := by
  have hshift : distance first second + shift - distance first second = shift := by omega
  rw [FreeAt, hshift]
  constructor
  · rintro h ⟨⟨step, entry⟩, ⟨hstep, hentry, -, hresource⟩, hmeet⟩
    rw [mem_entries_ledgerOf] at hentry
    exact h step hstep entry.2 hentry.2 hresource hmeet
  · intro h step hstep other hother hresource hmeet
    exact h ⟨(step, first.reference, other),
      ⟨hstep, mem_entries_ledgerOf.mpr ⟨rfl, hother⟩, hdistinct, hresource⟩, hmeet⟩

lemma minimumHeadway_eq {limitS : Int} :
    minimumHeadway first second exclusions limitS
      = ((ledgerOf first exclusions).earliestConflictFreeShift second limitS).shift.map
          fun shift => addSat64 (subSat64 second.departure first.departure) shift := by
  have hzero : addSat64 (subSat64 second.departure first.departure) 0
      = subSat64 second.departure first.departure := by
    rw [addSat64, add_zero, subSat64]
    exact clamp64_of_mem ⟨min_le_clamp64 _, clamp64_le_max _⟩
  simp only [minimumHeadway]
  cases (ledgerOf first exclusions).earliestConflictFreeShift second limitS with
  | clear => simp only [ShiftOutcome.shift, Option.map_some, hzero]
  | later shift => rfl
  | impossible => rfl

/-- Moving the second run as a whole, as far as the clock allows, changes nothing about the
distances at which it is free. -/
lemma freeGaps_shifted {seconds : Int} (hdeparture : IsInstant (second.departure + seconds))
    (hsteps : ∀ step ∈ second.staircase.steps,
      IsInstant (step.start + seconds) ∧ IsInstant (step.finish + seconds)) :
    freeGaps first (second.shifted seconds) exclusions = freeGaps first second exclusions := by
  have hdistance : distance first (second.shifted seconds)
      = distance first second + seconds := by
    have hmoved : (second.shifted seconds).departure = second.departure + seconds :=
      clamp64_of_mem hdeparture
    rw [distance, distance, hmoved, add_sub_right_comm]
  have hspan (step : BlockingTime) (hstep : step ∈ second.staircase.steps) (gap : Int) :
      ((step.shifted seconds).shifted (gap - (distance first second + seconds))).span
        = (step.shifted (gap - distance first second)).span := by
    have hstart : (step.shifted seconds).start = step.start + seconds :=
      clamp64_of_mem (hsteps step hstep).1
    have hfinish : (step.shifted seconds).finish = step.finish + seconds :=
      clamp64_of_mem (hsteps step hstep).2
    rw [shifted_span, shifted_span, hstart, hfinish, Int.add_assoc, Int.add_assoc]
    rw [show seconds + (gap - (distance first second + seconds)) = gap - distance first second
      by omega]
  have hfree (gap : Int) : FreeAt first (second.shifted seconds) exclusions gap
      ↔ FreeAt first second exclusions gap := by
    rw [FreeAt, FreeAt, hdistance]
    change (∀ moved ∈ second.staircase.steps.map fun step => step.shifted seconds, _) ↔ _
    rw [List.forall_mem_map]
    refine forall₂_congr fun step hstep => ?_
    rw [hspan step hstep gap]
    rfl
  ext gap
  exact and_congr_right fun _ => hfree gap

lemma addSat_distance {shift : Int} (hmin : i64Min ≤ distance first second)
    (hshift : 0 ≤ shift) (hmax : distance first second + shift ≤ i64Max) :
    addSat64 (subSat64 second.departure first.departure) shift
      = distance first second + shift := by
  have hcarried : distance first second ≤ i64Max := by omega
  have hdistance : subSat64 second.departure first.departure = distance first second :=
    clamp64_of_mem ⟨hmin, hcarried⟩
  rw [hdistance, addSat64]
  exact clamp64_of_mem ⟨by omega, hmax⟩

/-- **The distance of two departures.**  The value reported is the least distance at which
the second run is free of the first exactly if the search finds the least free delay and
none of the free distances lies between zero and the one the runs carry; and the free
distances do not depend on when the second run departs. -/
theorem minimumHeadway_isLeast_iff {limitS : Int} (hdistinct : first.reference ≠ second.reference)
    (hfirst : ∀ step ∈ first.staircase.steps, IsInstant step.finish)
    (hsecond : ∀ step ∈ second.staircase.steps, IsInstant step.start)
    (hlimit : limitS ≤ i64Max) (hcarried : distance first second ≤ i64Max) :
    ((∃ gap, minimumHeadway first second exclusions limitS = some gap ∧
        IsLeast (freeGaps first second exclusions) gap) ↔
      (∃ shift, IsLeast (freeFrom ((ledgerOf first exclusions).ConflictsAt second) 0) shift ∧
        (shift = 0 ∨ shift ≤ limitS) ∧
        CoveredBy ((ledgerOf first exclusions).rivals second) MeetsAt 63 0 shift ∧
        distance first second + shift ≤ i64Max) ∧
      ∀ gap, FreeAt first second exclusions gap → (0 ≤ gap ↔ distance first second ≤ gap)) ∧
    ∀ seconds, IsInstant (second.departure + seconds) →
      (∀ step ∈ second.staircase.steps,
        IsInstant (step.start + seconds) ∧ IsInstant (step.finish + seconds)) →
      freeGaps first (second.shifted seconds) exclusions
        = freeGaps first second exclusions := by
  refine ⟨?_, fun seconds => freeGaps_shifted⟩
  have hclock : OnClock (ledgerOf first exclusions) second :=
    ⟨hsecond, fun entry hentry => hfirst entry.2 (mem_entries_ledgerOf.mp hentry).2⟩
  -- a free distance from the carried one on is a free delay
  have hdelay {shift : Int}
      (hleast : IsLeast (freeFrom ((ledgerOf first exclusions).ConflictsAt second) 0) shift)
      {gap : Int} (hgap : FreeAt first second exclusions gap)
      (hfrom : distance first second ≤ gap) : distance first second + shift ≤ gap := by
    have hfree : gap - distance first second
        ∈ freeFrom ((ledgerOf first exclusions).ConflictsAt second) 0 := by
      refine ⟨by omega, (freeAt_iff hdistinct).mp ?_⟩
      rwa [show distance first second + (gap - distance first second) = gap by omega]
    have hle := hleast.2 hfree
    omega
  constructor
  · rintro ⟨gap, hgap, hleastGap⟩
    rw [minimumHeadway_eq, Option.map_eq_some_iff] at hgap
    obtain ⟨shift, hfound, rfl⟩ := hgap
    obtain ⟨hleast, hwithin, hcover⟩ := (earliestConflictFreeShift_eq_iff hclock hlimit).mp hfound
    have hshift : 0 ≤ shift := hleast.1.1
    have hmost : shift ≤ i64Max := by
      have hmax : 0 ≤ i64Max := by decide
      omega
    obtain ⟨⟨hnonneg, hfree⟩, hlower⟩ := hleastGap
    have hmin : i64Min ≤ distance first second := by
      by_contra hbelow
      have hvalues : i64Min + i64Max < 0 := by decide
      have hcut : subSat64 second.departure first.departure ≤ i64Min :=
        clamp64_le (le_refl _) (not_le.mp hbelow).le
      have hnegative : addSat64 (subSat64 second.departure first.departure) shift ≤ -1 :=
        clamp64_le (by decide) (by omega)
      omega
    have hmax : distance first second + shift ≤ i64Max := by
      by_contra habove
      have htop : addSat64 (subSat64 second.departure first.departure) shift = i64Max := by
        have hdistance : subSat64 second.departure first.departure = distance first second :=
          clamp64_of_mem ⟨hmin, hcarried⟩
        rw [hdistance, addSat64, clamp64]
        have hbounds : i64Min ≤ i64Max := by decide
        omega
      rw [htop] at hfree
      exact habove (hdelay hleast hfree hcarried)
    rw [addSat_distance hmin hshift hmax] at hnonneg hlower
    refine ⟨⟨shift, hleast, hwithin, hcover, hmax⟩, fun other hother => ⟨?_, ?_⟩⟩
    · intro hfrom
      have hle := hlower ⟨hfrom, hother⟩
      omega
    · intro hfrom
      have hle := hdelay hleast hother hfrom
      omega
  · rintro ⟨⟨shift, hleast, hwithin, hcover, hmax⟩, hbetween⟩
    have hshift : 0 ≤ shift := hleast.1.1
    have hfree : FreeAt first second exclusions (distance first second + shift) :=
      (freeAt_iff hdistinct).mpr hleast.1.2
    have hnonneg : 0 ≤ distance first second + shift := (hbetween _ hfree).mpr (by omega)
    have hmin : i64Min ≤ distance first second := by
      have hmost : shift ≤ i64Max := by
        have hbounds : 0 ≤ i64Max := by decide
        omega
      have hvalues : i64Min ≤ -i64Max := by decide
      omega
    have hfound := (earliestConflictFreeShift_eq_iff hclock hlimit).mpr ⟨hleast, hwithin, hcover⟩
    refine ⟨distance first second + shift, ?_, ⟨hnonneg, hfree⟩, fun gap hgap => ?_⟩
    · rw [minimumHeadway_eq, hfound, Option.map_some, addSat_distance hmin hshift hmax]
    · exact hdelay hleast hgap.2 ((hbetween gap hgap.2).mp hgap.1)

/-- Two runs over the first route of a station head, the second an hour after the first. -/
theorem not_minimumHeadway_isLeast :
    minimumHeadway (StationHead.run 2 0 (.route 3 1) 0 60)
        (StationHead.run 4 3600 (.route 3 1) 0 60) StationHead.exclusions 600 = some 3600 ∧
      60 ∈ freeGaps (StationHead.run 2 0 (.route 3 1) 0 60)
        (StationHead.run 4 3600 (.route 3 1) 0 60) StationHead.exclusions := by
  refine ⟨by decide +kernel, by decide, ?_⟩
  simp only [FreeAt]
  decide +kernel

theorem minimumHeadway_isLeast_iff_stationHead :
    (∃ gap, minimumHeadway (StationHead.run 2 0 (.route 3 1) 0 60)
        (StationHead.run 4 30 (.route 3 1) 0 60) StationHead.exclusions 600 = some gap ∧
      IsLeast (freeGaps (StationHead.run 2 0 (.route 3 1) 0 60)
        (StationHead.run 4 30 (.route 3 1) 0 60) StationHead.exclusions) gap) ↔
    (∃ shift, IsLeast (freeFrom ((ledgerOf (StationHead.run 2 0 (.route 3 1) 0 60)
        StationHead.exclusions).ConflictsAt (StationHead.run 4 30 (.route 3 1) 0 60)) 0) shift ∧
      (shift = 0 ∨ shift ≤ 600) ∧
      CoveredBy ((ledgerOf (StationHead.run 2 0 (.route 3 1) 0 60)
        StationHead.exclusions).rivals (StationHead.run 4 30 (.route 3 1) 0 60)) MeetsAt 63 0
          shift ∧
      distance (StationHead.run 2 0 (.route 3 1) 0 60) (StationHead.run 4 30 (.route 3 1) 0 60)
        + shift ≤ i64Max) ∧
    ∀ gap, FreeAt (StationHead.run 2 0 (.route 3 1) 0 60)
        (StationHead.run 4 30 (.route 3 1) 0 60) StationHead.exclusions gap →
      (0 ≤ gap ↔ distance (StationHead.run 2 0 (.route 3 1) 0 60)
        (StationHead.run 4 30 (.route 3 1) 0 60) ≤ gap) :=
  (minimumHeadway_isLeast_iff (by decide +kernel) (by decide +kernel) (by decide +kernel)
    (by decide) (by decide +kernel)).1

end Zugfolge.Conflict
