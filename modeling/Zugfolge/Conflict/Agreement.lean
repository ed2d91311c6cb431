/-
The two records of a timetable.

A timetable keeps its accepted offers and, beside them, the ledger of their runs.  The
ledger is written run by run when an offer is accepted and built anew when one is
withdrawn.

* `NetworkTimetable.Sound`, `apply_sound`, `runs_apart`: no two runs of a timetable meet;
* `exact_iff_leavesNothingBehind`: which histories do;
* `rescheduled_not_exact`: a number accepted twice leaves its first runs behind.
-/
import Zugfolge.Conflict.Timetable

namespace Zugfolge.Conflict

open Foundation Std

namespace NetworkTimetable

variable {timetable : NetworkTimetable}

/-! ### No two runs at once -/

/-- Runs of the ledger do not meet, and all runs of accepted offers are in it. -/
structure Sound (timetable : NetworkTimetable) : Prop where
  exclusions : timetable.ledger.exclusions = timetable.exclusions
  conflictFree : timetable.ledger.ConflictFree
  entered : ∀ run ∈ timetable.acceptedRuns, ∀ step ∈ run.staircase.steps,
    (run.reference, step) ∈ timetable.ledger.entries

variable {number : TrainNumber} {run : TrainRun}

lemma mem_acceptedRuns :
    run ∈ timetable.acceptedRuns ↔ ∃ (number : TrainNumber) (pattern : ServicePattern),
      timetable.accepted[number]? = some pattern ∧ run ∈ timetable.runsOf pattern := by
  simp only [acceptedRuns, List.mem_flatMap, Registry.mem_values]
  constructor
  · rintro ⟨pattern, ⟨number, hnumber⟩, hrun⟩
    exact ⟨number, pattern, hnumber, hrun⟩
  · rintro ⟨number, pattern, hnumber, hrun⟩
    exact ⟨pattern, ⟨number, hnumber⟩, hrun⟩

lemma runsOf_congr {other : NetworkTimetable} (h : other.horizonDays = timetable.horizonDays)
    (pattern : ServicePattern) : other.runsOf pattern = timetable.runsOf pattern := by
  rw [runsOf, runsOf, days, days, h]

lemma new_sound (exclusions : ResourceExclusions) (horizonDays : Int) :
    (new exclusions horizonDays).Sound where
  exclusions := rfl
  conflictFree := OccupationLedger.conflictFree_new exclusions
  entered := by
    intro run hrun
    obtain ⟨number, pattern, hnumber, -⟩ := mem_acceptedRuns.mp hrun
    simp [new] at hnumber

lemma Sound.schedule (h : timetable.Sound) (pattern : ServicePattern) :
    (timetable.schedule pattern).1.Sound := by
  cases hcollides : timetable.collides pattern with
  | true =>
    rw [schedule_of_collides hcollides]
    exact ⟨h.exclusions, h.conflictFree, h.entered⟩
  | false =>
    obtain ⟨-, hexclusions, hhorizon, haccepted, hledger⟩ := schedule_of_fits hcollides
    rw [collides, Bool.not_eq_false'] at hcollides
    refine ⟨?_, ?_, fun run hrun step hstep => ?_⟩
    · rw [hledger, OccupationLedger.foldl_insert_exclusions, hexclusions, h.exclusions]
    · rw [hledger]
      exact h.conflictFree.foldl_insert hcollides
    · rw [hledger, OccupationLedger.mem_entries_foldl_insert]
      obtain ⟨number, other, hnumber, hin⟩ := mem_acceptedRuns.mp hrun
      rw [runsOf_congr hhorizon] at hin
      rw [haccepted, Registry.getElem?_insert] at hnumber
      split at hnumber
      · cases hnumber
        exact .inr ⟨run, hin, rfl, hstep⟩
      · exact .inl (h.entered run (mem_acceptedRuns.mpr ⟨number, other, hnumber, hin⟩) step hstep)

/-- A ledger built anew from some of the offers holds nothing else. -/
lemma Sound.rebuild {other : NetworkTimetable} (h : timetable.Sound)
    (hexclusions : other.exclusions = timetable.exclusions)
    (hruns : ∀ run ∈ other.acceptedRuns, run ∈ timetable.acceptedRuns) : other.rebuild.Sound := by
  have hentries : ∀ entry ∈ other.rebuild.ledger.entries, entry ∈ timetable.ledger.entries := by
    intro entry hentry
    rw [rebuild_ledger, OccupationLedger.mem_entries_foldl_insert] at hentry
    rcases hentry with hnew | ⟨run, hrun, hreference, hstep⟩
    · rw [OccupationLedger.mem_entries, OccupationLedger.entriesAt_new] at hnew
      cases hnew
    · have hentered := h.entered run (hruns run hrun) entry.2 hstep
      rwa [← hreference] at hentered
  refine ⟨?_, ?_, fun run hrun step hstep => ?_⟩
  · rw [rebuild_ledger, OccupationLedger.foldl_insert_exclusions]
    rfl
  · intro first hfirst second hsecond hdifferent hshares
    rw [rebuild_ledger, OccupationLedger.foldl_insert_exclusions] at hshares
    refine h.conflictFree first (hentries first hfirst) second (hentries second hsecond)
      hdifferent ?_
    rw [h.exclusions, ← hexclusions]
    exact hshares
  · rw [rebuild_ledger, OccupationLedger.mem_entries_foldl_insert]
    exact .inr ⟨run, hrun, rfl, hstep⟩

lemma Sound.apply (h : timetable.Sound) (command : TimetableCommand) :
    (timetable.apply command).Sound := by
  cases command with
  | schedule pattern => exact h.schedule pattern
  | withdraw number =>
    rw [NetworkTimetable.apply, withdraw]
    split
    · refine h.rebuild rfl fun run hrun => ?_
      obtain ⟨other, pattern, hother, hin⟩ := mem_acceptedRuns.mp hrun
      rw [Registry.getElem?_erase] at hother
      split at hother
      · cases hother
      · exact mem_acceptedRuns.mpr ⟨other, pattern, hother, hin⟩
    · exact h

lemma sound_of_commands (exclusions : ResourceExclusions) (horizonDays : Int)
    (commands : List TimetableCommand) :
    (commands.foldl apply (new exclusions horizonDays)).Sound :=
  foldl_invariant (fun _ command h => h.apply command) (new_sound exclusions horizonDays) commands

/-- **No two runs at once.**  After any commands, entries of different runs on the same
resource or on mutually exclusive ones do not overlap; two runs of one accepted offer on
different days do not meet either; and an offer that is refused changes neither the
accepted offers nor the ledger. -/
theorem runs_apart (exclusions : ResourceExclusions) (horizonDays : Int)
    (commands : List TimetableCommand) :
    let timetable := commands.foldl apply (new exclusions horizonDays)
    (∀ first ∈ timetable.ledger.entries, ∀ second ∈ timetable.ledger.entries,
      first.1 ≠ second.1 →
        timetable.ledger.exclusions.Shares first.2.resource second.2.resource →
          ¬ Overlaps first.2.span second.2.span
            ∧ ∀ t, ¬ (Covers first.2.span t ∧ Covers second.2.span t)) ∧
    (∀ (number : TrainNumber) (pattern : ServicePattern),
      timetable.accepted[number]? = some pattern →
      ∀ day ∈ timetable.days, ∀ later ∈ timetable.days, ∀ run other : TrainRun,
        pattern.materialise day = some run → pattern.materialise later = some other →
        run.reference ≠ other.reference →
        ∀ step ∈ run.staircase.steps, ∀ step' ∈ other.staircase.steps,
          timetable.ledger.exclusions.Shares step.resource step'.resource →
            ¬ Overlaps step.span step'.span) ∧
    ∀ pattern, (timetable.schedule pattern).2 = false →
      (timetable.schedule pattern).1.accepted = timetable.accepted
        ∧ (timetable.schedule pattern).1.ledger = timetable.ledger := by
  intro timetable
  have hsound := sound_of_commands exclusions horizonDays commands
  refine ⟨fun first hfirst second hsecond hdifferent hshares => ?_,
    fun number pattern hpattern day hday later hlater run other hrun hother hdifferent
      step hstep step' hstep' hshares => ?_, fun pattern hrefused => ?_⟩
  · have hapart := hsound.conflictFree first hfirst second hsecond hdifferent hshares
    exact ⟨hapart, not_covers_of_not_overlaps hapart⟩
  · have hentered : ∀ {day run step}, day ∈ timetable.days → pattern.materialise day = some run →
        step ∈ run.staircase.steps → (run.reference, step) ∈ timetable.ledger.entries := by
      intro day run step hday hrun hstep
      exact hsound.entered run (mem_acceptedRuns.mpr ⟨number, pattern, hpattern,
        mem_runsOf.mpr ⟨day, hday, hrun⟩⟩) step hstep
    exact hsound.conflictFree _ (hentered hday hrun hstep) _ (hentered hlater hother hstep')
      hdifferent hshares
  · cases hcollides : timetable.collides pattern with
    | true =>
      rw [schedule_of_collides hcollides]
      exact ⟨rfl, rfl⟩
    | false =>
      rw [(schedule_of_fits hcollides).1] at hrefused
      cases hrefused

/-! ### The ledger and the accepted offers -/

/-- The ledger holds the runs and entries that building it anew would give. -/
def Agrees (timetable : NetworkTimetable) : Prop :=
  timetable.ledger.Same timetable.rebuild.ledger

/-- The two records agree, and a withdrawal frees what its number held and nothing else. -/
structure Exact (timetable : NetworkTimetable) : Prop where
  rebuilt : timetable.Agrees
  freedRuns : ∀ (number : TrainNumber) (reference : RunReference),
    reference ∈ (timetable.withdraw number).ledger.runs
      ↔ reference ∈ timetable.ledger.runs ∧ reference.number ≠ number
  freedEntries : ∀ (number : TrainNumber) (resource : ConflictResource),
    ((timetable.withdraw number).ledger.entriesAt resource).Perm
      ((timetable.ledger.entriesAt resource).filter fun entry => entry.1.number ≠ number)

/-- The runs of all accepted offers but one. -/
def otherRuns (timetable : NetworkTimetable) (number : TrainNumber) : List TrainRun :=
  (Registry.values (timetable.accepted.erase number)).flatMap timetable.runsOf

lemma otherRuns_number (h : run ∈ timetable.otherRuns number) : run.reference.number ≠ number := by
  simp only [otherRuns, List.mem_flatMap, Registry.mem_values] at h
  obtain ⟨pattern, ⟨other, hother⟩, hin⟩ := h
  rw [Registry.getElem?_erase] at hother
  split at hother
  · cases hother
  next hne =>
    rw [runsOf_number hin, timetable.numbered other pattern hother]
    exact hne

lemma acceptedRuns_perm {pattern : ServicePattern}
    (h : timetable.accepted[number]? = some pattern) :
    timetable.acceptedRuns.Perm (timetable.runsOf pattern ++ timetable.otherRuns number) :=
  (Registry.values_perm_cons h).flatMap_right _

lemma otherRuns_of_none (h : timetable.accepted[number]? = none) :
    timetable.otherRuns number = timetable.acceptedRuns := by
  rw [otherRuns, acceptedRuns, Registry.erase_of_none h]

/-- The runs beside a number are the accepted ones with another number. -/
lemma otherRuns_perm (timetable : NetworkTimetable) (number : TrainNumber) :
    (timetable.otherRuns number).Perm
      (timetable.acceptedRuns.filter fun run => run.reference.number ≠ number) := by
  have hother : (timetable.otherRuns number).filter (fun run => run.reference.number ≠ number)
      = timetable.otherRuns number := by
    refine List.filter_eq_self.mpr fun run hrun => ?_
    exact decide_eq_true (otherRuns_number hrun)
  cases hold : timetable.accepted[number]? with
  | none => rw [← otherRuns_of_none hold, hother]
  | some pattern =>
    have hown : (timetable.runsOf pattern).filter (fun run => run.reference.number ≠ number)
        = [] := by
      refine List.filter_eq_nil_iff.mpr fun run hrun => ?_
      rw [runsOf_number hrun, timetable.numbered number pattern hold]
      simp
    have hfilter := (acceptedRuns_perm hold).filter fun run => run.reference.number ≠ number
    rw [List.filter_append, hown, List.nil_append, hother] at hfilter
    exact hfilter.symm

/-- The runs of a timetable entered into an empty ledger. -/
def ledgerOf (timetable : NetworkTimetable) (runs : List TrainRun) : OccupationLedger :=
  runs.foldl .insert (.new timetable.exclusions)

lemma mem_runs_ledgerOf {runs : List TrainRun} {reference : RunReference} :
    reference ∈ (timetable.ledgerOf runs).runs ↔ ∃ run ∈ runs, run.reference = reference := by
  rw [ledgerOf, OccupationLedger.mem_runs_foldl_insert]
  simp [OccupationLedger.new]

lemma entriesAt_ledgerOf (runs : List TrainRun) (resource : ConflictResource) :
    (timetable.ledgerOf runs).entriesAt resource
      = OccupationLedger.entriesOfRuns runs resource := by
  rw [ledgerOf, OccupationLedger.entriesAt_foldl_insert, OccupationLedger.entriesAt_new,
    List.nil_append]

lemma Agrees.withdraw_same (h : timetable.Agrees) (number : TrainNumber) :
    (timetable.withdraw number).ledger.Same
      (timetable.ledgerOf (timetable.otherRuns number)) := by
  rw [withdraw]
  split
  · rw [rebuild_ledger]
    exact OccupationLedger.same_of_perm (.refl _) _
  next habsent =>
    rw [Bool.not_eq_true, Registry.contains_eq_false] at habsent
    rw [otherRuns_of_none habsent]
    have hagrees := h
    rw [Agrees, rebuild_ledger] at hagrees
    exact hagrees

/-- Every entry of a run carries the number of the run. -/
lemma filter_entriesOf (run : TrainRun) (number : TrainNumber) (resource : ConflictResource) :
    (EntryBook.entriesOf run.reference run.staircase.steps resource).filter
        (fun entry => entry.1.number ≠ number)
      = if run.reference.number = number then []
        else EntryBook.entriesOf run.reference run.staircase.steps resource := by
  split
  next hnumber =>
    refine List.filter_eq_nil_iff.mpr fun entry hentry => ?_
    rw [(EntryBook.mem_entriesOf.mp hentry).1, hnumber]
    simp
  next hnumber =>
    refine List.filter_eq_self.mpr fun entry hentry => ?_
    rw [(EntryBook.mem_entriesOf.mp hentry).1]
    exact decide_eq_true hnumber

lemma filter_entriesOfRuns (runs : List TrainRun) (number : TrainNumber)
    (resource : ConflictResource) :
    (OccupationLedger.entriesOfRuns runs resource).filter (fun entry => entry.1.number ≠ number)
      = OccupationLedger.entriesOfRuns
        (runs.filter fun run => run.reference.number ≠ number) resource := by
  induction runs with
  | nil => rfl
  | cons run runs ih =>
    simp only [OccupationLedger.entriesOfRuns] at ih ⊢
    rw [List.flatMap_cons, List.filter_append, ih, filter_entriesOf, List.filter_cons]
    by_cases hnumber : run.reference.number = number
    · simp [hnumber]
    · simp [hnumber]

lemma Agrees.exact (h : timetable.Agrees) : timetable.Exact := by
  have hledger := h
  rw [Agrees, rebuild_ledger] at hledger
  refine ⟨h, fun number reference => ?_, fun number resource => ?_⟩
  · rw [(h.withdraw_same number).runs, hledger.runs]
    change reference ∈ (timetable.ledgerOf _).runs
      ↔ reference ∈ (timetable.ledgerOf _).runs ∧ _
    rw [mem_runs_ledgerOf, mem_runs_ledgerOf]
    constructor
    · rintro ⟨run, hrun, rfl⟩
      rw [(timetable.otherRuns_perm number).mem_iff, List.mem_filter] at hrun
      exact ⟨⟨run, hrun.1, rfl⟩, of_decide_eq_true hrun.2⟩
    · rintro ⟨⟨run, hrun, rfl⟩, hnumber⟩
      refine ⟨run, ?_, rfl⟩
      rw [(timetable.otherRuns_perm number).mem_iff, List.mem_filter]
      exact ⟨hrun, decide_eq_true hnumber⟩
  · have hfilter := filter_entriesOfRuns timetable.acceptedRuns number resource
    refine ((h.withdraw_same number).entries resource).trans ?_
    refine List.Perm.trans ?_ ((hledger.entries resource).symm.filter _)
    change ((timetable.ledgerOf _).entriesAt resource).Perm
      (((timetable.ledgerOf _).entriesAt resource).filter _)
    rw [entriesAt_ledgerOf, entriesAt_ledgerOf, hfilter]
    exact (timetable.otherRuns_perm number).flatMap_right _

/-! ### Which commands keep the records together -/

/-- The runs an accepted offer with the number has. -/
def heldRuns (timetable : NetworkTimetable) (number : TrainNumber) : List TrainRun :=
  match timetable.accepted[number]? with
  | none => []
  | some old => timetable.runsOf old

/-- The command leaves no run of a replaced offer behind: it is refused, the number is new,
or the replaced offer holds nothing under a run the new one lacks. -/
def leavesNothingBehind (timetable : NetworkTimetable) : TimetableCommand → Bool
  | .withdraw _ => true
  | .schedule pattern => timetable.collides pattern
      || (timetable.heldRuns pattern.number).all fun old =>
        old.staircase.steps.isEmpty
          && (timetable.runsOf pattern).any fun run => run.reference = old.reference

lemma acceptedRuns_perm_held (number : TrainNumber) :
    timetable.acceptedRuns.Perm (timetable.heldRuns number ++ timetable.otherRuns number) := by
  cases hold : timetable.accepted[number]? with
  | none => rw [heldRuns, hold, otherRuns_of_none hold, List.nil_append]
  | some old =>
    rw [heldRuns, hold]
    exact acceptedRuns_perm hold

lemma heldRuns_number (h : run ∈ timetable.heldRuns number) : run.reference.number = number := by
  rw [heldRuns] at h
  split at h
  · cases h
  next old hold => rw [runsOf_number h, timetable.numbered number old hold]

lemma acceptedRuns_schedule {pattern : ServicePattern}
    (h : timetable.collides pattern = false) :
    (timetable.schedule pattern).1.acceptedRuns.Perm
      (timetable.runsOf pattern ++ timetable.otherRuns pattern.number) := by
  obtain ⟨-, -, hhorizon, haccepted, -⟩ := schedule_of_fits h
  have hruns : (timetable.schedule pattern).1.runsOf = timetable.runsOf :=
    funext (runsOf_congr hhorizon)
  have hvalues := Registry.values_insert_perm timetable.accepted pattern.number pattern
  rw [acceptedRuns, otherRuns, haccepted, hruns]
  exact hvalues.flatMap_right _

/-- Runs entered beside others leave no entry only if they hold nothing. -/
lemma entriesOfRuns_eq_nil_iff {runs : List TrainRun} :
    (∀ resource, OccupationLedger.entriesOfRuns runs resource = [])
      ↔ ∀ run ∈ runs, run.staircase.steps = [] := by
  simp only [OccupationLedger.entriesOfRuns, List.flatMap_eq_nil_iff]
  constructor
  · intro h run hrun
    refine List.eq_nil_iff_forall_not_mem.mpr fun step hstep => ?_
    have hentry : (run.reference, step)
        ∈ EntryBook.entriesOf run.reference run.staircase.steps step.resource :=
      EntryBook.mem_entriesOf.mpr ⟨rfl, hstep, rfl⟩
    rw [h step.resource run hrun] at hentry
    cases hentry
  · intro h resource run hrun
    rw [h run hrun]
    rfl

/-- Old runs beside the new and the other ones make no difference only if they hold
nothing and each has the reference of a new one. -/
lemma ledgerOf_same_iff {old new others : List TrainRun}
    (hold : ∀ run ∈ old, run.reference.number = number)
    (hothers : ∀ run ∈ others, run.reference.number ≠ number) :
    (timetable.ledgerOf ((old ++ others) ++ new)).Same (timetable.ledgerOf (new ++ others))
      ↔ ∀ run ∈ old, run.staircase.steps = []
        ∧ ∃ later ∈ new, later.reference = run.reference := by
  have happend : ∀ a b resource, OccupationLedger.entriesOfRuns (a ++ b) resource
      = OccupationLedger.entriesOfRuns a resource
        ++ OccupationLedger.entriesOfRuns b resource :=
    fun a b resource => List.flatMap_append
  constructor
  · intro hsame
    have hnil : ∀ resource, OccupationLedger.entriesOfRuns old resource = [] := by
      intro resource
      have hlength := (hsame.entries resource).length_eq
      simp only [entriesAt_ledgerOf, happend, List.length_append] at hlength
      exact List.length_eq_zero_iff.mp (by omega)
    intro run hrun
    refine ⟨entriesOfRuns_eq_nil_iff.mp hnil run hrun, ?_⟩
    have hin : run.reference ∈ (timetable.ledgerOf (new ++ others)).runs := by
      refine (hsame.runs run.reference).mp (mem_runs_ledgerOf.mpr ⟨run, ?_, rfl⟩)
      exact List.mem_append_left _ (List.mem_append_left _ hrun)
    obtain ⟨later, hlater, hreference⟩ := mem_runs_ledgerOf.mp hin
    rcases List.mem_append.mp hlater with hnew | hother
    · exact ⟨later, hnew, hreference⟩
    · exact absurd (hreference ▸ hold run hrun) (hothers later hother)
  · intro h
    have hnil := entriesOfRuns_eq_nil_iff.mpr fun run hrun => (h run hrun).1
    refine ⟨by simp [ledgerOf], fun reference => ?_, fun resource => ?_⟩
    · rw [mem_runs_ledgerOf, mem_runs_ledgerOf]
      constructor
      · rintro ⟨run, hrun, rfl⟩
        rcases List.mem_append.mp hrun with hrun | hnew
        · rcases List.mem_append.mp hrun with hrun | hother
          · obtain ⟨later, hlater, hreference⟩ := (h run hrun).2
            exact ⟨later, List.mem_append_left _ hlater, hreference⟩
          · exact ⟨run, List.mem_append_right _ hother, rfl⟩
        · exact ⟨run, List.mem_append_left _ hnew, rfl⟩
      · rintro ⟨run, hrun, rfl⟩
        rcases List.mem_append.mp hrun with hnew | hother
        · exact ⟨run, List.mem_append_right _ hnew, rfl⟩
        · exact ⟨run, List.mem_append_left _ (List.mem_append_right _ hother), rfl⟩
    · rw [entriesAt_ledgerOf, entriesAt_ledgerOf, happend, happend, happend, hnil,
        List.nil_append]
      exact List.perm_append_comm

/-- The condition says exactly which commands keep the ledger what building it anew gives. -/
lemma Agrees.apply_iff (h : timetable.Agrees) (command : TimetableCommand) :
    (timetable.apply command).Agrees ↔ timetable.leavesNothingBehind command = true := by
  have hledger := h
  rw [Agrees, rebuild_ledger] at hledger
  cases command with
  | withdraw number =>
    refine ⟨fun _ => rfl, fun _ => ?_⟩
    rw [apply, withdraw]
    split
    · rw [Agrees, rebuild_ledger, rebuild_ledger]
      exact OccupationLedger.same_of_perm (.refl _) _
    · exact h
  | schedule pattern =>
    rw [apply, leavesNothingBehind]
    cases hcollides : timetable.collides pattern with
    | true =>
      rw [schedule_of_collides hcollides]
      exact ⟨fun _ => rfl, fun _ => h⟩
    | false =>
      obtain ⟨-, hexclusions, -, -, hentered⟩ := schedule_of_fits hcollides
      -- both ledgers as ledgers of lists of runs
      have hleft : (timetable.schedule pattern).1.ledger.Same (timetable.ledgerOf
          ((timetable.heldRuns pattern.number ++ timetable.otherRuns pattern.number)
            ++ timetable.runsOf pattern)) := by
        rw [hentered, ledgerOf, List.foldl_append]
        refine (hledger.foldl_insert _).trans ?_
        refine OccupationLedger.Same.foldl_insert ?_ _
        exact OccupationLedger.same_of_perm (acceptedRuns_perm_held pattern.number) _
      have hright : (timetable.schedule pattern).1.rebuild.ledger.Same (timetable.ledgerOf
          (timetable.runsOf pattern ++ timetable.otherRuns pattern.number)) := by
        rw [rebuild_ledger, hexclusions]
        exact OccupationLedger.same_of_perm (acceptedRuns_schedule hcollides) _
      have hsame : (timetable.ledgerOf ((timetable.heldRuns pattern.number
            ++ timetable.otherRuns pattern.number) ++ timetable.runsOf pattern)).Same
          (timetable.ledgerOf
            (timetable.runsOf pattern ++ timetable.otherRuns pattern.number))
          ↔ ∀ run ∈ timetable.heldRuns pattern.number, run.staircase.steps = []
            ∧ ∃ later ∈ timetable.runsOf pattern, later.reference = run.reference :=
        ledgerOf_same_iff (fun _ => heldRuns_number) (fun _ => otherRuns_number)
      have hmeaning : (timetable.heldRuns pattern.number).all (fun old =>
          old.staircase.steps.isEmpty
            && (timetable.runsOf pattern).any fun run => run.reference = old.reference) = true
          ↔ ∀ run ∈ timetable.heldRuns pattern.number, run.staircase.steps = []
            ∧ ∃ later ∈ timetable.runsOf pattern, later.reference = run.reference := by
        simp
      rw [Bool.false_or, hmeaning, ← hsame, Agrees]
      exact ⟨fun k => (hleft.symm.trans k).trans hright,
        fun k => (hleft.trans k).trans hright.symm⟩

/-- **What keeps the two records together.**  After every step of a history the ledger is
what building it anew from the accepted offers gives, and every withdrawal frees exactly
what its number held, if and only if no command of the history leaves runs of a replaced
offer behind. -/
theorem exact_iff_leavesNothingBehind (exclusions : ResourceExclusions) (horizonDays : Int)
    (commands : List TimetableCommand) :
    (∀ past, past <+: commands → (past.foldl apply (new exclusions horizonDays)).Exact)
      ↔ AllSteps apply leavesNothingBehind (new exclusions horizonDays) commands = true := by
  have hnew : (new exclusions horizonDays).Agrees := by
    have hruns : (new exclusions horizonDays).acceptedRuns = [] := by
      simp [acceptedRuns, new, Registry.values]
    rw [Agrees, rebuild_ledger, hruns]
    exact OccupationLedger.same_of_perm (.refl []) (.new exclusions)
  have hstep : ∀ (timetable : NetworkTimetable) (command : TimetableCommand),
      timetable.Agrees →
      ((timetable.apply command).Agrees ↔ timetable.leavesNothingBehind command = true) :=
    fun _ command h => h.apply_iff command
  rw [← AllSteps.iff_invariant hstep hnew]
  exact forall₂_congr fun past _ => ⟨Exact.rebuilt, Agrees.exact⟩

/-- One number offered half an hour after midnight and then again at one. -/
def renumberedOffers : List TimetableCommand :=
  [.schedule (StationHead.pattern 7 1800 (.route 3 1) 0 60),
    .schedule (StationHead.pattern 7 3600 (.route 3 1) 0 60)]

/-- A number accepted twice leaves its first run in the ledger. -/
theorem rescheduled_not_exact :
    ¬ (renumberedOffers.foldl apply (new StationHead.exclusions 1)).Exact := by
  intro h
  have hruns := h.rebuilt.runs ⟨StationHead.number 7, 1800⟩
  have hleft : (⟨StationHead.number 7, 1800⟩ : RunReference)
      ∈ (renumberedOffers.foldl apply (new StationHead.exclusions 1)).ledger.runs := by
    decide +kernel
  have hgone : (⟨StationHead.number 7, 1800⟩ : RunReference)
      ∉ (renumberedOffers.foldl apply (new StationHead.exclusions 1)).rebuild.ledger.runs := by
    decide +kernel
  exact hgone (hruns.mp hleft)

end NetworkTimetable

end Zugfolge.Conflict
