/-
The timetable of a network.

A timetable takes in recurring offers.  An offer is accepted when every run of it within
the horizon lies free in the occupation ledger; a withdrawn offer leaves and the ledger is
built anew from the offers that stay.
-/
import Zugfolge.Conflict.Ledger

namespace Zugfolge.Conflict

open Foundation Std

/-! ### The timetable -/

/-- What may change a timetable. -/
inductive TimetableCommand where
  | schedule (pattern : ServicePattern)
  | withdraw (number : TrainNumber)

/-- The accepted offers of a network and the ledger of their runs. -/
structure NetworkTimetable where
  exclusions : ResourceExclusions
  horizonDays : Int
  accepted : Registry TrainNumber ServicePattern
  rejected : KeySet TrainNumber
  ledger : OccupationLedger
  numbered : ∀ (number : TrainNumber) (pattern : ServicePattern),
    accepted[number]? = some pattern → pattern.number = number

namespace NetworkTimetable

/-- An empty timetable. -/
def new (exclusions : ResourceExclusions) (horizonDays : Int) : NetworkTimetable where
  exclusions := exclusions
  horizonDays := max horizonDays 1
  accepted := ∅
  rejected := ∅
  ledger := .new exclusions
  numbered := by simp

variable (timetable : NetworkTimetable)

def days : List Int :=
  (List.range timetable.horizonDays.toNat).map Int.ofNat

/-- Offers the runs of a pattern day by day; the first refused one ends the attempt. -/
def probe (pattern : ServicePattern) : OccupationLedger → List Int → Option OccupationLedger
  | probed, [] => some probed
  | probed, day :: days =>
    match pattern.materialise day with
    | none => probe pattern probed days
    | some run =>
      match probed.tryInsert run with
      | (next, .ok ()) => probe pattern next days
      | (_, .error _) => none

/-- Accepts an offer if every run of it lies free; answers whether it did. -/
def schedule (pattern : ServicePattern) :
    NetworkTimetable × Bool :=
  match probe pattern timetable.ledger timetable.days with
  | none => ({ timetable with rejected := timetable.rejected.insert pattern.number }, false)
  | some probed =>
    ({ timetable with
        ledger := probed
        rejected := timetable.rejected.erase pattern.number
        accepted := timetable.accepted.insert pattern.number pattern
        numbered := by
          intro number other hother
          rw [Registry.getElem?_insert] at hother
          split at hother
          · cases hother
            exact Eq.symm ‹_›
          · exact timetable.numbered number other hother }, true)

/-- Builds the ledger anew from the accepted offers. -/
def rebuild : NetworkTimetable :=
  { timetable with
    ledger := (Registry.values timetable.accepted).foldl (fun book pattern =>
      timetable.days.foldl (fun book day =>
        match pattern.materialise day with
        | some run => book.insert run
        | none => book) book) (.new timetable.exclusions) }

/-- Withdraws an offer and builds the ledger anew. -/
def withdraw (number : TrainNumber) : NetworkTimetable :=
  if timetable.accepted.contains number then
    rebuild { timetable with
      accepted := timetable.accepted.erase number
      numbered := by
        intro other pattern hother
        rw [Registry.getElem?_erase] at hother
        split at hother
        · cases hother
        · exact timetable.numbered other pattern hother }
  else timetable

/-- The timetable after a command. -/
def apply : TimetableCommand → NetworkTimetable
  | .schedule pattern => (timetable.schedule pattern).1
  | .withdraw number => timetable.withdraw number

end NetworkTimetable

/-! ### Ledgers of many runs -/

namespace OccupationLedger

/-- The two ledgers hold the same runs and, on every resource, the same entries. -/
structure Same (a b : OccupationLedger) : Prop where
  exclusions : a.exclusions = b.exclusions
  runs : ∀ reference : RunReference, reference ∈ a.runs ↔ reference ∈ b.runs
  entries : ∀ resource, (a.entriesAt resource).Perm (b.entriesAt resource)

/-- The entries of a list of runs on one resource. -/
def entriesOfRuns (runs : List TrainRun) (resource : ConflictResource) : List LedgerEntry :=
  runs.flatMap fun run => EntryBook.entriesOf run.reference run.staircase.steps resource

variable {a b c : OccupationLedger}

variable (ledger : OccupationLedger)

/-- No run of the list conflicts with the ledger, and none with an earlier one. -/
def fits (runs : List TrainRun) : Bool :=
  runs.all (fun run => (ledger.check run).isClear) &&
    decide (runs.Pairwise fun run later =>
      (((new ledger.exclusions).insert run).check later).isClear = true)

lemma Same.symm (h : Same a b) : Same b a :=
  ⟨h.exclusions.symm, fun r => (h.runs r).symm, fun k => (h.entries k).symm⟩

lemma Same.trans (h : Same a b) (k : Same b c) : Same a c :=
  ⟨h.exclusions.trans k.exclusions, fun r => (h.runs r).trans (k.runs r),
    fun resource => (h.entries resource).trans (k.entries resource)⟩

@[simp] lemma foldl_insert_exclusions (runs : List TrainRun) (ledger : OccupationLedger) :
    (runs.foldl insert ledger).exclusions = ledger.exclusions := by
  induction runs generalizing ledger with
  | nil => rfl
  | cons run runs ih => rw [List.foldl_cons, ih, insert]

lemma entriesAt_foldl_insert (runs : List TrainRun) (ledger : OccupationLedger)
    (resource : ConflictResource) :
    (runs.foldl insert ledger).entriesAt resource
      = ledger.entriesAt resource ++ entriesOfRuns runs resource := by
  induction runs generalizing ledger with
  | nil => simp [entriesOfRuns]
  | cons run runs ih =>
    rw [List.foldl_cons, ih, entriesAt_insert, List.append_assoc]
    rfl

lemma mem_runs_foldl_insert {runs : List TrainRun} {ledger : OccupationLedger}
    {reference : RunReference} :
    reference ∈ (runs.foldl insert ledger).runs
      ↔ reference ∈ ledger.runs ∨ ∃ run ∈ runs, run.reference = reference := by
  induction runs generalizing ledger with
  | nil => simp
  | cons run runs ih =>
    rw [List.foldl_cons, ih]
    simp only [insert, ExtTreeSet.mem_insert, Std.compare_eq_iff_eq, List.mem_cons,
      exists_eq_or_imp]
    tauto

lemma mem_entries_foldl_insert {runs : List TrainRun} {ledger : OccupationLedger}
    {entry : LedgerEntry} :
    entry ∈ (runs.foldl insert ledger).entries ↔ entry ∈ ledger.entries
      ∨ ∃ run ∈ runs, entry.1 = run.reference ∧ entry.2 ∈ run.staircase.steps := by
  induction runs generalizing ledger with
  | nil => simp
  | cons run runs ih =>
    rw [List.foldl_cons, ih, mem_entries_insert]
    simp only [List.mem_cons, exists_eq_or_imp]
    tauto

/-- A run conflicts with a ledger and one more run if it conflicts with one of them. -/
lemma check_insert_isClear (run later : TrainRun) :
    ((ledger.insert run).check later).isClear = ((ledger.check later).isClear
      && (((new ledger.exclusions).insert run).check later).isClear) := by
  have hnone : ∀ entry, entry ∉ (new ledger.exclusions).entries := by
    intro entry hentry
    rw [mem_entries, entriesAt_new] at hentry
    cases hentry
  rw [Bool.eq_iff_iff, Bool.and_eq_true, check_isClear_iff, check_isClear_iff, check_isClear_iff]
  simp only [mem_entries_insert, hnone, false_or]
  constructor
  · intro h
    exact ⟨fun step hstep entry hentry => h step hstep entry (.inl hentry),
      fun step hstep entry hentry => h step hstep entry (.inr hentry)⟩
  · rintro ⟨hold, hnew⟩ step hstep entry (hentry | hentry)
    · exact hold step hstep entry hentry
    · exact hnew step hstep entry hentry

lemma fits_cons (run : TrainRun) (runs : List TrainRun) :
    ledger.fits (run :: runs) = ((ledger.check run).isClear && (ledger.insert run).fits runs) := by
  rw [Bool.eq_iff_iff]
  simp only [fits, Bool.and_eq_true, List.all_eq_true, List.mem_cons, forall_eq_or_imp,
    decide_eq_true_eq, List.pairwise_cons, check_insert_isClear ledger run, insert_exclusions]
  constructor
  · rintro ⟨⟨hrun, hold⟩, hlater, hpairs⟩
    exact ⟨hrun, fun later hin => ⟨hold later hin, hlater later hin⟩, decide_eq_true hpairs⟩
  · rintro ⟨hrun, hboth, hpairs⟩
    exact ⟨⟨hrun, fun later hin => (hboth later hin).1⟩, fun later hin => (hboth later hin).2,
      of_decide_eq_true hpairs⟩

lemma ConflictFree.foldl_insert {runs : List TrainRun} :
    ∀ {ledger : OccupationLedger}, ledger.ConflictFree → ledger.fits runs = true →
      (runs.foldl OccupationLedger.insert ledger).ConflictFree := by
  induction runs with
  | nil => exact fun h _ => h
  | cons run runs ih =>
    intro ledger h hfits
    rw [fits_cons, Bool.and_eq_true] at hfits
    exact ih (h.insert hfits.1) hfits.2

lemma Same.foldl_insert (h : Same a b) (runs : List TrainRun) :
    Same (runs.foldl insert a) (runs.foldl insert b) where
  exclusions := by simp [h.exclusions]
  runs reference := by rw [mem_runs_foldl_insert, mem_runs_foldl_insert, h.runs]
  entries resource := by
    rw [entriesAt_foldl_insert, entriesAt_foldl_insert]
    exact (h.entries resource).append_right _

lemma same_of_perm {runs others : List TrainRun} (h : runs.Perm others)
    (ledger : OccupationLedger) :
    Same (runs.foldl insert ledger) (others.foldl insert ledger) where
  exclusions := by simp
  runs reference := by simp only [mem_runs_foldl_insert, h.mem_iff]
  entries resource := by
    rw [entriesAt_foldl_insert, entriesAt_foldl_insert]
    exact (h.flatMap_right _).append_left _

end OccupationLedger

/-! ### Runs of a timetable -/

namespace NetworkTimetable

variable (timetable : NetworkTimetable)

/-- The runs of an offer within the horizon. -/
def runsOf (pattern : ServicePattern) : List TrainRun :=
  timetable.days.filterMap pattern.materialise

/-- The runs of all accepted offers. -/
def acceptedRuns : List TrainRun :=
  (Registry.values timetable.accepted).flatMap timetable.runsOf

/-- Some run of the offer conflicts with the ledger or with an earlier run of the offer. -/
def collides (pattern : ServicePattern) : Bool :=
  !timetable.ledger.fits (timetable.runsOf pattern)

variable {timetable}

lemma mem_runsOf {pattern : ServicePattern} {run : TrainRun} :
    run ∈ timetable.runsOf pattern ↔ ∃ day ∈ timetable.days, pattern.materialise day = some run :=
  List.mem_filterMap

lemma runsOf_number {pattern : ServicePattern} {run : TrainRun}
    (h : run ∈ timetable.runsOf pattern) : run.reference.number = pattern.number := by
  obtain ⟨day, -, hday⟩ := mem_runsOf.mp h
  exact ServicePattern.materialise_number hday

/-- An offer is probed by entering all its runs, if they fit. -/
lemma probe_eq (pattern : ServicePattern) (days : List Int) (ledger : OccupationLedger) :
    probe pattern ledger days = if ledger.fits (days.filterMap pattern.materialise) then
      some ((days.filterMap pattern.materialise).foldl .insert ledger) else none := by
  induction days generalizing ledger with
  | nil => rfl
  | cons day days ih =>
    rw [probe]
    cases hday : pattern.materialise day with
    | none => simp [hday, ih]
    | some run =>
      rw [List.filterMap_cons_some hday, OccupationLedger.fits_cons]
      cases hclear : (ledger.check run).isClear with
      | true => simp [OccupationLedger.tryInsert_of_clear hclear, ih]
      | false => simp [OccupationLedger.tryInsert_of_conflict hclear]

/-- An offer that collides is refused; nothing but the list of refusals changes. -/
lemma schedule_of_collides {pattern : ServicePattern} (h : timetable.collides pattern = true) :
    timetable.schedule pattern
      = ({ timetable with rejected := timetable.rejected.insert pattern.number }, false) := by
  rw [collides, Bool.not_eq_true'] at h
  rw [runsOf] at h
  simp [schedule, probe_eq, h]

lemma schedule_of_fits {pattern : ServicePattern} (h : timetable.collides pattern = false) :
    (timetable.schedule pattern).2 = true ∧
    (timetable.schedule pattern).1.exclusions = timetable.exclusions ∧
    (timetable.schedule pattern).1.horizonDays = timetable.horizonDays ∧
    (timetable.schedule pattern).1.accepted
      = timetable.accepted.insert pattern.number pattern ∧
    (timetable.schedule pattern).1.ledger
      = (timetable.runsOf pattern).foldl .insert timetable.ledger := by
  rw [collides, Bool.not_eq_false'] at h
  rw [runsOf] at h
  simp [schedule, probe_eq, h, runsOf]

/-- Building anew enters the runs of the accepted offers one after another. -/
lemma rebuild_ledger (timetable : NetworkTimetable) :
    timetable.rebuild.ledger
      = timetable.acceptedRuns.foldl .insert (.new timetable.exclusions) := by
  have hdays : ∀ (pattern : ServicePattern) (days : List Int) (book : OccupationLedger),
      days.foldl (fun book day =>
        match pattern.materialise day with
        | some run => book.insert run
        | none => book) book = (days.filterMap pattern.materialise).foldl .insert book := by
    intro pattern days
    induction days with
    | nil => exact fun _ => rfl
    | cons day days ih =>
      intro book
      cases hday : pattern.materialise day with
      | none => simp [hday, ih]
      | some run => simp [hday, ih]
  rw [rebuild, acceptedRuns, List.foldl_flatMap]
  simp only [hdays]
  rfl

end NetworkTimetable

end Zugfolge.Conflict
