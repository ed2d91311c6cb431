/-
The occupation ledger.

The ledger lists, for every conflict resource, which run holds it when.  A run is entered
only when no blocking time of it overlaps one of another run on the same resource or on a
resource that its own excludes.

* `OccupationLedger.checkStaircase`, `insert`, `tryInsert`: the check and the two ways in;
* `offers_conflictFree`: the ledger after any sequence of runs.
-/
import Zugfolge.Conflict.Service
import Zugfolge.Foundation.Histories

namespace Zugfolge.Conflict

open Foundation Std

/-! ### Reports -/

inductive ConflictKind where
  | headway
  | opposingMove
  | routeExclusion
  | facilityContention

/-- The kind follows from the two blocking times. -/
def ConflictKind.of (own other : BlockingTime) : ConflictKind :=
  if own.resource ≠ other.resource then routeExclusion
  else match own.resource with
    | .facility _ => facilityContention
    | _ => if own.direction = other.direction then headway else opposingMove

/-- A conflict, with everything its explanation needs. -/
structure OccupationConflict where
  label : String
  kind : ConflictKind
  own : BlockingTime
  other : BlockingTime
  otherRun : RunReference

def OccupationConflict.order : OccupationConflict → OccupationConflict → Ordering :=
  compareLex (compareOn fun conflict => conflict.own.overlapStart conflict.other)
    (compareLex (compareOn fun conflict => conflict.own.resource)
      (compareLex (compareOn fun conflict => conflict.other.resource)
        (compareOn OccupationConflict.otherRun)))

/-- The least delay of the own run that resolves this conflict. -/
def OccupationConflict.resolvingShiftS (conflict : OccupationConflict) : Int :=
  subSat64 conflict.other.finish conflict.own.start

/-- The result of a check. -/
structure ConflictReport where
  conflicts : List OccupationConflict

namespace ConflictReport

/-- The checked run has no conflict. -/
def isClear (report : ConflictReport) : Bool := report.conflicts.isEmpty

/-- Orders the conflicts and numbers them. -/
def finish (conflicts : List OccupationConflict) : ConflictReport :=
  ⟨(conflicts.insertionSort fun a b => (a.order b).isLE).zipIdx.map fun numbered =>
    { numbered.1 with label := "K" ++ toString (numbered.2 + 1) }⟩

@[simp] lemma isClear_finish {conflicts : List OccupationConflict} :
    (finish conflicts).isClear = true ↔ conflicts = [] := by
  rw [isClear, finish, List.isEmpty_iff, List.map_eq_nil_iff, List.zipIdx_eq_nil_iff,
    ← List.length_eq_zero_iff, List.length_insertionSort, List.length_eq_zero_iff]

end ConflictReport

/-! ### The ledger -/

/-- A run and the blocking time it holds. -/
abbrev LedgerEntry : Type := RunReference × BlockingTime

/-- The entries of every resource. -/
abbrev EntryBook : Type := Registry ConflictResource (List LedgerEntry)

namespace EntryBook

/-- The entries under a resource. -/
def «at» (book : EntryBook) (resource : ConflictResource) : List LedgerEntry :=
  (book[resource]?).getD []

/-- Adds one blocking time at the end of the entries of its resource. -/
def push (reference : RunReference) (book : EntryBook) (step : BlockingTime) : EntryBook :=
  book.insert step.resource (book.«at» step.resource ++ [(reference, step)])

/-- The blocking times of a list that lie on a resource, as entries. -/
def entriesOf (reference : RunReference) (steps : List BlockingTime)
    (resource : ConflictResource) : List LedgerEntry :=
  (steps.filter fun step => step.resource = resource).map fun step => (reference, step)

lemma mem_entriesOf {reference : RunReference} {steps : List BlockingTime}
    {resource : ConflictResource} {entry : LedgerEntry} :
    entry ∈ entriesOf reference steps resource
      ↔ entry.1 = reference ∧ entry.2 ∈ steps ∧ entry.2.resource = resource := by
  obtain ⟨run, step⟩ := entry
  simp only [entriesOf, List.mem_map, List.mem_filter, decide_eq_true_eq, Prod.mk.injEq]
  constructor
  · rintro ⟨other, ⟨hstep, hresource⟩, rfl, rfl⟩
    exact ⟨rfl, hstep, hresource⟩
  · rintro ⟨rfl, hstep, hresource⟩
    exact ⟨step, ⟨hstep, hresource⟩, rfl, rfl⟩

lemma at_push (reference : RunReference) (book : EntryBook) (step : BlockingTime)
    (resource : ConflictResource) :
    (push reference book step).«at» resource
      = book.«at» resource ++ entriesOf reference [step] resource := by
  rw [«at», push, Registry.getElem?_insert]
  by_cases h : resource = step.resource
  · subst h
    simp [entriesOf]
  · simp [entriesOf, h, Ne.symm h, «at»]

lemma at_foldl_push (reference : RunReference) (steps : List BlockingTime) (book : EntryBook)
    (resource : ConflictResource) :
    (steps.foldl (push reference) book).«at» resource
      = book.«at» resource ++ entriesOf reference steps resource := by
  induction steps generalizing book with
  | nil => simp [entriesOf]
  | cons step steps ih =>
    rw [List.foldl_cons, ih, at_push, List.append_assoc]
    simp only [entriesOf, ← List.map_append, ← List.filter_append, List.singleton_append]

end EntryBook

/-- Which run holds which resource when. -/
structure OccupationLedger where
  exclusions : ResourceExclusions
  byResource : EntryBook
  runs : KeySet RunReference
  placed : ∀ resource, ∀ entry ∈ byResource.«at» resource, entry.2.resource = resource

namespace OccupationLedger

/-- An empty ledger. -/
def new (exclusions : ResourceExclusions) : OccupationLedger where
  exclusions := exclusions
  byResource := ∅
  runs := ∅
  placed := by simp [EntryBook.«at»]

variable (ledger : OccupationLedger)

/-- The entries under a resource. -/
def entriesAt (resource : ConflictResource) : List LedgerEntry :=
  ledger.byResource.«at» resource

/-- All entries, resource by resource. -/
def entries : List LedgerEntry := (Registry.values ledger.byResource).flatten

/-- Checks a staircase against all runs of the ledger but its own. -/
def checkStaircase (staircase : BlockingTimeStaircase) (own : Option RunReference) :
    ConflictReport :=
  ConflictReport.finish <| staircase.steps.flatMap fun step =>
    (step.resource :: ledger.exclusions.excludedBy step.resource).flatMap fun resource =>
      (ledger.entriesAt resource).filterMap fun entry =>
        if own = some entry.1 then none
        else if step.overlaps entry.2 then
          some ⟨"", .of step entry.2, step, entry.2, entry.1⟩
        else none

/-- Checks a run against all others. -/
def check (run : TrainRun) : ConflictReport :=
  ledger.checkStaircase run.staircase (some run.reference)

/-- Enters a run without a check. -/
def insert (run : TrainRun) : OccupationLedger where
  exclusions := ledger.exclusions
  runs := ledger.runs.insert run.reference
  byResource := run.staircase.steps.foldl (EntryBook.push run.reference) ledger.byResource
  placed := by
    intro resource entry hentry
    rw [EntryBook.at_foldl_push, List.mem_append, EntryBook.mem_entriesOf] at hentry
    rcases hentry with hold | hnew
    · exact ledger.placed resource entry hold
    · exact hnew.2.2

/-- Enters a run if it has no conflict. -/
def tryInsert (run : TrainRun) : OccupationLedger × Except ConflictReport Unit :=
  let report := ledger.check run
  if !report.isClear then (ledger, .error report) else (ledger.insert run, .ok ())

/-! ### What the functions do -/

variable {ledger}

lemma mem_entries {entry : LedgerEntry} :
    entry ∈ ledger.entries ↔ entry ∈ ledger.entriesAt entry.2.resource := by
  rw [entries, List.mem_flatten]
  constructor
  · rintro ⟨list, hlist, hentry⟩
    obtain ⟨resource, hat⟩ := Registry.mem_values.mp hlist
    have hin : entry ∈ ledger.byResource.«at» resource := by
      rw [EntryBook.«at», hat]
      exact hentry
    rw [ledger.placed resource entry hin]
    exact hin
  · intro hentry
    rw [entriesAt, EntryBook.«at»] at hentry
    cases hat : ledger.byResource[entry.2.resource]? with
    | none => simp [hat] at hentry
    | some list =>
      rw [hat] at hentry
      exact ⟨list, Registry.mem_values.mpr ⟨_, hat⟩, hentry⟩

@[simp] lemma entriesAt_new (exclusions : ResourceExclusions) (resource : ConflictResource) :
    (new exclusions).entriesAt resource = [] := by
  simp [entriesAt, new, EntryBook.«at»]

@[simp] lemma entriesAt_insert (run : TrainRun) (resource : ConflictResource) :
    (ledger.insert run).entriesAt resource = ledger.entriesAt resource
      ++ EntryBook.entriesOf run.reference run.staircase.steps resource :=
  EntryBook.at_foldl_push run.reference run.staircase.steps ledger.byResource resource

@[simp] lemma insert_exclusions (run : TrainRun) :
    (ledger.insert run).exclusions = ledger.exclusions := rfl

lemma mem_entries_insert {run : TrainRun} {entry : LedgerEntry} :
    entry ∈ (ledger.insert run).entries
      ↔ entry ∈ ledger.entries ∨ entry.1 = run.reference ∧ entry.2 ∈ run.staircase.steps := by
  rw [mem_entries, mem_entries, entriesAt_insert, List.mem_append, EntryBook.mem_entriesOf]
  simp only [and_true]

/-- The check asks for the entries of other runs on every resource of the run and on
every resource excluded by one. -/
lemma check_isClear_iff {run : TrainRun} :
    (ledger.check run).isClear = true ↔
      ∀ step ∈ run.staircase.steps, ∀ entry ∈ ledger.entries, entry.1 ≠ run.reference →
        entry.2.resource = step.resource
          ∨ ledger.exclusions.excludes step.resource entry.2.resource = true →
        ¬ Overlaps step.span entry.2.span := by
  rw [check, checkStaircase, ConflictReport.isClear_finish, List.flatMap_eq_nil_iff]
  refine forall₂_congr fun step _ => ?_
  rw [List.flatMap_eq_nil_iff]
  constructor
  · intro h entry hentry hother hresource
    have hcandidate : entry.2.resource
        ∈ step.resource :: ledger.exclusions.excludedBy step.resource := by
      rw [List.mem_cons, ResourceExclusions.mem_excludedBy]
      exact hresource
    have hclear := List.filterMap_eq_nil_iff.mp (h _ hcandidate) entry (mem_entries.mp hentry)
    rw [if_neg fun heq => hother (Option.some.inj heq).symm] at hclear
    split at hclear
    · cases hclear
    next hfree => exact BlockingTime.overlaps_eq_false.mp (Bool.not_eq_true _ ▸ hfree)
  · intro h resource hresource
    rw [List.filterMap_eq_nil_iff]
    intro entry hentry
    have hplace : entry.2.resource = resource := ledger.placed resource entry hentry
    subst hplace
    split
    · rfl
    next hother =>
      rw [List.mem_cons, ResourceExclusions.mem_excludedBy] at hresource
      have hfree := h entry (mem_entries.mpr hentry)
        (fun heq => hother (congrArg some heq.symm)) hresource
      rw [BlockingTime.overlaps_eq_false.mpr hfree]
      rfl

lemma tryInsert_of_clear {run : TrainRun} (h : (ledger.check run).isClear = true) :
    ledger.tryInsert run = (ledger.insert run, .ok ()) := by
  simp [tryInsert, h]

lemma tryInsert_of_conflict {run : TrainRun} (h : (ledger.check run).isClear = false) :
    ledger.tryInsert run = (ledger, .error (ledger.check run)) := by
  simp [tryInsert, h]

@[simp] lemma tryInsert_exclusions (run : TrainRun) :
    (ledger.tryInsert run).1.exclusions = ledger.exclusions := by
  cases h : (ledger.check run).isClear with
  | true => rw [tryInsert_of_clear h, insert]
  | false => rw [tryInsert_of_conflict h]

/-! ### No two runs at once -/

/-- Entries of different runs on resources that must not be held together do not
overlap. -/
def ConflictFree (ledger : OccupationLedger) : Prop :=
  ∀ first ∈ ledger.entries, ∀ second ∈ ledger.entries, first.1 ≠ second.1 →
    ledger.exclusions.Shares first.2.resource second.2.resource →
      ¬ Overlaps first.2.span second.2.span

lemma conflictFree_new (exclusions : ResourceExclusions) : ConflictFree (new exclusions) := by
  intro first hfirst
  rw [mem_entries, entriesAt_new] at hfirst
  cases hfirst

/-- A run without a conflict can be entered. -/
lemma ConflictFree.insert {run : TrainRun} (h : ledger.ConflictFree)
    (hclear : (ledger.check run).isClear = true) : (ledger.insert run).ConflictFree := by
  rw [check_isClear_iff] at hclear
  -- the check was made in one direction; the relation serves the other one
  have hnew : ∀ step ∈ run.staircase.steps, ∀ entry ∈ ledger.entries,
      entry.1 ≠ run.reference → ledger.exclusions.Shares step.resource entry.2.resource →
        ¬ Overlaps step.span entry.2.span := by
    intro step hstep entry hentry hother hshares
    refine hclear step hstep entry hentry hother ?_
    rcases hshares with heq | hexclusive
    · exact .inl heq.symm
    · exact .inr hexclusive.1
  intro first hfirst second hsecond hdifferent hshares
  rw [mem_entries_insert] at hfirst hsecond
  rcases hfirst with hfirst | ⟨hfirst, hfirststep⟩
  · rcases hsecond with hsecond | ⟨hsecond, hsecondstep⟩
    · exact h first hfirst second hsecond hdifferent hshares
    · rw [overlaps_comm]
      exact hnew second.2 hsecondstep first hfirst (hsecond ▸ hdifferent) hshares.symm
  · rcases hsecond with hsecond | ⟨hsecond, -⟩
    · exact hnew first.2 hfirststep second hsecond (hfirst ▸ hdifferent.symm) hshares
    · exact absurd (hfirst.trans hsecond.symm) hdifferent

lemma ConflictFree.tryInsert {run : TrainRun} (h : ledger.ConflictFree) :
    (ledger.tryInsert run).1.ConflictFree := by
  cases hclear : (ledger.check run).isClear with
  | true =>
    rw [tryInsert_of_clear hclear]
    exact h.insert hclear
  | false =>
    rw [tryInsert_of_conflict hclear]
    exact h

/-- The ledger after a run was offered, accepted or not. -/
def offer (ledger : OccupationLedger) (run : TrainRun) : OccupationLedger :=
  (ledger.tryInsert run).1

lemma offers_exclusions (exclusions : ResourceExclusions) (runs : List TrainRun) :
    (runs.foldl offer (new exclusions)).exclusions = exclusions := by
  have hstep : ∀ (ledger : OccupationLedger) (run : TrainRun),
      ledger.exclusions = exclusions → (ledger.offer run).exclusions = exclusions :=
    fun _ run h => (tryInsert_exclusions run).trans h
  exact foldl_invariant hstep rfl runs

lemma conflictFree_offers (exclusions : ResourceExclusions) (runs : List TrainRun) :
    (runs.foldl offer (new exclusions)).ConflictFree :=
  foldl_invariant (fun _ _ h => h.tryInsert) (conflictFree_new exclusions) runs

lemma tryInsert_of_error {run : TrainRun} {report : ConflictReport}
    (h : (ledger.tryInsert run).2 = .error report) : (ledger.tryInsert run).1 = ledger := by
  cases hclear : (ledger.check run).isClear with
  | true =>
    rw [tryInsert_of_clear hclear] at h
    cases h
  | false => rw [tryInsert_of_conflict hclear]

/-- **No two runs at once.**  After any sequence of offered runs, entries of different
runs on the same resource or on mutually exclusive ones do not overlap, and a refused run
leaves the ledger as it is. -/
theorem offers_conflictFree (exclusions : ResourceExclusions) (hsymmetric : exclusions.Symmetric)
    (runs : List TrainRun) :
    (∀ first ∈ (runs.foldl offer (new exclusions)).entries,
      ∀ second ∈ (runs.foldl offer (new exclusions)).entries, first.1 ≠ second.1 →
        first.2.resource = second.2.resource
          ∨ exclusions.excludes first.2.resource second.2.resource = true →
        ¬ Overlaps first.2.span second.2.span
          ∧ ∀ t, ¬ (Covers first.2.span t ∧ Covers second.2.span t)) ∧
    ∀ run report, ((runs.foldl offer (new exclusions)).tryInsert run).2 = .error report →
      ((runs.foldl offer (new exclusions)).tryInsert run).1
        = runs.foldl offer (new exclusions) := by
  have hfree := conflictFree_offers exclusions runs
  refine ⟨fun first hfirst second hsecond hdifferent hresource => ?_,
    fun run report => tryInsert_of_error⟩
  have hshares : exclusions.Shares first.2.resource second.2.resource :=
    hresource.imp_right hsymmetric.mutuallyExclusive
  have hapart := hfree first hfirst second hsecond hdifferent
    (by rwa [offers_exclusions])
  exact ⟨hapart, not_covers_of_not_overlaps hapart⟩

/-! ### A station head with two routes -/

/-- Two runs over the two routes of the head, and one that comes too early. -/
def headRuns : List TrainRun :=
  [StationHead.run 2 100 (.route 3 1) 0 60, StationHead.run 4 160 (.route 3 2) 0 60,
    StationHead.run 6 130 (.route 3 1) 0 60]

/-- The head takes the first two runs and refuses the third one. -/
example : ((headRuns.foldl offer (new StationHead.exclusions)).entries.map
    fun entry => entry.1.number.value) = [20002, 20004] := by decide +kernel

theorem offers_conflictFree_stationHead :
    ((headRuns.foldl offer (new StationHead.exclusions)).entries.length = 2) ∧
    ∀ first ∈ (headRuns.foldl offer (new StationHead.exclusions)).entries,
      ∀ second ∈ (headRuns.foldl offer (new StationHead.exclusions)).entries,
        first.1 ≠ second.1 →
        first.2.resource = second.2.resource
          ∨ StationHead.exclusions.excludes first.2.resource second.2.resource = true →
        ¬ Overlaps first.2.span second.2.span
          ∧ ∀ t, ¬ (Covers first.2.span t ∧ Covers second.2.span t) :=
  ⟨by decide +kernel,
    (offers_conflictFree StationHead.exclusions StationHead.symmetric headRuns).1⟩

end OccupationLedger

end Zugfolge.Conflict
