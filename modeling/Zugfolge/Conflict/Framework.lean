/-
Framework agreements with a capacity cap.

A framework agreement binds a share of the capacity of a corridor.  The ledger holds the
given capacity of every resource, the registered agreements and what each of them has
committed.

* `refusesCleanly_iff`: which calls leave the ledger alone when they return an error;
* `framework_capacity_kept`: what a run of successful calls keeps.
-/
import Zugfolge.Conflict.Blocking
import Zugfolge.Foundation.Histories

namespace Zugfolge.Conflict

open Foundation Std

/-! ### Agreements -/

/-- A promise of capacity on a corridor, as a share in basis points. -/
structure FrameworkAgreement where
  id : FrameworkAgreementId
  corridor : KeySet ConflictResource
  capBasisPoints : ℕ
  someResource : corridor.isEmpty = false
  validShare : capBasisPoints ≠ 0 ∧ capBasisPoints ≤ 10000
  deriving DecidableEq

namespace FrameworkAgreement

/-- Checks the corridor and the share of an agreement. -/
def new (id : FrameworkAgreementId) (corridor : KeySet ConflictResource) (capBasisPoints : ℕ) :
    Except ConflictError FrameworkAgreement :=
  if hcorridor : corridor.isEmpty = false then
    if hshare : capBasisPoints ≠ 0 ∧ capBasisPoints ≤ 10000 then
      .ok ⟨id, corridor, capBasisPoints, hcorridor, hshare⟩
    else .error (.invalidCapacityShare capBasisPoints)
  else .error (.emptyCorridor id)

/-- The resource belongs to the corridor. -/
def covers (agreement : FrameworkAgreement) (resource : ConflictResource) : Bool :=
  agreement.corridor.contains resource

end FrameworkAgreement

/-! ### The ledger -/

/-- An agreement and a resource it may commit capacity on. -/
structure CommitmentKey where
  agreement : FrameworkAgreementId
  resource : ConflictResource
  deriving DecidableEq

namespace CommitmentKey

instance : Ord CommitmentKey where
  compare := compareLex (compareOn agreement) (compareOn resource)

instance : TransOrd CommitmentKey :=
  inferInstanceAs (TransCmp (compareLex (compareOn agreement) (compareOn resource)))

instance : LawfulEqOrd CommitmentKey :=
  lawfulEq_of_lex fun ⟨_, _⟩ ⟨_, _⟩ => by simp_all [compareOn]

end CommitmentKey

/-- The capacity of the resources, the agreements and what they have committed. -/
structure FrameworkCapacityLedger where
  capacity : Registry ConflictResource ℕ
  agreements : Registry FrameworkAgreementId FrameworkAgreement
  committed : Registry CommitmentKey ℕ
  deriving DecidableEq

namespace FrameworkCapacityLedger

/-- An empty ledger. -/
def new : FrameworkCapacityLedger := ⟨∅, ∅, ∅⟩

/-- Lays down how many train paths a resource takes in all. -/
def withCapacity (ledger : FrameworkCapacityLedger) (resource : ConflictResource) (slots : ℕ) :
    FrameworkCapacityLedger :=
  { ledger with capacity := ledger.capacity.insert resource slots }

variable (ledger : FrameworkCapacityLedger)

/-- The capacity laid down for a resource. -/
def capacityOf (resource : ConflictResource) : ℕ := (ledger.capacity[resource]?).getD 0

/-- Registers an agreement.  The agreement is written before the number is found taken. -/
def register (agreement : FrameworkAgreement) :
    FrameworkCapacityLedger × Except ConflictError Unit :=
  let next := { ledger with agreements := ledger.agreements.insert agreement.id agreement }
  if ledger.agreements.contains agreement.id then
    (next, .error (.duplicateFrameworkAgreement agreement.id))
  else (next, .ok ())

variable (agreement : FrameworkAgreementId)

/-- The share of an agreement in the capacity of a resource, rounded down. -/
def capOf (resource : ConflictResource) : ℕ :=
  match ledger.agreements[agreement]? with
  | none => 0
  | some held =>
    if held.covers resource then
      min u32Max (mulSatU64 (ledger.capacityOf resource) held.capBasisPoints / 10000)
    else 0

/-- What an agreement has committed on a resource. -/
def committedOf (resource : ConflictResource) : ℕ :=
  (ledger.committed[(⟨agreement, resource⟩ : CommitmentKey)]?).getD 0

/-- What is left to an agreement on a resource. -/
def remaining (resource : ConflictResource) : ℕ :=
  ledger.capOf agreement resource - ledger.committedOf agreement resource

/-- Commits one more path of an agreement on a resource. -/
def commitOne (committed : Registry CommitmentKey ℕ)
    (resource : ConflictResource) : Registry CommitmentKey ℕ :=
  committed.insert ⟨agreement, resource⟩
    (addSatU32 ((committed[(⟨agreement, resource⟩ : CommitmentKey)]?).getD 0) 1)

/-- Commits one path of an agreement on the resources of its corridor among the given ones,
if something is left to it on each of them. -/
def tryCommit (resources : KeySet ConflictResource) :
    FrameworkCapacityLedger × Except ConflictError Unit :=
  match ledger.agreements[agreement]? with
  | none => (ledger, .error (.unknownFrameworkAgreement agreement))
  | some held =>
    let affected := resources.toList.filter held.covers
    match affected.find? fun resource => ledger.remaining agreement resource == 0 with
    | some resource => (ledger, .error (.frameworkCapacityExceeded agreement resource))
    | none =>
      ({ ledger with committed := affected.foldl (commitOne agreement) ledger.committed },
        .ok ())

/-- Gives back one path of an agreement on each of the resources it has entries on. -/
def release (resources : KeySet ConflictResource) :
    FrameworkCapacityLedger :=
  { ledger with
    committed := resources.toList.foldl (fun committed resource =>
      committed.modify ⟨agreement, resource⟩ fun value => value - 1) ledger.committed }

/-! ### What the calls do -/

variable {ledger}

lemma register_of_free {agreement : FrameworkAgreement}
    (h : ledger.agreements[agreement.id]? = none) :
    ledger.register agreement
      = ({ ledger with agreements := ledger.agreements.insert agreement.id agreement },
          .ok ()) := by
  rw [register, if_neg]
  rw [Bool.not_eq_true, Registry.contains_eq_false]
  exact h

/-- Registering under a taken number is refused, after the agreement was written. -/
lemma register_of_taken {agreement held : FrameworkAgreement}
    (h : ledger.agreements[agreement.id]? = some held) :
    ledger.register agreement
      = ({ ledger with agreements := ledger.agreements.insert agreement.id agreement },
          .error (.duplicateFrameworkAgreement agreement.id)) := by
  rw [register, if_pos]
  exact Registry.contains_iff.mpr ⟨held, h⟩

lemma committedOf_commitAll (resources : List ConflictResource)
    (hnodup : resources.Nodup) (committed : Registry CommitmentKey ℕ) (key : CommitmentKey) :
    ((resources.foldl (commitOne agreement) committed)[key]?).getD 0
      = if key.agreement = agreement ∧ key.resource ∈ resources then
          addSatU32 ((committed[key]?).getD 0) 1
        else (committed[key]?).getD 0 := by
  induction resources generalizing committed with
  | nil => simp
  | cons resource resources ih =>
    obtain ⟨hfresh, hrest⟩ := List.nodup_cons.mp hnodup
    rw [List.foldl_cons, ih hrest, commitOne, Registry.getElem?_insert]
    by_cases hkey : key = ⟨agreement, resource⟩
    · subst hkey
      simp [hfresh]
    · have hother : ¬ (key.agreement = agreement ∧ key.resource = resource) := by
        rintro ⟨rfl, rfl⟩
        exact hkey rfl
      by_cases hin : key.agreement = agreement ∧ key.resource ∈ resources
      · simp [hkey, hin]
      · have hnot : ¬ (key.agreement = agreement ∧ key.resource ∈ resource :: resources) := by
          rw [List.mem_cons]
          tauto
        rw [if_neg hin, if_neg hnot, if_neg hkey]

lemma capOf_congr {ledger other : FrameworkCapacityLedger} {agreement : FrameworkAgreementId}
    (hcapacity : other.capacity = ledger.capacity)
    (hagreement : other.agreements[agreement]? = ledger.agreements[agreement]?)
    (resource : ConflictResource) :
    other.capOf agreement resource = ledger.capOf agreement resource := by
  rw [capOf, capOf, hagreement, capacityOf, capacityOf, hcapacity]

lemma capOf_le (ledger : FrameworkCapacityLedger) (agreement : FrameworkAgreementId)
    (resource : ConflictResource) : ledger.capOf agreement resource ≤ u32Max := by
  rw [capOf]
  split
  · exact Nat.zero_le _
  · split
    · exact min_le_left _ _
    · exact Nat.zero_le _

lemma capOf_uncovered {agreement : FrameworkAgreementId} {held : FrameworkAgreement}
    {resource : ConflictResource} (hheld : ledger.agreements[agreement]? = some held)
    (huncovered : held.covers resource = false) : ledger.capOf agreement resource = 0 := by
  simp [capOf, hheld, huncovered]

/-- What a call to commit does: nothing, or one path on every resource of the corridor. -/
lemma tryCommit_cases (ledger : FrameworkCapacityLedger) (agreement : FrameworkAgreementId)
    (resources : KeySet ConflictResource) :
    (∃ error, ledger.tryCommit agreement resources = (ledger, .error error)) ∨
    ∃ held, ledger.agreements[agreement]? = some held ∧
      (ledger.tryCommit agreement resources).2 = .ok () ∧
      (∀ resource ∈ resources, held.covers resource = true →
        ledger.committedOf agreement resource < ledger.capOf agreement resource) ∧
      (ledger.tryCommit agreement resources).1.capacity = ledger.capacity ∧
      (ledger.tryCommit agreement resources).1.agreements = ledger.agreements ∧
      ∀ other resource, (ledger.tryCommit agreement resources).1.committedOf other resource
        = if other = agreement ∧ resource ∈ resources ∧ held.covers resource = true then
            ledger.committedOf other resource + 1
          else ledger.committedOf other resource := by
  cases hheld : ledger.agreements[agreement]? with
  | none => exact .inl ⟨.unknownFrameworkAgreement agreement, by simp [tryCommit, hheld]⟩
  | some held =>
    cases hfull : (resources.toList.filter held.covers).find?
        fun resource => ledger.remaining agreement resource == 0 with
    | some resource =>
      exact .inl ⟨.frameworkCapacityExceeded agreement resource, by
        simp [tryCommit, hheld, hfull]⟩
    | none =>
      have heq : ledger.tryCommit agreement resources
          = ({ ledger with
              committed := (resources.toList.filter held.covers).foldl
                (commitOne agreement) ledger.committed }, .ok ()) := by
        simp [tryCommit, hheld, hfull]
      have hroom : ∀ resource ∈ resources, held.covers resource = true →
          ledger.committedOf agreement resource < ledger.capOf agreement resource := by
        intro resource hin hcovers
        have hleft := List.find?_eq_none.mp hfull resource
          (List.mem_filter.mpr ⟨ExtTreeSet.mem_toList.mpr hin, hcovers⟩)
        rw [beq_iff_eq, remaining] at hleft
        omega
      refine .inr ⟨held, rfl, by rw [heq], hroom, by rw [heq], by rw [heq],
        fun other resource => ?_⟩
      have hnodup : (resources.toList.filter held.covers).Nodup :=
        (KeySet.nodup_toList resources).filter _
      have hall := committedOf_commitAll agreement _ hnodup ledger.committed
        ⟨other, resource⟩
      simp only [List.mem_filter, ExtTreeSet.mem_toList] at hall
      rw [heq]
      refine hall.trans ?_
      rw [← committedOf]
      split
      next hin =>
        obtain ⟨rfl, hin, hcovers⟩ := hin
        have hless := hroom resource hin hcovers
        have hcap := ledger.capOf_le other resource
        rw [addSatU32]
        omega
      · rfl

/-- Giving back takes one path from every entry of the agreement on the resources. -/
lemma committedOf_release (ledger : FrameworkCapacityLedger) (agreement : FrameworkAgreementId)
    (resources : KeySet ConflictResource) (other : FrameworkAgreementId)
    (resource : ConflictResource) :
    (ledger.release agreement resources).committedOf other resource
      = if other = agreement ∧ resource ∈ resources then ledger.committedOf other resource - 1
        else ledger.committedOf other resource := by
  have hlist : ∀ (keys : List ConflictResource) (committed : Registry CommitmentKey ℕ),
      keys.Nodup →
      ((keys.foldl (fun committed key => committed.modify ⟨agreement, key⟩ fun value => value - 1)
          committed)[(⟨other, resource⟩ : CommitmentKey)]?).getD 0
        = if other = agreement ∧ resource ∈ keys then
            (committed[(⟨other, resource⟩ : CommitmentKey)]?).getD 0 - 1
          else (committed[(⟨other, resource⟩ : CommitmentKey)]?).getD 0 := by
    intro keys
    induction keys with
    | nil => simp
    | cons key keys ih =>
      intro committed hnodup
      obtain ⟨hfresh, hrest⟩ := List.nodup_cons.mp hnodup
      rw [List.foldl_cons, ih _ hrest, Registry.getElem?_modify]
      by_cases hkey : other = agreement ∧ resource = key
      · obtain ⟨rfl, rfl⟩ := hkey
        cases committed[(⟨other, resource⟩ : CommitmentKey)]? with
        | none => simp [hfresh]
        | some value => simp [hfresh]
      · have hne : ¬ (⟨other, resource⟩ : CommitmentKey) = ⟨agreement, key⟩ := by
          rw [CommitmentKey.mk.injEq]
          exact hkey
        have hmem : (other = agreement ∧ resource ∈ key :: keys)
            ↔ other = agreement ∧ resource ∈ keys := by
          rw [List.mem_cons]
          tauto
        simp only [if_neg hne, hmem]
  have h := hlist resources.toList ledger.committed (KeySet.nodup_toList resources)
  simp only [ExtTreeSet.mem_toList] at h
  exact h

end FrameworkCapacityLedger

/-! ### Calls as steps -/

/-- A call of a framework capacity ledger. -/
inductive FrameworkCommand where
  | register (agreement : FrameworkAgreement)
  | tryCommit (agreement : FrameworkAgreementId) (resources : KeySet ConflictResource)
  | release (agreement : FrameworkAgreementId) (resources : KeySet ConflictResource)

/-- The call commits or gives back capacity of the agreement. -/
def FrameworkCommand.books (agreement : FrameworkAgreementId) : FrameworkCommand → Bool
  | register _ => false
  | tryCommit other _ => other == agreement
  | release other _ => other == agreement

namespace FrameworkCapacityLedger

variable {ledger : FrameworkCapacityLedger}

/-- The ledger after a call. -/
def apply (ledger : FrameworkCapacityLedger) : FrameworkCommand → FrameworkCapacityLedger
  | .register agreement => (ledger.register agreement).1
  | .tryCommit agreement resources => (ledger.tryCommit agreement resources).1
  | .release agreement resources => ledger.release agreement resources

@[simp] lemma apply_register (agreement : FrameworkAgreement) :
    ledger.apply (.register agreement) = (ledger.register agreement).1 := rfl

@[simp] lemma apply_tryCommit (agreement : FrameworkAgreementId)
    (resources : KeySet ConflictResource) :
    ledger.apply (.tryCommit agreement resources)
      = (ledger.tryCommit agreement resources).1 := rfl

@[simp] lemma apply_release (agreement : FrameworkAgreementId)
    (resources : KeySet ConflictResource) :
    ledger.apply (.release agreement resources) = ledger.release agreement resources := rfl

/-- The outcome of a call; giving back never fails. -/
def outcome (ledger : FrameworkCapacityLedger) : FrameworkCommand → Except ConflictError Unit
  | .register agreement => (ledger.register agreement).2
  | .tryCommit agreement resources => (ledger.tryCommit agreement resources).2
  | .release _ _ => .ok ()

/-- The call returns no error. -/
def succeeds (ledger : FrameworkCapacityLedger) (command : FrameworkCommand) : Bool :=
  (ledger.outcome command).isOk

/-! ### Refusals -/

/-- The call registers another agreement under a number that is taken. -/
def overwrites (ledger : FrameworkCapacityLedger) : FrameworkCommand → Bool
  | .register agreement => (ledger.agreements[agreement.id]?).any fun held => held != agreement
  | _ => false

/-- A call that returns an error leaves the ledger as it is, and a call to commit books one
path on every resource of the corridor or on none. -/
structure RefusesCleanly (ledger : FrameworkCapacityLedger) (command : FrameworkCommand) :
    Prop where
  unchanged : ledger.succeeds command = false → ledger.apply command = ledger
  allOrNothing : ∀ agreement resources, command = .tryCommit agreement resources →
    ledger.apply command = ledger ∨ ∃ held, ledger.agreements[agreement]? = some held ∧
      (ledger.apply command).capacity = ledger.capacity ∧
      (ledger.apply command).agreements = ledger.agreements ∧
      ∀ other resource, (ledger.apply command).committedOf other resource
        = if other = agreement ∧ resource ∈ resources ∧ held.covers resource = true then
            ledger.committedOf other resource + 1
          else ledger.committedOf other resource

lemma tryCommit_refusesCleanly (ledger : FrameworkCapacityLedger)
    (agreement : FrameworkAgreementId) (resources : KeySet ConflictResource) :
    ledger.RefusesCleanly (.tryCommit agreement resources) := by
  rcases ledger.tryCommit_cases agreement resources with
    ⟨error, heq⟩ | ⟨held, hheld, hok, -, hcapacity, hagreements, hcommitted⟩
  · have hsame : ledger.apply (.tryCommit agreement resources) = ledger := by
      rw [apply_tryCommit, heq]
    exact ⟨fun _ => hsame, fun _ _ _ => .inl hsame⟩
  · refine ⟨fun hrefused => ?_, fun other others heq => ?_⟩
    · rw [succeeds, outcome, hok] at hrefused
      cases hrefused
    · obtain ⟨rfl, rfl⟩ := FrameworkCommand.tryCommit.inj heq
      exact .inr ⟨held, hheld, hcapacity, hagreements, hcommitted⟩

lemma agreements_register (ledger : FrameworkCapacityLedger) (agreement : FrameworkAgreement) :
    (ledger.register agreement).1
      = { ledger with agreements := ledger.agreements.insert agreement.id agreement } := by
  rw [register]
  split
  · rfl
  · rfl

/-- **Refused calls.**  A call that returns an error leaves the ledger unchanged, and a call
to commit books on all resources or on none, exactly if the call does not register another
agreement under a taken number. -/
theorem refusesCleanly_iff (ledger : FrameworkCapacityLedger) (command : FrameworkCommand) :
    ledger.RefusesCleanly command ↔ ledger.overwrites command = false := by
  cases command with
  | register agreement =>
    rw [overwrites]
    cases htaken : ledger.agreements[agreement.id]? with
    | none =>
      refine iff_of_true ⟨fun hrefused => ?_, fun _ _ heq => nomatch heq⟩ rfl
      rw [succeeds, outcome, register_of_free htaken] at hrefused
      cases hrefused
    | some held =>
      rw [Option.any_some, bne_eq_false_iff_eq]
      constructor
      · rintro ⟨hunchanged, -⟩
        have hrefused : ledger.succeeds (.register agreement) = false := by
          rw [succeeds, outcome, register_of_taken htaken]
          rfl
        have hsame := congrArg (fun other => other.agreements[agreement.id]?)
          (hunchanged hrefused)
        simp only [apply_register, agreements_register, Registry.getElem?_insert, htaken,
          if_true] at hsame
        exact (Option.some.inj hsame).symm
      · rintro rfl
        refine ⟨fun _ => ?_, fun _ _ heq => nomatch heq⟩
        have hsame : ledger.agreements.insert held.id held = ledger.agreements := by
          refine ExtTreeMap.ext_getElem? fun id => ?_
          rw [Registry.getElem?_insert]
          split
          next heq => rw [heq, htaken]
          · rfl
        rw [apply_register, agreements_register, hsame]
  | tryCommit agreement resources =>
    exact iff_of_true (ledger.tryCommit_refusesCleanly agreement resources) rfl
  | release agreement resources =>
    refine iff_of_true ⟨fun hrefused => ?_, fun _ _ heq => nomatch heq⟩ rfl
    cases hrefused

/-! ### Runs of successful calls -/

/-- The ledger before any call: the capacities are laid down one after another. -/
def opened (slots : List (ConflictResource × ℕ)) : FrameworkCapacityLedger :=
  slots.foldl (fun ledger slot => ledger.withCapacity slot.1 slot.2) new

/-- No agreement has committed more than its cap on any resource. -/
def WithinCaps (ledger : FrameworkCapacityLedger) : Prop :=
  ∀ agreement resource, ledger.committedOf agreement resource ≤ ledger.capOf agreement resource

lemma opened_withinCaps (slots : List (ConflictResource × ℕ)) : (opened slots).WithinCaps := by
  have hempty : (opened slots).committed = ∅ := by
    have hstep : ∀ (ledger : FrameworkCapacityLedger) (slot : ConflictResource × ℕ),
        ledger.committed = ∅ → (ledger.withCapacity slot.1 slot.2).committed = ∅ :=
      fun _ _ h => h
    exact foldl_invariant hstep rfl slots
  intro agreement resource
  simp [committedOf, hempty]

lemma free_of_succeeds {agreement : FrameworkAgreement}
    (h : ledger.succeeds (.register agreement) = true) :
    ledger.agreements[agreement.id]? = none := by
  cases htaken : ledger.agreements[agreement.id]? with
  | none => rfl
  | some held =>
    rw [succeeds, outcome, register_of_taken htaken] at h
    cases h

variable {agreement : FrameworkAgreementId} {command : FrameworkCommand}

/-- Successful calls keep what is committed within the caps. -/
lemma WithinCaps.apply (h : ledger.WithinCaps)
    (hsuccess : ledger.succeeds command = true) : (ledger.apply command).WithinCaps := by
  intro agreement resource
  cases command with
  | register new =>
    have hfree := free_of_succeeds hsuccess
    rw [apply_register, agreements_register]
    by_cases hown : agreement = new.id
    · -- an agreement that was unknown so far has not committed anything
      subst hown
      have hzero := h new.id resource
      rw [capOf, hfree] at hzero
      exact hzero.trans (Nat.zero_le _)
    · have hother : (ledger.agreements.insert new.id new)[agreement]?
          = ledger.agreements[agreement]? := by
        rw [Registry.getElem?_insert, if_neg hown]
      exact (h agreement resource).trans_eq (by rw [capOf, capOf, hother]; rfl)
  | tryCommit other resources =>
    rw [apply_tryCommit]
    rcases ledger.tryCommit_cases other resources with
      ⟨error, heq⟩ | ⟨held, -, -, hroom, hcapacity, hagreements, hcommitted⟩
    · rw [heq]
      exact h agreement resource
    · rw [hcommitted, capOf_congr hcapacity (by rw [hagreements])]
      split
      next hin =>
        obtain ⟨rfl, hin, hcovers⟩ := hin
        exact hroom resource hin hcovers
      · exact h agreement resource
  | release other resources =>
    rw [apply_release, committedOf_release]
    have hcap : (ledger.release other resources).capOf agreement resource
        = ledger.capOf agreement resource := capOf_congr rfl rfl resource
    have hkept := h agreement resource
    rw [hcap]
    split
    · omega
    · exact hkept

/-! ### A commitment and its return -/

/-- The ledgers differ at most in what the agreement has committed. -/
structure SameBut (agreement : FrameworkAgreementId) (a b : FrameworkCapacityLedger) : Prop where
  capacity : a.capacity = b.capacity
  agreements : a.agreements = b.agreements
  others : ∀ other resource, other ≠ agreement →
    a.committedOf other resource = b.committedOf other resource

/-- A call to commit succeeds if the agreement is known and room is left on its corridor. -/
lemma tryCommit_ok_iff {resources : KeySet ConflictResource} :
    (ledger.tryCommit agreement resources).2 = .ok () ↔
      ∃ held, ledger.agreements[agreement]? = some held ∧
        ∀ resource ∈ resources, held.covers resource = true →
          ledger.committedOf agreement resource < ledger.capOf agreement resource := by
  constructor
  · intro hok
    rcases ledger.tryCommit_cases agreement resources with
      ⟨error, heq⟩ | ⟨held, hheld, -, hroom, -⟩
    · rw [heq] at hok
      cases hok
    · exact ⟨held, hheld, hroom⟩
  · rintro ⟨held, hheld, hroom⟩
    have hfree : (resources.toList.filter held.covers).find?
        (fun resource => ledger.remaining agreement resource == 0) = none := by
      rw [List.find?_eq_none]
      intro resource hin
      obtain ⟨hin, hcovers⟩ := List.mem_filter.mp hin
      have hless := hroom resource (ExtTreeSet.mem_toList.mp hin) hcovers
      rw [beq_iff_eq, remaining]
      omega
    simp [tryCommit, hheld, hfree]

/-- A call that books nothing of the agreement keeps two such ledgers alike. -/
lemma SameBut.apply {a b : FrameworkCapacityLedger} (h : SameBut agreement a b)
    (hother : command.books agreement = false) :
    SameBut agreement (a.apply command) (b.apply command) := by
  cases command with
  | register new =>
    rw [apply_register, apply_register, agreements_register, agreements_register]
    exact ⟨h.capacity, by rw [h.agreements], h.others⟩
  | tryCommit other resources =>
    have hne : other ≠ agreement := beq_eq_false_iff_ne.mp hother
    have hcap : ∀ resource, a.capOf other resource = b.capOf other resource :=
      fun resource => capOf_congr h.capacity (by rw [h.agreements]) resource
    have hsame : (a.tryCommit other resources).2 = .ok ()
        ↔ (b.tryCommit other resources).2 = .ok () := by
      simp only [tryCommit_ok_iff, h.agreements, hcap, h.others other _ hne]
    rw [apply_tryCommit, apply_tryCommit]
    rcases a.tryCommit_cases other resources with
      ⟨error, heq⟩ | ⟨held, hheld, hok, -, hcapacity, hagreements, hcommitted⟩
    · rcases b.tryCommit_cases other resources with ⟨error', heq'⟩ | ⟨-, -, hok', -⟩
      · rw [heq, heq']
        exact h
      · rw [heq] at hsame
        cases hsame.mpr hok'
    · rcases b.tryCommit_cases other resources with
        ⟨error', heq'⟩ | ⟨held', hheld', -, -, hcapacity', hagreements', hcommitted'⟩
      · rw [heq'] at hsame
        cases hsame.mp hok
      · obtain rfl : held = held' := by
          rw [h.agreements, hheld'] at hheld
          exact (Option.some.inj hheld).symm
        refine ⟨by rw [hcapacity, hcapacity', h.capacity],
          by rw [hagreements, hagreements', h.agreements], fun third resource hthird => ?_⟩
        rw [hcommitted, hcommitted', h.others third resource hthird]
  | release other resources =>
    refine ⟨h.capacity, h.agreements, fun third resource hthird => ?_⟩
    rw [apply_release, apply_release, committedOf_release, committedOf_release,
      h.others third resource hthird]

/-- A call that books nothing of the agreement leaves what it has committed. -/
lemma committedOf_apply (hother : command.books agreement = false) (resource : ConflictResource) :
    (ledger.apply command).committedOf agreement resource
      = ledger.committedOf agreement resource := by
  cases command with
  | register new =>
    rw [apply_register, agreements_register]
    rfl
  | tryCommit other resources =>
    have hne : agreement ≠ other := (beq_eq_false_iff_ne.mp hother).symm
    rw [apply_tryCommit]
    rcases ledger.tryCommit_cases other resources with
      ⟨error, heq⟩ | ⟨held, -, -, -, -, -, hcommitted⟩
    · rw [heq]
    · rw [hcommitted, if_neg fun hin => hne hin.1]
  | release other resources =>
    have hne : agreement ≠ other := (beq_eq_false_iff_ne.mp hother).symm
    rw [apply_release, committedOf_release, if_neg fun hin => hne hin.1]

/-- Calls that book nothing of the agreement keep two such ledgers alike and leave what it
has committed. -/
lemma SameBut.foldl_apply {a b : FrameworkCapacityLedger}
    (h : SameBut agreement a b) {commands : List FrameworkCommand}
    (hothers : ∀ command ∈ commands, command.books agreement = false) :
    SameBut agreement (commands.foldl FrameworkCapacityLedger.apply a)
      (commands.foldl FrameworkCapacityLedger.apply b) ∧
    ∀ resource, (commands.foldl FrameworkCapacityLedger.apply a).committedOf agreement resource
      = a.committedOf agreement resource := by
  induction commands generalizing a b with
  | nil => exact ⟨h, fun _ => rfl⟩
  | cons command commands ih =>
    obtain ⟨hfirst, hrest⟩ := List.forall_mem_cons.mp hothers
    obtain ⟨hsame, hkept⟩ := ih (h.apply hfirst) hrest
    refine ⟨hsame, fun resource => ?_⟩
    rw [List.foldl_cons, hkept, committedOf_apply hfirst]

/-- Giving back what was committed restores every committed value, whatever other agreements
have booked in between. -/
lemma committedOf_restored (h : ledger.WithinCaps) {resources : KeySet ConflictResource}
    (hsuccess : ledger.succeeds (.tryCommit agreement resources) = true)
    {between : List FrameworkCommand}
    (hothers : ∀ command ∈ between, command.books agreement = false)
    (other : FrameworkAgreementId) (resource : ConflictResource) :
    ((between.foldl FrameworkCapacityLedger.apply
        (ledger.apply (.tryCommit agreement resources))).apply
          (.release agreement resources)).committedOf other resource
      = (between.foldl FrameworkCapacityLedger.apply ledger).committedOf other resource := by
  rcases ledger.tryCommit_cases agreement resources with
    ⟨error, heq⟩ | ⟨held, hheld, -, -, hcapacity, hagreements, hcommitted⟩
  · rw [succeeds, outcome, heq] at hsuccess
    cases hsuccess
  · have hstart : SameBut agreement (ledger.apply (.tryCommit agreement resources)) ledger := by
      refine ⟨hcapacity, hagreements, fun third asked hthird => ?_⟩
      rw [apply_tryCommit, hcommitted, if_neg fun hin => hthird hin.1]
    have hback : SameBut agreement ledger (ledger.apply (.tryCommit agreement resources)) :=
      ⟨hstart.capacity.symm, hstart.agreements.symm,
        fun third asked hthird => (hstart.others third asked hthird).symm⟩
    obtain ⟨hsame, hkept⟩ := hstart.foldl_apply hothers
    obtain ⟨-, hplain⟩ := hback.foldl_apply hothers
    rw [apply_release, committedOf_release]
    by_cases hown : other = agreement
    · subst hown
      rw [hkept, hplain, apply_tryCommit, hcommitted]
      by_cases hin : resource ∈ resources
      · cases hcovers : held.covers resource with
        | true => simp [hin]
        | false =>
          -- nothing is ever committed outside of the corridor
          have hzero := h other resource
          rw [capOf_uncovered hheld hcovers] at hzero
          simp only [hin, true_and, and_true, if_true, Bool.false_eq_true, if_false]
          omega
      · simp [hin]
    · rw [if_neg fun hin => hown hin.1, hsame.others other resource hown]

/-- **Capacity of framework agreements.**  After any run of successful calls no agreement has
committed more than its cap on any resource; and a call to commit, followed by any calls about
other agreements and by giving back the same resources, restores what the agreement had
committed and leaves the others as they would be without it. -/
theorem framework_capacity_kept (slots : List (ConflictResource × ℕ))
    (commands : List FrameworkCommand)
    (hsuccess : AllSteps apply succeeds (opened slots) commands = true) :
    (∀ agreement resource,
      (commands.foldl apply (opened slots)).committedOf agreement resource
        ≤ (commands.foldl apply (opened slots)).capOf agreement resource) ∧
    ∀ (agreement : FrameworkAgreementId) (resources : KeySet ConflictResource)
        (between : List FrameworkCommand),
      (commands.foldl apply (opened slots)).succeeds (.tryCommit agreement resources) = true →
      (∀ command ∈ between, command.books agreement = false) →
      (∀ resource, ((between.foldl apply ((commands.foldl apply (opened slots)).apply
          (.tryCommit agreement resources))).apply
            (.release agreement resources)).committedOf agreement resource
        = (commands.foldl apply (opened slots)).committedOf agreement resource) ∧
      ∀ other resource, ((between.foldl apply ((commands.foldl apply (opened slots)).apply
          (.tryCommit agreement resources))).apply
            (.release agreement resources)).committedOf other resource
        = (between.foldl apply (commands.foldl apply (opened slots))).committedOf
            other resource := by
  have hwithin : (commands.foldl apply (opened slots)).WithinCaps :=
    AllSteps.invariant (fun _ _ h hstep => h.apply hstep) (opened_withinCaps slots) hsuccess
  refine ⟨hwithin, fun agreement resources between hcommit hothers => ⟨fun resource => ?_,
    committedOf_restored hwithin hcommit hothers⟩⟩
  have hself : SameBut agreement (commands.foldl apply (opened slots))
      (commands.foldl apply (opened slots)) := ⟨rfl, rfl, fun _ _ _ => rfl⟩
  rw [committedOf_restored hwithin hcommit hothers]
  exact (hself.foldl_apply hothers).2 resource

/-! ### A corridor of two tracks -/

/-- Half of the capacity of two tracks. -/
def half : FrameworkAgreement :=
  ⟨1, ExtTreeSet.ofList [.track 1, .track 2] compare, 5000, by decide +kernel, by decide⟩

/-- All of the capacity of one track, under the same number. -/
def whole : FrameworkAgreement :=
  ⟨1, ExtTreeSet.ofList [.track 1] compare, 10000, by decide +kernel, by decide⟩

/-- A quarter of the capacity of one track, under another number. -/
def quarter : FrameworkAgreement :=
  ⟨2, ExtTreeSet.ofList [.track 1] compare, 2500, by decide +kernel, by decide⟩

/-- The second agreement under a number replaces the first one, although it is refused. -/
theorem duplicate_replaces :
    ¬ ((new.withCapacity (.track 1) 4).apply (.register half)).RefusesCleanly
      (.register whole) := by
  intro h
  have hsame := h.unchanged (by decide +kernel)
  exact absurd hsame (by decide +kernel)

/-- The capacity of the two tracks. -/
def slots : List (ConflictResource × ℕ) := [(.track 1, 4), (.track 2, 2)]

/-- Both agreements are registered, and the first one commits a path on both tracks. -/
def booked : List FrameworkCommand :=
  [.register half, .register quarter, .tryCommit 1 half.corridor]

/-- The other agreement commits a path on the first track. -/
def meanwhile : List FrameworkCommand := [.tryCommit 2 half.corridor]

theorem framework_capacity_kept_corridor :
    (∀ agreement resource, (booked.foldl apply (opened slots)).committedOf agreement resource
      ≤ (booked.foldl apply (opened slots)).capOf agreement resource) ∧
    ∀ resource, ((meanwhile.foldl apply ((booked.foldl apply (opened slots)).apply
        (.tryCommit 1 whole.corridor))).apply (.release 1 whole.corridor)).committedOf 1 resource
      = (booked.foldl apply (opened slots)).committedOf 1 resource := by
  have hkept := framework_capacity_kept slots booked (by decide +kernel)
  exact ⟨hkept.1, (hkept.2 1 whole.corridor meanwhile (by decide +kernel)
    (by decide +kernel)).1⟩

end FrameworkCapacityLedger

end Zugfolge.Conflict
