/-
What an operation still owes.

Between its writes an operation may leave projections out of date; the debt records
which, so that an invariant may hold at every step.
-/
import Zugfolge.World.World

namespace Zugfolge

open Foundation

/-- What an operation still has to refresh, and the messages it may adopt. -/
structure Debt where
  resources : Set String
  signals : Prop
  ending : Set String
  formations : Set String
  holds : Prop
  horizon : Option SimMillis
  letters : Set RegionHandover

namespace Debt

/-- Nothing is owed; the messages are at hand. -/
def nothing (letters : Set RegionHandover) : Debt := ⟨∅, False, ∅, ∅, False, none, letters⟩

/-- The debt `a` is part of the debt `b`. -/
structure Le (a b : Debt) : Prop where
  resources : a.resources ⊆ b.resources
  signals : a.signals → b.signals
  ending : a.ending ⊆ b.ending
  formations : a.formations ⊆ b.formations
  holds : a.holds → b.holds
  horizon : a.horizon = b.horizon
  letters : a.letters = b.letters

variable (d : Debt)

/-- The life cycle of some resources is owed. -/
def oweResources (resources : KeySet String) : Debt :=
  { d with resources := d.resources ∪ resources.toSet }

/-- The life cycle of some resources is refreshed. -/
def refreshed (resources : KeySet String) : Debt :=
  { d with resources := d.resources \ resources.toSet }

def oweSignals : Debt := { d with signals := True }

/-- Locks are released: their resources and all signals are owed. -/
def release (released : KeySet String) : Debt :=
  if released.isEmpty then d else (d.oweResources released).oweSignals

def signalsRebuilt : Debt := { d with signals := False }

/-- The segment of a train is spent. -/
def spend (trainId : String) : Debt := { d with ending := d.ending ∪ {trainId} }

/-- The spent segment of a train is gone. -/
def settle (trainId : String) : Debt := { d with ending := d.ending \ {trainId} }

/-- The formations of some trains are out of date. -/
def oweFormations (trainIds : List String) : Debt :=
  { d with formations := d.formations ∪ {id | id ∈ trainIds} }

/-- The formation of a train is derived anew. -/
def formationRenewed (trainId : String) : Debt :=
  { d with formations := d.formations \ {trainId} }

/-- Life cycle and signals are owed as a whole. -/
def oweAll : Debt := { d with resources := Set.univ, signals := True }

/-- Holds may be due. -/
def oweHolds : Debt := { d with holds := True }

/-- No hold is due. -/
def holdsProgressed : Debt := { d with holds := False }

/-- The clock is on its way to an instant. -/
def approaching (targetMs : SimMillis) : Debt := { d with horizon := some targetMs }

def clockReached : Debt := { d with horizon := none }

/-- The life cycle is rebuilt as a whole. -/
def lifecycleRebuilt : Debt := { d with resources := ∅ }

/-! ### Settled debts -/

lemma Le.refl : d.Le d := ⟨subset_rfl, id, subset_rfl, subset_rfl, id, rfl, rfl⟩

lemma settle_le (trainId : String) : (d.settle trainId).Le d :=
  { Le.refl d with ending := Set.sdiff_subset }

lemma holdsProgressed_le : d.oweHolds.holdsProgressed.Le d := { Le.refl d with holds := False.elim }

lemma signalsRebuilt_le : d.oweSignals.signalsRebuilt.Le d :=
  { Le.refl d with signals := False.elim }

lemma oweAll_rebuilt_le : d.oweAll.lifecycleRebuilt.signalsRebuilt.Le d :=
  { Le.refl d with resources := Set.empty_subset _, signals := False.elim }

lemma release_le {released : KeySet String} (h : released.isEmpty = false) :
    ((d.release released).signalsRebuilt.refreshed released).Le d := by
  rw [release, if_neg (by simp [h])]
  refine { Le.refl d with resources := ?_, signals := False.elim }
  simp only [signalsRebuilt, refreshed, oweSignals, oweResources, Set.union_sdiff_right]
  exact Set.sdiff_subset

lemma arrived_le (trainId : String) {before place after : KeySet String}
    (h : ∀ block ∈ place, block ∈ after) :
    (((d.oweResources (before ∪ place)).settle trainId).refreshed (before ∪ after)).Le
      (d.settle trainId) := by
  refine { Le.refl (d.settle trainId) with resources := ?_ }
  rintro block ⟨hin | hin, hout⟩
  · exact hin
  · refine absurd ?_ hout
    simp only [KeySet.mem_toSet, Std.ExtTreeSet.mem_union_iff] at hin ⊢
    exact hin.imp_right (h block)

lemma spend_settle_le (trainId : String) : ((d.spend trainId).settle trainId).Le d := by
  refine { Le.refl d with ending := ?_ }
  simp only [settle, spend, Set.union_sdiff_right]
  exact Set.sdiff_subset

lemma le_spend (trainId : String) : d.Le (d.spend trainId) :=
  { Le.refl d with ending := Set.subset_union_left }

lemma folded_le (trainId : String) (resources : KeySet String) :
    (((d.oweResources resources).spend trainId).refreshed resources).Le (d.spend trainId) := by
  refine { Le.refl (d.spend trainId) with resources := ?_ }
  simp only [refreshed, spend, oweResources, Set.union_sdiff_right]
  exact Set.sdiff_subset

lemma formationRenewed_le (trainId : String) : (d.formationRenewed trainId).Le d :=
  { Le.refl d with formations := Set.sdiff_subset }

lemma oweFormations_nil_le : (d.oweFormations []).Le d :=
  { Le.refl d with formations := by simp [oweFormations] }

lemma oweFormations_cons_le (trainId : String) (trainIds : List String) :
    ((d.oweFormations (trainId :: trainIds)).formationRenewed trainId).Le
      (d.oweFormations trainIds) := by
  refine { Le.refl (d.oweFormations trainIds) with formations := ?_ }
  rintro id ⟨hin | hin, hout⟩
  · exact .inl hin
  · exact .inr ((List.mem_cons.mp hin).resolve_left hout)

lemma clockReached_le {d : Debt} (h : d.horizon = none) (targetMs : SimMillis) :
    (d.approaching targetMs).oweHolds.clockReached.Le d.oweHolds :=
  { Le.refl d.oweHolds with horizon := h.symm }

lemma lifecycleRebuilt_le : d.lifecycleRebuilt.Le d :=
  { Le.refl d with resources := Set.empty_subset _ }

end Debt

end Zugfolge
