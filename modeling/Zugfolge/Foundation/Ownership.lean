/-
Who owns what.

A table gives every owner a set of keys.  An owner that takes keys over takes them away from all
others.

* `Settled`, `Turnover.settled`: what is shown has one owner, and stays so when owners change,
  remove and take over.
-/
import Zugfolge.Foundation.Registry

namespace Zugfolge.Foundation

open Std

namespace KeySet

variable {κ : Type} [Ord κ] [TransOrd κ]

/-- Puts all keys of a list into a set. -/
def addAll (a : KeySet κ) (ks : List κ) : KeySet κ := ks.foldl (fun acc k => acc.insert k) a

/-- Takes all keys of a list out of a set. -/
def removeAll (a : KeySet κ) (ks : List κ) : KeySet κ := ks.foldl (fun acc k => acc.erase k) a

variable [LawfulEqOrd κ]

lemma mem_addAll {a : KeySet κ} {ks : List κ} {k : κ} : k ∈ addAll a ks ↔ k ∈ ks ∨ k ∈ a := by
  induction ks generalizing a with
  | nil => simp [addAll]
  | cons j ks ih =>
    change k ∈ addAll (a.insert j) ks ↔ _
    rw [ih, mem_insert, List.mem_cons]
    tauto

lemma mem_removeAll {a : KeySet κ} {ks : List κ} {k : κ} :
    k ∈ removeAll a ks ↔ k ∈ a ∧ k ∉ ks := by
  induction ks generalizing a with
  | nil => simp [removeAll]
  | cons j ks ih =>
    change k ∈ removeAll (a.erase j) ks ↔ _
    rw [ih, mem_erase, List.mem_cons]
    tauto

end KeySet

/-- The keys of every owner. -/
abbrev Ownership (ρ κ : Type) [Ord ρ] [Ord κ] : Type := Registry ρ (KeySet κ)

namespace Ownership

variable {ρ κ : Type} [Ord ρ] [TransOrd ρ] [DecidableEq ρ] [Ord κ] [TransOrd κ]

/-- The keys of an owner. -/
def owned (table : Ownership ρ κ) (owner : ρ) : KeySet κ := (table[owner]?).getD ∅

/-- Whether somebody else owns a key. -/
def ownedElsewhere (table : Ownership ρ κ) (owner : ρ) (k : κ) : Bool :=
  table.toList.any fun entry => decide (entry.1 ≠ owner) && entry.2.contains k

/-- Gives an owner its new keys and takes some keys away from all others. -/
def takeOver (table : Ownership ρ κ) (owner : ρ) (taken : List κ) (keys : KeySet κ) :
    Ownership ρ κ :=
  ExtTreeMap.insert (table.map fun _ others => KeySet.removeAll others taken) owner keys

variable [LawfulEqOrd ρ]

variable {k : κ} {owner : ρ} {table : Ownership ρ κ}

lemma ownedElsewhere_iff :
    ownedElsewhere table owner k = true ↔ ∃ other, other ≠ owner ∧ k ∈ owned table other := by
  rw [ownedElsewhere, List.any_eq_true]
  constructor
  · rintro ⟨⟨other, keys⟩, hin, h⟩
    obtain ⟨hother, hk⟩ := Bool.and_eq_true_iff.mp h
    refine ⟨other, of_decide_eq_true hother, ?_⟩
    rw [owned, Registry.mem_toList.mp hin]
    exact ExtTreeSet.contains_iff_mem.mp hk
  · rintro ⟨other, hother, hk⟩
    cases hkeys : table[other]? with
    | none =>
      rw [owned, hkeys] at hk
      simp at hk
    | some keys =>
      rw [owned, hkeys] at hk
      refine ⟨(other, keys), Registry.mem_toList.mpr hkeys, ?_⟩
      exact Bool.and_eq_true_iff.mpr
        ⟨decide_eq_true hother, ExtTreeSet.contains_iff_mem.mpr hk⟩

lemma ownedElsewhere_eq_false :
    ownedElsewhere table owner k = false ↔ ∀ other, k ∈ owned table other → other = owner := by
  rw [← Bool.not_eq_true, ownedElsewhere_iff]
  push Not
  exact forall_congr' fun other => not_imp_not

variable [LawfulEqOrd κ]

/-- What everybody owns after keys were taken over. -/
lemma mem_owned_takeOver {owner other : ρ} {taken : List κ} {keys : KeySet κ} :
    k ∈ owned (takeOver table owner taken keys) other ↔
      if other = owner then k ∈ keys else k ∈ owned table other ∧ k ∉ taken := by
  unfold takeOver owned
  rw [Registry.getElem?_insert]
  split
  · rfl
  · rw [ExtTreeMap.getElem?_map]
    cases table[other]? with
    | none => simp
    | some keys => exact KeySet.mem_removeAll

/-- No key has two owners. -/
def Exclusive (table : Ownership ρ κ) : Prop :=
  ∀ (k : κ) (owner other : ρ), k ∈ owned table owner → k ∈ owned table other → owner = other

/-- A table stays exclusive if whatever an owner gets was taken over or owned by nobody else. -/
lemma Exclusive.takeOver (h : Exclusive table) {taken : List κ} {keys : KeySet κ}
    (hkeys : ∀ k ∈ keys, k ∈ taken ∨ ownedElsewhere table owner k = false) :
    Exclusive (takeOver table owner taken keys) := by
  have hmine : ∀ (k : κ) (other : ρ), other ≠ owner → k ∈ keys →
      k ∉ owned (Ownership.takeOver table owner taken keys) other := by
    intro k other hne hk hother
    rw [mem_owned_takeOver, if_neg hne] at hother
    rcases hkeys k hk with htaken | hfree
    · exact hother.2 htaken
    · exact hne (ownedElsewhere_eq_false.mp hfree other hother.1)
  intro k a b ha hb
  by_cases haowner : a = owner
  · by_cases hbowner : b = owner
    · rw [haowner, hbowner]
    · rw [mem_owned_takeOver, if_pos haowner] at ha
      exact absurd hb (hmine k b hbowner ha)
  · by_cases hbowner : b = owner
    · rw [mem_owned_takeOver, if_pos hbowner] at hb
      exact absurd ha (hmine k a haowner hb)
    · rw [mem_owned_takeOver, if_neg haowner] at ha
      rw [mem_owned_takeOver, if_neg hbowner] at hb
      exact h k a b ha.1 hb.1

/-! ### Shown and owned -/

/-- What is shown is owned by exactly one owner, and whatever is owned is shown. -/
structure Settled (shown : κ → Prop) (table : Ownership ρ κ) : Prop where
  exclusive : Exclusive table
  covers : ∀ k, shown k ↔ ∃ owner, k ∈ owned table owner

omit [DecidableEq ρ] [LawfulEqOrd ρ] [LawfulEqOrd κ] in
lemma Settled.existsUnique {shown : κ → Prop} (h : Settled shown table)
    (k : κ) : shown k ↔ ∃! owner, k ∈ owned table owner := by
  rw [h.covers]
  constructor
  · rintro ⟨owner, howner⟩
    exact ⟨owner, howner, fun other hother => h.exclusive k other owner hother howner⟩
  · rintro ⟨owner, howner, -⟩
    exact ⟨owner, howner⟩

/-- What an owner does to the keys that are shown: it changes some and asks for others to be
removed.  Keys that others own are not removed, and those it changes it takes over or nobody else
owns them; none of these is also to be removed. -/
structure Turnover (table : Ownership ρ κ) (owner : ρ) (changed requested removed taken : List κ)
    (keys : KeySet κ) : Prop where
  mem_keys : ∀ k, k ∈ keys ↔ k ∉ requested ∧ (k ∈ changed ∨ k ∈ owned table owner)
  mem_removed : ∀ k, k ∈ removed ↔ k ∈ requested ∧ ownedElsewhere table owner k = false
  of_taken : ∀ k ∈ taken, k ∈ changed
  of_changed : ∀ k ∈ changed, k ∈ taken ∨ ownedElsewhere table owner k = false
  of_both : ∀ k ∈ changed, k ∈ requested → ownedElsewhere table owner k = false

namespace Turnover

variable {table : Ownership ρ κ} {owner : ρ} {changed requested removed taken : List κ}
  {keys : KeySet κ}

/-- Afterwards others own what they have owned and what was not changed. -/
lemma owned_other (h : Turnover table owner changed requested removed taken keys) {other : ρ}
    {k : κ} (hne : other ≠ owner) :
    k ∈ Ownership.owned (takeOver table owner taken keys) other
      ↔ k ∈ Ownership.owned table other ∧ k ∉ changed := by
  rw [mem_owned_takeOver, if_neg hne]
  refine and_congr_right fun hother => ⟨fun hnot hin => ?_, fun hnot hin => hnot (h.of_taken k hin)⟩
  rcases h.of_changed k hin with htaken | hfree
  · exact hnot htaken
  · exact hne (ownedElsewhere_eq_false.mp hfree other hother)

/-- What is shown and owned stays settled. -/
theorem settled (h : Turnover table owner changed requested removed taken keys)
    {shown shown' : κ → Prop} (hsettled : Settled shown table)
    (hshown : ∀ k, shown' k ↔ k ∉ removed ∧ (k ∈ changed ∨ shown k)) :
    Settled shown' (takeOver table owner taken keys) := by
  refine ⟨hsettled.exclusive.takeOver fun k hk => ?_, fun k => ?_⟩
  · rcases ((h.mem_keys k).mp hk).2 with hchanged | hmine
    · exact h.of_changed k hchanged
    · exact .inr (ownedElsewhere_eq_false.mpr fun other hother =>
        hsettled.exclusive k other owner hother hmine)
  · rw [hshown]
    constructor
    · rintro ⟨hkept, hchanged | hbefore⟩
      · refine ⟨owner, mem_owned_takeOver.mpr ?_⟩
        rw [if_pos rfl, h.mem_keys]
        refine ⟨fun hrequested => hkept ?_, .inl hchanged⟩
        exact (h.mem_removed k).mpr ⟨hrequested, h.of_both k hchanged hrequested⟩
      · obtain ⟨other, hother⟩ := (hsettled.covers k).mp hbefore
        by_cases heq : other = owner
        · subst heq
          refine ⟨other, mem_owned_takeOver.mpr ?_⟩
          rw [if_pos rfl, h.mem_keys]
          refine ⟨fun hrequested => hkept ((h.mem_removed k).mpr ⟨hrequested, ?_⟩), .inr hother⟩
          exact ownedElsewhere_eq_false.mpr fun another hanother =>
            hsettled.exclusive k another other hanother hother
        · by_cases hchanged : k ∈ changed
          · refine ⟨owner, mem_owned_takeOver.mpr ?_⟩
            rw [if_pos rfl, h.mem_keys]
            refine ⟨fun hrequested => hkept ?_, .inl hchanged⟩
            exact (h.mem_removed k).mpr ⟨hrequested, h.of_both k hchanged hrequested⟩
          · exact ⟨other, (h.owned_other heq).mpr ⟨hother, hchanged⟩⟩
    · rintro ⟨other, hother⟩
      by_cases heq : other = owner
      · rw [mem_owned_takeOver, if_pos heq, h.mem_keys] at hother
        refine ⟨fun hremoved => hother.1 ((h.mem_removed k).mp hremoved).1, ?_⟩
        exact hother.2.imp_right fun hmine => (hsettled.covers k).mpr ⟨owner, hmine⟩
      · have hbefore := ((h.owned_other heq).mp hother).1
        refine ⟨fun hremoved => heq ?_, .inr ((hsettled.covers k).mpr ⟨other, hbefore⟩)⟩
        exact ownedElsewhere_eq_false.mp ((h.mem_removed k).mp hremoved).2 other hbefore

omit [LawfulEqOrd ρ] in
/-- An owner that replaces all its keys by some others asks for the removal of those that are not
among them. -/
lemma of_replacement [DecidableEq κ]
    (hremoved : ∀ k, k ∈ removed ↔ (k ∈ Ownership.owned table owner ∧ k ∉ changed) ∧
      ownedElsewhere table owner k = false)
    (htaken : ∀ k ∈ taken, k ∈ changed)
    (hfree : ∀ k ∈ changed, k ∈ taken ∨ ownedElsewhere table owner k = false) :
    Turnover table owner changed
      ((Ownership.owned table owner).toList.filter fun k => decide (k ∉ changed)) removed taken
      (KeySet.addAll ∅ changed) := by
  have hrequested : ∀ k, k ∈ ((Ownership.owned table owner).toList.filter fun k =>
      decide (k ∉ changed)) ↔ k ∈ Ownership.owned table owner ∧ k ∉ changed := by
    intro k
    rw [List.mem_filter, ExtTreeSet.mem_toList, decide_eq_true_eq]
  refine ⟨fun k => ?_, fun k => ?_, htaken, hfree, fun k hk hgone => ?_⟩
  · rw [KeySet.mem_addAll, hrequested]
    constructor
    · rintro (hk | hk)
      · exact ⟨fun hgone => hgone.2 hk, .inl hk⟩
      · simp at hk
    · rintro ⟨hkept, hk | hk⟩
      · exact .inl hk
      · by_contra hnot
        exact hkept ⟨hk, fun hin => hnot (.inl hin)⟩
  · rw [hrequested, hremoved]
  · exact absurd hk ((hrequested k).mp hgone).2

omit [LawfulEqOrd ρ] in
/-- An owner that changes and removes some of its keys. -/
lemma of_change
    (hremoved : ∀ k, k ∈ removed ↔ k ∈ requested ∧ ownedElsewhere table owner k = false)
    (htaken : ∀ k ∈ taken, k ∈ changed)
    (hfree : ∀ k ∈ changed, k ∈ taken ∨ ownedElsewhere table owner k = false)
    (hkept : ∀ k ∈ changed, ownedElsewhere table owner k = false ∨
      k ∈ KeySet.removeAll (KeySet.addAll (Ownership.owned table owner) changed) requested) :
    Turnover table owner changed requested removed taken
      (KeySet.removeAll (KeySet.addAll (Ownership.owned table owner) changed) requested) := by
  refine ⟨fun k => ?_, hremoved, htaken, hfree, fun k hk hrequested => ?_⟩
  · rw [KeySet.mem_removeAll, KeySet.mem_addAll, and_comm]
  · rcases hkept k hk with hfree | hown
    · exact hfree
    · exact absurd hrequested (KeySet.mem_removeAll.mp hown).2

omit [LawfulEqOrd κ] in
/-- Nothing that somebody else owns is removed. -/
lemma not_removed (h : Turnover table owner changed requested removed taken keys) {other : ρ}
    {k : κ} (hne : other ≠ owner) (hother : k ∈ Ownership.owned table other) : k ∉ removed :=
  fun hremoved =>
    hne (ownedElsewhere_eq_false.mp ((h.mem_removed k).mp hremoved).2 other hother)

end Turnover

end Ownership

end Zugfolge.Foundation
