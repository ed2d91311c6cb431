/-
Ordered registries and key sets.

Finite maps and finite sets over an ordered key type, iterated in key order, are
taken from the standard library (`ExtTreeMap`, `ExtTreeSet`).  This module adds the
operations that programs over ordered maps use besides lookup, insertion and erasure.
-/
import Mathlib.Tactic.Common
import Mathlib.Data.Set.Basic
import Std.Data.ExtTreeMap
import Std.Data.ExtTreeSet

namespace Zugfolge.Foundation

open Std

/-- Keys that are told by a first part and the rest are told by comparing one after the other. -/
lemma lawfulEq_of_lex {α β : Type} [Ord β] [LawfulEqOrd β] {first : α → β}
    {rest : α → α → Ordering} [ReflCmp rest]
    (h : ∀ a b, first a = first b → rest a b = .eq → a = b) :
    LawfulEqCmp (compareLex (compareOn first) rest) where
  eq_of_compare {a b} heq := by
    obtain ⟨hfirst, hrest⟩ := compareLex_eq_eq.mp heq
    exact h a b (Std.compare_eq_iff_eq.mp hfirst) hrest

/-- A finite map over an ordered key type. -/
abbrev Registry (κ α : Type) [Ord κ] : Type := ExtTreeMap κ α compare

abbrev KeySet (κ : Type) [Ord κ] : Type := ExtTreeSet κ compare

namespace KeySet

variable {κ : Type} [Ord κ] [TransOrd κ]

/-- The two sets have no key in common. -/
def disjoint (a b : KeySet κ) : Bool := a.toList.all fun k => !b.contains k

/-- Every key of `a` is a key of `b`. -/
def subset (a b : KeySet κ) : Bool := a.toList.all fun k => b.contains k

/-- The keys of a set as a mathematical set. -/
def toSet (a : KeySet κ) : Set κ := {k | k ∈ a}

variable {a b : KeySet κ} {k : κ}

@[simp] lemma mem_toSet : k ∈ a.toSet ↔ k ∈ a := Iff.rfl

variable [LawfulEqOrd κ]

lemma disjoint_iff : a.disjoint b = true ↔ ∀ k ∈ a, k ∉ b := by
  simp [disjoint, List.all_eq_true, ExtTreeSet.mem_toList, ← ExtTreeSet.contains_iff_mem]

lemma not_disjoint_iff : a.disjoint b = false ↔ ∃ k ∈ a, k ∈ b := by
  rw [← Bool.not_eq_true, disjoint_iff]
  push Not
  rfl

lemma subset_iff : a.subset b = true ↔ ∀ k ∈ a, k ∈ b := by
  simp [subset, List.all_eq_true, ExtTreeSet.mem_toList, ← ExtTreeSet.contains_iff_mem]

@[simp] lemma mem_ofList {l : List κ} : k ∈ ExtTreeSet.ofList l compare ↔ k ∈ l := by
  classical
  rw [ExtTreeSet.mem_ofList]
  simp

lemma mem_insert {k j : κ} : j ∈ a.insert k ↔ j = k ∨ j ∈ a := by
  rw [ExtTreeSet.mem_insert, Std.compare_eq_iff_eq, eq_comm]

lemma mem_erase {k j : κ} : j ∈ a.erase k ↔ j ∈ a ∧ j ≠ k := by
  rw [ExtTreeSet.mem_erase, Ne, Std.compare_eq_iff_eq, and_comm, eq_comm]

lemma mem_filter {p : κ → Bool} : k ∈ a.filter p ↔ k ∈ a ∧ p k = true := by
  rw [ExtTreeSet.mem_filter]
  simp

lemma nodup_toList (a : KeySet κ) : a.toList.Nodup :=
  (ExtTreeSet.distinct_toList (t := a)).imp fun hne heq => hne (compare_eq_iff_eq.mpr heq)

lemma sorted_toList (a : KeySet Int) : a.toList.Pairwise (· < ·) :=
  (ExtTreeSet.ordered_toList (t := a)).imp Std.compare_eq_lt.mp

lemma toList_perm_cons [DecidableEq κ] (h : k ∈ a) :
    a.toList.Perm (k :: (a.erase k).toList) := by
  rw [List.perm_ext_iff_of_nodup (nodup_toList a)]
  · intro j
    rw [List.mem_cons, ExtTreeSet.mem_toList, ExtTreeSet.mem_toList, mem_erase]
    by_cases hj : j = k
    · subst hj
      simp [h]
    · simp [hj]
  · rw [List.nodup_cons, ExtTreeSet.mem_toList, mem_erase]
    exact ⟨fun hin => hin.2 rfl, nodup_toList _⟩

/-- The sum of weights of the members. -/
def weigh (a : KeySet κ) (w : κ → ℕ) : ℕ := a.toList.foldr (fun k total => w k + total) 0

lemma weigh_erase [DecidableEq κ] (h : k ∈ a) (w : κ → ℕ) :
    weigh a w = w k + weigh (a.erase k) w := by
  have hperm := (toList_perm_cons h).foldr_eq' (f := fun (k : κ) (total : ℕ) => w k + total)
    (fun i _ j _ total => Nat.add_left_comm (w j) (w i) total) 0
  rw [weigh, hperm, List.foldr_cons, weigh]

lemma weigh_insert_le [DecidableEq κ] (a : KeySet κ) (k : κ) (w : κ → ℕ) :
    weigh (a.insert k) w ≤ w k + weigh a w := by
  have hin : k ∈ a.insert k := mem_insert.mpr (.inl rfl)
  have herase : ((a.insert k).erase k) = a.erase k := by
    refine ExtTreeSet.ext_mem fun j => ?_
    rw [mem_erase, mem_erase, mem_insert]
    constructor
    · rintro ⟨rfl | hj, hne⟩
      · exact absurd rfl hne
      · exact ⟨hj, hne⟩
    · rintro ⟨hj, hne⟩
      exact ⟨.inr hj, hne⟩
  rw [weigh_erase hin, herase]
  by_cases hk : k ∈ a
  · rw [weigh_erase hk]
    omega
  · have hsame : a.erase k = a := by
      refine ExtTreeSet.ext_mem fun j => ?_
      rw [mem_erase]
      exact ⟨fun hj => hj.1, fun hj => ⟨hj, fun heq => hk (heq ▸ hj)⟩⟩
    rw [hsame]

end KeySet

namespace Registry

variable {κ α : Type} [Ord κ] [TransOrd κ]

/-- The values in key order. -/
def values (m : Registry κ α) : List α := m.toList.map Prod.snd

/-- Some value satisfies `p`. -/
def anyValue (m : Registry κ α) (p : α → Bool) : Bool := m.toList.any fun e => p e.2

/-- Every value satisfies `p`. -/
def allValues (m : Registry κ α) (p : α → Bool) : Bool := m.toList.all fun e => p e.2

/-- Writes `v` at every key of the list. -/
def fill (m : Registry κ α) (ks : List κ) (v : α) : Registry κ α :=
  ks.foldl (fun acc k => acc.insert k v) m

/-- Erases every key of the list. -/
def eraseAll (m : Registry κ α) (ks : List κ) : Registry κ α :=
  ks.foldl (fun acc k => acc.erase k) m

lemma getElem?_union (m n : Registry κ α) (j : κ) : (m ∪ n)[j]? = (n[j]?).or m[j]? :=
  ExtTreeMap.getElem?_union

variable {a : α} {k : κ} {m : Registry κ α} {p : α → Bool} {β : Type}

lemma contains_iff : m.contains k = true ↔ ∃ a, m[k]? = some a := by
  rw [ExtTreeMap.contains_eq_isSome_getElem?, Option.isSome_iff_exists]

lemma contains_eq_false : m.contains k = false ↔ m[k]? = none := by
  rw [ExtTreeMap.contains_eq_isSome_getElem?, Option.isSome_eq_false_iff, Option.isNone_iff_eq_none]

variable [LawfulEqOrd κ]

lemma mem_toList : (k, a) ∈ m.toList ↔ m[k]? = some a :=
  ExtTreeMap.mem_toList_iff_getElem?_eq_some

lemma mem_values : a ∈ values m ↔ ∃ k : κ, m[k]? = some a := by
  simp [values]

lemma anyValue_iff :
    anyValue m p = true ↔ ∃ (k : κ) (a : α), m[k]? = some a ∧ p a = true := by
  simp [anyValue, List.any_eq_true]

lemma anyValue_eq_false :
    anyValue m p = false ↔ ∀ (k : κ) (a : α), m[k]? = some a → p a = false := by
  rw [← Bool.not_eq_true, anyValue_iff]
  simp

lemma allValues_iff :
    allValues m p = true ↔ ∀ (k : κ) (a : α), m[k]? = some a → p a = true := by
  simp [allValues, List.all_eq_true]

@[simp] lemma getElem?_insert [DecidableEq κ] (m : Registry κ α) (k j : κ) (v : α) :
    (m.insert k v)[j]? = if j = k then some v else m[j]? := by
  rw [ExtTreeMap.getElem?_insert]
  by_cases h : j = k
  · simp [h]
  · simp [h, Ne.symm h]

@[simp] lemma getElem?_insertIfNew [DecidableEq κ] (m : Registry κ α) (k j : κ) (v : α) :
    (m.insertIfNew k v)[j]? = if j = k then some ((m[k]?).getD v) else m[j]? := by
  rw [ExtTreeMap.getElem?_insertIfNew]
  by_cases h : j = k
  · subst h
    cases hj : m[j]? with
    | none =>
      have hnot : j ∉ m := by
        rw [ExtTreeMap.mem_iff_isSome_getElem?, hj]
        simp
      simp [hnot]
    | some a =>
      have hin : j ∈ m := by
        rw [ExtTreeMap.mem_iff_isSome_getElem?, hj]
        rfl
      simp [hin]
  · simp [h, Ne.symm h]

@[simp] lemma getElem?_erase [DecidableEq κ] (m : Registry κ α) (k j : κ) :
    (m.erase k)[j]? = if j = k then none else m[j]? := by
  rw [ExtTreeMap.getElem?_erase]
  by_cases h : j = k
  · simp [h]
  · simp [h, Ne.symm h]

@[simp] lemma getElem?_modify [DecidableEq κ] (m : Registry κ α) (k j : κ) (f : α → α) :
    (m.modify k f)[j]? = if j = k then m[k]?.map f else m[j]? := by
  rw [ExtTreeMap.getElem?_modify]
  by_cases h : j = k
  · simp [h]
  · simp [h, Ne.symm h]

@[simp] lemma getElem?_fill [DecidableEq κ] (m : Registry κ α) (ks : List κ) (v : α) (j : κ) :
    (fill m ks v)[j]? = if j ∈ ks then some v else m[j]? := by
  induction ks generalizing m with
  | nil => simp [fill]
  | cons k ks ih =>
    have h : fill m (k :: ks) v = fill (m.insert k v) ks v := rfl
    rw [h, ih, getElem?_insert]
    by_cases h1 : j ∈ ks
    · simp [h1]
    · simp [h1]

@[simp] lemma getElem?_eraseAll [DecidableEq κ] (m : Registry κ α) (ks : List κ) (j : κ) :
    (eraseAll m ks)[j]? = if j ∈ ks then none else m[j]? := by
  induction ks generalizing m with
  | nil => simp [eraseAll]
  | cons k ks ih =>
    have h : eraseAll m (k :: ks) = eraseAll (m.erase k) ks := rfl
    rw [h, ih, getElem?_erase]
    by_cases h1 : j ∈ ks
    · simp [h1]
    · simp [h1]

@[simp] lemma getElem?_filter (m : Registry κ α) (p : κ → α → Bool) (j : κ) :
    (m.filter p)[j]? = m[j]?.filter (p j) :=
  ExtTreeMap.getElem?_filter'

/-- Writing one value at the keys of many sets writes it at every key of one of them. -/
lemma getElem?_foldl_fill [DecidableEq κ] (l : List β) (keys : β → KeySet κ) (v : α)
    (m : Registry κ α) (j : κ) :
    (l.foldl (fun acc b => fill acc (keys b).toList v) m)[j]?
      = if l.any fun b => (keys b).contains j then some v else m[j]? := by
  induction l generalizing m with
  | nil => simp
  | cons b l ih =>
    rw [List.foldl_cons, ih, getElem?_fill]
    by_cases hb : j ∈ keys b
    · simp [hb]
    · simp [hb]

/-- Writing all entries of a registry over another one. -/
lemma getElem?_foldl_insert [DecidableEq κ] (n m : Registry κ α) (j : κ) :
    (n.toList.foldl (fun acc entry => acc.insert entry.1 entry.2) m)[j]? = (n[j]?).or m[j]? := by
  have hlist : ∀ (entries : List (κ × α)) (m : Registry κ α),
      entries.Pairwise (fun a b => a.1 ≠ b.1) →
      (entries.foldl (fun acc entry => acc.insert entry.1 entry.2) m)[j]?
        = ((entries.find? fun entry => decide (entry.1 = j)).map Prod.snd).or m[j]? := by
    intro entries
    induction entries with
    | nil => simp
    | cons entry entries ih =>
      intro m hdistinct
      rw [List.pairwise_cons] at hdistinct
      rw [List.foldl_cons, ih _ hdistinct.2, getElem?_insert]
      by_cases hsame : entry.1 = j
      · have hrest : entries.find? (fun e => decide (e.1 = j)) = none := by
          rw [List.find?_eq_none]
          intro other hin heq
          exact hdistinct.1 other hin (hsame.trans (of_decide_eq_true heq).symm)
        simp [hsame, hrest]
      · simp [hsame, Ne.symm hsame]
  have hdistinct : n.toList.Pairwise fun a b => a.1 ≠ b.1 :=
    (ExtTreeMap.distinct_keys_toList (t := n)).imp fun hne heq => hne (compare_eq_iff_eq.mpr heq)
  rw [hlist _ _ hdistinct]
  congr 1
  cases hfind : n.toList.find? fun entry => decide (entry.1 = j) with
  | some entry =>
    have hin := List.mem_of_find?_eq_some hfind
    have hkey : entry.1 = j := by simpa using List.find?_some hfind
    rw [Option.map_some, ← hkey]
    exact (mem_toList.mp hin).symm
  | none =>
    rw [Option.map_none]
    refine (Option.eq_none_iff_forall_ne_some.mpr fun a ha => ?_).symm
    have hnone := List.find?_eq_none.mp hfind (j, a) (mem_toList.mpr ha)
    simp at hnone

/-- What stands under a key of an index was filed there by an object of the list, or stood
there before. -/
lemma getElem?_index_some [DecidableEq κ] {key : β → κ} {value : β → α} {l : List β} {v : α}
    (h : (l.foldl (fun index b => index.insert (key b) (value b)) m)[k]? = some v) :
    m[k]? = some v ∨ ∃ b ∈ l, key b = k ∧ value b = v := by
  induction l generalizing m with
  | nil => exact .inl h
  | cons b l ih =>
    rcases ih h with hbefore | ⟨c, hc, hkey, hvalue⟩
    · rw [getElem?_insert] at hbefore
      split at hbefore
      next heq => exact .inr ⟨b, List.mem_cons_self, heq.symm, Option.some.inj hbefore⟩
      · exact .inl hbefore
    · exact .inr ⟨c, List.mem_cons_of_mem b hc, hkey, hvalue⟩

/-- Nothing stands under a key of an index if no object of the list has the key. -/
lemma getElem?_index_none [DecidableEq κ] {key : β → κ} {value : β → α} {l : List β} :
    (l.foldl (fun index b => index.insert (key b) (value b)) m)[k]? = none
      ↔ m[k]? = none ∧ ∀ b ∈ l, key b ≠ k := by
  induction l generalizing m with
  | nil => simp
  | cons b l ih =>
    rw [List.foldl_cons, ih, getElem?_insert, List.forall_mem_cons]
    by_cases heq : k = key b
    · simp [heq]
    · simp [heq, Ne.symm heq]

lemma nodup_toList (m : Registry κ α) : m.toList.Nodup :=
  (ExtTreeMap.distinct_keys_toList (t := m)).imp fun hne heq => hne (by rw [heq]; simp)

lemma sorted_toList (m : Registry Int β) : m.toList.Pairwise fun a b => a.1 < b.1 :=
  (ExtTreeMap.ordered_keys_toList (t := m)).imp Std.compare_eq_lt.mp

lemma toList_perm_cons [DecidableEq κ] (h : m[k]? = some a) :
    m.toList.Perm ((k, a) :: (m.erase k).toList) := by
  rw [List.perm_ext_iff_of_nodup (nodup_toList m)]
  · rintro ⟨j, b⟩
    rw [List.mem_cons, mem_toList, mem_toList, getElem?_erase, Prod.mk.injEq]
    by_cases hj : j = k
    · subst hj
      simp [h, eq_comm]
    · simp [hj]
  · rw [List.nodup_cons, mem_toList, getElem?_erase]
    exact ⟨by simp, nodup_toList _⟩

/-- After an insertion the entries are the new one and those of the other keys. -/
lemma toList_insert_perm [DecidableEq κ] (m : Registry κ α) (k : κ) (a : α) :
    (m.insert k a).toList.Perm ((k, a) :: (m.erase k).toList) := by
  have herase : (m.insert k a).erase k = m.erase k := by
    refine ExtTreeMap.ext_getElem? fun j => ?_
    rw [getElem?_erase, getElem?_erase, getElem?_insert]
    split
    · rfl
    · rfl
  rw [← herase]
  exact toList_perm_cons (by simp)

lemma erase_of_none [DecidableEq κ] (h : m[k]? = none) :
    m.erase k = m := by
  refine ExtTreeMap.ext_getElem? fun j => ?_
  rw [getElem?_erase]
  split
  next heq => rw [heq, h]
  · rfl

lemma values_perm_cons [DecidableEq κ] (h : m[k]? = some a) :
    (values m).Perm (a :: values (m.erase k)) := (toList_perm_cons h).map Prod.snd

lemma values_insert_perm [DecidableEq κ] (m : Registry κ α) (k : κ) (a : α) :
    (values (m.insert k a)).Perm (a :: values (m.erase k)) := (toList_insert_perm m k a).map _

/-- A new entry stands between those of the other keys. -/
lemma exists_toList_insert [DecidableEq κ] (h : m[k]? = none) (a : α) :
    ∃ first second, m.toList = first ++ second
      ∧ (m.insert k a).toList = first ++ (k, a) :: second := by
  obtain ⟨first, second, hsplit⟩ := List.append_of_mem
    (mem_toList.mpr (show (m.insert k a)[k]? = some a by simp))
  refine ⟨first, second, ?_, hsplit⟩
  have hperm : m.toList.Perm (first ++ second) := by
    have hinsert := toList_insert_perm m k a
    rw [erase_of_none h, hsplit] at hinsert
    exact (List.perm_cons _).mp (hinsert.symm.trans List.perm_middle)
  have hsorted : ∀ t : Registry κ α, t.toList.Pairwise fun a b => compare a.1 b.1 = .lt :=
    fun t => ExtTreeMap.ordered_keys_toList (t := t)
  have hrest : (first ++ second).Pairwise fun a b => compare a.1 b.1 = .lt := by
    have hall := hsorted (m.insert k a)
    rw [hsplit] at hall
    exact hall.sublist ((List.sublist_cons_self _ _).append_left first)
  refine hperm.eq_of_pairwise ?_ (hsorted m) hrest
  intro x y _ _ hxy hyx
  exact absurd (TransCmp.lt_trans hxy hyx) (by simp)

/-- A new value stands between those of the other keys. -/
lemma exists_values_insert [DecidableEq κ] (h : m[k]? = none) (a : α) :
    ∃ first second, values m = first ++ second ∧ values (m.insert k a) = first ++ a :: second := by
  obtain ⟨first, second, hsame, hinsert⟩ := exists_toList_insert h a
  refine ⟨first.map Prod.snd, second.map Prod.snd, ?_, ?_⟩
  · rw [values, hsame, List.map_append]
  · rw [values, hinsert, List.map_append, List.map_cons]

/-- Values that are left out may be written. -/
lemma filter_values_insert [DecidableEq κ]
    (hnew : p a = false) (hold : ∀ old, m[k]? = some old → p old = false) :
    (values (m.insert k a)).filter p = (values m).filter p := by
  have herased : ∀ b : α, p b = false →
      (values ((m.erase k).insert k b)).filter p = (values (m.erase k)).filter p := by
    intro b hb
    have hnone : (m.erase k)[k]? = none := by simp
    obtain ⟨first, second, hbefore, hafter⟩ := exists_values_insert hnone b
    rw [hbefore, hafter, List.filter_append, List.filter_append,
      List.filter_cons_of_neg (by simp [hb])]
  have hinsert : ∀ b : α, (m.erase k).insert k b = m.insert k b := by
    intro b
    refine Std.ExtTreeMap.ext_getElem? fun j => ?_
    by_cases hj : j = k
    · simp [hj]
    · simp [Registry.getElem?_insert, Std.ExtTreeMap.getElem?_erase, hj, Ne.symm hj]
  rw [← hinsert, herased a hnew]
  cases hk : m[k]? with
  | none => rw [erase_of_none hk]
  | some old =>
    have hput : m.insert k old = m := by
      refine Std.ExtTreeMap.ext_getElem? fun j => ?_
      rw [getElem?_insert]
      split
      case isTrue heq => rw [heq, hk]
      case isFalse => rfl
    rw [← herased old (hold old hk), hinsert, hput]

omit [LawfulEqOrd κ] in
lemma any_values (m : Registry κ α) (p : α → Bool) : (values m).any p = anyValue m p := by
  rw [values, anyValue, List.any_map]
  rfl

/-! ### Indexes from keys to key sets -/

variable {ι : Type} [Ord ι] [TransOrd ι]

/-- Adds the member `i` to the set under `k`. -/
def addMember (m : Registry κ (KeySet ι)) (k : κ) (i : ι) : Registry κ (KeySet ι) :=
  m.insert k (((m[k]?).getD ∅).insert i)

/-- Adds the member `i` to the set under each of the keys. -/
def addMemberAll (m : Registry κ (KeySet ι)) (ks : List κ) (i : ι) : Registry κ (KeySet ι) :=
  ks.foldl (fun acc k => addMember acc k i) m

/-- Removes the members that satisfy `p` from every set and drops the sets left empty. -/
def dropMembers (m : Registry κ (KeySet ι)) (p : ι → Bool) : Registry κ (KeySet ι) :=
  m.filterMap fun _ s => if (s.filter fun i => !p i).isEmpty then none
    else some (s.filter fun i => !p i)

/-- Removes the member `i` from every set and drops the sets left empty. -/
def dropMember [DecidableEq ι] (m : Registry κ (KeySet ι)) (i : ι) : Registry κ (KeySet ι) :=
  dropMembers m (· == i)

end Registry

end Zugfolge.Foundation
