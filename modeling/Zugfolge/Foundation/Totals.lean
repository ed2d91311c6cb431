/-
Sums over the values of a registry.
-/
import Mathlib.Data.List.Perm.Basic
import Zugfolge.Foundation.Registry

namespace Zugfolge.Foundation.Registry

open Std (ExtTreeMap)

variable {κ α : Type} [Ord κ] [Std.TransOrd κ]

/-- What the values are worth together. -/
def total (m : Registry κ α) (worth : α → Int) : Int :=
  m.values.foldr (fun a sum => worth a + sum) 0

variable {m : Registry κ α} {worth : α → Int}

omit [Ord κ] [Std.TransOrd κ] in
/-- The order of the values does not matter. -/
lemma foldr_add_perm {l l' : List α} (h : l.Perm l') :
    l.foldr (fun a sum => worth a + sum) 0 = l'.foldr (fun a sum => worth a + sum) 0 := by
  induction h with
  | nil => rfl
  | cons a _ ih => rw [List.foldr_cons, List.foldr_cons, ih]
  | swap a b l =>
    rw [List.foldr_cons, List.foldr_cons, List.foldr_cons, List.foldr_cons]
    omega
  | trans _ _ ih ih' => rw [ih, ih']

variable [Std.LawfulEqOrd κ]

/-- A new key adds what its value is worth. -/
lemma total_insert [DecidableEq κ] {k : κ} (a : α) (worth : α → Int)
    (hnew : m[k]? = none) : total (m.insert k a) worth = worth a + total m worth := by
  have hperm := values_insert_perm m k a
  rw [erase_of_none hnew] at hperm
  exact foldr_add_perm hperm

omit [Ord κ] [Std.TransOrd κ] [Std.LawfulEqOrd κ] in
lemma foldr_add_eq_zero {l : List α} (h : ∀ a ∈ l, worth a = 0) :
    l.foldr (fun a sum => worth a + sum) 0 = 0 := by
  induction l with
  | nil => rfl
  | cons a l ih =>
    obtain ⟨hfirst, hlater⟩ := List.forall_mem_cons.mp h
    rw [List.foldr_cons, hfirst, ih hlater]
    rfl

/-- A registry whose values are worth nothing is worth nothing. -/
lemma total_eq_zero (h : ∀ (k : κ) (a : α), m[k]? = some a → worth a = 0) : total m worth = 0 := by
  refine foldr_add_eq_zero fun a ha => ?_
  obtain ⟨k, hk⟩ := mem_values.mp ha
  exact h k a hk

/-! ### What is new -/

omit [Ord κ] [Std.TransOrd κ] [Std.LawfulEqOrd κ] in
/-- Two lists are worth together what they are worth. -/
lemma foldr_add_append (l l' : List α) :
    (l ++ l').foldr (fun a sum => worth a + sum) 0
      = l.foldr (fun a sum => worth a + sum) 0 + l'.foldr (fun a sum => worth a + sum) 0 := by
  induction l with
  | nil => exact (Int.zero_add _).symm
  | cons a l ih => rw [List.cons_append, List.foldr_cons, List.foldr_cons, ih, Int.add_assoc]

/-- What a registry holds beside the keys of a smaller one is worth the difference. -/
lemma worth_of_new {m m' : Registry κ α} {key : α → κ}
    (hkey : ∀ (k : κ) (a : α), m'[k]? = some a → key a = k)
    (hsub : ∀ (k : κ) (a : α), m[k]? = some a → m'[k]? = some a) :
    ((values m').filter fun a => !m.contains (key a)).foldr (fun a sum => worth a + sum) 0
      = total m' worth - total m worth := by
  have hlist : (m'.toList.filter fun entry => m.contains entry.1).Perm m.toList := by
    refine (List.perm_ext_iff_of_nodup ((nodup_toList m').filter _) (nodup_toList m)).mpr ?_
    rintro ⟨k, a⟩
    rw [List.mem_filter, mem_toList, mem_toList]
    constructor
    · rintro ⟨hin, hcontains⟩
      obtain ⟨b, hb⟩ := contains_iff.mp hcontains
      rw [hsub k b hb] at hin
      cases hin
      exact hb
    · exact fun hin => ⟨hsub k a hin, contains_iff.mpr ⟨a, hin⟩⟩
  have hold : ((values m').filter fun a => m.contains (key a)).Perm (values m) := by
    rw [values, List.filter_map]
    refine (List.Perm.of_eq (congrArg _ (List.filter_congr fun entry hentry => ?_))).trans
      (hlist.map Prod.snd)
    simp only [Function.comp]
    rw [hkey entry.1 entry.2 (mem_toList.mp hentry)]
  have hsplit := @foldr_add_perm _ worth _ _
    (List.filter_append_perm (fun a => m.contains (key a)) (values m'))
  rw [foldr_add_append, foldr_add_perm hold] at hsplit
  unfold total
  omega

/-- A new value stands somewhere between the others. -/
lemma values_insert_new [DecidableEq κ] {k : κ} (a : α) (hnew : m[k]? = none) :
    ∃ before after, values m = before ++ after ∧ values (m.insert k a) = before ++ a :: after := by
  have hin : (k, a) ∈ (m.insert k a).toList := by
    rw [mem_toList, getElem?_insert, if_pos rfl]
  obtain ⟨before, after, hlist⟩ := List.append_of_mem hin
  have hapart : (m.insert k a).toList.Pairwise fun x y => x.1 ≠ y.1 :=
    (ExtTreeMap.distinct_keys_toList (t := m.insert k a)).imp fun hne heq => hne (by rw [heq]; simp)
  have hrest : m.toList = (m.insert k a).toList.filter fun entry => decide (entry.1 ≠ k) := by
    have hsame : (m.insert k a).filter (fun j _ => decide (j ≠ k)) = m := by
      refine ExtTreeMap.ext_getElem? fun j => ?_
      rw [getElem?_filter, getElem?_insert]
      by_cases hj : j = k
      · simp [hj, hnew]
      · cases hold : m[j]? <;> simp [hj]
    exact (congrArg ExtTreeMap.toList hsame).symm.trans ExtTreeMap.toList_filter
  rw [hlist, List.pairwise_append] at hapart
  obtain ⟨-, hafter, hbefore⟩ := hapart
  have hfirst : before.filter (fun entry => decide (entry.1 ≠ k)) = before :=
    List.filter_eq_self.mpr fun x hx => decide_eq_true (hbefore x hx (k, a) List.mem_cons_self)
  have hlater : after.filter (fun entry => decide (entry.1 ≠ k)) = after :=
    List.filter_eq_self.mpr fun y hy =>
      decide_eq_true ((List.pairwise_cons.mp hafter).1 y hy).symm
  rw [hlist, List.filter_append, List.filter_cons_of_neg (by simp), hfirst, hlater] at hrest
  refine ⟨before.map Prod.snd, after.map Prod.snd, ?_, ?_⟩
  · rw [values, hrest, List.map_append]
  · rw [values, hlist, List.map_append, List.map_cons]

end Zugfolge.Foundation.Registry
