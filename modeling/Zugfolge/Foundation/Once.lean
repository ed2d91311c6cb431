/-
Handing things out once.

Things have keys, and a set remembers the keys that were handed out.  Of a list only the things
with new keys are handed out.

* `issue`: hands out the things with new keys;
* `Recorded`, `Recorded.issue`: the set says exactly what was handed out so far, each key once;
* `Recorded.count_eq_one`: a key in the set was handed out exactly once.
-/
import Mathlib.Data.List.Nodup
import Zugfolge.Foundation.Registry

namespace Zugfolge.Foundation

open Std

variable {κ α : Type} [Ord κ] [TransOrd κ] {key : α → κ}

/-- Hands out the things of a list whose keys are new, and remembers them. -/
def issue (key : α → κ) : KeySet κ → List α → List α × KeySet κ
  | issued, [] => ([], issued)
  | issued, a :: things =>
    if issued.contains (key a) then issue key issued things
    else
      let rest := issue key (issued.insert (key a)) things
      (a :: rest.1, rest.2)

variable [LawfulEqOrd κ] {issued : KeySet κ} {things handed : List α} {k : κ}

lemma mem_issued : k ∈ (issue key issued things).2 ↔ k ∈ issued ∨ k ∈ things.map key := by
  induction things generalizing issued with
  | nil => simp [issue]
  | cons a things ih =>
    rw [issue, List.map_cons, List.mem_cons]
    split
    next hold =>
      rw [ih, or_left_comm]
      refine (or_iff_right_of_imp ?_).symm
      rintro rfl
      exact .inl (ExtTreeSet.contains_iff_mem.mp hold)
    · rw [ih, KeySet.mem_insert, or_assoc, or_left_comm]

lemma mem_issue {a : α} (h : a ∈ (issue key issued things).1) : a ∈ things ∧ key a ∉ issued := by
  induction things generalizing issued with
  | nil => cases h
  | cons b things ih =>
    rw [issue] at h
    split at h
    next hold =>
      obtain ⟨hin, hnew⟩ := ih h
      exact ⟨List.mem_cons_of_mem b hin, hnew⟩
    next hnew =>
      rcases List.mem_cons.mp h with rfl | h
      · exact ⟨List.mem_cons_self, fun hold => hnew (ExtTreeSet.contains_iff_mem.mpr hold)⟩
      · obtain ⟨hin, hlater⟩ := ih h
        exact ⟨List.mem_cons_of_mem b hin, fun hold => hlater (KeySet.mem_insert.mpr (.inr hold))⟩

/-- Every new key of the list is handed out, and no key twice. -/
lemma issue_spec (key : α → κ) (issued : KeySet κ) (things : List α) :
    ((issue key issued things).1.map key).Nodup ∧
    ∀ k ∈ things.map key, k ∉ issued → k ∈ (issue key issued things).1.map key := by
  induction things generalizing issued with
  | nil => exact ⟨List.nodup_nil, fun k hk => nomatch hk⟩
  | cons a things ih =>
    rw [issue]
    split
    next hold =>
      refine ⟨(ih issued).1, fun k hk hnew => ?_⟩
      rcases List.mem_cons.mp hk with rfl | hk
      · exact absurd (ExtTreeSet.contains_iff_mem.mp hold) hnew
      · exact (ih issued).2 k hk hnew
    next hnew =>
      obtain ⟨hnodup, hall⟩ := ih (issued.insert (key a))
      refine ⟨List.nodup_cons.mpr ⟨fun hin => ?_, hnodup⟩, fun k hk hfresh => ?_⟩
      · obtain ⟨b, hb, hkey⟩ := List.mem_map.mp hin
        exact (mem_issue hb).2 (KeySet.mem_insert.mpr (.inl hkey))
      · rw [List.map_cons, List.mem_cons]
        by_cases heq : k = key a
        · exact .inl heq
        · refine .inr (hall k ((List.mem_cons.mp hk).resolve_left heq) fun hin => ?_)
          exact (KeySet.mem_insert.mp hin).elim heq hfresh

omit [LawfulEqOrd κ] in
lemma issue_old (h : ∀ a ∈ things, key a ∈ issued) : issue key issued things = ([], issued) := by
  induction things with
  | nil => rfl
  | cons a things ih =>
    obtain ⟨hfirst, hrest⟩ := List.forall_mem_cons.mp h
    rw [issue, if_pos (ExtTreeSet.contains_iff_mem.mpr hfirst), ih hrest]

/-- The set holds exactly the keys of what was handed out, and no key was handed out twice. -/
structure Recorded (key : α → κ) (issued : KeySet κ) (handed : List α) : Prop where
  nodup : (handed.map key).Nodup
  mem : ∀ k, k ∈ issued ↔ k ∈ handed.map key

omit [LawfulEqOrd κ] in
lemma recorded_empty : Recorded key ∅ [] :=
  ⟨List.nodup_nil, fun _ => iff_of_false ExtTreeSet.not_mem_empty List.not_mem_nil⟩

/-- Handing out keeps the record. -/
theorem Recorded.issue (h : Recorded key issued handed) (things : List α) :
    Recorded key (issue key issued things).2 (handed ++ (issue key issued things).1) := by
  obtain ⟨hnodup, hall⟩ := issue_spec key issued things
  constructor
  · rw [List.map_append, List.nodup_append]
    refine ⟨h.nodup, hnodup, fun k hk j hj heq => ?_⟩
    obtain ⟨a, ha, rfl⟩ := List.mem_map.mp hj
    exact (mem_issue ha).2 ((h.mem _).mpr (heq ▸ hk))
  · intro k
    rw [mem_issued, h.mem, List.map_append, List.mem_append]
    constructor
    · rintro (hk | hk)
      · exact .inl hk
      · by_cases hold : k ∈ issued
        · exact .inl ((h.mem k).mp hold)
        · exact .inr (hall k hk hold)
    · rintro (hk | hk)
      · exact .inl hk
      · obtain ⟨a, ha, rfl⟩ := List.mem_map.mp hk
        exact .inr (List.mem_map_of_mem (mem_issue ha).1)

omit [LawfulEqOrd κ] in
/-- What the set remembers was handed out exactly once. -/
theorem Recorded.count_eq_one [DecidableEq κ] (h : Recorded key issued handed) (hk : k ∈ issued) :
    (handed.map key).count k = 1 :=
  List.count_eq_one_of_mem h.nodup ((h.mem k).mp hk)

end Zugfolge.Foundation
