/-
Half-open intervals and the load they put on an instant.

An interval is a pair of a start and an end over a linear order.  It contains its start
and not its end, so an interval that starts where another one ends does not meet it.

* `sweep`, `sweep_eq_some`, `sweep_eq_none`: the walk along the sorted changes;
* `firstOverload`, `firstOverload_eq_some`, `firstOverload_eq_none_iff`: the first span
  over which a list of intervals exceeds a bound.
-/
import Mathlib.Tactic.Linarith
import Mathlib.Data.List.Sort
import Mathlib.Data.Prod.Lex
import Mathlib.Algebra.BigOperators.Group.List.Lemmas

namespace Zugfolge.Foundation

variable {τ : Type} [LinearOrder τ]

/-! ### Intervals that meet -/

/-- The interval contains the instant. -/
def Covers (i : τ × τ) (t : τ) : Prop := i.1 ≤ t ∧ t < i.2

instance (i : τ × τ) (t : τ) : Decidable (Covers i t) :=
  inferInstanceAs (Decidable (i.1 ≤ t ∧ t < i.2))

/-- Each of the two intervals starts before the other one ends. -/
def Overlaps (a b : τ × τ) : Prop := a.1 < b.2 ∧ b.1 < a.2

instance (a b : τ × τ) : Decidable (Overlaps a b) :=
  inferInstanceAs (Decidable (a.1 < b.2 ∧ b.1 < a.2))

variable {a b : τ × τ} {bound : ℤ} {l : List (τ × τ)} {t : τ}

lemma Overlaps.symm (h : Overlaps a b) : Overlaps b a := ⟨h.2, h.1⟩

lemma overlaps_comm : Overlaps a b ↔ Overlaps b a := ⟨.symm, .symm⟩

lemma overlaps_of_covers (ha : Covers a t) (hb : Covers b t) :
    Overlaps a b :=
  ⟨lt_of_le_of_lt ha.1 hb.2, lt_of_le_of_lt hb.1 ha.2⟩

lemma not_covers_of_not_overlaps (h : ¬ Overlaps a b) (t : τ) :
    ¬ (Covers a t ∧ Covers b t) := by
  rintro ⟨ha, hb⟩
  exact h (overlaps_of_covers ha hb)

/-- Two intervals that are not empty and overlap have an instant in common. -/
lemma Overlaps.exists_covers (h : Overlaps a b) (ha : a.1 < a.2)
    (hb : b.1 < b.2) : ∃ t, Covers a t ∧ Covers b t := by
  refine ⟨max a.1 b.1, ⟨le_max_left _ _, ?_⟩, ⟨le_max_right _ _, ?_⟩⟩
  · exact max_lt ha h.2
  · exact max_lt h.1 hb

/-- The common part of two intervals. -/
def cut (a b : τ × τ) : τ × τ := (max a.1 b.1, min a.2 b.2)

lemma covers_cut : Covers (cut a b) t ↔ Covers a t ∧ Covers b t := by
  rw [cut, Covers, Covers, Covers, max_le_iff, lt_min_iff]
  exact and_and_and_comm

lemma cut_nonempty (ha : a.1 < a.2) (hb : b.1 < b.2) (h : Overlaps a b) :
    (cut a b).1 < (cut a b).2 :=
  max_lt (lt_min ha h.1) (lt_min h.2 hb)

/-! ### Load -/

/-- How many intervals of the list contain the instant. -/
def load (l : List (τ × τ)) (t : τ) : ℕ := l.countP fun i => decide (Covers i t)

@[simp] lemma load_nil (t : τ) : load ([] : List (τ × τ)) t = 0 := rfl

lemma load_cons (i : τ × τ) (l : List (τ × τ)) (t : τ) :
    load (i :: l) t = load l t + if Covers i t then 1 else 0 := by
  rw [load, load, List.countP_cons]
  simp only [decide_eq_true_eq]

lemma load_singleton {i : τ × τ} (h : Covers i t) : load [i] t = 1 := by
  rw [load_cons, load_nil, if_pos h]

lemma load_eq_zero_iff : load l t = 0 ↔ ∀ i ∈ l, ¬ Covers i t := by
  simp [load, List.countP_eq_zero]

lemma load_append (l m : List (τ × τ)) (t : τ) : load (l ++ m) t = load l t + load m t :=
  List.countP_append

lemma load_pos_iff :
    0 < load l t ↔ ∃ i ∈ l, Covers i t := by
  simp [load, List.countP_pos_iff]

/-! ### Changes -/

/-- The two changes an interval makes: one more from its start, one less from its end. -/
def edges (i : τ × τ) : List (τ × ℤ) := [(i.1, 1), (i.2, -1)]

/-- The sum of all changes up to an instant. -/
def level (changes : List (τ × ℤ)) (t : τ) : ℤ :=
  (changes.map fun c => if c.1 ≤ t then c.2 else 0).sum

@[simp] lemma level_nil (t : τ) : level ([] : List (τ × ℤ)) t = 0 := rfl

@[simp] lemma level_cons (c : τ × ℤ) (l : List (τ × ℤ)) (t : τ) :
    level (c :: l) t = (if c.1 ≤ t then c.2 else 0) + level l t := by
  simp [level]

lemma level_append (l m : List (τ × ℤ)) (t : τ) : level (l ++ m) t = level l t + level m t := by
  simp [level]

lemma level_perm {l m : List (τ × ℤ)} (h : l.Perm m) (t : τ) : level l t = level m t :=
  (h.map _).sum_eq

/-- Before all changes the level is zero. -/
lemma level_eq_zero {l : List (τ × ℤ)} (h : ∀ c ∈ l, t < c.1) : level l t = 0 := by
  induction l with
  | nil => rfl
  | cons c l ih =>
    have hc : ¬ c.1 ≤ t := not_le.mpr (h c List.mem_cons_self)
    rw [level_cons, if_neg hc, ih fun d hd => h d (List.mem_cons_of_mem c hd), zero_add]

/-- The level of the edges of a list of intervals is the load of the list. -/
lemma level_flatMap_edges (h : ∀ i ∈ l, i.1 ≤ i.2) (t : τ) :
    level (l.flatMap edges) t = load l t := by
  induction l with
  | nil => rfl
  | cons i l ih =>
    have hi : i.1 ≤ i.2 := h i List.mem_cons_self
    have hl := ih fun j hj => h j (List.mem_cons_of_mem i hj)
    rw [List.flatMap_cons, level_append, hl, load_cons, edges]
    simp only [level_cons, level_nil, Covers]
    by_cases h1 : i.1 ≤ t
    · by_cases h2 : i.2 ≤ t
      · simp [h1, h2, not_lt.mpr h2]
      · simp only [h1, h2, not_le.mp h2, if_true, if_false, and_self]
        push_cast
        omega
    · have h2 : ¬ i.2 ≤ t := fun h2 => h1 (hi.trans h2)
      simp [h1, h2]

/-! ### The walk along the changes -/

/-- Adds up the changes one after another and stops at the first span between two changes
over which the sum exceeds the bound. -/
def sweep (bound : ℤ) : ℤ → List (τ × ℤ) → Option (τ × τ)
  | occupied, (startsAt, change) :: (endsAt, next) :: rest =>
    if bound < occupied + change ∧ startsAt < endsAt then some (startsAt, endsAt)
    else sweep bound (occupied + change) ((endsAt, next) :: rest)
  | _, _ => none

/-- The changes are in the order of their instants. -/
def Sorted (l : List (τ × ℤ)) : Prop := l.Pairwise fun c d => c.1 ≤ d.1

/-- A span the walk stops at is a span between two changes over which the level exceeds
the bound. -/
theorem sweep_eq_some {l : List (τ × ℤ)} (hsorted : Sorted l) :
    ∀ {occupied : ℤ} {a b : τ}, sweep bound occupied l = some (a, b) →
      a < b ∧ (∃ c ∈ l, c.1 = a) ∧ (∃ c ∈ l, c.1 = b) ∧
        ∀ t, a ≤ t → t < b → bound < occupied + level l t := by
  induction l with
  | nil =>
    intro occupied a b h
    cases h
  | cons c l ih =>
    intro occupied a b h
    obtain ⟨hhead, htail⟩ := List.pairwise_cons.mp hsorted
    cases l with
    | nil => cases h
    | cons d l =>
      rw [sweep] at h
      split at h
      next hstop =>
        cases h
        refine ⟨hstop.2, ⟨c, by simp⟩, ⟨d, by simp⟩, fun t hat htb => ?_⟩
        have hlater : ∀ e ∈ d :: l, t < e.1 := by
          intro e he
          rcases List.mem_cons.mp he with rfl | he
          · exact htb
          · exact lt_of_lt_of_le htb ((List.pairwise_cons.mp htail).1 e he)
        rw [level_cons, if_pos hat, level_eq_zero hlater, add_zero]
        exact hstop.1
      next =>
        obtain ⟨hab, ⟨e, he, hea⟩, ⟨f, hf, hfb⟩, hlevel⟩ := ih htail h
        refine ⟨hab, ⟨e, List.mem_cons_of_mem c he, hea⟩,
          ⟨f, List.mem_cons_of_mem c hf, hfb⟩, fun t hat htb => ?_⟩
        have hct : c.1 ≤ t := ((hhead e he).trans hea.le).trans hat
        rw [level_cons, if_pos hct, ← add_assoc]
        exact hlevel t hat htb

/-- A walk that does not stop has met the bound at every instant between two changes. -/
theorem sweep_eq_none {l : List (τ × ℤ)} (hsorted : Sorted l) :
    ∀ {occupied : ℤ}, sweep bound occupied l = none →
      ∀ t, (∃ c ∈ l, c.1 ≤ t) → (∃ c ∈ l, t < c.1) → occupied + level l t ≤ bound := by
  induction l with
  | nil =>
    intro occupied _ t hbefore _
    obtain ⟨c, hc, _⟩ := hbefore
    cases hc
  | cons c l ih =>
    intro occupied h t hbefore hafter
    obtain ⟨hhead, htail⟩ := List.pairwise_cons.mp hsorted
    have hct : c.1 ≤ t := by
      obtain ⟨e, he, het⟩ := hbefore
      rcases List.mem_cons.mp he with rfl | he
      · exact het
      · exact (hhead e he).trans het
    obtain ⟨f, hf, htf⟩ : ∃ f ∈ l, t < f.1 := by
      obtain ⟨f, hf, htf⟩ := hafter
      rcases List.mem_cons.mp hf with rfl | hf
      · exact absurd hct (not_le.mpr htf)
      · exact ⟨f, hf, htf⟩
    cases l with
    | nil => cases hf
    | cons d l =>
      rw [sweep] at h
      split at h
      next => cases h
      next hgo =>
        rw [level_cons, if_pos hct]
        by_cases hdt : d.1 ≤ t
        · rw [← add_assoc]
          exact ih htail h t ⟨d, List.mem_cons_self, hdt⟩ ⟨f, hf, htf⟩
        · have hlater : ∀ e ∈ d :: l, t < e.1 := by
            intro e he
            rcases List.mem_cons.mp he with rfl | he
            · exact not_le.mp hdt
            · exact lt_of_lt_of_le (not_le.mp hdt) ((List.pairwise_cons.mp htail).1 e he)
          rw [level_eq_zero hlater, add_zero]
          have hspan : c.1 < d.1 := lt_of_le_of_lt hct (not_le.mp hdt)
          exact not_lt.mp fun hover => hgo ⟨hover, hspan⟩

/-! ### Overload -/

/-- Changes in the order of their instants, falls before rises. -/
def changesLe (c d : τ × ℤ) : Prop := toLex c ≤ toLex d

instance : DecidableRel (changesLe (τ := τ)) := fun c d =>
  inferInstanceAs (Decidable (toLex c ≤ toLex d))

instance : IsTrans (τ × ℤ) changesLe := ⟨fun _ _ _ h k => le_trans (α := τ ×ₗ ℤ) h k⟩

instance : Std.Total (α := τ × ℤ) changesLe := ⟨fun c d => le_total (toLex c) (toLex d)⟩

/-- The changes of a list of intervals, sorted. -/
def sortedEdges (l : List (τ × τ)) : List (τ × ℤ) := (l.flatMap edges).insertionSort changesLe

/-- The first span over which more intervals of the list lie than the bound allows. -/
def firstOverload (l : List (τ × τ)) (bound : ℤ) : Option (τ × τ) := sweep bound 0 (sortedEdges l)

lemma sorted_sortedEdges (l : List (τ × τ)) : Sorted (sortedEdges l) := by
  refine (List.pairwise_insertionSort changesLe (l.flatMap edges)).imp fun {c d} h => ?_
  rcases Prod.Lex.toLex_le_toLex.mp h with hlt | ⟨heq, _⟩
  · exact hlt.le
  · exact heq.le

lemma level_sortedEdges (h : ∀ i ∈ l, i.1 ≤ i.2) (t : τ) :
    level (sortedEdges l) t = load l t := by
  rw [sortedEdges, level_perm (List.perm_insertionSort changesLe _), level_flatMap_edges h]

lemma mem_sortedEdges {c : τ × ℤ} :
    c ∈ sortedEdges l ↔ ∃ i ∈ l, c = (i.1, 1) ∨ c = (i.2, -1) := by
  simp [sortedEdges, edges]

/-- Over the span found, more intervals lie than the bound allows. -/
theorem firstOverload_eq_some {a b : τ}
    (hvalid : ∀ i ∈ l, i.1 ≤ i.2) (h : firstOverload l bound = some (a, b)) :
    a < b ∧ ∀ t, Covers (a, b) t → bound < load l t := by
  obtain ⟨hab, -, -, hlevel⟩ := sweep_eq_some (sorted_sortedEdges l) h
  refine ⟨hab, fun t ht => ?_⟩
  have := hlevel t ht.1 ht.2
  rwa [zero_add, level_sortedEdges hvalid] at this

/-- No span is found exactly when every instant lies in no more intervals than allowed. -/
theorem firstOverload_eq_none_iff (hvalid : ∀ i ∈ l, i.1 ≤ i.2) (hbound : 0 ≤ bound) :
    firstOverload l bound = none ↔ ∀ t, (load l t : ℤ) ≤ bound := by
  constructor
  · intro h t
    by_cases hload : 0 < load l t
    · obtain ⟨i, hi, hti⟩ := load_pos_iff.mp hload
      have := sweep_eq_none (sorted_sortedEdges l) h t
        ⟨(i.1, 1), mem_sortedEdges.mpr ⟨i, hi, .inl rfl⟩, hti.1⟩
        ⟨(i.2, -1), mem_sortedEdges.mpr ⟨i, hi, .inr rfl⟩, hti.2⟩
      rwa [zero_add, level_sortedEdges hvalid] at this
    · omega
  · intro h
    cases hfound : firstOverload l bound with
    | none => rfl
    | some span =>
      obtain ⟨a, b⟩ := span
      obtain ⟨hab, hover⟩ := firstOverload_eq_some hvalid hfound
      exact absurd (h a) (not_le.mpr (hover a ⟨le_rfl, hab⟩))

end Zugfolge.Foundation
