/-
Binary indexed trees.

The nodes and the positions are numbered from one.  A node covers the positions above itself
without its lowest set bit, up to itself.  A position is written to the nodes that cover it, and
the positions of a prefix are read from the nodes that split it.

* `Covers`, `covers_iff`: the nodes that cover a position, one after another;
* `gather`, `spread`: reading a prefix and writing a position;
* `Holds`, `Holds.gather`, `Holds.spread`: what the nodes stand for, if merging two nodes stands for
  all that either of them stands for.
-/
import Mathlib.Tactic.Linarith
import Mathlib.Tactic.Ring

namespace Zugfolge.Foundation

namespace Fenwick

/-! ### The lowest set bit -/

/-- A number without its lowest set bit. -/
def withoutLowestBit (i : ℕ) : ℕ := i &&& (i - 1)

/-- The lowest set bit of a number. -/
def lowestBit (i : ℕ) : ℕ := i - withoutLowestBit i

lemma withoutLowestBit_lt {i : ℕ} (hi : 0 < i) : withoutLowestBit i < i := by
  have hle : withoutLowestBit i ≤ i - 1 := Nat.and_le_right
  omega

lemma lowestBit_pos {i : ℕ} (hi : 0 < i) : 0 < lowestBit i := by
  have hlt := withoutLowestBit_lt hi
  unfold lowestBit
  omega

/-- A positive number is an odd number times a power of two. -/
lemma exists_odd_part {i : ℕ} (hi : 0 < i) : ∃ k m, i = 2 ^ k * (2 * m + 1) := by
  induction i using Nat.strongRecOn with
  | _ i ih =>
    rcases Nat.even_or_odd' i with ⟨j, rfl | rfl⟩
    · obtain ⟨k, m, rfl⟩ := ih j (by omega) (by omega)
      exact ⟨k + 1, m, by ring⟩
    · exact ⟨0, j, by ring⟩

lemma land_pred (k m : ℕ) : withoutLowestBit (2 ^ k * (2 * m + 1)) = 2 ^ k * (2 * m) := by
  have hpos := Nat.two_pow_pos k
  have hpred : 2 ^ k * (2 * m + 1) - 1 = 2 ^ k * (2 * m) + (2 ^ k - 1) := by
    rw [Nat.mul_add, Nat.mul_one]
    omega
  unfold withoutLowestBit
  rw [hpred]
  refine Nat.eq_of_testBit_eq fun j => ?_
  rw [Nat.testBit_and, Nat.testBit_two_pow_mul, Nat.testBit_two_pow_mul,
    Nat.testBit_two_pow_mul_add _ (Nat.sub_lt hpos Nat.one_pos)]
  by_cases hj : k ≤ j
  · rw [if_neg (by omega)]
    -- The bits above the lowest one are the same, and the lowest one is not in the second number.
    cases hrest : j - k with
    | zero => simp
    | succ t => simp [Nat.testBit_succ, Nat.mul_add_div]
  · simp [hj]

lemma lowestBit_eq (k m : ℕ) : lowestBit (2 ^ k * (2 * m + 1)) = 2 ^ k := by
  rw [lowestBit, land_pred, Nat.mul_add, Nat.mul_one, Nat.add_sub_cancel_left]

/-! ### The nodes of a position -/

/-- The node covers the position. -/
def Covers (node position : ℕ) : Prop := position ≤ node ∧ node - lowestBit node < position

/-- A multiple of a number does not lie strictly between two neighbouring ones. -/
lemma not_between_multiples {d a b : ℕ} (hlow : d * a < d * b) (hhigh : d * b < d * a + d) :
    False := by
  have hlow := Nat.lt_of_mul_lt_mul_left hlow
  have hhigh : d * b < d * (a + 1) := by rwa [Nat.mul_add, Nat.mul_one]
  have hhigh := Nat.lt_of_mul_lt_mul_left hhigh
  omega

/-- The nodes that cover a position are the position itself and the nodes that cover the next
one: the position with its lowest set bit added. -/
theorem covers_iff {node position : ℕ} (hnode : 0 < node) (hposition : 0 < position) :
    Covers node position ↔ node = position ∨ Covers node (position + lowestBit position) := by
  obtain ⟨k, m, rfl⟩ := exists_odd_part hnode
  obtain ⟨a, b, rfl⟩ := exists_odd_part hposition
  have hk := Nat.two_pow_pos k
  have ha := Nat.two_pow_pos a
  unfold Covers
  rw [lowestBit_eq, lowestBit_eq]
  have hbelow : 2 ^ k * (2 * m + 1) - 2 ^ k = 2 ^ k * (2 * m) := by
    rw [Nat.mul_add, Nat.mul_one, Nat.add_sub_cancel]
  have htop : 2 ^ k * (2 * m + 1) = 2 ^ k * (2 * m) + 2 ^ k := by rw [Nat.mul_add, Nat.mul_one]
  have hnext : 2 ^ a * (2 * b + 1) + 2 ^ a = 2 ^ a * (2 * (b + 1)) := by ring
  rw [hbelow]
  constructor
  · rintro ⟨hle, hlt⟩
    rcases hle.eq_or_lt with heq | hle
    · exact .inl heq.symm
    · -- The position is finer than the node, so the next one does not pass the node.
      have hfiner : a < k := by
        by_contra hge
        obtain ⟨c, rfl⟩ := Nat.exists_eq_add_of_le (not_lt.mp hge)
        have hsplit : 2 ^ (k + c) * (2 * b + 1) = 2 ^ k * (2 ^ c * (2 * b + 1)) := by ring
        rw [hsplit] at hlt hle
        exact not_between_multiples hlt (htop ▸ hle)
      refine .inr ⟨?_, by omega⟩
      obtain ⟨c, rfl⟩ := Nat.exists_eq_add_of_lt hfiner
      have hsplit : 2 ^ (a + c + 1) * (2 * m + 1) = 2 ^ a * (2 ^ (c + 1) * (2 * m + 1)) := by ring
      rw [hsplit] at hle ⊢
      have hlt := Nat.lt_of_mul_lt_mul_left hle
      calc 2 ^ a * (2 * b + 1) + 2 ^ a
          = 2 ^ a * (2 * b + 1 + 1) := by ring
        _ ≤ 2 ^ a * (2 ^ (c + 1) * (2 * m + 1)) := Nat.mul_le_mul_left _ hlt
  · rintro (heq | ⟨hle, hlt⟩)
    · rw [← heq, htop]
      exact ⟨le_rfl, by omega⟩
    · refine ⟨by omega, ?_⟩
      by_contra hge
      rw [not_lt] at hge
      rcases Nat.lt_or_ge k a with hcoarser | hfiner
      · -- The next position is a multiple of twice the bit of the node.
        obtain ⟨c, rfl⟩ := Nat.exists_eq_add_of_lt hcoarser
        have hsplit : 2 ^ (k + c + 1) * (2 * (b + 1)) = 2 ^ k * (2 * (2 ^ c * (2 * (b + 1)))) := by
          ring
        rw [hnext, hsplit] at hlt hle
        have hlow := Nat.lt_of_mul_lt_mul_left hlt
        have hhigh := Nat.le_of_mul_le_mul_left hle hk
        omega
      · -- Then the position is the start of the node, but its lowest bit is too fine.
        obtain ⟨c, rfl⟩ := Nat.exists_eq_add_of_le hfiner
        have hsplit : 2 ^ (a + c) * (2 * m) = 2 ^ a * (2 ^ c * (2 * m)) := by ring
        rw [hsplit] at hge hlt
        have hlow := Nat.le_of_mul_le_mul_left hge ha
        rw [hnext] at hlt
        have hhigh := Nat.lt_of_mul_lt_mul_left hlt
        have heven : 2 ^ c * (2 * m) = 2 * (2 ^ c * m) := by ring
        omega

/-! ### Reading and writing -/

variable {α ι : Type}

/-- Merges the nodes that split a prefix into a result. -/
def gather (merge : α → α → α) (tree : ℕ → α) (prefixEnd : ℕ) (result : α) : α :=
  if _h : 0 < prefixEnd then
    gather merge tree (withoutLowestBit prefixEnd) (merge result (tree prefixEnd))
  else result
termination_by prefixEnd
decreasing_by exact withoutLowestBit_lt _h

/-- Updates the nodes below a limit that cover a position. -/
def spread (update : α → α) (limit position : ℕ) (tree : ℕ → α) : ℕ → α :=
  if _h : 0 < position ∧ position < limit then
    spread update limit (position + lowestBit position)
      (Function.update tree position (update (tree position)))
  else tree
termination_by limit - position
decreasing_by
  have hbit := lowestBit_pos _h.1
  omega

/-! ### What the nodes stand for -/

/-- Every node below the limit stands for the items at the positions that it covers. -/
def Holds (stands : α → Set ι → Prop) (limit : ℕ) (tree : ℕ → α) (items : Set (ℕ × ι)) : Prop :=
  ∀ node, 0 < node → node < limit → stands (tree node)
    {item | ∃ position, (position, item) ∈ items ∧ Covers node position}

variable {stands : α → Set ι → Prop} {merge : α → α → α} {limit : ℕ} {tree : ℕ → α}
  {items : Set (ℕ × ι)}

/-- Reading a prefix gives something that stands for the items of the prefix. -/
theorem Holds.gather (h : Holds stands limit tree items)
    (hmerge : ∀ a b s t, stands a s → stands b t → stands (merge a b) (s ∪ t))
    (hpositive : ∀ position item, (position, item) ∈ items → 0 < position)
    {prefixEnd : ℕ} (hlimit : prefixEnd < limit) {result : α} {read : Set ι}
    (hresult : stands result read) :
    stands (Fenwick.gather merge tree prefixEnd result)
      (read ∪ {item | ∃ position, (position, item) ∈ items ∧ position ≤ prefixEnd}) := by
  induction prefixEnd using Nat.strongRecOn generalizing result read with
  | _ prefixEnd ih =>
    unfold Fenwick.gather
    split
    next hpos =>
      have hle := withoutLowestBit_lt hpos
      have hnode := hmerge _ _ _ _ hresult (h prefixEnd hpos hlimit)
      have hrest := ih _ hle (hle.trans hlimit) hnode
      have hsame : read ∪ {item | ∃ position, (position, item) ∈ items ∧
            Covers prefixEnd position}
          ∪ {item | ∃ position, (position, item) ∈ items ∧
            position ≤ withoutLowestBit prefixEnd}
          = read ∪ {item | ∃ position, (position, item) ∈ items ∧ position ≤ prefixEnd} := by
        rw [Set.union_assoc]
        congr 1
        ext item
        constructor
        · rintro (⟨position, hin, hcovers⟩ | ⟨position, hin, hbefore⟩)
          · exact ⟨position, hin, hcovers.1⟩
          · exact ⟨position, hin, by omega⟩
        · rintro ⟨position, hin, hbefore⟩
          by_cases hfar : position ≤ withoutLowestBit prefixEnd
          · exact .inr ⟨position, hin, hfar⟩
          · refine .inl ⟨position, hin, hbefore, ?_⟩
            unfold lowestBit
            omega
      rw [← hsame]
      exact hrest
    next hzero =>
      have hnone : {item | ∃ position, (position, item) ∈ items ∧ position ≤ prefixEnd} = ∅ := by
        refine Set.eq_empty_of_forall_notMem ?_
        rintro item ⟨position, hin, hbefore⟩
        have hpos := hpositive position item hin
        omega
      rw [hnone, Set.union_empty]
      exact hresult

/-- The nodes that are updated are the ones below the limit that cover the position. -/
lemma spread_apply (update : α → α) (limit : ℕ) {position : ℕ} (hposition : 0 < position)
    (tree : ℕ → α) {node : ℕ} (hnode : 0 < node) :
    (Covers node position ∧ node < limit ∧ spread update limit position tree node
        = update (tree node)) ∨
      (¬ (Covers node position ∧ node < limit) ∧ spread update limit position tree node
        = tree node) := by
  induction hgap : limit - position using Nat.strongRecOn generalizing position tree with
  | _ gap ih =>
    have hbit := lowestBit_pos hposition
    unfold spread
    split
    next hlt =>
      have hrest := ih (limit - (position + lowestBit position)) (by omega)
        (by omega : 0 < position + lowestBit position)
        (Function.update tree position (update (tree position))) rfl
      rw [covers_iff hnode hposition]
      by_cases heq : node = position
      · subst heq
        have hpast : ¬ Covers node (node + lowestBit node) := fun hcovers => by
          have hle := hcovers.1
          omega
        rcases hrest with ⟨hcovers, -⟩ | ⟨-, hsame⟩
        · exact absurd hcovers hpast
        · refine .inl ⟨.inl rfl, hlt.2, ?_⟩
          rw [hsame, Function.update_self]
      · rw [Function.update_of_ne heq] at hrest
        simpa only [heq, false_or] using hrest
    next hge =>
      refine .inr ⟨?_, rfl⟩
      rintro ⟨hcovers, hlt⟩
      have hle := hcovers.1
      omega

/-- After an item has been written to its position, every node below the limit stands for it,
too, where it covers the position. -/
theorem Holds.spread (h : Holds stands limit tree items) {update : α → α} {item : ι}
    {position : ℕ} (hposition : 0 < position)
    (hupdate : ∀ a s, stands a s → stands (update a) (insert item s)) :
    Holds stands limit (Fenwick.spread update limit position tree)
      (insert (position, item) items) := by
  intro node hnode hlimit
  rcases spread_apply update limit hposition tree hnode with ⟨hcovers, -, hupdated⟩ | ⟨hnot, hsame⟩
  · rw [hupdated]
    have hset : {item' | ∃ position', (position', item') ∈ insert (position, item) items ∧
        Covers node position'} = insert item {item' | ∃ position', (position', item') ∈ items ∧
          Covers node position'} := by
      ext item'
      constructor
      · rintro ⟨position', hin | hin, hcovers'⟩
        · cases hin
          exact .inl rfl
        · exact .inr ⟨position', hin, hcovers'⟩
      · rintro (rfl | ⟨position', hin, hcovers'⟩)
        · exact ⟨position, .inl rfl, hcovers⟩
        · exact ⟨position', .inr hin, hcovers'⟩
    rw [hset]
    exact hupdate _ _ (h node hnode hlimit)
  · rw [hsame]
    have hset : {item' | ∃ position', (position', item') ∈ insert (position, item) items ∧
        Covers node position'} = {item' | ∃ position', (position', item') ∈ items ∧
          Covers node position'} := by
      ext item'
      constructor
      · rintro ⟨position', hin | hin, hcovers'⟩
        · cases hin
          exact absurd ⟨hcovers', hlimit⟩ hnot
        · exact ⟨position', hin, hcovers'⟩
      · rintro ⟨position', hin, hcovers'⟩
        exact ⟨position', .inr hin, hcovers'⟩
    rw [hset]
    exact h node hnode hlimit

end Fenwick

end Zugfolge.Foundation
