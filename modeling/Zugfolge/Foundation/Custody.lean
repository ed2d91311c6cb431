/-
Passing a thing on between parties.

A party that holds a thing passes it on: another party takes it, and from then on the first
party is leaving until it hears of it and lets the thing go.  In between both hold it.

* `Custody.Single.taken`, `Custody.Single.released`: taking and letting go keep that;
* `Custody.Single.existsUnique_holder`: if nobody is leaving, then exactly one party holds the
  thing.
-/
import Mathlib.Data.Set.Insert

namespace Zugfolge.Foundation

/-- Who holds a thing, and who has passed it on without knowing. -/
@[ext] structure Custody (P : Type) where
  holders : Set P
  leaving : Set P

namespace Custody

variable {P Q : Type} {c : Custody P} {p q : P}

/-- Nobody holds the thing. -/
def nobody : Custody P := ⟨∅, ∅⟩

/-- The second party takes the thing from the first one, which does not know it yet. -/
def taken (c : Custody P) (p q : P) : Custody P := ⟨insert q c.holders, insert p c.leaving⟩

/-- The party lets the thing go. -/
def released (c : Custody P) (p : P) : Custody P := ⟨c.holders \ {p}, c.leaving \ {p}⟩

/-- Two groups of parties together. -/
def beside (c : Custody P) (d : Custody Q) : Custody (P ⊕ Q) where
  holders := { r | r.elim (· ∈ c.holders) (· ∈ d.holders) }
  leaving := { r | r.elim (· ∈ c.leaving) (· ∈ d.leaving) }

section Groups

variable {d : Custody Q} {r r' : Q}

lemma beside_taken_right : (c.beside d).taken (.inr r) (.inr r') = c.beside (d.taken r r') := by
  ext x <;> cases x <;> simp [beside, taken]

lemma beside_taken_left_right : (c.beside d).taken (.inl p) (.inr r)
    = Custody.beside ⟨c.holders, insert p c.leaving⟩ ⟨insert r d.holders, d.leaving⟩ := by
  ext x <;> cases x <;> simp [beside, taken]

lemma beside_taken_right_left : (c.beside d).taken (.inr r) (.inl p)
    = Custody.beside ⟨insert p c.holders, c.leaving⟩ ⟨d.holders, insert r d.leaving⟩ := by
  ext x <;> cases x <;> simp [beside, taken]

lemma beside_released_right : (c.beside d).released (.inr r) = c.beside (d.released r) := by
  ext x <;> cases x <;> simp [beside, released]

lemma beside_released_left : (c.beside d).released (.inl p) = (c.released p).beside d := by
  ext x <;> cases x <;> simp [beside, released]

end Groups

/-- Who is leaving holds the thing, and exactly one holder is not leaving. -/
structure Single (c : Custody P) : Prop where
  leaving_holds : c.leaving ⊆ c.holders
  master : ∃! p, p ∈ c.holders ∧ p ∉ c.leaving

namespace Single

/-- A party takes the thing from the one holder that is not leaving. -/
theorem taken (h : c.Single) (hholds : p ∈ c.holders) (hstays : p ∉ c.leaving)
    (hfree : q ∉ c.holders) : (c.taken p q).Single := by
  obtain ⟨m, -, hunique⟩ := h.master
  have hne : q ≠ p := fun heq => hfree (heq ▸ hholds)
  refine ⟨?_, q, ⟨Set.mem_insert q _, ?_⟩, ?_⟩
  · rintro r (rfl | hr)
    · exact Set.mem_insert_of_mem _ hholds
    · exact Set.mem_insert_of_mem _ (h.leaving_holds hr)
  · rintro (heq | hin)
    · exact hne heq
    · exact hfree (h.leaving_holds hin)
  · rintro r ⟨rfl | hr, hnot⟩
    · rfl
    · -- the only holder that was not leaving is leaving now
      have hrm : r = m := hunique r ⟨hr, fun hin => hnot (Set.mem_insert_of_mem _ hin)⟩
      have hpm : p = m := hunique p ⟨hholds, hstays⟩
      exact absurd (Set.mem_insert_iff.mpr (.inl (hrm.trans hpm.symm))) hnot

/-- A party that is leaving lets the thing go. -/
theorem released (h : c.Single) (hleaving : p ∈ c.leaving) : (c.released p).Single := by
  obtain ⟨m, ⟨hm, hstays⟩, hunique⟩ := h.master
  have hne : m ≠ p := fun heq => hstays (heq ▸ hleaving)
  refine ⟨fun r hr => ⟨h.leaving_holds hr.1, hr.2⟩, m, ⟨⟨hm, hne⟩, fun hr => hstays hr.1⟩, ?_⟩
  rintro r ⟨⟨hr, hrp⟩, hnot⟩
  exact hunique r ⟨hr, fun hin => hnot ⟨hin, hrp⟩⟩

/-- The thing is not lost. -/
theorem exists_holder (h : c.Single) : ∃ p, p ∈ c.holders := by
  obtain ⟨m, ⟨hm, -⟩, -⟩ := h.master
  exact ⟨m, hm⟩

/-- If nobody is leaving, then exactly one party holds the thing. -/
theorem existsUnique_holder (h : c.Single) (hnone : ∀ p, p ∉ c.leaving) :
    ∃! p, p ∈ c.holders := by
  obtain ⟨m, ⟨hm, -⟩, hunique⟩ := h.master
  exact ⟨m, hm, fun r hr => hunique r ⟨hr, hnone r⟩⟩

end Single

/-- A group in which nobody holds the thing changes nothing. -/
theorem single_beside_nobody {d : Custody Q} :
    ((nobody : Custody P).beside d).Single ↔ d.Single := by
  constructor
  · rintro ⟨hleaving, m | m, hm, hunique⟩
    · exact absurd hm.1 (Set.notMem_empty m)
    · exact ⟨fun r hr => hleaving (a := .inr r) hr, m, hm,
        fun r hr => Sum.inr.inj (hunique (.inr r) hr)⟩
  · rintro ⟨hleaving, m, hm, hunique⟩
    refine ⟨?_, .inr m, hm, ?_⟩
    · rintro (r | r) hr
      · exact absurd hr (Set.notMem_empty r)
      · exact hleaving hr
    · rintro (r | r) hr
      · exact absurd hr.1 (Set.notMem_empty r)
      · exact congrArg Sum.inr (hunique r hr)

end Custody

end Zugfolge.Foundation
