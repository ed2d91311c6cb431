/-
Trails in a graph of edges.

An edge joins two different nodes; `cross e n` is its other end, seen from the end `n`.  A
list of edges, followed from a node, reaches a node and passes from edge to edge.
-/
import Mathlib.Data.List.Nodup

namespace Zugfolge.Foundation

variable {ν ε : Type} {cross : ε → ν → Option ν}

/-- Every edge has two different ends, each of them the other end of the other one. -/
structure TwoEnded (cross : ε → ν → Option ν) : Prop where
  ne : ∀ {e : ε} {n m : ν}, cross e n = some m → m ≠ n
  back : ∀ {e : ε} {n m : ν}, cross e n = some m → cross e m = some n

/-- The node reached from a node along the edges. -/
def endOf (cross : ε → ν → Option ν) : ν → List ε → Option ν
  | n, [] => some n
  | n, e :: es => (cross e n).bind fun m => endOf cross m es

/-- A change from an edge to the next one at a node. -/
structure Passage (ν ε : Type) where
  node : ν
  via : ε
  next : ε

/-- The changes from edge to edge along a list of edges. -/
def passages (cross : ε → ν → Option ν) : ν → List ε → List (Passage ν ε)
  | n, e :: f :: es =>
    match cross e n with
    | some m => ⟨m, e, f⟩ :: passages cross m (f :: es)
    | none => []
  | _, _ => []

lemma endOf_append (n : ν) (es fs : List ε) :
    endOf cross n (es ++ fs) = (endOf cross n es).bind fun m => endOf cross m fs := by
  induction es generalizing n with
  | nil => rfl
  | cons e es ih =>
    rw [List.cons_append, endOf, endOf, Option.bind_assoc]
    exact congrArg (Option.bind (cross e n)) (funext ih)

variable {e : ε} {es : List ε} {m n : ν} {p : Passage ν ε}

lemma endOf_concat (h : endOf cross n es = some m) (e : ε) :
    endOf cross n (es ++ [e]) = cross e m := by
  rw [endOf_append, h, Option.bind_some, endOf]
  exact Option.bind_fun_some (cross e m)

lemma passages_cons (h : cross e n = some m) (f : ε) (es : List ε) :
    passages cross n (e :: f :: es) = ⟨m, e, f⟩ :: passages cross m (f :: es) := by
  rw [passages, h]

/-- One more edge adds the change onto it. -/
lemma passages_concat {via : ε} (h : endOf cross n (es ++ [via]) = some m) (next : ε) :
    passages cross n (es ++ [via, next])
      = passages cross n (es ++ [via]) ++ [⟨m, via, next⟩] := by
  induction es generalizing n with
  | nil =>
    have hcross : cross via n = some m := by
      simpa [endOf] using h
    simp [passages, hcross]
  | cons e es ih =>
    obtain ⟨k, hk, hrest⟩ := Option.bind_eq_some_iff.mp h
    have hstep := ih hrest
    cases es with
    | nil => simpa [passages, hk] using hstep
    | cons f es =>
      simp only [List.cons_append] at hstep ⊢
      rw [passages_cons hk, passages_cons hk, hstep, List.cons_append]

lemma mem_of_mem_passages (h : p ∈ passages cross n es) : p.via ∈ es ∧ p.next ∈ es := by
  induction es generalizing n with
  | nil => cases h
  | cons e es ih =>
    cases es with
    | nil => cases h
    | cons f es =>
      rw [passages] at h
      split at h
      next m hm =>
        rcases List.mem_cons.mp h with rfl | hrest
        · exact ⟨List.mem_cons_self, List.mem_cons_of_mem e List.mem_cons_self⟩
        · obtain ⟨hvia, hnext⟩ := ih hrest
          exact ⟨List.mem_cons_of_mem e hvia, List.mem_cons_of_mem e hnext⟩
      · cases h

/-- On a simple trail the first edge is left once, at its far end. -/
lemma first_of_mem_passages (hnodup : (e :: es).Nodup) (h : p ∈ passages cross n (e :: es))
    (huses : p.via = e ∨ p.next = e) :
    cross e n = some p.node ∧ p.via = e ∧ es.head? = some p.next := by
  obtain ⟨hfresh, -⟩ := List.nodup_cons.mp hnodup
  cases es with
  | nil => cases h
  | cons f es =>
    rw [passages] at h
    split at h
    next m hm =>
      rcases List.mem_cons.mp h with rfl | hrest
      · exact ⟨hm, rfl, rfl⟩
      · obtain ⟨hvia, hnext⟩ := mem_of_mem_passages hrest
        rcases huses with rfl | rfl
        · exact absurd hvia hfresh
        · exact absurd hnext hfresh
    · cases h

/-- On a simple trail two changes at one node that use the same edge are the same. -/
lemma eq_of_mem_passages (hends : TwoEnded cross) (hnodup : es.Nodup)
    {p q : Passage ν ε} (hp : p ∈ passages cross n es) (hq : q ∈ passages cross n es)
    (hnode : p.node = q.node) (hpuses : p.via = e ∨ p.next = e)
    (hquses : q.via = e ∨ q.next = e) : p = q := by
  induction es generalizing n with
  | nil => cases hp
  | cons first es ih =>
    cases es with
    | nil => cases hp
    | cons second es =>
      obtain ⟨hfresh, hrest⟩ := List.nodup_cons.mp hnodup
      rw [passages] at hp hq
      split at hp
      next m hm =>
        rw [hm] at hq
        -- the first change and a later one share the second edge, at its two ends
        have hlater : ∀ later ∈ passages cross m (second :: es), later.node = m →
            ¬ ((first = e ∨ second = e) ∧ (later.via = e ∨ later.next = e)) := by
          rintro later hlater hat ⟨hfirst, huses⟩
          obtain ⟨hvia, hnext⟩ := mem_of_mem_passages hlater
          have hin : e ∈ second :: es := by
            rcases huses with rfl | rfl
            · exact hvia
            · exact hnext
          obtain rfl : second = e := by
            rcases hfirst with rfl | heq
            · exact absurd hin hfresh
            · exact heq
          obtain ⟨hcross, -⟩ := first_of_mem_passages hrest hlater huses
          exact hends.ne hcross hat
        rcases List.mem_cons.mp hp with rfl | hp
        · rcases List.mem_cons.mp hq with rfl | hq
          · rfl
          · exact absurd ⟨hpuses, hquses⟩ (hlater q hq hnode.symm)
        · rcases List.mem_cons.mp hq with rfl | hq
          · exact absurd ⟨hquses, hpuses⟩ (hlater p hp hnode)
          · exact ih hrest hp hq
      · cases hp

/-- On a simple trail the last edge is entered once, and crossing it ends the trail. -/
lemma last_of_mem_passages {last : ε}
    (hnodup : (es ++ [last]).Nodup) (hend : endOf cross n (es ++ [last]) = some m)
    (h : p ∈ passages cross n (es ++ [last]))
    (huses : p.via = last ∨ p.next = last) : p.next = last ∧ cross last p.node = some m := by
  induction es generalizing n with
  | nil => cases h
  | cons first es ih =>
    rw [List.cons_append] at hnodup h hend
    obtain ⟨hfresh, hrest⟩ := List.nodup_cons.mp hnodup
    obtain ⟨k, hk, htail⟩ := Option.bind_eq_some_iff.mp hend
    cases es with
    | nil =>
      rw [List.nil_append, passages, hk] at h
      obtain rfl := List.mem_singleton.mp h
      exact ⟨rfl, by simpa [endOf] using htail⟩
    | cons second es =>
      rw [List.cons_append, passages, hk] at h
      rcases List.mem_cons.mp h with rfl | hlater
      · have hlast : last ∈ es ++ [last] := by simp
        rcases huses with rfl | rfl
        · exact absurd (List.mem_cons_of_mem second hlast) hfresh
        · exact absurd hlast (List.nodup_cons.mp hrest).1
      · exact ih hrest htail hlater

end Zugfolge.Foundation
