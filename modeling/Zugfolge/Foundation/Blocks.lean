/-
Texts that are written block by block.

A list of objects is written one after another, each with a code of its own.  Behind them follows
another text, which does not go on like a code.  If no code is the beginning of another one, the
text says which objects were written.

* `codes_inj`: equal texts say the same objects and the same rest;
* `blocks_inj`: the same for codes of one length, whose first item tells them from the rest.
-/
import Mathlib.Tactic.Common

namespace Zugfolge.Foundation

variable {ι α κ : Type} {code : α → List ι}

/-- Two texts of codes with a rest are equal only if what the codes say and the rests are. -/
theorem codes_inj (key : α → κ) (hkey : ∀ a b, key a = key b → code a = code b)
    {objects objects' : List α} {rest rest' : List ι}
    (hcode : ∀ a ∈ objects, ∀ b ∈ objects', ∀ text text',
      code a ++ text = code b ++ text' → key a = key b)
    (hrest : ∀ b ∈ objects', ∀ text, code b ++ text ≠ rest)
    (hrest' : ∀ a ∈ objects, ∀ text, code a ++ text ≠ rest')
    (h : objects.flatMap code ++ rest = objects'.flatMap code ++ rest') :
    objects.map key = objects'.map key ∧ rest = rest' := by
  induction objects generalizing objects' with
  | nil =>
    cases objects' with
    | nil => exact ⟨rfl, h⟩
    | cons b objects' =>
      rw [List.flatMap_cons, List.append_assoc] at h
      exact absurd h.symm (hrest b List.mem_cons_self _)
  | cons a objects ih =>
    cases objects' with
    | nil =>
      rw [List.flatMap_cons, List.append_assoc] at h
      exact absurd h (hrest' a List.mem_cons_self _)
    | cons b objects' =>
      rw [List.flatMap_cons, List.flatMap_cons, List.append_assoc, List.append_assoc] at h
      have hfirst := hcode a List.mem_cons_self b List.mem_cons_self _ _ h
      rw [hkey a b hfirst] at h
      have hlater := List.append_cancel_left h
      obtain ⟨hkeys, hrests⟩ := ih
        (fun c hc d hd => hcode c (List.mem_cons_of_mem a hc) d (List.mem_cons_of_mem b hd))
        (fun d hd => hrest d (List.mem_cons_of_mem b hd))
        (fun c hc => hrest' c (List.mem_cons_of_mem a hc)) hlater
      exact ⟨by rw [List.map_cons, List.map_cons, hfirst, hkeys], hrests⟩

/-! ### Blocks of one length -/

variable {size : ℕ}

/-- Two texts of blocks with a rest are equal only if the blocks and the rests are. -/
theorem blocks_inj (marks : ι → Prop) (hsize : ∀ a, (code a).length = size)
    (hmarked : ∀ a, ∃ i ∈ (code a).head?, marks i) {objects objects' : List α}
    {rest rest' : List ι}
    (hrest : ∀ i ∈ rest.head?, ¬ marks i) (hrest' : ∀ i ∈ rest'.head?, ¬ marks i)
    (h : objects.flatMap code ++ rest = objects'.flatMap code ++ rest') :
    objects.map code = objects'.map code ∧ rest = rest' := by
  -- a text that goes on with a block does not go on with a rest
  have hapart : ∀ (a : α) (text rest : List ι), (∀ i ∈ rest.head?, ¬ marks i) →
      code a ++ text ≠ rest := by
    intro a text rest hnot heq
    obtain ⟨i, hi, hmark⟩ := hmarked a
    obtain ⟨items, hitems⟩ := List.head?_eq_some_iff.mp hi
    refine hnot i ?_ hmark
    rw [← heq, hitems]
    exact rfl
  refine codes_inj code (fun _ _ heq => heq) ?_ (fun b _ text =>
    hapart b text rest hrest) (fun a _ text => hapart a text rest' hrest') h
  intro a _ b _ text text' heq
  exact (List.append_inj heq ((hsize a).trans (hsize b).symm)).1

/-! ### Marks -/

/-- A text is cut at the first of some marks. -/
lemma append_first_inj {isMark : ι → Prop} {mark mark' : ι} {first first' rest rest' : List ι}
    (hfirst : ∀ i ∈ first, ¬ isMark i) (hfirst' : ∀ i ∈ first', ¬ isMark i) (hmark : isMark mark)
    (hmark' : isMark mark') (h : first ++ mark :: rest = first' ++ mark' :: rest') :
    first = first' ∧ mark = mark' ∧ rest = rest' := by
  induction first generalizing first' with
  | nil =>
    cases first' with
    | nil => exact ⟨rfl, (List.cons.inj h).1, (List.cons.inj h).2⟩
    | cons i first' =>
      exact absurd ((List.cons.inj h).1 ▸ hmark) (hfirst' i List.mem_cons_self)
  | cons i first ih =>
    cases first' with
    | nil => exact absurd ((List.cons.inj h).1 ▸ hmark') (hfirst i List.mem_cons_self)
    | cons j first' =>
      obtain ⟨hhead, htail⟩ := List.cons.inj h
      obtain ⟨heq, hrest⟩ := ih (fun k hin => hfirst k (List.mem_cons_of_mem i hin))
        (fun k hin => hfirst' k (List.mem_cons_of_mem j hin)) htail
      exact ⟨by rw [hhead, heq], hrest⟩

/-- A text is cut at the first place of a mark. -/
lemma append_mark_inj {mark : ι} {first first' rest rest' : List ι} (hfirst : mark ∉ first)
    (hfirst' : mark ∉ first') (h : first ++ mark :: rest = first' ++ mark :: rest') :
    first = first' ∧ rest = rest' := by
  have hcut := @append_first_inj ι (· = mark) _ _ _ _ _ _
    (fun i hin heq => hfirst (heq ▸ hin))
    (fun i hin heq => hfirst' (heq ▸ hin)) rfl rfl h
  exact ⟨hcut.1, hcut.2.2⟩

end Zugfolge.Foundation
