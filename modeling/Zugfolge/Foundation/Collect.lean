/-
Collecting results over a list.

A fallible function applied to every object of a list gives a list of results or fails as a
whole; an index files the objects of a list under keys.
-/
import Zugfolge.Foundation.Registry

namespace Zugfolge.Foundation

variable {α β γ : Type}

/-- The results of a list stand in the order of the list. -/
lemma forall₂_of_mapM {f : α → Option β} :
    ∀ {l : List α} {out : List β}, l.mapM f = some out →
      List.Forall₂ (fun a b => f a = some b) l out := by
  intro l
  induction l with
  | nil =>
    intro out h
    cases h
    exact .nil
  | cons a l ih =>
    intro out h
    rw [List.mapM_cons] at h
    obtain ⟨b, hb, h⟩ := Option.bind_eq_some_iff.mp h
    obtain ⟨rest, hrest, h⟩ := Option.bind_eq_some_iff.mp h
    cases h
    exact .cons hb (ih hrest)

/-- Every object of the second list is related to one of the first list. -/
lemma exists_of_mem_forall₂ {R : α → β → Prop} {l : List α} {out : List β}
    (h : List.Forall₂ R l out) {b : β} (hb : b ∈ out) : ∃ a ∈ l, R a b := by
  induction h with
  | nil => cases hb
  | @cons a c l out hac _ ih =>
    rcases List.mem_cons.mp hb with rfl | hb
    · exact ⟨a, List.mem_cons_self, hac⟩
    · obtain ⟨a', ha', hrel⟩ := ih hb
      exact ⟨a', List.mem_cons_of_mem a ha', hrel⟩

lemma exists_of_mem_mapM {f : α → Option β} {l : List α} {out : List β}
    (h : l.mapM f = some out) {b : β} (hb : b ∈ out) : ∃ a ∈ l, f a = some b :=
  exists_of_mem_forall₂ (forall₂_of_mapM h) hb

lemma filterMap_singleton (f : α → Option β) (a : α) : [a].filterMap f = (f a).toList := by
  cases h : f a with
  | none => rw [List.filterMap_cons_none h, List.filterMap_nil, Option.toList_none]
  | some b => rw [List.filterMap_cons_some h, List.filterMap_nil, Option.toList_some]

lemma mapM_exists {f : α → Option β} {l : List α} (h : ∀ a ∈ l, ∃ b, f a = some b) :
    ∃ out, l.mapM f = some out := by
  induction l with
  | nil => exact ⟨[], rfl⟩
  | cons a l ih =>
    obtain ⟨⟨b, hb⟩, hrest⟩ := List.forall_mem_cons.mp h
    obtain ⟨out, hout⟩ := ih hrest
    exact ⟨b :: out, by simp [List.mapM_cons, hb, hout]⟩

lemma mapM_eq_none_iff {f : α → Option β} {l : List α} :
    l.mapM f = none ↔ ∃ a ∈ l, f a = none := by
  constructor
  · intro h
    by_contra hall
    obtain ⟨out, hout⟩ := mapM_exists fun a ha =>
      Option.ne_none_iff_exists'.mp fun hnone => hall ⟨a, ha, hnone⟩
    rw [h] at hout
    cases hout
  · rintro ⟨a, ha, hnone⟩
    induction l with
    | nil => cases ha
    | cons b l ih =>
      rcases List.mem_cons.mp ha with rfl | ha
      · simp [List.mapM_cons, hnone]
      · simp [List.mapM_cons, ih ha]

/-- Indexes of two lists whose objects are related and have the same keys hold related
objects under every key. -/
lemma index_rel {κ : Type} [Ord κ] [Std.TransOrd κ] [Std.LawfulEqOrd κ] [DecidableEq κ]
    {R : β → γ → Prop} {key : α → κ} {value : α → β} {δ : Type} {key' : δ → κ}
    {value' : δ → γ} {l : List α} {l' : List δ}
    (h : List.Forall₂ (fun a d => key a = key' d ∧ R (value a) (value' d)) l l')
    {m : Registry κ β} {m' : Registry κ γ} (hm : ∀ k : κ, Option.Rel R m[k]? m'[k]?) (k : κ) :
    Option.Rel R (l.foldl (fun index a => index.insert (key a) (value a)) m)[k]?
      (l'.foldl (fun index d => index.insert (key' d) (value' d)) m')[k]? := by
  induction h generalizing m m' with
  | nil => exact hm k
  | @cons a d l l' hhead _ ih =>
    rw [List.foldl_cons, List.foldl_cons]
    refine ih fun j => ?_
    rw [Registry.getElem?_insert, Registry.getElem?_insert, hhead.1]
    split
    · exact .some hhead.2
    · exact hm j

/-! ### Computations that end well -/

variable {ε σ : Type}

/-- A computation in two steps ends well if both of them do. -/
lemma bind_eq_ok_iff {x : Except ε α} {f : α → Except ε β} {b : β} :
    (x >>= f) = .ok b ↔ ∃ a, x = .ok a ∧ f a = .ok b := by
  cases x with
  | error error =>
    constructor
    · intro h
      cases h
    · rintro ⟨a, h, -⟩
      cases h
  | ok a =>
    constructor
    · exact fun h => ⟨a, rfl, h⟩
    · rintro ⟨a', h, hf⟩
      cases h
      exact hf

lemma map_eq_ok_iff {x : Except ε α} {f : α → β} {b : β} :
    x.map f = .ok b ↔ ∃ a, x = .ok a ∧ f a = b := by
  cases x with
  | error error => simp [Except.map]
  | ok a => simp [Except.map]

lemma map_eq_error_iff {x : Except ε α} {f : α → β} {error : ε} :
    x.map f = .error error ↔ x = .error error := by
  cases x with
  | error found => simp [Except.map]
  | ok a => simp [Except.map]

/-- What gives a result ended well. -/
lemma ok_of_toOption {x : Except ε α} {a : α} (h : x.toOption = some a) : x = .ok a := by
  cases x with
  | error error => cases h
  | ok found =>
    cases h
    rfl

lemma ok_of_any {x : Except ε α} {check : α → Bool} (h : x.toOption.any check = true) :
    ∃ a, x = .ok a ∧ check a = true := by
  cases x with
  | error error => cases h
  | ok a => exact ⟨a, rfl, h⟩

lemma foldlM_cons_eq_ok_iff {f : σ → α → Except ε σ} {a : α} {l : List α} {s t : σ} :
    (a :: l).foldlM f s = .ok t ↔ ∃ u, f s a = .ok u ∧ l.foldlM f u = .ok t := by
  rw [List.foldlM_cons, bind_eq_ok_iff]

/-- Every member of a list collected without an error comes from a member of the source. -/
lemma exists_of_mem_mapM_ok {f : α → Except ε β} {l : List α} :
    ∀ {out : List β}, l.mapM f = .ok out → ∀ {b : β}, b ∈ out → ∃ a ∈ l, f a = .ok b := by
  induction l with
  | nil =>
    intro out h b hb
    cases h
    cases hb
  | cons a l ih =>
    intro out h b hb
    rw [List.mapM_cons, bind_eq_ok_iff] at h
    obtain ⟨first, hfirst, h⟩ := h
    rw [bind_eq_ok_iff] at h
    obtain ⟨rest, hrest, h⟩ := h
    cases h
    rcases List.mem_cons.mp hb with rfl | hb
    · exact ⟨a, List.mem_cons_self, hfirst⟩
    · obtain ⟨other, hother, heq⟩ := ih hrest hb
      exact ⟨other, List.mem_cons_of_mem a hother, heq⟩

/-- A list collected without an error has a member for every member of the source. -/
lemma exists_mem_of_mapM_ok {f : α → Except ε β} {l : List α} {a : α} :
    ∀ {out : List β}, l.mapM f = .ok out → a ∈ l → ∃ b ∈ out, f a = .ok b := by
  induction l with
  | nil =>
    intro out _ ha
    cases ha
  | cons first l ih =>
    intro out h ha
    rw [List.mapM_cons, bind_eq_ok_iff] at h
    obtain ⟨b, hb, h⟩ := h
    rw [bind_eq_ok_iff] at h
    obtain ⟨bs, hbs, h⟩ := h
    cases h
    rcases List.mem_cons.mp ha with rfl | ha
    · exact ⟨b, List.mem_cons_self, hb⟩
    · obtain ⟨other, hother, heq⟩ := ih hbs ha
      exact ⟨other, List.mem_cons_of_mem b hother, heq⟩

lemma mapM_ok_iff {f : α → Except ε β} {l : List α} :
    (∃ out, l.mapM f = .ok out) ↔ ∀ a ∈ l, ∃ b, f a = .ok b := by
  induction l with
  | nil =>
    refine iff_of_true ⟨[], rfl⟩ fun a ha => ?_
    cases ha
  | cons a l ih =>
    rw [List.forall_mem_cons, ← ih]
    constructor
    · rintro ⟨out, h⟩
      rw [List.mapM_cons, bind_eq_ok_iff] at h
      obtain ⟨first, hfirst, h⟩ := h
      obtain ⟨rest, hrest, -⟩ := bind_eq_ok_iff.mp h
      exact ⟨⟨first, hfirst⟩, rest, hrest⟩
    · rintro ⟨⟨first, hfirst⟩, rest, hrest⟩
      refine ⟨first :: rest, ?_⟩
      rw [List.mapM_cons, hfirst, hrest]
      rfl

lemma forM_eq_ok_iff {f : α → Except ε Unit} {l : List α} :
    l.forM f = .ok ⟨⟩ ↔ ∀ a ∈ l, f a = .ok ⟨⟩ := by
  induction l with
  | nil => exact iff_of_true rfl fun _ h => nomatch h
  | cons a l ih =>
    change (f a >>= fun _ => l.forM f) = .ok ⟨⟩ ↔ _
    rw [bind_eq_ok_iff, List.forall_mem_cons]
    constructor
    · rintro ⟨⟨⟩, ha, hl⟩
      exact ⟨ha, ih.mp hl⟩
    · rintro ⟨ha, hl⟩
      exact ⟨⟨⟩, ha, ih.mpr hl⟩

/-- Results that keep the keys of the objects have the keys of the list. -/
lemma map_of_mapM_ok {κ : Type} {f : α → Except ε β} {key : α → κ} {key' : β → κ}
    {l : List α} (h : ∀ a ∈ l, ∀ b, f a = .ok b → key' b = key a) :
    ∀ {out : List β}, l.mapM f = .ok out → out.map key' = l.map key := by
  induction l with
  | nil =>
    intro out hout
    cases hout
    rfl
  | cons a l ih =>
    intro out hout
    rw [List.mapM_cons, bind_eq_ok_iff] at hout
    obtain ⟨first, hfirst, hout⟩ := hout
    rw [bind_eq_ok_iff] at hout
    obtain ⟨rest, hrest, hout⟩ := hout
    cases hout
    obtain ⟨ha, hl⟩ := List.forall_mem_cons.mp h
    rw [List.map_cons, List.map_cons, ha first hfirst, ih hl hrest]

/-- Results are collected without an error if there is none. -/
lemma mapM_eq_ok_map {f : α → Except ε β} {g : α → β} {l : List α}
    (h : ∀ a ∈ l, f a = .ok (g a)) : l.mapM f = .ok (l.map g) := by
  induction l with
  | nil => rfl
  | cons a l ih =>
    rw [List.mapM_cons, h a List.mem_cons_self, ih fun b hb => h b (List.mem_cons_of_mem a hb)]
    rfl

/-- Every step of a fold that ended well ended well. -/
lemma exists_step_of_foldlM {f : σ → α → Except ε σ} {l : List α} :
    ∀ {s t : σ}, l.foldlM f s = .ok t → ∀ a ∈ l, ∃ u v, f u a = .ok v := by
  induction l with
  | nil => simp
  | cons first l ih =>
    intro s t h a ha
    obtain ⟨u, hfirst, hrest⟩ := foldlM_cons_eq_ok_iff.mp h
    rcases List.mem_cons.mp ha with rfl | ha
    · exact ⟨s, u, hfirst⟩
    · exact ih hrest a ha

/-- What every step of a fold keeps holds after a fold that ended well. -/
lemma foldlM_invariant {f : σ → α → Except ε σ} {P : σ → Prop}
    (hstep : ∀ s a t, P s → f s a = .ok t → P t) {l : List α} :
    ∀ {s t : σ}, P s → l.foldlM f s = .ok t → P t := by
  induction l with
  | nil =>
    intro s t hs h
    cases h
    exact hs
  | cons a l ih =>
    intro s t hs h
    obtain ⟨u, hfirst, hrest⟩ := foldlM_cons_eq_ok_iff.mp h
    exact ih (hstep s a u hs hfirst) hrest

/-! ### Steps that keep an order -/

section Order

variable {α β : Type} [Preorder α] {f : α → β → α}

lemma foldl_mono (hmono : ∀ b, Monotone fun a => f a b) (l : List β) :
    Monotone fun a => l.foldl f a := by
  induction l with
  | nil => exact fun _ _ h => h
  | cons b l ih => exact fun _ _ h => ih (hmono b h)

/-- Among monotone steps, one more step that goes down leads to less. -/
lemma foldl_insert_le (hmono : ∀ b, Monotone fun a => f a b) {b : β} (hle : ∀ a, f a b ≤ a)
    (first second : List β) {a a' : α} (h : a' ≤ a) :
    (first ++ b :: second).foldl f a' ≤ (first ++ second).foldl f a := by
  rw [List.foldl_append, List.foldl_append, List.foldl_cons]
  exact foldl_mono hmono second ((hle _).trans (foldl_mono hmono first h))

end Order

/-! ### Neighbours -/

/-- Neighbours in an ascending list ascend. -/
lemma zip_lt {rest : List Int} :
    ∀ {first : Int} {pair : Int × Int}, (first :: rest).Pairwise (· < ·) →
      pair ∈ (first :: rest).zip rest → pair.1 < pair.2 := by
  induction rest with
  | nil =>
    intro first pair _ h
    simp at h
  | cons next rest ih =>
    intro first pair hsorted h
    rw [List.zip_cons_cons] at h
    rw [List.pairwise_cons] at hsorted
    rcases List.mem_cons.mp h with rfl | h
    · exact hsorted.1 next List.mem_cons_self
    · exact ih hsorted.2 h

/-- Between the first and the last number of a list, some neighbours lie around a number. -/
lemma exists_pair_lt_le {rest : List Int} :
    ∀ {first x : Int}, first < x → x ≤ (first :: rest).getLast (by simp) →
      ∃ pair ∈ (first :: rest).zip rest, pair.1 < x ∧ x ≤ pair.2 := by
  induction rest with
  | nil =>
    intro first x hfirst hlast
    exact absurd (lt_of_lt_of_le hfirst hlast) (lt_irrefl _)
  | cons next rest ih =>
    intro first x hfirst hlast
    rw [List.zip_cons_cons]
    by_cases hnext : x ≤ next
    · exact ⟨(first, next), List.mem_cons_self, hfirst, hnext⟩
    · rw [List.getLast_cons (by simp)] at hlast
      obtain ⟨pair, hpair, h⟩ := ih (not_le.mp hnext) hlast
      exact ⟨pair, List.mem_cons_of_mem _ hpair, h⟩

/-- The same with the number at the start of the neighbours. -/
lemma exists_pair_le_lt {first x : Int} {rest : List Int} (hfirst : first ≤ x)
    (hlast : x < (first :: rest).getLast (by simp)) :
    ∃ pair ∈ (first :: rest).zip rest, pair.1 ≤ x ∧ x < pair.2 := by
  obtain ⟨pair, hpair, hlow, hhigh⟩ := exists_pair_lt_le (Int.lt_add_one_of_le hfirst) hlast
  exact ⟨pair, hpair, Int.le_of_lt_add_one hlow, hhigh⟩

end Zugfolge.Foundation
