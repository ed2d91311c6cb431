/-
Tilings of a stretch.

A list of pieces tiles a stretch of a linear order when every piece starts where the one
before it ends, each with an extent.  A stretch cut at some points is tiled by tiling what
lies between neighbouring points.
-/
import Zugfolge.Foundation.Intervals

namespace Zugfolge.Foundation

variable {α β : Type} [LinearOrder α] {span : β → α × α}

/-- The pieces follow each other from one value to another, each with an extent. -/
def Tiled (span : β → α × α) : α → List β → α → Prop
  | start, [], finish => start = finish
  | start, piece :: pieces, finish =>
    (span piece).1 = start ∧ (span piece).1 < (span piece).2 ∧
      Tiled span (span piece).2 pieces finish

variable {finish start : α} {pieces : List β}

lemma Tiled.le (h : Tiled span start pieces finish) :
    start ≤ finish := by
  induction pieces generalizing start with
  | nil => exact le_of_eq h
  | cons piece pieces ih =>
    obtain ⟨rfl, hextent, hrest⟩ := h
    exact hextent.le.trans (ih hrest)

lemma tiled_append_iff {pieces others : List β} :
    Tiled span start (pieces ++ others) finish
      ↔ ∃ middle, Tiled span start pieces middle ∧ Tiled span middle others finish := by
  induction pieces generalizing start with
  | nil =>
    constructor
    · exact fun h => ⟨start, rfl, h⟩
    · rintro ⟨_, rfl, h⟩
      exact h
  | cons piece pieces ih =>
    rw [List.cons_append, Tiled, ih]
    constructor
    · rintro ⟨hstart, hextent, middle, hpieces, hothers⟩
      exact ⟨middle, ⟨hstart, hextent, hpieces⟩, hothers⟩
    · rintro ⟨middle, ⟨hstart, hextent, hpieces⟩, hothers⟩
      exact ⟨hstart, hextent, middle, hpieces, hothers⟩

/-- A stretch and another one behind it. -/
lemma Tiled.append {start middle finish : α} {pieces others : List β}
    (h : Tiled span start pieces middle) (hothers : Tiled span middle others finish) :
    Tiled span start (pieces ++ others) finish :=
  tiled_append_iff.mpr ⟨middle, h, hothers⟩

lemma Tiled.head {piece : β}
    (h : Tiled span start (piece :: pieces) finish) : (span piece).1 = start :=
  h.1

/-- A piece lies within the stretch, with an extent. -/
lemma Tiled.mem (h : Tiled span start pieces finish) {piece : β} (hpiece : piece ∈ pieces) :
    start ≤ (span piece).1 ∧ (span piece).1 < (span piece).2 ∧ (span piece).2 ≤ finish := by
  induction pieces generalizing start with
  | nil => cases hpiece
  | cons first pieces ih =>
    obtain ⟨rfl, hextent, hrest⟩ := h
    rcases List.mem_cons.mp hpiece with rfl | hpiece
    · exact ⟨le_refl _, hextent, hrest.le⟩
    · obtain ⟨hstart, hrest⟩ := ih hrest hpiece
      exact ⟨hextent.le.trans hstart, hrest⟩

/-- Every value of a tiled stretch lies in exactly one piece. -/
lemma Tiled.load_eq_one (h : Tiled span start pieces finish)
    {value : α} (hstart : start ≤ value) (hfinish : value < finish) :
    load (pieces.map span) value = 1 := by
  induction pieces generalizing start with
  | nil => exact absurd ((le_of_eq h.symm).trans hstart) (not_le.mpr hfinish)
  | cons piece pieces ih =>
    obtain ⟨rfl, hextent, hrest⟩ := h
    rw [List.map_cons, load, List.countP_cons]
    rcases lt_or_ge value (span piece).2 with hbefore | hbehind
    · have hothers : (pieces.map span).countP (fun i => decide (Covers i value)) = 0 := by
        rw [List.countP_eq_zero]
        intro i hi
        obtain ⟨other, hother, rfl⟩ := List.mem_map.mp hi
        have hafter := (hrest.mem hother).1
        rw [decide_eq_true_eq]
        exact fun hcovers => absurd (hafter.trans hcovers.1) (not_le.mpr hbefore)
      rw [hothers, if_pos (decide_eq_true ⟨hstart, hbefore⟩)]
    · have hnot : ¬ Covers (span piece) value := fun hcovers =>
        absurd hcovers.2 (not_lt.mpr hbehind)
      rw [if_neg (by simpa using hnot)]
      exact ih hrest hbehind

/-! ### Between neighbouring points -/

/-- The stretches between neighbouring points. -/
def windows (points : List α) : List (α × α) := points.zip points.tail

omit [LinearOrder α] in
@[simp] lemma windows_cons_cons (first next : α) (points : List α) :
    windows (first :: next :: points) = (first, next) :: windows (next :: points) := rfl

/-- Tilings between neighbouring points make a tiling from the first to the last one. -/
lemma tiled_windows {pieces : α × α → List β} {rest : List α} :
    ∀ {first : α}, (∀ window ∈ windows (first :: rest),
        Tiled span window.1 (pieces window) window.2) →
      Tiled span first ((windows (first :: rest)).flatMap pieces)
        ((first :: rest).getLast (by simp)) := by
  induction rest with
  | nil =>
    intro first _
    exact rfl
  | cons next rest ih =>
    intro first h
    rw [windows_cons_cons, List.forall_mem_cons] at h
    rw [windows_cons_cons, List.flatMap_cons, List.getLast_cons (by simp)]
    exact h.1.append (ih h.2)

/-- In a tiling of the whole the pieces of every window tile it, if they begin where the
window does. -/
lemma Tiled.window {pieces : α × α → List β} {rest : List α} :
    ∀ {first : α}, (∀ window ∈ windows (first :: rest),
        ∃ piece others, pieces window = piece :: others ∧ (span piece).1 = window.1) →
      Tiled span first ((windows (first :: rest)).flatMap pieces)
        ((first :: rest).getLast (by simp)) →
      ∀ window ∈ windows (first :: rest), Tiled span window.1 (pieces window) window.2 := by
  induction rest with
  | nil =>
    intro first _ _ window hwindow
    cases hwindow
  | cons next rest ih =>
    intro first hheads h
    rw [windows_cons_cons, List.forall_mem_cons] at hheads ⊢
    rw [windows_cons_cons, List.flatMap_cons, List.getLast_cons (by simp)] at h
    obtain ⟨middle, hfirst, hrest⟩ := tiled_append_iff.mp h
    have hmiddle : middle = next := by
      cases rest with
      | nil => exact hrest
      | cons after rest =>
        rw [windows_cons_cons, List.flatMap_cons] at hrest
        obtain ⟨piece, others, hpieces, hpiece⟩ :=
          hheads.2 (next, after) List.mem_cons_self
        rw [hpieces] at hrest
        exact hrest.head.symm.trans hpiece
    subst hmiddle
    exact ⟨hfirst, ih hheads.2 hrest⟩

omit [LinearOrder α] in
/-- Every point but the last one starts a window. -/
lemma exists_window_of_mem {points : List α} {point : α} (h : point ∈ points)
    (hlast : points.getLast? ≠ some point) : ∃ next, (point, next) ∈ windows points := by
  induction points with
  | nil => cases h
  | cons first points ih =>
    cases points with
    | nil =>
      rw [List.mem_singleton] at h
      exact absurd (by rw [h]; rfl) hlast
    | cons next points =>
      rw [windows_cons_cons]
      rcases List.mem_cons.mp h with rfl | hin
      · exact ⟨next, List.mem_cons_self⟩
      · rw [List.getLast?_cons_cons] at hlast
        obtain ⟨after, hafter⟩ := ih hin hlast
        exact ⟨after, List.mem_cons_of_mem _ hafter⟩

/-- The ends of a window are neighbouring points, in their order. -/
lemma lt_of_mem_windows {points : List α} (hsorted : points.Pairwise (· < ·)) {window : α × α}
    (h : window ∈ windows points) :
    window.1 ∈ points ∧ window.2 ∈ points ∧ window.1 < window.2 := by
  induction points with
  | nil => cases h
  | cons first points ih =>
    cases points with
    | nil => cases h
    | cons next points =>
      rw [windows_cons_cons] at h
      obtain ⟨hfirst, hrest⟩ := List.pairwise_cons.mp hsorted
      rcases List.mem_cons.mp h with rfl | hin
      · exact ⟨List.mem_cons_self, List.mem_cons_of_mem _ List.mem_cons_self,
          hfirst next List.mem_cons_self⟩
      · obtain ⟨hleft, hright, hlt⟩ := ih hrest hin
        exact ⟨List.mem_cons_of_mem _ hleft, List.mem_cons_of_mem _ hright, hlt⟩

/-! ### Between the values of a sequence -/

/-- Pieces between the ascending values of a sequence tile the way they go. -/
lemma tiled_range {piece : ℕ → β} {f : ℕ → α} {n : ℕ}
    (hspan : ∀ i < n, span (piece i) = (f i, f (i + 1))) (hlt : ∀ i < n, f i < f (i + 1)) :
    Tiled span (f 0) ((List.range n).map piece) (f n) := by
  induction n with
  | zero => exact rfl
  | succ n ih =>
    rw [List.range_succ, List.map_append]
    refine (ih (fun i hi => hspan i (Nat.lt_succ_of_lt hi))
      fun i hi => hlt i (Nat.lt_succ_of_lt hi)).append ?_
    rw [List.map_singleton, Tiled, hspan n n.lt_succ_self]
    exact ⟨rfl, hlt n n.lt_succ_self, rfl⟩

/-- A tiling by the pieces between the values of a sequence ends at the last of them. -/
lemma Tiled.range_end {piece : ℕ → β} {f : ℕ → α} {n : ℕ}
    (hspan : ∀ i < n + 1, span (piece i) = (f i, f (i + 1)))
    (h : Tiled span start ((List.range (n + 1)).map piece) finish) : f (n + 1) = finish := by
  rw [List.range_succ, List.map_append] at h
  obtain ⟨middle, -, hlast⟩ := tiled_append_iff.mp h
  rw [List.map_singleton, Tiled, hspan n n.lt_succ_self] at hlast
  exact hlast.2.2

end Zugfolge.Foundation
