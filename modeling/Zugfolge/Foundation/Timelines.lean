/-
Timelines: entries in the order of their times.

An entry takes effect at its time and stays in effect until the next one.  Entries may be recorded
in any order of their times; what is in effect at a time depends on the recorded entries only.

* `Ascending.effective_iff`: the entry in effect is the last one that is not later.
-/
import Mathlib.Data.Int.Order.Basic
import Mathlib.Data.List.TakeWhile

namespace Zugfolge.Foundation

namespace Timeline

variable {α : Type} (time : α → Int)

/-- The last entry that is not later than a time; the entries stand in the order of their times. -/
def effective (timeline : List α) (now : Int) : Option α :=
  (timeline.takeWhile fun entry => time entry ≤ now).getLast?

/-- Puts an entry behind all entries that are not later. -/
def record (timeline : List α) (entry : α) : List α :=
  (timeline.takeWhile fun other => time other ≤ time entry) ++ entry ::
    timeline.dropWhile fun other => time other ≤ time entry

/-- The entries stand in the order of their times, and no two have the same. -/
def Ascending (timeline : List α) : Prop := timeline.Pairwise fun a b => time a < time b

variable {time} {timeline : List α} {entry other : α} {now : Int}

lemma mem_record : other ∈ record time timeline entry ↔ other = entry ∨ other ∈ timeline := by
  have hsplit := List.takeWhile_append_dropWhile
    (p := fun other => decide (time other ≤ time entry)) (l := timeline)
  constructor
  · intro h
    rcases List.mem_append.mp h with h | h
    · exact .inr (List.takeWhile_sublist _ |>.subset h)
    · rcases List.mem_cons.mp h with h | h
      · exact .inl h
      · exact .inr (List.dropWhile_sublist _ |>.subset h)
  · rintro (rfl | h)
    · exact List.mem_append_right _ (List.mem_cons_self ..)
    · rw [← hsplit] at h
      rcases List.mem_append.mp h with h | h
      · exact List.mem_append_left _ h
      · exact List.mem_append_right _ (List.mem_cons_of_mem _ h)

namespace Ascending

lemma nil : Ascending time [] := List.Pairwise.nil

/-- What is left out of the beginning of a timeline is later. -/
lemma lt_of_mem_dropWhile (h : Ascending time timeline)
    (hmem : entry ∈ timeline.dropWhile fun other => time other ≤ now) : now < time entry := by
  induction timeline with
  | nil => cases hmem
  | cons first rest ih =>
    obtain ⟨hfirst, hrest⟩ := List.pairwise_cons.mp h
    by_cases hle : time first ≤ now
    · rw [List.dropWhile_cons_of_pos (by simpa using hle)] at hmem
      exact ih hrest hmem
    · rw [List.dropWhile_cons_of_neg (by simpa using hle)] at hmem
      rcases List.mem_cons.mp hmem with rfl | hmem
      · omega
      · have hlt := hfirst entry hmem
        omega

lemma le_of_mem_takeWhile (hmem : entry ∈ timeline.takeWhile fun other => time other ≤ now) :
    time entry ≤ now := by
  simpa using List.mem_takeWhile_imp hmem

lemma mem_takeWhile_iff (h : Ascending time timeline) :
    entry ∈ (timeline.takeWhile fun other => time other ≤ now)
      ↔ entry ∈ timeline ∧ time entry ≤ now := by
  constructor
  · intro hmem
    exact ⟨List.takeWhile_sublist _ |>.subset hmem, le_of_mem_takeWhile hmem⟩
  · rintro ⟨hmem, hle⟩
    rw [← List.takeWhile_append_dropWhile (p := fun other => decide (time other ≤ now))
      (l := timeline)] at hmem
    rcases List.mem_append.mp hmem with hmem | hmem
    · exact hmem
    · have hlt := h.lt_of_mem_dropWhile hmem
      omega

/-- A new entry of a new time keeps the order. -/
lemma record (h : Ascending time timeline) (hnew : ∀ other ∈ timeline, time other ≠ time entry) :
    Ascending time (record time timeline entry) := by
  have hbefore : ∀ other ∈ timeline.takeWhile (fun other => decide (time other ≤ time entry)),
      time other < time entry := by
    intro other hmem
    have hle := le_of_mem_takeWhile hmem
    have hne := hnew other (List.takeWhile_sublist _ |>.subset hmem)
    omega
  have hbehind : ∀ other ∈ timeline.dropWhile (fun other => decide (time other ≤ time entry)),
      time entry < time other :=
    fun other hmem => h.lt_of_mem_dropWhile hmem
  refine List.pairwise_append.mpr ⟨h.sublist (List.takeWhile_sublist _),
    List.pairwise_cons.mpr ⟨hbehind, h.sublist (List.dropWhile_sublist _)⟩, ?_⟩
  intro first hfirst second hsecond
  have hlt := hbefore first hfirst
  rcases List.mem_cons.mp hsecond with rfl | hsecond
  · exact hlt
  · exact hlt.trans (hbehind second hsecond)

/-- The entry in effect is the last one of those that are not later. -/
theorem effective_iff (h : Ascending time timeline) :
    effective time timeline now = some entry ↔
      entry ∈ timeline ∧ time entry ≤ now ∧
        ∀ other ∈ timeline, time other ≤ now → time other ≤ time entry := by
  have hbegin : Ascending time (timeline.takeWhile fun other => time other ≤ now) :=
    h.sublist (List.takeWhile_sublist _)
  constructor
  · intro heffective
    obtain ⟨before, hbefore⟩ := List.getLast?_eq_some_iff.mp heffective
    have hentry : entry ∈ timeline.takeWhile fun other => time other ≤ now := by
      rw [hbefore]
      exact List.mem_append_right _ (List.mem_singleton_self _)
    obtain ⟨hmem, hle⟩ := h.mem_takeWhile_iff.mp hentry
    refine ⟨hmem, hle, fun other hother hotherLe => ?_⟩
    have hother := h.mem_takeWhile_iff.mpr ⟨hother, hotherLe⟩
    rw [hbefore] at hother hbegin
    rcases List.mem_append.mp hother with hother | hother
    · exact ((List.pairwise_append.mp hbegin).2.2 other hother entry
        (List.mem_singleton_self _)).le
    · rw [List.mem_singleton.mp hother]
  · rintro ⟨hmem, hle, hlast⟩
    have hentry := h.mem_takeWhile_iff.mpr ⟨hmem, hle⟩
    obtain ⟨last, hlastEq⟩ : ∃ last, effective time timeline now = some last :=
      Option.isSome_iff_exists.mp
        (List.getLast?_isSome.mpr (List.ne_nil_of_mem hentry))
    obtain ⟨before, hbefore⟩ := List.getLast?_eq_some_iff.mp hlastEq
    rw [hlastEq]
    rw [hbefore] at hentry hbegin
    rcases List.mem_append.mp hentry with hentry | hentry
    · have hlt := (List.pairwise_append.mp hbegin).2.2 entry hentry last
        (List.mem_singleton_self _)
      have hlastMem : last ∈ timeline.takeWhile fun other => time other ≤ now := by
        rw [hbefore]
        exact List.mem_append_right _ (List.mem_singleton_self _)
      obtain ⟨hin, hinLe⟩ := h.mem_takeWhile_iff.mp hlastMem
      have hge := hlast last hin hinLe
      omega
    · rw [List.mem_singleton.mp hentry]

/-- No two entries have the same time. -/
lemma eq_of_time (h : Ascending time timeline) (hentry : entry ∈ timeline)
    (hother : other ∈ timeline) (heq : time entry = time other) : entry = other := by
  have hfirst : effective time timeline (time entry) = some entry :=
    h.effective_iff.mpr ⟨hentry, le_rfl, fun _ _ hle => hle⟩
  have hsecond : effective time timeline (time entry) = some other :=
    h.effective_iff.mpr ⟨hother, heq.ge, fun _ _ hle => heq ▸ hle⟩
  exact Option.some.inj (hfirst.symm.trans hsecond)

lemma effective_eq_none_iff (h : Ascending time timeline) :
    effective time timeline now = none ↔ ∀ other ∈ timeline, now < time other := by
  rw [effective, List.getLast?_eq_none_iff]
  constructor
  · intro hnil other hother
    by_contra hle
    have hmem := h.mem_takeWhile_iff.mpr ⟨hother, not_lt.mp hle⟩
    rw [hnil] at hmem
    cases hmem
  · intro hlater
    refine List.eq_nil_iff_forall_not_mem.mpr fun other hother => ?_
    obtain ⟨hmem, hle⟩ := h.mem_takeWhile_iff.mp hother
    have hlt := hlater other hmem
    omega

/-- What is recorded for a later time is not in effect yet. -/
lemma effective_record_of_lt (h : Ascending time timeline)
    (hnew : ∀ other ∈ timeline, time other ≠ time entry) (hlt : now < time entry) :
    effective time (Timeline.record time timeline entry) now = effective time timeline now := by
  have hrecord := h.record hnew
  cases heffective : effective time timeline now with
  | none =>
    rw [hrecord.effective_eq_none_iff]
    intro other hother
    rcases mem_record.mp hother with rfl | hother
    · exact hlt
    · exact h.effective_eq_none_iff.mp heffective other hother
  | some last =>
    obtain ⟨hmem, hle, hlast⟩ := h.effective_iff.mp heffective
    refine hrecord.effective_iff.mpr ⟨mem_record.mpr (.inr hmem), hle, fun other hother => ?_⟩
    rcases mem_record.mp hother with rfl | hother
    · intro hotherLe
      omega
    · exact hlast other hother

/-- What is recorded for an earlier time is in effect unless something later already is. -/
lemma effective_record_of_le (h : Ascending time timeline)
    (hnew : ∀ other ∈ timeline, time other ≠ time entry) (hle : time entry ≤ now) :
    effective time (Timeline.record time timeline entry) now
      = ((effective time timeline now).filter fun last => time entry < time last).or
          (some entry) := by
  have hrecord := h.record hnew
  have hnewest : (∀ other ∈ timeline, time other ≤ now → time other ≤ time entry) →
      effective time (Timeline.record time timeline entry) now = some entry := by
    intro hlast
    refine hrecord.effective_iff.mpr ⟨mem_record.mpr (.inl rfl), hle, fun other hother => ?_⟩
    rcases mem_record.mp hother with rfl | hother
    · exact fun _ => le_rfl
    · exact hlast other hother
  cases heffective : effective time timeline now with
  | none =>
    rw [Option.filter_none, Option.none_or]
    refine hnewest fun other hother hotherLe => ?_
    have hlt := h.effective_eq_none_iff.mp heffective other hother
    omega
  | some last =>
    obtain ⟨hmem, hlastLe, hlast⟩ := h.effective_iff.mp heffective
    by_cases hlt : time entry < time last
    · rw [Option.filter_some, if_pos (by simpa using hlt), Option.some_or]
      refine hrecord.effective_iff.mpr
        ⟨mem_record.mpr (.inr hmem), hlastLe, fun other hother => ?_⟩
      rcases mem_record.mp hother with rfl | hother
      · exact fun _ => hlt.le
      · exact hlast other hother
    · rw [Option.filter_some, if_neg (by simpa using hlt), Option.none_or]
      refine hnewest fun other hother hotherLe => ?_
      have hle' := hlast other hother hotherLe
      omega

end Ascending

end Timeline

end Zugfolge.Foundation
