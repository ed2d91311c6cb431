/-
The indexed overlap check over the track of several owners.

Instead of comparing all pairs, the intervals are sorted and read once for each edge.  A binary
indexed tree over the starts keeps, for each node, the furthest end and the furthest end of another
owner.  An interval shares track with an earlier one of another owner just if the furthest end of
another owner, over the starts before its own end, lies behind its own start.

* `crossTrainIntervalOverlap_iff`: it finds exactly what comparing all pairs finds;
* `intervalsAreSeparate_iff`: it is the check that a world makes of its trains.
-/
import Zugfolge.Foundation.Fenwick
import Zugfolge.Operations.Verify
import Mathlib.Data.List.Destutter
import Mathlib.Data.List.TakeWhile

namespace Zugfolge

open Foundation
open Std (ExtTreeMap)

/-! ### The two furthest ends of different owners -/

structure IntervalOwnerEnd where
  owner : ℕ
  toMm : Int

/-- The furthest end and the furthest end of another owner. -/
structure TwoOwnerMaximum where
  highest : Option IntervalOwnerEnd
  secondHighest : Option IntervalOwnerEnd

namespace TwoOwnerMaximum

/-- No end at all. -/
def default : TwoOwnerMaximum := { highest := none, secondHighest := none }

variable (maximum : TwoOwnerMaximum)

/-- Takes an end of an owner who has neither of the two ends. -/
def insertOther (candidate : IntervalOwnerEnd) : TwoOwnerMaximum :=
  match maximum.highest with
  | none => { maximum with highest := some candidate }
  | some highest =>
    if highest.toMm < candidate.toMm then
      { highest := some candidate, secondHighest := some highest }
    else if maximum.secondHighest.all fun second => decide (second.toMm < candidate.toMm) then
      { maximum with secondHighest := some candidate }
    else maximum

/-- Exchanges the two ends if the second one lies further. -/
def swapIfFurther : TwoOwnerMaximum :=
  if maximum.highest.any fun highest =>
      maximum.secondHighest.any fun second => decide (highest.toMm < second.toMm) then
    { highest := maximum.secondHighest, secondHighest := maximum.highest }
  else maximum

/-- Takes an end. -/
def insert (candidate : IntervalOwnerEnd) : TwoOwnerMaximum :=
  if maximum.highest.any fun entry => entry.owner == candidate.owner then
    if maximum.highest.any fun entry => decide (entry.toMm < candidate.toMm) then
      { maximum with highest := some candidate }
    else maximum
  else if maximum.secondHighest.any fun entry => entry.owner == candidate.owner then
    if maximum.secondHighest.any fun entry => decide (entry.toMm < candidate.toMm) then
      swapIfFurther { maximum with secondHighest := some candidate }
    else maximum
  else maximum.insertOther candidate

/-- Takes the ends of another maximum. -/
def merge (maximum other : TwoOwnerMaximum) : TwoOwnerMaximum :=
  let first := other.highest.elim maximum maximum.insert
  other.secondHighest.elim first first.insert

/-- The furthest end that is not the end of the owner. -/
def highestExcept (owner : ℕ) : Option Int :=
  ((maximum.highest.filter fun entry => entry.owner != owner).or
    (maximum.secondHighest.filter fun entry => entry.owner != owner)).map (·.toMm)

end TwoOwnerMaximum

/-! ### The check -/

/-- The order in which the intervals are read: by edge, start, end and owner. -/
def ownedIntervalOrder (left right : ℕ × TrackInterval) : Ordering :=
  (compare left.2.edgeId right.2.edgeId).then <| (compare left.2.fromMm right.2.fromMm).then <|
    (compare left.2.toMm right.2.toMm).then (compare left.1 right.1)

/-- Reads the intervals of one edge in their order over its different starts; the nodes of the tree
stand for the intervals before. -/
def overlapFrom (starts : List Int) :
    List (ℕ × TrackInterval) → (ℕ → TwoOwnerMaximum) → Bool
  | [], _ => false
  | (owner, interval) :: rest, prefixMaxima =>
    -- The starts are ascending: those before the end of the interval are a prefix.
    let prefixIndex := (starts.takeWhile fun fromMm => decide (fromMm < interval.toMm)).length
    let maximum := Fenwick.gather TwoOwnerMaximum.merge prefixMaxima prefixIndex .default
    if (maximum.highestExcept owner).any fun toMm => decide (interval.fromMm < toMm) then true
    else
      let updateIndex := starts.idxOf interval.fromMm + 1
      let ownerEnd : IntervalOwnerEnd := { owner := owner, toMm := interval.toMm }
      overlapFrom starts rest
        (Fenwick.spread (fun node => node.insert ownerEnd) (starts.length + 1) updateIndex
          prefixMaxima)

/-- Reads the intervals of one edge. -/
def overlapOnEdge (intervals : List (ℕ × TrackInterval)) : Bool :=
  overlapFrom ((intervals.map fun entry => entry.2.fromMm).destutter (· ≠ ·)) intervals
    fun _ => .default

/-- Reads sorted intervals edge by edge. -/
def overlapByEdge : List (ℕ × TrackInterval) → Bool
  | [] => false
  | first :: rest =>
    overlapOnEdge
        (first :: rest.takeWhile fun entry => entry.2.edgeId == first.2.edgeId)
      || overlapByEdge (rest.dropWhile fun entry => entry.2.edgeId == first.2.edgeId)
termination_by intervals => intervals.length
decreasing_by
  have hle := (List.dropWhile_suffix (l := rest)
    fun entry => entry.2.edgeId == first.2.edgeId).length_le
  exact Nat.lt_succ_of_le hle

/-- Two intervals of different owners share track. -/
def crossTrainIntervalOverlap (intervals : List (ℕ × TrackInterval)) : Bool :=
  overlapByEdge (intervals.mergeSort fun left right => (ownedIntervalOrder left right).isLE)

/-! ### What a maximum stands for -/

namespace TwoOwnerMaximum

/-- The maximum is that of a set of ends: it holds the furthest end, and the furthest end among
those of other owners. -/
def Represents : TwoOwnerMaximum → Set IntervalOwnerEnd → Prop
  | ⟨none, none⟩, ends => ∀ e, e ∉ ends
  | ⟨none, some _⟩, _ => False
  | ⟨some highest, none⟩, ends =>
    highest ∈ ends ∧ ∀ e ∈ ends, e.toMm ≤ highest.toMm ∧ e.owner = highest.owner
  | ⟨some highest, some second⟩, ends =>
    highest ∈ ends ∧ second ∈ ends ∧ second.owner ≠ highest.owner
      ∧ ∀ e ∈ ends, e.toMm ≤ highest.toMm ∧ (e.owner = highest.owner ∨ e.toMm ≤ second.toMm)

lemma represents_default : Represents .default ∅ := fun _ he => he

variable {ends : Set IntervalOwnerEnd} {maximum : TwoOwnerMaximum}

/-- A single end, or the ends of a single owner, with one more end. -/
lemma Represents.insert_one {highest : IntervalOwnerEnd}
    (h : Represents ⟨some highest, none⟩ ends) (candidate : IntervalOwnerEnd) :
    (insert ⟨some highest, none⟩ candidate).Represents (Insert.insert candidate ends) := by
  obtain ⟨hmem, hall⟩ := h
  by_cases hsame : highest.owner = candidate.owner
  · by_cases hfurther : highest.toMm < candidate.toMm
    · have hinsert : insert ⟨some highest, none⟩ candidate = ⟨some candidate, none⟩ := by
        simp [insert, hsame, hfurther]
      rw [hinsert]
      refine ⟨.inl rfl, Set.forall_mem_insert.mpr ⟨⟨le_rfl, rfl⟩, fun e he => ?_⟩⟩
      have hle := hall e he
      exact ⟨by omega, hle.2.trans hsame⟩
    · have hinsert : insert ⟨some highest, none⟩ candidate = ⟨some highest, none⟩ := by
        simp [insert, hsame, hfurther]
      rw [hinsert]
      exact ⟨.inr hmem, Set.forall_mem_insert.mpr ⟨⟨by omega, hsame.symm⟩, hall⟩⟩
  · by_cases hfurther : highest.toMm < candidate.toMm
    · have hinsert : insert ⟨some highest, none⟩ candidate = ⟨some candidate, some highest⟩ := by
        simp [insert, insertOther, hsame, hfurther]
      rw [hinsert]
      refine ⟨.inl rfl, .inr hmem, hsame,
        Set.forall_mem_insert.mpr ⟨⟨le_rfl, .inl rfl⟩, fun e he => ?_⟩⟩
      have hle := hall e he
      exact ⟨by omega, .inr hle.1⟩
    · have hinsert : insert ⟨some highest, none⟩ candidate = ⟨some highest, some candidate⟩ := by
        simp [insert, insertOther, hsame, hfurther]
      rw [hinsert]
      exact ⟨.inr hmem, .inl rfl, Ne.symm hsame, Set.forall_mem_insert.mpr ⟨⟨by omega, .inr le_rfl⟩,
        fun e he => ⟨(hall e he).1, .inl (hall e he).2⟩⟩⟩

/-- The ends of several owners, with one more end. -/
lemma Represents.insert_two {highest second : IntervalOwnerEnd}
    (h : Represents ⟨some highest, some second⟩ ends) (candidate : IntervalOwnerEnd) :
    (insert ⟨some highest, some second⟩ candidate).Represents (Insert.insert candidate ends) := by
  obtain ⟨hmem, hsecond, hother, hall⟩ := h
  have hle := (hall second hsecond).1
  by_cases hsame : highest.owner = candidate.owner
  · by_cases hfurther : highest.toMm < candidate.toMm
    · have hinsert : insert ⟨some highest, some second⟩ candidate
          = ⟨some candidate, some second⟩ := by simp [insert, hsame, hfurther]
      rw [hinsert]
      refine ⟨.inl rfl, .inr hsecond, hsame ▸ hother,
        Set.forall_mem_insert.mpr ⟨⟨le_rfl, .inl rfl⟩, fun e he => ?_⟩⟩
      have hend := hall e he
      exact ⟨by omega, hsame ▸ hend.2⟩
    · have hinsert : insert ⟨some highest, some second⟩ candidate
          = ⟨some highest, some second⟩ := by simp [insert, hsame, hfurther]
      rw [hinsert]
      exact ⟨.inr hmem, .inr hsecond, hother,
        Set.forall_mem_insert.mpr ⟨⟨by omega, .inl hsame.symm⟩, hall⟩⟩
  · by_cases hsecondSame : second.owner = candidate.owner
    · by_cases hfurther : second.toMm < candidate.toMm
      · by_cases hswap : highest.toMm < candidate.toMm
        · have hinsert : insert ⟨some highest, some second⟩ candidate
              = ⟨some candidate, some highest⟩ := by
            simp [insert, swapIfFurther, hsame, hsecondSame, hfurther, hswap]
          rw [hinsert]
          refine ⟨.inl rfl, .inr hmem, hsame,
            Set.forall_mem_insert.mpr ⟨⟨le_rfl, .inl rfl⟩, fun e he => ?_⟩⟩
          have hend := (hall e he).1
          exact ⟨by omega, .inr hend⟩
        · have hinsert : insert ⟨some highest, some second⟩ candidate
              = ⟨some highest, some candidate⟩ := by
            simp [insert, swapIfFurther, hsame, hsecondSame, hfurther, hswap]
          rw [hinsert]
          refine ⟨.inr hmem, .inl rfl, Ne.symm hsame,
            Set.forall_mem_insert.mpr ⟨⟨by omega, .inr le_rfl⟩, fun e he => ?_⟩⟩
          have hend := hall e he
          exact ⟨hend.1, hend.2.imp_right fun hle => by omega⟩
      · have hinsert : insert ⟨some highest, some second⟩ candidate
            = ⟨some highest, some second⟩ := by simp [insert, hsame, hsecondSame, hfurther]
        rw [hinsert]
        exact ⟨.inr hmem, .inr hsecond, hother,
          Set.forall_mem_insert.mpr ⟨⟨by omega, .inr (by omega)⟩, hall⟩⟩
    · by_cases hfurther : highest.toMm < candidate.toMm
      · have hinsert : insert ⟨some highest, some second⟩ candidate
            = ⟨some candidate, some highest⟩ := by
          simp [insert, insertOther, hsame, hsecondSame, hfurther]
        rw [hinsert]
        refine ⟨.inl rfl, .inr hmem, hsame,
          Set.forall_mem_insert.mpr ⟨⟨le_rfl, .inl rfl⟩, fun e he => ?_⟩⟩
        have hend := (hall e he).1
        exact ⟨by omega, .inr hend⟩
      · by_cases hsecondFurther : second.toMm < candidate.toMm
        · have hinsert : insert ⟨some highest, some second⟩ candidate
              = ⟨some highest, some candidate⟩ := by
            simp [insert, insertOther, hsame, hsecondSame, hfurther, hsecondFurther]
          rw [hinsert]
          refine ⟨.inr hmem, .inl rfl, Ne.symm hsame,
            Set.forall_mem_insert.mpr ⟨⟨by omega, .inr le_rfl⟩, fun e he => ?_⟩⟩
          have hend := hall e he
          exact ⟨hend.1, hend.2.imp_right fun hle => by omega⟩
        · have hinsert : insert ⟨some highest, some second⟩ candidate
              = ⟨some highest, some second⟩ := by
            simp [insert, insertOther, hsame, hsecondSame, hfurther, hsecondFurther]
          rw [hinsert]
          exact ⟨.inr hmem, .inr hsecond, hother,
            Set.forall_mem_insert.mpr ⟨⟨by omega, .inr (by omega)⟩, hall⟩⟩

/-- Taking an end adds it to the ends that the maximum is of. -/
theorem Represents.insert (h : maximum.Represents ends) (candidate : IntervalOwnerEnd) :
    (maximum.insert candidate).Represents (Insert.insert candidate ends) := by
  match maximum, h with
  | ⟨none, none⟩, h =>
    exact ⟨.inl rfl, Set.forall_mem_insert.mpr ⟨⟨le_rfl, rfl⟩, fun e he => absurd he (h e)⟩⟩
  | ⟨some highest, none⟩, h => exact h.insert_one candidate
  | ⟨some highest, some second⟩, h => exact h.insert_two candidate

/-- An end is covered by a maximum: the furthest end is as far, and so is the other one if the owner
has not the furthest end. -/
def Bounds (maximum : TwoOwnerMaximum) (e : IntervalOwnerEnd) : Prop :=
  ∃ highest, maximum.highest = some highest ∧ e.toMm ≤ highest.toMm
    ∧ (e.owner = highest.owner
      ∨ ∃ second, maximum.secondHighest = some second ∧ e.toMm ≤ second.toMm)

/-- Ends that the maximum bounds may be added to those that it is of. -/
lemma Represents.union {ends more : Set IntervalOwnerEnd}
    (h : maximum.Represents ends) (hmore : ∀ e ∈ more, maximum.Bounds e) :
    maximum.Represents (ends ∪ more) := by
  match maximum, h with
  | ⟨none, none⟩, h =>
    rintro e (he | he)
    · exact h e he
    · obtain ⟨highest, hhighest, -⟩ := hmore e he
      cases hhighest
  | ⟨some highest, none⟩, h =>
    refine ⟨.inl h.1, ?_⟩
    rintro e (he | he)
    · exact h.2 e he
    · obtain ⟨_, ⟨⟩, hle, howner | ⟨_, ⟨⟩, -⟩⟩ := hmore e he
      exact ⟨hle, howner⟩
  | ⟨some highest, some second⟩, h =>
    refine ⟨.inl h.1, .inl h.2.1, h.2.2.1, ?_⟩
    rintro e (he | he)
    · exact h.2.2.2 e he
    · obtain ⟨_, ⟨⟩, hle, howner | ⟨_, ⟨⟩, hsecond⟩⟩ := hmore e he
      · exact ⟨hle, .inl howner⟩
      · exact ⟨hle, .inr hsecond⟩

lemma Represents.bounds
    (h : maximum.Represents ends) {e : IntervalOwnerEnd} (he : e ∈ ends) : maximum.Bounds e := by
  match maximum, h with
  | ⟨none, none⟩, h => exact absurd he (h e)
  | ⟨some highest, none⟩, h => exact ⟨_, rfl, (h.2 e he).1, .inl (h.2 e he).2⟩
  | ⟨some highest, some second⟩, h =>
    have hend := h.2.2.2 e he
    exact ⟨_, rfl, hend.1, hend.2.imp_right fun hle => ⟨_, rfl, hle⟩⟩

lemma Bounds.mono {e e' : IntervalOwnerEnd} (h : maximum.Bounds e)
    (howner : e'.owner = e.owner) (hle : e'.toMm ≤ e.toMm) : maximum.Bounds e' := by
  obtain ⟨highest, hhighest, hfar, hsame | ⟨second, hsecond, hnear⟩⟩ := h
  · exact ⟨highest, hhighest, hle.trans hfar, .inl (howner.trans hsame)⟩
  · exact ⟨highest, hhighest, hle.trans hfar, .inr ⟨second, hsecond, hle.trans hnear⟩⟩

lemma Bounds.of_two {e a b : IntervalOwnerEnd} (ha : maximum.Bounds a)
    (hb : maximum.Bounds b) (howners : b.owner ≠ a.owner) (hea : e.toMm ≤ a.toMm)
    (heb : e.toMm ≤ b.toMm) : maximum.Bounds e := by
  obtain ⟨highest, hhighest, hfar, hsame | ⟨second, hsecond, hnear⟩⟩ := ha
  · obtain ⟨_, hagain, hfar', hsame' | ⟨second, hsecond, hnear⟩⟩ := hb
    · rw [hhighest] at hagain
      cases hagain
      exact absurd (hsame'.trans hsame.symm) howners
    · exact ⟨highest, hhighest, hea.trans hfar, .inr ⟨second, hsecond, heb.trans hnear⟩⟩
  · exact ⟨highest, hhighest, hea.trans hfar, .inr ⟨second, hsecond, hea.trans hnear⟩⟩

/-- Merging two maxima gives the maximum of the ends of both. -/
theorem Represents.merge {maximum other : TwoOwnerMaximum} {ends more : Set IntervalOwnerEnd}
    (h : maximum.Represents ends) (hother : other.Represents more) :
    (maximum.merge other).Represents (ends ∪ more) := by
  match other, hother with
  | ⟨none, none⟩, hother =>
    have hempty : more = ∅ := Set.eq_empty_of_forall_notMem hother
    rw [hempty, Set.union_empty]
    exact h
  | ⟨some highest, none⟩, hother =>
    have hinsert := h.insert highest
    have hall : ∀ e ∈ more, (maximum.insert highest).Bounds e := fun e he =>
      (hinsert.bounds (.inl rfl)).mono (hother.2 e he).2 (hother.2 e he).1
    have hunion := hinsert.union hall
    rwa [Set.insert_union, ← Set.union_insert, Set.insert_eq_of_mem hother.1] at hunion
  | ⟨some highest, some second⟩, hother =>
    obtain ⟨hhighest, hsecond, howners, hends⟩ := hother
    have hinsert := (h.insert highest).insert second
    have hall : ∀ e ∈ more, ((maximum.insert highest).insert second).Bounds e := by
      intro e he
      have hfirst := hinsert.bounds (.inr (.inl rfl))
      rcases (hends e he).2 with howner | hle
      · exact hfirst.mono howner (hends e he).1
      · exact hfirst.of_two (hinsert.bounds (.inl rfl)) howners (hends e he).1 hle
    have hunion := hinsert.union hall
    rwa [Set.insert_union, Set.insert_union, ← Set.union_insert, ← Set.union_insert,
      Set.insert_eq_of_mem hhighest, Set.insert_eq_of_mem hsecond] at hunion

/-- The furthest end of another owner lies behind a place just if some end of another owner does. -/
theorem Represents.highestExcept_iff (h : maximum.Represents ends) (owner : ℕ) (fromMm : Int) :
    ((maximum.highestExcept owner).any fun toMm => decide (fromMm < toMm)) = true
      ↔ ∃ e ∈ ends, e.owner ≠ owner ∧ fromMm < e.toMm := by
  match maximum, h with
  | ⟨none, none⟩, h =>
    constructor
    · exact fun hany => nomatch hany
    · rintro ⟨e, he, -⟩
      exact absurd he (h e)
  | ⟨some highest, none⟩, h =>
    by_cases hsame : highest.owner = owner
    · have hexcept : highestExcept ⟨some highest, none⟩ owner = none := by
        simp [highestExcept, Option.filter, hsame]
      rw [hexcept]
      constructor
      · exact fun hany => nomatch hany
      · rintro ⟨e, he, hne, -⟩
        exact absurd ((h.2 e he).2.trans hsame) hne
    · have hexcept : highestExcept ⟨some highest, none⟩ owner = some highest.toMm := by
        simp [highestExcept, Option.filter, hsame]
      rw [hexcept, Option.any_some, decide_eq_true_eq]
      constructor
      · exact fun hlt => ⟨highest, h.1, hsame, hlt⟩
      · rintro ⟨e, he, -, hlt⟩
        exact hlt.trans_le (h.2 e he).1
  | ⟨some highest, some second⟩, h =>
    obtain ⟨hmem, hsecond, howners, hall⟩ := h
    by_cases hsame : highest.owner = owner
    · have hother : second.owner ≠ owner := hsame ▸ howners
      have hexcept : highestExcept ⟨some highest, some second⟩ owner = some second.toMm := by
        simp [highestExcept, Option.filter, hsame, hother]
      rw [hexcept, Option.any_some, decide_eq_true_eq]
      constructor
      · exact fun hlt => ⟨second, hsecond, hother, hlt⟩
      · rintro ⟨e, he, hne, hlt⟩
        rcases (hall e he).2 with howner | hle
        · exact absurd (howner.trans hsame) hne
        · exact hlt.trans_le hle
    · have hexcept : highestExcept ⟨some highest, some second⟩ owner = some highest.toMm := by
        simp [highestExcept, Option.filter, hsame]
      rw [hexcept, Option.any_some, decide_eq_true_eq]
      constructor
      · exact fun hlt => ⟨highest, hmem, hsame, hlt⟩
      · rintro ⟨e, he, -, hlt⟩
        exact hlt.trans_le (hall e he).1

end TwoOwnerMaximum

/-! ### The starts of an edge -/

lemma destutter_ascending {as : List Int} (h : as.Pairwise (· ≤ ·)) :
    (as.destutter (· ≠ ·)).Pairwise (· < ·) ∧ ∀ a, a ∈ as.destutter (· ≠ ·) ↔ a ∈ as := by
  have hdedup : as.destutter (· ≠ ·) = as.dedup := h.destutter_eq_dedup
  have hsorted : as.dedup.Pairwise (· ≤ ·) := h.sublist (List.dedup_sublist as)
  rw [hdedup]
  refine ⟨(hsorted.and (List.nodup_dedup as)).imp fun hle => ?_, fun a => List.mem_dedup⟩
  exact lt_of_le_of_ne hle.1 hle.2

variable {starts : List Int} {x y : ℕ × TrackInterval}

/-- In strictly ascending starts, those before a place are the ones that a prefix holds. -/
lemma idxOf_lt_length_iff (h : starts.Pairwise (· < ·)) {start toMm : Int}
    (hstart : start ∈ starts) :
    starts.idxOf start < (starts.takeWhile fun fromMm => decide (fromMm < toMm)).length
      ↔ start < toMm := by
  induction starts with
  | nil => exact absurd hstart List.not_mem_nil
  | cons first rest ih =>
    obtain ⟨hfirst, hrest⟩ := List.pairwise_cons.mp h
    by_cases hlt : first < toMm
    · have htake : (first :: rest).takeWhile (fun fromMm => decide (fromMm < toMm))
          = first :: rest.takeWhile fun fromMm => decide (fromMm < toMm) := by
        simp [hlt]
      rw [htake, List.length_cons]
      rcases List.mem_cons.mp hstart with rfl | hstart
      · simp [hlt]
      · have hne : first ≠ start := (hfirst start hstart).ne
        rw [List.idxOf_cons_ne _ hne, Nat.succ_lt_succ_iff]
        exact ih hrest hstart
    · have htake : (first :: rest).takeWhile (fun fromMm => decide (fromMm < toMm)) = [] := by
        simp [hlt]
      rw [htake]
      refine iff_of_false (Nat.not_lt_zero _) fun hbefore => hlt ?_
      rcases List.mem_cons.mp hstart with rfl | hstart
      · exact hbefore
      · exact (hfirst start hstart).trans hbefore

/-! ### Reading one edge -/

/-- Two intervals of different owners share track. -/
def Clash (x y : ℕ × TrackInterval) : Prop := x.1 ≠ y.1 ∧ x.2.overlaps y.2 = true

lemma Clash.symm (h : Clash x y) : Clash y x :=
  ⟨h.1.symm, by rw [TrackInterval.overlaps_comm, h.2]⟩

lemma clash_iff (hedge : x.2.edgeId = y.2.edgeId) :
    Clash x y ↔ x.1 ≠ y.1 ∧ x.2.fromMm < y.2.toMm ∧ y.2.fromMm < x.2.toMm := by
  simp [Clash, TrackInterval.overlaps, hedge]

/-- The ends of the intervals read, each at the position of its start. -/
def endsAt (starts : List Int) (read : List (ℕ × TrackInterval)) : Set (ℕ × IntervalOwnerEnd) :=
  {item | ∃ entry ∈ read, item = (starts.idxOf entry.2.fromMm + 1, ⟨entry.1, entry.2.toMm⟩)}

lemma endsAt_append (starts : List Int) (read : List (ℕ × TrackInterval)) (owner : ℕ)
    (interval : TrackInterval) :
    endsAt starts (read ++ [(owner, interval)])
      = insert (starts.idxOf interval.fromMm + 1, ⟨owner, interval.toMm⟩) (endsAt starts read) := by
  ext item
  simp only [endsAt, Set.mem_ofPred_eq, List.mem_append, List.mem_singleton, Set.mem_insert_iff]
  constructor
  · rintro ⟨entry, hentry | rfl, hitem⟩
    · exact .inr ⟨entry, hentry, hitem⟩
    · exact .inl hitem
  · rintro (hitem | ⟨entry, hentry, hitem⟩)
    · exact ⟨_, .inr rfl, hitem⟩
    · exact ⟨entry, .inl hentry, hitem⟩

/-- Of what has been read, the end furthest behind tells whether an interval clashes. -/
lemma clash_with_read (hstarts : starts.Pairwise (· < ·))
    {read : List (ℕ × TrackInterval)} {prefixMaxima : ℕ → TwoOwnerMaximum}
    (htree : Fenwick.Holds TwoOwnerMaximum.Represents (starts.length + 1) prefixMaxima
      (endsAt starts read)) {owner : ℕ} {interval : TrackInterval}
    (hread : ∀ entry ∈ read, entry.2.fromMm ∈ starts ∧ entry.2.edgeId = interval.edgeId) :
    ((TwoOwnerMaximum.highestExcept (Fenwick.gather TwoOwnerMaximum.merge prefixMaxima
        (starts.takeWhile fun fromMm => decide (fromMm < interval.toMm)).length .default)
        owner).any fun toMm => decide (interval.fromMm < toMm)) = true
      ↔ ∃ entry ∈ read, Clash entry (owner, interval) := by
  have hlength : (starts.takeWhile fun fromMm => decide (fromMm < interval.toMm)).length
      < starts.length + 1 := Nat.lt_succ_of_le (List.takeWhile_prefix _).length_le
  have hgather := htree.gather (fun _ _ _ _ ha hb => ha.merge hb)
    (by rintro position item ⟨entry, -, heq⟩; cases heq; exact Nat.succ_pos _)
    hlength TwoOwnerMaximum.represents_default
  rw [hgather.highestExcept_iff]
  constructor
  · rintro ⟨e, (he | ⟨position, ⟨entry, hentry, heq⟩, hbefore⟩), howner, hlt⟩
    · exact absurd he (Set.notMem_empty e)
    · cases heq
      obtain ⟨hstart, hedge⟩ := hread entry hentry
      have hprefix := (idxOf_lt_length_iff hstarts hstart).mp hbefore
      exact ⟨entry, hentry, (clash_iff hedge).mpr ⟨howner, hprefix, hlt⟩⟩
  · rintro ⟨entry, hentry, hclash⟩
    obtain ⟨hstart, hedge⟩ := hread entry hentry
    obtain ⟨howner, hprefix, hlt⟩ := (clash_iff hedge).mp hclash
    exact ⟨⟨entry.1, entry.2.toMm⟩, .inr ⟨_, ⟨entry, hentry, rfl⟩,
      (idxOf_lt_length_iff hstarts hstart).mpr hprefix⟩, howner, hlt⟩

/-- Reading on finds nothing just if what is left clashes neither with what has been read nor among
itself. -/
lemma overlapFrom_eq_false (hstarts : starts.Pairwise (· < ·)) {edgeId : String}
    (intervals : List (ℕ × TrackInterval)) {read : List (ℕ × TrackInterval)}
    {prefixMaxima : ℕ → TwoOwnerMaximum}
    (hall : ∀ entry ∈ read ++ intervals, entry.2.fromMm ∈ starts ∧ entry.2.edgeId = edgeId)
    (htree : Fenwick.Holds TwoOwnerMaximum.Represents (starts.length + 1) prefixMaxima
      (endsAt starts read)) :
    overlapFrom starts intervals prefixMaxima = false
      ↔ (∀ x ∈ read, ∀ y ∈ intervals, ¬ Clash x y)
        ∧ intervals.Pairwise fun x y => ¬ Clash x y := by
  induction intervals generalizing read prefixMaxima with
  | nil => simp [overlapFrom]
  | cons entry rest ih =>
    obtain ⟨owner, interval⟩ := entry
    have hentry := hall (owner, interval) (by simp)
    have hclash := @clash_with_read _ hstarts _ _ htree owner interval fun entry hin =>
      ⟨(hall entry (by simp [hin])).1, by rw [(hall entry (by simp [hin])).2, hentry.2]⟩
    have hspread := htree.spread (Nat.succ_pos (starts.idxOf interval.fromMm))
      (fun maximum ends hends => hends.insert ⟨owner, interval.toMm⟩)
    rw [← endsAt_append] at hspread
    have hrest := ih (by simpa using hall) hspread
    simp only [overlapFrom]
    split
    next hfound =>
      obtain ⟨x, hx, hbad⟩ := hclash.mp hfound
      exact iff_of_false (by simp) fun h => h.1 x hx _ List.mem_cons_self hbad
    next hnone =>
      have hfree : ∀ x ∈ read, ¬ Clash x (owner, interval) := fun x hx hbad =>
        hnone (hclash.mpr ⟨x, hx, hbad⟩)
      rw [hrest, List.pairwise_cons]
      constructor
      · rintro ⟨hread, hpairs⟩
        refine ⟨fun x hx y hy => ?_, fun y hy => ?_, hpairs⟩
        · rcases List.mem_cons.mp hy with rfl | hy
          · exact hfree x hx
          · exact hread x (List.mem_append_left _ hx) y hy
        · exact hread _ (List.mem_append_right _ List.mem_cons_self) y hy
      · rintro ⟨hread, hfirst, hpairs⟩
        refine ⟨fun x hx y hy => ?_, hpairs⟩
        rcases List.mem_append.mp hx with hx | hx
        · exact hread x hx y (List.mem_cons_of_mem _ hy)
        · rw [List.mem_singleton.mp hx]
          exact hfirst y hy

/-- Reading the intervals of one edge finds nothing just if no two of them clash. -/
lemma overlapOnEdge_eq_false {edgeId : String} {intervals : List (ℕ × TrackInterval)}
    (hedge : ∀ entry ∈ intervals, entry.2.edgeId = edgeId)
    (hsorted : intervals.Pairwise fun x y => x.2.fromMm ≤ y.2.fromMm) :
    overlapOnEdge intervals = false ↔ intervals.Pairwise fun x y => ¬ Clash x y := by
  obtain ⟨hstarts, hmem⟩ := destutter_ascending
    (List.pairwise_map.mpr hsorted : (intervals.map fun entry => entry.2.fromMm).Pairwise (· ≤ ·))
  have hall : ∀ entry ∈ ([] : List (ℕ × TrackInterval)) ++ intervals,
      entry.2.fromMm ∈ (intervals.map fun entry => entry.2.fromMm).destutter (· ≠ ·)
        ∧ entry.2.edgeId = edgeId := fun entry hin =>
    ⟨(hmem _).mpr (List.mem_map_of_mem hin), hedge entry hin⟩
  have hnone : endsAt ((intervals.map fun entry => entry.2.fromMm).destutter (· ≠ ·)) [] = ∅ :=
    Set.eq_empty_of_forall_notMem fun item hitem => by
      obtain ⟨entry, hin, -⟩ := hitem
      exact absurd hin List.not_mem_nil
  have htree : Fenwick.Holds TwoOwnerMaximum.Represents
      (((intervals.map fun entry => entry.2.fromMm).destutter (· ≠ ·)).length + 1)
      (fun _ => .default)
      (endsAt ((intervals.map fun entry => entry.2.fromMm).destutter (· ≠ ·)) []) := by
    rw [hnone]
    intro node _ _ e he
    obtain ⟨position, hin, -⟩ := he
    exact hin
  unfold overlapOnEdge
  rw [overlapFrom_eq_false hstarts intervals hall htree]
  exact ⟨fun h => h.2, fun h => ⟨fun x hx => absurd hx List.not_mem_nil, h⟩⟩

/-! ### All edges -/

/-- Intervals in order are in the order of their edges, and on one edge in the order of their
starts. -/
lemma edges_of_order (h : (ownedIntervalOrder x y).isLE = true) :
    (compare x.2.edgeId y.2.edgeId).isLE = true
      ∧ (x.2.edgeId = y.2.edgeId → x.2.fromMm ≤ y.2.fromMm) := by
  unfold ownedIntervalOrder at h
  refine ⟨Ordering.isLE_left_of_isLE_then h, fun hedge => ?_⟩
  rcases Ordering.isLE_then_iff_or.mp h with hlt | ⟨-, hrest⟩
  · rw [hedge, Std.compare_self] at hlt
    exact nomatch hlt
  · exact Int.isLE_compare.mp (Ordering.isLE_left_of_isLE_then hrest)

instance : Std.TransCmp ownedIntervalOrder :=
  inferInstanceAs (Std.TransCmp (compareLex
    (compareOn fun entry : ℕ × TrackInterval => entry.2.edgeId)
    (compareLex (compareOn fun entry : ℕ × TrackInterval => entry.2.fromMm)
      (compareLex (compareOn fun entry : ℕ × TrackInterval => entry.2.toMm)
        (compareOn fun entry : ℕ × TrackInterval => entry.1)))))

lemma sorted_ownedIntervals (intervals : List (ℕ × TrackInterval)) :
    (intervals.mergeSort fun left right => (ownedIntervalOrder left right).isLE).Pairwise
      fun x y => (ownedIntervalOrder x y).isLE = true :=
  List.pairwise_mergeSort (fun _ _ _ => Std.TransCmp.isLE_trans)
    (fun x y => by
      have hswap : ownedIntervalOrder y x = (ownedIntervalOrder x y).swap :=
        Std.OrientedCmp.eq_swap
      rw [hswap]
      cases ownedIntervalOrder x y <;> rfl) intervals

/-- What follows the intervals of the first edge is on other edges. -/
lemma edge_ne_of_dropWhile {first : ℕ × TrackInterval} {rest : List (ℕ × TrackInterval)}
    (h : (first :: rest).Pairwise fun x y => (ownedIntervalOrder x y).isLE = true)
    (hy : y ∈ rest.dropWhile fun entry => entry.2.edgeId == first.2.edgeId) :
    y.2.edgeId ≠ first.2.edgeId := by
  obtain ⟨hfirst, hrest⟩ := List.pairwise_cons.mp h
  have hsuffix := List.dropWhile_suffix (l := rest) fun entry => entry.2.edgeId == first.2.edgeId
  cases hdrop : rest.dropWhile fun entry => entry.2.edgeId == first.2.edgeId with
  | nil => rw [hdrop] at hy; exact absurd hy List.not_mem_nil
  | cons next others =>
    have hnext : next.2.edgeId ≠ first.2.edgeId := by
      have hhead := List.head?_dropWhile_not (fun entry => entry.2.edgeId == first.2.edgeId) rest
      rw [hdrop] at hhead
      simpa using hhead
    rw [hdrop] at hy hsuffix
    rcases List.mem_cons.mp hy with rfl | hy
    · exact hnext
    · -- The next interval lies between the first one and this one in the order.
      intro heq
      have hafter := (List.pairwise_cons.mp (hrest.sublist hsuffix.sublist)).1 y hy
      have hback := (edges_of_order hafter).1
      rw [heq] at hback
      have hforth := (edges_of_order (hfirst next (hsuffix.subset List.mem_cons_self))).1
      exact hnext (Std.LawfulEqCmp.eq_of_compare (Std.OrientedCmp.isLE_antisymm hback hforth))

/-- Reading sorted intervals finds nothing just if no two of them clash. -/
lemma overlapByEdge_eq_false (intervals : List (ℕ × TrackInterval))
    (hsorted : intervals.Pairwise fun x y => (ownedIntervalOrder x y).isLE = true) :
    overlapByEdge intervals = false ↔ intervals.Pairwise fun x y => ¬ Clash x y := by
  induction intervals using overlapByEdge.induct with
  | case1 => simp [overlapByEdge]
  | case2 first rest ih =>
    have hsplit : first :: rest
        = (first :: rest.takeWhile fun entry => entry.2.edgeId == first.2.edgeId)
          ++ rest.dropWhile fun entry => entry.2.edgeId == first.2.edgeId := by
      rw [List.cons_append, List.takeWhile_append_dropWhile]
    have hedge : ∀ entry ∈ first :: rest.takeWhile fun entry => entry.2.edgeId == first.2.edgeId,
        entry.2.edgeId = first.2.edgeId := by
      intro entry hin
      rcases List.mem_cons.mp hin with rfl | hin
      · rfl
      · exact beq_iff_eq.mp (List.mem_takeWhile_imp
          (p := fun entry : ℕ × TrackInterval => entry.2.edgeId == first.2.edgeId) hin)
    have hparts := hsorted
    rw [hsplit] at hparts
    obtain ⟨hsame, hother, -⟩ := List.pairwise_append.mp hparts
    have hstarts := hsame.imp_of_mem fun {x y} hx hy horder =>
      (edges_of_order horder).2 ((hedge x hx).trans (hedge y hy).symm)
    have hapart : ∀ x ∈ first :: rest.takeWhile fun entry => entry.2.edgeId == first.2.edgeId,
        ∀ y ∈ rest.dropWhile fun entry => entry.2.edgeId == first.2.edgeId, ¬ Clash x y := by
      intro x hx y hy hclash
      have hne := edge_ne_of_dropWhile hsorted hy
      have hedges : x.2.edgeId = y.2.edgeId := by
        have hoverlap := hclash.2
        unfold TrackInterval.overlaps at hoverlap
        simp only [Bool.and_eq_true, beq_iff_eq] at hoverlap
        exact hoverlap.1.1
      exact hne (hedges.symm.trans (hedge x hx))
    rw [overlapByEdge, Bool.or_eq_false_iff, overlapOnEdge_eq_false hedge hstarts, ih hother]
    conv_rhs => rw [hsplit]
    rw [List.pairwise_append]
    exact ⟨fun h => ⟨h.1, h.2, hapart⟩, fun h => ⟨h.1, h.2.1⟩⟩

/-- **The indexed check finds an overlap exactly if two intervals of different owners share
track.**  The intervals may be empty, reversed or repeated. -/
theorem crossTrainIntervalOverlap_iff (intervals : List (ℕ × TrackInterval)) :
    crossTrainIntervalOverlap intervals = true
      ↔ ∃ x ∈ intervals, ∃ y ∈ intervals, x.1 ≠ y.1 ∧ x.2.overlaps y.2 = true := by
  have hperm := List.mergeSort_perm intervals
    fun left right => (ownedIntervalOrder left right).isLE
  have hfalse := overlapByEdge_eq_false _ (sorted_ownedIntervals intervals)
  rw [hperm.pairwise_iff fun {x y} hnot hclash => hnot hclash.symm] at hfalse
  constructor
  · intro h
    by_contra hnone
    have hpairs : intervals.Pairwise fun x y => ¬ Clash x y :=
      List.pairwise_of_forall_mem_list fun x hx y hy hclash => hnone ⟨x, hx, y, hy, hclash⟩
    rw [crossTrainIntervalOverlap, hfalse.mpr hpairs] at h
    exact nomatch h
  · rintro ⟨x, hx, y, hy, hclash⟩
    by_contra hnot
    have hpairs := hfalse.mp (Bool.eq_false_iff.mpr hnot)
    have hback : intervals.Pairwise (flip fun x y => ¬ Clash x y) :=
      hpairs.imp fun hnot hclash => hnot hclash.symm
    exact hpairs.forall_of_forall_of_flip (fun x _ hself => hself.1 rfl) hback hx hy hclash

lemma crossTrainIntervalOverlap_eq_false {intervals : List (ℕ × TrackInterval)} :
    crossTrainIntervalOverlap intervals = false
      ↔ ∀ x ∈ intervals, ∀ y ∈ intervals, ¬ Clash x y := by
  have hperm := List.mergeSort_perm intervals
    fun left right => (ownedIntervalOrder left right).isLE
  rw [crossTrainIntervalOverlap, overlapByEdge_eq_false _ (sorted_ownedIntervals intervals),
    hperm.pairwise_iff fun {x y} hnot hclash => hnot hclash.symm]
  refine ⟨fun hpairs x hx y hy => ?_, List.pairwise_of_forall_mem_list⟩
  have hback : intervals.Pairwise (flip fun x y => ¬ Clash x y) :=
    hpairs.imp fun hnot hclash => hnot hclash.symm
  exact hpairs.forall_of_forall_of_flip (fun x _ hself => hself.1 rfl) hback hx hy

/-! ### The owners of locked resources -/

/-- Notes who owns a resource, unless another one does. -/
def noteOwner (owners : Registry String String) (claim : String × String) :
    Option (Registry String String) :=
  match owners[claim.1]? with
  | some owner => if owner = claim.2 then some owners else none
  | none => some (owners.insert claim.1 claim.2)

/-- Two locks of different trains have a resource in common. -/
def crossTrainRouteLockOverlap (locks : List RouteLock) : Bool :=
  ((locks.flatMap fun lock => lock.resources.toList.map (·, lock.trainId)).foldlM noteOwner
    ∅).isNone

/-- The owners can be noted just if each resource has one, the one noted before. -/
lemma noteOwners_isSome (claims : List (String × String)) (owners : Registry String String) :
    (claims.foldlM noteOwner owners).isSome = true ↔
      (∀ claim ∈ claims, owners[claim.1]?.all (· = claim.2) = true) ∧
        ∀ a ∈ claims, ∀ b ∈ claims, a.1 = b.1 → a.2 = b.2 := by
  induction claims generalizing owners with
  | nil => simp
  | cons claim claims ih =>
    rw [List.foldlM_cons, noteOwner]
    cases hnoted : owners[claim.1]? with
    | some owner =>
      by_cases heq : owner = claim.2
      · simp only [heq, if_true, Option.bind_eq_bind, Option.bind_some, ih]
        grind
      · simp only [heq, if_false, Option.bind_eq_bind, Option.bind_none]
        grind
    | none =>
      simp only [Option.bind_eq_bind, Option.bind_some, ih, Registry.getElem?_insert]
      grind

/-! ### The trains and the locks of the world -/

namespace OperationalWorld

variable (w : OperationalWorld)

/-- The track of the trains, in their order. -/
def ownedIntervals : List (ℕ × TrackInterval) :=
  (Registry.values w.trains).zipIdx.flatMap fun entry =>
    entry.1.occupiedIntervals.map fun interval => (entry.2, interval)

lemma mem_ownedIntervals {owner : ℕ} {interval : TrackInterval} :
    (owner, interval) ∈ w.ownedIntervals
      ↔ ∃ entry, w.trains.toList[owner]? = some entry ∧ interval ∈ entry.2.occupiedIntervals := by
  unfold ownedIntervals Registry.values
  rw [List.mem_flatMap]
  constructor
  · rintro ⟨⟨train, i⟩, hin, hmem⟩
    obtain ⟨_, hinterval, heq⟩ := List.mem_map.mp hmem
    cases heq
    rw [List.mem_zipIdx_iff_getElem?, List.getElem?_map, Option.map_eq_some_iff] at hin
    obtain ⟨entry, hentry, rfl⟩ := hin
    exact ⟨entry, hentry, hinterval⟩
  · rintro ⟨entry, hentry, hinterval⟩
    refine ⟨(entry.2, owner), ?_, List.mem_map.mpr ⟨interval, hinterval, rfl⟩⟩
    rw [List.mem_zipIdx_iff_getElem?, List.getElem?_map, hentry]
    rfl

/-- Different places in the list of trains are different trains. -/
lemma trains_apart {i j : ℕ} {a b : String × OperationalTrain}
    (ha : w.trains.toList[i]? = some a) (hb : w.trains.toList[j]? = some b) :
    i ≠ j ↔ a.1 ≠ b.1 := by
  have hkeys : (w.trains.toList.map Prod.fst).Nodup :=
    List.pairwise_map.mpr ((ExtTreeMap.distinct_keys_toList (t := w.trains)).imp
      fun hne heq => hne (by rw [heq, Std.compare_self]))
  have ha' : (w.trains.toList.map Prod.fst)[i]? = some a.1 := by rw [List.getElem?_map, ha]; rfl
  have hb' : (w.trains.toList.map Prod.fst)[j]? = some b.1 := by rw [List.getElem?_map, hb]; rfl
  rw [not_iff_not]
  constructor
  · rintro rfl
    rw [ha] at hb
    cases hb
    rfl
  · intro heq
    rw [heq, ← hb'] at ha'
    exact (List.getElem?_inj (List.getElem?_eq_some_iff.mp (ha'.trans hb')).1 hkeys).mp ha'

/-- **No two trains stand on the same track just if the indexed check finds no overlap.** -/
theorem intervalsAreSeparate_iff :
    w.intervalsAreSeparate = true ↔ crossTrainIntervalOverlap w.ownedIntervals = false := by
  rw [crossTrainIntervalOverlap_eq_false]
  unfold intervalsAreSeparate
  simp only [List.all_eq_true, Bool.or_eq_true, Bool.not_eq_true', beq_iff_eq]
  constructor
  · rintro hall ⟨i, x⟩ hx ⟨j, y⟩ hy ⟨hne, hoverlap⟩
    obtain ⟨a, ha, hxa⟩ := w.mem_ownedIntervals.mp hx
    obtain ⟨b, hb, hyb⟩ := w.mem_ownedIntervals.mp hy
    rcases hall a (List.mem_of_getElem? ha) b (List.mem_of_getElem? hb) with hsame | hnone
    · exact (w.trains_apart ha hb).mp hne hsame
    · have hsome : intervalsOverlap a.2.occupiedIntervals b.2.occupiedIntervals = true :=
        List.any_eq_true.mpr ⟨x, hxa, List.any_eq_true.mpr ⟨y, hyb, hoverlap⟩⟩
      rw [hnone] at hsome
      exact nomatch hsome
  · intro hnone a ha b hb
    by_contra hbad
    obtain ⟨hne, hoverlap⟩ := not_or.mp hbad
    obtain ⟨i, hi⟩ := List.getElem?_of_mem ha
    obtain ⟨j, hj⟩ := List.getElem?_of_mem hb
    obtain ⟨x, hx, hany⟩ := List.any_eq_true.mp (Bool.not_eq_false _ ▸ hoverlap)
    obtain ⟨y, hy, hxy⟩ := List.any_eq_true.mp hany
    exact hnone (i, x) (w.mem_ownedIntervals.mpr ⟨a, hi, hx⟩) (j, y)
      (w.mem_ownedIntervals.mpr ⟨b, hj, hy⟩) ⟨(w.trains_apart hi hj).mpr hne, hxy⟩

/-- **No two trains hold one resource just if the scan of the locks finds none of two owners.** -/
theorem locksAreSeparate_iff : w.locksAreSeparate = true ↔
    crossTrainRouteLockOverlap (Registry.values w.routeLocks) = false := by
  rw [crossTrainRouteLockOverlap, ← Option.not_isSome, Bool.not_eq_false', noteOwners_isSome]
  simp only [locksAreSeparate, List.all_eq_true, Bool.or_eq_true, beq_iff_eq,
    KeySet.disjoint_iff, List.mem_flatMap, List.mem_map, Std.ExtTreeSet.mem_toList, Registry.values]
  constructor
  · refine fun hapart => ⟨by simp, ?_⟩
    rintro _ ⟨_, ⟨a, ha, rfl⟩, _, hresource, rfl⟩ _ ⟨_, ⟨b, hb, rfl⟩, _, hother, rfl⟩ rfl
    exact (hapart a ha b hb).resolve_right fun hfree => hfree _ hresource hother
  · rintro ⟨-, hsame⟩ a ha b hb
    refine or_iff_not_imp_right.mpr fun hshared => ?_
    push Not at hshared
    obtain ⟨_, hresource, hother⟩ := hshared
    exact hsame _ ⟨_, ⟨a, ha, rfl⟩, _, hresource, rfl⟩ _ ⟨_, ⟨b, hb, rfl⟩, _, hother, rfl⟩ rfl

end OperationalWorld

end Zugfolge
