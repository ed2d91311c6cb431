/-
The times of a claim and the place of the train.

The timeline of a run has an arrival and a departure at every cut of its way.  Along the way
they do not fall, and what is known of the head of the train at an instant is between which
cuts it is.  A claim must be held as long as any part of the train may be within it.

* `zeitachse_inOrder`: the timeline of an itinerary is in order and has all cuts;
* `endsReleased`, `profile_times_iff`: the claims are held exactly when no claim is released
  while the train still dwells at the end of its way.
-/
import Zugfolge.Conflict.Coverage

namespace Zugfolge.Conflict

open Infra (Length TrainCharacteristics RunPath Dynamics RunningTimeCheckpoint marks pathLength)
open Foundation
open Std (ExtTreeMap ExtTreeSet)

/-! ### A timeline in order -/

/-- Arrival and departure at the cuts do not fall along the way; the last cut is at `bis`. -/
structure InOrder (arrival departure : Registry Length Int) (bis : Length)
    (ankunft abfahrt : Int) : Prop where
  arrives : arrival[bis]? = some ankunft
  departs : departure[bis]? = some abfahrt
  bounded : abfahrt ≤ i64Max
  start : arrival[(0 : Length)]? = some 0
  leaves : ∀ (p : Length) (a : Int), arrival[p]? = some a → ∃ d, departure[p]? = some d
  came : ∀ (p : Length) (d : Int), departure[p]? = some d → ∃ a, arrival[p]? = some a
  along : ∀ (p : Length) (a : Int), arrival[p]? = some a → 0 ≤ p ∧ p ≤ bis ∧ 0 ≤ a
  waits : ∀ (p : Length) (a d : Int), arrival[p]? = some a → departure[p]? = some d → a ≤ d
  ordered : ∀ (p q : Length) (d a : Int),
    departure[p]? = some d → arrival[q]? = some a → p < q → d ≤ a

namespace InOrder

variable {arrival departure : Registry Length Int} {bis position : Length}
  {ankunft abfahrt kommt geht : Int}

lemma le_abfahrt (h : InOrder arrival departure bis ankunft abfahrt) {p : Length} {d : Int}
    (hd : departure[p]? = some d) : d ≤ abfahrt := by
  obtain ⟨a, ha⟩ := h.came p d hd
  rcases lt_or_eq_of_le (h.along p a ha).2.1 with hlt | rfl
  · exact (h.ordered p bis d ankunft hd h.arrives hlt).trans
      (h.waits bis ankunft abfahrt h.arrives h.departs)
  · rw [h.departs] at hd
    exact (Option.some.inj hd).ge

/-- A further cut behind the last one. -/
lemma extend (h : InOrder arrival departure bis ankunft abfahrt) (hbehind : bis < position)
    (hlater : abfahrt ≤ kommt) (hwait : kommt ≤ geht) (hbounded : geht ≤ i64Max) :
    InOrder (arrival.insertIfNew position kommt) (departure.insert position geht) position
      kommt geht := by
  have hnew : arrival[position]? = none := by
    rw [Option.eq_none_iff_forall_ne_some]
    intro a ha
    exact absurd hbehind (not_lt.mpr (h.along position a ha).2.1)
  obtain ⟨hbis, -, hzero⟩ := h.along bis ankunft h.arrives
  have harrival : ∀ p : Length, (arrival.insertIfNew position kommt)[p]? =
      if p = position then some kommt else arrival[p]? := by
    intro p
    rw [Registry.getElem?_insertIfNew, hnew]
    rfl
  have hfirst : ankunft ≤ abfahrt := h.waits bis ankunft abfahrt h.arrives h.departs
  refine ⟨?_, ?_, hbounded, ?_, ?_, ?_, ?_, ?_, ?_⟩
  · rw [harrival, if_pos rfl]
  · rw [Registry.getElem?_insert, if_pos rfl]
  · rw [harrival, if_neg (lt_of_le_of_lt hbis hbehind).ne]
    exact h.start
  · intro p a ha
    rw [harrival] at ha
    rw [Registry.getElem?_insert]
    split
    · exact ⟨geht, rfl⟩
    next hne =>
      rw [if_neg hne] at ha
      exact h.leaves p a ha
  · intro p d hd
    rw [Registry.getElem?_insert] at hd
    rw [harrival]
    split
    · exact ⟨kommt, rfl⟩
    next hne =>
      rw [if_neg hne] at hd
      exact h.came p d hd
  · intro p a ha
    rw [harrival] at ha
    split at ha
    next heq =>
      cases ha
      exact ⟨heq ▸ hbis.trans hbehind.le, heq.le, hzero.trans (hfirst.trans hlater)⟩
    · obtain ⟨hfrom, hto, hpositive⟩ := h.along p a ha
      exact ⟨hfrom, hto.trans hbehind.le, hpositive⟩
  · intro p a d ha hd
    rw [harrival] at ha
    rw [Registry.getElem?_insert] at hd
    by_cases heq : p = position
    · rw [if_pos heq] at ha hd
      cases ha
      cases hd
      exact hwait
    · rw [if_neg heq] at ha hd
      exact h.waits p a d ha hd
  · intro p q d a hd ha hlt
    rw [Registry.getElem?_insert] at hd
    rw [harrival] at ha
    by_cases hp : p = position
    · -- nothing lies behind the new cut
      rw [if_neg (hp ▸ hlt).ne'] at ha
      exact absurd (hp ▸ hlt) (not_lt.mpr ((h.along q a ha).2.1.trans hbehind.le))
    · rw [if_neg hp] at hd
      split at ha
      · cases ha
        exact (h.le_abfahrt hd).trans hlater
      · exact h.ordered p q d a hd ha hlt

/-- A later departure at the last cut; its first arrival stays. -/
lemma dwell (h : InOrder arrival departure bis ankunft abfahrt) (kommt : Int)
    (hlater : abfahrt ≤ geht)
    (hbounded : geht ≤ i64Max) :
    InOrder (arrival.insertIfNew bis kommt) (departure.insert bis geht) bis ankunft geht := by
  have harrival : ∀ p : Length, (arrival.insertIfNew bis kommt)[p]? = arrival[p]? := by
    intro p
    rw [Registry.getElem?_insertIfNew, h.arrives]
    split
    next heq => rw [heq, h.arrives]; rfl
    · rfl
  have hfirst : ankunft ≤ abfahrt := h.waits bis ankunft abfahrt h.arrives h.departs
  refine ⟨?_, ?_, hbounded, ?_, ?_, ?_, ?_, ?_, ?_⟩
  · rw [harrival]
    exact h.arrives
  · rw [Registry.getElem?_insert, if_pos rfl]
  · rw [harrival]
    exact h.start
  · intro p a ha
    rw [harrival] at ha
    rw [Registry.getElem?_insert]
    split
    · exact ⟨geht, rfl⟩
    · exact h.leaves p a ha
  · intro p d hd
    rw [Registry.getElem?_insert] at hd
    rw [harrival]
    split at hd
    next heq => exact ⟨ankunft, heq ▸ h.arrives⟩
    · exact h.came p d hd
  · intro p a ha
    rw [harrival] at ha
    exact h.along p a ha
  · intro p a d ha hd
    rw [harrival] at ha
    rw [Registry.getElem?_insert] at hd
    split at hd
    next heq =>
      cases hd
      rw [heq, h.arrives] at ha
      cases ha
      exact hfirst.trans hlater
    · exact h.waits p a d ha hd
  · intro p q d a hd ha hlt
    rw [harrival] at ha
    rw [Registry.getElem?_insert] at hd
    split at hd
    next heq => exact absurd (heq ▸ hlt) (not_lt.mpr (h.along q a ha).2.1)
    · exact h.ordered p q d a hd ha hlt

end InOrder

/-! ### The table of a stretch -/

/-- Enters a checkpoint of a stretch that starts at a position and a time. -/
def Zeitstand.merkeStuetze (begonnen : Int) (von : Length) (stand : Zeitstand)
    (checkpoint : RunningTimeCheckpoint) : Zeitstand :=
  stand.merke (von.plus checkpoint.position) (addSat64 begonnen checkpoint.elapsed)
    (addSat64 begonnen checkpoint.elapsed)

/-- The timeline of a stand is in order. -/
abbrev Zeitstand.InOrder (stand : Zeitstand) (bis : Length) (ankunft abfahrt : Int) : Prop :=
  Conflict.InOrder stand.arrival stand.departure bis ankunft abfahrt

lemma addSat64_mono (base : Int) {a b : Int} (h : a ≤ b) : addSat64 base a ≤ addSat64 base b :=
  clamp64_mono (by linarith)

variable {timeline : Timeline} {von : Length}

/-- The positions of the checkpoints of a path are the marks behind its start. -/
lemma positions_eq_marks (elapsed : ℕ → Int) (hvon : 0 ≤ von) {path : RunPath} :
    ∀ (index : ℕ) {position : Length}, 0 ≤ position →
      von + position + pathLength path ≤ i64Max →
      (Infra.checkpointsFrom elapsed path index position).map
        (fun checkpoint => von.plus checkpoint.position) = (marks (von + position) path).tail := by
  have hmin : i64Min ≤ 0 := by decide
  induction path with
  | nil =>
    intro index position _ _
    rfl
  | cons segment path ih =>
    intro index position hposition hbounded
    have hsegment := segment.lengthPositive
    have hrest := Infra.pathLength_nonneg path
    rw [Infra.pathLength_cons] at hbounded
    have hnext : position.plus segment.length = position + segment.length :=
      Length.plus_eq ⟨by linarith, by linarith⟩
    have hhere : von.plus (position + segment.length) = von + position + segment.length := by
      rw [Length.plus_eq ⟨by linarith, by linarith⟩]
      ring
    rw [Infra.checkpointsFrom, List.map_cons, marks, List.tail_cons, hnext, hhere,
      ih (index + 1) (by linarith) (by linarith), ← Int.add_assoc]
    exact (Infra.marks_eq_cons _ path).symm

/-- Entering ascending checkpoints with times that do not fall keeps a timeline in order. -/
lemma inOrder_foldl {begonnen : Int} {table : List RunningTimeCheckpoint} :
    ∀ {stand : Zeitstand} {position : Length} {elapsed : Int},
      stand.InOrder position (addSat64 begonnen elapsed) (addSat64 begonnen elapsed) →
      (position :: table.map fun checkpoint => von.plus checkpoint.position).Pairwise (· < ·) →
      (elapsed :: table.map RunningTimeCheckpoint.elapsed).Pairwise (· ≤ ·) →
      ∃ ende zeit, (table.foldl (Zeitstand.merkeStuetze begonnen von) stand).InOrder ende
          (addSat64 begonnen zeit) (addSat64 begonnen zeit) ∧
        ende = (position :: table.map fun checkpoint => von.plus checkpoint.position).getLast
          (by simp) ∧
        zeit = (table.getLast?.map RunningTimeCheckpoint.elapsed).getD elapsed := by
  induction table with
  | nil =>
    intro stand position elapsed h _ _
    exact ⟨position, elapsed, h, rfl, rfl⟩
  | cons checkpoint table ih =>
    intro stand position elapsed h hpositions htimes
    rw [List.map_cons, List.pairwise_cons] at hpositions htimes
    have hbehind := hpositions.1 (von.plus checkpoint.position) List.mem_cons_self
    have hlater := addSat64_mono begonnen (htimes.1 checkpoint.elapsed List.mem_cons_self)
    have hnext : (Zeitstand.merkeStuetze begonnen von stand checkpoint).InOrder
        (von.plus checkpoint.position) (addSat64 begonnen checkpoint.elapsed)
        (addSat64 begonnen checkpoint.elapsed) :=
      h.extend hbehind hlater le_rfl (clamp64_le_max _)
    obtain ⟨ende, zeit, hend, hlast, htotal⟩ := ih hnext hpositions.2 htimes.2
    refine ⟨ende, zeit, hend, ?_, ?_⟩
    · exact hlast.trans (List.getLast_cons (List.cons_ne_nil _ _)).symm
    · rw [htotal, List.getLast?_cons]
      cases table.getLast? <;> rfl

/-- What is entered stays entered. -/
lemma mem_arrival_foldl {begonnen : Int} {table : List RunningTimeCheckpoint} :
    ∀ {stand : Zeitstand} {p : Length},
      p ∈ stand.arrival ∨ p ∈ table.map (fun checkpoint => von.plus checkpoint.position) →
      p ∈ (table.foldl (Zeitstand.merkeStuetze begonnen von) stand).arrival := by
  induction table with
  | nil =>
    intro stand p h
    simpa using h
  | cons checkpoint table ih =>
    intro stand p h
    refine ih ?_
    rw [List.map_cons, List.mem_cons] at h
    rw [Zeitstand.merkeStuetze, Zeitstand.merke]
    simp only [ExtTreeMap.mem_insertIfNew, Std.compare_eq_iff_eq]
    tauto

/-- The times of the checkpoints of a path do not fall. -/
lemma elapsed_sorted {elapsed : ℕ → Int} (hstep : ∀ index, elapsed index ≤ elapsed (index + 1))
    (path : RunPath) :
    ∀ {index : ℕ} (position : Length) {bound : Int}, bound ≤ elapsed index →
      (bound :: (Infra.checkpointsFrom elapsed path index position).map
        RunningTimeCheckpoint.elapsed).Pairwise (· ≤ ·) := by
  induction path with
  | nil =>
    intro index position bound _
    exact List.pairwise_singleton _ _
  | cons segment path ih =>
    intro index position bound hbound
    rw [Infra.checkpointsFrom, List.map_cons]
    have hrest : (elapsed index :: (Infra.checkpointsFrom elapsed path (index + 1)
        (position.plus segment.length)).map RunningTimeCheckpoint.elapsed).Pairwise (· ≤ ·) :=
      ih _ (hstep index)
    refine List.pairwise_cons.mpr ⟨fun time htime => ?_, hrest⟩
    rcases List.mem_cons.mp htime with rfl | htime
    · exact hbound
    · exact hbound.trans ((List.pairwise_cons.mp hrest).1 time htime)

/-- The dwell of the first halt at a position. -/
def dwellAt (halte : List (Length × Int)) (position : Length) : Int :=
  ((halte.find? fun halt => halt.1 = position).map Prod.snd).getD 0

/-- A stretch leads a timeline in order from its start to its end; all marks of its path are
cuts, and at its end the train dwells. -/
lemma anfuegen_inOrder {elapsed : ℕ → Int} (hzero : 0 ≤ elapsed 0)
    (hstep : ∀ index, elapsed index ≤ elapsed (index + 1)) {halte : List (Length × Int)}
    {stand : Zeitstand} {von bis : Length} {ankunft : Int} {path : RunPath} (hvon : 0 ≤ von)
    (hlt : von < bis) (hbis : bis ≤ i64Max) (hlength : von + pathLength path = bis)
    (hdwell : 0 ≤ dwellAt halte bis) (h : stand.InOrder von ankunft stand.abschnittsbeginn) :
    ∃ zeit, (stand.anfuegen halte von bis
        (⟨0, 0⟩ :: Infra.checkpointsFrom elapsed path 0 0)).InOrder bis zeit
          (addSat64 zeit (dwellAt halte bis)) ∧
      (stand.anfuegen halte von bis
        (⟨0, 0⟩ :: Infra.checkpointsFrom elapsed path 0 0)).abschnittsbeginn
          = addSat64 zeit (dwellAt halte bis) ∧
      ∀ p, p ∈ stand.arrival ∨ p ∈ marks von path → p ∈ (stand.anfuegen halte von bis
        (⟨0, 0⟩ :: Infra.checkpointsFrom elapsed path 0 0)).arrival := by
  have hmin : i64Min ≤ 0 := by decide
  set begonnen := stand.abschnittsbeginn with hbegonnen
  have hplus : von.plus 0 = von := by
    rw [Length.plus_eq ⟨by linarith, by linarith⟩, Int.add_zero]
  have hstarted : addSat64 begonnen 0 = begonnen := by
    have hpositive := (h.along von ankunft h.arrives).2.2
    have hwait := h.waits von ankunft begonnen h.arrives h.departs
    rw [addSat64, Int.add_zero]
    exact clamp64_of_mem ⟨hmin.trans (hpositive.trans hwait), h.bounded⟩
  have hpositions : (Infra.checkpointsFrom elapsed path 0 0).map
      (fun checkpoint => von.plus checkpoint.position) = (marks von path).tail := by
    have heq := positions_eq_marks elapsed hvon 0 le_rfl
      (by rw [Int.add_zero, hlength]; exact hbis)
    rwa [Int.add_zero] at heq
  have hsorted := (Infra.marks_sorted von path).1
  rw [Infra.marks_eq_cons, ← hpositions] at hsorted
  have htimes := elapsed_sorted hstep path 0 hzero
  -- the first checkpoint is the place and the time where the stretch starts
  have hfirst : (Zeitstand.merkeStuetze begonnen von stand ⟨0, 0⟩).InOrder von ankunft
      begonnen := by
    have hstay := h.dwell begonnen le_rfl h.bounded
    simpa only [Zeitstand.merkeStuetze, Zeitstand.merke, hplus, hstarted] using hstay
  obtain ⟨zeit, hgefahren, htotal⟩ : ∃ zeit,
      ((⟨0, 0⟩ :: Infra.checkpointsFrom elapsed path 0 0).foldl
        (Zeitstand.merkeStuetze begonnen von) stand).InOrder bis (addSat64 begonnen zeit)
          (addSat64 begonnen zeit) ∧
        Infra.runningTimeTotal (⟨0, 0⟩ :: Infra.checkpointsFrom elapsed path 0 0) = zeit := by
    cases htable : Infra.checkpointsFrom elapsed path 0 0 with
    | nil =>
      cases path with
      | nil => exact absurd (by simpa using hlength) hlt.ne
      | cons segment path => cases htable
    | cons checkpoint table =>
      rw [htable] at hsorted htimes hpositions
      rw [List.map_cons, List.pairwise_cons] at hsorted htimes
      have hbehind := hsorted.1 (von.plus checkpoint.position) List.mem_cons_self
      have hlater := addSat64_mono begonnen (htimes.1 checkpoint.elapsed List.mem_cons_self)
      rw [hstarted] at hlater
      have hnext : (Zeitstand.merkeStuetze begonnen von
          (Zeitstand.merkeStuetze begonnen von stand ⟨0, 0⟩) checkpoint).InOrder
          (von.plus checkpoint.position) (addSat64 begonnen checkpoint.elapsed)
          (addSat64 begonnen checkpoint.elapsed) :=
        hfirst.extend hbehind hlater le_rfl (clamp64_le_max _)
      obtain ⟨ende, zeit, hend, hat, htotal⟩ := inOrder_foldl hnext hsorted.2 htimes.2
      have hmarks : marks von path ≠ [] := by
        rw [Infra.marks_eq_cons]
        simp
      have hcons : marks von path = von :: von.plus checkpoint.position ::
          table.map fun checkpoint => von.plus checkpoint.position := by
        rw [Infra.marks_eq_cons, ← hpositions, List.map_cons]
      have hende : ende = bis := by
        have hlast := Infra.getLast_marks von path hmarks
        simp only [hcons] at hlast
        rw [List.getLast_cons (by simp), hlength] at hlast
        exact hat.trans hlast
      subst hende
      refine ⟨zeit, hend, ?_⟩
      rw [htotal, Infra.runningTimeTotal, List.getLast?_cons_cons, List.getLast?_cons]
      cases table.getLast? <;> rfl
  have hkept : ∀ p, p ∈ stand.arrival ∨ p ∈ marks von path →
      p ∈ ((⟨0, 0⟩ :: Infra.checkpointsFrom elapsed path 0 0).foldl
        (Zeitstand.merkeStuetze begonnen von) stand).arrival := by
    intro p hp
    refine mem_arrival_foldl ?_
    rw [List.map_cons, hpositions, List.mem_cons, hplus]
    rw [Infra.marks_eq_cons, List.mem_cons] at hp
    exact hp
  have hankunft : addSat64 begonnen zeit ≤ i64Max := clamp64_le_max _
  have hlow : i64Min ≤ addSat64 begonnen zeit := min_le_clamp64 _
  have hwait : addSat64 begonnen zeit ≤ addSat64 (addSat64 begonnen zeit) (dwellAt halte bis) := by
    have hmono := addSat64_mono (addSat64 begonnen zeit) hdwell
    rwa [addSat64, Int.add_zero, clamp64_of_mem ⟨hlow, hankunft⟩] at hmono
  refine ⟨addSat64 begonnen zeit, ?_, ?_, fun p hp => ?_⟩
  · have hend := hgefahren.dwell (addSat64 begonnen zeit) hwait (clamp64_le_max _)
    rw [← htotal] at hend ⊢
    exact hend
  · rw [← htotal]
    rfl
  · have hin := hkept p hp
    rw [Zeitstand.anfuegen, Zeitstand.merke, ExtTreeMap.mem_insertIfNew]
    exact .inr hin

lemma inOrder_start : Zeitstand.start.InOrder 0 0 0 := by
  have hstart : ∀ (p : Length) (zeit : Int),
      ((∅ : Registry Length Int).insert 0 0)[p]? = some zeit → p = 0 ∧ zeit = 0 := by
    intro p zeit h
    rw [Registry.getElem?_insert] at h
    split at h
    next heq => exact ⟨heq, (Option.some.inj h).symm⟩
    · simp at h
  have hat : ((∅ : Registry Length Int).insert 0 0)[(0 : Length)]? = some 0 := by
    rw [Registry.getElem?_insert, if_pos rfl]
  refine ⟨hat, hat, by decide, hat, fun p a ha => ⟨a, ha⟩, fun p d hd => ⟨d, hd⟩, ?_, ?_, ?_⟩
  · intro p a ha
    obtain ⟨rfl, rfl⟩ := hstart p a ha
    exact ⟨le_rfl, le_rfl, le_rfl⟩
  · intro p a d ha hd
    rw [(hstart p a ha).2, (hstart p d hd).2]
  · intro p q d a hd ha hlt
    rw [(hstart p d hd).1, (hstart q a ha).1] at hlt
    exact absurd hlt (lt_irrefl _)

/-! ### The timeline of an itinerary -/

/-- The timeline is computed up to a position: it is in order and has all cuts. -/
structure ComputedTo (itinerary : Itinerary) (schnitte : KeySet Length)
    (halte : List (Length × Int)) (stand : Zeitstand) (bis : Length) : Prop where
  inOrder : ∃ ankunft, stand.InOrder bis ankunft (addSat64 ankunft (dwellAt halte bis)) ∧
    stand.abschnittsbeginn = addSat64 ankunft (dwellAt halte bis)
  cuts : ∀ p, IsCut schnitte itinerary p → 0 ≤ p → p ≤ bis → p ∈ stand.arrival

lemma ComputedTo.mem {itinerary : Itinerary} {schnitte : KeySet Length}
    {halte : List (Length × Int)} {stand : Zeitstand} {bis : Length}
    (h : ComputedTo itinerary schnitte halte stand bis) : bis ∈ stand.arrival := by
  obtain ⟨ankunft, hinOrder, -⟩ := h.inOrder
  rw [ExtTreeMap.mem_iff_isSome_getElem?, hinOrder.arrives]
  rfl

variable {infrastructure : Infrastructure} {train : TrainCharacteristics} {itinerary : Itinerary}
  {dynamics : Dynamics} {schnitte : KeySet Length} {halte : List (Length × Int)}

/-- One stretch further. -/
lemma abschnitt_computed (hmonotone : dynamics.Monotone) (hdwells : ∀ p, 0 ≤ dwellAt halte p)
    {stand next : Zeitstand} {von bis : Length} (hvon : 0 ≤ von) (hle : von ≤ bis)
    (hbis : bis ≤ itinerary.length) (hstand : ComputedTo itinerary schnitte halte stand von)
    (h : abschnitt dynamics infrastructure itinerary train schnitte halte stand (von, bis)
      = .ok next) :
    ComputedTo itinerary schnitte halte next bis ∧ ∀ p ∈ stand.arrival, p ∈ next.arrival := by
  rw [abschnitt] at h
  split at h
  next hempty =>
    cases h
    have heq : von = bis := le_antisymm hle hempty
    exact ⟨heq ▸ hstand, fun _ hp => hp⟩
  next hstretch =>
    have hlt : von < bis := not_le.mp hstretch
    rw [bind_eq_ok_iff] at h
    obtain ⟨pfad, hpfad, h⟩ := h
    have hlength := (fahrweg_ok hvon hlt hbis hpfad).1
    split at h
    next tabelle htabelle =>
      cases h
      rw [Infra.deriveRunningTimeTableWithExit] at htabelle
      split at htabelle
      · cases htabelle
      · split at htabelle
        · cases htabelle
        · cases htabelle
          obtain ⟨ankunft, hinOrder, hbegonnen⟩ := hstand.inOrder
          rw [← hbegonnen] at hinOrder
          obtain ⟨zeit, hnext, hende, hkept⟩ := anfuegen_inOrder
            (hmonotone.nonneg pfad train 0 0) (hmonotone.step pfad train 0 0) hvon hlt
            (hbis.trans (onLine_length itinerary).2) hlength (hdwells bis) hinOrder
          refine ⟨⟨⟨zeit, hnext, hende⟩, fun p hp hpos hp' => hkept p ?_⟩,
            fun p hp => hkept p (.inl hp)⟩
          rcases le_total p von with hbefore | hbehind
          · exact .inl (hstand.cuts p hp hpos hbefore)
          · exact .inr (fahrweg_cuts hvon hlt hbis hpfad hp hbehind hp')
    · cases h

/-- All stretches, one behind the other. -/
lemma abschnitte_computed (hmonotone : dynamics.Monotone) (hdwells : ∀ p, 0 ≤ dwellAt halte p)
    {rest : List Length} :
    ∀ {first : Length} {stand next : Zeitstand}, (first :: rest).Pairwise (· ≤ ·) →
      (∀ grenze ∈ first :: rest, 0 ≤ grenze ∧ grenze ≤ itinerary.length) →
      ComputedTo itinerary schnitte halte stand first →
      ((first :: rest).zip rest).foldlM
        (abschnitt dynamics infrastructure itinerary train schnitte halte) stand = .ok next →
      ComputedTo itinerary schnitte halte next ((first :: rest).getLast (by simp)) ∧
        (∀ p ∈ stand.arrival, p ∈ next.arrival) ∧ ∀ p ∈ first :: rest, p ∈ next.arrival := by
  induction rest with
  | nil =>
    intro first stand next _ _ hstand h
    cases h
    refine ⟨hstand, fun _ hp => hp, fun p hp => ?_⟩
    rw [List.mem_singleton.mp hp]
    exact hstand.mem
  | cons second rest ih =>
    intro first stand next hsorted hbounds hstand h
    rw [List.zip_cons_cons] at h
    obtain ⟨mitte, hstep, hrest⟩ := foldlM_cons_eq_ok_iff.mp h
    have hle := (List.pairwise_cons.mp hsorted).1 second List.mem_cons_self
    obtain ⟨hmitte, hkept⟩ := abschnitt_computed hmonotone hdwells
      (hbounds first List.mem_cons_self).1 hle (hbounds second (by simp)).2 hstand hstep
    obtain ⟨hnext, hkept', hall⟩ := ih (List.pairwise_cons.mp hsorted).2
      (fun grenze hgrenze => hbounds grenze (List.mem_cons_of_mem first hgrenze)) hmitte hrest
    refine ⟨?_, fun p hp => hkept' p (hkept p hp), fun p hp => ?_⟩
    · rw [List.getLast_cons (by simp)]
      exact hnext
    · rcases List.mem_cons.mp hp with rfl | hp
      · exact hkept' p (hkept p hstand.mem)
      · exact hall p hp

lemma dwell_pos {legs : List CheckedLeg} :
    ∀ (offset : Length), ∀ halt ∈ haltepositionenFrom offset legs, 0 < halt.2 := by
  induction legs with
  | nil => simp [haltepositionenFrom]
  | cons leg legs ih =>
    intro offset halt hhalt
    rw [haltepositionenFrom] at hhalt
    split at hhalt
    next hdwell =>
      rcases List.mem_cons.mp hhalt with rfl | hhalt
      · exact hdwell
      · exact ih (offset.plus leg.length) halt hhalt
    · exact ih (offset.plus leg.length) halt hhalt

/-- The dwell of an itinerary at its end. -/
def finalDwell (itinerary : Itinerary) : Int :=
  dwellAt (haltepositionen itinerary) itinerary.length

lemma dwellAt_nonneg (itinerary : Itinerary) (p : Length) :
    0 ≤ dwellAt (haltepositionen itinerary) p := by
  rw [dwellAt]
  cases hfind : (haltepositionen itinerary).find? fun halt => halt.1 = p with
  | none => exact le_rfl
  | some halt => exact (dwell_pos 0 halt (List.mem_of_find?_eq_some hfind)).le

lemma dwellAt_zero (itinerary : Itinerary) : dwellAt (haltepositionen itinerary) 0 = 0 := by
  have hnone : (haltepositionen itinerary).find? (fun halt => halt.1 = 0) = none := by
    rw [List.find?_eq_none]
    intro halt hhalt
    have hpositive := ((halts_sorted itinerary.legs onLine_zero).2 halt hhalt).1
    simpa using hpositive.ne'
  rw [dwellAt, hnone]
  rfl

/-- The timeline of an itinerary is computed up to the end of the way, and all halts are cuts. -/
lemma zeitachse_computed (hmonotone : dynamics.Monotone)
    (h : zeitachse dynamics infrastructure itinerary train schnitte (haltepositionen itinerary)
      = .ok timeline) :
    ∃ stand, timeline = ⟨stand.arrival, stand.departure, haltepositionen itinerary⟩ ∧
      ComputedTo itinerary schnitte (haltepositionen itinerary) stand itinerary.length ∧
      ∀ halt ∈ haltepositionen itinerary, halt.1 ∈ stand.arrival := by
  rw [zeitachse, bind_eq_ok_iff] at h
  obtain ⟨stand, hfold, h⟩ := h
  cases h
  obtain ⟨rest, hgrenzen, hsorted, hlast, hbounds⟩ := grenzen_sorted itinerary
  rw [hgrenzen] at hfold
  have hstart : ComputedTo itinerary schnitte (haltepositionen itinerary) Zeitstand.start 0 := by
    have hzero : addSat64 0 (dwellAt (haltepositionen itinerary) 0) = 0 := by
      rw [dwellAt_zero]
      decide
    refine ⟨⟨0, ?_, hzero.symm⟩, fun p _ hfrom hto => ?_⟩
    · rw [hzero]
      exact inOrder_start
    rw [le_antisymm hto hfrom]
    simp [Zeitstand.start]
  obtain ⟨hcomputed, -, hall⟩ := abschnitte_computed hmonotone (dwellAt_nonneg itinerary) hsorted
    hbounds hstart hfold
  rw [hlast] at hcomputed
  refine ⟨stand, rfl, hcomputed, fun halt hhalt => hall halt.1 ?_⟩
  rw [← hgrenzen, grenzen]
  have hinner : halt.1 ∈ 0 :: (haltepositionen itinerary).map Prod.fst :=
    List.mem_cons_of_mem 0 (List.mem_map_of_mem hhalt)
  split
  · exact hinner
  · exact List.mem_append_left _ hinner

/-- The timeline of an itinerary is in order, has all cuts and halts, and ends with the dwell
at the end of the way. -/
theorem zeitachse_inOrder (hmonotone : dynamics.Monotone)
    (h : zeitachse dynamics infrastructure itinerary train schnitte (haltepositionen itinerary)
      = .ok timeline) :
    timeline.stops = haltepositionen itinerary ∧
      (∃ ankunft, InOrder timeline.arrival timeline.departure itinerary.length ankunft
        (addSat64 ankunft (finalDwell itinerary))) ∧
      (∀ p ∈ schnitte, 0 ≤ p → p ≤ itinerary.length → p ∈ timeline.arrival) ∧
      ∀ halt ∈ haltepositionen itinerary, halt.1 ∈ timeline.arrival := by
  obtain ⟨stand, rfl, hcomputed, hhalts⟩ := zeitachse_computed hmonotone h
  obtain ⟨ankunft, hinOrder, -⟩ := hcomputed.inOrder
  exact ⟨rfl, ⟨ankunft, hinOrder⟩, fun p hp => hcomputed.cuts p (.inl hp), hhalts⟩

lemma legEnd_mem_arrival (hmonotone : dynamics.Monotone)
    (h : zeitachse dynamics infrastructure itinerary train schnitte (haltepositionen itinerary)
      = .ok timeline) {placed : Length × CheckedLeg}
    (hplaced : placed ∈ placedFrom 0 itinerary.legs) :
    placed.1.plus placed.2.length ∈ timeline.arrival := by
  obtain ⟨stand, rfl, hcomputed, -⟩ := zeitachse_computed hmonotone h
  obtain ⟨-, hline, hend⟩ := onLine_zero.placed placed hplaced
  exact hcomputed.cuts _ (.inr ⟨placed, hplaced, rfl⟩) (hline.plus placed.2).1 hend

/-! ### Looking up the timeline -/

namespace InOrder

lemma zero_mem {arrival departure : Registry Length Int} {bis : Length} {ankunft abfahrt : Int}
    (h : InOrder arrival departure bis ankunft abfahrt) : (0 : Length) ∈ arrival := by
  rw [ExtTreeMap.mem_iff_isSome_getElem?, h.start]
  rfl

variable {p : Length}

lemma exists_times {arrival departure : Registry Length Int} {bis : Length} {ankunft abfahrt : Int}
    (h : InOrder arrival departure bis ankunft abfahrt) (hp : p ∈ arrival) :
    ∃ a d, arrival[p]? = some a ∧ departure[p]? = some d := by
  rw [ExtTreeMap.mem_iff_isSome_getElem?, Option.isSome_iff_exists] at hp
  obtain ⟨a, ha⟩ := hp
  obtain ⟨d, hd⟩ := h.leaves p a ha
  exact ⟨a, d, ha, hd⟩

variable {timeline : Timeline} {bis : Length} {ankunft abfahrt : Int}

lemma arrivalAt_eq {a : Int} (h : timeline.arrival[p]? = some a) :
    timeline.arrivalAt p = a := by
  rw [Timeline.arrivalAt, h]

lemma departureAt_eq {d : Int} (h : timeline.departure[p]? = some d) :
    timeline.departureAt p = d := by
  rw [Timeline.departureAt, h]

lemma arrivalAt_neg (h : InOrder timeline.arrival timeline.departure bis ankunft abfahrt)
    (hp : p < 0) : timeline.arrivalAt p = 0 := by
  have hnone : timeline.arrival[p]? = none := by
    rw [Option.eq_none_iff_forall_ne_some]
    intro a ha
    exact absurd hp (not_lt.mpr (h.along p a ha).1)
  have hempty : timeline.arrival.toList.filter (fun entry => decide (entry.1 ≤ p)) = [] := by
    rw [List.filter_eq_nil_iff]
    intro entry hentry hle
    have hat := (h.along entry.1 entry.2 (Registry.mem_toList.mp hentry)).1
    exact absurd hp (not_lt.mpr (hat.trans (of_decide_eq_true hle)))
  rw [Timeline.arrivalAt, hnone, hempty]
  rfl

/-- Behind the way the time is that of the last cut. -/
lemma arrivalAt_beyond (h : InOrder timeline.arrival timeline.departure bis ankunft abfahrt)
    (hp : bis < p) : timeline.arrivalAt p = ankunft := by
  have hnone : timeline.arrival[p]? = none := by
    rw [Option.eq_none_iff_forall_ne_some]
    intro a ha
    exact absurd hp (not_lt.mpr (h.along p a ha).2.1)
  have hall : timeline.arrival.toList.filter (fun entry => decide (entry.1 ≤ p))
      = timeline.arrival.toList := by
    rw [List.filter_eq_self]
    intro entry hentry
    have hat := (h.along entry.1 entry.2 (Registry.mem_toList.mp hentry)).2.1
    exact decide_eq_true (hat.trans hp.le)
  have hmem : (bis, ankunft) ∈ timeline.arrival.toList := Registry.mem_toList.mpr h.arrives
  have hne : timeline.arrival.toList ≠ [] := List.ne_nil_of_mem hmem
  -- the last entry cannot lie before the last cut
  have hlast : timeline.arrival.toList.getLast hne = (bis, ankunft) := by
    have hin := List.getLast_mem hne
    have hat := Registry.mem_toList.mp hin
    have hle := (h.along _ _ hat).2.1
    have hsorted : timeline.arrival.toList.Pairwise fun a b => a.1 ≤ b.1 :=
      (Registry.sorted_toList timeline.arrival).imp fun hlt => hlt.le
    have hkey : (timeline.arrival.toList.getLast hne).1 = bis :=
      le_antisymm hle (hsorted.rel_getLast_of_rel_getLast_getLast hmem le_rfl)
    rw [hkey, h.arrives] at hat
    exact Prod.ext hkey (Option.some.inj hat).symm
  rw [Timeline.arrivalAt, hnone, hall, List.getLast?_eq_some_getLast hne, hlast]
  rfl

/-- Every time that the timeline tells of a position up to the last cut is one before the
departure from there. -/
lemma departureAt_le (h : InOrder timeline.arrival timeline.departure bis ankunft abfahrt)
    (hp : p < bis) (hcut : 0 < p → p ∈ timeline.arrival) :
    timeline.departureAt p ≤ ankunft := by
  have hzero := (h.along bis ankunft h.arrives).2.2
  cases hd : timeline.departure[p]? with
  | some d =>
    rw [departureAt_eq hd]
    exact h.ordered p bis d ankunft hd h.arrives hp
  | none =>
    -- a position without a cut lies before the way
    have hneg : p < 0 := by
      by_contra hnonneg
      have hin : p ∈ timeline.arrival := by
        rcases lt_or_eq_of_le (not_lt.mp hnonneg) with hpositive | rfl
        · exact hcut hpositive
        · rw [ExtTreeMap.mem_iff_isSome_getElem?, h.start]
          rfl
      rw [ExtTreeMap.mem_iff_isSome_getElem?, Option.isSome_iff_exists] at hin
      obtain ⟨a, ha⟩ := hin
      obtain ⟨d, hsome⟩ := h.leaves p a ha
      rw [hd] at hsome
      cases hsome
    rw [Timeline.departureAt, hd]
    simp only
    rw [h.arrivalAt_neg hneg]
    exact hzero

end InOrder

/-! ### The place of the train -/

/-- What the timeline tells of the head of the train at an instant: it has reached every cut
whose arrival has passed, and is not beyond a cut that it has not left. -/
structure Timeline.HeadAt (timeline : Timeline) (t x : ℚ) : Prop where
  reached : ∀ (p : Length) (a : Int), timeline.arrival[p]? = some a → (a : ℚ) ≤ t → (p : ℚ) ≤ x
  notBeyond : ∀ (p : Length) (d : Int), timeline.departure[p]? = some d → t < d → x ≤ p

/-- From the departure to that from the end of the way the claim is held at every instant at
which some part of the train may lie within it. -/
def Claim.HeldWhileInside (infrastructure : Infrastructure) (train : TrainCharacteristics)
    (timeline : Timeline) (total : Length) (claim : Claim) : Prop :=
  ∀ t x : ℚ, timeline.HeadAt t x → 0 ≤ t → t < timeline.departureAt total →
    claim.start < x → x - train.length < claim.finish →
    ((occupationOf infrastructure train timeline total claim).startS : ℚ) ≤ t ∧
      t < (occupationOf infrastructure train timeline total claim).endS

/-- The timeline has what a claim needs: it is in order, the train stops at cuts, and the cuts
of the claim are its cuts. -/
structure Claim.Timed (infrastructure : Infrastructure) (train : TrainCharacteristics)
    (timeline : Timeline) (total : Length) (ankunft abfahrt : Int) (claim : Claim) : Prop where
  inOrder : InOrder timeline.arrival timeline.departure total ankunft abfahrt
  halts : ∀ halt ∈ timeline.stops, 0 < halt.1 ∧ halt.1 ∈ timeline.arrival
  cuts : ∀ p ∈ cutsOfClaim infrastructure train claim, 0 < p → p < total → p ∈ timeline.arrival
  bounded : i64Min ≤ claim.finish
  total_le : total ≤ i64Max

lemma subSat64_le {a b : Int} (ha : i64Min ≤ a) (hb : 0 ≤ b) : subSat64 a b ≤ a :=
  clamp64_le ha (by linarith)

lemma min_le_addSat64 {a b c bound : Int} (ha : i64Min ≤ a) (hb : 0 < b) (hc : 0 < c)
    (hbound : bound ≤ i64Max) : min (a + b) bound ≤ addSat64 (addSat64 a b) c := by
  unfold addSat64 clamp64
  omega

lemma le_addSat64 {zeit a b : Int} (hbounded : zeit ≤ i64Max) (ha : zeit ≤ a) (hb : 0 ≤ b) :
    zeit ≤ addSat64 a b := by
  unfold addSat64 clamp64
  omega

namespace Claim

variable {timeline : Timeline} {total : Length} {ankunft abfahrt dwell : Int} {claim : Claim}

/-- Before a cut behind it, a cut is reached and left. -/
lemma Timed.le_departure (h : claim.Timed infrastructure train timeline total ankunft abfahrt)
    {p q : Length} {d : Int} (hp : p ∈ timeline.arrival) (hle : p ≤ q)
    (hd : timeline.departure[q]? = some d) :
    0 ≤ timeline.arrivalAt p ∧ timeline.arrivalAt p ≤ d ∧ 0 ≤ timeline.departureAt p ∧
      timeline.departureAt p ≤ d := by
  obtain ⟨a', d', ha', hd'⟩ := h.inOrder.exists_times hp
  obtain ⟨a, ha⟩ := h.inOrder.came q d hd
  have hzero := (h.inOrder.along p a' ha').2.2
  have hwait' := h.inOrder.waits p a' d' ha' hd'
  have hwait := h.inOrder.waits q a d ha hd
  have hbefore : d' ≤ d := by
    rcases lt_or_eq_of_le hle with hlt | rfl
    · exact (h.inOrder.ordered p q d' a hd' ha hlt).trans hwait
    · rw [hd] at hd'
      exact (Option.some.inj hd').ge
  rw [InOrder.arrivalAt_eq ha', InOrder.departureAt_eq hd']
  exact ⟨hzero, hwait'.trans hbefore, hzero.trans hwait', hbefore⟩

/-- The approach to a claim begins with the departure, or not later than the train leaves the
start of the claim. -/
lemma Timed.approach_le (h : claim.Timed infrastructure train timeline total ankunft abfahrt)
    (hstart : claim.start < total) :
    (occupationOf infrastructure train timeline total claim).approachStartS = 0 ∨
      ∃ d, timeline.departure[claim.start]? = some d ∧
        0 ≤ (occupationOf infrastructure train timeline total claim).approachStartS ∧
        (occupationOf infrastructure train timeline total claim).approachStartS ≤ d := by
  have hmin : i64Min < 0 := by decide
  have hdistance := (infrastructure.signalling.«at» claim.governingPoint).approachPositive
  set distance := (infrastructure.signalling.«at» claim.governingPoint).approachDistance
  set vorsignal := claim.start.minus distance with hvorsignal
  simp only [occupationOf]
  by_cases hpositive : 0 < claim.start
  · right
    have hin : claim.start ∈ timeline.arrival :=
      h.cuts claim.start (by simp [cutsOfClaim]) hpositive hstart
    obtain ⟨-, d, -, hd⟩ := h.inOrder.exists_times hin
    have hbefore : vorsignal ≤ claim.start := by
      rw [hvorsignal, Length.minus, subSat64]
      exact clamp64_le (by linarith) (by linarith)
    obtain ⟨hnonneg, happroach⟩ : 0 ≤ timeline.arrivalAt (if vorsignal < 0 then 0 else vorsignal) ∧
        timeline.arrivalAt (if vorsignal < 0 then 0 else vorsignal) ≤ d := by
      have hcut : (if vorsignal < 0 then 0 else vorsignal) ∈ timeline.arrival := by
        split
        · exact h.inOrder.zero_mem
        next hnot =>
          rcases lt_or_eq_of_le (not_lt.mp hnot) with hvor | heq
          · exact h.cuts vorsignal (by simp [cutsOfClaim, hvorsignal, distance]) hvor
              (lt_of_le_of_lt hbefore hstart)
          · exact heq ▸ h.inOrder.zero_mem
      obtain ⟨hfrom, hto, -⟩ := h.le_departure hcut (q := claim.start)
        (by split <;> [exact hpositive.le; exact hbefore]) hd
      exact ⟨hfrom, hto⟩
    have hmotion : timeline.motionStart claim.start ≤ d := by
      rw [Timeline.motionStart]
      split
      next halt hhalt =>
        have hmem := List.mem_of_getLast? hhalt
        obtain ⟨hstop, hle⟩ := List.mem_filter.mp hmem
        exact (h.le_departure (h.halts halt hstop).2 (of_decide_eq_true hle) hd).2.2.2
      · exact (h.le_departure (h.inOrder.zero_mem) hpositive.le hd).1.trans
          (h.le_departure (h.inOrder.zero_mem) hpositive.le hd).2.1
    exact ⟨d, hd, hnonneg.trans (le_max_left _ _), max_le happroach hmotion⟩
  · left
    have hneg : vorsignal < 0 := by
      rw [hvorsignal, Length.minus, subSat64]
      have hle : clamp64 (claim.start - distance) ≤ -1 := clamp64_le (by decide)
        (by linarith [not_lt.mp hpositive])
      linarith
    have hmotion : timeline.motionStart claim.start = 0 := by
      have hnone : timeline.stops.filter (fun halt => decide (halt.1 ≤ claim.start)) = [] := by
        rw [List.filter_eq_nil_iff]
        intro halt hhalt hle
        exact hpositive ((h.halts halt hhalt).1.trans_le (of_decide_eq_true hle))
      rw [Timeline.motionStart, hnone]
      rfl
    rw [if_pos hneg, hmotion, InOrder.arrivalAt_eq h.inOrder.start, max_self]

/-- While the train is within a claim, the claim has begun. -/
lemma Timed.starts (h : claim.Timed infrastructure train timeline total ankunft abfahrt) {t x : ℚ}
    (hhead : timeline.HeadAt t x) (hfrom : 0 ≤ t) (hto : t < abfahrt) (hin : claim.start < x) :
    ((occupationOf infrastructure train timeline total claim).startS : ℚ) ≤ t := by
  have hmin : i64Min ≤ 0 := by decide
  have hx : x ≤ total := hhead.notBeyond total abfahrt h.inOrder.departs hto
  have hstart : claim.start < total := by exact_mod_cast hin.trans_le hx
  obtain ⟨hnonneg, happroach⟩ :
      0 ≤ (occupationOf infrastructure train timeline total claim).approachStartS ∧
      ((occupationOf infrastructure train timeline total claim).approachStartS : ℚ) ≤ t := by
    rcases h.approach_le hstart with hzero | ⟨d, hd, hnonneg, hle⟩
    · rw [hzero]
      exact ⟨le_rfl, by exact_mod_cast hfrom⟩
    · -- the head is beyond the start, so the train has left it
      have hleft : (d : ℚ) ≤ t := by
        by_contra hnot
        exact absurd hin (not_lt.mpr (hhead.notBeyond claim.start d hd (not_le.mp hnot)))
      exact ⟨hnonneg, le_trans (by exact_mod_cast hle) hleft⟩
  set parameter := infrastructure.signalling.«at» claim.governingPoint
  have hsighting : subSat64 (occupationOf infrastructure train timeline total claim).approachStartS
      parameter.signalSightingTimeS
        ≤ (occupationOf infrastructure train timeline total claim).approachStartS :=
    subSat64_le (hmin.trans hnonneg) parameter.sightingNonneg
  have hsetting : (occupationOf infrastructure train timeline total claim).startS
      ≤ subSat64 (occupationOf infrastructure train timeline total claim).approachStartS
        parameter.signalSightingTimeS :=
    subSat64_le (min_le_clamp64 _) parameter.interlocking.routeSettingTimeS_pos.le
  exact le_trans (by exact_mod_cast hsetting.trans hsighting) happroach

/-- The train clears a claim behind the end of it by its own length, or at the end of its way. -/
lemma Timed.raeumweg_ge (h : claim.Timed infrastructure train timeline total ankunft abfahrt) :
    min (claim.finish + train.length) total ≤ (claim.finish.plus train.length).plus
      (infrastructure.signalling.«at» claim.governingPoint).overlapLength := by
  have hlength := train.lengthPositive
  have hoverlap := (infrastructure.signalling.«at» claim.governingPoint).overlapPositive
  exact min_le_addSat64 h.bounded hlength hoverlap h.total_le

/-- A claim from which the train cannot withdraw on its way is cleared with the arrival at the
end. -/
lemma Timed.cleared_eq (h : claim.Timed infrastructure train timeline total ankunft abfahrt)
    (hother : claim.finish ≠ total) (hreach : total < claim.finish + train.length) :
    (occupationOf infrastructure train timeline total claim).clearedS = ankunft := by
  simp only [occupationOf]
  split
  next hle =>
    have hbeyond : total < claim.finish := lt_of_le_of_ne hle hother.symm
    have hnone : timeline.departure[claim.finish]? = none := by
      rw [Option.eq_none_iff_forall_ne_some]
      intro d hd
      obtain ⟨a, ha⟩ := h.inOrder.came claim.finish d hd
      exact absurd hbeyond (not_lt.mpr (h.inOrder.along claim.finish a ha).2.1)
    rw [Timeline.departureAt, hnone]
    exact h.inOrder.arrivalAt_beyond hbeyond
  next hnot =>
    have hbefore : claim.finish < total := not_le.mp hnot
    have hexit := h.inOrder.departureAt_le hbefore fun hpositive =>
      h.cuts claim.finish (by simp [cutsOfClaim]) hpositive hbefore
    have hfar := h.raeumweg_ge
    rw [min_eq_right hreach.le] at hfar
    have hziel : (if total < (claim.finish.plus train.length).plus
        (infrastructure.signalling.«at» claim.governingPoint).overlapLength then total
        else (claim.finish.plus train.length).plus
          (infrastructure.signalling.«at» claim.governingPoint).overlapLength) = total := by
      split
      · rfl
      next hnear => exact le_antisymm (not_lt.mp hnear) hfar
    rw [hziel, InOrder.arrivalAt_eq h.inOrder.arrives]
    exact max_eq_right hexit

/-- While the train is within a claim, the claim has not ended, unless the train dwells at the
end of its way for longer than the release takes. -/
lemma Timed.ends
    (h : claim.Timed infrastructure train timeline total ankunft (addSat64 ankunft dwell))
    {t x : ℚ} (hhead : timeline.HeadAt t x) (hfrom : 0 ≤ t) (hto : t < addSat64 ankunft dwell)
    (hin : claim.start < x) (hout : x - train.length < claim.finish)
    (hdwell : claim.start < total → claim.finish ≠ total →
      total < claim.finish + train.length →
      dwell ≤ (infrastructure.signalling.«at» claim.governingPoint).routeReleaseTimeS) :
    t < (occupationOf infrastructure train timeline total claim).endS := by
  have hrelease : 0 ≤ (infrastructure.signalling.«at» claim.governingPoint).routeReleaseTimeS :=
    (InterlockingKind.routeReleaseTimeS_pos _).le
  have hx : x ≤ total := hhead.notBeyond total _ h.inOrder.departs hto
  have hstart : claim.start < total := by exact_mod_cast hin.trans_le hx
  -- a time that is left before the clearing is left before the end
  have hbefore : ∀ zeit : Int, t < zeit → zeit ≤ i64Max →
      zeit ≤ (occupationOf infrastructure train timeline total claim).clearedS →
      t < (occupationOf infrastructure train timeline total claim).endS := by
    intro zeit ht hbounded hcleared
    have hend : zeit ≤ (occupationOf infrastructure train timeline total claim).endS :=
      le_addSat64 hbounded hcleared hrelease
    exact ht.trans_le (by exact_mod_cast hend)
  by_cases hreach : claim.finish ≠ total ∧ total < claim.finish + train.length
  · have hcleared := h.cleared_eq hreach.1 hreach.2
    have hend : addSat64 ankunft dwell
        ≤ (occupationOf infrastructure train timeline total claim).endS := by
      calc addSat64 ankunft dwell
          ≤ addSat64 ankunft
              (infrastructure.signalling.«at» claim.governingPoint).routeReleaseTimeS :=
            addSat64_mono ankunft (hdwell hstart hreach.1 hreach.2)
        _ = (occupationOf infrastructure train timeline total claim).endS := by
            rw [← hcleared]
            rfl
    exact hto.trans_le (by exact_mod_cast hend)
  · by_cases hlast : claim.finish = total
    · refine hbefore _ hto h.inOrder.bounded ?_
      simp only [occupationOf]
      rw [if_pos hlast.ge, hlast, InOrder.departureAt_eq h.inOrder.departs]
    · have hnear : claim.finish + train.length ≤ total := by
        by_contra hfar
        exact hreach ⟨hlast, not_le.mp hfar⟩
      have hlength := train.lengthPositive
      have hnot : ¬ total ≤ claim.finish := by
        rw [not_le]
        linarith
      have hfar := h.raeumweg_ge
      rw [min_eq_left hnear] at hfar
      set raeumweg := (claim.finish.plus train.length).plus
        (infrastructure.signalling.«at» claim.governingPoint).overlapLength with hraeumweg
      set ziel := if total < raeumweg then total else raeumweg with hziel
      have hbehind : claim.finish + train.length ≤ ziel := by
        rw [hziel]
        split
        · exact hnear
        · exact hfar
      have hhead' : x < ziel := by
        have hcast : ((claim.finish + train.length : Int) : ℚ) ≤ ziel := by
          exact_mod_cast hbehind
        push_cast at hcast
        linarith
      have hzero : 0 ≤ x := by
        have hreached := hhead.reached 0 0 h.inOrder.start (by exact_mod_cast hfrom)
        exact_mod_cast hreached
      have hpositive : 0 < ziel := by exact_mod_cast hzero.trans_lt hhead'
      have hcut : ziel ∈ timeline.arrival := by
        by_cases hmore : total < raeumweg
        · rw [hziel, if_pos hmore, ExtTreeMap.mem_iff_isSome_getElem?, h.inOrder.arrives]
          rfl
        · rw [hziel, if_neg hmore] at hpositive ⊢
          rcases lt_or_eq_of_le (not_lt.mp hmore) with hless | heq
          · exact h.cuts raeumweg (by simp [cutsOfClaim, hraeumweg]) hpositive hless
          · rw [heq, ExtTreeMap.mem_iff_isSome_getElem?, h.inOrder.arrives]
            rfl
      obtain ⟨a, d, ha, hd⟩ := h.inOrder.exists_times hcut
      -- the head has not come to the place where the claim is cleared
      have ht : t < a := by
        by_contra hpassed
        exact absurd hhead' (not_lt.mpr (hhead.reached ziel a ha (not_lt.mp hpassed)))
      refine hbefore a ht (((h.inOrder.waits ziel a d ha hd).trans
        (h.inOrder.le_abfahrt hd)).trans h.inOrder.bounded) ?_
      simp only [occupationOf]
      rw [if_neg hnot, ← hraeumweg, ← hziel, InOrder.arrivalAt_eq ha]
      exact le_max_right _ _

/-- A claim that is held as long as the train is within it is released after the dwell at the
end of the way. -/
lemma Timed.dwell_le
    (h : claim.Timed infrastructure train timeline total ankunft (addSat64 ankunft dwell))
    (hheld : claim.HeldWhileInside infrastructure train timeline total)
    (hstart : claim.start < total) (hother : claim.finish ≠ total)
    (hreach : total < claim.finish + train.length)
    (hclock : ankunft + (infrastructure.signalling.«at» claim.governingPoint).routeReleaseTimeS
      < i64Max) :
    dwell ≤ (infrastructure.signalling.«at» claim.governingPoint).routeReleaseTimeS := by
  set release := (infrastructure.signalling.«at» claim.governingPoint).routeReleaseTimeS
    with hrelease
  have hpositive : 0 < release := InterlockingKind.routeReleaseTimeS_pos _
  have hzero := (h.inOrder.along total ankunft h.inOrder.arrives).2.2
  by_contra hlonger
  have hlonger' := not_le.mp hlonger
  have hstays : ankunft + release < addSat64 ankunft dwell := by
    unfold addSat64 clamp64
    omega
  -- the train stands at the end of its way while the claim ends
  have hhead : timeline.HeadAt ((ankunft + release : Int) : ℚ) total := by
    refine ⟨fun p a ha _ => by exact_mod_cast (h.inOrder.along p a ha).2.1, fun p d hd ht => ?_⟩
    obtain ⟨a, ha⟩ := h.inOrder.came p d hd
    rcases lt_or_eq_of_le (h.inOrder.along p a ha).2.1 with hlt | rfl
    · have hleft := h.inOrder.ordered p total d ankunft hd h.inOrder.arrives hlt
      have ht' : ankunft + release < d := by exact_mod_cast ht
      linarith
    · exact le_rfl
  have hdeparture : timeline.departureAt total = addSat64 ankunft dwell :=
    InOrder.departureAt_eq h.inOrder.departs
  have hend := (hheld _ _ hhead (by exact_mod_cast hzero.trans (by linarith))
    (by rw [hdeparture]; exact_mod_cast hstays) (by exact_mod_cast hstart)
    (by have : ((total : Int) : ℚ) < (claim.finish + train.length : Int) := by exact_mod_cast hreach
        push_cast at this
        linarith)).2
  have hcleared := h.cleared_eq hother hreach
  have hmin : i64Min ≤ 0 := by decide
  have heq : (occupationOf infrastructure train timeline total claim).endS = ankunft + release := by
    calc (occupationOf infrastructure train timeline total claim).endS
        = addSat64 ankunft release := by
          rw [← hcleared]
          rfl
      _ = ankunft + release := clamp64_of_mem ⟨by linarith, hclock.le⟩
  rw [heq] at hend
  exact lt_irrefl _ hend

end Claim

/-! ### The profile -/

/-- A claim is released while the train dwells at the end of its way within it: it starts
before the end of the way, does not end there, and ends less than a train length before. -/
def releasedAtEnd (itinerary : Itinerary) (train : TrainCharacteristics) (claim : Claim) : Bool :=
  decide (claim.start < itinerary.length) && decide (claim.finish ≠ itinerary.length) &&
    decide (itinerary.length < claim.finish + train.length)

/-- No claim that is released while the train dwells at the end of its way is released before
the dwell is over. -/
def endsReleased (infrastructure : Infrastructure) (itinerary : Itinerary)
    (train : TrainCharacteristics) (claims : List Claim) : Bool :=
  claims.all fun claim => !releasedAtEnd itinerary train claim ||
    decide (finalDwell itinerary
      ≤ (infrastructure.signalling.«at» claim.governingPoint).routeReleaseTimeS)

lemma endsReleased_iff {claims : List Claim} :
    endsReleased infrastructure itinerary train claims = true ↔
      ∀ claim ∈ claims, claim.start < itinerary.length → claim.finish ≠ itinerary.length →
        itinerary.length < claim.finish + train.length →
        finalDwell itinerary
          ≤ (infrastructure.signalling.«at» claim.governingPoint).routeReleaseTimeS := by
  rw [endsReleased, List.all_eq_true]
  refine forall₂_congr fun claim _ => ?_
  simp only [releasedAtEnd, Bool.or_eq_true, Bool.not_eq_true', Bool.and_eq_false_iff,
    decide_eq_false_iff_not, decide_eq_true_eq]
  tauto

/-- The timeline of an itinerary has what its claims need. -/
lemma timed_of_timelineOf (hmonotone : dynamics.Monotone) {claims : List Claim}
    {timeline : Timeline} (hclaims : anspruechen infrastructure itinerary train = .ok claims)
    (htimeline : timelineOf dynamics infrastructure itinerary train claims = .ok timeline) :
    ∃ ankunft, timeline.arrivalAt itinerary.length = ankunft ∧ ∀ claim ∈ claims,
      claim.Timed infrastructure train timeline itinerary.length ankunft
        (addSat64 ankunft (finalDwell itinerary)) := by
  obtain ⟨hstops, ⟨ankunft, hinOrder⟩, hcuts, hhalts⟩ := zeitachse_inOrder hmonotone htimeline
  refine ⟨ankunft, InOrder.arrivalAt_eq hinOrder.arrives, fun claim hclaim =>
    ⟨hinOrder, ?_, ?_, ?_, (onLine_length itinerary).2⟩⟩
  · rw [hstops]
    exact fun halt hhalt =>
      ⟨((halts_sorted itinerary.legs onLine_zero).2 halt hhalt).1, hhalts halt hhalt⟩
  · intro p hp hpositive hbefore
    refine hcuts p ?_ hpositive.le hbefore.le
    rw [schnittpunkte, KeySet.mem_ofList]
    refine List.mem_cons_of_mem _ (List.mem_cons_of_mem _ (List.mem_filter.mpr ⟨?_, ?_⟩))
    · exact List.mem_flatMap.mpr ⟨claim, hclaim, hp⟩
    · simp [hpositive, hbefore]
  · obtain ⟨-, hof⟩ := mem_anspruechenFrom hclaims
    obtain ⟨placed, -, eigene, heigene, hin⟩ := hof claim hclaim
    obtain ⟨spans, -, rfl⟩ := claimsOfLeg_eq_ok.mp heigene
    rcases mem_claimsOfLeg.mp hin with ⟨span, -, rfl⟩ | ⟨route, -, rfl⟩
    · exact min_le_clamp64 _
    · exact min_le_clamp64 _

/-- **When a train is within its claims.**  Every claim of a profile is held from when the head
can be within it until the whole train has left it or departs from the end of its way, if no
claim is released while the train still dwells at the end; as long as the clock has not run
to its end, the claims are held only then. -/
theorem profile_times_iff (hmonotone : dynamics.Monotone) {profile : ItineraryProfile}
    (h : deriveOccupationProfile dynamics infrastructure itinerary train = .ok profile) :
    ∃ claims timeline, anspruechen infrastructure itinerary train = .ok claims ∧
      timelineOf dynamics infrastructure itinerary train claims = .ok timeline ∧
      profile.occupations =
        claims.map (occupationOf infrastructure train timeline itinerary.length) ∧
      (endsReleased infrastructure itinerary train claims = true →
        ∀ claim ∈ claims,
          claim.HeldWhileInside infrastructure train timeline itinerary.length) ∧
      ((∀ claim ∈ claims, timeline.arrivalAt itinerary.length
          + (infrastructure.signalling.«at» claim.governingPoint).routeReleaseTimeS < i64Max) →
        (∀ claim ∈ claims,
          claim.HeldWhileInside infrastructure train timeline itinerary.length) →
        endsReleased infrastructure itinerary train claims = true) := by
  rw [deriveOccupationProfile, bind_eq_ok_iff] at h
  obtain ⟨claims, hclaims, h⟩ := h
  rw [bind_eq_ok_iff] at h
  obtain ⟨timeline, htimeline, h⟩ := h
  cases h
  obtain ⟨ankunft, hankunft, htimed⟩ := timed_of_timelineOf hmonotone hclaims htimeline
  refine ⟨claims, timeline, hclaims, htimeline, rfl, fun hreleased claim hclaim => ?_,
    fun hclock hheld => ?_⟩
  · have hone := htimed claim hclaim
    intro t x hhead hfrom hto hin hout
    rw [InOrder.departureAt_eq hone.inOrder.departs] at hto
    exact ⟨hone.starts hhead hfrom hto hin, hone.ends hhead hfrom hto hin hout
      (endsReleased_iff.mp hreleased claim hclaim)⟩
  · refine endsReleased_iff.mpr fun claim hclaim hstart hother hreach => ?_
    have hbounded := hclock claim hclaim
    rw [hankunft] at hbounded
    exact (htimed claim hclaim).dwell_le (hheld claim hclaim) hstart hother hreach hbounded

namespace SmallLine

open Infra (TrainProtection)

/-- The railcar dwells for a minute at the end of its way, and the last block of the line is
released before it has left. -/
theorem line_released_early : ¬ ∀ dynamics : Dynamics, dynamics.Monotone →
    ∀ infrastructure itinerary train profile claims timeline,
      deriveOccupationProfile dynamics infrastructure itinerary train = .ok profile →
        anspruechen infrastructure itinerary train = .ok claims →
        timelineOf dynamics infrastructure itinerary train claims = .ok timeline →
        ∀ claim ∈ claims,
          claim.HeldWhileInside infrastructure train timeline itinerary.length := by
  intro hheld
  have hrun : ((derived ⟨{.pzb, .lzb}⟩ 60).any fun run => run.claims.any fun claim =>
      decide (claim.start < run.itinerary.length ∧ claim.finish ≠ run.itinerary.length ∧
        run.itinerary.length < claim.finish + run.train.length ∧
        run.profile.runningTimeS + (run.infrastructure.signalling.«at»
          claim.governingPoint).routeReleaseTimeS < i64Max ∧
        (run.infrastructure.signalling.«at» claim.governingPoint).routeReleaseTimeS
          < finalDwell run.itinerary)) = true := by
    decide +kernel
  obtain ⟨run, -, hrun⟩ := (Option.any_eq_true _ _).mp hrun
  obtain ⟨claim, hclaim, hrun⟩ := List.any_eq_true.mp hrun
  obtain ⟨hstart, hother, hreach, hclock, hlonger⟩ := of_decide_eq_true hrun
  have hprofile := run.isProfile
  rw [deriveOccupationProfile, bind_eq_ok_iff] at hprofile
  obtain ⟨claims, hclaims, hprofile⟩ := hprofile
  rw [run.areClaims] at hclaims
  obtain rfl := Except.ok.inj hclaims
  rw [bind_eq_ok_iff] at hprofile
  obtain ⟨timeline, htimeline, hprofile⟩ := hprofile
  obtain ⟨ankunft, hankunft, htimed⟩ :=
    timed_of_timelineOf dynamics_monotone run.areClaims htimeline
  have hrunning : run.profile.runningTimeS = ankunft := by
    rw [← hankunft, ← Except.ok.inj hprofile]
  rw [hrunning] at hclock
  exact absurd ((htimed claim hclaim).dwell_le (hheld SmallLine.dynamics dynamics_monotone
    run.infrastructure run.itinerary run.train run.profile run.claims timeline run.isProfile
    run.areClaims htimeline claim hclaim) hstart hother hreach hclock) (not_le.mpr hlonger)

/-- Without the dwell every block is held for as long as the railcar is in it. -/
theorem profile_times_railcar : ∃ infrastructure itinerary train claims timeline,
    anspruechen infrastructure itinerary train = .ok claims ∧ claims.length = 5 ∧
      timelineOf SmallLine.dynamics infrastructure itinerary train claims = .ok timeline ∧
      ∀ claim ∈ claims,
        claim.HeldWhileInside infrastructure train timeline itinerary.length := by
  have hrun : ((derived ⟨{.pzb, .lzb}⟩ 0).any fun run => decide (run.claims.length = 5) &&
      endsReleased run.infrastructure run.itinerary run.train run.claims) = true := by
    decide +kernel
  obtain ⟨run, -, hrun⟩ := (Option.any_eq_true _ _).mp hrun
  rw [Bool.and_eq_true, decide_eq_true_eq] at hrun
  obtain ⟨claims, timeline, hclaims, htimeline, -, hheld, -⟩ :=
    profile_times_iff dynamics_monotone run.isProfile
  have heq : claims = run.claims := by
    rw [run.areClaims] at hclaims
    exact (Except.ok.inj hclaims).symm
  subst heq
  exact ⟨run.infrastructure, run.itinerary, run.train, run.claims, timeline, hclaims, hrun.1,
    htimeline, hheld hrun.2⟩

end SmallLine

end Zugfolge.Conflict
