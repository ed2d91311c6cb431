/-
The way of a train.

The legs of an itinerary follow each other along one line of positions.  Where the running
times could be computed, every leg lies on its track, and the claims of the legs are laid
beside each other.

* `onTrack_of_zeitachse`: no leg reaches beyond its track.
-/
import Zugfolge.Conflict.Profile
import Zugfolge.Foundation.Collect

namespace Zugfolge.Conflict

open Infra (Length OperatingGraph Track TrainCharacteristics RunPath Dynamics marks pathLength)
open Foundation
open Std (ExtTreeSet)

/-! ### The legs along the line -/

/-- The legs from a position on, each with the position where it starts. -/
def placedFrom : Length → List CheckedLeg → List (Length × CheckedLeg)
  | _, [] => []
  | offset, leg :: legs => (offset, leg) :: placedFrom (offset.plus leg.length) legs

/-- Where the legs from a position on end. -/
def endFrom (offset : Length) (legs : List CheckedLeg) : Length :=
  legs.foldl (fun sum leg => sum.plus leg.length) offset

/-- A position of the line, a number of 64 bits. -/
def OnLine (position : Length) : Prop := 0 ≤ position ∧ position ≤ i64Max

lemma onLine_zero : OnLine 0 := ⟨le_rfl, by decide⟩

variable {leg : CheckedLeg} {legs : List CheckedLeg} {offset : Length}

lemma OnLine.le_plus (h : OnLine offset) (leg : CheckedLeg) :
    offset ≤ offset.plus leg.length := by
  have hpositive := leg.positive
  have hmono : clamp64 offset ≤ clamp64 (offset + leg.length) := clamp64_mono (by linarith)
  have hmin : i64Min ≤ 0 := by decide
  rwa [clamp64_of_mem ⟨hmin.trans h.1, h.2⟩] at hmono

lemma OnLine.plus_pos (h : OnLine offset) (leg : CheckedLeg) :
    0 < offset.plus leg.length := by
  have hone : clamp64 1 ≤ clamp64 (offset + leg.length) :=
    clamp64_mono (by linarith [h.1, leg.positive])
  exact lt_of_lt_of_le (by decide) hone

lemma OnLine.plus (h : OnLine offset) (leg : CheckedLeg) :
    OnLine (offset.plus leg.length) :=
  ⟨h.1.trans (h.le_plus leg), clamp64_le_max _⟩

lemma OnLine.plus_le (h : OnLine offset) (leg : CheckedLeg) :
    offset.plus leg.length ≤ offset + leg.length := by
  have hpositive := leg.positive
  have hmin : i64Min ≤ 0 := by decide
  exact Length.plus_le (by linarith [h.1])

lemma OnLine.endFrom :
    ∀ {offset : Length}, OnLine offset → OnLine (endFrom offset legs) := by
  induction legs with
  | nil => exact fun h => h
  | cons leg legs ih => exact fun h => ih (h.plus leg)

lemma OnLine.le_endFrom :
    ∀ {offset : Length}, OnLine offset → offset ≤ Conflict.endFrom offset legs := by
  induction legs with
  | nil => exact fun _ => le_rfl
  | cons leg legs ih => exact fun h => (h.le_plus leg).trans (ih (h.plus leg))

lemma OnLine.placed :
    ∀ {offset : Length}, OnLine offset → ∀ placed ∈ placedFrom offset legs,
      offset ≤ placed.1 ∧ OnLine placed.1 ∧
        placed.1.plus placed.2.length ≤ Conflict.endFrom offset legs := by
  induction legs with
  | nil => simp [placedFrom]
  | cons leg legs ih =>
    intro offset h placed hplaced
    rcases List.mem_cons.mp hplaced with rfl | hplaced
    · exact ⟨le_rfl, h, (h.plus leg).le_endFrom⟩
    · obtain ⟨hafter, hline, hend⟩ := ih (h.plus leg) placed hplaced
      exact ⟨(h.le_plus leg).trans hafter, hline, hend⟩

/-- Every point of the way lies on a leg. -/
lemma exists_placed {x : ℚ} :
    ∀ (offset : Length), (offset : ℚ) < x → x ≤ endFrom offset legs →
      ∃ placed ∈ placedFrom offset legs,
        (placed.1 : ℚ) < x ∧ x ≤ (placed.1.plus placed.2.length : Length) := by
  induction legs with
  | nil =>
    intro offset hafter hbefore
    exact absurd hafter (not_lt.mpr hbefore)
  | cons leg legs ih =>
    intro offset hafter hbefore
    by_cases hhere : x ≤ (offset.plus leg.length : Length)
    · exact ⟨(offset, leg), List.mem_cons_self, hafter, hhere⟩
    · obtain ⟨placed, hplaced, h⟩ := ih (offset.plus leg.length) (not_le.mp hhere) hbefore
      exact ⟨placed, List.mem_cons_of_mem _ hplaced, h⟩

/-! ### The claims of the legs -/

variable {infrastructure : Infrastructure} {train : TrainCharacteristics}

lemma claimsOfLeg_eq_ok {eigene : List Claim} :
    claimsOfLeg infrastructure train offset leg = .ok eigene ↔
      ∃ spans, infrastructure.spansOfForTrain leg.leg.track train = .ok spans ∧
        (spans.map (claimOfSpan offset leg)).insertionSort (fun a b => a.start ≤ b.start)
          ++ (leg.leg.route.map (claimOfRoute offset leg)).toList = eigene := by
  rw [claimsOfLeg, bind_eq_ok_iff]
  refine exists_congr fun spans => and_congr_right fun _ => ?_
  constructor
  · intro h
    cases h
    rfl
  · rintro rfl
    rfl

lemma mem_claimsOfLeg {spans : List ResourceSpan} {claim : Claim} :
    claim ∈ (spans.map (claimOfSpan offset leg)).insertionSort (fun a b => a.start ≤ b.start)
        ++ (leg.leg.route.map (claimOfRoute offset leg)).toList ↔
      (∃ span ∈ spans, claimOfSpan offset leg span = claim) ∨
        ∃ route, leg.leg.route = some route ∧ claimOfRoute offset leg route = claim := by
  rw [List.mem_append, List.mem_insertionSort, List.mem_map, Option.mem_toList,
    Option.map_eq_some_iff]

/-- The claims of an itinerary are the claims of its legs. -/
lemma mem_anspruechenFrom :
    ∀ {offset : Length} {claims : List Claim},
      anspruechenFrom infrastructure train offset legs = .ok claims →
      (∀ placed ∈ placedFrom offset legs, ∃ eigene,
        claimsOfLeg infrastructure train placed.1 placed.2 = .ok eigene ∧ eigene ⊆ claims) ∧
      ∀ claim ∈ claims, ∃ placed ∈ placedFrom offset legs, ∃ eigene,
        claimsOfLeg infrastructure train placed.1 placed.2 = .ok eigene ∧ claim ∈ eigene := by
  induction legs with
  | nil =>
    intro offset claims h
    cases h
    simp [placedFrom]
  | cons leg legs ih =>
    intro offset claims h
    rw [anspruechenFrom, bind_eq_ok_iff] at h
    obtain ⟨eigene, hown, h⟩ := h
    rw [bind_eq_ok_iff] at h
    obtain ⟨rest, hrest, h⟩ := h
    cases h
    obtain ⟨hlegs, hclaims⟩ := ih hrest
    constructor
    · intro placed hplaced
      rcases List.mem_cons.mp hplaced with rfl | hplaced
      · exact ⟨eigene, hown, List.subset_append_left _ _⟩
      · obtain ⟨other, hother, hsub⟩ := hlegs placed hplaced
        exact ⟨other, hother, fun c hc => List.mem_append_right eigene (hsub hc)⟩
    · intro claim hclaim
      rcases List.mem_append.mp hclaim with hin | hin
      · exact ⟨(offset, leg), List.mem_cons_self, eigene, hown, hin⟩
      · obtain ⟨placed, hplaced, other, hother⟩ := hclaims claim hin
        exact ⟨placed, List.mem_cons_of_mem _ hplaced, other, hother⟩

/-! ### The path of a stretch -/

/-- A position, moved into a stretch. -/
def within (von bis position : Length) : Length := max von (min position bis)

lemma within_eq_of_le {von bis start finish : Int} (hlt : von < bis) (hle : start ≤ finish)
    (hout : min finish bis ≤ max von start) :
    max von (min finish bis) = max von (min start bis) := by
  omega

lemma within_of_lt {von bis start finish : Int} (hin : max von start < min finish bis) :
    max von (min start bis) = max von start ∧ max von (min finish bis) = min finish bis := by
  omega

variable {schnitte : KeySet Length} {von bis : Length}

/-- How far a leg reaches on its track if it is used from one position to another one. -/
def localEnd (direction : TravelDirection) (offset length start finish : Length) : Length :=
  match direction with
  | .withChainage => finish - offset
  | .againstChainage => length - (start - offset)

/-- The range of a leg between two positions lies as far apart as they do. -/
lemma lokal_length (direction : TravelDirection) {offset length start finish : Length}
    (hoffset : 0 ≤ offset) (hlength : length ≤ i64Max) (hstart : offset ≤ start)
    (hlt : start < finish) (hfinish : finish ≤ i64Max) (hinside : finish ≤ offset + length) :
    (lokal direction offset length start finish).2 - (lokal direction offset length start finish).1
      = finish - start ∧
    (lokal direction offset length start finish).2
      = localEnd direction offset length start finish := by
  have hmin : i64Min ≤ 0 := by decide
  have hstartEq : start.minus offset = start - offset :=
    Length.minus_eq ⟨by linarith, by linarith⟩
  have hfinishEq : finish.minus offset = finish - offset :=
    Length.minus_eq ⟨by linarith, by linarith⟩
  cases direction with
  | withChainage =>
    simp only [lokal, localEnd, hstartEq, hfinishEq]
    exact ⟨by ring, trivial⟩
  | againstChainage =>
    have hleft : length.minus (finish - offset) = length - (finish - offset) :=
      Length.minus_eq ⟨by linarith, by linarith⟩
    have hright : length.minus (start - offset) = length - (start - offset) :=
      Length.minus_eq ⟨by linarith, by linarith⟩
    simp only [lokal, localEnd, hstartEq, hfinishEq, hleft, hright]
    exact ⟨by ring, trivial⟩


/-- A pushed range makes the path longer by the distance of the cuts. -/
lemma pushPaar_ok {track : Track} {offset start finish : Length}
    {pfad next : RunPath} (hoffset : 0 ≤ offset) (hstart : offset ≤ start) (hlt : start < finish)
    (hfinish : finish ≤ i64Max) (hinside : finish ≤ offset + leg.length)
    (h : pushPaar train track offset leg pfad (start, finish) = .ok next) :
    localEnd leg.leg.direction offset leg.length start finish ≤ track.length ∧
      ∃ segments, next = pfad ++ segments ∧ pathLength segments = finish - start := by
  rw [pushPaar] at h
  split at h
  next pushed hpushed =>
    cases h
    obtain ⟨hdistance, hend⟩ := lokal_length leg.leg.direction hoffset leg.bounded
      hstart hlt hfinish hinside
    obtain ⟨-, -, hontrack, segments, hnext, hlength⟩ := Infra.pushTrackRange_ok hpushed
    refine ⟨hend ▸ hontrack, segments, hnext, ?_⟩
    rw [← hdistance]
    linarith
  · cases h

/-- Pushing the ranges between ascending cuts leads from the first to the last one and marks
all of them. -/
lemma foldlM_pushPaar_ok {track : Track} {offset origin : Length}
    (hoffset : 0 ≤ offset) {punkte : List Length} :
    ∀ {erster : Length} {pfad next : RunPath}, (erster :: punkte).Pairwise (· < ·) →
      (∀ punkt ∈ erster :: punkte,
        offset ≤ punkt ∧ punkt ≤ i64Max ∧ punkt ≤ offset + leg.length) →
      origin + pathLength pfad = erster →
      ((erster :: punkte).zip punkte).foldlM (pushPaar train track offset leg) pfad = .ok next →
      origin + pathLength next = (erster :: punkte).getLast (by simp) ∧
        (∀ position ∈ marks origin pfad, position ∈ marks origin next) ∧
        (∀ punkt ∈ erster :: punkte, punkt ∈ marks origin next) := by
  induction punkte with
  | nil =>
    intro erster pfad next _ _ hat h
    cases h
    refine ⟨hat, fun _ hin => hin, fun punkt hpunkt => ?_⟩
    rw [List.mem_singleton.mp hpunkt, ← hat]
    exact Infra.end_mem_marks origin pfad
  | cons zweiter punkte ih =>
    intro erster pfad next hsorted hbounds hat h
    rw [List.zip_cons_cons] at h
    obtain ⟨mitte, hfirst, hrest⟩ := foldlM_cons_eq_ok_iff.mp h
    obtain ⟨hstart, -, -⟩ := hbounds erster List.mem_cons_self
    obtain ⟨-, hbound, hinside⟩ := hbounds zweiter (by simp)
    have hlt := (List.pairwise_cons.mp hsorted).1 zweiter List.mem_cons_self
    obtain ⟨-, segments, hmitte, hlength⟩ :=
      pushPaar_ok hoffset hstart hlt hbound hinside hfirst
    have hat' : origin + pathLength mitte = zweiter := by
      rw [hmitte, Infra.pathLength_append, hlength]
      linarith
    obtain ⟨hend, hkept, hmarked⟩ := ih (List.pairwise_cons.mp hsorted).2
      (fun punkt hpunkt => hbounds punkt (List.mem_cons_of_mem erster hpunkt)) hat' hrest
    have hbefore : ∀ position ∈ marks origin pfad, position ∈ marks origin mitte := by
      intro position hposition
      rw [hmitte]
      exact Infra.mem_marks_append.mpr (.inl hposition)
    refine ⟨by rw [List.getLast_cons (by simp)]; exact hend,
      fun position hposition => hkept position (hbefore position hposition), ?_⟩
    intro punkt hpunkt
    rcases List.mem_cons.mp hpunkt with rfl | hpunkt
    · refine hkept punkt (hbefore punkt ?_)
      rw [← hat]
      exact Infra.end_mem_marks origin pfad
    · exact hmarked punkt hpunkt

/-- Where the running time over a leg could be computed, the leg lies on its track. -/
def OnTrack (infrastructure : Infrastructure) (leg : CheckedLeg) (offset start finish : Length) :
    Prop :=
  ∃ track, infrastructure.graph.track leg.leg.track = some track ∧
    localEnd leg.leg.direction offset leg.length start finish ≤ track.length

/-- The cuts of a range ascend. -/
lemma cuts_sorted (schnitte : KeySet Length) {lo hi : Length} (hlt : lo < hi) :
    (lo :: ((schnitte.toList.filter fun punkt =>
      decide (lo < punkt) && decide (punkt < hi)) ++ [hi])).Pairwise (· < ·) := by
  rw [List.pairwise_cons, List.pairwise_append]
  refine ⟨?_, (KeySet.sorted_toList schnitte).filter _, List.pairwise_singleton _ _, ?_⟩
  · intro punkt hpunkt
    rcases List.mem_append.mp hpunkt with hin | hin
    · have hinner := (List.mem_filter.mp hin).2
      rw [Bool.and_eq_true, decide_eq_true_eq] at hinner
      exact hinner.1
    · rwa [List.mem_singleton.mp hin]
  · intro punkt hpunkt ende hende
    have hinner := (List.mem_filter.mp hpunkt).2
    rw [Bool.and_eq_true, decide_eq_true_eq, decide_eq_true_eq] at hinner
    rw [List.mem_singleton.mp hende]
    exact hinner.2

/-- The part of a leg within a stretch takes the path from where the leg starts to where it
ends, as far as they lie within the stretch. -/
lemma fahrwegLeg_ok {pfad next : RunPath} (hlt : von < bis) (hline : OnLine offset)
    (hat : von + pathLength pfad = within von bis offset)
    (h : fahrwegLeg infrastructure train schnitte von bis offset leg pfad = .ok next) :
    von + pathLength next = within von bis (offset.plus leg.length) ∧
      (∀ position ∈ marks von pfad, position ∈ marks von next) ∧
      (∀ punkt ∈ schnitte, within von bis offset ≤ punkt →
        punkt ≤ within von bis (offset.plus leg.length) → punkt ∈ marks von next) ∧
      (within von bis offset < within von bis (offset.plus leg.length) →
        OnTrack infrastructure leg offset (within von bis offset)
          (within von bis (offset.plus leg.length))) := by
  have hgrows := hline.le_plus leg
  have hcaps := hline.plus_le leg
  have hbound := (hline.plus leg).2
  have hlo : (if von < offset then offset else von) = max von offset :=
    (max_def_lt von offset).symm
  have hhi : (if offset.plus leg.length < bis then offset.plus leg.length else bis)
      = min (offset.plus leg.length) bis := (min_def_lt _ _).symm
  rw [fahrwegLeg, hlo, hhi] at h
  simp only at h
  split at h
  next hout =>
    cases h
    have hsame : within von bis (offset.plus leg.length) = within von bis offset :=
      within_eq_of_le hlt hgrows hout
    rw [hsame]
    refine ⟨hat, fun _ hin => hin, fun punkt _ hafter hbefore => ?_,
      fun h => absurd h (lt_irrefl _)⟩
    rw [le_antisymm hbefore hafter, ← hat]
    exact Infra.end_mem_marks von pfad
  next hin =>
    rw [not_le] at hin
    obtain ⟨hfrom, hto⟩ : within von bis offset = max von offset ∧
        within von bis (offset.plus leg.length) = min (offset.plus leg.length) bis :=
      within_of_lt hin
    rw [hfrom] at hat ⊢
    rw [hto]
    have hsorted := cuts_sorted schnitte hin
    rw [List.cons_append, List.destutter_of_isChain _ _
      (hsorted.imp fun hne => hne.ne).isChain, List.tail_cons, bind_eq_ok_iff] at h
    obtain ⟨track, htrack, h⟩ := h
    have hbounds : ∀ punkt ∈ max von offset :: ((schnitte.toList.filter fun punkt =>
        decide (max von offset < punkt) && decide (punkt < min (offset.plus leg.length) bis))
          ++ [min (offset.plus leg.length) bis]),
        offset ≤ punkt ∧ punkt ≤ i64Max ∧ punkt ≤ offset + leg.length := by
      intro punkt hpunkt
      have hrange : max von offset ≤ punkt ∧ punkt ≤ min (offset.plus leg.length) bis := by
        rcases List.mem_cons.mp hpunkt with rfl | hpunkt
        · exact ⟨le_rfl, hin.le⟩
        · rcases List.mem_append.mp hpunkt with hpunkt | hpunkt
          · have hinner := (List.mem_filter.mp hpunkt).2
            rw [Bool.and_eq_true, decide_eq_true_eq, decide_eq_true_eq] at hinner
            exact ⟨hinner.1.le, hinner.2.le⟩
          · rw [List.mem_singleton.mp hpunkt]
            exact ⟨hin.le, le_rfl⟩
      have hupper := hrange.2.trans (min_le_left _ _)
      exact ⟨(le_max_right _ _).trans hrange.1, hupper.trans hbound, hupper.trans hcaps⟩
    have hlast : (max von offset :: ((schnitte.toList.filter fun punkt =>
        decide (max von offset < punkt) && decide (punkt < min (offset.plus leg.length) bis))
          ++ [min (offset.plus leg.length) bis])).getLast (by simp)
        = min (offset.plus leg.length) bis := by
      rw [List.getLast_cons (by simp), List.getLast_append_singleton]
    obtain ⟨hend, hkept, hmarked⟩ := foldlM_pushPaar_ok hline.1 hsorted hbounds hat h
    refine ⟨hend.trans hlast, hkept, fun punkt hpunkt hafter hbefore => hmarked punkt ?_, ?_⟩
    · rcases lt_or_eq_of_le hafter with hlo | rfl
      · rcases lt_or_eq_of_le hbefore with hhi | rfl
        · refine List.mem_cons_of_mem _ (List.mem_append_left _ (List.mem_filter.mpr ⟨?_, ?_⟩))
          · exact ExtTreeSet.mem_toList.mpr hpunkt
          · simp [hlo, hhi]
        · exact List.mem_cons_of_mem _ (List.mem_append_right _ (List.mem_singleton_self _))
      · exact List.mem_cons_self
    · intro _
      refine ⟨track, Infrastructure.track_eq_ok.mp htrack, ?_⟩
      -- the last range ends where the part of the leg ends, the first one starts where it starts
      have hpair : ∀ paar ∈ (max von offset :: ((schnitte.toList.filter fun punkt =>
          decide (max von offset < punkt) && decide (punkt < min (offset.plus leg.length) bis))
            ++ [min (offset.plus leg.length) bis])).zip ((schnitte.toList.filter fun punkt =>
          decide (max von offset < punkt) && decide (punkt < min (offset.plus leg.length) bis))
            ++ [min (offset.plus leg.length) bis]),
          localEnd leg.leg.direction offset leg.length paar.1 paar.2 ≤ track.length := by
        intro paar hpaar
        obtain ⟨u, v, hstep⟩ := exists_step_of_foldlM h paar hpaar
        obtain ⟨hfirst, -, -⟩ := hbounds paar.1 (List.of_mem_zip hpaar).1
        obtain ⟨-, hsecond, hinside⟩ :=
          hbounds paar.2 (List.mem_cons_of_mem _ (List.of_mem_zip hpaar).2)
        exact (pushPaar_ok hline.1 hfirst (zip_lt hsorted hpaar) hsecond hinside hstep).1
      cases hdirection : leg.leg.direction with
      | withChainage =>
        obtain ⟨paar, hpaar, -, hreach⟩ := exists_pair_lt_le hin hlast.ge
        have hon := hpair paar hpaar
        simp only [hdirection, localEnd] at hon ⊢
        linarith
      | againstChainage =>
        obtain ⟨paar, hpaar, hreach, -⟩ := exists_pair_le_lt le_rfl (hin.trans_eq hlast.symm)
        have hon := hpair paar hpaar
        simp only [hdirection, localEnd] at hon ⊢
        linarith

/-- The same over all legs from a position on. -/
lemma fahrwegFrom_ok (hlt : von < bis) :
    ∀ {offset : Length} {pfad next : RunPath}, OnLine offset →
      von + pathLength pfad = within von bis offset →
      fahrwegFrom infrastructure train schnitte von bis offset legs pfad = .ok next →
      von + pathLength next = within von bis (endFrom offset legs) ∧
        (∀ position ∈ marks von pfad, position ∈ marks von next) ∧
        (∀ punkt ∈ schnitte, within von bis offset ≤ punkt →
          punkt ≤ within von bis (endFrom offset legs) → punkt ∈ marks von next) ∧
        (∀ placed ∈ placedFrom offset legs,
          within von bis placed.1 < within von bis (placed.1.plus placed.2.length) →
            OnTrack infrastructure placed.2 placed.1 (within von bis placed.1)
              (within von bis (placed.1.plus placed.2.length))) := by
  induction legs with
  | nil =>
    intro offset pfad next _ hat h
    cases h
    refine ⟨hat, fun _ hin => hin, fun punkt _ hafter hbefore => ?_, by simp [placedFrom]⟩
    rw [le_antisymm hbefore hafter]
    exact hat ▸ Infra.end_mem_marks von pfad
  | cons leg legs ih =>
    intro offset pfad next hline hat h
    rw [fahrwegFrom, bind_eq_ok_iff] at h
    obtain ⟨mitte, hleg, hrest⟩ := h
    obtain ⟨hat', hkept, hmarked, hontrack⟩ := fahrwegLeg_ok hlt hline hat hleg
    obtain ⟨hend, hkept', hmarked', hontrack'⟩ := ih (hline.plus leg) hat' hrest
    refine ⟨hend, fun position hposition => hkept' position (hkept position hposition), ?_, ?_⟩
    · intro punkt hpunkt hafter hbefore
      rcases le_total punkt (within von bis (offset.plus leg.length)) with hle | hle
      · exact hkept' punkt (hmarked punkt hpunkt hafter hle)
      · exact hmarked' punkt hpunkt hle hbefore
    · intro placed hplaced hmeets
      rcases List.mem_cons.mp hplaced with rfl | hplaced
      · exact hontrack hmeets
      · exact hontrack' placed hplaced hmeets

variable {itinerary : Itinerary}

lemma length_eq_endFrom (itinerary : Itinerary) : itinerary.length = endFrom 0 itinerary.legs :=
  rfl

lemma onLine_length (itinerary : Itinerary) : OnLine itinerary.length :=
  OnLine.endFrom onLine_zero

/-- The path of a stretch reaches from its start to its end and meets all cuts between. -/
lemma fahrweg_ok {pfad : RunPath} (hvon : 0 ≤ von) (hlt : von < bis)
    (hbis : bis ≤ itinerary.length)
    (h : fahrweg infrastructure itinerary train schnitte von bis = .ok pfad) :
    von + pathLength pfad = bis ∧
      (∀ punkt ∈ schnitte, von ≤ punkt → punkt ≤ bis → punkt ∈ marks von pfad) ∧
      (∀ placed ∈ placedFrom 0 itinerary.legs,
        within von bis placed.1 < within von bis (placed.1.plus placed.2.length) →
          OnTrack infrastructure placed.2 placed.1 (within von bis placed.1)
            (within von bis (placed.1.plus placed.2.length))) := by
  have hfirst : within von bis 0 = von := by
    rw [within, min_eq_left (hvon.trans hlt.le), max_eq_left hvon]
  have hlast : within von bis (endFrom 0 itinerary.legs) = bis := by
    rw [within, ← length_eq_endFrom, min_eq_right hbis, max_eq_right hlt.le]
  obtain ⟨hend, -, hmarked, hontrack⟩ := fahrwegFrom_ok hlt onLine_zero
    (by rw [Infra.pathLength_nil, hfirst, Int.add_zero]) h
  rw [hlast] at hend hmarked
  rw [hfirst] at hmarked
  exact ⟨hend, hmarked, hontrack⟩

/-- Where a leg ends within a stretch, a segment of the path ends. -/
lemma fahrwegFrom_ends (hlt : von < bis) :
    ∀ {offset : Length} {pfad next : RunPath}, OnLine offset →
      von + pathLength pfad = within von bis offset →
      fahrwegFrom infrastructure train schnitte von bis offset legs pfad = .ok next →
      ∀ placed ∈ placedFrom offset legs,
        within von bis (placed.1.plus placed.2.length) ∈ marks von next := by
  induction legs with
  | nil => simp [placedFrom]
  | cons leg legs ih =>
    intro offset pfad next hline hat h placed hplaced
    rw [fahrwegFrom, bind_eq_ok_iff] at h
    obtain ⟨mitte, hleg, hrest⟩ := h
    obtain ⟨hat', -⟩ := fahrwegLeg_ok hlt hline hat hleg
    rcases List.mem_cons.mp hplaced with rfl | hplaced
    · obtain ⟨-, hkept, -⟩ := fahrwegFrom_ok hlt (hline.plus leg) hat' hrest
      exact hkept _ (hat' ▸ Infra.end_mem_marks von mitte)
    · exact ih (hline.plus leg) hat' hrest placed hplaced

variable (itinerary schnitte) in
/-- A position that the way is cut at: a given cut or the end of a leg. -/
def IsCut (position : Length) : Prop :=
  position ∈ schnitte ∨
    ∃ placed ∈ placedFrom 0 itinerary.legs, placed.1.plus placed.2.length = position

lemma fahrweg_cuts {pfad : RunPath} (hvon : 0 ≤ von) (hlt : von < bis)
    (hbis : bis ≤ itinerary.length)
    (h : fahrweg infrastructure itinerary train schnitte von bis = .ok pfad) {position : Length}
    (hcut : IsCut schnitte itinerary position) (hafter : von ≤ position)
    (hbefore : position ≤ bis) :
    position ∈ marks von pfad := by
  rcases hcut with hcut | ⟨placed, hplaced, rfl⟩
  · exact (fahrweg_ok hvon hlt hbis h).2.1 position hcut hafter hbefore
  · have hfirst : within von bis 0 = von := by
      rw [within, min_eq_left (hvon.trans hlt.le), max_eq_left hvon]
    have hmark := fahrwegFrom_ends hlt onLine_zero
      (by rw [Infra.pathLength_nil, hfirst, Int.add_zero]) h placed hplaced
    rwa [within, min_eq_left hbefore, max_eq_right hafter] at hmark

/-! ### The stretches between the halts -/

/-- Halts follow each other along the line, behind the start and not beyond the end. -/
lemma halts_sorted (legs : List CheckedLeg) :
    ∀ {offset : Length}, OnLine offset →
      (offset :: (haltepositionenFrom offset legs).map Prod.fst).Pairwise (· ≤ ·) ∧
      ∀ halt ∈ haltepositionenFrom offset legs, 0 < halt.1 ∧ halt.1 ≤ endFrom offset legs := by
  induction legs with
  | nil => simp [haltepositionenFrom]
  | cons leg legs ih =>
    intro offset hline
    obtain ⟨hsorted, hbounds⟩ := ih (hline.plus leg)
    have hgrows := hline.le_plus leg
    rw [List.pairwise_cons] at hsorted
    have hpositive := hline.plus_pos leg
    rw [haltepositionenFrom]
    split
    · rw [List.map_cons]
      refine ⟨List.pairwise_cons.mpr ⟨fun position hposition => ?_,
        List.pairwise_cons.mpr ⟨hsorted.1, hsorted.2⟩⟩, fun halt hhalt => ?_⟩
      · rcases List.mem_cons.mp hposition with rfl | hposition
        · exact hgrows
        · exact hgrows.trans (hsorted.1 position hposition)
      · rcases List.mem_cons.mp hhalt with rfl | hhalt
        · exact ⟨hpositive, (hline.plus leg).le_endFrom⟩
        · exact hbounds halt hhalt
    · exact ⟨List.pairwise_cons.mpr ⟨fun position hposition =>
        hgrows.trans (hsorted.1 position hposition), hsorted.2⟩, hbounds⟩

/-- The boundaries of the stretches ascend from the start to the end of the way. -/
lemma grenzen_sorted (itinerary : Itinerary) :
    ∃ rest, grenzen (haltepositionen itinerary) itinerary.length = 0 :: rest ∧
      (0 :: rest).Pairwise (· ≤ ·) ∧ (0 :: rest).getLast (by simp) = itinerary.length ∧
      ∀ grenze ∈ 0 :: rest, 0 ≤ grenze ∧ grenze ≤ itinerary.length := by
  obtain ⟨hsorted, hbounds⟩ := halts_sorted itinerary.legs onLine_zero
  have hline := onLine_length itinerary
  have hinner : ∀ grenze ∈ 0 :: (haltepositionen itinerary).map Prod.fst,
      0 ≤ grenze ∧ grenze ≤ itinerary.length := by
    intro grenze hgrenze
    rcases List.mem_cons.mp hgrenze with rfl | hgrenze
    · exact ⟨le_rfl, hline.1⟩
    · obtain ⟨halt, hhalt, rfl⟩ := List.mem_map.mp hgrenze
      exact ⟨(hbounds halt hhalt).1.le, (hbounds halt hhalt).2⟩
  rw [grenzen]
  split
  next hend =>
    refine ⟨_, rfl, hsorted, ?_, hinner⟩
    rw [List.getLast?_eq_some_getLast (by simp)] at hend
    exact Option.some.inj hend
  · refine ⟨(haltepositionen itinerary).map Prod.fst ++ [itinerary.length], rfl, ?_, ?_, ?_⟩
    · rw [← List.cons_append, List.pairwise_append]
      refine ⟨hsorted, List.pairwise_singleton _ _, fun grenze hgrenze ende hende => ?_⟩
      rw [List.mem_singleton.mp hende]
      exact (hinner grenze hgrenze).2
    · rw [List.getLast_cons (by simp), List.getLast_append_singleton]
    · intro grenze hgrenze
      rw [← List.cons_append, List.mem_append] at hgrenze
      rcases hgrenze with hgrenze | hgrenze
      · exact hinner grenze hgrenze
      · rw [List.mem_singleton.mp hgrenze]
        exact ⟨hline.1, le_rfl⟩

lemma exists_fahrweg {dynamics : Dynamics} {timeline : Timeline}
    (h : zeitachse dynamics infrastructure itinerary train schnitte (haltepositionen itinerary)
      = .ok timeline) {fenster : Length × Length}
    (hfenster : fenster ∈ (grenzen (haltepositionen itinerary) itinerary.length).zip
      (grenzen (haltepositionen itinerary) itinerary.length).tail)
    (hlt : fenster.1 < fenster.2) :
    ∃ pfad, fahrweg infrastructure itinerary train schnitte fenster.1 fenster.2 = .ok pfad := by
  rw [zeitachse, bind_eq_ok_iff] at h
  obtain ⟨stand, hfold, -⟩ := h
  obtain ⟨u, v, hstep⟩ := exists_step_of_foldlM hfold fenster hfenster
  rw [abschnitt, if_neg (not_le.mpr hlt), bind_eq_ok_iff] at hstep
  obtain ⟨pfad, hpfad, -⟩ := hstep
  exact ⟨pfad, hpfad⟩

/-- Where there is a timeline, every leg lies on its track. -/
theorem onTrack_of_zeitachse {dynamics : Dynamics} {timeline : Timeline}
    (h : zeitachse dynamics infrastructure itinerary train schnitte (haltepositionen itinerary)
      = .ok timeline) {placed : Length × CheckedLeg}
    (hplaced : placed ∈ placedFrom 0 itinerary.legs)
    (hlt : placed.1 < placed.1.plus placed.2.length) :
    OnTrack infrastructure placed.2 placed.1 placed.1 (placed.1.plus placed.2.length) := by
  obtain ⟨rest, hgrenzen, -, hlast, hbounds⟩ := grenzen_sorted itinerary
  obtain ⟨-, hline, hend⟩ := onLine_zero.placed placed hplaced
  rw [← length_eq_endFrom] at hend
  have hway : ∀ fenster ∈ (0 :: rest).zip rest, fenster.1 < fenster.2 →
      within fenster.1 fenster.2 placed.1
        < within fenster.1 fenster.2 (placed.1.plus placed.2.length) →
      OnTrack infrastructure placed.2 placed.1 (within fenster.1 fenster.2 placed.1)
        (within fenster.1 fenster.2 (placed.1.plus placed.2.length)) := by
    intro fenster hfenster hstretch hmeets
    obtain ⟨pfad, hpfad⟩ := exists_fahrweg h (by rw [hgrenzen]; exact hfenster) hstretch
    have hfrom := (hbounds fenster.1 (List.of_mem_zip hfenster).1).1
    have hto := (hbounds fenster.2 (List.mem_cons_of_mem 0 (List.of_mem_zip hfenster).2)).2
    exact (fahrweg_ok hfrom hstretch hto hpfad).2.2 placed hplaced hmeets
  cases hdirection : placed.2.leg.direction with
  | withChainage =>
    -- the stretch in which the leg ends
    obtain ⟨fenster, hfenster, hbefore, hreach⟩ :=
      exists_pair_lt_le (lt_of_le_of_lt hline.1 hlt) (hend.trans_eq hlast.symm)
    have hto : within fenster.1 fenster.2 (placed.1.plus placed.2.length)
        = placed.1.plus placed.2.length := by
      rw [within, min_eq_left hreach, max_eq_right hbefore.le]
    obtain ⟨track, htrack, hon⟩ := hway fenster hfenster (lt_of_lt_of_le hbefore hreach) (by
      rw [hto, within]
      exact max_lt hbefore (lt_of_le_of_lt (min_le_left _ _) hlt))
    refine ⟨track, htrack, ?_⟩
    rw [hto] at hon
    simpa only [hdirection, localEnd] using hon
  | againstChainage =>
    -- the stretch in which the leg starts
    obtain ⟨fenster, hfenster, hreach, hbefore⟩ :=
      exists_pair_le_lt hline.1 (lt_of_lt_of_le hlt (hend.trans_eq hlast.symm))
    have hfrom : within fenster.1 fenster.2 placed.1 = placed.1 := by
      rw [within, min_eq_left hbefore.le, max_eq_right hreach]
    obtain ⟨track, htrack, hon⟩ := hway fenster hfenster (lt_of_le_of_lt hreach hbefore) (by
      rw [hfrom, within]
      exact lt_of_lt_of_le (lt_min hlt hbefore) (le_max_right _ _))
    refine ⟨track, htrack, ?_⟩
    rw [hfrom] at hon
    simpa only [hdirection, localEnd] using hon

end Zugfolge.Conflict
