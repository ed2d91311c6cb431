/-
What the claims of a train cover.

A train that is let onto a way must hold a resource at every point of it.  Of the block
sections of a track it holds those that it can use; where it cannot use one of them, the
others leave a gap.

* `profile_covers_iff`: the claims cover the way exactly when the usable sections join up.
-/
import Mathlib.Algebra.Order.BigOperators.Group.List
import Zugfolge.Conflict.Way
import Zugfolge.Foundation.Sweep

namespace Zugfolge.Conflict

open Infra (Length OperatingGraph Track BlockSection TrainCharacteristics Dynamics)
open Foundation

/-! ### Points and claims -/

/-- A point of the way lies on the stretch of the claim. -/
def Claim.Covers (claim : Claim) (x : ℚ) : Prop := OnStretch (claim.start, claim.finish) x

/-- Every point of the way lies on some claim. -/
def WayCovered (claims : List Claim) (itinerary : Itinerary) : Prop :=
  ∀ x : ℚ, 0 ≤ x → x ≤ itinerary.length → ∃ claim ∈ claims, claim.Covers x

/-- The stretch of a block section along its track. -/
def sectionStretch (block : BlockSection) : Int × Int := (block.start, block.finish)

/-- The sections of the leg's track that the train can use reach from the start of the track
as far as the leg; a leg that is bound to a route or whose track counts as one resource needs
no sections. -/
def legJoins (infrastructure : Infrastructure) (train : TrainCharacteristics) (leg : CheckedLeg) :
    Bool :=
  leg.leg.route.isSome || (infrastructure.sectionsOf leg.leg.track).isEmpty ||
    joinsUp (((infrastructure.sectionsOf leg.leg.track).filter fun block =>
      block.isUsableByTrain train.protection).map sectionStretch) leg.length

/-- On every leg the sections that the train can use leave no gap. -/
def usableSectionsJoin (infrastructure : Infrastructure) (itinerary : Itinerary)
    (train : TrainCharacteristics) : Bool :=
  itinerary.legs.all (legJoins infrastructure train)

/-- The itinerary was checked against the graph of the network, the sections of its tracks
lie on them, and its length is a number of 64 bits. -/
structure FitsOn (infrastructure : Infrastructure) (itinerary : Itinerary) : Prop where
  tracks : ∀ leg ∈ itinerary.legs, ∃ track,
    infrastructure.graph.track leg.leg.track = some track ∧ track.length = leg.length
  sections : ∀ leg ∈ itinerary.legs, ∀ block ∈ infrastructure.sectionsOf leg.leg.track,
    0 ≤ block.start ∧ block.finish ≤ leg.length
  bounded : (itinerary.legs.map CheckedLeg.length).sum ≤ i64Max

variable {leg : CheckedLeg} {legs : List CheckedLeg} {offset : Length} {span : ResourceSpan}
  {v : Int} {x : ℚ}

lemma cast_clamp64_le (hv : (v : ℚ) ≤ x) (hx : 0 ≤ x) :
    ((clamp64 v : Int) : ℚ) ≤ x := by
  have hle : clamp64 v ≤ max v 0 := by
    have hmin : i64Min ≤ 0 := by decide
    exact clamp64_le (hmin.trans (le_max_right _ _)) (le_max_left _ _)
  have hcast : ((clamp64 v : Int) : ℚ) ≤ (max v 0 : Int) := by exact_mod_cast hle
  refine hcast.trans ?_
  push_cast
  exact max_le hv hx

lemma le_cast_clamp64 (hv : x ≤ v) (hx : x ≤ i64Max) :
    x ≤ ((clamp64 v : Int) : ℚ) := by
  have hle : min v i64Max ≤ clamp64 v := by
    unfold clamp64
    omega
  have hcast : ((min v i64Max : Int) : ℚ) ≤ (clamp64 v : Int) := by exact_mod_cast hle
  refine le_trans ?_ hcast
  push_cast
  exact le_min hv hx

variable {infrastructure : Infrastructure} {train : TrainCharacteristics} {itinerary : Itinerary}

/-! ### The claims of a leg cover it -/

/-- The point of the track of a leg at a point of the way. -/
def localPoint (direction : TravelDirection) (offset length : Length) (x : ℚ) : ℚ :=
  if direction = .withChainage then x - offset else length - (x - offset)

/-- A span covers a point of the leg if it covers the point of the track that the train has
come to there. -/
lemma covers_claimOfSpan (hline : OnLine offset) (hafter : (offset : ℚ) ≤ x)
    (hbefore : x ≤ (offset.plus leg.length : Length)) (hon : OnStretch (span.start, span.finish)
      (localPoint leg.leg.direction offset leg.length x)) :
    (claimOfSpan offset leg span).Covers x := by
  have hzero : (0 : ℚ) ≤ offset := by exact_mod_cast hline.1
  have hbound : x ≤ i64Max := hbefore.trans (by exact_mod_cast (hline.plus leg).2)
  have hcap : x ≤ offset + leg.length :=
    hbefore.trans (by exact_mod_cast hline.plus_le leg)
  obtain ⟨hfrom, hto⟩ := hon
  rw [Claim.Covers, claimOfSpan]
  cases hdirection : leg.leg.direction with
  | withChainage =>
    simp only [hdirection, localPoint, if_true] at hfrom hto ⊢
    constructor
    · exact cast_clamp64_le (by push_cast; linarith) (hzero.trans hafter)
    · exact le_cast_clamp64 (by push_cast; linarith) hbound
  | againstChainage =>
    simp only [hdirection, localPoint, reduceCtorEq, if_false] at hfrom hto ⊢
    constructor
    · have hinner : ((leg.length.minus span.finish : Int) : ℚ) ≤ x - offset :=
        cast_clamp64_le (by push_cast; linarith) (by linarith)
      exact cast_clamp64_le (by push_cast; linarith) (hzero.trans hafter)
    · have hlength : (leg.length : ℚ) ≤ i64Max := by exact_mod_cast leg.bounded
      have hinner : x - offset ≤ ((leg.length.minus span.start : Int) : ℚ) :=
        le_cast_clamp64 (by push_cast; linarith) (by linarith)
      exact le_cast_clamp64 (by push_cast; linarith) hbound

/-- Where the usable sections join up, the claims of a leg cover it. -/
lemma leg_covered {eigene : List Claim}
    (hline : OnLine offset) (hjoins : legJoins infrastructure train leg = true)
    (hontrack : OnTrack infrastructure leg offset offset (offset.plus leg.length))
    (hclaims : claimsOfLeg infrastructure train offset leg = .ok eigene)
    (hafter : (offset : ℚ) ≤ x) (hbefore : x ≤ (offset.plus leg.length : Length)) :
    ∃ claim ∈ eigene, claim.Covers x := by
  obtain ⟨spans, hspans, rfl⟩ := claimsOfLeg_eq_ok.mp hclaims
  have hcap : x ≤ offset + leg.length :=
    hbefore.trans (by exact_mod_cast hline.plus_le leg)
  rw [legJoins, Bool.or_eq_true, Bool.or_eq_true] at hjoins
  rcases hjoins with (hroute | hwhole) | hjoins
  · obtain ⟨route, hroute⟩ := Option.isSome_iff_exists.mp hroute
    exact ⟨_, mem_claimsOfLeg.mpr (.inr ⟨route, hroute, rfl⟩), hafter, hbefore⟩
  · obtain ⟨track, htrack, hon⟩ := hontrack
    obtain ⟨resource, hone⟩ := Infrastructure.spansOfForTrain_whole train htrack
      (List.isEmpty_iff.mp hwhole)
    rw [hone] at hspans
    cases hspans
    refine ⟨_, mem_claimsOfLeg.mpr (.inl ⟨_, List.mem_singleton_self _, rfl⟩),
      covers_claimOfSpan hline hafter hbefore ?_⟩
    cases hdirection : leg.leg.direction with
    | withChainage =>
      simp only [hdirection, localEnd, localPoint, if_true] at hon ⊢
      have hreach : ((offset.plus leg.length : Int) : ℚ) - offset ≤ track.length := by
        exact_mod_cast hon
      exact ⟨by push_cast; linarith, by linarith⟩
    | againstChainage =>
      simp only [hdirection, localEnd, localPoint, reduceCtorEq, if_false] at hon ⊢
      have hreach : (leg.length : ℚ) - (offset - offset) ≤ track.length := by
        exact_mod_cast hon
      exact ⟨by push_cast; linarith, by linarith⟩
  · by_cases hsections : infrastructure.sectionsOf leg.leg.track = []
    · rw [hsections, List.filter_nil, List.map_nil, joinsUp, List.insertionSort_nil, advance,
        decide_eq_true_eq] at hjoins
      exact absurd leg.positive (not_lt.mpr hjoins)
    · have hends := Infrastructure.spansOfForTrain_sections hsections hspans
      have hcovered := (joinsUp_iff leg.positive).mp hjoins
      obtain ⟨stretch, hstretch, hon⟩ :=
        hcovered (localPoint leg.leg.direction offset leg.length x)
          (by rw [localPoint]; split <;> linarith) (by rw [localPoint]; split <;> linarith)
      have hin : stretch ∈ spans.map fun span => (span.start, span.finish) := by
        rw [hends]
        exact hstretch
      obtain ⟨span, hspan, rfl⟩ := List.mem_map.mp hin
      exact ⟨_, mem_claimsOfLeg.mpr (.inl ⟨span, hspan, rfl⟩),
        covers_claimOfSpan hline hafter hbefore hon⟩

/-! ### A gap in a leg is a gap in the way -/

/-- Two legs are one and the same, or one of them ends before the other one starts. -/
lemma placed_separated :
    ∀ {offset : Length}, OnLine offset → ∀ a ∈ placedFrom offset legs,
      ∀ b ∈ placedFrom offset legs,
        a = b ∨ a.1.plus a.2.length ≤ b.1 ∨ b.1.plus b.2.length ≤ a.1 := by
  induction legs with
  | nil => simp [placedFrom]
  | cons leg legs ih =>
    intro offset hline a ha b hb
    rcases List.mem_cons.mp ha with rfl | ha
    · rcases List.mem_cons.mp hb with rfl | hb
      · exact .inl rfl
      · exact .inr (.inl ((hline.plus leg).placed b hb).1)
    · rcases List.mem_cons.mp hb with rfl | hb
      · exact .inr (.inr ((hline.plus leg).placed a ha).1)
      · exact ih (hline.plus leg) a ha b hb

lemma exists_placed_of_mem :
    ∀ (offset : Length), leg ∈ legs → ∃ placed ∈ placedFrom offset legs, placed.2 = leg := by
  induction legs with
  | nil => simp
  | cons first legs ih =>
    intro offset hleg
    rcases List.mem_cons.mp hleg with rfl | hleg
    · exact ⟨(offset, leg), List.mem_cons_self, rfl⟩
    · obtain ⟨placed, hplaced, heq⟩ := ih (offset.plus first.length) hleg
      exact ⟨placed, List.mem_cons_of_mem _ hplaced, heq⟩

lemma mem_of_placed :
    ∀ {offset : Length}, ∀ placed ∈ placedFrom offset legs, placed.2 ∈ legs := by
  induction legs with
  | nil => simp [placedFrom]
  | cons leg legs ih =>
    intro offset placed hplaced
    rcases List.mem_cons.mp hplaced with rfl | hplaced
    · exact List.mem_cons_self
    · exact List.mem_cons_of_mem _ (ih placed hplaced)

/-- On a line that is not too long for 64 bits every leg ends its length behind its start. -/
lemma plus_eq_of_bounded :
    ∀ {offset : Length}, OnLine offset → offset + (legs.map CheckedLeg.length).sum ≤ i64Max →
      ∀ placed ∈ placedFrom offset legs,
        placed.1.plus placed.2.length = placed.1 + placed.2.length := by
  induction legs with
  | nil => simp [placedFrom]
  | cons leg legs ih =>
    intro offset hline hbounded placed hplaced
    rw [List.map_cons, List.sum_cons] at hbounded
    have hrest : 0 ≤ (legs.map CheckedLeg.length).sum := List.sum_nonneg fun length hlength => by
      obtain ⟨other, -, rfl⟩ := List.mem_map.mp hlength
      exact other.positive.le
    have hmin : i64Min ≤ 0 := by decide
    have hexact : offset.plus leg.length = offset + leg.length :=
      Length.plus_eq ⟨by linarith [hline.1, leg.positive], by linarith⟩
    rcases List.mem_cons.mp hplaced with rfl | hplaced
    · exact hexact
    · exact ih (hline.plus leg) (by rw [hexact]; linarith) placed hplaced

/-- The spans of a track of the network lie on it. -/
lemma span_within {spans : List ResourceSpan} (hfits : FitsOn infrastructure
    itinerary) (hleg : leg ∈ itinerary.legs)
    (hspans : infrastructure.spansOfForTrain leg.leg.track train = .ok spans) :
    ∀ span ∈ spans, 0 ≤ span.start ∧ span.finish ≤ leg.length := by
  intro span hspan
  by_cases hsections : infrastructure.sectionsOf leg.leg.track = []
  · obtain ⟨track, htrack, hlength⟩ := hfits.tracks leg hleg
    obtain ⟨resource, hone⟩ := Infrastructure.spansOfForTrain_whole train htrack
      hsections
    rw [hone] at hspans
    cases hspans
    rw [List.mem_singleton.mp hspan]
    exact ⟨le_rfl, hlength.le⟩
  · have hends := Infrastructure.spansOfForTrain_sections hsections hspans
    have hin : (span.start, span.finish) ∈ spans.map fun span => (span.start, span.finish) :=
      List.mem_map_of_mem hspan
    rw [hends] at hin
    obtain ⟨block, hsection, heq⟩ := List.mem_map.mp hin
    obtain ⟨hstart, hfinish⟩ := hfits.sections leg hleg block (List.mem_of_mem_filter hsection)
    rw [Prod.mk.injEq] at heq
    rw [← heq.1, ← heq.2]
    exact ⟨hstart, hfinish⟩

/-- A claim of a span lies within its leg. -/
lemma within_leg_of_covers
    (hline : OnLine offset) (hstart : 0 ≤ span.start) (hfinish : span.finish ≤ leg.length)
    (hcovers : (claimOfSpan offset leg span).Covers x) :
    (offset : ℚ) ≤ x ∧ x ≤ (offset.plus leg.length : Length) := by
  have hmin : i64Min ≤ 0 := by decide
  have hmax : (0 : Int) ≤ i64Max := by decide
  have hoffset : clamp64 offset = offset := clamp64_of_mem ⟨hmin.trans hline.1, hline.2⟩
  have hbetween : offset ≤ (claimOfSpan offset leg span).start ∧
      (claimOfSpan offset leg span).finish ≤ offset.plus leg.length := by
    rw [claimOfSpan]
    cases hdirection : leg.leg.direction with
    | withChainage =>
      simp only
      have hlow : clamp64 offset ≤ clamp64 (offset + span.start) :=
        clamp64_mono (by linarith)
      exact ⟨hoffset.ge.trans hlow, clamp64_mono (by linarith)⟩
    | againstChainage =>
      simp only
      have hinner : 0 ≤ leg.length.minus span.finish := by
        have hmono : clamp64 0 ≤ clamp64 (leg.length - span.finish) :=
          clamp64_mono (by linarith)
        rwa [clamp64_of_mem ⟨hmin, hmax⟩] at hmono
      have houter : leg.length.minus span.start ≤ leg.length :=
        clamp64_le (by linarith [leg.positive]) (by linarith)
      have hlow : clamp64 offset ≤ clamp64 (offset + leg.length.minus span.finish) :=
        clamp64_mono (by linarith)
      exact ⟨hoffset.ge.trans hlow, clamp64_mono (by linarith)⟩
  obtain ⟨hafter, hbefore⟩ := hcovers
  exact ⟨le_trans (by exact_mod_cast hbetween.1) hafter,
    hbefore.trans (by exact_mod_cast hbetween.2)⟩

lemma le_of_cast_clamp64_le (h : ((clamp64 v : Int) : ℚ) ≤ x) (hx : x < i64Max) : (v : ℚ) ≤ x := by
  have hbelow : clamp64 v < i64Max := by exact_mod_cast h.trans_lt hx
  have hle : v ≤ clamp64 v := by
    unfold clamp64 at hbelow ⊢
    omega
  exact le_trans (by exact_mod_cast hle) h

lemma le_of_le_cast_clamp64 (h : x ≤ ((clamp64 v : Int) : ℚ)) (hx : 0 < x) : x ≤ v := by
  have habove : 0 < clamp64 v := by exact_mod_cast hx.trans_le h
  have hle : clamp64 v ≤ v := by
    have hmin : i64Min < 0 := by decide
    unfold clamp64 at habove ⊢
    omega
  exact le_trans h (by exact_mod_cast hle)

/-- Inside of a leg, a claim of a span covers just the points at which the train is on the
span. -/
lemma onStretch_of_covers (hline : OnLine offset) (hafter : (offset : ℚ) < x)
    (hbefore : x < (offset.plus leg.length : Length))
    (hcovers : (claimOfSpan offset leg span).Covers x) :
    OnStretch (span.start, span.finish) (localPoint leg.leg.direction offset leg.length x) := by
  have hzero : (0 : ℚ) ≤ offset := by exact_mod_cast hline.1
  have hbound : x < i64Max := hbefore.trans_le (by exact_mod_cast (hline.plus leg).2)
  rw [Claim.Covers, claimOfSpan] at hcovers
  cases hdirection : leg.leg.direction with
  | withChainage =>
    simp only [hdirection] at hcovers
    have hlow := le_of_cast_clamp64_le hcovers.1 hbound
    have hhigh := le_of_le_cast_clamp64 hcovers.2 (hzero.trans_lt hafter)
    push_cast at hlow hhigh
    simp only [localPoint, if_true]
    exact ⟨by linarith, by linarith⟩
  | againstChainage =>
    simp only [hdirection] at hcovers
    have hlow := le_of_cast_clamp64_le hcovers.1 hbound
    have hhigh := le_of_le_cast_clamp64 hcovers.2 (hzero.trans_lt hafter)
    push_cast at hlow hhigh
    have hlow' := le_of_cast_clamp64_le (v := leg.length - span.finish) (x := x - offset)
      (by rw [Length.minus, subSat64] at hlow; linarith) (by linarith)
    have hhigh' := le_of_le_cast_clamp64 (v := leg.length - span.start) (x := x - offset)
      (by rw [Length.minus, subSat64] at hhigh; linarith) (by linarith)
    push_cast at hlow' hhigh'
    simp only [localPoint, reduceCtorEq, if_false]
    exact ⟨by linarith, by linarith⟩

/-- Where the usable sections of a leg leave a gap, the claims of the itinerary do. -/
lemma exists_uncovered {claims : List Claim}
    (hclaims : anspruechen infrastructure itinerary train = .ok claims)
    (hfits : FitsOn infrastructure itinerary) (hleg : leg ∈ itinerary.legs)
    (hjoins : legJoins infrastructure train leg = false) :
    ∃ x : ℚ, 0 ≤ x ∧ x ≤ itinerary.length ∧ ∀ claim ∈ claims, ¬ claim.Covers x := by
  obtain ⟨hlegs, hof⟩ := mem_anspruechenFrom hclaims
  obtain ⟨placed, hplaced, rfl⟩ := exists_placed_of_mem 0 hleg
  obtain ⟨-, hline, hend⟩ := onLine_zero.placed placed hplaced
  have hexact := plus_eq_of_bounded onLine_zero (by rw [Int.zero_add]; exact hfits.bounded)
    placed hplaced
  rw [legJoins, Bool.or_eq_false_iff, Bool.or_eq_false_iff] at hjoins
  obtain ⟨⟨hroute, hstored⟩, hjoins⟩ := hjoins
  obtain ⟨y, hpositive, hshort, hgap⟩ := exists_gap hjoins
  -- the point of the way at which the train comes to the gap
  set x : ℚ := if placed.2.leg.direction = .withChainage then placed.1 + y
    else placed.1 + placed.2.length - y with hx
  have hlocal : localPoint placed.2.leg.direction placed.1 placed.2.length x = y := by
    rw [localPoint, hx]
    split <;> ring
  have hexactCast : ((placed.1.plus placed.2.length : Int) : ℚ) = placed.1 + placed.2.length := by
    rw [hexact]
    push_cast
    rfl
  have hafter : (placed.1 : ℚ) < x := by
    rw [hx]
    split <;> linarith
  have hbefore : x < (placed.1.plus placed.2.length : Length) := by
    rw [hexactCast, hx]
    split <;> linarith
  have hzero : (0 : ℚ) ≤ placed.1 := by exact_mod_cast hline.1
  refine ⟨x, by linarith, hbefore.le.trans (by exact_mod_cast hend), ?_⟩
  intro claim hclaim hcovers
  obtain ⟨other, hother, eigene, heigene, hin⟩ := hof claim hclaim
  obtain ⟨spans, hspans, rfl⟩ := claimsOfLeg_eq_ok.mp heigene
  obtain ⟨-, hotherLine, -⟩ := onLine_zero.placed other hother
  have hwithin : (other.1 : ℚ) ≤ x ∧ x ≤ (other.1.plus other.2.length : Length) := by
    rcases mem_claimsOfLeg.mp hin with ⟨span, hspan, rfl⟩ | ⟨route, -, rfl⟩
    · obtain ⟨hstart, hfinish⟩ := span_within hfits (mem_of_placed other hother) hspans span hspan
      exact within_leg_of_covers hotherLine hstart hfinish hcovers
    · exact hcovers
  rcases placed_separated onLine_zero placed hplaced other hother with rfl | hsep | hsep
  · rcases mem_claimsOfLeg.mp hin with ⟨span, hspan, rfl⟩ | ⟨route, hsome, -⟩
    · have hon := onStretch_of_covers hline hafter hbefore hcovers
      rw [hlocal] at hon
      have hsections : infrastructure.sectionsOf placed.2.leg.track ≠ [] := fun hnil => by
        rw [hnil] at hstored
        cases hstored
      have hends := Infrastructure.spansOfForTrain_sections hsections hspans
      refine hgap (span.start, span.finish) ?_ hon
      have hmem : (span.start, span.finish) ∈ spans.map fun span => (span.start, span.finish) :=
        List.mem_map_of_mem hspan
      rwa [hends] at hmem
    · rw [hsome] at hroute
      cases hroute
  · have hcast : ((placed.1.plus placed.2.length : Int) : ℚ) ≤ other.1 := by exact_mod_cast hsep
    linarith [hwithin.1]
  · have hcast : ((other.1.plus other.2.length : Int) : ℚ) ≤ placed.1 := by exact_mod_cast hsep
    linarith [hwithin.2]

/-! ### The way -/

/-- **What the claims of a train cover.**  The claims of a profile leave no point of the way
uncovered if on every leg the sections that the train can use follow each other without a
gap; on a network that the itinerary and the sections were made for, they leave none only
then. -/
theorem profile_covers_iff {dynamics : Dynamics} {profile : ItineraryProfile}
    (h : deriveOccupationProfile dynamics infrastructure itinerary train = .ok profile) :
    ∃ claims, anspruechen infrastructure itinerary train = .ok claims ∧
      profile.occupations.map RelativeOccupation.resource = claims.map Claim.resource ∧
      (usableSectionsJoin infrastructure itinerary train = true → WayCovered claims itinerary) ∧
      (FitsOn infrastructure itinerary → WayCovered claims itinerary →
        usableSectionsJoin infrastructure itinerary train = true) := by
  rw [deriveOccupationProfile, bind_eq_ok_iff] at h
  obtain ⟨claims, hclaims, h⟩ := h
  rw [bind_eq_ok_iff] at h
  obtain ⟨timeline, htimeline, h⟩ := h
  cases h
  refine ⟨claims, hclaims, by simp [occupationOf], fun hjoins x hstart hfinish => ?_,
    fun hfits hcovered => ?_⟩
  · obtain ⟨hlegs, -⟩ := mem_anspruechenFrom hclaims
    -- the start of the way lies on the first leg, every other point behind the start of a leg
    obtain ⟨placed, hplaced, hextent, hafter, hbefore⟩ :
        ∃ placed ∈ placedFrom 0 itinerary.legs, placed.1 < placed.1.plus placed.2.length ∧
          (placed.1 : ℚ) ≤ x ∧ x ≤ (placed.1.plus placed.2.length : Length) := by
      rcases eq_or_lt_of_le hstart with rfl | hpositive
      · cases hfirst : itinerary.legs with
        | nil => exact absurd hfirst itinerary.nonempty
        | cons leg legs =>
          have hextent : (0 : Length) < Length.plus 0 leg.length := onLine_zero.plus_pos leg
          refine ⟨(0, leg), List.mem_cons_self, hextent, le_rfl, ?_⟩
          exact_mod_cast hextent.le
      · obtain ⟨placed, hplaced, hafter, hbefore⟩ :=
          exists_placed 0 (by exact_mod_cast hpositive) hfinish
        have hextent : placed.1 < placed.1.plus placed.2.length := by
          exact_mod_cast hafter.trans_le hbefore
        exact ⟨placed, hplaced, hextent, hafter.le, hbefore⟩
    obtain ⟨eigene, heigene, hsub⟩ := hlegs placed hplaced
    obtain ⟨-, hline, -⟩ := onLine_zero.placed placed hplaced
    obtain ⟨claim, hclaim, hcovers⟩ := leg_covered hline
      (List.all_eq_true.mp hjoins placed.2 (mem_of_placed placed hplaced))
      (onTrack_of_zeitachse htimeline hplaced hextent) heigene hafter hbefore
    exact ⟨claim, hsub hclaim, hcovers⟩
  · rw [usableSectionsJoin, List.all_eq_true]
    intro leg hleg
    by_contra hnot
    obtain ⟨x, hstart, hfinish, hnone⟩ :=
      exists_uncovered hclaims hfits hleg (by simpa using hnot)
    obtain ⟨claim, hclaim, hcovers⟩ := hcovered x hstart hfinish
    exact hnone claim hclaim hcovers

/-! ### A line with an overlaid stretch -/

namespace SmallLine

open Infra

def surveyed : Provenance := ⟨.surveyed⟩

/-- A level track for 120 km/h under overhead line. -/
def track (id : TrackId) (owner : TrackOwner) (length : Length) (bounded : length ≤ i64Max)
    (protection : List (Band TrainProtection)) : Except InfraError Track := do
  let speed ← BandProfile.uniform "vmax" length (← SpeedLimit.uniform 33334) surveyed
  let gradient ← BandProfile.uniform "neigung" length (0 : Gradient) surveyed
  let electrification ← BandProfile.uniform "elektrifizierung" length
    (Electrification.overhead .ac15kV) surveyed
  let protection ← BandProfile.new "zugsicherung" length protection
  { Track.builder id owner "Gleis" length bounded with
    speed := some speed
    gradient := some gradient
    electrification := some electrification
    protection := some protection }.build

/-- Protection by inductive signals alone. -/
def inductive' : TrainProtection := .single .pzb

/-- The line between two stations: its middle third has continuous protection as well. -/
def line : Except InfraError Track :=
  track 21 (.edge 1) 3000000 (by decide)
    [⟨0, 1000000, inductive', surveyed⟩, ⟨1000000, 2000000, ⟨{.pzb, .lzb}⟩, surveyed⟩,
      ⟨2000000, 3000000, inductive', surveyed⟩]

/-- Two stations with one track of 100 metres each and the line between them. -/
def graph : Except InfraError OperatingGraph := do
  let edge ← TrackEdge.new 1 1 2 "Strecke" 3000000
  let first ← track 11 (.operatingPoint 1) 100000 (by decide) [⟨0, 100000, inductive', surveyed⟩]
  let second ← track 12 (.operatingPoint 2) 100000 (by decide)
    [⟨0, 100000, inductive', surveyed⟩]
  let line ← line
  (⟨[⟨1, "AA", .station⟩, ⟨2, "BB", .station⟩], [edge], [first, second, line], []⟩ :
    OperatingGraphBuilder).build

/-- The blocks of the line, bounded by the markers of the continuous protection. -/
def blocks : Except InfraError (List BlockSection) := do
  deriveBlockSections (← line) [⟨1000000, .lzbBlockMarker⟩, ⟨2000000, .lzbBlockMarker⟩]
    defaultMaxBlockLength

def network : Option Infrastructure := do
  let graph ← graph.toOption
  let blocks ← blocks.toOption
  ((Infrastructure.builder graph).withBlocks 21 blocks).build.toOption

/-- A railcar of 140 metres with the given protection. -/
def railcar (protection : TrainProtection) : Option TrainCharacteristics :=
  (TrainCharacteristics.new "Triebwagen" 120000 140000 38889 .standard 600 800 .diesel
    protection).toOption

/-- From the first station to the second one, with a dwell at the end. -/
def journey (infrastructure : Infrastructure) (dwellS : Int) : Option Itinerary :=
  (Itinerary.new infrastructure.graph [.new 11 .withChainage, .new 21 .withChainage,
    (ItineraryLeg.new 12 .withChainage).withDwell dwellS]).toOption

/-- The seconds that the railcar needs from one cut of its way to the next one. -/
def sectionTimes : List (Length × Int) :=
  [(100000, 19), (440000, 20), (1100000, 22), (1440000, 10), (2100000, 20), (2440000, 10),
    (3100000, 28), (3200000, 16)]

/-- The seconds that the railcar needs to a position of its way. -/
def timeTo (position : Length) : Int :=
  ((sectionTimes.filter fun cut => decide (cut.1 ≤ position)).map Prod.snd).sum

/-- The running times of the railcar over the line. -/
def dynamics : Dynamics where
  fault _ _ _ _ := none
  elapsed path _ _ _ index := timeTo (pathLength (path.take (index + 1)))

lemma timeTo_mono {position later : Length} (h : position ≤ later) :
    timeTo position ≤ timeTo later := by
  have hsub : (sectionTimes.filter fun cut => decide (cut.1 ≤ position)).Sublist
      (sectionTimes.filter fun cut => decide (cut.1 ≤ later)) :=
    List.monotone_filter_right _ fun cut hcut => by
      rw [decide_eq_true_eq] at hcut ⊢
      exact hcut.trans h
  refine (hsub.map Prod.snd).sum_le_sum fun seconds hseconds => ?_
  obtain ⟨cut, hcut, rfl⟩ := List.mem_map.mp hseconds
  have hall : ∀ cut ∈ sectionTimes, 0 ≤ cut.2 := by decide
  exact hall cut (List.mem_of_mem_filter hcut)

lemma dynamics_monotone : dynamics.Monotone where
  nonneg path _ _ _ := by
    have hzero : timeTo 0 = 0 := by decide
    exact hzero ▸ timeTo_mono (pathLength_nonneg _)
  step path _ _ _ index := by
    refine timeTo_mono ?_
    rw [List.take_add_one (i := index + 1), pathLength_append]
    linarith [pathLength_nonneg (path[index + 1]?).toList]

/-- A run over the line that has a profile, with its claims. -/
structure Derived where
  infrastructure : Infrastructure
  itinerary : Itinerary
  train : TrainCharacteristics
  profile : ItineraryProfile
  claims : List Claim
  isProfile : deriveOccupationProfile dynamics infrastructure itinerary train = .ok profile
  areClaims : anspruechen infrastructure itinerary train = .ok claims

/-- The run of a railcar with the given protection and a dwell at the end. -/
def derived (protection : TrainProtection) (dwellS : Int) : Option Derived := do
  let infrastructure ← network
  let itinerary ← journey infrastructure dwellS
  let train ← railcar protection
  match hprofile : deriveOccupationProfile dynamics infrastructure itinerary train,
      hclaims : anspruechen infrastructure itinerary train with
  | .ok profile, .ok claims =>
    some ⟨infrastructure, itinerary, train, profile, claims, hprofile, hclaims⟩
  | _, _ => none

/-- The railcar without continuous protection runs over the line and claims nothing of its
middle third. -/
theorem middle_unclaimed : ¬ ∀ infrastructure itinerary train profile claims,
    deriveOccupationProfile dynamics infrastructure itinerary train = .ok profile →
      anspruechen infrastructure itinerary train = .ok claims →
      WayCovered claims itinerary := by
  intro hcovered
  have hrun : ((derived inductive' 0).any fun run => decide (1600000 ≤ run.itinerary.length) &&
      run.claims.all fun claim => decide (1600000 < claim.start ∨ claim.finish < 1600000))
        = true := by
    decide +kernel
  obtain ⟨run, -, hrun⟩ := (Option.any_eq_true _ _).mp hrun
  rw [Bool.and_eq_true, decide_eq_true_eq, List.all_eq_true] at hrun
  obtain ⟨hlength, hclaims⟩ := hrun
  obtain ⟨claim, hclaim, hafter, hbefore⟩ := hcovered run.infrastructure run.itinerary run.train
    run.profile run.claims run.isProfile run.areClaims 1600000 (by norm_num)
    (by exact_mod_cast hlength)
  have houtside := of_decide_eq_true (hclaims claim hclaim)
  have hstart : claim.start ≤ 1600000 := by exact_mod_cast hafter
  have hfinish : (1600000 : Int) ≤ claim.finish := by exact_mod_cast hbefore
  rcases houtside with hlate | hearly
  · exact absurd hstart (not_le.mpr hlate)
  · exact absurd hfinish (not_le.mpr hearly)

/-- A railcar with both kinds of protection claims the whole line. -/
theorem profile_covers_railcar : ∃ infrastructure itinerary claims,
    WayCovered claims itinerary ∧ claims.length = 5 ∧
      ∃ train profile, deriveOccupationProfile dynamics infrastructure itinerary train = .ok profile
        ∧ anspruechen infrastructure itinerary train = .ok claims := by
  have hrun : ((derived ⟨{.pzb, .lzb}⟩ 0).any fun run => decide (run.claims.length = 5) &&
      usableSectionsJoin run.infrastructure run.itinerary run.train) = true := by
    decide +kernel
  obtain ⟨run, -, hrun⟩ := (Option.any_eq_true _ _).mp hrun
  rw [Bool.and_eq_true, decide_eq_true_eq] at hrun
  obtain ⟨claims, hclaims, -, hcovered, -⟩ := profile_covers_iff run.isProfile
  have heq : claims = run.claims := by
    rw [run.areClaims] at hclaims
    exact (Except.ok.inj hclaims).symm
  subst heq
  exact ⟨run.infrastructure, run.itinerary, run.claims, hcovered hrun.2, hrun.1, run.train,
    run.profile, run.isProfile, run.areClaims⟩

end SmallLine

end Zugfolge.Conflict
