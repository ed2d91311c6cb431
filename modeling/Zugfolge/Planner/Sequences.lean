/-
The sequences of operating points that serve a request.

The search goes on from the shortest part of a sequence and never returns to a point.  It
keeps apart what it has found: no part in its queue begins with another one, unless two edges
join the same two points.

* `serves_of_mem_punktfolgen`: every sequence that is found serves the request;
* `shorter_first_punktfolgen`: shorter sequences come first;
* `Simple`, `nodup_punktfolgen`: in a graph without parallel edges none is found twice.
-/
import Zugfolge.Planner.Route

namespace Zugfolge.Planner

open Conflict (OperatingPointId)
open Infra (OperatingGraph TrackEdge)

/-- A sequence of operating points leads from the origin to the destination along the edges of
the graph, meets no point twice, the named points in their order and all stops. -/
structure Serves (graph : OperatingGraph) (request : PathRequest)
    (points : List OperatingPointId) : Prop where
  starts : points.head? = some request.origin
  ends : points.getLast? = some request.destination
  once : points.Nodup
  joined : points.IsChain fun point next => next ∈ graph.neighbours point
  vias : request.viaPoints.Sublist points
  stops : ∀ halt ∈ request.stops, halt.point ∈ points

/-- A part of a sequence, last point first, that has met the first named points. -/
structure Begins (graph : OperatingGraph) (request : PathRequest) (teilweg : Teilweg) :
    Prop where
  starts : teilweg.1.getLast? = some request.origin
  once : teilweg.1.Nodup
  joined : teilweg.1.IsChain fun next point => next ∈ graph.neighbours point
  vias : (request.viaPoints.take teilweg.2).Sublist teilweg.1.reverse

variable {graph : OperatingGraph} {request : PathRequest}

/-! ### What the search keeps -/

/-- Going on to a neighbour adds a new point, and counts it if it is the next named one. -/
lemma weiterNach_eq_some {teilweg weiter : Teilweg} {nachbar : OperatingPointId}
    (h : weiterNach request teilweg nachbar = some weiter) :
    nachbar ∉ teilweg.1 ∧ weiter.1 = nachbar :: teilweg.1 ∧
      (weiter.2 = teilweg.2
        ∨ weiter.2 = teilweg.2 + 1 ∧ request.viaPoints[teilweg.2]? = some nachbar) := by
  rw [weiterNach] at h
  split at h
  next => cases h
  next hnew =>
    refine ⟨hnew, ?_⟩
    simp only at h
    split at h
    next => cases h
    next followingVia hfollowing =>
      split at h
      next => cases h
      next =>
        cases h
        refine ⟨rfl, ?_⟩
        split at hfollowing
        next index hindex =>
          split at hfollowing
          next => cases hfollowing
          next heq =>
            cases hfollowing
            obtain ⟨hlt, hpoint, -⟩ := List.findIdx?_eq_some_iff_getElem.mp hindex
            refine .inr ⟨rfl, ?_⟩
            rw [← not_not.mp heq, List.getElem?_eq_getElem hlt, of_decide_eq_true hpoint]
        next =>
          cases hfollowing
          exact .inl rfl

/-- The named points that are met stay met. -/
lemma Begins.weiter {teilweg weiter : Teilweg} {aktuell nachbar : OperatingPointId}
    (h : Begins graph request teilweg) (hlast : teilweg.1.head? = some aktuell)
    (hnachbar : nachbar ∈ graph.neighbours aktuell)
    (hweiter : weiterNach request teilweg nachbar = some weiter) :
    Begins graph request weiter := by
  obtain ⟨hnew, hpoints, hvias⟩ := weiterNach_eq_some hweiter
  obtain ⟨points, index⟩ := weiter
  obtain rfl : points = nachbar :: teilweg.1 := hpoints
  have hkept : (request.viaPoints.take teilweg.2).Sublist (nachbar :: teilweg.1).reverse := by
    rw [List.reverse_cons]
    exact h.vias.trans (List.sublist_append_left _ _)
  refine ⟨?_, List.nodup_cons.mpr ⟨hnew, h.once⟩, ?_, ?_⟩
  · rw [List.getLast?_cons, h.starts, Option.getD_some]
  · refine h.joined.cons fun point hpoint => ?_
    rw [hlast, Option.mem_some_iff] at hpoint
    rwa [← hpoint]
  · rcases hvias with heq | ⟨heq, hpoint⟩
    · obtain rfl : index = teilweg.2 := heq
      exact hkept
    · obtain rfl : index = teilweg.2 + 1 := heq
      obtain ⟨hlt, hnamed⟩ := List.getElem?_eq_some_iff.mp hpoint
      rw [List.take_succ_eq_append_getElem hlt, hnamed, List.reverse_cons]
      exact h.vias.append (List.Sublist.refl _)

lemma Begins.serves {teilweg : Teilweg} (h : Begins graph request teilweg)
    (hlast : teilweg.1.head? = some request.destination)
    (hvias : teilweg.2 = request.viaPoints.length)
    (hstops : ∀ halt ∈ request.stops, halt.point ∈ teilweg.1) :
    Serves graph request teilweg.1.reverse := by
  refine ⟨?_, ?_, List.nodup_reverse.mpr h.once, List.isChain_reverse.mpr h.joined, ?_,
    fun halt hhalt => List.mem_reverse.mpr (hstops halt hhalt)⟩
  · rw [List.head?_reverse, h.starts]
  · rw [List.getLast?_reverse, hlast]
  · have hmet := h.vias
    rwa [hvias, List.take_length] at hmet

/-- The search finds sequences for the request if its parts begin such sequences. -/
lemma serves_of_mem_punktfolgenFrom {grenze expansions : ℕ} {warteschlange : List Teilweg}
    {gefunden : List (List OperatingPointId)}
    (hparts : ∀ teilweg ∈ warteschlange, Begins graph request teilweg)
    (hfound : ∀ folge ∈ gefunden, Serves graph request folge) :
    ∀ folge ∈ punktfolgenFrom graph request grenze expansions warteschlange gefunden,
      Serves graph request folge := by
  fun_induction punktfolgenFrom graph request grenze expansions warteschlange gefunden with
  | case1 => exact hfound
  | case2 => exact hfound
  | case3 expansions teilweg warteschlange gefunden hempty ih =>
    exact ih (fun other hother => hparts other (List.mem_cons_of_mem _ hother)) hfound
  | case4 expansions teilweg warteschlange gefunden rest hserves found hfull hpoints =>
    intro folge hfolge
    rcases List.mem_append.mp hfolge with hold | hnew
    · exact hfound folge hold
    · rw [List.mem_singleton.mp hnew]
      exact (hparts teilweg List.mem_cons_self).serves
        (by rw [hpoints]; rfl) hserves.1 hserves.2
  | case5 expansions teilweg warteschlange gefunden rest hserves found hmore hpoints ih =>
    refine ih (fun other hother => hparts other (List.mem_cons_of_mem _ hother))
      fun folge hfolge => ?_
    rcases List.mem_append.mp hfolge with hold | hnew
    · exact hfound folge hold
    · rw [List.mem_singleton.mp hnew]
      exact (hparts teilweg List.mem_cons_self).serves
        (by rw [hpoints]; rfl) hserves.1 hserves.2
  | case6 expansions teilweg warteschlange gefunden rest hnot hpoints ih
  | case7 expansions teilweg warteschlange gefunden aktuell rest hpoints hother hlong ih =>
    exact ih (fun other hother => hparts other (List.mem_cons_of_mem _ hother)) hfound
  | case8 expansions teilweg warteschlange gefunden aktuell rest hpoints hother hshort ih =>
    refine ih (fun weiter hweiter => ?_) hfound
    rcases List.mem_append.mp hweiter with hold | hnew
    · exact hparts weiter (List.mem_cons_of_mem _ hold)
    · obtain ⟨nachbar, hnachbar, hnext⟩ := List.mem_filterMap.mp hnew
      exact (hparts teilweg List.mem_cons_self).weiter (by rw [hpoints]; rfl) hnachbar hnext

/-- Every sequence that is found serves the request. -/
theorem serves_of_mem_punktfolgen {folge : List OperatingPointId}
    (h : folge ∈ punktfolgen graph request) : Serves graph request folge := by
  rw [punktfolgen] at h
  split at h
  next => cases h
  next =>
    rw [List.mem_insertionSort] at h
    refine serves_of_mem_punktfolgenFrom (fun teilweg hteilweg => ?_) (by simp) folge h
    rw [List.mem_singleton.mp hteilweg]
    exact ⟨rfl, List.nodup_singleton _, List.isChain_singleton _, List.nil_sublist _⟩

/-! ### The order of the sequences -/

/-- Shorter sequences come first. -/
theorem shorter_first_punktfolgen :
    (punktfolgen graph request).Pairwise fun folge later => folge.length ≤ later.length := by
  rw [punktfolgen]
  split
  next => exact .nil
  next =>
    have htotal : Std.Total fun a b : List OperatingPointId =>
        a.length < b.length ∨ a.length = b.length ∧ a ≤ b := ⟨fun a b => by
      rcases lt_trichotomy a.length b.length with h | h | h
      · exact .inl (.inl h)
      · rcases le_total a b with hle | hle
        · exact .inl (.inr ⟨h, hle⟩)
        · exact .inr (.inr ⟨h.symm, hle⟩)
      · exact .inr (.inl h)⟩
    have htrans : IsTrans (List OperatingPointId) fun a b =>
        a.length < b.length ∨ a.length = b.length ∧ a ≤ b := ⟨fun a b c hab hbc => by
      rcases hab with hab | ⟨hab, hle⟩
      · rcases hbc with hbc | ⟨hbc, -⟩
        · exact .inl (hab.trans hbc)
        · exact .inl (hbc ▸ hab)
      · rcases hbc with hbc | ⟨hbc, hle'⟩
        · exact .inl (hab ▸ hbc)
        · exact .inr ⟨hab.trans hbc, hle.trans hle'⟩⟩
    refine (List.pairwise_insertionSort (fun a b : List OperatingPointId =>
      a.length < b.length ∨ a.length = b.length ∧ a ≤ b) _).imp ?_
    rintro a b (hlt | ⟨heq, -⟩)
    · exact hlt.le
    · exact heq.le

/-! ### No sequence twice -/

/-- No operating point is the neighbour of another one over two edges. -/
def Simple (graph : OperatingGraph) : Prop :=
  ∀ point, (graph.neighbours point).Nodup

/-- Neither of two parts begins with the other one. -/
def Apart (a b : List OperatingPointId) : Prop := ¬ a <:+ b ∧ ¬ b <:+ a

lemma Apart.symm {a b : List OperatingPointId} (h : Apart a b) : Apart b a := ⟨h.2, h.1⟩

lemma apart_cons {point other : OperatingPointId} {points : List OperatingPointId}
    (h : point ≠ other) : Apart (point :: points) (other :: points) := by
  have hnot : ∀ {a b : OperatingPointId}, a ≠ b → ¬ (a :: points) <:+ (b :: points) := by
    intro a b hne hsuffix
    have heq := hsuffix.eq_of_length rfl
    exact hne (List.cons.inj heq).1
  exact ⟨hnot h, hnot h.symm⟩

lemma Apart.cons {points other : List OperatingPointId} (h : Apart points other)
    (point : OperatingPointId) : Apart (point :: points) other := by
  refine ⟨fun hsuffix => h.1 ((List.suffix_cons point points).trans hsuffix), fun hsuffix => ?_⟩
  rcases List.suffix_cons_iff.mp hsuffix with heq | hsuffix
  · exact h.1 (heq ▸ List.suffix_cons point points)
  · exact h.2 hsuffix

/-- The parts that go on from one part lie apart from each other and from the rest. -/
lemma apart_weiter (hsimple : Simple graph) (request : PathRequest) (aktuell : OperatingPointId)
    {teilweg : Teilweg} {rest : List (List OperatingPointId)}
    (h : (teilweg.1 :: rest).Pairwise Apart) :
    (((graph.neighbours aktuell).filterMap (weiterNach request teilweg)).map Prod.fst
      ++ rest).Pairwise Apart := by
  rw [List.pairwise_cons] at h
  rw [List.pairwise_append]
  refine ⟨?_, h.2, fun points hpoints other hother => ?_⟩
  · rw [List.pairwise_map, List.pairwise_filterMap]
    refine (hsimple aktuell).imp ?_
    intro point other hne first hfirst second hsecond
    rw [(weiterNach_eq_some hfirst).2.1, (weiterNach_eq_some hsecond).2.1]
    exact apart_cons hne
  · obtain ⟨weiter, hweiter, rfl⟩ := List.mem_map.mp hpoints
    obtain ⟨nachbar, -, hnext⟩ := List.mem_filterMap.mp hweiter
    rw [(weiterNach_eq_some hnext).2.1]
    exact (h.1 other hother).cons nachbar

/-- The search keeps apart what it has found and what it still looks at. -/
lemma apart_punktfolgenFrom (hsimple : Simple graph) {grenze expansions : ℕ}
    {warteschlange : List Teilweg} {gefunden : List (List OperatingPointId)}
    (h : (warteschlange.map Prod.fst ++ gefunden.map List.reverse).Pairwise Apart) :
    ((punktfolgenFrom graph request grenze expansions warteschlange gefunden).map
      List.reverse).Pairwise Apart := by
  fun_induction punktfolgenFrom graph request grenze expansions warteschlange gefunden with
  | case1 | case2 => exact (List.pairwise_append.mp h).2.1
  | case3 expansions teilweg warteschlange gefunden hempty ih =>
    exact ih (List.pairwise_cons.mp h).2
  | case4 expansions teilweg warteschlange gefunden rest hserves found hfull hpoints =>
    rw [List.map_append, List.map_singleton, List.reverse_reverse]
    rw [List.map_cons, List.cons_append, List.pairwise_cons] at h
    rw [List.pairwise_append]
    refine ⟨(List.pairwise_append.mp h.2).2.1, List.pairwise_singleton _ _, ?_⟩
    intro points hpoints' other hother
    rw [List.mem_singleton.mp hother]
    exact (h.1 points (List.mem_append_right _ hpoints')).symm
  | case5 expansions teilweg warteschlange gefunden rest hserves found hmore hpoints ih =>
    refine ih ?_
    rw [List.map_append, List.map_singleton, List.reverse_reverse, ← List.append_assoc]
    exact (List.Perm.pairwise_iff (fun h => Apart.symm h)
      (List.perm_append_singleton _ _).symm).mp h
  | case6 expansions teilweg warteschlange gefunden rest hnot hpoints ih
  | case7 expansions teilweg warteschlange gefunden aktuell rest hpoints hother hlong ih =>
    exact ih (List.pairwise_cons.mp h).2
  | case8 expansions teilweg warteschlange gefunden aktuell rest hpoints hother hshort ih =>
    refine ih ?_
    have hnext := apart_weiter hsimple request aktuell h
    rw [List.map_append]
    refine (List.Perm.pairwise_iff (fun h => Apart.symm h) ?_).mp hnext
    change List.Perm (_ ++ (_ ++ _)) _
    rw [← List.append_assoc]
    exact List.Perm.append_right _ List.perm_append_comm

/-- In a graph without parallel edges no sequence is found twice. -/
theorem nodup_punktfolgen (hsimple : Simple graph) : (punktfolgen graph request).Nodup := by
  rw [punktfolgen]
  split
  next => exact List.nodup_nil
  next =>
    rw [(List.perm_insertionSort _ _).nodup_iff]
    refine List.Nodup.of_map List.reverse ?_
    have hne : ∀ {a b : List OperatingPointId}, Apart a b → a ≠ b := by
      rintro a b hapart rfl
      exact hapart.1 List.suffix_rfl
    refine List.Pairwise.imp hne (apart_punktfolgenFrom hsimple ?_)
    exact List.pairwise_singleton _ _

end Zugfolge.Planner
