/-
What the search for routes finds.

A trail is a simple way through the head that every switch on it guides.  The search and the
walk along the overlap only ever lengthen a trail, and they end, since no trail is longer than
the head has elements.
-/
import Zugfolge.Foundation.Collect
import Zugfolge.Infra.Interlocking

namespace Zugfolge.Infra

open Foundation Std

namespace StationHead

variable {head : StationHead}

/-! ### Trails -/

/-- A simple way from a node over a last element to another node, guided by the switches. -/
structure Trail (head : StationHead) (start : HeadNodeId) (way : List HeadElementId)
    (node : HeadNodeId) (via : HeadElementId) : Prop where
  simple : way.Nodup
  connected : endOf head.cross start way = some node
  last : ∃ before, way = before ++ [via]
  guided : ∀ p ∈ passages head.cross start way, ∀ switch, head.switchAt p.node = some switch →
    ∃ position, switch.Leads p.via p.next position

variable {node start : HeadNodeId} {via : HeadElementId} {way : List HeadElementId}

lemma Trail.exists_cross (h : head.Trail start way node via) :
    ∃ other, head.cross via node = some other ∧ head.cross via other = some node := by
  obtain ⟨before, rfl⟩ := h.last
  have hend := h.connected
  rw [endOf_append] at hend
  obtain ⟨other, -, hlast⟩ := Option.bind_eq_some_iff.mp hend
  have hcross : head.cross via other = some node := by simpa [endOf] using hlast
  exact ⟨other, head.twoEnded.back hcross, hcross⟩

lemma Trail.exists_kind (h : head.Trail start way node via) :
    ∃ kind, head.kindOf node = some kind := by
  obtain ⟨other, -, hcross⟩ := h.exists_cross
  exact exists_kindOf hcross

/-- A trail goes on over a fresh element that the node leads to. -/
lemma Trail.snoc {start node onwards : HeadNodeId}
    {via next : HeadElementId} {demand : Option SwitchDemand}
    (h : head.Trail start way node via) (hway : (next, demand) ∈ head.onward node via)
    (hfresh : next ∉ way) (hcross : head.cross next node = some onwards) :
    head.Trail start (way ++ [next]) onwards next ∧
      passages head.cross start (way ++ [next])
        = passages head.cross start way ++ [⟨node, via, next⟩] := by
  obtain ⟨kind, hkind⟩ := h.exists_kind
  obtain ⟨other, hother, -⟩ := h.exists_cross
  obtain ⟨-, -, -, hguided⟩ := onward_mem hkind ⟨other, hother⟩ hway
  have hpassages : passages head.cross start (way ++ [next])
      = passages head.cross start way ++ [⟨node, via, next⟩] := by
    obtain ⟨before, rfl⟩ := h.last
    rw [List.append_assoc]
    exact passages_concat h.connected next
  refine ⟨⟨?_, ?_, ⟨way, rfl⟩, ?_⟩, hpassages⟩
  · rw [List.nodup_append]
    refine ⟨h.simple, List.nodup_singleton next, fun a ha b hb => ?_⟩
    rintro rfl
    exact hfresh (List.mem_singleton.mp hb ▸ ha)
  · rw [endOf_concat h.connected, hcross]
  · intro p hp
    rw [hpassages, List.mem_append, List.mem_singleton] at hp
    rcases hp with hp | rfl
    · exact h.guided p hp
    · exact hguided

/-- No trail is longer than the head has elements. -/
lemma Trail.length_le (h : head.Trail start way node via) :
    way.length ≤ head.elements.size := by
  have hknown : ∀ (n m : HeadNodeId) (es : List HeadElementId), endOf head.cross n es = some m →
      ∀ e ∈ es, e ∈ head.elements.keys := by
    intro n m es
    induction es generalizing n with
    | nil => exact fun _ e he => nomatch he
    | cons e es ih =>
      intro hend
      obtain ⟨k, hk, hrest⟩ := Option.bind_eq_some_iff.mp hend
      obtain ⟨held, hheld, -⟩ := Option.bind_eq_some_iff.mp hk
      rw [List.forall_mem_cons]
      refine ⟨?_, ih k hrest⟩
      rw [ExtTreeMap.mem_keys, ← ExtTreeMap.contains_iff_mem]
      exact Registry.contains_iff.mpr ⟨held, hheld⟩
  have hsub := List.subperm_of_subset h.simple (hknown start node way h.connected)
  rw [← ExtTreeMap.length_keys]
  exact hsub.length_le

/-! ### Raw routes -/

/-- A raw route: a trail from its signal that meets no signal and no terminus, up to one. -/
structure Found (head : StationHead) (start : HeadNodeId) (raw : RawRoute) (node : HeadNodeId)
    (via : HeadElementId) (turned : List SwitchDemand) : Prop where
  trail : head.Trail start raw.elements node via
  turns : (passages head.cross start raw.elements).filterMap head.turn = turned
  undisturbed : ∀ p ∈ passages head.cross start raw.elements,
    head.kindOf p.node ≠ some .terminus ∧ head.signalAt p.node p.next = none
  ends : (head.kindOf node = some .terminus ∧ raw.destination = .terminus node ∧
      raw.overlapSeed = none ∧ raw.switches = turned) ∨
    ∃ next demand signal, (next, demand) ∈ head.onward node via ∧ next ∉ raw.elements ∧
      head.signalAt node next = some signal ∧ raw.destination = .signal signal ∧
      raw.overlapSeed = some (node, next) ∧ raw.switches = turned ++ demand.toList

/-- A raw route from a signal. -/
def FoundFrom (head : StationHead) (signal : HeadSignal) (raw : RawRoute) : Prop :=
  raw.fromSignal = signal.id ∧ raw.elements.head? = some signal.element ∧
    ∃ node via turned, head.Found signal.node raw node via turned

/-- Going on from a trail finds routes. -/
lemma found_of_extend {signal : HeadSignal} :
    ∀ {fuel : ℕ} {elements : List HeadElementId} {switches : List SwitchDemand}
      {node : HeadNodeId} {via : HeadElementId} {out : List RawRoute},
      head.Trail signal.node elements node via → elements.head? = some signal.element →
      (passages head.cross signal.node elements).filterMap head.turn = switches →
      (∀ p ∈ passages head.cross signal.node elements,
        head.kindOf p.node ≠ some .terminus ∧ head.signalAt p.node p.next = none) →
      head.extend signal.id fuel elements switches node via = some out →
      ∀ raw ∈ out, head.FoundFrom signal raw := by
  intro fuel
  induction fuel with
  | zero => exact fun _ _ _ _ h => nomatch h
  | succ fuel ih =>
    intro elements switches node via out htrail hfirst hturns hfree hout raw hraw
    rw [extend] at hout
    split at hout
    next hterminus =>
      cases hout
      obtain rfl := List.mem_singleton.mp hraw
      exact ⟨rfl, hfirst, node, via, switches, htrail, hturns, hfree,
        .inl ⟨hterminus, rfl, rfl, rfl⟩⟩
    next hnotTerminus =>
      obtain ⟨outs, houts, rfl⟩ := Option.map_eq_some_iff.mp hout
      obtain ⟨part, hpart, hraw⟩ := List.mem_flatten.mp hraw
      obtain ⟨⟨next, demand⟩, hway, hstep⟩ := exists_of_mem_mapM houts hpart
      split at hstep
      next => cases hstep; cases hraw
      next hfresh =>
        split at hstep
        next signal' hsignal =>
          cases hstep
          obtain rfl := List.mem_singleton.mp hraw
          exact ⟨rfl, hfirst, node, via, switches, htrail, hturns, hfree,
            .inr ⟨next, demand, signal', hway, hfresh, hsignal, rfl, rfl, rfl⟩⟩
        next hclear =>
          split at hstep
          next onwards hcross =>
            obtain ⟨kind, hkind⟩ := htrail.exists_kind
            obtain ⟨other, hother, -⟩ := htrail.exists_cross
            obtain ⟨-, -, hturn, -⟩ := onward_mem hkind ⟨other, hother⟩ hway
            obtain ⟨hlonger, hpassages⟩ := htrail.snoc hway hfresh hcross
            have hfirst' : (elements ++ [next]).head? = some signal.element := by
              rw [List.head?_append, hfirst, Option.some_or]
            refine ih hlonger hfirst' ?_ ?_ hstep raw hraw
            · rw [hpassages, List.filterMap_append, hturns, filterMap_singleton, hturn]
            · intro p hp
              rw [hpassages, List.mem_append, List.mem_singleton] at hp
              rcases hp with hp | rfl
              · exact hfree p hp
              · exact ⟨hnotTerminus, hclear⟩
          next => cases hstep; cases hraw

/-- Going on from a trail ends. -/
lemma extend_exists {fromSignal : HeadSignalId} :
    ∀ {fuel : ℕ} {elements : List HeadElementId} {switches : List SwitchDemand}
      {node : HeadNodeId} {via : HeadElementId},
      head.Trail start elements node via → head.elements.size < elements.length + fuel →
      ∃ out, head.extend fromSignal fuel elements switches node via = some out := by
  intro fuel
  induction fuel with
  | zero =>
    intro elements switches node via htrail hfuel
    exact absurd htrail.length_le (by omega)
  | succ fuel ih =>
    intro elements switches node via htrail hfuel
    rw [extend]
    split
    · exact ⟨_, rfl⟩
    · suffices hall : ∃ outs, (head.onward node via).mapM _ = some outs by
        obtain ⟨outs, houts⟩ := hall
        exact ⟨outs.flatten, by rw [houts, Option.map_some]⟩
      refine mapM_exists fun way hway => ?_
      split
      · exact ⟨_, rfl⟩
      next hfresh =>
        split
        · exact ⟨_, rfl⟩
        · split
          next onwards hcross =>
            obtain ⟨hlonger, -⟩ := htrail.snoc hway hfresh hcross
            refine ih hlonger ?_
            rw [List.length_append, List.length_singleton]
            omega
          · exact ⟨_, rfl⟩

lemma trail_of_signal {signal : HeadSignal}
    (hcross : head.cross signal.element signal.node = some node) :
    head.Trail signal.node [signal.element] node signal.element where
  simple := List.nodup_singleton _
  connected := by simp [endOf, hcross]
  last := ⟨[], rfl⟩
  guided := fun _ hp => nomatch hp

/-- The search finds routes from the signals of the head. -/
lemma found_of_enumerate {fuel : ℕ} {out : List RawRoute} (h : head.enumerate fuel = some out)
    {raw : RawRoute} (hraw : raw ∈ out) :
    ∃ signal, head.signals[raw.fromSignal]? = some signal ∧ head.FoundFrom signal raw := by
  obtain ⟨outs, houts, rfl⟩ := Option.map_eq_some_iff.mp h
  obtain ⟨part, hpart, hraw⟩ := List.mem_flatten.mp hraw
  obtain ⟨signal, hsignal, hfrom⟩ := exists_of_mem_mapM houts hpart
  obtain ⟨key, hkey⟩ := Registry.mem_values.mp hsignal
  rw [routesFrom] at hfrom
  split at hfrom
  · cases hfrom
    cases hraw
  next node hcross =>
    have hfound := found_of_extend (trail_of_signal hcross) rfl rfl
      (fun _ hp => nomatch hp) hfrom raw hraw
    refine ⟨signal, ?_, hfound⟩
    rw [hfound.1, head.keyedSignals key signal hkey]
    exact hkey

lemma enumerate_exists {fuel : ℕ} (hfuel : head.elements.size < fuel) :
    ∃ out, head.enumerate fuel = some out := by
  suffices hall : ∃ outs, (Registry.values head.signals).mapM (head.routesFrom fuel)
      = some outs by
    obtain ⟨outs, houts⟩ := hall
    exact ⟨outs.flatten, by rw [enumerate, houts, Option.map_some]⟩
  refine mapM_exists fun signal hsignal => ?_
  rw [routesFrom]
  split
  · exact ⟨_, rfl⟩
  next node hcross =>
    exact extend_exists (trail_of_signal hcross) (by simp; omega)

/-! ### The walk along the overlap -/

/-- The node carries a switch that the head does not use there, since another switch has its
place. -/
def doubled (head : StationHead) (node : HeadNodeId) : Bool :=
  (Registry.values head.switches).any fun switch =>
    switch.node == node && head.switchAt node != some switch

lemma doubled_iff :
    head.doubled node = true ↔ ∃ (id : SwitchId) (switch : Switch),
      head.switches[id]? = some switch ∧ switch.node = node ∧ head.switchAt node ≠ some switch := by
  simp only [doubled, List.any_eq_true, Registry.mem_values, Bool.and_eq_true, beq_iff_eq,
    bne_iff_ne]
  constructor
  · rintro ⟨switch, ⟨id, hid⟩, hnode, hne⟩
    exact ⟨id, switch, hid, hnode, hne⟩
  · rintro ⟨id, switch, hid, hnode, hne⟩
    exact ⟨switch, ⟨id, hid⟩, hnode, hne⟩

/-- On the straight way, before the length is covered, the walk passes a node with a second
switch or comes back to a used element right behind a switch.  `behind` tells that the element
at hand lies right behind a switch. -/
def strays (head : StationHead) (overlapLength : Length) :
    ℕ → Length → KeySet HeadElementId → HeadNodeId → HeadElementId → Bool → Bool
  | 0, _, _, _, _, _ => false
  | fuel + 1, covered, visited, node, current, behind =>
    if visited.contains current then behind
    else head.doubled node ||
      match head.elements[current]? with
      | none => false
      | some element =>
        if overlapLength ≤ covered.plus element.length then false
        else
          match element.otherEnd node with
          | none => false
          | some nextNode =>
            match (head.onward nextNode current).head? with
            | none => false
            | some (next, demand) =>
              head.strays overlapLength fuel (covered.plus element.length)
                (visited.insert current) nextNode next demand.isSome

/-- The length of an element of the head. -/
def lengthOf (head : StationHead) (element : HeadElementId) : Length :=
  ((head.elements[element]?).map HeadElement.length).getD 0

/-- The walk is about to enter an element: so far it has made a trail and noted its switches,
and the one right in front of the element besides. -/
structure Ahead (head : StationHead) (start : HeadNodeId) (elements : List HeadElementId)
    (switches : List SwitchDemand) (path : OverlapPath) (visited : KeySet HeadElementId)
    (node : HeadNodeId) (via current : HeadElementId) (demand : Option SwitchDemand)
    (noted : List SwitchDemand) : Prop where
  trail : head.Trail start (elements ++ path.elements) node via
  way : (current, demand) ∈ head.onward node via
  marked : ∀ element, visited.contains element = true ↔ element ∈ elements ++ path.elements
  filed : path.switches = fileDemands noted
  turns : (passages head.cross start (elements ++ path.elements)).filterMap head.turn
    ++ demand.toList = switches ++ noted
  straight : current ∈ elements ++ path.elements →
    (head.onward node via).head? = some (current, demand) ∧
      ∃ kept, noted = kept ++ demand.toList ∧
        (passages head.cross start (elements ++ path.elements)).filterMap head.turn
          = switches ++ kept
  covered : path.length ≤ (path.elements.map head.lengthOf).sum
  nonnegative : 0 ≤ path.length

/-- The walk has ended: it has made a trail and noted its switches, and maybe one more. -/
structure Walked (head : StationHead) (start : HeadNodeId) (overlapLength : Length)
    (elements : List HeadElementId) (switches : List SwitchDemand) (overlap : OverlapPath)
    (node : HeadNodeId) (via : HeadElementId) (kept : List SwitchDemand)
    (stray : Option SwitchDemand) : Prop where
  trail : head.Trail start (elements ++ overlap.elements) node via
  filed : overlap.switches = fileDemands (kept ++ stray.toList)
  turns : (passages head.cross start (elements ++ overlap.elements)).filterMap head.turn
    = switches ++ kept
  behind : ∀ demand, stray = some demand →
    ∃ next ∈ elements ++ overlap.elements, (next, some demand) ∈ head.onward node via
  enough : overlapLength ≤ (overlap.elements.map head.lengthOf).sum
    ∨ head.kindOf node = some .terminus
    ∨ ∃ next ∈ elements ++ overlap.elements,
        (head.onward node via).head?.map Prod.fst = some next

lemma noteDemand_file (noted : List SwitchDemand) (demand : Option SwitchDemand) :
    noteDemand (fileDemands noted) demand = fileDemands (noted ++ demand.toList) := by
  cases demand with
  | none => rw [noteDemand, Option.toList_none, List.append_nil]
  | some demand =>
    rw [noteDemand, Option.toList_some, fileDemands, fileDemands, List.foldl_append]
    rfl

/-- The walk ends after a trail, and it strays exactly if it says so. -/
lemma walked_of_walkOverlap {overlapLength : Length}
    {elements : List HeadElementId} {switches : List SwitchDemand} :
    ∀ {fuel : ℕ} {path overlap : OverlapPath} {visited : KeySet HeadElementId}
      {node : HeadNodeId} {via current : HeadElementId} {demand : Option SwitchDemand}
      {behind : Bool} {noted : List SwitchDemand},
      head.Ahead start elements switches path visited node via current demand noted →
      (current ∈ elements ++ path.elements → behind = demand.isSome) →
      head.walkOverlap overlapLength fuel path visited node current = some overlap →
      ∃ node' via' kept stray more,
        head.Walked start overlapLength elements switches overlap node' via' kept stray ∧
        path.elements <+: overlap.elements ∧
        (current ∉ elements ++ path.elements → path.elements ++ [current] <+: overlap.elements) ∧
        passages head.cross start (elements ++ overlap.elements)
          = passages head.cross start (elements ++ path.elements) ++ more ∧
        (head.strays overlapLength fuel path.length visited node current behind = true
          ↔ stray.isSome = true ∨ ∃ p ∈ more, head.doubled p.node = true) := by
  intro fuel
  induction fuel with
  | zero => exact fun _ _ h => nomatch h
  | succ fuel ih =>
    intro path overlap visited node via current demand behind noted h hbehind hwalk
    rw [walkOverlap] at hwalk
    rw [strays]
    by_cases hused : visited.contains current = true
    · -- the element was used before: the switch in front of it stays noted
      have hin := (h.marked current).mp hused
      rw [if_pos hused] at hwalk ⊢
      cases hwalk
      obtain ⟨hstraight, kept, hnoted, hkept⟩ := h.straight hin
      refine ⟨node, via, kept, demand, [], ⟨h.trail, ?_, hkept, ?_, ?_⟩, List.prefix_refl _,
        fun hfresh => ?_, (List.append_nil _).symm, ?_⟩
      · rw [h.filed, hnoted]
      · rintro noted rfl
        exact ⟨current, hin, h.way⟩
      · exact .inr (.inr ⟨current, hin, by rw [hstraight, Option.map_some]⟩)
      · exact absurd hin hfresh
      · rw [hbehind hin]
        simp
    · have hfresh : current ∉ elements ++ path.elements := fun hin =>
        hused ((h.marked current).mpr hin)
      rw [if_neg hused] at hwalk ⊢
      obtain ⟨kind, hkind⟩ := h.trail.exists_kind
      obtain ⟨other, hother, -⟩ := h.trail.exists_cross
      obtain ⟨⟨nextNode, hcross⟩, -, hturn, -⟩ := onward_mem hkind ⟨other, hother⟩ h.way
      obtain ⟨element, helement, hend⟩ := Option.bind_eq_some_iff.mp hcross
      obtain ⟨hlonger, hpassages⟩ := h.trail.snoc h.way hfresh hcross
      have hlonger' : head.Trail start (elements ++ (path.elements ++ [current])) nextNode
          current := by
        rw [← List.append_assoc]
        exact hlonger
      have hmore : passages head.cross start (elements ++ (path.elements ++ [current]))
          = passages head.cross start (elements ++ path.elements) ++ [⟨node, via, current⟩] := by
        rw [← List.append_assoc]
        exact hpassages
      have hturns : (passages head.cross start (elements ++ (path.elements ++ [current]))).filterMap
          head.turn = switches ++ noted := by
        rw [hmore, List.filterMap_append, filterMap_singleton, hturn]
        exact h.turns
      have hlength : head.lengthOf current = element.length := by
        rw [lengthOf, helement]
        rfl
      have hsum : ((path.elements ++ [current]).map head.lengthOf).sum
          = (path.elements.map head.lengthOf).sum + element.length := by
        rw [List.map_append, List.sum_append, List.map_singleton, List.sum_singleton, hlength]
      have hpositive := element.positive
      have hcovered : path.length.plus element.length
          ≤ ((path.elements ++ [current]).map head.lengthOf).sum := by
        rw [hsum]
        have hbound : i64Min ≤ path.length + element.length :=
          Int.le_trans (by decide) (Int.add_nonneg h.nonnegative hpositive.le)
        exact (Length.plus_le hbound).trans (Int.add_le_add_right h.covered _)
      simp only [helement, hend] at hwalk ⊢
      split at hwalk
      next henough =>
        -- the length is covered
        cases hwalk
        refine ⟨nextNode, current, noted, none, [⟨node, via, current⟩],
          ⟨hlonger', by simpa using h.filed, hturns, (fun _ h => nomatch h), ?_⟩,
          List.prefix_append _ _, (fun _ => List.prefix_refl _), hmore, ?_⟩
        · exact .inl (henough.trans hcovered)
        · rw [if_pos henough]
          simp
      next hshort =>
        rw [if_neg hshort]
        cases hnext : (head.onward nextNode current).head? with
        | none =>
          -- nothing follows
          simp only [hnext] at hwalk
          cases hwalk
          obtain ⟨kind', hkind'⟩ := exists_kindOf hcross
          have hnil : head.onward nextNode current = [] := List.head?_eq_none_iff.mp hnext
          refine ⟨nextNode, current, noted, none, [⟨node, via, current⟩],
            ⟨hlonger', by simpa using h.filed, hturns, (fun _ h => nomatch h), ?_⟩,
            List.prefix_append _ _, (fun _ => List.prefix_refl _), hmore, ?_⟩
          · exact .inr (.inl (onward_ne_nil hkind' ⟨node, head.twoEnded.back hcross⟩ hnil))
          · simp
        | some way =>
          obtain ⟨next, demand'⟩ := way
          simp only [hnext] at hwalk
          have hway : (next, demand') ∈ head.onward nextNode current :=
            List.mem_of_head? hnext
          have hahead : head.Ahead start elements switches ⟨path.elements ++ [current],
              noteDemand path.switches demand', path.length.plus element.length⟩
              (visited.insert current) nextNode current next demand'
              (noted ++ demand'.toList) := by
            refine ⟨hlonger', hway, fun e => ?_, ?_, ?_, fun _ => ⟨hnext, noted, rfl, hturns⟩,
              hcovered, Length.plus_nonneg (Int.add_nonneg h.nonnegative hpositive.le)⟩
            · have hmarked := h.marked e
              rw [ExtTreeSet.contains_iff_mem] at hmarked ⊢
              rw [KeySet.mem_insert, hmarked, List.mem_append, List.mem_append, List.mem_append,
                List.mem_singleton, or_comm, or_assoc]
            · rw [h.filed, noteDemand_file]
            · rw [hturns, List.append_assoc]
          obtain ⟨node', via', kept, stray, more, hwalked, hprefix, -, hrest, hstrays⟩ :=
            ih hahead (fun _ => rfl) hwalk
          refine ⟨node', via', kept, stray, ⟨node, via, current⟩ :: more, hwalked,
            (List.prefix_append _ _).trans hprefix, fun _ => hprefix, ?_, ?_⟩
          · rw [hrest, hmore, List.append_assoc]
            rfl
          · simp only [Bool.or_eq_true, hstrays, List.mem_cons, exists_eq_or_imp]
            exact or_left_comm

lemma walkOverlap_exists {overlapLength : Length} :
    ∀ {fuel : ℕ} {way : List HeadElementId} {path : OverlapPath}
      {visited : KeySet HeadElementId} {node : HeadNodeId} {via current : HeadElementId}
      {demand : Option SwitchDemand},
      head.Trail start way node via → (current, demand) ∈ head.onward node via →
      (∀ element, visited.contains element = true ↔ element ∈ way) →
      head.elements.size < way.length + fuel →
      ∃ overlap, head.walkOverlap overlapLength fuel path visited node current
        = some overlap := by
  intro fuel
  induction fuel with
  | zero =>
    intro way path visited node via current demand htrail _ _ hfuel
    exact absurd htrail.length_le (by omega)
  | succ fuel ih =>
    intro way path visited node via current demand htrail hway hmarked hfuel
    rw [walkOverlap]
    split
    · exact ⟨_, rfl⟩
    next hunused =>
      have hfresh : current ∉ way := fun hin => hunused ((hmarked current).mpr hin)
      split
      · exact ⟨_, rfl⟩
      next element helement =>
        simp only
        split
        · exact ⟨_, rfl⟩
        · split
          · exact ⟨_, rfl⟩
          next nextNode hend =>
            split
            · exact ⟨_, rfl⟩
            next next demand' hnext =>
              have hcross : head.cross current node = some nextNode := by
                rw [cross, helement, Option.bind_some, hend]
              obtain ⟨hlonger, -⟩ := htrail.snoc hway hfresh hcross
              refine ih hlonger (List.mem_of_head? hnext) (fun e => ?_) ?_
              · have h := hmarked e
                rw [ExtTreeSet.contains_iff_mem] at h ⊢
                rw [KeySet.mem_insert, h, List.mem_append, List.mem_singleton, or_comm]
              · rw [List.length_append, List.length_singleton]
                omega

end StationHead

end Zugfolge.Infra
