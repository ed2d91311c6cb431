/-
Legal routes.

A route is legal if it is a simple connected way from its signal to the first signal or
terminus, with every switch on it in the position the route demands, and an overlap behind
the signal that is long enough or cannot go on.

* `derived_routes_legal_iff`: the derivation ends, and its routes are legal exactly if no way
  goes wrong.
-/
import Zugfolge.Infra.Search

namespace Zugfolge.Infra

open Foundation Std

namespace InterlockingRoute

/-- The elements of a route and of its overlap. -/
def way (route : InterlockingRoute) : List HeadElementId :=
  route.elements ++ route.overlap.elements

/-- The route demands a position of a switch, for itself or for its overlap. -/
def Demands (route : InterlockingRoute) (id : SwitchId) (position : SwitchPosition) : Prop :=
  route.switches[id]? = some position ∨ route.overlap.switches[id]? = some position

end InterlockingRoute

namespace StationHead

variable {head : StationHead}

/-- What makes a route from a node legal. -/
structure LegalFrom (head : StationHead) (overlapLength : Length) (route : InterlockingRoute)
    (start : HeadNodeId) : Prop where
  connected : ∃ finish, endOf head.cross start route.way = some finish
  simple : route.way.Nodup
  guided : ∀ p ∈ passages head.cross start route.way, ∀ (id : SwitchId) (switch : Switch),
    head.switches[id]? = some switch → switch.node = p.node →
      ∃ position, switch.Leads p.via p.next position ∧ route.Demands id position
  turned : ∀ id position, route.Demands id position →
    ∃ p ∈ passages head.cross start route.way, ∃ switch, head.switches[id]? = some switch ∧
      switch.node = p.node ∧ switch.Leads p.via p.next position
  single : ∀ id position other, route.Demands id position → route.Demands id other →
    position = other
  undisturbed : ∀ p ∈ passages head.cross start route.elements,
    head.kindOf p.node ≠ some .terminus ∧ ∀ (id : HeadSignalId) (signal : HeadSignal),
      head.signals[id]? = some signal →
        ¬ (signal.node = p.node ∧ signal.element = p.next)
  ends : ∃ node, endOf head.cross start route.elements = some node ∧
    ((route.destination = .terminus node ∧ head.kindOf node = some .terminus ∧
        route.overlap.elements = []) ∨
      ∃ id signal, route.destination = .signal id ∧ head.signals[id]? = some signal ∧
        signal.node = node ∧ route.overlap.elements.head? = some signal.element)
  enough : ∃ node via, endOf head.cross start route.way = some node ∧
    route.way.getLast? = some via ∧
      (overlapLength ≤ (route.overlap.elements.map head.lengthOf).sum
        ∨ head.kindOf node = some .terminus
        ∨ ∃ next ∈ route.way, (head.onward node via).head?.map Prod.fst = some next)

/-- A route is legal if it begins behind its signal and goes on legally from there. -/
def Legal (head : StationHead) (overlapLength : Length) (route : InterlockingRoute) : Prop :=
  ∃ signal, head.signals[route.fromSignal]? = some signal ∧
    route.elements.head? = some signal.element ∧
    head.LegalFrom overlapLength route signal.node

/-- The route was derived from the raw route, whatever it excludes. -/
structure DerivedFrom (head : StationHead) (fuel : ℕ) (overlapLength : Length) (raw : RawRoute)
    (route : InterlockingRoute) : Prop where
  fromSignal : route.fromSignal = raw.fromSignal
  elements : route.elements = raw.elements
  switches : route.switches = fileDemands raw.switches
  destination : route.destination = raw.destination
  overlap : head.overlapOf fuel overlapLength raw = some route.overlap

/-- The way of a raw route goes wrong: it passes a node with a second switch, or its overlap
strays. -/
def goesWrong (head : StationHead) (fuel : ℕ) (overlapLength : Length) (raw : RawRoute) : Bool :=
  ((head.signals[raw.fromSignal]?).any fun signal =>
    (passages head.cross signal.node raw.elements).any fun p => head.doubled p.node) ||
  (raw.overlapSeed.any fun seed =>
    head.strays overlapLength fuel 0 (ExtTreeSet.ofList raw.elements compare) seed.1 seed.2 false)

/-! ### Filed demands -/

lemma mem_of_fileDemands {demands : List SwitchDemand} {id : SwitchId}
    {position : SwitchPosition} (h : (fileDemands demands)[id]? = some position) :
    (id, position) ∈ demands := by
  rcases Registry.getElem?_index_some h with hempty | ⟨demand, hin, rfl, rfl⟩
  · simp at hempty
  · exact hin

lemma fileDemands_of_mem {demands : List SwitchDemand} {id : SwitchId}
    {position : SwitchPosition} (hin : (id, position) ∈ demands)
    (hsingle : ∀ other, (id, other) ∈ demands → other = position) :
    (fileDemands demands)[id]? = some position := by
  cases hfiled : (fileDemands demands)[id]? with
  | none =>
    have hnone := (Registry.getElem?_index_none.mp hfiled).2 (id, position) hin
    exact absurd rfl hnone
  | some other => rw [hsingle other (mem_of_fileDemands hfiled)]

/-! ### A single route -/

/-- On a trail no switch is passed in two positions. -/
lemma Trail.turn_unique {start node : HeadNodeId} {way : List HeadElementId}
    {via : HeadElementId} (h : head.Trail start way node via)
    {p q : Passage HeadNodeId HeadElementId} (hp : p ∈ passages head.cross start way)
    (hq : q ∈ passages head.cross start way) {id : SwitchId} {a b : SwitchPosition}
    (ha : head.turn p = some (id, a)) (hb : head.turn q = some (id, b)) : a = b := by
  obtain ⟨switch, hswitch, hid, hleads⟩ := turn_eq_some.mp ha
  obtain ⟨other, hother, hid', hleads'⟩ := turn_eq_some.mp hb
  obtain ⟨hnode, hheld⟩ := switchAt_eq_some hswitch
  obtain ⟨hnode', hheld'⟩ := switchAt_eq_some hother
  rw [hid] at hheld
  rw [hid', hheld] at hheld'
  obtain rfl := Option.some.inj hheld'
  have huses : ∀ {q : Passage HeadNodeId HeadElementId} {position : SwitchPosition},
      switch.Leads q.via q.next position → q.via = switch.point ∨ q.next = switch.point := by
    rintro q position (⟨hvia, -⟩ | ⟨-, hnext⟩)
    · exact .inl hvia
    · exact .inr hnext
  obtain rfl := eq_of_mem_passages head.twoEnded h.simple hp hq (hnode.symm.trans hnode')
    (huses hleads) (huses hleads')
  rw [ha] at hb
  exact (Prod.mk.inj (Option.some.inj hb)).2

/-- The whole way of a derived route: a trail, the switches turned on it, and maybe one more
that was noted in front of a used element. -/
structure Complete (head : StationHead) (start : HeadNodeId) (overlapLength : Length)
    (route : InterlockingRoute) (node : HeadNodeId) (via : HeadElementId)
    (switches kept : List SwitchDemand) (stray : Option SwitchDemand) : Prop where
  trail : head.Trail start route.way node via
  own : route.switches = fileDemands switches
  filed : route.overlap.switches = fileDemands (kept ++ stray.toList)
  turns : (passages head.cross start route.way).filterMap head.turn = switches ++ kept
  behind : ∀ demand, stray = some demand →
    ∃ next ∈ route.way, (next, some demand) ∈ head.onward node via
  enough : overlapLength ≤ (route.overlap.elements.map head.lengthOf).sum
    ∨ head.kindOf node = some .terminus
    ∨ ∃ next ∈ route.way, (head.onward node via).head?.map Prod.fst = some next

section

variable {start node : HeadNodeId} {overlapLength : Length} {route : InterlockingRoute}
  {via : HeadElementId} {switches kept : List SwitchDemand} {stray : Option SwitchDemand}

lemma Complete.mem_turns (h : head.Complete start overlapLength route node via switches kept stray)
    {demand : SwitchDemand} :
    demand ∈ switches ++ kept ↔
      ∃ p ∈ passages head.cross start route.way, head.turn p = some demand := by
  rw [← h.turns, List.mem_filterMap]

lemma Complete.of_demands
    (h : head.Complete start overlapLength route node via switches kept stray) {id : SwitchId}
    {position : SwitchPosition} (hdemands : route.Demands id position) :
    (∃ p ∈ passages head.cross start route.way, head.turn p = some (id, position))
      ∨ stray = some (id, position) := by
  rw [InterlockingRoute.Demands, h.own, h.filed] at hdemands
  rcases hdemands with hroute | hoverlap
  · exact .inl (h.mem_turns.mp (List.mem_append_left kept (mem_of_fileDemands hroute)))
  · rcases List.mem_append.mp (mem_of_fileDemands hoverlap) with hkept | hstray
    · exact .inl (h.mem_turns.mp (List.mem_append_right switches hkept))
    · exact .inr (Option.mem_toList.mp hstray)

/-- Without a stray demand every switch turned on the way is demanded. -/
lemma Complete.demands (h : head.Complete start overlapLength route node via switches kept none)
    {p : Passage HeadNodeId HeadElementId} (hp : p ∈ passages head.cross start route.way)
    {id : SwitchId} {position : SwitchPosition} (hturn : head.turn p = some (id, position)) :
    route.Demands id position := by
  have hunique : ∀ other, (id, other) ∈ switches ++ kept → other = position := by
    intro other hother
    obtain ⟨q, hq, hturn'⟩ := h.mem_turns.mp hother
    exact h.trail.turn_unique hq hp hturn' hturn
  rw [InterlockingRoute.Demands, h.own, h.filed, Option.toList_none, List.append_nil]
  rcases List.mem_append.mp (h.mem_turns.mpr ⟨p, hp, hturn⟩) with hroute | hoverlap
  · exact .inl (fileDemands_of_mem hroute fun other hother =>
      hunique other (List.mem_append_left kept hother))
  · exact .inr (fileDemands_of_mem hoverlap fun other hother =>
      hunique other (List.mem_append_right switches hother))

lemma switchAt_of_not_doubled {id : SwitchId} {switch : Switch}
    (hswitch : head.switches[id]? = some switch) (hsingle : head.doubled switch.node ≠ true) :
    head.switchAt switch.node = some switch := by
  by_contra hne
  exact hsingle (doubled_iff.mpr ⟨id, switch, hswitch, rfl, hne⟩)

lemma Complete.last (h : head.Complete start overlapLength route node via switches kept stray) :
    route.way.getLast? = some via := by
  obtain ⟨before, hway⟩ := h.trail.last
  rw [hway, List.getLast?_concat]

/-- A way that goes right is legal. -/
lemma Complete.legal (h : head.Complete start overlapLength route node via switches kept none)
    (hsingle : ∀ p ∈ passages head.cross start route.way, head.doubled p.node ≠ true)
    (hfree : ∀ p ∈ passages head.cross start route.elements,
      head.kindOf p.node ≠ some .terminus ∧ head.signalAt p.node p.next = none)
    (hends : ∃ node, endOf head.cross start route.elements = some node ∧
      ((route.destination = .terminus node ∧ head.kindOf node = some .terminus ∧
          route.overlap.elements = []) ∨
        ∃ id signal, route.destination = .signal id ∧ head.signals[id]? = some signal ∧
          signal.node = node ∧ route.overlap.elements.head? = some signal.element)) :
    head.LegalFrom overlapLength route start where
  connected := ⟨node, h.trail.connected⟩
  simple := h.trail.simple
  guided := by
    intro p hp id switch hswitch hnode
    have hat : head.switchAt p.node = some switch := by
      rw [← hnode]
      exact switchAt_of_not_doubled hswitch (hnode ▸ hsingle p hp)
    obtain ⟨position, hleads⟩ := h.trail.guided p hp switch hat
    have hid : switch.id = id := head.keyedSwitches id switch hswitch
    exact ⟨position, hleads, h.demands hp (turn_eq_some.mpr ⟨switch, hat, hid, hleads⟩)⟩
  turned := by
    intro id position hdemands
    rcases h.of_demands hdemands with ⟨p, hp, hturn⟩ | hstray
    · obtain ⟨switch, hat, hid, hleads⟩ := turn_eq_some.mp hturn
      obtain ⟨hnode, hheld⟩ := switchAt_eq_some hat
      exact ⟨p, hp, switch, hid ▸ hheld, hnode, hleads⟩
    · cases hstray
  single := by
    intro id position other hposition hother
    rcases h.of_demands hposition with ⟨p, hp, hturn⟩ | hstray
    · rcases h.of_demands hother with ⟨q, hq, hturn'⟩ | hstray
      · exact h.trail.turn_unique hp hq hturn hturn'
      · cases hstray
    · cases hstray
  undisturbed := fun p hp => ⟨(hfree p hp).1, fun _ _ hsignal =>
    signalAt_eq_none (hfree p hp).2 hsignal⟩
  ends := hends
  enough := ⟨node, via, h.trail.connected, h.last, h.enough⟩

/-- A legal way goes right: it passes no node with a second switch, and nothing was noted in
front of a used element. -/
lemma Complete.not_wrong
    (h : head.Complete start overlapLength route node via switches kept stray)
    (hlegal : head.LegalFrom overlapLength route start) :
    stray = none ∧ ∀ p ∈ passages head.cross start route.way, head.doubled p.node ≠ true := by
  -- a switch that is demanded is the one the head uses at its node
  have hused : ∀ (id : SwitchId) (switch : Switch) (position : SwitchPosition),
      head.switches[id]? = some switch → route.Demands id position →
        head.switchAt switch.node = some switch := by
    intro id switch position hswitch hdemands
    have hat : ∃ at' : HeadNodeId, ∃ other : Switch, head.switchAt at' = some other
        ∧ other.id = id := by
      rcases h.of_demands hdemands with ⟨p, -, hturn⟩ | hstray
      · obtain ⟨other, hother, hid, -⟩ := turn_eq_some.mp hturn
        exact ⟨p.node, other, hother, hid⟩
      · obtain ⟨next, -, hway⟩ := h.behind _ hstray
        obtain ⟨kind, hkind⟩ := h.trail.exists_kind
        obtain ⟨end', hend, -⟩ := h.trail.exists_cross
        obtain ⟨-, -, hturn, -⟩ := onward_mem hkind ⟨end', hend⟩ hway
        obtain ⟨other, hother, hid, -⟩ := turn_eq_some.mp hturn
        exact ⟨node, other, hother, hid⟩
    obtain ⟨at', other, hother, hid⟩ := hat
    obtain ⟨hnode, hheld⟩ := switchAt_eq_some hother
    rw [hid, hswitch] at hheld
    obtain rfl := Option.some.inj hheld
    rw [hnode]
    exact hother
  refine ⟨?_, fun p hp hdoubled => ?_⟩
  · cases hstray : stray with
    | none => rfl
    | some demand =>
      obtain ⟨id, position⟩ := demand
      obtain ⟨next, hnext, hway⟩ := h.behind _ hstray
      obtain ⟨kind, hkind⟩ := h.trail.exists_kind
      obtain ⟨end', hend, -⟩ := h.trail.exists_cross
      obtain ⟨-, -, hturn, -⟩ := onward_mem hkind ⟨end', hend⟩ hway
      obtain ⟨switch, hat, hid, hleads⟩ := turn_eq_some.mp hturn
      have hdemands : route.Demands id position := by
        refine .inr ?_
        rw [h.filed, hstray, Option.toList_some, fileDemands, List.foldl_append]
        simp
      obtain ⟨p, hp, other, hother, hnode, hleads'⟩ := hlegal.turned id position hdemands
      obtain ⟨hatNode, hheld⟩ := switchAt_eq_some hat
      rw [hid, hother] at hheld
      obtain rfl := Option.some.inj hheld
      -- the passage uses the last element, which is left at another node
      have huses : p.via = via ∨ p.next = via := by
        have hdistinct := (fits hother).2.1.point_ne position
        simp only [Switch.Leads] at hleads hleads'
        rcases hleads with ⟨hvia, -⟩ | ⟨hvia, -⟩
        · rcases hleads' with ⟨hpvia, -⟩ | ⟨-, hpnext⟩
          · exact .inl (hpvia.trans hvia.symm)
          · exact .inr (hpnext.trans hvia.symm)
        · rcases hleads' with ⟨-, hpnext⟩ | ⟨hpvia, -⟩
          · exact .inr (hpnext.trans hvia.symm)
          · exact .inl (hpvia.trans hvia.symm)
      obtain ⟨before, hbefore⟩ := h.trail.last
      have hsimple := h.trail.simple
      have hconnected := h.trail.connected
      rw [hbefore] at hsimple hconnected hp
      obtain ⟨-, hcross⟩ := last_of_mem_passages hsimple hconnected hp huses
      exact absurd (hatNode.symm.trans hnode) (head.twoEnded.ne hcross)
  · obtain ⟨id, switch, hswitch, hnode, hne⟩ := doubled_iff.mp hdoubled
    obtain ⟨position, -, hdemands⟩ := hlegal.guided p hp id switch hswitch hnode
    have hat := hused id switch position hswitch hdemands
    rw [hnode] at hat
    exact hne hat

/-- The whole way of a route derived from a raw route, with its end, and whether it goes
wrong. -/
lemma complete_of_found {fuel : ℕ} {signal : HeadSignal} {raw : RawRoute}
    {turned : List SwitchDemand} (hsignal : head.signals[raw.fromSignal]? = some signal)
    (h : head.Found signal.node raw node via turned)
    (hroute : head.DerivedFrom fuel overlapLength raw route) :
    (∃ node via kept stray,
      head.Complete signal.node overlapLength route node via raw.switches kept stray ∧
      (head.goesWrong fuel overlapLength raw = true ↔ stray.isSome = true
        ∨ ∃ p ∈ passages head.cross signal.node route.way, head.doubled p.node = true)) ∧
    ∃ node, endOf head.cross signal.node route.elements = some node ∧
      ((route.destination = .terminus node ∧ head.kindOf node = some .terminus ∧
          route.overlap.elements = []) ∨
        ∃ id signal, route.destination = .signal id ∧ head.signals[id]? = some signal ∧
          signal.node = node ∧ route.overlap.elements.head? = some signal.element) := by
  have hoverlap := hroute.overlap
  rw [overlapOf] at hoverlap
  rcases h.ends with ⟨hterminus, hdestination, hseed, hswitches⟩ |
      ⟨next, demand, id, hway, hfresh, hat, hdestination, hseed, hswitches⟩
  · rw [hseed] at hoverlap
    have hempty : route.overlap = .empty := (Option.some.inj hoverlap).symm
    have hwhole : route.way = raw.elements := by
      rw [InterlockingRoute.way, hroute.elements, hempty]
      exact List.append_nil _
    refine ⟨⟨node, via, [], none, ⟨?_, hroute.switches, ?_, ?_, (fun _ h => nomatch h),
      .inr (.inl hterminus)⟩, ?_⟩, node, ?_, .inl ⟨?_, hterminus, by rw [hempty]; rfl⟩⟩
    · rw [hwhole]
      exact h.trail
    · rw [hempty]
      rfl
    · rw [hwhole, h.turns, hswitches, List.append_nil]
    · rw [goesWrong, hsignal, hseed, hwhole]
      simp
    · rw [hroute.elements]
      exact h.trail.connected
    · rw [hroute.destination, hdestination]
  · rw [hseed] at hoverlap
    have hahead : head.Ahead signal.node raw.elements raw.switches .empty
        (ExtTreeSet.ofList raw.elements compare) node via next demand [] := by
      refine ⟨?_, hway, fun element => ?_, rfl, ?_, fun hin => ?_, Int.le_refl _, Int.le_refl _⟩
      · simpa [OverlapPath.empty] using h.trail
      · rw [ExtTreeSet.contains_iff_mem, KeySet.mem_ofList]
        simp [OverlapPath.empty]
      · rw [hswitches, List.append_nil, ← h.turns]
        simp [OverlapPath.empty]
      · simp [OverlapPath.empty, hfresh] at hin
    have hnotYet : next ∉ raw.elements ++ OverlapPath.empty.elements := by
      simpa [OverlapPath.empty] using hfresh
    have hbehind : next ∈ raw.elements ++ OverlapPath.empty.elements → false = demand.isSome :=
      fun hin => absurd hin hnotYet
    obtain ⟨node', via', kept, stray, more, hwalked, -, hentered, hmore, hstrays⟩ :=
      walked_of_walkOverlap hahead hbehind hoverlap
    have hwhole : route.way = raw.elements ++ route.overlap.elements := by
      rw [InterlockingRoute.way, hroute.elements]
    obtain ⟨signal', hsignal', hnode, helement⟩ := signalAt_eq_some hat
    refine ⟨⟨node', via', kept, stray, ⟨?_, hroute.switches, hwalked.filed, ?_, ?_, ?_⟩, ?_⟩,
      node, ?_, .inr ⟨id, signal', ?_, hsignal', hnode, ?_⟩⟩
    · rw [hwhole]
      exact hwalked.trail
    · rw [hwhole]
      exact hwalked.turns
    · rw [hwhole]
      exact hwalked.behind
    · rw [hwhole]
      exact hwalked.enough
    · have hstrays' : head.strays overlapLength fuel 0 (ExtTreeSet.ofList raw.elements compare)
          node next false = true ↔ stray.isSome = true ∨ ∃ p ∈ more, head.doubled p.node = true :=
        hstrays
      rw [goesWrong, hsignal, hseed, hwhole, hmore, Bool.or_eq_true, Option.any_some,
        Option.any_some, hstrays']
      have hnil : raw.elements ++ OverlapPath.empty.elements = raw.elements :=
        List.append_nil raw.elements
      simp only [hnil, List.any_eq_true, List.mem_append, or_and_right, exists_or]
      exact or_left_comm
    · rw [hroute.elements]
      exact h.trail.connected
    · rw [hroute.destination, hdestination]
    · obtain ⟨rest, hrest⟩ := hentered hnotYet
      rw [← hrest, helement]
      rfl

/-- A route is legal exactly if the way of its raw route does not go wrong. -/
lemma legal_iff_of_found {fuel : ℕ} {signal : HeadSignal} {raw : RawRoute}
    (hsignal : head.signals[raw.fromSignal]? = some signal) (h : head.FoundFrom signal raw)
    (hroute : head.DerivedFrom fuel overlapLength raw route) :
    head.Legal overlapLength route ↔ head.goesWrong fuel overlapLength raw = false := by
  obtain ⟨-, hfirst, node, via, turned, hfound⟩ := h
  obtain ⟨⟨node', via', kept, stray, hcomplete, hwrong⟩, hends⟩ :=
    complete_of_found hsignal hfound hroute
  rw [← Bool.not_eq_true, hwrong]
  constructor
  · rintro ⟨signal', hsignal', -, hlegal⟩
    rw [hroute.fromSignal, hsignal] at hsignal'
    obtain rfl := Option.some.inj hsignal'
    obtain ⟨rfl, hsingle⟩ := hcomplete.not_wrong hlegal
    rintro (hstray | ⟨p, hp, hdoubled⟩)
    · cases hstray
    · exact hsingle p hp hdoubled
  · intro hright
    rw [not_or, not_exists] at hright
    obtain ⟨hnone, hsingle⟩ := hright
    obtain rfl : stray = none := by
      rwa [Option.isSome_iff_ne_none, not_not] at hnone
    refine ⟨signal, by rw [hroute.fromSignal]; exact hsignal, by rw [hroute.elements]; exact hfirst,
      hcomplete.legal (fun p hp hdoubled => hsingle p ⟨hp, hdoubled⟩) ?_ hends⟩
    rw [hroute.elements]
    exact hfound.undisturbed

end

/-! ### The plan -/

/-- The raw routes under their numbers; of several ones with one number the last one. -/
def keptRoutes (found : List RawRoute) : Registry InterlockingRouteId RawRoute :=
  (found.insertionSort fun a b => (a.order b).isLE).zipIdx.foldl
    (fun kept entry => kept.insert (routeId entry.2) entry.1) ∅

/-- No way of a route through the head goes wrong. -/
def regular (head : StationHead) (fuel : ℕ) (overlapLength : Length) : Bool :=
  (head.enumerate fuel).any fun found =>
    Registry.allValues (keptRoutes found) fun raw => !head.goesWrong fuel overlapLength raw

lemma overlapOf_exists {fuel : ℕ} (hfuel : head.elements.size < fuel) (overlapLength : Length)
    {raw : RawRoute} {signal : HeadSignal} (h : head.FoundFrom signal raw) :
    ∃ overlap, head.overlapOf fuel overlapLength raw = some overlap := by
  obtain ⟨-, -, node, via, turned, hfound⟩ := h
  rw [overlapOf]
  rcases hfound.ends with ⟨-, -, hseed, -⟩ | ⟨next, demand, -, hway, -, -, -, hseed, -⟩
  · rw [hseed]
    exact ⟨_, rfl⟩
  · rw [hseed]
    refine walkOverlap_exists hfound.trail hway (fun element => ?_) (by omega)
    rw [ExtTreeSet.contains_iff_mem, KeySet.mem_ofList]

/-- The routes of the plan are derived from the kept raw routes. -/
lemma fileRoutes_rel {fuel : ℕ} {overlapLength : Length} {found : List RawRoute}
    {routes : List InterlockingRoute}
    (h : ((found.insertionSort fun a b => (a.order b).isLE).zipIdx.mapM fun entry =>
      (head.overlapOf fuel overlapLength entry.1).map fun overlap =>
        entry.1.numbered (routeId entry.2) overlap
          (.fromConfidence head.provenance.confidence)) = some routes)
    (id : InterlockingRouteId) :
    Option.Rel (head.DerivedFrom fuel overlapLength) (keptRoutes found)[id]?
      (fileRoutes routes)[id]? := by
  have hzip : ∀ (excluded : InterlockingRoute × ℕ → KeySet InterlockingRouteId)
      (l : List (RawRoute × ℕ)) (routes : List InterlockingRoute) (k : ℕ),
      List.Forall₂ (fun entry route =>
        (head.overlapOf fuel overlapLength entry.1).map (fun overlap =>
          entry.1.numbered (routeId entry.2) overlap
            (.fromConfidence head.provenance.confidence)) = some route) l routes →
      List.Forall₂ (fun (entry : RawRoute × ℕ) (route : InterlockingRoute × ℕ) =>
        routeId entry.2 = route.1.id ∧ head.DerivedFrom fuel overlapLength entry.1
          { route.1 with excludes := excluded route }) l (routes.zipIdx k) := by
    intro excluded l routes k hall
    induction hall generalizing k with
    | nil => exact .nil
    | @cons entry route l routes hentry _ ih =>
      rw [List.zipIdx_cons]
      obtain ⟨overlap, hoverlap, rfl⟩ := Option.map_eq_some_iff.mp hentry
      exact .cons ⟨rfl, rfl, rfl, rfl, rfl, hoverlap⟩ (ih (k + 1))
  exact index_rel (hzip (fun entry => exclusionSet routes entry.2 entry.1) _ _ 0
    (forall₂_of_mapM h)) (fun _ => by simp) id

/-- **Derived routes.**  The derivation ends on every station head, and all its routes are
legal exactly if no way of a route passes a node with a second switch and no overlap comes
back to a used element right behind a switch. -/
theorem derived_routes_legal_iff (head : StationHead) (overlapLength : Length) {fuel : ℕ}
    (hfuel : head.elements.size < fuel) :
    ∃ outcome, deriveInterlockingRoutes fuel head overlapLength = some outcome ∧
      ∀ plan, outcome = .ok plan →
        ((∀ (id : InterlockingRouteId) (route : InterlockingRoute),
            plan.routes[id]? = some route → head.Legal overlapLength route)
          ↔ head.regular fuel overlapLength = true) := by
  rw [deriveInterlockingRoutes]
  split
  · exact ⟨_, rfl, fun _ h => nomatch h⟩
  · obtain ⟨found, hfound⟩ := enumerate_exists hfuel
    have hfrom : ∀ raw ∈ found, ∃ signal, head.signals[raw.fromSignal]? = some signal ∧
        head.FoundFrom signal raw := fun _ => found_of_enumerate hfound
    have hroutes : ∃ routes, ((found.insertionSort fun a b => (a.order b).isLE).zipIdx.mapM
        fun entry => (head.overlapOf fuel overlapLength entry.1).map fun overlap =>
          entry.1.numbered (routeId entry.2) overlap
            (.fromConfidence head.provenance.confidence)) = some routes := by
      refine mapM_exists fun entry hentry => ?_
      have hin : entry.1 ∈ found :=
        (List.mem_insertionSort _).mp (List.fst_mem_of_mem_zipIdx hentry)
      obtain ⟨signal, -, hsignal⟩ := hfrom entry.1 hin
      obtain ⟨overlap, hoverlap⟩ := overlapOf_exists hfuel overlapLength hsignal
      exact ⟨_, by rw [hoverlap, Option.map_some]⟩
    obtain ⟨routes, hroutes⟩ := hroutes
    refine ⟨_, by rw [hfound, Option.bind_some, hroutes, Option.map_some], fun plan hplan => ?_⟩
    obtain rfl := Except.ok.inj hplan
    have hrel := fileRoutes_rel hroutes
    rw [regular, hfound, Option.any_some, Registry.allValues_iff]
    have hlegal : ∀ (id : InterlockingRouteId) (raw : RawRoute) (route : InterlockingRoute),
        (keptRoutes found)[id]? = some raw → (fileRoutes routes)[id]? = some route →
          (head.Legal overlapLength route ↔ head.goesWrong fuel overlapLength raw = false) := by
      intro id raw route hraw hroute
      have hrelated := hrel id
      rw [hraw, hroute] at hrelated
      cases hrelated with
      | some hderived =>
        rcases Registry.getElem?_index_some hraw with hempty | ⟨entry, hentry, -, hvalue⟩
        · simp at hempty
        · have hin : raw ∈ found := by
            rw [← hvalue]
            exact (List.mem_insertionSort _).mp (List.fst_mem_of_mem_zipIdx hentry)
          obtain ⟨signal, hsignal, hfoundFrom⟩ := hfrom raw hin
          exact legal_iff_of_found hsignal hfoundFrom hderived
    constructor
    · intro hall id raw hraw
      have hrelated := hrel id
      cases hroute : (fileRoutes routes)[id]? with
      | none =>
        rw [hraw, hroute] at hrelated
        cases hrelated
      | some route =>
        rw [(hlegal id raw route hraw hroute).mp (hall id route hroute)]
        rfl
    · intro hall id route hroute
      have hrelated := hrel id
      cases hraw : (keptRoutes found)[id]? with
      | none =>
        rw [hraw] at hrelated
        rw [hroute] at hrelated
        cases hrelated
      | some raw =>
        exact (hlegal id raw route hraw hroute).mpr (by simpa using hall id raw hraw)

end StationHead

/-! ### A balloon loop and a plain head -/

/-- A switch whose branches are joined to a loop; a signal stands behind the switch. -/
def balloonLoop : StationHeadBuilder where
  operatingPoint := 1
  provenance := ⟨.surveyed⟩
  nodes := [⟨1, .terminus⟩, ⟨2, .switch⟩, ⟨3, .joint⟩]
  elements := [⟨10, 1, 2, 200000, by decide, by decide⟩, ⟨11, 2, 3, 50000, by decide, by decide⟩,
    ⟨12, 3, 2, 50000, by decide, by decide⟩]
  switches := [⟨1, 2, 10, 11, 12⟩]
  signals := [⟨1, 1, 10⟩, ⟨2, 2, 11⟩]

/-- The route up to the signal demands the switch in its normal position, its overlap comes
back through the loop and demands it reversed. -/
theorem loop_demands_both_positions :
    ∃ head plan route, balloonLoop.build = .ok head ∧
      deriveInterlockingRoutes 8 head 300000 = some (.ok plan) ∧
      plan.routes[1]? = some route ∧ ¬ head.Legal 300000 route := by
  have hboth : (balloonLoop.build.toOption.any fun head =>
      (deriveInterlockingRoutes 8 head 300000).any fun outcome =>
        outcome.toOption.any fun plan => (plan.routes[1]?).any fun route =>
          route.switches[1]? == some .normal && route.overlap.switches[1]? == some .reverse)
      = true := by decide +kernel
  obtain ⟨head, hhead, hboth⟩ := (Option.any_eq_true _ _).mp hboth
  obtain ⟨outcome, houtcome, hboth⟩ := (Option.any_eq_true _ _).mp hboth
  obtain ⟨plan, hplan, hboth⟩ := (Option.any_eq_true _ _).mp hboth
  obtain ⟨route, hroute, hboth⟩ := (Option.any_eq_true _ _).mp hboth
  rw [Bool.and_eq_true, beq_iff_eq, beq_iff_eq] at hboth
  have hok : ∀ {ε α : Type} {result : Except ε α} {a : α}, result.toOption = some a →
      result = .ok a := by
    rintro ε α (error | b) a h
    · cases h
    · cases h
      rfl
  refine ⟨head, plan, route, hok hhead, by rw [houtcome, hok hplan], hroute, ?_⟩
  rintro ⟨signal, -, -, hlegal⟩
  cases hlegal.single 1 .normal .reverse (.inl hboth.1) (.inr hboth.2)

/-- A head without a loop, with a signal behind its switch. -/
def plainHead : StationHeadBuilder where
  operatingPoint := 2
  provenance := ⟨.surveyed⟩
  nodes := [⟨1, .terminus⟩, ⟨2, .switch⟩, ⟨3, .joint⟩, ⟨4, .terminus⟩, ⟨5, .terminus⟩]
  elements := [⟨10, 1, 2, 200000, by decide, by decide⟩, ⟨11, 2, 3, 400000, by decide, by decide⟩,
    ⟨12, 3, 4, 500000, by decide, by decide⟩, ⟨13, 2, 5, 300000, by decide, by decide⟩]
  switches := [⟨1, 2, 10, 11, 13⟩]
  signals := [⟨1, 1, 10⟩, ⟨2, 3, 12⟩]

theorem derived_routes_legal_plainHead :
    ∃ head plan, plainHead.build = .ok head ∧
      deriveInterlockingRoutes 8 head 300000 = some (.ok plan) ∧ plan.routes.size = 3 ∧
      ∀ (id : InterlockingRouteId) (route : InterlockingRoute),
        plan.routes[id]? = some route → head.Legal 300000 route := by
  have hplain : (plainHead.build.toOption.any fun head =>
      decide (head.elements.size < 8) && head.regular 8 300000 &&
        (deriveInterlockingRoutes 8 head 300000).any fun outcome =>
          outcome.toOption.any fun plan => plan.routes.size == 3) = true := by decide +kernel
  cases hbuild : plainHead.build with
  | error error =>
    rw [hbuild] at hplain
    cases hplain
  | ok head =>
    simp only [hbuild, Except.toOption, Option.any_some, Bool.and_eq_true,
      decide_eq_true_eq] at hplain
    obtain ⟨⟨hfuel, hregular⟩, hplan⟩ := hplain
    obtain ⟨outcome, houtcome, hlegal⟩ :=
      StationHead.derived_routes_legal_iff head 300000 hfuel
    rw [houtcome, Option.any_some] at hplan
    cases outcome with
    | error error => cases hplan
    | ok plan =>
      exact ⟨head, plan, rfl, houtcome, by simpa using hplan, (hlegal plan rfl).mpr hregular⟩

end Zugfolge.Infra
