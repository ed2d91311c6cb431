/-
The head of a station.

A station head is a small graph: elements are pieces of track that can be occupied, nodes
join them.  A node is a terminus, a joint or a switch; a switch leads from its point to one
of its two branches.  A signal stands at the end of an element and admits to it.
-/
import Zugfolge.Foundation.Trails
import Zugfolge.Infra.Units
import Mathlib.Data.List.Perm.Subperm

namespace Zugfolge.Infra

open Foundation Std

/-! ### The parts of a head -/

inductive SwitchPosition where
  | normal
  | reverse
  deriving DecidableEq

inductive HeadNodeKind where
  | terminus
  | joint
  | switch
  deriving DecidableEq

namespace HeadNodeKind

/-- The name of a kind in reports. -/
def label : HeadNodeKind → String
  | terminus => "Endpunkt"
  | joint => "Stoß"
  | switch => "Weiche"

/-- How many elements meet at a node of this kind. -/
def requiredDegree : HeadNodeKind → ℕ
  | terminus => 1
  | joint => 2
  | switch => 3

end HeadNodeKind

structure HeadNode where
  id : HeadNodeId
  kind : HeadNodeKind

/-- A piece of track between two different nodes. -/
structure HeadElement where
  id : HeadElementId
  start : HeadNodeId
  finish : HeadNodeId
  length : Length
  noLoop : start ≠ finish
  positive : 0 < length

namespace HeadElement

def otherEnd (element : HeadElement) (node : HeadNodeId) : Option HeadNodeId :=
  if element.start = node then some element.finish
  else if element.finish = node then some element.start
  else none

/-- The node is an end of the element. -/
def touches (element : HeadElement) (node : HeadNodeId) : Bool :=
  element.start == node || element.finish == node

lemma touches_iff {element : HeadElement} {node : HeadNodeId} :
    element.touches node = true ↔ ∃ other, element.otherEnd node = some other := by
  rw [touches, otherEnd, Bool.or_eq_true, beq_iff_eq, beq_iff_eq]
  split
  next h => simp [h]
  next h =>
    split
    next h' => simp [h']
    next h' => simp [h, h']

end HeadElement

/-- A switch at a node, with its point and its two branches. -/
structure Switch where
  id : SwitchId
  node : HeadNodeId
  point : HeadElementId
  normal : HeadElementId
  reverse : HeadElementId
  deriving DecidableEq

namespace Switch

variable (switch : Switch)

/-- The position in which a branch is used. -/
def positionOf (branch : HeadElementId) : Option SwitchPosition :=
  if branch = switch.normal then some .normal
  else if branch = switch.reverse then some .reverse
  else none

/-- The branch that belongs to a position. -/
def branch : SwitchPosition → HeadElementId
  | .normal => switch.normal
  | .reverse => switch.reverse

/-- The switch leads from its point to the branch of the position, or back. -/
def Leads (via next : HeadElementId) (position : SwitchPosition) : Prop :=
  via = switch.point ∧ next = switch.branch position
    ∨ via = switch.branch position ∧ next = switch.point

/-- The position in which the switch leads from an element to another one. -/
def positionBetween (via next : HeadElementId) : Option SwitchPosition :=
  if via = switch.point then switch.positionOf next
  else if next = switch.point then switch.positionOf via
  else none

/-- The switch names three different elements. -/
structure Distinct (switch : Switch) : Prop where
  normal : switch.point ≠ switch.normal
  branches : switch.normal ≠ switch.reverse
  reverse : switch.point ≠ switch.reverse

lemma positionOf_eq_some {switch : Switch} (h : switch.Distinct) {branch : HeadElementId}
    {position : SwitchPosition} :
    switch.positionOf branch = some position ↔ branch = switch.branch position := by
  rw [positionOf]
  cases position with
  | normal =>
    rw [Switch.branch]
    split
    next heq => simp [heq]
    next hne =>
      split
      · simp [hne]
      · simp [hne]
  | reverse =>
    rw [Switch.branch]
    split
    next heq => simp [heq, h.branches]
    next hne =>
      split
      next heq => simp [heq]
      next hne' => simp [hne']

lemma Distinct.point_ne {switch : Switch} (h : switch.Distinct) (position : SwitchPosition) :
    switch.point ≠ switch.branch position := by
  cases position with
  | normal => exact h.normal
  | reverse => exact h.reverse

lemma positionBetween_eq_some {switch : Switch} (h : switch.Distinct)
    {via next : HeadElementId} {position : SwitchPosition} :
    switch.positionBetween via next = some position ↔ switch.Leads via next position := by
  rw [positionBetween, Leads]
  split
  next hvia =>
    simp [positionOf_eq_some h, hvia, h.point_ne position]
  next hvia =>
    split
    next hnext => simp [positionOf_eq_some h, hvia, hnext]
    next hnext => simp [hvia, hnext]

end Switch

/-- A signal at the end `node` of an element, which admits to the element. -/
structure HeadSignal where
  id : HeadSignalId
  node : HeadNodeId
  element : HeadElementId
  deriving DecidableEq

/-- A switch and the position it is demanded in. -/
abbrev SwitchDemand : Type := SwitchId × SwitchPosition

/-! ### The checked head -/

/-- The elements at a node, in the order of their numbers. -/
def elementsAt (elements : Registry HeadElementId HeadElement) (node : HeadNodeId) :
    List HeadElementId :=
  ((Registry.values elements).filter fun element => element.touches node).map HeadElement.id

/-- The switch at a node; of several ones the one with the greatest number. -/
def indexSwitches (switches : Registry SwitchId Switch) : Registry HeadNodeId SwitchId :=
  (Registry.values switches).foldl (fun index switch => index.insert switch.node switch.id) ∅

/-- A place of a signal: the end of an element. -/
structure SignalPlace where
  node : HeadNodeId
  element : HeadElementId
  deriving DecidableEq

instance : Ord SignalPlace where
  compare := compareLex (compareOn SignalPlace.node) (compareOn SignalPlace.element)

instance : TransOrd SignalPlace :=
  inferInstanceAs (TransCmp (compareLex (compareOn SignalPlace.node)
    (compareOn SignalPlace.element)))

instance : LawfulEqOrd SignalPlace :=
  lawfulEq_of_lex fun ⟨_, _⟩ ⟨_, _⟩ => by simp_all [compareOn]

/-- The signal at a place; of several ones the one with the greatest number. -/
def indexSignals (signals : Registry HeadSignalId HeadSignal) :
    Registry SignalPlace HeadSignalId :=
  (Registry.values signals).foldl
    (fun index signal => index.insert ⟨signal.node, signal.element⟩ signal.id) ∅

variable (nodes : Registry HeadNodeId HeadNode)

/-- The ends of every element are nodes of the head. -/
def checkElements (elements : Registry HeadElementId HeadElement) : Except InfraError Unit :=
  (Registry.values elements).forM fun element =>
    [element.start, element.finish].forM fun node =>
      if nodes.contains node then .ok ()
      else .error (.unknownElementNode element.id node)

/-- As many elements meet at every node as its kind requires. -/
def checkDegrees (elements : Registry HeadElementId HeadElement) : Except InfraError Unit :=
  (Registry.values nodes).forM fun node =>
    if (elementsAt elements node.id).length = node.kind.requiredDegree then .ok ()
    else .error (.headNodeDegree node.id node.kind.label node.kind.requiredDegree
      (elementsAt elements node.id).length)

/-- The switch lies at a switch node and names three different elements there. -/
def fitsNode (elements : Registry HeadElementId HeadElement) (switch : Switch) : Bool :=
  (nodes[switch.node]?).any (fun node => node.kind == .switch) &&
  (switch.point != switch.normal && switch.normal != switch.reverse &&
    switch.point != switch.reverse) &&
  [switch.point, switch.normal, switch.reverse].all fun id =>
    (elements[id]?).any fun element => element.touches switch.node

/-- Every switch fits its node. -/
def checkSwitches
    (elements : Registry HeadElementId HeadElement) (switches : Registry SwitchId Switch) :
    Except InfraError Unit :=
  (Registry.values switches).forM fun switch =>
    if fitsNode nodes elements switch then .ok () else .error (.switchNodeMismatch switch.id)

/-- Every switch node has a switch. -/
def checkSwitchNodes (switches : Registry SwitchId Switch) : Except InfraError Unit :=
  (Registry.values nodes).forM fun node =>
    if node.kind = .switch ∧ ¬ (indexSwitches switches).contains node.id then
      .error (.headNodeDegree node.id node.kind.label HeadNodeKind.switch.requiredDegree 0)
    else .ok ()

/-- Every signal stands at an end of its element. -/
def checkSignals (elements : Registry HeadElementId HeadElement)
    (signals : Registry HeadSignalId HeadSignal) : Except InfraError Unit :=
  (Registry.values signals).forM fun signal =>
    if (elements[signal.element]?).any (fun element => element.touches signal.node) &&
        nodes.contains signal.node then .ok ()
    else .error (.signalPlacement signal.id)

/-- All references between the parts of a head. -/
def checkHead (elements : Registry HeadElementId HeadElement) (switches : Registry SwitchId Switch)
    (signals : Registry HeadSignalId HeadSignal) : Except InfraError Unit := do
  checkElements nodes elements
  checkDegrees nodes elements
  checkSwitches nodes elements switches
  checkSwitchNodes nodes switches
  checkSignals nodes elements signals

/-- The head of a station whose references are checked. -/
structure StationHead where
  operatingPoint : OperatingPointId
  provenance : Provenance
  nodes : Registry HeadNodeId HeadNode
  elements : Registry HeadElementId HeadElement
  switches : Registry SwitchId Switch
  signals : Registry HeadSignalId HeadSignal
  keyedNodes : Keyed HeadNode.id nodes
  keyedElements : Keyed HeadElement.id elements
  keyedSwitches : Keyed Switch.id switches
  keyedSignals : Keyed HeadSignal.id signals
  checked : checkHead nodes elements switches signals = .ok ()

/-- The parts of a head before the check. -/
structure StationHeadBuilder where
  operatingPoint : OperatingPointId
  provenance : Provenance
  nodes : List HeadNode
  elements : List HeadElement
  switches : List Switch
  signals : List HeadSignal

/-- Checks all references and builds the head. -/
def StationHeadBuilder.build (builder : StationHeadBuilder) : Except InfraError StationHead :=
  match hnodes : sammle HeadNode.id .duplicateHeadNode builder.nodes with
  | .error error => .error error
  | .ok nodes =>
    match helements : sammle HeadElement.id .duplicateHeadElement builder.elements with
    | .error error => .error error
    | .ok elements =>
      if elements.isEmpty then .error .emptyStationHead
      else
        match hswitches : sammle Switch.id .duplicateSwitch builder.switches with
        | .error error => .error error
        | .ok switches =>
          match hsignals : sammle HeadSignal.id .duplicateHeadSignal builder.signals with
          | .error error => .error error
          | .ok signals =>
            match hchecked : checkHead nodes elements switches signals with
            | .error error => .error error
            | .ok () => .ok ⟨builder.operatingPoint, builder.provenance, nodes, elements,
                switches, signals, sammle_keyed hnodes, sammle_keyed helements,
                sammle_keyed hswitches, sammle_keyed hsignals, hchecked⟩

namespace StationHead

variable (head : StationHead)

variable (node : HeadNodeId)

def switchAt : Option Switch :=
  ((indexSwitches head.switches)[node]?).bind fun id => head.switches[id]?

/-- The signal at an end of an element. -/
def signalAt (element : HeadElementId) : Option HeadSignalId :=
  (indexSignals head.signals)[(⟨node, element⟩ : SignalPlace)]?

def kindOf : Option HeadNodeKind := (head.nodes[node]?).map HeadNode.kind

/-- Where a movement that reached a node over an element can go on: the next elements and
the position that each of them demands of the switch. -/
def onward (via : HeadElementId) :
    List (HeadElementId × Option SwitchDemand) :=
  match head.kindOf node with
  | none => []
  | some .terminus => []
  | some .joint =>
    ((elementsAt head.elements node).filter fun element => element != via).map
      fun element => (element, none)
  | some .switch =>
    match head.switchAt node with
    | none => []
    | some switch =>
      if via = switch.point then
        [(switch.normal, some (switch.id, .normal)),
          (switch.reverse, some (switch.id, .reverse))]
      else
        -- from a branch the way leads to the point only
        match switch.positionOf via with
        | some position => [(switch.point, some (switch.id, position))]
        | none => []

/-- The other end of an element of the head. -/
def cross (element : HeadElementId) (node : HeadNodeId) : Option HeadNodeId :=
  (head.elements[element]?).bind fun held => held.otherEnd node

/-! ### What the check says -/

variable {head}

lemma forM_eq_ok {ε β : Type} {l : List β} {f : β → Except ε Unit} :
    l.forM f = .ok () ↔ ∀ b ∈ l, f b = .ok () := by
  induction l with
  | nil => exact iff_of_true rfl (by simp)
  | cons b l ih =>
    rw [List.forM, List.forall_mem_cons, ← ih]
    cases f b with
    | error error => exact iff_of_false (fun h => nomatch h) (fun h => nomatch h.1)
    | ok _ => exact ⟨fun h => ⟨rfl, h⟩, fun h => h.2⟩

lemma checks (head : StationHead) :
    checkElements head.nodes head.elements = .ok () ∧
    checkDegrees head.nodes head.elements = .ok () ∧
    checkSwitches head.nodes head.elements head.switches = .ok () ∧
    checkSwitchNodes head.nodes head.switches = .ok () ∧
    checkSignals head.nodes head.elements head.signals = .ok () := by
  have h := head.checked
  rw [checkHead] at h
  cases helements : checkElements head.nodes head.elements with
  | error error => rw [helements] at h; cases h
  | ok =>
    cases hdegrees : checkDegrees head.nodes head.elements with
    | error error => rw [helements, hdegrees] at h; cases h
    | ok =>
      cases hswitches : checkSwitches head.nodes head.elements head.switches with
      | error error => rw [helements, hdegrees, hswitches] at h; cases h
      | ok =>
        cases hnodes : checkSwitchNodes head.nodes head.switches with
        | error error => rw [helements, hdegrees, hswitches, hnodes] at h; cases h
        | ok =>
          rw [helements, hdegrees, hswitches, hnodes] at h
          exact ⟨rfl, rfl, rfl, rfl, h⟩

lemma mem_elementsAt {node : HeadNodeId} {id : HeadElementId} :
    id ∈ elementsAt head.elements node ↔ ∃ other, head.cross id node = some other := by
  simp only [elementsAt, List.mem_map, List.mem_filter, Registry.mem_values, cross,
    HeadElement.touches_iff, Option.bind_eq_some_iff]
  constructor
  · rintro ⟨element, ⟨⟨key, hkey⟩, other, hother⟩, rfl⟩
    rw [head.keyedElements key element hkey]
    exact ⟨other, element, hkey, hother⟩
  · rintro ⟨other, element, hid, hother⟩
    exact ⟨element, ⟨⟨id, hid⟩, other, hother⟩, head.keyedElements id element hid⟩

lemma nodup_elementsAt (head : StationHead) (node : HeadNodeId) :
    (elementsAt head.elements node).Nodup := by
  have hkeys : (Registry.values head.elements).map HeadElement.id
      = head.elements.toList.map Prod.fst := by
    rw [Registry.values, List.map_map]
    refine List.map_congr_left fun entry hentry => ?_
    exact head.keyedElements entry.1 entry.2 (Registry.mem_toList.mp hentry)
  have hnodup : ((Registry.values head.elements).map HeadElement.id).Nodup := by
    rw [hkeys, List.Nodup, List.pairwise_map]
    exact (ExtTreeMap.distinct_keys_toList (t := head.elements)).imp
      fun hne heq => hne (Std.compare_eq_iff_eq.mpr heq)
  exact hnodup.sublist (List.filter_sublist.map HeadElement.id)

lemma length_elementsAt {node : HeadNodeId} {kind : HeadNodeKind}
    (h : head.kindOf node = some kind) :
    (elementsAt head.elements node).length = kind.requiredDegree := by
  obtain ⟨held, hheld, rfl⟩ := Option.map_eq_some_iff.mp h
  have hdegree := forM_eq_ok.mp head.checks.2.1 held (Registry.mem_values.mpr ⟨node, hheld⟩)
  rw [head.keyedNodes node held hheld] at hdegree
  by_contra hne
  rw [if_neg hne] at hdegree
  cases hdegree

/-- The nodes of an element are nodes of the head. -/
lemma exists_kindOf {element : HeadElementId} {node other : HeadNodeId}
    (h : head.cross element node = some other) : ∃ kind, head.kindOf other = some kind := by
  obtain ⟨held, hheld, hother⟩ := Option.bind_eq_some_iff.mp h
  have hends := forM_eq_ok.mp (forM_eq_ok.mp head.checks.1 held
    (Registry.mem_values.mpr ⟨element, hheld⟩))
  have hin : other ∈ [held.start, held.finish] := by
    rw [HeadElement.otherEnd] at hother
    split at hother
    · cases hother
      simp
    · split at hother
      · cases hother
        simp
      · cases hother
  have hknown := hends other hin
  cases hnode : head.nodes[other]? with
  | some held => exact ⟨held.kind, by rw [kindOf, hnode]; rfl⟩
  | none =>
    rw [Registry.contains_eq_false.mpr hnode] at hknown
    cases hknown

lemma twoEnded (head : StationHead) : TwoEnded head.cross where
  ne := by
    intro element node other h
    obtain ⟨held, -, hother⟩ := Option.bind_eq_some_iff.mp h
    rw [HeadElement.otherEnd] at hother
    split at hother
    next heq =>
      cases hother
      exact fun hback => held.noLoop (heq.trans hback.symm)
    next hne =>
      split at hother
      · cases hother
        exact hne
      · cases hother
  back := by
    intro element node other h
    obtain ⟨held, hheld, hother⟩ := Option.bind_eq_some_iff.mp h
    refine Option.bind_eq_some_iff.mpr ⟨held, hheld, ?_⟩
    rw [HeadElement.otherEnd] at hother ⊢
    have hne := held.noLoop
    split at hother
    next heq =>
      cases hother
      rw [if_neg hne, if_pos rfl, heq]
    next =>
      split at hother
      next heq =>
        cases hother
        rw [if_pos rfl, heq]
      · cases hother

/-- A switch lies at a switch node and names three different elements there. -/
lemma fits {id : SwitchId} {switch : Switch} (h : head.switches[id]? = some switch) :
    head.kindOf switch.node = some .switch ∧ switch.Distinct ∧
      (∃ other, head.cross switch.point switch.node = some other) ∧
      ∀ position, ∃ other, head.cross (switch.branch position) switch.node = some other := by
  have hcheck := forM_eq_ok.mp head.checks.2.2.1 switch (Registry.mem_values.mpr ⟨id, h⟩)
  cases hfits : fitsNode head.nodes head.elements switch with
  | false => rw [hfits] at hcheck; cases hcheck
  | true =>
    simp only [fitsNode, Bool.and_eq_true, Option.any_eq_true, beq_iff_eq, bne_iff_ne,
      List.all_cons, List.all_nil, and_true, HeadElement.touches_iff] at hfits
    obtain ⟨⟨⟨node, hnode, hkind⟩, ⟨hpn, hnr⟩, hpr⟩, hpoint, hnormal, hreverse⟩ := hfits
    have hcross : ∀ {element : HeadElementId}, (∃ held, head.elements[element]? = some held ∧
        ∃ other, held.otherEnd switch.node = some other) →
        ∃ other, head.cross element switch.node = some other := by
      rintro element ⟨held, hheld, other, hother⟩
      exact ⟨other, by rw [cross, hheld, Option.bind_some, hother]⟩
    refine ⟨by rw [kindOf, hnode, Option.map_some, hkind], ⟨hpn, hnr, hpr⟩, hcross hpoint,
      fun position => ?_⟩
    cases position with
    | normal => exact hcross hnormal
    | reverse => exact hcross hreverse

lemma switchAt_eq_some {node : HeadNodeId} {switch : Switch}
    (h : head.switchAt node = some switch) :
    switch.node = node ∧ head.switches[switch.id]? = some switch := by
  obtain ⟨id, hindex, hswitch⟩ := Option.bind_eq_some_iff.mp h
  rw [indexSwitches] at hindex
  rcases Registry.getElem?_index_some hindex with hempty | ⟨other, hother, hnode, hid⟩
  · simp at hempty
  · obtain ⟨key, hkey⟩ := Registry.mem_values.mp hother
    have hown := head.keyedSwitches key other hkey
    rw [hid] at hown
    rw [← hown, hswitch] at hkey
    obtain rfl := Option.some.inj hkey
    refine ⟨hnode, ?_⟩
    rw [hid]
    exact hswitch

/-- A node with a switch is a switch node, and the other way round. -/
lemma kindOf_eq_switch_iff {node : HeadNodeId} :
    head.kindOf node = some .switch ↔ ∃ switch, head.switchAt node = some switch := by
  constructor
  · intro hkind
    obtain ⟨held, hheld, hswitch⟩ := Option.map_eq_some_iff.mp hkind
    have hcheck := forM_eq_ok.mp head.checks.2.2.2.1 held (Registry.mem_values.mpr ⟨node, hheld⟩)
    rw [head.keyedNodes node held hheld] at hcheck
    cases hindex : (indexSwitches head.switches)[node]? with
    | none =>
      rw [if_pos ⟨hswitch, by rw [Registry.contains_eq_false.mpr hindex]; simp⟩] at hcheck
      cases hcheck
    | some id =>
      have hfiled := hindex
      rw [indexSwitches] at hfiled
      rcases Registry.getElem?_index_some hfiled with hempty | ⟨switch, hin, -, hid⟩
      · simp at hempty
      · obtain ⟨key, hkey⟩ := Registry.mem_values.mp hin
        have hown := head.keyedSwitches key switch hkey
        refine ⟨switch, ?_⟩
        rw [switchAt, hindex, Option.bind_some, ← hid, hown, hkey]
  · rintro ⟨switch, hswitch⟩
    obtain ⟨rfl, hheld⟩ := switchAt_eq_some hswitch
    exact (fits hheld).1

/-- The elements at a switch node are the point and the branches of its switch. -/
lemma point_or_branch {node : HeadNodeId} {switch : Switch} {via : HeadElementId}
    (h : head.switchAt node = some switch) (hvia : ∃ other, head.cross via node = some other) :
    via = switch.point ∨ ∃ position, via = switch.branch position := by
  obtain ⟨rfl, hheld⟩ := switchAt_eq_some h
  obtain ⟨hkind, hdistinct, hpoint, hbranch⟩ := fits hheld
  have hlength := length_elementsAt hkind
  by_contra hnone
  rw [not_or, not_exists] at hnone
  obtain ⟨hnotPoint, hnotBranch⟩ := hnone
  have hfour : [via, switch.point, switch.normal, switch.reverse].Nodup := by
    have hnormal := hnotBranch .normal
    have hreverse := hnotBranch .reverse
    simp only [Switch.branch] at hnormal hreverse
    simp [hnotPoint, hnormal, hreverse, hdistinct.normal, hdistinct.reverse, hdistinct.branches]
  have hsub : [via, switch.point, switch.normal, switch.reverse]
      ⊆ elementsAt head.elements switch.node := by
    intro element helement
    rw [mem_elementsAt]
    simp only [List.mem_cons, List.not_mem_nil, or_false] at helement
    rcases helement with rfl | rfl | rfl | rfl
    · exact hvia
    · exact hpoint
    · exact hbranch .normal
    · exact hbranch .reverse
  have hle := (List.subperm_of_subset hfour hsub).length_le
  rw [hlength] at hle
  simp [HeadNodeKind.requiredDegree] at hle

/-- The ways to go on: none at a terminus, one at a joint, both branches from the point of a
switch and the point from a branch. -/
inductive Onward (head : StationHead) (node : HeadNodeId) (via : HeadElementId) :
    List (HeadElementId × Option SwitchDemand) → Prop where
  | terminus : head.kindOf node = some .terminus → Onward head node via []
  | joint {next other} : head.kindOf node = some .joint → next ≠ via →
      head.cross next node = some other → Onward head node via [(next, none)]
  | facing {switch} : head.switchAt node = some switch → via = switch.point →
      Onward head node via [(switch.normal, some (switch.id, .normal)),
        (switch.reverse, some (switch.id, .reverse))]
  | trailing {switch position} : head.switchAt node = some switch →
      via = switch.branch position →
      Onward head node via [(switch.point, some (switch.id, position))]

lemma onward_spec {node : HeadNodeId} {via : HeadElementId} {kind : HeadNodeKind}
    (hkind : head.kindOf node = some kind) (hvia : ∃ other, head.cross via node = some other) :
    Onward head node via (head.onward node via) := by
  rw [onward, hkind]
  cases kind with
  | terminus => exact .terminus hkind
  | joint =>
    have hlength := length_elementsAt hkind
    have hnodup := head.nodup_elementsAt node
    have hin := mem_elementsAt.mpr hvia
    have hall : ∀ element ∈ elementsAt head.elements node,
        ∃ other, head.cross element node = some other := fun _ h => mem_elementsAt.mp h
    obtain ⟨first, second, hpair⟩ := List.length_eq_two.mp hlength
    simp only [hpair] at hnodup hin hall ⊢
    have hne : first ≠ second := by simpa using hnodup
    rcases List.mem_cons.mp hin with rfl | hsecond
    · obtain ⟨other, hother⟩ := hall second (by simp)
      simpa [hne.symm] using Onward.joint hkind hne.symm hother
    · obtain rfl := List.mem_singleton.mp hsecond
      obtain ⟨other, hother⟩ := hall first (by simp)
      simpa [hne] using Onward.joint hkind hne hother
  | switch =>
    obtain ⟨switch, hswitch⟩ := kindOf_eq_switch_iff.mp hkind
    have hdistinct := (fits (switchAt_eq_some hswitch).2).2.1
    simp only [hswitch]
    split
    next hpoint => exact .facing hswitch hpoint
    next hne =>
      rcases point_or_branch hswitch hvia with hpoint | ⟨position, hbranch⟩
      · exact absurd hpoint hne
      · rw [(Switch.positionOf_eq_some hdistinct).mpr hbranch]
        exact .trailing hswitch hbranch

/-- The position that the switch at a node has when a movement passes it. -/
def turn (head : StationHead) (p : Passage HeadNodeId HeadElementId) : Option SwitchDemand :=
  (head.switchAt p.node).bind fun switch =>
    (switch.positionBetween p.via p.next).map fun position => (switch.id, position)

lemma turn_eq_some {p : Passage HeadNodeId HeadElementId} {id : SwitchId}
    {position : SwitchPosition} :
    head.turn p = some (id, position) ↔
      ∃ switch, head.switchAt p.node = some switch ∧ switch.id = id ∧
        switch.Leads p.via p.next position := by
  rw [turn, Option.bind_eq_some_iff]
  refine exists_congr fun switch => and_congr_right fun hswitch => ?_
  have hdistinct := (fits (switchAt_eq_some hswitch).2).2.1
  rw [Option.map_eq_some_iff]
  simp only [Switch.positionBetween_eq_some hdistinct, Prod.mk.injEq]
  constructor
  · rintro ⟨other, hleads, hid, rfl⟩
    exact ⟨hid, hleads⟩
  · rintro ⟨hid, hleads⟩
    exact ⟨position, hleads, hid, rfl⟩

/-- A way to go on leads over another element at the node, and demands of the switch the
position in which it leads there. -/
lemma onward_mem {node : HeadNodeId} {via next : HeadElementId} {demand : Option SwitchDemand}
    {kind : HeadNodeKind} (hkind : head.kindOf node = some kind)
    (hvia : ∃ other, head.cross via node = some other)
    (h : (next, demand) ∈ head.onward node via) :
    (∃ other, head.cross next node = some other) ∧ kind ≠ .terminus ∧
      head.turn ⟨node, via, next⟩ = demand ∧
      ∀ switch, head.switchAt node = some switch →
        ∃ position, switch.Leads via next position := by
  have hspec := onward_spec hkind hvia
  generalize head.onward node via = ways at h hspec
  cases hspec with
  | terminus => cases h
  | joint hjoint hne hnext =>
    obtain ⟨rfl, rfl⟩ := Prod.mk.inj (List.mem_singleton.mp h)
    obtain rfl : kind = .joint := Option.some.inj (hkind.symm.trans hjoint)
    -- a joint has no switch
    have hnone : head.switchAt node = none := by
      cases hswitch : head.switchAt node with
      | none => rfl
      | some switch =>
        rw [kindOf_eq_switch_iff.mpr ⟨switch, hswitch⟩] at hjoint
        cases hjoint
    refine ⟨⟨_, hnext⟩, by decide, by rw [turn, hnone, Option.bind_none], ?_⟩
    intro switch hswitch
    rw [hnone] at hswitch
    cases hswitch
  | @facing switch hswitch hpoint =>
    obtain ⟨rfl, hheld⟩ := switchAt_eq_some hswitch
    obtain ⟨hkindOf, -, -, hbranch⟩ := fits hheld
    have hnotEnd : kind ≠ .terminus := by
      obtain rfl := Option.some.inj (hkind.symm.trans hkindOf)
      decide
    have hway : ∃ position, next = switch.branch position
        ∧ demand = some (switch.id, position) := by
      simp only [List.mem_cons, List.not_mem_nil, or_false, Prod.mk.injEq] at h
      rcases h with h | h
      · exact ⟨.normal, h⟩
      · exact ⟨.reverse, h⟩
    obtain ⟨position, rfl, rfl⟩ := hway
    have hleads : switch.Leads via (switch.branch position) position := .inl ⟨hpoint, rfl⟩
    refine ⟨hbranch position, hnotEnd, turn_eq_some.mpr ⟨switch, hswitch, rfl, hleads⟩,
      fun other hother => ?_⟩
    obtain rfl := Option.some.inj (hswitch.symm.trans hother)
    exact ⟨position, hleads⟩
  | @trailing switch position hswitch hbranch =>
    obtain ⟨rfl, rfl⟩ := Prod.mk.inj (List.mem_singleton.mp h)
    obtain ⟨rfl, hheld⟩ := switchAt_eq_some hswitch
    obtain ⟨hkindOf, -, hpoint, -⟩ := fits hheld
    have hnotEnd : kind ≠ .terminus := by
      obtain rfl := Option.some.inj (hkind.symm.trans hkindOf)
      decide
    have hleads : switch.Leads via switch.point position := .inr ⟨hbranch, rfl⟩
    refine ⟨hpoint, hnotEnd, turn_eq_some.mpr ⟨switch, hswitch, rfl, hleads⟩,
      fun other hother => ?_⟩
    obtain rfl := Option.some.inj (hswitch.symm.trans hother)
    exact ⟨position, hleads⟩

lemma onward_ne_nil {node : HeadNodeId} {via : HeadElementId} {kind : HeadNodeKind}
    (hkind : head.kindOf node = some kind) (hvia : ∃ other, head.cross via node = some other)
    (h : head.onward node via = []) : head.kindOf node = some .terminus := by
  have hspec := onward_spec hkind hvia
  rw [h] at hspec
  cases hspec with
  | terminus hterminus => exact hterminus

lemma signalAt_eq_some {node : HeadNodeId} {element : HeadElementId} {id : HeadSignalId}
    (h : head.signalAt node element = some id) :
    ∃ signal, head.signals[id]? = some signal ∧ signal.node = node
      ∧ signal.element = element := by
  rw [signalAt, indexSignals] at h
  rcases Registry.getElem?_index_some h with hempty | ⟨signal, hin, hplace, hid⟩
  · simp at hempty
  · obtain ⟨key, hkey⟩ := Registry.mem_values.mp hin
    have hown := head.keyedSignals key signal hkey
    obtain ⟨hnode, helement⟩ := SignalPlace.mk.inj hplace
    refine ⟨signal, ?_, hnode, helement⟩
    rw [← hid, hown]
    exact hkey

lemma signalAt_eq_none {node : HeadNodeId} {element : HeadElementId}
    (h : head.signalAt node element = none) {id : HeadSignalId} {signal : HeadSignal}
    (hsignal : head.signals[id]? = some signal) :
    ¬ (signal.node = node ∧ signal.element = element) := by
  rw [signalAt, indexSignals, Registry.getElem?_index_none] at h
  rintro ⟨rfl, rfl⟩
  exact h.2 signal (Registry.mem_values.mpr ⟨id, hsignal⟩) rfl

end StationHead

end Zugfolge.Infra
