/-
What a built station head keeps of its parts.

The builder files the parts of a head under their numbers and refuses a number given twice.
The switch of a node and the signal of a place are looked up in two further indexes, and
there a second part of the same node or the same place takes the entry of the first one.

* `build_right_iff`: a built head is so exactly if no two switches were given for one node
  and no two signals for one place.
-/
import Zugfolge.Infra.Routes

namespace Zugfolge.Infra

open Foundation Std

/-! ### Filing and indexing -/

section Filing

variable {β : Type} {id : β → ℕ} {duplicate : ℕ → InfraError}

/-- The step of `sammle`. -/
private def file (id : β → ℕ) (duplicate : ℕ → InfraError) (filed : Registry ℕ β) (item : β) :
    Except InfraError (Registry ℕ β) :=
  if filed.contains (id item) then .error (duplicate (id item))
  else .ok (filed.insert (id item) item)

private lemma file_eq_ok {filed next : Registry ℕ β} {item : β}
    (h : file id duplicate filed item = .ok next) :
    filed[id item]? = none ∧ next = filed.insert (id item) item := by
  rw [file] at h
  split at h
  next => cases h
  next hfree =>
    cases h
    exact ⟨Registry.contains_eq_false.mp (Bool.not_eq_true _ ▸ hfree), rfl⟩

/-- A list that is filed on top of others has new and different numbers, and afterwards
stands there what stood there before or is in the list. -/
private lemma filed_iff {items : List β} : ∀ {start filed : Registry ℕ β},
    items.foldlM (file id duplicate) start = .ok filed →
      (items.map id).Nodup ∧ (∀ item ∈ items, start[id item]? = none) ∧
      ∀ (key : ℕ) (object : β), filed[key]? = some object ↔
        start[key]? = some object ∨ object ∈ items ∧ id object = key := by
  induction items with
  | nil =>
    intro start filed h
    cases h
    exact ⟨List.nodup_nil, by simp, by simp⟩
  | cons item items ih =>
    intro start filed h
    obtain ⟨next, hfirst, hrest⟩ := foldlM_cons_eq_ok_iff.mp h
    obtain ⟨hfree, rfl⟩ := file_eq_ok hfirst
    obtain ⟨hnodup, hnew, hfiled⟩ := ih hrest
    have hother : ∀ other ∈ items, id other ≠ id item ∧ start[id other]? = none := by
      intro other hin
      have hnone := hnew other hin
      rw [Registry.getElem?_insert] at hnone
      split at hnone
      next => cases hnone
      next hne => exact ⟨hne, hnone⟩
    refine ⟨?_, ?_, fun key object => ?_⟩
    · rw [List.map_cons, List.nodup_cons]
      refine ⟨fun hin => ?_, hnodup⟩
      obtain ⟨other, hother', heq⟩ := List.mem_map.mp hin
      exact (hother other hother').1 heq
    · rw [List.forall_mem_cons]
      exact ⟨hfree, fun other hin => (hother other hin).2⟩
    · rw [hfiled, Registry.getElem?_insert, List.mem_cons]
      by_cases hkey : key = id item
      · subst hkey
        rw [if_pos rfl, Option.some.injEq, hfree]
        constructor
        · rintro (rfl | ⟨hin, hid⟩)
          · exact .inr ⟨.inl rfl, rfl⟩
          · exact .inr ⟨.inr hin, hid⟩
        · rintro (h | ⟨rfl | hin, hid⟩)
          · cases h
          · exact .inl rfl
          · exact .inr ⟨hin, hid⟩
      · rw [if_neg hkey]
        constructor
        · rintro (h | ⟨hin, hid⟩)
          · exact .inl h
          · exact .inr ⟨.inr hin, hid⟩
        · rintro (h | ⟨rfl | hin, hid⟩)
          · exact .inl h
          · exact absurd hid.symm hkey
          · exact .inr ⟨hin, hid⟩

/-- Filed are exactly the objects of the list, each under its number, and no two of them
have the same number. -/
lemma sammle_iff {items : List β} {filed : Registry ℕ β}
    (h : sammle id duplicate items = .ok filed) :
    (items.map id).Nodup ∧
      ∀ (key : ℕ) (object : β),
        filed[key]? = some object ↔ object ∈ items ∧ id object = key := by
  obtain ⟨hnodup, -, hfiled⟩ := filed_iff (show items.foldlM (file id duplicate) ∅ = _ from h)
  refine ⟨hnodup, fun key object => ?_⟩
  rw [hfiled, ExtTreeMap.getElem?_empty]
  simp

lemma mem_values_of_sammle {items : List β} {filed : Registry ℕ β}
    (h : sammle id duplicate items = .ok filed) {object : β} :
    object ∈ Registry.values filed ↔ object ∈ items := by
  rw [Registry.mem_values]
  constructor
  · rintro ⟨key, hkey⟩
    exact (((sammle_iff h).2 key object).mp hkey).1
  · exact fun hin => ⟨id object, ((sammle_iff h).2 _ object).mpr ⟨hin, rfl⟩⟩

end Filing

/-- An index finds the value of every object exactly if objects of one key have one value. -/
lemma index_keeps_iff {κ α β : Type} [Ord κ] [TransOrd κ] [LawfulEqOrd κ] [DecidableEq κ]
    (key : β → κ) (value : β → α) (l : List β) :
    (∀ b ∈ l, (l.foldl (fun (index : Registry κ α) b => index.insert (key b) (value b))
        ∅)[key b]? = some (value b)) ↔
      ∀ b ∈ l, ∀ c ∈ l, key b = key c → value b = value c := by
  constructor
  · intro h b hb c hc hkey
    have hfirst := h b hb
    rw [hkey, h c hc] at hfirst
    exact (Option.some.inj hfirst).symm
  · intro h b hb
    cases hfound : (l.foldl (fun (index : Registry κ α) b => index.insert (key b) (value b))
        ∅)[key b]? with
    | none => exact absurd rfl ((Registry.getElem?_index_none.mp hfound).2 b hb)
    | some v =>
      rcases Registry.getElem?_index_some hfound with hempty | ⟨c, hc, hkey, rfl⟩
      · simp at hempty
      · rw [h c hc b hb hkey]

/-- Objects whose numbers differ have different keys exactly if the key determines the number. -/
lemma nodup_map_iff {β κ : Type} {id : β → ℕ} {key : β → κ} {l : List β}
    (h : (l.map id).Nodup) :
    (l.map key).Nodup ↔ ∀ b ∈ l, ∀ c ∈ l, key b = key c → id b = id c := by
  have hinj : ∀ b ∈ l, ∀ c ∈ l, id b = id c → b = c :=
    fun b hb c hc heq => List.inj_on_of_nodup_map h hb hc heq
  rw [List.nodup_map_iff_inj_on h.of_map]
  constructor
  · intro hkey b hb c hc heq
    rw [hkey b hb c hc heq]
  · intro hkey b hb c hc heq
    exact hinj b hb c hc (hkey b hb c hc heq)

/-! ### The built head -/

/-- What a built head holds of the parts it was built from. -/
lemma StationHeadBuilder.build_eq_ok {builder : StationHeadBuilder} {head : StationHead}
    (h : builder.build = .ok head) :
    sammle Switch.id .duplicateSwitch builder.switches = .ok head.switches ∧
      sammle HeadSignal.id .duplicateHeadSignal builder.signals = .ok head.signals := by
  rw [build] at h
  split at h
  next => cases h
  next =>
    split at h
    next => cases h
    next =>
      split at h
      next => cases h
      next =>
        split at h
        next => cases h
        next switches hswitches =>
          split at h
          next => cases h
          next signals hsignals =>
            split at h
            next => cases h
            next =>
              cases h
              exact ⟨hswitches, hsignals⟩

/-- The place of a signal: the node it stands at and the element it admits to. -/
def HeadSignal.place (signal : HeadSignal) : SignalPlace := ⟨signal.node, signal.element⟩

/-- The point and the branches of a switch are three different elements that meet at its
node, and this is a switch node. -/
structure StationHead.Joins (head : StationHead) (switch : Switch) : Prop where
  kind : head.kindOf switch.node = some .switch
  distinct : switch.Distinct
  point : ∃ other, head.cross switch.point switch.node = some other
  branch : ∀ position, ∃ other, head.cross (switch.branch position) switch.node = some other

/-- The head is a well-formed switch graph that has lost no part of its builder. -/
structure WellBuilt (builder : StationHeadBuilder) (head : StationHead) : Prop where
  /-- Every switch node has exactly one switch, and this joins three elements there. -/
  one : ∀ node, head.kindOf node = some .switch →
    ∃! switch, (∃ id : SwitchId, head.switches[id]? = some switch) ∧ switch.node = node
      ∧ head.Joins switch
  /-- At most one signal stands at a place. -/
  lone : ∀ (id other : HeadSignalId) (first second : HeadSignal),
    head.signals[id]? = some first → head.signals[other]? = some second →
      first.place = second.place → first = second
  /-- Every switch that was given is held, and found at its node. -/
  found : ∀ switch ∈ builder.switches,
    head.switches[switch.id]? = some switch ∧ head.switchAt switch.node = some switch
  /-- Every signal that was given is held, and found at its place. -/
  announced : ∀ signal ∈ builder.signals,
    head.signals[signal.id]? = some signal
      ∧ head.signalAt signal.node signal.element = some signal.id

namespace StationHead

variable {builder : StationHeadBuilder} {head : StationHead}

lemma joins (head : StationHead) {id : SwitchId} {switch : Switch}
    (h : head.switches[id]? = some switch) : head.Joins switch := by
  obtain ⟨hkind, hdistinct, hpoint, hbranch⟩ := fits h
  exact ⟨hkind, hdistinct, hpoint, hbranch⟩

/-- Every switch is found at its node exactly if no two switches were given for one node. -/
lemma switches_found_iff (h : builder.build = .ok head) :
    (∀ switch ∈ builder.switches, head.switchAt switch.node = some switch) ↔
      (builder.switches.map Switch.node).Nodup := by
  have hfiled := (StationHeadBuilder.build_eq_ok h).1
  have hvalues : ∀ {switch : Switch},
      switch ∈ Registry.values head.switches ↔ switch ∈ builder.switches :=
    mem_values_of_sammle hfiled
  rw [nodup_map_iff (sammle_iff hfiled).1]
  have hindex := index_keeps_iff Switch.node Switch.id (Registry.values head.switches)
  simp only [hvalues] at hindex
  rw [← hindex]
  refine forall_congr' fun switch => forall_congr' fun hin => ?_
  have hheld := ((sammle_iff hfiled).2 _ switch).mpr ⟨hin, rfl⟩
  rw [switchAt, indexSwitches]
  constructor
  · intro hfound
    obtain ⟨id, hid, hswitch⟩ := Option.bind_eq_some_iff.mp hfound
    rw [hid, head.keyedSwitches id switch hswitch]
  · intro hid
    rw [hid, Option.bind_some, hheld]

/-- Every signal is found at its place exactly if no two signals were given for one place. -/
lemma signals_found_iff (h : builder.build = .ok head) :
    (∀ signal ∈ builder.signals,
      head.signalAt signal.node signal.element = some signal.id) ↔
      (builder.signals.map HeadSignal.place).Nodup := by
  have hfiled := (StationHeadBuilder.build_eq_ok h).2
  have hvalues : ∀ {signal : HeadSignal},
      signal ∈ Registry.values head.signals ↔ signal ∈ builder.signals :=
    mem_values_of_sammle hfiled
  rw [nodup_map_iff (sammle_iff hfiled).1]
  have hindex := index_keeps_iff HeadSignal.place HeadSignal.id (Registry.values head.signals)
  simp only [hvalues] at hindex
  exact hindex

end StationHead

/-! ### The claim about the builder -/

/-- **A built head is a well-formed switch graph that has lost no switch and no signal
exactly if no two switches were given for one node and no two signals for one place.** -/
theorem StationHeadBuilder.build_right_iff {builder : StationHeadBuilder} {head : StationHead}
    (h : builder.build = .ok head) :
    WellBuilt builder head ↔
      (builder.switches.map Switch.node).Nodup ∧
        (builder.signals.map HeadSignal.place).Nodup := by
  obtain ⟨hswitches, hsignals⟩ := build_eq_ok h
  rw [← StationHead.switches_found_iff h, ← StationHead.signals_found_iff h]
  constructor
  · intro hright
    exact ⟨fun switch hin => (hright.found switch hin).2,
      fun signal hin => (hright.announced signal hin).2⟩
  · rintro ⟨hfound, hannounced⟩
    refine ⟨fun node hkind => ?_, fun id other first second hfirst hsecond hplace => ?_,
      fun switch hin => ⟨((sammle_iff hswitches).2 _ switch).mpr ⟨hin, rfl⟩, hfound switch hin⟩,
      fun signal hin => ⟨((sammle_iff hsignals).2 _ signal).mpr ⟨hin, rfl⟩,
        hannounced signal hin⟩⟩
    · obtain ⟨switch, hat⟩ := StationHead.kindOf_eq_switch_iff.mp hkind
      obtain ⟨rfl, hheld⟩ := StationHead.switchAt_eq_some hat
      refine ⟨switch, ⟨⟨switch.id, hheld⟩, rfl, head.joins hheld⟩, ?_⟩
      rintro other ⟨⟨id, hother⟩, hnode, -⟩
      have hin := (((sammle_iff hswitches).2 id other).mp hother).1
      have hsame := hfound other hin
      rw [hnode, hat] at hsame
      exact (Option.some.inj hsame).symm
    · have hfirst' := ((sammle_iff hsignals).2 id first).mp hfirst
      have hsecond' := ((sammle_iff hsignals).2 other second).mp hsecond
      obtain ⟨hnode, helement⟩ := SignalPlace.mk.inj hplace
      have hid := hannounced first hfirst'.1
      rw [hnode, helement, hannounced second hsecond'.1] at hid
      exact List.inj_on_of_nodup_map (sammle_iff hsignals).1 hfirst'.1 hsecond'.1
        (Option.some.inj hid).symm

/-- The head without a loop is built with all its parts. -/
theorem StationHeadBuilder.build_right_plainHead :
    ∃ head, plainHead.build = .ok head ∧ WellBuilt plainHead head := by
  have hbuilt : plainHead.build.toOption.isSome = true := by decide +kernel
  obtain ⟨head, hhead⟩ := Option.isSome_iff_exists.mp hbuilt
  have hok := ok_of_toOption hhead
  exact ⟨head, hok, (build_right_iff hok).mpr (by decide)⟩

/-- The head without a loop, with a second switch at its switch node. -/
def twoSwitchesHead : StationHeadBuilder :=
  { plainHead with switches := [⟨1, 2, 10, 11, 13⟩, ⟨2, 2, 13, 11, 10⟩] }

/-- The second switch of the node takes the place of the first one, without an error. -/
theorem StationHeadBuilder.build_drops_switch :
    ∃ head, twoSwitchesHead.build = .ok head ∧ ¬ WellBuilt twoSwitchesHead head := by
  have hbuilt : (twoSwitchesHead.build.toOption.any fun head =>
      head.switchAt 2 == some ⟨2, 2, 13, 11, 10⟩) = true := by decide +kernel
  obtain ⟨head, hok, hat⟩ := ok_of_any hbuilt
  refine ⟨head, hok, fun hright => ?_⟩
  have hfirst := (hright.found ⟨1, 2, 10, 11, 13⟩ List.mem_cons_self).2
  rw [beq_iff_eq.mp hat] at hfirst
  cases hfirst

end Zugfolge.Infra
