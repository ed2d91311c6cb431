/-
What the routes of a station head exclude.

Two routes must not be set together if they share an element, with their overlaps, or demand a
switch in two positions.  The derivation compares all routes in pairs and files the exclusions
under the numbers of the routes, which end at the last number of 32 bits: where there are more
routes, the last number is given several times.

* `excluding_iff`: the exclusions are right exactly if the numbers serve.
-/
import Mathlib.Algebra.Order.BigOperators.Group.List
import Mathlib.Data.List.Induction
import Zugfolge.Conflict.Resource
import Zugfolge.Infra.Routes

namespace Zugfolge.Infra

open Foundation Std
open Conflict (ResourceExclusions ConflictResource)

/-! ### Exclusions and their reasons -/

/-- The ways of two routes share an element, or they demand a switch in two positions. -/
def InterlockingRoute.Collides (route other : InterlockingRoute) : Prop :=
  (∃ element ∈ route.way, element ∈ other.way) ∨
    ∃ id position demanded, route.Demands id position ∧ other.Demands id demanded ∧
      position ≠ demanded

/-- What the plan of a station head says of its routes, for the resources. -/
def InterlockingPlan.resources (plan : InterlockingPlan) :
    Registry InterlockingRouteId Conflict.InterlockingRoute :=
  plan.routes.map fun _ route => ⟨route.id, route.excludes⟩

/-- The exclusions of a plan, carried over to resources. -/
def InterlockingPlan.exclusions (plan : InterlockingPlan) : ResourceExclusions :=
  ResourceExclusions.new.withPlan ⟨plan.operatingPoint, plan.resources⟩

/-- The exclusions of a plan are those of its routes, symmetric, irreflexive and exact. -/
structure Excluding (plan : InterlockingPlan) : Prop where
  carried : ∀ i j, plan.exclusions.excludes (.route plan.operatingPoint i)
      (.route plan.operatingPoint j) = true ↔
    ∃ route, plan.routes[i]? = some route ∧ route.excludes.contains j = true
  symmetric : plan.exclusions.Symmetric
  irreflexive : ∀ resource, plan.exclusions.excludes resource resource = false
  exact : ∀ (i j : InterlockingRouteId) (route other : InterlockingRoute),
    plan.routes[i]? = some route → plan.routes[j]? = some other → i ≠ j →
      (plan.exclusions.excludes (.route plan.operatingPoint i) (.route plan.operatingPoint j)
        = true ↔ route.Collides other)

/-- The routes of a station head in their order, with their numbers. -/
def StationHead.numberedRoutes (head : StationHead) (fuel : ℕ) (overlapLength : Length) :
    Option (List InterlockingRoute) :=
  (head.enumerate fuel).bind fun found =>
    (found.insertionSort fun a b => (a.order b).isLE).zipIdx.mapM fun entry =>
      (head.overlapOf fuel overlapLength entry.1).map fun overlap =>
        entry.1.numbered (routeId entry.2) overlap (.fromConfidence head.provenance.confidence)

/-- The route that keeps a number, with its place: the last one that was given it. -/
def keptEntry (routes : List InterlockingRoute) (id : InterlockingRouteId) :
    Option (InterlockingRoute × ℕ) :=
  (routes.zipIdx.filter fun entry => entry.1.id = id).getLast?

/-- Whatever collides with a route that keeps its number has another number, and collides with
the route that keeps this one. -/
def NumbersServe (routes : List InterlockingRoute) : Prop :=
  ∀ id kept, keptEntry routes id = some kept → ∀ entry ∈ routes.zipIdx, entry.2 ≠ kept.2 →
    kept.1.Collides entry.1 → entry.1.id ≠ id ∧
      ∀ other, keptEntry routes entry.1.id = some other → kept.1.Collides other.1

lemma InterlockingRoute.Collides.symm {route other : InterlockingRoute}
    (h : route.Collides other) : other.Collides route := by
  rcases h with ⟨element, hroute, hother⟩ | ⟨id, position, demanded, hroute, hother, hne⟩
  · exact .inl ⟨element, hother, hroute⟩
  · exact .inr ⟨id, demanded, position, hother, hroute, hne.symm⟩

/-! ### What a plan carries over -/

section

variable {plan : InterlockingPlan}

lemma getElem?_resources (i : InterlockingRouteId) :
    plan.resources[i]? = (plan.routes[i]?).map fun route => ⟨route.id, route.excludes⟩ :=
  ExtTreeMap.getElem?_map

/-- The exclusion sets by the numbers of the routes. -/
def InterlockingPlan.sets (plan : InterlockingPlan) :
    Registry InterlockingRouteId (KeySet InterlockingRouteId) :=
  (Registry.values plan.resources).foldl
    (fun sets route => sets.insert route.id route.excludes) ∅

lemma getElem?_sets (hkeyed : Keyed InterlockingRoute.id plan.routes) (i : InterlockingRouteId) :
    plan.sets[i]? = (plan.routes[i]?).map InterlockingRoute.excludes := by
  cases hset : plan.sets[i]? with
  | none =>
    cases hroute : plan.routes[i]? with
    | none => rfl
    | some route =>
      refine absurd (hkeyed i route hroute)
        ((Registry.getElem?_index_none.mp hset).2 ⟨route.id, route.excludes⟩ ?_)
      refine Registry.mem_values.mpr ⟨i, ?_⟩
      rw [getElem?_resources, hroute, Option.map_some]
  | some excluded =>
    rcases Registry.getElem?_index_some hset with hempty | ⟨other, hother, rfl, rfl⟩
    · simp at hempty
    · obtain ⟨key, hkey⟩ := Registry.mem_values.mp hother
      rw [getElem?_resources, Option.map_eq_some_iff] at hkey
      obtain ⟨route, hkey, rfl⟩ := hkey
      simp only
      rw [hkeyed key route hkey, hkey, Option.map_some]

lemma perPoint_exclusions (point : OperatingPointId) :
    plan.exclusions.perPoint[point]? = if point = plan.operatingPoint then some plan.sets
      else none := by
  change ((∅ : Registry OperatingPointId _).insert plan.operatingPoint plan.sets)[point]? = _
  rw [Registry.getElem?_insert, ExtTreeMap.getElem?_empty]

/-- The exclusions speak of the routes of the plan only, each under its own number. -/
lemma excludes_exclusions_iff (hkeyed : Keyed InterlockingRoute.id plan.routes)
    {a b : ConflictResource} :
    plan.exclusions.excludes a b = true ↔ ∃ i j route,
      a = .route plan.operatingPoint i ∧ b = .route plan.operatingPoint j ∧
        plan.routes[i]? = some route ∧ route.excludes.contains j = true := by
  constructor
  · intro h
    cases a with
    | route first i =>
      cases b with
      | route second j =>
        rw [ResourceExclusions.excludes] at h
        split at h
        next => cases h
        next hsame =>
          obtain rfl : first = second := not_not.mp hsame
          obtain ⟨excluded, hset, hj⟩ := (Option.any_eq_true _ _).mp h
          obtain ⟨sets, hsets, hset⟩ := Option.bind_eq_some_iff.mp hset
          rw [perPoint_exclusions] at hsets
          split at hsets
          next hpoint =>
            cases hsets
            rw [getElem?_sets hkeyed, Option.map_eq_some_iff] at hset
            obtain ⟨route, hroute, rfl⟩ := hset
            exact ⟨i, j, route, by rw [hpoint], by rw [hpoint], hroute, hj⟩
          next => cases hsets
      | _ => cases h
    | _ => cases b <;> cases h
  · rintro ⟨i, j, route, rfl, rfl, hroute, hj⟩
    rw [ResourceExclusions.excludes, if_neg (not_not.mpr rfl), perPoint_exclusions, if_pos rfl,
      Option.bind_some, getElem?_sets hkeyed, hroute]
    exact hj

end

/-! ### Filing the routes -/

/-- Every number holds the last route that was given it. -/
lemma getElem?_fileRoutes (routes : List InterlockingRoute) (id : InterlockingRouteId) :
    (fileRoutes routes)[id]? = (keptEntry routes id).map fun entry =>
      { entry.1 with excludes := exclusionSet routes entry.2 entry.1 } := by
  have hfold : ∀ entries : List (InterlockingRoute × ℕ),
      (entries.foldl (fun filed entry => filed.insert entry.1.id
        { entry.1 with excludes := exclusionSet routes entry.2 entry.1 })
          (∅ : Registry InterlockingRouteId InterlockingRoute))[id]?
        = ((entries.filter fun entry => entry.1.id = id).getLast?).map fun entry =>
            { entry.1 with excludes := exclusionSet routes entry.2 entry.1 } := by
    intro entries
    induction entries using List.reverseRecOn with
    | nil => simp
    | append_singleton entries entry ih =>
      rw [List.foldl_append, List.foldl_cons, List.foldl_nil, Registry.getElem?_insert,
        List.filter_append]
      by_cases heq : entry.1.id = id
      · simp [heq]
      · rw [if_neg (Ne.symm heq), ih]
        simp [heq]
  exact hfold routes.zipIdx

variable {fuel : ℕ} {head : StationHead} {overlapLength : Length} {route : InterlockingRoute}
  {routes : List InterlockingRoute}

lemma keptEntry_spec {id : InterlockingRouteId}
    {kept : InterlockingRoute × ℕ} (h : keptEntry routes id = some kept) :
    kept ∈ routes.zipIdx ∧ kept.1.id = id := by
  have hin := List.mem_filter.mp (List.mem_of_getLast? h)
  exact ⟨hin.1, by simpa using hin.2⟩

lemma keyed_fileRoutes (routes : List InterlockingRoute) :
    Keyed InterlockingRoute.id (fileRoutes routes) := by
  intro id route hroute
  rw [getElem?_fileRoutes, Option.map_eq_some_iff] at hroute
  obtain ⟨kept, hkept, rfl⟩ := hroute
  exact (keptEntry_spec hkept).2

lemma exists_keptEntry {entry : InterlockingRoute × ℕ}
    (h : entry ∈ routes.zipIdx) : ∃ kept, keptEntry routes entry.1.id = some kept := by
  have hin : entry ∈ routes.zipIdx.filter fun other => other.1.id = entry.1.id :=
    List.mem_filter.mpr ⟨h, by simp⟩
  exact ⟨_, List.getLast?_eq_some_getLast (List.ne_nil_of_mem hin)⟩

/-- A route of the plan is the kept one of its number, with what it excludes. -/
lemma excludes_fileRoutes_iff {operatingPoint : OperatingPointId} {i j : InterlockingRouteId} :
    (⟨operatingPoint, fileRoutes routes⟩ : InterlockingPlan).exclusions.excludes
        (.route operatingPoint i) (.route operatingPoint j) = true ↔
      ∃ kept, keptEntry routes i = some kept ∧ ∃ entry ∈ routes.zipIdx, entry.2 ≠ kept.2 ∧
        (Locked.of kept.1).conflictsWith (Locked.of entry.1) = true ∧ entry.1.id = j := by
  rw [excludes_exclusions_iff (keyed_fileRoutes routes)]
  constructor
  · rintro ⟨i', j', route, hi, hj, hroute, hcontains⟩
    cases hi
    cases hj
    rw [getElem?_fileRoutes, Option.map_eq_some_iff] at hroute
    obtain ⟨kept, hkept, rfl⟩ := hroute
    refine ⟨kept, hkept, ?_⟩
    simpa [exclusionSet, and_assoc] using hcontains
  · rintro ⟨kept, hkept, hentry⟩
    have hroute := getElem?_fileRoutes routes i
    rw [hkept, Option.map_some] at hroute
    exact ⟨i, j, _, rfl, rfl, hroute, by simpa [exclusionSet, and_assoc] using hentry⟩

/-! ### The comparison of two routes -/

/-- The point of every switch that the route demands lies on its way. -/
def StationHead.PassesPoints (head : StationHead) (route : InterlockingRoute) : Prop :=
  ∀ id position, route.Demands id position →
    ∃ switch, head.switches[id]? = some switch ∧ switch.point ∈ route.way

/-- What is locked for a route is demanded by it. -/
lemma demands_of_locked {id : SwitchId} {position : SwitchPosition}
    (h : (Locked.of route).switches[id]? = some position) : route.Demands id position := by
  have hfold : ∀ (demands : List SwitchDemand) (filed : Registry SwitchId SwitchPosition),
      (∀ demand ∈ demands, route.Demands demand.1 demand.2) →
      (∀ id position, filed[id]? = some position → route.Demands id position) →
      (demands.foldl (fun switches demand => if switches.contains demand.1 then switches
        else switches.insert demand.1 demand.2) filed)[id]? = some position →
      route.Demands id position := by
    intro demands
    induction demands with
    | nil => exact fun filed _ hfiled hid => hfiled id position hid
    | cons demand demands ih =>
      intro filed hall hfiled hid
      obtain ⟨hdemand, hall⟩ := List.forall_mem_cons.mp hall
      refine ih _ hall (fun other asked hother => ?_) hid
      simp only at hother
      split at hother
      next => exact hfiled other asked hother
      next =>
        rw [Registry.getElem?_insert] at hother
        split at hother
        next heq =>
          cases hother
          rw [heq]
          exact hdemand
        next => exact hfiled other asked hother
  exact hfold _ _ (fun demand hdemand => .inr (Registry.mem_toList.mp hdemand))
    (fun _ _ hid => .inl hid) h

/-- The comparison finds the reasons: routes that demand a switch both pass its point. -/
lemma collides_iff_conflictsWith {route other : InterlockingRoute}
    (hroute : head.PassesPoints route) (hother : head.PassesPoints other) :
    (Locked.of route).conflictsWith (Locked.of other) = true ↔ route.Collides other := by
  have hshared : (!(Locked.of route).elements.disjoint (Locked.of other).elements) = true ↔
      ∃ element ∈ route.way, element ∈ other.way := by
    rw [Bool.not_eq_true', KeySet.not_disjoint_iff]
    simp only [Locked.of, KeySet.mem_ofList, InterlockingRoute.way]
  rw [Locked.conflictsWith, Bool.or_eq_true, hshared]
  constructor
  · rintro (hway | hswitch)
    · exact .inl hway
    · obtain ⟨demand, hdemand, hany⟩ := List.any_eq_true.mp hswitch
      obtain ⟨position, hposition, hne⟩ := (Option.any_eq_true _ _).mp hany
      exact .inr ⟨demand.1, demand.2, position,
        demands_of_locked (Registry.mem_toList.mp hdemand), demands_of_locked hposition,
        (bne_iff_ne.mp hne).symm⟩
  · rintro (hway | ⟨id, position, demanded, hposition, hdemanded, -⟩)
    · exact .inl hway
    · obtain ⟨switch, hswitch, hpoint⟩ := hroute id position hposition
      obtain ⟨same, hsame, hotherPoint⟩ := hother id demanded hdemanded
      rw [hswitch] at hsame
      cases hsame
      exact .inl ⟨switch.point, hpoint, hotherPoint⟩

/-- A derived route passes the points of all switches that it demands, also of the one that its
overlap only comes back to. -/
lemma StationHead.Complete.passesPoints {start node : HeadNodeId} {via : HeadElementId}
    {switches kept : List SwitchDemand} {stray : Option SwitchDemand}
    (h : head.Complete start overlapLength route node via switches kept stray) :
    head.PassesPoints route := by
  intro id position hdemands
  obtain ⟨p, hvia, hnext, hturn⟩ : ∃ p : Passage HeadNodeId HeadElementId,
      p.via ∈ route.way ∧ p.next ∈ route.way ∧ head.turn p = some (id, position) := by
    rcases h.of_demands hdemands with ⟨p, hp, hturn⟩ | hstray
    · obtain ⟨hvia, hnext⟩ := mem_of_mem_passages hp
      exact ⟨p, hvia, hnext, hturn⟩
    · obtain ⟨next, hnext, hway⟩ := h.behind _ hstray
      obtain ⟨kind, hkind⟩ := h.trail.exists_kind
      obtain ⟨other, hcross, -⟩ := h.trail.exists_cross
      exact ⟨⟨node, via, next⟩, List.mem_of_getLast? h.last, hnext,
        (StationHead.onward_mem hkind ⟨other, hcross⟩ hway).2.2.1⟩
  obtain ⟨switch, hswitch, rfl, hleads⟩ := StationHead.turn_eq_some.mp hturn
  refine ⟨switch, (StationHead.switchAt_eq_some hswitch).2, ?_⟩
  rcases hleads with ⟨hpoint, -⟩ | ⟨-, hpoint⟩
  · rwa [← hpoint]
  · rwa [← hpoint]

lemma found_of_mem_numberedRoutes (h : head.numberedRoutes fuel overlapLength = some routes)
    (hroute : route ∈ routes) : ∃ raw signal, head.signals[raw.fromSignal]? = some signal ∧
      head.FoundFrom signal raw ∧ head.DerivedFrom fuel overlapLength raw route := by
  obtain ⟨found, hfound, hroutes⟩ := Option.bind_eq_some_iff.mp h
  obtain ⟨entry, hentry, hnumbered⟩ := exists_of_mem_mapM hroutes hroute
  obtain ⟨overlap, hoverlap, rfl⟩ := Option.map_eq_some_iff.mp hnumbered
  have hraw : entry.1 ∈ found :=
    (List.mem_insertionSort _).mp (List.fst_mem_of_mem_zipIdx hentry)
  obtain ⟨signal, hsignal, hfrom⟩ := StationHead.found_of_enumerate hfound hraw
  exact ⟨entry.1, signal, hsignal, hfrom, rfl, rfl, rfl, rfl, hoverlap⟩

lemma passesPoints_of_mem (h : head.numberedRoutes fuel overlapLength = some routes)
    (hroute : route ∈ routes) : head.PassesPoints route := by
  obtain ⟨raw, signal, hsignal, ⟨-, -, node, via, turned, hfound⟩, hderived⟩ :=
    found_of_mem_numberedRoutes h hroute
  obtain ⟨⟨node', via', kept, stray, hcomplete, -⟩, -⟩ :=
    StationHead.complete_of_found hsignal hfound hderived
  exact hcomplete.passesPoints

/-! ### The exclusions of a station head -/

lemma numberedRoutes_of_derive {plan : InterlockingPlan}
    (h : deriveInterlockingRoutes fuel head overlapLength = some (.ok plan)) :
    ∃ routes, head.numberedRoutes fuel overlapLength = some routes ∧
      plan = ⟨head.operatingPoint, fileRoutes routes⟩ := by
  rw [deriveInterlockingRoutes] at h
  split at h
  next => cases h
  next =>
    obtain ⟨found, hfound, h⟩ := Option.bind_eq_some_iff.mp h
    obtain ⟨routes, hroutes, h⟩ := Option.map_eq_some_iff.mp h
    cases h
    exact ⟨routes, Option.bind_eq_some_iff.mpr ⟨found, hfound, hroutes⟩, rfl⟩

section

variable {routes : List InterlockingRoute} {point : OperatingPointId} {i j : InterlockingRouteId}

/-- If the numbers serve, two routes of the plan exclude each other exactly if they collide. -/
lemma NumbersServe.excludes_iff (hserve : NumbersServe routes)
    (hcompare : ∀ route ∈ routes, ∀ other ∈ routes,
      ((Locked.of route).conflictsWith (Locked.of other) = true ↔ route.Collides other)) :
    (⟨point, fileRoutes routes⟩ : InterlockingPlan).exclusions.excludes (.route point i)
        (.route point j) = true ↔
      i ≠ j ∧ ∃ kept keeper, keptEntry routes i = some kept ∧ keptEntry routes j = some keeper ∧
        kept.1.Collides keeper.1 := by
  have hin : ∀ {id entry}, keptEntry routes id = some entry → entry.1 ∈ routes := fun h =>
    List.fst_mem_of_mem_zipIdx (keptEntry_spec h).1
  rw [excludes_fileRoutes_iff]
  constructor
  · rintro ⟨kept, hkept, entry, hentry, hne, hconflict, rfl⟩
    rw [hcompare _ (hin hkept) _ (List.fst_mem_of_mem_zipIdx hentry)] at hconflict
    obtain ⟨hid, hkeeper⟩ := hserve i kept hkept entry hentry hne hconflict
    obtain ⟨keeper, hkeeps⟩ := exists_keptEntry hentry
    exact ⟨hid.symm, kept, keeper, hkept, hkeeps, hkeeper keeper hkeeps⟩
  · rintro ⟨hij, kept, keeper, hkept, hkeeper, hcollide⟩
    obtain ⟨hkeeperIn, hkeeperId⟩ := keptEntry_spec hkeeper
    obtain ⟨hkeptIn, hkeptId⟩ := keptEntry_spec hkept
    refine ⟨kept, hkept, keeper, hkeeperIn, fun hsame => hij ?_,
      (hcompare _ (hin hkept) _ (hin hkeeper)).mpr hcollide, hkeeperId⟩
    -- entries at one place are the same
    rw [List.mem_zipIdx_iff_getElem?] at hkeptIn hkeeperIn
    rw [hsame, hkeptIn] at hkeeperIn
    rw [← hkeptId, ← hkeeperId, Option.some.inj hkeeperIn]

end

/-- The exclusions of a derived plan are right exactly if the numbers of the routes serve. -/
lemma excluding_iff_numbersServe {head : StationHead} {fuel : ℕ} {overlapLength : Length}
    {plan : InterlockingPlan}
    (h : deriveInterlockingRoutes fuel head overlapLength = some (.ok plan)) :
    Excluding plan ↔
      ∀ routes, head.numberedRoutes fuel overlapLength = some routes → NumbersServe routes := by
  obtain ⟨routes, hroutes, rfl⟩ := numberedRoutes_of_derive h
  have hcompare : ∀ route ∈ routes, ∀ other ∈ routes,
      ((Locked.of route).conflictsWith (Locked.of other) = true ↔ route.Collides other) :=
    fun route hroute other hother => collides_iff_conflictsWith
      (passesPoints_of_mem hroutes hroute) (passesPoints_of_mem hroutes hother)
  have hfiled : ∀ {id entry}, keptEntry routes id = some entry → (fileRoutes routes)[id]?
      = some { entry.1 with excludes := exclusionSet routes entry.2 entry.1 } := by
    intro id entry hkept
    rw [getElem?_fileRoutes, hkept, Option.map_some]
  constructor
  · intro hright other hother id kept hkept entry hentry hne hcollide
    rw [hroutes] at hother
    cases hother
    have hin := List.fst_mem_of_mem_zipIdx (keptEntry_spec hkept).1
    have hexcludes :
        (⟨head.operatingPoint, fileRoutes routes⟩ : InterlockingPlan).exclusions.excludes
          (.route head.operatingPoint id) (.route head.operatingPoint entry.1.id) = true :=
      excludes_fileRoutes_iff.mpr ⟨kept, hkept, entry, hentry, hne,
        (hcompare _ hin _ (List.fst_mem_of_mem_zipIdx hentry)).mpr hcollide, rfl⟩
    have hid : entry.1.id ≠ id := by
      intro heq
      rw [heq, hright.irreflexive] at hexcludes
      cases hexcludes
    exact ⟨hid, fun keeper hkeeper =>
      (hright.exact id entry.1.id _ _ (hfiled hkept) (hfiled hkeeper) hid.symm).mp hexcludes⟩
  · intro hserve
    have hserve := hserve routes hroutes
    have hkeyed := keyed_fileRoutes routes
    refine ⟨fun i j => ?_, fun a b hab => ?_, fun resource => ?_, ?_⟩
    · rw [excludes_exclusions_iff hkeyed]
      constructor
      · rintro ⟨_, _, route, hi, hj, hroute⟩
        cases hi
        cases hj
        exact ⟨route, hroute⟩
      · rintro ⟨route, hroute⟩
        exact ⟨i, j, route, rfl, rfl, hroute⟩
    · obtain ⟨i, j, -, rfl, rfl, -⟩ := (excludes_exclusions_iff hkeyed).mp hab
      rw [hserve.excludes_iff hcompare] at hab ⊢
      obtain ⟨hne, kept, keeper, hkept, hkeeper, hcollide⟩ := hab
      exact ⟨hne.symm, keeper, kept, hkeeper, hkept, hcollide.symm⟩
    · rw [← Bool.not_eq_true]
      intro hself
      obtain ⟨i, j, -, rfl, hij, -⟩ := (excludes_exclusions_iff hkeyed).mp hself
      rw [hserve.excludes_iff hcompare] at hself
      exact hself.1 rfl
    · intro i j route other hroute hother hne
      rw [getElem?_fileRoutes, Option.map_eq_some_iff] at hroute hother
      obtain ⟨kept, hkept, rfl⟩ := hroute
      obtain ⟨keeper, hkeeper, rfl⟩ := hother
      rw [hserve.excludes_iff hcompare]
      constructor
      · rintro ⟨-, first, second, hfirst, hsecond, hcollide⟩
        rw [hkept] at hfirst
        rw [hkeeper] at hsecond
        cases hfirst
        cases hsecond
        exact hcollide
      · exact fun hcollide => ⟨hne, kept, keeper, hkept, hkeeper, hcollide⟩

/-! ### Numbers of 32 bits -/

variable {fuel : ℕ} {head : StationHead} {overlapLength : Length}

/-- The routes are numbered by their places. -/
lemma id_of_mem_zipIdx {routes : List InterlockingRoute}
    (h : head.numberedRoutes fuel overlapLength = some routes) {entry : InterlockingRoute × ℕ}
    (hentry : entry ∈ routes.zipIdx) : entry.1.id = routeId entry.2 := by
  obtain ⟨found, -, hroutes⟩ := Option.bind_eq_some_iff.mp h
  have hall : ∀ (raws : List RawRoute) (routes : List InterlockingRoute) (k : ℕ),
      List.Forall₂ (fun entry route => (head.overlapOf fuel overlapLength entry.1).map
        (fun overlap => entry.1.numbered (routeId entry.2) overlap
          (.fromConfidence head.provenance.confidence)) = some route) (raws.zipIdx k) routes →
      ∀ entry ∈ routes.zipIdx k, entry.1.id = routeId entry.2 := by
    intro raws
    induction raws with
    | nil =>
      intro routes k hrel entry hentry
      cases hrel
      cases hentry
    | cons raw raws ih =>
      intro routes k hrel entry hentry
      rw [List.zipIdx_cons] at hrel
      obtain ⟨route, behind, hroute, hbehind, rfl⟩ := List.forall₂_cons_left_iff.mp hrel
      rw [List.zipIdx_cons] at hentry
      rcases List.mem_cons.mp hentry with rfl | hentry
      · obtain ⟨overlap, -, rfl⟩ := Option.map_eq_some_iff.mp hroute
        rfl
      · exact ih behind (k + 1) hbehind entry hentry
  exact hall _ routes 0 (forall₂_of_mapM hroutes) entry hentry

lemma length_numberedRoutes {routes : List InterlockingRoute} {found : List RawRoute}
    (h : head.numberedRoutes fuel overlapLength = some routes)
    (hfound : head.enumerate fuel = some found) : routes.length = found.length := by
  rw [StationHead.numberedRoutes, hfound, Option.bind_some] at h
  rw [← (forall₂_of_mapM h).length_eq, List.length_zipIdx, List.length_insertionSort]

/-- As long as there are numbers for all routes, they serve. -/
lemma numbersServe_of_length {routes : List InterlockingRoute}
    (h : head.numberedRoutes fuel overlapLength = some routes) (hlength : routes.length ≤ u32Max) :
    NumbersServe routes := by
  have hinjective : ∀ first ∈ routes.zipIdx, ∀ second ∈ routes.zipIdx,
      first.1.id = second.1.id → first = second := by
    intro first hfirst second hsecond hid
    rw [id_of_mem_zipIdx h hfirst, id_of_mem_zipIdx h hsecond, routeId, routeId] at hid
    rw [List.mem_zipIdx_iff_getElem?] at hfirst hsecond
    obtain ⟨hfirstLt, -⟩ := List.getElem?_eq_some_iff.mp hfirst
    obtain ⟨hsecondLt, -⟩ := List.getElem?_eq_some_iff.mp hsecond
    have hnumbers : min u32Max (first.2 + 1) = min u32Max (second.2 + 1) := hid
    have hplace : first.2 = second.2 := by omega
    rw [hplace, hsecond] at hfirst
    exact Prod.ext (Option.some.inj hfirst).symm hplace
  intro id kept hkept entry hentry hne hcollide
  obtain ⟨hkeptIn, hkeptId⟩ := keptEntry_spec hkept
  refine ⟨fun hid => hne ?_, fun other hother => ?_⟩
  · rw [hinjective entry hentry kept hkeptIn (hid.trans hkeptId.symm)]
  · obtain ⟨hotherIn, hotherId⟩ := keptEntry_spec hother
    rwa [hinjective other hotherIn entry hentry hotherId]

/-- **The exclusions of a derived plan are right exactly if there are numbers for all routes or
the numbers serve all the same.** -/
theorem excluding_iff {plan : InterlockingPlan}
    (h : deriveInterlockingRoutes fuel head overlapLength = some (.ok plan)) :
    Excluding plan ↔ ∀ routes, head.numberedRoutes fuel overlapLength = some routes →
      routes.length ≤ u32Max ∨ NumbersServe routes := by
  refine (excluding_iff_numbersServe h).trans (forall₂_congr fun routes hroutes => ?_)
  exact ⟨Or.inr, fun hserve => hserve.elim (numbersServe_of_length hroutes) id⟩

/-- The exclusions of the head without a loop are right. -/
theorem excluding_plainHead : ∃ head plan, plainHead.build = .ok head ∧
    deriveInterlockingRoutes 8 head 300000 = some (.ok plan) ∧ Excluding plan := by
  have hplain : (plainHead.build.toOption.any fun head =>
      ((deriveInterlockingRoutes 8 head 300000).any fun outcome => outcome.toOption.isSome) &&
        (head.numberedRoutes 8 300000).all fun routes => decide (routes.length ≤ u32Max))
      = true := by decide +kernel
  obtain ⟨head, hhead, hplain⟩ := (Option.any_eq_true _ _).mp hplain
  rw [Bool.and_eq_true] at hplain
  obtain ⟨outcome, houtcome, hok⟩ := (Option.any_eq_true _ _).mp hplain.1
  obtain ⟨plan, hplan⟩ := Option.isSome_iff_exists.mp hok
  obtain rfl := ok_of_toOption hplan
  refine ⟨head, plan, ok_of_toOption hhead, houtcome, (excluding_iff houtcome).mpr ?_⟩
  intro routes hroutes
  have hlength := hplain.2
  rw [hroutes] at hlength
  exact .inl (of_decide_eq_true hlength)

/-! ### A ladder of loops -/

/-- An element of 100 metres from a node to the next one. -/
def rail (id : HeadElementId) (node : HeadNodeId) : HeadElement where
  id := id
  start := node
  finish := node + 1
  length := 100000
  noLoop := (Nat.succ_ne_self node).symm
  positive := Int.natCast_pos.mpr (Nat.succ_pos 99999)

/-- A ladder: one signal, and behind it 32 loops one after the other. -/
def ladder : StationHeadBuilder where
  operatingPoint := 1
  provenance := ⟨.surveyed⟩
  nodes := ⟨0, .terminus⟩ :: ⟨65, .terminus⟩ :: (List.range 64).map fun n => ⟨n + 1, .switch⟩
  elements := (List.range 33).map (fun n => rail (3 * n) (2 * n)) ++
    (List.range 32).flatMap fun n => [rail (3 * n + 1) (2 * n + 1), rail (3 * n + 2) (2 * n + 1)]
  switches := (List.range 32).flatMap fun n =>
    [⟨2 * n + 1, 2 * n + 1, 3 * n, 3 * n + 1, 3 * n + 2⟩,
      ⟨2 * n + 2, 2 * n + 2, 3 * n + 3, 3 * n + 1, 3 * n + 2⟩]
  signals := [⟨1, 0, 0⟩]

/-- From a node over an element the ways lead over the given elements to the next node. -/
def Rung (head : StationHead) (node via : ℕ) (targets : List ℕ) : Prop :=
  head.kindOf node ≠ some .terminus ∧ (head.onward node via).map Prod.fst = targets ∧
    ∀ next ∈ targets, head.signalAt node next = none ∧ head.cross next node = some (node + 1)

instance (head : StationHead) (node via : ℕ) (targets : List ℕ) :
    Decidable (Rung head node via targets) :=
  inferInstanceAs (Decidable (_ ∧ _ ∧ _))

/-- Every loop of the head has its two rungs, and behind the last one the way ends. -/
structure Ladder (head : StationHead) : Prop where
  signals : head.signals[1]? = some ⟨1, 0, 0⟩ ∧
    (Registry.values head.signals).all (fun signal => signal.element == 0) = true
  first : head.cross 0 0 = some 1
  apart : ∀ n < 32, Rung head (2 * n + 1) (3 * n) [3 * n + 1, 3 * n + 2]
  together : ∀ n < 32, ∀ via ∈ [3 * n + 1, 3 * n + 2], Rung head (2 * n + 2) via [3 * n + 3]
  last : head.kindOf 65 = some .terminus

section

variable {head : StationHead} {fromSignal : HeadSignalId}

/-- From a rung there are as many routes as from all its targets together. -/
lemma Rung.mul_le {node via : ℕ} {targets elements : List ℕ}
    (h : Rung head node via targets) {fuel bound : ℕ} {switches : List SwitchDemand}
    {out : List RawRoute}
    (hfresh : ∀ next ∈ targets, next ∉ elements)
    (hnext : ∀ next ∈ targets, ∀ switches part, head.extend fromSignal fuel (elements ++ [next])
      switches (node + 1) next = some part → bound ≤ part.length)
    (hout : head.extend fromSignal (fuel + 1) elements switches node via = some out) :
    targets.length * bound ≤ out.length := by
  obtain ⟨hkind, htargets, hways⟩ := h
  rw [StationHead.extend, if_neg hkind] at hout
  obtain ⟨parts, hparts, rfl⟩ := Option.map_eq_some_iff.mp hout
  have hrel := forall₂_of_mapM hparts
  have hbound : ∀ length ∈ parts.map List.length, bound ≤ length := by
    intro length hlength
    obtain ⟨part, hpart, rfl⟩ := List.mem_map.mp hlength
    obtain ⟨way, hway, hpart⟩ := exists_of_mem_forall₂ hrel hpart
    have htarget : way.1 ∈ targets := htargets ▸ List.mem_map_of_mem hway
    obtain ⟨hsignal, hcross⟩ := hways _ htarget
    rw [if_neg (hfresh _ htarget), hsignal, hcross] at hpart
    exact hnext _ htarget _ _ hpart
  have hlength : parts.length = targets.length := by
    rw [← hrel.length_eq, ← htargets, List.length_map]
  have hsum := List.card_nsmul_le_sum _ bound hbound
  rw [List.length_map, hlength, ← List.length_flatten] at hsum
  exact hsum

/-- Every loop doubles the number of the routes. -/
lemma Ladder.two_pow_le (h : Ladder head) : ∀ (m n : ℕ), n + m = 32 →
    ∀ {fuel : ℕ} {elements : List ℕ} {switches : List SwitchDemand} {out : List RawRoute},
      (∀ element ∈ elements, element ≤ 3 * n) →
      head.extend fromSignal fuel elements switches (2 * n + 1) (3 * n) = some out →
        2 ^ m ≤ out.length := by
  intro m
  induction m with
  | zero =>
    rintro n rfl fuel elements switches out - hout
    cases fuel with
    | zero => cases hout
    | succ fuel =>
      rw [StationHead.extend, if_pos h.last] at hout
      cases hout
      exact le_rfl
  | succ m ih =>
    intro n hn fuel elements switches out hbelow hout
    have hlt : n < 32 := by omega
    cases fuel with
    | zero => cases hout
    | succ fuel =>
      rw [pow_succ, mul_comm]
      refine (h.apart n hlt).mul_le (fun next hnext hin => ?_)
        (fun via hvia demands part hpart => ?_) hout
      · have hle := hbelow next hin
        simp only [List.mem_cons, List.not_mem_nil, or_false] at hnext
        omega
      · -- the two rungs of the loop meet at the next switch
        have hbelow' : ∀ element ∈ elements ++ [via], element ≤ 3 * n + 2 := by
          intro element hin
          simp only [List.mem_cons, List.not_mem_nil, or_false] at hvia
          rcases List.mem_append.mp hin with hin | hin
          · have hle := hbelow element hin
            omega
          · rw [List.mem_singleton.mp hin]
            omega
        cases fuel with
        | zero => cases hpart
        | succ fuel =>
          rw [← one_mul (2 ^ m)]
          refine (h.together n hlt via hvia).mul_le (fun next hnext hin => ?_)
            (fun next hnext demands part hpart => ?_) hpart
          · have hle := hbelow' next hin
            rw [List.mem_singleton.mp hnext] at hle
            omega
          · rw [List.mem_singleton.mp hnext] at hpart
            refine ih (n + 1) (by omega) (fun element hin => ?_) hpart
            rcases List.mem_append.mp hin with hin | hin
            · have hle := hbelow' element hin
              omega
            · rw [List.mem_singleton.mp hin]
              omega

lemma Ladder.many (h : Ladder head) {fuel : ℕ} {found : List RawRoute}
    (hfound : head.enumerate fuel = some found) : u32Max < found.length := by
  obtain ⟨parts, hparts, rfl⟩ := Option.map_eq_some_iff.mp hfound
  have hin : (⟨1, 0, 0⟩ : HeadSignal) ∈ Registry.values head.signals :=
    Registry.mem_values.mpr ⟨1, h.signals.1⟩
  obtain ⟨part, hpart, hroutes⟩ := exists_of_mem_forall₂ (forall₂_of_mapM hparts).flip hin
  rw [StationHead.routesFrom, h.first] at hroutes
  have hcount := h.two_pow_le 32 0 rfl (fun element hin => (List.mem_singleton.mp hin).le) hroutes
  have hlength := (List.sublist_flatten_of_mem hpart).length_le
  have hnumbers : u32Max < 2 ^ 32 := by decide
  omega

lemma Ladder.collides (h : Ladder head) {fuel : ℕ} {overlapLength : Length}
    {routes : List InterlockingRoute}
    (hroutes : head.numberedRoutes fuel overlapLength = some routes)
    {route other : InterlockingRoute}
    (hroute : route ∈ routes) (hother : other ∈ routes) : route.Collides other := by
  have hfirst : ∀ route ∈ routes, 0 ∈ route.way := by
    intro route hroute
    obtain ⟨raw, signal, hsignal, ⟨-, hhead, -⟩, hderived⟩ :=
      found_of_mem_numberedRoutes hroutes hroute
    have helement := List.all_eq_true.mp h.signals.2 signal (Registry.mem_values.mpr ⟨_, hsignal⟩)
    rw [beq_iff_eq.mp helement, ← hderived.elements] at hhead
    exact List.mem_append_left _ (List.mem_of_mem_head? hhead)
  exact .inl ⟨0, hfirst route hroute, hfirst other hother⟩

/-- Where all routes collide and there are too few numbers for them, the numbers do not serve. -/
lemma not_numbersServe {routes : List InterlockingRoute} {fuel : ℕ} {overlapLength : Length}
    (hroutes : head.numberedRoutes fuel overlapLength = some routes)
    (hcollide : ∀ route ∈ routes, ∀ other ∈ routes, route.Collides other)
    (hmany : u32Max < routes.length) : ¬ NumbersServe routes := by
  intro hserve
  have hentry : ∀ (n : ℕ) (hn : n < routes.length), u32Max ≤ n + 1 →
      (routes[n], n) ∈ routes.zipIdx ∧ routes[n].id = u32Max := by
    intro n hn hlast
    have hin : (routes[n], n) ∈ routes.zipIdx :=
      List.mem_zipIdx_iff_getElem?.mpr (List.getElem?_eq_getElem hn)
    exact ⟨hin, (id_of_mem_zipIdx hroutes hin).trans (min_eq_left hlast)⟩
  have hpositive : 0 < u32Max := by decide
  obtain ⟨hfirst, hfirstId⟩ := hentry (u32Max - 1) (by omega) (by omega)
  obtain ⟨hsecond, hsecondId⟩ := hentry u32Max hmany (by omega)
  obtain ⟨kept, hkept⟩ := exists_keptEntry hsecond
  rw [hsecondId] at hkept
  have hkeptIn := List.fst_mem_of_mem_zipIdx (keptEntry_spec hkept).1
  -- one of the two entries has lost its number
  by_cases hplace : kept.2 = u32Max
  · exact (hserve u32Max kept hkept _ hfirst (by simp only; omega)
      (hcollide _ hkeptIn _ (List.fst_mem_of_mem_zipIdx hfirst))).1 hfirstId
  · exact (hserve u32Max kept hkept _ hsecond (Ne.symm hplace)
      (hcollide _ hkeptIn _ (List.fst_mem_of_mem_zipIdx hsecond))).1 hsecondId

end

/-- The routes of the ladder get a plan, but its exclusions are wrong: the route that keeps the
last number excludes itself. -/
theorem ladder_not_excluding : ∃ head fuel plan, ladder.build = .ok head ∧
    deriveInterlockingRoutes fuel head 100000 = some (.ok plan) ∧ ¬ Excluding plan := by
  have hladder : (ladder.build.toOption.any fun head =>
      decide (head.signals[1]? = some ⟨1, 0, 0⟩ ∧ head.cross 0 0 = some 1 ∧
        head.kindOf 65 = some .terminus) &&
      (Registry.values head.signals).all (fun signal => signal.element == 0) &&
      (List.range 32).all fun n =>
        decide (Rung head (2 * n + 1) (3 * n) [3 * n + 1, 3 * n + 2]) &&
          [3 * n + 1, 3 * n + 2].all fun via => decide (Rung head (2 * n + 2) via [3 * n + 3]))
      = true := by decide +kernel
  obtain ⟨head, hhead, hladder⟩ := (Option.any_eq_true _ _).mp hladder
  rw [Bool.and_eq_true, Bool.and_eq_true, decide_eq_true_eq] at hladder
  obtain ⟨⟨⟨hsignal, hfirst, hlast⟩, hsignals⟩, hrungs⟩ := hladder
  rw [List.all_eq_true] at hrungs
  have h : Ladder head := by
    refine ⟨⟨hsignal, hsignals⟩, hfirst, fun n hn => ?_, fun n hn via hvia => ?_, hlast⟩
    · have hrung := hrungs n (List.mem_range.mpr hn)
      rw [Bool.and_eq_true] at hrung
      exact of_decide_eq_true hrung.1
    · have hrung := hrungs n (List.mem_range.mpr hn)
      rw [Bool.and_eq_true, List.all_eq_true] at hrung
      exact of_decide_eq_true (hrung.2 via hvia)
  -- the search and the overlaps end with enough fuel
  have hfuel := Nat.lt_succ_self head.elements.size
  obtain ⟨found, hfound⟩ := StationHead.enumerate_exists hfuel
  obtain ⟨routes, hroutes⟩ : ∃ routes,
      head.numberedRoutes (head.elements.size + 1) 100000 = some routes := by
    rw [StationHead.numberedRoutes, hfound, Option.bind_some]
    refine mapM_exists fun entry hentry => ?_
    obtain ⟨signal, -, hfrom⟩ := StationHead.found_of_enumerate hfound
      ((List.mem_insertionSort _).mp (List.fst_mem_of_mem_zipIdx hentry))
    obtain ⟨overlap, hoverlap⟩ := StationHead.overlapOf_exists hfuel 100000 hfrom
    exact ⟨_, by rw [hoverlap, Option.map_some]⟩
  have hderive : deriveInterlockingRoutes (head.elements.size + 1) head 100000
      = some (.ok ⟨head.operatingPoint, fileRoutes routes⟩) := by
    rw [StationHead.numberedRoutes, hfound, Option.bind_some] at hroutes
    rw [deriveInterlockingRoutes, if_neg (by decide), hfound, Option.bind_some, hroutes,
      Option.map_some]
  refine ⟨head, _, _, ok_of_toOption hhead, hderive, fun hright => ?_⟩
  refine not_numbersServe hroutes (fun _ hroute _ hother => h.collides hroutes hroute hother) ?_
    ((excluding_iff_numbersServe hderive).mp hright routes hroutes)
  rw [length_numberedRoutes hroutes hfound]
  exact h.many hfound

end Zugfolge.Infra
