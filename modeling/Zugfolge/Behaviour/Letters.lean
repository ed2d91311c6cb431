/-
What a message carries.
-/
import Zugfolge.Behaviour.Runs

namespace Zugfolge

open Foundation

namespace OperationalWorld

variable (w : OperationalWorld)

lemma templateOf_eq_ok {templateId : String} {template : InterlockingRouteTemplate} :
    w.templateOf templateId = .ok template ↔ w.infra.interlockingRoute templateId = some template :=
  orRefuse_eq_ok

lemma trainOf_eq_ok {trainId : String} {train : OperationalTrain} :
    w.trainOf trainId = .ok train ↔ w.trains[trainId]? = some train := orRefuse_eq_ok

lemma formationOf_eq_ok {formationId : String} {formation : FormationVersion} :
    w.formationOf formationId = .ok formation ↔ w.formations[formationId]? = some formation :=
  orRefuse_eq_ok

lemma routeOf_eq_ok {train : OperationalTrain} {route : RouteVersion} :
    w.routeOf train = .ok route ↔ w.infra.routeVersion train.routeVersionId = some route :=
  orRefuse_eq_ok

/-! ### Interlocking routes and switches -/

/-- Interlocking routes and switches collected from locks, beside those collected before. -/
structure CollectedFrom (locks : List RouteLock)
    (before after : Registry String InterlockingRouteTemplate × Registry String String) :
    Prop where
  known : ∀ lock ∈ locks, ∃ template, w.infra.interlockingRoute lock.templateId = some template
    ∧ after.1[template.id]?.isSome
  route : ∀ (key : String) (template : InterlockingRouteTemplate),
    after.1[key]? = some template → before.1[key]? = some template
      ∨ template.id = key ∧ ∃ lock ∈ locks,
        w.infra.interlockingRoute lock.templateId = some template
  keptRoute : ∀ key : String, before.1[key]?.isSome → after.1[key]?.isSome
  demanded : ∀ lock ∈ locks, ∀ (template : InterlockingRouteTemplate) (switchId : String),
    w.infra.interlockingRoute lock.templateId = some template →
      template.switchPositions[switchId]?.isSome → after.2[switchId]?.isSome
  switch : ∀ switchId position : String, after.2[switchId]? = some position →
    before.2[switchId]? = some position
      ∨ ∃ lock ∈ locks, ∃ template, w.infra.interlockingRoute lock.templateId = some template
        ∧ template.switchPositions[switchId]? = some position
  keptSwitch : ∀ switchId : String, before.2[switchId]?.isSome → after.2[switchId]?.isSome

/-- Induction on the locks: what is collected comes from one of them. -/
lemma foldlM_routesOfLocks (locks : List RouteLock)
    {before after : Registry String InterlockingRouteTemplate × Registry String String}
    (h : locks.foldlM (fun acc lock => do
      let template ← w.templateOf lock.templateId
      pure (acc.1.insert template.id template, acc.2 ∪ template.switchPositions)) before
      = Except.ok (ε := Failure) after) : w.CollectedFrom locks before after := by
  induction locks generalizing before with
  | nil =>
    rw [List.foldlM_nil] at h
    cases h
    exact ⟨by simp, fun _ _ => .inl, fun _ => id, by simp, fun _ _ => .inl, fun _ => id⟩
  | cons lock locks ih =>
    rw [List.foldlM_cons, checked_bind_eq_ok] at h
    obtain ⟨mid, hmid, hrest⟩ := h
    rw [checked_bind_eq_ok] at hmid
    obtain ⟨template, htemplate, hmid⟩ := hmid
    rw [templateOf_eq_ok] at htemplate
    cases hmid
    have hs := ih hrest
    have hthere : after.1[template.id]?.isSome := hs.keptRoute _ (by simp)
    refine ⟨fun l hl => ?_, fun key t ht => ?_, fun key hkey => hs.keptRoute key ?_,
      fun l hl t s ht hsome => ?_, fun s p hp => ?_, fun s hsome => hs.keptSwitch s ?_⟩
    · rcases List.mem_cons.mp hl with rfl | hl
      · exact ⟨template, htemplate, hthere⟩
      · exact hs.known l hl
    · rcases hs.route key t ht with hb | ⟨hid, l, hl, hlook⟩
      · rw [Registry.getElem?_insert] at hb
        split at hb
        case isTrue hkey =>
          cases hb
          exact .inr ⟨hkey.symm, lock, by simp, htemplate⟩
        case isFalse => exact .inl hb
      · exact .inr ⟨hid, l, List.mem_cons_of_mem _ hl, hlook⟩
    · rw [Registry.getElem?_insert]
      split
      · rfl
      · exact hkey
    · rcases List.mem_cons.mp hl with rfl | hl
      · rw [htemplate] at ht
        cases ht
        refine hs.keptSwitch s ?_
        rw [Registry.getElem?_union]
        simp [hsome]
      · exact hs.demanded l hl t s ht hsome
    · rcases hs.switch s p hp with hb | ⟨l, hl, t, hlook, hdemand⟩
      · rw [Registry.getElem?_union, Option.or_eq_some_iff] at hb
        rcases hb with hb | ⟨-, hb⟩
        · exact .inr ⟨lock, by simp, template, htemplate, hb⟩
        · exact .inl hb
      · exact .inr ⟨l, List.mem_cons_of_mem _ hl, t, hlook, hdemand⟩
    · rw [Registry.getElem?_union]
      simp [hsome]

/-- The interlocking routes and switches of locks. -/
structure RoutesOf (locks : Registry String RouteLock)
    (routes : Registry String InterlockingRouteTemplate) (switches : Registry String String) :
    Prop where
  known : ∀ (id : String) (lock : RouteLock), locks[id]? = some lock →
    ∃ template, w.infra.interlockingRoute lock.templateId = some template
      ∧ routes[lock.templateId]? = some template
  demanded : ∀ (id : String) (lock : RouteLock) (template : InterlockingRouteTemplate)
    (switchId position : String), locks[id]? = some lock →
    w.infra.interlockingRoute lock.templateId = some template →
    template.switchPositions[switchId]? = some position →
    ∃ (id' : String) (lock' : RouteLock) (template' : InterlockingRouteTemplate)
      (position' : String), locks[id']? = some lock'
      ∧ w.infra.interlockingRoute lock'.templateId = some template'
      ∧ template'.switchPositions[switchId]? = some position'
      ∧ switches[switchId]? = some position'

lemma routesOfLocks_spec {locks : Registry String RouteLock}
    {routes : Registry String InterlockingRouteTemplate} {switches : Registry String String}
    (h : w.routesOfLocks locks = .ok (routes, switches)) : w.RoutesOf locks routes switches := by
  have hs := w.foldlM_routesOfLocks _ h
  constructor
  · intro id lock hlock
    obtain ⟨template, htemplate, hsome⟩ := hs.known lock (Registry.mem_values.mpr ⟨id, hlock⟩)
    obtain ⟨other, hother⟩ := Option.isSome_iff_exists.mp hsome
    rcases hs.route _ _ hother with hb | ⟨hid, lock', -, hlook⟩
    · simp at hb
    · have h1 := InMemoryOperationalInfrastructure.interlockingRoute_id hlook
      have h2 := InMemoryOperationalInfrastructure.interlockingRoute_id htemplate
      have hsame : lock'.templateId = lock.templateId := by rw [← h1, hid, h2]
      rw [hsame, htemplate] at hlook
      cases hlook
      exact ⟨template, htemplate, h2 ▸ hother⟩
  · intro id lock template switchId position hlock htemplate hdemand
    have hsome := hs.demanded lock (Registry.mem_values.mpr ⟨id, hlock⟩) template switchId
      htemplate (by simp [hdemand])
    obtain ⟨position', hposition'⟩ := Option.isSome_iff_exists.mp hsome
    rcases hs.switch _ _ hposition' with hb | ⟨lock', hin, template', hlook, hdemand'⟩
    · simp at hb
    · obtain ⟨id', hlock'⟩ := Registry.mem_values.mp hin
      exact ⟨id', lock', template', position', hlock', hlook, hdemand', hposition'⟩

/-! ### Vehicles -/

/-- The vehicles of a formation and their types. -/
structure VehiclesOf (formation : FormationVersion) (vehicles : Registry String PhysicalVehicle)
    (kinds : Registry String VehicleType) : Prop where
  known : ∀ vehicleId ∈ formation.vehicleIds, ∃ vehicle kind,
    w.vehicles[vehicleId]? = some vehicle ∧ w.vehicleTypes[vehicle.typeId]? = some kind
      ∧ vehicles[vehicle.id]?.isSome ∧ kinds[kind.id]?.isSome
  vehicle : ∀ (key : String) (vehicle : PhysicalVehicle), vehicles[key]? = some vehicle →
    vehicle.id = key ∧ ∃ vehicleId ∈ formation.vehicleIds, w.vehicles[vehicleId]? = some vehicle
  kind : ∀ (key : String) (kind : VehicleType), kinds[key]? = some kind →
    kind.id = key ∧ ∃ typeId : String, w.vehicleTypes[typeId]? = some kind

/-- Induction on the vehicles: what is collected comes from one of them. -/
lemma vehiclesOf_spec {formation : FormationVersion}
    {vehicles : Registry String PhysicalVehicle} {kinds : Registry String VehicleType}
    (h : w.vehiclesOf formation = .ok (vehicles, kinds)) :
    w.VehiclesOf formation vehicles kinds := by
  have hall : ∀ (ids : List String)
      (before after : Registry String PhysicalVehicle × Registry String VehicleType),
      ids.foldlM (fun acc vehicleId => do
        let vehicle ← orRefuse w.vehicles[vehicleId]? (.unknownVehicle vehicleId)
        let kind ← orRefuse w.vehicleTypes[vehicle.typeId]? (.unknownVehicleType vehicle.typeId)
        pure (acc.1.insert vehicle.id vehicle, acc.2.insert kind.id kind)) before
        = Except.ok (ε := Failure) after →
      (∀ vehicleId ∈ ids, ∃ vehicle kind, w.vehicles[vehicleId]? = some vehicle
        ∧ w.vehicleTypes[vehicle.typeId]? = some kind
        ∧ after.1[vehicle.id]?.isSome ∧ after.2[kind.id]?.isSome)
      ∧ (∀ (key : String) (vehicle : PhysicalVehicle), after.1[key]? = some vehicle →
        before.1[key]? = some vehicle
          ∨ vehicle.id = key ∧ ∃ vehicleId ∈ ids, w.vehicles[vehicleId]? = some vehicle)
      ∧ (∀ (key : String) (kind : VehicleType), after.2[key]? = some kind →
        before.2[key]? = some kind
          ∨ kind.id = key ∧ ∃ typeId : String, w.vehicleTypes[typeId]? = some kind)
      ∧ (∀ key : String, before.1[key]?.isSome → after.1[key]?.isSome)
      ∧ ∀ key : String, before.2[key]?.isSome → after.2[key]?.isSome := by
    intro ids
    induction ids with
    | nil =>
      intro before after h
      rw [List.foldlM_nil] at h
      cases h
      exact ⟨by simp, fun _ _ => .inl, fun _ _ => .inl, fun _ => id, fun _ => id⟩
    | cons vehicleId ids ih =>
      intro before after h
      rw [List.foldlM_cons, checked_bind_eq_ok] at h
      obtain ⟨mid, hmid, hrest⟩ := h
      simp only [checked_bind_eq_ok, orRefuse_eq_ok] at hmid
      obtain ⟨vehicle, hvehicle, kind, hkind, hmid⟩ := hmid
      cases hmid
      obtain ⟨hknown, hv, hk, hkeptV, hkeptK⟩ := ih _ _ hrest
      refine ⟨fun id hid => ?_, fun key v hkey => ?_, fun key k hkey => ?_,
        fun key hkey => hkeptV key ?_, fun key hkey => hkeptK key ?_⟩
      · rcases List.mem_cons.mp hid with rfl | hid
        · exact ⟨vehicle, kind, hvehicle, hkind, hkeptV _ (by simp), hkeptK _ (by simp)⟩
        · exact hknown id hid
      · rcases hv key v hkey with hb | ⟨hid, vid, hin, hlook⟩
        · rw [Registry.getElem?_insert] at hb
          split at hb
          case isTrue hkey' =>
            cases hb
            exact .inr ⟨hkey'.symm, vehicleId, by simp, hvehicle⟩
          case isFalse => exact .inl hb
        · exact .inr ⟨hid, vid, List.mem_cons_of_mem _ hin, hlook⟩
      · rcases hk key k hkey with hb | hnew
        · rw [Registry.getElem?_insert] at hb
          split at hb
          case isTrue hkey' =>
            cases hb
            exact .inr ⟨hkey'.symm, _, hkind⟩
          case isFalse => exact .inl hb
        · exact .inr hnew
      · rw [Registry.getElem?_insert]
        split
        · rfl
        · exact hkey
      · rw [Registry.getElem?_insert]
        split
        · rfl
        · exact hkey
  obtain ⟨hknown, hv, hk, -⟩ := hall _ _ _ h
  exact ⟨hknown, fun key v hkey => (hv key v hkey).resolve_left (by simp),
    fun key k hkey => (hk key k hkey).resolve_left (by simp)⟩

/-! ### Messages -/

/-- What is known of a message when it is prepared in world `w`. -/
structure Prepared (env : Env) (id trainId targetRegionId : String) (resources : KeySet String)
    (handover : RegionHandover) : Prop where
  id_eq : handover.id = id
  train : w.trains[trainId]? = some handover.train
  formation : w.formations[handover.train.formationVersionId]? = some handover.formation
  route : w.infra.routeVersion handover.train.routeVersionId = some handover.route
  worldId : handover.worldId = w.worldId
  infraReleaseId : handover.infraReleaseId = w.infraReleaseId
  bindingIdentity : handover.infraBindingIdentity = w.infra.bindingIdentity
  sourceRegionId : handover.sourceRegionId = w.regionId
  targetRegionId : handover.targetRegionId = targetRegionId
  atMs : handover.atMs = w.nowMs
  hash : handover.payloadHash = handover.calculatePayloadHash env
  unsent : handover.acknowledged = false
  disruptions : handover.activeDisruptions = w.activeDisruptions
  locks : handover.routeLocks = w.routeLocks.filter fun _ lock => lock.trainId == trainId
  routesOf : w.RoutesOf handover.routeLocks handover.interlockingRoutes handover.switchPositions
  vehiclesOf : w.VehiclesOf handover.formation handover.vehicles handover.vehicleTypes
  resources_eq : handover.protectedResources = resources
  unlocked : w.lockedByOther trainId resources = false
  unoccupied : w.occupiedByOther trainId resources = false

lemma prepareHandover_prepared {env : Env} {id trainId targetRegionId : String}
    {resources : KeySet String} {handover : RegionHandover}
    (h : w.prepareHandover env id trainId targetRegionId resources = .ok handover) :
    w.Prepared env id trainId targetRegionId resources handover := by
  unfold prepareHandover at h
  simp only [checked_bind_eq_ok, trainOf_eq_ok, formationOf_eq_ok, routeOf_eq_ok,
    refuseIf_eq_ok, Bool.or_eq_false_iff] at h
  obtain ⟨train, htrain, formation, hformation, route, hroute, ⟨routes, switches⟩, hroutes,
    ⟨vehicles, kinds⟩, hvehicles, _, ⟨hlocked, hoccupied⟩, h⟩ := h
  cases h
  exact
    { id_eq := rfl, train := htrain, formation := hformation, route := hroute, worldId := rfl
      infraReleaseId := rfl, bindingIdentity := rfl, sourceRegionId := rfl, targetRegionId := rfl
      atMs := rfl, hash := rfl, unsent := rfl, disruptions := rfl, locks := rfl
      routesOf := w.routesOfLocks_spec hroutes
      vehiclesOf := w.vehiclesOf_spec hvehicles
      resources_eq := rfl, unlocked := hlocked, unoccupied := hoccupied }

end OperationalWorld

end Zugfolge
