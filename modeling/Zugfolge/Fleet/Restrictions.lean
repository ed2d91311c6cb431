/-
Restrictions of vehicles.

A restriction of one vehicle changes the performance of its formation.  The speed, the power
and the brakes never get better by it.  The acceleration is bounded by the least cap of the
drives in use: a restriction that takes a drive out of use takes its cap away as well.

* `deriveFormation_restricted`: the formation with one more restriction.
-/
import Zugfolge.Fleet.Formation
import Zugfolge.Foundation.Collect

namespace Zugfolge

open Foundation

/-! ### What restrictions leave -/

namespace VehicleRestriction

/-- The speed that a restriction allows. -/
def speedLimit : VehicleRestriction → Option ℕ
  | maximumSpeed speed => some speed
  | _ => none

/-- The service brake that a restriction leaves. -/
def serviceLimit : VehicleRestriction → Option ℕ
  | serviceBrake brake => some brake
  | _ => none

/-- The emergency brake that a restriction leaves. -/
def emergencyLimit : VehicleRestriction → Option ℕ
  | emergencyBrake brake => some brake
  | _ => none

/-- The share of the power that a restriction leaves. -/
def powerShare : VehicleRestriction → Option ℕ
  | powerBasisPoints basisPoints => some basisPoints
  | _ => none

end VehicleRestriction

variable (limit : VehicleRestriction → Option ℕ)

/-- A value under the bound of one more restriction. -/
def capped (value : ℕ) (restriction : VehicleRestriction) : ℕ :=
  (limit restriction).elim value (min value)

/-- A power after one more restriction, on the grid of whole kilowatts. -/
def scaled (powered : Bool) (power : ℕ) (restriction : VehicleRestriction) : ℕ :=
  if powered then
    restriction.powerShare.elim power fun share =>
      power / 1000 * share / formationDynamicsBasisPoints * 1000
  else power

/-- The restriction is none of a powered vehicle that raises its power. -/
def Lowers (powered : Bool) (restriction : VehicleRestriction) : Prop :=
  powered = true → ∀ share ∈ restriction.powerShare, share ≤ formationDynamicsBasisPoints

lemma capped_mono (restriction : VehicleRestriction) :
    Monotone fun value => capped limit value restriction := by
  intro value value' h
  cases hlimit : limit restriction with
  | none => simpa only [capped, hlimit, Option.elim_none] using h
  | some bound =>
    simp only [capped, hlimit, Option.elim_some]
    omega

lemma capped_le (restriction : VehicleRestriction)
    (value : ℕ) : capped limit value restriction ≤ value := by
  cases hlimit : limit restriction with
  | none | some bound => simp [capped, hlimit]

lemma lowers_of_none {powered : Bool} {restriction : VehicleRestriction}
    (h : restriction.powerShare = none) : Lowers powered restriction := by
  intro _ share hshare
  rw [h] at hshare
  cases hshare

lemma scaled_of_none {powered : Bool} {power : ℕ} {restriction : VehicleRestriction}
    (h : restriction.powerShare = none) : scaled powered power restriction = power := by
  simp [scaled, h]

lemma scaled_mono (powered : Bool) (restriction : VehicleRestriction) :
    Monotone fun power => scaled powered power restriction := by
  intro power power' h
  cases hshare : restriction.powerShare with
  | none => simpa only [scaled_of_none hshare] using h
  | some share =>
    simp only [scaled, hshare, Option.elim_some]
    split
    · refine Nat.mul_le_mul_right 1000 (Nat.div_le_div_right (Nat.mul_le_mul_right share ?_))
      exact Nat.div_le_div_right h
    · exact h

lemma scaled_le {powered : Bool} {restriction : VehicleRestriction}
    (h : Lowers powered restriction) (power : ℕ) : scaled powered power restriction ≤ power := by
  cases hshare : restriction.powerShare with
  | none => exact (scaled_of_none hshare).le
  | some share =>
    simp only [scaled, hshare, Option.elim_some]
    split
    next hpowered =>
      have hle : share ≤ formationDynamicsBasisPoints := h hpowered share hshare
      calc power / 1000 * share / formationDynamicsBasisPoints * 1000
          ≤ power / 1000 * formationDynamicsBasisPoints / formationDynamicsBasisPoints * 1000 :=
            Nat.mul_le_mul_right 1000 (Nat.div_le_div_right (Nat.mul_le_mul_left _ hle))
        _ = power / 1000 * 1000 := by
            rw [Nat.mul_div_cancel _ (by decide)]
        _ ≤ power := Nat.div_mul_le_self power 1000
    next => exact le_refl power

namespace VehicleType

variable (kind : VehicleType) (vehicle : PhysicalVehicle)

/-- The power that the restrictions leave. -/
def powerLeft : ℕ :=
  (Registry.values vehicle.restrictions).foldl (scaled vehicle.powered) kind.powerWatts

/-- The vehicle has a drive that it can use. -/
def hasDrive : Bool :=
  vehicle.powered
    && !(Registry.values vehicle.restrictions).contains VehicleRestriction.immobilized
    && decide (0 < kind.powerLeft vehicle)

end VehicleType

namespace FormationTally

variable {id : String} {powered : Bool}

/-- The bounds of all restrictions of a vehicle. -/
def capAll (tally : FormationTally) (restrictions : List VehicleRestriction) : FormationTally :=
  { tally with
    maximumSpeed := restrictions.foldl (capped VehicleRestriction.speedLimit) tally.maximumSpeed
    serviceBrake := restrictions.foldl (capped VehicleRestriction.serviceLimit) tally.serviceBrake
    emergencyBrake :=
      restrictions.foldl (capped VehicleRestriction.emergencyLimit) tally.emergencyBrake
    restrictedServiceBrake :=
      restrictions.foldl (capped VehicleRestriction.serviceLimit) tally.restrictedServiceBrake
    restrictedEmergencyBrake :=
      restrictions.foldl (capped VehicleRestriction.emergencyLimit) tally.restrictedEmergencyBrake }

/-- What one restriction does to a vehicle with explicit metadata. -/
lemma addRestriction_eq {tally : FormationTally} {left : VehicleTally}
    {restriction : VehicleRestriction} {next : FormationTally × VehicleTally}
    (h : addRestriction id true powered (tally, left) restriction = .ok next) :
    Lowers powered restriction ∧ next.1 = tally.capAll [restriction]
      ∧ next.2.power = scaled powered left.power restriction
      ∧ next.2.immobilized = (left.immobilized || restriction == .immobilized) := by
  cases restriction with
  | powerBasisPoints basisPoints =>
    cases powered with
    | false =>
      cases h
      exact ⟨(fun hpowered => nomatch hpowered), rfl, rfl, by simp⟩
    | true =>
      obtain ⟨power, hpower, hnext⟩ := bind_eq_ok_iff.mp h
      simp only [restrictedPower, if_true] at hpower
      split at hpower
      · cases hpower
      next hshare =>
        obtain ⟨product, hproduct, hscaled⟩ := bind_eq_ok_iff.mp hpower
        rw [mulCheckedU64] at hproduct
        split at hproduct
        · cases hproduct
          cases hscaled
          cases hnext
          refine ⟨fun _ share hmem => ?_, rfl, rfl, by simp⟩
          cases hmem
          exact Nat.le_of_not_lt fun hlt => hshare (.inr hlt)
        · cases hproduct
  | maximumSpeed speed | serviceBrake brake | emergencyBrake brake | protectionUnavailable system
  | doorAvailabilityBasisPoints basisPoints | immobilized =>
    cases h
    exact ⟨lowers_of_none rfl, rfl, (scaled_of_none rfl).symm, by simp⟩

/-- What all restrictions of a vehicle with explicit metadata do. -/
lemma addRestrictions_eq {restrictions : List VehicleRestriction} {tally : FormationTally}
    {left : VehicleTally} {next : FormationTally × VehicleTally}
    (h : restrictions.foldlM (addRestriction id true powered) (tally, left) = .ok next) :
    (∀ restriction ∈ restrictions, Lowers powered restriction)
      ∧ next.1 = tally.capAll restrictions
      ∧ next.2.power = restrictions.foldl (scaled powered) left.power
      ∧ next.2.immobilized = (left.immobilized || restrictions.contains .immobilized) := by
  induction restrictions generalizing tally left with
  | nil =>
    cases h
    exact ⟨(fun _ hmem => nomatch hmem), rfl, rfl, by simp⟩
  | cons restriction restrictions ih =>
    obtain ⟨⟨tally', left'⟩, hfirst, hrest⟩ := foldlM_cons_eq_ok_iff.mp h
    obtain ⟨hlowers, htally, hpower, himmobilized⟩ := addRestriction_eq hfirst
    obtain ⟨hlowers', htally', hpower', himmobilized'⟩ := ih hrest
    simp only at htally hpower himmobilized
    refine ⟨List.forall_mem_cons.mpr ⟨hlowers, hlowers'⟩, ?_, ?_, ?_⟩
    · rw [htally', htally]
      rfl
    · rw [hpower', hpower]
      rfl
    · rw [himmobilized', himmobilized, List.contains_cons, Bool.or_assoc]
      congr 2
      exact Bool.beq_comm ..

end FormationTally

/-- What a vehicle adds to the running values of a formation with explicit metadata. -/
structure Added (kind : VehicleType) (raw : VehicleTypeRawFormationDynamics)
    (vehicle : PhysicalVehicle) (tally next : FormationTally) : Prop where
  lowers : ∀ restriction ∈ Registry.values vehicle.restrictions,
    Lowers vehicle.powered restriction
  explicit : next.explicitMetadata = some true
  mass : next.mass = tally.mass + kind.massKg
  brakeWeight : next.rawBrakeWeight = tally.rawBrakeWeight + raw.brakeWeightKg
  serviceCap : next.rawServiceBrakeCap = min tally.rawServiceBrakeCap raw.serviceBrakeCapMmps2
  multiplier : next.rawEmergencyBrakeMultiplier
    = min tally.rawEmergencyBrakeMultiplier raw.emergencyBrakeMultiplierBasisPoints
  speed : next.maximumSpeed = (Registry.values vehicle.restrictions).foldl
    (capped VehicleRestriction.speedLimit) (min tally.maximumSpeed kind.maximumSpeedMmps)
  service : next.restrictedServiceBrake
    = (Registry.values vehicle.restrictions).foldl (capped VehicleRestriction.serviceLimit)
      tally.restrictedServiceBrake
  emergency : next.restrictedEmergencyBrake
    = (Registry.values vehicle.restrictions).foldl (capped VehicleRestriction.emergencyLimit)
      tally.restrictedEmergencyBrake
  power : next.power = tally.power + if kind.hasDrive vehicle then kind.powerLeft vehicle else 0
  force : next.rawStartingTractiveForce = tally.rawStartingTractiveForce
    + if kind.hasDrive vehicle then kind.startingTractiveForceNewtons else 0
  cap : next.rawAccelerationCap
    = if kind.hasDrive vehicle then min tally.rawAccelerationCap raw.maximumAccelerationCapMmps2
      else tally.rawAccelerationCap
  usable : next.hasUsableDrive = (tally.hasUsableDrive || kind.hasDrive vehicle)

lemma addCheckedU64_eq_some {a b c : ℕ} :
    addCheckedU64 a b = some c ↔ a + b ≤ u64Max ∧ a + b = c := by
  rw [addCheckedU64]
  split
  next h => simp [h]
  next h => simp [h]

namespace FormationTally

variable {id : String} {kind : VehicleType} {vehicle : PhysicalVehicle}
  {tally next : FormationTally}

lemma addConfiguration_eq (h : tally.addConfiguration id vehicle kind = .ok next) :
    ∃ configuration, next = { tally with
      explicitMetadata := some kind.role.isSome, poweredConfiguration := configuration } := by
  rw [addConfiguration, bind_eq_ok_iff] at h
  obtain ⟨_, -, h⟩ := h
  simp only at h
  split at h
  · simp only [bind_eq_ok_iff] at h
    obtain ⟨traction, -, systems, -, h⟩ := h
    split at h
    next expected hexpected =>
      obtain ⟨_, -, h⟩ := bind_eq_ok_iff.mp h
      exact ⟨tally.poweredConfiguration, (Except.ok.inj h).symm⟩
    next => exact ⟨_, (Except.ok.inj h).symm⟩
  · exact ⟨tally.poweredConfiguration, (Except.ok.inj h).symm⟩

lemma addMeasures_eq (hkind : kind.role.isSome = true) (h : tally.addMeasures kind = .ok next) :
    ∃ raw, kind.rawFormationDynamics = some raw ∧ ∃ length, next = { tally with
      length
      mass := tally.mass + kind.massKg
      rawBrakeWeight := tally.rawBrakeWeight + raw.brakeWeightKg
      rawServiceBrakeCap := min tally.rawServiceBrakeCap raw.serviceBrakeCapMmps2
      rawEmergencyBrakeMultiplier :=
        min tally.rawEmergencyBrakeMultiplier raw.emergencyBrakeMultiplierBasisPoints
      maximumSpeed := min tally.maximumSpeed kind.maximumSpeedMmps
      serviceBrake := min tally.serviceBrake kind.serviceBrakeMmps2
      emergencyBrake := min tally.emergencyBrake kind.emergencyBrakeMmps2 } := by
  rw [addMeasures, if_pos hkind] at h
  simp only [bind_eq_ok_iff, orRefuse_eq_ok, orPanic_eq_ok, addCheckedU64_eq_some] at h
  obtain ⟨length, ⟨-, -⟩, mass, ⟨-, rfl⟩, raw, hraw, weight, ⟨-, rfl⟩, _, hsum, h⟩ := h
  cases hsum
  exact ⟨raw, hraw, length, (Except.ok.inj h).symm⟩

lemma addControlStands_eq (protection : KeySet String) (index count : ℕ) :
    ∃ front rear tip, tally.addControlStands vehicle kind protection index count = { tally with
      frontControlStandAvailable := front
      rearControlStandAvailable := rear
      frontTipProtection := tip } := by
  rw [addControlStands]
  cases kind.controlStands with
  | none => exact ⟨_, _, _, rfl⟩
  | some stands =>
    simp only
    split
    · split
      · exact ⟨_, _, _, rfl⟩
      · exact ⟨_, _, _, rfl⟩
    · split
      · exact ⟨_, _, _, rfl⟩
      · exact ⟨_, _, _, rfl⟩

lemma addDrive_eq (hkind : kind.role.isSome = true) {power : ℕ} {protection : KeySet String}
    (h : tally.addDrive kind power protection = .ok next) :
    ∃ raw, kind.rawFormationDynamics = some raw ∧ ∃ legacy, next = { tally with
      hasUsableDrive := true
      power := tally.power + power
      rawStartingTractiveForce :=
        tally.rawStartingTractiveForce + kind.startingTractiveForceNewtons
      rawAccelerationCap := min tally.rawAccelerationCap raw.maximumAccelerationCapMmps2
      legacyPoweredProtection := legacy } := by
  rw [addDrive] at h
  simp only [hkind, if_true, bind_eq_ok_iff, orRefuse_eq_ok, orPanic_eq_ok,
    addCheckedU64_eq_some] at h
  obtain ⟨_, ⟨-, rfl⟩, _, ⟨-, rfl⟩, raw, hraw, _, hsum, h⟩ := h
  cases hsum
  exact ⟨raw, hraw, _, (Except.ok.inj h).symm⟩

end FormationTally

namespace FormationTally

lemma added_of_addVehicle {vehicles : Registry String PhysicalVehicle}
    {vehicleTypes : Registry String VehicleType} {id : String} {count : ℕ}
    {tally next : FormationTally} {entry : String × ℕ}
    (h : addVehicle vehicles vehicleTypes id count tally entry = .ok next) :
    ∃ vehicle kind, vehicles[entry.1]? = some vehicle
      ∧ vehicleTypes[vehicle.typeId]? = some kind
      ∧ (kind.role.isSome = true → ∃ raw, kind.rawFormationDynamics = some raw
        ∧ Added kind raw vehicle tally next) := by
  simp only [addVehicle, bind_eq_ok_iff, orRefuse_eq_ok] at h
  obtain ⟨_, -, vehicle, hvehicle, kind, hkind, configured, hconfigured, measured, hmeasured,
    ⟨bounded, left⟩, hrestrictions, h⟩ := h
  refine ⟨vehicle, kind, hvehicle, hkind, fun hexplicit => ?_⟩
  obtain ⟨configuration, rfl⟩ := addConfiguration_eq hconfigured
  obtain ⟨raw, hraw, length, rfl⟩ := addMeasures_eq hexplicit hmeasured
  rw [hexplicit] at hrestrictions
  obtain ⟨hlowers, rfl, hpower, himmobilized⟩ := addRestrictions_eq hrestrictions
  simp only [Bool.false_or] at hpower himmobilized
  have hdrive : (vehicle.powered && !left.immobilized && decide (0 < left.power))
      = kind.hasDrive vehicle := by
    rw [VehicleType.hasDrive, VehicleType.powerLeft, hpower, himmobilized]
  refine ⟨raw, hraw, ?_⟩
  simp only at h
  rw [hdrive] at h
  obtain ⟨front, rear, tip, hstands⟩ :=
    @addControlStands_eq kind vehicle (capAll _ _) _ entry.2 count
  rw [hstands] at h
  cases hused : kind.hasDrive vehicle with
  | false =>
    rw [hused] at h
    obtain rfl := Except.ok.inj h
    exact
      { lowers := hlowers, explicit := rfl
        mass := rfl, brakeWeight := rfl, serviceCap := rfl, multiplier := rfl
        speed := rfl, service := rfl, emergency := rfl
        power := by simp [hused, capAll]
        force := by simp [hused, capAll]
        cap := by simp [hused, capAll]
        usable := by simp [hused, capAll] }
  | true =>
    rw [hused] at h
    obtain ⟨raw', hraw', legacy, rfl⟩ := addDrive_eq hexplicit h
    obtain rfl : raw = raw' := Option.some.inj (hraw.symm.trans hraw')
    exact
      { lowers := hlowers, explicit := rfl
        mass := rfl, brakeWeight := rfl, serviceCap := rfl, multiplier := rfl
        speed := rfl, service := rfl, emergency := rfl
        power := by simp [hused, capAll, hpower, VehicleType.powerLeft]
        force := by simp [hused, capAll]
        cap := by simp [hused, capAll]
        usable := by simp [hused] }

end FormationTally

/-! ### One restriction more -/

/-- The running values of a formation with one restriction more. -/
structure Weakened (cap : Option ℕ) (restricted tally : FormationTally) : Prop where
  explicit : restricted.explicitMetadata = tally.explicitMetadata
  mass : restricted.mass = tally.mass
  brakeWeight : restricted.rawBrakeWeight = tally.rawBrakeWeight
  serviceCap : restricted.rawServiceBrakeCap = tally.rawServiceBrakeCap
  multiplier : restricted.rawEmergencyBrakeMultiplier = tally.rawEmergencyBrakeMultiplier
  speed : restricted.maximumSpeed ≤ tally.maximumSpeed
  service : restricted.restrictedServiceBrake ≤ tally.restrictedServiceBrake
  emergency : restricted.restrictedEmergencyBrake ≤ tally.restrictedEmergencyBrake
  power : restricted.power ≤ tally.power
  force : restricted.rawStartingTractiveForce ≤ tally.rawStartingTractiveForce
  /-- A drive with the given cap may have gone out of use. -/
  drive : restricted.rawAccelerationCap = tally.rawAccelerationCap
      ∧ restricted.hasUsableDrive = tally.hasUsableDrive
    ∨ (∃ lost ∈ cap, tally.rawAccelerationCap = min restricted.rawAccelerationCap lost)
      ∧ tally.hasUsableDrive = true

/-- The vehicle can do no more than the other one, and a drive of the given cap may be lost. -/
structure CanLess (kind : VehicleType) (raw : VehicleTypeRawFormationDynamics) (cap : Option ℕ)
    (restricted vehicle : PhysicalVehicle) : Prop where
  bounds : ∀ (limit : VehicleRestriction → Option ℕ) {value' value : ℕ}, value' ≤ value →
    (Registry.values restricted.restrictions).foldl (capped limit) value'
      ≤ (Registry.values vehicle.restrictions).foldl (capped limit) value
  power : kind.powerLeft restricted ≤ kind.powerLeft vehicle
  drive : kind.hasDrive restricted = kind.hasDrive vehicle
    ∨ kind.hasDrive restricted = false ∧ kind.hasDrive vehicle = true
      ∧ raw.maximumAccelerationCapMmps2 ∈ cap

/-- Vehicles that can do less keep the running values below the others. -/
lemma Weakened.add {kind : VehicleType} {raw : VehicleTypeRawFormationDynamics}
    {cap : Option ℕ} {vehicle' vehicle : PhysicalVehicle}
    {restricted tally next' next : FormationTally}
    (h : Weakened cap restricted tally) (hless : CanLess kind raw cap vehicle' vehicle)
    (hadded' : Added kind raw vehicle' restricted next')
    (hadded : Added kind raw vehicle tally next) : Weakened cap next' next := by
  constructor
  case explicit => rw [hadded'.explicit, hadded.explicit]
  case mass => rw [hadded'.mass, hadded.mass, h.mass]
  case brakeWeight => rw [hadded'.brakeWeight, hadded.brakeWeight, h.brakeWeight]
  case serviceCap => rw [hadded'.serviceCap, hadded.serviceCap, h.serviceCap]
  case multiplier => rw [hadded'.multiplier, hadded.multiplier, h.multiplier]
  case speed =>
    rw [hadded'.speed, hadded.speed]
    exact hless.bounds _ (min_le_min_right _ h.speed)
  case service =>
    rw [hadded'.service, hadded.service]
    exact hless.bounds _ h.service
  case emergency =>
    rw [hadded'.emergency, hadded.emergency]
    exact hless.bounds _ h.emergency
  case power =>
    rw [hadded'.power, hadded.power]
    have hpower := hless.power
    have hbefore := h.power
    rcases hless.drive with hsame | ⟨hlost, -, -⟩
    · rw [hsame]
      split
      · omega
      · omega
    · rw [hlost]
      simp only [Bool.false_eq_true, if_false]
      omega
  case force =>
    rw [hadded'.force, hadded.force]
    have hbefore := h.force
    rcases hless.drive with hsame | ⟨hlost, -, -⟩
    · rw [hsame]
      omega
    · rw [hlost]
      simp only [Bool.false_eq_true, if_false]
      omega
  case drive =>
    rw [hadded'.cap, hadded.cap, hadded'.usable, hadded.usable]
    rcases hless.drive with hsame | ⟨hlost, hused, hmem⟩
    · rw [hsame]
      rcases h.drive with ⟨hcap, husable⟩ | ⟨⟨lost, hlost, hcap⟩, husable⟩
      · rw [hcap, husable]
        exact .inl ⟨rfl, rfl⟩
      · refine .inr ⟨⟨lost, hlost, ?_⟩, by rw [husable, Bool.true_or]⟩
        rw [hcap]
        split
        · omega
        · rfl
    · rw [hlost, hused]
      refine .inr ⟨⟨_, hmem, ?_⟩, Bool.or_true _⟩
      rcases h.drive with ⟨hcap, -⟩ | ⟨⟨lost, hlost, hcap⟩, -⟩
      · simp [hcap]
      · obtain rfl := Option.mem_unique hmem hlost
        simp [hcap]

/-- The vehicle with one restriction more. -/
def PhysicalVehicle.restrict (vehicle : PhysicalVehicle) (key : String)
    (restriction : VehicleRestriction) : PhysicalVehicle :=
  { vehicle with restrictions := vehicle.restrictions.insert key restriction }

section Run

variable {vehicles : Registry String PhysicalVehicle} {vehicleTypes : Registry String VehicleType}
  {vehicleId key : String} {vehicle : PhysicalVehicle} {restriction : VehicleRestriction}

variable (vehicleTypes vehicle key restriction) in
/-- The cap of the drive that the vehicle loses by the restriction. -/
def lostCap : Option ℕ := do
  let kind ← vehicleTypes[vehicle.typeId]?
  let raw ← kind.rawFormationDynamics
  if kind.hasDrive vehicle && !kind.hasDrive (vehicle.restrict key restriction) then
    some raw.maximumAccelerationCapMmps2
  else none

lemma CanLess.refl (kind : VehicleType) (raw : VehicleTypeRawFormationDynamics) (cap : Option ℕ)
    (vehicle : PhysicalVehicle) : CanLess kind raw cap vehicle vehicle :=
  ⟨fun limit _ _ h => foldl_mono (capped_mono limit) _ h, le_refl _, .inl rfl⟩

/-- A vehicle with one restriction more can do no more than without it. -/
lemma canLess_restrict {kind : VehicleType} {raw : VehicleTypeRawFormationDynamics}
    (hkey : vehicle.restrictions[key]? = none) (hlowers : Lowers vehicle.powered restriction)
    (hkind : vehicleTypes[vehicle.typeId]? = some kind)
    (hraw : kind.rawFormationDynamics = some raw) :
    CanLess kind raw (lostCap vehicleTypes key vehicle restriction)
      (vehicle.restrict key restriction) vehicle := by
  obtain ⟨first, second, hvalues, hinsert⟩ := Registry.exists_values_insert hkey restriction
  have hpower : kind.powerLeft (vehicle.restrict key restriction) ≤ kind.powerLeft vehicle := by
    rw [VehicleType.powerLeft, VehicleType.powerLeft, PhysicalVehicle.restrict, hinsert, hvalues]
    exact foldl_insert_le (scaled_mono _) (scaled_le hlowers) first second (le_refl _)
  refine ⟨fun limit _ _ h => ?_, hpower, ?_⟩
  · rw [PhysicalVehicle.restrict, hinsert, hvalues]
    exact foldl_insert_le (capped_mono limit) (capped_le limit restriction) first second h
  · have hdrive : kind.hasDrive (vehicle.restrict key restriction) = true →
        kind.hasDrive vehicle = true := by
      intro h
      simp only [VehicleType.hasDrive, Bool.and_eq_true, Bool.not_eq_true', decide_eq_true_eq]
        at h ⊢
      obtain ⟨⟨hpowered, hmoves⟩, hleft⟩ := h
      refine ⟨⟨hpowered, ?_⟩, by omega⟩
      rw [← Bool.not_eq_true, List.contains_iff_mem] at hmoves ⊢
      intro hmem
      refine hmoves ?_
      rw [PhysicalVehicle.restrict, hinsert]
      rw [hvalues] at hmem
      exact (List.sublist_cons_self restriction second).append_left first |>.subset hmem
    cases hwith : kind.hasDrive (vehicle.restrict key restriction) with
    | true => exact .inl (hdrive hwith).symm
    | false =>
      cases hwithout : kind.hasDrive vehicle with
      | false => exact .inl rfl
      | true =>
        refine .inr ⟨rfl, rfl, ?_⟩
        simp [lostCap, hkind, hraw, hwith, hwithout]

variable (vehicles vehicleTypes) in
/-- The vehicle is of a type with explicit metadata. -/
def Explicit (vehicleId : String) : Prop :=
  ∀ vehicle, vehicles[vehicleId]? = some vehicle → ∀ kind,
    vehicleTypes[vehicle.typeId]? = some kind → kind.role.isSome = true

variable (vehicles vehicleTypes) in
/-- The vehicle has a drive in use, with the given cap on the acceleration. -/
def Drives (vehicleId : String) (cap : ℕ) : Prop :=
  ∃ vehicle kind raw, vehicles[vehicleId]? = some vehicle
    ∧ vehicleTypes[vehicle.typeId]? = some kind ∧ kind.rawFormationDynamics = some raw
    ∧ kind.hasDrive vehicle = true ∧ raw.maximumAccelerationCapMmps2 = cap

variable {id id' : String} {count count' : ℕ} {entries : List (String × ℕ)}
  {tally final restricted final' : FormationTally}

/-- One vehicle keeps the running values below those without the restriction. -/
lemma weakened_of_addVehicle {entry : String × ℕ} (hvehicle : vehicles[vehicleId]? = some vehicle)
    (hkey : vehicle.restrictions[key]? = none) (hexplicit : Explicit vehicles vehicleTypes entry.1)
    (h : FormationTally.addVehicle vehicles vehicleTypes id count tally entry = .ok final)
    (h' : FormationTally.addVehicle
      (vehicles.insert vehicleId (vehicle.restrict key restriction)) vehicleTypes id' count'
      restricted entry = .ok final')
    (hweakened : Weakened (lostCap vehicleTypes key vehicle restriction) restricted tally) :
    Weakened (lostCap vehicleTypes key vehicle restriction) final' final := by
  obtain ⟨found, kind, hfound, hkind, hadded⟩ := FormationTally.added_of_addVehicle h
  obtain ⟨found', kind', hfound', hkind', hadded'⟩ := FormationTally.added_of_addVehicle h'
  have hrole : kind.role.isSome = true := hexplicit found hfound kind hkind
  obtain ⟨raw, hraw, hadded⟩ := hadded hrole
  rw [Registry.getElem?_insert] at hfound'
  by_cases hentry : entry.1 = vehicleId
  · rw [if_pos hentry] at hfound'
    obtain rfl := Option.some.inj hfound'
    obtain rfl : vehicle = found := by
      rw [hentry, hvehicle] at hfound
      exact Option.some.inj hfound
    obtain rfl : kind = kind' := Option.some.inj (hkind.symm.trans hkind')
    obtain ⟨raw', hraw', hadded'⟩ := hadded' hrole
    obtain rfl : raw = raw' := Option.some.inj (hraw.symm.trans hraw')
    have hlowers : Lowers vehicle.powered restriction := by
      refine hadded'.lowers restriction (Registry.mem_values.mpr ⟨key, ?_⟩)
      simp [PhysicalVehicle.restrict]
    exact hweakened.add (canLess_restrict hkey hlowers hkind hraw) hadded' hadded
  · rw [if_neg hentry, hfound] at hfound'
    obtain rfl := Option.some.inj hfound'
    obtain rfl : kind = kind' := Option.some.inj (hkind.symm.trans hkind')
    obtain ⟨raw', hraw', hadded'⟩ := hadded' hrole
    obtain rfl : raw = raw' := Option.some.inj (hraw.symm.trans hraw')
    exact hweakened.add (CanLess.refl kind raw _ found) hadded' hadded

/-- All vehicles of a formation keep the running values below those without the restriction. -/
lemma weakened_of_foldlM (hvehicle : vehicles[vehicleId]? = some vehicle)
    (hkey : vehicle.restrictions[key]? = none)
    (hexplicit : ∀ entry ∈ entries, Explicit vehicles vehicleTypes entry.1)
    (h : entries.foldlM (FormationTally.addVehicle vehicles vehicleTypes id count) tally
      = .ok final)
    (h' : entries.foldlM (FormationTally.addVehicle
      (vehicles.insert vehicleId (vehicle.restrict key restriction)) vehicleTypes id' count')
      restricted = .ok final')
    (hweakened : Weakened (lostCap vehicleTypes key vehicle restriction) restricted tally) :
    Weakened (lostCap vehicleTypes key vehicle restriction) final' final := by
  induction entries generalizing tally restricted with
  | nil =>
    cases h
    cases h'
    exact hweakened
  | cons entry entries ih =>
    obtain ⟨next, hfirst, hrest⟩ := foldlM_cons_eq_ok_iff.mp h
    obtain ⟨next', hfirst', hrest'⟩ := foldlM_cons_eq_ok_iff.mp h'
    obtain ⟨hentry, hentries⟩ := List.forall_mem_cons.mp hexplicit
    exact ih hentries hrest hrest'
      (weakened_of_addVehicle hvehicle hkey hentry hfirst hfirst' hweakened)

/-- The running cap is below the caps of all drives in use. -/
lemma cap_le_of_foldlM (hexplicit : ∀ entry ∈ entries, Explicit vehicles vehicleTypes entry.1)
    (h : entries.foldlM (FormationTally.addVehicle vehicles vehicleTypes id count) tally
      = .ok final) :
    final.rawAccelerationCap ≤ tally.rawAccelerationCap ∧
      ∀ entry ∈ entries, ∀ cap, Drives vehicles vehicleTypes entry.1 cap →
        final.rawAccelerationCap ≤ cap := by
  induction entries generalizing tally with
  | nil =>
    cases h
    exact ⟨le_refl _, fun _ hmem => nomatch hmem⟩
  | cons entry entries ih =>
    obtain ⟨next, hfirst, hrest⟩ := foldlM_cons_eq_ok_iff.mp h
    obtain ⟨hentry, hentries⟩ := List.forall_mem_cons.mp hexplicit
    obtain ⟨hbelow, hcaps⟩ := ih hentries hrest
    obtain ⟨found, kind, hfound, hkind, hadded⟩ := FormationTally.added_of_addVehicle hfirst
    obtain ⟨raw, hraw, hadded⟩ := hadded (hentry found hfound kind hkind)
    have hnext : next.rawAccelerationCap ≤ tally.rawAccelerationCap := by
      rw [hadded.cap]
      split
      · exact min_le_left _ _
      · exact le_refl _
    refine ⟨hbelow.trans hnext, List.forall_mem_cons.mpr ⟨?_, hcaps⟩⟩
    rintro cap ⟨other, kind', raw', hother, hkind', hraw', hdrive, rfl⟩
    obtain rfl : found = other := Option.some.inj (hfound.symm.trans hother)
    obtain rfl : kind = kind' := Option.some.inj (hkind.symm.trans hkind')
    obtain rfl : raw = raw' := Option.some.inj (hraw.symm.trans hraw')
    refine hbelow.trans ?_
    rw [hadded.cap, if_pos hdrive]
    exact min_le_right _ _

end Run

/-! ### What the running values give -/

lemma orOverflow_eq_ok {α : Type} {o : Option α} {a : α} : orOverflow o = .ok a ↔ o = some a := by
  cases o with
  | none => simp [orOverflow]
  | some b => simp [orOverflow]

lemma mulCheckedU64_eq_some {a b c : ℕ} :
    mulCheckedU64 a b = some c ↔ a * b ≤ u64Max ∧ a * b = c := by
  rw [mulCheckedU64]
  split
  next h => simp [h]
  next h => simp [h]

lemma checkedU32_eq_some {a b : ℕ} : checkedU32 a = some b ↔ a ≤ u32Max ∧ a = b := by
  rw [checkedU32]
  split
  next h => simp [h]
  next h => simp [h]

/-- The derived dynamics in closed form. -/
lemma dynamics_eq {input : FormationDynamicsDerivationInput} {derived : DerivedFormationDynamics}
    (h : deriveFormationDynamics input = .ok derived) :
    derived.accelerationMmps2 = (if 0 < input.effectiveStartingTractiveForceNewtons then
        min input.maximumAccelerationCapMmps2
          (input.effectiveStartingTractiveForceNewtons * 1000 / input.totalMassKg)
      else 0)
    ∧ derived.serviceBrakeMmps2
      = min input.serviceBrakeCapMmps2 (input.totalBrakeWeightKg * 9806 / input.totalMassKg)
    ∧ derived.emergencyBrakeMmps2 = derived.serviceBrakeMmps2
      * input.emergencyBrakeMultiplierBasisPoints / formationDynamicsBasisPoints := by
  rw [deriveFormationDynamics] at h
  split at h
  · cases h
  split at h
  next hpowered =>
    simp only [bind_eq_ok_iff, orOverflow_eq_ok, mulCheckedU64_eq_some, checkedU32_eq_some] at h
    obtain ⟨_, ⟨-, rfl⟩, _, ⟨-, rfl⟩, _, hacceleration, _, ⟨-, rfl⟩, _, ⟨-, rfl⟩, _, ⟨-, rfl⟩, _,
      ⟨-, rfl⟩, h⟩ := h
    cases hacceleration
    split at h
    · cases h
    obtain rfl := Except.ok.inj h
    exact ⟨(if_pos (of_decide_eq_true hpowered)).symm, rfl, rfl⟩
  next hpowered =>
    simp only [bind_eq_ok_iff, orOverflow_eq_ok, mulCheckedU64_eq_some, checkedU32_eq_some] at h
    obtain ⟨_, hacceleration, _, ⟨-, rfl⟩, _, ⟨-, rfl⟩, _, ⟨-, rfl⟩, _, ⟨-, rfl⟩, h⟩ := h
    cases hacceleration
    split at h
    · cases h
    obtain rfl := Except.ok.inj h
    exact ⟨(if_neg fun hforce => hpowered (decide_eq_true hforce)).symm, rfl, rfl⟩

/-- The performance of a complete tally with explicit metadata. -/
lemma performance_of_finish {tally : FormationTally} {id : String} {predecessorId : Option String}
    {vehicleIds : List String} {formation : FormationVersion}
    (hexplicit : tally.explicitMetadata = some true)
    (h : tally.finish id predecessorId vehicleIds = .ok formation) :
    formation.performance.maximumSpeedMmps = tally.maximumSpeed
    ∧ formation.performance.powerWatts = tally.power
    ∧ formation.performance.serviceBrakeMmps2
      = min (min tally.rawServiceBrakeCap (tally.rawBrakeWeight * 9806 / tally.mass))
        tally.restrictedServiceBrake
    ∧ formation.performance.emergencyBrakeMmps2
      = min (min tally.rawServiceBrakeCap (tally.rawBrakeWeight * 9806 / tally.mass)
          * tally.rawEmergencyBrakeMultiplier / formationDynamicsBasisPoints)
        tally.restrictedEmergencyBrake
    ∧ formation.performance.accelerationMmps2 = (if 0 < tally.rawStartingTractiveForce then
        min (if tally.hasUsableDrive then tally.rawAccelerationCap else 0)
          (tally.rawStartingTractiveForce * 1000 / tally.mass)
      else 0) := by
  simp only [FormationTally.finish, hexplicit, Option.getD_some, if_true, bind_eq_ok_iff] at h
  obtain ⟨_, -, dynamic, hdynamic, length, -, h⟩ := h
  obtain rfl := Except.ok.inj h
  rw [FormationTally.explicitDynamics] at hdynamic
  simp only at hdynamic
  split at hdynamic
  · cases hdynamic
  next derived hderived =>
    obtain ⟨_, -, hdynamic⟩ := bind_eq_ok_iff.mp hdynamic
    obtain rfl := Except.ok.inj hdynamic
    obtain ⟨hacceleration, hservice, hemergency⟩ := dynamics_eq hderived
    rw [hservice] at hemergency
    exact ⟨rfl, rfl, congrArg (min · _) hservice, congrArg (min · _) hemergency, hacceleration⟩

section Run

variable {vehicles : Registry String PhysicalVehicle} {vehicleTypes : Registry String VehicleType}
  {id : String} {count : ℕ}

/-- A formation of vehicles with explicit metadata is marked so. -/
lemma explicit_of_foldlM {entries : List (String × ℕ)} {tally final : FormationTally}
    (hexplicit : ∀ entry ∈ entries, Explicit vehicles vehicleTypes entry.1)
    (hsome : tally.explicitMetadata = some true ∨ entries ≠ [])
    (h : entries.foldlM (FormationTally.addVehicle vehicles vehicleTypes id count) tally
      = .ok final) : final.explicitMetadata = some true := by
  induction entries generalizing tally with
  | nil =>
    cases h
    exact hsome.resolve_right fun hne => hne rfl
  | cons entry entries ih =>
    obtain ⟨next, hfirst, hrest⟩ := foldlM_cons_eq_ok_iff.mp h
    obtain ⟨hentry, hentries⟩ := List.forall_mem_cons.mp hexplicit
    obtain ⟨found, kind, hfound, hkind, hadded⟩ := FormationTally.added_of_addVehicle hfirst
    obtain ⟨raw, -, hadded⟩ := hadded (hentry found hfound kind hkind)
    exact ih hentries (.inl hadded.explicit) hrest

lemma explicit_restrict {vehicleId key other : String} {vehicle : PhysicalVehicle}
    {restriction : VehicleRestriction} (hvehicle : vehicles[vehicleId]? = some vehicle)
    (h : Explicit vehicles vehicleTypes other) :
    Explicit (vehicles.insert vehicleId (vehicle.restrict key restriction)) vehicleTypes other := by
  intro found hfound kind hkind
  rw [Registry.getElem?_insert] at hfound
  split at hfound
  next heq =>
    obtain rfl := Option.some.inj hfound
    exact h vehicle (heq ▸ hvehicle) kind hkind
  next => exact h found hfound kind hkind

end Run

lemma acceleration_le {force' force cap' cap mass : ℕ} (hforce : force' ≤ force)
    (hcap : cap' ≤ cap) :
    (if 0 < force' then min cap' (force' * 1000 / mass) else 0)
      ≤ if 0 < force then min cap (force * 1000 / mass) else 0 := by
  split
  next hpos =>
    rw [if_pos (hpos.trans_le hforce)]
    exact min_le_min hcap (Nat.div_le_div_right (Nat.mul_le_mul_right 1000 hforce))
  next => exact Nat.zero_le _

/-- **A restriction never improves a train, but by taking a drive out of use.**  The speed, the
power and both brakes are no greater with a further restriction of one vehicle.  The acceleration
is no greater either, unless the restriction takes away a drive whose cap is below the caps of all
drives that stay in use. -/
theorem deriveFormation_restricted {vehicles : Registry String PhysicalVehicle}
    {vehicleTypes : Registry String VehicleType} {id id' : String}
    {predecessorId predecessorId' : Option String} {vehicleIds : List String}
    {vehicleId key : String} {vehicle : PhysicalVehicle} {restriction : VehicleRestriction}
    {formation restricted : FormationVersion} (hvehicle : vehicles[vehicleId]? = some vehicle)
    (hkey : vehicle.restrictions[key]? = none)
    (hexplicit : ∀ other ∈ vehicleIds, Explicit vehicles vehicleTypes other)
    (h : deriveFormation vehicles vehicleTypes id predecessorId vehicleIds = .ok formation)
    (h' : deriveFormation (vehicles.insert vehicleId (vehicle.restrict key restriction))
      vehicleTypes id' predecessorId' vehicleIds = .ok restricted) :
    restricted.performance.maximumSpeedMmps ≤ formation.performance.maximumSpeedMmps
    ∧ restricted.performance.powerWatts ≤ formation.performance.powerWatts
    ∧ restricted.performance.serviceBrakeMmps2 ≤ formation.performance.serviceBrakeMmps2
    ∧ restricted.performance.emergencyBrakeMmps2 ≤ formation.performance.emergencyBrakeMmps2
    ∧ (restricted.performance.accelerationMmps2 ≤ formation.performance.accelerationMmps2
      ∨ ∃ lost ∈ lostCap vehicleTypes key vehicle restriction, ∀ other ∈ vehicleIds, ∀ cap,
        Drives (vehicles.insert vehicleId (vehicle.restrict key restriction)) vehicleTypes
          other cap → lost < cap) := by
  simp only [deriveFormation, bind_eq_ok_iff, refuseIf_eq_ok, exists_const] at h h'
  obtain ⟨hnonempty, final, hfinal, hfinish⟩ := h
  obtain ⟨-, final', hfinal', hfinish'⟩ := h'
  have hmem (entry : String × ℕ) (hentry : entry ∈ vehicleIds.zipIdx) : entry.1 ∈ vehicleIds :=
    List.mem_of_getElem? (List.mem_zipIdx_iff_getElem?.mp hentry)
  have hentries := fun entry hentry => hexplicit entry.1 (hmem entry hentry)
  have hmarked : final.explicitMetadata = some true := by
    refine explicit_of_foldlM hentries (.inr fun hnil => ?_) hfinal
    rw [List.zipIdx_eq_nil_iff] at hnil
    simp [hnil] at hnonempty
  have hweakened := weakened_of_foldlM hvehicle hkey hentries hfinal hfinal'
    ⟨rfl, rfl, rfl, rfl, rfl, le_refl _, le_refl _, le_refl _, le_refl _, le_refl _,
      .inl ⟨rfl, rfl⟩⟩
  obtain ⟨hspeed, hpower, hservice, hemergency, hacceleration⟩ :=
    performance_of_finish hmarked hfinish
  obtain ⟨hspeed', hpower', hservice', hemergency', hacceleration'⟩ :=
    performance_of_finish (hweakened.explicit.trans hmarked) hfinish'
  rw [hspeed, hspeed', hpower, hpower', hservice, hservice', hemergency, hemergency',
    hweakened.serviceCap, hweakened.brakeWeight, hweakened.mass, hweakened.multiplier]
  refine ⟨hweakened.speed, hweakened.power, min_le_min_left _ hweakened.service,
    min_le_min_left _ hweakened.emergency, ?_⟩
  rw [hacceleration, hacceleration', hweakened.mass]
  rcases hweakened.drive with ⟨hcap, husable⟩ | ⟨⟨lost, hlost, hcap⟩, husable⟩
  · rw [hcap, husable]
    exact .inl (acceleration_le hweakened.force (le_refl _))
  · rw [husable, if_pos rfl, hcap]
    rcases le_or_gt final'.rawAccelerationCap lost with hle | hlt
    · -- a drive that is still in use has as low a cap
      rw [min_eq_left hle]
      refine .inl (acceleration_le hweakened.force ?_)
      split
      · exact le_refl _
      · exact Nat.zero_le _
    · refine .inr ⟨lost, hlost, fun other hother cap hdrives => ?_⟩
      obtain ⟨index, hindex⟩ := List.getElem?_of_mem hother
      have hentry : (other, index) ∈ vehicleIds.zipIdx := List.mem_zipIdx_iff_getElem?.mpr hindex
      refine hlt.trans_le
        ((cap_le_of_foldlM (fun entry hmem' => ?_) hfinal').2 _ hentry cap hdrives)
      exact explicit_restrict hvehicle (hentries entry hmem')

namespace TwoEngines

/-- An engine type with the given cap on its acceleration. -/
def kind (id : String) (cap : ℕ) : VehicleType :=
  { id, role := some .locomotive, controlStands := some ⟨true, true⟩, traction := some .diesel
    electricSystems := some [], lengthMm := 20000, massKg := 50000, maximumSpeedMmps := 40000
    powerWatts := 2000000, startingTractiveForceNewtons := 100000
    rawFormationDynamics := some ⟨50000, cap, 1000, 12000⟩
    maximumAccelerationMmps2 := cap, serviceBrakeMmps2 := 1000, emergencyBrakeMmps2 := 1200
    protectionSystems := ∅ }

/-- An engine of a type with its own name. -/
def engine (id : String) : PhysicalVehicle :=
  { id, typeId := id, powered := true, orientation := .along, restrictions := ∅, history := [] }

/-- The types of a slow and a fast engine. -/
def types : Registry String VehicleType :=
  .ofList [("slow", kind "slow" 300), ("fast", kind "fast" 1000)]

def engines : Registry String PhysicalVehicle :=
  .ofList [("slow", engine "slow"), ("fast", engine "fast")]

/-- The two engines with one of them immobilized. -/
def withImmobile (id : String) : Registry String PhysicalVehicle :=
  engines.insert id ((engine id).restrict "fault" .immobilized)

end TwoEngines

open TwoEngines in
/-- Without the slow engine the cap of the fast one is left, and the train accelerates faster. -/
theorem deriveFormation_immobile_faster :
    (kind "slow" 300).validate true = .ok () ∧ (kind "fast" 1000).validate true = .ok () ∧
    ∃ formation restricted : FormationVersion,
      deriveFormation engines types "train" none ["slow", "fast"] = .ok formation
      ∧ deriveFormation (withImmobile "slow") types "train:fault" (some "train")
        ["slow", "fast"] = .ok restricted
      ∧ formation.performance.accelerationMmps2 = 300
      ∧ restricted.performance.accelerationMmps2 = 1000 := by
  have hformation : (deriveFormation engines types "train" none ["slow", "fast"]).toOption.any
      (fun formation => formation.performance.accelerationMmps2 == 300) = true := by
    decide +kernel
  have hrestricted : (deriveFormation (withImmobile "slow") types "train:fault" (some "train")
      ["slow", "fast"]).toOption.any
      (fun formation => formation.performance.accelerationMmps2 == 1000) = true := by
    decide +kernel
  obtain ⟨formation, h, hacceleration⟩ := ok_of_any hformation
  obtain ⟨restricted, h', hacceleration'⟩ := ok_of_any hrestricted
  exact ⟨by decide +kernel, by decide +kernel, formation, restricted, h, h',
    beq_iff_eq.mp hacceleration, beq_iff_eq.mp hacceleration'⟩

open TwoEngines in
/-- Without the fast engine the train is no better. -/
theorem deriveFormation_restricted_engines :
    ∃ formation restricted : FormationVersion,
      deriveFormation engines types "train" none ["slow", "fast"] = .ok formation
      ∧ deriveFormation (withImmobile "fast") types "train:fault" (some "train")
        ["slow", "fast"] = .ok restricted
      ∧ restricted.performance.powerWatts ≤ formation.performance.powerWatts := by
  have hformation : (deriveFormation engines types "train" none ["slow", "fast"]).toOption.any
      (fun _ => true) = true := by decide +kernel
  have hrestricted : (deriveFormation (withImmobile "fast") types "train:fault" (some "train")
      ["slow", "fast"]).toOption.any (fun _ => true) = true := by decide +kernel
  obtain ⟨formation, h, -⟩ := ok_of_any hformation
  obtain ⟨restricted, h', -⟩ := ok_of_any hrestricted
  have hroles : Registry.allValues types (fun kind => kind.role.isSome) = true := by
    decide +kernel
  have hexplicit : ∀ other ∈ ["slow", "fast"], Explicit engines types other :=
    fun _ _ _ _ kind hkind => Registry.allValues_iff.mp hroles _ kind hkind
  exact ⟨formation, restricted, h, h', (deriveFormation_restricted (by decide +kernel)
    (by decide +kernel) hexplicit h h').2.1⟩

end Zugfolge
