/-
Formations and the derivation of their performance.

A formation version stores the performance derived from its vehicles, front to rear.
`deriveFormation` folds over the vehicles; the tally it carries holds one field for
each running value of the derivation.
-/
import Zugfolge.Fleet.VehicleType

namespace Zugfolge

open Foundation

/-- The values derived from all vehicles of a formation. -/
structure FormationPerformance where
  lengthMm : ℕ
  massKg : ℕ
  maximumSpeedMmps : ℕ
  powerWatts : ℕ
  accelerationMmps2 : ℕ
  serviceBrakeMmps2 : ℕ
  emergencyBrakeMmps2 : ℕ
  frontControlStandAvailable : Bool
  rearControlStandAvailable : Bool
  protectionSystems : KeySet String
  mobile : Bool
  deriving DecidableEq

/-- An unchangeable version of a formation, vehicles from the front to the rear. -/
structure FormationVersion where
  id : String
  predecessorId : Option String
  vehicleIds : List String
  performance : FormationPerformance
  deriving DecidableEq

/-- The running values of the derivation. -/
structure FormationTally where
  length : ℕ := 0
  mass : ℕ := 0
  maximumSpeed : ℕ := u32Max
  power : ℕ := 0
  acceleration : ℕ := 0
  serviceBrake : ℕ := u32Max
  emergencyBrake : ℕ := u32Max
  rawStartingTractiveForce : ℕ := 0
  rawBrakeWeight : ℕ := 0
  rawAccelerationCap : ℕ := u32Max
  rawServiceBrakeCap : ℕ := u32Max
  rawEmergencyBrakeMultiplier : ℕ := u16Max
  restrictedServiceBrake : ℕ := u32Max
  restrictedEmergencyBrake : ℕ := u32Max
  legacyPoweredProtection : Option (KeySet String) := none
  frontTipProtection : KeySet String := ∅
  frontControlStandAvailable : Bool := false
  rearControlStandAvailable : Bool := false
  explicitMetadata : Option Bool := none
  poweredConfiguration :
    Option (OperationalVehicleTraction × List OperationalPowerSystem) := none
  hasUsableDrive : Bool := false
  seen : List String := []

/-- What the restrictions of one vehicle leave of it. -/
structure VehicleTally where
  power : ℕ
  protection : KeySet String
  immobilized : Bool := false

/-- The power left of a vehicle by a restriction, on the grid of whole kilowatts. -/
def restrictedPower (id : String) (explicit : Bool) (power basisPoints : ℕ) : Checked ℕ :=
  if explicit then
    if basisPoints = 0 ∨ formationDynamicsBasisPoints < basisPoints then
      refuse (.invalidFormation id)
    else do
      let scaled ← orRefuse (mulCheckedU64 (power / 1000) basisPoints) .arithmeticOverflow
      pure (scaled / formationDynamicsBasisPoints * 1000)
  else pure (mulSatU64 (mulSatU64 (power / 1000) basisPoints / 10000) 1000)

namespace FormationTally

/-- Applies one restriction of a vehicle. -/
def addRestriction (id : String) (explicit powered : Bool)
    (state : FormationTally × VehicleTally) (restriction : VehicleRestriction) :
    Checked (FormationTally × VehicleTally) :=
  let (tally, vehicle) := state
  match restriction with
  | .powerBasisPoints basisPoints =>
    if powered then do
      let power ← restrictedPower id explicit vehicle.power basisPoints
      pure (tally, { vehicle with power })
    else pure (tally, vehicle)
  | .maximumSpeed speed =>
    pure ({ tally with maximumSpeed := min tally.maximumSpeed speed }, vehicle)
  | .serviceBrake brake =>
    pure ({ tally with
      serviceBrake := min tally.serviceBrake brake
      restrictedServiceBrake := min tally.restrictedServiceBrake brake }, vehicle)
  | .emergencyBrake brake =>
    pure ({ tally with
      emergencyBrake := min tally.emergencyBrake brake
      restrictedEmergencyBrake := min tally.restrictedEmergencyBrake brake }, vehicle)
  | .protectionUnavailable system =>
    pure (tally, { vehicle with protection := vehicle.protection.erase system })
  | .doorAvailabilityBasisPoints _ => pure (tally, vehicle)
  | .immobilized => pure (tally, { vehicle with immobilized := true })

/-- The kinds of metadata and of drives are not mixed in one formation. -/
def addConfiguration (id : String) (tally : FormationTally) (vehicle : PhysicalVehicle)
    (kind : VehicleType) : Checked FormationTally := do
  let explicit := kind.role.isSome
  refuseIf (tally.explicitMetadata.any fun expected => expected != explicit)
    (.invalidFormation id)
  let tally := { tally with explicitMetadata := some explicit }
  if explicit && vehicle.powered then
    let traction ← orPanic kind.traction
    let systems ← orPanic kind.electricSystems
    match tally.poweredConfiguration with
    | some (expectedTraction, expectedSystems) => do
      refuseIf (decide (traction ≠ expectedTraction) || decide (systems ≠ expectedSystems))
        (.invalidFormation id)
      pure tally
    | none => pure { tally with poweredConfiguration := some (traction, systems) }
  else pure tally

variable (tally : FormationTally)

/-- Adds length, mass and raw values of a vehicle. -/
def addMeasures (kind : VehicleType) : Checked FormationTally := do
  let tally ←
    if kind.role.isSome then do
      let length ← orRefuse (addCheckedU64 tally.length kind.lengthMm) .arithmeticOverflow
      let mass ← orRefuse (addCheckedU64 tally.mass kind.massKg) .arithmeticOverflow
      let raw ← orPanic kind.rawFormationDynamics
      let rawBrakeWeight ←
        orRefuse (addCheckedU64 tally.rawBrakeWeight raw.brakeWeightKg) .arithmeticOverflow
      pure { tally with
        length, mass, rawBrakeWeight
        rawServiceBrakeCap := min tally.rawServiceBrakeCap raw.serviceBrakeCapMmps2
        rawEmergencyBrakeMultiplier :=
          min tally.rawEmergencyBrakeMultiplier raw.emergencyBrakeMultiplierBasisPoints }
    else pure { tally with
      length := addSatU64 tally.length kind.lengthMm
      mass := addSatU64 tally.mass kind.massKg }
  pure { tally with
    maximumSpeed := min tally.maximumSpeed kind.maximumSpeedMmps
    serviceBrake := min tally.serviceBrake kind.serviceBrakeMmps2
    emergencyBrake := min tally.emergencyBrake kind.emergencyBrakeMmps2 }

/-- Records the control stands at the two ends of the formation. -/
def addControlStands (vehicle : PhysicalVehicle) (kind : VehicleType)
    (protection : KeySet String) (index count : ℕ) : FormationTally :=
  match kind.controlStands with
  | none => tally
  | some stands =>
    let tally := if index = 0 then
      { tally with
        frontControlStandAvailable := stands.atFormationFront vehicle.orientation
        frontTipProtection := protection }
      else tally
    if index + 1 = count then
      { tally with rearControlStandAvailable := stands.atFormationRear vehicle.orientation }
    else tally

/-- Adds the drive of a powered vehicle that can still use it. -/
def addDrive (kind : VehicleType) (power : ℕ)
    (protection : KeySet String) : Checked FormationTally := do
  let tally := { tally with hasUsableDrive := true }
  let tally ←
    if kind.role.isSome then do
      let power ← orRefuse (addCheckedU64 tally.power power) .arithmeticOverflow
      let force ← orRefuse
        (addCheckedU64 tally.rawStartingTractiveForce kind.startingTractiveForceNewtons)
        .arithmeticOverflow
      let raw ← orPanic kind.rawFormationDynamics
      pure { tally with
        power
        rawStartingTractiveForce := force
        rawAccelerationCap := min tally.rawAccelerationCap raw.maximumAccelerationCapMmps2 }
    else pure { tally with
      power := addSatU64 tally.power power
      acceleration := addSatU32 tally.acceleration kind.maximumAccelerationMmps2 }
  pure { tally with
    legacyPoweredProtection := some (match tally.legacyPoweredProtection with
      | none => protection
      | some existing => existing ∩ protection) }

/-- Adds the vehicle at the given place of a formation of `count` vehicles. -/
def addVehicle (vehicles : Registry String PhysicalVehicle)
    (vehicleTypes : Registry String VehicleType) (id : String) (count : ℕ)
    (tally : FormationTally) (entry : String × ℕ) : Checked FormationTally := do
  let (vehicleId, index) := entry
  refuseIf (tally.seen.contains vehicleId) (.invalidFormation id)
  let tally := { tally with seen := vehicleId :: tally.seen }
  let vehicle ← orRefuse vehicles[vehicleId]? (.unknownVehicle vehicleId)
  let kind ← orRefuse vehicleTypes[vehicle.typeId]? (.unknownVehicleType vehicle.typeId)
  let tally ← tally.addConfiguration id vehicle kind
  let tally ← tally.addMeasures kind
  let (tally, left) ← (Registry.values vehicle.restrictions).foldlM
    (addRestriction id kind.role.isSome vehicle.powered)
    (tally, { power := kind.powerWatts, protection := kind.protectionSystems })
  let protection := if vehicle.powered && (left.immobilized || left.power == 0) then ∅
    else left.protection
  let tally := tally.addControlStands vehicle kind protection index count
  if vehicle.powered && !left.immobilized && decide (0 < left.power) then
    tally.addDrive kind left.power protection
  else pure tally

/-- The dynamics of a formation with explicit metadata. -/
def explicitDynamics (id : String) : Checked FormationTally := do
  let rawAccelerationCap := if tally.hasUsableDrive then tally.rawAccelerationCap else 0
  match deriveFormationDynamics
    { totalMassKg := tally.mass
      effectiveStartingTractiveForceNewtons := tally.rawStartingTractiveForce
      totalBrakeWeightKg := tally.rawBrakeWeight
      maximumAccelerationCapMmps2 := rawAccelerationCap
      serviceBrakeCapMmps2 := tally.rawServiceBrakeCap
      emergencyBrakeMultiplierBasisPoints := tally.rawEmergencyBrakeMultiplier } with
  | .error _ => refuse (.invalidFormation id)
  | .ok derived => do
    let serviceBrake := min derived.serviceBrakeMmps2 tally.restrictedServiceBrake
    let emergencyBrake := min derived.emergencyBrakeMmps2 tally.restrictedEmergencyBrake
    refuseIf (serviceBrake == 0 || emergencyBrake == 0
      || decide (emergencyBrake ≤ serviceBrake)
      || (tally.hasUsableDrive && derived.accelerationMmps2 == 0)) (.invalidFormation id)
    pure { tally with
      acceleration := derived.accelerationMmps2, serviceBrake, emergencyBrake }

/-- The formation version of a complete tally. -/
def finish (id : String) (predecessorId : Option String)
    (vehicleIds : List String) : Checked FormationVersion := do
  let explicit := tally.explicitMetadata.getD false
  refuseIf (explicit && tally.hasUsableDrive && !tally.frontControlStandAvailable)
    (.invalidFormation id)
  let protectionSystems :=
    if explicit then
      if tally.frontControlStandAvailable then tally.frontTipProtection else ∅
    else tally.legacyPoweredProtection.getD ∅
  -- Types without metadata can be driven in both directions.
  let tally := if explicit then tally else
    { tally with
      frontControlStandAvailable := tally.hasUsableDrive
      rearControlStandAvailable := tally.hasUsableDrive }
  let tally ← if explicit then tally.explicitDynamics id else pure tally
  let lengthMm ← orRefuse (checkedU32 tally.length) .arithmeticOverflow
  pure
    { id, predecessorId, vehicleIds
      performance :=
        { lengthMm
          massKg := tally.mass
          maximumSpeedMmps := tally.maximumSpeed
          powerWatts := tally.power
          accelerationMmps2 := tally.acceleration
          serviceBrakeMmps2 := tally.serviceBrake
          emergencyBrakeMmps2 := tally.emergencyBrake
          frontControlStandAvailable := tally.frontControlStandAvailable
          rearControlStandAvailable := tally.rearControlStandAvailable
          protectionSystems
          mobile := tally.hasUsableDrive } }

end FormationTally

/-- The formation version of the given vehicles, with the restrictions recorded on them. -/
def deriveFormation (vehicles : Registry String PhysicalVehicle)
    (vehicleTypes : Registry String VehicleType) (id : String) (predecessorId : Option String)
    (vehicleIds : List String) : Checked FormationVersion := do
  refuseIf (id.isEmpty || vehicleIds.isEmpty) (.invalidFormation id)
  let tally ← vehicleIds.zipIdx.foldlM
    (FormationTally.addVehicle vehicles vehicleTypes id vehicleIds.length) {}
  tally.finish id predecessorId vehicleIds

/-- Every leg of the route has a protection mode for the formation. -/
def routeProtectionCompatible (route : RouteVersion) (formation : FormationVersion) : Bool :=
  route.legs.all fun leg =>
    protectionSystemsCompatible leg formation.performance.protectionSystems

end Zugfolge
