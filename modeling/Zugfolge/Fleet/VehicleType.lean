/-
Vehicle types and the derivation of driving dynamics.
-/
import Zugfolge.Infrastructure.Track
import Zugfolge.Foundation.Text

namespace Zugfolge

open Foundation

inductive OperationalVehicleRole where
  | poweredUnit
  | locomotive
  | coach
  | controlCar
  deriving DecidableEq

/-- The role carries a drive. -/
def OperationalVehicleRole.isPowered : OperationalVehicleRole → Bool
  | .poweredUnit => true
  | .locomotive => true
  | .coach => false
  | .controlCar => false

inductive OperationalVehicleTraction where
  | unpowered
  | electric
  | diesel
  | battery
  deriving DecidableEq

/-- The power systems a vehicle masters. -/
inductive OperationalPowerSystem where
  | ac15kv
  | ac25kv
  | dc750v
  | dc1500v
  | dc3000v
  deriving DecidableEq

/-- The place of a power system in the canonical order. -/
def OperationalPowerSystem.rank : OperationalPowerSystem → ℕ
  | .ac15kv => 0
  | .ac25kv => 1
  | .dc750v => 2
  | .dc1500v => 3
  | .dc3000v => 4

instance : Ord OperationalPowerSystem where
  compare a b := compare a.rank b.rank

/-- The control stands of a vehicle before it is turned into the formation. -/
structure OperationalControlStands where
  front : Bool
  rear : Bool
  deriving DecidableEq

/-- A control stand looks out at the front of the formation. -/
def OperationalControlStands.atFormationFront (stands : OperationalControlStands) :
    Direction → Bool
  | .along => stands.front
  | .against => stands.rear

/-- A control stand looks out at the rear of the formation. -/
def OperationalControlStands.atFormationRear (stands : OperationalControlStands) :
    Direction → Bool
  | .along => stands.rear
  | .against => stands.front

/-! ### Driving dynamics -/

/-- The denominator of all basis point values. -/
def formationDynamicsBasisPoints : ℕ := 10000

/-- The greatest cap of an acceleration. -/
def maxFormationAccelerationMmps2 : ℕ := 10000

/-- The greatest derived brake value. -/
def maxFormationBrakeMmps2 : ℕ := 20000

structure VehicleTypeRawFormationDynamics where
  brakeWeightKg : ℕ
  maximumAccelerationCapMmps2 : ℕ
  serviceBrakeCapMmps2 : ℕ
  emergencyBrakeMultiplierBasisPoints : ℕ
  deriving DecidableEq

/-- The input of the derivation: the sums and bounds of a coupled formation. -/
structure FormationDynamicsDerivationInput where
  totalMassKg : ℕ
  effectiveStartingTractiveForceNewtons : ℕ
  totalBrakeWeightKg : ℕ
  maximumAccelerationCapMmps2 : ℕ
  serviceBrakeCapMmps2 : ℕ
  emergencyBrakeMultiplierBasisPoints : ℕ

structure DerivedFormationDynamics where
  accelerationMmps2 : ℕ
  serviceBrakeMmps2 : ℕ
  emergencyBrakeMmps2 : ℕ

/-- Why a derivation fails. -/
inductive FormationDynamicsDerivationError where
  | invalidInput
  | arithmeticOverflow
  | invalidOutput

/-- The value of an option, or an overflow. -/
def orOverflow {α : Type} : Option α → Except FormationDynamicsDerivationError α
  | some a => .ok a
  | none => .error .arithmeticOverflow

/-- The dynamics of a coupled formation, with every division rounded down. -/
def deriveFormationDynamics (input : FormationDynamicsDerivationInput) :
    Except FormationDynamicsDerivationError DerivedFormationDynamics := do
  let powered := decide (0 < input.effectiveStartingTractiveForceNewtons)
  if input.totalMassKg == 0 || input.totalBrakeWeightKg == 0
      || (powered && !(decide (1 ≤ input.maximumAccelerationCapMmps2)
        && decide (input.maximumAccelerationCapMmps2 ≤ maxFormationAccelerationMmps2)))
      || (!powered && input.maximumAccelerationCapMmps2 != 0)
      || !(decide (1 ≤ input.serviceBrakeCapMmps2)
        && decide (input.serviceBrakeCapMmps2 ≤ maxFormationBrakeMmps2))
      || !(decide (formationDynamicsBasisPoints + 1 ≤ input.emergencyBrakeMultiplierBasisPoints)
        && decide (input.emergencyBrakeMultiplierBasisPoints ≤ 30000)) then
    throw .invalidInput
  let acceleration ←
    if powered then do
      let force ← orOverflow (mulCheckedU64 input.effectiveStartingTractiveForceNewtons 1000)
      let theoretical ← orOverflow (checkedU32 (force / input.totalMassKg))
      pure (min input.maximumAccelerationCapMmps2 theoretical)
    else pure 0
  let brakeForce ← orOverflow (mulCheckedU64 input.totalBrakeWeightKg 9806)
  let theoreticalService ← orOverflow (checkedU32 (brakeForce / input.totalMassKg))
  let serviceBrake := min input.serviceBrakeCapMmps2 theoreticalService
  let emergency ←
    orOverflow (mulCheckedU64 serviceBrake input.emergencyBrakeMultiplierBasisPoints)
  let emergencyBrake ← orOverflow (checkedU32 (emergency / formationDynamicsBasisPoints))
  if (powered && acceleration == 0) || serviceBrake == 0
      || decide (emergencyBrake ≤ serviceBrake)
      || decide (maxFormationBrakeMmps2 < emergencyBrake) then
    throw .invalidOutput
  pure ⟨acceleration, serviceBrake, emergencyBrake⟩

/-! ### Vehicle types -/

/-- The mandatory physical data of a vehicle type. -/
structure VehicleType where
  id : String
  role : Option OperationalVehicleRole
  controlStands : Option OperationalControlStands
  traction : Option OperationalVehicleTraction
  electricSystems : Option (List OperationalPowerSystem)
  lengthMm : ℕ
  massKg : ℕ
  maximumSpeedMmps : ℕ
  powerWatts : ℕ
  startingTractiveForceNewtons : ℕ
  rawFormationDynamics : Option VehicleTypeRawFormationDynamics
  maximumAccelerationMmps2 : ℕ
  serviceBrakeMmps2 : ℕ
  emergencyBrakeMmps2 : ℕ
  protectionSystems : KeySet String
  deriving DecidableEq

namespace VehicleType

variable (kind : VehicleType)

/-- The reference dynamics of the type are those derived from its raw values. -/
def referenceMatchesRaw (raw : VehicleTypeRawFormationDynamics) : Bool :=
  match deriveFormationDynamics
    { totalMassKg := kind.massKg
      effectiveStartingTractiveForceNewtons := kind.startingTractiveForceNewtons
      totalBrakeWeightKg := raw.brakeWeightKg
      maximumAccelerationCapMmps2 := raw.maximumAccelerationCapMmps2
      serviceBrakeCapMmps2 := raw.serviceBrakeCapMmps2
      emergencyBrakeMultiplierBasisPoints := raw.emergencyBrakeMultiplierBasisPoints } with
  | .ok expected =>
    expected.accelerationMmps2 == kind.maximumAccelerationMmps2
      && expected.serviceBrakeMmps2 == kind.serviceBrakeMmps2
      && expected.emergencyBrakeMmps2 == kind.emergencyBrakeMmps2
  | .error _ => false

/-- Either none of the metadata is given, or all of it and consistently. -/
def roleComplete (powered : Bool) : Bool :=
  match kind.role, kind.controlStands, kind.traction, kind.electricSystems,
    kind.rawFormationDynamics with
  | none, none, none, none, none => true
  | some role, some stands, some traction, some systems, some raw =>
    let hasControlStand := stands.front || stands.rear
    let standsMatchRole := match role with
      | .coach => !hasControlStand
      | .poweredUnit => hasControlStand
      | .locomotive => hasControlStand
      | .controlCar => hasControlStand
    let driveValuesMatchRole := role.isPowered
      || (kind.powerWatts == 0 && kind.startingTractiveForceNewtons == 0
        && kind.maximumAccelerationMmps2 == 0)
    let tractionMatchesPowered := match traction with
      | .unpowered => !powered && systems.isEmpty
      | .diesel => powered && systems.isEmpty
      | .electric => powered && !systems.isEmpty
      | .battery => powered && !systems.isEmpty
    (role.isPowered == powered) && standsMatchRole && driveValuesMatchRole
      && strictlyAscending systems && tractionMatchesPowered && kind.referenceMatchesRaw raw
  | _, _, _, _, _ => false

/-- The type is complete for a powered or an unpowered vehicle. -/
def validate (powered : Bool) : Checked Unit :=
  let complete := !kind.id.isEmpty && decide (0 < kind.lengthMm) && decide (0 < kind.massKg)
    && decide (0 < kind.maximumSpeedMmps) && decide (0 < kind.serviceBrakeMmps2)
    && decide (kind.serviceBrakeMmps2 < kind.emergencyBrakeMmps2)
  let poweredComplete := !powered
    || (decide (0 < kind.powerWatts) && decide (0 < kind.startingTractiveForceNewtons)
      && decide (0 < kind.maximumAccelerationMmps2))
  demand (complete && poweredComplete && kind.roleComplete powered)
    (.incompleteVehicleType kind.id)

end VehicleType

/-! ### Vehicles -/

inductive VehicleRestriction where
  | powerBasisPoints (basisPoints : ℕ)
  | maximumSpeed (mmps : ℕ)
  | serviceBrake (mmps2 : ℕ)
  | emergencyBrake (mmps2 : ℕ)
  | protectionUnavailable (system : String)
  | doorAvailabilityBasisPoints (basisPoints : ℕ)
  | immobilized
  deriving DecidableEq

/-- A concrete vehicle with the restrictions recorded on it. -/
structure PhysicalVehicle where
  id : String
  typeId : String
  powered : Bool
  orientation : Direction
  restrictions : Registry String VehicleRestriction
  history : List String
  deriving DecidableEq

end Zugfolge
