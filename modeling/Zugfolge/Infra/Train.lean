/-
Trains, their protection and the speeds of a track.

A train is known by what the running time and the checks of the track need: its length, its
speeds, its traction and its protection.  A track section has a regular speed and, where
they differ, speeds for tilting trains and for freight trains.  It offers a set of protection
systems and at most one power system; the train brings its own.
-/
import Mathlib.Data.Finset.Basic
import Zugfolge.Foundation.Text
import Zugfolge.Infra.Units

namespace Zugfolge.Infra

/-! ### Protection -/

/-- A single system of train protection. -/
inductive ProtectionSystem where
  | pzb
  | lzb
  | etcsLevel1
  | etcsLevel2
  deriving DecidableEq

/-- The system supervises continuously and signals in the cab. -/
def ProtectionSystem.isContinuous : ProtectionSystem → Bool
  | lzb | etcsLevel2 => true
  | pzb | etcsLevel1 => false

/-- The systems available on a section or on board of a train. -/
structure TrainProtection where
  systems : Finset ProtectionSystem

namespace TrainProtection

/-- No protection along the track. -/
def unprotected : TrainProtection := ⟨∅⟩

/-- The protection by exactly one system. -/
def single (system : ProtectionSystem) : TrainProtection := ⟨{system}⟩

variable (protection : TrainProtection)

/-- The system is available. -/
def contains (system : ProtectionSystem) : Bool := decide (system ∈ protection.systems)

/-- No system is available. -/
def isUnprotected : Bool := decide (protection.systems = ∅)

/-- Some available system supervises continuously. -/
def hasContinuousSupervision : Bool :=
  decide (∃ system ∈ protection.systems, system.isContinuous = true)

/-- The section and the vehicle share a system. -/
def isCompatibleWith (vehicle : TrainProtection) : Bool :=
  decide (protection.systems ∩ vehicle.systems).Nonempty

end TrainProtection

/-! ### Traction current -/

/-- A system of traction current. -/
inductive PowerSystem where
  | ac15kV
  | ac25kV
  | dc750V
  | dc1500V
  | dc3000V
  deriving DecidableEq

/-- How a section is supplied with traction current. -/
inductive Electrification where
  | unelectrified
  | overhead (system : PowerSystem)
  | thirdRail (system : PowerSystem)
  deriving DecidableEq

/-- The power system of a section, if there is one. -/
def Electrification.system : Electrification → Option PowerSystem
  | unelectrified => none
  | overhead system => some system
  | thirdRail system => some system

/-- The power systems a vehicle can use, at least one. -/
structure ElectricSystems where
  systems : Finset PowerSystem
  someSystem : systems.Nonempty

namespace ElectricSystems

/-- Checks that there is a system. -/
def fromSystems (systems : Finset PowerSystem) : Except InfraError ElectricSystems :=
  if h : systems.Nonempty then .ok ⟨systems, h⟩ else .error .emptyElectricSystems

/-- The vehicle can use the system. -/
def contains (electric : ElectricSystems) (system : PowerSystem) : Bool :=
  decide (system ∈ electric.systems)

end ElectricSystems

/-- What drives a train. -/
inductive TractionType where
  | unpowered
  | diesel
  | batteryElectric
  | batteryElectricWithSystems (systems : ElectricSystems)
  | electric (systems : ElectricSystems)

/-- The traction works on a section with this electrification. -/
def TractionType.canUse (traction : TractionType) (electrification : Electrification) : Bool :=
  match traction with
  | unpowered => false
  | diesel | batteryElectric => true
  | batteryElectricWithSystems systems =>
    electrification == .unelectrified || electrification.system.any systems.contains
  | electric systems => electrification.system.any systems.contains

/-! ### Speeds of a section -/

/-- The kinds of train a section has speeds for. -/
inductive SpeedCategory where
  | standard
  | tilting
  | freight

/-- The speeds of a section. -/
structure SpeedLimit where
  standard : Speed
  tilting : Option Speed
  freight : Option Speed
  standardPositive : 0 < standard
  tiltingPositive : ∀ speed, tilting = some speed → 0 < speed
  freightPositive : ∀ speed, freight = some speed → 0 < speed

namespace SpeedLimit

/-- One speed for all trains. -/
def uniform (standard : Speed) : Except InfraError SpeedLimit :=
  if h : 0 < standard then .ok ⟨standard, none, none, h, by simp, by simp⟩
  else .error (.nonPositiveSpeed "vmax" standard)

/-- Adds the speed of tilting trains. -/
def withTilting (limit : SpeedLimit) (speed : Speed) : Except InfraError SpeedLimit :=
  if h : 0 < speed then
    .ok { limit with tilting := some speed, tiltingPositive := fun _ heq => by cases heq; exact h }
  else .error (.nonPositiveSpeed "vmax-neigetechnik" speed)

/-- Adds the speed of freight trains. -/
def withFreight (limit : SpeedLimit) (speed : Speed) : Except InfraError SpeedLimit :=
  if h : 0 < speed then
    .ok { limit with freight := some speed, freightPositive := fun _ heq => by cases heq; exact h }
  else .error (.nonPositiveSpeed "vmax-gueterzug" speed)

/-- The speed of a kind of train; without one of its own the regular one. -/
def forCategory (limit : SpeedLimit) : SpeedCategory → Speed
  | .standard => limit.standard
  | .tilting => limit.tilting.getD limit.standard
  | .freight => limit.freight.getD limit.standard

lemma forCategory_pos (limit : SpeedLimit) (category : SpeedCategory) :
    0 < limit.forCategory category := by
  cases category with
  | standard => exact limit.standardPositive
  | tilting =>
    cases h : limit.tilting with
    | none => simpa [forCategory, h] using limit.standardPositive
    | some speed => simpa [forCategory, h] using limit.tiltingPositive speed h
  | freight =>
    cases h : limit.freight with
    | none => simpa [forCategory, h] using limit.standardPositive
    | some speed => simpa [forCategory, h] using limit.freightPositive speed h

end SpeedLimit

/-! ### Trains -/

/-- What is known of a train. -/
structure TrainCharacteristics where
  mass : Mass
  length : Length
  maxSpeed : Speed
  speedCategory : SpeedCategory
  acceleration : Acceleration
  deceleration : Acceleration
  traction : TractionType
  protection : TrainProtection
  massPositive : 0 < mass
  lengthPositive : 0 < length
  speedPositive : 0 < maxSpeed
  accelerationPositive : 0 < acceleration
  decelerationPositive : 0 < deceleration

namespace TrainCharacteristics

/-- Checks the values of a train. -/
def new (name : String) (mass : Mass) (length : Length) (maxSpeed : Speed)
    (speedCategory : SpeedCategory) (acceleration deceleration : Acceleration)
    (traction : TractionType) (protection : TrainProtection) :
    Except InfraError TrainCharacteristics :=
  if Foundation.Text.isBlank name then .error (.emptyName "Zugcharakteristik")
  else if hmass : 0 < mass then
    if hlength : 0 < length then
      if hspeed : 0 < maxSpeed then
        if hacceleration : 0 < acceleration then
          if hdeceleration : 0 < deceleration then
            .ok ⟨mass, length, maxSpeed, speedCategory, acceleration, deceleration, traction,
              protection, hmass, hlength, hspeed, hacceleration, hdeceleration⟩
          else .error (.nonPositiveAcceleration "Bremsvermögen" deceleration)
        else .error (.nonPositiveAcceleration "Anfahrvermögen" acceleration)
      else .error (.nonPositiveSpeed "Vmax" maxSpeed)
    else .error (.nonPositiveLength "Zuglänge" length)
  else .error (.nonPositiveMass "Masse" mass)

variable (train : TrainCharacteristics)

/-- The speed of the train on a section. -/
def effectiveSpeedLimit (limit : SpeedLimit) : Speed :=
  min train.maxSpeed (limit.forCategory train.speedCategory)

/-- The protection of a section fits the train. -/
def isCompatibleWithProtection (infrastructure : TrainProtection) : Bool :=
  infrastructure.isCompatibleWith train.protection

/-- The traction of the train works on a section. -/
def isCompatibleWithElectrification (electrification : Electrification) : Bool :=
  train.traction.canUse electrification

lemma effectiveSpeedLimit_pos (limit : SpeedLimit) : 0 < train.effectiveSpeedLimit limit :=
  lt_min train.speedPositive (limit.forCategory_pos train.speedCategory)

end TrainCharacteristics

end Zugfolge.Infra
