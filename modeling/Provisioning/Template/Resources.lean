import Provisioning.Number.Binary64
import Provisioning.Template.Dimension

/-!
# Amounts of resources

## Main definitions

* `Resources`: an amount for each dimension, whole for the counts
* `Weights`: a weight for each dimension
* `Resources.get`, `Weights.get`, `Weights.set`: the amount or weight of a dimension
* `Resources.fault?`: the first dimension whose amount is negative or not finite
-/

namespace Provisioning

/-- An amount of each resource. -/
structure Resources where
  cpuCores : UInt32 := 0
  cpuFrequency : Binary64 := .zero
  memory : Binary64 := .zero
  systemDisk : Binary64 := .zero
  ephemeralDisk : Binary64 := .zero
  gpuCount : UInt32 := 0
  gpuCores : UInt32 := 0
  gpuMemory : Binary64 := .zero
  gpuFrequency : Binary64 := .zero
deriving DecidableEq

/-- Whether a number may be an amount, a price or a weight: finite and not below zero. -/
def Binary64.isAmount (x : Binary64) : Bool := x.isFinite && !x.lt .zero

namespace Resources

/-- The amount of a dimension. -/
def get (r : Resources) : Dimension → Binary64
  | .cpuCores => .ofNat r.cpuCores.toNat
  | .cpuFrequency => r.cpuFrequency
  | .memory => r.memory
  | .systemDisk => r.systemDisk
  | .ephemeralDisk => r.ephemeralDisk
  | .gpuCount => .ofNat r.gpuCount.toNat
  | .gpuCores => .ofNat r.gpuCores.toNat
  | .gpuMemory => r.gpuMemory
  | .gpuFrequency => r.gpuFrequency

/-- The first dimension whose amount is negative or not finite. -/
def fault? (r : Resources) : Option Dimension :=
  Dimension.all.find? fun d => !(r.get d).isAmount

end Resources

/-- A weight for each resource. -/
structure Weights where
  cpuCores : Binary64
  cpuFrequency : Binary64
  memory : Binary64
  systemDisk : Binary64
  ephemeralDisk : Binary64
  gpuCount : Binary64
  gpuCores : Binary64
  gpuMemory : Binary64
  gpuFrequency : Binary64
deriving DecidableEq

namespace Weights

/-- Ten for a core, a gigahertz or a graphics unit, one for a gigabyte of memory, a tenth for one of
disk, a hundredth for a graphics core. -/
def default : Weights where
  cpuCores := .ofNat 10
  cpuFrequency := .ofNat 10
  memory := .ofNat 1
  systemDisk := .ofNat 1 / .ofNat 10
  ephemeralDisk := .ofNat 1 / .ofNat 10
  gpuCount := .ofNat 10
  gpuCores := .ofNat 1 / .ofNat 100
  gpuMemory := .ofNat 1
  gpuFrequency := .ofNat 10

instance : Inhabited Weights := ⟨default⟩

/-- The weight of a dimension. -/
def get (w : Weights) : Dimension → Binary64
  | .cpuCores => w.cpuCores
  | .cpuFrequency => w.cpuFrequency
  | .memory => w.memory
  | .systemDisk => w.systemDisk
  | .ephemeralDisk => w.ephemeralDisk
  | .gpuCount => w.gpuCount
  | .gpuCores => w.gpuCores
  | .gpuMemory => w.gpuMemory
  | .gpuFrequency => w.gpuFrequency

/-- The weights with the one of a dimension changed. -/
def set (w : Weights) (d : Dimension) (x : Binary64) : Weights :=
  match d with
  | .cpuCores => { w with cpuCores := x }
  | .cpuFrequency => { w with cpuFrequency := x }
  | .memory => { w with memory := x }
  | .systemDisk => { w with systemDisk := x }
  | .ephemeralDisk => { w with ephemeralDisk := x }
  | .gpuCount => { w with gpuCount := x }
  | .gpuCores => { w with gpuCores := x }
  | .gpuMemory => { w with gpuMemory := x }
  | .gpuFrequency => { w with gpuFrequency := x }

theorem get_set (w : Weights) (d e : Dimension) (x : Binary64) :
    (w.set d x).get e = if e = d then x else w.get e := by
  cases d <;> cases e <;> rfl

/-- The weights as a list, in the order of the dimensions. -/
def toList (w : Weights) : List Binary64 := Dimension.all.map w.get

end Weights

end Provisioning
