import Provisioning.Text.Blank
import Provisioning.Text.LowerCase

/-!
# Resource dimensions

## Main definitions

* `Dimension`: what a machine template offers an amount of
* `Dimension.all`: the dimensions in their order
* `Dimension.key`, `Dimension.read?`: the name of a dimension, and the dimension of a name
-/

namespace Provisioning

open Text

/-- What a machine template offers an amount of. -/
inductive Dimension where
  | cpuCores | cpuFrequency | memory | systemDisk | ephemeralDisk
  | gpuCount | gpuCores | gpuMemory | gpuFrequency
deriving DecidableEq

namespace Dimension

/-- The dimensions, in the order in which they are checked and summed up. -/
def all : List Dimension :=
  [cpuCores, cpuFrequency, memory, systemDisk, ephemeralDisk, gpuCount, gpuCores, gpuMemory,
    gpuFrequency]

/-- The name of a dimension. -/
def key : Dimension → String
  | cpuCores => "cpu_cores"
  | cpuFrequency => "cpu_frequency_ghz"
  | memory => "memory_gb"
  | systemDisk => "system_disk_gb"
  | ephemeralDisk => "ephemeral_disk_gb"
  | gpuCount => "gpu_count"
  | gpuCores => "gpu_cores"
  | gpuMemory => "gpu_memory_gb"
  | gpuFrequency => "gpu_frequency_ghz"

/-- The dimension of a name, in any case and with blanks around it. -/
def read? (raw : String) : Option Dimension :=
  let name := toLower (trim raw)
  all.find? fun d => d.key == name

theorem mem_all (d : Dimension) : d ∈ all := by cases d <;> simp [all]

theorem read?_key (d : Dimension) : read? d.key = some d := by
  cases d <;> decide +kernel

theorem key_injective {d e : Dimension} (h : d.key = e.key) : d = e :=
  Option.some.inj ((read?_key d).symm.trans (h ▸ read?_key e))

end Dimension

end Provisioning
