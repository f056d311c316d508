import BenchDepot.Cpu.Config
import BenchDepot.Json.Layout
import BenchDepot.Measurement

/-!
# Rows of the aggregate

The aggregate artifact is a JSON object from benchmark type to rows.  A row has the fields of a
submission, all of which must be present; the description of the processor and both forms of its
configuration are derived, so that clients of every age find the form they read.
-/

namespace BenchDepot

open Json (Codec Layout)

/-- A row of the aggregate. -/
structure Entry extends Measurement where
  cpuDesc : String
  cpuText : String
  cpuConfig : Cpu.Config
deriving DecidableEq

namespace Entry

/-- The row in which every field has its zero value. -/
def zero : Entry :=
  { Measurement.zero with cpuDesc := "", cpuText := "", cpuConfig := TextMap.empty }

/-- The wire format of a row. -/
def layout : Layout Entry where
  default := zero
  fields :=
    [ Codec.text.field "MachineId" (·.machineId) fun s v => { s with machineId := v },
      Codec.text.field "ExtraInfo" (·.extraInfo) fun s v => { s with extraInfo := v },
      Codec.text.field "UserNote" (·.userNote) fun s v => { s with userNote := v },
      Codec.int64.field "BenchmarkVersion" (·.benchmarkVersion)
        fun s v => { s with benchmarkVersion := v },
      Codec.int64.field "MachineDataVersion" (·.machineDataVersion)
        fun s v => { s with machineDataVersion := v },
      Codec.float.field "BenchmarkResult" (·.result) fun s v => { s with result := v },
      Codec.float.field "ElapsedTime" (·.elapsed) fun s v => { s with elapsed := v },
      Codec.int64.field "UsedThreads" (·.usedThreads) fun s v => { s with usedThreads := v },
      Codec.text.field "Board" (·.board) fun s v => { s with board := v },
      Codec.text.field "MachineType" (·.machineType) fun s v => { s with machineType := v },
      Codec.text.field "CpuName" (·.cpuName) fun s v => { s with cpuName := v },
      Codec.text.field "CpuDesc" (·.cpuDesc) fun s v => { s with cpuDesc := v },
      Codec.int64.field "NumCpus" (·.topology.cpus)
        fun s v => { s with topology := { s.topology with cpus := v } },
      Codec.int64.field "NumCores" (·.topology.cores)
        fun s v => { s with topology := { s.topology with cores := v } },
      Codec.int64.field "NumThreads" (·.topology.threads)
        fun s v => { s with topology := { s.topology with threads := v } },
      Codec.int64.field "NumNodes" (·.topology.numaNodes)
        fun s v => { s with topology := { s.topology with numaNodes := v } },
      Codec.text.field "CpuConfig" (·.cpuText) fun s v => { s with cpuText := v },
      Cpu.Config.codec.field "CpuConfigMap" (·.cpuConfig) fun s v => { s with cpuConfig := v },
      Codec.int64.field "MemoryInKiB" (·.memoryInKiB) fun s v => { s with memoryInKiB := v },
      Codec.int64.field "PhysicalMemoryInMiB" (·.physicalMemoryInMiB)
        fun s v => { s with physicalMemoryInMiB := v },
      Codec.text.field "MemoryTypes" (·.memoryTypes) fun s v => { s with memoryTypes := v },
      Codec.text.field "OpenGlRenderer" (·.openGlRenderer)
        fun s v => { s with openGlRenderer := v },
      Codec.text.field "GpuDesc" (·.gpuDesc) fun s v => { s with gpuDesc := v },
      Codec.int64.field "PointerBits" (·.pointerBits) fun s v => { s with pointerBits := v },
      Codec.bool.field "DataFromSuperUser" (·.fromSuperUser)
        fun s v => { s with fromSuperUser := v },
      Codec.bool.field "Legacy" (·.legacy) fun s v => { s with legacy := v } ]

/-- A row with its derived fields filled in from a topology and a configuration. -/
def derive (entry : Entry) (topology : Cpu.Topology) (config : Cpu.Config) : Entry :=
  { entry with
    cpuDesc := topology.describe
    cpuText := config.adHoc
    cpuConfig := config }

end Entry

/-- The aggregate: rows by benchmark type. -/
abbrev Aggregate := TextMap (List Entry)

/-- The aggregate as a JSON object. -/
def Aggregate.codec : Codec Aggregate :=
  Codec.textMap Entry.layout.codec.list

end BenchDepot
