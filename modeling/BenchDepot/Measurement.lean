import BenchDepot.Cpu.Topology

/-!
# Measurements

What a benchmark run tells about itself and its machine, apart from the benchmark's type and the
processor's configuration: the part that a submission, a stored record and a row of the aggregate
have in common.
-/

namespace BenchDepot

open Cpu (Topology)

/-- A benchmark run and its machine. -/
structure Measurement where
  machineId : String
  extraInfo : String
  userNote : String
  benchmarkVersion : Int64
  machineDataVersion : Int64
  result : Float
  elapsed : Float
  usedThreads : Int64
  board : String
  machineType : String
  cpuName : String
  topology : Topology
  memoryInKiB : Int64
  physicalMemoryInMiB : Int64
  memoryTypes : String
  openGlRenderer : String
  gpuDesc : String
  pointerBits : Int64
  fromSuperUser : Bool
  legacy : Bool
deriving DecidableEq

namespace Measurement

/-- The measurement in which every field has its zero value. -/
def zero : Measurement where
  machineId := ""
  extraInfo := ""
  userNote := ""
  benchmarkVersion := 0
  machineDataVersion := 0
  result := 0.0
  elapsed := 0.0
  usedThreads := 0
  board := ""
  machineType := ""
  cpuName := ""
  topology := ⟨0, 0, 0, 0⟩
  memoryInKiB := 0
  physicalMemoryInMiB := 0
  memoryTypes := ""
  openGlRenderer := ""
  gpuDesc := ""
  pointerBits := 0
  fromSuperUser := false
  legacy := false

instance : Inhabited Measurement := ⟨zero⟩

end Measurement

end BenchDepot
