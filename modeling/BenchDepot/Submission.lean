import BenchDepot.Cpu.Config
import BenchDepot.Json.Layout
import BenchDepot.Measurement

/-!
# Submissions

A client uploads a JSON object from benchmark type to submission.  Every submission is validated
for its type and becomes a record; one that is invalid rejects the whole upload, with the error of
the first invalid type in the order of the texts.

* `layout` — the wire format, in which every field may be missing;
* `validate` — the rules, tried in a fixed order;
* `Upload.validate` — the records of an upload.
-/

namespace BenchDepot

open Json (Codec Layout RecordField Value)

/-- One benchmark result as a client sends it. -/
structure Submission extends Measurement where
  cpuDesc : String
  cpuText : Option String
  cpuConfig : Option Cpu.Config
deriving DecidableEq

/-- A validated result, with the type of its benchmark. -/
structure Record extends Measurement where
  benchmarkType : String
  cpuConfig : Cpu.Config
deriving DecidableEq

/-- Why a submission is not accepted. -/
inductive SubmissionError where
  | emptyType
  | badMachineId
  | legacyUpload
  | badPointerBits
  | badTopology
  | lowMemory
  | lowPhysicalMemory
  | badResult
deriving DecidableEq

/-- The message of a submission error. -/
def SubmissionError.message : SubmissionError → String
  | .emptyType => "invalid submission: benchmark type is empty"
  | .badMachineId => "invalid submission: MachineId looks invalid"
  | .legacyUpload => "invalid submission: Can't upload legacy results anymore"
  | .badPointerBits => "invalid submission: Unknown PointerBits value"
  | .badTopology =>
    "invalid submission: Number of CPUs, cores, NUMA nodes, or threads is invalid"
  | .lowMemory => "invalid submission: Total memory value is too low to be true"
  | .lowPhysicalMemory => "invalid submission: Physical memory value is too low to be true"
  | .badResult => "invalid submission: Benchmark results can't be negative"

namespace Submission

/-- The submission of a client that says nothing. -/
def zero : Submission :=
  { Measurement.zero with cpuDesc := "", cpuText := none, cpuConfig := none }

instance : Inhabited Submission := ⟨zero⟩

/-- The wire format of a submission. -/
def layout : Layout Submission where
  default := zero
  fields :=
    [ Codec.text.field "MachineId" (·.machineId) fun s v => { s with machineId := v },
      Codec.text.field "ExtraInfo" (·.extraInfo) fun s v => { s with extraInfo := v },
      Codec.text.field "UserNote" (·.userNote) fun s v => { s with userNote := v },
      Codec.int64.field "BenchmarkVersion" (·.benchmarkVersion)
        fun s v => { s with benchmarkVersion := v },
      Codec.int64.field "MachineDataVersion" (·.machineDataVersion)
        fun s v => { s with machineDataVersion := v },
      Codec.float.field "BenchmarkResult" (·.result) fun s v => { s with result := v },
      Codec.float.field "ElapsedTime" (·.elapsed) fun s v => { s with elapsed := v },
      Codec.int64.field "UsedThreads" (·.usedThreads) fun s v => { s with usedThreads := v },
      Codec.text.field "Board" (·.board) fun s v => { s with board := v },
      Codec.text.field "MachineType" (·.machineType) fun s v => { s with machineType := v },
      Codec.text.field "CpuName" (·.cpuName) fun s v => { s with cpuName := v },
      Codec.text.field "CpuDesc" (·.cpuDesc) fun s v => { s with cpuDesc := v },
      Codec.int64.field "NumCpus" (·.topology.cpus)
        fun s v => { s with topology := { s.topology with cpus := v } },
      Codec.int64.field "NumCores" (·.topology.cores)
        fun s v => { s with topology := { s.topology with cores := v } },
      Codec.int64.field "NumThreads" (·.topology.threads)
        fun s v => { s with topology := { s.topology with threads := v } },
      Codec.int64.field "NumNodes" (·.topology.numaNodes)
        fun s v => { s with topology := { s.topology with numaNodes := v } },
      Codec.text.optional.field "CpuConfig" (·.cpuText) fun s v => { s with cpuText := v },
      Cpu.Config.codec.optional.field "CpuConfigMap" (·.cpuConfig)
        fun s v => { s with cpuConfig := v },
      Codec.int64.field "MemoryInKiB" (·.memoryInKiB) fun s v => { s with memoryInKiB := v },
      Codec.int64.field "PhysicalMemoryInMiB" (·.physicalMemoryInMiB)
        fun s v => { s with physicalMemoryInMiB := v },
      Codec.text.field "MemoryTypes" (·.memoryTypes) fun s v => { s with memoryTypes := v },
      Codec.text.field "OpenGlRenderer" (·.openGlRenderer)
        fun s v => { s with openGlRenderer := v },
      Codec.text.field "GpuDesc" (·.gpuDesc) fun s v => { s with gpuDesc := v },
      Codec.int64.field "PointerBits" (·.pointerBits) fun s v => { s with pointerBits := v },
      Codec.bool.field "DataFromSuperUser" (·.fromSuperUser)
        fun s v => { s with fromSuperUser := v },
      Codec.bool.field "Legacy" (·.legacy) fun s v => { s with legacy := v } ].map
      (RecordField.orOf zero)

/-- The smallest plausible total memory, in KiB. -/
def leastMemory : Int64 := 4096

/-- The smallest plausible physical memory, in MiB; zero means that it is not known. -/
def leastPhysicalMemory : Int64 := 4

/-- The first rule that a submission breaks for a type. -/
def violation? (s : Submission) (benchmarkType : String) : Option SubmissionError :=
  if Text.allBlank benchmarkType.toList then some .emptyType
  else if !s.machineId.toList.contains ';' then some .badMachineId
  else if s.legacy then some .legacyUpload
  else if s.pointerBits ≠ 32 ∧ s.pointerBits ≠ 64 then some .badPointerBits
  else if s.topology.cpus < 1 ∨ s.topology.cores < 1 ∨ s.topology.threads < 1
      ∨ s.topology.numaNodes < 0 then some .badTopology
  else if s.memoryInKiB < leastMemory then some .lowMemory
  else if s.physicalMemoryInMiB ≠ 0 ∧ s.physicalMemoryInMiB < leastPhysicalMemory then
    some .lowPhysicalMemory
  else if s.result.isNaN ∨ s.result < 0.0 then some .badResult
  else none

/-- The record of a submission for a type; it is never a legacy one. -/
def record (s : Submission) (benchmarkType : String) : Record where
  benchmarkType := benchmarkType
  machineId := s.machineId
  extraInfo := s.extraInfo
  userNote := s.userNote
  benchmarkVersion := s.benchmarkVersion
  machineDataVersion := s.machineDataVersion
  result := s.result
  elapsed := s.elapsed
  usedThreads := s.usedThreads
  board := s.board
  machineType := s.machineType
  cpuName := s.cpuName
  cpuConfig := (Cpu.Input.ofFields s.cpuConfig s.cpuText).normalize
  topology :=
    { cpus := s.topology.cpus
      cores := s.topology.cores
      threads := s.topology.threads
      numaNodes := s.topology.numaNodes }
  memoryInKiB := s.memoryInKiB
  physicalMemoryInMiB := s.physicalMemoryInMiB
  memoryTypes := s.memoryTypes
  openGlRenderer := s.openGlRenderer
  gpuDesc := s.gpuDesc
  pointerBits := s.pointerBits
  fromSuperUser := s.fromSuperUser
  legacy := false

/-- The record of a submission that breaks no rule. -/
def validate (s : Submission) (benchmarkType : String) : Except SubmissionError Record :=
  match s.violation? benchmarkType with
  | some error => .error error
  | none => .ok (s.record benchmarkType)

end Submission

/-- An upload: submissions by benchmark type. -/
abbrev Upload := TextMap Submission

namespace Upload

/-- An upload as a JSON object. -/
def codec : Codec Upload :=
  Codec.textMap Submission.layout.codec

/-- The records of some submissions, up to the first one that is invalid. -/
def validateAll : List (String × Submission) → Except SubmissionError (List Record)
  | [] => .ok []
  | (benchmarkType, s) :: rest =>
    match s.validate benchmarkType with
    | .error error => .error error
    | .ok record =>
      match validateAll rest with
      | .error error => .error error
      | .ok records => .ok (record :: records)

/-- The records of an upload, in ascending order of type. -/
def validate (upload : Upload) : Except SubmissionError (List Record) :=
  validateAll upload.entries

end Upload

end BenchDepot
