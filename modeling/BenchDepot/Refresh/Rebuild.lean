import BenchDepot.Entry
import BenchDepot.Store.Sample
import BenchDepot.Time.Span

/-!
# Rebuilding the aggregate

The aggregate is built from one query for the benchmark types and one query for a sample of each
type.  A type whose query fails is left out and counted; without the types there is no aggregate.
All queries together have a time limit: when it is exceeded, nothing is published, whatever part
had been built.

What a query answers and how long it takes is data here, so that a query may also never answer.
-/

namespace BenchDepot

/-- The answer of a query and how many nanoseconds it takes, or that it never comes. -/
structure Timed (α : Type) where
  answer : α
  takes : Option Nat

/-- Why there is no aggregate. -/
inductive RebuildError where
  /-- The types could not be listed. -/
  | query (cause : StoreError)
  /-- The queries took longer than a number of seconds. -/
  | timeout (seconds : Nat)
deriving DecidableEq

/-- The message of a rebuild error. -/
def RebuildError.message : RebuildError → String
  | .query cause => "query failed: " ++ cause.message
  | .timeout seconds => "rebuild exceeded " ++ Span.text (seconds * nanosPerSecond)

/-- The row of the aggregate for a grouped result. -/
def GroupedResult.entry (r : GroupedResult) : Entry :=
  let topology : Cpu.Topology :=
    { cpus := r.topology.cpus
      cores := r.topology.cores
      threads := r.topology.threads
      numaNodes := r.topology.numaNodes }
  Entry.derive
    { machineId := r.machineId
      extraInfo := r.extraInfo
      userNote := r.userNote
      benchmarkVersion := r.benchmarkVersion
      machineDataVersion := r.machineDataVersion
      result := r.result
      elapsed := r.elapsed
      usedThreads := r.usedThreads
      board := r.board
      machineType := r.machineType
      cpuName := r.cpuName
      cpuDesc := ""
      topology := topology
      cpuText := ""
      cpuConfig := TextMap.empty
      memoryInKiB := r.memoryInKiB
      physicalMemoryInMiB := r.physicalMemoryInMiB
      memoryTypes := r.memoryTypes
      openGlRenderer := r.openGlRenderer
      gpuDesc := r.gpuDesc
      pointerBits := r.pointerBits
      fromSuperUser := r.fromSuperUser
      legacy := r.legacy }
    topology (Cpu.Config.ofText r.cpuText)

/-- The queries that an aggregate is built from. -/
structure Queries where
  types : Timed (Except StoreError (List String))
  sample : String → Timed (Except StoreError (List GroupedResult))

/-- A build under way: what is built, the types left out, and the nanoseconds it took. -/
structure Build where
  aggregate : Aggregate
  skipped : Nat
  elapsed : Nat

namespace Build

/-- A build that has not started. -/
def start : Build := ⟨TextMap.empty, 0, 0⟩

/-- The rows of some grouped results. -/
def entries (results : List GroupedResult) : List Entry :=
  results.map GroupedResult.entry

/-- A build with the answer for one type. -/
def add (build : Build) (benchmarkType : String) :
    Except StoreError (List GroupedResult) → Build
  | .ok results =>
    { build with aggregate := build.aggregate.insert benchmarkType (entries results) }
  | .error _ => { build with skipped := build.skipped + 1 }

/-- A build some nanoseconds later, or what there is of it when the limit is exceeded first. -/
def wait (limit : Option Nat) (build : Build) (takes : Option Nat) : Build × Bool :=
  match takes, limit with
  | some n, some most =>
    if most < build.elapsed + n then ({ build with elapsed := most }, false)
    else ({ build with elapsed := build.elapsed + n }, true)
  | some n, none => ({ build with elapsed := build.elapsed + n }, true)
  | none, some most => ({ build with elapsed := most }, false)
  | none, none => (build, false)

/-- A build with the answers for some types, and whether they all came within the limit. -/
def addAll (limit : Option Nat)
    (sample : String → Timed (Except StoreError (List GroupedResult))) :
    Build → List String → Build × Bool
  | build, [] => (build, true)
  | build, benchmarkType :: rest =>
    let query := sample benchmarkType
    match build.wait limit query.takes with
    | (late, false) => (late, false)
    | (next, true) => addAll limit sample (next.add benchmarkType query.answer) rest

end Build

/-- How a build ended: with an aggregate or an error, the types left out, and the nanoseconds it
took. -/
structure Rebuilt where
  outcome : Except RebuildError Aggregate
  skipped : Nat
  elapsed : Nat

namespace Queries

/-- An aggregate from some queries, within a limit in nanoseconds if there is one, which is
reported in seconds. -/
def run (queries : Queries) (limit : Option Nat) (seconds : Nat) : Rebuilt :=
  match Build.start.wait limit queries.types.takes with
  | (late, false) => ⟨.error (.timeout seconds), 0, late.elapsed⟩
  | (build, true) =>
    match queries.types.answer with
    | .error cause => ⟨.error (.query cause), 0, build.elapsed⟩
    | .ok types =>
      match build.addAll limit queries.sample types with
      | (late, false) => ⟨.error (.timeout seconds), late.skipped, late.elapsed⟩
      | (whole, true) => ⟨.ok whole.aggregate, whole.skipped, whole.elapsed⟩

/-- An aggregate from some queries, however long they take. -/
def build (queries : Queries) : Rebuilt :=
  queries.run none 0

/-- An aggregate from some queries, within a number of seconds. -/
def rebuild (queries : Queries) (seconds : Nat) : Rebuilt :=
  queries.run (some (seconds * nanosPerSecond)) seconds

end Queries

/-- The text that is published for an aggregate. -/
def Aggregate.text (aggregate : Aggregate) : String :=
  (Aggregate.codec.encode aggregate).text

end BenchDepot
