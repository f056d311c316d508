import BenchDepot.Store.Average
import BenchDepot.Store.Basic

/-!
# Samples of grouped results

The results of a benchmark type are grouped by machine and pointer width, each group's results
are averaged, and a random sample of the groups is drawn.  Results imported from older deployments
are left out.

Chance is data here: a `Draw` is the list of choices that were made, each taken modulo the number
of elements left, so that every draw is a permutation and every permutation is drawn by some
choices.
-/

namespace BenchDepot

/-- The choices of a random draw. -/
abbrev Draw := List Nat

/-- The elements of a list in the order in which some choices draw them; without further choices
they come in their order. -/
def Draw.order {α : Type} : Draw → List α → List α
  | _, [] => []
  | [], xs => xs
  | choice :: draw, x :: xs =>
    let place := choice % (xs.length + 1)
    match (x :: xs)[place]? with
    | some drawn => drawn :: Draw.order draw ((x :: xs).eraseIdx place)
    | none => x :: xs

/-- What results are grouped by. -/
structure GroupKey where
  machineId : String
  pointerBits : Int64
deriving DecidableEq

/-- The results of a group: what they are grouped by, and the first of them and the others. -/
structure Group where
  key : GroupKey
  first : Row
  others : List Row
deriving DecidableEq

/-- A group as one result: the average, and the other columns of one of its rows. -/
structure GroupedResult extends Measurement where
  cpuText : String
deriving DecidableEq

/-- The grouped result that some columns make, each field by the name of its column. -/
def GroupedResult.ofCells? (cells : Cells) : Option GroupedResult := do
  let machineId ← cells.text? .machineId
  let pointerBits ← cells.int64? .pointerBits
  let result ← cells.float? .benchmarkResult
  let extraInfo ← cells.text? .extraInfo
  let board ← cells.text? .board
  let cpuName ← cells.text? .cpuName
  let cpuText ← cells.text? .cpuConfig
  let cpus ← cells.int64? .numCpus
  let cores ← cells.int64? .numCores
  let threads ← cells.int64? .numThreads
  let numaNodes ← cells.int64? .numNodes
  let memoryInKiB ← cells.int64? .memoryInKiB
  let physicalMemoryInMiB ← cells.int64? .physicalMemoryInMiB
  let memoryTypes ← cells.text? .memoryTypes
  let openGlRenderer ← cells.text? .openGlRenderer
  let gpuDesc ← cells.text? .gpuDesc
  let fromSuperUser ← cells.bool? .dataFromSuperUser
  let usedThreads ← cells.int64? .usedThreads
  let benchmarkVersion ← cells.int64? .benchmarkVersion
  let userNote ← cells.text? .userNote
  let elapsed ← cells.float? .elapsedTime
  let machineDataVersion ← cells.int64? .machineDataVersion
  let legacy ← cells.bool? .legacy
  let machineType ← cells.text? .machineType
  return {
    machineId, pointerBits, result, extraInfo, board, cpuName, cpuText
    topology := { cpus, cores, threads, numaNodes }
    memoryInKiB, physicalMemoryInMiB, memoryTypes, openGlRenderer, gpuDesc, fromSuperUser
    usedThreads, benchmarkVersion, userNote, elapsed, machineDataVersion, legacy, machineType }

/-- The columns that a query for grouped results reads, in the order of the statement. -/
def selected : List Column :=
  [ .machineId, .pointerBits, .benchmarkResult,
    .extraInfo, .board, .cpuName, .cpuConfig,
    .numCpus, .numCores, .numThreads, .numNodes,
    .memoryInKiB, .physicalMemoryInMiB, .memoryTypes,
    .openGlRenderer, .gpuDesc, .dataFromSuperUser, .usedThreads,
    .benchmarkVersion, .userNote, .elapsedTime, .machineDataVersion,
    .legacy, .machineType ]

namespace Group

/-- The rows of a group. -/
def rows (group : Group) : List Row :=
  group.first :: group.others

/-- The average result of a group, in the order the results came in. -/
def average (group : Group) : Float :=
  Store.average (group.rows.map fun row => row.result)

/-- What stands in a column of a group: the average of the results, and in every other column what
stands there in the first row. -/
def cell (group : Group) (column : Column) : Cell :=
  if column = .benchmarkResult then
    .computed group.average
  else
    (group.first.cells.lookup column).getD .null

/-- A group as one result, if its average is a number. -/
def result? (group : Group) : Option GroupedResult :=
  GroupedResult.ofCells? (selected.map fun column => (column, group.cell column))

end Group

namespace Store

/-- What a row is grouped by. -/
def groupKey (row : Row) : GroupKey :=
  ⟨row.machineId, row.pointerBits⟩

/-- The rows of a type that are not imported from older deployments. -/
def currentRows (store : Store) (benchmarkType : String) : List Row :=
  (store.rowsOf benchmarkType).filter fun row => !row.legacy

/-- Groups with one more row: in its group, or in a new one at the end. -/
def addToGroups (row : Row) : List Group → List Group
  | [] => [⟨groupKey row, row, []⟩]
  | group :: rest =>
    if group.key = groupKey row then
      { group with others := group.others ++ [row] } :: rest
    else
      group :: addToGroups row rest

/-- The groups of a type, in the order of their first rows. -/
def groups (store : Store) (benchmarkType : String) : List Group :=
  (store.currentRows benchmarkType).foldl (fun groups row => addToGroups row groups) []

/-- The results of some groups, all of which must have one. -/
def resultsOf : List Group → Option (List GroupedResult)
  | [] => some []
  | group :: rest =>
    match group.result?, resultsOf rest with
    | some result, some results => some (result :: results)
    | _, _ => none

/-- A random sample of the grouped results of a type. -/
def sample (store : Store) (draw : Draw) (benchmarkType : String) (limit : Nat) :
    Except StoreError (List GroupedResult) :=
  match resultsOf ((draw.order (store.groups benchmarkType)).take limit) with
  | some results => .ok results
  | none => .error .missingNumber

end Store

end BenchDepot
