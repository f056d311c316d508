import BenchDepot.Store.Columns
import BenchDepot.Submission

/-!
# The store

The store keeps two things: the results, in rows that are only ever appended, and the artifacts,
one for each key.  Rows are numbered from one in the order they came in.  A batch of records is
appended as a whole or not at all: a result or an elapsed time that is not a number cannot be
stored, nor a time that is not writable, and rejects the batch; so does an insertion that fails.

* `append`, `importRow` — the two ways in which rows come in;
* `types`, `rowsOf`, `count` — what can be asked about rows;
* `artifact?`, `putArtifact` — the table of artifacts.
-/

namespace BenchDepot

/-- A stored result.  The processor's configuration is kept as a text of either kind. -/
structure Row extends Measurement where
  id : Nat
  benchmarkType : String
  cpuText : String
  submittedAt : Instant
deriving DecidableEq

namespace Row

/-- The row with a number that some columns make, each field by the name of its column. -/
def ofCells? (id : Nat) (cells : Cells) : Option Row := do
  let benchmarkType ← cells.text? .benchmarkType
  let result ← cells.float? .benchmarkResult
  let extraInfo ← cells.text? .extraInfo
  let machineId ← cells.text? .machineId
  let board ← cells.text? .board
  let cpuName ← cells.text? .cpuName
  let cpuText ← cells.text? .cpuConfig
  let cpus ← cells.int64? .numCpus
  let cores ← cells.int64? .numCores
  let threads ← cells.int64? .numThreads
  let numaNodes ← cells.int64? .numNodes
  let memoryInKiB ← cells.int64? .memoryInKiB
  let physicalMemoryInMiB ← cells.int64? .physicalMemoryInMiB
  let memoryTypes ← cells.text? .memoryTypes
  let openGlRenderer ← cells.text? .openGlRenderer
  let gpuDesc ← cells.text? .gpuDesc
  let pointerBits ← cells.int64? .pointerBits
  let fromSuperUser ← cells.bool? .dataFromSuperUser
  let usedThreads ← cells.int64? .usedThreads
  let benchmarkVersion ← cells.int64? .benchmarkVersion
  let userNote ← cells.text? .userNote
  let elapsed ← cells.float? .elapsedTime
  let machineDataVersion ← cells.int64? .machineDataVersion
  let legacy ← cells.bool? .legacy
  let machineType ← cells.text? .machineType
  let submittedAt ← cells.time? .submittedAt
  return {
    id, benchmarkType, result, extraInfo, machineId, board, cpuName, cpuText
    topology := { cpus, cores, threads, numaNodes }
    memoryInKiB, physicalMemoryInMiB, memoryTypes, openGlRenderer, gpuDesc, pointerBits
    fromSuperUser, usedThreads, benchmarkVersion, userNote, elapsed, machineDataVersion
    legacy, machineType, submittedAt }

/-- What stands in the columns of a row, in the order of the schema. -/
def cells (row : Row) : Cells :=
  [ (.benchmarkType, .text row.benchmarkType),
    (.benchmarkResult, .real row.result),
    (.extraInfo, .text row.extraInfo),
    (.machineId, .text row.machineId),
    (.board, .text row.board),
    (.cpuName, .text row.cpuName),
    (.cpuConfig, .text row.cpuText),
    (.numCpus, .integer row.topology.cpus),
    (.numCores, .integer row.topology.cores),
    (.numThreads, .integer row.topology.threads),
    (.numNodes, .integer row.topology.numaNodes),
    (.memoryInKiB, .integer row.memoryInKiB),
    (.physicalMemoryInMiB, .integer row.physicalMemoryInMiB),
    (.memoryTypes, .text row.memoryTypes),
    (.openGlRenderer, .text row.openGlRenderer),
    (.gpuDesc, .text row.gpuDesc),
    (.pointerBits, .integer row.pointerBits),
    (.dataFromSuperUser, .ofBool row.fromSuperUser),
    (.usedThreads, .integer row.usedThreads),
    (.benchmarkVersion, .integer row.benchmarkVersion),
    (.userNote, .text row.userNote),
    (.elapsedTime, .real row.elapsed),
    (.machineDataVersion, .integer row.machineDataVersion),
    (.legacy, .ofBool row.legacy),
    (.machineType, .text row.machineType),
    (.submittedAt, .time row.submittedAt) ]

end Row

/-- An artifact: its content and when it was generated. -/
structure Artifact where
  blob : ByteArray
  generatedAt : Instant

/-- The store: rows, oldest first, and artifacts by the text of their key. -/
structure Store where
  rows : List Row
  artifacts : TextMap Artifact

/-- Why the store did not do what it was asked. -/
inductive StoreError where
  /-- A value that must be a number is none. -/
  | missingNumber
  /-- A time cannot be kept as a text. -/
  | unwritableTime
  /-- The files could not be reached. -/
  | io (cause : String)
deriving DecidableEq

/-- The message of a store error. -/
def StoreError.message : StoreError → String
  | .missingNumber => "database error: a column that must hold a number is null"
  | .unwritableTime => "database error: a time cannot be written"
  | .io cause => "io error: " ++ cause

/-- The error of a store call that is made to fail. -/
def injected : StoreError := .io "injected"

namespace Store

/-- The store without rows and artifacts. -/
def empty : Store := ⟨[], TextMap.empty⟩

/-- The columns that an insertion writes, in the order of the statement. -/
def inserted : List Column :=
  [ .benchmarkType, .benchmarkResult, .extraInfo, .machineId, .board,
    .cpuName, .cpuConfig, .numCpus, .numCores, .numThreads, .numNodes,
    .memoryInKiB, .physicalMemoryInMiB, .memoryTypes, .openGlRenderer,
    .gpuDesc, .pointerBits, .dataFromSuperUser, .usedThreads,
    .benchmarkVersion, .userNote, .elapsedTime, .machineDataVersion,
    .legacy, .machineType, .submittedAt ]

/-- The values of an insertion, in the order of the places they are bound to. -/
def binds (m : Measurement) (benchmarkType cpuText : String) (submittedAt : Instant) :
    List Cell :=
  [ .text benchmarkType,
    .ofFloat m.result,
    .text m.extraInfo,
    .text m.machineId,
    .text m.board,
    .text m.cpuName,
    .text cpuText,
    .integer m.topology.cpus,
    .integer m.topology.cores,
    .integer m.topology.threads,
    .integer m.topology.numaNodes,
    .integer m.memoryInKiB,
    .integer m.physicalMemoryInMiB,
    .text m.memoryTypes,
    .text m.openGlRenderer,
    .text m.gpuDesc,
    .integer m.pointerBits,
    .ofBool m.fromSuperUser,
    .integer m.usedThreads,
    .integer m.benchmarkVersion,
    .text m.userNote,
    .ofFloat m.elapsed,
    .integer m.machineDataVersion,
    .ofBool m.legacy,
    .text m.machineType,
    .time submittedAt ]

/-- The row that is inserted behind some rows, if its time can be written and every column has a
value. -/
def row (rows : List Row) (m : Measurement) (benchmarkType cpuText : String)
    (submittedAt : Instant) : Except StoreError Row :=
  if submittedAt.isWritable then
    match Row.ofCells? (rows.length + 1)
        (inserted.zip (binds m benchmarkType cpuText submittedAt)) with
    | some row => .ok row
    | none => .error .missingNumber
  else
    .error .unwritableTime

/-- Some rows with the rows of some records behind them; the insertion at the place `broken` of
the batch fails, if there is one. -/
def appendRows (submittedAt : Instant) :
    Option Nat → List Row → List Record → Except StoreError (List Row)
  | _, rows, [] => .ok rows
  | broken, rows, record :: rest =>
    if broken = some 0 then
      .error injected
    else
      match row rows record.toMeasurement record.benchmarkType record.cpuConfig.stored
          submittedAt with
      | .ok new => appendRows submittedAt (broken.map Nat.pred) (rows ++ [new]) rest
      | .error cause => .error cause

/-- The store with a batch of records appended. -/
def append (store : Store) (broken : Option Nat) (records : List Record)
    (submittedAt : Instant) : Except StoreError Store :=
  match appendRows submittedAt broken store.rows records with
  | .ok rows => .ok { store with rows := rows }
  | .error cause => .error cause

/-- The store with a row appended whose configuration is kept as it was written elsewhere. -/
def importRow (store : Store) (m : Measurement) (benchmarkType cpuText : String)
    (submittedAt : Instant) : Except StoreError Store :=
  match row store.rows m benchmarkType cpuText submittedAt with
  | .ok new => .ok { store with rows := store.rows ++ [new] }
  | .error cause => .error cause

/-- The types of some rows, ascending and each once. -/
def typesOf (rows : List Row) : List String :=
  (TextMap.ofList (rows.map fun row => (row.benchmarkType, ()))).keys

/-- The types of the stored rows, ascending and each once. -/
def types (store : Store) : List String :=
  typesOf store.rows

/-- The rows of a type, in the order they came in. -/
def rowsOf (store : Store) (benchmarkType : String) : List Row :=
  store.rows.filter fun row => row.benchmarkType == benchmarkType

/-- The number of rows. -/
def count (store : Store) : Nat :=
  store.rows.length

/-- The artifact of a key. -/
def artifact? (store : Store) (key : String) : Option Artifact :=
  store.artifacts.get? key

/-- The store with the artifact of a key replaced, if its time can be stored. -/
def putArtifact (store : Store) (key : String) (artifact : Artifact) : Except StoreError Store :=
  if artifact.generatedAt.isWritable then
    .ok { store with artifacts := store.artifacts.insert key artifact }
  else
    .error .unwritableTime

/-- The store after its files were compacted: nothing that can be asked changes. -/
def compact (store : Store) : Store := store

end Store

end BenchDepot
