import BenchDepot.Measurement
import BenchDepot.Time.Instant

/-!
# The columns of the stored results

The store is asked in statements.  A statement names the columns it writes or reads, in an order of
its own; a value that is written finds its column by its place, and a value that is read is found by
the name of its column.

* `Column` — the columns of a result, in the order of the schema;
* `Cell` — what may stand in a column;
* `Cells` — some columns with what stands in them.
-/

namespace BenchDepot

/-- The columns of a result, beside its number. -/
inductive Column where
  | benchmarkType
  | benchmarkResult
  | extraInfo
  | machineId
  | board
  | cpuName
  | cpuConfig
  | numCpus
  | numCores
  | numThreads
  | numNodes
  | memoryInKiB
  | physicalMemoryInMiB
  | memoryTypes
  | openGlRenderer
  | gpuDesc
  | pointerBits
  | dataFromSuperUser
  | usedThreads
  | benchmarkVersion
  | userNote
  | elapsedTime
  | machineDataVersion
  | legacy
  | machineType
  | submittedAt
deriving DecidableEq

/-- What stands in a column. -/
inductive Cell where
  | null
  | integer (n : Int64)
  | real (x : Float)
  | text (s : String)
  | time (at_ : Instant)

namespace Cell

/-- A flag is kept as a number. -/
def ofBool (b : Bool) : Cell :=
  .integer (if b then 1 else 0)

/-- A double that was computed; what is not a number is no value. -/
def computed (x : Float) : Cell :=
  if x.isNaN then .null else .real x

/-- A double that is kept: zero has no sign, and what is not a number is no value. -/
def ofFloat (x : Float) : Cell :=
  if x.isNaN then .null
  else if x == 0.0 then .real 0.0
  else .real x

/-- A whole number. -/
def int64? : Cell → Option Int64
  | .integer n => some n
  | _ => none

/-- A double. -/
def float? : Cell → Option Float
  | .real x => some x
  | _ => none

/-- A text. -/
def text? : Cell → Option String
  | .text s => some s
  | _ => none

/-- A flag. -/
def bool? : Cell → Option Bool
  | .integer n => some (n != 0)
  | _ => none

/-- A time. -/
def time? : Cell → Option Instant
  | .time at_ => some at_
  | _ => none

end Cell

/-- Some columns with what stands in them. -/
abbrev Cells := List (Column × Cell)

namespace Cells

/-- The whole number in a column. -/
def int64? (cells : Cells) (column : Column) : Option Int64 :=
  (cells.lookup column).bind Cell.int64?

/-- The double in a column. -/
def float? (cells : Cells) (column : Column) : Option Float :=
  (cells.lookup column).bind Cell.float?

/-- The text in a column. -/
def text? (cells : Cells) (column : Column) : Option String :=
  (cells.lookup column).bind Cell.text?

/-- The flag in a column. -/
def bool? (cells : Cells) (column : Column) : Option Bool :=
  (cells.lookup column).bind Cell.bool?

/-- The time in a column. -/
def time? (cells : Cells) (column : Column) : Option Instant :=
  (cells.lookup column).bind Cell.time?

end Cells

end BenchDepot
