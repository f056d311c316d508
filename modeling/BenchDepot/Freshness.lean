import BenchDepot.Settings.Basic
import BenchDepot.Time.Instant

/-!
# Freshness

How long an artifact stays fresh depends on the class of its key: the aggregate, the tables of
device names, and the rest.  An artifact is stale when more time than that has passed since it was
generated, to the nanosecond; one generated in the future is fresh.
-/

namespace BenchDepot

/-- How many seconds artifacts stay fresh, by class of key. -/
structure TtlPolicy where
  aggregate : Int64
  referenceTable : Int64
  other : Int64
deriving DecidableEq

/-- A number of seconds that fits a signed 64-bit integer: the largest one if it is larger. -/
def clampSeconds (seconds : UInt64) : Int64 :=
  if seconds.toNat < 0x8000000000000000 then Int64.ofInt seconds.toNat else Int64.maxValue

/-- The policy that some settings describe. -/
def CacheSettings.policy (s : CacheSettings) : TtlPolicy :=
  ⟨clampSeconds s.aggregate, clampSeconds s.referenceTable, clampSeconds s.other⟩

namespace TtlPolicy

/-- How many seconds the artifact of a key stays fresh. -/
def ttl (policy : TtlPolicy) (key : Key) : Int64 :=
  if key.isAggregate then policy.aggregate
  else if key.isReferenceTable then policy.referenceTable
  else policy.other

/-- Whether an artifact generated at some time is stale. -/
def isStale (policy : TtlPolicy) (key : Key) (generatedAt now : Instant) : Bool :=
  (now.since generatedAt).exceeds (policy.ttl key)

end TtlPolicy

end BenchDepot
