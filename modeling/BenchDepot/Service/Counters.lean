/-!
# Counters

What a service counts, and the page on which a scraper reads it.  A family of counters has a name,
a line of help and one value for each of its labels; the page lists the families by name.
-/

namespace BenchDepot

/-- A count for each kind of refresh. -/
structure ByKind where
  aggregate : Nat := 0
  origin : Nat := 0
deriving DecidableEq

/-- Everything a service counts. -/
structure Counters where
  freshReads : Nat := 0
  staleReads : Nat := 0
  missingReads : Nat := 0
  droppedSignals : Nat := 0
  debounced : Nat := 0
  dispatches : ByKind := {}
  failures : ByKind := {}
  durations : ByKind := {}
  skippedTypes : Nat := 0
  ingested : Nat := 0
  rejected : Nat := 0
  compactions : Nat := 0
  failedCompactions : Nat := 0
deriving DecidableEq

/-- The two kinds of refresh. -/
inductive RefreshKind where
  | aggregate
  | origin
deriving DecidableEq

/-- A count with one more of a kind. -/
def ByKind.increment (counts : ByKind) : RefreshKind → ByKind
  | .aggregate => { counts with aggregate := counts.aggregate + 1 }
  | .origin => { counts with origin := counts.origin + 1 }

/-- The count of a kind. -/
def ByKind.get (counts : ByKind) : RefreshKind → Nat
  | .aggregate => counts.aggregate
  | .origin => counts.origin

/-- The counts of all kinds together. -/
def ByKind.total (counts : ByKind) : Nat :=
  counts.aggregate + counts.origin

/-- A family of counters: its samples have a name of their own, with labels, and a value. -/
structure Family where
  name : String
  help : String
  type : String
  samples : List (String × Nat)

namespace Family

/-- A sample name with one label. -/
def labelled (name label value : String) : String :=
  name ++ "\x7b" ++ label ++ "=\"" ++ value ++ "\"\x7d"

/-- A counter without labels. -/
def plain (name help : String) (value : Nat) : Family :=
  ⟨name, help, "counter", [(name, value)]⟩

/-- A counter with one label. -/
def byLabel (name help label : String) (values : List (String × Nat)) : Family :=
  ⟨name, help, "counter", values.map fun v => (labelled name label v.1, v.2)⟩

/-- The lines of a family. -/
def lines (family : Family) : List String :=
  [ "# HELP " ++ family.name ++ " " ++ family.help,
    "# TYPE " ++ family.name ++ " " ++ family.type ]
  ++ family.samples.map fun s => s.1 ++ " " ++ toString s.2

end Family

namespace Counters

/-- The values of a count by kind. -/
def kinds (counts : ByKind) : List (String × Nat) :=
  [("aggregate", counts.aggregate), ("origin", counts.origin)]

/-- The families of all counters, by name. -/
def families (c : Counters) : List Family :=
  [ Family.plain "benchcache_aggregate_types_skipped_total"
      "Benchmark types left out of an aggregate rebuild after a query failure" c.skippedTypes,
    Family.byLabel "benchcache_artifact_reads_total"
      "Artifact reads by outcome (fresh, stale, missing)" "outcome"
      [("fresh", c.freshReads), ("missing", c.missingReads), ("stale", c.staleReads)],
    Family.byLabel "benchcache_compactions_total" "Storage compactions by result (ok, error)"
      "result" [("error", c.failedCompactions), ("ok", c.compactions)],
    Family.plain "benchcache_records_ingested_total"
      "Benchmark records appended to the record store" c.ingested,
    Family.plain "benchcache_refresh_debounced_total"
      "Refresh signals ignored because the key is within its cooldown" c.debounced,
    Family.byLabel "benchcache_refresh_dispatches_total"
      "Refreshes dispatched by kind (aggregate, origin)" "kind" (kinds c.dispatches),
    { name := "benchcache_refresh_duration_seconds"
      help := "Time taken by a dispatched refresh, by kind"
      type := "histogram"
      samples := (kinds c.durations).map fun v =>
        (Family.labelled "benchcache_refresh_duration_seconds_count" "kind" v.1, v.2) },
    Family.byLabel "benchcache_refresh_failures_total"
      "Failed refreshes by kind (aggregate, origin)" "kind" (kinds c.failures),
    Family.plain "benchcache_refresh_signals_dropped_total"
      "Refresh signals dropped because the queue was full" c.droppedSignals,
    Family.plain "benchcache_submissions_rejected_total"
      "Benchmark uploads rejected by validation" c.rejected ]

/-- The samples of all counters. -/
def samples (c : Counters) : List (String × Nat) :=
  c.families.flatMap fun family => family.samples

/-- The page of all counters. -/
def page (c : Counters) : String :=
  String.join ((c.families.flatMap Family.lines).map (· ++ "\n"))

end Counters

end BenchDepot
