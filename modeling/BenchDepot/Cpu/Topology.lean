/-!
# Processor topology

How many processors, cores, threads and NUMA nodes a machine has, and the English phrase for it:
`2 CPUs; 16 cores; 32 threads; 2 NUMA nodes`.  The processors are always mentioned, the rest only
where there is more than one.
-/

namespace BenchDepot.Cpu

/-- The counts of a machine's processors, cores, threads and NUMA nodes. -/
structure Topology where
  cpus : Int64
  cores : Int64
  threads : Int64
  numaNodes : Int64
deriving DecidableEq, Inhabited

namespace Topology

/-- The decimal text of a count. -/
def count (n : Int64) : String :=
  toString n.toInt

/-- The phrase for the processors. -/
def cpuPhrase (n : Int64) : String :=
  count n ++ (if 1 < n then " CPUs" else " CPU")

/-- The phrase for a count that is only mentioned when it is more than one. -/
def phrase (n : Int64) (noun : String) : String :=
  if 1 < n then "; " ++ count n ++ " " ++ noun else ""

/-- The phrase for a topology. -/
def describe (t : Topology) : String :=
  cpuPhrase t.cpus ++ phrase t.cores "cores" ++ phrase t.threads "threads"
    ++ phrase t.numaNodes "NUMA nodes"

end Topology

end BenchDepot.Cpu
