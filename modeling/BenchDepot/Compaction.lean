import BenchDepot.Time.Instant

/-!
# The compaction schedule

The store is compacted at a fixed interval, the first time one interval after the start.  Runs
follow a ticker: a tick that is waited for in time comes when it is due, and one that is waited for
late comes at once.  A tick that comes as much as five milliseconds late is taken for punctual, and
the next one is due an interval after this one was; any later one is a missed tick, and the next one
is due an interval after it came.  So a run that is late is not made up for.  A run that fails is
counted and changes nothing else.

Times are in nanoseconds.

* `Ticker.tick` — when a tick comes that is waited for from some time on;
* `Loop.runAll` — the loop of runs that take given times;
* `Timer.advance` — the same loop, with runs that take no time, on a clock that somebody moves by
  whole seconds.
-/

namespace BenchDepot.Compaction

/-- A ticker: its interval, and when the next tick is due. -/
structure Ticker where
  interval : Nat
  due : Nat
deriving DecidableEq

namespace Ticker

/-- How late a tick may come and still be punctual. -/
def tolerance : Nat := 5000000

/-- A ticker whose first tick is due one interval from some time. -/
def start (interval now : Nat) : Ticker := ⟨interval, now + interval⟩

/-- Whether a tick that comes at some time was missed. -/
def misses (ticker : Ticker) (comes : Nat) : Bool :=
  decide (ticker.due + tolerance < comes)

/-- The ticker after a tick that came at some time. -/
def next (ticker : Ticker) (comes : Nat) : Ticker :=
  { ticker with due := (if ticker.misses comes then comes else ticker.due) + ticker.interval }

/-- When a tick comes that is waited for from some time on, and the ticker after it. -/
def tick (ticker : Ticker) (now : Nat) : Nat × Ticker :=
  let comes := max now ticker.due
  (comes, ticker.next comes)

end Ticker

/-- The runs so far, by result. -/
structure Tally where
  succeeded : Nat := 0
  failed : Nat := 0
deriving DecidableEq

namespace Tally

/-- The runs so far. -/
def runs (tally : Tally) : Nat :=
  tally.succeeded + tally.failed

/-- A tally with one more run, which may have failed. -/
def add (tally : Tally) (fails : Bool) : Tally :=
  if fails then { tally with failed := tally.failed + 1 }
  else { tally with succeeded := tally.succeeded + 1 }

end Tally

/-- A run: how long it takes, and whether it fails. -/
structure Run where
  duration : Nat
  fails : Bool
deriving DecidableEq

/-- The loop: its ticker, the time at which it waits for the next tick, when its runs started, and
the runs so far. -/
structure Loop where
  ticker : Ticker
  now : Nat
  starts : List Nat
  tally : Tally
deriving DecidableEq

namespace Loop

/-- A loop that starts at some time. -/
def start (interval now : Nat) : Loop := ⟨Ticker.start interval now, now, [], {}⟩

/-- The loop after one more run. -/
def step (loop : Loop) (run : Run) : Loop :=
  let (comes, ticker) := loop.ticker.tick loop.now
  ⟨ticker, comes + run.duration, loop.starts ++ [comes], loop.tally.add run.fails⟩

/-- The loop after some runs. -/
def runAll (loop : Loop) (runs : List Run) : Loop :=
  runs.foldl step loop

end Loop

namespace Timer

/-- A loop that starts now, with an interval in seconds. -/
def start (interval : Nat) : Loop := Loop.start (interval * nanosPerSecond) 0

/-- The loop after the clock moved by some seconds: if a run is due by then, there is one, which
takes no time.  Which runs fail is given by their number.  Without an interval there are no runs. -/
def advance (fails : Nat → Bool) (loop : Loop) (time : Nat) : Loop :=
  let waiting := { loop with now := loop.now + time * nanosPerSecond }
  if 0 < waiting.ticker.interval ∧ waiting.ticker.due ≤ waiting.now then
    waiting.step ⟨0, fails waiting.tally.runs⟩
  else
    waiting

/-- The loop after each of several moves of the clock. -/
def advanceAll (fails : Nat → Bool) : Loop → List Nat → List Loop
  | _, [] => []
  | loop, time :: rest =>
    let next := advance fails loop time
    next :: advanceAll fails next rest

end Timer

end BenchDepot.Compaction
