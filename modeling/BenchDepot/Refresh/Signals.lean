import BenchDepot.Key

/-!
# Refresh signals

Whoever finds an artifact missing or stale signals its key, and never waits: the signals go into a
queue with a bounded number of places, and one that finds no place is dropped.  The queue is
emptied from its front.  Once its reader is gone, every signal is dropped.
-/

namespace BenchDepot

/-- The queue of refresh signals, oldest first. -/
structure Signals where
  pending : List Key
  capacity : Nat
  isOpen : Bool
deriving DecidableEq

namespace Signals

/-- An empty queue with some number of places. -/
def ofCapacity (capacity : Nat) : Signals := ⟨[], capacity, true⟩

/-- Whether a signal finds a place. -/
def hasRoom (signals : Signals) : Bool :=
  signals.isOpen && decide (signals.pending.length < signals.capacity)

/-- The queue after a signal: at its end if it finds a place. -/
def send (signals : Signals) (key : Key) : Signals :=
  if signals.hasRoom then { signals with pending := signals.pending ++ [key] } else signals

/-- The oldest signal, and the queue without it. -/
def receive? (signals : Signals) : Option (Key × Signals) :=
  match signals.pending with
  | [] => none
  | key :: rest => some (key, { signals with pending := rest })

/-- The queue with nothing in it. -/
def cleared (signals : Signals) : Signals :=
  { signals with pending := [] }

/-- The queue without a reader: what was in it is lost. -/
def closed (signals : Signals) : Signals :=
  { signals with pending := [], isOpen := false }

end Signals

end BenchDepot
