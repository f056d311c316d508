import BenchDepot.Key

/-!
# Debouncing

A key that was dispatched is not dispatched again until the cooldown has passed since that dispatch
started.  The table of dispatches forgets a dispatch once its cooldown is over, so that it holds
the keys of one cooldown only; past a bound on their number it forgets the oldest.

Times are nanoseconds of a clock that never goes back.
-/

namespace BenchDepot

/-- The latest dispatch of each key that is remembered: the key and when the dispatch started. -/
abbrev Dispatches := List (Key × Nat)

/-- The largest number of keys that are remembered. -/
def maxTracked : Nat := 10000

namespace Dispatches

/-- When the remembered dispatch of a key started. -/
def startOf? (key : Key) : Dispatches → Option Nat
  | [] => none
  | (k, start) :: rest => if k = key then some start else startOf? key rest

/-- Whether a dispatch is within its cooldown. -/
def isLive (cooldown now start : Nat) : Bool :=
  decide (now - start < cooldown)

/-- Whether a key may not be dispatched yet. -/
def blocks (table : Dispatches) (cooldown now : Nat) (key : Key) : Bool :=
  match table.startOf? key with
  | some start => isLive cooldown now start
  | none => false

/-- The dispatches within their cooldown. -/
def live (table : Dispatches) (cooldown now : Nat) : Dispatches :=
  table.filter fun e => isLive cooldown now e.2

/-- The table without a key. -/
def without (table : Dispatches) (key : Key) : Dispatches :=
  table.filter fun e => e.1 ≠ key

/-- The key whose dispatch started first. -/
def oldest? : Dispatches → Option (Key × Nat)
  | [] => none
  | e :: rest =>
    match oldest? rest with
    | some other => if other.2 < e.2 then some other else some e
    | none => some e

/-- The table with a place for one more key. -/
def withPlace (table : Dispatches) (key : Key) : Dispatches :=
  if maxTracked ≤ table.length ∧ table.startOf? key = none then
    match table.oldest? with
    | some e => table.without e.1
    | none => table
  else
    table

/-- The table after a dispatch of a key that started at some time. -/
def record (table : Dispatches) (cooldown now : Nat) (key : Key) (start : Nat) : Dispatches :=
  (key, start) :: ((table.live cooldown now).withPlace key).without key

/-- A recorded dispatch is remembered. -/
theorem startOf?_record_self (table : Dispatches) (cooldown now : Nat) (key : Key)
    (start : Nat) : (table.record cooldown now key start).startOf? key = some start := by
  simp [record, startOf?]

end Dispatches

end BenchDepot
