import BenchDepot.Decimal.Progress
import BenchDepot.Decimal.Shortest
import BenchDepot.Text.Cut
import BenchDepot.Time.Calendar
import BenchDepot.Toml.Value

/-!
# Words as values

A value without quotes or brackets is a word: a truth value, a number, or a date and time.  Digits
may be grouped by single underscores, each between two digits.  Integers may be written in four
bases and must fit 64 bits; other numbers may be as small as they like, but must not be too large
for a double, unless they are negative.
-/

namespace BenchDepot.Toml

open Decimal (Progress Numeral)

/-- Whether every underscore of a text stands between two characters of a kind. -/
def isGrouped (isDigit : Char → Bool) : List Char → Bool
  | [] => true
  | [c] => c != '_'
  | c :: d :: rest =>
    (d != '_' || isDigit c) && (c != '_' || isDigit d) && isGrouped isDigit (d :: rest)

/-- A text without its underscores, if they group characters of a kind. -/
def ungrouped? (isDigit : Char → Bool) (cs : List Char) : Option (List Char) :=
  if cs.head? != some '_' && isGrouped isDigit cs then some (cs.filter (· != '_')) else none

/-- The value of a digit in the bases up to sixteen, in either case. -/
def digitValue (c : Char) : Nat :=
  if c.isDigit then c.toNat - '0'.toNat
  else if 'a' ≤ c ∧ c ≤ 'f' then c.toNat - 'a'.toNat + 10
  else if 'A' ≤ c ∧ c ≤ 'F' then c.toNat - 'A'.toNat + 10
  else 16

/-- An integer that fits 64 bits. -/
def integer? (i : Int) : Option Value :=
  if Int64.minValue.toInt ≤ i ∧ i ≤ Int64.maxValue.toInt then some (.integer i) else none

/-- The integer of some digits in a base. -/
def ofBase? (base : Nat) (cs : List Char) : Option Value :=
  let isDigit c := decide (digitValue c < base)
  match ungrouped? isDigit cs with
  | some (d :: digits) =>
    if (d :: digits).all isDigit then
      integer? ((d :: digits).foldl (fun n c => base * n + digitValue c) 0 : Nat)
    else
      none
  | _ => none

/-- The numeral that a text spells. -/
def numeral? : List Char → Option Numeral
  | [] => none
  | c :: rest =>
    match Progress.start? c with
    | none => none
    | some start => (rest.foldlM Progress.step start).bind Progress.finish

/-- The double next to a numeral without its sign. -/
def nearest (n : Numeral) : Float :=
  Decimal.nearest (n.fraction.foldl (fun whole d => 10 * whole + d.val) n.whole)
    (n.exponent.getD 0 - n.fraction.length)

/-- The decimal number of a text; a plus sign may stand in front of its digits. -/
def ofDecimal? (cs : List Char) : Option Value :=
  let body :=
    match cs with
    | '+' :: '-' :: _ => []
    | '+' :: rest => rest
    | cs => cs
  match (ungrouped? Char.isDigit body).bind numeral? with
  | none => none
  | some n =>
    if n.fraction.isEmpty && n.exponent.isNone then
      integer? (if n.negative then -(n.whole : Int) else n.whole)
    else
      if n.negative || (nearest n).isFinite then some .real else none

/-- The number of a text. -/
def number? : List Char → Option Value
  | '0' :: 'x' :: digits => ofBase? 16 digits
  | '0' :: 'o' :: digits => ofBase? 8 digits
  | '0' :: 'b' :: digits => ofBase? 2 digits
  | cs => ofDecimal? cs

/-! ## Dates and times -/

/-- The number of some digits, if there are as many as there should be. -/
def fixed? (width : Nat) (cs : List Char) : Option Nat :=
  if cs.length = width ∧ cs.all Char.isDigit then
    some (cs.foldl (fun n c => 10 * n + digitValue c) 0)
  else
    none

/-- Whether a text spells a date of the calendar: one that is the date of its own day. -/
def isDate (cs : List Char) : Bool :=
  match Text.pieces '-' cs with
  | [year, month, day] =>
    match fixed? 4 year, fixed? 2 month, fixed? 2 day with
    | some year, some month, some day =>
      let date : Date := ⟨year, month, day⟩
      decide (Date.ofDay date.toDay = date)
    | _, _, _ => false
  | _ => false

/-- Whether a text spells the seconds of a time, which may be those of a leap second. -/
def isSeconds (cs : List Char) : Bool :=
  match Text.pieces '.' cs with
  | [whole] => (fixed? 2 whole).any (· ≤ 60)
  | [whole, part] => (fixed? 2 whole).any (· ≤ 60) && !part.isEmpty && part.all Char.isDigit
  | _ => false

/-- Whether a text spells hours and minutes. -/
def isHourMinute (hour minute : List Char) : Bool :=
  (fixed? 2 hour).any (· ≤ 23) && (fixed? 2 minute).any (· ≤ 59)

/-- Whether a text spells a time of day. -/
def isTime (cs : List Char) : Bool :=
  match Text.pieces ':' cs with
  | [hour, minute, seconds] => isHourMinute hour minute && isSeconds seconds
  | _ => false

/-- Whether a text spells the distance of a clock from the universal one. -/
def isOffset : List Char → Bool
  | ['Z'] => true
  | ['z'] => true
  | sign :: rest =>
    match Text.pieces ':' rest with
    | [hour, minute] => (sign == '+' || sign == '-') && isHourMinute hour minute
    | _ => false
  | [] => false

/-- Whether a character starts the distance of a clock. -/
def startsOffset (c : Char) : Bool :=
  c == 'Z' || c == 'z' || c == '+' || c == '-'

/-- Whether a text spells a time of day, with or without an offset. -/
def isClock (cs : List Char) : Bool :=
  let offset := cs.dropWhile (!startsOffset ·)
  isTime (cs.takeWhile (!startsOffset ·)) && (offset.isEmpty || isOffset offset)

/-- Whether a text spells a date, a time, or both. -/
def isMoment (cs : List Char) : Bool :=
  isTime cs || isDate cs
    || (isDate (cs.take 10) && isClock (cs.drop 11)
      && (cs[10]?).any fun c => c == 'T' || c == 't' || c == ' ')

/-! ## Words -/

/-- The words for numbers that are not finite, without their sign. -/
def notFinite : List (List Char) := [['i', 'n', 'f'], ['n', 'a', 'n']]

/-- A text without the sign it may start with. -/
def unsigned : List Char → List Char
  | '+' :: rest => rest
  | '-' :: rest => rest
  | cs => cs

/-- The value of a word. -/
def Value.ofWord? (cs : List Char) : Option Value :=
  if cs = ['t', 'r', 'u', 'e'] then some (.bool true)
  else if cs = ['f', 'a', 'l', 's', 'e'] then some (.bool false)
  else if notFinite.contains (unsigned cs) then some .real
  else if isMoment cs then some .moment
  else number? cs

end BenchDepot.Toml
