import BenchDepot.Text.Blank
import BenchDepot.Text.Cut

/-!
# Which notices are shown

A start gives notice of how far it has come.  Notices have a level and a source, and a filter says
which of them are shown.  Its text lists directives with commas between them: a level, the start of
a source's name, or both with an equals sign.  Of the directives that fit a source the one with the
longest name counts, and of several equally long ones the last.

* `Filter.ofText?` — the filter of a text;
* `Filter.shows` — whether a notice is shown.
-/

namespace BenchDepot.Startup

/-- The levels of notices, from nothing at all to everything, by their place. -/
def levelNames : List String := ["off", "error", "warn", "info", "debug", "trace"]

/-- The level of ordinary notices. -/
def ordinary : Nat := 3

/-- The level of everything. -/
def everything : Nat := 5

/-- The level that a text names, in any case, or numbers. -/
def level? (cs : List Char) : Option Nat :=
  let digits :=
    match cs with
    | '+' :: rest => rest
    | cs => cs
  if !digits.isEmpty && digits.all Char.isDigit then
    let n := Nat.ofDigitChars 10 digits 0
    if n ≤ everything then some n else none
  else
    let name := String.ofList (cs.map Char.toLower)
    levelNames.findIdx? (· == name)

/-- A part of a filter: up to which level notices are shown whose source starts with a name. -/
structure Directive where
  source : String
  level : Nat
deriving DecidableEq

namespace Directive

/-- Whether a character may start a directive. -/
def isStart (c : Char) : Bool :=
  c == '[' || c == '-' || c == ':' || c == '_' || c.isAlphanum || decide (0x7f < c.toNat)

/-- The directive of a text.  The blanks in front of it count for where its name ends, but not for
where the equals sign stands. -/
def ofText? (cs : List Char) : Option Directive :=
  match Text.trim cs with
  | [] => some ⟨"", everything⟩
  | c :: rest =>
    if isStart c then
      let place := ((c :: rest).takeWhile (· != '=')).length
      if place = (c :: rest).length then
        match level? cs with
        | some level => some ⟨"", level⟩
        | none => some ⟨String.ofList cs, everything⟩
      else
        let value := cs.drop (place + 1)
        if value.isEmpty then some ⟨String.ofList (cs.take place), everything⟩
        else (level? value).map fun level => ⟨String.ofList (cs.take place), level⟩
    else
      none

/-- Whether a directive fits a source. -/
def fits (directive : Directive) (source : String) : Bool :=
  directive.source.toList.isPrefixOf source.toList

end Directive

/-- Which notices are shown. -/
abbrev Filter := List Directive

namespace Filter

/-- The filter of a text.  Without directives only errors are shown. -/
def ofText? (text : String) : Option Filter :=
  let pieces := (Text.pieces ',' text.toList).filter fun piece => !piece.isEmpty
  if pieces.isEmpty then some [⟨"", 1⟩] else pieces.mapM Directive.ofText?

/-- The filter where none is given, or none that can be read: ordinary notices of all sources. -/
def standard : Filter := [⟨"", ordinary⟩]

/-- The filter that a text gives, if there is one. -/
def given (text : Option String) : Filter :=
  (text.bind ofText?).getD standard

/-- The directive that counts for a source, if one fits. -/
def directive? (filter : Filter) (source : String) : Option Directive :=
  (filter.filter (·.fits source)).foldl
    (fun best next =>
      match best with
      | some old => if old.source.length ≤ next.source.length then some next else some old
      | none => some next)
    none

/-- Whether notices of a level from a source are shown. -/
def shows (filter : Filter) (source : String) (level : Nat) : Bool :=
  (filter.directive? source).any fun directive => decide (level ≤ directive.level)

end Filter

end BenchDepot.Startup
