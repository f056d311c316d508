/-!
# Values of a TOML document

A document is a table: members with different names.  What no setting holds is told apart but not
kept: numbers that are not written as integers, and dates and times.  Variables of the environment
hold such values too, and two kinds that no document has.
-/

namespace BenchDepot.Toml

/-- A value of a document. -/
inductive Value where
  | text (s : String)
  /-- A character between single quotes, as a variable holds it. -/
  | character (c : Char)
  | integer (i : Int)
  /-- A number without a minus sign, as a variable holds it. -/
  | natural (n : Nat)
  /-- A number with a fraction or an exponent, or one that is not finite. -/
  | real
  | bool (b : Bool)
  /-- A date, a time, or both. -/
  | moment
  | array (items : List Value)
  | table (members : List (String × Value))

/-- A table: its members. -/
abbrev Table := List (String × Value)

namespace Table

/-- The value of a member. -/
def get? (table : Table) (name : String) : Option Value :=
  (table.find? fun m => m.1 == name).map (·.2)

end Table

end BenchDepot.Toml
