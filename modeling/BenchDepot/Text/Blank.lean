/-!
# Blank characters

The characters that count as space when a label, a count or a benchmark type is trimmed: the
Unicode property White_Space, which is wider than the four blanks of JSON and than the class of
`Char.isWhitespace`.

* `trim` — a text without its outer blanks;
* `trimStart_eq_nil_iff` — trimming leaves nothing exactly when all of a text is blank.
-/

namespace BenchDepot.Text

/-- The code points of White_Space, as inclusive ranges. -/
def blankRanges : List (Nat × Nat) :=
  [(0x09, 0x0d), (0x20, 0x20), (0x85, 0x85), (0xa0, 0xa0), (0x1680, 0x1680), (0x2000, 0x200a),
    (0x2028, 0x2029), (0x202f, 0x202f), (0x205f, 0x205f), (0x3000, 0x3000)]

/-- Whether a code point lies in one of some inclusive ranges. -/
def inRanges (ranges : List (Nat × Nat)) (code : Nat) : Bool :=
  ranges.any fun range => range.1 ≤ code && code ≤ range.2

/-- Whether a character has the property White_Space. -/
def isBlank (c : Char) : Bool :=
  inRanges blankRanges c.toNat

/-- A text without the blanks it starts with. -/
def trimStart (cs : List Char) : List Char :=
  cs.dropWhile isBlank

/-- A text without the blanks it ends with. -/
def trimEnd (cs : List Char) : List Char :=
  (cs.reverse.dropWhile isBlank).reverse

/-- A text without the blanks around it. -/
def trim (cs : List Char) : List Char :=
  trimEnd (trimStart cs)

/-- Whether a text holds nothing but blanks; the empty text does. -/
def allBlank (cs : List Char) : Bool :=
  cs.all isBlank

/-- Trimming the start leaves nothing exactly when all of a text is blank. -/
theorem trimStart_eq_nil_iff (cs : List Char) : trimStart cs = [] ↔ allBlank cs = true := by
  induction cs with
  | nil => simp [trimStart, allBlank]
  | cons c rest ih =>
    simp only [trimStart, allBlank, List.dropWhile_cons, List.all_cons] at ih ⊢
    cases isBlank c <;> simp [ih]

end BenchDepot.Text
