/-!
# Cutting a text

Cutting a text at a separator, at the last separator, and removing every occurrence of a word.
All of them walk the text once, from its start.

* `join_pieces` — the pieces of a text, joined again, are the text;
* `cutLast_eq_some` — a cut at the last separator loses nothing, and the second part has no
  separator.
-/

namespace BenchDepot.Text

/-- The parts of a text between the occurrences of a separator; there is always at least one. -/
def pieces (sep : Char) : List Char → List (List Char)
  | [] => [[]]
  | c :: rest =>
    if c = sep then
      [] :: pieces sep rest
    else
      match pieces sep rest with
      | [] => [[c]]
      | piece :: more => (c :: piece) :: more

/-- A text always has a first piece. -/
theorem pieces_ne_nil (sep : Char) (cs : List Char) : pieces sep cs ≠ [] := by
  cases cs with
  | nil => simp [pieces]
  | cons c rest =>
    simp only [pieces]
    split
    · simp
    · split <;> simp

/-- The pieces of a text with the separator put back between them are the text. -/
theorem join_pieces (sep : Char) (cs : List Char) :
    [sep].intercalate (pieces sep cs) = cs := by
  induction cs with
  | nil => simp [pieces, List.intercalate]
  | cons c rest ih =>
    have hne := pieces_ne_nil sep rest
    simp only [pieces]
    cases hp : pieces sep rest with
    | nil => exact absurd hp hne
    | cons piece more =>
      rw [hp] at ih
      split
      · next h =>
        subst h
        rw [← ih]
        cases more <;> simp [List.intercalate]
      · rw [← ih]
        cases more <;> simp [List.intercalate]

/-- The two parts around the last occurrence of a separator. -/
def cutLast (sep : Char) : List Char → Option (List Char × List Char)
  | [] => none
  | c :: rest =>
    match cutLast sep rest with
    | some (before, after) => some (c :: before, after)
    | none => if c = sep then some ([], rest) else none

/-- There is no cut exactly when the separator does not occur. -/
theorem cutLast_eq_none_iff (sep : Char) (cs : List Char) :
    cutLast sep cs = none ↔ sep ∉ cs := by
  induction cs with
  | nil => simp [cutLast]
  | cons c rest ih =>
    simp only [cutLast]
    cases hc : cutLast sep rest with
    | some parts =>
      have : sep ∈ rest := by
        apply Classical.byContradiction
        intro h
        rw [ih.mpr h] at hc
        exact absurd hc (by simp)
      simp [this]
    | none =>
      have hrest := ih.mp hc
      by_cases h : c = sep
      · simp [h]
      · simp [h, hrest, Ne.symm h]

/-- A cut at the last separator loses nothing, and leaves no separator behind it. -/
theorem cutLast_eq_some {sep : Char} {cs before after : List Char}
    (h : cutLast sep cs = some (before, after)) :
    cs = before ++ sep :: after ∧ sep ∉ after := by
  induction cs generalizing before with
  | nil => simp [cutLast] at h
  | cons c rest ih =>
    simp only [cutLast] at h
    cases hc : cutLast sep rest with
    | some parts =>
      obtain ⟨start, finish⟩ := parts
      rw [hc] at h
      simp only [Option.some.injEq, Prod.mk.injEq] at h
      obtain ⟨rfl, rfl⟩ := h
      obtain ⟨hrest, hnot⟩ := ih hc
      exact ⟨by rw [hrest]; rfl, hnot⟩
    | none =>
      rw [hc] at h
      have hnot := (cutLast_eq_none_iff sep rest).mp hc
      by_cases hsep : c = sep
      · simp only [hsep, if_true, Option.some.injEq, Prod.mk.injEq] at h
        obtain ⟨rfl, rfl⟩ := h
        exact ⟨by rw [hsep]; rfl, hnot⟩
      · simp [hsep] at h

/-- A text without the occurrences of a word: `skip` characters of an occurrence are still due. -/
def removeFrom (word : List Char) : Nat → List Char → List Char
  | _, [] => []
  | skip + 1, _ :: rest => removeFrom word skip rest
  | 0, c :: rest =>
    if word.isPrefixOf (c :: rest) then
      removeFrom word (word.length - 1) rest
    else
      c :: removeFrom word 0 rest

/-- A text without the occurrences of a non-empty word, found from the left without overlap. -/
def remove (word : List Char) (cs : List Char) : List Char :=
  removeFrom word 0 cs

/-- Texts joined with a separating text between any two neighbours. -/
def join (sep : List Char) (parts : List (List Char)) : List Char :=
  sep.intercalate parts

/-- A text without the copies of a character that it ends with. -/
def dropTrailing (c : Char) (cs : List Char) : List Char :=
  (cs.reverse.dropWhile (· == c)).reverse

end BenchDepot.Text
