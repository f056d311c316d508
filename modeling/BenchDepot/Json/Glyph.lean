/-!
# Bytes as characters

A text that came from outside may hold bytes that belong to no character.  It is read as a list
of glyphs: the characters of its UTF-8 text, and a stray glyph for every byte that is part of
none.  A text that is valid UTF-8 has no stray glyph.

* `ofBytes_toUTF8` — the glyphs of an encoded text are its characters.
-/

namespace BenchDepot.Json

/-- A character, or a byte that belongs to none. -/
inductive Glyph where
  | char (c : Char)
  | stray
deriving DecidableEq

namespace Glyph

/-- The glyphs of a text. -/
def ofString (s : String) : List Glyph :=
  s.toList.map .char

/-- The glyphs of some bytes from an index on, in reverse before the ones already found. -/
def scanFrom (bytes : ByteArray) (i : Nat) (found : List Glyph) : List Glyph :=
  if _ : i < bytes.size then
    match bytes.utf8DecodeChar? i with
    | some c => scanFrom bytes (i + c.utf8Size) (.char c :: found)
    | none => scanFrom bytes (i + 1) (.stray :: found)
  else
    found
termination_by bytes.size - i
decreasing_by
  · have := c.utf8Size_pos
    omega
  · omega

/-- The glyphs of some bytes. -/
def ofBytes (bytes : ByteArray) : List Glyph :=
  match String.fromUTF8? bytes with
  | some s => ofString s
  | none => (scanFrom bytes 0 []).reverse

/-- The glyphs of an encoded text are its characters. -/
theorem ofBytes_toUTF8 (s : String) : ofBytes s.toUTF8 = ofString s := by
  have h : String.fromUTF8? s.toUTF8 = some s := by
    have hvalid : s.toUTF8.IsValidUTF8 := s.isValidUTF8
    simp only [String.fromUTF8?, dif_pos hvalid]
    rfl
  rw [ofBytes, h]

end Glyph

end BenchDepot.Json
