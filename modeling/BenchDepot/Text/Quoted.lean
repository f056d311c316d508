import BenchDepot.Text.Marks

/-!
# Quoted texts in messages

A message shows the text it complains about between double quotes, with every character that
could be misread replaced by an escape: the quote and the backslash, the usual controls by a
letter, and everything that prints nothing or sticks to its neighbour by its code.
-/

namespace BenchDepot.Text

/-- A character by its code, in lower case hexadecimal digits without padding. -/
def codeEscape (c : Char) : List Char :=
  '\\' :: 'u' :: '{' :: (Nat.toDigits 16 c.toNat ++ ['}'])

/-- How a quoted text shows one character. -/
def quotedChar (c : Char) : List Char :=
  if c = '"' then ['\\', '"']
  else if c = '\\' then ['\\', '\\']
  else if c = '\n' then ['\\', 'n']
  else if c = '\r' then ['\\', 'r']
  else if c = '\t' then ['\\', 't']
  else if c.toNat = 0 then ['\\', '0']
  else if isMark c || isHidden c then codeEscape c
  else [c]

/-- A text between double quotes, as messages show it. -/
def quoted (text : String) : String :=
  String.ofList ('"' :: (text.toList.flatMap quotedChar ++ ['"']))

end BenchDepot.Text
