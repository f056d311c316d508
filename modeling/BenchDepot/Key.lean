import BenchDepot.Json.Codec
import BenchDepot.Text.Cut
import BenchDepot.Text.Quoted

/-!
# Artifact keys

An artifact is served under a key that looks like a file in the root directory: a slash, a name of
ASCII letters, digits, underscores and hyphens, a dot, and an extension of lower case ASCII
letters.  Nothing else is a key, so a key can never leave the directory it is looked up in.  In JSON
a key is the string of its text.

* `toList_text` — how a key is written;
* `text_of_parse` — a text that reads as a key is that key's text.
-/

namespace BenchDepot

/-- Whether a character may stand in the name of a key. -/
def Key.isNameChar (c : Char) : Bool :=
  ('a' ≤ c && c ≤ 'z') || ('A' ≤ c && c ≤ 'Z') || ('0' ≤ c && c ≤ '9') || c == '_' || c == '-'

/-- Whether a character may stand in the extension of a key. -/
def Key.isExtensionChar (c : Char) : Bool :=
  'a' ≤ c && c ≤ 'z'

/-- Whether a text may be the name of a key. -/
def Key.isName (cs : List Char) : Bool :=
  !cs.isEmpty && cs.all Key.isNameChar

/-- Whether a text may be the extension of a key. -/
def Key.isExtension (cs : List Char) : Bool :=
  !cs.isEmpty && cs.all Key.isExtensionChar

/-- The key of an artifact. -/
structure Key where
  name : List Char
  extension : List Char
  name_ok : Key.isName name = true
  extension_ok : Key.isExtension extension = true
deriving DecidableEq

/-- Why a text is not a key.  Each cause carries the text. -/
inductive KeyError where
  /-- It does not start with a slash. -/
  | noSlash (text : String)
  /-- It has no dot after the slash. -/
  | noExtension (text : String)
  /-- The part before the last dot is not a name. -/
  | badName (text : String)
  /-- The part after the last dot is not an extension. -/
  | badExtension (text : String)
deriving DecidableEq

/-- The message of a key error. -/
def KeyError.message : KeyError → String
  | .noSlash text => "invalid artifact key: key must start with '/': " ++ Text.quoted text
  | .noExtension text => "invalid artifact key: key must have an extension: " ++ Text.quoted text
  | .badName text => "invalid artifact key: invalid file name in key: " ++ Text.quoted text
  | .badExtension text => "invalid artifact key: invalid extension in key: " ++ Text.quoted text

namespace Key

/-- The text of a key. -/
def text (key : Key) : String :=
  String.ofList ('/' :: (key.name ++ '.' :: key.extension))

/-- The characters of a key's text. -/
theorem toList_text (key : Key) : key.text.toList = '/' :: (key.name ++ '.' :: key.extension) :=
  String.toList_ofList

/-- A key from the parts around the last dot of a text. -/
def ofParts (text : String) (name extension : List Char) : Except KeyError Key :=
  if hname : isName name = true then
    if hext : isExtension extension = true then
      .ok ⟨name, extension, hname, hext⟩
    else
      .error (.badExtension text)
  else
    .error (.badName text)

/-- The key that a text spells. -/
def parse (text : String) : Except KeyError Key :=
  match text.toList with
  | '/' :: rest =>
    match Text.cutLast '.' rest with
    | some (name, extension) => ofParts text name extension
    | none => .error (.noExtension text)
  | _ => .error (.noSlash text)

/-- A text that reads as a key is that key's text. -/
theorem text_of_parse {text : String} {key : Key} (h : parse text = .ok key) :
    key.text = text := by
  unfold parse at h
  split at h
  · next rest htext =>
    split at h
    · next name extension hcut =>
      have hparts := (Text.cutLast_eq_some hcut).1
      unfold ofParts at h
      split at h
      · split at h
        · cases h
          apply String.toList_injective
          rw [toList_text, htext, hparts]
        · cases h
      · cases h
    · cases h
  · cases h

/-- Keys in JSON: the strings of their texts. -/
def codec : Json.Codec Key where
  encode key := Json.Value.ofString key.text
  decode v := v.text?.bind fun text => (parse text).toOption

/-- The key of the aggregate, the artifact built from the stored results. -/
def aggregate : Key :=
  ⟨['b', 'e', 'n', 'c', 'h', 'm', 'a', 'r', 'k'], ['j', 's', 'o', 'n'], rfl, rfl⟩

/-- The key of the table of PCI device names. -/
def pciIds : Key :=
  ⟨['p', 'c', 'i'], ['i', 'd', 's'], rfl, rfl⟩

/-- The key of the table of USB device names. -/
def usbIds : Key :=
  ⟨['u', 's', 'b'], ['i', 'd', 's'], rfl, rfl⟩

/-- Whether a key is the aggregate's. -/
def isAggregate (key : Key) : Bool :=
  key == aggregate

/-- Whether a key is one of the two tables of device names. -/
def isReferenceTable (key : Key) : Bool :=
  key == pciIds || key == usbIds

/-- Keys in ascending order of their texts, each once. -/
def sortDistinct (keys : List Key) : List Key :=
  let sorted := keys.mergeSort fun a b => decide (a.text ≤ b.text)
  sorted.eraseReps

end Key

end BenchDepot
