import Mathlib.Computability.RegularExpressions
import BenchDepot.Key
import BenchDepot.Proofs.JsonText

/-!
# The grammar of keys

One regular expression says which texts are keys: `/[A-Za-z0-9_-]+\.[a-z]+`, matched against the
whole text.  The reader of keys does not match it.  It cuts the text at the last dot and looks at
the two parts, and what it says of a text that it refuses hangs on the order in which it looks.
Both accept the same texts, because no dot can stand in a name: the last dot of what the expression
matches is the only one.

* `mem_pattern_iff` — what the expression matches, part by part;
* `parse_eq_ok_iff` — a text reads as the key whose text it is;
* `refusal_of_parse`, `parse_of_refusal` — what is said of any other text;
* `decode_eq_some_iff` — keys in JSON;
* `readsByPattern` — every text.
-/

namespace BenchDepot

open Json (Value Piece)

/-- The last separator is the one with none behind it. -/
theorem Text.cutLast_append {sep : Char} {after : List Char} (before : List Char)
    (h : sep ∉ after) : cutLast sep (before ++ sep :: after) = some (before, after) := by
  induction before with
  | nil =>
      rw [List.nil_append, cutLast, (cutLast_eq_none_iff sep after).mpr h]
      exact if_pos rfl
  | cons c before ih =>
      rw [List.cons_append, cutLast, ih]

namespace Key

/-! ## The expression -/

/-- The characters of a name. -/
def nameLetters : List Char :=
  "ABCDEFGHIJKLMNOPQRSTUVWXYZabcdefghijklmnopqrstuvwxyz0123456789_-".toList

/-- The characters of an extension. -/
def extensionLetters : List Char :=
  "abcdefghijklmnopqrstuvwxyz".toList

/-- One of some characters. -/
def oneOf (letters : List Char) : RegularExpression Char :=
  letters.foldr (fun c others => .char c + others) 0

/-- One or more of some characters. -/
def oneOrMore (letters : List Char) : RegularExpression Char :=
  oneOf letters * (oneOf letters).star

/-- The form of a key. -/
def pattern : RegularExpression Char :=
  .char '/' * (oneOrMore nameLetters * (.char '.' * oneOrMore extensionLetters))

/-- The two parts of a text behind its slash, around its last dot. -/
structure HasParts (text : String) (name extension : List Char) : Prop where
  text : text.toList = '/' :: (name ++ '.' :: extension)
  dot : '.' ∉ extension

/-- What is said of a text that is no key: the first of these that is the case. -/
inductive Refusal (text : String) : String → Prop
  | noSlash : (∀ rest, text.toList ≠ '/' :: rest) →
      Refusal text ("invalid artifact key: key must start with '/': " ++ Text.quoted text)
  | noExtension {rest : List Char} : text.toList = '/' :: rest → '.' ∉ rest →
      Refusal text ("invalid artifact key: key must have an extension: " ++ Text.quoted text)
  | badName {name extension : List Char} : HasParts text name extension →
      (name = [] ∨ ∃ c ∈ name, c ∉ nameLetters) →
      Refusal text ("invalid artifact key: invalid file name in key: " ++ Text.quoted text)
  | badExtension {name extension : List Char} : HasParts text name extension →
      (name ≠ [] ∧ ∀ c ∈ name, c ∈ nameLetters) →
      (extension = [] ∨ ∃ c ∈ extension, c ∉ extensionLetters) →
      Refusal text ("invalid artifact key: invalid extension in key: " ++ Text.quoted text)

variable {text message : String} {name extension letters cs : List Char} {c : Char} {key : Key}
  {cause : KeyError}

/-- One of the characters is matched. -/
theorem mem_oneOf_iff : cs ∈ (oneOf letters).matches' ↔ ∃ c ∈ letters, cs = [c] := by
  induction letters with
  | nil => simp [oneOf]
  | cons letter others ih =>
      have hsplit : cs ∈ (oneOf (letter :: others)).matches' ↔
          cs = [letter] ∨ cs ∈ (oneOf others).matches' := Iff.rfl
      rw [hsplit, ih]
      simp

/-- Any number of the characters is matched. -/
theorem mem_star_iff : cs ∈ (oneOf letters).star.matches' ↔ ∀ c ∈ cs, c ∈ letters := by
  rw [RegularExpression.matches'_star, Language.mem_kstar]
  constructor
  · rintro ⟨parts, rfl, hparts⟩ c hc
    obtain ⟨part, hpart, hc⟩ := List.mem_flatten.mp hc
    obtain ⟨letter, hletter, rfl⟩ := mem_oneOf_iff.mp (hparts part hpart)
    rw [List.mem_singleton.mp hc]
    exact hletter
  · intro h
    refine ⟨cs.map fun c => [c], (List.flatMap_singleton' cs).symm, ?_⟩
    intro part hpart
    obtain ⟨c, hc, rfl⟩ := List.mem_map.mp hpart
    exact mem_oneOf_iff.mpr ⟨c, h c hc, rfl⟩

/-- One or more of the characters are matched. -/
theorem mem_oneOrMore_iff :
    cs ∈ (oneOrMore letters).matches' ↔ cs ≠ [] ∧ ∀ c ∈ cs, c ∈ letters := by
  rw [oneOrMore, RegularExpression.matches'_mul, Language.mem_mul]
  simp only [mem_oneOf_iff, mem_star_iff]
  constructor
  · rintro ⟨first, ⟨c, hc, rfl⟩, rest, hrest, rfl⟩
    exact ⟨List.cons_ne_nil _ _, List.forall_mem_cons.mpr ⟨hc, hrest⟩⟩
  · rintro ⟨hne, hall⟩
    cases cs with
    | nil => exact absurd rfl hne
    | cons c rest =>
        obtain ⟨hc, hrest⟩ := List.forall_mem_cons.mp hall
        exact ⟨[c], ⟨c, hc, rfl⟩, rest, hrest, rfl⟩

/-- One character in front is matched, and then the rest. -/
theorem mem_char_mul_iff {rest : RegularExpression Char} :
    cs ∈ (.char c * rest : RegularExpression Char).matches' ↔
      ∃ more ∈ rest.matches', cs = c :: more := by
  rw [RegularExpression.matches'_mul, Language.mem_mul]
  constructor
  · rintro ⟨first, hfirst, more, hmore, rfl⟩
    have hfirst : first = [c] := hfirst
    exact ⟨more, hmore, by rw [hfirst]; rfl⟩
  · rintro ⟨more, hmore, rfl⟩
    exact ⟨[c], rfl, more, hmore, rfl⟩

/-- The expression matches a slash, a name, a dot and an extension. -/
theorem mem_pattern_iff : cs ∈ pattern.matches' ↔ ∃ name extension,
    cs = '/' :: (name ++ '.' :: extension) ∧ (name ≠ [] ∧ ∀ c ∈ name, c ∈ nameLetters) ∧
      (extension ≠ [] ∧ ∀ c ∈ extension, c ∈ extensionLetters) := by
  rw [pattern, mem_char_mul_iff]
  simp only [RegularExpression.matches'_mul (oneOrMore nameLetters), Language.mem_mul,
    mem_char_mul_iff, mem_oneOrMore_iff]
  constructor
  · rintro ⟨_, ⟨name, hname, _, ⟨extension, hextension, rfl⟩, rfl⟩, rfl⟩
    exact ⟨name, extension, rfl, hname, hextension⟩
  · rintro ⟨name, extension, rfl, hname, hextension⟩
    exact ⟨_, ⟨name, hname, _, ⟨extension, hextension, rfl⟩, rfl⟩, rfl⟩

/-! ## The two parts -/

/-- A class of characters below U+0080 is a list of them if that is so for each of those. -/
theorem iff_mem_of_ascii {p : Char → Bool} (hascii : ∀ c, p c = true → c.toNat < 128)
    (hletters : letters.all (fun c => decide (c.toNat < 128)) = true)
    (h : (List.range 128).all (fun n => p (Char.ofNat n) == letters.contains (Char.ofNat n)) = true)
    (c : Char) : p c = true ↔ c ∈ letters := by
  simp only [List.all_eq_true, decide_eq_true_eq] at hletters
  simp only [List.all_eq_true, List.mem_range, beq_iff_eq] at h
  have hbelow : c.toNat < 128 → (p c = true ↔ c ∈ letters) := by
    intro hlt
    have hc := h c.toNat hlt
    rw [Char.ofNat_toNat] at hc
    rw [hc, List.contains_iff_mem]
  exact ⟨fun hp => (hbelow (hascii c hp)).mp hp, fun hmem => (hbelow (hletters c hmem)).mpr hmem⟩

theorem isNameChar_iff (c : Char) : isNameChar c = true ↔ c ∈ nameLetters := by
  refine iff_mem_of_ascii ?_ (by decide) (by decide) c
  intro c hc
  simp only [isNameChar, Bool.or_eq_true, Bool.and_eq_true, decide_eq_true_eq, beq_iff_eq] at hc
  rcases hc with (((hc | hc) | hc) | rfl) | rfl
  · exact Nat.lt_of_le_of_lt (Char.le_def.mp hc.2) (by decide)
  · exact Nat.lt_of_le_of_lt (Char.le_def.mp hc.2) (by decide)
  · exact Nat.lt_of_le_of_lt (Char.le_def.mp hc.2) (by decide)
  · decide
  · decide

theorem isExtensionChar_iff (c : Char) : isExtensionChar c = true ↔ c ∈ extensionLetters := by
  refine iff_mem_of_ascii ?_ (by decide) (by decide) c
  intro c hc
  simp only [isExtensionChar, Bool.and_eq_true, decide_eq_true_eq] at hc
  exact Nat.lt_of_le_of_lt (Char.le_def.mp hc.2) (by decide)

theorem isName_iff : isName name = true ↔ name ≠ [] ∧ ∀ c ∈ name, c ∈ nameLetters := by
  simp [isName, isNameChar_iff]

theorem isExtension_iff :
    isExtension extension = true ↔ extension ≠ [] ∧ ∀ c ∈ extension, c ∈ extensionLetters := by
  simp [isExtension, isExtensionChar_iff]

theorem dot_notMem_of_isExtension (h : isExtension extension = true) : '.' ∉ extension := by
  intro hmem
  exact absurd ((isExtension_iff.mp h).2 _ hmem) (by decide)

/-! ## How a text is read -/

theorem parse_of_noSlash (h : ∀ rest, text.toList ≠ '/' :: rest) :
    parse text = .error (.noSlash text) := by
  unfold parse
  split
  · next rest htext => exact absurd htext (h rest)
  · rfl

theorem parse_of_noDot (htext : text.toList = '/' :: cs) (hdot : '.' ∉ cs) :
    parse text = .error (.noExtension text) := by
  simp only [parse, htext, (Text.cutLast_eq_none_iff '.' cs).mpr hdot]

theorem parse_of_hasParts (h : HasParts text name extension) :
    parse text = ofParts text name extension := by
  simp only [parse, h.text, Text.cutLast_append name h.dot]

/-- A text has no slash in front, or no dot behind it, or two parts around the last one. -/
theorem form_cases (text : String) : (∀ rest, text.toList ≠ '/' :: rest) ∨
    (∃ rest, text.toList = '/' :: rest ∧ '.' ∉ rest) ∨
      ∃ name extension, HasParts text name extension := by
  by_cases hslash : ∃ rest, text.toList = '/' :: rest
  · obtain ⟨rest, htext⟩ := hslash
    right
    cases hcut : Text.cutLast '.' rest with
    | none => exact Or.inl ⟨rest, htext, (Text.cutLast_eq_none_iff '.' rest).mp hcut⟩
    | some parts =>
        obtain ⟨hparts, hdot⟩ := Text.cutLast_eq_some hcut
        exact Or.inr ⟨parts.1, parts.2, by rw [htext, hparts], hdot⟩
  · exact Or.inl fun rest htext => hslash ⟨rest, htext⟩

theorem hasParts_text (key : Key) : HasParts key.text key.name key.extension :=
  ⟨key.toList_text, dot_notMem_of_isExtension key.extension_ok⟩

/-- A text reads as the key whose text it is. -/
theorem parse_eq_ok_iff : parse text = .ok key ↔ key.text = text := by
  constructor
  · exact text_of_parse
  · rintro rfl
    rw [parse_of_hasParts key.hasParts_text]
    simp only [ofParts, key.name_ok, key.extension_ok, dite_true]

/-- A key is determined by its text. -/
theorem text_injective {first second : Key} (h : first.text = second.text) : first = second := by
  have hfirst : parse second.text = .ok first := parse_eq_ok_iff.mpr h
  have hsecond : parse second.text = .ok second := parse_eq_ok_iff.mpr rfl
  rw [hfirst] at hsecond
  exact Except.ok.inj hsecond

/-- A key is told by its text. -/
theorem eq_iff_text (key other : Key) : key = other ↔ key.text = other.text :=
  ⟨congrArg text, text_injective⟩

/-- A text that is no key's has a reason not to be one. -/
theorem exists_parse_eq_error (h : ∀ key : Key, key.text ≠ text) :
    ∃ cause, parse text = .error cause := by
  cases hparse : parse text with
  | error cause => exact ⟨cause, rfl⟩
  | ok key => exact absurd (text_of_parse hparse) (h key)

/-- The texts of keys are those that the expression matches. -/
theorem exists_text_iff : (∃ key : Key, key.text = text) ↔ text.toList ∈ pattern.matches' := by
  rw [mem_pattern_iff]
  constructor
  · rintro ⟨key, rfl⟩
    exact ⟨key.name, key.extension, key.toList_text, isName_iff.mp key.name_ok,
      isExtension_iff.mp key.extension_ok⟩
  · rintro ⟨name, extension, htext, hname, hextension⟩
    refine ⟨⟨name, extension, isName_iff.mpr hname, isExtension_iff.mpr hextension⟩, ?_⟩
    rw [Key.text, ← htext, String.ofList_toList]

/-! ## What is said of other texts -/

theorem not_isName_iff :
    ¬isName name = true ↔ name = [] ∨ ∃ c ∈ name, c ∉ nameLetters := by
  rw [isName_iff]
  grind

theorem not_isExtension_iff : ¬isExtension extension = true ↔
    extension = [] ∨ ∃ c ∈ extension, c ∉ extensionLetters := by
  rw [isExtension_iff]
  grind

/-- What is said of a text is the first thing that is the case. -/
theorem refusal_of_parse (h : parse text = .error cause) : Refusal text cause.message := by
  rcases form_cases text with hslash | ⟨rest, htext, hdot⟩ | ⟨name, extension, hparts⟩
  · rw [parse_of_noSlash hslash] at h
    cases h
    exact .noSlash hslash
  · rw [parse_of_noDot htext hdot] at h
    cases h
    exact .noExtension htext hdot
  · rw [parse_of_hasParts hparts, ofParts] at h
    by_cases hname : isName name = true
    · by_cases hextension : isExtension extension = true
      · rw [dif_pos hname, dif_pos hextension] at h
        cases h
      · rw [dif_pos hname, dif_neg hextension] at h
        cases h
        exact .badExtension hparts (isName_iff.mp hname) (not_isExtension_iff.mp hextension)
    · rw [dif_neg hname] at h
      cases h
      exact .badName hparts (not_isName_iff.mp hname)

/-- And it is said, so that there is only one such thing. -/
theorem parse_of_refusal (h : Refusal text message) :
    ∃ cause, parse text = .error cause ∧ cause.message = message := by
  cases h with
  | noSlash hslash => exact ⟨_, parse_of_noSlash hslash, rfl⟩
  | noExtension htext hdot => exact ⟨_, parse_of_noDot htext hdot, rfl⟩
  | badName hparts hname =>
      refine ⟨.badName text, ?_, rfl⟩
      rw [parse_of_hasParts hparts, ofParts, dif_neg (not_isName_iff.mpr hname)]
  | badExtension hparts hname hextension =>
      refine ⟨.badExtension text, ?_, rfl⟩
      rw [parse_of_hasParts hparts, ofParts, dif_pos (isName_iff.mpr hname),
        dif_neg (not_isExtension_iff.mpr hextension)]

/-! ## Keys in JSON -/

/-- A JSON value reads as a key if it is a string whose text does. -/
theorem decode_eq_some_iff {v : Value} : codec.decode v = some key ↔
    ∃ pieces, v = .string pieces ∧ ∃ value, Piece.text? pieces = some value ∧
      parse value = .ok key := by
  have hdecode : codec.decode v = v.text?.bind fun value => (parse value).toOption := rfl
  have hok : ∀ value, (parse value).toOption = some key ↔ parse value = .ok key := by
    intro value
    cases parse value <;> simp [Except.toOption]
  rw [hdecode, Option.bind_eq_some_iff]
  simp only [hok]
  cases v with
  | string pieces => simp [Value.text?]
  | _ => simp [Value.text?]

theorem codec_readsBack (key : Key) : codec.ReadsBack key := by
  refine decode_eq_some_iff.mpr ⟨Piece.ofString key.text, rfl, key.text, ?_, ?_⟩
  · exact Piece.text?_ofString key.text
  · exact parse_eq_ok_iff.mpr rfl

/-! ## Every text -/

/-- A text that reads as a key by its form. -/
structure ReadsByPattern (text : String) : Prop where
  /-- It reads as a key exactly if the expression matches all of it. -/
  accepted : (∃ key, parse text = .ok key) ↔ text.toList ∈ pattern.matches'
  /-- The key is the text as it stands. -/
  unchanged : ∀ key, parse text = .ok key ↔ key.text = text
  /-- What is said of it otherwise is the first thing that is the case. -/
  refused : ∀ message, (∃ cause, parse text = .error cause ∧ cause.message = message) ↔
    Refusal text message
  /-- As JSON it reads as a key exactly if it spells a string whose value does. -/
  json : ∀ key, (Value.parse? text).bind codec.decode = some key ↔
    ∃ pieces value, Value.parse? text = some (.string pieces) ∧
      Piece.text? pieces = some value ∧ parse value = .ok key

/-- Every text reads as a key by its form, and every key is read back as it is written in JSON. -/
theorem readsByPattern : (∀ text, ReadsByPattern text) ∧
    ∀ key : Key, (Value.parse? (codec.encode key).text).bind codec.decode = some key := by
  refine ⟨fun text => ⟨?_, fun key => parse_eq_ok_iff, ?_, ?_⟩, ?_⟩
  · simp only [parse_eq_ok_iff]
    exact exists_text_iff
  · intro message
    constructor
    · rintro ⟨cause, hparse, rfl⟩
      exact refusal_of_parse hparse
    · exact parse_of_refusal
  · intro key
    rw [Option.bind_eq_some_iff]
    simp only [decode_eq_some_iff]
    constructor
    · rintro ⟨v, hv, pieces, rfl, value, hvalue⟩
      exact ⟨pieces, value, hv, hvalue⟩
    · rintro ⟨pieces, value, hv, hvalue⟩
      exact ⟨_, hv, pieces, rfl, value, hvalue⟩
  · intro key
    exact Json.Codec.parse_text (Value.plain_ofString key.text) (codec_readsBack key)

end Key

end BenchDepot
