import BenchDepot.Cpu.Frequency
import BenchDepot.Json.Codec
import BenchDepot.Json.Reader
import BenchDepot.Text.Blank
import BenchDepot.Text.Cut
import BenchDepot.TextMap

/-!
# Processor configurations

A processor configuration counts the cores at each frequency label.  It has three texts:

* the *ad-hoc text* that older clients send and read, `4x 2400.00 MHz + 4x 1800.00 MHz`:
  `ofAdHoc` reads every spelling of it and never fails, `adHoc` writes one spelling, with the
  labels in their order;
* the *stored text*, a JSON object, written by `stored`;
* a *client's text*, which `ofText` reads as a JSON object if it is one, and as ad-hoc text
  otherwise.
-/

namespace BenchDepot.Cpu

open Json (Codec Value)

/-- The number of cores at each frequency label. -/
abbrev Config := TextMap UInt32

/-- A configuration as a JSON object. -/
def Config.codec : Codec Config :=
  Codec.textMap Codec.uint32

namespace AdHoc

/-- The unit in Cyrillic letters. -/
def cyrillicUnit : List Char := ['М', 'Г', 'ц']

/-- The unit in Latin letters. -/
def latinUnit : List Char := ['M', 'H', 'z']

/-- Ad-hoc text with decimal points for commas, and without units and outer blanks. -/
def normalize (cs : List Char) : List Char :=
  let pointed := cs.map fun c => if c = ',' then '.' else c
  Text.trim (Text.remove latinUnit (Text.remove cyrillicUnit pointed))

/-- A count of cores: digits, with or without a plus sign, of a number that fits 32 bits. -/
def count? (cs : List Char) : Option UInt32 :=
  let digits :=
    match cs with
    | '+' :: rest => rest
    | _ => cs
  if !digits.isEmpty && digits.all Char.isDigit then
    let n := Nat.ofDigitChars 10 digits 0
    if n < UInt32.size then some (UInt32.ofNat n) else none
  else
    none

/-- The label and count of an entry.  An entry has a count if it has exactly one `x`; a count that
does not read, or is missing, is one. -/
def entry (cs : List Char) : String × UInt32 :=
  match Text.pieces 'x' (Text.trim cs) with
  | [count, label] => (String.ofList (Text.trim label), (count? count).getD 1)
  | label :: _ => (String.ofList label, 1)
  | [] => ("", 1)

/-- One entry of ad-hoc text. -/
def item (label : String) (count : UInt32) : List Char :=
  Nat.toDigits 10 count.toNat ++ 'x' :: ' ' :: (label.toList ++ ' ' :: latinUnit)

/-- What stands between two entries. -/
def separator : List Char := [' ', '+', ' ']

end AdHoc

namespace Config

/-- The configuration that ad-hoc text describes.  Of several entries with one label the last
one counts. -/
def ofAdHoc (text : String) : Config :=
  let cs := AdHoc.normalize text.toList
  if cs.isEmpty then
    TextMap.empty
  else
    TextMap.ofList ((Text.pieces '+' cs).map AdHoc.entry)

/-- The entries of a configuration in the order of their labels. -/
def sorted (config : Config) : List (String × UInt32) :=
  config.entries.mergeSort fun a b => frequencyLe a.1 b.1

/-- The ad-hoc text of a configuration, lowest frequency first. -/
def adHoc (config : Config) : String :=
  String.ofList (Text.join AdHoc.separator (config.sorted.map fun e => AdHoc.item e.1 e.2))

/-- The stored text of a configuration. -/
def stored (config : Config) : String :=
  (codec.encode config).text

/-- The configuration that a JSON object spells. -/
def ofJson? (text : String) : Option Config :=
  (Value.parse? text).bind codec.decode

/-- The configuration of a text of either kind, as a client sends it or the store keeps it. -/
def ofText (text : String) : Config :=
  match ofJson? text with
  | some config => config
  | none => ofAdHoc text

end Config

/-- A configuration as a client sends it. -/
inductive Input where
  /-- The counts themselves. -/
  | structured (config : Config)
  /-- A text, of which the client does not say what kind it is. -/
  | text (sent : String)

namespace Input

/-- The input of a submission's two optional fields; the counts win over the text. -/
def ofFields (config : Option Config) (text : Option String) : Input :=
  match config with
  | some config => .structured config
  | none => .text (text.getD "")

/-- The configuration that a client meant. -/
def normalize : Input → Config
  | .structured config => config
  | .text sent => Config.ofText sent

end Input

end BenchDepot.Cpu
