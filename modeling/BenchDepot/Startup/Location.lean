import BenchDepot.Text.Cut

/-!
# Where a store is kept

The path of a store is part of an address: it may repeat the scheme, `%` and two digits stand for
a byte, and a question mark would start parameters, of which it has none.  What comes out is the
name of the store.  One name means memory, and no name a file that goes away by itself.

A name that starts with `file:` is an address again.  It may have an authority, which must be empty
or this machine, and after a question mark it may have options of its own, `name=value` with `&`
between them: they narrow what may be done with the file, or keep the store in memory.

* `Location.ofPath?` — the location that a path means.
-/

namespace BenchDepot.Startup

/-- Where a store is kept. -/
inductive Location where
  /-- Nowhere that lasts. -/
  | passing
  /-- In a file that may be made if it is missing, or not, and that may be written to, or not. -/
  | file (path : String) (mayMake mayWrite : Bool)
deriving DecidableEq

namespace Location

/-! ## Escapes -/

/-- A text without the copies of a word that it starts with. -/
def dropLeading (word cs : List Char) : List Char :=
  cs.foldl (fun left _ => if word.isPrefixOf left then left.drop word.length else left) cs

/-- A path without its scheme. -/
def withoutScheme (path : String) : List Char :=
  dropLeading "sqlite:".toList (dropLeading "sqlite://".toList ("sqlite:" ++ path).toList)

/-- The value of a hexadecimal digit of either case. -/
def hexValue? (b : UInt8) : Option UInt8 :=
  if 0x30 ≤ b ∧ b ≤ 0x39 then some (b - 0x30)
  else if 0x61 ≤ b ∧ b ≤ 0x66 then some (b - 0x61 + 10)
  else if 0x41 ≤ b ∧ b ≤ 0x46 then some (b - 0x41 + 10)
  else none

/-- Bytes with the escaped ones in place of their escapes. -/
def unescaped : List UInt8 → List UInt8
  | 0x25 :: high :: low :: rest =>
    match hexValue? high, hexValue? low with
    | some h, some l => (16 * h + l) :: unescaped rest
    | _, _ => 0x25 :: unescaped (high :: low :: rest)
  | b :: rest => b :: unescaped rest
  | [] => []

/-- The bytes of some characters, with the escaped ones in place of their escapes. -/
def bytesOf (cs : List Char) : List UInt8 :=
  unescaped (String.ofList cs).toUTF8.toList

/-- The text of some bytes, if they are one. -/
def textOf? (bytes : List UInt8) : Option String :=
  String.fromUTF8? ⟨bytes.toArray⟩

/-! ## Options of an address -/

/-- What may be done with a file. -/
inductive Access where
  | reading
  | writing
  | making
  /-- Nothing: the store is in memory. -/
  | memory
deriving DecidableEq

/-- The access that an option names. -/
def Access.ofName? (name : String) : Option Access :=
  if name = "ro" then some .reading
  else if name = "rw" then some .writing
  else if name = "rwc" then some .making
  else if name = "memory" then some .memory
  else none

/-- What an access permits, in ascending order.  One in memory permits everything. -/
def Access.rank : Access → Nat
  | .reading => 1
  | .writing => 2
  | .making => 6
  | .memory => 128

/-- Whether an access may follow another one: it permits no more, or is in memory. -/
def Access.mayFollow (next before : Access) : Bool :=
  next == .memory || decide (next.rank ≤ before.rank)

/-- What the options of an address say. -/
structure Options where
  access : Access := .making
  /-- The file is said never to change. -/
  isFixed : Option Bool := none
  /-- The system that keeps the file. -/
  system : String := "unix"

/-- Whether a text says yes: by a word of either case, or by a number whose last byte is not
zero. -/
def saysYes (text : String) : Bool :=
  let cs := text.toList
  let digits := cs.takeWhile Char.isDigit
  if digits.isEmpty then
    ["on", "yes", "true"].contains (String.ofList (cs.map Char.toLower))
  else
    let n := Nat.ofDigitChars 10 digits 0
    decide (n ≤ 0x7fffffff) && decide (n % 256 ≠ 0)

/-- What the options say with one more of them.  Those that are not known say nothing. -/
def Options.add (options : Options) (option : String × String) : Option Options :=
  let (name, value) := option
  if name = "mode" then
    match Access.ofName? value with
    | some access =>
      if access.mayFollow options.access then some { options with access := access } else none
    | none => none
  else if name = "cache" then
    if value = "shared" ∨ value = "private" then some options else none
  else if name = "vfs" then some { options with system := value }
  else if name = "immutable" then
    some { options with isFixed := some (options.isFixed.getD (saysYes value)) }
  else some options

/-- The system that keeps files in memory. -/
def memorySystem : String := "memdb"

/-- The systems there are. -/
def systems : List String :=
  ["unix", "unix-none", "unix-dotfile", "unix-excl", memorySystem]

/-- The location of a name under some options.  A store that may only be read is none, because it
starts out empty. -/
def ofName? (options : Options) (name : String) : Option Location :=
  if !systems.contains options.system || options.access == .reading then none
  else if name = "" ∨ name = ":memory:" ∨ options.access = .memory
      ∨ options.system = memorySystem then
    some .passing
  else
    some (.file name (options.access == .making) (!options.isFixed.getD false))

/-! ## Addresses -/

/-- A part of an address as a text.  A byte zero ends it; bytes that are no text are no name. -/
def partText (cs : List Char) : String :=
  (textOf? ((bytesOf cs).takeWhile (· != 0))).getD ""

/-- The name and the value of an option. -/
def optionOf (cs : List Char) : String × String :=
  (partText (cs.takeWhile (· != '=')), partText ((cs.dropWhile (· != '=')).drop 1))

/-- An address without its authority, which must be empty or this machine. -/
def withoutAuthority? : List Char → Option (List Char)
  | '/' :: '/' :: rest =>
    let authority := rest.takeWhile (· != '/')
    if authority = [] ∨ authority = "localhost".toList then some (rest.dropWhile (· != '/'))
    else none
  | cs => some cs

/-- The location of an address, without its scheme. -/
def ofAddress? (cs : List Char) : Option Location :=
  (withoutAuthority? cs).bind fun cs =>
    let body := cs.takeWhile (· != '#')
    let path := body.takeWhile (· != '?')
    let options := (Text.pieces '&' ((body.dropWhile (· != '?')).drop 1)).map optionOf
    (options.foldlM Options.add {}).bind fun said => ofName? said (partText path)

/-- The scheme of an address. -/
def scheme : List Char := "file:".toList

/-- The location of a name, which may be an address. -/
def ofText? (name : String) : Option Location :=
  let cs := name.toList
  if scheme.isPrefixOf cs then ofAddress? (cs.drop scheme.length) else ofName? {} name

/-- The location that a path means, if it means one. -/
def ofPath? (path : String) : Option Location :=
  let cs := withoutScheme path
  if cs.contains '?' then none
  else if cs = ":memory:".toList then some .passing
  else
    match textOf? (bytesOf cs) with
    | none => none
    | some name => if name.contains (Char.ofNat 0) then none else ofText? name

end Location

end BenchDepot.Startup
