import BenchDepot.Json.Codec

/-!
# Records as JSON objects

A record type is written as an object, one member for each of its fields in a fixed order.  It is
read from an object in which the members may stand in any order: a field whose member is missing
has its own default, or fails if it has none; a member that is repeated fails if it is a field's;
members with other names are not looked at, but their names must be texts.  A record may also be
read from an array of its leading fields in their fixed order.

* `RecordField.value?` — the value of a field, from the values that are given to its name;
* `Layout.read` — a record from an object or an array.
-/

namespace BenchDepot.Json

variable {σ α : Type}

/-- A field of a record type: its name, its type, its place in a record, and its value when it is
not given, if it need not be. -/
structure RecordField (σ : Type) where
  name : String
  {α : Type}
  codec : Codec α
  get : σ → α
  set : σ → α → σ
  absent : Option α

/-- A field that must be given. -/
def Codec.field (codec : Codec α) (name : String) (get : σ → α) (set : σ → α → σ) :
    RecordField σ :=
  ⟨name, codec, get, set, none⟩

/-- A field that need not be given, with its own default. -/
def Codec.fieldOr (codec : Codec α) (name : String) (own : α) (get : σ → α) (set : σ → α → σ) :
    RecordField σ :=
  ⟨name, codec, get, set, some own⟩

namespace RecordField

/-- A field that need not be given, with what it is in a record for its default. -/
def orOf (default : σ) (f : RecordField σ) : RecordField σ :=
  { f with absent := some (f.get default) }

/-- Whether a field must be given. -/
def required (f : RecordField σ) : Bool :=
  f.absent.isNone

/-- The value that a field is written as. -/
def write (f : RecordField σ) (s : σ) : Value :=
  f.codec.encode (f.get s)

/-- What a field is from the values given to it: at most one, and one at least if it must be
given. -/
def value? (f : RecordField σ) : List Value → Option f.α
  | [] => f.absent
  | [v] => f.codec.decode v
  | _ :: _ :: _ => none

end RecordField

/-- The fields of a record type in their order, and the record of their defaults. -/
structure Layout (σ : Type) where
  fields : List (RecordField σ)
  default : σ

namespace Layout

/-- A record as members. -/
def members (layout : Layout σ) (s : σ) : List (String × Value) :=
  layout.fields.map fun f => (f.name, f.write s)

/-- A record as an object. -/
def write (layout : Layout σ) (s : σ) : Value :=
  Value.ofMembers (layout.members s)

/-- The values given to a name. -/
def given (members : List (String × Value)) (name : String) : List Value :=
  (members.filter fun m => m.1 == name).map (·.2)

/-- Some fields from named members, one after the other. -/
def readMembers (members : List (String × Value)) : List (RecordField σ) → σ → Option σ
  | [], s => some s
  | f :: fields, s =>
    (f.value? (given members f.name)).bind fun a => readMembers members fields (f.set s a)

/-- Some fields from values in their order. -/
def readItems : List (RecordField σ) → List Value → σ → Option σ
  | [], [], s => some s
  | [], _ :: _, _ => none
  | f :: fields, [], s => f.absent.bind fun a => readItems fields [] (f.set s a)
  | f :: fields, v :: values, s =>
    (f.codec.decode v).bind fun a => readItems fields values (f.set s a)

/-- A member whose name is a text. -/
def named (m : List Piece × Value) : Option (String × Value) :=
  (Piece.text? m.1).map fun name => (name, m.2)

/-- A record from an object or an array. -/
def read (layout : Layout σ) : Value → Option σ
  | .object members =>
    match members.mapM named with
    | some members => readMembers members layout.fields layout.default
    | none => none
  | .array items => readItems layout.fields items layout.default
  | _ => none

/-- A record type as a type of values. -/
def codec (layout : Layout σ) : Codec σ where
  encode := layout.write
  decode := layout.read

/-- Members with texts for names are read under those names. -/
theorem mapM_named_ofMembers (members : List (String × Value)) :
    (members.map fun m => (Piece.ofString m.1, m.2)).mapM named = some members := by
  rw [List.mapM_map]
  induction members with
  | nil => rfl
  | cons m rest ih =>
    rw [List.mapM_cons, ih]
    simp [named]

end Layout

end BenchDepot.Json
