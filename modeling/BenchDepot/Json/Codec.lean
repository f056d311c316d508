import BenchDepot.Decimal.Double
import BenchDepot.Json.Writer
import BenchDepot.TextMap

/-!
# Typed values

A codec says how the values of a type are written as JSON values and which JSON values read as
them.  Integers read only from numerals spelled as integers and within the range of their type;
doubles read from every numeral that is not too large; an optional value reads null as absent; a
map reads from an object, the last of several equal names winning.

* `text_readsBack`, `int64_readsBack`, … — texts, truth values and integers are read back as they
  were written, and so are lists and maps of what is read back.
-/

namespace BenchDepot.Json

open Decimal (Numeral)

/-- How a type is written as JSON values and read from them. -/
structure Codec (α : Type) where
  encode : α → Value
  decode : Value → Option α

namespace Codec

variable {α : Type}

/-- What it means for a value to be read back as it was written. -/
def ReadsBack (codec : Codec α) (a : α) : Prop :=
  codec.decode (codec.encode a) = some a

/-- Texts. -/
def text : Codec String where
  encode := Value.ofString
  decode := Value.text?

/-- Truth values. -/
def bool : Codec Bool where
  encode := .bool
  decode
    | .bool b => some b
    | _ => none

/-- The integer of a number value, if its numeral is spelled as one. -/
def integer? : Value → Option Int
  | .number n => n.toInt?
  | _ => none

/-- The natural number of a number value, if its numeral is spelled as one. -/
def natural? (v : Value) : Option Nat :=
  match integer? v with
  | some (.ofNat n) => some n
  | _ => none

/-- Signed 64-bit integers. -/
def int64 : Codec Int64 where
  encode i := Value.ofInt i.toInt
  decode v := (integer? v).bind fun i =>
    if Int64.minValue.toInt ≤ i ∧ i ≤ Int64.maxValue.toInt then some (Int64.ofInt i) else none

/-- Unsigned 64-bit integers. -/
def uint64 : Codec UInt64 where
  encode n := Value.ofInt n.toNat
  decode v := (natural? v).bind fun n =>
    if n < UInt64.size then some (UInt64.ofNat n) else none

/-- Unsigned 32-bit integers. -/
def uint32 : Codec UInt32 where
  encode n := Value.ofInt n.toNat
  decode v := (natural? v).bind fun n =>
    if n < UInt32.size then some (UInt32.ofNat n) else none

/-- Doubles. -/
def float : Codec Float where
  encode := Value.ofFloat
  decode
    | .number n => n.toFloat?
    | _ => none

/-- Optional values. -/
def optional (codec : Codec α) : Codec (Option α) where
  encode
    | none => .null
    | some a => codec.encode a
  decode
    | .null => some none
    | v => (codec.decode v).map some

/-- Lists. -/
def list (codec : Codec α) : Codec (List α) where
  encode as := .array (as.map codec.encode)
  decode
    | .array items => items.mapM codec.decode
    | _ => none

/-- One member of a map. -/
def member (codec : Codec α) (m : List Piece × Value) : Option (String × α) :=
  match Piece.text? m.1, codec.decode m.2 with
  | some name, some a => some (name, a)
  | _, _ => none

/-- Maps from texts. -/
def textMap (codec : Codec α) : Codec (TextMap α) where
  encode m := Value.ofMembers (m.entries.map fun e => (e.1, codec.encode e.2))
  decode
    | .object members => (members.mapM (member codec)).map TextMap.ofList
    | _ => none

/-- Texts are read back. -/
theorem text_readsBack (s : String) : text.ReadsBack s := by
  simp [ReadsBack, text, Value.ofString, Value.text?]

/-- Truth values are read back. -/
theorem bool_readsBack (b : Bool) : bool.ReadsBack b := rfl

/-- The value of an integer holds the integer. -/
@[simp] theorem integer?_ofInt (i : Int) : integer? (Value.ofInt i) = some i :=
  Numeral.toInt?_ofInt i

/-- The value of a natural number holds the number. -/
@[simp] theorem natural?_ofInt (n : Nat) : natural? (Value.ofInt n) = some n := by
  simp [natural?]

/-- Signed 64-bit integers are read back. -/
theorem int64_readsBack (i : Int64) : int64.ReadsBack i := by
  simp only [ReadsBack, int64, integer?_ofInt, Option.bind_some]
  rw [if_pos ⟨Int64.minValue_le_toInt i, Int64.toInt_le i⟩, Int64.ofInt_toInt]

/-- Unsigned 64-bit integers are read back. -/
theorem uint64_readsBack (n : UInt64) : uint64.ReadsBack n := by
  simp only [ReadsBack, uint64, natural?_ofInt, Option.bind_some]
  rw [if_pos n.toNat_lt_size, UInt64.ofNat_toNat]

/-- Unsigned 32-bit integers are read back. -/
theorem uint32_readsBack (n : UInt32) : uint32.ReadsBack n := by
  simp only [ReadsBack, uint32, natural?_ofInt, Option.bind_some]
  rw [if_pos n.toNat_lt_size, UInt32.ofNat_toNat]

/-- A list of values that are read back is read back. -/
theorem list_readsBack {codec : Codec α} {as : List α} (h : ∀ a ∈ as, codec.ReadsBack a) :
    codec.list.ReadsBack as := by
  show (as.map codec.encode).mapM codec.decode = some as
  induction as with
  | nil => rfl
  | cons a rest ih =>
    have ha : codec.decode (codec.encode a) = some a := h a List.mem_cons_self
    have hrest := ih fun b hb => h b (List.mem_cons_of_mem _ hb)
    rw [List.map_cons, List.mapM_cons, ha, hrest]
    rfl

/-- A map whose values are read back is read back. -/
theorem textMap_readsBack {codec : Codec α} {m : TextMap α}
    (h : ∀ e ∈ m.entries, codec.ReadsBack e.2) : codec.textMap.ReadsBack m := by
  have hmembers : (m.entries.map fun e => (Piece.ofString e.1, codec.encode e.2)).mapM
      (member codec) = some m.entries := by
    rw [List.mapM_map]
    generalize m.entries = entries at h
    induction entries with
    | nil => rfl
    | cons e rest ih =>
      have he : codec.decode (codec.encode e.2) = some e.2 := h e List.mem_cons_self
      rw [List.mapM_cons, ih fun other hother => h other (List.mem_cons_of_mem _ hother)]
      simp [member, he]
  show (((m.entries.map fun e => (e.1, codec.encode e.2)).map fun m =>
    (Piece.ofString m.1, m.2)).mapM (member codec)).map TextMap.ofList = some m
  rw [List.map_map]
  show ((m.entries.map fun e => (Piece.ofString e.1, codec.encode e.2)).mapM
    (member codec)).map TextMap.ofList = some m
  rw [hmembers]
  exact congrArg some (TextMap.ofList_of_perm (List.Perm.refl _))

/-- An absent value is read back. -/
theorem optional_readsBack_none (codec : Codec α) : codec.optional.ReadsBack none := rfl

end Codec

end BenchDepot.Json
