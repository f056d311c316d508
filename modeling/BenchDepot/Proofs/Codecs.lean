import BenchDepot.Cpu.Config
import BenchDepot.Proofs.JsonText

/-!
# Types that lose nothing in JSON

Texts, truth values and integers are read back as they were written, and so are the lists, the maps
and the optional values of what is read back.  All of them are lawful, which is inferred from how a
type is put together.  Doubles are not: one that is not finite is written as null.

* `Codec.Lawful` — every value of a type is read back, and from its text too;
* `Codec.ofText?_encode` — a value of a lawful type is read from its text.
-/

namespace BenchDepot.Json

variable {α : Type} {codec : Codec α}

/-- Whether every value of a type is read back as it was written, and its text can be read. -/
class Codec.Lawful (codec : Codec α) : Prop where
  readsBack : ∀ a, codec.ReadsBack a
  plain : ∀ a, (codec.encode a).Plain

/-- The value that a text spells, as a value of a type. -/
def Codec.ofText? (codec : Codec α) (text : String) : Option α :=
  (Value.parse? text).bind codec.decode

theorem Codec.decode_encode {a : α} (h : codec.ReadsBack a) :
    codec.decode (codec.encode a) = some a := h

theorem Codec.ofText?_of_parse {text : String} {v : Value} (h : Value.parse? text = some v) :
    codec.ofText? text = codec.decode v := by
  rw [ofText?, h, Option.bind_some]

/-- A value of a lawful type is read from its text. -/
theorem Codec.ofText?_encode [codec.Lawful] (a : α) :
    codec.ofText? (codec.encode a).text = some a := by
  rw [ofText?_of_parse (Value.parse?_text (Lawful.plain a))]
  exact Lawful.readsBack a

/-- Values that are written the same are the same. -/
theorem Codec.eq_of_encode_eq {a b : α} (ha : codec.ReadsBack a) (hb : codec.ReadsBack b)
    (h : codec.encode a = codec.encode b) : a = b := by
  have hboth : some a = some b := by
    rw [← decode_encode ha, ← decode_encode hb, h]
  exact Option.some.inj hboth

/-! ## Plain values -/

theorem Value.plain_ofFloat (x : Float) : (Value.ofFloat x).Plain := by
  unfold Value.ofFloat
  split <;> exact trivial

theorem Value.plain_array {items : List Value} (h : ∀ v ∈ items, v.Plain) :
    (Value.array items).Plain := by
  show Value.PlainItems items
  induction items with
  | nil => exact trivial
  | cons v rest ih =>
      exact ⟨h v List.mem_cons_self, ih fun other hother => h other (List.mem_cons_of_mem _ hother)⟩

/-! ## Lawful types -/

namespace Codec

instance : text.Lawful := ⟨text_readsBack, Value.plain_ofString⟩

instance : bool.Lawful := ⟨bool_readsBack, fun _ => trivial⟩

instance : int64.Lawful := ⟨int64_readsBack, fun _ => trivial⟩

instance : uint64.Lawful := ⟨uint64_readsBack, fun _ => trivial⟩

instance : uint32.Lawful := ⟨uint32_readsBack, fun _ => trivial⟩

instance [codec.Lawful] : codec.list.Lawful where
  readsBack _ := list_readsBack fun a _ => Lawful.readsBack a
  plain as := by
    apply Value.plain_array
    intro v hv
    obtain ⟨a, _, rfl⟩ := List.mem_map.mp hv
    exact Lawful.plain a

instance [codec.Lawful] : codec.textMap.Lawful where
  readsBack _ := textMap_readsBack fun e _ => Lawful.readsBack e.2
  plain m := by
    apply Value.plain_ofMembers
    intro member hmember
    obtain ⟨e, _, rfl⟩ := List.mem_map.mp hmember
    exact Lawful.plain e.2

/-- Optional values are told apart from absent ones if no value is written as null. -/
theorem lawful_optional [codec.Lawful] (hnull : ∀ a, codec.encode a ≠ .null) :
    codec.optional.Lawful where
  readsBack o := by
    cases o with
    | none => exact optional_readsBack_none codec
    | some a =>
        show codec.optional.decode (codec.encode a) = some (some a)
        cases hvalue : codec.encode a with
        | null => exact absurd hvalue (hnull a)
        | _ =>
            simp only [optional]
            rw [← hvalue, decode_encode (Lawful.readsBack a)]
            rfl
  plain o := by
    cases o with
    | none => exact trivial
    | some a => exact Lawful.plain a

instance : text.optional.Lawful := lawful_optional nofun

end Codec

instance : Cpu.Config.codec.Lawful :=
  inferInstanceAs Codec.uint32.textMap.Lawful

instance : Cpu.Config.codec.optional.Lawful := Codec.lawful_optional nofun

end BenchDepot.Json
