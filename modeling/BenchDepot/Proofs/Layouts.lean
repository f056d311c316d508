import BenchDepot.Json.Layout
import BenchDepot.Proofs.Codecs

/-!
# Reading a record field by field

A record is read field by field, from its defaults on, in whatever order the members stand and even
if there are no names.  So what holds of the defaults and is kept by each field holds of every
record that is read.  And which record is read depends only on what each field reads: if that is
what the field is in some record, and the fields together make up a record, it is this one.

* `read_induction` — what every record that is read has;
* `Lawful` — fields that have names of their own and make up a record;
* `readMembers_of_values`, `readItems_of_values` — what is read if every field has a value;
* `readsBack_of_fields` — a record is read back if its fields are;
* `unread_of_field` — nothing is read if one field is not.
-/

namespace BenchDepot.Json

variable {σ α : Type} {motive : σ → Prop} {f : RecordField σ} {layout : Layout σ} {s : σ}
  {members : List (String × Value)}

/-! ## What is kept -/

/-- Whether a value is one that a field may be set to. -/
def RecordField.MayRead (f : RecordField σ) (a : f.α) : Prop :=
  (∃ v, f.codec.decode v = some a) ∨ f.absent = some a

/-- Whether reading a field keeps what holds of a record. -/
def RecordField.Keeps (motive : σ → Prop) (f : RecordField σ) : Prop :=
  ∀ s a, f.MayRead a → motive s → motive (f.set s a)

theorem RecordField.mayRead_of_value? {values : List Value} {a : f.α}
    (h : f.value? values = some a) : f.MayRead a := by
  match values with
  | [] => exact Or.inr h
  | [v] => exact Or.inl ⟨v, h⟩

/-- A field of a record with defaults keeps what holds whatever is decoded and for its default. -/
theorem RecordField.keeps_orOf {codec : Codec α} {name : String} {get : σ → α} {set : σ → α → σ}
    {default : σ}
    (h : ∀ s a, (∃ v, codec.decode v = some a) ∨ a = get default → motive s → motive (set s a)) :
    ((codec.field name get set).orOf default).Keeps motive :=
  fun s a hread => h s a (hread.imp_right fun hown => (Option.some.inj hown).symm)

namespace Layout

theorem readMembers_keeps {fields : List (RecordField σ)}
    (hfields : ∀ f ∈ fields, f.Keeps motive) {s t : σ}
    (h : readMembers members fields s = some t) (hs : motive s) : motive t := by
  induction fields generalizing s with
  | nil =>
      cases h
      exact hs
  | cons f fields ih =>
      obtain ⟨a, ha, hrest⟩ := Option.bind_eq_some_iff.mp h
      have hnext : motive (f.set s a) :=
        hfields f List.mem_cons_self s a (RecordField.mayRead_of_value? ha) hs
      exact ih (fun g hg => hfields g (List.mem_cons_of_mem _ hg)) hrest hnext

theorem readItems_keeps {fields : List (RecordField σ)} {items : List Value}
    (hfields : ∀ f ∈ fields, f.Keeps motive) {s t : σ}
    (h : readItems fields items s = some t) (hs : motive s) : motive t := by
  induction fields generalizing items s with
  | nil =>
      cases items with
      | nil =>
          cases h
          exact hs
      | cons v values => cases h
  | cons f fields ih =>
      have hf := hfields f List.mem_cons_self
      have hothers := fun g hg => hfields g (List.mem_cons_of_mem _ hg)
      cases items with
      | nil =>
          obtain ⟨a, ha, hrest⟩ := Option.bind_eq_some_iff.mp h
          exact ih hothers hrest (hf s a (Or.inr ha) hs)
      | cons v values =>
          obtain ⟨a, ha, hrest⟩ := Option.bind_eq_some_iff.mp h
          exact ih hothers hrest (hf s a (Or.inl ⟨v, ha⟩) hs)

/-- What holds of the defaults and is kept by every field holds of every record that is read. -/
theorem read_induction (hdefault : motive layout.default)
    (hfields : ∀ f ∈ layout.fields, f.Keeps motive) {v : Value} (h : layout.read v = some s) :
    motive s := by
  unfold read at h
  split at h
  · split at h
    · exact readMembers_keeps hfields h hdefault
    · cases h
  · exact readItems_keeps hfields h hdefault
  · cases h

/-! ## What is read -/

/-- The names of the fields of a record type. -/
def names (layout : Layout σ) : List String :=
  layout.fields.map RecordField.name

/-- Whether the fields of a record type have names of their own and make up a record, and whether
their own defaults are what they are in the record of the defaults. -/
structure Lawful (layout : Layout σ) : Prop where
  names : layout.names.Nodup
  rebuilt : ∀ s t, layout.fields.foldl (fun t f => f.set t (f.get s)) t = s
  own : ∀ f ∈ layout.fields, f.absent = none ∨ f.absent = some (f.get layout.default)

/-- Whether all that a record says is read back. -/
def ReadsFields (layout : Layout σ) (s : σ) : Prop :=
  ∀ f ∈ layout.fields, f.codec.ReadsBack (f.get s)

/-- A field that need not be given has its own default. -/
theorem Lawful.absent_of_not_required (h : layout.Lawful) (hf : f ∈ layout.fields)
    (hrequired : f.required = false) : f.absent = some (f.get layout.default) := by
  rcases h.own f hf with hnone | hown
  · rw [RecordField.required, hnone] at hrequired
    cases hrequired
  · exact hown

/-- Members from which every field reads what it is in a record are read as its fields. -/
theorem readMembers_of_values {fields : List (RecordField σ)}
    (h : ∀ f ∈ fields, f.value? (given members f.name) = some (f.get s)) (t : σ) :
    readMembers members fields t = some (fields.foldl (fun t f => f.set t (f.get s)) t) := by
  induction fields generalizing t with
  | nil => rfl
  | cons f rest ih =>
      rw [readMembers, h f List.mem_cons_self, Option.bind_some, List.foldl_cons]
      exact ih (fun g hg => h g (List.mem_cons_of_mem _ hg)) _

/-- So are values in the order of the fields. -/
theorem readItems_of_values {fields : List (RecordField σ)}
    (h : ∀ f ∈ fields, f.codec.ReadsBack (f.get s)) (t : σ) :
    readItems fields (fields.map fun f => f.write s) t =
      some (fields.foldl (fun t f => f.set t (f.get s)) t) := by
  induction fields generalizing t with
  | nil => rfl
  | cons f rest ih =>
      have hvalue : f.codec.decode (f.write s) = some (f.get s) := h f List.mem_cons_self
      rw [List.map_cons, readItems, hvalue, Option.bind_some, List.foldl_cons]
      exact ih (fun g hg => h g (List.mem_cons_of_mem _ hg)) _

/-- The members of a record give every name its own value, if no name is there twice. -/
theorem given_map {fields : List (RecordField σ)} (hnames : (fields.map RecordField.name).Nodup)
    (hf : f ∈ fields) (s : σ) :
    given (fields.map fun g => (g.name, g.write s)) f.name = [f.write s] := by
  induction fields with
  | nil => cases hf
  | cons first rest ih =>
      obtain ⟨hfirst, hrest⟩ := List.nodup_cons.mp hnames
      rcases List.mem_cons.mp hf with rfl | hmem
      · have hnone : (rest.map fun g => (g.name, g.write s)).filter
            (fun m => m.1 == f.name) = [] := by
          apply List.filter_eq_nil_iff.mpr
          intro m hm
          obtain ⟨g, hg, rfl⟩ := List.mem_map.mp hm
          have hne : g.name ≠ f.name := fun heq => hfirst (heq ▸ List.mem_map_of_mem hg)
          simpa using hne
        rw [given, List.map_cons, List.filter_cons_of_pos (by simp), hnone]
        rfl
      · have hne : first.name ≠ f.name := fun heq => hfirst (heq ▸ List.mem_map_of_mem hmem)
        have hgiven := ih hrest hmem
        rw [given] at hgiven ⊢
        rw [List.map_cons, List.filter_cons_of_neg (by simpa using hne)]
        exact hgiven

theorem read_ofMembers (layout : Layout σ) (members : List (String × Value)) :
    layout.read (Value.ofMembers members) = readMembers members layout.fields layout.default := by
  rw [Value.ofMembers, read, mapM_named_ofMembers]

/-- A record is read back if its fields are. -/
theorem readsBack_of_fields (hlawful : layout.Lawful) (hback : layout.ReadsFields s) :
    layout.codec.ReadsBack s := by
  have hvalues : ∀ f ∈ layout.fields, f.value? (given (layout.members s) f.name) =
      some (f.get s) := by
    intro f hf
    have hgiven : given (layout.members s) f.name = [f.write s] := given_map hlawful.names hf s
    rw [hgiven]
    exact hback f hf
  show layout.read (Value.ofMembers (layout.members s)) = some s
  rw [read_ofMembers, readMembers_of_values hvalues, hlawful.rebuilt]

theorem plain_write (h : ∀ f ∈ layout.fields, (f.write s).Plain) : (layout.write s).Plain := by
  apply Value.plain_ofMembers
  intro m hm
  obtain ⟨f, hf, rfl⟩ := List.mem_map.mp hm
  exact h f hf

/-- The text that a record is written as is read as the record, if its fields are read back. -/
theorem ofText?_write (hlawful : layout.Lawful) (hback : layout.ReadsFields s)
    (hplain : (layout.write s).Plain) : layout.codec.ofText? (layout.write s).text = some s := by
  rw [Codec.ofText?_of_parse (Value.parse?_text hplain)]
  exact readsBack_of_fields hlawful hback

/-- A record type is lawful if the types of its fields are. -/
theorem codec_lawful (hlawful : layout.Lawful) (hfields : ∀ f ∈ layout.fields, f.codec.Lawful) :
    layout.codec.Lawful where
  readsBack s := readsBack_of_fields hlawful fun f hf => (hfields f hf).readsBack (f.get s)
  plain s := plain_write fun f hf => (hfields f hf).plain (f.get s)

/-! ## What is not read -/

/-- Members are not read if one field has no value. -/
theorem readMembers_eq_none {fields : List (RecordField σ)} (hf : f ∈ fields)
    (hnone : f.value? (given members f.name) = none) (t : σ) :
    readMembers members fields t = none := by
  induction fields generalizing t with
  | nil => cases hf
  | cons first rest ih =>
      rw [readMembers]
      rcases List.mem_cons.mp hf with rfl | hmem
      · rw [hnone, Option.bind_none]
      · cases first.value? (given members first.name) with
        | none => rfl
        | some a => exact ih hmem _

/-- A record is not read if one of its fields is not. -/
theorem unread_of_field (hlawful : layout.Lawful) (hf : f ∈ layout.fields)
    (hnone : f.codec.decode (f.write s) = none) :
    layout.codec.decode (layout.codec.encode s) = none := by
  have hgiven : given (layout.members s) f.name = [f.write s] := given_map hlawful.names hf s
  show layout.read (Value.ofMembers (layout.members s)) = none
  rw [read_ofMembers]
  refine readMembers_eq_none hf ?_ _
  rw [hgiven]
  exact hnone

end Layout

end BenchDepot.Json
