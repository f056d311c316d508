import BenchDepot.Proofs.Layouts

/-!
# The objects that spell a record

A record is written as one object, but it is read from many: the members may stand in any order,
members with foreign names may stand between them, and a field that has its default need not be
given.  All of these objects are read as the same record, since every field reads from each of them
what it is in the record: a field that is given its own value reads this value, and one that is left
out has its own default.

* `given_of_perm` — what an object gives each field;
* `read_of_overrides` — an object is read as the record it spells, with defaults for what it leaves
  out;
* `read_of_spells` — all objects that spell a record are read as it;
* `read_items` — so is the array of its values;
* `read_repeated`, `read_missing` — objects that spell none.
-/

namespace BenchDepot.Json

variable {σ : Type} {f : RecordField σ} {layout : Layout σ} {s t : σ} {name : String}
  {raw : List (List Piece × Value)} {members : List (String × Value)} {omitted : String → Bool}

/-- Whether all fields that are left out may be left out, since they have their defaults. -/
def Layout.Omits (layout : Layout σ) (s : σ) (omitted : String → Bool) : Prop :=
  ∀ f ∈ layout.fields, omitted f.name = true →
    f.required = false ∧ f.write s = f.write layout.default

/-- Whether an object has the members of a record without some, and foreign ones, in any order. -/
def Layout.Spells (layout : Layout σ) (s : σ) (omitted : String → Bool)
    (raw : List (List Piece × Value)) : Prop :=
  ∃ members foreign, raw.mapM named = some members ∧ (∀ m ∈ foreign, m.1 ∉ layout.names) ∧
    members.Perm ((layout.members s).filter (fun m => !omitted m.1) ++ foreign)

/-- How many members of an object have a name. -/
def Layout.occurrences (raw : List (List Piece × Value)) (name : String) : Nat :=
  raw.countP fun m => Piece.text? m.1 == some name

namespace Layout

/-! ## What an object gives a name -/

theorem given_append (first second : List (String × Value)) (name : String) :
    given (first ++ second) name = given first name ++ given second name := by
  simp [given]

theorem given_perm {first second : List (String × Value)} (h : first.Perm second)
    (name : String) : (given first name).Perm (given second name) :=
  (h.filter _).map _

theorem given_of_foreign (h : ∀ m ∈ members, m.1 ≠ name) : given members name = [] := by
  have hnone : members.filter (fun m => m.1 == name) = [] :=
    List.filter_eq_nil_iff.mpr fun m hm => by simpa using h m hm
  rw [given, hnone, List.map_nil]

/-- Members that are left out give their names nothing, and the others what they gave. -/
theorem given_filter (members : List (String × Value)) (omitted : String → Bool) (name : String) :
    given (members.filter fun m => !omitted m.1) name =
      if omitted name then [] else given members name := by
  split
  · next homitted =>
    refine given_of_foreign fun m hm heq => ?_
    rw [← heq] at homitted
    simp [homitted] at hm
  · next hkept =>
    rw [given, given, List.filter_filter]
    congr 1
    refine List.filter_congr fun m _ => ?_
    by_cases hname : m.1 = name
    · simp [hname, hkept]
    · simp [hname]

/-- The names under which members are read. -/
theorem occurrences_eq (hnamed : raw.mapM named = some members) (name : String) :
    occurrences raw name = (given members name).length := by
  induction raw generalizing members with
  | nil =>
      cases hnamed
      rfl
  | cons m rest ih =>
      rw [List.mapM_cons] at hnamed
      obtain ⟨first, hfirst, hnamed⟩ := Option.bind_eq_some_iff.mp hnamed
      obtain ⟨others, hothers, hmembers⟩ := Option.bind_eq_some_iff.mp hnamed
      cases hmembers
      obtain ⟨text, htext, rfl⟩ := Option.map_eq_some_iff.mp hfirst
      have hrest := ih hothers
      rw [occurrences] at hrest ⊢
      rw [List.countP_cons, hrest, htext]
      by_cases hname : text = name <;> simp [given, hname]

/-- An object that spells a record gives each field its value or, if the field is left out,
nothing. -/
theorem given_of_perm (hnames : layout.names.Nodup) {foreign : List (String × Value)}
    (hforeign : ∀ m ∈ foreign, m.1 ∉ layout.names)
    (hperm : members.Perm ((layout.members s).filter (fun m => !omitted m.1) ++ foreign))
    (hf : f ∈ layout.fields) :
    given members f.name = if omitted f.name then [] else [f.write s] := by
  have hgiven := given_perm hperm f.name
  have hothers : given foreign f.name = [] := given_of_foreign fun m hm heq =>
    hforeign m hm (heq ▸ List.mem_map_of_mem hf)
  have hown : given (layout.members s) f.name = [f.write s] := given_map hnames hf s
  rw [given_append, hothers, List.append_nil, given_filter, hown] at hgiven
  cases homitted : omitted f.name with
  | true =>
      rw [homitted, if_pos rfl] at hgiven
      rw [hgiven.eq_nil, if_pos rfl]
  | false =>
      rw [homitted, if_neg Bool.false_ne_true] at hgiven
      rw [List.perm_singleton.mp hgiven, if_neg Bool.false_ne_true]

/-- The name of a field that is left out does not stand in an object. -/
theorem occurrences_of_spells (hnames : layout.names.Nodup)
    (hspells : layout.Spells s omitted raw) (hf : f ∈ layout.fields)
    (homitted : omitted f.name = true) : occurrences raw f.name = 0 := by
  obtain ⟨members, foreign, hnamed, hforeign, hperm⟩ := hspells
  rw [occurrences_eq hnamed, given_of_perm hnames hforeign hperm hf, if_pos homitted]
  rfl

/-! ## What is read -/

/-- Whether a record is another one with defaults for the fields that are left out. -/
def Overrides (layout : Layout σ) (omitted : String → Bool) (s t : σ) : Prop :=
  ∀ f ∈ layout.fields, f.get t = if omitted f.name then f.get layout.default else f.get s

/-- An object without some members of a record, and with foreign ones, is read as the record with
defaults in the place of what is left out. -/
theorem read_of_overrides (hlawful : layout.Lawful) (hback : layout.ReadsFields t)
    (hoverrides : layout.Overrides omitted s t)
    (hoptional : ∀ f ∈ layout.fields, omitted f.name = true → f.required = false)
    (hspells : layout.Spells s omitted raw) : layout.read (.object raw) = some t := by
  obtain ⟨members, foreign, hnamed, hforeign, hperm⟩ := hspells
  have hvalues : ∀ f ∈ layout.fields, f.value? (given members f.name) = some (f.get t) := by
    intro f hf
    have hget := hoverrides f hf
    rw [given_of_perm hlawful.names hforeign hperm hf]
    cases homitted : omitted f.name with
    | true =>
        rw [homitted, if_pos rfl] at hget
        rw [if_pos rfl, hget]
        exact hlawful.absent_of_not_required hf (hoptional f hf homitted)
    | false =>
        rw [homitted, if_neg Bool.false_ne_true] at hget
        rw [if_neg Bool.false_ne_true, RecordField.write, ← hget]
        exact hback f hf
  rw [read, hnamed]
  exact (readMembers_of_values hvalues _).trans (congrArg some (hlawful.rebuilt t _))

/-- All objects that spell a record are read as it, if it is read field by field. -/
theorem read_of_spells (hlawful : layout.Lawful) (hback : layout.ReadsFields s)
    (hdefault : layout.ReadsFields layout.default) (homits : layout.Omits s omitted)
    (hspells : layout.Spells s omitted raw) : layout.read (.object raw) = some s := by
  have hoverrides : layout.Overrides omitted s s := by
    intro f hf
    split
    · next homitted =>
      exact Codec.eq_of_encode_eq (hback f hf) (hdefault f hf) (homits f hf homitted).2
    · rfl
  exact read_of_overrides hlawful hback hoverrides
    (fun f hf homitted => (homits f hf homitted).1) hspells

/-- The array of a record's values is read as the record. -/
theorem read_items (hlawful : layout.Lawful) (hback : layout.ReadsFields s) :
    layout.read (.array (layout.fields.map fun f => f.write s)) = some s := by
  rw [read, readItems_of_values hback, hlawful.rebuilt]

/-! ## What is not read -/

theorem read_eq_none (hf : f ∈ layout.fields)
    (hnone : ∀ members, raw.mapM named = some members → f.value? (given members f.name) = none) :
    layout.read (.object raw) = none := by
  rw [read]
  split
  · next members hnamed => exact readMembers_eq_none hf (hnone members hnamed) _
  · rfl

/-- An object in which the name of a field stands twice is not read. -/
theorem read_repeated (hname : name ∈ layout.names) (htwice : 2 ≤ occurrences raw name) :
    layout.read (.object raw) = none := by
  obtain ⟨f, hf, rfl⟩ := List.mem_map.mp hname
  refine read_eq_none hf fun members hnamed => ?_
  rw [occurrences_eq hnamed] at htwice
  match hgiven : given members f.name with
  | [] => simp [hgiven] at htwice
  | [_] => simp [hgiven] at htwice
  | _ :: _ :: _ => rfl

/-- An object in which the name of a required field does not stand is not read. -/
theorem read_missing (hf : f ∈ layout.fields) (hrequired : f.required = true)
    (hmissing : occurrences raw f.name = 0) : layout.read (.object raw) = none := by
  refine read_eq_none hf fun members hnamed => ?_
  rw [occurrences_eq hnamed] at hmissing
  rw [List.eq_nil_of_length_eq_zero hmissing]
  exact Option.isNone_iff_eq_none.mp hrequired

end Layout

end BenchDepot.Json
