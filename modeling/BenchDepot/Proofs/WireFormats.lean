import BenchDepot.Proofs.Published
import BenchDepot.Proofs.Spellings

/-!
# The two wire formats

Submissions come from clients of every age, and rows of the aggregate go to them.  Both formats have
the same names, both are read whatever the order of the members and whatever stands between them,
and both lose nothing.  They differ in what they make of a member that is missing: a submission is
read as if the client had said zero, a row is not read at all.

Doubles are the one part of a record whose text might not read back, so that is assumed of the two
doubles of the record at hand.

* `Submission.lawful`, `Submission.readsFields` — a submission is read back if its doubles are;
* `submission_wireFormat`, `entry_wireFormat` — what is read as a submission or as a row.
-/

namespace BenchDepot

open Json (Codec Layout Piece RecordField Value)

/-- Whether the texts of the finite doubles in a submission read back as the same doubles. -/
def Submission.Exact (s : Submission) : Prop :=
  ∀ x ∈ [s.result, s.elapsed], x.isFinite = true → Codec.float.ReadsBack x

instance (s : Submission) : Decidable s.Exact :=
  inferInstanceAs (Decidable (∀ x ∈ [s.result, s.elapsed], x.isFinite = true →
    Codec.float.decode (Codec.float.encode x) = some x))

/-- How zero values are spelled. -/
def zeroTexts : List String :=
  ["\"\"", "0", "0.0", "false", "null"]

/-- What is read as a submission. -/
structure Submission.WireFormat (s : Submission) : Prop where
  /-- The text that a submission is written as is read as the submission. -/
  written : layout.codec.ofText? (layout.write s).text = some s
  /-- So is every object with its members and foreign ones in any order, and without some that
  have zero values. -/
  spelled : ∀ text raw omitted, Value.parse? text = some (.object raw) →
    layout.Spells s omitted raw →
      (∀ f ∈ layout.fields, omitted f.name = true → f.write s = f.write zero) →
        layout.codec.ofText? text = some s
  /-- So is the array of its values. -/
  items : layout.codec.ofText? (Value.array (layout.fields.map fun f => f.write s)).text = some s
  /-- An object in which the name of a field stands twice is not read. -/
  repeated : ∀ text raw name, Value.parse? text = some (.object raw) → name ∈ layout.names →
    2 ≤ Layout.occurrences raw name → layout.codec.ofText? text = none
  /-- A zero value is an empty text, a zero, false or null. -/
  zeros : ∀ f ∈ layout.fields, (f.write zero).text ∈ zeroTexts

/-- What is read as a row. -/
structure Entry.WireFormat (e : Entry) : Prop where
  /-- The text that a row is written as is read as the row. -/
  written : layout.codec.ofText? (layout.write e).text = some e
  /-- So is every object with its members and foreign ones in any order. -/
  spelled : ∀ text raw, Value.parse? text = some (.object raw) →
    layout.Spells e (fun _ => false) raw → layout.codec.ofText? text = some e
  /-- No such object is read if a member is left out. -/
  missing : ∀ text raw omitted name, Value.parse? text = some (.object raw) →
    layout.Spells e omitted raw → name ∈ layout.names → omitted name = true →
      layout.codec.ofText? text = none
  /-- An object in which the name of a field stands twice is not read. -/
  repeated : ∀ text raw name, Value.parse? text = some (.object raw) → name ∈ layout.names →
    2 ≤ Layout.occurrences raw name → layout.codec.ofText? text = none
  /-- Submissions and rows have the same names, 26 of them. -/
  names : layout.names = Submission.layout.names ∧ layout.names.Nodup ∧ layout.names.length = 26
  /-- A row with derived fields is read back with these, and with all else as it was. -/
  derived : ∀ topology config,
    layout.codec.ofText? (layout.write (e.derive topology config)).text =
      some { e with
        cpuDesc := topology.describe, cpuText := config.adHoc, cpuConfig := config }
  /-- Fields that are derived again are as if they had been derived once, the last time. -/
  rederived : ∀ topology config topology' config',
    (e.derive topology config).derive topology' config' = e.derive topology' config'

/-! ## Fields -/

namespace Submission

/-- The fields of a submission make it up, and what is missing is zero. -/
theorem lawful : layout.Lawful where
  names := by decide
  rebuilt _ _ := by
    simp only [layout, List.map_cons, List.map_nil, List.foldl_cons, List.foldl_nil, Codec.field,
      RecordField.orOf]
  own f hf := by
    obtain ⟨g, -, rfl⟩ := List.mem_map.mp hf
    exact Or.inr rfl

/-- What holds of all values of lawful types and of the doubles of a submission holds of its
fields. -/
theorem forall_fields {motive : ∀ {α : Type}, Codec α → α → Prop} {s : Submission}
    (hlawful : ∀ {α : Type} (codec : Codec α) [codec.Lawful] (a : α), motive codec a)
    (hresult : motive Codec.float s.result) (helapsed : motive Codec.float s.elapsed) :
    ∀ f ∈ layout.fields, motive f.codec (f.get s) := by
  simp only [layout, List.map_cons, List.map_nil, List.forall_mem_cons, List.not_mem_nil,
    false_implies, implies_true, and_true, Codec.field, RecordField.orOf]
  and_intros
  all_goals first
    | exact hlawful _ _
    | exact hresult
    | exact helapsed

theorem plain_fields (s : Submission) : ∀ f ∈ layout.fields, (f.write s).Plain :=
  forall_fields (motive := fun codec a => (codec.encode a).Plain)
    (fun _ _ a => Codec.Lawful.plain a) (Value.plain_ofFloat _) (Value.plain_ofFloat _)

/-- A submission is read back if its doubles are. -/
theorem readsFields {s : Submission} (hresult : Codec.float.ReadsBack s.result)
    (helapsed : Codec.float.ReadsBack s.elapsed) : layout.ReadsFields s :=
  forall_fields (fun _ _ a => Codec.Lawful.readsBack a) hresult helapsed

/-- The submission of a client that says nothing is read back. -/
theorem readsFields_zero : layout.ReadsFields zero :=
  have hzero : Codec.float.decode (Codec.float.encode 0.0) = some 0.0 := by decide
  readsFields hzero hzero

end Submission

/-! ## What is read -/

/-- What is read as a submission whose doubles are finite, if their texts read back. -/
theorem submission_wireFormat {s : Submission} (hexact : s.Exact)
    (hresult : s.result.isFinite = true) (helapsed : s.elapsed.isFinite = true) :
    s.WireFormat := by
  have hback : Submission.layout.ReadsFields s :=
    Submission.readsFields (hexact _ (by simp) hresult) (hexact _ (by simp) helapsed)
  have hoptional : ∀ f ∈ Submission.layout.fields, f.required = false := by decide
  refine ⟨?_, ?_, ?_, ?_, by decide⟩
  · exact Layout.ofText?_write Submission.lawful hback (Layout.plain_write s.plain_fields)
  · intro text raw omitted hparse hspells hzero
    rw [Codec.ofText?_of_parse hparse]
    exact Layout.read_of_spells Submission.lawful hback Submission.readsFields_zero
      (fun f hf homitted => ⟨hoptional f hf, hzero f hf homitted⟩) hspells
  · have hplain : (Value.array (Submission.layout.fields.map fun f => f.write s)).Plain := by
      apply Value.plain_array
      intro v hv
      obtain ⟨f, hf, rfl⟩ := List.mem_map.mp hv
      exact s.plain_fields f hf
    rw [Codec.ofText?_of_parse (Value.parse?_text hplain)]
    exact Layout.read_items Submission.lawful hback
  · intro text raw name hparse hname htwice
    rw [Codec.ofText?_of_parse hparse]
    exact Layout.read_repeated hname htwice

/-- What is read as a submission with a result and a negative zero. -/
theorem wireFormat_whatItSays : whatItSays.Exact ∧ whatItSays.result.isFinite = true ∧
    whatItSays.elapsed.isFinite = true ∧ whatItSays.WireFormat := by
  have hexact : whatItSays.Exact := by decide
  exact ⟨hexact, by decide, by decide,
    submission_wireFormat hexact (by decide) (by decide)⟩

/-- Two members the other way round, and between them a foreign one that holds a number too large
for a double; the others are left out. -/
example : Submission.layout.codec.ofText?
    "\x7b\"NumCores\":2,\"Colour\":[1e999,\x7b\x7d],\"BenchmarkResult\":1.5\x7d" =
      some { Submission.zero with result := 1.5, topology := ⟨0, 2, 0, 0⟩ } := by
  decide +kernel

/-- What is read as a row whose doubles are finite, if their texts read back. -/
theorem entry_wireFormat {e : Entry} (hexact : e.Exact) (hresult : e.result.isFinite = true)
    (helapsed : e.elapsed.isFinite = true) : e.WireFormat := by
  have hresultBack : Codec.float.ReadsBack e.result := hexact _ (by simp) hresult
  have helapsedBack : Codec.float.ReadsBack e.elapsed := hexact _ (by simp) helapsed
  have hback : Entry.layout.ReadsFields e := Entry.readsFields hresultBack helapsedBack
  refine ⟨?_, ?_, ?_, ?_, by decide, ?_, fun _ _ _ _ => rfl⟩
  · exact Layout.ofText?_write Entry.lawful hback e.plain_write
  · intro text raw hparse hspells
    rw [Codec.ofText?_of_parse hparse]
    exact Layout.read_of_overrides Entry.lawful hback (fun _ _ => rfl)
      (fun _ _ homitted => absurd homitted Bool.false_ne_true) hspells
  · intro text raw omitted name hparse hspells hname homitted
    obtain ⟨f, hf, rfl⟩ := List.mem_map.mp hname
    rw [Codec.ofText?_of_parse hparse]
    exact Layout.read_missing hf (Entry.required f hf)
      (Layout.occurrences_of_spells Entry.lawful.names hspells hf homitted)
  · intro text raw name hparse hname htwice
    rw [Codec.ofText?_of_parse hparse]
    exact Layout.read_repeated hname htwice
  · intro topology config
    have hderived : Entry.layout.ReadsFields (e.derive topology config) :=
      Entry.readsFields hresultBack helapsedBack
    exact Layout.ofText?_write Entry.lawful hderived (Entry.plain_write _)

/-- The row of a submission that is alone in its group. -/
theorem wireFormat_entry_whatItSays : whatItSays.entry.Exact ∧
    whatItSays.entry.result.isFinite = true ∧ whatItSays.entry.elapsed.isFinite = true ∧
      whatItSays.entry.WireFormat := by
  have hexact : whatItSays.entry.Exact := by decide +kernel
  exact ⟨hexact, by decide +kernel, by decide +kernel,
    entry_wireFormat hexact (by decide +kernel) (by decide +kernel)⟩

end BenchDepot
