import BenchDepot.Proofs.Admission
import BenchDepot.Proofs.Rebuilds

/-!
# Whether a published aggregate can be read

An aggregate is published as JSON, and its clients read rows in which every field is present and the
results are numbers.  Nothing that is uploaded is infinite, but an average may be, since the sum
behind it can leave the range of doubles.  JSON has no numeral for it, null is written in its place,
and one null takes the whole aggregate from the clients, with all of its other rows.

* `Entry.lawful`, `Entry.readsFields` — a row is read back if its doubles are;
* `ofBytes?_of_finite`, `ofBytes?_of_infinite` — when an aggregate is read as it was written;
* `published_of_uploads` — the content of a rebuild, after every run.
-/

namespace BenchDepot

open Json (Codec Glyph Layout Piece RecordField Value)

/-- The aggregate that clients read in some content. -/
def Aggregate.ofBytes? (content : ByteArray) : Option Aggregate :=
  (Value.ofGlyphs? (Glyph.ofBytes content)).bind Aggregate.codec.decode

/-- All rows of an aggregate. -/
def Aggregate.rows (aggregate : Aggregate) : List Entry :=
  aggregate.entries.flatMap Prod.snd

/-- Whether the texts of the finite doubles in a row read back as the same doubles. -/
def Entry.Exact (entry : Entry) : Prop :=
  ∀ x ∈ [entry.result, entry.elapsed], x.isFinite = true → Codec.float.ReadsBack x

instance (entry : Entry) : Decidable entry.Exact :=
  inferInstanceAs (Decidable (∀ x ∈ [entry.result, entry.elapsed], x.isFinite = true →
    Codec.float.decode (Codec.float.encode x) = some x))

/-- The content that a rebuild came to, and what clients read in it. -/
structure Published (s : Service) (content : ByteArray) (aggregate : Aggregate) : Prop where
  build : s.build.1 = .ok aggregate
  /-- Elapsed times are always finite. -/
  elapsed : ∀ entry ∈ aggregate.rows, entry.elapsed.isFinite = true
  /-- The aggregate is read as it was built exactly if all results are finite. -/
  reads_iff : (∀ entry ∈ aggregate.rows, entry.Exact) →
    (Aggregate.ofBytes? content = some aggregate ↔
      ∀ entry ∈ aggregate.rows, entry.result.isFinite = true)
  /-- Otherwise nothing is read at all, however well the other doubles read back. -/
  unread : (∃ entry ∈ aggregate.rows, entry.result.isFinite = false) →
    Aggregate.ofBytes? content = none

/-! ## Doubles -/

namespace Json

/-- A double that is not finite is written as null. -/
theorem Value.ofFloat_of_not_finite {x : Float} (h : x.isFinite = false) :
    Value.ofFloat x = .null := by
  simp [Value.ofFloat, Decimal.Style.numeral?, h]

theorem Codec.decode_encode_of_not_finite {x : Float} (h : x.isFinite = false) :
    Codec.float.decode (Codec.float.encode x) = none := by
  show Codec.float.decode (Value.ofFloat x) = none
  rw [Value.ofFloat_of_not_finite h]
  rfl

/-! ## Lists and maps of which a part is not read -/

theorem mapM_eq_none {α β : Type} {f : α → Option β} {xs : List α} {x : α} (hx : x ∈ xs)
    (h : f x = none) : xs.mapM f = none := by
  induction xs with
  | nil => cases hx
  | cons first rest ih =>
      rw [List.mapM_cons]
      rcases List.mem_cons.mp hx with rfl | hmem
      · rw [h]
        rfl
      · rw [ih hmem]
        cases f first <;> rfl

variable {α : Type} {codec : Codec α}

/-- A list is not read if one of its items is not. -/
theorem Codec.list_unread {as : List α} {a : α} (ha : a ∈ as)
    (h : codec.decode (codec.encode a) = none) :
    codec.list.decode (codec.list.encode as) = none :=
  mapM_eq_none (List.mem_map_of_mem ha) h

/-- A map is not read if one of its values is not. -/
theorem Codec.textMap_unread {m : TextMap α} {e : String × α} (he : e ∈ m.entries)
    (h : codec.decode (codec.encode e.2) = none) :
    codec.textMap.decode (codec.textMap.encode m) = none := by
  have hmember : member codec (Piece.ofString e.1, codec.encode e.2) = none := by
    simp [member, h]
  have hmem : (Piece.ofString e.1, codec.encode e.2) ∈
      (m.entries.map fun e => (e.1, codec.encode e.2)).map fun m => (Piece.ofString m.1, m.2) := by
    rw [List.map_map]
    exact List.mem_map_of_mem he
  show (List.mapM (member codec) _).map TextMap.ofList = none
  rw [mapM_eq_none hmem hmember]
  rfl

end Json

/-! ## One row -/

namespace Entry

theorem required : ∀ f ∈ layout.fields, f.required = true := by decide

/-- The fields of a row make it up, and each has a name of its own. -/
theorem lawful : layout.Lawful where
  names := by decide
  rebuilt _ _ := by
    simp only [layout, List.foldl_cons, List.foldl_nil, Codec.field]
  own f hf := Or.inl (Option.isNone_iff_eq_none.mp (required f hf))

/-- What holds of all values of lawful types and of the doubles of a row holds of its fields. -/
theorem forall_fields {motive : ∀ {α : Type}, Codec α → α → Prop} {e : Entry}
    (hlawful : ∀ {α : Type} (codec : Codec α) [codec.Lawful] (a : α), motive codec a)
    (hresult : motive Codec.float e.result) (helapsed : motive Codec.float e.elapsed) :
    ∀ f ∈ layout.fields, motive f.codec (f.get e) := by
  simp only [layout, List.forall_mem_cons, List.not_mem_nil, false_implies, implies_true, and_true,
    Codec.field]
  and_intros
  all_goals first
    | exact hlawful _ _
    | exact hresult
    | exact helapsed

/-- A row is read back if its doubles are. -/
theorem readsFields {e : Entry} (hresult : Codec.float.ReadsBack e.result)
    (helapsed : Codec.float.ReadsBack e.elapsed) : layout.ReadsFields e :=
  forall_fields (fun _ _ a => Codec.Lawful.readsBack a) hresult helapsed

/-- A row without a finite result is not read. -/
theorem unread {e : Entry} (h : e.result.isFinite = false) :
    layout.codec.decode (layout.codec.encode e) = none := by
  have hfield : Codec.float.field "BenchmarkResult" (fun e : Entry => e.result)
      (fun s v => { s with result := v }) ∈ layout.fields := by
    simp [layout]
  exact Layout.unread_of_field lawful hfield (Codec.decode_encode_of_not_finite h)

theorem plain_write (e : Entry) : (layout.write e).Plain :=
  Layout.plain_write (forall_fields (motive := fun codec a => (codec.encode a).Plain)
    (fun _ _ a => Codec.Lawful.plain a) (Value.plain_ofFloat _) (Value.plain_ofFloat _))

end Entry

/-! ## The whole aggregate -/

namespace Aggregate

variable {aggregate : Aggregate} {entry : Entry}

theorem mem_rows : entry ∈ aggregate.rows ↔
    ∃ name entries, aggregate.get? name = some entries ∧ entry ∈ entries := by
  rw [rows, List.mem_flatMap]
  constructor
  · rintro ⟨⟨name, entries⟩, hentries, hentry⟩
    exact ⟨name, entries, (TextMap.mem_entries_iff _ _ _).mp hentries, hentry⟩
  · rintro ⟨name, entries, hentries, hentry⟩
    exact ⟨(name, entries), (TextMap.mem_entries_iff _ _ _).mpr hentries, hentry⟩

theorem plain_encode (aggregate : Aggregate) : (codec.encode aggregate).Plain := by
  apply Value.plain_ofMembers
  intro m hm
  obtain ⟨e, _, rfl⟩ := List.mem_map.mp hm
  apply Value.plain_array
  intro v hv
  obtain ⟨entry, _, rfl⟩ := List.mem_map.mp hv
  exact entry.plain_write

/-- Clients read the value that was written. -/
theorem ofBytes?_text (aggregate : Aggregate) :
    ofBytes? aggregate.text.toUTF8 = codec.decode (codec.encode aggregate) := by
  have hparse : Value.ofGlyphs? (Glyph.ofString aggregate.text) =
      some (codec.encode aggregate) := Value.parse?_text aggregate.plain_encode
  rw [ofBytes?, Glyph.ofBytes_toUTF8, hparse, Option.bind_some]

/-- An aggregate whose doubles are finite is read as it was written, if their texts read back. -/
theorem ofBytes?_of_finite (hexact : ∀ entry ∈ aggregate.rows, entry.Exact)
    (hresult : ∀ entry ∈ aggregate.rows, entry.result.isFinite = true)
    (helapsed : ∀ entry ∈ aggregate.rows, entry.elapsed.isFinite = true) :
    ofBytes? aggregate.text.toUTF8 = some aggregate := by
  rw [ofBytes?_text]
  refine Codec.textMap_readsBack fun e he => Codec.list_readsBack fun entry hentry => ?_
  have hmem : entry ∈ aggregate.rows := List.mem_flatMap.mpr ⟨e, he, hentry⟩
  have hback := hexact entry hmem
  exact Layout.readsBack_of_fields Entry.lawful
    (Entry.readsFields (hback _ (by simp) (hresult entry hmem))
      (hback _ (by simp) (helapsed entry hmem)))

/-- An aggregate with a result that is not finite is not read at all. -/
theorem ofBytes?_of_infinite (hentry : entry ∈ aggregate.rows)
    (hresult : entry.result.isFinite = false) : ofBytes? aggregate.text.toUTF8 = none := by
  obtain ⟨e, he, hmem⟩ := List.mem_flatMap.mp hentry
  rw [ofBytes?_text]
  exact Codec.textMap_unread he (Codec.list_unread hmem (Entry.unread hresult))

end Aggregate

/-! ## What is built -/

namespace Service

variable {s : Service} {aggregate : Aggregate} {content : ByteArray} {entry : Entry}

/-- A rebuild that came to some content came to the aggregate that is built. -/
theorem build_of_rebuiltContent (h : rebuiltContent s.rebuild.1 = .ok content) :
    ∃ aggregate, s.build.1 = .ok aggregate ∧ content = aggregate.text.toUTF8 := by
  have hisolates := s.answersAllBut_queries.isolates
  by_cases hlate : ↑(s.settings.refresh.rebuildTimeout.toNat * nanosPerSecond) < s.queries.span
  · have hfailed : rebuiltContent s.rebuild.1 = _ := hisolates.late _ hlate
    rw [hfailed] at h
    cases h
  · have hsame : s.rebuild = s.build := hisolates.inTime _ (not_lt.mp hlate)
    rw [hsame] at h
    cases hbuilt : s.build.1 with
    | error cause =>
        rw [hbuilt] at h
        cases h
    | ok aggregate =>
        rw [hbuilt] at h
        cases h
        exact ⟨aggregate, rfl, rfl⟩

/-- The row of an aggregate has the elapsed time of a row in the store. -/
theorem exists_row_of_build (h : s.build.1 = .ok aggregate) (hentry : entry ∈ aggregate.rows) :
    ∃ row ∈ s.store.rows, entry.elapsed = row.elapsed := by
  obtain ⟨name, entries, hentries, hmem⟩ := Aggregate.mem_rows.mp hentry
  obtain ⟨types, _, hget⟩ := Queries.get?_of_outcome h
  rw [hget] at hentries
  split at hentries
  · obtain ⟨results, hanswer, rfl⟩ := Option.map_eq_some_iff.mp hentries
    obtain ⟨r, hr, rfl⟩ := List.mem_map.mp hmem
    change (s.sampleAnswer name s.settings.refresh.sampleLimit.toNat).toOption = _ at hanswer
    cases hsampled : s.sampleAnswer name s.settings.refresh.sampleLimit.toNat with
    | error cause =>
        rw [hsampled] at hanswer
        cases hanswer
    | ok others =>
        rw [hsampled] at hanswer
        cases hanswer
        obtain ⟨row, hrow, hmeasurement, _⟩ := (samples_of_sampleAnswer hsampled).columns r hr
        have helapsed : r.elapsed = row.elapsed := by rw [hmeasurement]
        exact ⟨row, (List.mem_filter.mp hrow).1, helapsed⟩
  · cases hentries

end Service

/-- The content of a rebuild after every run of a new service in which rows come in by uploads only,
with any limits of samples and of time: clients read in it what was built if all averages are
finite, and nothing otherwise. -/
theorem published_of_uploads (settings : Settings) (now : Instant) {events : List Event}
    (hevents : ∀ e ∈ events, e.writesRows = false) {content : ByteArray}
    (h : Service.rebuiltContent ((Service.fresh settings now).run events).rebuild.1 =
      .ok content) :
    ∃ aggregate, Published ((Service.fresh settings now).run events) content aggregate := by
  obtain ⟨aggregate, hbuilt, rfl⟩ := Service.build_of_rebuiltContent h
  have helapsed : ∀ entry ∈ aggregate.rows, entry.elapsed.isFinite = true := by
    intro entry hentry
    obtain ⟨row, hrow, heq⟩ := Service.exists_row_of_build hbuilt hentry
    rw [heq]
    exact (Service.valid_of_mem_rows settings now hevents hrow).elapsed
  have hunread : (∃ entry ∈ aggregate.rows, entry.result.isFinite = false) →
      Aggregate.ofBytes? aggregate.text.toUTF8 = none := by
    rintro ⟨entry, hentry, hresult⟩
    exact Aggregate.ofBytes?_of_infinite hentry hresult
  refine ⟨aggregate, hbuilt, helapsed, fun hexact => ⟨?_, ?_⟩, hunread⟩
  · intro hread entry hentry
    by_contra hresult
    rw [hunread ⟨entry, hentry, eq_false_of_ne_true hresult⟩] at hread
    cases hread
  · intro hresult
    exact Aggregate.ofBytes?_of_finite hexact hresult helapsed

/-! ## Two runs -/

/-- Of the rows that are built after some uploads, whether the result is finite and whether the
finite doubles read back. -/
def builtRows (events : List Event) : Option (List (Bool × Bool)) :=
  (beforeUploads.run events).build.1.toOption.map fun aggregate =>
    aggregate.rows.map fun entry => (entry.result.isFinite, decide entry.Exact)

/-- What is built after some uploads has the rows that are told of it. -/
theorem mem_of_builtRows {events : List Event} {aggregate : Aggregate}
    {flags : List (Bool × Bool)} (hbuilt : (beforeUploads.run events).build.1 = .ok aggregate)
    (h : builtRows events = some flags) :
    aggregate.rows.map (fun entry => (entry.result.isFinite, decide entry.Exact)) = flags := by
  rw [builtRows, hbuilt] at h
  exact Option.some.inj h

theorem exists_rebuiltContent {s : Service} (h : s.rebuild.1.isOk = true) :
    ∃ content, Service.rebuiltContent s.rebuild.1 = .ok content := by
  cases hrebuilt : s.rebuild.1 with
  | error cause =>
      rw [hrebuilt] at h
      cases h
  | ok aggregate => exact ⟨_, rfl⟩

/-- Three small results come to one finite average. -/
theorem builtRows_threeUploads : builtRows threeUploads = some [(true, true)] := by
  rw [builtRows, Service.run_of_spells spells_threeUploads]
  decide +kernel

/-- The average of three small results is read as it was built. -/
theorem published_of_threeUploads : (∀ e ∈ threeUploads, e.writesRows = false) ∧
    ∃ content aggregate,
      Service.rebuiltContent (beforeUploads.run threeUploads).rebuild.1 = .ok content ∧
        Published (beforeUploads.run threeUploads) content aggregate ∧
          Aggregate.ofBytes? content = some aggregate := by
  have hevents : ∀ e ∈ threeUploads, e.writesRows = false := by
    simp [threeUploads, uploadOf, Event.writesRows]
  obtain ⟨content, hcontent⟩ := exists_rebuiltContent threeUploads_accepted.1
  obtain ⟨aggregate, hpublished⟩ := published_of_uploads {} .epoch hevents hcontent
  have hflags := mem_of_builtRows hpublished.build builtRows_threeUploads
  have hrows : ∀ entry ∈ aggregate.rows, entry.result.isFinite = true ∧ entry.Exact := by
    intro entry hentry
    have hmem := List.mem_map_of_mem (f := fun entry : Entry =>
      (entry.result.isFinite, decide entry.Exact)) hentry
    rw [hflags, List.mem_singleton, Prod.mk.injEq] at hmem
    exact ⟨hmem.1, of_decide_eq_true hmem.2⟩
  exact ⟨hevents, content, aggregate, hcontent, hpublished,
    (hpublished.reads_iff fun entry hentry => (hrows entry hentry).2).mpr
      fun entry hentry => (hrows entry hentry).1⟩

/-- Two uploads of results whose sum is out of range. -/
def twoHugeUploads : List Event :=
  [uploadOf "1.7e308", uploadOf "1.7e308"]

/-- What they spell, by evaluation. -/
theorem spells_twoHugeUploads : List.Forall₂ Event.Spells
    [[("t", oneResult 1.7e308)], [("t", oneResult 1.7e308)]] twoHugeUploads := by
  have hspells : (uploadOf "1.7e308").Spells [("t", oneResult 1.7e308)] :=
    Event.spells_text rfl (by decide +kernel)
  exact .cons hspells (.cons hspells .nil)

/-- Both are accepted, the rebuild succeeds, and the average is infinite. -/
theorem twoHugeUploads_evaluated :
    (beforeUploads.accepted twoHugeUploads).length = 2 ∧
      (beforeUploads.run twoHugeUploads).rebuild.1.isOk = true ∧
        builtRows twoHugeUploads = some [(false, true)] := by
  rw [builtRows, Service.accepted_of_spells spells_twoHugeUploads,
    Service.run_of_spells spells_twoHugeUploads]
  decide +kernel

/-- Clients read nothing in the content of that rebuild, although all texts of finite doubles in it
read back. -/
theorem unread_twoHugeUploads : (∀ e ∈ twoHugeUploads, e.writesRows = false) ∧
    (beforeUploads.accepted twoHugeUploads).length = 2 ∧
      ∃ content aggregate,
        Service.rebuiltContent (beforeUploads.run twoHugeUploads).rebuild.1 = .ok content ∧
          (beforeUploads.run twoHugeUploads).build.1 = .ok aggregate ∧
            (∀ entry ∈ aggregate.rows, entry.Exact) ∧
              Aggregate.ofBytes? content = none := by
  obtain ⟨haccepted, hok, hbuiltRows⟩ := twoHugeUploads_evaluated
  obtain ⟨content, hcontent⟩ := exists_rebuiltContent hok
  obtain ⟨aggregate, hbuilt, rfl⟩ := Service.build_of_rebuiltContent hcontent
  have hflags := mem_of_builtRows hbuilt hbuiltRows
  obtain ⟨entry, hrows, hentry⟩ := List.map_eq_singleton_iff.mp hflags
  rw [Prod.mk.injEq] at hentry
  refine ⟨by simp [twoHugeUploads, uploadOf, Event.writesRows], haccepted, _, aggregate, hcontent,
    hbuilt, ?_, ?_⟩
  · rw [hrows]
    simpa using of_decide_eq_true hentry.2
  · refine Aggregate.ofBytes?_of_infinite ?_ hentry.1
    rw [hrows]
    exact List.mem_cons_self

end BenchDepot
