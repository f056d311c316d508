import BenchDepot.Proofs.FiniteDoubles
import BenchDepot.Proofs.Layouts
import BenchDepot.Proofs.WireFields

/-!
# Only valid records come in over HTTP

A row that was uploaded has been through three gates.  Its numbers were read from JSON, where no
numeral spells an infinite double or one that is no number.  Its submission broke none of the rules.
And the text of its configuration was written by the service, which reads it back.  What the store
then does to a record, forgetting the sign of a zero, takes it out of none of these.

* `isFinite_of_read` — a submission that is read has finite doubles;
* `sound_of_valid` — what breaks no rule is sound;
* `storable_of_membersOf?` — what an upload spells can be stored;
* `Row.valid_of_keeps` — the row of a submission that breaks no rule is valid;
* `admits_run` — every run of a new service.
-/

namespace BenchDepot

open Json (Codec Layout RecordField Value)

/-- A measurement that may be true: it names a machine, of plausible parts, and its doubles are
numbers. -/
structure Measurement.Sound (m : Measurement) : Prop where
  machineId : ';' ∈ m.machineId.toList
  legacy : m.legacy = false
  pointerBits : m.pointerBits = 32 ∨ m.pointerBits = 64
  cpus : 1 ≤ m.topology.cpus
  cores : 1 ≤ m.topology.cores
  threads : 1 ≤ m.topology.threads
  numaNodes : 0 ≤ m.topology.numaNodes
  memory : 4096 ≤ m.memoryInKiB
  physicalMemory : m.physicalMemoryInMiB = 0 ∨ 4 ≤ m.physicalMemoryInMiB
  result : m.result.isFinite = true
  result_nonneg : 0.0 ≤ m.result
  elapsed : m.elapsed.isFinite = true

/-- A row of a sound measurement, with a type that can be seen and a configuration that is written
as the service writes it. -/
structure Row.Valid (row : Row) : Prop extends row.toMeasurement.Sound where
  benchmarkType : ∃ c ∈ row.benchmarkType.toList, Text.isBlank c = false
  cpuText : (Cpu.Config.ofText row.cpuText).stored = row.cpuText

/-- A service that has let in valid records only, and has room for more. -/
structure Admits (s : Service) : Prop where
  rows : ∀ row ∈ s.store.rows, row.Valid
  /-- No upload fails for want of a number, whether it breaks a rule or not. -/
  notNull : ∀ body members, Http.membersOf? body = some members →
    s.append (recordsOf members) s.now ≠ .error .missingNumber

/-! ## What is read -/

/-- A double that is read is finite. -/
theorem Json.Codec.isFinite_of_decode {v : Value} {x : Float}
    (h : Codec.float.decode v = some x) : x.isFinite = true := by
  unfold Codec.float at h
  dsimp only at h
  split at h
  · exact Decimal.isFinite_of_toFloat? h
  · cases h

/-- A measurement whose doubles are finite. -/
def Measurement.Finite (m : Measurement) : Prop :=
  m.result.isFinite = true ∧ m.elapsed.isFinite = true

/-- A double that a field is set to is finite, since the default is. -/
theorem Json.Codec.isFinite_of_mayRead {x : Float}
    (h : (∃ v, Codec.float.decode v = some x) ∨ x = 0.0) : x.isFinite = true := by
  rcases h with ⟨v, hread⟩ | rfl
  · exact isFinite_of_decode hread
  · decide

namespace Submission

variable {sub : Submission} {benchmarkType : String}

/-- A submission that is read has finite doubles. -/
theorem isFinite_of_read {v : Value} (h : layout.read v = some sub) :
    sub.toMeasurement.Finite := by
  refine Layout.read_induction (motive := fun s => s.toMeasurement.Finite) ⟨by decide, by decide⟩
    ?_ h
  simp only [layout, List.map_cons, List.map_nil, List.forall_mem_cons, List.not_mem_nil,
    false_implies, implies_true, and_true]
  and_intros
  -- two fields are doubles, and the others have nothing to do with them
  all_goals first
    | exact RecordField.keeps_orOf fun _ _ _ h => h
    | exact RecordField.keeps_orOf fun _ _ hread h => ⟨Codec.isFinite_of_mayRead hread, h.2⟩
    | exact RecordField.keeps_orOf fun _ _ hread h => ⟨h.1, Codec.isFinite_of_mayRead hread⟩

/-- A submission that breaks no rule has a type that can be seen, and is sound if its doubles are
finite. -/
theorem sound_of_valid (h : sub.violation? benchmarkType = none)
    (hfinite : sub.toMeasurement.Finite) :
    (∃ c ∈ benchmarkType.toList, Text.isBlank c = false) ∧ sub.toMeasurement.Sound := by
  unfold violation? at h
  split_ifs at h with hblank hmachine hlegacy hbits htopology hmemory hphysical hresult
  simp only [not_or, Int64.not_lt] at htopology
  obtain ⟨hcpus, hcores, hthreads, hnodes⟩ := htopology
  obtain ⟨hnan, hnegative⟩ := not_or.mp hresult
  refine ⟨by simpa [Text.allBlank] using hblank, ?_⟩
  exact {
    machineId := by simpa using hmachine
    legacy := by simpa using hlegacy
    pointerBits := by
      by_contra hother
      exact hbits (not_or.mp hother)
    cpus := hcpus
    cores := hcores
    threads := hthreads
    numaNodes := hnodes
    memory := Int64.not_lt.mp hmemory
    physicalMemory := by
      by_contra hother
      rw [not_or, Int64.not_le] at hother
      exact hphysical hother
    result := hfinite.1
    result_nonneg := Decimal.zero_le_of_not_lt (eq_false_of_ne_true hnan) hnegative
    elapsed := hfinite.2 }

end Submission

/-! ## What is accepted -/

/-- Whatever stands in a list of results is the result of something. -/
theorem exists_of_mapM {α β : Type} {f : α → Option β} {xs : List α} {ys : List β} {y : β}
    (h : xs.mapM f = some ys) (hy : y ∈ ys) : ∃ x ∈ xs, f x = some y := by
  induction xs generalizing ys with
  | nil =>
      cases h
      cases hy
  | cons x rest ih =>
      rw [List.mapM_cons] at h
      obtain ⟨first, hfirst, h⟩ := Option.bind_eq_some_iff.mp h
      obtain ⟨more, hmore, h⟩ := Option.bind_eq_some_iff.mp h
      cases h
      rcases List.mem_cons.mp hy with rfl | hy
      · exact ⟨x, List.mem_cons_self, hfirst⟩
      · obtain ⟨x', hx', heq⟩ := ih hmore hy
        exact ⟨x', List.mem_cons_of_mem _ hx', heq⟩

/-- What an upload spells has finite doubles. -/
theorem isFinite_of_membersOf? {body : ByteArray} {members : List (String × Submission)}
    {name : String} {sub : Submission} (h : Http.membersOf? body = some members)
    (hm : (name, sub) ∈ members) : sub.toMeasurement.Finite := by
  unfold Http.membersOf? at h
  split at h
  · obtain ⟨piece, _, hmember⟩ := exists_of_mapM h hm
    unfold Codec.member at hmember
    split at hmember
    · next hread =>
      cases hmember
      exact Submission.isFinite_of_read hread
    · cases hmember
  · cases h

namespace Store

/-- A double that is stored stays finite. -/
theorem isFinite_kept {x : Float} (h : x.isFinite = true) : (kept x).isFinite = true := by
  unfold kept
  split
  · decide
  · exact h

theorem zero_le_kept {x : Float} (h : 0.0 ≤ x) : 0.0 ≤ kept x := by
  unfold kept
  split
  · decide
  · exact h

/-- Finite doubles can be stored. -/
theorem storable_of_finite {record : Record} (h : record.toMeasurement.Finite) :
    storable record = true := by
  rw [storable, Decimal.isNaN_of_isFinite h.1, Decimal.isNaN_of_isFinite h.2]
  rfl

/-- A batch is refused for want of a number only if one of its records cannot be stored. -/
theorem exists_of_missingNumber {submittedAt : Instant} {broken : Option Nat} {rows : List Row}
    {records : List Record}
    (h : appendRows submittedAt broken rows records = .error .missingNumber) :
    ∃ record ∈ records, storable record = false := by
  induction records generalizing broken rows with
  | nil => cases h
  | cons record rest ih =>
      rw [appendRows] at h
      split at h
      · cases h
      · split at h
        · obtain ⟨other, hother, hbad⟩ := ih h
          exact ⟨other, List.mem_cons_of_mem _ hother, hbad⟩
        · next cause hrow =>
          cases h
          refine ⟨record, List.mem_cons_self, ?_⟩
          cases hgood : storable record with
          | false => rfl
          | true =>
              have hok := row_isOk rows record submittedAt
              rw [hrow, hgood, Bool.and_true] at hok
              rw [Store.row, ← hok] at hrow
              cases hrow

end Store

/-- The record of a submission that breaks no rule makes a valid row. -/
theorem Row.valid_of_keeps {row : Row} {sub : Submission} {benchmarkType : String}
    {submittedAt : Instant} (hkeeps : row.Keeps submittedAt (sub.record benchmarkType))
    (hvalid : sub.violation? benchmarkType = none) (hfinite : sub.toMeasurement.Finite) :
    row.Valid := by
  obtain ⟨hvisible, hsound⟩ := Submission.sound_of_valid hvalid hfinite
  refine { toSound := ?_, benchmarkType := ?_, cpuText := ?_ }
  · rw [hkeeps.measurement, Submission.record_eq (Submission.legacy_of_valid hvalid)]
    exact { hsound with
      result := Store.isFinite_kept hsound.result
      result_nonneg := Store.zero_le_kept hsound.result_nonneg
      elapsed := Store.isFinite_kept hsound.elapsed }
  · rw [hkeeps.benchmarkType]
    exact hvisible
  · rw [hkeeps.cpuText, Cpu.Config.ofText_stored]

/-- The records of an upload can be stored. -/
theorem storable_of_membersOf? {body : ByteArray} {members : List (String × Submission)}
    (h : Http.membersOf? body = some members) {record : Record}
    (hrecord : record ∈ recordsOf members) : Store.storable record = true := by
  obtain ⟨sub, hlast, hsub⟩ := ((onePerType_recordsOf members).mem_iff record).mp hrecord
  have hfinite : sub.toMeasurement.Finite := isFinite_of_membersOf? h (mem_of_lastOf? hlast)
  rw [hsub]
  exact Store.storable_of_finite hfinite

/-- Records that can be stored do not fail for want of a number. -/
theorem Service.append_ne_missingNumber {s : Service} {records : List Record} {at_ : Instant}
    (h : ∀ record ∈ records, Store.storable record = true) :
    s.append records at_ ≠ .error .missingNumber := by
  intro hmissing
  unfold append Store.append at hmissing
  split at hmissing
  · cases hmissing
  · split at hmissing
    · cases hmissing
    · next cause hstore =>
      cases hmissing
      split at hstore
      · cases hstore
      · next hrows =>
        cases hstore
        obtain ⟨record, hrecord, hbad⟩ := Store.exists_of_missingNumber hrows
        rw [h record hrecord] at hbad
        cases hbad

/-- After a run without direct writes every row is valid. -/
theorem Service.valid_of_mem_rows (settings : Settings) (now : Instant) {events : List Event}
    (hevents : ∀ e ∈ events, e.writesRows = false) {row : Row}
    (hrow : row ∈ ((Service.fresh settings now).run events).store.rows) : row.Valid := by
  have hholds := Service.holds_run settings now hevents
  obtain ⟨record, hrecord, at_, hkeeps⟩ := exists_of_forall₂ hholds.flip hrow
  obtain ⟨body, members, sub, hspells, hlast, hvalid, hsub⟩ :=
    Service.exists_submission_of_accepted hrecord
  rw [hsub] at hkeeps
  exact Row.valid_of_keeps hkeeps hvalid (isFinite_of_membersOf? hspells (mem_of_lastOf? hlast))

/-- Every run of a new service lets in valid records only, as long as no rows are written
directly. -/
theorem admits_run (settings : Settings) (now : Instant) {events : List Event}
    (hevents : ∀ e ∈ events, e.writesRows = false) :
    Admits ((Service.fresh settings now).run events) := by
  refine ⟨?_, ?_⟩
  · intro row hrow
    exact Service.valid_of_mem_rows settings now hevents hrow
  · intro body members hspells
    exact Service.append_ne_missingNumber fun record hrecord =>
      storable_of_membersOf? hspells hrecord

/-- Two of three uploads are accepted, and their rows are valid. -/
theorem admits_threeUploads : (beforeUploads.accepted threeUploads).length = 2 ∧
    Admits (beforeUploads.run threeUploads) :=
  ⟨threeUploads_accepted.2.1,
    admits_run {} .epoch (by simp [threeUploads, uploadOf, Event.writesRows])⟩

end BenchDepot
