import BenchDepot.Proofs.Run
import Mathlib.Data.List.Forall2

/-!
# How rows come in

Rows come in behind the others, a batch at a time, and a batch comes in as a whole or not at all.
A row keeps its record up to the sign of zeros, which the store does not know.

* `append_spec` — the rows of a batch that was appended, one for each record;
* `append_isOk_iff` — when a batch can be appended.
-/

namespace BenchDepot

namespace Store

/-- A double as it comes back from the store: zero has no sign. -/
def kept (x : Float) : Float :=
  if x == 0.0 then 0.0 else x

/-- A double is kept as it comes back, unless it is NaN. -/
theorem ofFloat_eq (x : Float) :
    Cell.ofFloat x = if x.isNaN then .null else .real (kept x) := by
  unfold Cell.ofFloat kept
  split
  · rfl
  · split <;> rfl

/-- Every value of an insertion reaches the field it is meant for: the row holds its measurement as
it comes back, under the next number. -/
theorem row_eq (rows : List Row) (m : Measurement) (benchmarkType cpuText : String)
    (submittedAt : Instant) : row rows m benchmarkType cpuText submittedAt =
      if submittedAt.isWritable then
        if m.result.isNaN ∨ m.elapsed.isNaN then .error .missingNumber
        else .ok { m with
          result := kept m.result
          elapsed := kept m.elapsed
          id := rows.length + 1
          benchmarkType := benchmarkType
          cpuText := cpuText
          submittedAt := submittedAt }
      else .error .unwritableTime := by
  unfold row
  split
  · rw [binds, ofFloat_eq, ofFloat_eq]
    -- a flag comes back only when it is known which one it is
    obtain ⟨_, _, _, _, _, result, elapsed, _, _, _, _, _, _, _, _, _, _, _, fromSuperUser, legacy⟩ := m
    cases hresult : result.isNaN with
    | true => rfl
    | false =>
        cases helapsed : elapsed.isNaN with
        | true => cases fromSuperUser <;> rfl
        | false => cases fromSuperUser <;> cases legacy <;> rfl
  · rfl

end Store

/-- A row that keeps a record submitted at some time. -/
structure Row.Keeps (submittedAt : Instant) (record : Record) (row : Row) : Prop where
  benchmarkType : row.benchmarkType = record.benchmarkType
  cpuText : row.cpuText = record.cpuConfig.stored
  submittedAt : row.submittedAt = submittedAt
  measurement : row.toMeasurement =
    { record.toMeasurement with
      result := Store.kept record.result
      elapsed := Store.kept record.elapsed }

namespace Store

variable {submittedAt : Instant} {broken : Option Nat} {rows new : List Row} {record : Record}
  {records : List Record}

/-- A row holds its measurement as it comes back, under the next number. -/
theorem row_eq_ok {m : Measurement} {benchmarkType cpuText : String} {row : Row}
    (h : Store.row rows m benchmarkType cpuText submittedAt = .ok row) :
    row = { m with
      result := kept m.result
      elapsed := kept m.elapsed
      id := rows.length + 1
      benchmarkType := benchmarkType
      cpuText := cpuText
      submittedAt := submittedAt } := by
  rw [row_eq] at h
  split_ifs at h
  cases h
  rfl

/-- A batch that is appended puts a row for each of its records behind the rows there were, with
the next numbers. -/
theorem appendRows_spec (h : appendRows submittedAt broken rows records = .ok new) :
    ∃ more, new = rows ++ more ∧ List.Forall₂ (Row.Keeps submittedAt) records more ∧
      more.map Row.id = List.range' (rows.length + 1) records.length := by
  induction records generalizing broken rows with
  | nil =>
      cases h
      exact ⟨[], by simp, List.Forall₂.nil, rfl⟩
  | cons record rest ih =>
      simp only [appendRows] at h
      split at h
      · cases h
      · split at h
        · next row hrow =>
          obtain ⟨more, hnew, hall, hids⟩ := ih h
          have hkeeps : row.Keeps submittedAt record := by
            rw [row_eq_ok hrow]
            exact ⟨rfl, rfl, rfl, rfl⟩
          have hid : row.id = rows.length + 1 := by rw [row_eq_ok hrow]
          refine ⟨row :: more, by rw [hnew]; simp, List.Forall₂.cons hkeeps hall, ?_⟩
          rw [List.map_cons, hid, hids, List.length_append, List.length_singleton,
            List.length_cons, List.range'_succ]
        · cases h

/-- A record can be stored if both of its doubles are numbers. -/
def storable (record : Record) : Bool :=
  !record.result.isNaN && !record.elapsed.isNaN

/-- The row of a record exists if the record can be stored and the time can be written. -/
theorem row_isOk (rows : List Row) (record : Record) (submittedAt : Instant) :
    (Store.row rows record.toMeasurement record.benchmarkType record.cpuConfig.stored
      submittedAt).isOk = (submittedAt.isWritable && storable record) := by
  rw [row_eq, storable]
  cases submittedAt.isWritable with
  | false => rfl
  | true => cases record.result.isNaN <;> cases record.elapsed.isNaN <;> rfl

/-- A batch can be appended if no insertion is made to fail, every record can be stored, and the
time can be written if there is anything to store. -/
theorem appendRows_isOk_iff : (appendRows submittedAt broken rows records).isOk = true ↔
    (∀ place, broken = some place → records.length ≤ place) ∧
      ∀ record ∈ records, submittedAt.isWritable = true ∧ storable record = true := by
  induction records generalizing broken rows with
  | nil => simp [appendRows, Except.isOk, Except.toBool]
  | cons record rest ih =>
      have hrow := row_isOk rows record submittedAt
      simp only [appendRows]
      split
      · next hbroken =>
        simp [hbroken, Except.isOk, Except.toBool]
      · next hbroken =>
        have hplace : (∀ place, broken.map Nat.pred = some place → rest.length ≤ place) ↔
            ∀ place, broken = some place → (record :: rest).length ≤ place := by
          cases broken with
          | none => simp
          | some place =>
              have hpos : place ≠ 0 := fun hzero => hbroken (by rw [hzero])
              simp only [Option.map_some, Option.some.injEq, forall_eq', List.length_cons,
                Nat.pred_eq_sub_one]
              omega
        cases hnew : Store.row rows record.toMeasurement record.benchmarkType
            record.cpuConfig.stored submittedAt with
        | error cause =>
            rw [hnew] at hrow
            have hbad : ¬(submittedAt.isWritable = true ∧ storable record = true) := by
              rw [← Bool.and_eq_true, ← hrow]
              simp [Except.isOk, Except.toBool]
            simp only [List.mem_cons, forall_eq_or_imp]
            constructor
            · intro h
              simp [Except.isOk, Except.toBool] at h
            · intro h
              exact absurd h.2.1 hbad
        | ok row =>
            rw [hnew] at hrow
            have hgood : submittedAt.isWritable = true ∧ storable record = true := by
              rw [← Bool.and_eq_true, ← hrow]
              rfl
            simp only [List.mem_cons, forall_eq_or_imp]
            rw [ih, hplace]
            constructor
            · exact fun h => ⟨h.1, hgood, h.2⟩
            · exact fun h => ⟨h.1, h.2.2⟩

end Store

namespace Service

variable {s : Service} {records : List Record} {at_ : Instant}

/-- When records can be appended. -/
theorem append_isOk_iff : (s.append records at_).isOk = true ↔
    s.faults.append = false ∧ (∀ place, s.faults.insert = some place → records.length ≤ place) ∧
      ∀ record ∈ records, at_.isWritable = true ∧ Store.storable record = true := by
  have hrows := @Store.appendRows_isOk_iff at_ s.faults.insert s.store.rows records
  unfold append Store.append
  cases s.faults.append with
  | true => simp [Except.isOk, Except.toBool]
  | false =>
      rw [if_neg Bool.false_ne_true]
      cases hnew : Store.appendRows at_ s.faults.insert s.store.rows records with
      | error cause =>
          rw [hnew] at hrows
          rw [← hrows]
          simp [Except.isOk, Except.toBool]
      | ok rows =>
          rw [hnew] at hrows
          rw [← hrows]
          simp [Except.isOk, Except.toBool]

/-- Records that are appended put a row each behind the rows there were, and change nothing
else. -/
theorem append_spec {after : Service} (h : s.append records at_ = .ok after) : ∃ more,
    after = { s with store := { s.store with rows := s.store.rows ++ more } } ∧
      List.Forall₂ (Row.Keeps at_) records more ∧
        more.map Row.id = List.range' (s.store.rows.length + 1) records.length := by
  obtain ⟨rows, hrows, rfl⟩ := append_eq_ok h
  obtain ⟨more, rfl, hkeeps, hids⟩ := Store.appendRows_spec hrows
  exact ⟨more, rfl, hkeeps, hids⟩

end Service

end BenchDepot
