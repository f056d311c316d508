import BenchDepot.Proofs.Aggregate
import BenchDepot.Proofs.Answers
import BenchDepot.Proofs.Sampling

/-!
# The rows are a history

Rows are only ever put behind the rows there are.  What stands in the store after a run is therefore
told by the run itself: every append and every upload reports how many rows it put there, a row that
is taken over is one, and nothing else puts any.  The queries for types, rows and their number all
tell of that one history.

* `length_rows_after` — the rows that an event adds are those it reports;
* `sum_of_answers` — as many rows are counted as are listed;
* `history_run` — every run of a new service.
-/

namespace BenchDepot

namespace Service

/-- How many rows an event reports to have stored: an append by itself, an upload in its answer. -/
def reported? (s : Service) : Event → Option Nat
  | .append records at_ => if (s.append records at_).isOk then some records.length else none
  | .request request =>
    if request.isUpload = true ∧ (Http.respond s request).1.status = 200 then
      (Http.respond s request).1.stored?
    else
      none
  | _ => none

/-- Whether an event takes a row over. -/
def imported? (s : Service) : Event → Option Unit
  | .importRow m benchmarkType cpuText at_ =>
    if (s.importRow m benchmarkType cpuText at_).isOk then some () else none
  | _ => none

end Service

/-- What the rows and the queries for them tell after a run. -/
structure History (s : Service) (events : List Event) : Prop where
  /-- The rows there were stand in front, at every event. -/
  kept : ∀ first rest, events = first ++ rest →
    (s.run first).store.rows <+: (s.run events).store.rows
  /-- The rows have the numbers from one on, without a gap. -/
  numbered : (s.run events).store.rows.map Row.id =
    List.range' 1 (s.run events).store.rows.length
  /-- What reports no rows and takes none over leaves them as they are. -/
  failed : ∀ first e rest, events = first ++ e :: rest → (s.run first).reported? e = none →
    (s.run first).imported? e = none → ((s.run first).after e).store.rows = (s.run first).store.rows
  /-- A batch with a double that is not a number fails and changes nothing. -/
  nan : ∀ first records at_ rest, events = first ++ .append records at_ :: rest →
    (∃ record ∈ records, record.result.isNaN = true ∨ record.elapsed.isNaN = true) →
      (∃ cause, (s.run first).append records at_ = .error cause) ∧
        (s.run first).after (.append records at_) = s.run first
  /-- The types are those of the rows, ascending by their bytes. -/
  types : (s.run events).faults.types = false → ∃ types, (s.run events).typesAnswer = .ok types ∧
    (types.Pairwise fun a b => Text.bytes a < Text.bytes b) ∧
      ∀ name, name ∈ types ↔ ∃ row ∈ (s.run events).store.rows, row.benchmarkType = name
  /-- The rows of a type are a part of all rows, in the order these came in. -/
  list : ∀ name, (s.run events).faults.list = false → ∃ rows,
    (s.run events).listAnswer name = .ok rows ∧ rows.Sublist (s.run events).store.rows ∧
      (rows.Pairwise fun a b => a.id < b.id) ∧
        ∀ row, row ∈ rows ↔ row ∈ (s.run events).store.rows ∧ row.benchmarkType = name
  /-- There are as many rows as were reported and taken over. -/
  count : (s.run events).faults.count = false → (s.run events).countAnswer =
    .ok ((s.log Service.reported? events).sum + (s.log Service.imported? events).length)
  /-- The rows of all types are as many. -/
  sum : ∀ n types lists, (s.run events).countAnswer = .ok n →
    (s.run events).typesAnswer = .ok types →
      List.Forall₂ (fun name rows => (s.run events).listAnswer name = .ok rows) types lists →
        n = (lists.map List.length).sum

namespace Service

variable {s : Service} {e : Event} {events : List Event}

/-! ## What an event reports -/

/-- An upload reports as many rows as it has records. -/
theorem reported?_request (s : Service) (request : Http.Request) :
    s.reported? (.request request) = (s.batch? (.request request)).map List.length := by
  simp only [reported?, batch?]
  split
  · next h =>
    obtain ⟨hupload, hstatus⟩ := h
    have hpost : request.method ≠ .head := by
      simp only [Http.Request.isUpload, Bool.and_eq_true, decide_eq_true_eq] at hupload
      rw [hupload.1]
      simp
    rw [respond_of_isUpload hupload] at hstatus ⊢
    rw [status_sendFor] at hstatus
    obtain ⟨members, haccepted⟩ := (submit_status_iff s request.body).mp hstatus
    rw [haccepted.spells, (submit_of_accepted haccepted).1, Http.Response.stored?,
      Http.Response.member?_sendFor _ hpost]
    exact Http.stored?_storedResponse _
  · rfl

/-- Every event adds as many rows as it reports, and the one that it takes over. -/
theorem length_rows_after (s : Service) (e : Event) : (s.after e).store.rows.length =
    s.store.rows.length + (s.reported? e).toList.sum + (s.imported? e).toList.length := by
  cases hdirect : e.writesRows with
  | false =>
      obtain ⟨more, hrows, _, hkeeps⟩ := grows_after s e
      obtain ⟨at_, hall⟩ := hkeeps hdirect
      have hreported : (s.reported? e).toList.sum = more.length := by
        rw [← hall.length_eq]
        cases e with
        | request request =>
            rw [reported?_request]
            cases s.batch? (.request request) <;> simp
        | append records at_ => cases hdirect
        | _ => rfl
      have himported : s.imported? e = none := by
        cases e <;> first | rfl | cases hdirect
      rw [hrows, List.length_append, hreported, himported]
      rfl
  | true =>
      cases e with
      | append records at_ =>
          show (s.orStay (s.append records at_)).store.rows.length = _
          simp only [reported?, imported?]
          cases happend : s.append records at_ with
          | error cause => rfl
          | ok after =>
              obtain ⟨more, rfl, hkeeps, _⟩ := append_spec happend
              simp [orStay, Except.isOk, Except.toBool, hkeeps.length_eq]
      | importRow m benchmarkType cpuText at_ =>
          show (s.orStay (s.importRow m benchmarkType cpuText at_)).store.rows.length = _
          simp only [reported?, imported?]
          cases himport : s.importRow m benchmarkType cpuText at_ with
          | error cause => rfl
          | ok after =>
              obtain ⟨row, _, rfl⟩ := importRow_eq_ok himport
              simp [orStay, Except.isOk, Except.toBool]
      | _ => cases hdirect

/-- What reports no rows and takes none over leaves them as they are. -/
theorem rows_after_of_none (hreported : s.reported? e = none) (himported : s.imported? e = none) :
    (s.after e).store.rows = s.store.rows := by
  obtain ⟨more, hrows, _, _⟩ := grows_after s e
  have hlength := length_rows_after s e
  rw [hreported, himported, hrows, List.length_append] at hlength
  have hnil : more = [] := List.eq_nil_of_length_eq_zero (by simpa using hlength)
  rw [hrows, hnil, List.append_nil]

/-- A batch with a double that is not a number cannot be appended. -/
theorem append_of_isNaN {records : List Record} {at_ : Instant} {record : Record}
    (hmem : record ∈ records) (hnan : record.result.isNaN = true ∨ record.elapsed.isNaN = true) :
    ∃ cause, s.append records at_ = .error cause := by
  have hstorable : Store.storable record = false := by
    rcases hnan with hnan | hnan
    · rw [Store.storable, hnan, Bool.not_true, Bool.false_and]
    · rw [Store.storable, hnan, Bool.not_true, Bool.and_false]
  cases happend : s.append records at_ with
  | error cause => exact ⟨cause, rfl⟩
  | ok after =>
      have hok : (s.append records at_).isOk = true := by rw [happend]; rfl
      have hgood := ((append_isOk_iff.mp hok).2.2 record hmem).2
      rw [hstorable] at hgood
      cases hgood

/-! ## Whole runs -/

/-- A run adds as many rows as its events report and take over. -/
theorem length_rows_run (s : Service) (events : List Event) : (s.run events).store.rows.length =
    s.store.rows.length + (s.log reported? events).sum + (s.log imported? events).length := by
  induction events generalizing s with
  | nil => rfl
  | cons e rest ih =>
      rw [run_cons, ih, length_rows_after]
      simp only [log, List.sum_append, List.length_append]
      omega

end Service

/-! ## The queries -/

namespace Store

/-- The types of a store ascend by their bytes. -/
theorem types_ascending (store : Store) :
    store.types.Pairwise fun a b => Text.bytes a < Text.bytes b :=
  (TextMap.keys_pairwise _).imp fun {a b} h => (Text.bytes_lt_iff a b).mpr h

/-- The rows of all types are all rows. -/
theorem sum_length_rowsOf (store : Store) :
    (store.types.map fun name => (store.rowsOf name).length).sum = store.count := by
  have hnodup : store.types.Nodup := (TextMap.keys_pairwise _).imp TextMap.ne_of_lt
  have hcover : ∀ row ∈ store.rows, row.benchmarkType ∈ store.types := by
    intro row hrow
    exact mem_types_iff.mpr (List.mem_map_of_mem hrow)
  have hperm := flatMap_filter_perm Row.benchmarkType hnodup hcover
  rw [count, ← hperm.length_eq, List.length_flatMap]
  congr 1

end Store

namespace Service

variable {s : Service}

/-- The types that are listed ascend by their bytes, and are those of the rows. -/
theorem typesAnswer_spec (h : s.faults.types = false) :
    ∃ types, s.typesAnswer = .ok types ∧
      (types.Pairwise fun a b => Text.bytes a < Text.bytes b) ∧
        ∀ name, name ∈ types ↔ ∃ row ∈ s.store.rows, row.benchmarkType = name := by
  refine ⟨s.store.types, ?_, Store.types_ascending _, fun name => ?_⟩
  · rw [typesAnswer, h]
    rfl
  · rw [Store.mem_types_iff, List.mem_map]

/-- The rows that are listed are those of the type, in their order. -/
theorem listAnswer_spec (name : String) (h : s.faults.list = false) :
    ∃ rows, s.listAnswer name = .ok rows ∧ rows.Sublist s.store.rows ∧
      ∀ row, row ∈ rows ↔ row ∈ s.store.rows ∧ row.benchmarkType = name := by
  refine ⟨s.store.rowsOf name, ?_, List.filter_sublist, fun row => ?_⟩
  · rw [listAnswer, h]
    rfl
  · simp [Store.rowsOf]

/-- As many rows are counted as are listed. -/
theorem sum_of_answers {n : Nat} {types : List String} {lists : List (List Row)}
    (hcount : s.countAnswer = .ok n) (htypes : s.typesAnswer = .ok types)
    (hlists : List.Forall₂ (fun name rows => s.listAnswer name = .ok rows) types lists) :
    n = (lists.map List.length).sum := by
  obtain rfl := eq_of_answer htypes
  have hlengths := map_eq_map (f := fun name => (s.store.rowsOf name).length) (g := List.length)
    (fun name rows h => by rw [eq_of_answer h]) hlists
  rw [eq_of_answer hcount, ← Store.sum_length_rowsOf, hlengths]

end Service

/-- Every run of a new service leaves a history. -/
theorem history_run (settings : Settings) (now : Instant) (events : List Event) :
    History (Service.fresh settings now) events := by
  have hnumbered := Service.numbered_run settings now events
  refine ⟨?_, hnumbered, ?_, ?_, Service.typesAnswer_spec, ?_, ?_, ?_⟩
  · rintro first rest rfl
    rw [Service.run_append]
    exact Service.prefix_run _ rest
  · intro first e rest _ hreported himported
    exact Service.rows_after_of_none hreported himported
  · rintro first records at_ rest _ ⟨record, hmem, hnan⟩
    obtain ⟨cause, hcause⟩ := @Service.append_of_isNaN
      ((Service.fresh settings now).run first) records at_ record hmem hnan
    refine ⟨⟨cause, hcause⟩, ?_⟩
    rw [Service.after, hcause, Service.orStay]
  · intro name hfault
    obtain ⟨rows, hanswer, hsublist, hmem⟩ := Service.listAnswer_spec name hfault
    have hids : (((Service.fresh settings now).run events).store.rows).Pairwise
        fun a b => a.id < b.id := by
      refine List.pairwise_map.mp ?_
      rw [hnumbered]
      exact List.pairwise_lt_range'
    exact ⟨rows, hanswer, hsublist, hids.sublist hsublist, hmem⟩
  · intro hfault
    have hlength := Service.length_rows_run (Service.fresh settings now) events
    rw [Service.countAnswer, hfault, Store.count, hlength]
    simp [Service.fresh, Store.empty]
  · intro n types lists hcount htypes hlists
    exact Service.sum_of_answers hcount htypes hlists

end BenchDepot
