import BenchDepot.Proofs.Arrivals
import BenchDepot.Proofs.ByteOrder
import BenchDepot.Proofs.Replacement
import Mathlib.Data.Finset.Card

/-!
# Uploads are stored as a whole or not at all

The body of an upload spells an object of submissions.  Of several submissions of one type the last
one counts.  If all that count are valid and the store takes them, each becomes a row, in the order
of the types; otherwise nothing is stored and nothing is counted but the rejection.

* `onePerType_recordsOf` — the records of an upload;
* `submit_of_accepted`, `submit_cases` — the two ways of an upload;
* `run_of_spells` — a run of uploads, in terms of the members that they spell;
* `grows_after` — the rows after an event;
* `numbered_run`, `prefix_run` — the rows after a run have the next numbers, and keep them;
* `upload_allOrNothing` — every upload to every service that a new one can become.
-/

namespace BenchDepot

open Json (Codec Glyph Value)

/-- The last submission of a type among the members of an upload. -/
def lastOf? (members : List (String × Submission)) (benchmarkType : String) : Option Submission :=
  ((members.filter fun m => m.1 = benchmarkType).getLast?).map Prod.snd

/-- The records of an upload: one of each type, that of its last submission. -/
def recordsOf (members : List (String × Submission)) : List Record :=
  (TextMap.ofList members).entries.map fun e => e.2.record e.1

/-- The records that an upload stands for. -/
structure OnePerType (members : List (String × Submission)) (records : List Record) : Prop where
  /-- There are as many as there are distinct types. -/
  length : records.length = (members.map Prod.fst).toFinset.card
  /-- They ascend by the bytes of the type. -/
  ascending : records.Pairwise fun a b => Text.bytes a.benchmarkType < Text.bytes b.benchmarkType
  /-- Each of them is the record of the last submission of its type. -/
  mem_iff : ∀ record, record ∈ records ↔ ∃ submission,
    lastOf? members record.benchmarkType = some submission ∧
      record = submission.record record.benchmarkType

/-- The records of an upload: one of each type, ascending by the bytes of the type. -/
structure Upload.HasRecords (upload : Upload) (records : List Record) : Prop where
  ascending : records.Pairwise fun a b => Text.bytes a.benchmarkType < Text.bytes b.benchmarkType
  mem_iff : ∀ record, record ∈ records ↔ ∃ submission,
    upload.get? record.benchmarkType = some submission ∧
      record = submission.record record.benchmarkType

/-- The members of a body that spells an object of submissions, in the order they stand in. -/
def Http.membersOf? (body : ByteArray) : Option (List (String × Submission)) :=
  match Value.ofGlyphs? (Glyph.ofBytes body) with
  | some (.object members) => members.mapM (Codec.member Submission.layout.codec)
  | _ => none

/-- An upload that is stored: its body is small enough and spells an object of submissions, all of
them that count are valid, and the store takes their records. -/
structure Accepted (s : Service) (body : ByteArray) (members : List (String × Submission)) :
    Prop where
  fits : body.size ≤ Http.bodyLimit
  spells : Http.membersOf? body = some members
  valid : ∀ benchmarkType submission, lastOf? members benchmarkType = some submission →
    submission.violation? benchmarkType = none
  appends : (s.append (recordsOf members) s.now).isOk = true

/-- A service that has stored some records: each has one row behind the rows there were, with the
next numbers and the present as its time. -/
structure StoredAs (s after : Service) (records : List Record) : Prop where
  rows : ∃ more, after.store.rows = s.store.rows ++ more ∧
    List.Forall₂ (Row.Keeps s.now) records more ∧
      more.map Row.id = List.range' (s.store.rows.length + 1) records.length
  ingested : after.counters.ingested = s.counters.ingested + records.length

/-! ## The records of an upload -/

/-- The records of its entries are those of an upload. -/
theorem Upload.hasRecords_entries (upload : Upload) :
    upload.HasRecords (upload.entries.map fun e => e.2.record e.1) where
  ascending := by
    refine List.pairwise_map.mpr (upload.ascending.imp ?_)
    intro a b h
    exact (Text.bytes_lt_iff a.1 b.1).mpr h
  mem_iff := by
    intro record
    rw [List.mem_map]
    constructor
    · rintro ⟨e, he, rfl⟩
      exact ⟨e.2, (TextMap.mem_entries_iff upload e.1 e.2).mp he, rfl⟩
    · rintro ⟨s, hget, hrecord⟩
      exact ⟨(record.benchmarkType, s), (TextMap.mem_entries_iff upload _ s).mpr hget,
        hrecord.symm⟩

variable {members : List (String × Submission)}

/-- The entries of an upload are the last submissions of its types. -/
theorem mem_entries_ofList_iff {e : String × Submission} :
    e ∈ (TextMap.ofList members).entries ↔ lastOf? members e.1 = some e.2 := by
  rw [TextMap.mem_entries_iff, TextMap.get?_ofList, lastOf?]

theorem mem_of_lastOf? {benchmarkType : String} {submission : Submission}
    (h : lastOf? members benchmarkType = some submission) :
    (benchmarkType, submission) ∈ members := by
  obtain ⟨m, hm, rfl⟩ := Option.map_eq_some_iff.mp h
  obtain ⟨hmem, htype⟩ := List.mem_filter.mp (List.mem_of_getLast? hm)
  rw [decide_eq_true_eq] at htype
  rwa [← htype]

/-- A type has a last submission if it occurs. -/
theorem exists_lastOf?_iff {benchmarkType : String} :
    (∃ submission, lastOf? members benchmarkType = some submission) ↔
      benchmarkType ∈ members.map Prod.fst := by
  constructor
  · rintro ⟨submission, h⟩
    exact List.mem_map_of_mem (mem_of_lastOf? h)
  · intro h
    obtain ⟨m, hmem, rfl⟩ := List.mem_map.mp h
    have hne : (members.filter fun n => n.1 = m.1) ≠ [] :=
      List.ne_nil_of_mem (List.mem_filter.mpr ⟨hmem, by simp⟩)
    exact ⟨_, by rw [lastOf?, List.getLast?_eq_some_getLast hne]; rfl⟩

/-- An upload has one record of each type. -/
theorem onePerType_recordsOf (members : List (String × Submission)) :
    OnePerType members (recordsOf members) where
  length := by
    have hkeys : (TextMap.ofList members).keys.toFinset = (members.map Prod.fst).toFinset := by
      ext benchmarkType
      rw [List.mem_toFinset, List.mem_toFinset, TextMap.mem_keys_iff, ← exists_lastOf?_iff]
      simp only [TextMap.get?_ofList, lastOf?]
    have hnodup : (TextMap.ofList members).keys.Nodup :=
      (TextMap.keys_pairwise _).imp TextMap.ne_of_lt
    calc (recordsOf members).length
        = (TextMap.ofList members).keys.length := by simp [recordsOf, TextMap.keys]
      _ = (TextMap.ofList members).keys.toFinset.card :=
        (List.toFinset_card_of_nodup hnodup).symm
      _ = (members.map Prod.fst).toFinset.card := by rw [hkeys]
  ascending := (Upload.hasRecords_entries (TextMap.ofList members)).ascending
  mem_iff := by
    intro record
    have h := (Upload.hasRecords_entries (TextMap.ofList members)).mem_iff record
    rwa [TextMap.get?_ofList] at h

/-! ## Validation -/

namespace Upload

variable {entries : List (String × Submission)} {records : List Record}

/-- Valid submissions become their records. -/
theorem validateAll_of_valid (h : ∀ e ∈ entries, e.2.violation? e.1 = none) :
    validateAll entries = .ok (entries.map fun e => e.2.record e.1) := by
  induction entries with
  | nil => rfl
  | cons e rest ih =>
      have he := h e List.mem_cons_self
      have hrest := ih fun other hother => h other (List.mem_cons_of_mem _ hother)
      simp only [validateAll, Submission.validate, he, hrest, List.map_cons]

/-- Submissions that become records are valid, and become their records. -/
theorem valid_of_validateAll (h : validateAll entries = .ok records) :
    ∀ e ∈ entries, e.2.violation? e.1 = none := by
  induction entries generalizing records with
  | nil => simp
  | cons e rest ih =>
      simp only [validateAll, Submission.validate] at h
      cases he : e.2.violation? e.1 with
      | some cause => simp [he] at h
      | none =>
          simp only [he] at h
          cases hrest : validateAll rest with
          | error cause => simp [hrest] at h
          | ok more =>
              intro other hother
              rcases List.mem_cons.mp hother with rfl | hother
              · exact he
              · exact ih hrest other hother

/-- The first submission that is not valid, in the order of the types, decides the error. -/
theorem validateAll_of_first {benchmarkType : String} {submission : Submission}
    {cause : SubmissionError} (hasc : Ascending entries)
    (hmem : (benchmarkType, submission) ∈ entries)
    (hcause : submission.violation? benchmarkType = some cause)
    (hfirst : ∀ e ∈ entries, e.1 < benchmarkType → e.2.violation? e.1 = none) :
    validateAll entries = .error cause := by
  induction entries with
  | nil => simp at hmem
  | cons e rest ih =>
      obtain ⟨hhead, htail⟩ := List.pairwise_cons.mp hasc
      rcases List.mem_cons.mp hmem with rfl | hmem
      · simp only [validateAll, Submission.validate, hcause]
      · have he := hfirst e List.mem_cons_self (hhead _ hmem)
        have hrest := ih htail hmem fun other hother =>
          hfirst other (List.mem_cons_of_mem _ hother)
        simp only [validateAll, Submission.validate, he, hrest]

end Upload

/-! ## One upload -/

namespace Http

/-- The upload of a body that spells one. -/
theorem uploadOf?_eq (body : ByteArray) :
    uploadOf? body = (membersOf? body).map TextMap.ofList := by
  unfold uploadOf? membersOf?
  cases Value.ofGlyphs? (Glyph.ofBytes body) with
  | none => rfl
  | some value => cases value <;> rfl

/-- The members of a text that spells an object of submissions. -/
def membersOfText? (text : String) : Option (List (String × Submission)) :=
  match Value.parse? text with
  | some (.object members) => members.mapM (Codec.member Submission.layout.codec)
  | _ => none

theorem membersOf?_toUTF8 (text : String) : membersOf? text.toUTF8 = membersOfText? text := by
  rw [membersOf?, Glyph.ofBytes_toUTF8]
  rfl

/-- The answer to an upload of some members, and the service after it. -/
def submitMembers (s : Service) (members : List (String × Submission)) : Response × Service :=
  match Upload.validate (TextMap.ofList members) with
  | .error cause => ((ApiError.badSubmission cause).response, rejected s)
  | .ok records => storeRecords s records

end Http

/-- An event that is an upload of some members, and small enough to be read. -/
inductive Event.Spells (members : List (String × Submission)) : Event → Prop where
  | upload {request : Http.Request} (hupload : request.isUpload = true)
      (hfits : request.body.size ≤ Http.bodyLimit)
      (hspells : Http.membersOf? request.body = some members) :
      Spells members (.request request)

/-- An upload of a text is one of the members that the text spells. -/
theorem Event.spells_text {request : Http.Request} {text : String}
    {members : List (String × Submission)} (hbody : request.body = text.toUTF8)
    (h : request.isUpload = true ∧ text.toUTF8.size ≤ Http.bodyLimit ∧
      Http.membersOfText? text = some members) : (Event.request request).Spells members := by
  obtain ⟨hupload, hfits, hspells⟩ := h
  refine Spells.upload hupload ?_ ?_
  · rw [hbody]
    exact hfits
  · rw [hbody, Http.membersOf?_toUTF8]
    exact hspells

namespace Service

variable {s : Service} {body : ByteArray}

/-- Of an upload that is read, only the members count. -/
theorem submit_of_spells (hfits : body.size ≤ Http.bodyLimit)
    (hspells : Http.membersOf? body = some members) :
    Http.submit s body = Http.submitMembers s members := by
  rw [Http.submit, if_neg (Nat.not_lt.mpr hfits), Http.uploadOf?_eq, hspells]
  rfl

/-- The records of an upload that is valid are handed to the store. -/
theorem submit_of_valid (hfits : body.size ≤ Http.bodyLimit)
    (hspells : Http.membersOf? body = some members)
    (hvalid : ∀ benchmarkType submission, lastOf? members benchmarkType = some submission →
      submission.violation? benchmarkType = none) :
    Http.submit s body = Http.storeRecords s (recordsOf members) := by
  have hvalidate : Upload.validate (TextMap.ofList members) = .ok (recordsOf members) :=
    Upload.validateAll_of_valid fun e he => hvalid e.1 e.2 (mem_entries_ofList_iff.mp he)
  rw [submit_of_spells hfits hspells, Http.submitMembers, hvalidate]

/-- An accepted upload is stored and counted. -/
theorem submit_of_accepted (h : Accepted s body members) :
    (Http.submit s body).1 = Http.storedResponse (recordsOf members).length ∧
      StoredAs s (Http.submit s body).2 (recordsOf members) ∧
        (Http.submit s body).2.counters.rejected = s.counters.rejected := by
  have happends := h.appends
  cases happend : s.append (recordsOf members) s.now with
  | error cause =>
      rw [happend] at happends
      cases happends
  | ok after =>
      obtain ⟨more, rfl, hkeeps, hids⟩ := append_spec happend
      rw [submit_of_valid h.fits h.spells h.valid, Http.storeRecords, happend]
      exact ⟨rfl, ⟨⟨more, rfl, hkeeps, hids⟩, rfl⟩, rfl⟩

/-- Every other upload changes nothing, except that an upload with a bad body is counted. -/
theorem submit_cases (s : Service) (body : ByteArray) :
    (∃ members, Accepted s body members) ∨
      ((Http.submit s body).2 = s ∧
        ((Http.submit s body).1.status = 413 ∨ (Http.submit s body).1.status = 500)) ∨
      ((Http.submit s body).2 = Http.rejected s ∧ (Http.submit s body).1.status = 400) := by
  unfold Http.submit
  split
  · exact Or.inr (Or.inl ⟨rfl, Or.inl rfl⟩)
  · next hfits =>
    rw [Http.uploadOf?_eq]
    cases hspells : Http.membersOf? body with
    | none => exact Or.inr (Or.inr ⟨rfl, rfl⟩)
    | some members =>
        simp only [Option.map_some]
        cases hvalidate : Upload.validate (TextMap.ofList members) with
        | error cause => exact Or.inr (Or.inr ⟨rfl, rfl⟩)
        | ok records =>
            have hvalid := Upload.valid_of_validateAll hvalidate
            have hrecords : records = recordsOf members := by
              have hall := Upload.validateAll_of_valid hvalid
              exact Except.ok.inj (hvalidate.symm.trans hall)
            subst hrecords
            simp only [Http.storeRecords]
            cases happend : s.append (recordsOf members) s.now with
            | error cause => exact Or.inr (Or.inl ⟨rfl, Or.inr rfl⟩)
            | ok after =>
                refine Or.inl ⟨members, Nat.le_of_not_lt hfits, hspells, ?_, by rw [happend]; rfl⟩
                intro benchmarkType submission hlast
                exact hvalid (benchmarkType, submission) (mem_entries_ofList_iff.mpr hlast)

/-- A body that is too large is not looked at. -/
theorem submit_of_large (h : Http.bodyLimit < body.size) :
    Http.submit s body = (Http.tooLarge, s) := by
  rw [Http.submit, if_pos h]

/-- An upload that the store does not take is answered with the store's error. -/
theorem submit_of_failed {cause : StoreError} (hfits : body.size ≤ Http.bodyLimit)
    (hspells : Http.membersOf? body = some members)
    (hvalid : ∀ benchmarkType submission, lastOf? members benchmarkType = some submission →
      submission.violation? benchmarkType = none)
    (happend : s.append (recordsOf members) s.now = .error cause) :
    (Http.submit s body).1 = (Http.ApiError.store cause).response := by
  rw [submit_of_valid hfits hspells hvalid, Http.storeRecords, happend]

/-- A body that spells no object of submissions is answered as a bad one. -/
theorem submit_of_unread (hfits : body.size ≤ Http.bodyLimit) (h : Http.membersOf? body = none) :
    (Http.submit s body).1 = Http.ApiError.badBody.response := by
  rw [Http.submit, if_neg (Nat.not_lt.mpr hfits), Http.uploadOf?_eq, h]
  rfl

/-- An upload with an invalid submission is answered with the error of the first one. -/
theorem submit_of_first {benchmarkType : String} {submission : Submission}
    {cause : SubmissionError} (hfits : body.size ≤ Http.bodyLimit)
    (hspells : Http.membersOf? body = some members)
    (hlast : lastOf? members benchmarkType = some submission)
    (hcause : submission.violation? benchmarkType = some cause)
    (hfirst : ∀ other submission, other < benchmarkType → lastOf? members other = some submission →
      submission.violation? other = none) :
    (Http.submit s body).1 = (Http.ApiError.badSubmission cause).response := by
  have hvalidate : Upload.validate (TextMap.ofList members) = .error cause :=
    Upload.validateAll_of_first (TextMap.ofList members).ascending
      (mem_entries_ofList_iff.mpr hlast) hcause
      fun e he hlt => hfirst e.1 e.2 hlt (mem_entries_ofList_iff.mp he)
  rw [submit_of_spells hfits hspells, Http.submitMembers, hvalidate]

/-- What is sent has the status of the answer. -/
theorem status_sendFor (response : Http.Response) (request : Http.Request) :
    (response.sendFor request).status = response.status := by
  unfold Http.Response.sendFor Http.Response.encodeFor
  dsimp only
  split <;> split <;> rfl

theorem status_respond {request : Http.Request} (h : request.isUpload = true) :
    (Http.respond s request).1.status = (Http.submit s request.body).1.status := by
  rw [respond_of_isUpload h, status_sendFor]

theorem snd_respond {request : Http.Request} (h : request.isUpload = true) :
    (Http.respond s request).2 = (Http.submit s request.body).2 := by
  rw [respond_of_isUpload h]

/-- An upload is answered with 200 exactly when it is accepted. -/
theorem submit_status_iff (s : Service) (body : ByteArray) :
    (Http.submit s body).1.status = 200 ↔ ∃ members, Accepted s body members := by
  constructor
  · intro hstatus
    rcases submit_cases s body with h | ⟨_, h | h⟩ | ⟨_, h⟩
    · exact h
    all_goals rw [h] at hstatus; cases hstatus
  · rintro ⟨members, h⟩
    rw [(submit_of_accepted h).1]
    rfl

/-! ## The rows after a run -/

/-- The records of an upload that is answered with 200. -/
def batch? (s : Service) : Event → Option (List Record)
  | .request request =>
    if request.isUpload = true ∧ (Http.respond s request).1.status = 200 then
      (Http.membersOf? request.body).map recordsOf
    else
      none
  | _ => none

/-- The service after an upload, in terms of its members. -/
theorem after_of_spells {e : Event} (h : e.Spells members) :
    s.after e = (Http.submitMembers s members).2 := by
  obtain ⟨hupload, hfits, hspells⟩ := h
  rw [after, snd_respond hupload, submit_of_spells hfits hspells]

/-- The records that an upload adds, in terms of its members. -/
theorem batch?_of_spells {e : Event} (h : e.Spells members) : s.batch? e =
    if (Http.submitMembers s members).1.status = 200 then some (recordsOf members) else none := by
  obtain ⟨hupload, hfits, hspells⟩ := h
  rw [batch?, respond_of_isUpload hupload, submit_of_spells hfits hspells, hspells]
  simp only [hupload, true_and, status_sendFor, Option.map_some]

/-- The service after some uploads, in terms of their members. -/
theorem run_of_spells {uploads : List (List (String × Submission))} {events : List Event}
    (h : List.Forall₂ Event.Spells uploads events) :
    s.run events = uploads.foldl (fun s members => (Http.submitMembers s members).2) s := by
  induction h generalizing s with
  | nil => rfl
  | cons hfirst _ ih => rw [run_cons, after_of_spells hfirst, ih, List.foldl_cons]

/-- What an event does to the rows: some come in behind the others, with the next numbers, and
unless they are written directly, they are those of an upload that was accepted. -/
structure Grows (s : Service) (e : Event) (more : List Row) : Prop where
  rows : (s.after e).store.rows = s.store.rows ++ more
  ids : more.map Row.id = List.range' (s.store.rows.length + 1) more.length
  keeps : e.writesRows = false →
    ∃ at_, List.Forall₂ (Row.Keeps at_) ((s.batch? e).getD []) more

theorem Grows.none {e : Event} (hrows : (s.after e).store.rows = s.store.rows)
    (hbatch : s.batch? e = none) : Grows s e [] where
  rows := by rw [hrows, List.append_nil]
  ids := rfl
  keeps _ := ⟨s.now, by rw [hbatch]; exact List.Forall₂.nil⟩

/-- The rows after a request. -/
theorem grows_request (s : Service) (request : Http.Request) :
    ∃ more, Grows s (.request request) more := by
  cases hupload : request.isUpload with
  | false =>
      refine ⟨[], Grows.none ?_ (by simp [batch?, hupload])⟩
      exact congrArg Store.rows (quiet_respond hupload).store
  | true =>
      have hrespond := respond_of_isUpload (s := s) hupload
      have hbatch : s.batch? (.request request) =
          if (Http.submit s request.body).1.status = 200 then
            (Http.membersOf? request.body).map recordsOf else none := by
        simp only [batch?, hupload, true_and, hrespond, status_sendFor]
      have hafter : s.after (.request request) = (Http.submit s request.body).2 :=
        snd_respond hupload
      rcases submit_cases s request.body with ⟨members, h⟩ | ⟨hsame, hstatus⟩ | ⟨hsame, hstatus⟩
      · obtain ⟨hresponse, ⟨⟨more, hrows, hkeeps, hids⟩, _⟩, _⟩ := submit_of_accepted h
        refine ⟨more, by rw [hafter, hrows], by rw [hids, hkeeps.length_eq], fun _ => ⟨s.now, ?_⟩⟩
        rw [hbatch, if_pos ((submit_status_iff s request.body).mpr ⟨members, h⟩), h.spells]
        exact hkeeps
      · refine ⟨[], Grows.none (by rw [hafter, hsame]) ?_⟩
        rw [hbatch, if_neg (by omega)]
      · refine ⟨[], Grows.none (by rw [hafter, hsame]; rfl) ?_⟩
        rw [hbatch, if_neg (by omega)]

/-- The rows after an event. -/
theorem grows_after (s : Service) (e : Event) : ∃ more, Grows s e more := by
  cases hmet : s.met? e with
  | some m =>
      obtain ⟨u, key⟩ := m
      obtain ⟨hu, hafter⟩ := after_of_met? hmet
      refine ⟨[], Grows.none ?_ ?_⟩
      · rw [hafter, (handle_replacesOneOrNothing u key).rows, hu.store]
      · cases e <;> first | rfl | cases hmet
  | none =>
      cases e with
      | request request => exact grows_request s request
      | put name blob at_ =>
          refine ⟨[], Grows.none ?_ rfl⟩
          show (s.orStay (s.put name blob at_)).store.rows = s.store.rows
          cases hput : s.put name blob at_ with
          | error cause => rfl
          | ok after => rw [put_eq_ok hput, orStay]
      | append records at_ =>
          have hafter : s.after (.append records at_) = s.orStay (s.append records at_) := rfl
          cases happend : s.append records at_ with
          | error cause =>
              refine ⟨[], ?_, rfl, fun h => by cases h⟩
              rw [hafter, happend, List.append_nil]
              rfl
          | ok after =>
              obtain ⟨more, rfl, hkeeps, hids⟩ := append_spec happend
              refine ⟨more, ?_, hkeeps.length_eq ▸ hids, fun h => by cases h⟩
              rw [hafter, happend]
              rfl
      | importRow m benchmarkType cpuText at_ =>
          have hafter : s.after (.importRow m benchmarkType cpuText at_) =
            s.orStay (s.importRow m benchmarkType cpuText at_) := rfl
          cases himport : s.importRow m benchmarkType cpuText at_ with
          | error cause =>
              refine ⟨[], ?_, rfl, fun h => by cases h⟩
              rw [hafter, himport, List.append_nil]
              rfl
          | ok after =>
              obtain ⟨row, hrow, rfl⟩ := importRow_eq_ok himport
              refine ⟨[row], ?_, by rw [Store.row_eq_ok hrow]; rfl, fun h => by cases h⟩
              rw [hafter, himport]
              rfl
      | handle key => cases hmet
      | receive => exact ⟨[], Grows.none (by rw [after_receive_of_met?_none hmet]) rfl⟩
      | _ => exact ⟨[], Grows.none (congrArg Store.rows (store_after_of_idle rfl)) rfl⟩

/-- The rows are numbered from one, in the order they came in. -/
def Numbered (s : Service) : Prop :=
  s.store.rows.map Row.id = List.range' 1 s.store.rows.length

/-- Every event keeps the numbering. -/
theorem numbered_after (h : Numbered s) (e : Event) : Numbered (s.after e) := by
  obtain ⟨more, hrows, hids, _⟩ := grows_after s e
  rw [Numbered] at h ⊢
  rw [hrows, List.map_append, h, hids, List.length_append, Nat.add_comm s.store.rows.length 1,
    List.range'_append_1]

/-- After every run of a new service the rows are numbered from one. -/
theorem numbered_run (settings : Settings) (now : Instant) (events : List Event) :
    Numbered ((Service.fresh settings now).run events) := by
  refine run_induction (motive := Numbered) ?_ (fun _ e h => numbered_after h e) events
  rw [Numbered]
  rfl

/-- A row that came in stays. -/
theorem prefix_run (s : Service) (events : List Event) :
    s.store.rows <+: (s.run events).store.rows := by
  refine run_induction (motive := fun t => s.store.rows <+: t.store.rows)
    (List.prefix_refl _) ?_ events
  intro t e h
  obtain ⟨more, hgrows⟩ := grows_after t e
  rw [hgrows.rows]
  exact h.trans (List.prefix_append _ _)

end Service

/-! ## Every upload to every service -/

/-- An upload is stored as a whole or not at all. -/
structure AllOrNothing (s : Service) (request : Http.Request) : Prop where
  /-- It is answered with 200 exactly when it is accepted. -/
  stored_iff : (Http.respond s request).1.status = 200 ↔ ∃ members, Accepted s request.body members
  /-- If it is accepted, the record of every type is stored, and the answer tells their number. -/
  stored : ∀ members, Accepted s request.body members → OnePerType members (recordsOf members) ∧
    StoredAs s (Http.respond s request).2 (recordsOf members) ∧
      (Http.respond s request).1 =
        (Http.storedResponse (recordsOf members).length).sendFor request
  /-- If it is not, no row comes in and nothing is counted as stored. -/
  refused : (Http.respond s request).1.status ≠ 200 →
    (Http.respond s request).2.store = s.store ∧
      (Http.respond s request).2.counters.ingested = s.counters.ingested
  /-- It is counted as rejected exactly when it is answered with 400. -/
  rejected : (Http.respond s request).2.counters.rejected =
    s.counters.rejected + if (Http.respond s request).1.status = 400 then 1 else 0
  /-- A body that is too large is not looked at. -/
  tooLarge : Http.bodyLimit < request.body.size →
    (Http.respond s request).1 = Http.tooLarge.sendFor request
  /-- A body that spells no object of submissions is answered as a bad one. -/
  unread : request.body.size ≤ Http.bodyLimit → Http.membersOf? request.body = none →
    (Http.respond s request).1 = Http.ApiError.badBody.response.sendFor request
  /-- An upload with invalid submissions is answered with the error of the first one, in the order
  of the bytes of the types. -/
  invalid : ∀ members, request.body.size ≤ Http.bodyLimit →
    Http.membersOf? request.body = some members → ∀ benchmarkType submission cause,
      lastOf? members benchmarkType = some submission →
      submission.violation? benchmarkType = some cause →
      (∀ other submission, Text.bytes other < Text.bytes benchmarkType →
        lastOf? members other = some submission → submission.violation? other = none) →
      (Http.respond s request).1 = (Http.ApiError.badSubmission cause).response.sendFor request
  /-- A valid upload that the store does not take is answered with the store's error. -/
  failed : ∀ members cause, request.body.size ≤ Http.bodyLimit →
    Http.membersOf? request.body = some members →
    (∀ benchmarkType submission, lastOf? members benchmarkType = some submission →
      submission.violation? benchmarkType = none) →
    s.append (recordsOf members) s.now = .error cause →
      (Http.respond s request).1 = (Http.ApiError.store cause).response.sendFor request
  /-- The rows it finds are numbered from one, so that the next numbers are new ones. -/
  numbered : s.Numbered

/-- Every upload to a service that a new one has become is stored as a whole or not at all. -/
theorem upload_allOrNothing (settings : Settings) (now : Instant) (events : List Event)
    {request : Http.Request} (hupload : request.isUpload = true) :
    AllOrNothing ((Service.fresh settings now).run events) request := by
  have hnumbered := Service.numbered_run settings now events
  generalize (Service.fresh settings now).run events = s at hnumbered
  have hrespond := Service.respond_of_isUpload (s := s) hupload
  have hstatus := Service.status_respond (s := s) hupload
  have hafter := Service.snd_respond (s := s) hupload
  refine ⟨?_, ?_, ?_, ?_, ?_, ?_, ?_, ?_, hnumbered⟩
  · rw [hstatus]
    exact Service.submit_status_iff s request.body
  · intro members h
    obtain ⟨hresponse, hstored, _⟩ := Service.submit_of_accepted h
    refine ⟨onePerType_recordsOf members, hafter ▸ hstored, ?_⟩
    rw [hrespond, hresponse]
  · rw [hstatus, hafter]
    intro hne
    rcases Service.submit_cases s request.body with h | ⟨hsame, _⟩ | ⟨hsame, _⟩
    · exact absurd ((Service.submit_status_iff s request.body).mpr h) hne
    · rw [hsame]
      exact ⟨rfl, rfl⟩
    · rw [hsame]
      exact ⟨rfl, rfl⟩
  · rw [hstatus, hafter]
    rcases Service.submit_cases s request.body with ⟨members, h⟩ | ⟨hsame, hs⟩ | ⟨hsame, hs⟩
    · obtain ⟨_, _, hrejected⟩ := Service.submit_of_accepted h
      rw [hrejected, (Service.submit_status_iff s request.body).mpr ⟨members, h⟩]
      rfl
    · rw [hsame, if_neg (by omega), Nat.add_zero]
    · rw [hsame, if_pos hs]
      rfl
  · intro hlarge
    rw [hrespond, Service.submit_of_large hlarge]
  · intro hfits hspells
    rw [hrespond, Service.submit_of_unread hfits hspells]
  · intro members hfits hspells benchmarkType submission cause hlast hcause hfirst
    rw [hrespond, Service.submit_of_first hfits hspells hlast hcause fun other sub hlt hother =>
      hfirst other sub ((Text.bytes_lt_iff _ _).mpr hlt) hother]
  · intro members cause hfits hspells hvalid happend
    rw [hrespond, Service.submit_of_failed hfits hspells hvalid happend]

/-- The text of a result of a machine whose pointers have some number of bits. -/
def resultText (result bits : String) : String :=
  "\x7b\"MachineId\":\"a;b\",\"BenchmarkResult\":" ++ result ++
    ",\"NumCpus\":1,\"NumCores\":1,\"NumThreads\":1,\"MemoryInKiB\":4096," ++
    "\"PointerBits\":" ++ bits ++ "\x7d"

/-- What it says. -/
def resultOf (result : Float) (bits : Int64) : Submission :=
  { Submission.zero with
    machineId := "a;b"
    result := result
    topology := ⟨1, 1, 1, 0⟩
    memoryInKiB := 4096
    pointerBits := bits }

/-- An upload of some results, each under its type. -/
def uploadOfTexts (results : List (String × String)) : Http.Request where
  method := .post
  target := "/benchmark.json"
  headers := []
  body := ("\x7b" ++ ",".intercalate (results.map fun r => "\"" ++ r.1 ++ "\":" ++ r.2) ++
    "\x7d").toUTF8

/-- An upload of two types. -/
def earlierUpload : Http.Request :=
  uploadOfTexts [("b", resultText "1" "64"), ("z", resultText "2" "32")]

/-- An upload of two types, one of them twice, and the first time with nothing in it. -/
def repeatingUpload : Http.Request :=
  uploadOfTexts [("b", "\x7b\x7d"), ("a", resultText "3" "64"), ("b", resultText "4" "64")]

/-- An upload of two types, neither of which is valid. -/
def refusedUpload : Http.Request :=
  uploadOfTexts [("b", "\x7b\x7d"), ("a", resultText "5" "16")]

/-- What they spell, by evaluation. -/
theorem spells_earlierUpload : (Event.request earlierUpload).Spells
    [("b", resultOf 1 64), ("z", resultOf 2 32)] :=
  Event.spells_text rfl (by decide +kernel)

theorem spells_repeatingUpload : (Event.request repeatingUpload).Spells
    [("b", Submission.zero), ("a", resultOf 3 64), ("b", resultOf 4 64)] :=
  Event.spells_text rfl (by decide +kernel)

theorem spells_refusedUpload : (Event.request refusedUpload).Spells
    [("b", Submission.zero), ("a", resultOf 5 16)] :=
  Event.spells_text rfl (by decide +kernel)

/-- A service with rows of two types. -/
def withRows : Service :=
  (Service.fresh {} .epoch).run [.request earlierUpload]

/-- The rows of a service: their numbers, types and results. -/
def Service.listing (s : Service) : List (Nat × String × Float) :=
  s.store.rows.map fun row => (row.id, row.benchmarkType, row.result)

/-- What becomes of the other two, by evaluation. -/
theorem withRows_evaluated : withRows.listing = [(1, "b", 1), (2, "z", 2)] ∧
    (Http.submit withRows repeatingUpload.body).1.status = 200 ∧
      (Http.submit withRows repeatingUpload.body).2.listing =
        [(1, "b", 1), (2, "z", 2), (3, "a", 3), (4, "b", 4)] ∧
      (Http.submit withRows refusedUpload.body).1.status = 400 := by
  obtain ⟨_, hfits, hspells⟩ := spells_repeatingUpload
  obtain ⟨_, hfits', hspells'⟩ := spells_refusedUpload
  rw [Service.submit_of_spells hfits hspells, Service.submit_of_spells hfits' hspells', withRows,
    Service.run_of_spells (.cons spells_earlierUpload .nil)]
  decide +kernel

/-- Behind the rows there are, the upload that repeats a type stores one row of each type, with the
last result.  Of the other one nothing is stored, and the first of its types decides the error. -/
theorem upload_allOrNothing_repeatedType : withRows.listing = [(1, "b", 1), (2, "z", 2)] ∧
    (Http.respond withRows repeatingUpload).1.status = 200 ∧
    (Http.respond withRows repeatingUpload).2.listing =
      [(1, "b", 1), (2, "z", 2), (3, "a", 3), (4, "b", 4)] ∧
    (Http.respond withRows refusedUpload).1 =
      (Http.ApiError.badSubmission .badPointerBits).response.sendFor refusedUpload ∧
    (Http.respond withRows refusedUpload).2.store = withRows.store ∧
    AllOrNothing withRows repeatingUpload ∧ AllOrNothing withRows refusedUpload := by
  obtain ⟨hrows, hstatus, hlisting, hstatus'⟩ := withRows_evaluated
  obtain ⟨hupload, _, _⟩ := spells_repeatingUpload
  obtain ⟨hupload', hfits, hspells⟩ := spells_refusedUpload
  have hstored : AllOrNothing withRows repeatingUpload :=
    upload_allOrNothing {} .epoch [.request earlierUpload] hupload
  have hrefused : AllOrNothing withRows refusedUpload :=
    upload_allOrNothing {} .epoch [.request earlierUpload] hupload'
  refine ⟨hrows, ?_, ?_, ?_, ?_, hstored, hrefused⟩
  · rw [Service.status_respond hupload, hstatus]
  · rw [Service.snd_respond hupload, hlisting]
  · refine hrefused.invalid _ hfits hspells "a" _ _ rfl (by decide) ?_
    intro other submission hbefore hlast
    have hmem := mem_of_lastOf? hlast
    simp only [List.mem_cons, List.not_mem_nil, or_false, Prod.mk.injEq] at hmem
    rcases hmem with ⟨rfl, -⟩ | ⟨rfl, -⟩ <;> exact absurd hbefore (by decide)
  · refine (hrefused.refused ?_).1
    rw [Service.status_respond hupload', hstatus']
    decide

end BenchDepot
