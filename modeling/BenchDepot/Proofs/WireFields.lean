import BenchDepot.Proofs.Aggregate
import BenchDepot.Proofs.Codecs
import BenchDepot.Proofs.Sampling

/-!
# What becomes of the fields of a submission

A submission is validated to a record, stored as a row, drawn as the result of a group, and written
as a row of the aggregate.  If no other row stands in its group, every field that the client sent
comes out under its own name with its own value; only the five fields that are derived, averaged or
stored without the sign of zeros say something else, and it is known what.

* `Cpu.Config.ofText_stored` — the stored text of a configuration is read back;
* `Submission.members_entry` — the fields of a row;
* `wireFields_of_upload` — the fields of a submission in the aggregate.
-/

namespace BenchDepot

open Json (Codec Value)

/-! ## The stored configuration -/

namespace Cpu.Config

/-- The stored text of a configuration spells the configuration as a JSON object. -/
theorem ofJson?_stored (config : Config) : ofJson? config.stored = some config :=
  Codec.ofText?_encode config

/-- A configuration is read back from its stored text. -/
theorem ofText_stored (config : Config) : ofText config.stored = config := by
  rw [ofText, ofJson?_stored]

end Cpu.Config

/-! ## The row in the store -/

/-- What stands in a list has a counterpart in every list that agrees with it. -/
theorem exists_of_forall₂ {α β : Type} {R : α → β → Prop} {xs : List α} {ys : List β} {x : α}
    (h : List.Forall₂ R xs ys) (hx : x ∈ xs) : ∃ y ∈ ys, R x y := by
  induction h with
  | nil => cases hx
  | @cons a b xs ys hab hrest ih =>
      rcases List.mem_cons.mp hx with rfl | hmem
      · exact ⟨b, List.mem_cons_self, hab⟩
      · obtain ⟨y, hy, hxy⟩ := ih hmem
        exact ⟨y, List.mem_cons_of_mem _ hy, hxy⟩

/-- What a submission is grouped by. -/
def Submission.group (sub : Submission) : GroupKey :=
  ⟨sub.machineId, sub.pointerBits⟩

/-- The configuration that a client meant: its map if there is one, and otherwise what its text says,
as a JSON object if it is one, or else as ad-hoc text. -/
def Submission.config (sub : Submission) : Cpu.Config :=
  match sub.cpuConfig, sub.cpuText with
  | some config, _ => config
  | none, none => TextMap.empty
  | none, some text => (Cpu.Config.ofJson? text).getD (Cpu.Config.ofAdHoc text)

/-- A submission is recorded with the configuration that the client meant. -/
theorem Submission.normalize_config (sub : Submission) :
    (Cpu.Input.ofFields sub.cpuConfig sub.cpuText).normalize = sub.config := by
  unfold Submission.config
  cases sub.cpuConfig with
  | some config => rfl
  | none =>
      cases sub.cpuText with
      | none => decide
      | some text =>
          show Cpu.Config.ofText text = (Cpu.Config.ofJson? text).getD (Cpu.Config.ofAdHoc text)
          rw [Cpu.Config.ofText]
          cases Cpu.Config.ofJson? text <;> rfl

/-- A submission that breaks no rule is no legacy result. -/
theorem Submission.legacy_of_valid {sub : Submission} {benchmarkType : String}
    (h : sub.violation? benchmarkType = none) : sub.legacy = false := by
  cases hlegacy : sub.legacy with
  | false => rfl
  | true =>
      simp only [Submission.violation?, hlegacy] at h
      split at h
      · cases h
      · split at h <;> cases h

/-- Every field of a submission that is not a legacy one reaches the field of the record that it is
meant for. -/
theorem Submission.record_eq {sub : Submission} (h : sub.legacy = false) (benchmarkType : String) :
    sub.record benchmarkType =
      { sub.toMeasurement with benchmarkType := benchmarkType, cpuConfig := sub.config } := by
  rw [record, sub.normalize_config, ← h]

namespace Service

variable {s : Service} {request : Http.Request} {members : List (String × Submission)}
  {benchmarkType : String} {sub : Submission} {events : List Event}

/-- An accepted submission has a row in the store, which counts for its type, and keeps it. -/
theorem exists_row_of_accepted (hupload : request.isUpload = true)
    (haccepted : Accepted s request.body members)
    (hlast : lastOf? members benchmarkType = some sub) (events : List Event) :
    ∃ row ∈ ((s.after (.request request)).run events).store.members benchmarkType sub.group,
      row.Keeps s.now (sub.record benchmarkType) := by
  obtain ⟨_, ⟨⟨more, hrows, hkeeps, _⟩, _⟩, _⟩ := submit_of_accepted haccepted
  have hafter : s.after (.request request) = (Http.submit s request.body).2 := snd_respond hupload
  have hrecord : sub.record benchmarkType ∈ recordsOf members :=
    ((onePerType_recordsOf members).mem_iff _).mpr ⟨sub, hlast, rfl⟩
  obtain ⟨row, hrow, hkeep⟩ := exists_of_forall₂ hkeeps hrecord
  have hstored : row ∈ (s.after (.request request)).store.rows := by
    rw [hafter, hrows]
    exact List.mem_append_right _ hrow
  have hlegacy : row.legacy = false := by
    rw [hkeep.measurement]
    rfl
  have hgroup : Store.groupKey row = sub.group := by
    rw [Store.groupKey, hkeep.measurement]
    rfl
  refine ⟨row, List.mem_filter.mpr ⟨(prefix_run _ events).subset hstored, ?_⟩, hkeep⟩
  simp [Row.countsFor, hkeep.benchmarkType, Submission.record, hlegacy, hgroup]

end Service

/-! ## The row of the aggregate -/

/-- The fields of a row that do not say what the client sent, and what they say instead: three are
derived from others, the result is an average, and the elapsed time comes back from the store. -/
def Submission.derived? (sub : Submission) : String → Option Value
  | "CpuDesc" => some (Codec.text.encode sub.topology.describe)
  | "CpuConfig" => some (Codec.text.encode sub.config.adHoc)
  | "CpuConfigMap" => some (Cpu.Config.codec.encode sub.config)
  | "BenchmarkResult" => some (Codec.float.encode (Store.average [Store.kept sub.result]))
  | "ElapsedTime" => some (Codec.float.encode (Store.kept sub.elapsed))
  | _ => none

/-- The row that stands for a submission alone. -/
def Submission.entry (sub : Submission) : Entry :=
  Entry.ofMeasurement
    { sub.toMeasurement with
      result := Store.average [Store.kept sub.result]
      elapsed := Store.kept sub.elapsed }
    sub.config

/-- The row of a submission has the fields of the submission in the same order, all but the derived
ones with the same values. -/
theorem Submission.members_entry (sub : Submission) :
    Entry.layout.members sub.entry = (Submission.layout.members sub).map fun m =>
      (m.1, (sub.derived? m.1).getD m.2) := by
  rfl

/-- There are 26 fields, with names of their own. -/
theorem Submission.names_members (sub : Submission) :
    ((Submission.layout.members sub).map Prod.fst).Nodup ∧
      (Submission.layout.members sub).length = 26 := by
  have hfields : (Submission.layout.fields.map fun f => f.name).Nodup ∧
      Submission.layout.fields.length = 26 := by decide
  rw [Json.Layout.members, List.map_map, List.length_map]
  exact hfields

/-- The result of a group with one row. -/
theorem Samples.alone {store : Store} {benchmarkType : String} {limit : Nat}
    {results : List GroupedResult} (h : Samples store benchmarkType limit results)
    {r : GroupedResult} (hr : r ∈ results) {row : Row}
    (hmembers : store.members benchmarkType r.key = [row]) :
    r.toMeasurement = { row.toMeasurement with result := Store.average [row.result] } ∧
      r.cpuText = row.cpuText := by
  have haverage := h.average r hr
  obtain ⟨first, hfirst, hmeasurement, htext⟩ := h.columns r hr
  rw [hmembers] at haverage hfirst
  rw [List.mem_singleton.mp hfirst] at hmeasurement htext
  rw [haverage] at hmeasurement
  exact ⟨hmeasurement, htext⟩

/-- The row of the aggregate for a result that comes from the row of a submission alone. -/
theorem Submission.entry_of_keeps {sub : Submission} {benchmarkType : String} {at_ : Instant}
    {row : Row} (hkeep : row.Keeps at_ (sub.record benchmarkType)) (hlegacy : sub.legacy = false)
    {r : GroupedResult}
    (hr : r.toMeasurement = { row.toMeasurement with result := Store.average [row.result] })
    (htext : r.cpuText = row.cpuText) : r.entry = sub.entry := by
  have hconfig : Cpu.Config.ofText r.cpuText = sub.config := by
    rw [htext, hkeep.cpuText, Cpu.Config.ofText_stored, Submission.record_eq hlegacy]
  rw [GroupedResult.entry_eq, hconfig, hr, hkeep.measurement, Submission.record_eq hlegacy]
  rfl

/-- No two results of a sample stand under one key. -/
theorem GroupedResult.filter_key {results : List GroupedResult}
    (hdistinct : (results.map GroupedResult.key).Nodup) {r : GroupedResult} (hr : r ∈ results) :
    results.filter (fun other => other.key = r.key) = [r] := by
  induction results with
  | nil => cases hr
  | cons first rest ih =>
      obtain ⟨hfirst, hrest⟩ := List.nodup_cons.mp hdistinct
      rcases List.mem_cons.mp hr with rfl | hmem
      · have hnone : rest.filter (fun other => other.key = r.key) = [] := by
          apply List.filter_eq_nil_iff.mpr
          intro other hother
          have hne : other.key ≠ r.key := fun heq => hfirst (heq ▸ List.mem_map_of_mem hother)
          simpa using hne
        rw [List.filter_cons_of_pos (by simp), hnone]
      · have hne : first.key ≠ r.key := fun heq => hfirst (heq ▸ List.mem_map_of_mem hmem)
        rw [List.filter_cons_of_neg (by simpa using hne)]
        exact ih hrest hmem

theorem Build.filter_entries {results : List GroupedResult}
    (hdistinct : (results.map GroupedResult.key).Nodup) {r : GroupedResult} (hr : r ∈ results) :
    (Build.entries results).filter (fun entry => entry.group = r.key) = [r.entry] := by
  have hkey : ((fun entry : Entry => decide (entry.group = r.key)) ∘ GroupedResult.entry) =
      fun other => decide (other.key = r.key) := rfl
  have hentries : Build.entries results = results.map GroupedResult.entry := rfl
  rw [hentries, List.filter_map, hkey, GroupedResult.filter_key hdistinct hr]
  rfl

/-- The keys of the groups that a build draws of a type. -/
def Service.drawn (s : Service) (benchmarkType : String) : List GroupKey :=
  match s.sampleAnswer benchmarkType s.settings.refresh.sampleLimit.toNat with
  | .ok results => results.map GroupedResult.key
  | .error _ => []

/-- A sample that is answered holds what the whole list of rows says. -/
theorem Service.samples_of_sampleAnswer {s : Service} {name : String} {limit : Nat}
    {results : List GroupedResult} (h : s.sampleAnswer name limit = .ok results) :
    Samples s.store name limit results := by
  rw [Store.sample_eq_ok (sample_of_sampleAnswer h)]
  exact samples_map_result (Store.partitions_groups _ _) ((s.drawFor name).order_perm _) limit

/-- The rows that a build makes of the groups it draws. -/
theorem Service.get?_of_drawn {s : Service} {limit : Option Nat} {seconds : Nat}
    {aggregate : Aggregate} (h : (s.queries.run limit seconds).outcome = .ok aggregate)
    {benchmarkType : String} {key : GroupKey} {row : Row}
    (hmembers : s.store.members benchmarkType key = [row])
    (hdrawn : key ∈ s.drawn benchmarkType) :
    ∃ r : GroupedResult,
      r.toMeasurement = { row.toMeasurement with result := Store.average [row.result] } ∧
      r.cpuText = row.cpuText ∧ ∃ entries, aggregate.get? benchmarkType = some entries ∧
        entries.filter (fun entry => entry.group = key) = [r.entry] := by
  obtain ⟨results, hanswer, hkey⟩ : ∃ results,
      s.sampleAnswer benchmarkType s.settings.refresh.sampleLimit.toNat = .ok results ∧
        key ∈ results.map GroupedResult.key := by
    unfold Service.drawn at hdrawn
    split at hdrawn
    · next results hanswer => exact ⟨results, hanswer, hdrawn⟩
    · cases hdrawn
  obtain ⟨r, hr, rfl⟩ := List.mem_map.mp hkey
  have hsamples := Service.samples_of_sampleAnswer hanswer
  obtain ⟨hmeasurement, htext⟩ := hsamples.alone hr hmembers
  refine ⟨r, hmeasurement, htext, Build.entries results, ?_,
    Build.filter_entries hsamples.distinct hr⟩
  -- the build asks for the type, as the store lists the type of every row
  obtain ⟨types, htypes, hget⟩ := Queries.get?_of_outcome h
  have hlisted : types = s.store.types := Service.eq_of_answer htypes
  have hmem : benchmarkType ∈ types := by
    have hrow : row ∈ s.store.members benchmarkType r.key := by
      rw [hmembers]
      exact List.mem_singleton_self row
    obtain ⟨hstored, hcounts⟩ := List.mem_filter.mp hrow
    have htype : row.benchmarkType = benchmarkType := by
      simp only [Row.countsFor, Bool.and_eq_true, beq_iff_eq] at hcounts
      exact hcounts.1.1
    rw [hlisted, Store.mem_types_iff, ← htype]
    exact List.mem_map_of_mem hstored
  have hresults : (s.queries.sample benchmarkType).answer = .ok results := hanswer
  rw [hget, if_pos hmem, hresults]
  rfl

/-- If an accepted submission has no other row in its group, then whatever happened before and
after the upload, every aggregate that is built with the group in the sample has one row for it,
which has every field that the client sent, in the same order, and all but the derived ones with the
same values. -/
theorem wireFields_of_upload {s : Service} {request : Http.Request}
    {members : List (String × Submission)} {benchmarkType : String} {sub : Submission}
    {events : List Event} {final : Service} {aggregate : Aggregate}
    (hupload : request.isUpload = true) (haccepted : Accepted s request.body members)
    (hlast : lastOf? members benchmarkType = some sub)
    (hfinal : final = (s.after (.request request)).run events)
    (honly : (final.store.members benchmarkType sub.group).length = 1)
    (hdrawn : sub.group ∈ final.drawn benchmarkType)
    (hbuilt : final.build.1 = .ok aggregate ∨ final.rebuild.1 = .ok aggregate) :
    ∃ entries entry, aggregate.get? benchmarkType = some entries ∧
      entries.filter (fun other => other.group = sub.group) = [entry] ∧
      Entry.layout.members entry = (Submission.layout.members sub).map (fun m =>
        (m.1, (sub.derived? m.1).getD m.2)) ∧
      ((Submission.layout.members sub).map Prod.fst).Nodup ∧
      (Submission.layout.members sub).length = 26 := by
  obtain ⟨row, hrow, hkeep⟩ := Service.exists_row_of_accepted hupload haccepted hlast events
  rw [← hfinal] at hrow
  -- the row that came in is still there, so that it is the one row of the group
  have hmembers : final.store.members benchmarkType sub.group = [row] := by
    obtain ⟨only, honly⟩ := List.length_eq_one_iff.mp honly
    rw [honly] at hrow ⊢
    rw [List.mem_singleton.mp hrow]
  have houtcome : ∃ limit seconds, (final.queries.run limit seconds).outcome = .ok aggregate := by
    rcases hbuilt with hbuild | hrebuild
    · rw [Service.build, Service.outcome_built, Queries.build] at hbuild
      exact ⟨_, _, hbuild⟩
    · rw [Service.rebuild, Service.outcome_built, Queries.rebuild] at hrebuild
      exact ⟨_, _, hrebuild⟩
  obtain ⟨limit, seconds, houtcome⟩ := houtcome
  obtain ⟨r, hmeasurement, htext, entries, hentries, hfilter⟩ :=
    Service.get?_of_drawn houtcome hmembers hdrawn
  have hlegacy := Submission.legacy_of_valid (haccepted.valid _ _ hlast)
  rw [Submission.entry_of_keeps hkeep hlegacy hmeasurement htext] at hfilter
  exact ⟨entries, sub.entry, hentries, hfilter, sub.members_entry, sub.names_members⟩

/-- An upload of one submission, with an elapsed time of negative zero and a configuration as
ad-hoc text. -/
def oneSubmission : Http.Request where
  method := .post
  target := "/benchmark.json"
  headers := []
  body := ("\x7b\"t\":\x7b\"MachineId\":\"a;b\",\"BenchmarkResult\":1.5,\"ElapsedTime\":-0.0," ++
    "\"NumCpus\":1,\"NumCores\":2,\"NumThreads\":4,\"CpuConfig\":\"2x 1800,00 MHz\"," ++
    "\"MemoryInKiB\":4096,\"PointerBits\":64\x7d\x7d").toUTF8

/-- What it says. -/
def whatItSays : Submission :=
  { Submission.zero with
    machineId := "a;b"
    result := 1.5
    elapsed := -0.0
    topology := ⟨1, 2, 4, 0⟩
    cpuText := some "2x 1800,00 MHz"
    memoryInKiB := 4096
    pointerBits := 64 }

theorem spells_oneSubmission : (Event.request oneSubmission).Spells [("t", whatItSays)] :=
  Event.spells_text rfl (by decide +kernel)

/-- What is evaluated of the upload, and of the service after it. -/
theorem oneSubmission_evaluated :
    Http.membersOf? oneSubmission.body = some [("t", whatItSays)] ∧
      (Http.submit beforeUploads oneSubmission.body).1.status = 200 ∧
      ((beforeUploads.after (.request oneSubmission)).store.members "t"
        whatItSays.group).length = 1 ∧
      whatItSays.group ∈ (beforeUploads.after (.request oneSubmission)).drawn "t" ∧
      (beforeUploads.after (.request oneSubmission)).rebuild.1.isOk = true := by
  obtain ⟨_, hfits, hspells⟩ := spells_oneSubmission
  rw [Service.after_of_spells spells_oneSubmission, Service.submit_of_spells hfits hspells]
  exact ⟨hspells, by decide +kernel⟩

/-- Its fields in the aggregate. -/
theorem wireFields_of_oneSubmission : ∃ aggregate entries entry,
    (beforeUploads.after (.request oneSubmission)).rebuild.1 = .ok aggregate ∧
      aggregate.get? "t" = some entries ∧
      entries.filter (fun other => other.group = whatItSays.group) = [entry] ∧
      Entry.layout.members entry = (Submission.layout.members whatItSays).map (fun m =>
        (m.1, (whatItSays.derived? m.1).getD m.2)) := by
  obtain ⟨hspells, hstatus, honly, hdrawn, hok⟩ := oneSubmission_evaluated
  obtain ⟨members, haccepted⟩ := (Service.submit_status_iff _ _).mp hstatus
  have hmembers : members = [("t", whatItSays)] :=
    Option.some.inj (haccepted.spells.symm.trans hspells)
  have hlast : lastOf? members "t" = some whatItSays := by
    rw [hmembers]
    rfl
  have hupload : oneSubmission.isUpload = true := by decide
  have hfinal : beforeUploads.after (.request oneSubmission) =
      (beforeUploads.after (.request oneSubmission)).run [] := (Service.run_nil _).symm
  cases hbuilt : (beforeUploads.after (.request oneSubmission)).rebuild.1 with
  | error cause =>
      rw [hbuilt] at hok
      cases hok
  | ok aggregate =>
      obtain ⟨entries, entry, hentries, hfilter, hfields, _⟩ :=
        wireFields_of_upload hupload haccepted hlast hfinal honly hdrawn (Or.inr hbuilt)
      exact ⟨aggregate, entries, entry, rfl, hentries, hfilter, hfields⟩

end BenchDepot
