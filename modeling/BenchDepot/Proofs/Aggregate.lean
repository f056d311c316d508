import BenchDepot.Proofs.Groups
import BenchDepot.Proofs.Uploads

/-!
# The aggregate of what was accepted

A service takes uploads, accepts some of them and rejects others, and in the end rebuilds the
aggregate.  If nothing fails on the way, and no sample is too small for its groups, the aggregate
has one row for every type, machine and pointer width that was accepted, with the average of the
results accepted for it.

* `Queries.get?_of_outcome` — the rows of a type are those of the sample of the type;
* `holds_run` — the rows after a run are those of the uploads that were accepted;
* `rowsOf_groups` — the rows of one type;
* `contributions_of_reordered` — the order of independent uploads does not matter;
* `aggregate_of_uploads` — the aggregate after a run.
-/

namespace BenchDepot

/-- What a record is grouped by. -/
def Record.group (record : Record) : GroupKey :=
  ⟨record.machineId, record.pointerBits⟩

/-- What a row of the aggregate was grouped by. -/
def Entry.group (entry : Entry) : GroupKey :=
  ⟨entry.machineId, entry.pointerBits⟩

/-- The records of a type. -/
def ofType (records : List Record) (benchmarkType : String) : List Record :=
  records.filter fun record => record.benchmarkType = benchmarkType

/-- The records that one row of the aggregate stands for, in their order. -/
def contributions (records : List Record) (benchmarkType : String) (key : GroupKey) :
    List Record :=
  (ofType records benchmarkType).filter fun record => record.group = key

/-- The average of the results of some records, as the store keeps them and computes it. -/
def averageOf (records : List Record) : Float :=
  Store.average (records.map fun record => Store.kept record.result)

/-- The row that says of a measurement what it says itself, and describes the processor. -/
def Entry.ofMeasurement (m : Measurement) (config : Cpu.Config) : Entry :=
  { m with
    cpuDesc := m.topology.describe
    cpuText := config.adHoc
    cpuConfig := config }

/-- Every field of a grouped result reaches the field of the row that it is meant for. -/
theorem GroupedResult.entry_eq (r : GroupedResult) :
    r.entry = Entry.ofMeasurement r.toMeasurement (Cpu.Config.ofText r.cpuText) := rfl

/-- The row of the aggregate for some records: the average of all, and everything else from the
first. -/
def Entry.averaging (first : Record) (others : List Record) : Entry :=
  Entry.ofMeasurement
    { first.toMeasurement with
      result := averageOf (first :: others)
      elapsed := Store.kept first.elapsed }
    (Cpu.Config.ofText first.cpuConfig.stored)

/-- The rows of a type in the aggregate of some records. -/
structure RowsOf (records : List Record) (benchmarkType : String) (entries : List Entry) :
    Prop where
  /-- No machine and pointer width has two rows. -/
  distinct : (entries.map Entry.group).Nodup
  /-- The machines and pointer widths are those of the records of the type. -/
  groups : ∀ key, key ∈ entries.map Entry.group ↔
    ∃ record ∈ records, record.benchmarkType = benchmarkType ∧ record.group = key
  /-- The result of a row is the average of the results it stands for. -/
  result : ∀ entry ∈ entries,
    entry.result = averageOf (contributions records benchmarkType entry.group)
  /-- The rest of a row is that of the first record it stands for. -/
  row : ∀ entry ∈ entries, ∃ first others,
    contributions records benchmarkType entry.group = first :: others ∧
      entry = Entry.averaging first others

/-- The aggregate of some records: it has the types of the records, each with its rows. -/
structure Aggregates (records : List Record) (aggregate : Aggregate) : Prop where
  types : ∀ benchmarkType, benchmarkType ∈ aggregate.keys ↔
    ∃ record ∈ records, record.benchmarkType = benchmarkType
  rows : ∀ benchmarkType entries, aggregate.get? benchmarkType = some entries →
    RowsOf records benchmarkType entries

/-! ## The build -/

namespace Build

variable {build whole : Build} {limit : Option Nat} {types : List String}
  {sample : String → Timed (Except StoreError (List GroupedResult))}

theorem aggregate_wait (build : Build) (limit takes : Option Nat) :
    (build.wait limit takes).1.aggregate = build.aggregate := by
  unfold wait
  split
  · split <;> rfl
  · rfl
  · rfl
  · rfl

theorem get?_add (build : Build) (benchmarkType : String)
    (answer : Except StoreError (List GroupedResult)) (name : String) :
    (build.add benchmarkType answer).aggregate.get? name =
      (if name = benchmarkType then answer.toOption.map entries else none).or
        (build.aggregate.get? name) := by
  cases answer with
  | error cause => simp [add, Except.toOption]
  | ok results =>
      by_cases hname : name = benchmarkType
      · subst hname
        simp [add, Except.toOption, TextMap.get?_insert_self]
      · simp [add, hname, TextMap.get?_insert_of_ne]

/-- A build that came to its end has the rows of the types whose samples were answered, beside what
it had. -/
theorem get?_addAll (h : build.addAll limit sample types = (whole, true)) (name : String) :
    whole.aggregate.get? name =
      (if name ∈ types then (sample name).answer.toOption.map entries else none).or
        (build.aggregate.get? name) := by
  induction types generalizing build with
  | nil =>
      cases h
      simp
  | cons benchmarkType rest ih =>
      have hwait := aggregate_wait build limit (sample benchmarkType).takes
      simp only [addAll] at h
      split at h
      · cases h
      · next next hnext =>
        rw [hnext] at hwait
        rw [ih h, get?_add, hwait]
        by_cases hname : name = benchmarkType
        · subst hname
          by_cases hrest : name ∈ rest <;> cases (sample name).answer.toOption <;> simp [hrest]
        · simp [hname]

end Build

namespace Queries

variable {queries : Queries} {limit : Option Nat} {seconds : Nat} {aggregate : Aggregate}

/-- An aggregate has the rows of the types that were listed and whose samples were answered. -/
theorem get?_of_outcome (h : (queries.run limit seconds).outcome = .ok aggregate) :
    ∃ types, queries.types.answer = .ok types ∧ ∀ name, aggregate.get? name =
      if name ∈ types then (queries.sample name).answer.toOption.map Build.entries else none := by
  have hstart := Build.aggregate_wait Build.start limit queries.types.takes
  unfold run at h
  split at h
  · cases h
  · next build hbuild =>
    rw [hbuild] at hstart
    split at h
    · cases h
    · next types htypes =>
      split at h
      · cases h
      · next whole hwhole =>
        cases h
        refine ⟨types, htypes, fun name => ?_⟩
        have hempty : build.aggregate.get? name = none := by
          rw [hstart]
          rfl
        rw [Build.get?_addAll hwhole name, hempty, Option.or_none]

/-- If the types are listed, a build ends with an aggregate, unless it is out of time. -/
theorem timeout_or_ok (limit : Option Nat) (seconds : Nat) {types : List String}
    (htypes : queries.types.answer = .ok types) :
    (queries.run limit seconds).outcome = .error (.timeout seconds) ∨
      ∃ aggregate, (queries.run limit seconds).outcome = .ok aggregate := by
  unfold run
  split
  · exact Or.inl rfl
  · rw [htypes]
    dsimp only
    split
    · exact Or.inl rfl
    · exact Or.inr ⟨_, rfl⟩

end Queries

/-! ## The rows after a run -/

/-- A store whose rows are those of some records, in their order. -/
def Holds (store : Store) (records : List Record) : Prop :=
  List.Forall₂ (fun record row => ∃ at_, Row.Keeps at_ record row) records store.rows

namespace Service

variable {s : Service} {events : List Event} {e : Event}

/-- The uploads of a run that were accepted, as their records, oldest first. -/
def accepted (s : Service) (events : List Event) : List (List Record) :=
  s.log batch? events

/-- The uploads that are accepted, of some that are given by their members. -/
def acceptedOf (s : Service) : List (List (String × Submission)) → List (List Record)
  | [] => []
  | members :: rest =>
    (if (Http.submitMembers s members).1.status = 200 then [recordsOf members] else []) ++
      acceptedOf (Http.submitMembers s members).2 rest

/-- What is accepted of some uploads depends on their members only. -/
theorem accepted_of_spells {uploads : List (List (String × Submission))}
    (h : List.Forall₂ Event.Spells uploads events) : s.accepted events = s.acceptedOf uploads := by
  induction h generalizing s with
  | nil => rfl
  | @cons members e uploads events hfirst _ ih =>
      show (s.batch? e).toList ++ (s.after e).accepted events = _
      rw [batch?_of_spells hfirst, after_of_spells hfirst, ih, acceptedOf]
      split <;> rfl

/-- The rows after a run are the rows before it with those of the accepted uploads behind them. -/
theorem rows_run (hevents : ∀ e ∈ events, e.writesRows = false) : ∃ more,
    (s.run events).store.rows = s.store.rows ++ more ∧
      List.Forall₂ (fun record row => ∃ at_, Row.Keeps at_ record row)
        (s.accepted events).flatten more := by
  induction events generalizing s with
  | nil => exact ⟨[], by simp, List.Forall₂.nil⟩
  | cons e rest ih =>
      obtain ⟨first, hrows, _, hkeeps⟩ := grows_after s e
      obtain ⟨at_, hfirst⟩ := hkeeps (hevents e List.mem_cons_self)
      obtain ⟨more, hmore, hall⟩ := @ih (s.after e) fun other hother =>
        hevents other (List.mem_cons_of_mem _ hother)
      refine ⟨first ++ more, by rw [run_cons, hmore, hrows, List.append_assoc], ?_⟩
      have hlog : (s.accepted (e :: rest)).flatten =
          (s.batch? e).getD [] ++ ((s.after e).accepted rest).flatten := by
        show ((s.batch? e).toList ++ (s.after e).accepted rest).flatten = _
        cases s.batch? e <;> rfl
      rw [hlog]
      exact List.rel_append (hfirst.imp fun _ _ h => ⟨at_, h⟩) hall

/-- After a run of a new service without direct writes the rows are those of what was accepted. -/
theorem holds_run (settings : Settings) (now : Instant)
    (hevents : ∀ e ∈ events, e.writesRows = false) :
    Holds ((Service.fresh settings now).run events).store
      ((Service.fresh settings now).accepted events).flatten := by
  obtain ⟨more, hrows, hall⟩ := @rows_run (Service.fresh settings now) events hevents
  rw [Holds, hrows]
  exact hall

/-- What is accepted are the records of an accepted upload. -/
theorem accepted_of_batch? {records : List Record} (h : s.batch? e = some records) :
    ∃ body members, Accepted s body members ∧ records = recordsOf members := by
  cases e with
  | request request =>
      simp only [batch?] at h
      split at h
      · next hstored =>
        obtain ⟨members, hspells, rfl⟩ := Option.map_eq_some_iff.mp h
        have hstatus : (Http.submit s request.body).1.status = 200 := by
          rw [← status_respond hstored.1, hstored.2]
        obtain ⟨others, hothers⟩ := (submit_status_iff s request.body).mp hstatus
        have hsame : members = others := Option.some.inj (hspells.symm.trans hothers.spells)
        exact ⟨request.body, members, hsame ▸ hothers, rfl⟩
      · cases h
  | _ => cases h

/-- What is accepted is the record of a submission that breaks no rule. -/
theorem exists_submission_of_accepted {record : Record} (h : record ∈ (s.accepted events).flatten) :
    ∃ body members submission, Http.membersOf? body = some members ∧
      lastOf? members record.benchmarkType = some submission ∧
        submission.violation? record.benchmarkType = none ∧
          record = submission.record record.benchmarkType := by
  obtain ⟨records, hrecords, hrecord⟩ := List.mem_flatten.mp h
  obtain ⟨earlier, later, hsplit⟩ := List.append_of_mem hrecords
  obtain ⟨first, e, rest, rfl, _, hbatch⟩ := exists_of_log_eq hsplit
  obtain ⟨body, members, haccepted, rfl⟩ := accepted_of_batch? hbatch
  obtain ⟨submission, hlast, hrecord⟩ := ((onePerType_recordsOf members).mem_iff record).mp hrecord
  exact ⟨body, members, submission, haccepted.spells, hlast, haccepted.valid _ _ hlast, hrecord⟩

/-- What is accepted is never a legacy result. -/
theorem legacy_of_accepted {record : Record} (h : record ∈ (s.accepted events).flatten) :
    record.legacy = false := by
  obtain ⟨_, _, _, _, _, _, hrecord⟩ := exists_submission_of_accepted h
  rw [hrecord]
  rfl

end Service

/-! ## The rows of one type -/

/-- What agrees row by row agrees as a list. -/
theorem map_eq_map {α β γ : Type} {R : α → β → Prop} {f : α → γ} {g : β → γ} {xs : List α}
    {ys : List β} (hfg : ∀ x y, R x y → f x = g y) (h : List.Forall₂ R xs ys) :
    xs.map f = ys.map g := by
  have heq := List.rel_map hfg h
  rwa [List.forall₂_eq_eq_eq] at heq

/-- A row that keeps a record which is no legacy result. -/
def Stands (record : Record) (row : Row) : Prop :=
  record.legacy = false ∧ ∃ at_, Row.Keeps at_ record row

theorem Stands.groupKey {record : Record} {row : Row} (h : Stands record row) :
    Store.groupKey row = record.group := by
  obtain ⟨_, _, hkeeps⟩ := h
  rw [Store.groupKey, Record.group, hkeeps.measurement]

theorem Stands.legacy {record : Record} {row : Row} (h : Stands record row) :
    row.legacy = false := by
  obtain ⟨hlegacy, _, hkeeps⟩ := h
  rw [hkeeps.measurement]
  exact hlegacy

theorem Stands.result {record : Record} {row : Row} (h : Stands record row) :
    row.result = Store.kept record.result := by
  obtain ⟨_, _, hkeeps⟩ := h
  rw [hkeeps.measurement]

variable {records : List Record} {store : Store} {benchmarkType : String} {g : Group}

/-- The current rows of a type stand for the records of the type. -/
theorem stands_currentRows (h : List.Forall₂ Stands records store.rows) (benchmarkType : String) :
    List.Forall₂ Stands (ofType records benchmarkType) (store.currentRows benchmarkType) := by
  have htype : List.Forall₂ Stands (ofType records benchmarkType)
      (store.rowsOf benchmarkType) := by
    refine List.rel_filter ?_ h
    rintro record row ⟨_, _, hkeeps⟩
    simp [hkeeps.benchmarkType]
  have hcurrent : List.Forall₂ Stands ((ofType records benchmarkType).filter fun _ => true)
      (store.currentRows benchmarkType) :=
    List.rel_filter (fun _ _ hstands => by simp [hstands.legacy]) htype
  rwa [List.filter_true] at hcurrent

/-- The rows of a group stand for the records that its row of the aggregate stands for. -/
theorem stands_group (h : List.Forall₂ Stands records store.rows)
    (hg : g ∈ store.groups benchmarkType) :
    List.Forall₂ Stands (contributions records benchmarkType g.key) g.rows := by
  rw [(Store.grouped_groups store benchmarkType).holds g hg]
  refine List.rel_filter ?_ (stands_currentRows h benchmarkType)
  intro record row hstands
  simp [hstands.groupKey]

/-- The average of a group is the average of the records it stands for. -/
theorem average_group (h : List.Forall₂ Stands records store.rows)
    (hg : g ∈ store.groups benchmarkType) :
    g.average = averageOf (contributions records benchmarkType g.key) := by
  rw [Group.average, averageOf,
    map_eq_map (fun _ _ hstands => hstands.result.symm) (stands_group h hg)]

/-- The row of the aggregate for a group. -/
def Group.entry (g : Group) : Entry :=
  g.result.entry

/-- The row for a group is the average of the records it stands for, with everything else from the
first. -/
theorem entry_group (h : List.Forall₂ Stands records store.rows)
    (hg : g ∈ store.groups benchmarkType) : ∃ first others,
      contributions records benchmarkType g.key = first :: others ∧ first.group = g.key ∧
        g.entry = Entry.averaging first others := by
  have haverage := average_group h hg
  have hstands := stands_group h hg
  cases hrecords : contributions records benchmarkType g.key with
  | nil =>
      rw [hrecords] at hstands
      cases hstands
  | cons first others =>
      rw [hrecords] at hstands haverage
      obtain ⟨⟨_, _, hkeeps⟩, _⟩ := List.forall₂_cons.mp hstands
      have hfirst : first ∈ contributions records benchmarkType g.key := by
        rw [hrecords]
        exact List.mem_cons_self
      refine ⟨first, others, rfl, by simpa using (List.mem_filter.mp hfirst).2, ?_⟩
      rw [Group.entry, GroupedResult.entry_eq, Group.result, Entry.averaging, haverage, hkeeps.measurement,
        hkeeps.cpuText]

/-- A row for a group has the group's key. -/
theorem group_entry (h : List.Forall₂ Stands records store.rows)
    (hg : g ∈ store.groups benchmarkType) : g.entry.group = g.key := by
  obtain ⟨first, others, _, hkey, hentry⟩ := entry_group h hg
  rw [hentry, ← hkey]
  rfl

/-- The groups of a type, in any order, make the rows of the type. -/
theorem rowsOf_groups (h : List.Forall₂ Stands records store.rows) {groups : List Group}
    (hperm : groups.Perm (store.groups benchmarkType)) :
    RowsOf records benchmarkType (groups.map Group.entry) := by
  have hgrouped := Store.grouped_groups store benchmarkType
  have hkeys : (groups.map Group.entry).map Entry.group = groups.map Group.key := by
    rw [List.map_map]
    exact List.map_congr_left fun g hg => group_entry h (hperm.mem_iff.mp hg)
  refine ⟨?_, fun key => ?_, fun entry hentry => ?_, fun entry hentry => ?_⟩
  · rw [hkeys]
    exact (hperm.map Group.key).nodup_iff.mpr hgrouped.distinct
  · rw [hkeys, (hperm.map Group.key).mem_iff, hgrouped.covers]
    have hgroups : (ofType records benchmarkType).map Record.group =
        (store.currentRows benchmarkType).map Store.groupKey :=
      map_eq_map (fun _ _ hstands => hstands.groupKey.symm) (stands_currentRows h benchmarkType)
    rw [← List.mem_map, ← hgroups, List.mem_map]
    simp [ofType, and_assoc]
  · obtain ⟨g, hg, rfl⟩ := List.mem_map.mp hentry
    rw [group_entry h (hperm.mem_iff.mp hg), ← average_group h (hperm.mem_iff.mp hg)]
    rfl
  · obtain ⟨g, hg, rfl⟩ := List.mem_map.mp hentry
    obtain ⟨first, others, hrecords, _, hentry⟩ := entry_group h (hperm.mem_iff.mp hg)
    exact ⟨first, others, by rw [group_entry h (hperm.mem_iff.mp hg), hrecords], hentry⟩

/-! ## The rebuild -/

/-- The types of a store are those of its rows. -/
theorem Store.mem_types_iff {benchmarkType : String} :
    benchmarkType ∈ store.types ↔ benchmarkType ∈ store.rows.map Row.benchmarkType := by
  have hmap : (store.rows.map fun row => (row.benchmarkType, ())) =
      (store.rows.map Row.benchmarkType).map fun name => (name, ()) := by
    rw [List.map_map]
    rfl
  rw [Store.types, Store.typesOf, hmap]
  exact TextMap.mem_keys_ofList_map (fun _ => ()) _ _

/-- A type has no more groups than its records have machines and pointer widths. -/
theorem length_groups_le (h : List.Forall₂ Stands records store.rows) (benchmarkType : String) :
    (store.groups benchmarkType).length ≤
      ((ofType records benchmarkType).map Record.group).toFinset.card := by
  have hgrouped := Store.grouped_groups store benchmarkType
  have hgroups : (ofType records benchmarkType).map Record.group =
      (store.currentRows benchmarkType).map Store.groupKey :=
    map_eq_map (fun _ _ hstands => hstands.groupKey.symm) (stands_currentRows h benchmarkType)
  have hsub : ((store.groups benchmarkType).map Group.key).toFinset ⊆
      ((ofType records benchmarkType).map Record.group).toFinset := by
    intro key hkey
    rw [hgroups, List.mem_toFinset, List.mem_map]
    exact (hgrouped.covers key).mp (List.mem_toFinset.mp hkey)
  calc (store.groups benchmarkType).length
      = ((store.groups benchmarkType).map Group.key).toFinset.card := by
        rw [List.toFinset_card_of_nodup hgrouped.distinct, List.length_map]
    _ ≤ ((ofType records benchmarkType).map Record.group).toFinset.card := Finset.card_le_card hsub

/-- What a rebuild needs of the world: its queries are answered in time, and the samples have room
for all groups and nothing but numbers for averages. -/
structure Rebuildable (s : Service) (records : List Record) : Prop where
  listed : s.faults.types = false
  sampled : ∀ record ∈ records, s.faults.sample.contains record.benchmarkType = false
  inTime : ∀ seconds, s.rebuild.1 ≠ .error (.timeout seconds)
  room : ∀ benchmarkType, ((ofType records benchmarkType).map Record.group).toFinset.card ≤
    s.settings.refresh.sampleLimit.toNat
  defined : ∀ benchmarkType key, contributions records benchmarkType key ≠ [] →
    (averageOf (contributions records benchmarkType key)).isNaN = false

namespace Service

variable {s : Service}

/-- The rows of a type that a rebuild finds. -/
def sampled (s : Service) (benchmarkType : String) : List Group :=
  (s.drawFor benchmarkType).order (s.store.groups benchmarkType)

/-- The types that are listed are those of the records. -/
theorem mem_types_iff_record (h : List.Forall₂ Stands records s.store.rows) :
    benchmarkType ∈ s.store.types ↔ ∃ record ∈ records, record.benchmarkType = benchmarkType := by
  have htypes : records.map Record.benchmarkType = s.store.rows.map Row.benchmarkType :=
    map_eq_map (fun _ _ ⟨_, _, hkeeps⟩ => hkeeps.benchmarkType.symm) h
  rw [Store.mem_types_iff, ← htypes, List.mem_map]

/-- A sample that is answered is one of the store. -/
theorem sample_of_sampleAnswer {limit : Nat} {results : List GroupedResult}
    (h : s.sampleAnswer benchmarkType limit = .ok results) :
    s.store.sample (s.drawFor benchmarkType) benchmarkType limit = .ok results := by
  unfold sampleAnswer at h
  split at h
  · cases h
  · exact h

/-- The sample of a type that is listed is answered with all of its groups. -/
theorem answer_sample (h : List.Forall₂ Stands records s.store.rows) (hs : Rebuildable s records)
    (hmem : benchmarkType ∈ s.store.types) : (s.queries.sample benchmarkType).answer =
      .ok ((s.sampled benchmarkType).map Group.result) := by
  obtain ⟨record, hrecord, htype⟩ := (mem_types_iff_record h).mp hmem
  have hsampled : s.faults.sample.contains benchmarkType = false := htype ▸ hs.sampled record hrecord
  have hroom := le_trans (length_groups_le h benchmarkType) (hs.room benchmarkType)
  have hdefined : ∀ g ∈ s.store.groups benchmarkType, g.average.isNaN = false := by
    intro g hg
    obtain ⟨first, others, hrecords, _, _⟩ := entry_group h hg
    rw [average_group h hg]
    exact hs.defined _ _ (by simp [hrecords])
  show s.sampleAnswer benchmarkType s.settings.refresh.sampleLimit.toNat = _
  rw [sampleAnswer, hsampled, Store.sample_eq _ hroom hdefined]
  rfl

/-- A rebuild to which nothing happens is the aggregate of the records behind the rows. -/
theorem aggregates_rebuild (h : List.Forall₂ Stands records s.store.rows)
    (hs : Rebuildable s records) :
    ∃ aggregate, s.rebuild.1 = .ok aggregate ∧ Aggregates records aggregate := by
  have htypes : s.queries.types.answer = .ok s.store.types := by
    show s.typesAnswer = _
    rw [typesAnswer, hs.listed]
    rfl
  have hrun : s.rebuild.1 = (s.queries.run
      (some (s.settings.refresh.rebuildTimeout.toNat * nanosPerSecond))
      s.settings.refresh.rebuildTimeout.toNat).outcome := by
    rw [rebuild, outcome_built, Queries.rebuild]
  have hinTime := hs.inTime s.settings.refresh.rebuildTimeout.toNat
  rw [hrun] at hinTime
  obtain ⟨aggregate, hbuilt⟩ := (Queries.timeout_or_ok _ _ htypes).resolve_left hinTime
  obtain ⟨types, htypes', hget⟩ := Queries.get?_of_outcome hbuilt
  have hlisted : types = s.store.types := Except.ok.inj (htypes'.symm.trans htypes)
  have hrows : ∀ benchmarkType ∈ s.store.types, aggregate.get? benchmarkType =
      some ((s.sampled benchmarkType).map Group.entry) := by
    intro benchmarkType hmem
    rw [hget, hlisted, if_pos hmem, answer_sample h hs hmem]
    show some (Build.entries _) = _
    rw [Build.entries, List.map_map]
    rfl
  have hnone : ∀ benchmarkType, benchmarkType ∉ s.store.types →
      aggregate.get? benchmarkType = none := by
    intro benchmarkType hmem
    rw [hget, hlisted, if_neg hmem]
  refine ⟨aggregate, hrun.trans hbuilt, fun benchmarkType => ?_,
    fun benchmarkType entries hentries => ?_⟩
  · rw [TextMap.mem_keys_iff, ← mem_types_iff_record h]
    by_cases hmem : benchmarkType ∈ s.store.types
    · exact ⟨fun _ => hmem, fun _ => ⟨_, hrows benchmarkType hmem⟩⟩
    · rw [hnone benchmarkType hmem]
      simp [hmem]
  · by_cases hmem : benchmarkType ∈ s.store.types
    · rw [hrows benchmarkType hmem] at hentries
      cases hentries
      exact rowsOf_groups h (Draw.order_perm _ _)
    · rw [hnone benchmarkType hmem] at hentries
      cases hentries

end Service

/-! ## The order of the uploads -/

/-- Uploads without a common type, machine and pointer width. -/
def Apart (first second : List Record) : Prop :=
  ∀ a ∈ first, ∀ b ∈ second, ¬(a.benchmarkType = b.benchmarkType ∧ a.group = b.group)

/-- Uploads in another order: one after the other, two neighbours that have nothing in common
change places. -/
inductive Reordered : List (List Record) → List (List Record) → Prop
  | refl (batches : List (List Record)) : Reordered batches batches
  | swap {before : List (List Record)} {first second : List Record}
      {after batches : List (List Record)} (apart : Apart first second)
      (rest : Reordered (before ++ second :: first :: after) batches) :
      Reordered (before ++ first :: second :: after) batches

/-- What is apart does not contribute to the same row. -/
theorem contributions_of_apart {first second : List Record} (h : Apart first second)
    (benchmarkType : String) (key : GroupKey) :
    contributions first benchmarkType key = [] ∨ contributions second benchmarkType key = [] := by
  by_contra hboth
  obtain ⟨hfirst, hsecond⟩ := not_or.mp hboth
  obtain ⟨a, ha⟩ := List.exists_mem_of_ne_nil _ hfirst
  obtain ⟨b, hb⟩ := List.exists_mem_of_ne_nil _ hsecond
  simp only [contributions, ofType, List.mem_filter, decide_eq_true_eq] at ha hb
  exact h a ha.1.1 b hb.1.1 ⟨ha.1.2.trans hb.1.2.symm, ha.2.trans hb.2.symm⟩

theorem contributions_append (first second : List Record) (benchmarkType : String)
    (key : GroupKey) : contributions (first ++ second) benchmarkType key =
      contributions first benchmarkType key ++ contributions second benchmarkType key := by
  simp [contributions, ofType]

/-- In another order the same records contribute to a row, in the same order. -/
theorem contributions_of_reordered {batches others : List (List Record)}
    (h : Reordered batches others) (benchmarkType : String) (key : GroupKey) :
    contributions batches.flatten benchmarkType key =
      contributions others.flatten benchmarkType key := by
  induction h with
  | refl batches => rfl
  | swap apart _ ih =>
      rw [← ih]
      simp only [List.flatten_append, List.flatten_cons, contributions_append]
      rcases contributions_of_apart apart benchmarkType key with hnone | hnone <;> simp [hnone]

/-- A record contributes to some row of its type. -/
theorem exists_record_iff {records : List Record} {benchmarkType : String} :
    (∃ record ∈ records, record.benchmarkType = benchmarkType) ↔
      ∃ key, contributions records benchmarkType key ≠ [] := by
  constructor
  · rintro ⟨record, hrecord, htype⟩
    refine ⟨record.group, List.ne_nil_of_mem (a := record) ?_⟩
    simp [contributions, ofType, hrecord, htype]
  · rintro ⟨key, hne⟩
    obtain ⟨record, hrecord⟩ := List.exists_mem_of_ne_nil _ hne
    simp only [contributions, ofType, List.mem_filter, decide_eq_true_eq] at hrecord
    exact ⟨record, hrecord.1.1, hrecord.1.2⟩

/-- The rows of a type are those that what contributes to them makes. -/
theorem RowsOf.mem_iff {entries : List Entry} (h : RowsOf records benchmarkType entries)
    (entry : Entry) : entry ∈ entries ↔ ∃ first others,
      contributions records benchmarkType entry.group = first :: others ∧
        entry = Entry.averaging first others := by
  refine ⟨h.row entry, ?_⟩
  rintro ⟨first, others, hrecords, hentry⟩
  have hfirst : first ∈ contributions records benchmarkType entry.group := by
    rw [hrecords]
    exact List.mem_cons_self
  simp only [contributions, ofType, List.mem_filter, decide_eq_true_eq] at hfirst
  obtain ⟨found, hfound, hgroup⟩ := List.mem_map.mp
    ((h.groups entry.group).mpr ⟨first, hfirst.1.1, hfirst.1.2, hfirst.2⟩)
  obtain ⟨first', others', hrecords', hfound'⟩ := h.row found hfound
  rw [hgroup, hrecords] at hrecords'
  cases hrecords'
  rw [hentry, ← hfound']
  exact hfound

/-- Records that contribute alike have the same rows, up to their order. -/
theorem RowsOf.perm {records' : List Record} {entries entries' : List Entry}
    (h : RowsOf records benchmarkType entries) (h' : RowsOf records' benchmarkType entries')
    (hsame : ∀ key, contributions records benchmarkType key =
      contributions records' benchmarkType key) : entries.Perm entries' := by
  refine (List.perm_ext_iff_of_nodup h.distinct.of_map h'.distinct.of_map).mpr fun entry => ?_
  rw [h.mem_iff, h'.mem_iff, hsame]

/-- Records that contribute alike have the same aggregate, up to the order of its rows. -/
theorem Aggregates.perm {records' : List Record} {aggregate aggregate' : Aggregate}
    (h : Aggregates records aggregate) (h' : Aggregates records' aggregate')
    (hsame : ∀ benchmarkType key, contributions records benchmarkType key =
      contributions records' benchmarkType key) (benchmarkType : String) :
    Option.Rel List.Perm (aggregate.get? benchmarkType) (aggregate'.get? benchmarkType) := by
  have htypes : (∃ entries, aggregate.get? benchmarkType = some entries) ↔
      ∃ entries, aggregate'.get? benchmarkType = some entries := by
    rw [← TextMap.mem_keys_iff, ← TextMap.mem_keys_iff, h.types, h'.types, exists_record_iff,
      exists_record_iff]
    simp only [hsame]
  cases hfirst : aggregate.get? benchmarkType with
  | none =>
      cases hsecond : aggregate'.get? benchmarkType with
      | none => exact Option.Rel.none
      | some entries' => simp [hfirst, hsecond] at htypes
  | some entries =>
      cases hsecond : aggregate'.get? benchmarkType with
      | none => simp [hfirst, hsecond] at htypes
      | some entries' =>
          exact Option.Rel.some ((h.rows _ _ hfirst).perm (h'.rows _ _ hsecond)
            fun key => hsame benchmarkType key)

/-! ## Whole runs -/

/-- A run in which rows come in by uploads only, and after which a rebuild succeeds. -/
structure Undisturbed (s : Service) (events : List Event) : Prop where
  overHttp : ∀ e ∈ events, e.writesRows = false
  rebuildable : Rebuildable (s.run events) (s.accepted events).flatten

/-- The aggregate after a run of a new service has one row for every type, machine and pointer
width that was accepted, with the average of the results accepted for it, in the order they were
accepted; and after any other run that accepted the same uploads, up to the order of uploads that
have nothing in common, it has the same rows, up to their order. -/
theorem aggregate_of_uploads {settings : Settings} {now : Instant} {events : List Event}
    (h : Undisturbed (Service.fresh settings now) events) :
    ∃ aggregate, ((Service.fresh settings now).run events).rebuild.1 = .ok aggregate ∧
      Aggregates ((Service.fresh settings now).accepted events).flatten aggregate ∧
      ∀ settings' now' events', Undisturbed (Service.fresh settings' now') events' →
        Reordered ((Service.fresh settings now).accepted events)
          ((Service.fresh settings' now').accepted events') →
        ∃ aggregate', ((Service.fresh settings' now').run events').rebuild.1 = .ok aggregate' ∧
          ∀ benchmarkType, Option.Rel List.Perm (aggregate.get? benchmarkType)
            (aggregate'.get? benchmarkType) := by
  have hrebuild : ∀ {settings now events}, Undisturbed (Service.fresh settings now) events →
      ∃ aggregate, ((Service.fresh settings now).run events).rebuild.1 = .ok aggregate ∧
        Aggregates ((Service.fresh settings now).accepted events).flatten aggregate := by
    intro settings now events h
    have hholds := Service.holds_run settings now h.overHttp
    have hstands := (List.forall₂_and_left _ _).mpr
      ⟨fun record hrecord => Service.legacy_of_accepted hrecord, hholds⟩
    exact Service.aggregates_rebuild hstands h.rebuildable
  obtain ⟨aggregate, hbuilt, haggregates⟩ := hrebuild h
  refine ⟨aggregate, hbuilt, haggregates, fun settings' now' events' h' hreordered => ?_⟩
  obtain ⟨aggregate', hbuilt', haggregates'⟩ := hrebuild h'
  exact ⟨aggregate', hbuilt', haggregates.perm haggregates' fun benchmarkType key =>
    contributions_of_reordered hreordered benchmarkType key⟩

/-! ## A run -/

/-- Records of one type, machine and pointer width contribute to one row. -/
theorem contributions_of_alike
    (h : ∀ a ∈ records, ∀ b ∈ records, a.benchmarkType = b.benchmarkType ∧ a.group = b.group)
    {key : GroupKey} (hne : contributions records benchmarkType key ≠ []) :
    contributions records benchmarkType key = records := by
  obtain ⟨a, ha⟩ := List.exists_mem_of_ne_nil _ hne
  simp only [contributions, ofType, List.mem_filter, decide_eq_true_eq] at ha
  have hall : ∀ b ∈ records, b.benchmarkType = benchmarkType ∧ b.group = key := by
    intro b hb
    obtain ⟨htype, hgroup⟩ := h b hb a ha.1.1
    exact ⟨htype.trans ha.1.2, hgroup.trans ha.2⟩
  have htype : ofType records benchmarkType = records :=
    List.filter_eq_self.mpr fun b hb => by simpa using (hall b hb).1
  rw [contributions, htype]
  exact List.filter_eq_self.mpr fun b hb => by simpa using (hall b hb).2

/-- They make one group. -/
theorem card_groups_of_alike
    (h : ∀ a ∈ records, ∀ b ∈ records, a.benchmarkType = b.benchmarkType ∧ a.group = b.group)
    (benchmarkType : String) :
    ((ofType records benchmarkType).map Record.group).toFinset.card ≤ 1 := by
  refine Finset.card_le_one.mpr fun key hkey other hother => ?_
  obtain ⟨a, ha, rfl⟩ := List.mem_map.mp (List.mem_toFinset.mp hkey)
  obtain ⟨b, hb, rfl⟩ := List.mem_map.mp (List.mem_toFinset.mp hother)
  exact (h a (List.mem_filter.mp ha).1 b (List.mem_filter.mp hb).1).2

/-- An upload of one result. -/
def uploadOf (result : String) : Event :=
  .request (uploadOfTexts [("t", resultText result "64")])

/-- The submission in an upload of one result. -/
def oneResult (result : Float) : Submission :=
  resultOf result 64

/-- Two uploads that are accepted, and one between them that is not. -/
def threeUploads : List Event :=
  [uploadOf "1", uploadOf "-1", uploadOf "2.5"]

/-- Before them there is nothing. -/
def beforeUploads : Service :=
  Service.fresh {} .epoch

/-- What they spell, by evaluation. -/
theorem spells_threeUploads : List.Forall₂ Event.Spells
    [[("t", oneResult 1)], [("t", oneResult (-1))], [("t", oneResult 2.5)]] threeUploads :=
  .cons (Event.spells_text rfl (by decide +kernel)) <|
    .cons (Event.spells_text rfl (by decide +kernel)) <|
      .cons (Event.spells_text rfl (by decide +kernel)) .nil

/-- What the three uploads come to, by evaluation. -/
theorem threeUploads_accepted :
    (beforeUploads.run threeUploads).rebuild.1.isOk = true ∧
      (beforeUploads.accepted threeUploads).length = 2 ∧
      (averageOf (beforeUploads.accepted threeUploads).flatten).isNaN = false ∧
      (∀ a ∈ (beforeUploads.accepted threeUploads).flatten,
        ∀ b ∈ (beforeUploads.accepted threeUploads).flatten,
          a.benchmarkType = b.benchmarkType ∧ a.group = b.group) ∧
      (beforeUploads.run threeUploads).faults = {} ∧
      (beforeUploads.run threeUploads).settings = {} := by
  rw [Service.accepted_of_spells spells_threeUploads, Service.run_of_spells spells_threeUploads]
  decide +kernel

/-- Nothing disturbs them. -/
theorem undisturbed_threeUploads : Undisturbed beforeUploads threeUploads := by
  obtain ⟨hok, _, hdefined, halike, hfaults, hsettings⟩ := threeUploads_accepted
  refine ⟨by simp [threeUploads, uploadOf, Event.writesRows], ?_, ?_, ?_, ?_, ?_⟩
  · rw [hfaults]
  · intro record _
    rw [hfaults]
    rfl
  · intro seconds hlate
    rw [hlate] at hok
    cases hok
  · intro benchmarkType
    rw [hsettings]
    exact le_trans (card_groups_of_alike halike benchmarkType) (by decide)
  · intro benchmarkType key hne
    rw [contributions_of_alike halike hne]
    exact hdefined

/-- The aggregate of the two uploads that are accepted. -/
theorem aggregate_of_threeUploads : Undisturbed beforeUploads threeUploads ∧
    (beforeUploads.accepted threeUploads).length = 2 ∧
      ∃ aggregate, (beforeUploads.run threeUploads).rebuild.1 = .ok aggregate ∧
        Aggregates (beforeUploads.accepted threeUploads).flatten aggregate := by
  obtain ⟨aggregate, hbuilt, haggregates, _⟩ := aggregate_of_uploads undisturbed_threeUploads
  exact ⟨undisturbed_threeUploads, threeUploads_accepted.2.1, aggregate, hbuilt, haggregates⟩

end BenchDepot
