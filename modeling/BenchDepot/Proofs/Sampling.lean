import BenchDepot.Proofs.Groups

/-!
# Samples against a reading of the whole store

A sample is drawn from groups that were gathered row by row.  Here it is compared with what the
whole list of rows says: which rows count for a type, which keys they have, and which rows stand
under a key.  Rows that do not count may be anywhere between the others and make no difference.

* `partitions_groups` — the groups of a type share out the rows that count for it;
* `groups_of_alike` — rows that do not count make no difference;
* `sample_readsWholeStore` — what a sample is, in terms of the whole list of rows.
-/

namespace BenchDepot

variable {store : Store} {benchmarkType : String} {row : Row} {rows others : List Row}
  {groups : List Group} {results : List GroupedResult} {draw : Draw} {limit : Nat}

/-- Whether a row counts for a type: it has the type, and is no legacy row. -/
def Row.countsFor (benchmarkType : String) (row : Row) : Bool :=
  row.benchmarkType == benchmarkType && !row.legacy

/-- What a grouped result was grouped by. -/
def GroupedResult.key (r : GroupedResult) : GroupKey :=
  ⟨r.machineId, r.pointerBits⟩

namespace Store

/-- The rows that count for a type, in the order they came in. -/
def counted (store : Store) (benchmarkType : String) : List Row :=
  store.rows.filter (Row.countsFor benchmarkType)

/-- The rows that count for a type and stand under a key, in the order they came in. -/
def members (store : Store) (benchmarkType : String) (key : GroupKey) : List Row :=
  store.rows.filter fun row => row.countsFor benchmarkType && decide (groupKey row = key)

/-- The keys of the rows that count for a type. -/
def groupKeys (store : Store) (benchmarkType : String) : Finset GroupKey :=
  ((store.counted benchmarkType).map groupKey).toFinset

end Store

/-- A sample of a type, in terms of the whole list of rows. -/
structure Samples (store : Store) (benchmarkType : String) (limit : Nat)
    (results : List GroupedResult) : Prop where
  /-- There is one result for each key, or as many as the limit allows. -/
  length : results.length = min limit (store.groupKeys benchmarkType).card
  distinct : (results.map GroupedResult.key).Nodup
  known : ∀ r ∈ results, r.key ∈ store.groupKeys benchmarkType
  /-- A result is the average over the rows under its key, in the order they came in. -/
  average : ∀ r ∈ results,
    r.result = Store.average ((store.members benchmarkType r.key).map fun row => row.result)
  /-- Everything else in it comes from one of these rows. -/
  columns : ∀ r ∈ results, ∃ row ∈ store.members benchmarkType r.key,
    r.toMeasurement = { row.toMeasurement with result := r.result } ∧ r.cpuText = row.cpuText
  /-- No key is left out if the limit allows for all. -/
  complete : (store.groupKeys benchmarkType).card ≤ limit →
    ∀ key ∈ store.groupKeys benchmarkType, ∃ r ∈ results, r.key = key

/-- Groups that share out the rows that count for a type. -/
structure Partitions (store : Store) (benchmarkType : String) (groups : List Group) : Prop where
  distinct : (groups.map Group.key).Nodup
  keys : (groups.map Group.key).toFinset = store.groupKeys benchmarkType
  rows : ∀ g ∈ groups, g.rows = store.members benchmarkType g.key
  /-- Every row that counts is in one group, as often as it is in the store. -/
  whole : (groups.flatMap Group.rows).Perm (store.counted benchmarkType)

/-- Two lists of rows that differ at most in rows that do not count for a type, which were added
or removed anywhere. -/
inductive AlikeFor (benchmarkType : String) : List Row → List Row → Prop
  | nil : AlikeFor benchmarkType [] []
  | both (row : Row) {rows others : List Row} (rest : AlikeFor benchmarkType rows others) :
      AlikeFor benchmarkType (row :: rows) (row :: others)
  | added {row : Row} {rows others : List Row} (idle : row.countsFor benchmarkType = false)
      (rest : AlikeFor benchmarkType rows others) :
      AlikeFor benchmarkType rows (row :: others)
  | removed {row : Row} {rows others : List Row} (idle : row.countsFor benchmarkType = false)
      (rest : AlikeFor benchmarkType rows others) :
      AlikeFor benchmarkType (row :: rows) others

/-! ## The groups -/

/-- The rows that stand under the keys of a list share out all rows, if no key stands there twice
and every row has one of them. -/
theorem flatMap_filter_perm {α κ : Type} [DecidableEq κ] (key : α → κ) {keys : List κ}
    {items : List α} (hnodup : keys.Nodup) (hcover : ∀ item ∈ items, key item ∈ keys) :
    (keys.flatMap fun k => items.filter fun item => key item = k).Perm items := by
  induction keys generalizing items with
  | nil =>
      have hnil : items = [] := by
        apply List.eq_nil_iff_forall_not_mem.mpr
        intro item hitem
        exact absurd (hcover item hitem) (by simp)
      rw [hnil]
      exact List.Perm.refl _
  | cons k keys ih =>
      obtain ⟨hk, hkeys⟩ := List.nodup_cons.mp hnodup
      -- the other keys share out the rows that do not stand under the first one
      have hrest : ∀ k' ∈ keys, (items.filter fun item => key item = k') =
          (items.filter fun item => !decide (key item = k)).filter fun item => key item = k' := by
        intro k' hk'
        rw [List.filter_filter]
        apply List.filter_congr
        intro item _
        by_cases heq : key item = k'
        · have hne : key item ≠ k := by
            rintro rfl
            exact hk (heq ▸ hk')
          simp [heq ▸ hne, heq]
        · simp [heq]
      have hcover' : ∀ item ∈ items.filter (fun item => !decide (key item = k)),
          key item ∈ keys := by
        intro item hitem
        obtain ⟨hmem, hne⟩ := List.mem_filter.mp hitem
        rcases List.mem_cons.mp (hcover item hmem) with heq | hkeys'
        · simp [heq] at hne
        · exact hkeys'
      have hperm := ih hkeys hcover'
      rw [List.flatMap_cons, List.flatMap_congr hrest]
      exact (hperm.append_left _).trans (List.filter_append_perm _ items)

namespace Store

theorem currentRows_eq_counted (store : Store) (benchmarkType : String) :
    store.currentRows benchmarkType = store.counted benchmarkType := by
  rw [currentRows, rowsOf, List.filter_filter, counted]
  apply List.filter_congr
  intro row _
  exact Bool.and_comm _ _

theorem members_eq (store : Store) (benchmarkType : String) (key : GroupKey) :
    store.members benchmarkType key =
      (store.counted benchmarkType).filter fun row => groupKey row = key := by
  rw [counted, List.filter_filter, members]
  apply List.filter_congr
  intro row _
  exact Bool.and_comm _ _

/-- The groups of a type share out the rows that count for it. -/
theorem partitions_groups (store : Store) (benchmarkType : String) :
    Partitions store benchmarkType (store.groups benchmarkType) := by
  have hgrouped := grouped_groups store benchmarkType
  rw [currentRows_eq_counted] at hgrouped
  have hcover : ∀ row ∈ store.counted benchmarkType,
      groupKey row ∈ (store.groups benchmarkType).map Group.key :=
    fun row hrow => (hgrouped.covers _).mpr ⟨row, hrow, rfl⟩
  refine ⟨hgrouped.distinct, ?_, ?_, ?_⟩
  · ext key
    rw [groupKeys, List.mem_toFinset, List.mem_toFinset, hgrouped.covers, List.mem_map]
  · intro g hg
    rw [members_eq]
    exact hgrouped.holds g hg
  · have hperm := flatMap_filter_perm groupKey hgrouped.distinct hcover
    rw [List.flatMap_map] at hperm
    rw [List.flatMap_congr hgrouped.holds]
    exact hperm

/-- A group holds a row, which has its key. -/
theorem first_mem_members (h : Partitions store benchmarkType groups) {g : Group}
    (hg : g ∈ groups) : g.first ∈ store.members benchmarkType g.key ∧
      groupKey g.first = g.key := by
  have hmem : g.first ∈ store.members benchmarkType g.key := by
    rw [← h.rows g hg]
    exact List.mem_cons_self
  have hcounts := (List.mem_filter.mp hmem).2
  rw [Bool.and_eq_true, decide_eq_true_eq] at hcounts
  exact ⟨hmem, hcounts.2⟩

/-! ## Rows that do not count -/

theorem filter_of_alike (h : AlikeFor benchmarkType rows others) :
    rows.filter (Row.countsFor benchmarkType) = others.filter (Row.countsFor benchmarkType) := by
  induction h with
  | nil => rfl
  | both row _ ih =>
      by_cases hcounts : row.countsFor benchmarkType = true
      · rw [List.filter_cons_of_pos hcounts, List.filter_cons_of_pos hcounts, ih]
      · rw [List.filter_cons_of_neg hcounts, List.filter_cons_of_neg hcounts, ih]
  | added idle _ ih => rw [ih, List.filter_cons_of_neg (by simp [idle])]
  | removed idle _ ih => rw [← ih, List.filter_cons_of_neg (by simp [idle])]

/-- Rows that do not count for a type make no difference to its groups. -/
theorem groups_of_alike {other : Store} (h : AlikeFor benchmarkType store.rows other.rows) :
    other.groups benchmarkType = store.groups benchmarkType := by
  have hcounted : other.counted benchmarkType = store.counted benchmarkType :=
    (filter_of_alike h).symm
  rw [groups, groups, currentRows_eq_counted, currentRows_eq_counted, hcounted]

theorem sample_of_alike {other : Store} (h : AlikeFor benchmarkType store.rows other.rows)
    (draw : Draw) (limit : Nat) :
    other.sample draw benchmarkType limit = store.sample draw benchmarkType limit := by
  rw [sample, sample, groups_of_alike h]

/-! ## The results -/

/-- Groups have results only if their averages are numbers. -/
theorem resultsOf_eq_some (h : resultsOf groups = some results) :
    results = groups.map Group.result := by
  induction groups generalizing results with
  | nil =>
      cases h
      rfl
  | cons g rest ih =>
      -- one average that is no number fails the whole sample
      unfold resultsOf at h
      split at h
      · next first more hfirst hmore =>
        cases h
        have hg : first = g.result := by
          rw [g.result?_eq_ite] at hfirst
          split at hfirst
          · cases hfirst
          · exact (Option.some.inj hfirst).symm
        rw [hg, ih hmore, List.map_cons]
      · cases h

/-- A sample is drawn from the groups, and holds as many results as the limit allows. -/
theorem sample_eq_ok (h : store.sample draw benchmarkType limit = .ok results) :
    results = ((draw.order (store.groups benchmarkType)).take limit).map Group.result := by
  unfold sample at h
  split at h
  · next found hfound =>
    cases h
    exact resultsOf_eq_some hfound
  · cases h

/-- A sample is drawn if every average is a number. -/
theorem sample_isOk (h : ∀ key ∈ store.groupKeys benchmarkType, (average
    ((store.members benchmarkType key).map fun row => row.result)).isNaN = false)
    (draw : Draw) (limit : Nat) :
    ∃ results, store.sample draw benchmarkType limit = .ok results := by
  have hpart := partitions_groups store benchmarkType
  have hdefined : ∀ g ∈ (draw.order (store.groups benchmarkType)).take limit,
      g.average.isNaN = false := by
    intro g hg
    have hmem : g ∈ store.groups benchmarkType :=
      (draw.order_perm _).mem_iff.mp (List.mem_of_mem_take hg)
    have hkey : g.key ∈ store.groupKeys benchmarkType := by
      rw [← hpart.keys]
      exact List.mem_toFinset.mpr (List.mem_map_of_mem hmem)
    rw [Group.average, hpart.rows g hmem]
    exact h g.key hkey
  exact ⟨_, by rw [sample, resultsOf_eq hdefined]⟩

end Store

/-- The results of some of the groups that share out the rows of a type. -/
theorem samples_map_result (h : Partitions store benchmarkType groups) {chosen : List Group}
    (hperm : chosen.Perm groups) (limit : Nat) :
    Samples store benchmarkType limit ((chosen.take limit).map Group.result) := by
  have hmem : ∀ {g}, g ∈ chosen.take limit → g ∈ groups := fun hg =>
    hperm.mem_iff.mp (List.mem_of_mem_take hg)
  have hkey : ∀ g ∈ groups, g.result.key = g.key := by
    intro g hg
    have hfirst := (Store.first_mem_members h hg).2
    rw [← hfirst]
    rfl
  have hkeys : ((chosen.take limit).map Group.result).map GroupedResult.key =
      (chosen.take limit).map Group.key := by
    rw [List.map_map]
    exact List.map_congr_left fun g hg => hkey g (hmem hg)
  have hcard : chosen.length = (store.groupKeys benchmarkType).card := by
    rw [← h.keys, List.toFinset_card_of_nodup h.distinct, List.length_map, hperm.length_eq]
  refine ⟨?_, ?_, ?_, ?_, ?_, ?_⟩
  · rw [List.length_map, List.length_take, hcard]
  · rw [hkeys]
    have hnodup : (chosen.map Group.key).Nodup := (hperm.map _).nodup_iff.mpr h.distinct
    exact ((List.take_sublist _ _).map _).nodup hnodup
  · intro r hr
    obtain ⟨g, hg, rfl⟩ := List.mem_map.mp hr
    rw [hkey g (hmem hg), ← h.keys]
    exact List.mem_toFinset.mpr (List.mem_map_of_mem (hmem hg))
  · intro r hr
    obtain ⟨g, hg, rfl⟩ := List.mem_map.mp hr
    rw [hkey g (hmem hg), ← h.rows g (hmem hg)]
    rfl
  · intro r hr
    obtain ⟨g, hg, rfl⟩ := List.mem_map.mp hr
    rw [hkey g (hmem hg)]
    exact ⟨g.first, (Store.first_mem_members h (hmem hg)).1, rfl, rfl⟩
  · intro hroom key hin
    rw [← h.keys] at hin
    obtain ⟨g, hg, rfl⟩ := List.mem_map.mp (List.mem_toFinset.mp hin)
    have hall : chosen.take limit = chosen := List.take_of_length_le (hcard ▸ hroom)
    refine ⟨g.result, List.mem_map_of_mem ?_, hkey g hg⟩
    rw [hall]
    exact hperm.mem_iff.mpr hg

/-- Samples in terms of the whole list of rows: whatever is drawn, a sample holds the averages of as
many keys as the limit allows, and it fails only where an average is no number; the groups behind it
share out the rows that count for the type; and rows that do not count make no difference, wherever
they are added or removed. -/
theorem sample_readsWholeStore (store : Store) (benchmarkType : String) :
    (∀ draw limit results, store.sample draw benchmarkType limit = .ok results →
        Samples store benchmarkType limit results) ∧
      ((∀ key ∈ store.groupKeys benchmarkType, (Store.average
          ((store.members benchmarkType key).map fun row => row.result)).isNaN = false) →
        ∀ draw limit, ∃ results, store.sample draw benchmarkType limit = .ok results) ∧
      Partitions store benchmarkType (store.groups benchmarkType) ∧
      ∀ other : Store, AlikeFor benchmarkType store.rows other.rows →
        other.groups benchmarkType = store.groups benchmarkType ∧
          ∀ draw limit, other.sample draw benchmarkType limit =
            store.sample draw benchmarkType limit := by
  have hpart := Store.partitions_groups store benchmarkType
  refine ⟨?_, fun hdefined draw limit => Store.sample_isOk hdefined draw limit, hpart, ?_⟩
  · intro draw limit results h
    rw [Store.sample_eq_ok h]
    exact samples_map_result hpart (draw.order_perm _) limit
  · intro other halike
    exact ⟨Store.groups_of_alike halike, Store.sample_of_alike halike⟩

/-- A row with little in it. -/
def plainRow (id : Nat) (benchmarkType machineId : String) (result : Float) (legacy : Bool) : Row :=
  { Measurement.zero with
    machineId := machineId
    result := result
    legacy := legacy
    id := id
    benchmarkType := benchmarkType
    cpuText := ""
    submittedAt := .epoch }

/-- Two machines with one type of results, a row of another type and a legacy row among them. -/
def twoMachines : Store where
  rows := [plainRow 1 "t" "a;" 1 false, plainRow 2 "u" "a;" 2 false, plainRow 3 "t" "b;" 8 true,
    plainRow 4 "t" "b;" 4 false, plainRow 5 "t" "a;" 3 false]
  artifacts := TextMap.empty

/-- A sample of one of the two machines. -/
theorem sample_readsWholeStore_twoMachines : ∃ results,
    twoMachines.sample [1] "t" 1 = .ok results ∧ Samples twoMachines "t" 1 results := by
  have hok : (twoMachines.sample [1] "t" 1).isOk = true := by decide +kernel
  cases hsample : twoMachines.sample [1] "t" 1 with
  | error cause =>
      rw [hsample] at hok
      cases hok
  | ok results =>
      exact ⟨results, rfl, (sample_readsWholeStore twoMachines "t").1 [1] 1 results hsample⟩

end BenchDepot
