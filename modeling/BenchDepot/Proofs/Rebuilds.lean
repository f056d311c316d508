import BenchDepot.Proofs.Records
import Mathlib.Data.ENat.Basic
import Mathlib.Data.Set.Card

/-!
# Rebuilds in which some queries fail

A rebuild asks for the types and then for a sample of each.  A sample that fails costs the aggregate
its type and nothing else: the other types have the rows of their own samples, as if nothing had
failed.  Only the answer for the types is needed by all.  How long the queries take together decides
whether there is an aggregate at all, and nothing about what is in it.

Here the queries are arbitrary ones that answer from a store, except for a set of types; each takes
its own time, or never ends.

* `addAll_of_inTime`, `addAll_of_late` — the samples all come in time if their durations together are,
  and otherwise they do not;
* `skipped_addAll` — what failed is counted, one for each type;
* `run_of_inTime`, `run_of_late` — how a run ends;
* `isolates_rebuild` — what a build and a rebuild come to.
-/

namespace BenchDepot

/-- How long a query takes: forever, if it is never answered. -/
def Timed.span {α : Type} (query : Timed α) : ℕ∞ :=
  match query.takes with
  | some n => n
  | none => ⊤

/-- How long the samples of some types take, one after the other. -/
def Queries.samplesSpan (sample : String → Timed (Except StoreError (List GroupedResult)))
    (types : List String) : ℕ∞ :=
  (types.map fun name => (sample name).span).sum

/-- How long all queries of a build take, one after the other: the samples are those of the types
that are listed. -/
def Queries.span (queries : Queries) : ℕ∞ :=
  queries.types.span +
    match queries.types.answer with
    | .ok types => samplesSpan queries.sample types
    | .error _ => 0

/-- Whether a time ends, and is within a limit if there is one. -/
def InTime (limit : Option Nat) (span : ℕ∞) : Prop :=
  span ≠ ⊤ ∧ ∀ most, limit = some most → span ≤ most

namespace Service

/-- Queries that answer from the store of a service, except that the types may fail to be listed
and that the samples of some types fail, for whatever reason. -/
structure AnswersAllBut (s : Service) (failing : Set String) (queries : Queries) : Prop where
  types : queries.types.answer = .ok s.store.types ∨
    ∃ cause, queries.types.answer = .error cause
  failed : ∀ name ∈ failing, ∃ cause, (queries.sample name).answer = .error cause
  answered : ∀ name ∉ failing, ∃ results, (queries.sample name).answer = .ok results ∧
    s.store.sample (s.drawFor name) name s.settings.refresh.sampleLimit.toNat = .ok results

/-- The types whose sample fails at present. -/
def failingTypes (s : Service) : Set String :=
  {name | (s.sampleAnswer name s.settings.refresh.sampleLimit.toNat).isOk = false}

/-- The types of the rows in the store. -/
def storedTypes (s : Service) : Set String :=
  {name | ∃ row ∈ s.store.rows, row.benchmarkType = name}

end Service

/-- An aggregate of a service without some types. -/
structure KeepsAllBut (s : Service) (failing : Set String) (queries : Queries)
    (aggregate : Aggregate) : Prop where
  keys : ∀ name, name ∈ aggregate.keys ↔ name ∈ s.storedTypes ∧ name ∉ failing
  /-- The rows of a type are those of its own sample. -/
  rows : ∀ name ∈ aggregate.keys, ∃ results, (queries.sample name).answer = .ok results ∧
    aggregate.get? name = some (Build.entries results)
  /-- A type that only has legacy rows has no rows, and is there. -/
  legacy : ∀ name ∈ s.storedTypes, name ∉ failing →
    (∀ row ∈ s.store.rows, row.benchmarkType = name → row.legacy = true) →
      aggregate.get? name = some []
  /-- Every type that is left out is counted. -/
  skipped : (s.built queries.build).2.counters.skippedTypes =
    s.counters.skippedTypes + (s.storedTypes ∩ failing).ncard
  /-- What else fails makes no difference to the rows of a type, nor does the time that it takes. -/
  alike : ∀ failing' queries' aggregate', s.AnswersAllBut failing' queries' →
    (s.built queries'.build).1 = .ok aggregate' → ∀ name, name ∉ failing → name ∉ failing' →
      aggregate'.get? name = aggregate.get? name

/-- What a build and a rebuild come to when the samples of some types fail. -/
structure Isolates (s : Service) (failing : Set String) (queries : Queries) : Prop where
  /-- A build whose queries are all answered fails exactly if the types cannot be listed, and then
  for that reason. -/
  build : queries.span ≠ ⊤ → ∀ error, (s.built queries.build).1 = .error error ↔
    ∃ cause, queries.types.answer = .error cause ∧ error = .query cause
  kept : queries.span ≠ ⊤ → ∀ aggregate, (s.built queries.build).1 = .ok aggregate →
    KeepsAllBut s failing queries aggregate
  /-- A rebuild is out of time exactly if the queries take longer than its limit. -/
  timeout : ∀ seconds n, (s.built (queries.rebuild seconds)).1 = .error (.timeout n) ↔
    ↑(seconds * nanosPerSecond) < queries.span ∧ n = seconds
  /-- Then it has no content, whatever was built. -/
  late : ∀ seconds, ↑(seconds * nanosPerSecond) < queries.span →
    Service.rebuiltContent (s.built (queries.rebuild seconds)).1 =
      .error (.rebuild (.timeout seconds))
  /-- Otherwise it is the build. -/
  inTime : ∀ seconds, queries.span ≤ ↑(seconds * nanosPerSecond) →
    s.built (queries.rebuild seconds) = s.built queries.build

/-! ## Times -/

namespace Timed

variable {α : Type} {query : Timed α} {n : Nat}

theorem span_of_takes (h : query.takes = some n) : query.span = n := by
  rw [span, h]

/-- A query that ends takes some time. -/
theorem takes_of_span (h : query.span ≠ ⊤) : ∃ n, query.takes = some n := by
  cases htakes : query.takes with
  | none => exact absurd (by rw [span, htakes]) h
  | some n => exact ⟨n, rfl⟩

end Timed

/-- A part of a time that ends in time does so too. -/
theorem InTime.of_le {limit : Option Nat} {part whole : ℕ∞} (h : InTime limit whole)
    (hle : part ≤ whole) : InTime limit part :=
  ⟨ne_top_of_le_ne_top h.1 hle, fun most hmost => hle.trans (h.2 most hmost)⟩

theorem Queries.samplesSpan_cons (sample : String → Timed (Except StoreError (List GroupedResult)))
    (name : String) (rest : List String) : samplesSpan sample (name :: rest) =
      (sample name).span + samplesSpan sample rest := by
  rw [samplesSpan, List.map_cons, List.sum_cons, samplesSpan]

/-! ## One query after the other -/

namespace Build

open Queries (samplesSpan samplesSpan_cons)

variable {build whole : Build} {limit : Option Nat} {most : Nat} {types : List String}
  {sample : String → Timed (Except StoreError (List GroupedResult))}

/-- A build some nanoseconds later. -/
def later (build : Build) (n : Nat) : Build :=
  { build with elapsed := build.elapsed + n }

/-- Without a limit a build waits for every query that ends. -/
theorem wait_none {α : Type} {query : Timed α} {n : Nat} (build : Build)
    (h : query.takes = some n) : build.wait none query.takes = (build.later n, true) := by
  rw [h]
  rfl

/-- A build waits for a query that is answered in time. -/
theorem wait_of_inTime {α : Type} {query : Timed α}
    (h : InTime limit (build.elapsed + query.span)) : ∃ n, query.takes = some n ∧
      build.wait limit query.takes = (build.later n, true) := by
  obtain ⟨n, htakes⟩ := Timed.takes_of_span (ne_top_of_le_ne_top h.1 le_add_self)
  refine ⟨n, htakes, ?_⟩
  rw [Timed.span_of_takes htakes] at h
  rw [htakes]
  cases limit with
  | none => rfl
  | some most =>
      have hle : build.elapsed + n ≤ most := by exact_mod_cast h.2 most rfl
      simp only [wait, if_neg (Nat.not_lt.mpr hle), later]

/-- A query that is not answered in time ends the build. -/
theorem wait_of_late {α : Type} {query : Timed α} (h : ↑most < build.elapsed + query.span) :
    (build.wait (some most) query.takes).2 = false := by
  cases htakes : query.takes with
  | none => rfl
  | some n =>
      rw [Timed.span_of_takes htakes] at h
      have hlt : most < build.elapsed + n := by exact_mod_cast h
      simp only [wait, if_pos hlt]

theorem elapsed_add_later (build : Build) (n : Nat) (name : String)
    (answer : Except StoreError (List GroupedResult)) :
    ((build.later n).add name answer).elapsed = build.elapsed + n := by
  cases answer <;> rfl

theorem skipped_add (build : Build) (name : String)
    (answer : Except StoreError (List GroupedResult)) :
    (build.add name answer).skipped = build.skipped + if answer.isOk then 0 else 1 := by
  cases answer <;> rfl

/-- Samples that are all answered in time are added as they would be without a limit. -/
theorem addAll_of_inTime (h : InTime limit (build.elapsed + samplesSpan sample types)) :
    ∃ whole, build.addAll limit sample types = (whole, true) ∧
      build.addAll none sample types = (whole, true) := by
  induction types generalizing build with
  | nil => exact ⟨build, rfl, rfl⟩
  | cons name rest ih =>
      rw [samplesSpan_cons, ← add_assoc] at h
      obtain ⟨n, htakes, hwait⟩ := wait_of_inTime (h.of_le le_self_add)
      have hrest : InTime limit
          (((build.later n).add name (sample name).answer).elapsed + samplesSpan sample rest) := by
        rw [elapsed_add_later]
        rw [Timed.span_of_takes htakes] at h
        exact_mod_cast h
      obtain ⟨whole, hwhole, hsame⟩ := ih hrest
      refine ⟨whole, ?_, ?_⟩
      · simp only [addAll, hwait, hwhole]
      · simp only [addAll, wait_none build htakes, hsame]

/-- Samples that are not all answered in time end the build. -/
theorem addAll_of_late (hstart : build.elapsed ≤ most)
    (h : ↑most < build.elapsed + samplesSpan sample types) :
    (build.addAll (some most) sample types).2 = false := by
  induction types generalizing build with
  | nil =>
      simp only [samplesSpan, List.map_nil, List.sum_nil, add_zero] at h
      have hlt : most < build.elapsed := by exact_mod_cast h
      omega
  | cons name rest ih =>
      rw [samplesSpan_cons, ← add_assoc] at h
      by_cases hlate : ↑most < build.elapsed + (sample name).span
      · have hwait := wait_of_late hlate
        simp only [addAll]
        split
        · rfl
        · next hnext =>
          rw [hnext] at hwait
          cases hwait
      · have hle := not_lt.mp hlate
        have hfirst : InTime (some most) (build.elapsed + (sample name).span) :=
          ⟨ne_top_of_le_ne_top (ENat.natCast_ne_top most) hle, fun m hm => by cases hm; exact hle⟩
        obtain ⟨n, htakes, hwait⟩ := wait_of_inTime hfirst
        rw [Timed.span_of_takes htakes] at h hle
        simp only [addAll, hwait]
        refine ih ?_ ?_
        · rw [elapsed_add_later]
          exact_mod_cast hle
        · rw [elapsed_add_later]
          exact_mod_cast h

/-- A build that came to its end has counted the samples that failed. -/
theorem skipped_addAll (h : build.addAll limit sample types = (whole, true)) :
    whole.skipped = build.skipped + types.countP fun name => !(sample name).answer.isOk := by
  induction types generalizing build with
  | nil =>
      cases h
      rfl
  | cons name rest ih =>
      have hwait : (build.wait limit (sample name).takes).1.skipped = build.skipped := by
        unfold wait
        split
        · split <;> rfl
        all_goals rfl
      simp only [addAll] at h
      split at h
      · cases h
      · next next hnext =>
        rw [hnext] at hwait
        rw [ih h, skipped_add, hwait, List.countP_cons]
        cases (sample name).answer.isOk with
        | true => simp
        | false =>
            simp
            omega

end Build

namespace Queries

variable {queries : Queries} {limit : Option Nat} {seconds most : Nat}

/-- Queries that are answered in time come to the build that they come to without a limit. -/
theorem run_of_inTime (h : InTime limit queries.span) (seconds : Nat) :
    queries.run limit seconds = queries.build := by
  have hfirst : InTime limit (Build.start.elapsed + queries.types.span) := by
    refine h.of_le ?_
    simp [Build.start, span]
  obtain ⟨n, htakes, hwait⟩ := Build.wait_of_inTime hfirst
  unfold build run
  rw [hwait, Build.wait_none _ htakes]
  dsimp only
  cases htypes : queries.types.answer with
  | error cause => rfl
  | ok types =>
      have hrest : InTime limit
          ((Build.start.later n).elapsed + samplesSpan queries.sample types) := by
        rw [span, htypes, Timed.span_of_takes htakes] at h
        simpa [Build.later, Build.start] using h
      obtain ⟨whole, hwhole, hsame⟩ := Build.addAll_of_inTime hrest
      dsimp only
      rw [hwhole, hsame]

/-- Queries that are not answered in time come to nothing. -/
theorem run_of_late (h : ↑most < queries.span) (seconds : Nat) :
    (queries.run (some most) seconds).outcome = .error (.timeout seconds) := by
  by_cases hfirst : ↑most < queries.types.span
  · have hwait : (Build.start.wait (some most) queries.types.takes).2 = false :=
      Build.wait_of_late (by simpa [Build.start] using hfirst)
    unfold run
    split
    · rfl
    · next hnext =>
      rw [hnext] at hwait
      cases hwait
  · have hle := not_lt.mp hfirst
    obtain ⟨n, htakes⟩ :=
      Timed.takes_of_span (ne_top_of_le_ne_top (ENat.natCast_ne_top most) hle)
    rw [Timed.span_of_takes htakes] at hle
    have hn : n ≤ most := by exact_mod_cast hle
    have hwait : Build.start.wait (some most) queries.types.takes = (Build.start.later n, true) := by
      rw [htakes]
      simp [Build.wait, Build.start, Build.later, hn]
    rw [span, Timed.span_of_takes htakes] at h
    unfold run
    rw [hwait]
    dsimp only
    cases htypes : queries.types.answer with
    | error cause =>
        rw [htypes] at h
        dsimp only at h
        rw [add_zero] at h
        have hlt : most < n := by exact_mod_cast h
        omega
    | ok types =>
        rw [htypes] at h
        have hlate : ((Build.start.later n).addAll (some most) queries.sample types).2 = false := by
          apply Build.addAll_of_late
          · simpa [Build.later, Build.start] using hn
          · simpa [Build.later, Build.start] using h
        dsimp only
        split
        · rfl
        · next hnext =>
          rw [hnext] at hlate
          cases hlate

/-- A build that cannot list the types fails for that reason. -/
theorem build_of_error {cause : StoreError} (h : queries.span ≠ ⊤)
    (htypes : queries.types.answer = .error cause) :
    queries.build.outcome = .error (.query cause) := by
  obtain ⟨n, htakes⟩ := Timed.takes_of_span (ne_top_of_le_ne_top h le_self_add)
  simp only [build, run, htakes, Build.wait, htypes]

/-- A build that can list the types ends with the aggregate to which all samples were added. -/
theorem build_of_ok {types : List String} (h : queries.span ≠ ⊤)
    (htypes : queries.types.answer = .ok types) :
    ∃ aggregate, queries.build.outcome = .ok aggregate ∧ queries.build.skipped =
      types.countP fun name => !(queries.sample name).answer.isOk := by
  obtain ⟨n, htakes⟩ := Timed.takes_of_span (ne_top_of_le_ne_top h le_self_add)
  have hrest : InTime none ((Build.start.later n).elapsed + samplesSpan queries.sample types) := by
    rw [span, htypes, Timed.span_of_takes htakes] at h
    exact ⟨by simpa [Build.later, Build.start] using h, nofun⟩
  obtain ⟨whole, hwhole, _⟩ := Build.addAll_of_inTime hrest
  have hskipped := Build.skipped_addAll hwhole
  have hbuild : queries.build = ⟨.ok whole.aggregate, whole.skipped, whole.elapsed⟩ := by
    unfold build run
    rw [Build.wait_none _ htakes, htypes]
    dsimp only
    rw [hwhole]
  rw [hbuild]
  exact ⟨_, rfl, by simpa [Build.later, Build.start] using hskipped⟩

end Queries

/-! ## A store that answers for all but some types -/

namespace Service

variable {s : Service} {failing : Set String} {queries : Queries} {aggregate : Aggregate}
  {name : String}

theorem mem_storedTypes : name ∈ s.storedTypes ↔ name ∈ s.store.types := by
  rw [Store.mem_types_iff, List.mem_map]
  rfl

/-- The samples that fail are those of the failing types. -/
theorem AnswersAllBut.isOk_iff (h : s.AnswersAllBut failing queries) (name : String) :
    (queries.sample name).answer.isOk = false ↔ name ∈ failing := by
  by_cases hname : name ∈ failing
  · obtain ⟨cause, hcause⟩ := h.failed name hname
    rw [hcause]
    exact ⟨fun _ => hname, fun _ => rfl⟩
  · obtain ⟨results, hresults, _⟩ := h.answered name hname
    rw [hresults]
    exact ⟨nofun, fun hmem => absurd hmem hname⟩

/-- A sample of a type that has legacy rows only is empty. -/
theorem sample_of_legacy (h : ∀ row ∈ s.store.rows, row.benchmarkType = name → row.legacy = true)
    (draw : Draw) (limit : Nat) : s.store.sample draw name limit = .ok [] := by
  have hcurrent : s.store.currentRows name = [] := by
    rw [Store.currentRows, List.filter_eq_nil_iff]
    intro row hrow
    obtain ⟨hmem, htype⟩ := List.mem_filter.mp hrow
    simp [h row hmem (by simpa using htype)]
  have hgroups : s.store.groups name = [] := by
    rw [Store.groups, hcurrent]
    rfl
  rw [Store.sample, hgroups]
  cases draw <;> simp [Draw.order, Store.resultsOf]

/-- What a build of queries that answer for all but some types has at a name. -/
theorem AnswersAllBut.get? (h : s.AnswersAllBut failing queries)
    (hbuilt : queries.build.outcome = .ok aggregate) (name : String) :
    aggregate.get? name = if name ∈ s.store.types then
      (queries.sample name).answer.toOption.map Build.entries else none := by
  obtain ⟨types, htypes, hget⟩ := Queries.get?_of_outcome hbuilt
  rcases h.types with hlisted | ⟨cause, hcause⟩
  · rw [hlisted] at htypes
    cases htypes
    exact hget name
  · rw [hcause] at htypes
    cases htypes

/-- As many types are left out as are stored and fail. -/
theorem AnswersAllBut.countP (h : s.AnswersAllBut failing queries) :
    (s.store.types.countP fun name => !(queries.sample name).answer.isOk) =
      (s.storedTypes ∩ failing).ncard := by
  have hnodup : s.store.types.Nodup := (TextMap.keys_pairwise _).imp TextMap.ne_of_lt
  have hset : s.storedTypes ∩ failing =
      ↑(s.store.types.filter fun name => !(queries.sample name).answer.isOk).toFinset := by
    ext name
    rw [Set.mem_inter_iff, mem_storedTypes, ← h.isOk_iff]
    simp
  rw [hset, Set.ncard_coe_finset, List.toFinset_card_of_nodup (hnodup.filter _),
    List.countP_eq_length_filter]

/-- The aggregate of queries that answer for all but some types has all but these. -/
theorem AnswersAllBut.keepsAllBut (h : s.AnswersAllBut failing queries) (hends : queries.span ≠ ⊤)
    (hbuilt : queries.build.outcome = .ok aggregate) :
    KeepsAllBut s failing queries aggregate := by
  have hget := h.get? hbuilt
  have hkept : ∀ name ∈ s.storedTypes, name ∉ failing → ∃ results,
      (queries.sample name).answer = .ok results ∧
        s.store.sample (s.drawFor name) name s.settings.refresh.sampleLimit.toNat = .ok results ∧
          aggregate.get? name = some (Build.entries results) := by
    intro name hstored hname
    obtain ⟨results, hanswer, hsample⟩ := h.answered name hname
    refine ⟨results, hanswer, hsample, ?_⟩
    rw [hget, if_pos (mem_storedTypes.mp hstored), hanswer]
    rfl
  have hkeys : ∀ name, name ∈ aggregate.keys ↔ name ∈ s.storedTypes ∧ name ∉ failing := by
    intro name
    rw [TextMap.mem_keys_iff]
    constructor
    · rintro ⟨entries, hentries⟩
      rw [hget] at hentries
      split at hentries
      · next hstored =>
        refine ⟨mem_storedTypes.mpr hstored, fun hname => ?_⟩
        obtain ⟨cause, hcause⟩ := h.failed name hname
        rw [hcause] at hentries
        cases hentries
      · cases hentries
    · rintro ⟨hstored, hname⟩
      obtain ⟨results, _, _, hentries⟩ := hkept name hstored hname
      exact ⟨_, hentries⟩
  refine ⟨hkeys, ?_, ?_, ?_, ?_⟩
  · intro name hname
    obtain ⟨hstored, hfailing⟩ := (hkeys name).mp hname
    obtain ⟨results, hanswer, _, hentries⟩ := hkept name hstored hfailing
    exact ⟨results, hanswer, hentries⟩
  · intro name hstored hfailing hlegacy
    obtain ⟨results, _, hsample, hentries⟩ := hkept name hstored hfailing
    rw [sample_of_legacy hlegacy] at hsample
    cases hsample
    exact hentries
  · have hlisted : queries.types.answer = .ok s.store.types := by
      rcases h.types with hlisted | ⟨cause, hcause⟩
      · exact hlisted
      · rw [Queries.build_of_error hends hcause] at hbuilt
        cases hbuilt
    obtain ⟨_, _, hskipped⟩ := Queries.build_of_ok hends hlisted
    rw [← h.countP, ← hskipped]
    rfl
  · intro failing' queries' aggregate' h' hbuilt' name hname hname'
    obtain ⟨results, hanswer, hsample⟩ := h.answered name hname
    obtain ⟨results', hanswer', hsample'⟩ := h'.answered name hname'
    have hsame : results' = results := Except.ok.inj (hsample'.symm.trans hsample)
    rw [hget, h'.get? hbuilt', hanswer, hanswer', hsame]

/-- Whatever the samples of some types fail with and however long the queries take, builds and
rebuilds lose these types only. -/
theorem AnswersAllBut.isolates (h : s.AnswersAllBut failing queries) :
    Isolates s failing queries := by
  have hbuild : queries.span ≠ ⊤ → ∀ error, (s.built queries.build).1 = .error error ↔
      ∃ cause, queries.types.answer = .error cause ∧ error = .query cause := by
    intro hends error
    rw [outcome_built]
    rcases h.types with hlisted | ⟨cause, hcause⟩
    · obtain ⟨aggregate, hok, _⟩ := Queries.build_of_ok hends hlisted
      rw [hok, hlisted]
      exact ⟨nofun, fun ⟨_, hnone, _⟩ => nomatch hnone⟩
    · rw [Queries.build_of_error hends hcause, hcause]
      constructor
      · rintro ⟨⟩
        exact ⟨cause, rfl, rfl⟩
      · rintro ⟨_, ⟨⟩, rfl⟩
        rfl
  have hlate : ∀ seconds : Nat, ↑(seconds * nanosPerSecond) < queries.span →
      (s.built (queries.rebuild seconds)).1 = .error (.timeout seconds) :=
    fun seconds hlt => Queries.run_of_late hlt seconds
  have hinTime : ∀ seconds : Nat, queries.span ≤ ↑(seconds * nanosPerSecond) →
      queries.span ≠ ⊤ ∧ s.built (queries.rebuild seconds) = s.built queries.build := by
    intro seconds hle
    have hends := ne_top_of_le_ne_top (ENat.natCast_ne_top _) hle
    have htime : InTime (some (seconds * nanosPerSecond)) queries.span :=
      ⟨hends, fun most hmost => by cases hmost; exact hle⟩
    exact ⟨hends, by rw [Queries.rebuild, Queries.run_of_inTime htime]⟩
  refine ⟨hbuild, fun hends _ hbuilt => h.keepsAllBut hends hbuilt, ?_, ?_, fun seconds hle =>
    (hinTime seconds hle).2⟩
  · intro seconds n
    constructor
    · intro htimeout
      by_cases hlt : ↑(seconds * nanosPerSecond) < queries.span
      · rw [hlate seconds hlt] at htimeout
        cases htimeout
        exact ⟨hlt, rfl⟩
      · obtain ⟨hends, hsame⟩ := hinTime seconds (not_lt.mp hlt)
        rw [hsame] at htimeout
        obtain ⟨cause, _, hcause⟩ := (hbuild hends _).mp htimeout
        cases hcause
    · rintro ⟨hlt, rfl⟩
      exact hlate n hlt
  · intro seconds hlt
    rw [hlate seconds hlt]
    rfl

/-- The queries of a service answer for all types but those whose sample fails. -/
theorem answersAllBut_queries (s : Service) : s.AnswersAllBut s.failingTypes s.queries := by
  refine ⟨?_, fun name hname => ?_, fun name hname => ?_⟩
  · show s.typesAnswer = _ ∨ ∃ cause, s.typesAnswer = _
    unfold typesAnswer
    split
    · exact Or.inr ⟨_, rfl⟩
    · exact Or.inl rfl
  · show ∃ cause, s.sampleAnswer name _ = _
    cases hanswer : s.sampleAnswer name s.settings.refresh.sampleLimit.toNat with
    | error cause => exact ⟨cause, rfl⟩
    | ok results => simp [failingTypes, hanswer, Except.isOk, Except.toBool] at hname
  · show ∃ results, s.sampleAnswer name _ = _ ∧ _
    cases hanswer : s.sampleAnswer name s.settings.refresh.sampleLimit.toNat with
    | error cause => simp [failingTypes, hanswer, Except.isOk, Except.toBool] at hname
    | ok results => exact ⟨results, rfl, sample_of_sampleAnswer hanswer⟩

end Service

/-- A build and a rebuild of any store lose the types whose samples fail, and nothing else: with
the queries as the service asks them, and with any others that answer from its store for all but
some types, each in its own time. -/
theorem isolates_rebuild (s : Service) : Isolates s s.failingTypes s.queries ∧
    ∀ failing queries, s.AnswersAllBut failing queries → Isolates s failing queries :=
  ⟨s.answersAllBut_queries.isolates, fun _ _ h => h.isolates⟩

/-- A type whose sample fails, one that has a legacy row only, and one between them. -/
def oneFailingType : Service :=
  { Service.fresh {} .epoch with
    store :=
      { rows := [plainRow 1 "t" "a;" 1 false, plainRow 2 "u" "a;" 2 false,
          plainRow 3 "v" "a;" 8 true]
        artifacts := TextMap.empty }
    faults := { sample := ["t"] } }

/-- Its queries are all answered, within three nanoseconds. -/
theorem span_oneFailingType : oneFailingType.queries.span = 3 := by
  have htypes : oneFailingType.queries.types.answer = .ok ["t", "u", "v"] := by decide
  rw [Queries.span, htypes]
  rfl

/-- The type is lost and counted, and the others are there. -/
theorem isolates_rebuild_oneFailingType :
    "t" ∈ oneFailingType.failingTypes ∧ "u" ∉ oneFailingType.failingTypes ∧
      "v" ∉ oneFailingType.failingTypes ∧
      oneFailingType.AnswersAllBut oneFailingType.failingTypes oneFailingType.queries ∧
      ∃ aggregate, oneFailingType.build.1 = .ok aggregate ∧
        KeepsAllBut oneFailingType oneFailingType.failingTypes oneFailingType.queries aggregate ∧
          oneFailingType.rebuild = oneFailingType.build := by
  have hanswers := oneFailingType.answersAllBut_queries
  have hisolates := (isolates_rebuild oneFailingType).2 _ _ hanswers
  have hends : oneFailingType.queries.span ≠ ⊤ := by
    rw [span_oneFailingType]
    exact ENat.natCast_ne_top 3
  have hsoon : oneFailingType.queries.span ≤
      ↑(oneFailingType.settings.refresh.rebuildTimeout.toNat * nanosPerSecond) := by
    rw [span_oneFailingType]
    exact_mod_cast (by decide : 3 ≤
      oneFailingType.settings.refresh.rebuildTimeout.toNat * nanosPerSecond)
  refine ⟨?_, ?_, ?_, hanswers, ?_⟩
  · show (oneFailingType.sampleAnswer "t" _).isOk = false
    decide
  · show ¬(oneFailingType.sampleAnswer "u" _).isOk = false
    decide +kernel
  · show ¬(oneFailingType.sampleAnswer "v" _).isOk = false
    decide
  · have hok : oneFailingType.build.1.isOk = true := by decide
    cases hbuilt : oneFailingType.build.1 with
    | error cause =>
        rw [hbuilt] at hok
        cases hok
    | ok aggregate =>
        exact ⟨aggregate, rfl, hisolates.kept hends aggregate hbuilt, hisolates.inTime _ hsoon⟩

end BenchDepot
