import BenchDepot.Proofs.Uploads

/-!
# Validation

A submission for a type must keep eight rules, which are tried in a fixed order; the first that it
breaks is its error.  The rules are stated here one by one, over integers, and apart from the order
they are tried in.  A submission breaks none of them exactly if it is as it is specified.

An upload is validated type by type, in the order of the bytes.  The first type whose submission is
not valid decides, whatever comes behind it.

* `Submission.specified_iff` — what is specified breaks no rule;
* `Submission.violation?_eq_find?` — what is looked for is the first rule that is broken;
* `Upload.validate_eq_ok_iff`, `Upload.validate_eq_error_iff` — the two ways of an upload;
* `validates_specified` — every submission and every upload.
-/

namespace BenchDepot

/-- Looking for the first member with a property begins with the head. -/
theorem find?_decide_cons {α : Type} {P : α → Prop} [DecidablePred P] (x : α) (xs : List α) :
    (x :: xs).find? (fun y => decide (P y)) =
      if P x then some x else xs.find? fun y => decide (P y) := by
  by_cases h : P x <;> simp [h]

namespace Submission

/-! ## The rules -/

/-- The rules for a submission, in the order they are tried in. -/
def rules : List SubmissionError :=
  [.emptyType, .badMachineId, .legacyUpload, .badPointerBits, .badTopology, .lowMemory,
    .lowPhysicalMemory, .badResult]

/-- A submission for a type breaks a rule. -/
def Breaks (s : Submission) (benchmarkType : String) : SubmissionError → Prop
  | .emptyType => ∀ c ∈ benchmarkType.toList, Text.isBlank c = true
  | .badMachineId => ';' ∉ s.machineId.toList
  | .legacyUpload => s.legacy = true
  | .badPointerBits => s.pointerBits.toInt ≠ 32 ∧ s.pointerBits.toInt ≠ 64
  | .badTopology => s.topology.cpus.toInt < 1 ∨ s.topology.cores.toInt < 1 ∨
      s.topology.threads.toInt < 1 ∨ s.topology.numaNodes.toInt < 0
  | .lowMemory => s.memoryInKiB.toInt < 4096
  | .lowPhysicalMemory => s.physicalMemoryInMiB.toInt ≠ 0 ∧ s.physicalMemoryInMiB.toInt < 4
  | .badResult => s.result.isNaN = true ∨ s.result < 0.0

instance (s : Submission) (benchmarkType : String) : DecidablePred (s.Breaks benchmarkType)
  | .emptyType => inferInstanceAs (Decidable (∀ c ∈ _, Text.isBlank c = true))
  | .badMachineId => inferInstanceAs (Decidable (¬ (';' ∈ _)))
  | .legacyUpload => inferInstanceAs (Decidable (_ = true))
  | .badPointerBits => inferInstanceAs (Decidable (¬_ = (32 : Int) ∧ ¬_ = (64 : Int)))
  | .badTopology => inferInstanceAs
      (Decidable (_ < (1 : Int) ∨ _ < (1 : Int) ∨ _ < (1 : Int) ∨ _ < (0 : Int)))
  | .lowMemory => inferInstanceAs (Decidable (_ < (4096 : Int)))
  | .lowPhysicalMemory => inferInstanceAs (Decidable (¬_ = (0 : Int) ∧ _ < (4 : Int)))
  | .badResult => inferInstanceAs (Decidable (_ = true ∨ _ < (0.0 : Float)))

/-- A submission breaks a rule for a type, and none of those before it. -/
def FirstBroken (s : Submission) (benchmarkType : String) (rule : SubmissionError) : Prop :=
  s.Breaks benchmarkType rule ∧ ∃ before after, rules = before ++ rule :: after ∧
    ∀ earlier ∈ before, ¬s.Breaks benchmarkType earlier

/-- What a submission for a type must be. -/
structure Specified (s : Submission) (benchmarkType : String) : Prop where
  benchmarkType : ∃ c ∈ benchmarkType.toList, Text.isBlank c = false
  machineId : ';' ∈ s.machineId.toList
  legacy : s.legacy = false
  pointerBits : s.pointerBits.toInt = 32 ∨ s.pointerBits.toInt = 64
  cpus : 1 ≤ s.topology.cpus.toInt
  cores : 1 ≤ s.topology.cores.toInt
  threads : 1 ≤ s.topology.threads.toInt
  numaNodes : 0 ≤ s.topology.numaNodes.toInt
  memory : 4096 ≤ s.memoryInKiB.toInt
  physicalMemory : s.physicalMemoryInMiB.toInt = 0 ∨ 4 ≤ s.physicalMemoryInMiB.toInt
  isNaN : s.result.isNaN = false
  result : ¬s.result < 0.0

variable {s : Submission} {benchmarkType : String} {rule : SubmissionError} {record : Record}

/-- A submission is as it must be exactly if it breaks no rule. -/
theorem specified_iff :
    s.Specified benchmarkType ↔ ∀ rule, ¬s.Breaks benchmarkType rule := by
  constructor
  · rintro h (_ | _ | _ | _ | _ | _ | _ | _) hbreaks
    · obtain ⟨c, hc, hnot⟩ := h.benchmarkType
      rw [hbreaks c hc] at hnot
      cases hnot
    · exact hbreaks h.machineId
    · exact Bool.noConfusion (h.legacy.symm.trans hbreaks)
    · exact h.pointerBits.elim hbreaks.1 hbreaks.2
    · have hcpus := h.cpus
      have hcores := h.cores
      have hthreads := h.threads
      have hnodes := h.numaNodes
      unfold Breaks at hbreaks
      omega
    · exact absurd h.memory (Int.not_le.mpr hbreaks)
    · exact h.physicalMemory.elim hbreaks.1 (Int.not_le.mpr hbreaks.2)
    · rcases hbreaks with hnan | hnegative
      · exact Bool.noConfusion (h.isNaN.symm.trans hnan)
      · exact h.result hnegative
  · intro h
    have htopology := h .badTopology
    have hphysical := h .lowPhysicalMemory
    have hbits := h .badPointerBits
    have hmemory := h .lowMemory
    unfold Breaks at htopology hphysical hbits hmemory
    exact {
      benchmarkType := by
        by_contra hall
        exact h .emptyType fun c hc => eq_true_of_ne_false fun hnot => hall ⟨c, hc, hnot⟩
      machineId := Decidable.not_not.mp (h .badMachineId)
      legacy := eq_false_of_ne_true (h .legacyUpload)
      pointerBits := by omega
      cpus := by omega
      cores := by omega
      threads := by omega
      numaNodes := by omega
      memory := by omega
      physicalMemory := by omega
      isNaN := eq_false_of_ne_true fun hnan => h .badResult (Or.inl hnan)
      result := fun hnegative => h .badResult (Or.inr hnegative) }

/-- What is looked for is the first rule that is broken. -/
theorem violation?_eq_find? (s : Submission) (benchmarkType : String) :
    s.violation? benchmarkType =
      rules.find? fun rule => decide (s.Breaks benchmarkType rule) := by
  have htype : Text.allBlank benchmarkType.toList = true ↔ s.Breaks benchmarkType .emptyType :=
    List.all_eq_true
  have hmachine : (!s.machineId.toList.contains ';') = true ↔
      s.Breaks benchmarkType .badMachineId := by
    rw [Bool.not_eq_true', ← Bool.not_eq_true, List.contains_iff_mem]
    rfl
  have hbits : s.pointerBits ≠ 32 ∧ s.pointerBits ≠ 64 ↔
      s.Breaks benchmarkType .badPointerBits := by
    rw [Ne, Ne, ← Int64.toInt_inj, ← Int64.toInt_inj]
    rfl
  have htopology : s.topology.cpus < 1 ∨ s.topology.cores < 1 ∨ s.topology.threads < 1 ∨
      s.topology.numaNodes < 0 ↔ s.Breaks benchmarkType .badTopology := by
    rw [Int64.lt_iff_toInt_lt, Int64.lt_iff_toInt_lt, Int64.lt_iff_toInt_lt,
      Int64.lt_iff_toInt_lt]
    rfl
  have hmemory : s.memoryInKiB < leastMemory ↔ s.Breaks benchmarkType .lowMemory :=
    Int64.lt_iff_toInt_lt
  have hphysical : s.physicalMemoryInMiB ≠ 0 ∧ s.physicalMemoryInMiB < leastPhysicalMemory ↔
      s.Breaks benchmarkType .lowPhysicalMemory := by
    rw [Ne, ← Int64.toInt_inj, Int64.lt_iff_toInt_lt]
    rfl
  unfold violation? rules
  simp only [htype, hmachine, hbits, htopology, hmemory, hphysical, find?_decide_cons,
    List.find?_nil]
  rfl

theorem mem_rules (rule : SubmissionError) : rule ∈ rules := by
  cases rule <;> decide

/-- No rule is found broken in what is as it must be. -/
theorem violation?_eq_none_iff :
    s.violation? benchmarkType = none ↔ s.Specified benchmarkType := by
  rw [violation?_eq_find?, List.find?_eq_none, specified_iff]
  constructor
  · intro h rule hbreaks
    exact h rule (mem_rules rule) (decide_eq_true hbreaks)
  · intro h rule _ hbreaks
    exact h rule (of_decide_eq_true hbreaks)

/-- The rule that is found is the first that is broken. -/
theorem violation?_eq_some_iff :
    s.violation? benchmarkType = some rule ↔ s.FirstBroken benchmarkType rule := by
  simp only [violation?_eq_find?, List.find?_eq_some_iff_append, decide_eq_true_iff,
    Bool.not_eq_true', decide_eq_false_iff_not, FirstBroken]

/-- A submission that is as it must be becomes its record. -/
theorem validate_eq_ok_iff : s.validate benchmarkType = .ok record ↔
    s.Specified benchmarkType ∧ record = s.record benchmarkType := by
  rw [← violation?_eq_none_iff, validate]
  cases s.violation? benchmarkType with
  | some cause => simp
  | none => simp [eq_comm]

/-- Any other has the error of the first rule that it breaks. -/
theorem validate_eq_error_iff : s.validate benchmarkType = .error rule ↔
    s.FirstBroken benchmarkType rule := by
  rw [← violation?_eq_some_iff, validate]
  cases s.violation? benchmarkType with
  | some cause => simp
  | none => simp

end Submission

/-! ## Uploads -/

namespace Upload

variable {upload : Upload} {records others : List Record} {rule : SubmissionError}

/-- An upload has its records in one way. -/
theorem HasRecords.unique (h : upload.HasRecords records) (hothers : upload.HasRecords others) :
    records = others := by
  refine TextMap.eq_of_pairwise List.lt_asymm h.ascending hothers.ascending fun record => ?_
  rw [h.mem_iff, hothers.mem_iff]

/-- What is not validated has a first submission, in the order of the types, that is not valid. -/
theorem exists_first_of_validateAll {entries : List (String × Submission)}
    (hasc : Ascending entries) (h : validateAll entries = .error rule) :
    ∃ benchmarkType s, (benchmarkType, s) ∈ entries ∧ s.violation? benchmarkType = some rule ∧
      ∀ e ∈ entries, e.1 < benchmarkType → e.2.violation? e.1 = none := by
  induction entries with
  | nil => cases h
  | cons e rest ih =>
      obtain ⟨hhead, htail⟩ := List.pairwise_cons.mp hasc
      simp only [validateAll, Submission.validate] at h
      cases he : e.2.violation? e.1 with
      | some cause =>
          rw [he] at h
          cases h
          refine ⟨e.1, e.2, List.mem_cons_self, he, ?_⟩
          intro other hother hlt
          rcases List.mem_cons.mp hother with rfl | hother
          · exact absurd hlt (String.lt_irrefl _)
          · exact absurd (String.lt_trans hlt (hhead other hother)) (String.lt_irrefl _)
      | none =>
          rw [he] at h
          cases hrest : validateAll rest with
          | ok more =>
              rw [hrest] at h
              cases h
          | error cause =>
              rw [hrest] at h
              cases h
              obtain ⟨benchmarkType, s, hmem, hrule, hfirst⟩ := ih htail hrest
              refine ⟨benchmarkType, s, List.mem_cons_of_mem _ hmem, hrule, ?_⟩
              intro other hother hlt
              rcases List.mem_cons.mp hother with rfl | hother
              · exact he
              · exact hfirst other hother hlt

/-- An upload becomes its records if all its submissions are as they must be. -/
theorem validate_eq_ok_iff : upload.validate = .ok records ↔
    (∀ benchmarkType s, upload.get? benchmarkType = some s → s.Specified benchmarkType) ∧
      upload.HasRecords records := by
  constructor
  · intro h
    have hvalid := valid_of_validateAll h
    have hrecords := Except.ok.inj ((validateAll_of_valid hvalid).symm.trans h)
    refine ⟨fun benchmarkType s hget => ?_, hrecords ▸ hasRecords_entries upload⟩
    rw [← Submission.violation?_eq_none_iff]
    exact hvalid _ ((TextMap.mem_entries_iff upload benchmarkType s).mpr hget)
  · rintro ⟨hspecified, hrecords⟩
    rw [hrecords.unique (hasRecords_entries upload)]
    refine validateAll_of_valid fun e he => ?_
    rw [Submission.violation?_eq_none_iff]
    exact hspecified _ _ ((TextMap.mem_entries_iff upload e.1 e.2).mp he)

/-- Any other has the error of the first of its submissions that is not as it must be. -/
theorem validate_eq_error_iff : upload.validate = .error rule ↔
    ∃ benchmarkType s, upload.get? benchmarkType = some s ∧ s.FirstBroken benchmarkType rule ∧
      ∀ other o, upload.get? other = some o →
        Text.bytes other < Text.bytes benchmarkType → o.Specified other := by
  simp only [← TextMap.mem_entries_iff, Text.bytes_lt_iff, ← Submission.violation?_eq_some_iff,
    ← Submission.violation?_eq_none_iff]
  constructor
  · intro h
    obtain ⟨benchmarkType, s, hmem, hrule, hfirst⟩ :=
      exists_first_of_validateAll upload.ascending h
    exact ⟨benchmarkType, s, hmem, hrule, fun other o hother => hfirst (other, o) hother⟩
  · rintro ⟨benchmarkType, s, hmem, hrule, hfirst⟩
    exact validateAll_of_first upload.ascending hmem hrule fun e he => hfirst e.1 e.2 he

end Upload

/-! ## As specified -/

/-- A submission for a type is validated as specified: it becomes its record if it is as it must be,
and has the error of the first rule that it breaks otherwise. -/
structure Submission.Validated (s : Submission) (benchmarkType : String) : Prop where
  ok : ∀ record, s.validate benchmarkType = .ok record ↔
    s.Specified benchmarkType ∧ record = s.record benchmarkType
  error : ∀ rule, s.validate benchmarkType = .error rule ↔ s.FirstBroken benchmarkType rule

/-- An upload is validated as specified: it becomes the records of its types, ascending by their
bytes, if all its submissions are as they must be, and has the error of the first type whose
submission is not otherwise. -/
structure Upload.Validated (upload : Upload) : Prop where
  ok : ∀ records, upload.validate = .ok records ↔
    (∀ benchmarkType s, upload.get? benchmarkType = some s → s.Specified benchmarkType) ∧
      upload.HasRecords records
  error : ∀ rule, upload.validate = .error rule ↔
    ∃ benchmarkType s, upload.get? benchmarkType = some s ∧ s.FirstBroken benchmarkType rule ∧
      ∀ other o, upload.get? other = some o →
        Text.bytes other < Text.bytes benchmarkType → o.Specified other

/-- Every submission for every type, and every upload, is validated as specified. -/
theorem validates_specified :
    (∀ (s : Submission) (benchmarkType : String), s.Validated benchmarkType) ∧
      ∀ upload : Upload, upload.Validated :=
  ⟨fun _ _ => ⟨fun _ => Submission.validate_eq_ok_iff, fun _ => Submission.validate_eq_error_iff⟩,
    fun _ => ⟨fun _ => Upload.validate_eq_ok_iff, fun _ => Upload.validate_eq_error_iff⟩⟩

/-- A submission at the edge of what is specified: its result is a zero with a minus sign. -/
def edgeSubmission : Submission :=
  { Submission.zero with
    machineId := ";", pointerBits := 32, topology := ⟨1, 1, 1, 0⟩, memoryInKiB := 4096,
    physicalMemoryInMiB := 4, result := -0.0 }

/-- A submission that breaks two rules. -/
def twiceBroken : Submission :=
  { edgeSubmission with pointerBits := 16, memoryInKiB := 0 }

/-- A submission that breaks an earlier rule. -/
def legacySubmission : Submission :=
  { edgeSubmission with legacy := true }

/-- An upload of all three. -/
def mixedUpload : Upload :=
  TextMap.ofList [("c", legacySubmission), ("b", twiceBroken), ("a", edgeSubmission)]

/-- The type of the first is valid, the second has the error of the first rule that it breaks, and
the upload has that of the second. -/
theorem validates_specified_mixed : edgeSubmission.Specified "a" ∧
    twiceBroken.FirstBroken "b" .badPointerBits ∧
      mixedUpload.validate = .error .badPointerBits := by
  have hedge : edgeSubmission.validate "a" = .ok (edgeSubmission.record "a") := by decide
  have htwice : twiceBroken.validate "b" = .error .badPointerBits := by decide
  obtain ⟨hsubmission, hupload⟩ := validates_specified
  have hspecified := ((hsubmission edgeSubmission "a").ok _).mp hedge
  have hfirst := ((hsubmission twiceBroken "b").error _).mp htwice
  refine ⟨hspecified.1, hfirst, ((hupload mixedUpload).error _).mpr ?_⟩
  have hentries : mixedUpload.entries =
      [("a", edgeSubmission), ("b", twiceBroken), ("c", legacySubmission)] := by decide
  refine ⟨"b", twiceBroken, by decide, hfirst, fun other o hget hlt => ?_⟩
  have hmem := (TextMap.mem_entries_iff mixedUpload other o).mpr hget
  rw [hentries] at hmem
  simp only [List.mem_cons, List.not_mem_nil, or_false, Prod.mk.injEq] at hmem
  rcases hmem with ⟨rfl, rfl⟩ | ⟨rfl, rfl⟩ | ⟨rfl, rfl⟩
  · exact hspecified.1
  · exact absurd hlt (by decide)
  · exact absurd hlt (by decide)

end BenchDepot
