import BenchDepot.Proofs.StoredTexts

/-!
# An ad-hoc text that is read, written and read again

The configuration that an ad-hoc text describes is written as ad-hoc text again, beside its counts,
and the two should mean the same.  They do, unless an entry gives a label that would itself be read
otherwise.  There are two ways to get one.  The label of an entry with several crosses is what
stands in front of the first, and of that only the start has been trimmed.  And what stands on the
two sides of a unit may be the parts of another unit, which comes together when the first one is
removed.

Every reading shortens a label that is read otherwise, so that a text which is read and written
often enough comes to rest.

* `clean_entry_iff` — the entries with a clean label;
* `weight_reread_le`, `weight_reread_lt` — what is read again has shorter labels;
* `reread_eq_self_iff` — when a configuration is read again as it was;
* `rereads` — every text;
* `reread_ne_self` — texts that are not read again as they were.
-/

namespace BenchDepot

open Cpu (Config)

/-! ## What stands in front of a cross -/

namespace Text

variable {sep : Char} {cs first : List Char} {more : List (List Char)}

theorem trimStart_trim (cs : List Char) : trimStart (trim cs) = trim cs := by
  have hstart : (trimStart (trim cs)).Sublist (trim cs) :=
    (List.dropWhile_suffix isBlank).sublist
  have hend : (trim (trim cs)).Sublist (trimStart (trim cs)) :=
    (List.rdropWhile_prefix isBlank (l := trimStart (trim cs))).sublist
  rw [trim_idem] at hend
  exact hstart.antisymm hend

/-- A trimmed text that is cut short starts as it did. -/
theorem trimStart_of_prefix_trim (h : first <+: trim cs) : trimStart first = first := by
  cases first with
  | nil => rfl
  | cons c rest =>
      obtain ⟨behind, hbehind⟩ := h
      have hfixed := trimStart_trim cs
      rw [← hbehind, trimStart, List.dropWhile_eq_self_iff] at hfixed
      exact List.dropWhile_cons_of_neg (hfixed (Nat.succ_pos _))

/-- Of a trimmed text that is cut short, only the end may have to be trimmed again. -/
theorem trim_of_prefix_trim (h : first <+: trim cs) :
    trim first = first ↔ ∀ b ∈ first.getLast?, isBlank b = false := by
  rw [trim, trimStart_of_prefix_trim h]
  rcases List.eq_nil_or_concat first with rfl | ⟨init, b, rfl⟩
  · simp [trimEnd]
  · rw [List.concat_eq_append]
    simp only [List.getLast?_concat, Option.mem_some_iff, forall_eq']
    constructor
    · intro heq
      by_contra hblank
      rw [trimEnd_append_of_blank (by simpa using hblank)] at heq
      have hle := (List.rdropWhile_prefix isBlank (l := init)).length_le
      have hlength := congrArg List.length heq
      rw [List.length_append, List.length_singleton] at hlength
      rw [trimEnd] at hlength
      rw [List.rdropWhile] at hle
      omega
    · intro hb
      exact List.rdropWhile_concat_neg isBlank init b (by simp [hb])

/-- The first piece of a text is what the text starts with. -/
theorem prefix_of_pieces (h : pieces sep cs = first :: more) : first <+: cs := by
  obtain ⟨behind, hbehind⟩ := exists_join_cons [sep] first more
  have hjoin := join_pieces sep cs
  rw [h] at hjoin
  exact ⟨behind, by rw [← hbehind, join, hjoin]⟩

end Text

/-! ## Labels that are read again as they were -/

namespace Cpu.AdHoc

variable {cs : List Char}

/-- An entry that gives a label which is read again as it was. -/
structure Rereadable (cs : List Char) : Prop where
  /-- If there are several crosses, the first one has no blank in front of it. -/
  noBlank : ∀ first second third more,
    Text.pieces 'x' (Text.trim cs) = first :: second :: third :: more →
      ∀ b ∈ first.getLast?, Text.isBlank b = false
  /-- No unit has come together in the label. -/
  noLatinUnit : ¬latinUnit <:+: (entry cs).1.toList
  noCyrillicUnit : ¬cyrillicUnit <:+: (entry cs).1.toList

/-- The label of an entry with several crosses stands in front of the first. -/
theorem entry_of_pieces {first second third : List Char} {more : List (List Char)}
    (h : Text.pieces 'x' (Text.trim cs) = first :: second :: third :: more) :
    (entry cs).1.toList = first := by
  rw [entry, h]
  exact String.toList_ofList

/-- The label of an entry is trimmed, unless a blank stands in front of the first of several
crosses. -/
theorem trim_entry_iff (cs : List Char) :
    Text.trim (entry cs).1.toList = (entry cs).1.toList ↔ ∀ first second third more,
      Text.pieces 'x' (Text.trim cs) = first :: second :: third :: more →
        ∀ b ∈ first.getLast?, Text.isBlank b = false := by
  constructor
  · intro htrim first second third more hpieces
    rw [entry_of_pieces hpieces] at htrim
    exact (Text.trim_of_prefix_trim (Text.prefix_of_pieces hpieces)).mp htrim
  · intro hblank
    match hpieces : Text.pieces 'x' (Text.trim cs) with
    | [] => exact absurd hpieces (Text.pieces_ne_nil _ _)
    | [only] =>
        have honly : Text.trim cs = only := by
          have hjoin := Text.join_pieces 'x' (Text.trim cs)
          rw [hpieces, List.intercalate_singleton] at hjoin
          exact hjoin.symm
        have hlabel : (entry cs).1.toList = only := by
          rw [entry, hpieces]
          exact String.toList_ofList
        rw [hlabel, ← honly, Text.trim_idem]
    | [number, label] =>
        have hlabel : (entry cs).1.toList = Text.trim label := by
          rw [entry, hpieces]
          exact String.toList_ofList
        rw [hlabel, Text.trim_idem]
    | first :: second :: third :: more =>
        rw [entry_of_pieces hpieces]
        exact (Text.trim_of_prefix_trim (Text.prefix_of_pieces hpieces)).mpr
          (hblank first second third more hpieces)

/-- An entry without commas and pluses has a clean label exactly if the label is read again as it
was. -/
theorem clean_entry_iff (hplus : '+' ∉ cs) (hcomma : ',' ∉ cs) :
    Clean (entry cs).1 ↔ Rereadable cs := by
  constructor
  · intro h
    exact ⟨(trim_entry_iff cs).mp h.trimmed, h.noLatinUnit, h.noCyrillicUnit⟩
  · rintro ⟨hblank, hlatin, hcyrillic⟩
    exact ⟨separatorFree_entry hplus hcomma, (trim_entry_iff cs).mpr hblank, hlatin, hcyrillic⟩

/-- A text all of whose entries give such labels. -/
def RereadableText (text : String) : Prop :=
  ∀ piece ∈ Text.pieces '+' (normalize text.toList), Rereadable piece

end Cpu.AdHoc

/-! ## Reading again -/

namespace TextMap

variable {α : Type} (size : String → Nat)

theorem sum_insertIn_le (key : String) (value : α) (entries : List (String × α)) :
    ((insertIn key value entries).map fun e => size e.1).sum ≤
      size key + (entries.map fun e => size e.1).sum := by
  induction entries with
  | nil => simp [insertIn]
  | cons head rest ih =>
      simp only [insertIn]
      split
      · simp
      · split
        · simp only [List.map_cons, List.sum_cons]
          omega
        · simp only [List.map_cons, List.sum_cons]
          omega

/-- The keys of a map are no larger together than those that it was made of. -/
theorem sum_ofList_le (pairs : List (String × α)) :
    ((ofList pairs).entries.map fun e => size e.1).sum ≤ (pairs.map fun e => size e.1).sum := by
  have hfold : ∀ m : TextMap α,
      ((pairs.foldl (fun m pair => m.insert pair.1 pair.2) m).entries.map fun e => size e.1).sum ≤
        (m.entries.map fun e => size e.1).sum + (pairs.map fun e => size e.1).sum := by
    induction pairs with
    | nil => exact fun m => Nat.le_refl _
    | cons pair rest ih =>
        intro m
        have hrest := ih (m.insert pair.1 pair.2)
        have hfirst := sum_insertIn_le size pair.1 pair.2 m.entries
        rw [List.foldl_cons, List.map_cons, List.sum_cons]
        show _ ≤ (m.entries.map fun e => size e.1).sum + _
        have hinsert : (m.insert pair.1 pair.2).entries = insertIn pair.1 pair.2 m.entries := rfl
        rw [hinsert] at hrest
        omega
  have hempty := hfold empty
  rwa [show (empty : TextMap α).entries = [] from rfl, List.map_nil, List.sum_nil,
    Nat.zero_add] at hempty

end TextMap

namespace Cpu.Config

open AdHoc

variable {config : Config}

/-- What is read of the ad-hoc text that is written. -/
def reread (config : Config) : Config :=
  ofAdHoc config.adHoc

/-- How long the labels of a configuration are together. -/
def weight (config : Config) : Nat :=
  (config.entries.map fun e => e.1.toList.length).sum

theorem weight_eq_sorted (config : Config) :
    weight config = (config.sorted.map fun e => e.1.toList.length).sum :=
  ((List.mergeSort_perm _ _).map _).sum_eq.symm

/-- What is read again has labels that are no longer than those that reading settles. -/
theorem weight_reread_le (hfree : ∀ label ∈ config.keys, SeparatorFree label) :
    weight (reread config) ≤ (config.sorted.map fun e => (settle e.1.toList).length).sum := by
  have hle := TextMap.sum_ofList_le (fun label => label.toList.length)
    (config.sorted.map fun e => (String.ofList (settle e.1.toList), e.2))
  rw [List.map_map] at hle
  rw [weight, reread, ofAdHoc_adHoc hfree]
  simpa only [Function.comp_def, String.toList_ofList] using hle

/-- A label that is not clean gets shorter. -/
theorem weight_reread_lt (hfree : ∀ label ∈ config.keys, SeparatorFree label) {label : String}
    (hlabel : label ∈ config.keys) (hclean : ¬Clean label) :
    weight (reread config) < weight config := by
  obtain ⟨e, he, rfl⟩ := mem_keys_iff_sorted.mp hlabel
  have hshorter : (settle e.1.toList).length < e.1.toList.length := by
    refine lt_of_le_of_ne (settle_sublist _).length_le fun heq => hclean ?_
    exact (clean_iff e.1).mpr ⟨hfree _ hlabel, (settle_sublist _).eq_of_length heq⟩
  have hsum : (config.sorted.map fun e => (settle e.1.toList).length).sum <
      (config.sorted.map fun e => e.1.toList.length).sum :=
    List.sum_lt_sum _ _ (fun other _ => (settle_sublist other.1.toList).length_le)
      ⟨e, he, hshorter⟩
  rw [weight_eq_sorted config]
  exact lt_of_le_of_lt (weight_reread_le hfree) hsum

/-- A configuration without separators in its labels is read again as it was exactly if its labels
are clean. -/
theorem reread_eq_self_iff (hfree : ∀ label ∈ config.keys, SeparatorFree label) :
    reread config = config ↔ ∀ label ∈ config.keys, Clean label := by
  constructor
  · intro heq label hlabel
    by_contra hclean
    have hlt := weight_reread_lt hfree hlabel hclean
    rw [heq] at hlt
    exact lt_irrefl _ hlt
  · intro hclean
    rw [reread, ← ofText_adHoc, ofText_adHoc_of_clean hclean]

/-- After some rounds of writing and reading nothing changes any more. -/
theorem exists_reread_eq_self (config : Config)
    (hfree : ∀ label ∈ config.keys, SeparatorFree label) :
    ∃ rounds, reread (reread^[rounds] config) = reread^[rounds] config := by
  induction hweight : weight config using Nat.strongRecOn generalizing config with
  | ind n ih =>
      by_cases hclean : ∀ label ∈ config.keys, Clean label
      · exact ⟨0, (reread_eq_self_iff hfree).mpr hclean⟩
      · simp only [not_forall] at hclean
        obtain ⟨label, hlabel, hnot⟩ := hclean
        have hlt := weight_reread_lt hfree hlabel hnot
        obtain ⟨rounds, hrounds⟩ := ih _ (hweight ▸ hlt) (reread config)
          (fun _ => separatorFree_of_mem_keys) rfl
        exact ⟨rounds + 1, by rwa [Function.iterate_succ_apply]⟩

/-- The labels of a text are those of its entries, of which an empty text has none. -/
theorem mem_keys_ofAdHoc_iff {text : String} (hne : normalize text.toList ≠ []) (label : String) :
    label ∈ (ofAdHoc text).keys ↔
      ∃ piece ∈ Text.pieces '+' (normalize text.toList), (entry piece).1 = label := by
  have hempty : (normalize text.toList).isEmpty = false := List.isEmpty_eq_false_iff.mpr hne
  rw [ofAdHoc]
  simp only [hempty, Bool.false_eq_true, if_false]
  rw [TextMap.mem_keys_ofList]
  constructor
  · rintro ⟨count, hpair⟩
    obtain ⟨piece, hpiece, heq⟩ := List.mem_map.mp hpair
    exact ⟨piece, hpiece, congrArg Prod.fst heq⟩
  · rintro ⟨piece, hpiece, rfl⟩
    exact ⟨(entry piece).2, List.mem_map.mpr ⟨piece, hpiece, rfl⟩⟩

/-- The labels of a text are clean exactly if its entries give such labels. -/
theorem clean_keys_iff (text : String) :
    (∀ label ∈ (ofAdHoc text).keys, Clean label) ↔ RereadableText text := by
  have hentry : ∀ piece ∈ Text.pieces '+' (normalize text.toList),
      (Clean (entry piece).1 ↔ Rereadable piece) := by
    intro piece hpiece
    obtain ⟨hplus, hsub⟩ := Text.notMem_of_mem_pieces hpiece
    exact clean_entry_iff hplus fun hmem => comma_notMem_normalize _ (hsub.subset hmem)
  by_cases hne : normalize text.toList = []
  · -- there is one entry without characters, and no label
    have hkeys : (ofAdHoc text).keys = [] := by
      rw [ofAdHoc, hne]
      rfl
    have hnothing : Clean (entry []).1 := ⟨⟨by decide, by decide, by decide⟩, by decide, by decide,
      by decide⟩
    rw [hne] at hentry
    rw [hkeys, RereadableText, hne]
    simp only [Text.pieces, List.mem_singleton, forall_eq] at hentry ⊢
    simpa using hentry.mp hnothing
  · constructor
    · intro h piece hpiece
      exact (hentry piece hpiece).mp (h _ ((mem_keys_ofAdHoc_iff hne _).mpr ⟨piece, hpiece, rfl⟩))
    · intro h label hlabel
      obtain ⟨piece, hpiece, rfl⟩ := (mem_keys_ofAdHoc_iff hne label).mp hlabel
      exact (hentry piece hpiece).mpr (h piece hpiece)

end Cpu.Config

/-! ## What is published -/

/-- A service that has taken over a row with a text, which is alone in its group and drawn with
it. -/
structure TakesOver (final : Service) (m : Measurement) (benchmarkType sent : String) : Prop where
  comes : ∃ (s : Service) (at_ : Instant) (events : List Event),
    (s.importRow m benchmarkType sent at_).isOk = true ∧
      final = (s.after (.importRow m benchmarkType sent at_)).run events
  legacy : m.legacy = false
  only : (final.store.members benchmarkType ⟨m.machineId, m.pointerBits⟩).length = 1
  drawn : ⟨m.machineId, m.pointerBits⟩ ∈ final.drawn benchmarkType

section

variable {final : Service} {m : Measurement} {benchmarkType sent : String}

/-- The row that came in is still there, so that it is the one row of its group. -/
theorem TakesOver.exists_row (h : TakesOver final m benchmarkType sent) : ∃ row,
    final.store.members benchmarkType ⟨m.machineId, m.pointerBits⟩ = [row] ∧
      row.cpuText = sent := by
  obtain ⟨⟨s, at_, events, hok, hfinal⟩, hlegacy, honly, _⟩ := h
  obtain ⟨row, hmember, hsent⟩ : ∃ row ∈ final.store.members benchmarkType
      ⟨m.machineId, m.pointerBits⟩, row.cpuText = sent := by
    cases himport : s.importRow m benchmarkType sent at_ with
    | error cause =>
        rw [himport] at hok
        cases hok
    | ok after =>
        obtain ⟨row, hrow, rfl⟩ := Service.importRow_eq_ok himport
        have hstored : row ∈ (s.after (.importRow m benchmarkType sent at_)).store.rows := by
          rw [Service.after, himport]
          exact List.mem_append_right _ List.mem_cons_self
        have hrow := Store.row_eq_ok hrow
        refine ⟨row, List.mem_filter.mpr ⟨?_, ?_⟩, by rw [hrow]⟩
        · rw [hfinal]
          exact (Service.prefix_run _ events).subset hstored
        · simp [Row.countsFor, Store.groupKey, hrow, hlegacy]
  obtain ⟨only, honly⟩ := List.length_eq_one_iff.mp honly
  rw [honly] at hmember
  exact ⟨only, honly, List.mem_singleton.mp hmember ▸ hsent⟩

/-- What the aggregate says of the configuration of the row: its counts and its ad-hoc text. -/
theorem TakesOver.published (h : TakesOver final m benchmarkType sent) {aggregate : Aggregate}
    (hbuilt : final.build.1 = .ok aggregate ∨ final.rebuild.1 = .ok aggregate) :
    ∃ entries entry, aggregate.get? benchmarkType = some entries ∧
      entries.filter (fun other => other.group = ⟨m.machineId, m.pointerBits⟩) = [entry] ∧
      entry.cpuConfig = Config.ofText sent ∧ entry.cpuText = (Config.ofText sent).adHoc := by
  obtain ⟨row, hmembers, hsent⟩ := h.exists_row
  obtain ⟨limit, seconds, houtcome⟩ := Service.exists_outcome_of_built hbuilt
  obtain ⟨r, _, htext, entries, hentries, hfilter⟩ :=
    Service.get?_of_drawn houtcome hmembers h.drawn
  rw [← hsent, ← htext]
  exact ⟨entries, r.entry, hentries, hfilter, rfl, rfl⟩

end

/-! ## Every text -/

namespace Cpu.Config

open AdHoc

/-- What an ad-hoc text describes is read again as it was exactly if none of its entries gives a
label that is read otherwise, and then the counts and the text that are published of it mean the
same.  Whatever the text, it comes to rest after some rounds of writing and reading. -/
theorem rereads (text : String) :
    (reread (ofAdHoc text) = ofAdHoc text ↔ RereadableText text) ∧
      (∃ rounds, reread (reread^[rounds] (ofAdHoc text)) = reread^[rounds] (ofAdHoc text)) ∧
      ∀ final m benchmarkType aggregate, ofJson? text = none →
        TakesOver final m benchmarkType text →
        (final.build.1 = .ok aggregate ∨ final.rebuild.1 = .ok aggregate) →
          ∃ entries entry, aggregate.get? benchmarkType = some entries ∧
            entries.filter (fun other => other.group = ⟨m.machineId, m.pointerBits⟩) = [entry] ∧
            entry.cpuConfig = ofAdHoc text ∧
            (ofText entry.cpuText = entry.cpuConfig ↔ RereadableText text) := by
  have hiff : reread (ofAdHoc text) = ofAdHoc text ↔ RereadableText text := by
    rw [reread_eq_self_iff fun _ => separatorFree_of_mem_keys, clean_keys_iff]
  refine ⟨hiff, exists_reread_eq_self _ fun _ => separatorFree_of_mem_keys, ?_⟩
  intro final m benchmarkType aggregate hadHoc htakes hbuilt
  obtain ⟨entries, entry, hentries, hfilter, hconfig, htext⟩ := htakes.published hbuilt
  have hread : ofText text = ofAdHoc text := by rw [ofText, hadHoc]
  rw [hread] at hconfig htext
  refine ⟨entries, entry, hentries, hfilter, hconfig, ?_⟩
  rw [htext, hconfig, ofText_adHoc]
  exact hiff

/-- An entry with two crosses and a blank in front of the first. -/
def twoCrosses : String := "1200 x 2 x MHz"

/-- The measurement of a row that has it. -/
def ofTwoCrosses : Measurement :=
  { Measurement.zero with machineId := "a;b", pointerBits := 64 }

/-- The service that takes over the row. -/
def withTwoCrosses : Service :=
  beforeUploads.after (.importRow ofTwoCrosses "t" twoCrosses .epoch)

theorem twoCrosses_evaluated :
    ofJson? twoCrosses = none ∧ reread (ofAdHoc twoCrosses) ≠ ofAdHoc twoCrosses ∧
      (beforeUploads.importRow ofTwoCrosses "t" twoCrosses .epoch).isOk = true ∧
      (withTwoCrosses.store.members "t" ⟨"a;b", 64⟩).length = 1 ∧
      ⟨"a;b", 64⟩ ∈ withTwoCrosses.drawn "t" ∧ withTwoCrosses.build.1.isOk = true := by
  decide +kernel

/-- The counts and the text that are published of it do not mean the same. -/
theorem rereads_twoCrosses : ∃ aggregate entries entry,
    withTwoCrosses.build.1 = .ok aggregate ∧ aggregate.get? "t" = some entries ∧
      entries.filter (fun other => other.group = ⟨"a;b", 64⟩) = [entry] ∧
      entry.cpuConfig = ofAdHoc twoCrosses ∧ ofText entry.cpuText ≠ entry.cpuConfig := by
  obtain ⟨hadHoc, hchanged, hok, honly, hdrawn, hbuild⟩ := twoCrosses_evaluated
  have htakes : TakesOver withTwoCrosses ofTwoCrosses "t" twoCrosses :=
    ⟨⟨beforeUploads, .epoch, [], hok, rfl⟩, rfl, honly, hdrawn⟩
  cases hbuilt : withTwoCrosses.build.1 with
  | error cause =>
      rw [hbuilt] at hbuild
      cases hbuild
  | ok aggregate =>
      obtain ⟨hiff, _, hpublished⟩ := rereads twoCrosses
      obtain ⟨entries, entry, hentries, hfilter, hconfig, hsame⟩ :=
        hpublished withTwoCrosses ofTwoCrosses "t" aggregate hadHoc htakes (Or.inl hbuilt)
      exact ⟨aggregate, entries, entry, rfl, hentries, hfilter, hconfig,
        fun heq => hchanged (hiff.mpr (hsame.mp heq))⟩

/-- Two texts that are not read again as they were: one has two crosses in an entry, and in the
other a unit stands within a unit. -/
theorem reread_ne_self : reread (ofAdHoc "1200 x 2 x MHz") ≠ ofAdHoc "1200 x 2 x MHz" ∧
    reread (ofAdHoc "5 MMHzHz") ≠ ofAdHoc "5 MMHzHz" := by
  decide +kernel

end Cpu.Config

end BenchDepot
