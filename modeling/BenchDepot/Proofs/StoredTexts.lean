import BenchDepot.Proofs.AdHocText
import BenchDepot.Proofs.WireFields

/-!
# The two texts that the store keeps of a configuration

A row keeps the text of a configuration in one of two forms: what was uploaded is kept as a JSON
object, and what was imported as it came, which may be ad-hoc text.  One reader takes both.  It tries
JSON first, so it has to be known that no ad-hoc text is JSON: behind its first count stands a cross,
where no number goes on and no token starts.

* `Json.Scan.resume_stuck` — a numeral behind which nothing can follow;
* `ofJson?_adHoc` — an ad-hoc text spells no object;
* `ofText_adHoc` — an ad-hoc text is read as one;
* `readsStoredTexts` — whatever way a configuration came in, it is read back as what it was.
-/

namespace BenchDepot

open Cpu (Config)
open Cpu.AdHoc (Clean)

/-! ## No ad-hoc text is JSON -/

namespace Json.Scan

open Decimal (Numeral Progress)

variable {c : Char} {found : List Token}

/-- A character with which no number goes on and no token starts ends no text that can be cut. -/
theorem resume_stuck (n : Numeral) (hstep : ∀ p : Progress, p.step c = none)
    (hstart : ∀ tokens, start tokens c = none) (rest : List Char) :
    (⟨found, .between⟩ : Scan).resume (n.render ++ c :: rest) = none := by
  obtain ⟨d, ds, p, q, hrender, hp, hrun, hq⟩ := n.render_spec
  have hfirst : (⟨found, .between⟩ : Scan).stepChar d = some ⟨found, .number p⟩ :=
    start_of_start? hp
  have hstuck : (⟨found, .number q⟩ : Scan).step (.char c) = none := by
    simp only [step, stepChar, hstep, hq, hstart]
  rw [hrender, List.cons_append, resume_cons hfirst, resume_number hrun, resume, List.map_cons, run,
    hstuck]
  rfl

end Json.Scan

/-- A joined text starts with its first part. -/
theorem Text.exists_join_cons (between part : List Char) (parts : List (List Char)) :
    ∃ more, join between (part :: parts) = part ++ more := by
  cases parts with
  | nil => exact ⟨[], by simp [join, List.intercalate]⟩
  | cons next parts => exact ⟨_, by rw [join, List.intercalate_cons_cons, List.append_assoc]⟩

namespace Cpu.Config

variable {config : Config}

/-- An ad-hoc text spells no JSON object. -/
theorem ofJson?_adHoc (config : Config) : ofJson? config.adHoc = none := by
  have htext : config.adHoc.toList =
      Text.join AdHoc.separator (config.sorted.map fun e => AdHoc.item e.1 e.2) :=
    String.toList_ofList
  cases hsorted : config.sorted with
  | nil =>
      -- there is no token at all, and so no value
      rw [hsorted] at htext
      rw [ofJson?, Json.Value.parse?, Json.Glyph.ofString, htext]
      rfl
  | cons e rest =>
      obtain ⟨behind, hitem⟩ : ∃ behind, config.adHoc.toList =
          (Decimal.Numeral.ofInt e.2.toNat).render ++ 'x' :: behind := by
        have hdigits : (Decimal.Numeral.ofInt e.2.toNat).render = Nat.toDigits 10 e.2.toNat := by
          have hsign : ¬(e.2.toNat : Int) < 0 := by omega
          simp [Decimal.Numeral.render, Decimal.Numeral.ofInt, Decimal.Numeral.renderFraction,
            Decimal.Numeral.renderExponent, hsign]
        obtain ⟨more, hmore⟩ := Text.exists_join_cons AdHoc.separator (AdHoc.item e.1 e.2)
          (rest.map fun e => AdHoc.item e.1 e.2)
        rw [htext, hsorted, List.map_cons, hmore, hdigits, AdHoc.item]
        exact ⟨_, by rw [List.append_assoc, List.cons_append]⟩
      have hcut : Json.Token.ofGlyphs? (Json.Glyph.ofString config.adHoc) = none := by
        rw [Json.Token.ofGlyphs?, Json.Glyph.ofString, hitem]
        exact Json.Scan.resume_stuck _ (fun p => by cases p <;> rfl) (fun _ => rfl) behind
      rw [ofJson?, Json.Value.parse?, Json.Value.ofGlyphs?, hcut]
      rfl

/-- An ad-hoc text is read as one, although JSON is tried first. -/
theorem ofText_adHoc (config : Config) : ofText config.adHoc = ofAdHoc config.adHoc := by
  rw [ofText, ofJson?_adHoc]

/-- Clean labels come back from an ad-hoc text as they are. -/
theorem ofText_adHoc_of_clean (h : ∀ label ∈ config.keys, Clean label) :
    ofText config.adHoc = config := by
  have hsettled : ∀ e ∈ config.sorted,
      (String.ofList (AdHoc.settle e.1.toList), e.2) = id e := by
    intro e he
    have hclean := h e.1 (mem_keys_iff_sorted.mpr ⟨e, he, rfl⟩)
    rw [((AdHoc.clean_iff e.1).mp hclean).2, String.ofList_toList]
    rfl
  rw [ofText_adHoc, ofAdHoc_adHoc fun label hlabel => (h label hlabel).toSeparatorFree,
    List.map_congr_left hsettled, List.map_id]
  exact TextMap.ofList_of_perm (List.mergeSort_perm _ _)

end Cpu.Config

/-! ## What is stored -/

/-- A text that rows give back as the configuration it describes, whichever way it came in. -/
structure KeptAlike (sent : String) : Prop where
  /-- An accepted submission without counts of its own has a row, from which the text that came
  with it is read. -/
  uploaded : ∀ (s : Service) (request : Http.Request) (members : List (String × Submission))
    (benchmarkType : String) (sub : Submission) (events : List Event),
    request.isUpload = true → Accepted s request.body members →
      lastOf? members benchmarkType = some sub → sub.cpuConfig = none →
        sub.cpuText.getD "" = sent →
          ∃ row ∈ ((s.after (.request request)).run events).store.members benchmarkType sub.group,
            row.Keeps s.now (sub.record benchmarkType) ∧
              Config.ofText row.cpuText = Config.ofText sent
  /-- A row that is taken over holds the text as it came. -/
  imported : ∀ (s : Service) (m : Measurement) (benchmarkType : String) (at_ : Instant),
    (s.importRow m benchmarkType sent at_).isOk = true →
      ∃ row, (s.after (.importRow m benchmarkType sent at_)).store.rows = s.store.rows ++ [row] ∧
        row.cpuText = sent ∧ Config.ofText row.cpuText = Config.ofText sent

theorem keptAlike (sent : String) : KeptAlike sent where
  uploaded s request members benchmarkType sub events hupload haccepted hlast hnone hsent := by
    obtain ⟨row, hrow, hkeeps⟩ := Service.exists_row_of_accepted hupload haccepted hlast events
    refine ⟨row, hrow, hkeeps, ?_⟩
    rw [hkeeps.cpuText, Config.ofText_stored, Submission.record, hnone, ← hsent]
    rfl
  imported s m benchmarkType at_ hok := by
    cases himport : s.importRow m benchmarkType sent at_ with
    | error cause =>
        rw [himport] at hok
        cases hok
    | ok after =>
        obtain ⟨row, hrow, rfl⟩ := Service.importRow_eq_ok himport
        refine ⟨row, by rw [Service.after, himport]; rfl, ?_⟩
        rw [Store.row_eq_ok hrow]
        exact ⟨rfl, rfl⟩

/-- Whatever is stored of a configuration is read back as the configuration: the object that is
written of any counts; the object that is written of any text, which means what the text meant; and
the ad-hoc text of clean labels.  Neither form is taken for the other. -/
theorem readsStoredTexts :
    (∀ config : Config, Config.ofJson? config.stored = some config ∧
        Config.ofText config.stored = config) ∧
      (∀ sent : String, Config.ofText (Cpu.Input.ofFields none (some sent)).normalize.stored =
          Config.ofText sent ∧ KeptAlike sent) ∧
      ∀ config : Config, Config.ofJson? config.adHoc = none ∧
        ((∀ label ∈ config.keys, Clean label) → Config.ofText config.adHoc = config) := by
  refine ⟨fun config => ⟨Config.ofJson?_stored config, Config.ofText_stored config⟩,
    fun sent => ⟨Config.ofText_stored _, keptAlike sent⟩,
    fun config => ⟨Config.ofJson?_adHoc config, Config.ofText_adHoc_of_clean⟩⟩

/-- A text that comes in both ways, and the configuration that it describes. -/
theorem readsStoredTexts_twoCores :
    (∃ row ∈ (beforeUploads.after (.request oneSubmission)).store.members "t" whatItSays.group,
        Config.ofText row.cpuText = Config.ofText "2x 1800,00 MHz") ∧
      (∃ row, (beforeUploads.after
          (.importRow Measurement.zero "t" "2x 1800,00 MHz" .epoch)).store.rows = [row] ∧
        Config.ofText row.cpuText = Config.ofText "2x 1800,00 MHz") ∧
      Config.ofText (Config.adHoc (TextMap.empty.insert "1800.00" 2)) =
        TextMap.empty.insert "1800.00" 2 := by
  obtain ⟨_, hkept, hadHoc⟩ := readsStoredTexts
  obtain ⟨_, huploaded, himported⟩ := hkept "2x 1800,00 MHz"
  refine ⟨?_, ?_, ?_⟩
  · obtain ⟨hspells, hstatus, _⟩ := oneSubmission_evaluated
    obtain ⟨members, haccepted⟩ := (Service.submit_status_iff _ _).mp hstatus
    have hmembers : members = [("t", whatItSays)] :=
      Option.some.inj (haccepted.spells.symm.trans hspells)
    obtain ⟨row, hrow, _, hread⟩ := huploaded beforeUploads oneSubmission members "t" whatItSays []
      (by decide) haccepted (by rw [hmembers]; rfl) rfl rfl
    rw [Service.run_nil] at hrow
    exact ⟨row, hrow, hread⟩
  · obtain ⟨row, hrows, _, hread⟩ :=
      himported beforeUploads Measurement.zero "t" .epoch (by decide)
    exact ⟨row, hrows, hread⟩
  · refine (hadHoc _).2 fun label hlabel => ?_
    rw [show (TextMap.empty.insert "1800.00" (2 : UInt32)).keys = ["1800.00"] from rfl,
      List.mem_singleton] at hlabel
    rw [hlabel]
    exact ⟨⟨by decide, by decide, by decide⟩, by decide, by decide, by decide⟩

end BenchDepot
