import BenchDepot.Compaction
import BenchDepot.Proofs.KeyGrammar
import BenchDepot.Proofs.Prewarming

/-!
# What is required of settings

A start needs a queue with a place, time for fetches and for rebuilds, a sample with a row, keys
where keys are to be prewarmed, and an interval where compactions are enabled: a queue without a
place and a ticker without an interval cannot be made at all.  These requirements stand in one list
here, with one entry for every text that is to be a key.  The checks of the settings are two nested
ones, and the reader of the keys is a third one inside; what they say is what is said of the first
requirement in the list that is missed.

* `findSome?_key` — the reader of the keys;
* `check_eq_findSome?` — the checks look for the first requirement that is missed;
* `ending_withSettings_ne_invalid` — a start whose settings pass them;
* `checked_settings` — all settings.
-/

namespace BenchDepot

/-- Something that is required of settings. -/
inductive Requirement where
  | places
  | fetchTime
  | rebuildTime
  | sampleSize
  /-- A text among the keys to prewarm is a key. -/
  | key (text : String)
  | interval
deriving DecidableEq

/-- What is said of settings that miss a requirement. -/
def Requirement.Complaint (message : String) : Requirement → Prop
  | .places => message = "refresh.queue_capacity must be at least 1"
  | .fetchTime => message = "refresh.fetch_timeout_secs must be at least 1"
  | .rebuildTime => message = "refresh.materialize_timeout_secs must be at least 1"
  | .sampleSize => message = "refresh.sample_limit must be at least 1"
  | .key text => ∃ refusal, Key.Refusal text refusal ∧ message = "refresh.prewarm_keys: " ++ refusal
  | .interval => message = "maintenance.interval_secs cannot be 0 when enabled"

namespace Settings

/-- What is required of settings, in the order in which it is looked at. -/
def requirements (s : Settings) : List Requirement :=
  [.places, .fetchTime, .rebuildTime, .sampleSize] ++ s.refresh.prewarm.map .key ++ [.interval]

/-- Some settings meet a requirement. -/
def Meets (s : Settings) : Requirement → Prop
  | .places => s.refresh.queueCapacity.toNat ≠ 0
  | .fetchTime => s.refresh.fetchTimeout.toNat ≠ 0
  | .rebuildTime => s.refresh.rebuildTimeout.toNat ≠ 0
  | .sampleSize => s.refresh.sampleLimit.toNat ≠ 0
  | .key text => text.toList ∈ Key.pattern.matches'
  | .interval => s.maintenance.enabled = true → s.maintenance.interval.toNat ≠ 0

/-- Some settings miss a requirement, and meet all that is looked at before it. -/
def FirstMissed (s : Settings) (r : Requirement) : Prop :=
  ¬s.Meets r ∧ ∃ before after, s.requirements = before ++ r :: after ∧
    ∀ earlier ∈ before, s.Meets earlier

/-- Settings with which a start is possible. -/
structure Startable (s : Settings) : Prop where
  places : s.refresh.queueCapacity.toNat ≠ 0
  fetchTime : s.refresh.fetchTimeout.toNat ≠ 0
  rebuildTime : s.refresh.rebuildTimeout.toNat ≠ 0
  sampleSize : s.refresh.sampleLimit.toNat ≠ 0
  keys : ∀ text ∈ s.refresh.prewarm, text.toList ∈ Key.pattern.matches'
  interval : s.maintenance.enabled = true → s.maintenance.interval.toNat ≠ 0

/-- Settings whose checks say whether a start is possible with them. -/
structure Checked (s : Settings) : Prop where
  /-- The checks pass exactly what a start is possible with. -/
  passed : s.check = .ok () ↔ s.Startable
  /-- What they say of anything else is what is said of the first requirement that it misses. -/
  refused : ∀ message, (∃ cause, s.check = .error cause ∧ cause.message = message) ↔
    ∃ r, s.FirstMissed r ∧ r.Complaint message
  /-- The queue of settings that pass has a place. -/
  queue : s.check = .ok () → ∀ now, (Service.fresh s now).signals.capacity ≠ 0
  /-- The ticker of their compactions has an interval. -/
  ticker : s.check = .ok () → ∀ loop, s.compactions? = some loop → loop.ticker.interval ≠ 0
  /-- Their keys to prewarm are the texts as they stand. -/
  keys : s.check = .ok () →
    ∃ keys, s.refresh.prewarmKeys = .ok keys ∧ keys.map Key.text = s.refresh.prewarm
  /-- A start ends because its settings are not valid exactly if they do not pass, and says why. -/
  ending : ∀ (world : Startup.World) (reached : Startup.Start) (cause : SettingsError),
    (Startup.withSettings world s reached).ending = .failed (.invalid cause) ↔
      s.check = .error cause

variable {s : Settings} {r : Requirement} {cause : SettingsError} {message : String}

/-- Settings with which a start is possible meet all that is required. -/
theorem startable_iff : s.Startable ↔ ∀ r ∈ s.requirements, s.Meets r := by
  constructor
  · intro h r hr
    simp only [requirements, List.mem_append, List.mem_cons, List.not_mem_nil, or_false,
      List.mem_map] at hr
    rcases hr with ((rfl | rfl | rfl | rfl) | ⟨text, htext, rfl⟩) | rfl
    · exact h.places
    · exact h.fetchTime
    · exact h.rebuildTime
    · exact h.sampleSize
    · exact h.keys text htext
    · exact h.interval
  · intro h
    have hkeys : ∀ text ∈ s.refresh.prewarm, s.Meets (.key text) := fun text htext =>
      h _ (by simp [requirements, htext])
    exact ⟨h .places (by simp [requirements]), h .fetchTime (by simp [requirements]),
      h .rebuildTime (by simp [requirements]), h .sampleSize (by simp [requirements]), hkeys,
      h .interval (by simp [requirements])⟩

/-! ## One requirement -/

/-- The cause that settings give not to start with them by a requirement that they miss. -/
def missed? (s : Settings) : Requirement → Option SettingsError
  | .places => if s.refresh.queueCapacity = 0 then some .noQueue else none
  | .fetchTime => if s.refresh.fetchTimeout = 0 then some .noFetchTime else none
  | .rebuildTime => if s.refresh.rebuildTimeout = 0 then some .noRebuildTime else none
  | .sampleSize => if s.refresh.sampleLimit = 0 then some .noSample else none
  | .key text =>
    match Key.parse text with
    | .error cause => some (.badPrewarm cause)
    | .ok _ => none
  | .interval =>
    if s.maintenance.enabled ∧ s.maintenance.interval = 0 then some .noInterval else none

/-- A text that is no key is a cause. -/
theorem missed?_key_of_error {text : String} {cause : KeyError}
    (h : Key.parse text = .error cause) : s.missed? (.key text) = some (.badPrewarm cause) := by
  simp only [missed?, h]

theorem missed?_key_of_ok {text : String} {key : Key} (h : Key.parse text = .ok key) :
    s.missed? (.key text) = none := by
  simp only [missed?, h]

theorem missed?_eq_none_iff : s.missed? r = none ↔ s.Meets r := by
  have hwords : ∀ n : UInt64, n = 0 ↔ n.toNat = 0 := fun n => UInt64.toNat_inj.symm
  cases r with
  | places => simp [missed?, Meets, hwords]
  | fetchTime => simp [missed?, Meets, hwords]
  | rebuildTime => simp [missed?, Meets, hwords]
  | sampleSize =>
      have hhalf : s.refresh.sampleLimit = 0 ↔ s.refresh.sampleLimit.toNat = 0 :=
        UInt32.toNat_inj.symm
      simp [missed?, Meets, hhalf]
  | key text =>
      rw [Meets, ← Key.exists_text_iff]
      simp only [← Key.parse_eq_ok_iff]
      cases hparse : Key.parse text with
      | error cause => simp [missed?_key_of_error hparse]
      | ok key => simp [missed?_key_of_ok hparse]
  | interval => simp [missed?, Meets, hwords]

/-- A requirement that is missed gives a cause, which says what is said of it, and nothing else is
said of it. -/
theorem complaint_iff (h : ¬s.Meets r) :
    r.Complaint message ↔ ∃ cause, s.missed? r = some cause ∧ cause.message = message := by
  rw [← missed?_eq_none_iff, ← Ne, Option.ne_none_iff_exists'] at h
  obtain ⟨given, hgiven⟩ := h
  simp only [hgiven, Option.some.injEq, exists_eq_left']
  cases r with
  | key text =>
      cases hparse : Key.parse text with
      | ok key => simp [missed?_key_of_ok hparse] at hgiven
      | error cause =>
          rw [missed?_key_of_error hparse, Option.some.injEq] at hgiven
          rw [← hgiven]
          constructor
          · rintro ⟨refusal, hrefusal, hmessage⟩
            obtain ⟨other, hother, hsaid⟩ := Key.parse_of_refusal hrefusal
            rw [hparse, Except.error.injEq] at hother
            rw [hmessage, ← hsaid, ← hother]
            rfl
          · intro hmessage
            exact ⟨cause.message, Key.refusal_of_parse hparse, hmessage.symm⟩
  | _ =>
      obtain ⟨_, heq⟩ := Option.ite_none_right_eq_some.mp hgiven
      cases heq
      exact eq_comm

/-! ## The checks -/

/-- The reader of the keys stops at the first text that is none. -/
theorem findSome?_key (s : Settings) (texts : List String) :
    (texts.map Requirement.key).findSome? s.missed? =
      match Key.parseAll texts with
      | .error cause => some (.badPrewarm cause)
      | .ok _ => none := by
  induction texts with
  | nil => rfl
  | cons text rest ih =>
      rw [List.map_cons, List.findSome?_cons, Key.parseAll]
      cases hparse : Key.parse text with
      | error cause => rw [missed?_key_of_error hparse]
      | ok key =>
          rw [missed?_key_of_ok hparse, ih]
          cases Key.parseAll rest <;> rfl

/-- The checks look for the first requirement that is missed. -/
theorem check_eq_findSome? (s : Settings) : s.check =
    match s.requirements.findSome? s.missed? with
    | some cause => .error cause
    | none => .ok () := by
  simp only [requirements, List.findSome?_append, findSome?_key, List.findSome?_cons,
    List.findSome?_nil, missed?]
  rw [check, RefreshSettings.check, RefreshSettings.prewarmKeys, MaintenanceSettings.check]
  split_ifs <;> cases Key.parseAll s.refresh.prewarm <;> simp_all

theorem check_eq_ok_iff : s.check = .ok () ↔ s.Startable := by
  simp only [startable_iff, ← missed?_eq_none_iff, ← List.findSome?_eq_none_iff, check_eq_findSome?]
  cases s.requirements.findSome? s.missed? <;> simp

theorem check_eq_error_iff : s.check = .error cause ↔
    ∃ r, s.FirstMissed r ∧ s.missed? r = some cause := by
  have hfind : s.check = .error cause ↔ s.requirements.findSome? s.missed? = some cause := by
    rw [check_eq_findSome?]
    cases s.requirements.findSome? s.missed? <;> simp
  rw [hfind, List.findSome?_eq_some_iff]
  simp only [FirstMissed, ← missed?_eq_none_iff]
  constructor
  · rintro ⟨before, r, after, hsplit, hcause, hbefore⟩
    exact ⟨r, ⟨by simp [hcause], before, after, hsplit, hbefore⟩, hcause⟩
  · rintro ⟨r, ⟨_, before, after, hsplit, hbefore⟩, hcause⟩
    exact ⟨before, r, after, hsplit, hcause, hbefore⟩

/-- What is said is what is said of the first requirement that is missed. -/
theorem exists_message_iff : (∃ cause, s.check = .error cause ∧ cause.message = message) ↔
    ∃ r, s.FirstMissed r ∧ r.Complaint message := by
  simp only [check_eq_error_iff]
  constructor
  · rintro ⟨cause, ⟨r, hfirst, hcause⟩, hmessage⟩
    exact ⟨r, hfirst, (complaint_iff hfirst.1).mpr ⟨cause, hcause, hmessage⟩⟩
  · rintro ⟨r, hfirst, hcomplaint⟩
    obtain ⟨cause, hcause, hmessage⟩ := (complaint_iff hfirst.1).mp hcomplaint
    exact ⟨cause, ⟨r, hfirst, hcause⟩, hmessage⟩

/-! ## A start -/

/-- A start whose settings pass the checks does not end because of them. -/
theorem ending_withSettings_ne_invalid (world : Startup.World) (reached : Startup.Start)
    (h : s.check = .ok ()) (cause : SettingsError) :
    (Startup.withSettings world s reached).ending ≠ .failed (.invalid cause) := by
  obtain ⟨keys, hkeys⟩ := exists_prewarmKeys h
  have hendpoint : ∀ service, Startup.takeEndpoint world service ≠ .failed (.invalid cause) := by
    intro service
    unfold Startup.takeEndpoint
    split
    · simp
    · split <;> simp
  unfold Startup.withSettings
  rw [h]
  dsimp only
  split
  · simp
  · unfold Startup.withStore
    rw [hkeys]
    split
    · simp
    · next hnone => cases hnone
    · next hsome =>
      cases hsome
      split
      · simp
      · exact hendpoint _

theorem ending_withSettings_iff (world : Startup.World) (reached : Startup.Start) :
    (Startup.withSettings world s reached).ending = .failed (.invalid cause) ↔
      s.check = .error cause := by
  cases hcheck : s.check with
  | ok _ => simpa using ending_withSettings_ne_invalid world reached hcheck cause
  | error given => simp [Startup.withSettings, hcheck]

/-! ## All settings -/

/-- The checks of any settings say whether a start is possible with them, and if not, why. -/
theorem checked_settings (s : Settings) : s.Checked where
  passed := check_eq_ok_iff
  refused _ := exists_message_iff
  queue h _ := (check_eq_ok_iff.mp h).places
  ticker := by
    intro h loop hloop
    obtain ⟨henabled, heq⟩ := Option.ite_none_right_eq_some.mp hloop
    cases heq
    have hinterval := (check_eq_ok_iff.mp h).interval henabled
    exact Nat.mul_ne_zero hinterval (by decide)
  keys := by
    intro h
    obtain ⟨keys, hkeys⟩ := exists_prewarmKeys h
    exact ⟨keys, hkeys, Key.map_text_parseAll hkeys⟩
  ending world reached _ := ending_withSettings_iff world reached

/-- The second text is no key, and is the first thing that is wrong. -/
example : ({ refresh := { prewarm := ["/pci.ids", "pci.ids", "/"] }
             maintenance := { interval := 0 } } : Settings).check =
    .error (.badPrewarm (.noSlash "pci.ids")) := by decide

end Settings

end BenchDepot
