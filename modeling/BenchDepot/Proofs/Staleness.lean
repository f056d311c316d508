import BenchDepot.Proofs.Ages
import BenchDepot.Proofs.KeyGrammar

/-!
# Staleness to the nanosecond

The lifetime of an artifact is set in seconds, by the class of its key, and may be larger than any
number of seconds that can be counted.  Its age is a number of seconds with a rest, from two
instants that are written at offsets of their own.  Here the two meet: an artifact is stale exactly when the
nanoseconds between the two instants are more than those of the lifetime.

The instants are those that can be written at all.  What has four digits is the year at the offset;
in UTC the year may be the next one or the one before.

* `ttl_eq_clampSeconds`, `toInt_clampSeconds` — the lifetime of a key;
* `since_eq_divMod` — the age, as quotient and remainder;
* `stale_whenOlder` — all settings, keys and instants.
-/

namespace BenchDepot

/-- An instant that can be written: at its offset the year has four digits at most, and the offset
is below 26 hours. -/
structure Instant.IsWritten (t : Instant) : Prop where
  year : inYears (t.seconds.toInt + t.offset) = true
  offset : t.offset.natAbs ≤ maxOffset

/-- How many seconds the settings give to the artifact of a key. -/
def CacheSettings.secondsFor (s : CacheSettings) (key : Key) : UInt64 :=
  if key.text = "/benchmark.json" then s.aggregate
  else if key.text = "/pci.ids" ∨ key.text = "/usb.ids" then s.referenceTable
  else s.other

/-- How many nanoseconds the artifact of a key stays fresh: as many seconds as are set, but no more
than can be counted. -/
def CacheSettings.lifetimeFor (s : CacheSettings) (key : Key) : Int :=
  min ((s.secondsFor key).toNat : Int) Int64.maxValue.toInt * nanosPerSecond

/-- The artifact of a key is stale at some time if it is older than its lifetime. -/
structure StaleWhenOlder (s : CacheSettings) (key : Key) (generatedAt now : Instant) : Prop where
  exact : s.policy.isStale key generatedAt now = true ↔
    s.lifetimeFor key < now.count - generatedAt.count
  /-- Nothing that is computed on the way overflows. -/
  subtraction : (now.seconds - generatedAt.seconds).toInt =
      now.seconds.toInt - generatedAt.seconds.toInt ∧
    (now.seconds - generatedAt.seconds - 1).toInt =
      now.seconds.toInt - generatedAt.seconds.toInt - 1
  age : (now.since generatedAt).seconds.toInt =
      (now.count - generatedAt.count) / nanosPerSecond ∧
    (now.since generatedAt).nanos = (now.count - generatedAt.count) % nanosPerSecond
  /-- Other offsets make no difference. -/
  offsets : ∀ otherGeneratedAt otherNow : Instant, otherGeneratedAt.IsWritten →
    otherNow.IsWritten → otherGeneratedAt.count = generatedAt.count →
    otherNow.count = now.count → s.policy.isStale key otherGeneratedAt otherNow =
      s.policy.isStale key generatedAt now
  /-- What is stale stays so. -/
  later : ∀ laterNow : Instant, laterNow.IsWritten → now.count ≤ laterNow.count →
    s.policy.isStale key generatedAt now = true →
    s.policy.isStale key generatedAt laterNow = true
  /-- What is older than something stale is stale. -/
  older : ∀ earlierGeneratedAt : Instant, earlierGeneratedAt.IsWritten →
    earlierGeneratedAt.count ≤ generatedAt.count →
    s.policy.isStale key generatedAt now = true →
    s.policy.isStale key earlierGeneratedAt now = true
  /-- What comes from the future is fresh. -/
  future : now.count ≤ generatedAt.count → s.policy.isStale key generatedAt now = false
  /-- No artifact outlives the longest lifetime that can be counted, or a longer one. -/
  longest : Int64.maxValue.toInt ≤ (s.secondsFor key).toNat →
    s.policy.isStale key generatedAt now = false

/-! ## The lifetime -/

/-- A number of seconds is kept if it can be counted, and else becomes the largest that can. -/
theorem toInt_clampSeconds (seconds : UInt64) :
    (clampSeconds seconds).toInt = min (seconds.toNat : Int) Int64.maxValue.toInt := by
  have hmax : Int64.maxValue.toInt = 9223372036854775807 := by decide
  unfold clampSeconds
  by_cases hfits : seconds.toNat < 0x8000000000000000
  · rw [if_pos hfits, Int64.toInt_ofInt_of_le (by omega) (by omega)]
    omega
  · rw [if_neg hfits]
    omega

theorem CacheSettings.ttl_eq_clampSeconds (s : CacheSettings) (key : Key) :
    s.policy.ttl key = clampSeconds (s.secondsFor key) := by
  have haggregate : key.isAggregate = true ↔ key.text = "/benchmark.json" := by
    rw [Key.isAggregate, beq_iff_eq]
    exact Key.eq_iff_text key .aggregate
  have htables : key.isReferenceTable = true ↔ key.text = "/pci.ids" ∨ key.text = "/usb.ids" := by
    rw [Key.isReferenceTable, Bool.or_eq_true, beq_iff_eq, beq_iff_eq]
    exact or_congr (Key.eq_iff_text key .pciIds) (Key.eq_iff_text key .usbIds)
  unfold TtlPolicy.ttl secondsFor
  simp only [haggregate, htables]
  split
  · rfl
  · split <;> rfl

theorem CacheSettings.lifetimeFor_eq (s : CacheSettings) (key : Key) :
    (s.policy.ttl key).toInt * nanosPerSecond = s.lifetimeFor key := by
  rw [ttl_eq_clampSeconds, toInt_clampSeconds, lifetimeFor]

theorem CacheSettings.lifetimeFor_nonneg (s : CacheSettings) (key : Key) :
    0 ≤ s.lifetimeFor key := by
  have hmax : Int64.maxValue.toInt = 9223372036854775807 := by decide
  unfold lifetimeFor nanosPerSecond
  omega

/-! ## The age -/

namespace Instant

variable {now start : Instant}

theorem moderate_of_isWritten (h : now.IsWritten) : now.Moderate := by
  have hyear := bounds_of_inYears h.year
  have hoffset := h.offset
  unfold firstSecond lastSecond at hyear
  unfold maxOffset at hoffset
  unfold Moderate
  omega

/-- The whole seconds between two instants are the quotient of the nanoseconds, and the rest is
what remains. -/
theorem since_eq_divMod (hnow : now.Moderate) (hstart : start.Moderate) :
    (now.since start).seconds.toInt = (now.count - start.count) / nanosPerSecond ∧
      (now.since start).nanos = (now.count - start.count) % nanosPerSecond := by
  obtain ⟨hcount, hnanos⟩ := since_spec hnow hstart
  unfold nanosPerSecond at *
  omega

/-- No two instants are further apart than can be counted in seconds. -/
theorem count_sub_le (hnow : now.Moderate) (hstart : start.Moderate) :
    now.count - start.count ≤ Int64.maxValue.toInt * nanosPerSecond := by
  have hmax : Int64.maxValue.toInt = 9223372036854775807 := by decide
  have hnanos := now.nanos_lt
  unfold Moderate at hnow hstart
  unfold count nanosPerSecond at *
  omega

end Instant

/-! ## Every artifact -/

/-- An artifact is stale exactly when it is older than its lifetime, with any settings and whatever
its key, at any two instants that can be written. -/
theorem stale_whenOlder (s : CacheSettings) (key : Key) {generatedAt now : Instant}
    (hgenerated : generatedAt.IsWritten) (hnow : now.IsWritten) :
    StaleWhenOlder s key generatedAt now := by
  have hexact : ∀ {g n : Instant}, g.IsWritten → n.IsWritten →
      (s.policy.isStale key g n = true ↔ s.lifetimeFor key < n.count - g.count) := by
    intro g n hg hn
    rw [TtlPolicy.isStale_iff s.policy key (Instant.moderate_of_isWritten hg)
      (Instant.moderate_of_isWritten hn), s.lifetimeFor_eq]
  have hfresh : ¬s.lifetimeFor key < now.count - generatedAt.count →
      s.policy.isStale key generatedAt now = false := by
    intro h
    rw [← hexact hgenerated hnow] at h
    exact eq_false_of_ne_true h
  have hmoderate := Instant.moderate_of_isWritten hgenerated
  have hmoderate' := Instant.moderate_of_isWritten hnow
  refine ⟨hexact hgenerated hnow, Instant.toInt_sub_of_moderate hmoderate' hmoderate,
    Instant.since_eq_divMod hmoderate' hmoderate, ?_, ?_, ?_, ?_, ?_⟩
  · intro otherGeneratedAt otherNow hother hother' hsame hsame'
    rw [Bool.eq_iff_iff, hexact hother hother', hexact hgenerated hnow, hsame, hsame']
  · intro laterNow hlater hle hstale
    rw [hexact hgenerated hnow] at hstale
    rw [hexact hgenerated hlater]
    omega
  · intro earlierGeneratedAt hearlier hle hstale
    rw [hexact hgenerated hnow] at hstale
    rw [hexact hearlier hnow]
    omega
  · intro hle
    apply hfresh
    have hnonneg := s.lifetimeFor_nonneg key
    omega
  · intro hlong
    apply hfresh
    have hcounted : s.lifetimeFor key = Int64.maxValue.toInt * nanosPerSecond := by
      rw [CacheSettings.lifetimeFor, min_eq_right hlong]
    have hage := Instant.count_sub_le hmoderate' hmoderate
    omega

/-- The last nanosecond of the first second that can be written, at the largest offset. -/
def firstWritten : Instant :=
  ⟨Int64.ofInt (Instant.firstSecond - 93599), 999999999, 93599, by decide⟩

theorem nanosPerSecond_pos : 0 < nanosPerSecond := by decide

/-- Half a day and a nanosecond later, at another offset. -/
def halfDayOn : Instant :=
  ⟨Int64.ofInt (Instant.firstSecond - 93599 + 43201), 0, 50400, nanosPerSecond_pos⟩

/-- A key with neither an address nor a lifetime of its own. -/
def kernelList : Key :=
  ⟨['k', 'e', 'r', 'n', 'e', 'l'], ['l', 'i', 's', 't'], rfl, rfl⟩

/-- With half a day set, it is stale by that nanosecond, although in UTC both times lie before the
years that can be written. -/
theorem stale_whenOlder_byOneNanosecond :
    firstWritten.IsWritten ∧ halfDayOn.IsWritten ∧
      ({} : CacheSettings).policy.isStale kernelList firstWritten halfDayOn = true := by
  have hfirst : firstWritten.IsWritten := ⟨by decide, by decide⟩
  have hlater : halfDayOn.IsWritten := ⟨by decide, by decide⟩
  refine ⟨hfirst, hlater, ?_⟩
  have hstale := (stale_whenOlder {} kernelList hfirst hlater).exact
  exact hstale.mpr (by decide)

end BenchDepot
