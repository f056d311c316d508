import BenchDepot.Freshness

/-!
# Ages to the nanosecond

An instant is a number of nanoseconds since 1970, whatever offset it is written with.  Seconds of a
moderate size are subtracted without overflow, and those of every year that can be written are of
such a size.  So the age of an artifact is the exact difference of two such numbers, and the
artifact is stale when that is more than its lifetime.

* `Instant.since_spec` — the time between two instants;
* `TtlPolicy.isStale_iff` — when an artifact is stale.
-/

namespace BenchDepot

namespace Instant

variable {now start : Instant}

/-- The nanoseconds since 1970-01-01 00:00 UTC. -/
def count (t : Instant) : Int :=
  t.seconds.toInt * nanosPerSecond + t.nanos

/-- Whether the year of an instant has four digits at most. -/
def hasYear (t : Instant) : Bool :=
  inYears t.seconds.toInt

/-- Whether the seconds of an instant are at most half of the largest that can be counted. -/
def Moderate (t : Instant) : Prop :=
  t.seconds.toInt.natAbs ≤ 0x3fffffffffffffff

theorem bounds_of_inYears {seconds : Int} (h : inYears seconds = true) :
    firstSecond ≤ seconds ∧ seconds ≤ lastSecond := by
  simpa [inYears] using h

theorem moderate_of_hasYear (h : now.hasYear = true) : now.Moderate := by
  have hbounds := bounds_of_inYears h
  unfold firstSecond lastSecond at hbounds
  unfold Moderate
  omega

/-- Moderate seconds are subtracted without overflow, with one second to spare. -/
theorem toInt_sub_of_moderate (hnow : now.Moderate) (hstart : start.Moderate) :
    (now.seconds - start.seconds).toInt = now.seconds.toInt - start.seconds.toInt ∧
      (now.seconds - start.seconds - 1).toInt = now.seconds.toInt - start.seconds.toInt - 1 := by
  unfold Moderate at hnow hstart
  have hsub : (now.seconds - start.seconds).toInt = now.seconds.toInt - start.seconds.toInt := by
    rw [Int64.toInt_sub]
    exact Int.bmod_eq_of_le (by omega) (by omega)
  refine ⟨hsub, ?_⟩
  have hone : (1 : Int64).toInt = 1 := by decide
  rw [Int64.toInt_sub, hsub, hone]
  exact Int.bmod_eq_of_le (by omega) (by omega)

/-- The time from one instant to another is their difference, and its rest is less than a second. -/
theorem since_spec (hnow : now.Moderate) (hstart : start.Moderate) :
    (now.since start).seconds.toInt * nanosPerSecond + (now.since start).nanos =
        now.count - start.count ∧
      (now.since start).nanos < nanosPerSecond := by
  obtain ⟨hsub, hsub'⟩ := toInt_sub_of_moderate hnow hstart
  have hnanos := now.nanos_lt
  have hnanos' := start.nanos_lt
  unfold since
  split
  · next hle =>
    simp only [hsub, count, nanosPerSecond] at *
    omega
  · next hgt =>
    simp only [hsub', count, nanosPerSecond] at *
    omega

end Instant

/-- A length of time exceeds some seconds if it has more nanoseconds. -/
theorem Elapsed.exceeds_iff {e : Elapsed} (h : e.nanos < nanosPerSecond) (seconds : Int64) :
    e.exceeds seconds = true ↔
      seconds.toInt * nanosPerSecond < e.seconds.toInt * nanosPerSecond + e.nanos := by
  have hlt : seconds < e.seconds ↔ seconds.toInt < e.seconds.toInt := Int64.lt_iff_toInt_lt
  have heq : e.seconds = seconds ↔ e.seconds.toInt = seconds.toInt := Int64.toInt_inj.symm
  simp only [exceeds, Bool.or_eq_true, Bool.and_eq_true, decide_eq_true_eq, beq_iff_eq, hlt, heq,
    nanosPerSecond] at *
  omega

/-- An artifact is stale when more nanoseconds than its lifetime have passed. -/
theorem TtlPolicy.isStale_iff (policy : TtlPolicy) (key : Key) {generatedAt now : Instant}
    (hgenerated : generatedAt.Moderate) (hnow : now.Moderate) :
    policy.isStale key generatedAt now = true ↔
      (policy.ttl key).toInt * nanosPerSecond < now.count - generatedAt.count := by
  obtain ⟨hcount, hnanos⟩ := Instant.since_spec hnow hgenerated
  rw [isStale, Elapsed.exceeds_iff hnanos, hcount]

end BenchDepot
