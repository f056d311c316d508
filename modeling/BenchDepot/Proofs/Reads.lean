import BenchDepot.Proofs.Ages
import BenchDepot.Proofs.Queue

/-!
# Reads that serve what is stored

Three things meet in a read: the artifact, its age, and whether a signal would find a place.  The
answer hangs on the first alone.  The age decides which counter moves and whether the key is
signalled, and the queue whether that signal waits or is dropped.  So a reader never waits for a
refresh, and cannot tell whether there will be one.

* `finds_finding` — what a read finds is told by the exact age of the artifact;
* `observe_eq` — what is found is counted, and what is not fresh is signalled once;
* `read_servesWhileStale` — every read of every key, at any time and with any queue.
-/

namespace BenchDepot

open Service (Finding Quiet)

/-- How many reads found this. -/
def Counters.reads (c : Counters) : Finding → Nat
  | .fresh => c.freshReads
  | .stale => c.staleReads
  | .missing => c.missingReads

/-- Counters with one more read that found this. -/
def Counters.withRead (c : Counters) : Finding → Counters
  | .fresh => { c with freshReads := c.freshReads + 1 }
  | .stale => { c with staleReads := c.staleReads + 1 }
  | .missing => { c with missingReads := c.missingReads + 1 }

theorem Counters.reads_withRead (c : Counters) (found other : Finding) :
    (c.withRead found).reads other = c.reads other + if other = found then 1 else 0 := by
  cases found <;> cases other <;> rfl

/-- What a read signals that found this: the key, unless it is fresh. -/
def Service.Finding.signalled (key : Key) : Finding → List Key
  | .fresh => []
  | .stale => [key]
  | .missing => [key]

namespace Service

/-- The nanoseconds since the artifact of a key was generated, if there is one. -/
def age? (s : Service) (key : Key) : Option Int :=
  (s.store.artifact? key.text).map fun artifact => s.now.count - artifact.generatedAt.count

/-- The nanoseconds for which the artifact of a key is fresh. -/
def lifetime (s : Service) (key : Key) : Int :=
  (s.settings.cache.policy.ttl key).toInt * nanosPerSecond

/-- What there is to be found under a key. -/
def Finds (s : Service) (key : Key) : Finding → Prop
  | .fresh => ∃ age, s.age? key = some age ∧ age ≤ s.lifetime key
  | .stale => ∃ age, s.age? key = some age ∧ s.lifetime key < age
  | .missing => s.age? key = none

end Service

/-- A read of a key that answers with what is stored, and finds it fresh, stale or missing. -/
structure ReadsAs (s : Service) (key : Key) (found : Finding) : Prop where
  /-- This and nothing else is there to be found. -/
  finds_iff : ∀ other, s.Finds key other ↔ other = found
  answer : (s.read key).1 = .ok (s.store.artifact? key.text)
  /-- The read is counted, and then the key is signalled once or not at all. -/
  after : (s.read key).2 =
    ((s.count fun c => c.withRead found).notifyAll (found.signalled key)).2
  /-- The queue grows at its end by what is signalled, if there is a place. -/
  queue : (s.read key).2.signals = { s.signals with
    pending := s.signals.pending ++ if s.signals.hasRoom then found.signalled key else [] }
  /-- One of the three counters grows, by one. -/
  reads : ∀ other, (s.read key).2.counters.reads other =
    s.counters.reads other + if other = found then 1 else 0
  /-- A signal without a place is counted as dropped. -/
  dropped : (s.read key).2.counters.droppedSignals = s.counters.droppedSignals +
    if s.signals.hasRoom then 0 else (found.signalled key).length
  /-- No other counter moves. -/
  counters : (s.read key).2.counters = { s.counters with
    freshReads := (s.read key).2.counters.reads .fresh
    staleReads := (s.read key).2.counters.reads .stale
    missingReads := (s.read key).2.counters.reads .missing
    droppedSignals := (s.read key).2.counters.droppedSignals }
  /-- The store is the same, and so is everything else. -/
  quiet : Quiet s (s.read key).2

/-- A key whose reads answer with what is stored, however old it is and whatever becomes of the
signal. -/
structure ServesWhileStale (s : Service) (key : Key) : Prop where
  /-- A lookup that fails ends the read: nothing is signalled and nothing is counted. -/
  failed : ∀ cause, s.lookup key = .error cause → s.read key = (.error cause, s)
  /-- Any other read answers with what is stored, and finds something. -/
  served : ∀ artifact?, s.lookup key = .ok artifact? → ∃ found, ReadsAs s key found
  /-- The answer is that of the lookup: not the time, nor the lifetimes, nor the queue tell in
  it. -/
  same : ∀ t : Service, t.lookup key = s.lookup key → (t.read key).1 = (s.read key).1

namespace Service

variable {s : Service} {key : Key} {artifact? : Option Artifact}

/-! ## What is found -/

/-- At most one thing is there to be found. -/
theorem finds_unique {found other : Finding} (hfound : s.Finds key found)
    (hother : s.Finds key other) : other = found := by
  cases hage : s.age? key with
  | none => cases found <;> cases other <;> simp_all [Finds]
  | some age =>
      cases found <;> cases other <;> simp only [Finds, hage, Option.some.injEq, exists_eq_left',
        reduceCtorEq] at hfound hother ⊢ <;> omega

/-- What a read finds is there to be found, whenever the times are of a moderate size. -/
theorem finds_finding (hnow : s.now.Moderate)
    (hstored : ∀ artifact, s.store.artifact? key.text = some artifact →
      artifact.generatedAt.Moderate) :
    s.Finds key (s.finding key (s.store.artifact? key.text)) := by
  cases hartifact : s.store.artifact? key.text with
  | none =>
      show s.age? key = none
      rw [age?, hartifact]
      rfl
  | some artifact =>
      have hage : s.age? key = some (s.now.count - artifact.generatedAt.count) := by
        rw [age?, hartifact]
        rfl
      have hiff := TtlPolicy.isStale_iff s.settings.cache.policy key
        (hstored artifact hartifact) hnow
      unfold finding
      dsimp only
      split
      · next hstale => exact ⟨_, hage, hiff.mp hstale⟩
      · next hfresh => exact ⟨_, hage, Int.not_lt.mp fun hlt => hfresh (hiff.mpr hlt)⟩

/-! ## What becomes of it -/

/-- What is found is counted, and what is not fresh is signalled once. -/
theorem observe_eq (s : Service) (key : Key) (found : Finding) :
    s.observe key found =
      ((s.count fun c => c.withRead found).notifyAll (found.signalled key)).2 := by
  cases found <;> rfl

theorem signals_notify (s : Service) (key : Key) : (s.notify key).2.signals =
    { s.signals with
      pending := s.signals.pending ++ if s.signals.hasRoom then [key] else [] } := by
  unfold notify
  split
  · next hroom =>
    show s.signals.send key = _
    rw [Signals.send, if_pos hroom]
  · next hroom => simp [count]

theorem counters_notify (s : Service) (key : Key) : (s.notify key).2.counters =
    { s.counters with
      droppedSignals := s.counters.droppedSignals + if s.signals.hasRoom then 0 else 1 } := by
  unfold notify
  split <;> rfl

/-- The queue after what is found was signalled, or not. -/
theorem signals_observe (s : Service) (key : Key) (found : Finding) :
    (s.observe key found).signals = { s.signals with
      pending := s.signals.pending ++ if s.signals.hasRoom then found.signalled key else [] } := by
  cases found with
  | fresh => simp [observe, count, Finding.signalled]
  | stale => exact signals_notify _ key
  | missing => exact signals_notify _ key

/-- A read signals at most its key. -/
theorem signals_read (s : Service) (key : Key) : ∃ keys, keys.Sublist [key] ∧
    (s.read key).2.signals = { s.signals with pending := s.signals.pending ++ keys } := by
  unfold read
  split
  · exact ⟨[], List.nil_sublist _, by rw [List.append_nil]⟩
  · refine ⟨_, ?_, signals_observe s key _⟩
    split
    · next found _ => cases s.finding key _ <;> simp [Finding.signalled]
    · exact List.nil_sublist _

/-- The counters after what is found was counted, and its signal dropped, or not. -/
theorem counters_observe (s : Service) (key : Key) (found : Finding) :
    (s.observe key found).counters = { s.counters.withRead found with
      droppedSignals := s.counters.droppedSignals +
        if s.signals.hasRoom then 0 else (found.signalled key).length } := by
  cases found with
  | fresh => simp [observe, count, Counters.withRead, Finding.signalled]
  | stale => exact counters_notify _ key
  | missing => exact counters_notify _ key

/-- A read whose lookup succeeds answers with what is stored, and finds it so. -/
theorem readsAs_of_lookup (hnow : s.now.Moderate)
    (hstored : ∀ artifact, s.store.artifact? key.text = some artifact →
      artifact.generatedAt.Moderate)
    (h : s.lookup key = .ok artifact?) :
    ReadsAs s key (s.finding key (s.store.artifact? key.text)) := by
  have hfinds := finds_finding hnow hstored
  have hread : s.read key = (.ok (s.store.artifact? key.text),
      s.observe key (s.finding key (s.store.artifact? key.text))) := by
    rw [read, h, eq_of_answer h]
  generalize s.finding key (s.store.artifact? key.text) = found at hfinds hread
  have hcounters := counters_observe s key found
  refine ⟨?_, ?_, ?_, ?_, ?_, ?_, ?_, quiet_read s key⟩
  · intro other
    constructor
    · exact finds_unique hfinds
    · rintro rfl
      exact hfinds
  · rw [hread]
  · rw [hread, observe_eq]
  · rw [hread, signals_observe]
  · intro other
    rw [hread, ← Counters.reads_withRead, hcounters]
    cases other <;> rfl
  · rw [hread, hcounters]
  · rw [hread, hcounters]
    cases found <;> rfl

end Service

/-- Every read answers with what is stored, at any time whose distance from 1970 can be doubled, and
with any queue. -/
theorem read_servesWhileStale (s : Service) (key : Key) (hnow : s.now.Moderate)
    (hstored : ∀ artifact, s.store.artifact? key.text = some artifact →
      artifact.generatedAt.Moderate) : ServesWhileStale s key := by
  refine ⟨?_, ?_, ?_⟩
  · intro cause h
    rw [Service.read, h]
  · intro artifact? h
    exact ⟨_, Service.readsAs_of_lookup hnow hstored h⟩
  · intro t ht
    rw [Service.read, Service.read, ht]
    cases s.lookup key <;> rfl

/-- A service with a table of device names fifteen days old, and no receiver. -/
def closedWithOldTable : Service :=
  { (Service.fresh {} .epoch) with
    store := ⟨[], TextMap.empty.insert Key.pciIds.text
      ⟨"8086  Intel\n".toUTF8, Instant.epoch.before 1296000⟩⟩
    signals := (Signals.ofCapacity 8).closed }

/-- The table is stale, and served all the same; its signal is dropped. -/
theorem read_servesWhileStale_closedWithOldTable :
    closedWithOldTable.Finds Key.pciIds .stale ∧
      ServesWhileStale closedWithOldTable Key.pciIds := by
  refine ⟨⟨1296000 * 1000000000, by decide, by decide⟩, ?_⟩
  refine read_servesWhileStale closedWithOldTable Key.pciIds ?_ ?_
  · unfold Instant.Moderate
    decide
  · intro artifact h
    have hartifact : closedWithOldTable.store.artifact? Key.pciIds.text =
        some ⟨"8086  Intel\n".toUTF8, Instant.epoch.before 1296000⟩ :=
      TextMap.get?_insert_self _ _ _
    rw [hartifact] at h
    cases h
    unfold Instant.Moderate
    decide

end BenchDepot
