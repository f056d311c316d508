import BenchDepot.Compaction
import BenchDepot.Proofs.Conservation

/-!
# The schedule of the compactions

With an interval of whole seconds, and runs that take whole seconds, no tick is late by a little: it
comes when it is due, or at least a second later and so is missed.  Either way the next one is due
an interval after it came.  So the starts follow one rule: a run starts an interval after the one
before it started, or when that one ends, whichever is later.  Whether a run fails makes no
difference to that; it is counted, as the service counts its compactions, whatever else the service
does between them.

Where the durations are any, a start may come closer to the one before it than the interval, by the
five milliseconds within which a late tick is punctual.

* `step_of_aligned` — one run; `runAll_of_aligned` — all of them;
* `starts_runAll_nearlyApart` — runs of any durations;
* `startsFrom` — the starts by the rule, and what follows from it;
* `compacted_run` — what the service counts;
* `scheduled_of_wholeSeconds` — every interval and every sequence of runs.
-/

namespace BenchDepot

namespace Compaction

/-- The starts of some runs, the first of which starts at some time: an interval after the one
before, or when that one ends. -/
def startsFrom (interval : Nat) : Nat → List Run → List Nat
  | _, [] => []
  | time, run :: rest =>
    time :: startsFrom interval (max (time + interval) (time + run.duration)) rest

end Compaction

/-- What a service counted of its compactions. -/
def Counters.compacted (c : Counters) : Compaction.Tally :=
  ⟨c.compactions, c.failedCompactions⟩

/-- Whether the compaction that an event is fails. -/
def Service.compacted? (s : Service) : Event → Option Bool
  | .compact => some s.faults.compact
  | _ => none

open Compaction

/-- A schedule without overlaps or bunches, of runs at an interval from some time on. -/
structure Scheduled (interval now : Nat) (runs : List Run) : Prop where
  /-- Every run starts, also after one that failed. -/
  all : ((Loop.start interval now).runAll runs).starts.length = runs.length
  first : runs ≠ [] →
    ((Loop.start interval now).runAll runs).starts[0]? = some (now + interval)
  next : ∀ {i time : Nat} {run : Run}, i + 1 < runs.length → runs[i]? = some run →
    ((Loop.start interval now).runAll runs).starts[i]? = some time →
      ((Loop.start interval now).runAll runs).starts[i + 1]? =
        some (max (time + interval) (time + run.duration))
  /-- No run starts before an earlier one ends. -/
  apart : ∀ {i j time later : Nat} {run : Run}, i < j → runs[i]? = some run →
    ((Loop.start interval now).runAll runs).starts[i]? = some time →
    ((Loop.start interval now).runAll runs).starts[j]? = some later → time + run.duration ≤ later
  /-- However long the runs take, there is no burst: between two starts there is an interval for
  each run from one to the other. -/
  spaced : ∀ {i j time later : Nat}, i < j →
    ((Loop.start interval now).runAll runs).starts[i]? = some time →
    ((Loop.start interval now).runAll runs).starts[j]? = some later →
      time + (j - i) * interval ≤ later ∧ time < later
  /-- Which runs fail changes no start. -/
  steady : ∀ others : List Run, others.map Run.duration = runs.map Run.duration →
    ((Loop.start interval now).runAll others).starts =
      ((Loop.start interval now).runAll runs).starts
  /-- Each run is counted once, by its result. -/
  tally : ((Loop.start interval now).runAll runs).tally =
    ⟨runs.countP fun run => !run.fails, runs.countP Run.fails⟩
  sum : ((Loop.start interval now).runAll runs).tally.runs = runs.length
  /-- A service counts the same whose compactions end as the runs do. -/
  counted : ∀ (s : Service) (events : List Event),
    s.log Service.compacted? events = runs.map Run.fails → s.counters.compacted = {} →
      (s.run events).counters.compacted = ((Loop.start interval now).runAll runs).tally

namespace Compaction

/-! ## One run -/

/-- A missed tick is forgotten, and a punctual one kept to. -/
theorem Ticker.due_next (ticker : Ticker) (comes : Nat) : (ticker.next comes).due =
    (if ticker.due + tolerance < comes then comes else ticker.due) + ticker.interval := by
  simp only [next, misses, decide_eq_true_eq]

namespace Loop

variable {loop : Loop} {run : Run}

/-- A loop whose next tick is due some whole seconds from now, or was due some whole seconds ago,
and whose interval is a number of whole seconds too. -/
structure Aligned (loop : Loop) : Prop where
  interval : nanosPerSecond ∣ loop.ticker.interval
  due : loop.now % nanosPerSecond = loop.ticker.due % nanosPerSecond

/-- When the next run starts. -/
def comes (loop : Loop) : Nat :=
  max loop.now loop.ticker.due

theorem aligned_start {interval : Nat} (now : Nat) (h : nanosPerSecond ∣ interval) :
    (start interval now).Aligned := by
  refine ⟨h, ?_⟩
  show now % nanosPerSecond = (now + interval) % nanosPerSecond
  rw [Nat.add_mod, Nat.mod_eq_zero_of_dvd h, Nat.add_zero, Nat.mod_mod]

/-- A tick of such a loop is due an interval after the one before it came: if that one was late at
all, it was missed. -/
theorem due_next_of_aligned (h : loop.Aligned) :
    (loop.ticker.next loop.comes).due = loop.comes + loop.ticker.interval := by
  have hdue := h.due
  have hcomes : loop.comes = max loop.now loop.ticker.due := rfl
  rw [Ticker.due_next]
  split
  · rfl
  · next hpunctual =>
    have hcomes_due : loop.comes = loop.ticker.due := by
      unfold Ticker.tolerance at hpunctual
      unfold nanosPerSecond at hdue
      omega
    rw [hcomes_due]

/-- One run: it starts when its tick comes, and the loop waits for the next tick when it ends. -/
theorem step_of_aligned (h : loop.Aligned) : loop.step run =
    ⟨⟨loop.ticker.interval, loop.comes + loop.ticker.interval⟩, loop.comes + run.duration,
      loop.starts ++ [loop.comes], loop.tally.add run.fails⟩ := by
  have hnext : loop.ticker.next loop.comes =
      ⟨loop.ticker.interval, loop.comes + loop.ticker.interval⟩ := by
    rw [← due_next_of_aligned h]
    rfl
  rw [← hnext]
  rfl

/-- A run of whole seconds keeps a loop aligned. -/
theorem aligned_step (h : loop.Aligned) (hrun : nanosPerSecond ∣ run.duration) :
    (loop.step run).Aligned := by
  rw [step_of_aligned h]
  refine ⟨h.interval, ?_⟩
  show (loop.comes + run.duration) % nanosPerSecond =
    (loop.comes + loop.ticker.interval) % nanosPerSecond
  rw [Nat.add_mod, Nat.mod_eq_zero_of_dvd hrun, Nat.add_mod loop.comes loop.ticker.interval,
    Nat.mod_eq_zero_of_dvd h.interval]

/-- The run after it starts an interval later, or when it ends. -/
theorem comes_step_of_aligned (h : loop.Aligned) : (loop.step run).comes =
    max (loop.comes + loop.ticker.interval) (loop.comes + run.duration) := by
  rw [step_of_aligned h, Nat.max_comm]
  rfl

/-- However late a tick is, the next one is due an interval after it came, or up to five
milliseconds before that. -/
theorem interval_le_comes_step (loop : Loop) (run : Run) :
    loop.comes + loop.ticker.interval ≤ (loop.step run).comes + Ticker.tolerance := by
  have hcomes : (loop.step run).comes =
      max (loop.comes + run.duration) (loop.ticker.next loop.comes).due := rfl
  have hdue : loop.comes + loop.ticker.interval ≤
      (loop.ticker.next loop.comes).due + Ticker.tolerance := by
    rw [Ticker.due_next]
    split <;> omega
  omega

/-! ## All runs -/

/-- The starts of some runs follow the rule. -/
theorem runAll_of_aligned {runs : List Run} (h : loop.Aligned)
    (hruns : ∀ run ∈ runs, nanosPerSecond ∣ run.duration) : (loop.runAll runs).starts =
      loop.starts ++ startsFrom loop.ticker.interval loop.comes runs := by
  induction runs generalizing loop with
  | nil => exact (List.append_nil loop.starts).symm
  | cons run rest ih =>
      have hrun := hruns run List.mem_cons_self
      have hrest := ih (aligned_step h hrun) fun other hother =>
        hruns other (List.mem_cons_of_mem run hother)
      have hinterval : (loop.step run).ticker.interval = loop.ticker.interval := rfl
      have hstarts : (loop.step run).starts = loop.starts ++ [loop.comes] := rfl
      rw [hinterval, hstarts, comes_step_of_aligned h, List.append_assoc] at hrest
      exact hrest

/-- Whatever the durations are, a start follows the one before it at no less than the interval, up
to five milliseconds. -/
theorem starts_runAll_nearlyApart (loop : Loop) (run : Run) (runs : List Run) :
    ∃ later, (loop.runAll (run :: runs)).starts = loop.starts ++ loop.comes :: later ∧
      (loop.comes :: later).IsChain fun first second =>
        first + loop.ticker.interval ≤ second + Ticker.tolerance := by
  induction runs generalizing loop run with
  | nil => exact ⟨[], rfl, List.IsChain.singleton loop.comes⟩
  | cons next rest ih =>
      obtain ⟨later, hstarts, hchain⟩ := ih (loop.step run) next
      have hbehind : (loop.step run).starts = loop.starts ++ [loop.comes] := rfl
      rw [hbehind, List.append_assoc] at hstarts
      refine ⟨(loop.step run).comes :: later, hstarts, ?_⟩
      exact List.isChain_cons_cons.mpr ⟨interval_le_comes_step loop run, hchain⟩

/-- The runs are counted by their results, whenever they start. -/
theorem tally_runAll (loop : Loop) (runs : List Run) :
    (loop.runAll runs).tally = (runs.map Run.fails).foldl Tally.add loop.tally := by
  induction runs generalizing loop with
  | nil => rfl
  | cons run rest ih => exact ih (loop.step run)

end Loop

namespace Tally

theorem foldl_add (tally : Tally) (results : List Bool) : results.foldl add tally =
    ⟨tally.succeeded + results.countP (!·), tally.failed + results.countP (·)⟩ := by
  induction results generalizing tally with
  | nil => rfl
  | cons fails rest ih =>
      rw [List.foldl_cons, ih, List.countP_cons, List.countP_cons]
      cases fails with
      | true => simp [add, Nat.add_assoc, Nat.add_comm 1]
      | false => simp [add, Nat.add_assoc, Nat.add_comm 1]

end Tally

/-! ## Starts by the rule -/

section Starts

variable {interval time : Nat} {runs : List Run} {i j a b : Nat} {run : Run}

theorem length_startsFrom (interval time : Nat) (runs : List Run) :
    (startsFrom interval time runs).length = runs.length := by
  induction runs generalizing time with
  | nil => rfl
  | cons run rest ih => simp only [startsFrom, List.length_cons, ih]

theorem startsFrom_congr {others : List Run}
    (h : others.map Run.duration = runs.map Run.duration) :
    startsFrom interval time others = startsFrom interval time runs := by
  induction runs generalizing time others with
  | nil =>
      rw [List.map_nil, List.map_eq_nil_iff] at h
      rw [h]
  | cons run rest ih =>
      obtain ⟨other, others, rfl, hduration, hrest⟩ := List.map_eq_cons_iff.mp h
      simp only [startsFrom, hduration, ih hrest]

/-- Each start gives the next one. -/
theorem startsFrom_next (hi : i + 1 < runs.length) (hrun : runs[i]? = some run)
    (ha : (startsFrom interval time runs)[i]? = some a) :
    (startsFrom interval time runs)[i + 1]? = some (max (a + interval) (a + run.duration)) := by
  induction runs generalizing time i with
  | nil => simp at hi
  | cons first rest ih =>
      rw [startsFrom, List.getElem?_cons_succ]
      cases i with
      | zero =>
          simp only [startsFrom, List.getElem?_cons_zero, Option.some.injEq] at hrun ha
          subst hrun ha
          cases rest with
          | nil => simp at hi
          | cons second rest => rfl
      | succ i =>
          simp only [startsFrom, List.getElem?_cons_succ] at hrun ha
          exact ih (by simpa using hi) hrun ha

/-- A later start comes after the end of a run, and an interval later for each run between. -/
theorem startsFrom_later (hij : i < j) (hrun : runs[i]? = some run)
    (ha : (startsFrom interval time runs)[i]? = some a)
    (hb : (startsFrom interval time runs)[j]? = some b) :
    a + run.duration ≤ b ∧ a + (j - i) * interval ≤ b := by
  obtain ⟨d, rfl⟩ := Nat.exists_eq_add_of_lt hij
  induction d generalizing b with
  | zero =>
      have hj : i + 0 + 1 < runs.length := by
        rw [← length_startsFrom interval time runs]
        exact (List.getElem?_eq_some_iff.mp hb).1
      rw [Nat.add_zero, startsFrom_next hj hrun ha, Option.some.injEq] at hb
      have hone : i + 0 + 1 - i = 1 := by omega
      rw [hone]
      omega
  | succ d ih =>
      -- the start before the later one is some time by the induction, and gives the later one
      have hj : i + d + 1 + 1 < runs.length := by
        rw [← length_startsFrom interval time runs]
        exact (List.getElem?_eq_some_iff.mp hb).1
      have hc : ∃ c, (startsFrom interval time runs)[i + d + 1]? = some c := by
        refine ⟨_, List.getElem?_eq_getElem ?_⟩
        rw [length_startsFrom]
        omega
      obtain ⟨c, hc⟩ := hc
      obtain ⟨hend, hspace⟩ := ih (by omega) hc
      have hlast : runs[i + d + 1]? = some runs[i + d + 1] := List.getElem?_eq_getElem (by omega)
      have hnext := startsFrom_next hj hlast hc
      have hb' : b = max (c + interval) (c + runs[i + d + 1].duration) :=
        Option.some.inj (hb.symm.trans hnext)
      have hsteps : i + (d + 1) + 1 - i = (i + d + 1 - i) + 1 := by omega
      rw [hsteps, Nat.add_mul, Nat.one_mul]
      omega

end Starts

end Compaction

/-! ## What the service counts -/

namespace Service

variable {s : Service} {key : Key}

theorem compacted_compact (s : Service) :
    s.compact.2.counters.compacted = s.counters.compacted.add s.faults.compact := by
  unfold compact Tally.add
  split <;> rfl

theorem compacted_read (s : Service) (key : Key) :
    (s.read key).2.counters.compacted = s.counters.compacted := by
  unfold read
  split
  · rfl
  · rw [counters_observe]
    cases s.finding key _ <;> rfl

theorem compacted_handle (s : Service) (key : Key) :
    (s.handle key).2.counters.compacted = s.counters.compacted := by
  cases hblocks : s.dispatches.blocks s.cooldown s.clock key with
  | true =>
      rw [handle_of_blocks hblocks]
      rfl
  | false =>
      obtain ⟨skipped, hcounters⟩ := counters_dispatch s key
      rw [handle_of_not_blocks hblocks, hcounters]
      rfl

theorem compacted_built (s : Service) (r : Rebuilt) :
    (s.built r).2.counters.compacted = s.counters.compacted := rfl

theorem compacted_submit (s : Service) (body : ByteArray) :
    (Http.submit s body).2.counters.compacted = s.counters.compacted := by
  rcases submit_cases s body with ⟨members, haccepted⟩ | ⟨hsame, _⟩ | ⟨hrejected, _⟩
  · rw [counters_of_accepted haccepted]
    rfl
  · rw [hsame]
  · rw [hrejected]
    rfl

theorem compacted_respond (s : Service) (request : Http.Request) :
    (Http.respond s request).2.counters.compacted = s.counters.compacted := by
  cases hupload : request.isUpload with
  | true =>
      rw [respond_of_isUpload hupload]
      exact compacted_submit s request.body
  | false =>
      have hanswer : (Http.respond s request).2 = (Http.answer s request).2 := rfl
      rw [hanswer]
      rcases answer_cases s request with ⟨key, _, hserve⟩ | hyes | hstay
      · rw [hserve, snd_serve]
        exact compacted_read s key
      · rw [hupload] at hyes
        cases hyes
      · rw [hstay]

/-- Only a compaction is counted as one, by its result. -/
theorem compacted_after (s : Service) (e : Event) : (s.after e).counters.compacted =
    (s.compacted? e).toList.foldl Tally.add s.counters.compacted := by
  have hdirect : e.isDirect = true → (s.after e).counters.compacted = s.counters.compacted := by
    intro h
    obtain ⟨store, hafter⟩ := store_of_isDirect h s
    rw [hafter]
  cases e with
  | turn passed world => rfl
  | compact => exact compacted_compact s
  | build => exact compacted_built s s.queries.build
  | rebuild => exact compacted_built s _
  | request request => exact compacted_respond s request
  | read key => exact compacted_read s key
  | notify key =>
      show (s.notify key).2.counters.compacted = s.counters.compacted
      rw [counters_notify]
      rfl
  | handle key => exact compacted_handle s key
  | receive =>
      by_cases hmet : s.met? .receive = none
      · rw [after_receive_of_met?_none hmet]
        rfl
      · obtain ⟨⟨u, key⟩, hsome⟩ := Option.ne_none_iff_exists'.mp hmet
        rw [(after_of_met? hsome).2, compacted_handle, counters_of_met? hsome]
        rfl
  | put name blob at_ => exact hdirect rfl
  | append records at_ => exact hdirect rfl
  | importRow m benchmarkType cpuText at_ => exact hdirect rfl
  | close => rfl

/-- The compactions of a run are counted by their results, whatever happens between them. -/
theorem compacted_run (s : Service) (events : List Event) : (s.run events).counters.compacted =
    (s.log compacted? events).foldl Tally.add s.counters.compacted := by
  induction events generalizing s with
  | nil => rfl
  | cons e rest ih => rw [run_cons, ih, compacted_after, log, List.foldl_append]

end Service

/-! ## Every sequence of runs -/

section Runs

variable {interval : Nat} {runs : List Run}

/-- The starts follow the rule, the first of them an interval from now. -/
theorem starts_of_wholeSeconds (now : Nat) (hinterval : nanosPerSecond ∣ interval)
    (hruns : ∀ run ∈ runs, nanosPerSecond ∣ run.duration) :
    ((Loop.start interval now).runAll runs).starts =
      startsFrom interval (now + interval) runs := by
  have hcomes : (Loop.start interval now).comes = now + interval :=
    max_eq_right (Nat.le_add_right now interval)
  rw [Loop.runAll_of_aligned (Loop.aligned_start now hinterval) hruns, hcomes]
  rfl

/-- Each run is counted once, by its result. -/
theorem tally_of_runs (interval now : Nat) (runs : List Run) :
    ((Loop.start interval now).runAll runs).tally =
      ⟨runs.countP fun run => !run.fails, runs.countP Run.fails⟩ := by
  rw [Loop.tally_runAll, Tally.foldl_add, List.countP_map, List.countP_map]
  simp only [Loop.start, Nat.zero_add]
  rfl

/-- With an interval of whole seconds, at least one, runs that take whole seconds neither overlap
nor bunch, whichever of them fail. -/
theorem scheduled_of_wholeSeconds (now : Nat) {seconds : Nat} (hinterval : 1 ≤ seconds)
    (hruns : ∀ run ∈ runs, nanosPerSecond ∣ run.duration) :
    Scheduled (seconds * nanosPerSecond) now runs := by
  have hpositive : 0 < seconds * nanosPerSecond := Nat.mul_pos hinterval (by decide)
  have hwhole : nanosPerSecond ∣ seconds * nanosPerSecond := Nat.dvd_mul_left nanosPerSecond seconds
  generalize seconds * nanosPerSecond = interval at hpositive hwhole
  have hstarts := starts_of_wholeSeconds now hwhole hruns
  have htally := tally_of_runs interval now runs
  refine ⟨?_, ?_, ?_, ?_, ?_, ?_, htally, ?_, ?_⟩
  · rw [hstarts, length_startsFrom]
  · intro hsome
    rw [hstarts]
    cases runs with
    | nil => exact absurd rfl hsome
    | cons run rest => rfl
  · intro i time run hi hrun htime
    rw [hstarts] at htime ⊢
    exact startsFrom_next hi hrun htime
  · intro i j time later run hij hrun htime hlater
    rw [hstarts] at htime hlater
    exact (startsFrom_later hij hrun htime hlater).1
  · intro i j time later hij htime hlater
    rw [hstarts] at htime hlater
    have hi : i < runs.length := by
      rw [← length_startsFrom interval (now + interval) runs]
      exact (List.getElem?_eq_some_iff.mp htime).1
    have hspace := (startsFrom_later hij (List.getElem?_eq_getElem hi) htime hlater).2
    have hstep : 1 * interval ≤ (j - i) * interval := Nat.mul_le_mul_right interval (by omega)
    omega
  · intro others hsame
    have hothers : ∀ run ∈ others, nanosPerSecond ∣ run.duration := by
      intro run hrun
      have hmem : run.duration ∈ runs.map Run.duration := hsame ▸ List.mem_map_of_mem hrun
      obtain ⟨other, hother, hduration⟩ := List.mem_map.mp hmem
      rw [← hduration]
      exact hruns other hother
    rw [hstarts, starts_of_wholeSeconds now hwhole hothers, startsFrom_congr hsame]
  · have hlength := List.length_eq_countP_add_countP Run.fails (l := runs)
    simp only [Bool.not_eq_true, Bool.decide_eq_false] at hlength
    rw [htally, Tally.runs, hlength, Nat.add_comm]
  · intro s events hresults hnew
    rw [Loop.tally_runAll, Service.compacted_run, hresults, hnew]
    rfl

end Runs

/-- A long run, one that fails, and one more. -/
def lateRuns : List Run :=
  [⟨5 * nanosPerSecond, false⟩, ⟨0, true⟩, ⟨nanosPerSecond, false⟩]

/-- Every two seconds, the second of these runs starts when the first one ends, and the third one
two seconds after the second, although it failed. -/
theorem scheduled_afterLongRun :
    1 ≤ 2 ∧ (∀ run ∈ lateRuns, nanosPerSecond ∣ run.duration) ∧
      ((Loop.start (2 * nanosPerSecond) 0).runAll lateRuns).starts =
        [2 * nanosPerSecond, 7 * nanosPerSecond, 9 * nanosPerSecond] := by
  have hruns : ∀ run ∈ lateRuns, nanosPerSecond ∣ run.duration := by decide
  have hscheduled := scheduled_of_wholeSeconds 0 (by decide : 1 ≤ 2) hruns
  have hfirst := hscheduled.first (by decide)
  have hsecond := hscheduled.next (by decide) rfl hfirst
  have hthird := hscheduled.next (by decide) rfl hsecond
  refine ⟨by decide, hruns, List.ext_getElem? fun i => ?_⟩
  match i with
  | 0 => exact hfirst
  | 1 => exact hsecond
  | 2 => exact hthird
  | i + 3 =>
      have hlength := hscheduled.all
      rw [List.getElem?_eq_none (hlength.le.trans (Nat.le_add_left 3 i))]
      rfl

/-- A run that ends four milliseconds late is taken for punctual, and the next one comes so much
earlier. -/
example : ((Loop.start 1000000000 0).runAll [⟨1004000000, false⟩, ⟨0, false⟩, ⟨0, false⟩]).starts =
    [1000000000, 2004000000, 3000000000] := by decide

end BenchDepot
