import BenchDepot.Proofs.Debounce
import BenchDepot.Proofs.Dispatch
import Mathlib.Data.Finset.Dedup

/-!
# Cooldowns along a run

A signal is debounced by what the table of dispatches remembers, and the table forgets.  Here its
answers are compared with those of a record that forgets nothing, over whole runs in which time
passes between the events and during them, dispatches fail or last longer than the cooldown, and
keys come in any order.

* `mirrors_handle`, `mirrors_run` — the table mirrors the full record of a run, signal by signal;
* `answersLikeFullRecord_of_few_keys` — the answers of a run are those of the full record.
-/

namespace BenchDepot

open Dispatches (Mirrors)

/-- The circumstances of a signal: when it is handled, when a dispatch of it starts, and what the
dispatch comes to. -/
structure Occasion where
  came : Nat
  start : Nat
  attempt : Outcome

/-- A signal that was handled. -/
structure Call extends Occasion where
  key : Key
  handled : Handled

/-- Whether a call was a dispatch that starts a cooldown. -/
def Call.counts (advanceOnFailure : Bool) (call : Call) : Bool :=
  call.handled.outcome.counts advanceOnFailure

/-- What becomes of the signals of one key where every start that counts is kept for good. -/
def unpruned (cooldown : Nat) (advanceOnFailure : Bool) : List Nat → List Occasion → List Outcome
  | _, [] => []
  | kept, occasion :: rest =>
    if kept.any fun start => occasion.came < start + cooldown then
      .debounced :: unpruned cooldown advanceOnFailure kept rest
    else if occasion.attempt.counts advanceOnFailure then
      occasion.attempt :: unpruned cooldown advanceOnFailure (occasion.start :: kept) rest
    else
      occasion.attempt :: unpruned cooldown advanceOnFailure kept rest

namespace Service

variable {s t : Service} {e : Event} {events : List Event} {full : Dispatches}

/-- The handling of a signal, as it is noted. -/
def call (s : Service) (key : Key) : Call where
  came := s.clock
  start := s.dispatchStart
  attempt := (s.dispatch key).1.outcome
  key := key
  handled := (s.handle key).1

/-- The call that an event makes, if it handles a signal. -/
def call? (s : Service) (e : Event) : Option Call :=
  (s.met? e).map fun m => m.1.call m.2

/-- The calls of a run, oldest first. -/
def calls (s : Service) (events : List Event) : List Call :=
  s.log call? events

/-- Whether failed dispatches start a cooldown. -/
abbrev advances (s : Service) : Bool :=
  s.settings.refresh.advanceOnFailure

/-- The dispatches of some calls that count, newest first. -/
def recorded (advanceOnFailure : Bool) (calls : List Call) : Dispatches :=
  ((calls.filter fun c => c.counts advanceOnFailure).map fun c => (c.key, c.start)).reverse

/-- A run in which every signal is answered as if no dispatch were ever forgotten. -/
structure AnswersLikeFullRecord (s : Service) (events : List Event) : Prop where
  /-- Key by key, the outcomes are those of a record that keeps every start; what other keys do
  has no part in it. -/
  outcomes : ∀ key, (((s.calls events).filter fun c => c.key = key).map fun c =>
      c.handled.outcome) =
    unpruned s.cooldown s.advances []
      (((s.calls events).filter fun c => c.key = key).map Call.toOccasion)
  /-- A signal is debounced exactly when an earlier dispatch of its key that counts started less
  than the cooldown before. -/
  debounced_iff : ∀ earlier call later, s.calls events = earlier ++ call :: later →
    (call.handled.outcome = .debounced ↔ ∃ c ∈ earlier, c.key = call.key ∧
      c.counts s.advances = true ∧ call.came < c.start + s.cooldown)
  /-- A signal that is not debounced asks the source of its key once, and one that is debounced
  asks nothing. -/
  asked : ∀ call ∈ s.calls events, call.handled.asked =
    if call.handled.outcome = .debounced then [] else [s.settings.origins.source call.key]
  /-- No dispatch starts less than the cooldown after one of the same key that counts. -/
  apart : ∀ earlier call later, s.calls events = earlier ++ call :: later →
    call.handled.outcome ≠ .debounced → ∀ c ∈ earlier, c.key = call.key →
      c.counts s.advances = true → c.start + s.cooldown ≤ call.start

/-! ## One event -/

/-- Every other event leaves the settings and the table of dispatches alone, and takes no time
back. -/
theorem after_of_met?_none (h : s.met? e = none) : (s.after e).settings = s.settings ∧
    (s.after e).dispatches = s.dispatches ∧ s.clock ≤ (s.after e).clock := by
  have hsteady : ∀ {u}, Steady s u →
      u.settings = s.settings ∧ u.dispatches = s.dispatches ∧ s.clock ≤ u.clock :=
    fun hu => ⟨hu.settings, hu.dispatches, le_of_eq hu.clock.symm⟩
  have hdirect : e.isDirect = true → (s.after e).settings = s.settings ∧
      (s.after e).dispatches = s.dispatches ∧ s.clock ≤ (s.after e).clock := by
    intro hdirect
    obtain ⟨store, hafter⟩ := store_of_isDirect hdirect s
    rw [hafter]
    exact ⟨rfl, rfl, le_refl _⟩
  have hbuilt : ∀ r, (s.built r).2.settings = s.settings ∧
      (s.built r).2.dispatches = s.dispatches ∧ s.clock ≤ (s.built r).2.clock := by
    intro r
    obtain ⟨clock, chance, counters, hle, heq⟩ := built_steady s r
    rw [heq]
    exact ⟨rfl, rfl, hle⟩
  cases e with
  | turn passed world => exact ⟨rfl, rfl, Nat.le_add_right _ _⟩
  | request request => exact hsteady (steady_respond s request)
  | read key => exact hsteady (quiet_read s key).toSteady
  | notify key => exact hsteady (quiet_notify s key).toSteady
  | handle key => cases h
  | receive =>
      rw [after_receive_of_met?_none h]
      exact hsteady (Steady.refl s)
  | put key blob at_ => exact hdirect rfl
  | append records at_ => exact hdirect rfl
  | importRow m benchmarkType cpuText at_ => exact hdirect rfl
  | build => exact hbuilt _
  | rebuild => exact hbuilt _
  | compact => exact hsteady (quiet_compact s).toSteady
  | close => exact ⟨rfl, rfl, le_refl _⟩

theorem cooldown_congr (h : t.settings = s.settings) : t.cooldown = s.cooldown := by
  rw [cooldown, cooldown, h]

/-- A handled signal is debounced exactly when the table blocks its key. -/
theorem handle_debounced_iff (s : Service) (key : Key) :
    (s.handle key).1.outcome = .debounced ↔
      s.dispatches.blocks s.cooldown s.clock key = true := by
  cases hblocks : s.dispatches.blocks s.cooldown s.clock key with
  | true => simp [handle_of_blocks hblocks]
  | false => simp [handle_of_not_blocks hblocks, (dispatch_handled s key).1]

/-- Handling a signal never changes the settings. -/
theorem settings_handle (s : Service) (key : Key) : (s.handle key).2.settings = s.settings := by
  cases hblocks : s.dispatches.blocks s.cooldown s.clock key with
  | true =>
      rw [handle_of_blocks hblocks]
      rfl
  | false =>
      rw [handle_of_not_blocks hblocks]
      exact (dispatch_course s key).1

/-- No event changes the settings. -/
theorem settings_after (s : Service) (e : Event) : (s.after e).settings = s.settings := by
  cases hmet : s.met? e with
  | none => exact (after_of_met?_none hmet).1
  | some m =>
      obtain ⟨u, key⟩ := m
      obtain ⟨hu, hafter⟩ := after_of_met? hmet
      rw [hafter, settings_handle]
      exact hu.settings

theorem settings_run (s : Service) (events : List Event) :
    (s.run events).settings = s.settings :=
  run_induction (motive := fun t => t.settings = s.settings) rfl
    (fun t e ht => (settings_after t e).trans ht) events

/-- What the call of a handled signal adds to the full record: its dispatch, if it counts. -/
theorem recorded_call (s : Service) (key : Key) (advanceOnFailure : Bool) :
    recorded advanceOnFailure [s.call key] =
      if (s.handle key).1.outcome.counts advanceOnFailure then [(key, s.dispatchStart)] else [] := by
  by_cases hcounts : (s.handle key).1.outcome.counts advanceOnFailure = true <;>
    simp [recorded, call, Call.counts, hcounts]

/-- Handling a signal keeps the table a mirror of the full record, to which the dispatch is added
if it counts. -/
theorem mirrors_handle (h : Mirrors s.dispatches full s.cooldown s.clock)
    (hroom : s.dispatches.length < maxTracked) (key : Key) :
    Mirrors (s.handle key).2.dispatches (recorded s.advances [s.call key] ++ full) s.cooldown
      (s.handle key).2.clock := by
  rw [recorded_call]
  cases hblocks : s.dispatches.blocks s.cooldown s.clock key with
  | true =>
      rw [handle_of_blocks hblocks]
      exact h
  | false =>
      obtain ⟨_, hstart⟩ := dispatch_course s key
      have hcame : s.clock ≤ s.dispatchStart := Nat.le_add_right _ _
      rw [handle_of_not_blocks hblocks, dispatch_dispatches]
      by_cases hcounts : (s.dispatch key).1.outcome.counts s.advances = true
      · rw [if_pos hcounts, if_pos hcounts]
        exact h.record hroom hcame hstart
      · rw [if_neg hcounts, if_neg hcounts]
        exact h.wait (le_trans hcame hstart)

/-- One event keeps the table a mirror of the full record, to which the event's call is added if it
counts. -/
theorem mirrors_after (h : Mirrors s.dispatches full s.cooldown s.clock)
    (hroom : s.dispatches.length < maxTracked) (e : Event) :
    Mirrors (s.after e).dispatches (recorded s.advances (s.call? e).toList ++ full) s.cooldown
      (s.after e).clock := by
  cases hmet : s.met? e with
  | none =>
      obtain ⟨_, hdispatches, hclock⟩ := after_of_met?_none hmet
      rw [hdispatches, call?, hmet]
      exact h.wait hclock
  | some m =>
      obtain ⟨u, key⟩ := m
      obtain ⟨hu, hafter⟩ := after_of_met? hmet
      have hcooldown : u.cooldown = s.cooldown := cooldown_congr hu.settings
      have hadvances : u.advances = s.advances := by rw [advances, hu.settings]
      rw [← hu.dispatches, ← hcooldown, ← hu.clock] at h
      rw [← hu.dispatches] at hroom
      have hhandle := mirrors_handle h hroom key
      rw [hafter, call?, hmet, ← hcooldown, ← hadvances]
      exact hhandle

/-! ## Whole runs -/

theorem recorded_append (advanceOnFailure : Bool) (first second : List Call) :
    recorded advanceOnFailure (first ++ second) =
      recorded advanceOnFailure second ++ recorded advanceOnFailure first := by
  simp [recorded]

theorem mem_recorded {advanceOnFailure : Bool} {calls : List Call} {entry : Key × Nat} :
    entry ∈ recorded advanceOnFailure calls ↔
      ∃ c ∈ calls, c.counts advanceOnFailure = true ∧ (c.key, c.start) = entry := by
  simp [recorded, and_assoc]

/-- Along a run that handles few keys, the table mirrors the full record. -/
theorem mirrors_run {keys : Finset Key} (hcard : keys.card < maxTracked)
    (h : Mirrors s.dispatches full s.cooldown s.clock) (hfull : ∀ entry ∈ full, entry.1 ∈ keys)
    (hcalls : ∀ c ∈ s.calls events, c.key ∈ keys) :
    Mirrors (s.run events).dispatches (recorded s.advances (s.calls events) ++ full) s.cooldown
      (s.run events).clock := by
  induction events generalizing s full with
  | nil => exact h
  | cons e rest ih =>
      have hroom : s.dispatches.length < maxTracked := lt_of_le_of_lt (h.length_le hfull) hcard
      have hafter := mirrors_after h hroom e
      have hlog : s.calls (e :: rest) = (s.call? e).toList ++ (s.after e).calls rest := rfl
      rw [hlog] at hcalls ⊢
      have hcooldown : (s.after e).cooldown = s.cooldown := cooldown_congr (settings_after s e)
      have hadvances : (s.after e).advances = s.advances := by rw [advances, settings_after]
      rw [← hcooldown] at hafter
      have hrest := ih hafter
        (fun entry hentry => by
          rcases List.mem_append.mp hentry with hnew | hold
          · obtain ⟨c, hc, _, rfl⟩ := mem_recorded.mp hnew
            exact hcalls c (List.mem_append_left _ hc)
          · exact hfull entry hold)
        (fun c hc => hcalls c (List.mem_append_right _ hc))
      rw [hcooldown, hadvances] at hrest
      rw [recorded_append, List.append_assoc]
      exact hrest

/-- At every call of a run of a new service that handles few keys, the signal is debounced exactly
when an earlier dispatch of its key that counts started less than the cooldown before. -/
theorem call_debounced_iff (hnew : s.dispatches = [])
    (hcard : ((s.calls events).map Call.key).toFinset.card < maxTracked)
    {earlier later : List Call} {call : Call} (hsplit : s.calls events = earlier ++ call :: later) :
    (call.handled.outcome = .debounced ↔ ∃ c ∈ earlier, c.key = call.key ∧
        c.counts s.advances = true ∧ call.came < c.start + s.cooldown) ∧
      (∀ c ∈ earlier, c.counts s.advances = true → c.start ≤ call.came) ∧
      call.came ≤ call.start := by
  obtain ⟨first, e, rest, rfl, hfirst, hcall⟩ := exists_of_log_eq hsplit
  have hstart : Mirrors s.dispatches [] s.cooldown s.clock := by
    rw [hnew]
    exact Mirrors.nil _ _
  have hkeys : ∀ c ∈ s.calls first,
      c.key ∈ ((s.calls (first ++ e :: rest)).map Call.key).toFinset := by
    intro c hc
    rw [calls, hfirst] at hc
    rw [hsplit]
    exact List.mem_toFinset.mpr (List.mem_map_of_mem (List.mem_append_left _ hc))
  have hmirrors := mirrors_run hcard hstart (by simp) hkeys
  rw [List.append_nil] at hmirrors
  rw [calls, hfirst] at hmirrors
  obtain ⟨⟨u, key⟩, hmet, rfl⟩ := Option.map_eq_some_iff.mp hcall
  obtain ⟨hu, _⟩ := after_of_met? hmet
  have hblocks : u.dispatches.blocks u.cooldown u.clock key =
      (recorded s.advances earlier).blocks s.cooldown u.clock key := by
    rw [hu.dispatches, cooldown_congr (hu.settings.trans (settings_run s first))]
    exact hmirrors.blocks_eq (le_of_eq hu.clock.symm)
  have hpast : ∀ c ∈ earlier, c.counts s.advances = true → c.start ≤ u.clock := by
    intro c hc hcounts
    rw [hu.clock]
    exact hmirrors.chronological.2 _ (mem_recorded.mpr ⟨c, hc, hcounts, rfl⟩)
  refine ⟨?_, hpast, Nat.le_add_right _ _⟩
  show (u.handle key).1.outcome = .debounced ↔ _
  rw [handle_debounced_iff, hblocks, Dispatches.blocks_iff_exists hmirrors.chronological]
  constructor
  · rintro ⟨found, hmem, hlt⟩
    obtain ⟨c, hc, hcounts, heq⟩ := mem_recorded.mp hmem
    obtain ⟨hkey, rfl⟩ := Prod.mk.injEq .. ▸ heq
    have hle := hpast c hc hcounts
    exact ⟨c, hc, hkey, hcounts, show u.clock < c.start + s.cooldown by omega⟩
  · rintro ⟨c, hc, hkey, hcounts, hlt⟩
    have hle := hpast c hc hcounts
    have hcame : u.clock < c.start + s.cooldown := hlt
    exact ⟨c.start, mem_recorded.mpr ⟨c, hc, hcounts, by rw [hkey]; rfl⟩, by omega⟩

/-- A call of a run is the handling of a signal under the settings of the start. -/
theorem exists_call_of_mem {c : Call} (h : c ∈ s.calls events) :
    ∃ (u : Service) (key : Key), u.settings = s.settings ∧ c = u.call key := by
  obtain ⟨earlier, later, hsplit⟩ := List.append_of_mem h
  obtain ⟨first, e, rest, rfl, _, hcall⟩ := exists_of_log_eq hsplit
  obtain ⟨⟨u, key⟩, hmet, rfl⟩ := Option.map_eq_some_iff.mp hcall
  obtain ⟨hu, _⟩ := after_of_met? hmet
  exact ⟨u, key, hu.settings.trans (settings_run s first), rfl⟩

/-- A call that is not debounced comes to what its dispatch comes to. -/
theorem outcome_call (s : Service) (key : Key)
    (h : (s.call key).handled.outcome ≠ .debounced) :
    (s.call key).handled.outcome = (s.call key).attempt := by
  have hblocks := mt (handle_debounced_iff s key).mpr h
  exact congrArg (fun r => r.1.outcome) (handle_of_not_blocks (eq_false_of_ne_true hblocks))

/-- A call asks the source of its key once, unless it is debounced. -/
theorem asked_call (s : Service) (key : Key) : (s.call key).handled.asked =
    if (s.call key).handled.outcome = .debounced then [] else [s.settings.origins.source key] := by
  show (s.handle key).1.asked = if (s.handle key).1.outcome = .debounced then _ else _
  cases hblocks : s.dispatches.blocks s.cooldown s.clock key with
  | true => simp [handle_of_blocks hblocks]
  | false =>
      obtain ⟨houtcome, hasked⟩ := dispatch_handled s key
      rw [handle_of_not_blocks hblocks, if_neg houtcome, hasked]

/-- Where every call is debounced by what came before it and by nothing else, the outcomes of one
key are those of a record that keeps every start. -/
theorem outcomes_eq_unpruned {cooldown : Nat} {advanceOnFailure : Bool} {key : Key}
    (past rest : List Call) (kept : List Nat)
    (hdebounced : ∀ earlier call later, past ++ rest = earlier ++ call :: later →
      (call.handled.outcome = .debounced ↔ ∃ c ∈ earlier, c.key = call.key ∧
        c.counts advanceOnFailure = true ∧ call.came < c.start + cooldown))
    (hattempt : ∀ c ∈ rest, c.handled.outcome ≠ .debounced → c.handled.outcome = c.attempt)
    (hkept : ∀ start, start ∈ kept ↔ ∃ c ∈ past, c.key = key ∧
      c.counts advanceOnFailure = true ∧ c.start = start) :
    ((rest.filter fun c => c.key = key).map fun c => c.handled.outcome) =
      unpruned cooldown advanceOnFailure kept
        ((rest.filter fun c => c.key = key).map Call.toOccasion) := by
  induction rest generalizing past kept with
  | nil => rfl
  | cons call rest ih =>
      have hnext : past ++ call :: rest = (past ++ [call]) ++ rest := by simp
      have hcall := hdebounced past call rest rfl
      have hown := hattempt call List.mem_cons_self
      rw [hnext] at hdebounced
      have hrest := fun kept' => ih (past ++ [call]) kept' hdebounced
        fun c hc => hattempt c (List.mem_cons_of_mem _ hc)
      by_cases hkey : call.key = key
      · rw [List.filter_cons_of_pos (by simpa using hkey), List.map_cons, List.map_cons, unpruned]
        have hblocked : (kept.any fun start => call.came < start + cooldown) = true ↔
            call.handled.outcome = .debounced := by
          rw [hcall, hkey, List.any_eq_true]
          constructor
          · rintro ⟨start, hstart, hlt⟩
            obtain ⟨c, hc, hckey, hcounts, rfl⟩ := (hkept start).mp hstart
            exact ⟨c, hc, hckey, hcounts, by simpa using hlt⟩
          · rintro ⟨c, hc, hckey, hcounts, hlt⟩
            exact ⟨c.start, (hkept _).mpr ⟨c, hc, hckey, hcounts, rfl⟩, by simpa using hlt⟩
        by_cases houtcome : call.handled.outcome = .debounced
        · rw [if_pos (hblocked.mpr houtcome), houtcome]
          refine congrArg _ (hrest kept fun start => ?_)
          rw [hkept]
          simp [Call.counts, houtcome, Outcome.counts]
        · rw [if_neg (mt hblocked.mp houtcome), hown houtcome]
          have hcounts : call.counts advanceOnFailure = call.attempt.counts advanceOnFailure := by
            rw [Call.counts, hown houtcome]
          by_cases hattempted : call.attempt.counts advanceOnFailure = true
          · rw [if_pos hattempted]
            refine congrArg _ (hrest (call.start :: kept) fun start => ?_)
            rw [List.mem_cons, hkept]
            simp only [List.mem_append, List.mem_singleton, or_and_right, exists_or,
              exists_eq_left, hkey, hcounts, hattempted, true_and]
            exact or_comm.trans (or_congr Iff.rfl eq_comm)
          · rw [if_neg hattempted]
            refine congrArg _ (hrest kept fun start => ?_)
            rw [hkept]
            simp [hcounts, hattempted, or_and_right, exists_or]
      · rw [List.filter_cons_of_neg (by simpa using hkey)]
        refine hrest kept fun start => ?_
        rw [hkept]
        simp [hkey, or_and_right, exists_or]

/-- Every run of a service without remembered dispatches, over fewer keys than the table may hold,
is answered as if no dispatch were ever forgotten. -/
theorem answersLikeFullRecord_of_few_keys {s : Service} (hnew : s.dispatches = [])
    (events : List Event)
    (hkeys : ((s.calls events).map Call.key).toFinset.card < maxTracked) :
    AnswersLikeFullRecord s events := by
  have hiff : ∀ earlier call later, s.calls events = earlier ++ call :: later →
      (call.handled.outcome = .debounced ↔ ∃ c ∈ earlier, c.key = call.key ∧
        c.counts s.advances = true ∧ call.came < c.start + s.cooldown) :=
    fun _ _ _ hsplit => (call_debounced_iff hnew hkeys hsplit).1
  have hattempt : ∀ c ∈ s.calls events,
      c.handled.outcome ≠ .debounced → c.handled.outcome = c.attempt := by
    intro c hc
    obtain ⟨u, key, _, rfl⟩ := exists_call_of_mem hc
    exact outcome_call u key
  refine ⟨fun key => ?_, hiff, ?_, ?_⟩
  · exact outcomes_eq_unpruned [] (s.calls events) [] hiff hattempt (by simp)
  · intro c hc
    obtain ⟨u, key, hsettings, rfl⟩ := exists_call_of_mem hc
    rw [← hsettings]
    exact asked_call u key
  · intro earlier call later hsplit houtcome c hc hkey hcounts
    have hstart := (call_debounced_iff hnew hkeys hsplit).2.2
    have hfree := mt (hiff earlier call later hsplit).mpr houtcome
    by_contra hclose
    exact hfree ⟨c, hc, hkey, hcounts, by omega⟩

/-- A run of few events handles few keys. -/
theorem card_keys_lt (s : Service) (h : events.length < maxTracked) :
    ((s.calls events).map Call.key).toFinset.card < maxTracked := by
  have hcard := List.toFinset_card_le ((s.calls events).map Call.key)
  have hcalls : (s.calls events).length ≤ events.length := length_log_le call? s events
  rw [List.length_map] at hcard
  omega

/-- The signals of two keys to a new service, one of them twice. -/
theorem answersLikeFullRecord_two_tables :
    (Service.fresh {} .epoch).dispatches = [] ∧
      AnswersLikeFullRecord (Service.fresh {} .epoch)
        [.handle .pciIds, .handle .usbIds, .handle .pciIds] :=
  ⟨rfl, answersLikeFullRecord_of_few_keys rfl _ (card_keys_lt _ (by decide))⟩

end Service

end BenchDepot
