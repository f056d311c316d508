import BenchDepot.Proofs.Queue

/-!
# What the table of dispatches holds

The table is pruned when a dispatch is recorded, and by the time at which that dispatch ends, which
may be long after it started.  Pruned so, it holds the dispatch itself, even if its own cooldown is
over already, and of every other key the latest dispatch that was recorded, if that is still within
its cooldown: there is nothing else in it, and nothing of this is missing.  Until the next dispatch
is recorded the table stays as it is, however many signals are debounced, or fail without being
remembered, and however much time passes.

Which dispatches were recorded is read off the calls of the run, none of which is ever forgotten.

* `startOf?_recorded` — the full record finds the latest dispatch of each key;
* `mem_record_iff` — all that is in a table right after a dispatch is recorded;
* `dispatches_run_of_no_counts` — a run without such a dispatch;
* `holdsLiveKeys_of_few_keys` — every run.
-/

namespace BenchDepot

open Dispatches (Mirrors)

namespace Service

/-- When the latest of some calls started that was a dispatch of a key and counts. -/
def latest? (advanceOnFailure : Bool) (calls : List Call) (key : Key) : Option Nat :=
  (calls.reverse.find? fun c => decide (c.key = key) && c.counts advanceOnFailure).map fun c =>
    c.start

/-- The keys of some calls that were dispatches, count, and are within their cooldown. -/
def liveKeys (advanceOnFailure : Bool) (calls : List Call) (cooldown now : Nat) : Finset Key :=
  ((calls.filter fun c => c.counts advanceOnFailure && decide (now < c.start + cooldown)).map
    Call.key).toFinset

/-- The next event after a first part of a run is a call that counts. -/
structure CountsNext (s : Service) (events first : List Event) (e : Event) (call : Call) :
    Prop where
  next : first ++ [e] <+: events
  made : (s.run first).call? e = some call
  counts : call.counts s.advances = true

/-- A run in which the table of dispatches always holds the live keys of the latest time at which a
dispatch was recorded. -/
structure HoldsLiveKeys (s : Service) (events : List Event) : Prop where
  /-- Each key has one entry at most. -/
  once : ∀ {first : List Event}, first <+: events → ((s.run first).dispatches.map Prod.fst).Nodup
  /-- Right after a call that counts there is an entry of its key with its start, and one of every
  other key whose latest dispatch is within its cooldown when the call ends. -/
  entries : ∀ {first : List Event} {e : Event} {call : Call}, s.CountsNext events first e call →
    ∀ {key : Key} {start : Nat}, (key, start) ∈ ((s.run first).after e).dispatches ↔
      (key = call.key ∧ start = call.start) ∨
        (key ≠ call.key ∧ latest? s.advances (s.calls first) key = some start ∧
          ((s.run first).after e).clock < start + s.cooldown)
  /-- A part of the run in which no call counts leaves the table alone. -/
  kept : ∀ {first between : List Event},
    (∀ c ∈ (s.run first).calls between, c.counts s.advances = false) →
      (s.run (first ++ between)).dispatches = (s.run first).dispatches
  /-- Beside the entry of the call there are as many as there are other keys with a dispatch that
  counts within the last cooldown. -/
  size : ∀ {first : List Event} {e : Event} {call : Call}, s.CountsNext events first e call →
    ((s.run first).after e).dispatches.length = 1 + ((liveKeys s.advances (s.calls first) s.cooldown
      ((s.run first).after e).clock).erase call.key).card
  /-- At every moment of the run the table is empty, or as it was right after a call that counts. -/
  since : ∀ {first : List Event}, first <+: events → (s.run first).dispatches = [] ∨
    ∃ before e call, before ++ [e] <+: first ∧ s.CountsNext events before e call ∧
      (s.run first).dispatches = ((s.run before).after e).dispatches

end Service

/-! ## The latest dispatch of a key -/

namespace Service

variable {s : Service} {e : Event} {events first between : List Event} {call : Call}
  {calls : List Call} {advanceOnFailure : Bool} {key : Key} {cooldown now : Nat}

/-- In a record that is put together newest first, a key is found where its latest call is. -/
theorem startOf?_map_filter (p : Call → Bool) (key : Key) (calls : List Call) :
    Dispatches.startOf? key ((calls.filter p).map fun c => (c.key, c.start)) =
      (calls.find? fun c => decide (c.key = key) && p c).map fun c => c.start := by
  induction calls with
  | nil => rfl
  | cons c rest ih =>
      by_cases hp : p c = true
      · rw [List.filter_cons_of_pos hp, List.map_cons, Dispatches.startOf?, List.find?_cons]
        by_cases hkey : c.key = key
        · simp [hkey, hp]
        · simpa [hkey] using ih
      · rw [List.filter_cons_of_neg hp, List.find?_cons]
        simpa [hp] using ih

/-- The full record finds the latest dispatch of each key. -/
theorem startOf?_recorded (advanceOnFailure : Bool) (calls : List Call) (key : Key) :
    (recorded advanceOnFailure calls).startOf? key = latest? advanceOnFailure calls key := by
  rw [recorded, ← List.map_reverse, ← List.filter_reverse, startOf?_map_filter]
  rfl

/-- A key is live if its latest dispatch is within its cooldown. -/
theorem mem_liveKeys_iff {before : Nat}
    (hchron : Dispatches.Chronological (recorded advanceOnFailure calls) before) :
    key ∈ liveKeys advanceOnFailure calls cooldown now ↔
      ∃ start, latest? advanceOnFailure calls key = some start ∧ now < start + cooldown := by
  simp only [liveKeys, List.mem_toFinset, List.mem_map, List.mem_filter, Bool.and_eq_true,
    decide_eq_true_eq, ← startOf?_recorded]
  constructor
  · rintro ⟨c, ⟨hc, hcounts, hlt⟩, rfl⟩
    have hmem : (c.key, c.start) ∈ recorded advanceOnFailure calls :=
      mem_recorded.mpr ⟨c, hc, hcounts, rfl⟩
    obtain ⟨start, hstart, hle⟩ := Dispatches.le_startOf?_of_mem hchron.1 hmem
    exact ⟨start, hstart, by omega⟩
  · rintro ⟨start, hstart, hlt⟩
    obtain ⟨c, hc, hcounts, heq⟩ := mem_recorded.mp (Dispatches.mem_of_startOf? hstart)
    obtain ⟨hkey, rfl⟩ := Prod.mk.injEq .. ▸ heq
    exact ⟨c, ⟨hc, hcounts, hlt⟩, hkey⟩

end Service

/-! ## A recorded dispatch -/

/-- All that is in a table right after a dispatch was recorded: that dispatch, and of the other keys
the latest ones in the full record that are within their cooldown. -/
theorem Dispatches.mem_record_iff {table full : Dispatches} {cooldown now later start found : Nat}
    {key other : Key} (h : Mirrors table full cooldown now) (hroom : table.length < maxTracked)
    (hle : now ≤ later) : (other, found) ∈ table.record cooldown later key start ↔
      (other = key ∧ found = start) ∨
        (other ≠ key ∧ full.startOf? other = some found ∧ later < found + cooldown) := by
  rw [← startOf?_eq_some_iff (nodup_record h.nodup hroom)]
  by_cases hne : other = key
  · subst hne
    rw [startOf?_record_self]
    simp [eq_comm]
  · simp only [hne, false_and, false_or, ne_eq, not_false_eq_true, true_and,
      startOf?_record_of_ne h.nodup hroom hne]
    constructor
    · rintro ⟨hfound, hlt⟩
      have hpast : found ≤ now := h.chronological.2 _ (mem_of_startOf? (h.latest hfound))
      exact ⟨h.latest hfound, by omega⟩
    · rintro ⟨hfound, hlt⟩
      have hpast : found ≤ now := h.chronological.2 _ (mem_of_startOf? hfound)
      exact ⟨h.live hfound (by omega), by omega⟩

namespace Service

variable {s : Service} {e : Event} {events first between : List Event} {call : Call}

/-- A call that counts leaves the table with its dispatch recorded at the time at which it ends. -/
theorem dispatches_after_of_counts (hcall : s.call? e = some call)
    (hcounts : call.counts s.advances = true) : (s.after e).dispatches =
      s.dispatches.record s.cooldown (s.after e).clock call.key call.start := by
  obtain ⟨⟨u, key⟩, hmet, rfl⟩ := Option.map_eq_some_iff.mp hcall
  obtain ⟨hu, hafter⟩ := after_of_met? hmet
  have hadvances : u.advances = s.advances := by rw [advances, hu.settings]
  rw [← hadvances] at hcounts
  have hblocks : u.dispatches.blocks u.cooldown u.clock key = false := by
    apply eq_false_of_ne_true
    intro hblocked
    rw [← handle_debounced_iff] at hblocked
    have hnone : (u.handle key).1.outcome.counts u.advances = true := hcounts
    rw [hblocked] at hnone
    cases hnone
  have hdispatch : (u.dispatch key).1.outcome.counts u.advances = true := by
    have hhandle : (u.handle key).1.outcome.counts u.advances = true := hcounts
    rwa [handle_of_not_blocks hblocks] at hhandle
  rw [hafter, handle_of_not_blocks hblocks, dispatch_dispatches, if_pos hdispatch, hu.dispatches,
    cooldown_congr hu.settings]
  rfl

/-- Any other event leaves the table alone. -/
theorem dispatches_after_of_no_counts
    (h : ∀ call, s.call? e = some call → call.counts s.advances = false) :
    (s.after e).dispatches = s.dispatches := by
  cases hmet : s.met? e with
  | none => exact (after_of_met?_none hmet).2.1
  | some m =>
      obtain ⟨u, key⟩ := m
      obtain ⟨hu, hafter⟩ := after_of_met? hmet
      have hcounts : (u.handle key).1.outcome.counts u.advances = false := by
        rw [advances, hu.settings]
        exact h (u.call key) (by rw [call?, hmet]; rfl)
      rw [hafter, ← hu.dispatches]
      cases hblocks : u.dispatches.blocks u.cooldown u.clock key with
      | true =>
          rw [handle_of_blocks hblocks]
          rfl
      | false =>
          rw [handle_of_not_blocks hblocks] at hcounts ⊢
          rw [dispatch_dispatches, if_neg (by simp [hcounts])]

/-- So does a whole run of such events. -/
theorem dispatches_run_of_no_counts
    (h : ∀ c ∈ s.calls events, c.counts s.advances = false) :
    (s.run events).dispatches = s.dispatches := by
  induction events generalizing s with
  | nil => rfl
  | cons e rest ih =>
      have hlog : s.calls (e :: rest) = (s.call? e).toList ++ (s.after e).calls rest := rfl
      have hadvances : (s.after e).advances = s.advances := by rw [advances, settings_after]
      rw [hlog] at h
      rw [run_cons, ih]
      · refine dispatches_after_of_no_counts fun call hcall => ?_
        exact h call (List.mem_append_left _ (by simp [hcall]))
      · intro c hc
        rw [hadvances]
        exact h c (List.mem_append_right _ hc)

/-! ## Every run -/

theorem calls_append (s : Service) (first second : List Event) :
    s.calls (first ++ second) = s.calls first ++ (s.run first).calls second :=
  log_append call? s first second

theorem run_concat (s : Service) (first : List Event) (e : Event) :
    s.run (first ++ [e]) = (s.run first).after e :=
  run_append s first [e]

theorem advances_run (s : Service) (events : List Event) :
    (s.run events).advances = s.advances := by
  rw [advances, settings_run]

/-- At every moment of a run that handles few keys, the table mirrors the full record, and has room
for one more key. -/
theorem mirrors_run_first (hnew : s.dispatches = [])
    (hkeys : ((s.calls events).map Call.key).toFinset.card < maxTracked) (h : first <+: events) :
    Mirrors (s.run first).dispatches (recorded s.advances (s.calls first)) s.cooldown
        (s.run first).clock ∧ (s.run first).dispatches.length < maxTracked := by
  obtain ⟨rest, rfl⟩ := h
  have hstart : Mirrors s.dispatches [] s.cooldown s.clock := by
    rw [hnew]
    exact Mirrors.nil _ _
  have hcalls : ∀ c ∈ s.calls first,
      c.key ∈ ((s.calls (first ++ rest)).map Call.key).toFinset := by
    intro c hc
    rw [calls_append]
    exact List.mem_toFinset.mpr (List.mem_map_of_mem (List.mem_append_left _ hc))
  have hmirrors := mirrors_run hkeys hstart (by simp) hcalls
  rw [List.append_nil] at hmirrors
  refine ⟨hmirrors, Nat.lt_of_le_of_lt (hmirrors.length_le fun entry hentry => ?_) hkeys⟩
  obtain ⟨c, hc, _, rfl⟩ := mem_recorded.mp hentry
  exact hcalls c hc

/-- The entries right after a call that counts. -/
theorem mem_dispatches_of_countsNext (hnew : s.dispatches = [])
    (hkeys : ((s.calls events).map Call.key).toFinset.card < maxTracked)
    (h : s.CountsNext events first e call) {key : Key} {start : Nat} :
    (key, start) ∈ ((s.run first).after e).dispatches ↔ (key = call.key ∧ start = call.start) ∨
      (key ≠ call.key ∧ latest? s.advances (s.calls first) key = some start ∧
        ((s.run first).after e).clock < start + s.cooldown) := by
  obtain ⟨hmirrors, hroom⟩ :=
    mirrors_run_first hnew hkeys ((List.prefix_append first [e]).trans h.next)
  have hcounts : call.counts (s.run first).advances = true := (advances_run s first).symm ▸ h.counts
  rw [dispatches_after_of_counts h.made hcounts, cooldown_congr (settings_run s first),
    Dispatches.mem_record_iff hmirrors hroom (clock_le_after _ e), startOf?_recorded]

/-- The number of entries right after a call that counts. -/
theorem length_dispatches_of_countsNext (hnew : s.dispatches = [])
    (hkeys : ((s.calls events).map Call.key).toFinset.card < maxTracked)
    (h : s.CountsNext events first e call) : ((s.run first).after e).dispatches.length =
      1 + ((liveKeys s.advances (s.calls first) s.cooldown
        ((s.run first).after e).clock).erase call.key).card := by
  have hfirst := mirrors_run_first hnew hkeys ((List.prefix_append first [e]).trans h.next)
  have hnext := mirrors_run_first hnew hkeys h.next
  rw [run_concat] at hnext
  have hset : (((s.run first).after e).dispatches.map Prod.fst).toFinset =
      insert call.key ((liveKeys s.advances (s.calls first) s.cooldown
        ((s.run first).after e).clock).erase call.key) := by
    ext key
    simp only [List.mem_toFinset, List.mem_map, Prod.exists, exists_and_right, exists_eq_right,
      Finset.mem_insert, Finset.mem_erase, mem_liveKeys_iff hfirst.1.chronological,
      mem_dispatches_of_countsNext hnew hkeys h]
    by_cases hkey : key = call.key <;> simp [hkey]
  calc ((s.run first).after e).dispatches.length
      = (((s.run first).after e).dispatches.map Prod.fst).toFinset.card := by
        rw [List.toFinset_card_of_nodup hnext.1.nodup, List.length_map]
    _ = 1 + _ := by
        rw [hset, Finset.card_insert_of_notMem (Finset.notMem_erase _ _), Nat.add_comm]

/-- At every moment the table is empty, or as it was right after a call that counts. -/
theorem dispatches_since (hnew : s.dispatches = []) (h : first <+: events) :
    (s.run first).dispatches = [] ∨ ∃ before e call, before ++ [e] <+: first ∧
      s.CountsNext events before e call ∧
        (s.run first).dispatches = ((s.run before).after e).dispatches := by
  induction first using List.reverseRecOn with
  | nil => exact Or.inl hnew
  | append_singleton first e ih =>
      rw [run_concat]
      by_cases hcounts : ∃ call, (s.run first).call? e = some call ∧ call.counts s.advances = true
      · obtain ⟨call, hcall, hcounts⟩ := hcounts
        exact Or.inr ⟨first, e, call, List.prefix_rfl, ⟨h, hcall, hcounts⟩, rfl⟩
      · have hsame : ((s.run first).after e).dispatches = (s.run first).dispatches := by
          refine dispatches_after_of_no_counts fun call hcall => ?_
          rw [advances_run]
          exact eq_false_of_ne_true fun htrue => hcounts ⟨call, hcall, htrue⟩
        rw [hsame]
        refine (ih ((List.prefix_append first [e]).trans h)).imp_right ?_
        rintro ⟨before, other, call, hbefore, hnext, heq⟩
        exact ⟨before, other, call, hbefore.trans (List.prefix_append first [e]), hnext, heq⟩

/-- In every run of a service without remembered dispatches, over fewer keys than the table may
hold, the table holds the live keys. -/
theorem holdsLiveKeys_of_few_keys (hnew : s.dispatches = []) (events : List Event)
    (hkeys : ((s.calls events).map Call.key).toFinset.card < maxTracked) :
    HoldsLiveKeys s events where
  once hfirst := (mirrors_run_first hnew hkeys hfirst).1.nodup
  entries hnext := mem_dispatches_of_countsNext hnew hkeys hnext
  kept := by
    intro first between hcounts
    rw [run_append]
    refine dispatches_run_of_no_counts fun c hc => ?_
    rw [advances_run]
    exact hcounts c hc
  size hnext := length_dispatches_of_countsNext hnew hkeys hnext
  since hfirst := dispatches_since hnew hfirst

/-- An origin that answers at once, and another world in which it is never reached. -/
def farWorld : Surroundings :=
  ⟨.epoch, [(({} : OriginSettings).usbIds, [⟨.unreachable, 7200 * nanosPerSecond⟩])], [], {}, {}⟩

/-- Both tables are asked for, and the second origin keeps the service waiting until the cooldown of
both is over. -/
def longFailure : List Event :=
  [.handle .pciIds, .turn 0 farWorld, .handle .usbIds]

/-- Then there is an entry of the second key alone, with a start whose cooldown is over as well. -/
theorem holdsLiveKeys_longFailure : (Service.fresh {} .epoch).dispatches = [] ∧
    (((Service.fresh {} .epoch).calls longFailure).map Call.key).toFinset.card < maxTracked ∧
      HoldsLiveKeys (Service.fresh {} .epoch) longFailure ∧
        ((Service.fresh {} .epoch).run longFailure).dispatches = [(.usbIds, 0)] := by
  have hkeys : (((Service.fresh {} .epoch).calls longFailure).map Call.key).toFinset.card <
      maxTracked := card_keys_lt _ (by decide)
  exact ⟨rfl, hkeys, holdsLiveKeys_of_few_keys rfl longFailure hkeys, by decide⟩

end Service

end BenchDepot
