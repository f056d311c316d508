import BenchDepot.Proofs.Cooldown

/-!
# The queue along a run

Whatever happens, the signals that wait keep their order: new ones come in behind them, and only a
receiver takes one away, from the front.  A signal that waits at the start of a run and no longer at
its end was therefore handled in the run.

* `extends_after` — every event but a reception leaves the waiting signals in front;
* `exists_meeting` — a signal that is gone was handled;
* `between_of_mem_meetings` — when the signals of a run are handled;
* `drain_eq_run` — the queue is drained by receiving one signal after the other.
-/

namespace BenchDepot

/-- A queue with further signals behind those that waited. -/
def Signals.Extends (first second : Signals) : Prop :=
  ∃ keys, second = { first with pending := first.pending ++ keys }

theorem Signals.Extends.refl (signals : Signals) : signals.Extends signals :=
  ⟨[], by rw [List.append_nil]⟩

theorem Signals.Extends.trans {first second third : Signals} (h : first.Extends second)
    (h' : second.Extends third) : first.Extends third := by
  obtain ⟨keys, rfl⟩ := h
  obtain ⟨more, rfl⟩ := h'
  exact ⟨keys ++ more, by rw [List.append_assoc]⟩

theorem Signals.Extends.mem {first second : Signals} (h : first.Extends second) {key : Key}
    (hmem : key ∈ first.pending) : key ∈ second.pending := by
  obtain ⟨keys, rfl⟩ := h
  exact List.mem_append_left _ hmem

/-- Whether an event takes signals out of the queue. -/
def Event.takes : Event → Bool
  | .receive | .close => true
  | _ => false

namespace Service

variable {s u : Service} {e : Event} {events : List Event} {key : Key}

/-! ## Signals that come in -/

/-- A signal that finds a place stands at the end. -/
theorem pending_notify_of_hasRoom (s : Service) (key : Key)
    (hroom : s.signals.hasRoom = true) :
    (s.notify key).2.signals.pending = s.signals.pending ++ [key] := by
  rw [notify, if_pos hroom]
  show (s.signals.send key).pending = _
  rw [Signals.send, if_pos hroom]

/-- What is found stale or missing is signalled, and stands at the end if there is a place. -/
theorem pending_observe_of_hasRoom (s : Service) (key : Key) {found : Finding}
    (hfound : found ≠ .fresh) (hroom : s.signals.hasRoom = true) :
    (s.observe key found).signals.pending = s.signals.pending ++ [key] := by
  cases found with
  | fresh => exact absurd rfl hfound
  | stale =>
      exact pending_notify_of_hasRoom
        (s.count fun c => { c with staleReads := c.staleReads + 1 }) key hroom
  | missing =>
      exact pending_notify_of_hasRoom
        (s.count fun c => { c with missingReads := c.missingReads + 1 }) key hroom

theorem extends_notify (s : Service) (key : Key) : s.signals.Extends (s.notify key).2.signals := by
  unfold notify
  split
  · next hroom =>
    refine ⟨[key], ?_⟩
    show s.signals.send key = _
    rw [Signals.send, if_pos hroom]
  · exact Signals.Extends.refl _

theorem extends_observe (s : Service) (key : Key) (found : Finding) :
    s.signals.Extends (s.observe key found).signals := by
  cases found with
  | fresh => exact Signals.Extends.refl _
  | stale =>
      exact extends_notify (s.count fun c => { c with staleReads := c.staleReads + 1 }) key
  | missing =>
      exact extends_notify (s.count fun c => { c with missingReads := c.missingReads + 1 }) key

theorem extends_read (s : Service) (key : Key) : s.signals.Extends (s.read key).2.signals := by
  unfold read
  split
  · exact Signals.Extends.refl _
  · exact extends_observe s key _

theorem extends_serve (s : Service) (key : Key) :
    s.signals.Extends (Http.serve s key).2.signals := by
  have h := extends_read s key
  unfold Http.serve
  split <;> simpa [*] using h

theorem extends_fallback (s : Service) (method : Http.Method) (path : String) :
    s.signals.Extends (Http.fallback s method path).2.signals := by
  unfold Http.fallback
  split
  · exact Signals.Extends.refl _
  · split
    · exact extends_serve s _
    · exact extends_serve s _
    · exact Signals.Extends.refl _
    · exact Signals.Extends.refl _

theorem signals_submit (s : Service) (body : ByteArray) :
    (Http.submit s body).2.signals = s.signals := by
  obtain ⟨rows, counters, hafter⟩ := rows_submit s body
  rw [hafter]

theorem extends_respond (s : Service) (request : Http.Request) :
    s.signals.Extends (Http.respond s request).2.signals := by
  show s.signals.Extends (Http.answer s request).2.signals
  unfold Http.answer
  split
  -- an upload signals nothing; every other answer reads a key or leaves the service alone
  case h_9 =>
    rw [signals_submit]
    exact Signals.Extends.refl _
  all_goals first
    | exact Signals.Extends.refl _
    | exact extends_serve s _
    | exact extends_fallback s _ _

/-! ## One event -/

theorem signals_built (s : Service) (r : Rebuilt) : (s.built r).2.signals = s.signals := rfl

theorem signals_compact (s : Service) : s.compact.2.signals = s.signals := by
  unfold compact
  split <;> rfl

/-- Handling a signal leaves the queue as it was. -/
theorem signals_handle (s : Service) (key : Key) : (s.handle key).2.signals = s.signals := by
  cases hblocks : s.dispatches.blocks s.cooldown s.clock key with
  | true =>
      rw [handle_of_blocks hblocks]
      rfl
  | false =>
      rw [handle_of_not_blocks hblocks]
      obtain ⟨t, ht, ⟨content, _, _, heq⟩ | ⟨_, heq⟩⟩ := dispatch_cases s key
      · rw [heq]
        exact ht.signals
      · rw [heq]
        unfold afterFailure
        dsimp only
        split <;> exact ht.signals

/-- Every event that takes no signals leaves those that wait in front. -/
theorem extends_after (h : e.takes = false) : s.signals.Extends (s.after e).signals := by
  have hsame : ∀ {signals}, signals = s.signals → s.signals.Extends signals :=
    fun heq => heq ▸ Signals.Extends.refl _
  have hdirect : e.isDirect = true → s.signals.Extends (s.after e).signals := by
    intro hdirect
    obtain ⟨store, hafter⟩ := store_of_isDirect hdirect s
    rw [hafter]
    exact Signals.Extends.refl _
  cases e with
  | turn passed world => exact Signals.Extends.refl _
  | request request => exact extends_respond s request
  | read key => exact extends_read s key
  | notify key => exact extends_notify s key
  | handle key => exact hsame (signals_handle s key)
  | put key blob at_ => exact hdirect rfl
  | append records at_ => exact hdirect rfl
  | importRow m benchmarkType cpuText at_ => exact hdirect rfl
  | build => exact hsame (signals_built s _)
  | rebuild => exact hsame (signals_built s _)
  | compact => exact hsame (signals_compact s)
  | receive => cases h
  | close => cases h

/-- A signal that waits goes on waiting, or it is the one that is handled. -/
theorem mem_pending_after (hmem : key ∈ s.signals.pending) (he : e ≠ .close) :
    key ∈ (s.after e).signals.pending ∨ ∃ u, s.met? e = some (u, key) := by
  cases htakes : e.takes with
  | false => exact Or.inl ((extends_after htakes).mem hmem)
  | true =>
      cases e with
      | receive =>
          cases hpending : s.signals.pending with
          | nil => simp [hpending] at hmem
          | cons first rest =>
              -- the oldest signal is handled, and the others wait on
              have hreceive : s.signals.receive? =
                  some (first, { s.signals with pending := rest }) := by
                rw [Signals.receive?, hpending]
              rw [hpending] at hmem
              rcases List.mem_cons.mp hmem with rfl | hrest
              · refine Or.inr ⟨{ s with signals := { s.signals with pending := rest } }, ?_⟩
                simp [met?, hreceive]
              · refine Or.inl ?_
                simp only [after, hreceive, signals_handle]
                exact hrest
      | close => exact absurd rfl he
      | _ => cases htakes

/-! ## Whole runs -/

theorem extends_run (h : ∀ e ∈ events, e.takes = false) :
    s.signals.Extends (s.run events).signals := by
  induction events generalizing s with
  | nil => exact Signals.Extends.refl _
  | cons e rest ih =>
      have hafter : s.signals.Extends (s.after e).signals := extends_after (h e List.mem_cons_self)
      exact hafter.trans (ih fun e' he' => h e' (List.mem_cons_of_mem _ he'))

/-- The signals that are handled in a run, oldest first, each with the service that meets it. -/
def meetings (s : Service) (events : List Event) : List (Service × Key) :=
  s.log met? events

/-- The calls of a run are the handling of the signals it meets. -/
theorem calls_eq_map (s : Service) (events : List Event) :
    s.calls events = (s.meetings events).map fun m => m.1.call m.2 := by
  induction events generalizing s with
  | nil => rfl
  | cons e rest ih =>
      have hcalls : s.calls (e :: rest) = (s.call? e).toList ++ (s.after e).calls rest := rfl
      have hmeetings : s.meetings (e :: rest) =
          (s.met? e).toList ++ (s.after e).meetings rest := rfl
      rw [hcalls, hmeetings, List.map_append, ih]
      congr 1
      cases hmet : s.met? e <;> simp [call?, hmet]

/-- A signal that waited and is gone was handled. -/
theorem exists_meeting (hmem : key ∈ s.signals.pending) (hopen : ∀ e ∈ events, e ≠ .close)
    (hgone : key ∉ (s.run events).signals.pending) : ∃ u, (u, key) ∈ s.meetings events := by
  induction events generalizing s with
  | nil => exact absurd hmem hgone
  | cons e rest ih =>
      have hmeetings : s.meetings (e :: rest) =
          (s.met? e).toList ++ (s.after e).meetings rest := rfl
      rw [hmeetings]
      rcases mem_pending_after hmem (hopen e List.mem_cons_self) with hwaits | ⟨u, hmet⟩
      · obtain ⟨u, hu⟩ := ih hwaits (fun e' he' => hopen e' (List.mem_cons_of_mem _ he')) hgone
        exact ⟨u, List.mem_append_right _ hu⟩
      · refine ⟨u, List.mem_append_left _ ?_⟩
        rw [hmet]
        exact List.mem_singleton_self _

/-- No event takes time back. -/
theorem clock_le_after (s : Service) (e : Event) : s.clock ≤ (s.after e).clock := by
  cases hmet : s.met? e with
  | none => exact (after_of_met?_none hmet).2.2
  | some m =>
      obtain ⟨u, key⟩ := m
      obtain ⟨hu, hafter⟩ := after_of_met? hmet
      rw [hafter, ← hu.clock]
      cases hblocks : u.dispatches.blocks u.cooldown u.clock key with
      | true =>
          rw [handle_of_blocks hblocks]
          exact le_refl _
      | false =>
          rw [handle_of_not_blocks hblocks]
          exact le_trans (Nat.le_add_right _ _) (dispatch_course u key).2

theorem clock_le_run (s : Service) (events : List Event) : s.clock ≤ (s.run events).clock :=
  run_induction (motive := fun t => s.clock ≤ t.clock) (le_refl _)
    (fun t e h => le_trans h (clock_le_after t e)) events

/-- The signals of a run are handled between its start and its end. -/
theorem between_of_mem_meetings (h : (u, key) ∈ s.meetings events) :
    s.clock ≤ u.clock ∧ u.clock ≤ (s.run events).clock ∧ u.settings = s.settings := by
  obtain ⟨earlier, later, hsplit⟩ := List.append_of_mem h
  obtain ⟨first, e, rest, rfl, _, hmet⟩ := exists_of_log_eq hsplit
  obtain ⟨hu, _⟩ := after_of_met? hmet
  have hrest := clock_le_run (s.run first) (e :: rest)
  rw [← run_append] at hrest
  exact ⟨hu.clock ▸ clock_le_run s first, hu.clock ▸ hrest,
    hu.settings.trans (settings_run s first)⟩

/-! ## Draining -/

/-- A service with another queue. -/
def withSignals (s : Service) (signals : Signals) : Service :=
  { s with signals := signals }

theorem produce_withSignals (s : Service) (signals : Signals) (source : Source) :
    (s.withSignals signals).produce source = ((s.produce source).1, (s.produce source).2.1,
      (s.produce source).2.2.withSignals signals) := by
  cases source <;> rfl

theorem attempt_withSignals (s : Service) (signals : Signals) (key : Key) :
    (s.withSignals signals).attempt key = ((s.attempt key).1, (s.attempt key).2.1,
      (s.attempt key).2.2.withSignals signals) := by
  have hproduced := produce_withSignals ((s.wait s.pace.start).count fun c =>
    { c with dispatches := c.dispatches.increment key.refreshKind }) signals
    (s.settings.origins.source key)
  exact congrArg (fun p : Except RefreshError ByteArray × List Source × Service =>
    (p.1, p.2.1, (p.2.2.wait s.pace.write).count fun c =>
      { c with durations := c.durations.increment key.refreshKind })) hproduced

theorem put_withSignals (s : Service) (signals : Signals) (name : String) (blob : ByteArray)
    (at_ : Instant) : (s.withSignals signals).put name blob at_ =
      (s.put name blob at_).map fun after => after.withSignals signals := by
  unfold put
  by_cases hput : s.faults.put = true
  · have hsame : (s.withSignals signals).faults.put = true := hput
    rw [if_pos hput, if_pos hsame]
    rfl
  · have hsame : ¬(s.withSignals signals).faults.put = true := hput
    rw [if_neg hput, if_neg hsame]
    have hstore : (s.withSignals signals).store = s.store := rfl
    rw [hstore]
    cases s.store.putArtifact name ⟨blob, at_⟩ <;> rfl

theorem publish_withSignals (s : Service) (signals : Signals) (key : Key)
    (content : Except RefreshError ByteArray) :
    (s.withSignals signals).publish key content =
      (s.publish key content).map fun after => after.withSignals signals := by
  cases content with
  | error cause => rfl
  | ok content =>
      have hnow : (s.withSignals signals).now = s.now := rfl
      simp only [publish, hnow, put_withSignals]
      cases s.put key.text content s.now <;> rfl

theorem afterFailure_withSignals (s : Service) (signals : Signals) (key : Key) (start : Nat) :
    (s.withSignals signals).afterFailure key start =
      (s.afterFailure key start).withSignals signals := by
  unfold afterFailure
  by_cases hadvance : s.settings.refresh.advanceOnFailure = true
  · have hsame : (s.withSignals signals).settings.refresh.advanceOnFailure = true := hadvance
    dsimp only
    rw [if_pos hadvance, if_pos hsame]
    rfl
  · have hsame : ¬(s.withSignals signals).settings.refresh.advanceOnFailure = true := hadvance
    dsimp only
    rw [if_neg hadvance, if_neg hsame]
    rfl

theorem dispatch_withSignals (s : Service) (signals : Signals) (key : Key) :
    (s.withSignals signals).dispatch key =
      ((s.dispatch key).1, (s.dispatch key).2.withSignals signals) := by
  have hstart : (s.withSignals signals).dispatchStart = s.dispatchStart := rfl
  simp only [dispatch, attempt_withSignals, publish_withSignals, hstart]
  cases (s.attempt key).2.2.publish key (s.attempt key).1 with
  | ok after => rfl
  | error cause => simp only [Except.map, afterFailure_withSignals]

/-- The handling of a signal neither looks at the queue nor changes it. -/
theorem handle_withSignals (s : Service) (signals : Signals) (key : Key) :
    (s.withSignals signals).handle key =
      ((s.handle key).1, (s.handle key).2.withSignals signals) := by
  unfold handle
  by_cases hblocks : s.dispatches.blocks s.cooldown s.clock key = true
  · have hsame : (s.withSignals signals).dispatches.blocks (s.withSignals signals).cooldown
        (s.withSignals signals).clock key = true := hblocks
    rw [if_pos hblocks, if_pos hsame]
    rfl
  · have hsame : ¬(s.withSignals signals).dispatches.blocks (s.withSignals signals).cooldown
        (s.withSignals signals).clock key = true := hblocks
    rw [if_neg hblocks, if_neg hsame]
    exact dispatch_withSignals s signals key

/-- Handling signals one after the other neither looks at the queue nor changes it. -/
theorem handleAll_withSignals (s : Service) (signals : Signals) (keys : List Key) :
    (s.withSignals signals).handleAll keys =
      ((s.handleAll keys).1, (s.handleAll keys).2.withSignals signals) := by
  induction keys generalizing s with
  | nil => rfl
  | cons key rest ih =>
      simp only [handleAll, handle_withSignals, ih]

/-- The waiting signals are handled by receiving them one after the other. -/
theorem drain_eq_run (s : Service) :
    s.drain.2 = s.run (List.replicate s.signals.pending.length .receive) := by
  obtain ⟨keys, hkeys⟩ : ∃ keys, s.signals.pending = keys := ⟨_, rfl⟩
  show ((s.withSignals s.signals.cleared).handleAll s.signals.pending).2 = _
  rw [handleAll_withSignals, hkeys]
  induction keys generalizing s with
  | nil =>
      show s.withSignals s.signals.cleared = s
      rw [Signals.cleared, ← hkeys]
      rfl
  | cons key rest ih =>
      have hreceive : s.signals.receive? = some (key, { s.signals with pending := rest }) := by
        rw [Signals.receive?, hkeys]
      have hafter : s.after .receive =
          (s.handle key).2.withSignals { s.signals with pending := rest } := by
        simp only [after, hreceive]
        exact congrArg Prod.snd (handle_withSignals s _ key)
      rw [List.length_cons, List.replicate_succ, run_cons, ← ih _ (by rw [hafter]; rfl), hafter,
        handleAll_withSignals]
      rfl

end Service

end BenchDepot
