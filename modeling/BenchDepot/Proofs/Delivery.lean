import BenchDepot.Proofs.Ages
import BenchDepot.Proofs.KeyGrammar
import BenchDepot.Proofs.Queue
import BenchDepot.Proofs.Replacement

/-!
# Read, refresh, read again

A read that finds an artifact missing or stale signals its key.  When the queue is drained then, in
less time than the cooldown, the first signal of the key is dispatched, and every other one falls
within the cooldown of that dispatch, however many there are and whatever other keys do between
them.  So the source is asked once, and what it supplied is what later reads find.

* `exists_only_dispatch` — among the signals of a key in such a drain one is dispatched;
* `artifact?_run_of_debounced` — an artifact stays while its key is debounced;
* `deliveredOnce_of_readThenDrain` — the drain after a read.
-/

namespace BenchDepot

/-- Whether an event neither handles a signal nor writes an artifact nor closes the queue. -/
def Event.rests : Event → Bool
  | .handle _ | .receive | .put .. | .close => false
  | _ => true

/-- Whether an event may be part of a drain: signals are handled, and whatever else happens, no
artifact is put directly, and the queue stays open. -/
def Event.drains : Event → Bool
  | .put .. | .close => false
  | _ => true

theorem Event.drains_of_rests {e : Event} (h : e.rests = true) : e.drains = true := by
  cases e <;> first | rfl | cases h

theorem Event.takes_of_rests {e : Event} (h : e.rests = true) : e.takes = false := by
  cases e <;> first | rfl | cases h

/-- The service that a drain starts with: it was led to by a run, a key was read then, and some time
went by. -/
def Service.afterRead (start : Service) (before : List Event) (key : Key)
    (waiting : List Event) : Service :=
  (start.run before).run (.read key :: waiting)

/-- A read of a key by a service that a run led to, some time in which no signal is handled, and a
drain of the queue. -/
structure ReadThenDrain (start : Service) (before : List Event) (key : Key)
    (waiting drain : List Event) : Prop where
  /-- The store answers the read, which finds no fresh artifact and a place in the queue. -/
  answered : (start.run before).faults.get = false
  found : (start.run before).finding key ((start.run before).store.artifact? key.text) ≠ .fresh
  room : (start.run before).signals.hasRoom = true
  /-- No dispatch of the key that counts started within the cooldown before. -/
  ready : ∀ c ∈ start.calls before, c.key = key → c.counts start.advances = true →
    c.start + start.cooldown ≤ (start.run before).clock
  waits : ∀ e ∈ waiting, e.rests = true
  drains : ∀ e ∈ drain, e.drains = true
  /-- The drain ends with an empty queue, and takes less time than the cooldown. -/
  empty : ((start.afterRead before key waiting).run drain).signals.pending = []
  short : ((start.afterRead before key waiting).run drain).clock <
    (start.afterRead before key waiting).clock + start.cooldown
  /-- Whenever the key is dispatched in the drain, its source supplies content, which can be
  stored. -/
  supplied : ∀ m ∈ (start.afterRead before key waiting).meetings drain, m.2 = key →
    m.1.dispatches.blocks m.1.cooldown m.1.clock key = false →
      (m.1.supply? (start.settings.origins.source key)).isSome = true ∧ m.1.canStore = true
  /-- All in all, fewer keys are handled than the table may hold. -/
  few : ((start.calls (before ++ .read key :: waiting ++ drain)).map Call.key).toFinset.card <
    maxTracked

/-- A service that reads find an artifact at. -/
structure Serves (s : Service) (key : Key) (artifact : Artifact) : Prop where
  content : s.faults.get = false → (s.read key).1 = .ok (some artifact)
  /-- Within its lifetime the read is counted as a fresh one, and nothing else happens. -/
  fresh : s.faults.get = false → artifact.generatedAt.hasYear = true → s.now.hasYear = true →
    s.now.count - artifact.generatedAt.count ≤
        (s.settings.cache.policy.ttl key).toInt * nanosPerSecond →
      (s.read key).2 = s.count fun c => { c with freshReads := c.freshReads + 1 }

/-- A drain that asks the source of a key once, after which reads of the key find what it
supplied. -/
structure DeliveredOnce (s : Service) (drain : List Event) (key : Key) : Prop where
  asked : (((s.calls drain).filter fun c => c.key = key).flatMap fun c => c.handled.asked) =
    [s.settings.origins.source key]
  served : ∃ u content, (u, key) ∈ s.meetings drain ∧ (u.handle key).1.outcome = .refreshed ∧
    u.supply? (s.settings.origins.source key) = some content ∧
      ∀ later, (∀ e ∈ later, e.rests = true) →
        Serves ((s.run drain).run later) key ⟨content, u.now⟩

namespace Service

variable {s u : Service} {e : Event} {events : List Event} {key : Key}

/-! ## Artifacts that stay -/

/-- An event that writes no artifact directly and does not refresh a key leaves the artifact of the
key alone. -/
theorem artifact?_after (he : e.drains = true)
    (hkey : ∀ u, s.met? e = some (u, key) → (u.handle key).1.outcome ≠ .refreshed) :
    (s.after e).store.artifact? key.text = s.store.artifact? key.text := by
  cases hmet : s.met? e with
  | some m =>
      obtain ⟨u, other⟩ := m
      obtain ⟨hu, hafter⟩ := after_of_met? hmet
      have hreplaces := handle_replacesOneOrNothing u other
      rw [hafter, ← hu.store]
      by_cases hother : other = key
      · subst hother
        have huntouched := hreplaces.untouched (hkey u hmet)
        rw [Store.artifact?, huntouched]
        rfl
      · exact hreplaces.others key.text fun heq => hother (Key.text_injective heq).symm
  | none =>
      have hwrite : s.write? e = none := by
        cases e with
        | put name blob at_ => cases he
        | handle k => cases hmet
        | _ => simp [write?, hmet]
      have hartifacts := artifacts_after s e
      rw [hwrite] at hartifacts
      rw [Store.artifact?, hartifacts]
      rfl

/-- While every signal of a key is debounced, its artifact stays. -/
theorem artifact?_run_of_debounced (hdrain : ∀ e ∈ events, e.drains = true)
    (hkey : ∀ m ∈ s.meetings events, m.2 = key → (m.1.handle key).1.outcome = .debounced) :
    (s.run events).store.artifact? key.text = s.store.artifact? key.text := by
  induction events generalizing s with
  | nil => rfl
  | cons e rest ih =>
      have hmeetings : s.meetings (e :: rest) =
          (s.met? e).toList ++ (s.after e).meetings rest := rfl
      rw [hmeetings] at hkey
      have hrest := @ih (s.after e) (fun e' he' => hdrain e' (List.mem_cons_of_mem _ he'))
        fun m hm => hkey m (List.mem_append_right _ hm)
      rw [run_cons, hrest]
      refine artifact?_after (hdrain e List.mem_cons_self) fun u hmet => ?_
      have hdebounced := hkey (u, key) (List.mem_append_left _ (by rw [hmet]; simp)) rfl
      rw [hdebounced]
      simp

/-- Events that rest handle no signals. -/
theorem meetings_of_rests (h : ∀ e ∈ events, e.rests = true) : s.meetings events = [] := by
  induction events generalizing s with
  | nil => rfl
  | cons e rest ih =>
      have hmet : s.met? e = none := by
        have he := h e List.mem_cons_self
        cases e with
        | handle k => cases he
        | receive => cases he
        | _ => rfl
      show (s.met? e).toList ++ (s.after e).meetings rest = []
      rw [hmet, ih fun e' he' => h e' (List.mem_cons_of_mem _ he')]
      rfl

/-- A stored artifact is what reads find. -/
theorem serves_of_artifact? {artifact : Artifact}
    (h : s.store.artifact? key.text = some artifact) : Serves s key artifact := by
  have hlookup : s.faults.get = false → s.lookup key = .ok (some artifact) := by
    intro hget
    rw [lookup, hget, h]
    rfl
  refine ⟨fun hget => ?_, fun hget hgenerated hnow hage => ?_⟩
  · rw [read, hlookup hget]
  · have hstale : s.settings.cache.policy.isStale key artifact.generatedAt s.now = false := by
      apply eq_false_of_ne_true
      intro hstale
      have hlate := (TtlPolicy.isStale_iff _ key (Instant.moderate_of_hasYear hgenerated)
        (Instant.moderate_of_hasYear hnow)).mp hstale
      omega
    have hfinding : s.finding key (some artifact) = .fresh := by
      rw [finding, hstale]
      rfl
    rw [read, hlookup hget]
    show s.observe key (s.finding key (some artifact)) = _
    rw [hfinding]
    rfl

/-! ## One dispatch among many signals -/

variable {start : Service} {before waiting drain : List Event}

/-- Only the drain handles signals after the read. -/
theorem calls_readThenDrain (h : ReadThenDrain start before key waiting drain) :
    start.calls (before ++ .read key :: waiting ++ drain) = start.calls before ++
      ((start.afterRead before key waiting).meetings drain).map fun m => m.1.call m.2 := by
  have hrests : ∀ e ∈ Event.read key :: waiting, e.rests = true := by
    intro e he
    rcases List.mem_cons.mp he with rfl | hwaiting
    · rfl
    · exact h.waits e hwaiting
  have hnone : (start.run before).calls (.read key :: waiting) = [] := by
    rw [calls_eq_map, meetings_of_rests hrests]
    rfl
  rw [← calls_eq_map, calls, log_append, log_append, run_append]
  show start.calls before ++ (start.run before).calls (.read key :: waiting) ++ _ = _
  rw [hnone, List.append_nil]
  rfl

/-- In the drain a signal of the key is debounced exactly when one that counts was dispatched
earlier in the drain: what was dispatched before the read no longer counts, and what is dispatched
in the drain counts to its end. -/
theorem debounced_iff_of_drain (hnew : start.dispatches = [])
    (h : ReadThenDrain start before key waiting drain) {earlier later : List (Service × Key)}
    (hsplit : (start.afterRead before key waiting).meetings drain =
      earlier ++ (u, key) :: later) :
    (u.handle key).1.outcome = .debounced ↔ ∃ m ∈ earlier, m.2 = key ∧
      (m.1.handle key).1.outcome.counts start.advances = true := by
  have hcalls : start.calls (before ++ .read key :: waiting ++ drain) =
      (start.calls before ++ earlier.map fun m => m.1.call m.2) ++
        u.call key :: later.map fun m => m.1.call m.2 := by
    rw [calls_readThenDrain h, hsplit, List.map_append, List.map_cons, List.append_assoc]
  have hiff := (call_debounced_iff hnew h.few hcalls).1
  have hwaited : (start.run before).clock ≤ (start.afterRead before key waiting).clock :=
    clock_le_run _ _
  have hmem : (u, key) ∈ (start.afterRead before key waiting).meetings drain := by
    rw [hsplit]
    simp
  obtain ⟨hfrom, hto, _⟩ := between_of_mem_meetings hmem
  have hshort := h.short
  refine hiff.trans ⟨?_, ?_⟩
  · rintro ⟨c, hc, hkey, hcounts, hlate⟩
    have hcame : u.clock < c.start + start.cooldown := hlate
    rcases List.mem_append.mp hc with hbefore | hearlier
    · -- what was dispatched before the read is too old by now
      have hready := h.ready c hbefore hkey hcounts
      omega
    · obtain ⟨m, hm, rfl⟩ := List.mem_map.mp hearlier
      have hmkey : m.2 = key := hkey
      exact ⟨m, hm, hmkey, by rw [← hmkey]; exact hcounts⟩
  · rintro ⟨m, hm, rfl, hcounts⟩
    -- what was dispatched in the drain is not, as the whole drain is shorter than the cooldown
    have hstart : (start.afterRead before m.2 waiting).clock ≤ m.1.clock :=
      (between_of_mem_meetings (by rw [hsplit]; exact List.mem_append_left _ hm)).1
    refine ⟨m.1.call m.2, List.mem_append_right _ (List.mem_map_of_mem hm), rfl, hcounts, ?_⟩
    show u.clock < m.1.clock + m.1.pace.start + start.cooldown
    omega

/-- The key that was read waits, until it is handled in the drain. -/
theorem exists_meeting_of_drain (h : ReadThenDrain start before key waiting drain) :
    ∃ u, (u, key) ∈ (start.afterRead before key waiting).meetings drain := by
  have hsignalled : key ∈ ((start.run before).after (.read key)).signals.pending := by
    show key ∈ ((start.run before).read key).2.signals.pending
    rw [read, lookup, h.answered]
    show key ∈ ((start.run before).observe key ((start.run before).finding key
      ((start.run before).store.artifact? key.text))).signals.pending
    rw [pending_observe_of_hasRoom _ key h.found h.room]
    simp
  have hwaits : key ∈ (start.afterRead before key waiting).signals.pending := by
    have hextends : ((start.run before).after (.read key)).signals.Extends
        (((start.run before).after (.read key)).run waiting).signals :=
      extends_run fun e he => Event.takes_of_rests (h.waits e he)
    exact hextends.mem hsignalled
  refine exists_meeting hwaits (fun e he => ?_) ?_
  · rintro rfl
    exact absurd (h.drains _ he) (by decide)
  · rw [h.empty]
    simp

/-- The first signal of the key in the drain is dispatched and ends refreshed, and all others are
debounced. -/
theorem exists_only_dispatch (hnew : start.dispatches = [])
    (h : ReadThenDrain start before key waiting drain) : ∃ earlier u later,
      (start.afterRead before key waiting).meetings drain = earlier ++ (u, key) :: later ∧
        (∀ m ∈ earlier, m.2 ≠ key) ∧ (u.handle key).1.outcome = .refreshed ∧
          ∀ m ∈ later, m.2 = key → (m.1.handle key).1.outcome = .debounced := by
  obtain ⟨v, hv⟩ := exists_meeting_of_drain h
  have hsome : (((start.afterRead before key waiting).meetings drain).find? fun m =>
      decide (m.2 = key)).isSome = true := List.find?_isSome.mpr ⟨(v, key), hv, by simp⟩
  obtain ⟨m, hfind⟩ := Option.isSome_iff_exists.mp hsome
  obtain ⟨hm, earlier, later, hsplit, hearlier⟩ := List.find?_eq_some_iff_append.mp hfind
  obtain ⟨u, other⟩ := m
  have hother : key = other := (of_decide_eq_true hm).symm
  subst hother
  have hnone : ∀ m ∈ earlier, m.2 ≠ key := by
    intro m hmem
    simpa using hearlier m hmem
  -- this is the first signal of the key in the drain, so that nothing debounces it
  have hfirst : (u.handle key).1.outcome ≠ .debounced := by
    intro hdebounced
    obtain ⟨m, hmem, hkey, _⟩ := (debounced_iff_of_drain hnew h hsplit).mp hdebounced
    exact hnone m hmem hkey
  have hsettings : u.settings = start.settings := by
    have hmem : (u, key) ∈ (start.afterRead before key waiting).meetings drain := by
      rw [hsplit]
      simp
    rw [(between_of_mem_meetings hmem).2.2, afterRead, settings_run, settings_run]
  have hblocks : u.dispatches.blocks u.cooldown u.clock key = false :=
    eq_false_of_ne_true (mt (handle_debounced_iff u key).mpr hfirst)
  obtain ⟨hsupply, hstore⟩ := h.supplied (u, key) (by rw [hsplit]; simp) rfl hblocks
  have hrefreshed : (u.handle key).1.outcome = .refreshed :=
    (handle_replacesOneOrNothing u key).refreshed_iff.mpr
      ⟨hblocks, by rw [hsettings]; exact hsupply, hstore⟩
  refine ⟨earlier, u, later, hsplit, hnone, hrefreshed, ?_⟩
  -- and it counts for every signal of the key behind it
  rintro ⟨w, third⟩ hmem hthird
  have hthird : key = third := hthird.symm
  subst hthird
  obtain ⟨between, rest, rfl⟩ := List.append_of_mem hmem
  have hsplit' : (start.afterRead before key waiting).meetings drain =
      (earlier ++ (u, key) :: between) ++ (w, key) :: rest := by
    rw [hsplit]
    simp
  refine (debounced_iff_of_drain hnew h hsplit').mpr ⟨(u, key), by simp, rfl, ?_⟩
  rw [hrefreshed]
  rfl

/-- All in all the source is asked once. -/
theorem asked_of_only_dispatch {s u : Service} {earlier later : List (Service × Key)}
    (hsplit : s.meetings events = earlier ++ (u, key) :: later)
    (hearlier : ∀ m ∈ earlier, m.2 ≠ key) (hu : (u.handle key).1.outcome = .refreshed)
    (hlater : ∀ m ∈ later, m.2 = key → (m.1.handle key).1.outcome = .debounced) :
    (((s.calls events).filter fun c => c.key = key).flatMap fun c => c.handled.asked) =
      [s.settings.origins.source key] := by
  have hbefore : ((earlier.map fun m => m.1.call m.2).filter fun c => c.key = key) = [] := by
    apply List.filter_eq_nil_iff.mpr
    intro c hc
    obtain ⟨m, hm, rfl⟩ := List.mem_map.mp hc
    have hne : (m.1.call m.2).key ≠ key := hearlier m hm
    simpa using hne
  have hafter : ((later.map fun m => m.1.call m.2).filter fun c => c.key = key).flatMap
      (fun c => c.handled.asked) = [] := by
    apply List.flatMap_eq_nil_iff.mpr
    intro c hc
    obtain ⟨hmem, hkey⟩ := List.mem_filter.mp hc
    obtain ⟨m, hm, rfl⟩ := List.mem_map.mp hmem
    have hmkey : m.2 = key := of_decide_eq_true hkey
    have hdebounced : (m.1.call m.2).handled.outcome = .debounced := by
      rw [hmkey]
      exact hlater m hm hmkey
    rw [asked_call, if_pos hdebounced]
  have hsettings : u.settings = s.settings :=
    (between_of_mem_meetings (by rw [hsplit]; exact List.mem_append_right _ List.mem_cons_self)).2.2
  have hasked : (u.call key).handled.asked = [s.settings.origins.source key] := by
    have hcall : (u.call key).handled.outcome ≠ .debounced := by
      show (u.handle key).1.outcome ≠ .debounced
      rw [hu]
      simp
    rw [asked_call, if_neg hcall, hsettings]
  have hkey : (u.call key).key = key := rfl
  rw [calls_eq_map, hsplit, List.map_append, List.map_cons, List.filter_append, hbefore,
    List.filter_cons_of_pos (by simp [hkey]), List.nil_append, List.flatMap_cons, hafter, hasked,
    List.append_nil]

/-- What the one dispatch stored is there at the end. -/
theorem artifact?_of_only_dispatch {s u : Service} {earlier later : List (Service × Key)}
    (hdrain : ∀ e ∈ events, e.drains = true)
    (hsplit : s.meetings events = earlier ++ (u, key) :: later)
    (hu : (u.handle key).1.outcome = .refreshed)
    (hlater : ∀ m ∈ later, m.2 = key → (m.1.handle key).1.outcome = .debounced) :
    ∃ content, u.supply? (u.settings.origins.source key) = some content ∧
      (s.run events).store.artifact? key.text = some ⟨content, u.now⟩ := by
  obtain ⟨first, e, rest, rfl, hfirst, hmet⟩ := exists_of_log_eq hsplit
  obtain ⟨_, hafter⟩ := after_of_met? hmet
  obtain ⟨content, hsupply, hstored⟩ := (handle_replacesOneOrNothing u key).replaced hu
  have hrest : ((s.run first).after e).meetings rest = later := by
    have hlog : s.meetings (first ++ e :: rest) =
        earlier ++ ((u, key) :: ((s.run first).after e).meetings rest) := by
      rw [meetings, log_append, hfirst, log, hmet]
      rfl
    rw [hlog] at hsplit
    exact (List.cons.inj (List.append_cancel_left hsplit)).2
  -- all that follows the dispatch debounces the key, and so keeps its artifact
  have hkept : (((s.run first).after e).run rest).store.artifact? key.text =
      ((s.run first).after e).store.artifact? key.text :=
    artifact?_run_of_debounced (fun e' he' => hdrain e' (by simp [he']))
      (by rw [hrest]; exact hlater)
  refine ⟨content, hsupply, ?_⟩
  rw [run_append, run_cons, hkept, hafter]
  exact hstored

end Service

/-- If a read finds an artifact missing or stale, and the queue is drained then in less time than
the cooldown, with the source of the key supplying content that can be stored, then the source is
asked once, however many signals of the key there are and whatever other keys do; later reads find
what it supplied, and within the lifetime of the artifact they are counted as fresh and signal
nothing.  The service starts without dispatches, with whatever store it finds. -/
theorem deliveredOnce_of_readThenDrain {start : Service} {before : List Event} {key : Key}
    {waiting drain : List Event} (hnew : start.dispatches = [])
    (h : ReadThenDrain start before key waiting drain) :
    DeliveredOnce (start.afterRead before key waiting) drain key := by
  obtain ⟨earlier, u, later, hsplit, hearlier, hrefreshed, hlater⟩ :=
    Service.exists_only_dispatch hnew h
  have hmem : (u, key) ∈ (start.afterRead before key waiting).meetings drain := by
    rw [hsplit]
    simp
  obtain ⟨_, _, hsettings⟩ := Service.between_of_mem_meetings hmem
  obtain ⟨content, hsupply, hstored⟩ :=
    Service.artifact?_of_only_dispatch h.drains hsplit hrefreshed hlater
  rw [hsettings] at hsupply
  refine ⟨Service.asked_of_only_dispatch hsplit hearlier hrefreshed hlater,
    u, content, hmem, hrefreshed, hsupply, fun later hrests => ?_⟩
  apply Service.serves_of_artifact?
  rw [Service.artifact?_run_of_debounced (fun e he => Event.drains_of_rests (hrests e he))
    (by rw [Service.meetings_of_rests hrests]; simp)]
  exact hstored

/-- A world in which the table of USB device names cannot be fetched. -/
def withoutUsbIds : Surroundings where
  now := .epoch
  origins := [(OriginSettings.usbIds {}, [⟨.timeout, 7⟩])]
  chance := []
  faults := {}
  pace := {}

/-- Two keys wait when one of them is read, and the other fails in the drain. -/
theorem readThenDrain_withoutUsbIds :
    ReadThenDrain (Service.fresh {} .epoch) [.notify .usbIds, .notify .pciIds] .pciIds
      [.turn 5 withoutUsbIds] [.receive, .receive, .receive] where
  answered := rfl
  found := by decide
  room := rfl
  ready := by
    intro c hc
    cases hc
  waits := by decide
  drains := by decide
  empty := by decide
  short := by decide
  supplied := by decide
  few := Service.card_keys_lt _ (by decide)

/-- The read key is fetched once, though it waits twice. -/
theorem deliveredOnce_withoutUsbIds :
    (Service.fresh {} .epoch).dispatches = [] ∧
      ReadThenDrain (Service.fresh {} .epoch) [.notify .usbIds, .notify .pciIds] .pciIds
        [.turn 5 withoutUsbIds] [.receive, .receive, .receive] ∧
      DeliveredOnce ((Service.fresh {} .epoch).afterRead [.notify .usbIds, .notify .pciIds] .pciIds
        [.turn 5 withoutUsbIds]) [.receive, .receive, .receive] .pciIds :=
  ⟨rfl, readThenDrain_withoutUsbIds,
    deliveredOnce_of_readThenDrain rfl readThenDrain_withoutUsbIds⟩

end BenchDepot
