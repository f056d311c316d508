import BenchDepot.Proofs.Records
import BenchDepot.Proofs.Surface

/-!
# Signals and counters along a run

A service counts what it does, and a run can be watched from outside: which lookups succeeded and
what they found, which keys were signalled and which of them found a place, what became of the
signals that were handled, and how many records an upload reported.  The counters tell the same, one
for one, whatever fails on the way.  As for the queue, nothing gets lost or changes places in it:
what found a place was handled since or still waits.

* `booked_after`, `booked_run` — the counters go on by what is watched;
* `queued_after`, `queued_run` — what found a place was handled or waits, in this order;
* `conserved_run` — every run of a new service.
-/

namespace BenchDepot

open Service (Finding)

/-- The key that an event reads, over HTTP or directly. -/
def Event.target? : Event → Option Key
  | .read key => some key
  | .request r => r.readKey?
  | _ => none

/-- The key that an event signals directly. -/
def Event.notified? : Event → Option Key
  | .notify key => some key
  | _ => none

/-- Whether an event leaves the queue its reader, and handles no signal from elsewhere. -/
def Event.viaQueue : Event → Bool
  | .handle _ | .close => false
  | _ => true

/-- What is watched of a run. -/
structure Journal where
  /-- The keys whose lookup succeeded, and what was found. -/
  lookups : List (Key × Finding)
  /-- The keys that were signalled directly. -/
  notified : List Key
  /-- The keys that were signalled. -/
  sent : List Key
  /-- The keys whose signal found a place. -/
  placed : List Key
  calls : List Call
  /-- The records that uploads reported to have stored. -/
  stored : List Nat

/-- Two journals, one after the other. -/
def Journal.append (first second : Journal) : Journal where
  lookups := first.lookups ++ second.lookups
  notified := first.notified ++ second.notified
  sent := first.sent ++ second.sent
  placed := first.placed ++ second.placed
  calls := first.calls ++ second.calls
  stored := first.stored ++ second.stored

/-- Whether a call was for a kind of refresh and came to something. -/
def Call.comesTo (kind : RefreshKind) (outcome : Outcome) (call : Call) : Bool :=
  decide (call.key.refreshKind = kind) && decide (call.handled.outcome = outcome)

namespace Service

/-- The key that an event looks up with success, and what it finds. -/
def lookedUp? (s : Service) (e : Event) : Option (Key × Finding) :=
  e.target?.bind fun key =>
    (s.lookup key).toOption.map fun artifact? => (key, s.finding key artifact?)

/-- The key that an event signals: directly, or because it finds it stale or missing. -/
def sent? (s : Service) (e : Event) : Option Key :=
  e.notified?.or (((s.lookedUp? e).filter fun l => l.2 ≠ .fresh).map Prod.fst)

/-- The key that an event signals, if the signal finds a place. -/
def placed? (s : Service) (e : Event) : Option Key :=
  (s.sent? e).filter fun key => (s.notify key).1

/-- How many records an upload reports to have stored. -/
def uploaded? (s : Service) : Event → Option Nat
  | .request request => s.reported? (.request request)
  | _ => none

/-- What is watched of a run. -/
def journal (s : Service) (events : List Event) : Journal where
  lookups := s.log lookedUp? events
  notified := events.filterMap Event.notified?
  sent := s.log sent? events
  placed := s.log placed? events
  calls := s.calls events
  stored := s.log uploaded? events

end Service

/-- Counters that go on by what was watched between two services. -/
structure Booked (s t : Service) (journal : Journal) : Prop where
  reads : ∀ found, t.counters.reads found =
    s.counters.reads found + journal.lookups.countP fun l => l.2 = found
  /-- What is signalled is what is not fresh, and what is signalled directly. -/
  sent : journal.sent.length =
    (journal.lookups.countP fun l => l.2 ≠ .fresh) + journal.notified.length
  dropped : t.counters.droppedSignals + journal.placed.length =
    s.counters.droppedSignals + journal.sent.length
  debounced : t.counters.debounced = s.counters.debounced +
    journal.calls.countP fun c => c.handled.outcome = .debounced
  dispatches : ∀ kind, t.counters.dispatches.get kind = s.counters.dispatches.get kind +
    (journal.calls.countP (Call.comesTo kind .refreshed) +
      journal.calls.countP (Call.comesTo kind .failed))
  failures : ∀ kind, t.counters.failures.get kind = s.counters.failures.get kind +
    journal.calls.countP (Call.comesTo kind .failed)
  ingested : t.counters.ingested = s.counters.ingested + journal.stored.sum

/-- A queue that goes on by what was watched between two services. -/
structure Queued (s t : Service) (journal : Journal) : Prop where
  order : journal.calls.map Call.key ++ t.signals.pending = s.signals.pending ++ journal.placed
  capacity : t.signals.capacity = s.signals.capacity
  bound : s.signals.pending.length ≤ s.signals.capacity →
    t.signals.pending.length ≤ t.signals.capacity

/-- A run in which no signal gets lost and everything is counted. -/
structure Conserved (s : Service) (events : List Event) : Prop where
  /-- The keys that were handled, and behind them those that wait, are those whose signal found a
  place. -/
  order : (s.calls events).map Call.key ++ (s.run events).signals.pending =
    s.log Service.placed? events
  /-- The queue never exceeds its capacity. -/
  bound : ∀ first rest, events = first ++ rest →
    (s.run first).signals.pending.length ≤ s.settings.refresh.queueCapacity.toNat
  /-- A signal finds a place or is counted as dropped. -/
  sent : (s.log Service.sent? events).length =
    (s.log Service.placed? events).length + (s.run events).counters.droppedSignals
  /-- There is a signal for every stale read, for every missing one, and for every direct one. -/
  signalled : (s.log Service.sent? events).length = (s.run events).counters.staleReads +
    (s.run events).counters.missingReads + (events.filterMap Event.notified?).length
  /-- A handled signal is debounced or dispatched. -/
  handled : (s.run events).counters.debounced + (s.run events).counters.dispatches.total =
    (s.calls events).length
  failures_le : ∀ kind, (s.run events).counters.failures.get kind ≤
    (s.run events).counters.dispatches.get kind
  /-- A dispatch that does not fail refreshes. -/
  refreshed : ∀ kind, (s.run events).counters.dispatches.get kind -
      (s.run events).counters.failures.get kind =
    (s.calls events).countP (Call.comesTo kind .refreshed)
  /-- A lookup that succeeds finds something fresh, stale or missing. -/
  reads : (s.run events).counters.freshReads + (s.run events).counters.staleReads +
    (s.run events).counters.missingReads = (s.log Service.lookedUp? events).length
  ingested : (s.run events).counters.ingested = (s.log Service.uploaded? events).sum

/-! ## Journals in parts -/

namespace Service

variable {s t u : Service} {e : Event} {events : List Event} {key : Key} {first second : Journal}

theorem journal_cons (s : Service) (e : Event) (rest : List Event) :
    s.journal (e :: rest) = (s.journal [e]).append ((s.after e).journal rest) := by
  simp only [journal, Journal.append, calls, log, List.append_nil, Journal.mk.injEq, true_and,
    and_true]
  rw [← List.filterMap_append, List.singleton_append]

end Service

theorem Booked.trans {s t u : Service} {first second : Journal} (h : Booked s t first)
    (h' : Booked t u second) : Booked s u (first.append second) := by
  constructor
  · intro found
    have hfirst := h.reads found
    have hsecond := h'.reads found
    simp only [Journal.append, List.countP_append]
    omega
  · have hfirst := h.sent
    have hsecond := h'.sent
    simp only [Journal.append, List.countP_append, List.length_append]
    omega
  · have hfirst := h.dropped
    have hsecond := h'.dropped
    simp only [Journal.append, List.length_append]
    omega
  · have hfirst := h.debounced
    have hsecond := h'.debounced
    simp only [Journal.append, List.countP_append]
    omega
  · intro kind
    have hfirst := h.dispatches kind
    have hsecond := h'.dispatches kind
    simp only [Journal.append, List.countP_append]
    omega
  · intro kind
    have hfirst := h.failures kind
    have hsecond := h'.failures kind
    simp only [Journal.append, List.countP_append]
    omega
  · have hfirst := h.ingested
    have hsecond := h'.ingested
    simp only [Journal.append, List.sum_append]
    omega

theorem Booked.of_counters {s t u : Service} {journal : Journal} (h : Booked u t journal)
    (hsame : u.counters = s.counters) : Booked s t journal where
  reads := hsame ▸ h.reads
  sent := h.sent
  dropped := hsame ▸ h.dropped
  debounced := hsame ▸ h.debounced
  dispatches := hsame ▸ h.dispatches
  failures := hsame ▸ h.failures
  ingested := hsame ▸ h.ingested

theorem Queued.trans {s t u : Service} {first second : Journal} (h : Queued s t first)
    (h' : Queued t u second) : Queued s u (first.append second) where
  order := by
    simp only [Journal.append, List.map_append]
    rw [List.append_assoc, h'.order, ← List.append_assoc, h.order, List.append_assoc]
  capacity := h'.capacity.trans h.capacity
  bound hroom := h'.bound (h.bound hroom)

namespace Service

variable {s t : Service} {e : Event} {events : List Event} {key : Key} {journal : Journal}

theorem notify_fst (s : Service) (key : Key) : (s.notify key).1 = s.signals.hasRoom := by
  unfold notify
  split <;> simp [*]

/-- What finds a place is what is sent, if there is one. -/
theorem toList_placed? (s : Service) (e : Event) :
    (s.placed? e).toList = if s.signals.hasRoom then (s.sent? e).toList else [] := by
  unfold placed?
  cases s.sent? e <;> cases hroom : s.signals.hasRoom <;> simp [notify_fst, hroom]

/-- What is watched of one event. -/
theorem journal_singleton (s : Service) (e : Event) : s.journal [e] =
    ⟨(s.lookedUp? e).toList, e.notified?.toList, (s.sent? e).toList,
      if s.signals.hasRoom then (s.sent? e).toList else [], (s.call? e).toList,
      (s.uploaded? e).toList⟩ := by
  rw [← toList_placed?]
  cases hnotified : e.notified? <;> simp [Service.journal, calls, log, hnotified]

/-! ## Queues after one event -/

/-- A queue behind which at most one key is put, if there is a place. -/
theorem queued_of_sent (keys : List Key) (hkeys : keys.length ≤ 1) (hcalls : journal.calls = [])
    (hplaced : journal.placed = if s.signals.hasRoom then keys else [])
    (hsignals : t.signals = { s.signals with
      pending := s.signals.pending ++ if s.signals.hasRoom then keys else [] }) :
    Queued s t journal := by
  refine ⟨?_, by rw [hsignals], fun hbound => ?_⟩
  · rw [hcalls, hplaced, hsignals]
    rfl
  · rw [hsignals]
    cases hroom : s.signals.hasRoom with
    | false => simpa using hbound
    | true =>
        simp only [Signals.hasRoom, Bool.and_eq_true, decide_eq_true_eq] at hroom
        simp only [if_true, List.length_append]
        omega

/-- The oldest signal is taken from the front of the queue. -/
theorem receive?_eq_some {signals rest : Signals} (h : signals.receive? = some (key, rest)) :
    signals.pending = key :: rest.pending ∧ rest.capacity = signals.capacity := by
  unfold Signals.receive? at h
  split at h
  · cases h
  · next hpending =>
    cases h
    exact ⟨hpending, rfl⟩

/-! ## Counters after one event -/

/-- Counters that agree on what is watched. -/
structure AgreeOn (c d : Counters) : Prop where
  reads : ∀ found, d.reads found = c.reads found
  droppedSignals : d.droppedSignals = c.droppedSignals
  debounced : d.debounced = c.debounced
  dispatches : d.dispatches = c.dispatches
  failures : d.failures = c.failures
  ingested : d.ingested = c.ingested

theorem AgreeOn.refl (c : Counters) : AgreeOn c c :=
  ⟨fun _ => rfl, rfl, rfl, rfl, rfl, rfl⟩

/-- An event of which nothing is noted leaves what is watched alone. -/
theorem booked_of_agreeOn (h : AgreeOn s.counters t.counters) :
    Booked s t ⟨[], [], [], [], [], []⟩ where
  reads := h.reads
  sent := rfl
  dropped := congrArg (· + 0) h.droppedSignals
  debounced := h.debounced
  dispatches kind := congrArg (ByKind.get · kind) h.dispatches
  failures kind := congrArg (ByKind.get · kind) h.failures
  ingested := h.ingested

/-- A lookup that succeeds is counted by what it finds, and as dropped if it is signalled without
a place. -/
theorem booked_observe (s : Service) (key : Key) (found : Finding) :
    Booked s (s.observe key found) ⟨[(key, found)], [], found.signalled key,
      if s.signals.hasRoom then found.signalled key else [], [], []⟩ := by
  have hcounters := counters_observe s key found
  refine ⟨fun other => ?_, ?_, ?_, ?_, fun kind => ?_, fun kind => ?_, ?_⟩
  · have hreads : (s.observe key found).counters.reads other =
        (s.counters.withRead found).reads other := by
      rw [hcounters]
      cases other <;> rfl
    rw [hreads, Counters.reads_withRead]
    by_cases hother : other = found <;> simp [hother, Ne.symm, eq_comm]
  · cases found <;> rfl
  · rw [hcounters]
    cases s.signals.hasRoom <;> simp
  all_goals
    rw [hcounters]
    cases found <;> rfl

/-- A direct signal is counted if it is dropped. -/
theorem booked_notify (s : Service) (key : Key) : Booked s (s.notify key).2
    ⟨[], [key], [key], if s.signals.hasRoom then [key] else [], [], []⟩ := by
  have hcounters := counters_notify s key
  refine ⟨fun other => ?_, rfl, ?_, ?_, fun kind => ?_, fun kind => ?_, ?_⟩
  · rw [hcounters]
    cases other <;> rfl
  · rw [hcounters]
    cases s.signals.hasRoom <;> simp
  all_goals
    rw [hcounters]
    rfl

/-! ## Dispatches -/

/-- Asking a source may count skipped types, nothing else. -/
theorem counters_produce (s : Service) (source : Source) : ∃ skipped,
    (s.produce source).2.2.counters = { s.counters with skippedTypes := skipped } := by
  cases source with
  | aggregate => exact ⟨_, rfl⟩
  | origin url => exact ⟨s.counters.skippedTypes, rfl⟩

/-- The attempt at new content counts a dispatch of the key's kind, and its duration. -/
theorem counters_attempt (s : Service) (key : Key) : ∃ skipped,
    (s.attempt key).2.2.counters = { s.counters with
      dispatches := s.counters.dispatches.increment key.refreshKind
      durations := s.counters.durations.increment key.refreshKind
      skippedTypes := skipped } := by
  obtain ⟨skipped, hproduced⟩ := counters_produce
    ((s.wait s.pace.start).count fun c =>
      { c with dispatches := c.dispatches.increment key.refreshKind })
    (s.settings.origins.source key)
  refine ⟨skipped, ?_⟩
  rw [attempt]
  simp only [count, wait] at hproduced ⊢
  rw [hproduced]

theorem counters_publish {after : Service} {content : Except RefreshError ByteArray}
    (h : s.publish key content = .ok after) : after.counters = s.counters := by
  unfold publish at h
  split at h
  · cases h
  · split at h
    · next hput =>
      cases h
      rw [put_eq_ok hput]
    · cases h

theorem counters_afterFailure (s : Service) (key : Key) (start : Nat) :
    (s.afterFailure key start).counters =
      { s.counters with failures := s.counters.failures.increment key.refreshKind } := by
  unfold afterFailure
  dsimp only
  split <;> rfl

/-- A dispatch counts itself, its duration, and its failure if it fails. -/
theorem counters_dispatch (s : Service) (key : Key) : ∃ skipped,
    (s.dispatch key).2.counters = { s.counters with
      dispatches := s.counters.dispatches.increment key.refreshKind
      durations := s.counters.durations.increment key.refreshKind
      failures := if (s.dispatch key).1.outcome = .failed then
        s.counters.failures.increment key.refreshKind else s.counters.failures
      skippedTypes := skipped } := by
  obtain ⟨skipped, hattempt⟩ := counters_attempt s key
  refine ⟨skipped, ?_⟩
  cases hpublish : (s.attempt key).2.2.publish key (s.attempt key).1 with
  | ok after =>
      have hdispatch : s.dispatch key =
          (⟨.refreshed, (s.attempt key).2.1⟩, after.remember key s.dispatchStart) := by
        simp only [dispatch, hpublish]
      rw [hdispatch, remember, counters_publish hpublish, hattempt]
      rfl
  | error cause =>
      have hdispatch : s.dispatch key = (⟨.failed, (s.attempt key).2.1⟩,
          (s.attempt key).2.2.afterFailure key s.dispatchStart) := by
        simp only [dispatch, hpublish]
      rw [hdispatch, counters_afterFailure, hattempt]
      rfl

theorem get_increment (counts : ByKind) (kind other : RefreshKind) :
    (counts.increment kind).get other = counts.get other + if kind = other then 1 else 0 := by
  cases kind <;> cases other <;> rfl

/-- A handled signal is counted by what becomes of it. -/
theorem booked_handle (s : Service) (key : Key) :
    Booked s (s.handle key).2 ⟨[], [], [], [], [s.call key], []⟩ := by
  cases hblocks : s.dispatches.blocks s.cooldown s.clock key with
  | true =>
      have houtcome : (s.call key).handled.outcome = .debounced :=
        (handle_debounced_iff s key).mpr hblocks
      rw [handle_of_blocks hblocks]
      refine ⟨fun other => ?_, rfl, rfl, ?_, fun kind => ?_, fun kind => ?_, rfl⟩
      · cases other <;> rfl
      · simp [houtcome, count]
      · simp [Call.comesTo, houtcome, count]
      · simp [Call.comesTo, houtcome, count]
  | false =>
      obtain ⟨skipped, hcounters⟩ := counters_dispatch s key
      have hcall : (s.call key).handled = (s.dispatch key).1 :=
        congrArg Prod.fst (handle_of_not_blocks hblocks)
      have hkey : (s.call key).key = key := rfl
      have hways := (dispatch_handled s key).1
      rw [handle_of_not_blocks hblocks]
      refine ⟨fun other => ?_, rfl, ?_, ?_, fun kind => ?_, fun kind => ?_, ?_⟩
      · rw [hcounters]
        cases other <;> rfl
      · rw [hcounters]
      · rw [hcounters]
        simp [hcall, hways]
      · rw [hcounters, get_increment]
        cases houtcome : (s.dispatch key).1.outcome with
        | debounced => exact absurd houtcome hways
        | refreshed => simp [Call.comesTo, hcall, hkey, houtcome, List.countP_cons]
        | failed => simp [Call.comesTo, hcall, hkey, houtcome, List.countP_cons]
      · rw [hcounters]
        cases houtcome : (s.dispatch key).1.outcome with
        | debounced => exact absurd houtcome hways
        | refreshed => simp [Call.comesTo, hcall, houtcome]
        | failed =>
            simp [Call.comesTo, hcall, hkey, houtcome, get_increment, List.countP_cons]
      · rw [hcounters]
        rfl

/-! ## Uploads -/

/-- An accepted upload counts its records, nothing else. -/
theorem counters_of_accepted {body : ByteArray} {members : List (String × Submission)}
    (h : Accepted s body members) : (Http.submit s body).2.counters = { s.counters with
      ingested := s.counters.ingested + (recordsOf members).length } := by
  have happends := h.appends
  cases happend : s.append (recordsOf members) s.now with
  | error cause =>
      rw [happend] at happends
      cases happends
  | ok after =>
      obtain ⟨more, rfl, _, _⟩ := append_spec happend
      rw [submit_of_valid h.fits h.spells h.valid, Http.storeRecords, happend]
      rfl

/-- An upload counts the records that it reports to have stored. -/
theorem booked_upload (s : Service) {request : Http.Request} (h : request.isUpload = true) :
    Booked s (s.after (.request request))
      ⟨[], [], [], [], [], (s.uploaded? (.request request)).toList⟩ := by
  have hafter : s.after (.request request) = (Http.submit s request.body).2 := snd_respond h
  have huploaded : s.uploaded? (.request request) =
      if (Http.submit s request.body).1.status = 200 then
        (Http.membersOf? request.body).map fun members => (recordsOf members).length
      else none := by
    rw [uploaded?, reported?_request, batch?, respond_of_isUpload h, status_sendFor, h]
    split <;> simp_all [Function.comp_def]
  rw [hafter, huploaded]
  rcases submit_cases s request.body with ⟨members, haccepted⟩ | ⟨hsame, hstatus⟩ | ⟨hsame, hstatus⟩
  · have hcounters := counters_of_accepted haccepted
    rw [if_pos ((submit_status_iff s request.body).mpr ⟨members, haccepted⟩), haccepted.spells]
    refine ⟨fun other => ?_, rfl, ?_, ?_, fun kind => ?_, fun kind => ?_, ?_⟩
    · rw [hcounters]
      cases other <;> rfl
    all_goals simp [hcounters]
  · rw [if_neg (by omega), hsame]
    exact booked_of_agreeOn (AgreeOn.refl _)
  · rw [if_neg (by omega), hsame]
    exact booked_of_agreeOn ⟨fun other => by cases other <;> rfl, rfl, rfl, rfl, rfl, rfl⟩

/-! ## One event -/

theorem snd_serve (s : Service) (key : Key) : (Http.serve s key).2 = (s.read key).2 := by
  unfold Http.serve
  split <;> simp [*]

/-- An event that reads a key, and does nothing besides. -/
structure Reads (s : Service) (e : Event) (key : Key) : Prop where
  target : e.target? = some key
  notified : e.notified? = none
  call : s.call? e = none
  uploaded : s.uploaded? e = none
  after : s.after e = (s.read key).2

/-- An event that neither reads nor signals, handles a signal or stores an upload. -/
structure Idles (s : Service) (e : Event) : Prop where
  target : e.target? = none
  notified : e.notified? = none
  call : s.call? e = none
  uploaded : s.uploaded? e = none
  signals : e ≠ .close → (s.after e).signals = s.signals
  counters : AgreeOn s.counters (s.after e).counters

/-- A request that uploads nothing reads a key or does nothing. -/
theorem request_cases (s : Service) {request : Http.Request} (h : request.isUpload = false) :
    (∃ key, Reads s (.request request) key) ∨ Idles s (.request request) := by
  have huploaded : s.uploaded? (.request request) = none := by
    simp [uploaded?, reported?, h]
  have hafter : s.after (.request request) = (Http.answer s request).2 := rfl
  cases htarget : request.readKey? with
  | some key =>
      obtain ⟨hmethod, htext⟩ := readKey?_eq_some_iff.mp htarget
      refine Or.inl ⟨key, htarget, rfl, rfl, huploaded, ?_⟩
      rw [hafter, answer_of_key htext hmethod, snd_serve]
  | none =>
      have hstay : s.after (.request request) = s := by
        rcases answer_cases s request with ⟨key, hkey, _⟩ | hupload | hstay
        · rw [htarget] at hkey
          cases hkey
        · rw [h] at hupload
          cases hupload
        · exact hafter.trans hstay
      exact Or.inr ⟨htarget, rfl, rfl, huploaded, fun _ => by rw [hstay],
        by rw [hstay]; exact AgreeOn.refl _⟩

/-- What an event does that is watched. -/
inductive Course (s : Service) (e : Event) : Prop
  | reads (key : Key) (h : Reads s e key)
  | notifies (key : Key) (h : e = .notify key)
  | uploads (request : Http.Request) (h : e = .request request)
      (hupload : request.isUpload = true)
  | handles (u : Service) (key : Key) (h : s.met? e = some (u, key))
  | idles (h : Idles s e)

theorem agreeOn_built (s : Service) (r : Rebuilt) :
    AgreeOn s.counters (s.built r).2.counters :=
  ⟨fun found => by cases found <;> rfl, rfl, rfl, rfl, rfl, rfl⟩

theorem agreeOn_compact (s : Service) : AgreeOn s.counters s.compact.2.counters := by
  unfold compact
  split <;> exact ⟨fun found => by cases found <;> rfl, rfl, rfl, rfl, rfl, rfl⟩

/-- What is written to the store directly is not watched. -/
theorem idles_of_isDirect (h : e.isDirect = true) : Idles s e := by
  obtain ⟨store, hafter⟩ := store_of_isDirect h s
  have hnone : e.target? = none ∧ e.notified? = none ∧ s.call? e = none ∧
      s.uploaded? e = none := by
    cases e <;> first | exact ⟨rfl, rfl, rfl, rfl⟩ | cases h
  obtain ⟨htarget, hnotified, hcall, huploaded⟩ := hnone
  refine ⟨htarget, hnotified, hcall, huploaded, fun _ => ?_, ?_⟩
  · rw [hafter]
  · rw [hafter]
    exact AgreeOn.refl _

/-- Every event has such a course. -/
theorem course (s : Service) (e : Event) : Course s e := by
  cases e with
  | turn passed world => exact .idles ⟨rfl, rfl, rfl, rfl, fun _ => rfl, AgreeOn.refl _⟩
  | request request =>
      cases hupload : request.isUpload with
      | true => exact .uploads request rfl hupload
      | false =>
          rcases request_cases s hupload with ⟨key, hreads⟩ | hidles
          · exact .reads key hreads
          · exact .idles hidles
  | read key => exact .reads key ⟨rfl, rfl, rfl, rfl, rfl⟩
  | notify key => exact .notifies key rfl
  | handle key => exact .handles s key rfl
  | receive =>
      by_cases hmet : s.met? .receive = none
      · have hafter := after_receive_of_met?_none hmet
        have hcall : s.call? .receive = none := by rw [call?, hmet, Option.map_none]
        refine .idles ⟨rfl, rfl, hcall, rfl, fun _ => ?_, ?_⟩
        · rw [hafter]
        · rw [hafter]
          exact AgreeOn.refl _
      · obtain ⟨⟨u, key⟩, hsome⟩ := Option.ne_none_iff_exists'.mp hmet
        exact .handles u key hsome
  | put name blob at_ => exact .idles (idles_of_isDirect rfl)
  | append records at_ => exact .idles (idles_of_isDirect rfl)
  | importRow m benchmarkType cpuText at_ => exact .idles (idles_of_isDirect rfl)
  | build => exact .idles ⟨rfl, rfl, rfl, rfl, fun _ => signals_built s _, agreeOn_built s _⟩
  | rebuild => exact .idles ⟨rfl, rfl, rfl, rfl, fun _ => signals_built s _, agreeOn_built s _⟩
  | compact => exact .idles ⟨rfl, rfl, rfl, rfl, fun _ => signals_compact s, agreeOn_compact s⟩
  | close => exact .idles ⟨rfl, rfl, rfl, rfl, fun h => absurd rfl h, AgreeOn.refl _⟩

/-! ## What is watched of each course -/

theorem journal_of_lookup (h : Reads s e key) {artifact? : Option Artifact}
    (hlookup : s.lookup key = .ok artifact?) : s.journal [e] =
      ⟨[(key, s.finding key artifact?)], [], (s.finding key artifact?).signalled key,
        if s.signals.hasRoom then (s.finding key artifact?).signalled key else [], [], []⟩ := by
  have hlooked : s.lookedUp? e = some (key, s.finding key artifact?) := by
    rw [lookedUp?, h.target, Option.bind_some, hlookup]
    rfl
  have hsent : (s.sent? e).toList = (s.finding key artifact?).signalled key := by
    rw [sent?, h.notified, hlooked]
    cases s.finding key artifact? <;> rfl
  rw [journal_singleton, hsent, hlooked, h.notified, h.call, h.uploaded]
  rfl

/-- A lookup that fails is not noted. -/
theorem lookedUp?_of_error (h : Reads s e key) {cause : StoreError}
    (hlookup : s.lookup key = .error cause) : s.lookedUp? e = none := by
  rw [lookedUp?, h.target, Option.bind_some, hlookup]
  rfl

theorem lookedUp?_of_target (h : e.target? = none) : s.lookedUp? e = none := by
  rw [lookedUp?, h, Option.bind_none]

/-- Where no lookup succeeds and nothing is signalled directly, nothing is signalled. -/
theorem journal_of_lookedUp?_none (hlooked : s.lookedUp? e = none)
    (hnotified : e.notified? = none) : s.journal [e] =
      ⟨[], [], [], [], (s.call? e).toList, (s.uploaded? e).toList⟩ := by
  have hsent : s.sent? e = none := by
    rw [sent?, hnotified, hlooked]
    rfl
  rw [journal_singleton, hsent, hlooked, hnotified]
  simp

theorem readKey?_of_isUpload {request : Http.Request} (h : request.isUpload = true) :
    request.readKey? = none := by
  simp only [Http.Request.isUpload, Bool.and_eq_true, decide_eq_true_eq] at h
  simp only [Http.Request.readKey?, h.1]

/-- Of an event that handles a signal only the call is noted. -/
theorem journal_of_met? {u : Service} (h : s.met? e = some (u, key)) :
    s.journal [e] = ⟨[], [], [], [], [u.call key], []⟩ := by
  have hnone : e.target? = none ∧ e.notified? = none ∧ s.uploaded? e = none := by
    cases e <;> first | exact ⟨rfl, rfl, rfl⟩ | cases h
  obtain ⟨htarget, hnotified, huploaded⟩ := hnone
  have hcall : s.call? e = some (u.call key) := by
    rw [call?, h, Option.map_some]
  rw [journal_of_lookedUp?_none (lookedUp?_of_target htarget) hnotified, hcall, huploaded]
  rfl

theorem counters_of_met? {u : Service} (h : s.met? e = some (u, key)) :
    u.counters = s.counters := by
  cases e with
  | handle other =>
      cases h
      rfl
  | receive =>
      obtain ⟨r, _, hr⟩ := Option.map_eq_some_iff.mp h
      cases hr
      rfl
  | _ => cases h

/-- The counters go on by what is watched of an event. -/
theorem booked_after (s : Service) (e : Event) : Booked s (s.after e) (s.journal [e]) := by
  cases course s e with
  | reads key h =>
      rw [h.after]
      cases hlookup : s.lookup key with
      | error cause =>
          rw [journal_of_lookedUp?_none (lookedUp?_of_error h hlookup) h.notified, h.call,
            h.uploaded, read, hlookup]
          exact booked_of_agreeOn (AgreeOn.refl _)
      | ok artifact? =>
          rw [journal_of_lookup h hlookup, read, hlookup]
          exact booked_observe s key _
  | notifies key h =>
      subst h
      rw [journal_singleton]
      exact booked_notify s key
  | uploads request h hupload =>
      subst h
      have htarget : Event.target? (.request request) = none := readKey?_of_isUpload hupload
      rw [journal_of_lookedUp?_none (lookedUp?_of_target htarget) rfl]
      exact booked_upload s hupload
  | handles u key h =>
      rw [journal_of_met? h, (after_of_met? h).2]
      exact (booked_handle u key).of_counters (counters_of_met? h)
  | idles h =>
      rw [journal_of_lookedUp?_none (lookedUp?_of_target h.target) h.notified, h.call, h.uploaded]
      exact booked_of_agreeOn h.counters

/-- The queue goes on by what is watched of an event that leaves it its reader. -/
theorem queued_after (s : Service) (he : e.viaQueue = true) :
    Queued s (s.after e) (s.journal [e]) := by
  have hsame : ∀ {t : Service} {journal : Journal}, journal.calls = [] → journal.placed = [] →
      t.signals = s.signals → Queued s t journal := by
    intro t journal hcalls hplaced hsignals
    refine queued_of_sent [] (Nat.zero_le _) hcalls ?_ ?_
    · rw [hplaced, ite_self]
    · rw [ite_self, List.append_nil]
      exact hsignals
  cases course s e with
  | reads key h =>
      rw [h.after]
      cases hlookup : s.lookup key with
      | error cause =>
          rw [journal_of_lookedUp?_none (lookedUp?_of_error h hlookup) h.notified, h.call, read,
            hlookup]
          exact hsame rfl rfl rfl
      | ok artifact? =>
          rw [journal_of_lookup h hlookup, read, hlookup]
          refine queued_of_sent _ ?_ rfl rfl (signals_observe s key _)
          cases s.finding key artifact? <;> simp [Finding.signalled]
  | notifies key h =>
      subst h
      rw [journal_singleton]
      exact queued_of_sent [key] (Nat.le_refl _) rfl rfl (signals_notify s key)
  | uploads request h hupload =>
      subst h
      have htarget : Event.target? (.request request) = none := readKey?_of_isUpload hupload
      rw [journal_of_lookedUp?_none (lookedUp?_of_target htarget) rfl]
      refine hsame rfl rfl ?_
      rw [after, snd_respond hupload]
      exact signals_submit s request.body
  | handles u key h =>
      rw [journal_of_met? h, (after_of_met? h).2]
      cases e with
      | receive =>
          obtain ⟨⟨first, rest⟩, hreceive, hr⟩ := Option.map_eq_some_iff.mp h
          cases hr
          obtain ⟨hpending, hcapacity⟩ := receive?_eq_some hreceive
          refine ⟨?_, ?_, fun hbound => ?_⟩
          · rw [signals_handle, hpending]
            simp [call]
          · rw [signals_handle, hcapacity]
          · rw [hpending, List.length_cons] at hbound
            rw [signals_handle, hcapacity]
            exact Nat.le_of_succ_le hbound
      | handle other => cases he
      | _ => cases h
  | idles h =>
      have hclose : e ≠ .close := by
        rintro rfl
        cases he
      rw [journal_of_lookedUp?_none (lookedUp?_of_target h.target) h.notified, h.call]
      exact hsame rfl rfl (h.signals hclose)

/-! ## Whole runs -/

/-- The counters go on by what is watched of a run. -/
theorem booked_run (s : Service) (events : List Event) :
    Booked s (s.run events) (s.journal events) := by
  induction events generalizing s with
  | nil => exact booked_of_agreeOn (AgreeOn.refl _)
  | cons e rest ih =>
      rw [journal_cons]
      exact (booked_after s e).trans (ih (s.after e))

/-- The queue goes on by what is watched of a run that leaves it its reader. -/
theorem queued_run (s : Service) (he : ∀ e ∈ events, e.viaQueue = true) :
    Queued s (s.run events) (s.journal events) := by
  induction events generalizing s with
  | nil => exact ⟨(List.append_nil _).symm, rfl, id⟩
  | cons e rest ih =>
      rw [journal_cons]
      exact (queued_after s (he e List.mem_cons_self)).trans
        (ih (s.after e) fun other hother => he other (List.mem_cons_of_mem _ hother))

end Service

/-- A call comes to one thing and is for one kind of refresh. -/
theorem length_calls (calls : List Call) : calls.length =
    (calls.countP fun c => c.handled.outcome = .debounced) +
      (calls.countP (Call.comesTo .aggregate .refreshed) +
        calls.countP (Call.comesTo .aggregate .failed)) +
      (calls.countP (Call.comesTo .origin .refreshed) +
        calls.countP (Call.comesTo .origin .failed)) := by
  induction calls with
  | nil => rfl
  | cons call rest ih =>
      have hkind : call.key.refreshKind = .aggregate ∨ call.key.refreshKind = .origin := by
        cases call.key.refreshKind <;> simp
      have houtcome : call.handled.outcome = .refreshed ∨ call.handled.outcome = .debounced ∨
          call.handled.outcome = .failed := by
        cases call.handled.outcome <;> simp
      simp only [List.length_cons, List.countP_cons, ih, Call.comesTo]
      rcases hkind with hkind | hkind <;> rcases houtcome with houtcome | houtcome | houtcome <;>
        simp [hkind, houtcome] <;> omega

/-- A lookup that succeeds finds one thing. -/
theorem length_lookups (lookups : List (Key × Finding)) :
    lookups.length = (lookups.countP fun l => l.2 = .fresh) +
      (lookups.countP fun l => l.2 = .stale) + (lookups.countP fun l => l.2 = .missing) ∧
    (lookups.countP fun l => l.2 ≠ .fresh) =
      (lookups.countP fun l => l.2 = .stale) + (lookups.countP fun l => l.2 = .missing) := by
  induction lookups with
  | nil => exact ⟨rfl, rfl⟩
  | cons l rest ih =>
      obtain ⟨hlength, hnotFresh⟩ := ih
      simp only [List.length_cons, List.countP_cons, hlength, hnotFresh]
      cases l.2 <;> simp <;> omega

/-- Every run of a new service conserves signals and counts, whatever fails in it, as long as its
signals are handled from the queue. -/
theorem conserved_run (settings : Settings) (now : Instant) (events : List Event)
    (hqueue : ∀ e ∈ events, e.viaQueue = true) :
    Conserved (Service.fresh settings now) events := by
  have hcounters : (Service.fresh settings now).counters = {} := rfl
  have hsignals : (Service.fresh settings now).signals =
      Signals.ofCapacity (Service.fresh settings now).settings.refresh.queueCapacity.toNat := rfl
  generalize Service.fresh settings now = s at hcounters hsignals
  have hbooked := Service.booked_run s events
  have horder := (Service.queued_run s hqueue).order
  obtain ⟨hlookups, hnotFresh⟩ := length_lookups (s.log Service.lookedUp? events)
  have hreads : ∀ found, (s.run events).counters.reads found =
      (s.log Service.lookedUp? events).countP fun l => l.2 = found := by
    intro found
    rw [hbooked.reads found, hcounters]
    cases found <;> exact Nat.zero_add _
  have hfresh : (s.run events).counters.freshReads = _ := hreads .fresh
  have hstale : (s.run events).counters.staleReads = _ := hreads .stale
  have hmissing : (s.run events).counters.missingReads = _ := hreads .missing
  have hdispatches : ∀ kind, (s.run events).counters.dispatches.get kind =
      (s.calls events).countP (Call.comesTo kind .refreshed) +
        (s.calls events).countP (Call.comesTo kind .failed) := by
    intro kind
    rw [hbooked.dispatches kind, hcounters]
    cases kind <;> exact Nat.zero_add _
  have hfailures : ∀ kind, (s.run events).counters.failures.get kind =
      (s.calls events).countP (Call.comesTo kind .failed) := by
    intro kind
    rw [hbooked.failures kind, hcounters]
    cases kind <;> exact Nat.zero_add _
  refine ⟨?_, ?_, ?_, ?_, ?_, fun kind => ?_, fun kind => ?_, ?_, ?_⟩
  · rw [hsignals] at horder
    exact horder
  · rintro first rest rfl
    have hfirst := Service.queued_run s fun e he => hqueue e (List.mem_append_left rest he)
    have hbound := hfirst.bound (by rw [hsignals]; exact Nat.zero_le _)
    rw [hfirst.capacity, hsignals] at hbound
    exact hbound
  · have hdropped := hbooked.dropped
    rw [hcounters, Nat.zero_add, Nat.add_comm] at hdropped
    exact hdropped.symm
  · rw [hstale, hmissing, ← hnotFresh]
    exact hbooked.sent
  · have hdebounced := hbooked.debounced
    rw [hcounters, Nat.zero_add] at hdebounced
    have haggregate : (s.run events).counters.dispatches.aggregate = _ := hdispatches .aggregate
    have horigin : (s.run events).counters.dispatches.origin = _ := hdispatches .origin
    rw [length_calls, ByKind.total, hdebounced, haggregate, horigin]
    exact (Nat.add_assoc _ _ _).symm
  · rw [hdispatches, hfailures]
    exact Nat.le_add_left _ _
  · rw [hdispatches, hfailures]
    exact Nat.add_sub_cancel_right _ _
  · rw [hfresh, hstale, hmissing, ← hlookups]
  · rw [hbooked.ingested, hcounters]
    exact Nat.zero_add _

/-- A queue with one place. -/
def onePlace : Settings :=
  { refresh := { queueCapacity := 1 } }

/-- A read of a missing key takes the only place; another key is signalled in vain, and again after
the first one was handled; in the end results are uploaded. -/
def crowdedRun : List Event :=
  [.read Key.pciIds, .notify Key.aggregate, .receive, .notify Key.aggregate, .receive, uploadOf "1",
    .read Key.aggregate]

/-- What the run counts, by evaluation. -/
theorem counters_crowdedRun :
    ((Service.fresh onePlace .epoch).run crowdedRun).counters.droppedSignals = 1 ∧
      ((Service.fresh onePlace .epoch).run crowdedRun).counters.ingested = 1 := by
  have hspells := (List.forall₂_cons.mp spells_threeUploads).1
  simp only [crowdedRun, Service.run_cons, Service.run_nil, Service.after_of_spells hspells]
  decide +kernel

/-- Of three signals that are sent one is dropped, and nothing else is lost. -/
theorem conserved_crowdedRun : (∀ e ∈ crowdedRun, e.viaQueue = true) ∧
    Conserved (Service.fresh onePlace .epoch) crowdedRun ∧
      ((Service.fresh onePlace .epoch).run crowdedRun).counters.droppedSignals = 1 ∧
        ((Service.fresh onePlace .epoch).run crowdedRun).counters.ingested = 1 := by
  have hqueue : ∀ e ∈ crowdedRun, e.viaQueue = true := by
    simp [crowdedRun, uploadOf, Event.viaQueue]
  exact ⟨hqueue, conserved_run onePlace .epoch crowdedRun hqueue, counters_crowdedRun⟩

end BenchDepot
