import BenchDepot.Http.Router

/-!
# Runs of the service

A run is a list of events.  What the world does is an event as well: time passes, and from then on
origins, chance, faults and delays are other ones, so that a statement about all runs is one about
all worlds.  A run leaves a log of whatever one asks of its events.

* `run_append` — a run over two parts;
* `exists_of_log_eq` — what a log notes was noted after a first part of the run;
* `run_induction` — what every event keeps holds after every run;
* `after_of_met?` — a run handles signals in one way only;
* `steady_respond`, `quiet_respond` — requests leave the course of the refreshes alone, and all but
  uploads the store as well;
* `store_after_of_idle` — most events leave the store alone.
-/

namespace BenchDepot

/-- What the world around the service is like for some time. -/
structure Surroundings where
  now : Instant
  origins : Origins
  chance : List Draw
  faults : Faults
  pace : Pace

/-- Something that happens to the service. -/
inductive Event where
  /-- Some nanoseconds pass, and the world is another one. -/
  | turn (passed : Nat) (world : Surroundings)
  | request (request : Http.Request)
  | read (key : Key)
  | notify (key : Key)
  | handle (key : Key)
  /-- The oldest waiting signal is handled, if one is waiting. -/
  | receive
  /-- Content is put under a key directly. -/
  | put (key : String) (blob : ByteArray) (at_ : Instant)
  /-- Records are appended directly. -/
  | append (records : List Record) (at_ : Instant)
  /-- A row is taken over from elsewhere. -/
  | importRow (m : Measurement) (benchmarkType cpuText : String) (at_ : Instant)
  | build
  | rebuild
  | compact
  /-- The reader of the signals goes away. -/
  | close

/-- Whether a request uploads results. -/
def Http.Request.isUpload (request : Http.Request) : Bool :=
  decide (request.method = .post) && decide (request.path = Key.aggregate.text)

/-- Whether an event writes rows to the store directly. -/
def Event.writesRows : Event → Bool
  | .append .. | .importRow .. => true
  | _ => false

/-- Whether an event writes to the store directly. -/
def Event.isDirect : Event → Bool
  | .put .. | .append .. | .importRow .. => true
  | _ => false

/-- Whether an event neither handles a signal nor uploads results nor writes to the store
directly. -/
def Event.isIdle : Event → Bool
  | .handle _ | .receive | .put .. | .append .. | .importRow .. => false
  | .request r => !r.isUpload
  | _ => true

namespace Service

/-- The service in another world, some nanoseconds later. -/
def turn (s : Service) (passed : Nat) (world : Surroundings) : Service :=
  { s with
    clock := s.clock + passed
    now := world.now
    origins := world.origins
    chance := world.chance
    faults := world.faults
    pace := world.pace }

/-- The service with a row taken over from elsewhere. -/
def importRow (s : Service) (m : Measurement) (benchmarkType cpuText : String) (at_ : Instant) :
    Except StoreError Service :=
  match s.store.importRow m benchmarkType cpuText at_ with
  | .ok store => .ok { s with store := store }
  | .error cause => .error cause

/-- The service after something that may fail and then changes nothing. -/
def orStay (s : Service) : Except StoreError Service → Service
  | .ok after => after
  | .error _ => s

/-- The signal that an event handles, with the service that meets it. -/
def met? (s : Service) : Event → Option (Service × Key)
  | .handle key => some (s, key)
  | .receive => s.signals.receive?.map fun r => ({ s with signals := r.2 }, r.1)
  | _ => none

/-- The service after an event. -/
def after (s : Service) : Event → Service
  | .turn passed world => s.turn passed world
  | .request request => (Http.respond s request).2
  | .read key => (s.read key).2
  | .notify key => (s.notify key).2
  | .handle key => (s.handle key).2
  | .receive =>
    match s.signals.receive? with
    | some (key, rest) => (handle { s with signals := rest } key).2
    | none => s
  | .put key blob at_ => s.orStay (s.put key blob at_)
  | .append records at_ => s.orStay (s.append records at_)
  | .importRow m benchmarkType cpuText at_ => s.orStay (s.importRow m benchmarkType cpuText at_)
  | .build => s.build.2
  | .rebuild => s.rebuild.2
  | .compact => s.compact.2
  | .close => { s with signals := s.signals.closed }

/-- The service after a run. -/
def run (s : Service) (events : List Event) : Service :=
  events.foldl after s

/-- What is noted of the events of a run, in their order. -/
def log {α : Type} (note? : Service → Event → Option α) : Service → List Event → List α
  | _, [] => []
  | s, e :: rest => (note? s e).toList ++ log note? (s.after e) rest

/-! ## Runs in parts -/

@[simp]
theorem run_nil (s : Service) : s.run [] = s := rfl

@[simp]
theorem run_cons (s : Service) (e : Event) (rest : List Event) :
    s.run (e :: rest) = (s.after e).run rest := rfl

/-- A run over two parts is a run over the first part and then over the second. -/
theorem run_append (s : Service) (first second : List Event) :
    s.run (first ++ second) = (s.run first).run second :=
  List.foldl_append

/-- The log of a run over two parts is the log of the first part and then of the second. -/
theorem log_append {α : Type} (note? : Service → Event → Option α) (s : Service)
    (first second : List Event) :
    s.log note? (first ++ second) = s.log note? first ++ (s.run first).log note? second := by
  induction first generalizing s with
  | nil => rfl
  | cons e rest ih =>
      rw [List.cons_append, log, ih, log, List.append_assoc]
      rfl

/-- A log notes no more than there are events. -/
theorem length_log_le {α : Type} (note? : Service → Event → Option α) (s : Service)
    (events : List Event) : (s.log note? events).length ≤ events.length := by
  induction events generalizing s with
  | nil => exact Nat.le_refl _
  | cons e rest ih =>
      have hrest := ih (s.after e)
      have hnote : (note? s e).toList.length ≤ 1 := by cases note? s e <;> simp
      simp only [log, List.length_append, List.length_cons]
      omega

/-- What stands in a log was noted of an event, after a first part of the run of which everything
before it was noted. -/
theorem exists_of_log_eq {α : Type} {note? : Service → Event → Option α} {s : Service}
    {events : List Event} {earlier later : List α} {x : α}
    (h : s.log note? events = earlier ++ x :: later) :
    ∃ first e rest, events = first ++ e :: rest ∧ s.log note? first = earlier ∧
      note? (s.run first) e = some x := by
  induction events generalizing s earlier with
  | nil => simp [log] at h
  | cons e rest ih =>
      cases hnote : note? s e with
      | none =>
          simp only [log, hnote, Option.toList_none, List.nil_append] at h
          obtain ⟨first, e', rest', rfl, hfirst, hx⟩ := ih h
          exact ⟨e :: first, e', rest', rfl, by simp [log, hnote, hfirst], hx⟩
      | some y =>
          simp only [log, hnote, Option.toList_some, List.singleton_append] at h
          cases earlier with
          | nil =>
              rw [List.nil_append, List.cons.injEq] at h
              exact ⟨[], e, rest, rfl, rfl, by rw [run_nil, hnote, h.1]⟩
          | cons z earlier =>
              rw [List.cons_append, List.cons.injEq] at h
              obtain ⟨first, e', rest', rfl, hfirst, hx⟩ := ih h.2
              exact ⟨e :: first, e', rest', rfl, by simp [log, hnote, hfirst, h.1], hx⟩

/-- What holds at the start and is kept by every event holds after every run. -/
theorem run_induction {motive : Service → Prop} {s : Service} (hstart : motive s)
    (hafter : ∀ t e, motive t → motive (t.after e)) (events : List Event) :
    motive (s.run events) := by
  induction events generalizing s with
  | nil => exact hstart
  | cons e rest ih => exact ih (hafter s e hstart)

/-! ## Events beside the refreshes -/

/-- A service that differs from another at most in its store, its signals and its counters. -/
structure Steady (s t : Service) : Prop where
  settings : t.settings = s.settings
  dispatches : t.dispatches = s.dispatches
  clock : t.clock = s.clock
  now : t.now = s.now
  origins : t.origins = s.origins
  chance : t.chance = s.chance
  faults : t.faults = s.faults
  pace : t.pace = s.pace

theorem Steady.refl (s : Service) : Steady s s :=
  ⟨rfl, rfl, rfl, rfl, rfl, rfl, rfl, rfl⟩

theorem Steady.trans {s t u : Service} (hst : Steady s t) (htu : Steady t u) : Steady s u where
  settings := htu.settings.trans hst.settings
  dispatches := htu.dispatches.trans hst.dispatches
  clock := htu.clock.trans hst.clock
  now := htu.now.trans hst.now
  origins := htu.origins.trans hst.origins
  chance := htu.chance.trans hst.chance
  faults := htu.faults.trans hst.faults
  pace := htu.pace.trans hst.pace

/-- A service that differs from another at most in its signals and its counters. -/
structure Quiet (s t : Service) : Prop extends Steady s t where
  store : t.store = s.store

theorem Quiet.refl (s : Service) : Quiet s s :=
  ⟨Steady.refl s, rfl⟩

theorem Quiet.trans {s t u : Service} (hst : Quiet s t) (htu : Quiet t u) : Quiet s u :=
  ⟨hst.toSteady.trans htu.toSteady, htu.store.trans hst.store⟩

theorem quiet_signals (s : Service) (signals : Signals) : Quiet s { s with signals := signals } :=
  ⟨⟨rfl, rfl, rfl, rfl, rfl, rfl, rfl, rfl⟩, rfl⟩

theorem quiet_counters (s : Service) (counters : Counters) :
    Quiet s { s with counters := counters } :=
  ⟨⟨rfl, rfl, rfl, rfl, rfl, rfl, rfl, rfl⟩, rfl⟩

theorem quiet_notify (s : Service) (key : Key) : Quiet s (s.notify key).2 := by
  unfold notify
  split
  · exact quiet_signals s _
  · exact quiet_counters s _

theorem quiet_observe (s : Service) (key : Key) (found : Finding) :
    Quiet s (s.observe key found) := by
  cases found with
  | fresh => exact quiet_counters s _
  | stale => exact (quiet_counters s _).trans (quiet_notify _ key)
  | missing => exact (quiet_counters s _).trans (quiet_notify _ key)

theorem quiet_read (s : Service) (key : Key) : Quiet s (s.read key).2 := by
  unfold read
  split
  · exact Quiet.refl s
  · exact quiet_observe s key _

theorem quiet_compact (s : Service) : Quiet s s.compact.2 := by
  unfold compact
  split
  · exact quiet_counters s _
  · exact ⟨⟨rfl, rfl, rfl, rfl, rfl, rfl, rfl, rfl⟩, rfl⟩

/-- A query that is answered, although it might have failed, tells what there is. -/
theorem eq_of_answer {α : Type} {fault : Bool} {there answer : α}
    (h : (if fault then Except.error injected else Except.ok there) = Except.ok answer) :
    answer = there := by
  cases fault with
  | true => cases h
  | false =>
      cases h
      rfl

/-! ## Writes to the store -/

/-- Content that is put replaces the artifact of its key in the store, and nothing else. -/
theorem put_eq_ok {s after : Service} {name : String} {blob : ByteArray} {at_ : Instant}
    (h : s.put name blob at_ = .ok after) :
    after = { s with store :=
      { s.store with artifacts := s.store.artifacts.insert name ⟨blob, at_⟩ } } := by
  unfold put at h
  split at h
  · cases h
  · split at h
    · next store hstore =>
      cases h
      unfold Store.putArtifact at hstore
      split at hstore
      · cases hstore
        rfl
      · cases hstore
    · cases h

/-- Records that are appended change the rows of the store, and nothing else. -/
theorem append_eq_ok {s after : Service} {records : List Record} {at_ : Instant}
    (h : s.append records at_ = .ok after) :
    ∃ rows, Store.appendRows at_ s.faults.insert s.store.rows records = .ok rows ∧
      after = { s with store := { s.store with rows := rows } } := by
  unfold append at h
  split at h
  · cases h
  · unfold Store.append at h
    split at h
    · next store hstore =>
      cases h
      split at hstore
      · next rows hrows =>
        cases hstore
        exact ⟨rows, hrows, rfl⟩
      · cases hstore
    · cases h

/-- A row that is taken over is put behind the rows of the store, and nothing else changes. -/
theorem importRow_eq_ok {s after : Service} {m : Measurement} {benchmarkType cpuText : String}
    {at_ : Instant} (h : s.importRow m benchmarkType cpuText at_ = .ok after) :
    ∃ row, Store.row s.store.rows m benchmarkType cpuText at_ = .ok row ∧
      after = { s with store := { s.store with rows := s.store.rows ++ [row] } } := by
  unfold importRow Store.importRow at h
  split at h
  · next store hstore =>
    cases h
    split at hstore
    · next row hrow =>
      cases hstore
      exact ⟨row, hrow, rfl⟩
    · cases hstore
  · cases h

/-- An upload changes the rows and the counters only. -/
theorem rows_submit (s : Service) (body : ByteArray) : ∃ rows counters,
    (Http.submit s body).2 =
      { s with store := { s.store with rows := rows }, counters := counters } := by
  have hstay : ∃ rows counters,
      s = { s with store := { s.store with rows := rows }, counters := counters } :=
    ⟨s.store.rows, s.counters, rfl⟩
  have hrejected : ∃ rows counters, Http.rejected s =
      { s with store := { s.store with rows := rows }, counters := counters } :=
    ⟨s.store.rows, _, rfl⟩
  unfold Http.submit
  split
  · exact hstay
  · split
    · exact hrejected
    · split
      · exact hrejected
      · unfold Http.storeRecords
        split
        · next after happend =>
          obtain ⟨rows, _, rfl⟩ := append_eq_ok happend
          exact ⟨rows, _, rfl⟩
        · exact hstay

theorem steady_submit (s : Service) (body : ByteArray) : Steady s (Http.submit s body).2 := by
  obtain ⟨rows, counters, hafter⟩ := rows_submit s body
  rw [hafter]
  exact ⟨rfl, rfl, rfl, rfl, rfl, rfl, rfl, rfl⟩

/-- What is written to the store directly changes the store only, if anything. -/
theorem store_of_isDirect {e : Event} (h : e.isDirect = true) (s : Service) :
    ∃ store, s.after e = { s with store := store } := by
  have hstay : ∀ {result : Except StoreError Service},
      (∀ after, result = .ok after → ∃ store, after = { s with store := store }) →
        ∃ store, s.orStay result = { s with store := store } := by
    intro result hresult
    cases result with
    | error cause => exact ⟨s.store, rfl⟩
    | ok after => exact hresult after rfl
  cases e with
  | put key blob at_ => exact hstay fun after hput => ⟨_, put_eq_ok hput⟩
  | append records at_ =>
      refine hstay fun after happend => ?_
      obtain ⟨rows, _, heq⟩ := append_eq_ok happend
      exact ⟨_, heq⟩
  | importRow m benchmarkType cpuText at_ =>
      refine hstay fun after himport => ?_
      obtain ⟨row, _, heq⟩ := importRow_eq_ok himport
      exact ⟨_, heq⟩
  | _ => cases h

/-! ## Requests -/

theorem quiet_serve (s : Service) (key : Key) : Quiet s (Http.serve s key).2 := by
  have h := quiet_read s key
  unfold Http.serve
  split <;> simpa [*] using h

theorem quiet_fallback (s : Service) (method : Http.Method) (path : String) :
    Quiet s (Http.fallback s method path).2 := by
  unfold Http.fallback
  split
  · exact Quiet.refl s
  · split
    · exact quiet_serve s _
    · exact quiet_serve s _
    · exact Quiet.refl s
    · exact Quiet.refl s

/-- The path of the aggregate has the handler of the aggregate. -/
theorem route_aggregate (metricsEnabled : Bool) :
    Http.route metricsEnabled Key.aggregate.text = .aggregate := by
  have hhealth : Key.aggregate.text ≠ "/health" := by decide
  rw [Http.route, if_neg hhealth, if_pos rfl]

/-- No other path has it. -/
theorem route_ne_aggregate {metricsEnabled : Bool} {path : String}
    (h : path ≠ Key.aggregate.text) : Http.route metricsEnabled path ≠ .aggregate := by
  rw [Http.route, if_neg h]
  split
  · simp
  · split <;> simp

/-- A request that is an upload is answered as one. -/
theorem respond_of_isUpload {s : Service} {request : Http.Request} (h : request.isUpload = true) :
    Http.respond s request =
      ((Http.submit s request.body).1.sendFor request, (Http.submit s request.body).2) := by
  simp only [Http.Request.isUpload, Bool.and_eq_true, decide_eq_true_eq] at h
  rw [Http.respond, Http.answer, h.1, h.2, route_aggregate]

/-- A request that is no upload leaves everything but the signals and the counters alone. -/
theorem quiet_respond {s : Service} {request : Http.Request} (h : request.isUpload = false) :
    Quiet s (Http.respond s request).2 := by
  have hanswer : Quiet s (Http.answer s request).2 := by
    unfold Http.answer
    split
    case h_9 hroute hmethod =>
      by_cases hpath : request.path = Key.aggregate.text
      · simp [Http.Request.isUpload, hmethod, hpath] at h
      · exact absurd hroute (route_ne_aggregate hpath)
    all_goals first
      | exact Quiet.refl s
      | exact quiet_serve s _
      | exact quiet_fallback s _ _
  exact hanswer

/-- A request leaves the course of the refreshes alone. -/
theorem steady_respond (s : Service) (request : Http.Request) :
    Steady s (Http.respond s request).2 := by
  cases hupload : request.isUpload with
  | true =>
      rw [respond_of_isUpload hupload]
      exact steady_submit s request.body
  | false => exact (quiet_respond hupload).toSteady

/-! ## Events -/

/-- What a build comes to. -/
theorem outcome_built (s : Service) (r : Rebuilt) : (s.built r).1 = r.outcome := rfl

/-- An aggregate that is built, with a limit of time or without, is what the queries come to. -/
theorem exists_outcome_of_built {s : Service} {aggregate : Aggregate}
    (h : s.build.1 = .ok aggregate ∨ s.rebuild.1 = .ok aggregate) :
    ∃ limit seconds, (s.queries.run limit seconds).outcome = .ok aggregate := by
  rcases h with hbuild | hrebuild
  · rw [build, outcome_built, Queries.build] at hbuild
    exact ⟨_, _, hbuild⟩
  · rw [rebuild, outcome_built, Queries.rebuild] at hrebuild
    exact ⟨_, _, hrebuild⟩

/-- A build takes time, uses up chance and may count skipped types, nothing else. -/
theorem built_steady (s : Service) (r : Rebuilt) : ∃ clock chance counters, s.clock ≤ clock ∧
    (s.built r).2 = { s with clock := clock, chance := chance, counters := counters } :=
  ⟨s.clock + r.elapsed, s.chance.drop s.store.types.length, _, Nat.le_add_right _ _, rfl⟩

theorem store_built (s : Service) (r : Rebuilt) : (s.built r).2.store = s.store := rfl

/-- An event that handles a signal is that handling, up to the queue. -/
theorem after_of_met? {s u : Service} {e : Event} {key : Key} (h : s.met? e = some (u, key)) :
    Quiet s u ∧ s.after e = (u.handle key).2 := by
  cases e with
  | handle k =>
      cases h
      exact ⟨Quiet.refl s, rfl⟩
  | receive =>
      unfold met? at h
      cases hreceive : s.signals.receive? with
      | none => simp [hreceive] at h
      | some r =>
          simp only [hreceive, Option.map_some, Option.some.injEq, Prod.mk.injEq] at h
          obtain ⟨rfl, rfl⟩ := h
          refine ⟨quiet_signals s _, ?_⟩
          simp only [after, hreceive]
  | _ => cases h

/-- A receiver that finds no signal does nothing. -/
theorem after_receive_of_met?_none {s : Service} (h : s.met? .receive = none) :
    s.after .receive = s := by
  unfold met? at h
  cases hreceive : s.signals.receive? with
  | none => simp only [after, hreceive]
  | some r => simp [hreceive] at h

/-- Every event leaves the store alone, unless it handles a signal, is an upload, or writes to the
store directly. -/
theorem store_after_of_idle {s : Service} {e : Event} (h : e.isIdle = true) :
    (s.after e).store = s.store := by
  cases e with
  | turn passed world => rfl
  | request request => exact (quiet_respond (by simpa [Event.isIdle] using h)).store
  | read key => exact (quiet_read s key).store
  | notify key => exact (quiet_notify s key).store
  | build => exact store_built s _
  | rebuild => exact store_built s _
  | compact => exact (quiet_compact s).store
  | close => rfl
  | _ => simp [Event.isIdle] at h

end Service

end BenchDepot
