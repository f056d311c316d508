import BenchDepot.Freshness
import BenchDepot.Refresh.Debounce
import BenchDepot.Refresh.Origin
import BenchDepot.Refresh.Rebuild
import BenchDepot.Refresh.Signals
import BenchDepot.Service.Counters
import BenchDepot.Source

/-!
# The service

The service answers reads from the stored artifacts at once, however old they are, and signals the
ones that are missing or stale.  Signals are handled one at a time: a key within its cooldown is
left alone, any other is refreshed from its source, and the new content replaces the old in one
step.  A refresh that fails leaves the old content.

The world around the service is part of its state: two clocks, what origins will answer, what
chance will choose, which store calls will fail, and how long everything takes.

* `read` — a read of an artifact;
* `notify` — a signal;
* `handle` — one signal handled;
* `drain` — all waiting signals handled, in their order.
-/

namespace BenchDepot

/-- The store calls that fail, and the types whose sample query fails or never answers. -/
structure Faults where
  get : Bool := false
  put : Bool := false
  append : Bool := false
  /-- The place, in a batch of records, of the one whose insertion fails. -/
  insert : Option Nat := none
  types : Bool := false
  list : Bool := false
  count : Bool := false
  compact : Bool := false
  health : Bool := false
  sample : List String := []
  hang : List String := []
deriving DecidableEq

/-- How many nanoseconds the steps of the service take, besides what origins take. -/
structure Pace where
  /-- From the look at the table of dispatches to the start of a dispatch. -/
  start : Nat := 0
  /-- A query that the store answers. -/
  query : Nat := 1
  /-- The write of new content, and whatever else comes before a dispatch is remembered. -/
  write : Nat := 0
deriving DecidableEq

/-- A service and the world around it. -/
structure Service where
  settings : Settings
  store : Store
  signals : Signals
  dispatches : Dispatches
  counters : Counters
  /-- Nanoseconds on a clock that never goes back. -/
  clock : Nat
  /-- The time of day. -/
  now : Instant
  origins : Origins
  /-- What chance chooses in the next rebuilds, one draw for every sample. -/
  chance : List Draw
  faults : Faults
  pace : Pace

/-- What became of a signal. -/
inductive Outcome where
  /-- The artifact was replaced. -/
  | refreshed
  /-- The key was within its cooldown. -/
  | debounced
  /-- The refresh was tried, and failed. -/
  | failed
deriving DecidableEq

/-- Why a refresh failed. -/
inductive RefreshError where
  /-- The origin answered with a status that is no success. -/
  | status (url : String) (code : Nat)
  /-- The origin did not answer in time. -/
  | timeout (url : String)
  /-- No answer could be had from the origin. -/
  | unreachable (url : String)
  /-- The aggregate could not be rebuilt. -/
  | rebuild (cause : RebuildError)
  /-- The new content could not be stored. -/
  | write (cause : StoreError)
deriving DecidableEq

/-- The kind of refresh that a key needs, as it is counted. -/
def Key.refreshKind (key : Key) : RefreshKind :=
  if key.isAggregate then .aggregate else .origin

/-- What became of a signal, and the sources that were asked. -/
structure Handled where
  outcome : Outcome
  asked : List Source
deriving DecidableEq

/-- The addresses that were asked. -/
def Handled.fetched (handled : Handled) : List String :=
  handled.asked.filterMap Source.url?

namespace Service

/-- A service that has not run yet, at some time of day. -/
def fresh (settings : Settings) (now : Instant) : Service where
  settings := settings
  store := Store.empty
  signals := Signals.ofCapacity settings.refresh.queueCapacity.toNat
  dispatches := []
  counters := {}
  clock := 0
  now := now
  origins := []
  chance := []
  faults := {}
  pace := {}

/-- A service with its counters changed. -/
def count (s : Service) (f : Counters → Counters) : Service :=
  { s with counters := f s.counters }

/-- A service some nanoseconds later. -/
def wait (s : Service) (nanos : Nat) : Service :=
  { s with clock := s.clock + nanos }

/-- The cooldown in nanoseconds. -/
def cooldown (s : Service) : Nat :=
  s.settings.refresh.cooldown.toNat * nanosPerSecond

/-! ## Artifacts -/

/-- The stored artifact of a key. -/
def lookup (s : Service) (key : Key) : Except StoreError (Option Artifact) :=
  if s.faults.get then .error injected else .ok (s.store.artifact? key.text)

/-- The service after the content of a key was replaced, stamped with some time. -/
def put (s : Service) (key : String) (blob : ByteArray) (at_ : Instant) :
    Except StoreError Service :=
  if s.faults.put then
    .error injected
  else
    match s.store.putArtifact key ⟨blob, at_⟩ with
    | .ok store => .ok { s with store := store }
    | .error cause => .error cause

/-- The service after a signal, and whether the signal found a place. -/
def notify (s : Service) (key : Key) : Bool × Service :=
  if s.signals.hasRoom then
    (true, { s with signals := s.signals.send key })
  else
    (false, s.count fun c => { c with droppedSignals := c.droppedSignals + 1 })

/-- What a read finds. -/
inductive Finding where
  | fresh
  | stale
  | missing
deriving DecidableEq

/-- What a read of a key finds, by its artifact. -/
def finding (s : Service) (key : Key) : Option Artifact → Finding
  | none => .missing
  | some artifact =>
    if s.settings.cache.policy.isStale key artifact.generatedAt s.now then .stale else .fresh

/-- The service after a read that found something, which is counted; what is not fresh is
signalled. -/
def observe (s : Service) (key : Key) : Finding → Service
  | .fresh => s.count fun c => { c with freshReads := c.freshReads + 1 }
  | .stale =>
    ((s.count fun c => { c with staleReads := c.staleReads + 1 }).notify key).2
  | .missing =>
    ((s.count fun c => { c with missingReads := c.missingReads + 1 }).notify key).2

/-- A read of a key: the stored artifact, however old, and the service after it. -/
def read (s : Service) (key : Key) : Except StoreError (Option Artifact) × Service :=
  match s.lookup key with
  | .error cause => (.error cause, s)
  | .ok artifact => (.ok artifact, s.observe key (s.finding key artifact))

/-! ## The aggregate -/

/-- The draw of a type's sample, by the place of the type among the stored ones. -/
def drawFor (s : Service) (benchmarkType : String) : Draw :=
  if s.chance.isEmpty then [] else s.chance.getD (s.store.types.idxOf benchmarkType) []

/-- The answer of the query for the types. -/
def typesAnswer (s : Service) : Except StoreError (List String) :=
  if s.faults.types then .error injected else .ok s.store.types

/-- The answer of the query for the rows of a type. -/
def listAnswer (s : Service) (benchmarkType : String) : Except StoreError (List Row) :=
  if s.faults.list then .error injected else .ok (s.store.rowsOf benchmarkType)

/-- The answer of the query for the number of rows. -/
def countAnswer (s : Service) : Except StoreError Nat :=
  if s.faults.count then .error injected else .ok s.store.count

/-- The answer of the query for a sample. -/
def sampleAnswer (s : Service) (benchmarkType : String) (limit : Nat) :
    Except StoreError (List GroupedResult) :=
  if s.faults.sample.contains benchmarkType then .error injected
  else s.store.sample (s.drawFor benchmarkType) benchmarkType limit

/-- The queries of a rebuild, as the store answers them now. -/
def queries (s : Service) : Queries where
  types := ⟨s.typesAnswer, some (if s.faults.types then 0 else s.pace.query)⟩
  sample benchmarkType :=
    { answer := s.sampleAnswer benchmarkType s.settings.refresh.sampleLimit.toNat
      takes :=
        if s.faults.hang.contains benchmarkType then none
        else some (if s.faults.sample.contains benchmarkType then 0 else s.pace.query) }

/-- The service after a rebuild: it took time, used up chance and may have skipped types. -/
def afterBuild (s : Service) (r : Rebuilt) : Service :=
  { s with
    clock := s.clock + r.elapsed
    chance := s.chance.drop s.store.types.length
    counters := { s.counters with skippedTypes := s.counters.skippedTypes + r.skipped } }

/-- What a rebuild came to, and the service after it. -/
def built (s : Service) (r : Rebuilt) : Except RebuildError Aggregate × Service :=
  (r.outcome, s.afterBuild r)

/-- The aggregate without a time limit, and the service after the build. -/
def build (s : Service) : Except RebuildError Aggregate × Service :=
  s.built s.queries.build

/-- The aggregate within the time limit, and the service after the rebuild. -/
def rebuild (s : Service) : Except RebuildError Aggregate × Service :=
  s.built (s.queries.rebuild s.settings.refresh.rebuildTimeout.toNat)

/-! ## Refreshes -/

/-- The content that an origin answered with, or why there is none. -/
def replyContent (url : String) : OriginReply → Except RefreshError ByteArray
  | .body content => .ok content
  | .status code => .error (.status url code)
  | .timeout => .error (.timeout url)
  | .unreachable => .error (.unreachable url)

/-- The content of an address, and the service after the fetch. -/
def fetch (s : Service) (url : String) : Except RefreshError ByteArray × Service :=
  let fetched := Origins.fetch url s.origins
  (replyContent url fetched.1.reply,
    { s with origins := fetched.2, clock := s.clock + fetched.1.takes })

/-- The content that a rebuild came to, or why there is none. -/
def rebuiltContent : Except RebuildError Aggregate → Except RefreshError ByteArray
  | .ok aggregate => .ok aggregate.text.toUTF8
  | .error cause => .error (.rebuild cause)

/-- New content from a source, the sources that were asked, and the service after it. -/
def produce (s : Service) : Source → Except RefreshError ByteArray × List Source × Service
  | .aggregate =>
    let rebuilt := s.rebuild
    (rebuiltContent rebuilt.1, [.aggregate], rebuilt.2)
  | .origin url =>
    let fetched := s.fetch url
    (fetched.1, [.origin url], fetched.2)

/-- The service after new content for a key was stored with the present time. -/
def publish (s : Service) (key : Key) : Except RefreshError ByteArray →
    Except RefreshError Service
  | .error cause => .error cause
  | .ok content =>
    match s.put key.text content s.now with
    | .ok after => .ok after
    | .error cause => .error (.write cause)

/-- The service after a dispatch that is remembered. -/
def remember (s : Service) (key : Key) (start : Nat) : Service :=
  { s with dispatches := s.dispatches.record s.cooldown s.clock key start }

/-- The service after a refresh that failed. -/
def afterFailure (s : Service) (key : Key) (start : Nat) : Service :=
  let failed := s.count fun c => { c with failures := c.failures.increment key.refreshKind }
  if s.settings.refresh.advanceOnFailure then failed.remember key start else failed

/-- The attempt at new content for a key: the content, the sources that were asked, and the service
once it is known what to store. -/
def attempt (s : Service) (key : Key) : Except RefreshError ByteArray × List Source × Service :=
  let begun := (s.wait s.pace.start).count fun c =>
    { c with dispatches := c.dispatches.increment key.refreshKind }
  let produced := begun.produce (s.settings.origins.source key)
  let timed := (produced.2.2.wait s.pace.write).count fun c =>
    { c with durations := c.durations.increment key.refreshKind }
  (produced.1, produced.2.1, timed)

/-- When the dispatch of a key starts. -/
def dispatchStart (s : Service) : Nat :=
  s.clock + s.pace.start

/-- A refresh of a key that is not within its cooldown. -/
def dispatch (s : Service) (key : Key) : Handled × Service :=
  let attempted := s.attempt key
  match attempted.2.2.publish key attempted.1 with
  | .ok after => (⟨.refreshed, attempted.2.1⟩, after.remember key s.dispatchStart)
  | .error _ => (⟨.failed, attempted.2.1⟩, attempted.2.2.afterFailure key s.dispatchStart)

/-- One signal handled. -/
def handle (s : Service) (key : Key) : Handled × Service :=
  if s.dispatches.blocks s.cooldown s.clock key then
    (⟨.debounced, []⟩, s.count fun c => { c with debounced := c.debounced + 1 })
  else
    s.dispatch key

/-- Some signals handled, one after the other. -/
def handleAll : Service → List Key → List Handled × Service
  | s, [] => ([], s)
  | s, key :: rest =>
    let (handled, next) := s.handle key
    let (more, last) := next.handleAll rest
    (handled :: more, last)

/-- All waiting signals handled, in their order. -/
def drain (s : Service) : List Handled × Service :=
  { s with signals := s.signals.cleared }.handleAll s.signals.pending

/-- Some signals sent, one after the other, and which of them found a place. -/
def notifyAll : Service → List Key → List Bool × Service
  | s, [] => ([], s)
  | s, key :: rest =>
    let (accepted, next) := s.notify key
    let (more, last) := next.notifyAll rest
    (accepted :: more, last)

/-- A queue of its own and an empty table of dispatches in place of the service's: some signals
are sent, then all that found a place are handled.  The service's own queue and table stay as
they were. -/
def runApart (s : Service) (capacity : Nat) (keys : List Key) :
    List Bool × List Handled × Service :=
  let apart := { s with signals := Signals.ofCapacity capacity, dispatches := [] }
  let (accepted, sent) := apart.notifyAll keys
  let (handled, last) := sent.drain
  (accepted, handled, { last with signals := s.signals, dispatches := s.dispatches })

/-! ## Upkeep -/

/-- The store compacted, and the service after it. -/
def compact (s : Service) : Except StoreError Unit × Service :=
  if s.faults.compact then
    (.error injected, s.count fun c => { c with failedCompactions := c.failedCompactions + 1 })
  else
    (.ok (), { s with
      store := s.store.compact
      counters := { s.counters with compactions := s.counters.compactions + 1 } })

/-- Whether the store can be reached. -/
def health (s : Service) : Except StoreError Unit :=
  if s.faults.health then .error injected else .ok ()

/-- The service after a batch of records was appended at some time. -/
def append (s : Service) (records : List Record) (at_ : Instant) : Except StoreError Service :=
  if s.faults.append then
    .error injected
  else
    match s.store.append s.faults.insert records at_ with
    | .ok store => .ok { s with store := store }
    | .error cause => .error cause

end Service

end BenchDepot
