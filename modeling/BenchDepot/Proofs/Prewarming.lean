import BenchDepot.Proofs.Conservation
import BenchDepot.Startup.Basic

/-!
# The keys to prewarm

A start signals the keys to prewarm one after the other, while the receiver may already take some of
them out of the queue again.  No signal waits for a place, and nobody looks at whether it found one.
The settings are checked for keys and for places, but not for a place for each key: so a signal is
lost when as many keys wait as there are places, and with a receiver that has not begun yet all keys
are lost but the first ones, as many as there are places.  No start loses a key exactly when there
are no more keys than places.

What a start tells of it is the same in either case: that each key is prewarmed.

* `placed_of_starting` — the first keys find a place, and the others keep their order;
* `notifyAll_eq` — a start whose receiver has not begun yet;
* `emptied` — a run with all waiting signals received at its end;
* `prewarms_of_check` — all settings that pass the checks, and all keys of theirs.
-/

namespace BenchDepot

open Service (fresh placed?)

/-- Whether an event belongs to the signalling at a start: a key is signalled, the oldest one that
waits is received, or time passes. -/
def Event.isStarting : Event → Bool
  | .notify _ | .receive | .turn .. => true
  | _ => false

/-- A start in which some keys are signalled, one after the other, and any number of them received
in between. -/
structure Signalling (keys : List Key) (events : List Event) : Prop where
  starting : ∀ e ∈ events, e.isStarting = true
  keys : events.filterMap Event.notified? = keys

/-- How many signals find a place. -/
def Signals.room (signals : Signals) : Nat :=
  signals.capacity - signals.pending.length

/-- A run, and at its end a reception of every signal that waits. -/
def Service.emptied (s : Service) (events : List Event) : List Event :=
  events ++ List.replicate (s.run events).signals.pending.length .receive

/-- The places of the queue. -/
def Settings.places (settings : Settings) : Nat :=
  settings.refresh.queueCapacity.toNat

/-- What becomes of the keys that are signalled at a start. -/
structure Prewarmed (settings : Settings) (now : Instant) (keys : List Key) (events : List Event) :
    Prop where
  /-- A key finds a place if those before it that found one, less those that were received, leave
  one. -/
  accepted : ∀ {first rest : List Event} {key : Key}, events = first ++ .notify key :: rest →
    ((((fresh settings now).run first).notify key).1 = true ↔
      ((fresh settings now).log placed? first).length <
        settings.places + ((fresh settings now).calls first).length)
  /-- The first keys find a place, as many as there are places. -/
  first : keys.take settings.places <+: (fresh settings now).log placed? events
  /-- Nothing but the keys finds a place, in their order. -/
  order : ((fresh settings now).log placed? events).Sublist keys
  /-- Every other key is counted as dropped. -/
  dropped : ((fresh settings now).log placed? events).length +
    ((fresh settings now).run events).counters.droppedSignals = keys.length
  /-- Once the queue is drained, the keys that found a place are those that were handled. -/
  handled : ((fresh settings now).calls ((fresh settings now).emptied events)).map Call.key =
    (fresh settings now).log placed? events
  drained : ((fresh settings now).run ((fresh settings now).emptied events)).signals.pending = []

/-- A start that loses no key: in the end all are handled, and none is counted as dropped. -/
structure Lossless (settings : Settings) (now : Instant) (keys : List Key) (events : List Event) :
    Prop where
  handled : ((fresh settings now).calls ((fresh settings now).emptied events)).map Call.key = keys
  dropped : ((fresh settings now).run events).counters.droppedSignals = 0

/-- What becomes of the keys to prewarm that some settings name. -/
structure Prewarms (settings : Settings) (keys : List Key) : Prop where
  each : ∀ {now : Instant} {events : List Event}, Signalling keys events →
    Prewarmed settings now keys events
  /-- Where nothing is received, the keys without a place are lost. -/
  unheard : ∀ now : Instant,
    (Startup.prewarm settings now keys).1 =
      List.replicate (min keys.length settings.places) true ++
        List.replicate (keys.length - settings.places) false ∧
    (Startup.prewarm settings now keys).2.signals.pending = keys.take settings.places ∧
    (Startup.prewarm settings now keys).2.counters.droppedSignals = keys.length - settings.places
  /-- No start loses a key exactly if there is a place for each. -/
  lossless_iff : (∀ (now : Instant) (events : List Event), Signalling keys events →
    Lossless settings now keys events) ↔ keys.length ≤ settings.places
  /-- A start that can make its queue tells of each key. -/
  told : ∀ (world : Startup.World) (reached : Startup.Start),
    settings.refresh.userAgent.toList.all Fetch.isSendable = true →
      settings.places ≤ Startup.mostPlaces →
        (Startup.withStore world settings reached).prewarmed = keys.length
  /-- A start that cannot make it signals no key. -/
  crashes : ∀ (world : Startup.World) (reached : Startup.Start),
    settings.refresh.userAgent.toList.all Fetch.isSendable = true →
      Startup.mostPlaces < settings.places →
        Startup.withStore world settings reached = { reached with ending := .crashed }

/-! ## The settings -/

/-- Settings that pass the checks name keys. -/
theorem Settings.exists_prewarmKeys {settings : Settings} (h : settings.check = .ok ()) :
    ∃ keys, settings.refresh.prewarmKeys = .ok keys := by
  have hrefresh : settings.refresh.check = .ok () := by
    unfold Settings.check at h
    split at h
    · cases h
    · assumption
  unfold RefreshSettings.check at hrefresh
  split_ifs at hrefresh
  split at hrefresh
  · cases hrefresh
  · next keys hkeys => exact ⟨keys, hkeys⟩

theorem Key.map_text_parseAll {texts : List String} {keys : List Key}
    (h : Key.parseAll texts = .ok keys) : keys.map Key.text = texts := by
  induction texts generalizing keys with
  | nil =>
      cases h
      rfl
  | cons text rest ih =>
      unfold Key.parseAll at h
      split at h
      · cases h
      · next key hkey =>
        split at h
        · cases h
        · next others hothers =>
          cases h
          rw [List.map_cons, ih hothers, text_of_parse hkey]

/-! ## One event -/

theorem viaQueue_of_isStarting {e : Event} (h : e.isStarting = true) : e.viaQueue = true := by
  cases e <;> first | rfl | cases h

namespace Service

variable {s : Service} {e : Event} {events : List Event} {key : Key} {keys : List Key}

/-- What is signalled at a start is signalled directly. -/
theorem sent?_of_isStarting (s : Service) (h : e.isStarting = true) : s.sent? e = e.notified? := by
  have htarget : e.target? = none := by cases e <;> first | rfl | cases h
  have hlooked : s.lookedUp? e = none := by rw [lookedUp?, htarget, Option.bind_none]
  rw [sent?, hlooked]
  cases e.notified? <;> rfl

theorem placed?_of_isStarting (s : Service) (h : e.isStarting = true) :
    s.placed? e = e.notified?.filter fun key => (s.notify key).1 := by
  rw [placed?, sent?_of_isStarting s h]

/-- A receiver takes the oldest signal. -/
theorem signals_after_receive (s : Service) : (s.after .receive).signals =
    { s.signals with pending := s.signals.pending.tail } := by
  cases hpending : s.signals.pending with
  | nil =>
      have hreceive : s.signals.receive? = none := by rw [Signals.receive?, hpending]
      have hafter : s.after .receive = s := by simp only [after, hreceive]
      rw [hafter, List.tail_nil, ← hpending]
  | cons first rest =>
      have hreceive : s.signals.receive? = some (first, { s.signals with pending := rest }) := by
        rw [Signals.receive?, hpending]
      simp only [after, hreceive, signals_handle, List.tail_cons]

/-- An open queue stays open. -/
theorem isOpen_after_of_isStarting (hopen : s.signals.isOpen = true) (h : e.isStarting = true) :
    (s.after e).signals.isOpen = true := by
  cases e with
  | notify key =>
      have hsignals : (s.after (.notify key)).signals = _ := signals_notify s key
      rw [hsignals, hopen]
  | receive => rw [signals_after_receive, hopen]
  | turn passed world => exact hopen
  | _ => cases h

theorem isOpen_run_of_isStarting (hopen : s.signals.isOpen = true)
    (h : ∀ e ∈ events, e.isStarting = true) : (s.run events).signals.isOpen = true := by
  induction events generalizing s with
  | nil => exact hopen
  | cons e rest ih =>
      exact ih (isOpen_after_of_isStarting hopen (h e List.mem_cons_self))
        fun other hother => h other (List.mem_cons_of_mem e hother)

/-- A signal finds a place in an open queue if there is one. -/
theorem hasRoom_iff_room (hopen : s.signals.isOpen = true) :
    s.signals.hasRoom = true ↔ 0 < s.signals.room := by
  simp only [Signals.hasRoom, Signals.room, hopen, Bool.true_and, decide_eq_true_eq]
  omega

theorem room_of_hasRoom (hopen : s.signals.isOpen = true) (hroom : s.signals.hasRoom = true) :
    s.signals.room = s.signals.room - 1 + 1 := by
  have hfree := (hasRoom_iff_room hopen).mp hroom
  omega

theorem room_of_not_hasRoom (hopen : s.signals.isOpen = true)
    (hroom : ¬s.signals.hasRoom = true) : s.signals.room = 0 := by
  rw [hasRoom_iff_room hopen] at hroom
  omega

/-- A signal takes a place. -/
theorem room_notify (hopen : s.signals.isOpen = true) (key : Key) :
    (s.notify key).2.signals.room = s.signals.room - 1 := by
  rw [signals_notify]
  by_cases hroom : s.signals.hasRoom = true
  · rw [if_pos hroom]
    simp only [Signals.room, List.length_append, List.length_singleton]
    omega
  · have hsame : (s.signals.pending ++ if s.signals.hasRoom then [key] else []) =
        s.signals.pending := by
      rw [if_neg hroom, List.append_nil]
    rw [hsame, room_of_not_hasRoom hopen hroom]

/-- Whatever is no signal takes no place. -/
theorem room_le_after (h : e.isStarting = true) (hnone : e.notified? = none) :
    s.signals.room ≤ (s.after e).signals.room := by
  cases e with
  | notify key => cases hnone
  | receive =>
      rw [signals_after_receive]
      simp only [Signals.room, List.length_tail]
      omega
  | turn passed world => exact Nat.le_refl s.signals.room
  | _ => cases h

/-! ## Runs -/

theorem log_sent?_of_isStarting (h : ∀ e ∈ events, e.isStarting = true) :
    s.log sent? events = events.filterMap Event.notified? := by
  induction events generalizing s with
  | nil => rfl
  | cons e rest ih =>
      have hrest : (s.after e).log sent? rest = rest.filterMap Event.notified? :=
        ih fun other hother => h other (List.mem_cons_of_mem e hother)
      rw [log, sent?_of_isStarting s (h e List.mem_cons_self), hrest]
      cases hnotified : e.notified? <;> simp [hnotified]

/-- What finds a place was signalled, in this order. -/
theorem placed_sublist (h : ∀ e ∈ events, e.isStarting = true) :
    (s.log placed? events).Sublist (events.filterMap Event.notified?) := by
  induction events generalizing s with
  | nil => exact List.Sublist.refl []
  | cons e rest ih =>
      have hrest : ((s.after e).log placed? rest).Sublist (rest.filterMap Event.notified?) :=
        ih fun other hother => h other (List.mem_cons_of_mem e hother)
      have hfirst : (s.placed? e).toList.Sublist e.notified?.toList := by
        rw [placed?_of_isStarting s (h e List.mem_cons_self)]
        cases e.notified? with
        | none => exact List.Sublist.refl []
        | some key => cases hplaced : (s.notify key).1 <;> simp [Option.filter, hplaced]
      have hkeys : (e :: rest).filterMap Event.notified? =
          e.notified?.toList ++ rest.filterMap Event.notified? := by
        cases hnotified : e.notified? <;> simp [hnotified]
      rw [log, hkeys]
      exact hfirst.append hrest

/-- As many of the first keys as there are free places find one, whatever is received in between. -/
theorem placed_of_starting (hopen : s.signals.isOpen = true)
    (h : ∀ e ∈ events, e.isStarting = true) :
    (events.filterMap Event.notified?).take s.signals.room <+: s.log placed? events := by
  induction events generalizing s with
  | nil =>
      rw [List.filterMap_nil, List.take_nil]
      exact List.nil_prefix
  | cons e rest ih =>
      have he := h e List.mem_cons_self
      have hrest := ih (isOpen_after_of_isStarting hopen he) fun other hother =>
        h other (List.mem_cons_of_mem e hother)
      rw [log, placed?_of_isStarting s he]
      cases hnotified : e.notified? with
      | none =>
          -- there is as much room as before, or more
          rw [List.filterMap_cons_none hnotified]
          have hroom := room_le_after (s := s) he hnotified
          exact (List.take_prefix_take_left hroom).trans hrest
      | some key =>
          rw [List.filterMap_cons_some hnotified]
          have hnotify : e = .notify key := by
            cases e <;> first | cases hnotified; rfl | cases hnotified
          subst hnotify
          have hafter : (s.after (.notify key)).signals.room = s.signals.room - 1 :=
            room_notify hopen key
          rw [hafter] at hrest
          by_cases hroom : s.signals.hasRoom = true
          · have hplaced : ((some key).filter fun key => (s.notify key).1) = some key := by
              simp [Option.filter, notify_fst, hroom]
            rw [hplaced, room_of_hasRoom hopen hroom, List.take_succ_cons]
            exact (List.prefix_append_right_inj [key]).mpr hrest
          · rw [room_of_not_hasRoom hopen hroom, List.take_zero]
            exact List.nil_prefix

/-- Of the keys that are signalled while nothing is received, those find a place for which there is
one. -/
theorem notifyAll_eq (hopen : s.signals.isOpen = true) (keys : List Key) :
    s.notifyAll keys = (List.replicate (min keys.length s.signals.room) true ++
      List.replicate (keys.length - s.signals.room) false, s.run (keys.map .notify)) := by
  induction keys generalizing s with
  | nil => simp [notifyAll]
  | cons key rest ih =>
      have hnext : (s.notify key).2.signals.isOpen = true :=
        isOpen_after_of_isStarting (e := .notify key) hopen rfl
      have hrest := ih hnext
      rw [room_notify hopen] at hrest
      have hall : s.notifyAll (key :: rest) = (s.signals.hasRoom ::
          ((s.notify key).2.notifyAll rest).1, ((s.notify key).2.notifyAll rest).2) := by
        rw [← notify_fst s key]
        rfl
      rw [hall, hrest, List.length_cons]
      by_cases hroom : s.signals.hasRoom = true
      · have hfree := room_of_hasRoom hopen hroom
        have hmin : min (rest.length + 1) s.signals.room =
            min rest.length (s.signals.room - 1) + 1 := by omega
        have hsub : rest.length + 1 - s.signals.room = rest.length - (s.signals.room - 1) := by
          omega
        rw [hroom, hmin, hsub]
        rfl
      · have hfull := room_of_not_hasRoom hopen hroom
        rw [eq_false_of_ne_true hroom, hfull, Nat.min_zero, Nat.min_zero]
        rfl

theorem placed_map_notify (hopen : s.signals.isOpen = true) (keys : List Key) :
    s.log placed? (keys.map .notify) = keys.take s.signals.room := by
  induction keys generalizing s with
  | nil => exact List.take_nil.symm
  | cons key rest ih =>
      have hnext : (s.notify key).2.signals.isOpen = true :=
        isOpen_after_of_isStarting (e := .notify key) hopen rfl
      have hrest := ih hnext
      rw [room_notify hopen] at hrest
      have hlog : s.log placed? ((key :: rest).map .notify) =
          (if s.signals.hasRoom then [key] else []) ++
            (s.notify key).2.log placed? (rest.map .notify) := by
        have hplaced := toList_placed? s (.notify key)
        rw [List.map_cons, log, hplaced]
        rfl
      rw [hlog, hrest]
      by_cases hroom : s.signals.hasRoom = true
      · rw [if_pos hroom, room_of_hasRoom hopen hroom, List.take_succ_cons]
        rfl
      · rw [if_neg hroom, room_of_not_hasRoom hopen hroom]
        rfl

theorem calls_map_notify (s : Service) (keys : List Key) : s.calls (keys.map .notify) = [] := by
  induction keys generalizing s with
  | nil => rfl
  | cons key rest ih => exact ih (s.notify key).2

/-! ## Draining -/

theorem pending_run_emptied (s : Service) (events : List Event) :
    (s.run (s.emptied events)).signals.pending = [] := by
  rw [emptied, run_append, ← drain_eq_run]
  show (((s.run events).withSignals _).handleAll _).2.signals.pending = []
  rw [handleAll_withSignals]
  rfl

theorem isStarting_of_mem_receives {n : Nat} (h : e ∈ List.replicate n Event.receive) :
    e.isStarting = true := by
  rw [List.eq_of_mem_replicate h]
  rfl

theorem isStarting_emptied (h : ∀ e ∈ events, e.isStarting = true) :
    ∀ e ∈ s.emptied events, e.isStarting = true := by
  intro e he
  rcases List.mem_append.mp he with hevent | hreceive
  · exact h e hevent
  · exact isStarting_of_mem_receives hreceive

/-- What is received in the end takes no further place. -/
theorem placed_emptied (s : Service) (events : List Event) :
    s.log placed? (s.emptied events) = s.log placed? events := by
  have hreceives : ∀ (t : Service) (n : Nat), t.log placed? (List.replicate n .receive) = [] := by
    intro t n
    have hsublist : (t.log placed? (List.replicate n .receive)).Sublist
        ((List.replicate n Event.receive).filterMap Event.notified?) :=
      placed_sublist fun e he => isStarting_of_mem_receives he
    have hnone : (List.replicate n Event.receive).filterMap Event.notified? = [] := by
      rw [List.filterMap_eq_nil_iff]
      intro e he
      rw [List.eq_of_mem_replicate he]
      rfl
    rw [hnone] at hsublist
    exact List.sublist_nil.mp hsublist
  rw [emptied, log_append, hreceives, List.append_nil]

end Service

/-! ## Every start -/

section Starts

variable {settings : Settings} {keys : List Key} {events : List Event}

theorem room_fresh (settings : Settings) (now : Instant) :
    (fresh settings now).signals.room = settings.places :=
  Nat.sub_zero settings.places

theorem prewarmed_of_signalling (settings : Settings) (now : Instant)
    (h : Signalling keys events) : Prewarmed settings now keys events := by
  have hopen : (fresh settings now).signals.isOpen = true := rfl
  have hqueue : ∀ {run : List Event}, (∀ e ∈ run, e.isStarting = true) →
      Conserved (fresh settings now) run := fun hrun =>
    conserved_run settings now _ fun e he => viaQueue_of_isStarting (hrun e he)
  refine ⟨?_, ?_, ?_, ?_, ?_, Service.pending_run_emptied _ events⟩
  · intro first rest key hevents
    have hfirst : ∀ e ∈ first, e.isStarting = true := fun e he =>
      h.starting e (hevents ▸ List.mem_append_left _ he)
    -- what found a place and was not received waits
    have horder := congrArg List.length (hqueue hfirst).order
    have hcapacity := (Service.queued_run (fresh settings now) fun e he =>
      viaQueue_of_isStarting (hfirst e he)).capacity
    have hplaces : (fresh settings now).signals.capacity = settings.places := rfl
    rw [List.length_append, List.length_map] at horder
    rw [Service.notify_fst, Service.hasRoom_iff_room
      (Service.isOpen_run_of_isStarting hopen hfirst), Signals.room]
    omega
  · have hplaced := Service.placed_of_starting hopen h.starting
    rw [h.keys, room_fresh] at hplaced
    exact hplaced
  · have hsublist := Service.placed_sublist (s := fresh settings now) h.starting
    rw [h.keys] at hsublist
    exact hsublist
  · have hsent := (hqueue h.starting).sent
    rw [Service.log_sent?_of_isStarting h.starting, h.keys] at hsent
    exact hsent.symm
  · have horder := (hqueue (Service.isStarting_emptied (s := fresh settings now) h.starting)).order
    rw [Service.pending_run_emptied, List.append_nil, Service.placed_emptied] at horder
    exact horder

/-- With a place for each key, every key finds one. -/
theorem Prewarmed.lossless {now : Instant} (h : Prewarmed settings now keys events)
    (hplaces : keys.length ≤ settings.places) : Lossless settings now keys events := by
  have hfirst := h.first
  rw [List.take_of_length_le hplaces] at hfirst
  have hall : (fresh settings now).log placed? events = keys :=
    (hfirst.sublist.antisymm h.order).symm
  have hdropped := h.dropped
  rw [hall] at hdropped
  refine ⟨?_, by omega⟩
  rw [h.handled, hall]

theorem signalling_map_notify (keys : List Key) : Signalling keys (keys.map .notify) := by
  refine ⟨?_, ?_⟩
  · intro e he
    obtain ⟨key, _, rfl⟩ := List.mem_map.mp he
    rfl
  · rw [List.filterMap_map]
    exact List.filterMap_some

/-- A start whose receiver has not begun yet. -/
theorem prewarm_eq (settings : Settings) (now : Instant) (keys : List Key) :
    Startup.prewarm settings now keys =
      (List.replicate (min keys.length settings.places) true ++
        List.replicate (keys.length - settings.places) false,
      (fresh settings now).run (keys.map .notify)) :=
  Service.notifyAll_eq rfl keys

/-- In it the keys without a place are lost. -/
theorem prewarm_unheard (settings : Settings) (now : Instant) (keys : List Key) :
    (Startup.prewarm settings now keys).2.signals.pending = keys.take settings.places ∧
      (Startup.prewarm settings now keys).2.counters.droppedSignals =
        keys.length - settings.places := by
  have hsignalling := signalling_map_notify keys
  have hplaced : (fresh settings now).log placed? (keys.map .notify) =
      keys.take settings.places := Service.placed_map_notify rfl keys
  have horder := (conserved_run settings now _ fun e he =>
    viaQueue_of_isStarting (hsignalling.starting e he)).order
  rw [Service.calls_map_notify, hplaced, List.map_nil, List.nil_append] at horder
  have hdropped := (prewarmed_of_signalling settings now hsignalling).dropped
  rw [hplaced, List.length_take] at hdropped
  rw [prewarm_eq]
  dsimp only
  exact ⟨horder, by omega⟩

/-- No start loses a key exactly if there is a place for each. -/
theorem lossless_iff (settings : Settings) (keys : List Key) :
    (∀ (now : Instant) (events : List Event), Signalling keys events →
      Lossless settings now keys events) ↔ keys.length ≤ settings.places := by
  constructor
  · intro hall
    have hunheard := (prewarm_unheard settings .epoch keys).2
    rw [prewarm_eq, (hall .epoch _ (signalling_map_notify keys)).dropped] at hunheard
    omega
  · intro hplaces now events hsignalling
    exact (prewarmed_of_signalling settings now hsignalling).lossless hplaces

/-- A start that can send its user agent crashes if its queue is too large for any queue, and else
signals the keys. -/
theorem withStore_eq (world : Startup.World) (reached : Startup.Start)
    (hkeys : settings.refresh.prewarmKeys = .ok keys)
    (hsendable : settings.refresh.userAgent.toList.all Fetch.isSendable = true) :
    Startup.withStore world settings reached =
      if Startup.mostPlaces < settings.places then { reached with ending := .crashed }
      else { reached with
        prewarmed := (Startup.prewarm settings world.now keys).1.length
        compactions := settings.compactions?
        maintenanceOff := settings.compactions?.isNone
        ending := Startup.takeEndpoint world (Startup.prewarm settings world.now keys).2 } := by
  have hfetcher : Fetcher.of? settings.refresh.userAgent
      (settings.refresh.fetchTimeout.toNat * nanosPerSecond) =
        some ⟨_, _, hsendable⟩ := dif_pos hsendable
  rw [Startup.withStore, hfetcher, hkeys]
  rfl

/-- Settings that pass the checks prewarm the keys that they name, but no more in one go than there
are places. -/
theorem prewarms_of_check (h : settings.check = .ok ()) : ∃ keys : List Key,
    settings.refresh.prewarmKeys = .ok keys ∧ keys.map Key.text = settings.refresh.prewarm ∧
      Prewarms settings keys := by
  obtain ⟨keys, hkeys⟩ := Settings.exists_prewarmKeys h
  refine ⟨keys, hkeys, Key.map_text_parseAll hkeys, ?_, ?_, lossless_iff settings keys, ?_, ?_⟩
  · intro now events hsignalling
    exact prewarmed_of_signalling settings now hsignalling
  · intro now
    exact ⟨congrArg Prod.fst (prewarm_eq settings now keys), prewarm_unheard settings now keys⟩
  · intro world reached hsendable hplaces
    rw [withStore_eq world reached hkeys hsendable, if_neg (Nat.not_lt.mpr hplaces), prewarm_eq]
    simp only [List.length_append, List.length_replicate]
    omega
  · intro world reached hsendable hplaces
    rw [withStore_eq world reached hkeys hsendable, if_pos hplaces]

end Starts

/-- Two keys to prewarm, and a place for one. -/
def twoKeys : Settings :=
  { refresh := { queueCapacity := 1, prewarm := ["/pci.ids", "/usb.ids"] } }

/-- The first of them is sure to be handled, and the other one only if the receiver is in time. -/
theorem prewarms_twoKeys : twoKeys.check = .ok () ∧
    Prewarms twoKeys [.pciIds, .usbIds] ∧
      ¬∀ (now : Instant) (events : List Event), Signalling [.pciIds, .usbIds] events →
        Lossless twoKeys now [.pciIds, .usbIds] events := by
  have hcheck : twoKeys.check = .ok () := by decide
  obtain ⟨keys, hkeys, _, hprewarms⟩ := prewarms_of_check hcheck
  have htwo : twoKeys.refresh.prewarmKeys = .ok [.pciIds, .usbIds] := by decide
  have heq : keys = [.pciIds, .usbIds] := Except.ok.inj (hkeys.symm.trans htwo)
  rw [heq] at hprewarms
  refine ⟨hcheck, hprewarms, ?_⟩
  rw [hprewarms.lossless_iff]
  decide

/-- The settings pass the checks, and a start whose receiver has not begun yet loses the second
key: it is never handled. -/
theorem lost_secondKey :
    (twoKeys.check = .ok () ∧ twoKeys.refresh.prewarmKeys = .ok [.pciIds, .usbIds]) ∧
      Signalling [.pciIds, .usbIds] [.notify .pciIds, .notify .usbIds] ∧
        (Startup.prewarm twoKeys .epoch [.pciIds, .usbIds]).1 = [true, false] ∧
          (Startup.prewarm twoKeys .epoch [.pciIds, .usbIds]).2.counters.droppedSignals = 1 ∧
            ¬Lossless twoKeys .epoch [.pciIds, .usbIds] [.notify .pciIds, .notify .usbIds] := by
  have hdropped : ((fresh twoKeys .epoch).run
      [.notify .pciIds, .notify .usbIds]).counters.droppedSignals = 1 := by decide
  refine ⟨⟨by decide, by decide⟩, signalling_map_notify [.pciIds, .usbIds], by decide, by decide,
    ?_⟩
  intro hlossless
  have hnone := hlossless.dropped
  rw [hdropped] at hnone
  cases hnone

end BenchDepot
