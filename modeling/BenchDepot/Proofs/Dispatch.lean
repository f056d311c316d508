import BenchDepot.Proofs.Run

/-!
# What one handled signal does

A signal is either left alone or dispatched.  A dispatch asks the source of its key once; it ends
with the artifact replaced if the source gave content and the content could be stored, and with
nothing replaced otherwise.  Whether it is remembered depends on how it ended and on the settings.

* `handle_of_blocks`, `handle_of_not_blocks` — the two ways of a signal;
* `dispatch_cases` — the two ways of a dispatch, with everything that it changes.
-/

namespace BenchDepot

/-- Whether a dispatch that ended so starts a cooldown. -/
def Outcome.counts (advanceOnFailure : Bool) : Outcome → Bool
  | .refreshed => true
  | .debounced => false
  | .failed => advanceOnFailure

/-- The content of an answer, if it holds any. -/
def OriginReply.body? : OriginReply → Option ByteArray
  | .body content => some content
  | _ => none

namespace Service

variable {s t : Service} {key : Key}

/-- The content that a source gives at present, if it gives any. -/
def supply? (s : Service) : Source → Option ByteArray
  | .aggregate => s.rebuild.1.toOption.map fun aggregate => aggregate.text.toUTF8
  | .origin url => (Origins.fetch url s.origins).1.reply.body?

/-- Whether content can be stored at present. -/
def canStore (s : Service) : Bool :=
  !s.faults.put && s.now.isWritable

/-- A service whose time went on from the start of a dispatch, and in which nothing is stored or
remembered yet. -/
structure Attempted (s t : Service) : Prop where
  settings : t.settings = s.settings
  store : t.store = s.store
  signals : t.signals = s.signals
  dispatches : t.dispatches = s.dispatches
  now : t.now = s.now
  faults : t.faults = s.faults
  pace : t.pace = s.pace
  start_le : s.dispatchStart ≤ t.clock

theorem rebuiltContent_toOption (outcome : Except RebuildError Aggregate) :
    (rebuiltContent outcome).toOption = outcome.toOption.map fun a => a.text.toUTF8 := by
  cases outcome with
  | error cause => simp only [rebuiltContent, Except.toOption, Option.map_none]
  | ok aggregate => simp only [rebuiltContent, Except.toOption, Option.map_some]

theorem replyContent_toOption (url : String) (reply : OriginReply) :
    (replyContent url reply).toOption = reply.body? := by
  cases reply <;> simp only [replyContent, Except.toOption, OriginReply.body?]

/-- A source is asked once, and gives what it supplies. -/
theorem produce_spec (s : Service) (source : Source) :
    (s.produce source).1.toOption = s.supply? source ∧ (s.produce source).2.1 = [source] := by
  cases source with
  | aggregate =>
      rw [produce, supply?]
      exact ⟨rebuiltContent_toOption _, rfl⟩
  | origin url =>
      rw [produce, supply?, fetch]
      exact ⟨replyContent_toOption url _, rfl⟩

/-- Asking a source takes time and uses up what the world has in store, nothing else. -/
theorem produce_steady (s : Service) (source : Source) :
    ∃ clock origins chance counters, s.clock ≤ clock ∧ (s.produce source).2.2 =
      { s with clock := clock, origins := origins, chance := chance, counters := counters } := by
  cases source with
  | aggregate =>
      obtain ⟨clock, chance, counters, hle, hafter⟩ := built_steady s
        (s.queries.rebuild s.settings.refresh.rebuildTimeout.toNat)
      rw [produce]
      exact ⟨clock, s.origins, chance, counters, hle, hafter⟩
  | origin url =>
      rw [produce, fetch]
      exact ⟨s.clock + (Origins.fetch url s.origins).1.takes, (Origins.fetch url s.origins).2,
        s.chance, s.counters, Nat.le_add_right _ _, rfl⟩

/-- What a source supplies depends neither on the time nor on what is counted. -/
theorem supply?_of_start (s : Service) (f : Counters → Counters) (source : Source) :
    ((s.wait s.pace.start).count f).supply? source = s.supply? source := by
  cases source with
  | aggregate =>
      have hqueries : ((s.wait s.pace.start).count f).queries = s.queries := by
        rfl
      rw [supply?, supply?, rebuild, rebuild, hqueries]
      rfl
  | origin url =>
      rw [supply?, supply?]
      rfl

/-- The attempt at new content asks the key's source once, and gets what it supplies. -/
theorem attempt_spec (s : Service) (key : Key) :
    (s.attempt key).1.toOption = s.supply? (s.settings.origins.source key) ∧
      (s.attempt key).2.1 = [s.settings.origins.source key] := by
  rw [← supply?_of_start s fun c => { c with dispatches := c.dispatches.increment key.refreshKind }]
  exact produce_spec _ _

/-- The attempt at new content leaves everything but the time and the world as it was. -/
theorem attempted_attempt (s : Service) (key : Key) : Attempted s (s.attempt key).2.2 := by
  obtain ⟨clock, origins, chance, counters, hclock, heq⟩ := produce_steady
    ((s.wait s.pace.start).count fun c =>
      { c with dispatches := c.dispatches.increment key.refreshKind })
    (s.settings.origins.source key)
  rw [attempt]
  dsimp only
  rw [heq]
  exact ⟨rfl, rfl, rfl, rfl, rfl, rfl, rfl, Nat.le_trans hclock (Nat.le_add_right _ _)⟩

/-- The service with an artifact replaced. -/
def replaced (s : Service) (key : Key) (artifact : Artifact) : Service :=
  { s with store := { s.store with artifacts := s.store.artifacts.insert key.text artifact } }

/-- Content is published where it can be stored, as a replacement stamped with the present. -/
theorem publish_ok_of_canStore (h : s.canStore = true) (content : ByteArray) :
    s.publish key (.ok content) = .ok (s.replaced key ⟨content, s.now⟩) := by
  simp only [canStore, Bool.and_eq_true, Bool.not_eq_true'] at h
  simp [publish, put, Store.putArtifact, h.1, h.2, replaced]

/-- Where content cannot be stored, publishing it fails. -/
theorem publish_of_not_canStore (key : Key) (h : s.canStore = false) (content : ByteArray) :
    ∃ cause, s.publish key (.ok content) = .error cause := by
  simp only [canStore, Bool.and_eq_false_iff, Bool.not_eq_false'] at h
  rcases h with hput | hnow
  · exact ⟨_, by simp only [publish, put, hput]; rfl⟩
  · cases hput : s.faults.put with
    | true => exact ⟨_, by simp only [publish, put, hput]; rfl⟩
    | false => exact ⟨_, by simp [publish, put, Store.putArtifact, hput, hnow]; rfl⟩

/-- The two ways of a dispatch, with everything that it changes. -/
theorem dispatch_cases (s : Service) (key : Key) : ∃ t, Attempted s t ∧
    ((∃ content, s.supply? (s.settings.origins.source key) = some content ∧ s.canStore = true ∧
        s.dispatch key = (⟨.refreshed, [s.settings.origins.source key]⟩,
          (t.replaced key ⟨content, s.now⟩).remember key s.dispatchStart)) ∨
      ((s.supply? (s.settings.origins.source key) = none ∨ s.canStore = false) ∧
        s.dispatch key = (⟨.failed, [s.settings.origins.source key]⟩,
          t.afterFailure key s.dispatchStart))) := by
  obtain ⟨hcontent, hasked⟩ := attempt_spec s key
  have hattempt := attempted_attempt s key
  refine ⟨(s.attempt key).2.2, hattempt, ?_⟩
  have hcan : (s.attempt key).2.2.canStore = s.canStore := by
    simp only [canStore, hattempt.faults, hattempt.now]
  unfold dispatch
  dsimp only
  rw [hasked]
  cases hfirst : (s.attempt key).1 with
  | error cause =>
      rw [hfirst] at hcontent
      exact Or.inr ⟨Or.inl hcontent.symm, rfl⟩
  | ok content =>
      rw [hfirst] at hcontent
      cases hstore : s.canStore with
      | true =>
          refine Or.inl ⟨content, hcontent.symm, rfl, ?_⟩
          rw [publish_ok_of_canStore (hcan.trans hstore), hattempt.now]
      | false =>
          obtain ⟨cause, hcause⟩ := publish_of_not_canStore key (hcan.trans hstore) content
          rw [hcause]
          exact Or.inr ⟨Or.inr rfl, rfl⟩

/-- A dispatch is never called debounced, and asks the key's source once. -/
theorem dispatch_handled (s : Service) (key : Key) :
    (s.dispatch key).1.outcome ≠ .debounced ∧
      (s.dispatch key).1.asked = [s.settings.origins.source key] := by
  obtain ⟨t, _, ⟨content, _, _, heq⟩ | ⟨_, heq⟩⟩ := dispatch_cases s key <;> rw [heq] <;> simp

/-- A dispatch never changes the settings, and ends no earlier than it starts. -/
theorem dispatch_course (s : Service) (key : Key) :
    (s.dispatch key).2.settings = s.settings ∧ s.dispatchStart ≤ (s.dispatch key).2.clock := by
  obtain ⟨t, ht, ⟨content, _, _, heq⟩ | ⟨_, heq⟩⟩ := dispatch_cases s key
  · rw [heq]
    exact ⟨ht.settings, ht.start_le⟩
  · rw [heq]
    unfold afterFailure
    dsimp only
    split <;> exact ⟨ht.settings, ht.start_le⟩

/-- A dispatch is remembered with its start, at the time it ends, exactly when it counts. -/
theorem dispatch_dispatches (s : Service) (key : Key) : (s.dispatch key).2.dispatches =
    if (s.dispatch key).1.outcome.counts s.settings.refresh.advanceOnFailure then
      s.dispatches.record s.cooldown (s.dispatch key).2.clock key s.dispatchStart
    else s.dispatches := by
  obtain ⟨t, ht, ⟨content, _, _, heq⟩ | ⟨_, heq⟩⟩ := dispatch_cases s key
  · rw [heq]
    simp [remember, replaced, cooldown, Outcome.counts, ht.dispatches, ht.settings]
  · rw [heq]
    cases hadvance : s.settings.refresh.advanceOnFailure <;>
      simp [afterFailure, remember, count, cooldown, Outcome.counts, ht.dispatches, ht.settings,
        hadvance]

/-- A signal within the cooldown of its key asks nothing and changes nothing but a counter. -/
theorem handle_of_blocks (h : s.dispatches.blocks s.cooldown s.clock key = true) :
    s.handle key =
      (⟨.debounced, []⟩, s.count fun c => { c with debounced := c.debounced + 1 }) := by
  rw [handle, if_pos h]

/-- Every other signal is dispatched. -/
theorem handle_of_not_blocks (h : s.dispatches.blocks s.cooldown s.clock key = false) :
    s.handle key = s.dispatch key := by
  rw [handle, if_neg (by simp [h])]

end Service

end BenchDepot
