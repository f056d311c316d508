import BenchDepot.Proofs.Dispatch

/-!
# What a refresh replaces

A refresh replaces the artifact of its key as a whole, by what the source of the key gave, or it
leaves every artifact as it was, whichever step went wrong.  Only refreshes and direct puts write
artifacts, so that the artifacts after a run can be read off the list of what was written, and of
nothing else.

* `handle_replacesOneOrNothing` — what one handled signal may do to the store;
* `artifacts_after`, `artifacts_run` — the artifacts after a run are what was written, in order;
* `artifacts_of_run` — both, in every state that a new service can come to.
-/

namespace BenchDepot

/-- What a signal may do to the store: one artifact is replaced by what the source of its key
supplied, or nothing is. -/
structure ReplacesOneOrNothing (s : Service) (key : Key) : Prop where
  /-- A signal ends refreshed if its key is not within its cooldown, the source of the key supplies
  content, and the content can be stored. -/
  refreshed_iff : (s.handle key).1.outcome = .refreshed ↔
    s.dispatches.blocks s.cooldown s.clock key = false ∧
      (s.supply? (s.settings.origins.source key)).isSome = true ∧ s.canStore = true
  /-- However else it ends, every artifact is the same as before. -/
  untouched : (s.handle key).1.outcome ≠ .refreshed →
    (s.handle key).2.store.artifacts = s.store.artifacts
  /-- If it ends refreshed, the key holds what its source supplied, stamped with the present. -/
  replaced : (s.handle key).1.outcome = .refreshed → ∃ content,
    s.supply? (s.settings.origins.source key) = some content ∧
      (s.handle key).2.store.artifact? key.text = some ⟨content, s.now⟩
  /-- No other key is ever touched. -/
  others : ∀ name, name ≠ key.text →
    (s.handle key).2.store.artifact? name = s.store.artifact? name
  /-- No result is ever touched. -/
  rows : (s.handle key).2.store.rows = s.store.rows

namespace Service

variable {s : Service} {e : Event} {key : Key} {name : String}

/-- What a signal writes, if it ends refreshed: what the source of its key supplied. -/
def refresh? (s : Service) (key : Key) : Option (String × Artifact) :=
  if (s.handle key).1.outcome = .refreshed then
    (s.supply? (s.settings.origins.source key)).map fun content => (key.text, ⟨content, s.now⟩)
  else
    none

/-- What an event writes, and under which name: a refresh that succeeds, and a put that does. -/
def write? (s : Service) : Event → Option (String × Artifact)
  | .put name blob at_ =>
    if (s.put name blob at_).isOk then some (name, ⟨blob, at_⟩) else none
  | e => (s.met? e).bind fun m => m.1.refresh? m.2

/-- What was written in a run, oldest first. -/
def writes (s : Service) (events : List Event) : List (String × Artifact) :=
  s.log write? events

/-- Artifacts with what was written, if anything was. -/
def written (artifacts : TextMap Artifact) : Option (String × Artifact) → TextMap Artifact
  | none => artifacts
  | some write => artifacts.insert write.1 write.2

/-! ## One signal -/

theorem store_remember (s : Service) (key : Key) (start : Nat) :
    (s.remember key start).store = s.store := rfl

theorem store_afterFailure (s : Service) (key : Key) (start : Nat) :
    (s.afterFailure key start).store = s.store := by
  unfold afterFailure
  dsimp only
  split <;> rfl

/-- The two ways a handled signal may leave the store. -/
theorem store_handle_cases (s : Service) (key : Key) :
    ((s.handle key).1.outcome ≠ .refreshed ∧ (s.handle key).2.store = s.store ∧
      (s.dispatches.blocks s.cooldown s.clock key = true ∨
        s.supply? (s.settings.origins.source key) = none ∨ s.canStore = false)) ∨
    ((s.handle key).1.outcome = .refreshed ∧
      s.dispatches.blocks s.cooldown s.clock key = false ∧ s.canStore = true ∧
      ∃ content, s.supply? (s.settings.origins.source key) = some content ∧
        (s.handle key).2.store =
          { s.store with artifacts := s.store.artifacts.insert key.text ⟨content, s.now⟩ }) := by
  cases hblocks : s.dispatches.blocks s.cooldown s.clock key with
  | true =>
      rw [handle_of_blocks hblocks]
      exact Or.inl ⟨by simp, rfl, Or.inl rfl⟩
  | false =>
      rw [handle_of_not_blocks hblocks]
      obtain ⟨t, ht, ⟨content, hsupply, hcan, heq⟩ | ⟨hfail, heq⟩⟩ := dispatch_cases s key
      · rw [heq]
        refine Or.inr ⟨rfl, rfl, hcan, content, hsupply, ?_⟩
        rw [store_remember, Service.replaced, ht.store]
      · rw [heq]
        refine Or.inl ⟨by simp, ?_, Or.inr hfail⟩
        rw [store_afterFailure, ht.store]

/-- A handled signal replaces one artifact or nothing. -/
theorem handle_replacesOneOrNothing (s : Service) (key : Key) : ReplacesOneOrNothing s key := by
  rcases store_handle_cases s key with
    ⟨houtcome, hstore, hfail⟩ | ⟨houtcome, hblocks, hcan, content, hsupply, hstore⟩
  · refine ⟨⟨fun h => absurd h houtcome, ?_⟩, ?_, fun h => absurd h houtcome, ?_, ?_⟩
    · rintro ⟨hblocks, hsupply, hcan⟩
      rcases hfail with hfail | hfail | hfail <;> simp_all
    · intro _
      rw [hstore]
    · intro name _
      rw [hstore]
    · rw [hstore]
  · refine ⟨⟨fun _ => ⟨hblocks, by rw [hsupply]; rfl, hcan⟩, fun _ => houtcome⟩,
      fun h => absurd houtcome h, fun _ => ⟨content, hsupply, ?_⟩, ?_, ?_⟩
    · rw [hstore]
      exact TextMap.get?_insert_self _ _ _
    · intro name hname
      rw [hstore]
      exact TextMap.get?_insert_of_ne _ _ hname
    · rw [hstore]

/-- The artifacts after a handled signal are those before it, with what it wrote. -/
theorem artifacts_handle (s : Service) (key : Key) :
    (s.handle key).2.store.artifacts = written s.store.artifacts (s.refresh? key) := by
  unfold refresh?
  rcases store_handle_cases s key with
    ⟨houtcome, hstore, _⟩ | ⟨houtcome, _, _, content, hsupply, hstore⟩
  · rw [if_neg houtcome, hstore]
    rfl
  · rw [if_pos houtcome, hsupply, hstore]
    rfl

/-! ## One event -/

/-- Content that is put is written where the put succeeds. -/
theorem artifacts_put (s : Service) (name : String) (blob : ByteArray) (at_ : Instant) :
    (s.orStay (s.put name blob at_)).store.artifacts =
      written s.store.artifacts (s.write? (.put name blob at_)) := by
  simp only [write?]
  cases hput : s.put name blob at_ with
  | error cause => rfl
  | ok after =>
      rw [put_eq_ok hput]
      rfl

/-- An upload leaves the artifacts alone. -/
theorem artifacts_submit (s : Service) (body : ByteArray) :
    (Http.submit s body).2.store.artifacts = s.store.artifacts := by
  obtain ⟨rows, counters, hafter⟩ := rows_submit s body
  rw [hafter]

/-- An event that handles a signal writes what the signal does. -/
theorem write?_of_met? {u : Service} (h : s.met? e = some (u, key)) :
    s.write? e = u.refresh? key := by
  cases e with
  | handle k =>
      cases h
      rfl
  | receive =>
      simp only [write?, h]
      rfl
  | _ => cases h

/-- The artifacts after an event are those before it, with what it wrote. -/
theorem artifacts_after (s : Service) (e : Event) :
    (s.after e).store.artifacts = written s.store.artifacts (s.write? e) := by
  cases hmet : s.met? e with
  | some m =>
      obtain ⟨u, key⟩ := m
      obtain ⟨hu, hafter⟩ := after_of_met? hmet
      rw [hafter, artifacts_handle, hu.store, write?_of_met? hmet]
  | none =>
      cases e with
      | put name blob at_ => exact artifacts_put s name blob at_
      | request request =>
          show (Http.respond s request).2.store.artifacts = s.store.artifacts
          cases hupload : request.isUpload with
          | true =>
              rw [respond_of_isUpload hupload]
              exact artifacts_submit s request.body
          | false => rw [(quiet_respond hupload).store]
      | append records at_ =>
          show (s.orStay (s.append records at_)).store.artifacts = s.store.artifacts
          cases happend : s.append records at_ with
          | error cause => rfl
          | ok after =>
              obtain ⟨rows, _, rfl⟩ := append_eq_ok happend
              rfl
      | importRow m benchmarkType cpuText at_ =>
          show (s.orStay (s.importRow m benchmarkType cpuText at_)).store.artifacts =
            s.store.artifacts
          cases himport : s.importRow m benchmarkType cpuText at_ with
          | error cause => rfl
          | ok after =>
              obtain ⟨row, _, rfl⟩ := importRow_eq_ok himport
              rfl
      | handle key => cases hmet
      | receive =>
          rw [after_receive_of_met?_none hmet]
          simp only [write?, hmet]
          rfl
      | _ => exact congrArg Store.artifacts (store_after_of_idle rfl)

/-! ## Whole runs -/

/-- The artifacts after a run are those before it, with everything that was written. -/
theorem artifacts_run (s : Service) (events : List Event) :
    (s.run events).store.artifacts =
      (s.writes events).foldl (fun m write => m.insert write.1 write.2) s.store.artifacts := by
  induction events generalizing s with
  | nil => rfl
  | cons e rest ih =>
      rw [run_cons, ih, artifacts_after]
      show _ = ((s.write? e).toList ++ (s.after e).writes rest).foldl _ _
      rw [List.foldl_append]
      cases s.write? e <;> rfl

end Service

/-- What a run of a service leaves of what it wrote. -/
structure KeepsLastWritten (s : Service) (events : List Event) : Prop where
  /-- Every key has one artifact at most. -/
  nodup : (s.run events).store.artifacts.keys.Nodup
  /-- The artifact of a key is the one that was written last under it. -/
  last : ∀ name, (s.run events).store.artifact? name =
    (((s.writes events).filter fun write => write.1 = name).getLast?).map Prod.snd

/-- In every state that a new service can come to, every key has the artifact that was written last
under it, and a signal replaces one artifact or nothing. -/
theorem artifacts_of_run (settings : Settings) (now : Instant) (events : List Event) :
    KeepsLastWritten (Service.fresh settings now) events ∧
      ∀ key, ReplacesOneOrNothing ((Service.fresh settings now).run events) key := by
  refine ⟨⟨?_, fun name => ?_⟩, fun key => Service.handle_replacesOneOrNothing _ key⟩
  · exact (TextMap.keys_pairwise _).imp TextMap.ne_of_lt
  · rw [Store.artifact?, Service.artifacts_run]
    exact TextMap.get?_ofList _ name

end BenchDepot
