import BenchDepot.Refresh.Debounce
import Mathlib.Data.Finset.Card
import Mathlib.Data.List.Nodup

/-!
# The table of dispatches against a full record

The table forgets a dispatch once its cooldown is over, and it does so at a later instant than the
start it compares with.  Beside it stands the full record, newest first, which only ever grows at
its front and forgets nothing.  As long as the table never has to make room, both block the same
keys from every later moment on:

* `Mirrors.blocks_eq` — the answers agree;
* `Mirrors.wait` and `Mirrors.record` — the relation survives waiting and recording;
* `blocks_iff_exists` — what the full record answers, in terms of all its dispatches.
-/

namespace BenchDepot.Dispatches

variable {table full : Dispatches} {cooldown now later : Nat} {key other : Key} {start : Nat}

/-! ## Look-ups -/

/-- The start that is found belongs to an entry of the key. -/
theorem mem_of_startOf? (h : table.startOf? key = some start) : (key, start) ∈ table := by
  induction table with
  | nil => simp [startOf?] at h
  | cons e rest ih =>
      obtain ⟨k, s⟩ := e
      by_cases hk : k = key
      · subst hk
        have hs : s = start := by simpa [startOf?] using h
        rw [hs]
        exact List.mem_cons_self
      · have hrest : startOf? key rest = some start := by simpa [startOf?, hk] using h
        exact List.mem_cons_of_mem _ (ih hrest)

/-- A key with an entry is found. -/
theorem exists_startOf?_of_mem (h : (key, start) ∈ table) :
    ∃ found, table.startOf? key = some found := by
  induction table with
  | nil => simp at h
  | cons e rest ih =>
      obtain ⟨k, s⟩ := e
      by_cases hk : k = key
      · exact ⟨s, by simp [startOf?, hk]⟩
      · have hne : (key, start) ≠ (k, s) := fun heq => hk (congrArg Prod.fst heq).symm
        obtain ⟨found, hfound⟩ := ih ((List.mem_cons.mp h).resolve_left hne)
        exact ⟨found, by simpa [startOf?, hk] using hfound⟩

/-- Where every key has one entry at most, the entries are what is found. -/
theorem startOf?_eq_some_iff (hnodup : (table.map Prod.fst).Nodup) :
    table.startOf? key = some start ↔ (key, start) ∈ table := by
  refine ⟨mem_of_startOf?, fun hmem => ?_⟩
  obtain ⟨found, hfound⟩ := exists_startOf?_of_mem hmem
  have heq : (key, start) = (key, found) :=
    List.inj_on_of_nodup_map hnodup hmem (mem_of_startOf? hfound) rfl
  have hstart : start = found := congrArg Prod.snd heq
  rw [hfound, hstart]

/-! ## What recording keeps -/

/-- Pruning keeps at most one entry a key. -/
theorem nodup_live (hnodup : (table.map Prod.fst).Nodup) :
    ((table.live cooldown now).map Prod.fst).Nodup :=
  (List.filter_sublist.map _).nodup hnodup

/-- Pruning keeps exactly what is within its cooldown. -/
theorem startOf?_live (hnodup : (table.map Prod.fst).Nodup) :
    (table.live cooldown now).startOf? key = some start ↔
      table.startOf? key = some start ∧ now - start < cooldown := by
  rw [startOf?_eq_some_iff (nodup_live hnodup), startOf?_eq_some_iff hnodup]
  simp [live, isLive]

/-- Removing a key leaves every other key alone. -/
theorem startOf?_without_of_ne (h : other ≠ key) :
    (table.without key).startOf? other = table.startOf? other := by
  induction table with
  | nil => rfl
  | cons e rest ih =>
      obtain ⟨k, s⟩ := e
      by_cases hk : k = key
      · have hother : k ≠ other := fun heq => h (heq.symm.trans hk)
        rw [show without ((k, s) :: rest) key = without rest key by simp [without, hk], ih]
        simp [startOf?, hother]
      · rw [show without ((k, s) :: rest) key = (k, s) :: without rest key by simp [without, hk]]
        simp only [startOf?]
        rw [ih]

/-- Below the bound nothing has to make room. -/
theorem withPlace_of_length_lt (h : table.length < maxTracked) : table.withPlace key = table := by
  unfold withPlace
  rw [if_neg (fun hfull => absurd hfull.1 (by omega))]

/-- Below the bound, recording is pruning with the key's entry replaced. -/
theorem record_of_length_lt (h : table.length < maxTracked) :
    table.record cooldown now key start = (key, start) :: (table.live cooldown now).without key := by
  have hlive : (table.live cooldown now).length < maxTracked :=
    lt_of_le_of_lt (List.length_filter_le _ _) h
  rw [record, withPlace_of_length_lt hlive]

/-- Recording keeps at most one entry a key. -/
theorem nodup_record (hnodup : (table.map Prod.fst).Nodup) (h : table.length < maxTracked) :
    ((table.record cooldown now key start).map Prod.fst).Nodup := by
  rw [record_of_length_lt h, List.map_cons, List.nodup_cons]
  refine ⟨?_, (List.filter_sublist.map _).nodup (nodup_live hnodup)⟩
  simp [without]

/-- What recording one key leaves of the others: the dispatches within their cooldown. -/
theorem startOf?_record_of_ne (hnodup : (table.map Prod.fst).Nodup)
    (h : table.length < maxTracked) (hne : other ≠ key) {found : Nat} :
    (table.record cooldown now key start).startOf? other = some found ↔
      table.startOf? other = some found ∧ now - found < cooldown := by
  rw [record_of_length_lt h, startOf?, if_neg hne.symm, startOf?_without_of_ne hne,
    startOf?_live hnodup]

/-! ## The full record -/

/-- Newest first, and nothing from the future. -/
def Chronological (full : Dispatches) (now : Nat) : Prop :=
  full.Pairwise (fun newer older => older.2 ≤ newer.2) ∧ ∀ e ∈ full, e.2 ≤ now

/-- In a full record, the first dispatch of a key that is found is its latest. -/
theorem le_startOf?_of_mem (hpair : full.Pairwise fun newer older => older.2 ≤ newer.2)
    (h : (key, start) ∈ full) : ∃ latest, full.startOf? key = some latest ∧ start ≤ latest := by
  induction full with
  | nil => simp at h
  | cons e rest ih =>
      obtain ⟨k, s⟩ := e
      obtain ⟨hhead, hrest⟩ := List.pairwise_cons.mp hpair
      by_cases hk : k = key
      · refine ⟨s, by simp [startOf?, hk], ?_⟩
        rcases List.mem_cons.mp h with heq | hmem
        · exact le_of_eq (congrArg Prod.snd heq)
        · exact hhead _ hmem
      · have hne : (key, start) ≠ (k, s) := fun heq => hk (congrArg Prod.fst heq).symm
        obtain ⟨latest, hlatest, hle⟩ := ih hrest ((List.mem_cons.mp h).resolve_left hne)
        exact ⟨latest, by simpa [startOf?, hk] using hlatest, hle⟩

/-- A table blocks a key exactly when the start it finds is within its cooldown. -/
theorem blocks_iff : table.blocks cooldown now key = true ↔
    ∃ found, table.startOf? key = some found ∧ now - found < cooldown := by
  unfold blocks
  cases table.startOf? key with
  | none => simp
  | some found => simp [isLive]

/-- A full record blocks a key exactly when one of all its dispatches is within its cooldown. -/
theorem blocks_iff_exists (hchron : Chronological full now) :
    full.blocks cooldown later key = true ↔
      ∃ found, (key, found) ∈ full ∧ later - found < cooldown := by
  rw [blocks_iff]
  constructor
  · rintro ⟨found, hfound, hlt⟩
    exact ⟨found, mem_of_startOf? hfound, hlt⟩
  · rintro ⟨found, hmem, hlt⟩
    obtain ⟨latest, hlatest, hge⟩ := le_startOf?_of_mem hchron.1 hmem
    exact ⟨latest, hlatest, by omega⟩

/-- A full record stays one as time passes. -/
theorem Chronological.wait (h : Chronological full now) (hle : now ≤ later) :
    Chronological full later :=
  ⟨h.1, fun e he => le_trans (h.2 e he) hle⟩

/-- A full record stays one when a dispatch that started by now is put in front. -/
theorem Chronological.cons (h : Chronological full now) (hstart : now ≤ start)
    (hlater : start ≤ later) : Chronological ((key, start) :: full) later := by
  refine ⟨List.pairwise_cons.mpr ⟨fun e he => le_trans (h.2 e he) hstart, h.1⟩, ?_⟩
  intro e he
  rcases List.mem_cons.mp he with rfl | hmem
  · exact hlater
  · exact le_trans (h.2 e hmem) (le_trans hstart hlater)

/-! ## The table and the full record -/

/-- A pruned table beside the full record: it finds nothing but latest dispatches, and every latest
dispatch that is still within its cooldown. -/
structure Mirrors (table full : Dispatches) (cooldown now : Nat) : Prop where
  nodup : (table.map Prod.fst).Nodup
  chronological : Chronological full now
  latest : ∀ {key start}, table.startOf? key = some start → full.startOf? key = some start
  live : ∀ {key start}, full.startOf? key = some start → now - start < cooldown →
    table.startOf? key = some start

/-- A new table mirrors the record of nothing. -/
theorem Mirrors.nil (cooldown now : Nat) : Mirrors [] [] cooldown now where
  nodup := List.nodup_nil
  chronological := ⟨List.Pairwise.nil, by simp⟩
  latest h := h
  live h _ := h

/-- From every later moment on, the table blocks the keys that the full record blocks. -/
theorem Mirrors.blocks_eq (h : Mirrors table full cooldown now) (hle : now ≤ later) :
    table.blocks cooldown later key = full.blocks cooldown later key := by
  rw [Bool.eq_iff_iff, blocks_iff, blocks_iff]
  constructor
  · rintro ⟨found, hfound, hlt⟩
    exact ⟨found, h.latest hfound, hlt⟩
  · rintro ⟨found, hfound, hlt⟩
    exact ⟨found, h.live hfound (by omega), hlt⟩

/-- The relation survives waiting. -/
theorem Mirrors.wait (h : Mirrors table full cooldown now) (hle : now ≤ later) :
    Mirrors table full cooldown later where
  nodup := h.nodup
  chronological := h.chronological.wait hle
  latest := h.latest
  live hfound hlt := h.live hfound (by omega)

/-- The relation survives recording a dispatch that started in the meantime, even if its own
cooldown is over by the time it is recorded. -/
theorem Mirrors.record (h : Mirrors table full cooldown now) (hroom : table.length < maxTracked)
    (hstart : now ≤ start) (hlater : start ≤ later) :
    Mirrors (table.record cooldown later key start) ((key, start) :: full) cooldown later where
  nodup := nodup_record h.nodup hroom
  chronological := h.chronological.cons hstart hlater
  latest := by
    intro other found hfound
    by_cases hne : other = key
    · subst hne
      rw [startOf?_record_self] at hfound
      simpa [startOf?] using hfound
    · have hold := ((startOf?_record_of_ne h.nodup hroom hne).mp hfound).1
      simpa [startOf?, Ne.symm hne] using h.latest hold
  live := by
    intro other found hfound hlt
    by_cases hne : other = key
    · subst hne
      rw [startOf?_record_self]
      simpa [startOf?] using hfound
    · have hold : full.startOf? other = some found := by
        simpa [startOf?, Ne.symm hne] using hfound
      exact (startOf?_record_of_ne h.nodup hroom hne).mpr ⟨h.live hold (by omega), hlt⟩

/-- A table that mirrors a record has no more entries than the record has keys. -/
theorem Mirrors.length_le (h : Mirrors table full cooldown now) {keys : Finset Key}
    (hkeys : ∀ e ∈ full, e.1 ∈ keys) : table.length ≤ keys.card := by
  have hsub : (table.map Prod.fst).toFinset ⊆ keys := by
    intro k hk
    obtain ⟨e, he, rfl⟩ := List.mem_map.mp (List.mem_toFinset.mp hk)
    have hfound := (startOf?_eq_some_iff h.nodup).mpr he
    exact hkeys _ (mem_of_startOf? (h.latest hfound))
  calc table.length
      = (table.map Prod.fst).toFinset.card := by
        rw [List.toFinset_card_of_nodup h.nodup, List.length_map]
    _ ≤ keys.card := Finset.card_le_card hsub

end BenchDepot.Dispatches
