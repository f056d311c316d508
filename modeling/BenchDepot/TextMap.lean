/-!
# Finite maps from texts

A finite map keyed by texts, held as its entries in strictly ascending order of the key.  A map
therefore has one representation only: two maps with the same look-ups are equal.

* `get?_insert_self`, `get?_insert_of_ne` — an insertion sets its key and no other;
* `get?_ofList` — of several values of a key the last one stays;
* `ext` — a map is determined by its look-ups;
* `mem_keys_iff` — the keys are the texts with a look-up.
-/

namespace BenchDepot

/-- The entry order of a map: strictly ascending keys. -/
def Ascending {α : Type} (entries : List (String × α)) : Prop :=
  entries.Pairwise fun a b => a.1 < b.1

/-- A finite map from texts, as entries with strictly ascending keys. -/
structure TextMap (α : Type) where
  entries : List (String × α)
  ascending : Ascending entries

namespace TextMap

variable {α : Type}

instance [DecidableEq α] : DecidableEq (TextMap α) := fun a b =>
  if h : a.entries = b.entries then
    isTrue (by cases a; cases b; simp_all)
  else
    isFalse fun heq => h (congrArg entries heq)

/-- The map without entries. -/
def empty : TextMap α :=
  ⟨[], List.Pairwise.nil⟩

instance : Inhabited (TextMap α) := ⟨empty⟩

instance : EmptyCollection (TextMap α) := ⟨empty⟩

/-- Whether a map has no entries. -/
def isEmpty (m : TextMap α) : Bool :=
  m.entries.isEmpty

/-- The keys of a map, ascending. -/
def keys (m : TextMap α) : List String :=
  m.entries.map (·.1)

/-- The value at a key of an entry list. -/
def lookupIn (key : String) : List (String × α) → Option α
  | [] => none
  | (k, v) :: rest => if k = key then some v else lookupIn key rest

/-- The value of a map at a key. -/
def get? (m : TextMap α) (key : String) : Option α :=
  lookupIn key m.entries

/-- Entries with a value set: in place where the key stands, else where the order puts it. -/
def insertIn (key : String) (value : α) : List (String × α) → List (String × α)
  | [] => [(key, value)]
  | (k, v) :: rest =>
    if key < k then (key, value) :: (k, v) :: rest
    else if key = k then (key, value) :: rest
    else (k, v) :: insertIn key value rest

/-- The keys after an insertion are the new key and the old ones. -/
theorem fst_of_mem_insertIn {key : String} {value : α} {entries : List (String × α)}
    {entry : String × α} (h : entry ∈ insertIn key value entries) :
    entry.1 = key ∨ ∃ old ∈ entries, old.1 = entry.1 := by
  induction entries with
  | nil =>
    rw [insertIn, List.mem_singleton] at h
    exact Or.inl (by rw [h])
  | cons head rest ih =>
    obtain ⟨k, v⟩ := head
    simp only [insertIn] at h
    split at h
    · rcases List.mem_cons.mp h with rfl | h
      · exact Or.inl rfl
      · exact Or.inr ⟨entry, h, rfl⟩
    · split at h
      · rcases List.mem_cons.mp h with rfl | h
        · exact Or.inl rfl
        · exact Or.inr ⟨entry, List.mem_cons_of_mem _ h, rfl⟩
      · rcases List.mem_cons.mp h with rfl | h
        · exact Or.inr ⟨(k, v), List.mem_cons_self, rfl⟩
        · rcases ih h with h | ⟨old, hold, heq⟩
          · exact Or.inl h
          · exact Or.inr ⟨old, List.mem_cons_of_mem _ hold, heq⟩

/-- A text that is neither below nor equal to another is above it. -/
theorem lt_of_not_lt_of_ne {a b : String} (h : ¬a < b) (hne : a ≠ b) : b < a := by
  apply Classical.byContradiction
  intro hnot
  exact hne (String.le_antisymm (String.not_lt.mp hnot) (String.not_lt.mp h))

/-- An insertion keeps the keys strictly ascending. -/
theorem ascending_insertIn {key : String} {value : α} {entries : List (String × α)}
    (h : Ascending entries) : Ascending (insertIn key value entries) := by
  induction entries with
  | nil => exact List.pairwise_singleton _ _
  | cons head rest ih =>
    obtain ⟨k, v⟩ := head
    obtain ⟨hhead, hrest⟩ := List.pairwise_cons.mp h
    simp only [insertIn]
    split
    · next hlt =>
      refine List.pairwise_cons.mpr ⟨fun entry hentry => ?_, h⟩
      rcases List.mem_cons.mp hentry with rfl | hentry
      · exact hlt
      · exact String.lt_trans hlt (hhead entry hentry)
    · next hnot =>
      split
      · next heq =>
        subst heq
        exact List.pairwise_cons.mpr ⟨hhead, hrest⟩
      · next hne =>
        refine List.pairwise_cons.mpr ⟨fun entry hentry => ?_, ih hrest⟩
        rcases fst_of_mem_insertIn hentry with heq | ⟨old, hold, heq⟩
        · rw [heq]
          exact lt_of_not_lt_of_ne hnot hne
        · rw [← heq]
          exact hhead old hold

/-- The map with a value set at a key. -/
def insert (m : TextMap α) (key : String) (value : α) : TextMap α :=
  ⟨insertIn key value m.entries, ascending_insertIn m.ascending⟩

/-- The map of some pairs, inserted from the left, so that the last value of a key stays. -/
def ofList (pairs : List (String × α)) : TextMap α :=
  pairs.foldl (fun m pair => m.insert pair.1 pair.2) empty

/-- A found value belongs to an entry with the key. -/
theorem mem_of_lookupIn {key : String} {value : α} {entries : List (String × α)}
    (h : lookupIn key entries = some value) : (key, value) ∈ entries := by
  induction entries with
  | nil => simp [lookupIn] at h
  | cons head rest ih =>
    obtain ⟨k, v⟩ := head
    simp only [lookupIn] at h
    split at h
    · next heq =>
      cases h
      subst heq
      exact List.mem_cons_self
    · exact List.mem_cons_of_mem _ (ih h)

/-- A text below another differs from it. -/
theorem ne_of_lt {a b : String} (h : a < b) : a ≠ b := by
  rintro rfl
  exact String.lt_irrefl a h

/-- In an ascending list every entry is found under its key. -/
theorem lookupIn_of_mem {key : String} {value : α} {entries : List (String × α)}
    (hasc : Ascending entries) (h : (key, value) ∈ entries) :
    lookupIn key entries = some value := by
  induction entries with
  | nil => simp at h
  | cons head rest ih =>
    obtain ⟨k, v⟩ := head
    obtain ⟨hhead, hrest⟩ := List.pairwise_cons.mp hasc
    simp only [lookupIn]
    rcases List.mem_cons.mp h with heq | h
    · cases heq
      simp
    · have hlt : k < key := hhead _ h
      rw [if_neg (ne_of_lt hlt)]
      exact ih hrest h

/-- The value just set is the one found. -/
theorem lookupIn_insertIn_self (key : String) (value : α) (entries : List (String × α)) :
    lookupIn key (insertIn key value entries) = some value := by
  induction entries with
  | nil => simp [insertIn, lookupIn]
  | cons head rest ih =>
    obtain ⟨k, v⟩ := head
    simp only [insertIn]
    split
    · simp [lookupIn]
    · split
      · simp [lookupIn]
      · next hne => simp [lookupIn, Ne.symm hne, ih]

/-- An insertion leaves every other key alone. -/
theorem lookupIn_insertIn_of_ne {key other : String} (value : α) (entries : List (String × α))
    (h : other ≠ key) : lookupIn other (insertIn key value entries) = lookupIn other entries := by
  induction entries with
  | nil => simp [insertIn, lookupIn, Ne.symm h]
  | cons head rest ih =>
    obtain ⟨k, v⟩ := head
    simp only [insertIn]
    split
    · simp [lookupIn, Ne.symm h]
    · split
      · next heq =>
        subst heq
        simp [lookupIn, Ne.symm h]
      · simp only [lookupIn, ih]

/-- An insertion sets its key. -/
theorem get?_insert_self (m : TextMap α) (key : String) (value : α) :
    (m.insert key value).get? key = some value :=
  lookupIn_insertIn_self key value m.entries

/-- An insertion sets no other key. -/
theorem get?_insert_of_ne (m : TextMap α) {key other : String} (value : α) (h : other ≠ key) :
    (m.insert key value).get? other = m.get? other :=
  lookupIn_insertIn_of_ne value m.entries h

/-- Of several values set at a key the last one is found. -/
theorem get?_foldl_insert (pairs : List (String × α)) (m : TextMap α) (key : String) :
    (pairs.foldl (fun m pair => m.insert pair.1 pair.2) m).get? key =
      (((pairs.filter fun pair => pair.1 = key).getLast?).map Prod.snd).or (m.get? key) := by
  induction pairs generalizing m with
  | nil => rfl
  | cons pair rest ih =>
    obtain ⟨k, value⟩ := pair
    rw [List.foldl_cons, ih]
    by_cases hk : k = key
    · subst hk
      rw [get?_insert_self, List.filter_cons_of_pos (by simp), List.getLast?_cons]
      cases (rest.filter fun pair => pair.1 = k).getLast? <;> rfl
    · rw [get?_insert_of_ne m value (Ne.symm hk), List.filter_cons_of_neg (by simpa using hk)]

/-- A map of pairs holds the last value of each key. -/
theorem get?_ofList (pairs : List (String × α)) (key : String) :
    (ofList pairs).get? key =
      ((pairs.filter fun pair => pair.1 = key).getLast?).map Prod.snd := by
  rw [ofList, get?_foldl_insert]
  exact Option.or_none

/-- A map of a function's values holds them at the texts it was given, and nothing elsewhere. -/
theorem get?_ofList_map (f : String → α) (names : List String) (key : String) :
    (ofList (names.map fun name => (name, f name))).get? key =
      if key ∈ names then some (f key) else none := by
  rw [get?_ofList]
  cases hlast : ((names.map fun name => (name, f name)).filter
      fun pair => pair.1 = key).getLast? with
  | none =>
    have hnone := List.filter_eq_nil_iff.mp (List.getLast?_eq_none_iff.mp hlast)
    have hkey : key ∉ names := fun h => by
      have hpair := hnone (key, f key) (List.mem_map.mpr ⟨key, h, rfl⟩)
      simp at hpair
    rw [if_neg hkey]
    rfl
  | some pair =>
    obtain ⟨hmem, hkey⟩ := List.mem_filter.mp (List.mem_of_getLast? hlast)
    obtain ⟨name, hname, rfl⟩ := List.mem_map.mp hmem
    have hname' : name = key := by simpa using hkey
    subst hname'
    rw [if_pos hname]
    rfl

/-- Lists with the same members, in which each comes before those behind it, are the same list. -/
theorem eq_of_pairwise {r : α → α → Prop} (hasymm : ∀ {a b}, r a b → ¬r b a) {xs ys : List α}
    (hx : xs.Pairwise r) (hy : ys.Pairwise r) (h : ∀ a, a ∈ xs ↔ a ∈ ys) : xs = ys := by
  induction xs generalizing ys with
  | nil =>
    cases ys with
    | nil => rfl
    | cons y ys => exact absurd ((h y).mpr List.mem_cons_self) (by simp)
  | cons x xs ih =>
    cases ys with
    | nil => exact absurd ((h x).mp List.mem_cons_self) (by simp)
    | cons y ys =>
      obtain ⟨hxh, hxr⟩ := List.pairwise_cons.mp hx
      obtain ⟨hyh, hyr⟩ := List.pairwise_cons.mp hy
      have hxy : x = y := by
        rcases List.mem_cons.mp ((h x).mp List.mem_cons_self) with heq | hmem
        · exact heq
        · rcases List.mem_cons.mp ((h y).mpr List.mem_cons_self) with heq | hmem'
          · exact heq.symm
          · exact absurd (hxh y hmem') (hasymm (hyh x hmem))
      subst hxy
      congr 1
      refine ih hxr hyr fun a => ?_
      constructor
      · intro hmem
        rcases List.mem_cons.mp ((h a).mp (List.mem_cons_of_mem _ hmem)) with rfl | hmem'
        · exact absurd (hxh _ hmem) (hasymm (hxh _ hmem))
        · exact hmem'
      · intro hmem
        rcases List.mem_cons.mp ((h a).mpr (List.mem_cons_of_mem _ hmem)) with rfl | hmem'
        · exact absurd (hyh _ hmem) (hasymm (hyh _ hmem))
        · exact hmem'

/-- A map is determined by its look-ups. -/
theorem ext {m n : TextMap α} (h : ∀ key, m.get? key = n.get? key) : m = n := by
  have hentries : m.entries = n.entries := by
    refine eq_of_pairwise (fun hlt hgt => String.lt_irrefl _ (String.lt_trans hlt hgt))
      m.ascending n.ascending fun entry => ?_
    obtain ⟨key, value⟩ := entry
    constructor
    · intro hmem
      exact mem_of_lookupIn ((h key).symm.trans (lookupIn_of_mem m.ascending hmem))
    · intro hmem
      exact mem_of_lookupIn ((h key).trans (lookupIn_of_mem n.ascending hmem))
  cases m
  cases n
  simp_all

/-- The entries of a map are its look-ups. -/
theorem mem_entries_iff (m : TextMap α) (key : String) (value : α) :
    (key, value) ∈ m.entries ↔ m.get? key = some value :=
  ⟨fun h => lookupIn_of_mem m.ascending h, fun h => mem_of_lookupIn h⟩

/-- The keys of a map are the texts with a look-up. -/
theorem mem_keys_iff (m : TextMap α) (key : String) :
    key ∈ m.keys ↔ ∃ value, m.get? key = some value := by
  constructor
  · intro h
    obtain ⟨⟨k, v⟩, hmem, rfl⟩ := List.mem_map.mp h
    exact ⟨v, lookupIn_of_mem m.ascending hmem⟩
  · rintro ⟨value, h⟩
    exact List.mem_map.mpr ⟨(key, value), mem_of_lookupIn h, rfl⟩

/-- The keys of a map of a function's values are the texts it was given. -/
theorem mem_keys_ofList_map (f : String → α) (names : List String) (key : String) :
    key ∈ (ofList (names.map fun name => (name, f name))).keys ↔ key ∈ names := by
  rw [mem_keys_iff, get?_ofList_map]
  by_cases h : key ∈ names
  · rw [if_pos h]
    exact ⟨fun _ => h, fun _ => ⟨f key, rfl⟩⟩
  · rw [if_neg h]
    exact ⟨fun ⟨_, hnone⟩ => (nomatch hnone), fun hmem => absurd hmem h⟩

/-- The keys of a map of pairs are the texts that stand in front in them. -/
theorem mem_keys_ofList (pairs : List (String × α)) (key : String) :
    key ∈ (ofList pairs).keys ↔ ∃ value, (key, value) ∈ pairs := by
  rw [mem_keys_iff, get?_ofList]
  constructor
  · rintro ⟨value, h⟩
    obtain ⟨⟨k, v⟩, hlast, rfl⟩ := Option.map_eq_some_iff.mp h
    obtain ⟨hmem, hkey⟩ := List.mem_filter.mp (List.mem_of_getLast? hlast)
    have hk : k = key := by simpa using hkey
    exact ⟨v, hk ▸ hmem⟩
  · rintro ⟨value, hmem⟩
    have hne : (pairs.filter fun pair => pair.1 = key) ≠ [] :=
      List.ne_nil_of_mem (List.mem_filter.mpr ⟨hmem, by simp⟩)
    exact ⟨_, by rw [List.getLast?_eq_some_getLast hne]; rfl⟩

/-- The entries of a map, in any order, make the map again. -/
theorem ofList_of_perm {m : TextMap α} {pairs : List (String × α)} (h : pairs.Perm m.entries) :
    ofList pairs = m := by
  refine ext fun key => ?_
  rw [get?_ofList]
  cases hlast : (pairs.filter fun pair => pair.1 = key).getLast? with
  | none =>
    have hnil := List.filter_eq_nil_iff.mp (List.getLast?_eq_none_iff.mp hlast)
    cases hget : m.get? key with
    | none => rfl
    | some value =>
      have hmem := h.mem_iff.mpr ((mem_entries_iff m key value).mpr hget)
      exact absurd (by simp) (hnil _ hmem)
  | some pair =>
    obtain ⟨hmem, hkey⟩ := List.mem_filter.mp (List.mem_of_getLast? hlast)
    have hk : pair.1 = key := by simpa using hkey
    have hget := (mem_entries_iff m pair.1 pair.2).mp (h.mem_iff.mp hmem)
    rw [← hk, hget]
    rfl

/-- The keys of a map are strictly ascending. -/
theorem keys_pairwise (m : TextMap α) : m.keys.Pairwise (· < ·) :=
  List.pairwise_map.mpr m.ascending

end TextMap

end BenchDepot
