import BenchDepot.Store.Sample
import Mathlib.Data.Finset.Card

/-!
# Groups of rows

The groups of a type are gathered row by row.  In the end every group holds the rows of its key and
no others, in the order they came in, and no key has two groups.  A random draw only changes the
order of the groups, so that a sample with room for all of them leaves none out.

* `grouped_groups` — the groups of a type;
* `order_perm` — a draw is a permutation;
* `sample_eq` — a sample with room for all groups.
-/

namespace BenchDepot

variable {row : Row} {rows : List Row} {groups : List Group} {g : Group}

/-- The groups of some rows: no key has two of them, every row is in one, and each holds the rows
of its key in their order. -/
structure Grouped (rows : List Row) (groups : List Group) : Prop where
  distinct : (groups.map Group.key).Nodup
  covers : ∀ key, key ∈ groups.map Group.key ↔ ∃ row ∈ rows, Store.groupKey row = key
  holds : ∀ g ∈ groups, g.rows = rows.filter fun row => Store.groupKey row = g.key

namespace Store

/-! ## Gathering the groups -/

/-- One more row makes a new group at the end if its key has none yet. -/
theorem keys_addToGroups (row : Row) (groups : List Group) :
    (addToGroups row groups).map Group.key =
      if groupKey row ∈ groups.map Group.key then groups.map Group.key
      else groups.map Group.key ++ [groupKey row] := by
  induction groups with
  | nil => rfl
  | cons g rest ih =>
      by_cases hkey : g.key = groupKey row
      · rw [addToGroups, if_pos hkey, if_pos (by simp [hkey])]
        rfl
      · rw [addToGroups, if_neg hkey, List.map_cons, ih, List.map_cons]
        by_cases hrest : groupKey row ∈ rest.map Group.key
        · rw [if_pos hrest, if_pos (List.mem_cons_of_mem _ hrest)]
        · rw [if_neg hrest, if_neg (by simpa [Ne.symm hkey] using hrest), List.cons_append]

/-- A group after one more row: it is a group from before, with the row behind its own if the row
has its key, or it is the new group of the row. -/
theorem mem_addToGroups (hnodup : (groups.map Group.key).Nodup) (h : g ∈ addToGroups row groups) :
    (∃ old ∈ groups, g.key = old.key ∧
      g.rows = if groupKey row = old.key then old.rows ++ [row] else old.rows) ∨
    (groupKey row ∉ groups.map Group.key ∧ g.key = groupKey row ∧ g.rows = [row]) := by
  induction groups with
  | nil =>
      rw [addToGroups, List.mem_singleton] at h
      subst h
      exact Or.inr ⟨by simp, rfl, rfl⟩
  | cons first rest ih =>
      obtain ⟨hfirst, hrest⟩ := List.nodup_cons.mp hnodup
      rw [addToGroups] at h
      by_cases hkey : first.key = groupKey row
      · rw [if_pos hkey] at h
        rcases List.mem_cons.mp h with rfl | hmem
        · exact Or.inl ⟨first, List.mem_cons_self, rfl, by rw [if_pos hkey.symm]; rfl⟩
        · have hne : groupKey row ≠ g.key := by
            intro heq
            exact hfirst (hkey.trans heq ▸ List.mem_map_of_mem hmem)
          exact Or.inl ⟨g, List.mem_cons_of_mem _ hmem, rfl, by rw [if_neg hne]⟩
      · rw [if_neg hkey] at h
        rcases List.mem_cons.mp h with rfl | hmem
        · exact Or.inl ⟨g, List.mem_cons_self, rfl, by rw [if_neg (Ne.symm hkey)]⟩
        · rcases ih hrest hmem with ⟨old, hold, hkeys, hrows⟩ | ⟨hnew, hkeys, hrows⟩
          · exact Or.inl ⟨old, List.mem_cons_of_mem _ hold, hkeys, hrows⟩
          · exact Or.inr ⟨by simpa [Ne.symm hkey] using hnew, hkeys, hrows⟩

/-- One more row, and the groups are those of one more row. -/
theorem grouped_addToGroups (h : Grouped rows groups) (row : Row) :
    Grouped (rows ++ [row]) (addToGroups row groups) where
  distinct := by
    rw [keys_addToGroups]
    split
    · exact h.distinct
    · next hnew =>
      exact List.nodup_append.mpr ⟨h.distinct, List.nodup_singleton _, by
        rintro key hkey other hother rfl
        exact hnew (List.mem_singleton.mp hother ▸ hkey)⟩
  covers := by
    intro key
    rw [keys_addToGroups]
    have hcovers := h.covers key
    split
    · next hold =>
      rw [hcovers]
      constructor
      · rintro ⟨r, hr, hkey⟩
        exact ⟨r, List.mem_append_left _ hr, hkey⟩
      · rintro ⟨r, hr, hkey⟩
        rcases List.mem_append.mp hr with hr | hr
        · exact ⟨r, hr, hkey⟩
        · rw [List.mem_singleton.mp hr] at hkey
          exact hcovers.mp (hkey ▸ hold)
    · simp only [List.mem_append, hcovers, List.mem_singleton, or_and_right, exists_or,
        exists_eq_left]
      exact or_congr Iff.rfl eq_comm
  holds := by
    intro g hg
    rw [List.filter_append]
    rcases mem_addToGroups h.distinct hg with ⟨old, hold, hkey, hrows⟩ | ⟨hnew, hkey, hrows⟩
    · rw [hrows, h.holds old hold, hkey]
      by_cases hrow : groupKey row = old.key
      · rw [if_pos hrow, List.filter_cons_of_pos (by simpa using hrow), List.filter_nil]
      · rw [if_neg hrow, List.filter_cons_of_neg (by simpa using hrow), List.filter_nil,
          List.append_nil]
    · have hnone : (rows.filter fun r => groupKey r = g.key) = [] := by
        refine List.filter_eq_nil_iff.mpr fun r hr => ?_
        simp only [decide_eq_true_eq]
        intro heq
        exact hnew ((h.covers _).mpr ⟨r, hr, heq.trans hkey⟩)
      rw [hrows, hnone, List.nil_append, List.filter_cons_of_pos (by simp [hkey]), List.filter_nil]

/-- The groups of a type are those of its current rows. -/
theorem grouped_groups (store : Store) (benchmarkType : String) :
    Grouped (store.currentRows benchmarkType) (store.groups benchmarkType) := by
  have hfoldl : ∀ (more rows : List Row) (groups : List Group), Grouped rows groups →
      Grouped (rows ++ more) (more.foldl (fun groups row => addToGroups row groups) groups) := by
    intro more
    induction more with
    | nil =>
        intro rows groups h
        rwa [List.append_nil]
    | cons row rest ih =>
        intro rows groups h
        rw [List.foldl_cons, List.append_cons]
        exact ih _ _ (grouped_addToGroups h row)
  exact hfoldl (store.currentRows benchmarkType) [] [] ⟨List.nodup_nil, by simp, by simp⟩

end Store

/-! ## Samples -/

/-- A draw is a permutation. -/
theorem Draw.order_perm {α : Type} (draw : Draw) (xs : List α) : (draw.order xs).Perm xs := by
  induction draw generalizing xs with
  | nil => cases xs <;> exact List.Perm.refl _
  | cons choice rest ih =>
      cases xs with
      | nil => exact List.Perm.refl _
      | cons x xs =>
          have hplace : choice % (xs.length + 1) < (x :: xs).length := Nat.mod_lt _ (by simp)
          simp only [Draw.order, List.getElem?_eq_getElem hplace]
          exact ((ih _).cons _).trans (List.getElem_cons_eraseIdx_perm hplace)

/-- A group as one result. -/
def Group.result (g : Group) : GroupedResult :=
  { g.first.toMeasurement with
    result := g.average
    cpuText := g.first.cpuText }

/-- Every column that is read reaches the field it is meant for: a group has a result if its average
is a number, and the result has the other columns of the first row. -/
theorem Group.result?_eq_ite (g : Group) :
    g.result? = if g.average.isNaN then none else some g.result := by
  simp only [Group.result?, Group.cell, Cell.computed, Group.result]
  generalize g.average = average
  -- a flag comes back only when it is known which one it is
  obtain ⟨⟨_, _, _, _, _, _, _, _, _, _, _, _, _, _, _, _, _, _, fromSuperUser, legacy⟩, _, _, _, _⟩ :=
    g.first
  cases average.isNaN with
  | true => rfl
  | false => cases fromSuperUser <;> cases legacy <;> rfl

/-- A group whose average is a number has a result. -/
theorem Group.result?_eq (h : g.average.isNaN = false) : g.result? = some g.result := by
  rw [g.result?_eq_ite, h]
  rfl

namespace Store

/-- Groups whose averages are numbers have results. -/
theorem resultsOf_eq (h : ∀ g ∈ groups, g.average.isNaN = false) :
    resultsOf groups = some (groups.map Group.result) := by
  induction groups with
  | nil => rfl
  | cons g rest ih =>
      have hg := Group.result?_eq (h g List.mem_cons_self)
      have hrest := ih fun other hother => h other (List.mem_cons_of_mem _ hother)
      simp only [resultsOf, hg, hrest, List.map_cons]

/-- A sample with room for all groups holds all of them, in some order. -/
theorem sample_eq {store : Store} {benchmarkType : String} {limit : Nat} (draw : Draw)
    (hroom : (store.groups benchmarkType).length ≤ limit)
    (hdefined : ∀ g ∈ store.groups benchmarkType, g.average.isNaN = false) :
    store.sample draw benchmarkType limit =
      .ok ((draw.order (store.groups benchmarkType)).map Group.result) := by
  have hperm := draw.order_perm (store.groups benchmarkType)
  have htake : (draw.order (store.groups benchmarkType)).take limit =
      draw.order (store.groups benchmarkType) :=
    List.take_of_length_le (hperm.length_eq ▸ hroom)
  rw [sample, htake, resultsOf_eq fun g hg => hdefined g (hperm.mem_iff.mp hg)]

end Store

end BenchDepot
