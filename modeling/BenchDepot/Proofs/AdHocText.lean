import BenchDepot.Cpu.Config
import BenchDepot.Proofs.Cutting
import Mathlib.Algebra.BigOperators.Group.Finset.Basic
import Mathlib.Algebra.Order.BigOperators.Group.Finset

/-!
# The ad-hoc text of a configuration, read again

A configuration is read back from its ad-hoc text exactly if all its labels are clean.  Reading
leaves a clean label as it is.  It never gives a label with a separator, so that a configuration
with such a label is not read back; and of a label without separators it leaves a part, which is
shorter unless the label is clean.  Labels that are not clean could still become one another, but
then they would all be as long as before.

* `separatorFree_of_mem_keys` — reading gives no label with a separator;
* `ofAdHoc_adHoc` — what is read from the text of a configuration without separators;
* `ofAdHoc_adHoc_eq_iff` — when a configuration is read back.
-/

namespace BenchDepot.Cpu

namespace AdHoc

/-- A label without the characters that ad-hoc text keeps for itself. -/
structure SeparatorFree (label : String) : Prop where
  noCross : 'x' ∉ label.toList
  noPlus : '+' ∉ label.toList
  noComma : ',' ∉ label.toList

/-- A label that ad-hoc text spells as it is. -/
structure Clean (label : String) : Prop extends SeparatorFree label where
  trimmed : Text.trim label.toList = label.toList
  noLatinUnit : ¬latinUnit <:+: label.toList
  noCyrillicUnit : ¬cyrillicUnit <:+: label.toList

/-- What reading leaves of a label: neither units nor blanks around it. -/
def settle (label : List Char) : List Char :=
  Text.trim (Text.remove latinUnit (Text.remove cyrillicUnit label))

/-! ## Labels -/

theorem settle_sublist (label : List Char) : (settle label).Sublist label :=
  (Text.trim_sublist _).trans ((Text.remove_sublist _ _).trans (Text.remove_sublist _ _))

/-- Reading leaves all of a label exactly if there are no units in it and no blanks around it. -/
theorem settle_eq_self_iff (label : List Char) : settle label = label ↔
    Text.trim label = label ∧ ¬latinUnit <:+: label ∧ ¬cyrillicUnit <:+: label := by
  have hlatin : latinUnit ≠ [] := by decide
  have hcyrillic : cyrillicUnit ≠ [] := by decide
  constructor
  · intro h
    have houter := Text.trim_sublist (Text.remove latinUnit (Text.remove cyrillicUnit label))
    have hmiddle := Text.remove_sublist latinUnit (Text.remove cyrillicUnit label)
    have hinner := Text.remove_sublist cyrillicUnit label
    rw [show Text.trim _ = label from h] at houter
    -- each step keeps a part, and the last part is everything
    have hfirst : Text.remove cyrillicUnit label = label :=
      hinner.antisymm (houter.trans hmiddle)
    have hsecond : Text.remove latinUnit label = label := by
      rw [hfirst] at houter hmiddle
      exact hmiddle.antisymm houter
    rw [settle, hfirst, hsecond] at h
    exact ⟨h, (Text.remove_eq_self_iff hlatin).mp hsecond,
      (Text.remove_eq_self_iff hcyrillic).mp hfirst⟩
  · rintro ⟨htrim, hnoLatin, hnoCyrillic⟩
    rw [settle, (Text.remove_eq_self_iff hcyrillic).mpr hnoCyrillic,
      (Text.remove_eq_self_iff hlatin).mpr hnoLatin, htrim]

theorem clean_iff (label : String) :
    Clean label ↔ SeparatorFree label ∧ settle label.toList = label.toList := by
  rw [settle_eq_self_iff]
  constructor
  · intro h
    exact ⟨h.toSeparatorFree, h.trimmed, h.noLatinUnit, h.noCyrillicUnit⟩
  · rintro ⟨hfree, htrim, hlatin, hcyrillic⟩
    exact ⟨hfree, htrim, hlatin, hcyrillic⟩

/-! ## Entries -/

theorem isBlank_of_isDigit {c : Char} (h : c.isDigit = true) : Text.isBlank c = false := by
  have hrange : 48 ≤ c.toNat ∧ c.toNat ≤ 57 := by
    simpa [Char.isDigit, UInt32.le_iff_toNat_le] using h
  simp only [Text.isBlank, Text.inRanges, Text.blankRanges, List.any_cons, List.any_nil,
    Bool.or_false, Bool.or_eq_false_iff, Bool.and_eq_false_iff, decide_eq_false_iff_not]
  omega

/-- Digits are read as the number they spell, if it fits. -/
theorem count?_of_digits {cs : List Char} (hne : cs ≠ [])
    (hdigits : ∀ c ∈ cs, c.isDigit = true) : count? cs =
      if Nat.ofDigitChars 10 cs 0 < UInt32.size then
        some (UInt32.ofNat (Nat.ofDigitChars 10 cs 0))
      else none := by
  have hall : cs.all Char.isDigit = true := List.all_eq_true.mpr hdigits
  have hempty : cs.isEmpty = false := by simpa using hne
  unfold count?
  split
  · exact absurd (hdigits '+' List.mem_cons_self) (by decide)
  · simp only [hall, hempty, Bool.not_false, Bool.and_self, if_true]

theorem isDigit_of_mem_toDigits {n : Nat} {c : Char} (h : c ∈ Nat.toDigits 10 n) :
    c.isDigit = true :=
  Nat.isDigit_of_mem_toDigits (by decide) (by decide) h

/-- Digits that spell a count are read as the count. -/
theorem count?_of_value {digits : List Char} {n : UInt32} (hne : digits ≠ [])
    (hdigits : ∀ c ∈ digits, c.isDigit = true) (hvalue : Nat.ofDigitChars 10 digits 0 = n.toNat) :
    count? digits = some n := by
  rw [count?_of_digits hne hdigits, hvalue, if_pos n.toNat_lt_size, UInt32.ofNat_toNat]

/-- An entry with a count: the blanks around the label are not part of it. -/
theorem entry_of_digits {digits rest : List Char} {n : UInt32} (hne : digits ≠ [])
    (hdigits : ∀ c ∈ digits, c.isDigit = true) (hvalue : Nat.ofDigitChars 10 digits 0 = n.toNat)
    (hrest : 'x' ∉ rest) : entry (digits ++ 'x' :: rest) = (String.ofList (Text.trim rest), n) := by
  have hcount := count?_of_value hne hdigits hvalue
  have hcut : 'x' ∉ digits := fun hmem => absurd (hdigits 'x' hmem) (by decide)
  have hend : 'x' ∉ Text.trimEnd rest := fun hmem =>
    hrest ((List.rdropWhile_prefix Text.isBlank (l := rest)).subset hmem)
  cases digits with
  | nil => exact absurd rfl hne
  | cons d digits =>
      have hd : Text.isBlank d = false := isBlank_of_isDigit (hdigits d List.mem_cons_self)
      have hpieces : Text.pieces 'x' (Text.trim (d :: digits ++ 'x' :: rest)) =
          [d :: digits, Text.trimEnd rest] := by
        rw [List.cons_append, Text.trim_cons_append_cons hd (by decide), ← List.cons_append,
          Text.pieces_append_cons hcut, Text.pieces_of_notMem hend]
      rw [entry, hpieces]
      simp only [hcount, Option.getD_some, Text.trim_trimEnd]

theorem entry_counted (n : UInt32) {rest : List Char} (hrest : 'x' ∉ rest) :
    entry (Nat.toDigits 10 n.toNat ++ 'x' :: rest) = (String.ofList (Text.trim rest), n) :=
  entry_of_digits Nat.toDigits_ne_nil (fun _ => isDigit_of_mem_toDigits)
    Nat.ofDigitChars_ten_toDigits hrest

/-- Blanks around an entry are not part of it. -/
theorem entry_trim (cs : List Char) : entry (Text.trim cs) = entry cs := by
  rw [entry, entry, Text.trim_idem]

theorem map_entry_map_trim (parts : List (List Char)) :
    (parts.map Text.trim).map entry = parts.map entry := by
  rw [List.map_map]
  exact List.map_congr_left fun cs _ => entry_trim cs

/-- A text may be trimmed before its entries are read. -/
theorem map_entry_pieces_trim (cs : List Char) :
    (Text.pieces '+' (Text.trim cs)).map entry = (Text.pieces '+' cs).map entry := by
  rw [← map_entry_map_trim, Text.map_trim_pieces_trim (by decide), map_entry_map_trim]

/-- No entry gives a label with a separator. -/
theorem separatorFree_entry {cs : List Char} (hplus : '+' ∉ cs) (hcomma : ',' ∉ cs) :
    SeparatorFree (entry cs).1 := by
  -- the label is part of one of the pieces between the crosses
  have hlabel : ∃ piece ∈ Text.pieces 'x' (Text.trim cs),
      ((entry cs).1.toList).Sublist piece := by
    unfold entry
    split
    · next count label hpieces =>
      refine ⟨label, by rw [hpieces]; simp, ?_⟩
      rw [String.toList_ofList]
      exact Text.trim_sublist label
    · next label more _ hpieces =>
      refine ⟨label, by rw [hpieces]; simp, ?_⟩
      rw [String.toList_ofList]
    · next hpieces => exact absurd hpieces (Text.pieces_ne_nil _ _)
  obtain ⟨piece, hpiece, hsub⟩ := hlabel
  obtain ⟨hcross, hpart⟩ := Text.notMem_of_mem_pieces hpiece
  have hall : ∀ c ∈ (entry cs).1.toList, c ∈ cs := fun c hc =>
    (Text.trim_sublist cs).subset (hpart.subset (hsub.subset hc))
  exact ⟨fun h => hcross (hsub.subset h), fun h => hplus (hall _ h), fun h => hcomma (hall _ h)⟩

theorem comma_notMem_normalize (cs : List Char) : ',' ∉ normalize cs := by
  intro h
  have hpointed := (Text.remove_sublist _ _).subset
    ((Text.remove_sublist _ _).subset ((Text.trim_sublist _).subset h))
  obtain ⟨c, _, hc⟩ := List.mem_map.mp hpointed
  split at hc
  · cases hc
  · next hne => exact hne hc

/-! ## Whole texts -/

/-- What an entry comes to before it is read: the units are gone. -/
def bare (entry : String × UInt32) : List Char :=
  Nat.toDigits 10 entry.2.toNat ++ 'x' :: ' ' ::
    (Text.remove latinUnit (Text.remove cyrillicUnit entry.1.toList) ++ [' '])

/-- A unit is removed from the label of an entry, and from what stands behind the label. -/
theorem remove_counted {word : List Char} (hword : word ≠ []) (hcross : 'x' ∉ word)
    (hspace : ' ' ∉ word) {c : Char} (hc : c ∈ word) (hdigit : c.isDigit = false) (n : Nat)
    (label rest : List Char) :
    Text.remove word (Nat.toDigits 10 n ++ 'x' :: ' ' :: (label ++ ' ' :: rest)) =
      Nat.toDigits 10 n ++ 'x' :: ' ' :: (Text.remove word label ++ ' ' :: Text.remove word rest) := by
  have hdigits : c ∉ Nat.toDigits 10 n := by
    intro hmem
    rw [isDigit_of_mem_toDigits hmem] at hdigit
    cases hdigit
  rw [Text.remove_append_cons hword hcross, Text.remove_of_notMem hc hdigits,
    Text.remove_cons_of_notMem hword hspace, Text.remove_append_cons hword hspace]

theorem remove_item (e : String × UInt32) :
    Text.remove latinUnit (Text.remove cyrillicUnit (item e.1 e.2)) = bare e := by
  have hcyrillic := @remove_counted cyrillicUnit (by decide) (by decide) (by decide) 'ц'
    (by decide) (by decide)
  have hlatin := @remove_counted latinUnit (by decide) (by decide) (by decide) 'z'
    (by decide) (by decide)
  have hunit : Text.remove cyrillicUnit latinUnit = latinUnit := by decide
  have hgone : Text.remove latinUnit latinUnit = [] := by decide
  rw [item, hcyrillic, hunit, hlatin, hgone, bare]

theorem normalize_join {entries : List (String × UInt32)}
    (h : ∀ e ∈ entries, SeparatorFree e.1) :
    normalize (Text.join separator (entries.map fun e => item e.1 e.2)) =
      Text.trim (Text.join separator (entries.map bare)) := by
  have hcomma : ',' ∉ Text.join separator (entries.map fun e => item e.1 e.2) := by
    intro hmem
    rcases Text.mem_join hmem with hsep | ⟨part, hpart, hin⟩
    · revert hsep
      decide
    · obtain ⟨e, he, rfl⟩ := List.mem_map.mp hpart
      have hfree := (h e he).noComma
      have hdigits : ',' ∉ Nat.toDigits 10 e.2.toNat := fun hc =>
        absurd (isDigit_of_mem_toDigits hc) (by decide)
      simp [item, latinUnit, hfree, hdigits] at hin
  have hpointed : (Text.join separator (entries.map fun e => item e.1 e.2)).map
      (fun c => if c = ',' then '.' else c) =
        Text.join separator (entries.map fun e => item e.1 e.2) := by
    have hsame : ∀ c ∈ Text.join separator (entries.map fun e => item e.1 e.2),
        (if c = ',' then '.' else c) = c := by
      intro c hc
      have hne : c ≠ ',' := by
        rintro rfl
        exact hcomma hc
      rw [if_neg hne]
    rw [List.map_congr_left hsame, List.map_id']
  have hremove : ∀ word : List Char, word ≠ [] → (∀ c ∈ separator, c ∉ word) →
      ∀ parts, Text.remove word (Text.join separator parts) =
        Text.join separator (parts.map (Text.remove word)) :=
    fun word hword hsep parts => Text.remove_join hword hsep parts
  have hcyrillic : ∀ c ∈ separator, c ∉ cyrillicUnit := by simp [separator, cyrillicUnit]
  have hlatin : ∀ c ∈ separator, c ∉ latinUnit := by simp [separator, latinUnit]
  rw [normalize, hpointed, hremove cyrillicUnit (by decide) hcyrillic,
    hremove latinUnit (by decide) hlatin, List.map_map, List.map_map]
  exact congrArg (fun parts => Text.trim (Text.join separator parts))
    (List.map_congr_left fun e _ => remove_item e)

/-- Reading an entry leaves its count, and of its label what it leaves of any. -/
theorem entry_bare {e : String × UInt32} (h : SeparatorFree e.1) :
    entry (bare e) = (String.ofList (settle e.1.toList), e.2) := by
  have hsub := (Text.remove_sublist latinUnit _).trans
    (Text.remove_sublist cyrillicUnit e.1.toList)
  have hlabel := mt (fun hmem => hsub.subset hmem) h.noCross
  have hcross : 'x' ∉ ' ' ::
      (Text.remove latinUnit (Text.remove cyrillicUnit e.1.toList) ++ [' ']) := by
    simp [hlabel]
  rw [bare, entry_counted e.2 hcross, Text.trim_cons_of_blank (by decide),
    Text.trim_append_of_blank (by decide), settle]

theorem plus_notMem_bare {e : String × UInt32} (h : SeparatorFree e.1) : '+' ∉ bare e := by
  have hsub := (Text.remove_sublist latinUnit _).trans
    (Text.remove_sublist cyrillicUnit e.1.toList)
  have hlabel := mt (fun hmem => hsub.subset hmem) h.noPlus
  have hdigits : '+' ∉ Nat.toDigits 10 e.2.toNat := fun hc =>
    absurd (isDigit_of_mem_toDigits hc) (by decide)
  simp [bare, hdigits, hlabel]

/-- Reading gives back the entries of a joined text, with their labels settled. -/
theorem map_entry_pieces {entries : List (String × UInt32)} (hne : entries ≠ [])
    (h : ∀ e ∈ entries, SeparatorFree e.1) :
    (Text.pieces '+' (Text.trim (Text.join separator (entries.map bare)))).map entry =
      entries.map fun e => (String.ofList (settle e.1.toList), e.2) := by
  have hplus : ∀ part ∈ entries.map bare, '+' ∉ part := by
    intro part hpart
    obtain ⟨e, he, rfl⟩ := List.mem_map.mp hpart
    exact plus_notMem_bare (h e he)
  have hpieces : (Text.pieces '+' (Text.join separator (entries.map bare))).map Text.trim =
      (entries.map bare).map Text.trim :=
    Text.map_trim_pieces_join (by decide) (by decide) (by simpa using hne) hplus
  calc (Text.pieces '+' (Text.trim (Text.join separator (entries.map bare)))).map entry
      = ((Text.pieces '+' (Text.join separator (entries.map bare))).map Text.trim).map entry := by
        rw [map_entry_pieces_trim, map_entry_map_trim]
    _ = (entries.map bare).map entry := by rw [hpieces, map_entry_map_trim]
    _ = entries.map fun e => (String.ofList (settle e.1.toList), e.2) := by
        rw [List.map_map]
        exact List.map_congr_left fun e he => entry_bare (h e he)

end AdHoc

namespace Config

open AdHoc

variable {config : Config}

/-- Reading gives no label with a separator. -/
theorem separatorFree_of_mem_keys {text label : String} (h : label ∈ (ofAdHoc text).keys) :
    SeparatorFree label := by
  unfold ofAdHoc at h
  dsimp only at h
  split at h
  · cases h
  · obtain ⟨count, hpair⟩ := (TextMap.mem_keys_ofList _ _).mp h
    obtain ⟨piece, hpiece, heq⟩ := List.mem_map.mp hpair
    obtain ⟨hplus, hpart⟩ := Text.notMem_of_mem_pieces hpiece
    have hfree := separatorFree_entry hplus fun hmem =>
      comma_notMem_normalize text.toList (hpart.subset hmem)
    rw [heq] at hfree
    exact hfree

theorem mem_keys_iff_sorted {label : String} :
    label ∈ config.keys ↔ ∃ e ∈ config.sorted, e.1 = label := by
  have hperm : config.sorted.Perm config.entries := List.mergeSort_perm _ _
  rw [TextMap.keys, List.mem_map]
  simp only [hperm.mem_iff]

/-- What is read from the text of a configuration without separators: reading settles each of its
labels. -/
theorem ofAdHoc_adHoc (h : ∀ label ∈ config.keys, SeparatorFree label) :
    ofAdHoc config.adHoc =
      TextMap.ofList (config.sorted.map fun e => (String.ofList (settle e.1.toList), e.2)) := by
  have hfree : ∀ e ∈ config.sorted, SeparatorFree e.1 := fun e he =>
    h e.1 (mem_keys_iff_sorted.mpr ⟨e, he, rfl⟩)
  have hnormal := normalize_join hfree
  have htext : config.adHoc.toList =
      Text.join separator (config.sorted.map fun e => item e.1 e.2) := String.toList_ofList
  rw [ofAdHoc, htext, hnormal]
  cases hsorted : config.sorted with
  | nil => rfl
  | cons first rest =>
      rw [hsorted] at hfree
      have hfirst : 'x' ∈ Text.trim (Text.join separator ((first :: rest).map bare)) := by
        have hmem : 'x' ∈ bare first := by simp [bare]
        exact Text.mem_trim (by decide)
          (Text.mem_join_of_mem (List.mem_map_of_mem List.mem_cons_self) hmem)
      have hempty : (Text.trim (Text.join separator ((first :: rest).map bare))).isEmpty = false :=
        List.isEmpty_eq_false_iff.mpr (List.ne_nil_of_mem hfirst)
      rw [hempty, if_neg Bool.false_ne_true, map_entry_pieces (by simp) hfree]

/-- Reading that gives back all labels settles none of them to a shorter one. -/
theorem settle_eq_self_of_keys (h : ∀ label ∈ config.keys, ∃ other ∈ config.keys,
    String.ofList (settle other.toList) = label) :
    ∀ label ∈ config.keys, settle label.toList = label.toList := by
  let settled (label : String) : String := String.ofList (settle label.toList)
  have hsettled : ∀ label, (settled label).toList = settle label.toList :=
    fun _ => String.toList_ofList
  have himage : config.keys.toFinset.image settled = config.keys.toFinset := by
    refine (Finset.eq_of_subset_of_card_le ?_ Finset.card_image_le).symm
    intro label hlabel
    obtain ⟨other, hother, heq⟩ := h label (List.mem_toFinset.mp hlabel)
    exact Finset.mem_image.mpr ⟨other, List.mem_toFinset.mpr hother, heq⟩
  have hinj := Finset.injOn_of_card_image_eq (congrArg Finset.card himage)
  have hle : ∀ label ∈ config.keys.toFinset,
      (settled label).toList.length ≤ label.toList.length := by
    intro label _
    rw [hsettled]
    exact (settle_sublist label.toList).length_le
  -- the settled labels are the labels again, so that together they are as long as before
  have hsum := Finset.sum_image (f := fun label => label.toList.length) hinj
  rw [himage] at hsum
  intro label hlabel
  have hlength := (Finset.sum_eq_sum_iff_of_le hle).mp hsum.symm label
    (List.mem_toFinset.mpr hlabel)
  rw [hsettled] at hlength
  exact (settle_sublist label.toList).eq_of_length hlength

/-- A configuration is read back from its ad-hoc text exactly if all its labels are clean. -/
theorem ofAdHoc_adHoc_eq_iff (config : Config) :
    ofAdHoc config.adHoc = config ↔ ∀ label ∈ config.keys, Clean label := by
  constructor
  · intro h label hlabel
    have hfree : ∀ label ∈ config.keys, SeparatorFree label := by
      rw [← h]
      exact fun _ => separatorFree_of_mem_keys
    rw [ofAdHoc_adHoc hfree] at h
    refine (clean_iff label).mpr ⟨hfree label hlabel, settle_eq_self_of_keys ?_ label hlabel⟩
    intro label hlabel
    rw [← h] at hlabel
    obtain ⟨count, hpair⟩ := (TextMap.mem_keys_ofList _ _).mp hlabel
    obtain ⟨e, he, heq⟩ := List.mem_map.mp hpair
    exact ⟨e.1, mem_keys_iff_sorted.mpr ⟨e, he, rfl⟩, congrArg Prod.fst heq⟩
  · intro h
    have hsettled : config.sorted.map (fun e => (String.ofList (settle e.1.toList), e.2)) =
        config.sorted := by
      have hsame : ∀ e ∈ config.sorted, (String.ofList (settle e.1.toList), e.2) = e := by
        intro e he
        have hclean := h e.1 (mem_keys_iff_sorted.mpr ⟨e, he, rfl⟩)
        rw [((clean_iff e.1).mp hclean).2, String.ofList_toList]
      rw [List.map_congr_left hsame, List.map_id']
    rw [ofAdHoc_adHoc fun label hlabel => (h label hlabel).toSeparatorFree, hsettled]
    exact TextMap.ofList_of_perm (List.mergeSort_perm _ _)

end Config

end BenchDepot.Cpu
