import BenchDepot.Text.Blank
import BenchDepot.Text.Cut
import Mathlib.Data.List.DropRight

/-!
# Cutting and joining

What was joined with separators is cut into the same parts again, and a text may be trimmed before
it is cut as long as its pieces are trimmed afterwards.  Removing a word never lengthens a text, and
removes nothing exactly where the word does not occur; a character that the word does not have
keeps what stands before it apart from what stands behind it.

* `remove_eq_self_iff`, `remove_append_cons` — removing a word;
* `trim_cons_append_cons`, `trim_idem` — trimming;
* `map_trim_pieces_trim`, `map_trim_pieces_join` — trimmed pieces.
-/

namespace BenchDepot.Text

variable {c sep b : Char} {cs ds word piece : List Char} {parts : List (List Char)}

/-! ## Removing a word -/

theorem removeFrom_sublist (word : List Char) (skip : Nat) (cs : List Char) :
    (removeFrom word skip cs).Sublist cs := by
  induction cs generalizing skip with
  | nil => simp [removeFrom]
  | cons c rest ih =>
      cases skip with
      | succ skip =>
          simp only [removeFrom]
          exact (ih skip).cons c
      | zero =>
          simp only [removeFrom]
          split
          · exact (ih _).cons c
          · exact (ih 0).cons_cons c

theorem remove_sublist (word cs : List Char) : (remove word cs).Sublist cs :=
  removeFrom_sublist word 0 cs

/-- A word that does not occur is removed nowhere. -/
theorem remove_of_not_infix (h : ¬word <:+: cs) : remove word cs = cs := by
  induction cs with
  | nil => rfl
  | cons c rest ih =>
      have hhead : word.isPrefixOf (c :: rest) = false := by
        apply eq_false_of_ne_true
        intro hpre
        exact h (List.isPrefixOf_iff_prefix.mp hpre).isInfix
      have hrest : ¬word <:+: rest := fun hin => h (hin.trans (List.suffix_cons c rest).isInfix)
      rw [remove, removeFrom, hhead, if_neg Bool.false_ne_true]
      exact congrArg (c :: ·) (ih hrest)

/-- A word that occurs is removed somewhere. -/
theorem length_remove_lt (hword : word ≠ []) (h : word <:+: cs) :
    (remove word cs).length < cs.length := by
  induction cs with
  | nil => exact absurd (List.infix_nil.mp h) hword
  | cons c rest ih =>
      rw [remove, removeFrom]
      split
      · have hle := (removeFrom_sublist word (word.length - 1) rest).length_le
        rw [List.length_cons]
        omega
      · next hhead =>
        have hrest : word <:+: rest := by
          rcases List.infix_cons_iff.mp h with hpre | hin
          · exact absurd (List.isPrefixOf_iff_prefix.mpr hpre) hhead
          · exact hin
        have hlt := ih hrest
        rw [remove] at hlt
        rw [List.length_cons, List.length_cons]
        omega

/-- Removing a word leaves a text alone exactly where the word does not occur. -/
theorem remove_eq_self_iff (hword : word ≠ []) : remove word cs = cs ↔ ¬word <:+: cs := by
  constructor
  · intro heq hin
    have hlt := length_remove_lt hword hin
    rw [heq] at hlt
    exact Nat.lt_irrefl _ hlt
  · exact remove_of_not_infix

/-- A text without one of the characters of a word does not hold the word. -/
theorem remove_of_notMem (hc : c ∈ word) (h : c ∉ cs) : remove word cs = cs :=
  remove_of_not_infix fun hin => h (hin.subset hc)

/-- A prefix without a character ends before that character. -/
theorem prefix_of_prefix_append_cons (cs : List Char) (hc : c ∉ word)
    (h : word <+: cs ++ c :: ds) : word <+: cs := by
  have hcut : cs ++ [c] <+: cs ++ c :: ds := ⟨ds, by simp⟩
  rcases List.prefix_or_prefix_of_prefix h hcut with hword | hlong
  · rcases List.prefix_concat_iff.mp hword with rfl | hpre
    · simp at hc
    · exact hpre
  · exact absurd (hlong.subset (by simp)) hc

theorem removeFrom_append_cons (hword : word ≠ []) (hc : c ∉ word) {skip : Nat}
    (hskip : skip ≤ cs.length) (ds : List Char) :
    removeFrom word skip (cs ++ c :: ds) = removeFrom word skip cs ++ c :: remove word ds := by
  -- what is still to be skipped lies in `cs`: a word that starts there ends before `c`
  induction cs generalizing skip with
  | nil =>
      obtain rfl : skip = 0 := Nat.le_zero.mp hskip
      have hhead : word.isPrefixOf (c :: ds) = false := by
        apply eq_false_of_ne_true
        intro hpre
        have hnil := prefix_of_prefix_append_cons [] hc (List.isPrefixOf_iff_prefix.mp hpre)
        exact hword (List.prefix_nil.mp hnil)
      simp only [List.nil_append, removeFrom, hhead, Bool.false_eq_true, if_false, remove]
  | cons a rest ih =>
      cases skip with
      | succ skip =>
          rw [List.length_cons] at hskip
          simp only [List.cons_append, removeFrom]
          exact ih (by omega)
      | zero =>
          have hlength : word.isPrefixOf (a :: rest) = true →
              word.length - 1 ≤ rest.length := by
            intro hpre
            have hle := (List.isPrefixOf_iff_prefix.mp hpre).length_le
            rw [List.length_cons] at hle
            omega
          have hhead : word.isPrefixOf (a :: (rest ++ c :: ds)) = word.isPrefixOf (a :: rest) := by
            rw [Bool.eq_iff_iff, List.isPrefixOf_iff_prefix, List.isPrefixOf_iff_prefix]
            constructor
            · exact prefix_of_prefix_append_cons (a :: rest) hc
            · intro hpre
              exact hpre.trans ⟨c :: ds, rfl⟩
          simp only [List.cons_append, removeFrom, hhead]
          split
          · next hpre => exact ih (hlength hpre)
          · rw [ih (Nat.zero_le _), List.cons_append]

/-- A character that a word does not have keeps apart what stands on its two sides. -/
theorem remove_append_cons (hword : word ≠ []) (hc : c ∉ word) (cs ds : List Char) :
    remove word (cs ++ c :: ds) = remove word cs ++ c :: remove word ds :=
  removeFrom_append_cons hword hc (Nat.zero_le _) ds

theorem remove_cons_of_notMem (hword : word ≠ []) (hc : c ∉ word) (ds : List Char) :
    remove word (c :: ds) = c :: remove word ds :=
  remove_append_cons hword hc [] ds

/-- What has no character of a word stays in front of a text. -/
theorem remove_append_of_apart (hword : word ≠ []) (hcs : ∀ c ∈ cs, c ∉ word) (ds : List Char) :
    remove word (cs ++ ds) = cs ++ remove word ds := by
  induction cs with
  | nil => rfl
  | cons c rest ih =>
      have hrest := ih fun d hd => hcs d (List.mem_cons_of_mem _ hd)
      rw [List.cons_append, remove_cons_of_notMem hword (hcs c List.mem_cons_self), hrest,
        List.cons_append]

/-- Nor does it change behind one, where it ends what may be removed. -/
theorem remove_append_apart (hword : word ≠ []) (hds : ∀ c ∈ ds, c ∉ word) (cs : List Char) :
    remove word (cs ++ ds) = remove word cs ++ ds := by
  cases ds with
  | nil => rw [List.append_nil, List.append_nil]
  | cons d rest =>
      have hrest : remove word rest = rest := by
        have happend := remove_append_of_apart hword
          (fun c hc => hds c (List.mem_cons_of_mem _ hc)) []
        rwa [List.append_nil, show remove word [] = [] from rfl, List.append_nil] at happend
      rw [remove_append_cons hword (hds d List.mem_cons_self), hrest]

theorem removeFrom_append_self (skipped cs : List Char) :
    removeFrom word skipped.length (skipped ++ cs) = remove word cs := by
  induction skipped with
  | nil => rfl
  | cons c rest ih => exact ih

/-- A word whose first letter is its only one of the kind is removed where it stands behind a text
in which it does not occur: it cannot start within the text and end within itself. -/
theorem remove_append_word {a : Char} {tail : List Char} (ha : a ∉ tail)
    (hcs : ¬a :: tail <:+: cs) (ds : List Char) :
    remove (a :: tail) (cs ++ (a :: tail ++ ds)) = cs ++ remove (a :: tail) ds := by
  induction cs with
  | nil =>
      have hhead : (a :: tail).isPrefixOf (a :: (tail ++ ds)) = true :=
        List.isPrefixOf_iff_prefix.mpr ⟨ds, rfl⟩
      rw [List.nil_append, List.nil_append, List.cons_append, remove, removeFrom, if_pos hhead]
      exact removeFrom_append_self tail ds
  | cons c rest ih =>
      have hrest := ih fun hin => hcs (hin.trans (List.suffix_cons c rest).isInfix)
      have hhead : (a :: tail).isPrefixOf (c :: (rest ++ (a :: tail ++ ds))) = false := by
        apply eq_false_of_ne_true
        intro hpre
        have hword : a :: tail <+: (c :: rest) ++ (a :: (tail ++ ds)) :=
          List.isPrefixOf_iff_prefix.mp hpre
        have hstart : (c :: rest) ++ [a] <+: (c :: rest) ++ (a :: (tail ++ ds)) :=
          ⟨tail ++ ds, by simp⟩
        rcases List.prefix_or_prefix_of_prefix hword hstart with hshort | hlong
        · rcases List.prefix_concat_iff.mp hshort with heq | hpre
          · -- the word would end with its own first letter
            have htail : tail = rest ++ [a] := (List.cons.inj heq).2
            exact ha (by simp [htail])
          · exact hcs hpre.isInfix
        · -- the word would hold its first letter again, behind what there is of the text
          obtain ⟨more, hmore⟩ := hlong
          have htail : tail = rest ++ a :: more := by
            have heq : c :: (rest ++ a :: more) = a :: tail := by rw [← hmore]; simp
            exact (List.cons.inj heq).2.symm
          exact ha (by simp [htail])
      rw [List.cons_append, remove, removeFrom, hhead, if_neg Bool.false_ne_true]
      exact congrArg (c :: ·) hrest

/-- A word is removed from the parts of a joined text, if the separator has none of its
characters. -/
theorem remove_join {between : List Char} (hword : word ≠ []) (hsep : ∀ c ∈ sep :: between, c ∉ word)
    (parts : List (List Char)) :
    remove word (join (sep :: between) parts) =
      join (sep :: between) (parts.map (remove word)) := by
  induction parts with
  | nil => rfl
  | cons part rest ih =>
      cases rest with
      | nil => simp [join]
      | cons next more =>
          simp only [join, List.map_cons, List.intercalate_cons_cons] at ih ⊢
          rw [List.append_assoc, List.cons_append,
            remove_append_cons hword (hsep sep List.mem_cons_self),
            remove_append_of_apart hword fun c hc => hsep c (List.mem_cons_of_mem _ hc), ih]
          simp

/-! ## Joining -/

/-- A character of a joined text is one of the separator or of a part. -/
theorem mem_join {between : List Char} (h : c ∈ join between parts) :
    c ∈ between ∨ ∃ part ∈ parts, c ∈ part := by
  induction parts with
  | nil => simp [join] at h
  | cons part rest ih =>
      cases rest with
      | nil =>
          rw [join, List.intercalate_singleton] at h
          exact Or.inr ⟨part, List.mem_cons_self, h⟩
      | cons next more =>
          rw [join, List.intercalate_cons_cons, List.append_assoc] at h
          rcases List.mem_append.mp h with hpart | hrest
          · exact Or.inr ⟨part, List.mem_cons_self, hpart⟩
          · rcases List.mem_append.mp hrest with hbetween | hmore
            · exact Or.inl hbetween
            · rcases ih hmore with hbetween | ⟨other, hother, hmem⟩
              · exact Or.inl hbetween
              · exact Or.inr ⟨other, List.mem_cons_of_mem _ hother, hmem⟩

/-- A character of a part is one of the joined text. -/
theorem mem_join_of_mem {between : List Char} (hpart : piece ∈ parts) (h : c ∈ piece) :
    c ∈ join between parts := by
  induction parts with
  | nil => simp at hpart
  | cons part rest ih =>
      cases rest with
      | nil =>
          rw [join, List.intercalate_singleton]
          rwa [← List.mem_singleton.mp hpart]
      | cons next more =>
          rw [join, List.intercalate_cons_cons]
          rcases List.mem_cons.mp hpart with rfl | hrest
          · simp [h]
          · exact List.mem_append_right _ (ih hrest)

/-- Replacing the characters of a joined text replaces those of its parts, if the separator has none
that change. -/
theorem map_join {between : List Char} {f : Char → Char} (hbetween : between.map f = between)
    (parts : List (List Char)) :
    (join between parts).map f = join between (parts.map (List.map f)) := by
  induction parts with
  | nil => rfl
  | cons part rest ih =>
      cases rest with
      | nil => simp [join]
      | cons next more =>
          simp only [join, List.map_cons, List.intercalate_cons_cons, List.map_append] at ih ⊢
          rw [hbetween, ih]

/-! ## Trimming -/

theorem trim_sublist (cs : List Char) : (trim cs).Sublist cs := by
  have hstart : (trimStart cs).Sublist cs := (List.dropWhile_suffix isBlank).sublist
  have hend : (trim cs).Sublist (trimStart cs) :=
    (List.rdropWhile_prefix isBlank (l := trimStart cs)).sublist
  exact hend.trans hstart

theorem trim_cons_of_blank (hb : isBlank b = true) (cs : List Char) : trim (b :: cs) = trim cs := by
  rw [trim, trim, trimStart, trimStart, List.dropWhile_cons_of_pos hb]

theorem trimEnd_append_of_blank (hb : isBlank b = true) (cs : List Char) :
    trimEnd (cs ++ [b]) = trimEnd cs :=
  List.rdropWhile_concat_pos isBlank cs b hb

theorem trim_append_of_blank (hb : isBlank b = true) (cs : List Char) :
    trim (cs ++ [b]) = trim cs := by
  rw [trim, trim, trimStart, trimStart, List.dropWhile_append]
  split
  · next hnil =>
    rw [List.isEmpty_iff.mp hnil, List.dropWhile_cons_of_pos hb, List.dropWhile_nil]
  · exact trimEnd_append_of_blank hb _

/-- Blanks around a text are trimmed. -/
theorem trim_append_blanks {before after : List Char} (hbefore : allBlank before = true)
    (hafter : allBlank after = true) (cs : List Char) :
    trim (before ++ (cs ++ after)) = trim cs := by
  have hend : trim (cs ++ after) = trim cs := by
    induction after using List.reverseRecOn with
    | nil => rw [List.append_nil]
    | append_singleton after b ih =>
        obtain ⟨hinit, hb⟩ : allBlank after = true ∧ isBlank b = true := by
          simpa [allBlank] using hafter
        rw [← List.append_assoc, trim_append_of_blank hb, ih hinit]
  induction before with
  | nil => exact hend
  | cons b rest ih =>
      obtain ⟨hb, hrest⟩ : isBlank b = true ∧ allBlank rest = true := by
        simpa [allBlank] using hbefore
      rw [List.cons_append, trim_cons_of_blank hb, ih hrest]

/-- A text with nothing to trim has a character that is not blank, unless it has none at all. -/
theorem exists_notBlank_of_trim (h : trim cs = cs) (hne : cs ≠ []) :
    ∃ c ∈ cs, isBlank c = false := by
  by_contra hnone
  have hall : allBlank cs = true := by
    refine List.all_eq_true.mpr fun c hc => ?_
    by_contra hblank
    exact hnone ⟨c, hc, eq_false_of_ne_true hblank⟩
  rw [trim, (trimStart_eq_nil_iff cs).mpr hall] at h
  exact hne h.symm

/-- Behind a character that is not blank, only the end is trimmed. -/
theorem trimEnd_append_cons (hc : isBlank c = false) (cs ds : List Char) :
    trimEnd (cs ++ c :: ds) = cs ++ c :: trimEnd ds := by
  -- from the end: blanks go one by one, and anything else stops the trimming on both sides
  induction ds using List.reverseRecOn with
  | nil =>
      have hlast : ¬isBlank c = true := by simp [hc]
      exact List.rdropWhile_concat_neg isBlank cs c hlast
  | append_singleton ds d ih =>
      have happend : cs ++ c :: (ds ++ [d]) = (cs ++ c :: ds) ++ [d] := by simp
      rw [happend]
      by_cases hd : isBlank d = true
      · rw [trimEnd_append_of_blank hd, trimEnd_append_of_blank hd, ih]
      · have hlong : trimEnd ((cs ++ c :: ds) ++ [d]) = (cs ++ c :: ds) ++ [d] :=
          List.rdropWhile_concat_neg isBlank _ d hd
        have hshort : trimEnd (ds ++ [d]) = ds ++ [d] :=
          List.rdropWhile_concat_neg isBlank ds d hd
        rw [hlong, hshort, ← happend]

/-- Between two characters that are not blank nothing is trimmed. -/
theorem trim_cons_append_cons (hb : isBlank b = false) (hc : isBlank c = false)
    (cs ds : List Char) : trim (b :: (cs ++ c :: ds)) = b :: (cs ++ c :: trimEnd ds) := by
  have hstart : trimStart (b :: (cs ++ c :: ds)) = (b :: cs) ++ c :: ds :=
    List.dropWhile_cons_of_neg (by simp [hb])
  rw [trim, hstart, trimEnd_append_cons hc, List.cons_append]

/-- A character that is not blank is not trimmed. -/
theorem mem_trim (hc : isBlank c = false) (h : c ∈ cs) : c ∈ trim cs := by
  obtain ⟨before, after, rfl⟩ := List.append_of_mem h
  have hstart : ∃ first, trimStart (before ++ c :: after) = first ++ c :: after := by
    rw [trimStart, List.dropWhile_append]
    split
    · exact ⟨[], List.dropWhile_cons_of_neg (by simp [hc])⟩
    · exact ⟨_, rfl⟩
  obtain ⟨first, hfirst⟩ := hstart
  rw [trim, hfirst, trimEnd_append_cons hc]
  simp

theorem trim_trimEnd (cs : List Char) : trim (trimEnd cs) = trim cs := by
  induction cs using List.reverseRecOn with
  | nil => rfl
  | append_singleton cs c ih =>
      by_cases hc : isBlank c = true
      · rw [trimEnd_append_of_blank hc, trim_append_of_blank hc, ih]
      · have hlast : trimEnd (cs ++ [c]) = cs ++ [c] := List.rdropWhile_concat_neg isBlank cs c hc
        rw [hlast]

/-- Trimming twice is trimming once. -/
theorem trim_idem (cs : List Char) : trim (trim cs) = trim cs := by
  have hstart : trimStart (trimStart cs) = trimStart cs := List.dropWhile_idempotent isBlank cs
  have htwice : trim (trimStart cs) = trim cs := by rw [trim, trim, hstart]
  rw [show trim cs = trimEnd (trimStart cs) from rfl, trim_trimEnd, htwice]
  rfl

/-! ## Pieces -/

/-- A character that does not separate goes into the first piece. -/
theorem pieces_cons_of_ne (hne : c ≠ sep) (cs : List Char) : ∃ piece more,
    pieces sep cs = piece :: more ∧ pieces sep (c :: cs) = (c :: piece) :: more := by
  cases hpieces : pieces sep cs with
  | nil => exact absurd hpieces (pieces_ne_nil sep cs)
  | cons piece more => exact ⟨piece, more, rfl, by rw [pieces, if_neg hne, hpieces]⟩

theorem pieces_append_cons (h : sep ∉ cs) (ds : List Char) :
    pieces sep (cs ++ sep :: ds) = cs :: pieces sep ds := by
  induction cs with
  | nil => rw [List.nil_append, pieces, if_pos rfl]
  | cons c rest ih =>
      have hne : c ≠ sep := fun heq => h (heq ▸ List.mem_cons_self)
      have hrest := ih fun hmem => h (List.mem_cons_of_mem _ hmem)
      rw [List.cons_append, pieces, if_neg hne, hrest]

theorem pieces_of_notMem (h : sep ∉ cs) : pieces sep cs = [cs] := by
  induction cs with
  | nil => rfl
  | cons c rest ih =>
      have hne : c ≠ sep := fun heq => h (heq ▸ List.mem_cons_self)
      have hrest := ih fun hmem => h (List.mem_cons_of_mem _ hmem)
      rw [pieces, if_neg hne, hrest]

/-- Parts that were joined with a separator are the pieces. -/
theorem pieces_join (hparts : parts ≠ []) (h : ∀ part ∈ parts, sep ∉ part) :
    pieces sep (join [sep] parts) = parts := by
  induction parts with
  | nil => exact absurd rfl hparts
  | cons part rest ih =>
      have hpart := h part List.mem_cons_self
      cases rest with
      | nil =>
          have hjoin : join [sep] [part] = part := by simp [join]
          rw [hjoin, pieces_of_notMem hpart]
      | cons next more =>
          have hrest := ih (by simp) fun other hother => h other (List.mem_cons_of_mem _ hother)
          have hjoin : join [sep] (part :: next :: more) =
              part ++ sep :: join [sep] (next :: more) := by
            simp [join, List.intercalate_cons_cons]
          rw [hjoin, pieces_append_cons hpart, hrest]

/-- No piece holds the separator, and every piece is part of the text. -/
theorem notMem_of_mem_pieces (h : piece ∈ pieces sep cs) : sep ∉ piece ∧ piece.Sublist cs := by
  induction cs generalizing piece with
  | nil =>
      obtain rfl : piece = [] := by simpa [pieces] using h
      exact ⟨by simp, List.Sublist.refl _⟩
  | cons c rest ih =>
      by_cases hc : c = sep
      · rw [pieces, if_pos hc] at h
        rcases List.mem_cons.mp h with rfl | hrest
        · exact ⟨by simp, List.nil_sublist _⟩
        · exact ⟨(ih hrest).1, (ih hrest).2.cons c⟩
      · obtain ⟨first, more, hpieces, hcons⟩ := pieces_cons_of_ne hc rest
        rw [hcons] at h
        rcases List.mem_cons.mp h with rfl | hmore
        · obtain ⟨hnot, hsub⟩ := ih (hpieces ▸ List.mem_cons_self)
          refine ⟨?_, hsub.cons_cons c⟩
          intro hmem
          rcases List.mem_cons.mp hmem with heq | hfirst
          · exact hc heq.symm
          · exact hnot hfirst
        · obtain ⟨hnot, hsub⟩ := ih (hpieces ▸ List.mem_cons_of_mem _ hmore)
          exact ⟨hnot, hsub.cons c⟩

/-- A blank in front of a text does not change its trimmed pieces. -/
theorem map_trim_pieces_cons (hb : isBlank b = true) (hne : b ≠ sep) (cs : List Char) :
    (pieces sep (b :: cs)).map trim = (pieces sep cs).map trim := by
  obtain ⟨piece, more, hpieces, hcons⟩ := pieces_cons_of_ne hne cs
  rw [hcons, hpieces, List.map_cons, List.map_cons, trim_cons_of_blank hb]

/-- A character that does not separate, behind a text, goes into the last piece. -/
theorem pieces_append_of_ne (hne : c ≠ sep) (cs : List Char) : ∃ first last,
    pieces sep cs = first ++ [last] ∧ pieces sep (cs ++ [c]) = first ++ [last ++ [c]] := by
  -- cutting goes from the front, so that the last piece is reached by induction only
  induction cs with
  | nil =>
      have hsep : sep ∉ [c] := by simpa using hne.symm
      exact ⟨[], [], rfl, pieces_of_notMem hsep⟩
  | cons d rest ih =>
      obtain ⟨first, last, hrest, hlong⟩ := ih
      by_cases hd : d = sep
      · refine ⟨[] :: first, last, ?_, ?_⟩
        · rw [pieces, if_pos hd, hrest, List.cons_append]
        · rw [List.cons_append, pieces, if_pos hd, hlong, List.cons_append]
      · cases first with
        | nil =>
            refine ⟨[], d :: last, ?_, ?_⟩
            · rw [pieces, if_neg hd, hrest]
              rfl
            · rw [List.cons_append, pieces, if_neg hd, hlong]
              rfl
        | cons head first =>
            refine ⟨(d :: head) :: first, last, ?_, ?_⟩
            · rw [pieces, if_neg hd, hrest]
              rfl
            · rw [List.cons_append, pieces, if_neg hd, hlong]
              rfl

/-- Nor does a blank behind it. -/
theorem map_trim_pieces_append (hb : isBlank b = true) (hne : b ≠ sep) (cs : List Char) :
    (pieces sep (cs ++ [b])).map trim = (pieces sep cs).map trim := by
  obtain ⟨first, last, hpieces, hlong⟩ := pieces_append_of_ne hne cs
  rw [hpieces, hlong, List.map_append, List.map_append, List.map_singleton, List.map_singleton,
    trim_append_of_blank hb]

/-- A text may be trimmed before it is cut, if its pieces are trimmed. -/
theorem map_trim_pieces_trim (hsep : isBlank sep = false) (cs : List Char) :
    (pieces sep (trim cs)).map trim = (pieces sep cs).map trim := by
  have hne : ∀ {b}, isBlank b = true → b ≠ sep := by
    rintro b hb rfl
    rw [hsep] at hb
    cases hb
  have hend : ∀ cs, (pieces sep (trimEnd cs)).map trim = (pieces sep cs).map trim := by
    intro cs
    induction cs using List.reverseRecOn with
    | nil => rfl
    | append_singleton cs c ih =>
        by_cases hc : isBlank c = true
        · rw [trimEnd_append_of_blank hc, map_trim_pieces_append hc (hne hc), ih]
        · have hlast : trimEnd (cs ++ [c]) = cs ++ [c] :=
            List.rdropWhile_concat_neg isBlank cs c hc
          rw [hlast]
  rw [trim, hend]
  -- the end is done; the start goes from the first character on
  induction cs with
  | nil => rfl
  | cons c rest ih =>
      by_cases hc : isBlank c = true
      · have hstart : trimStart (c :: rest) = trimStart rest := List.dropWhile_cons_of_pos hc
        rw [hstart, ih, map_trim_pieces_cons hc (hne hc)]
      · have hstart : trimStart (c :: rest) = c :: rest := List.dropWhile_cons_of_neg hc
        rw [hstart]

/-- Parts that were joined with a separator between blanks are the trimmed pieces. -/
theorem map_trim_pieces_join (hb : isBlank b = true) (hne : b ≠ sep) (hparts : parts ≠ [])
    (h : ∀ part ∈ parts, sep ∉ part) :
    (pieces sep (join [b, sep, b] parts)).map trim = parts.map trim := by
  induction parts with
  | nil => exact absurd rfl hparts
  | cons part rest ih =>
      have hpart := h part List.mem_cons_self
      cases rest with
      | nil =>
          have hjoin : join [b, sep, b] [part] = part := by simp [join]
          rw [hjoin, pieces_of_notMem hpart]
      | cons next more =>
          have hrest := ih (by simp) fun other hother => h other (List.mem_cons_of_mem _ hother)
          have hjoin : join [b, sep, b] (part :: next :: more) =
              (part ++ [b]) ++ sep :: b :: join [b, sep, b] (next :: more) := by
            simp [join, List.intercalate_cons_cons]
          have hfirst : sep ∉ part ++ [b] := by simp [hpart, hne.symm]
          rw [hjoin, pieces_append_cons hfirst, List.map_cons, map_trim_pieces_cons hb hne, hrest,
            trim_append_of_blank hb]
          rfl

end BenchDepot.Text
