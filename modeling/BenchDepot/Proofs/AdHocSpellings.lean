import BenchDepot.Proofs.AdHocText

/-!
# Every spelling of an ad-hoc text is read

One list of entries has many ad-hoc texts.  Blanks may stand around an entry, behind the cross and
in front of the unit; the unit is Latin, Cyrillic or missing; any point of a label may be a comma.
Reading undoes all of it: units and commas are looked for in the whole text, but no unit can begin
in one part of an entry and end in another, since no letter of a unit is a blank, a digit, a cross
or a plus, and since a unit has its first letter only once.

* `strip_of_spells` — what is left of an entry without commas and units;
* `entry_of_spells` — what is read from that;
* `normalize_join_plus` — a whole text loses what its entries lose;
* `readsSpellings` — every text of every list of entries.
-/

namespace BenchDepot.Cpu

namespace AdHoc

/-- An entry as it is meant: a label, with the number of its cores or without. -/
structure Mention where
  count : Option UInt32
  label : String
deriving DecidableEq

namespace Mention

/-- The cores of an entry; without a number there is one. -/
def cores (m : Mention) : UInt32 :=
  m.count.getD 1

/-- An entry that can be spelled: its label is clean, and is there unless the count is. -/
structure Spellable (m : Mention) : Prop where
  clean : Clean m.label
  visible : m.count = none → m.label ≠ ""

end Mention

/-- The cores of the last entry with a label. -/
def lastCores? (mentions : List Mention) (label : String) : Option UInt32 :=
  ((mentions.filter fun m => m.label = label).getLast?).map Mention.cores

/-- What stands for the count of an entry: nothing, or digits, a cross and blanks. -/
inductive SpellsCount : Option UInt32 → List Char → Prop
  | missing : SpellsCount none []
  | given {n : UInt32} {digits blanks : List Char} : digits ≠ [] →
      (∀ c ∈ digits, c.isDigit = true) → Nat.ofDigitChars 10 digits 0 = n.toNat →
        Text.allBlank blanks = true → SpellsCount (some n) (digits ++ 'x' :: blanks)

/-- What stands for a label: any of its points may be a comma. -/
def SpellsLabel (label written : List Char) : Prop :=
  List.Forall₂ (fun c d => d = c ∨ c = '.' ∧ d = ',') label written

/-- What may stand behind a label. -/
def units : List (List Char) := [[], latinUnit, cyrillicUnit]

/-- What stands for an entry: its count and its label, the label's unit, and blanks around all of
them. -/
inductive Spells (m : Mention) : List Char → Prop
  | intro {before count written gap unit after : List Char} :
      Text.allBlank before = true → SpellsCount m.count count →
      SpellsLabel m.label.toList written → Text.allBlank gap = true → unit ∈ units →
      Text.allBlank after = true →
        Spells m (before ++ (count ++ (written ++ (gap ++ (unit ++ after)))))

/-- What stands for some entries: the text of each, with a plus between any two. -/
def SpellsAll (mentions : List Mention) (text : String) : Prop :=
  ∃ parts, List.Forall₂ Spells mentions parts ∧ text.toList = Text.join ['+'] parts

/-- A point for a comma. -/
def point (c : Char) : Char :=
  if c = ',' then '.' else c

/-- What normalizing takes from every part of a text: commas and units. -/
def strip (cs : List Char) : List Char :=
  Text.remove latinUnit (Text.remove cyrillicUnit (cs.map point))

theorem point_of_ne {c : Char} (h : c ≠ ',') : point c = c :=
  if_neg h

theorem map_point_of_notMem {cs : List Char} (h : ',' ∉ cs) : cs.map point = cs := by
  have hsame : ∀ c ∈ cs, point c = id c := by
    rintro c hc
    exact point_of_ne fun heq => h (heq ▸ hc)
  rw [List.map_congr_left hsame, List.map_id]

variable {m : Mention} {cs : List Char}

/-! ## Characters -/

/-- No blank is a comma, a cross or a plus, or a letter of a unit. -/
theorem notMem_of_isBlank {c : Char} (h : Text.isBlank c = true) :
    c ∉ [',', 'x', '+'] ∧ c ∉ latinUnit ∧ c ∉ cyrillicUnit := by
  have hother : ∀ d ∈ [',', 'x', '+'] ++ (latinUnit ++ cyrillicUnit), Text.isBlank d = false :=
    List.forall_iff_forall_mem.mp (by decide)
  have hne : c ∉ [',', 'x', '+'] ++ (latinUnit ++ cyrillicUnit) := by
    intro hmem
    rw [hother c hmem] at h
    cases h
  rwa [List.mem_append, List.mem_append, not_or, not_or] at hne

theorem notMem_of_allBlank {d : Char} (h : Text.allBlank cs = true)
    (hd : Text.isBlank d = false) : d ∉ cs := by
  intro hmem
  rw [List.all_eq_true.mp h d hmem] at hd
  cases hd

/-- What stands for a count has only digits, a cross and blanks. -/
theorem SpellsCount.notMem {count : Option UInt32} (h : SpellsCount count cs) {d : Char}
    (hdigit : d.isDigit = false) (hcross : d ≠ 'x') (hblank : Text.isBlank d = false) : d ∉ cs := by
  cases h with
  | missing => simp
  | @given n digits blanks hne hdigits hvalue hblanks =>
      have hfirst : d ∉ digits := by
        intro hmem
        rw [hdigits d hmem] at hdigit
        cases hdigit
      have hlast := notMem_of_allBlank hblanks hblank
      simp [hfirst, hcross, hlast]

/-! ## Without commas and units -/

/-- The points of a label come back. -/
theorem map_point_of_spellsLabel {label written : List Char} (h : SpellsLabel label written)
    (hcomma : ',' ∉ label) : written.map point = label := by
  induction h with
  | nil => rfl
  | @cons c d label written hcd _ ih =>
      rw [List.mem_cons, not_or] at hcomma
      rw [List.map_cons, ih hcomma.2]
      rcases hcd with rfl | ⟨rfl, rfl⟩
      · rw [point_of_ne (Ne.symm hcomma.1)]
      · rfl

section

variable {word label gap after : List Char}

/-- A word that does not occur in a label is not removed from it, whatever stands behind the label
apart from the word. -/
theorem remove_of_apart (hword : word ≠ []) (hlabel : ¬word <:+: label)
    (hafter : ∀ c ∈ after, c ∉ word) : Text.remove word (label ++ after) = label ++ after := by
  rw [Text.remove_append_apart hword hafter, Text.remove_of_not_infix hlabel]

/-- A word behind a label is removed, and nothing else is. -/
theorem remove_of_behind {a : Char} {tail : List Char} (ha : a ∉ tail)
    (hlabel : ¬a :: tail <:+: label) (hgap : ∀ c ∈ gap, c ∉ a :: tail)
    (hafter : ∀ c ∈ after, c ∉ a :: tail) :
    Text.remove (a :: tail) (label ++ (gap ++ (a :: tail ++ after))) = label ++ (gap ++ after) := by
  have hword : a :: tail ≠ [] := List.cons_ne_nil a tail
  have hfront : ¬a :: tail <:+: label ++ gap :=
    (Text.remove_eq_self_iff hword).mp (remove_of_apart hword hlabel hgap)
  have hrest : Text.remove (a :: tail) after = after := by
    simpa using @remove_of_apart (a :: tail) [] after hword (by simp) hafter
  rw [← List.append_assoc, Text.remove_append_word ha hfront, hrest, List.append_assoc]

/-- The unit behind a label is removed, whichever it is. -/
theorem remove_units {unit : List Char} (hlatin : ¬latinUnit <:+: label)
    (hcyrillic : ¬cyrillicUnit <:+: label) (hgap : Text.allBlank gap = true)
    (hunit : unit ∈ units) (hafter : Text.allBlank after = true) :
    Text.remove latinUnit (Text.remove cyrillicUnit (label ++ (gap ++ (unit ++ after)))) =
      label ++ (gap ++ after) := by
  have hapart : ∀ c, c ∈ gap ∨ c ∈ after → c ∉ latinUnit ∧ c ∉ cyrillicUnit := by
    rintro c (hc | hc)
    · exact (notMem_of_isBlank (List.all_eq_true.mp hgap c hc)).2
    · exact (notMem_of_isBlank (List.all_eq_true.mp hafter c hc)).2
  have hunits : ∀ c ∈ latinUnit, c ∉ cyrillicUnit := List.forall_iff_forall_mem.mp (by decide)
  have hblanks : ∀ c ∈ gap ++ after, c ∉ latinUnit ∧ c ∉ cyrillicUnit :=
    fun c hc => hapart c (List.mem_append.mp hc)
  -- the Cyrillic unit goes first, and the Latin one then
  simp only [units, List.mem_cons, List.not_mem_nil, or_false] at hunit
  rcases hunit with rfl | rfl | rfl
  · rw [List.nil_append, remove_of_apart (by decide) hcyrillic fun c hc => (hblanks c hc).2,
      remove_of_apart (by decide) hlatin fun c hc => (hblanks c hc).1]
  · have hbehind : ∀ c ∈ gap ++ (latinUnit ++ after), c ∉ cyrillicUnit := by
      intro c hc
      rcases List.mem_append.mp hc with hc | hc
      · exact (hapart c (Or.inl hc)).2
      · rcases List.mem_append.mp hc with hc | hc
        · exact hunits c hc
        · exact (hapart c (Or.inr hc)).2
    rw [remove_of_apart (by decide) hcyrillic hbehind]
    exact remove_of_behind (by decide) hlatin (fun c hc => (hapart c (Or.inl hc)).1)
      fun c hc => (hapart c (Or.inr hc)).1
  · have hgone : Text.remove cyrillicUnit (label ++ (gap ++ (cyrillicUnit ++ after))) =
        label ++ (gap ++ after) :=
      remove_of_behind (by decide) hcyrillic (fun c hc => (hapart c (Or.inl hc)).2)
        fun c hc => (hapart c (Or.inr hc)).2
    rw [hgone, remove_of_apart (by decide) hlatin fun c hc => (hblanks c hc).1]

end

/-- What has no comma and no letter of a unit is left in front of anything. -/
theorem strip_append {front : List Char} (h : ∀ d ∈ ',' :: (latinUnit ++ cyrillicUnit), d ∉ front)
    (behind : List Char) : strip (front ++ behind) = front ++ strip behind := by
  have hcomma : ',' ∉ front := h _ List.mem_cons_self
  have hlatin : ∀ c ∈ front, c ∉ latinUnit := fun c hc hmem =>
    h c (List.mem_cons_of_mem _ (List.mem_append_left _ hmem)) hc
  have hcyrillic : ∀ c ∈ front, c ∉ cyrillicUnit := fun c hc hmem =>
    h c (List.mem_cons_of_mem _ (List.mem_append_right _ hmem)) hc
  rw [strip, List.map_append, map_point_of_notMem hcomma,
    Text.remove_append_of_apart (by decide) hcyrillic,
    Text.remove_append_of_apart (by decide) hlatin]
  rfl

/-- What is left of an entry is its count and its label, with blanks around them. -/
theorem strip_of_spells (hclean : Clean m.label) (h : Spells m cs) : ∃ before count after,
    strip cs = before ++ (count ++ (m.label.toList ++ after)) ∧ Text.allBlank before = true ∧
      SpellsCount m.count count ∧ Text.allBlank after = true := by
  obtain @⟨before, count, written, gap, unit, after, hbefore, hcount, hwritten, hgap, hunit,
    hafter⟩ := h
  refine ⟨before, count, gap ++ after, ?_, hbefore, hcount, ?_⟩
  · have htaken : ∀ d ∈ ',' :: (latinUnit ++ cyrillicUnit),
        d.isDigit = false ∧ d ≠ 'x' ∧ Text.isBlank d = false :=
      List.forall_iff_forall_mem.mp (by decide)
    have hfront : ∀ d ∈ ',' :: (latinUnit ++ cyrillicUnit), d ∉ before := fun d hd =>
      notMem_of_allBlank hbefore (htaken d hd).2.2
    have hcounted : ∀ d ∈ ',' :: (latinUnit ++ cyrillicUnit), d ∉ count := by
      intro d hd
      obtain ⟨hdigit, hcross, hblank⟩ := htaken d hd
      exact hcount.notMem hdigit hcross hblank
    have hkept : ∀ {blanks : List Char}, Text.allBlank blanks = true →
        blanks.map point = blanks :=
      fun hblanks => map_point_of_notMem (notMem_of_allBlank hblanks (by decide))
    have hplain : unit.map point = unit := by
      revert unit
      decide
    have hpointed : (written ++ (gap ++ (unit ++ after))).map point =
        m.label.toList ++ (gap ++ (unit ++ after)) := by
      simp only [List.map_append, hkept hgap, hkept hafter, hplain,
        map_point_of_spellsLabel hwritten hclean.noComma]
    rw [strip_append hfront, strip_append hcounted, strip, hpointed,
      remove_units hclean.noLatinUnit hclean.noCyrillicUnit hgap hunit hafter]
  · rw [Text.allBlank, List.all_append, Bool.and_eq_true]
    exact ⟨hgap, hafter⟩

/-! ## What is read -/

variable {before count after : List Char}

/-- The label and the cores of an entry are read from its count and its label. -/
theorem entry_of_spellsCount (hclean : Clean m.label) (hbefore : Text.allBlank before = true)
    (hcount : SpellsCount m.count count) (hafter : Text.allBlank after = true) :
    entry (before ++ (count ++ (m.label.toList ++ after))) = (m.label, m.cores) := by
  have hblanks : entry (before ++ (count ++ (m.label.toList ++ after))) =
      entry (count ++ m.label.toList) := by
    rw [← entry_trim, ← List.append_assoc count, Text.trim_append_blanks hbefore hafter, entry_trim]
  rw [hblanks]
  obtain ⟨number, label⟩ := m
  cases hcount with
  | missing =>
      rw [entry, List.nil_append, hclean.trimmed, Text.pieces_of_notMem hclean.noCross]
      simp only [String.ofList_toList]
      rfl
  | @given n digits blanks hne hdigits hvalue hblank =>
      have hcross : 'x' ∉ blanks ++ label.toList := by
        have hlabel : 'x' ∉ label.toList := hclean.noCross
        simp [notMem_of_allBlank hblank (show Text.isBlank 'x' = false by decide), hlabel]
      have htrim : Text.trim (blanks ++ label.toList) = label.toList := by
        have happend := Text.trim_append_blanks hblank (show Text.allBlank [] = true from rfl)
          label.toList
        rwa [List.append_nil, hclean.trimmed] at happend
      rw [List.append_assoc, List.cons_append, entry_of_digits hne hdigits hvalue hcross, htrim,
        String.ofList_toList]
      rfl

/-- Neither its count nor its label holds a plus. -/
theorem plus_notMem_of_spellsCount (hclean : Clean m.label) (hbefore : Text.allBlank before = true)
    (hcount : SpellsCount m.count count) (hafter : Text.allBlank after = true) :
    '+' ∉ before ++ (count ++ (m.label.toList ++ after)) := by
  have hplus : Text.isBlank '+' = false := by decide
  simp [notMem_of_allBlank hbefore hplus, hcount.notMem (by decide) (by decide) hplus,
    hclean.noPlus, notMem_of_allBlank hafter hplus]

/-- An entry that is spelled can be seen: there is its cross, or its label. -/
theorem exists_notBlank_of_spellsCount (h : m.Spellable) (hcount : SpellsCount m.count count) :
    ∃ c ∈ before ++ (count ++ (m.label.toList ++ after)), Text.isBlank c = false := by
  obtain ⟨number, label⟩ := m
  cases hcount with
  | missing =>
      have hne : label.toList ≠ [] := fun hnil =>
        h.visible rfl (String.toList_eq_nil_iff.mp hnil)
      obtain ⟨c, hc, hblank⟩ := Text.exists_notBlank_of_trim h.clean.trimmed hne
      exact ⟨c, by simp [hc], hblank⟩
  | given => exact ⟨'x', by simp, by decide⟩

theorem entry_of_spells (h : m.Spellable) (hspells : Spells m cs) :
    entry (strip cs) = (m.label, m.cores) ∧ '+' ∉ strip cs ∧
      ∃ c ∈ strip cs, Text.isBlank c = false := by
  obtain ⟨before, count, after, hstrip, hbefore, hcount, hafter⟩ :=
    strip_of_spells h.clean hspells
  rw [hstrip]
  exact ⟨entry_of_spellsCount h.clean hbefore hcount hafter,
    plus_notMem_of_spellsCount h.clean hbefore hcount hafter,
    exists_notBlank_of_spellsCount h hcount⟩

/-- A whole text loses what its parts lose. -/
theorem normalize_join_plus (parts : List (List Char)) :
    normalize (Text.join ['+'] parts) = Text.trim (Text.join ['+'] (parts.map strip)) := by
  have hpointed : (Text.join ['+'] parts).map point =
      Text.join ['+'] (parts.map (List.map point)) := Text.map_join rfl parts
  have hparts : parts.map strip = ((parts.map (List.map point)).map (Text.remove cyrillicUnit)).map
      (Text.remove latinUnit) := by
    rw [List.map_map, List.map_map]
    rfl
  show Text.trim (Text.remove latinUnit (Text.remove cyrillicUnit
    ((Text.join ['+'] parts).map point))) = _
  have hcyrillic : ∀ c ∈ ['+'], c ∉ cyrillicUnit := List.forall_mem_singleton.mpr (by decide)
  have hlatin : ∀ c ∈ ['+'], c ∉ latinUnit := List.forall_mem_singleton.mpr (by decide)
  rw [hpointed, Text.remove_join (by decide) hcyrillic, Text.remove_join (by decide) hlatin,
    hparts]

/-- The entries of a text are read from its parts. -/
theorem map_entry_pieces_join {mentions : List Mention} {parts : List (List Char)}
    (hne : mentions ≠ []) (hspellable : ∀ m ∈ mentions, m.Spellable)
    (hspells : List.Forall₂ Spells mentions parts) :
    (Text.pieces '+' (normalize (Text.join ['+'] parts))).map entry =
      mentions.map fun m => (m.label, m.cores) := by
  have hstripped : (parts.map strip).map entry = mentions.map (fun m => (m.label, m.cores)) ∧
      ∀ part ∈ parts.map strip, '+' ∉ part := by
    clear hne
    induction hspells with
    | nil => simp
    | @cons m cs mentions parts hm _ ih =>
        obtain ⟨hentry, hplus, _⟩ := entry_of_spells (hspellable m List.mem_cons_self) hm
        obtain ⟨hentries, hpluses⟩ := ih fun m hm => hspellable m (List.mem_cons_of_mem _ hm)
        refine ⟨by simp only [List.map_cons, hentry, hentries], ?_⟩
        rw [List.map_cons, List.forall_mem_cons]
        exact ⟨hplus, hpluses⟩
  have hparts : parts.map strip ≠ [] := by
    intro hnil
    rw [List.map_eq_nil_iff.mp hnil] at hspells
    exact hne (List.forall₂_nil_right_iff.mp hspells)
  rw [normalize_join_plus, map_entry_pieces_trim, Text.pieces_join hparts hstripped.2, hstripped.1]

/-- What is left of a text that spells entries is not empty. -/
theorem normalize_ne_nil {mentions : List Mention} {parts : List (List Char)} (hne : mentions ≠ [])
    (hspellable : ∀ m ∈ mentions, m.Spellable) (hspells : List.Forall₂ Spells mentions parts) :
    normalize (Text.join ['+'] parts) ≠ [] := by
  cases hspells with
  | nil => exact absurd rfl hne
  | @cons m cs mentions parts hm _ =>
      obtain ⟨_, _, c, hc, hblank⟩ := entry_of_spells (hspellable m List.mem_cons_self) hm
      have hjoin : c ∈ Text.join ['+'] ((cs :: parts).map strip) :=
        Text.mem_join_of_mem (List.mem_map_of_mem List.mem_cons_self) hc
      rw [normalize_join_plus]
      exact List.ne_nil_of_mem (Text.mem_trim hblank hjoin)

end AdHoc

namespace Config

open AdHoc

/-- Whatever spells some entries is read as the configuration in which every label has the cores of
its last entry. -/
theorem readsSpellings {mentions : List Mention} (hne : mentions ≠ [])
    (hspellable : ∀ m ∈ mentions, m.Spellable) {text : String} (hspells : SpellsAll mentions text)
    (label : String) : (ofAdHoc text).get? label = lastCores? mentions label := by
  obtain ⟨parts, hparts, htext⟩ := hspells
  have hread := map_entry_pieces_join hne hspellable hparts
  have hempty := List.isEmpty_eq_false_iff.mpr (normalize_ne_nil hne hspellable hparts)
  rw [ofAdHoc, htext]
  simp only [hempty, Bool.false_eq_true, if_false]
  rw [hread, TextMap.get?_ofList, List.filter_map, List.getLast?_map, Option.map_map]
  rfl

/-- Three entries, of which the last one counts anew what the first one counted. -/
def recounted : List Mention := [⟨some 4, "2400.00"⟩, ⟨none, "1200.00"⟩, ⟨some 6, "2400.00"⟩]

/-- A text that spells them, each in another way. -/
def recountedText : String := "\u00a004x2400,00MHz+ 1200.00 МГц +6x\t2400.00"

theorem spellsAll_recounted :
    (∀ m ∈ recounted, m.Spellable) ∧ SpellsAll recounted recountedText := by
  constructor
  · have hclean : ∀ label ∈ ["2400.00", "1200.00"], Clean label := by
      intro label hlabel
      rcases List.mem_pair.mp hlabel with rfl | rfl
      all_goals exact ⟨⟨by decide, by decide, by decide⟩, by decide, by decide, by decide⟩
    have hvisible : ∀ m ∈ recounted, m.label ∈ ["2400.00", "1200.00"] ∧ m.label ≠ "" := by decide
    exact fun m hm => ⟨hclean m.label (hvisible m hm).1, fun _ => (hvisible m hm).2⟩
  · have hsame : ∀ label : List Char, SpellsLabel label label := fun label =>
      List.forall₂_same.mpr fun _ _ => Or.inl rfl
    have hcomma : SpellsLabel "2400.00".toList "2400,00".toList := by
      simp [SpellsLabel]
    have hfirst := @Spells.intro ⟨some 4, "2400.00"⟩ ['\u00a0'] _ _ [] latinUnit [] rfl
      (@SpellsCount.given 4 ['0', '4'] [] (by decide) (List.forall_iff_forall_mem.mp (by decide))
        rfl rfl) hcomma rfl (by decide) rfl
    have hsecond := @Spells.intro ⟨none, "1200.00"⟩ [' '] _ _ [' '] cyrillicUnit [' '] rfl .missing
      (hsame _) rfl (by decide) rfl
    have hthird := @Spells.intro ⟨some 6, "2400.00"⟩ [] _ _ [] [] [] rfl
      (@SpellsCount.given 6 ['6'] ['\t'] (by decide) (List.forall_iff_forall_mem.mp (by decide))
        rfl rfl) (hsame _) rfl (by decide) rfl
    exact ⟨_, .cons hfirst (.cons hsecond (.cons hthird .nil)), by decide⟩

/-- What is read from it. -/
theorem readsSpellings_recounted : SpellsAll recounted recountedText ∧
    ∀ label, (ofAdHoc recountedText).get? label = lastCores? recounted label :=
  ⟨spellsAll_recounted.2,
    readsSpellings (by decide) spellsAll_recounted.1 spellsAll_recounted.2⟩

end Config

end BenchDepot.Cpu
