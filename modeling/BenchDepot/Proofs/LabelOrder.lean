import BenchDepot.Cpu.Config
import BenchDepot.Proofs.ByteOrder
import BenchDepot.Proofs.DoubleOrder

/-!
# One order for frequency labels

Labels that read as a double come first, ascending as IEEE 754 orders all doubles; labels with one
value, and labels that are no numbers, ascend by their bytes.  A level keeps a sign and a magnitude
apart, so that its rank is an integer; that the order of ranks is the order of the doubles follows
from the order of their bits.  The order of labels is then lexicographic in three keys, so it is
transitive because those of the keys are, and only one text is equal to a text because the last key
is the text itself.

A configuration has each label once.  So its entries, sorted in any way, are strictly ascending, and
there is one such list.

* `Level.below_iff` — levels are ordered by rank as their doubles are;
* `frequencyOrder_eq_lt_iff` — what comes before what;
* `Config.listsByFrequency` — the order is total, and the text of a configuration lists its
  entries in it.
-/

namespace BenchDepot.Cpu

open Float.Model Float.Model.UnpackedFloat

namespace Level

/-- The double that a level stands for. -/
def double (x : Level) : Float :=
  Float.ofBits (UInt64.ofNat ((if x.negative then 2 ^ 63 else 0) + x.magnitude))

/-- A level is below another as IEEE 754 orders all doubles: the smaller number first, of the two
zeros the one with the minus sign, and the NaNs around all numbers, each on the side of its sign. -/
inductive Below (x y : Level) : Prop where
  | number (h : x.double < y.double)
  | zero (h : (x.double == y.double) = true) (hx : x.negative = true) (hy : y.negative = false)
  | aboveNaN (hx : x.double.isNaN = true) (hneg : x.negative = true)
      (hy : y.double.isNaN = true → y.negative = false)
  | belowNaN (hx : x.double.isNaN = true → x.negative = true) (hy : y.double.isNaN = true)
      (hneg : y.negative = false)

/-- The magnitude of a number, or that of the one NaN. -/
def Canonical (x : Level) : Prop :=
  x.magnitude ≤ infinity ∨ x.magnitude = nan

/-- The sign of a level. -/
def sign (x : Level) : Sign :=
  if x.negative then .negative else .positive

variable {x y : Level}

theorem unpack_double (h : x.magnitude < 2 ^ 63) :
    x.double.toModel.unpack = Decimal.decoded x.sign x.magnitude := by
  have hpattern : (UInt64.ofNat ((if x.negative then 2 ^ 63 else 0) + x.magnitude)).toBitVec =
      Decimal.patternOf x.sign x.magnitude := by
    cases hneg : x.negative <;> (unfold Decimal.patternOf sign; rw [hneg]; rfl)
  rw [double, Decimal.unpack_ofBits, hpattern, Decimal.unpack_patternOf h]

theorem Canonical.lt (h : x.Canonical) : x.magnitude < 2 ^ 63 := by
  rcases h with h | h
  · exact Nat.lt_of_le_of_lt h (by decide)
  · rw [h]
    decide

theorem Canonical.le_nan (h : x.Canonical) : x.magnitude ≤ nan := by
  rcases h with h | h
  · exact h.trans (by decide)
  · exact h.le

theorem Canonical.le_infinity (h : x.Canonical) (hne : x.magnitude ≠ nan) :
    x.magnitude ≤ infinity :=
  h.resolve_right hne

theorem Canonical.isNaN_iff (h : x.Canonical) : x.double.isNaN = true ↔ x.magnitude = nan := by
  show x.double.toModel.unpack.isNaN = true ↔ _
  rw [unpack_double h.lt]
  constructor
  · intro hnan
    by_contra hne
    have hnumber := h.le_infinity hne
    rcases Decimal.decoded_cases hnumber with ⟨_, hu⟩ | ⟨_, hu⟩ | ⟨_, _, _, hu⟩ <;>
      rw [hu] at hnan <;> cases hnan
  · intro heq
    rw [heq, Decimal.decoded_of_lt (by decide)]
    rfl

/-- A level as a number: its magnitude with its sign. -/
def signed (x : Level) : Int :=
  x.sign.apply x.magnitude

/-- The doubles of two levels are compared as their magnitudes with their signs, and not at all
where one is NaN. -/
theorem compare_double (hx : x.Canonical) (hy : y.Canonical) (o : Ordering) :
    x.double.toModel.unpack.compare y.double.toModel.unpack = some o ↔
      x.magnitude ≠ nan ∧ y.magnitude ≠ nan ∧ compare x.signed y.signed = o := by
  rw [unpack_double hx.lt, unpack_double hy.lt]
  by_cases hnan : x.magnitude = nan ∨ y.magnitude = nan
  · have hnone : (Decimal.decoded x.sign x.magnitude).compare
        (Decimal.decoded y.sign y.magnitude) = none := by
      rcases hnan with heq | heq <;> rw [heq, Decimal.decoded_of_lt (n := nan) (by decide)]
      · rfl
      · cases Decimal.decoded x.sign x.magnitude <;> rfl
    rw [hnone]
    constructor
    · intro h
      cases h
    · rintro ⟨hx', hy', -⟩
      exact absurd hnan (not_or.mpr ⟨hx', hy'⟩)
  · obtain ⟨hx', hy'⟩ := not_or.mp hnan
    rw [Decimal.compare_decoded _ _ (hx.le_infinity hx') (hy.le_infinity hy'), Option.some.injEq]
    exact ⟨fun h => ⟨hx', hy', h⟩, fun h => h.2.2⟩

theorem double_lt_iff (hx : x.Canonical) (hy : y.Canonical) : x.double < y.double ↔
    x.magnitude ≠ nan ∧ y.magnitude ≠ nan ∧ x.signed < y.signed := by
  rw [← compare_lt_iff_lt, ← compare_double hx hy]
  show decide ((x.double.toModel.unpack.compare y.double.toModel.unpack == some .lt) = true) =
    true ↔ _
  rw [decide_eq_true_iff, beq_iff_eq]

theorem double_beq_iff (hx : x.Canonical) (hy : y.Canonical) : (x.double == y.double) = true ↔
    x.magnitude ≠ nan ∧ y.magnitude ≠ nan ∧ x.signed = y.signed := by
  rw [← @compare_eq_iff_eq Int, ← compare_double hx hy]
  show (x.double.toModel.unpack.compare y.double.toModel.unpack == some .eq) = true ↔ _
  rw [beq_iff_eq]

/-! ### The two signs -/

theorem signed_of_negative (h : x.negative = true) : x.signed = -(x.magnitude : Int) := by
  rw [signed, sign, if_pos h]
  rfl

theorem signed_of_positive (h : x.negative = false) : x.signed = x.magnitude := by
  rw [signed, sign, if_neg (by rw [h]; decide)]
  rfl

theorem rank_of_negative (h : x.negative = true) : x.rank = -(x.magnitude : Int) - 1 := by
  rw [rank, if_pos h]

theorem rank_of_positive (h : x.negative = false) : x.rank = x.magnitude := by
  rw [rank, if_neg (by rw [h]; decide)]

theorem rank_cases (x : Level) :
    (x.negative = true ∧ x.signed = -(x.magnitude : Int) ∧
        x.rank = -(x.magnitude : Int) - 1) ∨
      (x.negative = false ∧ x.signed = x.magnitude ∧ x.rank = x.magnitude) := by
  cases h : x.negative
  · exact Or.inr ⟨rfl, signed_of_positive h, rank_of_positive h⟩
  · exact Or.inl ⟨rfl, signed_of_negative h, rank_of_negative h⟩

theorem rank_lt_of_below (hx : x.Canonical) (hy : y.Canonical) (h : x.Below y) :
    x.rank < y.rank := by
  have hxtop := hx.le_nan
  have hytop := hy.le_nan
  have hxcases := rank_cases x
  have hycases := rank_cases y
  rcases h with h | ⟨h, hxneg, hyneg⟩ | ⟨hnan, hneg, h⟩ | ⟨h, hnan, hneg⟩
  · obtain ⟨-, -, h⟩ := (double_lt_iff hx hy).mp h
    omega
  · obtain ⟨-, -, h⟩ := (double_beq_iff hx hy).mp h
    rw [rank_of_negative hxneg, rank_of_positive hyneg]
    omega
  · rw [hx.isNaN_iff] at hnan
    rw [rank_of_negative hneg]
    rcases hycases with ⟨hyneg, -, hyrank⟩ | ⟨-, -, hyrank⟩
    · have hne : y.magnitude ≠ nan := fun heq =>
        Bool.noConfusion (hyneg.symm.trans (h (hy.isNaN_iff.mpr heq)))
      omega
    · omega
  · rw [hy.isNaN_iff] at hnan
    rw [rank_of_positive hneg]
    rcases hxcases with ⟨-, -, hxrank⟩ | ⟨hxneg, -, hxrank⟩
    · omega
    · have hne : x.magnitude ≠ nan := fun heq =>
        Bool.noConfusion (hxneg.symm.trans (h (hx.isNaN_iff.mpr heq)))
      omega

theorem below_of_rank_lt (hx : x.Canonical) (hy : y.Canonical) (h : x.rank < y.rank) :
    x.Below y := by
  have hxtop := hx.le_nan
  have hytop := hy.le_nan
  have hxcases := rank_cases x
  have hycases := rank_cases y
  by_cases hxnan : x.magnitude = nan
  · have hneg : x.negative = true := by
      rcases hxcases with ⟨hneg, -⟩ | ⟨-, -, hrank⟩
      · exact hneg
      · omega
    refine .aboveNaN (hx.isNaN_iff.mpr hxnan) hneg fun hynan => ?_
    rw [hy.isNaN_iff] at hynan
    rcases hycases with ⟨-, -, hrank⟩ | ⟨hpos, -⟩
    · rw [rank_of_negative hneg] at h
      omega
    · exact hpos
  · by_cases hynan : y.magnitude = nan
    · have hpos : y.negative = false := by
        rcases hycases with ⟨-, -, hrank⟩ | ⟨hpos, -⟩
        · omega
        · exact hpos
      have hnumber : x.double.isNaN = true → x.negative = true := fun hnan =>
        absurd (hx.isNaN_iff.mp hnan) hxnan
      exact .belowNaN hnumber (hy.isNaN_iff.mpr hynan) hpos
    · by_cases hlt : x.signed < y.signed
      · exact .number ((double_lt_iff hx hy).mpr ⟨hxnan, hynan, hlt⟩)
      · -- only the two zeros have one number and different ranks
        rcases hxcases with ⟨hxneg, hxsigned, hxrank⟩ | ⟨hxneg, hxsigned, hxrank⟩ <;>
          rcases hycases with ⟨hyneg, hysigned, hyrank⟩ | ⟨hyneg, hysigned, hyrank⟩
        · omega
        · exact .zero ((double_beq_iff hx hy).mpr ⟨hxnan, hynan, by omega⟩) hxneg hyneg
        · omega
        · omega

/-- The order of ranks is the order of doubles. -/
theorem below_iff (hx : x.Canonical) (hy : y.Canonical) : x.Below y ↔ x.rank < y.rank :=
  ⟨rank_lt_of_below hx hy, below_of_rank_lt hx hy⟩

theorem eq_of_rank_eq (h : x.rank = y.rank) : x = y := by
  have hxcases := rank_cases x
  have hycases := rank_cases y
  have hmagnitude : x.magnitude = y.magnitude := by omega
  have hnegative : x.negative = y.negative := by
    rcases hxcases with ⟨hx, -, hxrank⟩ | ⟨hx, -, hxrank⟩ <;>
      rcases hycases with ⟨hy, -, hyrank⟩ | ⟨hy, -, hyrank⟩
    · rw [hx, hy]
    · omega
    · omega
    · rw [hx, hy]
  obtain ⟨negative, magnitude⟩ := x
  cases hmagnitude
  cases hnegative
  rfl

theorem canonical_of_magnitude? {cs : List Char} {n : Nat} (h : magnitude? cs = some n)
    (negative : Bool) : (Level.mk negative n).Canonical := by
  unfold magnitude? at h
  dsimp only at h
  split at h
  · cases h
    exact Or.inl (Nat.le_refl _)
  · split at h
    · cases h
      exact Or.inr rfl
    · unfold decimal? at h
      dsimp only at h
      split at h
      · cases h
      · obtain ⟨exponent, -, rfl⟩ := Option.map_eq_some_iff.mp h
        exact Or.inl (Decimal.toNat_nearest_le _ _)

/-- The value of a label is a number or NaN. -/
theorem canonical_of_parse? {label : String} (h : parse? label = some x) : x.Canonical := by
  unfold parse? at h
  split at h <;> obtain ⟨n, hn, rfl⟩ := Option.map_eq_some_iff.mp h <;>
    exact canonical_of_magnitude? hn _

end Level

/-! ## The order of labels -/

/-- A label comes before another: as a lower number, as the smaller text of two with one value, as a
number before what is none, or as the smaller text of two that are no numbers. -/
inductive Precedes (a b : String) : Prop where
  | value {x y : Level} (ha : Level.parse? a = some x) (hb : Level.parse? b = some y)
      (h : x.Below y)
  | spelling {x : Level} (ha : Level.parse? a = some x) (hb : Level.parse? b = some x)
      (h : Text.bytes a < Text.bytes b)
  | numberFirst {x : Level} (ha : Level.parse? a = some x) (hb : Level.parse? b = none)
  | text (ha : Level.parse? a = none) (hb : Level.parse? b = none)
      (h : Text.bytes a < Text.bytes b)

variable {a b c : String}

theorem compare_eq_lt_iff_bytes : compare a b = .lt ↔ Text.bytes a < Text.bytes b := by
  rw [Text.bytes_lt_iff]
  exact compare_lt_iff_lt

/-- The order of labels says whether one comes before the other. -/
theorem frequencyOrder_eq_lt_iff : frequencyOrder a b = .lt ↔ Precedes a b := by
  unfold frequencyOrder
  constructor
  · cases ha : Level.parse? a with
    | none =>
        cases hb : Level.parse? b with
        | none => exact fun h => .text ha hb (compare_eq_lt_iff_bytes.mp h)
        | some y => exact fun h => nomatch h
    | some x =>
        cases hb : Level.parse? b with
        | none => exact fun _ => .numberFirst ha hb
        | some y =>
            intro h
            rcases Ordering.then_eq_lt.mp h with h | ⟨h, htext⟩
            · exact .value ha hb ((Level.below_iff (Level.canonical_of_parse? ha)
                (Level.canonical_of_parse? hb)).mpr (compare_lt_iff_lt.mp h))
            · rw [← Level.eq_of_rank_eq (compare_eq_iff_eq.mp h)] at hb
              exact .spelling ha hb (compare_eq_lt_iff_bytes.mp htext)
  · rintro (⟨ha, hb, h⟩ | ⟨ha, hb, h⟩ | ⟨ha, hb⟩ | ⟨ha, hb, h⟩) <;> rw [ha, hb]
    · have hrank := (Level.below_iff (Level.canonical_of_parse? ha)
        (Level.canonical_of_parse? hb)).mp h
      exact Ordering.then_eq_lt.mpr (Or.inl (compare_lt_iff_lt.mpr hrank))
    · exact Ordering.then_eq_lt.mpr (Or.inr ⟨compare_eq_iff_eq.mpr rfl,
        compare_eq_lt_iff_bytes.mpr h⟩)
    · exact compare_eq_lt_iff_bytes.mpr h

/-- Numbers before texts, numbers by their rank, and then by their text. -/
theorem frequencyOrder_eq : frequencyOrder =
    compareLex (compareOn fun label => (Level.parse? label).isNone)
      (compareLex (compareOn fun label => (Level.parse? label).elim 0 Level.rank) compare) := by
  funext a b
  cases ha : Level.parse? a <;> cases hb : Level.parse? b <;>
    simp only [frequencyOrder, compareLex, compareOn, ha, hb, Option.isNone_none,
      Option.isNone_some, Option.elim_none, Option.elim_some] <;> rfl

instance : Std.TransCmp frequencyOrder := by
  rw [frequencyOrder_eq]
  infer_instance

instance : Std.LawfulEqCmp frequencyOrder where
  eq_of_compare {a b} h := by
    rw [frequencyOrder_eq, compareLex_eq_eq, compareLex_eq_eq] at h
    exact Std.LawfulEqOrd.eq_of_compare h.2.2

theorem Precedes.asymm (h : Precedes a b) : ¬Precedes b a := by
  rw [← frequencyOrder_eq_lt_iff] at h ⊢
  rw [@Std.OrientedCmp.eq_swap _ frequencyOrder _ b a, h]
  decide

theorem frequencyLe_total (a b : String) : frequencyLe a b = true ∨ frequencyLe b a = true := by
  unfold frequencyLe
  rw [@Std.OrientedCmp.eq_swap _ frequencyOrder _ b a]
  cases frequencyOrder a b
  · exact Or.inl rfl
  · exact Or.inl rfl
  · exact Or.inr rfl

/-! ## The text of a configuration -/

namespace Config

/-- What stands in a configuration's text for some of its entries. -/
def listing (entries : List (String × UInt32)) : String :=
  " + ".intercalate (entries.map fun e => toString e.2 ++ "x " ++ e.1 ++ " MHz")

/-- Some entries are those of a configuration, each once. -/
structure Lists (config : Config) (entries : List (String × UInt32)) : Prop where
  nodup : entries.Nodup
  mem_iff : ∀ label count, (label, count) ∈ entries ↔ config.get? label = some count

/-- A list of entries in which every label precedes those behind it. -/
def InOrder (entries : List (String × UInt32)) : Prop :=
  entries.Pairwise fun d e => Precedes d.1 e.1

variable {config : Config} {entries : List (String × UInt32)}

theorem nodup_entries (config : Config) : config.entries.Nodup :=
  config.ascending.imp fun hlt heq => TextMap.ne_of_lt hlt (congrArg Prod.fst heq)

theorem lists_of_perm (h : entries.Perm config.entries) : config.Lists entries :=
  ⟨h.nodup_iff.mpr config.nodup_entries, fun label count => by
    rw [h.mem_iff, TextMap.mem_entries_iff]⟩

theorem lists_sorted (config : Config) : config.Lists config.sorted :=
  lists_of_perm (List.mergeSort_perm _ _)

/-- A label has one count. -/
theorem Lists.eq_of_label (h : config.Lists entries) {d e : String × UInt32} (hd : d ∈ entries)
    (he : e ∈ entries) (hlabel : d.1 = e.1) : d = e := by
  obtain ⟨label, count⟩ := d
  obtain ⟨label', count'⟩ := e
  cases hlabel
  have hcount := ((h.mem_iff _ _).mp hd).symm.trans ((h.mem_iff _ _).mp he)
  cases hcount
  rfl

/-- Entries that are sorted in any way are in order. -/
theorem Lists.inOrder (h : config.Lists entries)
    (hsorted : entries.Pairwise fun d e => frequencyLe d.1 e.1) : InOrder entries := by
  refine (hsorted.and h.nodup).imp_of_mem ?_
  rintro d e hd he ⟨hle, hne⟩
  rw [← frequencyOrder_eq_lt_iff]
  rcases Ordering.isLE_iff_eq_lt_or_eq_eq.mp hle with hlt | heq
  · exact hlt
  · exact absurd (h.eq_of_label hd he (Std.LawfulEqCmp.eq_of_compare heq)) hne

/-- There is one order for the entries of a configuration. -/
theorem Lists.eq_of_inOrder {others : List (String × UInt32)} (h : config.Lists entries)
    (hin : InOrder entries) (hothers : config.Lists others) (hothersIn : InOrder others) :
    entries = others := by
  refine TextMap.eq_of_pairwise Precedes.asymm hin hothersIn ?_
  rintro ⟨label, count⟩
  rw [h.mem_iff, hothers.mem_iff]

/-- The entries of a configuration are sorted into that order. -/
theorem inOrder_sorted (config : Config) : InOrder config.sorted := by
  refine (lists_sorted config).inOrder (List.pairwise_mergeSort ?_ ?_ config.entries)
  · intro d e f hde hef
    exact Std.TransCmp.isLE_trans hde hef
  · intro d e
    rw [Bool.or_eq_true]
    exact frequencyLe_total d.1 e.1

/-- The text of an entry. -/
theorem toList_item (e : String × UInt32) :
    (toString e.2 ++ "x " ++ e.1 ++ " MHz").toList = AdHoc.item e.1 e.2 := by
  have hcount : (toString e.2).toList = Nat.toDigits 10 e.2.toNat := String.toList_ofList
  rw [String.toList_append, String.toList_append, String.toList_append, hcount, AdHoc.item]
  simp [AdHoc.latinUnit]

theorem adHoc_eq_listing (config : Config) : config.adHoc = listing config.sorted := by
  apply String.toList_injective
  rw [adHoc, listing, String.toList_ofList, String.toList_intercalate, List.map_map, Text.join]
  congr 1
  exact List.map_congr_left fun e _ => (toList_item e).symm

end Config

/-! ## One order -/

/-- The order of labels is a total order, in which only equal texts are equal. -/
structure OrdersLabels : Prop where
  eq_iff : ∀ a b, frequencyOrder a b = .eq ↔ a = b
  swap : ∀ a b, frequencyOrder b a = (frequencyOrder a b).swap
  total : ∀ a b, frequencyLe a b = true ∨ frequencyLe b a = true
  antisymm : ∀ a b, frequencyLe a b = true → frequencyLe b a = true → a = b
  trans : ∀ a b c, frequencyLe a b = true → frequencyLe b c = true → frequencyLe a c = true
  lt_iff : ∀ a b, frequencyOrder a b = .lt ↔ Precedes a b

/-- The text of a configuration lists its entries in the one order that there is for them, in
whatever way they are sorted. -/
structure Config.ListsInOrder (config : Config) : Prop where
  unique : ∃! entries, config.Lists entries ∧ InOrder entries
  text : ∀ entries, config.Lists entries → InOrder entries → config.adHoc = listing entries
  sorted : ∀ entries, config.Lists entries →
    (entries.Pairwise fun d e => frequencyLe d.1 e.1 = true) → InOrder entries

/-- Labels have one total order, and every configuration lists its entries in it. -/
theorem Config.listsByFrequency : OrdersLabels ∧ ∀ config : Config, config.ListsInOrder := by
  refine ⟨⟨fun a b => Std.LawfulEqCmp.compare_eq_iff_eq, fun a b => Std.OrientedCmp.eq_swap,
    frequencyLe_total, ?_, ?_, fun a b => frequencyOrder_eq_lt_iff⟩, fun config => ?_⟩
  · intro a b hab hba
    exact Std.LawfulEqCmp.eq_of_compare (Std.OrientedCmp.isLE_antisymm hab hba)
  · intro a b c hab hbc
    exact Std.TransCmp.isLE_trans hab hbc
  · have hlists := Config.lists_sorted config
    have hin := Config.inOrder_sorted config
    constructor
    · refine ⟨config.sorted, ⟨hlists, hin⟩, ?_⟩
      rintro entries ⟨hothers, hothersIn⟩
      exact hothers.eq_of_inOrder hothersIn hlists hin
    · intro entries hothers hothersIn
      rw [Config.adHoc_eq_listing, hlists.eq_of_inOrder hin hothers hothersIn]
    · exact fun entries hothers hsorted => hothers.inOrder hsorted

/-- Labels of every kind, in their order: the NaNs around all numbers, both zeros, two spellings of
one, a number that is too large for a finite double, and a label that is no number. -/
def everyKind : List (String × UInt32) :=
  [("-nan", 1), ("-inf", 2), ("-0.5", 3), ("-0", 4), ("0", 5), ("0.0", 6), ("800.00", 7),
    ("9000.00", 8), ("10000.00", 9), ("1e400", 10), ("inf", 11), ("NaN", 12), ("turbo", 13)]

/-- They are listed in that order, in whatever order they come. -/
theorem Config.listsByFrequency_everyKind :
    Config.adHoc (TextMap.ofList everyKind.reverse) = Config.listing everyKind := by
  have hperm : everyKind.Perm (TextMap.ofList everyKind.reverse).entries := by decide
  have hsorted : everyKind.Pairwise fun d e => frequencyLe d.1 e.1 = true := by decide +kernel
  have hlists := Config.lists_of_perm hperm
  obtain ⟨-, htext, hin⟩ := Config.listsByFrequency.2 (TextMap.ofList everyKind.reverse)
  exact htext everyKind hlists (hin everyKind hlists hsorted)

end BenchDepot.Cpu
