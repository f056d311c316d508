import BenchDepot.Cpu.Frequency
import BenchDepot.Proofs.FiniteDoubles

/-!
# The order of doubles is the order of their bits

The bits of a double are a sign, an exponent and a mantissa.  Of two magnitudes the one with the
larger exponent is larger, and of two with one exponent the one with the larger mantissa; so
magnitudes are ordered as the numbers that their bits spell, from zero over the finite numbers to
infinity.  With its sign, every number is ordered as an integer, and both zeros are the same one.

The double next to a decimal has no sign and is a number: rounding keeps the sign, and a power of
ten is neither zero nor infinite where it divides or multiplies.

* `unpack_ofBits`, `unpack_patternOf` — what bits are read as;
* `compare_decoded` — numbers are compared as their bits are;
* `toNat_nearest_le` — the double next to a decimal has no sign and is no NaN.
-/

namespace BenchDepot.Decimal

open Cpu (Level)
open Float.Model Float.Model.UnpackedFloat

variable {s : Sign} {m n : Nat} {u : UnpackedFloat}

/-! ## The fields of a pattern -/

theorem toNat_unpackMantissa (b : BitVec Format.binary64.numBits) :
    (@unpackMantissa Format.binary64 b).toNat = b.toNat % 2 ^ 52 := by
  simp [unpackMantissa, BitVec.extractLsb]

theorem toNat_unpackExponent (b : BitVec Format.binary64.numBits) :
    (@unpackExponent Format.binary64 b).toNat = b.toNat / 2 ^ 52 % 2 ^ 11 := by
  simp [unpackExponent, BitVec.extractLsb, Nat.shiftRight_eq_div_pow]

theorem toNat_unpackSign (b : BitVec Format.binary64.numBits) :
    (@unpackSign Format.binary64 b).toNat = b.toNat / 2 ^ 63 := by
  have h : b.toNat < 2 ^ 64 := b.isLt
  show (BitVec.extractLsb 63 63 b).toNat = _
  rw [BitVec.extractLsb_toNat, Nat.shiftRight_eq_div_pow]
  omega

theorem toNat_packComponents (s : Sign) (e : BitVec 11) (m : BitVec 52) :
    (packComponents Format.binary64 s e m).toNat =
      s.toBitVec.toNat * 2 ^ 63 + e.toNat * 2 ^ 52 + m.toNat := by
  have he : e.toNat < 2 ^ 11 := e.isLt
  have hm : m.toNat < 2 ^ 52 := m.isLt
  show (s.toBitVec ++ e ++ m).toNat = _
  rw [BitVec.toNat_append, BitVec.toNat_append, ← Nat.shiftLeft_add_eq_or_of_lt hm,
    ← Nat.shiftLeft_add_eq_or_of_lt he, Nat.shiftLeft_eq, Nat.shiftLeft_eq]
  omega

/-! ## Decoding -/

/-- The mantissa of a finite magnitude, with the leading bit that its pattern leaves out. -/
def mantissaOf (n : Nat) : Nat :=
  if n < 2 ^ 52 then n else 2 ^ 52 + n % 2 ^ 52

/-- The exponent of a finite magnitude. -/
def placeOf (n : Nat) : Int :=
  max ((n / 2 ^ 52 : Nat) : Int) 1 - 1075

theorem mantissaOf_pos (h : n ≠ 0) : 0 < mantissaOf n := by
  unfold mantissaOf
  split <;> omega

section

variable {e : Nat} (hm : m < 2 ^ 52)

include hm

theorem mantissaOf_fields : mantissaOf (e * 2 ^ 52 + m) = if e = 0 then m else 2 ^ 52 + m := by
  by_cases he : e = 0
  · rw [if_pos he, he, Nat.zero_mul, Nat.zero_add, mantissaOf, if_pos hm]
  · rw [if_neg he, mantissaOf, if_neg (by omega), Nat.mul_add_mod_self_right, Nat.mod_eq_of_lt hm]

theorem placeOf_fields : placeOf (e * 2 ^ 52 + m) = max (e : Int) 1 - 1075 := by
  rw [placeOf, Nat.add_comm, Nat.add_mul_div_right _ _ (Nat.two_pow_pos 52), Nat.div_eq_of_lt hm,
    Nat.zero_add]

end

/-- The double of a sign and the pattern of a magnitude. -/
def decoded (s : Sign) (n : Nat) : UnpackedFloat :=
  if Level.infinity < n then .notANumber
  else if n = Level.infinity then .infinity s
  else if h : n = 0 then .zero s
  else .finite s (mantissaOf n) (placeOf n) (mantissaOf_pos h)

theorem infinity_eq : Level.infinity = 2047 * 2 ^ 52 :=
  rfl

theorem decoded_infinity (s : Sign) : decoded s Level.infinity = .infinity s := by
  rw [decoded, if_neg (Nat.lt_irrefl _), if_pos rfl]

theorem decoded_zero (s : Sign) : decoded s 0 = .zero s :=
  rfl

theorem decoded_of_lt (h : Level.infinity < n) : decoded s n = .notANumber := by
  rw [decoded, if_pos h]

theorem decoded_finite {e : Int} {hm : 0 < m} (hn : n ≠ 0) (h : n < Level.infinity)
    (hmantissa : mantissaOf n = m) (hplace : placeOf n = e) :
    decoded s n = .finite s m e hm := by
  subst hmantissa hplace
  rw [decoded, if_neg (Nat.lt_asymm h), if_neg (Nat.ne_of_lt h), dif_neg hn]

theorem toNat_one_append (b : BitVec 52) : (1#1 ++ b).toNat = 2 ^ 52 + b.toNat := by
  rw [BitVec.toNat_append, ← Nat.shiftLeft_add_eq_or_of_lt b.isLt]
  rfl

/-- What a pattern is unpacked to depends on its sign and its magnitude. -/
theorem unpack_eq_decoded (b : BitVec Format.binary64.numBits) :
    UnpackedFloat.unpack Format.binary64 b =
      decoded (Sign.ofBitVec (unpackSign b)) (b.toNat % 2 ^ 63) := by
  obtain ⟨e, he⟩ : ∃ e, (@unpackExponent Format.binary64 b).toNat = e := ⟨_, rfl⟩
  obtain ⟨m, hm⟩ : ∃ m, (@unpackMantissa Format.binary64 b).toNat = m := ⟨_, rfl⟩
  have hfields : b.toNat % 2 ^ 63 = e * 2 ^ 52 + m := by
    rw [← he, ← hm, toNat_unpackExponent, toNat_unpackMantissa]
    omega
  have hmtop : m < 2 ^ 52 := hm ▸ BitVec.isLt _
  have hmantissa := mantissaOf_fields (e := e) hmtop
  have hplace := placeOf_fields (e := e) hmtop
  have hfinite : e ≠ 2047 → e * 2 ^ 52 + m < Level.infinity := by
    have hetop : e < 2048 := he ▸ BitVec.isLt _
    rw [infinity_eq]
    omega
  have hones : @unpackExponent Format.binary64 b = -1#_ ↔ e = 2047 := by
    rw [← he, ← BitVec.toNat_inj]
    rfl
  have hleast : @unpackExponent Format.binary64 b = 0#_ ↔ e = 0 := by
    rw [← he, ← BitVec.toNat_inj]
    rfl
  have hnone : @unpackMantissa Format.binary64 b = 0#_ ↔ m = 0 := by
    rw [← hm, ← BitVec.toNat_inj]
    rfl
  rw [hfields]
  unfold UnpackedFloat.unpack
  dsimp only
  by_cases htop : e = 2047
  · subst htop
    rw [if_pos (hones.mpr rfl)]
    by_cases hzero : m = 0
    · subst hzero
      rw [if_pos (hnone.mpr rfl), Nat.add_zero, ← infinity_eq, decoded_infinity]
    · rw [if_neg (mt hnone.mp hzero), decoded_of_lt]
      rw [infinity_eq]
      exact Nat.lt_add_of_pos_right (Nat.pos_of_ne_zero hzero)
  · rw [if_neg (mt hones.mp htop)]
    by_cases hleastExponent : e = 0
    · rw [if_pos (hleast.mpr hleastExponent)]
      by_cases hzero : m = 0
      · subst hleastExponent hzero
        rw [dif_pos (hnone.mpr rfl)]
        rfl
      · rw [if_pos hleastExponent] at hmantissa
        rw [dif_neg (mt hnone.mp hzero)]
        refine (decoded_finite ?_ (hfinite htop) ?_ ?_).symm
        · exact fun hsum => hzero (Nat.eq_zero_of_add_eq_zero_left hsum)
        · rw [hmantissa, hm]
        · rw [hplace, he, hleastExponent]
          rfl
    · rw [if_neg hleastExponent] at hmantissa
      rw [if_neg (mt hleast.mp hleastExponent)]
      refine (decoded_finite ?_ (hfinite htop) ?_ ?_).symm
      · exact fun hsum => hleastExponent (by omega)
      · rw [hmantissa, toNat_one_append, hm]
      · rw [hplace, he]
        have hbias := exponentBias_eq
        show _ = (e : Int) - ((Format.binary64.exponentBias : Int) + 52)
        omega

/-! ## Packing -/

/-- The pattern of a sign and a magnitude. -/
def patternOf (s : Sign) (n : Nat) : BitVec Format.binary64.numBits :=
  BitVec.ofNat 64 (s.toBitVec.toNat * 2 ^ 63 + n)

theorem toNat_patternOf (h : n < 2 ^ 63) :
    (patternOf s n).toNat = s.toBitVec.toNat * 2 ^ 63 + n := by
  have hsign : s.toBitVec.toNat < 2 := s.toBitVec.isLt
  show BitVec.toNat (BitVec.ofNat 64 _) = _
  rw [BitVec.toNat_ofNat]
  omega

theorem unpack_patternOf (h : n < 2 ^ 63) :
    UnpackedFloat.unpack Format.binary64 (patternOf s n) = decoded s n := by
  have hbits := @toNat_patternOf s n h
  have hofBitVec : Sign.ofBitVec (@unpackSign Format.binary64 (patternOf s n)) = s := by
    have hpattern : @unpackSign Format.binary64 (patternOf s n) = s.toBitVec := by
      apply BitVec.eq_of_toNat_eq
      rw [toNat_unpackSign, hbits]
      omega
    rw [hpattern]
    cases s <;> rfl
  rw [unpack_eq_decoded, hofBitVec, hbits]
  congr 1
  omega

/-- A number is packed to its pattern. -/
theorem pack_decoded (h : n ≤ Level.infinity) :
    UnpackedFloat.pack Format.binary64 (decoded s n) = patternOf s n := by
  rcases Nat.lt_or_eq_of_le h with hlt | rfl
  · by_cases hzero : n = 0
    · subst hzero
      cases s <;> rfl
    · obtain ⟨e, m, hm, rfl⟩ : ∃ e m, m < 2 ^ 52 ∧ n = e * 2 ^ 52 + m :=
        ⟨n / 2 ^ 52, n % 2 ^ 52, Nat.mod_lt _ (Nat.two_pow_pos 52), (Nat.div_add_mod' n _).symm⟩
      have hmantissa := mantissaOf_fields (e := e) hm
      have hplace := placeOf_fields (e := e) hm
      have he : e < 2047 := by
        rw [infinity_eq] at hlt
        omega
      have hdecoded : decoded s (e * 2 ^ 52 + m) =
          .finite s _ _ (mantissaOf_pos hzero) := decoded_finite hzero hlt rfl rfl
      rw [hdecoded, pack_finite (by omega)]
      apply BitVec.eq_of_toNat_eq
      rw [toNat_packComponents, toNat_patternOf (by omega), hmantissa, hplace, BitVec.toNat_ofNat]
      by_cases hleast : e = 0
      · have hlog : m.log2 ≠ 52 := by
          have hlt := (Nat.log2_lt (n := m) (k := 52) (by omega)).mpr hm
          omega
        rw [if_pos hleast, if_neg hlog, Nat.mod_eq_of_lt hm, hleast]
        show _ + 0 * 2 ^ 52 + m = _
        omega
      · have hlog : (2 ^ 52 + m).log2 = 52 := by
          rw [Nat.log2_eq_iff (by omega)]
          omega
        rw [if_neg hleast, if_pos hlog, BitVec.toNat_ofNat]
        omega
  · rw [decoded_infinity]
    cases s <;> rfl

/-- The bits of a double decide what it is unpacked to; those of any NaN are unpacked to NaN. -/
theorem unpack_ofBits (bits : UInt64) : (Float.ofBits bits).toModel.unpack =
    UnpackedFloat.unpack Format.binary64 bits.toBitVec := by
  show UnpackedFloat.unpack Format.binary64 (UnpackedFloat.pack Format.binary64
    (UnpackedFloat.unpack Format.binary64 bits.toBitVec)) = _
  rw [unpack_eq_decoded bits.toBitVec]
  generalize hmagnitude : bits.toBitVec.toNat % 2 ^ 63 = n
  generalize Sign.ofBitVec (@unpackSign Format.binary64 bits.toBitVec) = s
  have hlt : n < 2 ^ 63 := hmagnitude ▸ Nat.mod_lt _ (Nat.two_pow_pos 63)
  by_cases h : n ≤ Level.infinity
  · rw [pack_decoded h, unpack_patternOf hlt]
  · rw [decoded_of_lt (Nat.lt_of_not_le h)]
    rfl

/-! ## Comparing -/

/-- The larger pattern has the larger exponent, or the same one and the larger mantissa. -/
theorem compare_fields (m n : Nat) :
    (compare (placeOf m) (placeOf n)).then (compare (mantissaOf m) (mantissaOf n)) =
      compare (m : Int) (n : Int) := by
  have hlt : ∀ {m n : Nat}, m < n → placeOf m < placeOf n ∨
      (placeOf m = placeOf n ∧ mantissaOf m < mantissaOf n) := by
    intro m n h
    unfold placeOf mantissaOf
    split <;> split <;> omega
  rcases Nat.lt_trichotomy m n with h | rfl | h
  · rw [compare_lt_iff_lt.mpr (Int.ofNat_lt.mpr h), Ordering.then_eq_lt, compare_lt_iff_lt,
      compare_eq_iff_eq, compare_lt_iff_lt]
    exact hlt h
  · rw [compare_eq_iff_eq.mpr rfl, compare_eq_iff_eq.mpr rfl, compare_eq_iff_eq.mpr rfl]
    rfl
  · rw [compare_gt_iff_gt.mpr (Int.ofNat_lt.mpr h), Ordering.then_eq_gt, compare_gt_iff_gt,
      compare_eq_iff_eq, compare_gt_iff_gt]
    rcases hlt h with h | ⟨h, h'⟩
    · exact Or.inl h
    · exact Or.inr ⟨h.symm, h'⟩

/-- A pattern up to that of infinity stands for zero, a finite number or infinity. -/
theorem decoded_cases (h : n ≤ Level.infinity) :
    (n = 0 ∧ ∀ s, decoded s n = .zero s) ∨
      (n = Level.infinity ∧ ∀ s, decoded s n = .infinity s) ∨
        (0 < n ∧ n < Level.infinity ∧
          ∃ hm, ∀ s, decoded s n = .finite s (mantissaOf n) (placeOf n) hm) := by
  by_cases hzero : n = 0
  · exact Or.inl ⟨hzero, fun s => hzero ▸ decoded_zero s⟩
  · rcases Nat.lt_or_eq_of_le h with hlt | heq
    · exact Or.inr (Or.inr ⟨Nat.pos_of_ne_zero hzero, hlt, mantissaOf_pos hzero,
        fun s => decoded_finite hzero hlt rfl rfl⟩)
    · exact Or.inr (Or.inl ⟨heq, fun s => heq ▸ decoded_infinity s⟩)

theorem swap_compare_fields (m n : Nat) :
    ((compare (placeOf m) (placeOf n)).then (compare (mantissaOf m) (mantissaOf n))).swap =
      compare (-(m : Int)) (-(n : Int)) := by
  rw [compare_fields, ← Std.OrientedOrd.eq_swap]
  rcases Nat.lt_trichotomy m n with h | rfl | h
  · rw [compare_gt_iff_gt.mpr (Int.ofNat_lt.mpr h), compare_gt_iff_gt.mpr (by omega)]
  · rw [compare_eq_iff_eq.mpr rfl, compare_eq_iff_eq.mpr rfl]
  · rw [compare_lt_iff_lt.mpr (Int.ofNat_lt.mpr h), compare_lt_iff_lt.mpr (by omega)]

theorem some_lt {a b : Int} (h : a < b) : some Ordering.lt = some (compare a b) :=
  congrArg some (compare_lt_iff_lt.mpr h).symm

theorem some_gt {a b : Int} (h : b < a) : some Ordering.gt = some (compare a b) :=
  congrArg some (compare_gt_iff_gt.mpr h).symm

theorem some_eq {a b : Int} (h : a = b) : some Ordering.eq = some (compare a b) :=
  congrArg some (compare_eq_iff_eq.mpr h).symm

/-- Numbers are compared as their patterns with their signs. -/
theorem compare_decoded (s t : Sign) (hm : m ≤ Level.infinity) (hn : n ≤ Level.infinity) :
    (decoded s m).compare (decoded t n) = some (compare (s.apply m) (t.apply n)) := by
  have hinfinity : 0 < Level.infinity := by decide
  rcases decoded_cases hm with ⟨hm, hu⟩ | ⟨hm, hu⟩ | ⟨hm, hm', _, hu⟩ <;>
    rcases decoded_cases hn with ⟨hn, hv⟩ | ⟨hn, hv⟩ | ⟨hn, hn', _, hv⟩ <;>
    rw [hu, hv] <;> clear hu hv <;> cases s <;> cases t <;> unfold Sign.apply <;> dsimp only <;>
    -- the fields are compared for two finite numbers of one sign; elsewhere kind and sign decide
    first
    | exact some_lt (by omega)
    | exact some_gt (by omega)
    | exact some_eq (by omega)
    | exact congrArg some (compare_fields m n)
    | exact congrArg some (swap_compare_fields m n)

/-! ## Numbers without a sign -/

/-- A number whose sign is positive. -/
def Unsigned : UnpackedFloat → Prop
  | .zero s => s = .positive
  | .infinity s => s = .positive
  | .finite s _ _ _ => s = .positive
  | .notANumber => False

/-- What is rounded keeps its sign. -/
theorem unsigned_round (m : Nat) (e : Int) (acc : Accuracy) :
    Unsigned (roundWithAccuracy Format.binary64 .positive m e acc) := by
  obtain ⟨k, r, k', -, -, -, -, hround⟩ := round_spec .positive m e acc
  rw [hround]
  by_cases hzero : r / 2 ^ k' = 0
  · rw [dif_pos hzero]
    rfl
  · rw [dif_neg hzero]
    rfl

/-- The bits of a number without a sign are at most those of infinity. -/
theorem toNat_pack_le (h : Unsigned u) :
    (Float.Model.pack u).toBits.toNat ≤ Level.infinity := by
  show (UnpackedFloat.pack Format.binary64 u).toNat ≤ _
  cases u with
  | notANumber => cases h
  | zero s =>
      cases h
      decide
  | infinity s =>
      cases h
      decide
  | finite s m e hm =>
      cases h
      by_cases he : e ≤ 971
      · have hexponent : (if m.log2 = 52 then BitVec.ofNat 11 (e + 1075).toNat else 0).toNat ≤
            2046 := by
          split
          · rw [BitVec.toNat_ofNat]
            omega
          · decide
        have hmantissa : (BitVec.ofNat 52 m).toNat < 2 ^ 52 := BitVec.isLt _
        have hsign : Sign.positive.toBitVec.toNat = 0 := rfl
        rw [pack_finite he, toNat_packComponents, infinity_eq, hsign]
        omega
      · rw [pack_finite_of_lt (by omega)]
        decide

/-- A double whose bits are at most those of infinity is decoded without a sign. -/
theorem unpack_of_le {x : Float} (h : x.toBits.toNat ≤ Level.infinity) :
    x.toModel.unpack = decoded .positive x.toBits.toNat := by
  have hlt : x.toBits.toNat < 2 ^ 63 := Nat.lt_of_le_of_lt h (by decide)
  have hpattern : x.toModel.toBits.toBitVec = patternOf .positive x.toBits.toNat := by
    apply BitVec.eq_of_toNat_eq
    rw [toNat_patternOf hlt]
    show x.toBits.toNat = 0 * 2 ^ 63 + _
    omega
  rw [← unpack_patternOf hlt, ← hpattern]
  rfl

/-- A finite number, without a sign and below infinity. -/
theorem exists_unpack_of_lt {x : Float} (h : x.toBits.toNat < Level.infinity) :
    x.toModel.unpack = .zero .positive ∨
      ∃ m e hm, x.toModel.unpack = .finite .positive m e hm := by
  rw [unpack_of_le h.le]
  rcases decoded_cases h.le with ⟨_, hu⟩ | ⟨heq, _⟩ | ⟨_, _, _, hu⟩
  · exact Or.inl (hu _)
  · exact absurd heq (Nat.ne_of_lt h)
  · exact Or.inr ⟨_, _, _, hu _⟩

section

variable {x y : Float} (hx : x.toBits.toNat < Level.infinity) (hy : y.toBits.toNat < Level.infinity)

include hx hy

/-- A product of finite numbers without a sign has none. -/
theorem toNat_mul_le : (x * y).toBits.toNat ≤ Level.infinity := by
  apply toNat_pack_le
  rcases exists_unpack_of_lt hx with hu | ⟨m₁, e₁, hm₁, hu⟩ <;>
    rcases exists_unpack_of_lt hy with hv | ⟨m₂, e₂, hm₂, hv⟩ <;> rw [hu, hv]
  · rfl
  · rfl
  · rfl
  · exact unsigned_round _ _ _

/-- A quotient of finite numbers without a sign has none, if it is not by zero. -/
theorem toNat_div_le (hpos : 0 < y.toBits.toNat) : (x / y).toBits.toNat ≤ Level.infinity := by
  apply toNat_pack_le
  have hv : ∃ m e hm, y.toModel.unpack = .finite .positive m e hm := by
    rw [unpack_of_le hy.le]
    exact ⟨_, _, mantissaOf_pos hpos.ne', decoded_finite hpos.ne' hy rfl rfl⟩
  obtain ⟨m₂, e₂, hm₂, hv⟩ := hv
  rcases exists_unpack_of_lt hx with hu | ⟨m₁, e₁, hm₁, hu⟩ <;> rw [hu, hv]
  · rfl
  · exact unsigned_round _ _ _

end

theorem unsigned_ofNat (n : Nat) : Unsigned (UnpackedFloat.ofNat Format.binary64 n) := by
  by_cases hzero : n = 0
  · subst hzero
    rfl
  · have hcompare : compare (n : Int) 0 = .gt := by
      rw [compare_gt_iff_gt]
      omega
    unfold UnpackedFloat.ofNat UnpackedFloat.ofInt UnpackedFloat.normalize
    rw [hcompare]
    exact unsigned_round _ _ _

/-- The double of a 64-bit word is finite and has no sign. -/
theorem toNat_toFloat_lt (n : UInt64) : n.toFloat.toBits.toNat < Level.infinity := by
  have hle : n.toFloat.toBits.toNat ≤ Level.infinity := toNat_pack_le (unsigned_ofNat n.toNat)
  have hexponent : exponentOf n.toFloat = n.toFloat.toBits.toNat / 2 ^ 52 % 2 ^ 11 :=
    toNat_unpackExponent _
  have hlow := exponentOf_toFloat_le n
  rw [infinity_eq] at hle ⊢
  omega

/-- The powers of ten that are doubles are positive and finite. -/
theorem exactPower_bits : ∀ n : Fin 23,
    0 < (Float.exactlyRepresentablePowersOfTen[n]).toBits.toNat ∧
      (Float.exactlyRepresentablePowersOfTen[n]).toBits.toNat < Level.infinity := by
  decide

theorem unsigned_ofScientific (m : Nat) (e : Int) :
    Unsigned (UnpackedFloat.ofScientific Format.binary64 m e) := by
  unfold UnpackedFloat.ofScientific
  by_cases hzero : m = 0
  · rw [dif_pos hzero]
    rfl
  rw [dif_neg hzero]
  refine iteInduction (motive := Unsigned) (fun _ => rfl) fun _ => ?_
  refine iteInduction (motive := Unsigned) (fun _ => rfl) fun _ => ?_
  exact iteInduction (motive := Unsigned) (fun _ => unsigned_round _ _ _)
    fun _ => unsigned_round _ _ _

theorem toNat_ofScientific_le (m : Nat) (down : Bool) (e : Nat) :
    (Float.ofScientific m down e).toBits.toNat ≤ Level.infinity := by
  unfold Float.ofScientific
  split
  · next h =>
    have hpower := exactPower_bits ⟨e, by omega⟩
    dsimp only
    split
    · exact toNat_div_le (toNat_toFloat_lt _) hpower.2 hpower.1
    · exact toNat_mul_le (toNat_toFloat_lt _) hpower.2
  · exact toNat_pack_le (unsigned_ofScientific _ _)

/-- The double next to a decimal is a number without a sign. -/
theorem toNat_nearest_le (digits : Nat) (exponent : Int) :
    (nearest digits exponent).toBits.toNat ≤ Level.infinity := by
  cases exponent <;> exact toNat_ofScientific_le _ _ _

end BenchDepot.Decimal
