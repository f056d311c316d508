import BenchDepot.Decimal.Double
import Mathlib.Algebra.Order.Ring.Nat
import Mathlib.Data.Nat.Log

/-!
# Numerals read as finite doubles

A double is a mantissa of at most 53 bits and an exponent of at most 971, or it is no number.  What
an operation comes to is rounded to 53 bits, which may raise the exponent by one more than the bits
that are cut off.  So the exponents of what is computed can be bounded by those of what it is
computed from: a significand of 64 bits is far from the largest double, and a division by a power of
ten leads away from it.  A multiplication may reach it, and is looked at when it is done.

* `within_round` — how large what is rounded may be;
* `round_normal` — what is rounded to 53 bits is as large as before;
* `isFinite_div` — a quotient by at least two is finite;
* `isFinite_of_toFloat?` — the double that a numeral reads as is finite;
* `isSome_toFloat?_ofInt` — the numeral of a natural number of 64 bits reads as one;
* `zero_le_of_not_lt` — a number that is not below zero is at least zero.
-/

namespace BenchDepot.Decimal

open Float.Model Float.Model.UnpackedFloat

/-- A zero, or a finite number whose exponent is at most some bound. -/
def Within (top : Int) : UnpackedFloat → Prop
  | .zero _ => True
  | .finite _ _ e _ => e ≤ top
  | _ => False

/-- A zero, or a number as it is kept under an exponent that counts from the least one: with 53
bits, or with fewer under the least. -/
def Fits (exponent : Nat) : UnpackedFloat → Prop
  | .zero _ => exponent = 0
  | .finite _ m e _ =>
    m.log2 ≤ 52 ∧ e = max (exponent : Int) 1 - 1075 ∧ (exponent ≠ 0 → m.log2 = 52)
  | _ => False

/-- A number of at least two, up to its sign, or an infinite one. -/
def ReachesTwo : UnpackedFloat → Prop
  | .infinity _ => True
  | .finite _ m e _ => 1 ≤ (m.log2 : Int) + e
  | _ => False

instance : DecidablePred ReachesTwo
  | .infinity _ => .isTrue trivial
  | .finite _ m e _ => inferInstanceAs (Decidable (1 ≤ (m.log2 : Int) + e))
  | .zero _ => .isFalse id
  | .notANumber => .isFalse id

/-- The exponent of a double as it is kept, counted from the least one. -/
def exponentOf (x : Float) : Nat :=
  (@unpackExponent Format.binary64 x.toModel.toBits.toBitVec).toNat

variable {s : Sign} {m : Nat} {e top : Int} {acc : Accuracy} {u v : UnpackedFloat}

/-- What fits is a zero or a finite number. -/
theorem Fits.cases {exponent : Nat} (h : Fits exponent u) :
    (exponent = 0 ∧ ∃ s, u = .zero s) ∨ ∃ s m e hm, u = .finite s m e hm ∧ m.log2 ≤ 52 ∧
      e = max (exponent : Int) 1 - 1075 ∧ (exponent ≠ 0 → m.log2 = 52) := by
  cases u with
  | zero s => exact Or.inl ⟨h, s, rfl⟩
  | finite s m e hm => exact Or.inr ⟨s, m, e, hm, rfl, h⟩
  | infinity s => cases h
  | notANumber => cases h

/-! ## Logarithms -/

theorem log2_div_two_pow (n k : Nat) : (n / 2 ^ k).log2 = n.log2 - k := by
  rw [Nat.log2_eq_log_two, Nat.log2_eq_log_two, Nat.log_div_base_pow]

theorem log2_mono {a b : Nat} (h : a ≤ b) : a.log2 ≤ b.log2 := by
  rw [Nat.log2_eq_log_two, Nat.log2_eq_log_two]
  exact Nat.log_mono_right h

theorem log2_mul_two_pow {n : Nat} (hn : n ≠ 0) (k : Nat) : (n * 2 ^ k).log2 = n.log2 + k := by
  have hpos : 0 < 2 ^ k := Nat.two_pow_pos k
  have hdiv := log2_div_two_pow (n * 2 ^ k) k
  rw [Nat.mul_div_cancel n hpos] at hdiv
  have hle : k ≤ (n * 2 ^ k).log2 := by
    rw [Nat.le_log2 (Nat.mul_ne_zero hn hpos.ne')]
    exact Nat.le_mul_of_pos_left _ (Nat.pos_of_ne_zero hn)
  omega

theorem log2_add_one_le (n : Nat) : (n + 1).log2 ≤ n.log2 + 1 := by
  have hlt : n < 2 ^ (n.log2 + 1) := Nat.lt_log2_self
  have hle : n + 1 ≤ 2 ^ (n.log2 + 1) := hlt
  have hlog := log2_mono hle
  rwa [Nat.log2_two_pow] at hlog

theorem log2_mul_le (a b : Nat) : (a * b).log2 ≤ a.log2 + b.log2 + 1 := by
  by_cases hzero : a * b = 0
  · rw [hzero]
    exact Nat.zero_le _
  · have hlt : a * b < 2 ^ (a.log2 + 1) * 2 ^ (b.log2 + 1) :=
      Nat.mul_lt_mul'' Nat.lt_log2_self Nat.lt_log2_self
    rw [← Nat.pow_add] at hlt
    have hlog := (Nat.log2_lt hzero).mpr hlt
    omega

/-! ## Rounding -/

theorem mantissa_shiftRight (em : ExtendedMantissa) (k : Nat) :
    (em >>> k).mantissa = em.mantissa / 2 ^ k := by
  induction k with
  | zero =>
      show em.mantissa = _
      rw [Nat.pow_zero, Nat.div_one]
  | succ k ih =>
      show (em >>> k).mantissa / 2 = _
      rw [ih, Nat.div_div_eq_div_mul, Nat.pow_succ]

theorem roundedMantissa_bounds (em : ExtendedMantissa) :
    em.mantissa ≤ em.roundedMantissa ∧ em.roundedMantissa ≤ em.mantissa + 1 := by
  obtain ⟨m, roundBit, stickyBit⟩ := em
  cases roundBit <;> cases stickyBit <;>
    simp only [ExtendedMantissa.roundedMantissa, ExtendedMantissa.accuracy,
      Accuracy.roundToNearestEven] <;> omega

theorem targetExponent_eq (total : Int) :
    Format.binary64.targetExponent total = max (total - 53) (-1074) :=
  rfl

/-- A mantissa is shifted to 53 bits, or less far if the exponent would be too small. -/
theorem shift_spec (m : Nat) (e : Int) (acc : Accuracy) : ∃ (k : Nat) (em : ExtendedMantissa),
    shiftToTargetExponent Format.binary64 m e acc = (em, e + k) ∧ em.mantissa = m / 2 ^ k ∧
      e + k = max e (max (m.log2 + e - 52) (-1074)) := by
  have htarget : Format.binary64.targetExponent (totalExponent m e) =
      max (m.log2 + e - 52) (-1074) := by
    rw [targetExponent_eq, totalExponent]
    omega
  obtain ⟨k, hk⟩ : ∃ k, k = (max ((m.log2 : Int) + e - 52) (-1074) - e).toNat := ⟨_, rfl⟩
  refine ⟨k, ExtendedMantissa.ofMantissaAndAccuracy m acc >>> k, ?_, ?_, by omega⟩
  · rw [shiftToTargetExponent, htarget, shiftToExponent, ← hk]
  · rw [mantissa_shiftRight]
    cases acc with
    | exact => rfl
    | inexact o => cases o <;> rfl

/-- What is rounded is shifted, changed by one at most, and shifted again. -/
theorem round_spec (s : Sign) (m : Nat) (e : Int) (acc : Accuracy) : ∃ k r k' : Nat,
    e + k = max e (max (m.log2 + e - 52) (-1074)) ∧ m / 2 ^ k ≤ r ∧ r ≤ m / 2 ^ k + 1 ∧
      e + k + k' = max (e + k) (max (r.log2 + (e + k) - 52) (-1074)) ∧
        roundWithAccuracy Format.binary64 s m e acc =
          if h : r / 2 ^ k' = 0 then .zero s
          else .finite s (r / 2 ^ k') (e + k + k') (Nat.pos_of_ne_zero h) := by
  obtain ⟨k, em, hshift, hm, hk⟩ := shift_spec m e acc
  obtain ⟨k', em', hshift', hm', hk'⟩ := shift_spec em.roundedMantissa (e + k) .exact
  have hbounds := roundedMantissa_bounds em
  rw [hm] at hbounds
  refine ⟨k, em.roundedMantissa, k', hk, hbounds.1, hbounds.2, hk', ?_⟩
  rw [roundWithAccuracy, hshift]
  dsimp only
  rw [hshift']
  dsimp only
  rw [hm']

/-- The exponent of what is rounded is bounded by where its leading bit stands. -/
theorem within_round (s : Sign) (acc : Accuracy) (he : e ≤ top) (hlead : m.log2 + e - 51 ≤ top)
    (hleast : -1074 ≤ top) : Within top (roundWithAccuracy Format.binary64 s m e acc) := by
  obtain ⟨k, r, k', hk, -, hr, hk', hround⟩ := round_spec s m e acc
  rw [hround]
  by_cases hzero : r / 2 ^ k' = 0
  · rw [dif_pos hzero]
    exact trivial
  · rw [dif_neg hzero]
    have hlog : r.log2 ≤ m.log2 - k + 1 := by
      rw [← log2_div_two_pow]
      exact (log2_mono hr).trans (log2_add_one_le _)
    show e + k + k' ≤ top
    omega

/-- What has 53 bits or more is rounded to 53 bits, and its leading bit stands no lower. -/
theorem round_normal (s : Sign) (acc : Accuracy) (hm : 52 ≤ m.log2) (he : -1074 ≤ e) :
    ∃ m' e' hpos, roundWithAccuracy Format.binary64 s m e acc = .finite s m' e' hpos ∧
      m'.log2 = 52 ∧ m.log2 + e - 52 ≤ e' := by
  obtain ⟨k, r, k', hk, hlow, hhigh, hk', hround⟩ := round_spec s m e acc
  have hfirst : (m / 2 ^ k).log2 = 52 := by
    rw [log2_div_two_pow]
    omega
  have hr : r.log2 = 52 ∨ r.log2 = 53 := by
    have hle := log2_mono hlow
    have hge := (log2_mono hhigh).trans (log2_add_one_le _)
    omega
  have hsecond : (r / 2 ^ k').log2 = 52 := by
    rw [log2_div_two_pow]
    omega
  have hne : r / 2 ^ k' ≠ 0 := by
    intro hzero
    rw [hzero] at hsecond
    cases hsecond
  rw [dif_neg hne] at hround
  exact ⟨_, _, _, hround, hsecond, by omega⟩

/-! ## Packing -/

theorem log2_le_of_bits (v : BitVec 52) : v.toNat.log2 ≤ 52 := by
  by_cases hzero : v.toNat = 0
  · rw [hzero]
    decide
  · have hlt := (Nat.log2_lt hzero).mpr v.isLt
    omega

theorem log2_append (v : BitVec 52) : (1#1 ++ v).toNat.log2 = 52 := by
  have hlow : 2 ^ 52 ≤ (1#1 ++ v).toNat := by
    rw [BitVec.toNat_append]
    exact Nat.left_le_or
  have hhigh : (1#1 ++ v).toNat < 2 ^ 53 := (1#1 ++ v).isLt
  rw [Nat.log2_eq_iff (by omega)]
  exact ⟨hlow, hhigh⟩

theorem exponentBias_eq : (Format.binary64.exponentBias : Int) = 1023 := rfl

/-- A double below the largest exponent is what fits there. -/
theorem fits_unpack {x : Float} (h : exponentOf x < 2047) :
    Fits (exponentOf x) x.toModel.unpack := by
  have hne : @unpackExponent Format.binary64 x.toModel.toBits.toBitVec ≠ -1#_ := by
    intro hones
    rw [exponentOf, hones] at h
    exact absurd h (by decide)
  unfold Float.Model.unpack UnpackedFloat.unpack
  dsimp only
  rw [if_neg hne]
  by_cases hzero : @unpackExponent Format.binary64 x.toModel.toBits.toBitVec = 0#_
  · have hbits : @unpackExponent Format.binary64 x.toModel.toBits.toBitVec = 0#11 :=
      hzero
    have hexponent : exponentOf x = 0 := by
      rw [exponentOf, hbits]
      rfl
    rw [if_pos hzero]
    by_cases hmantissa : @unpackMantissa Format.binary64 x.toModel.toBits.toBitVec = 0#_
    · rw [dif_pos hmantissa]
      exact hexponent
    · rw [dif_neg hmantissa]
      refine ⟨log2_le_of_bits _, ?_, fun hne' => absurd hexponent hne'⟩
      rw [hexponent, hbits]
      decide
  · have hexponent : exponentOf x ≠ 0 := by
      intro heq
      exact hzero (BitVec.eq_of_toNat_eq heq)
    have hlog := log2_append (@unpackMantissa Format.binary64 x.toModel.toBits.toBitVec)
    rw [if_neg hzero]
    refine ⟨hlog.le, ?_, fun _ => hlog⟩
    have hbias := exponentBias_eq
    show (exponentOf x : Int) - ((Format.binary64.exponentBias : Int) + 52) = _
    omega

/-- The finite doubles are those below the largest exponent. -/
theorem isFinite_iff (x : Float) : x.isFinite = true ↔ exponentOf x < 2047 := by
  show x.toModel.unpack.isFinite = true ↔ _
  constructor
  · intro hfinite
    have hlt : exponentOf x < 2048 := BitVec.isLt _
    by_contra hnot
    have hones : @unpackExponent Format.binary64 x.toModel.toBits.toBitVec = -1#_ := by
      apply BitVec.eq_of_toNat_eq
      show exponentOf x = 2047
      omega
    unfold Float.Model.unpack UnpackedFloat.unpack at hfinite
    dsimp only at hfinite
    rw [if_pos hones] at hfinite
    split at hfinite <;> cases hfinite
  · intro h
    rcases (fits_unpack h).cases with ⟨_, s, hu⟩ | ⟨s, m, e, hm, hu, _⟩
    · rw [hu]
      rfl
    · rw [hu]
      rfl

/-- A number of an exponent that is not too large is kept without its leading bit if it has 53 bits,
and under the least exponent otherwise. -/
theorem pack_finite {hm : 0 < m} (h : e ≤ 971) :
    UnpackedFloat.pack Format.binary64 (.finite s m e hm) =
      packComponents Format.binary64 s
        (if m.log2 = 52 then BitVec.ofNat 11 (e + 1075).toNat else 0) (BitVec.ofNat 52 m) := by
  have hbiased : (e + Format.binary64.exponentBias + (52 : Nat)).toNat = (e + 1075).toNat := by
    rw [exponentBias_eq]
    congr 1
    omega
  unfold UnpackedFloat.pack
  dsimp only
  rw [hbiased, if_neg (by show ¬(2048 : Nat) ≤ _; omega)]
  by_cases hlog : m.log2 = 52
  · rw [if_pos (by rw [hlog]; rfl), if_pos hlog]
  · have hbits : m.log2 + 1 ≠ Format.binary64.mantissaBits := by
      show m.log2 + 1 ≠ 53
      omega
    rw [if_neg hbits, if_neg hlog]
    rfl

/-- A number of a larger exponent is kept as infinity. -/
theorem pack_finite_of_lt {hm : 0 < m} (h : 971 < e) :
    UnpackedFloat.pack Format.binary64 (.finite s m e hm) =
      packedInfinity Format.binary64 s := by
  have hbias := exponentBias_eq
  unfold UnpackedFloat.pack
  dsimp only
  rw [if_pos]
  show (2048 : Nat) ≤ (e + (Format.binary64.exponentBias : Int) + (52 : Nat)).toNat + 1
  omega

/-- The exponent under which a number is kept. -/
theorem exponentOf_pack {hm : 0 < m} (h : e ≤ 971) :
    exponentOf (.ofModel (Float.Model.pack (.finite s m e hm))) =
      if m.log2 = 52 then (e + 1075).toNat else 0 := by
  show (unpackExponent (UnpackedFloat.pack Format.binary64 (.finite s m e hm))).toNat = _
  rw [pack_finite h, unpackExponent_packComponents]
  by_cases hlog : m.log2 = 52
  · rw [if_pos hlog, if_pos hlog, BitVec.toNat_ofNat]
    exact Nat.mod_eq_of_lt (by show _ < 2048; omega)
  · rw [if_neg hlog, if_neg hlog]
    rfl

/-- What is within a bound is kept within it. -/
theorem exponentOf_pack_le (h : Within top u) (hleast : -1074 ≤ top) (htop : top ≤ 971) :
    (exponentOf (.ofModel (Float.Model.pack u)) : Int) ≤ top + 1075 := by
  cases u with
  | zero s =>
      have hzero : exponentOf (.ofModel (Float.Model.pack (.zero s))) = 0 := by
        cases s <;> decide
      omega
  | finite s m e hm =>
      have he : e ≤ top := h
      rw [exponentOf_pack (by omega)]
      split <;> omega
  | infinity s => cases h
  | notANumber => cases h

theorem isFinite_pack (h : Within 971 u) :
    (Float.ofModel (Float.Model.pack u)).isFinite = true := by
  have hle := exponentOf_pack_le h (by decide) (by decide)
  rw [isFinite_iff]
  omega

/-- A number of 53 bits that is not small reaches two, also when it is kept. -/
theorem reachesTwo_pack {hm : 0 < m} (hlog : m.log2 = 52) (he : -51 ≤ e) :
    ReachesTwo (Float.Model.pack (.finite s m e hm)).unpack := by
  by_cases htop : e ≤ 971
  · have hexponent := @exponentOf_pack s m e hm htop
    rw [if_pos hlog] at hexponent
    have hfits := @fits_unpack (.ofModel (Float.Model.pack (.finite s m e hm))) (by omega)
    rw [hexponent] at hfits
    revert hfits
    show Fits _ (Float.Model.pack (.finite s m e hm)).unpack → _
    generalize (Float.Model.pack (.finite s m e hm)).unpack = u
    intro hfits
    rcases hfits.cases with ⟨hzero, _⟩ | ⟨s', m', e', hm', rfl, _, he', hnormal⟩
    · omega
    · have hlog' := hnormal (by omega)
      show 1 ≤ (m'.log2 : Int) + e'
      omega
  · have hinfinity : (Float.Model.pack (.finite s m e hm)).unpack =
        UnpackedFloat.unpack Format.binary64 (packedInfinity Format.binary64 s) := by
      rw [← @pack_finite_of_lt s m e hm (by omega)]
      rfl
    rw [hinfinity]
    cases s <;> exact trivial

/-! ## Operations -/

theorem isFinite_neg {x : Float} (h : x.isFinite = true) : (-x).isFinite = true := by
  have hlt := (isFinite_iff x).mp h
  refine isFinite_pack (u := x.toModel.unpack.neg) ?_
  rcases (fits_unpack hlt).cases with ⟨_, s, hu⟩ | ⟨s, m, e, hm, hu, _, he, _⟩
  · rw [hu]
    exact trivial
  · rw [hu]
    show e ≤ 971
    omega

theorem log2_div_le {a b : Nat} (hb : b ≠ 0) (h : a / b ≠ 0) :
    (a / b).log2 + b.log2 ≤ a.log2 := by
  have ha : a ≠ 0 := by
    rintro rfl
    simp at h
  rw [Nat.le_log2 ha, Nat.pow_add]
  calc 2 ^ (a / b).log2 * 2 ^ b.log2
      ≤ a / b * b := Nat.mul_le_mul (Nat.log2_self_le h) (Nat.log2_self_le hb)
    _ ≤ a := Nat.div_mul_le_self a b

/-- The quotient of a finite number by one that reaches two is within the bounds of a double. -/
theorem within_div {exponent : Nat} (hu : Fits exponent u) (hexponent : exponent < 2047)
    (hv : ReachesTwo v) : Within 971 (UnpackedFloat.div Format.binary64 u v) := by
  rcases hu.cases with ⟨_, s, rfl⟩ | ⟨s₁, m₁, e₁, hm₁, rfl, hlog, he₁, _⟩
  · cases v <;> first | exact trivial | cases hv
  · cases v with
    | zero s => cases hv
    | infinity s => exact trivial
    | notANumber => cases hv
    | finite s₂ m₂ e₂ hm₂ =>
        have hreach : 1 ≤ (m₂.log2 : Int) + e₂ := hv
        -- where the quotient is cut off
        obtain ⟨cut, hcut⟩ : ∃ cut, cut = min (e₁ - e₂) (max
            ((m₁.log2 : Int) + e₁ - (m₂.log2 + e₂) - 53) (-1074)) := ⟨_, rfl⟩
        have hdiv : UnpackedFloat.div Format.binary64 (.finite s₁ m₁ e₁ hm₁)
            (.finite s₂ m₂ e₂ hm₂) = roundWithAccuracy Format.binary64 (s₁ / s₂)
              (m₁ <<< (e₁ - e₂ - cut).toNat / m₂) cut
              (accuracyOfFraction (m₁ <<< (e₁ - e₂ - cut).toNat % m₂) m₂) := by
          have htarget : Format.binary64.targetExponent
              (totalExponent m₁ e₁ - totalExponent m₂ e₂) =
                max ((m₁.log2 : Int) + e₁ - (m₂.log2 + e₂) - 53) (-1074) := by
            rw [targetExponent_eq, totalExponent, totalExponent]
            omega
          unfold UnpackedFloat.div divCore
          dsimp only
          rw [htarget, ← hcut]
        rw [hdiv]
        refine within_round _ _ (by omega) ?_ (by decide)
        by_cases hzero : m₁ <<< (e₁ - e₂ - cut).toNat / m₂ = 0
        · rw [hzero]
          have hlogzero : Nat.log2 0 = 0 := rfl
          omega
        · have hquotient := log2_div_le hm₂.ne' hzero
          rw [Nat.shiftLeft_eq, log2_mul_two_pow hm₁.ne'] at hquotient
          rw [Nat.shiftLeft_eq]
          omega

/-- A finite double divided by one that reaches two is finite. -/
theorem isFinite_div {x y : Float} (hx : x.isFinite = true)
    (hy : ReachesTwo y.toModel.unpack) : (x / y).isFinite = true :=
  have hlt := (isFinite_iff x).mp hx
  isFinite_pack (within_div (fits_unpack hlt) hlt hy)

/-- The exponent of a product is bounded by those of its factors together. -/
theorem within_mul {x y : Float} (hx : x.isFinite = true) (hy : y.isFinite = true) {top : Int}
    (h : (exponentOf x : Int) + exponentOf y ≤ top + 2095) (hleast : -1074 ≤ top) :
    Within top (UnpackedFloat.mul Format.binary64 x.toModel.unpack y.toModel.unpack) := by
  have hltx := (isFinite_iff x).mp hx
  have hlty := (isFinite_iff y).mp hy
  rcases (fits_unpack hltx).cases with ⟨_, s₁, hu⟩ | ⟨s₁, m₁, e₁, hm₁, hu, hlog₁, he₁, _⟩
  · rcases (fits_unpack hlty).cases with ⟨_, s₂, hv⟩ | ⟨s₂, m₂, e₂, hm₂, hv, _⟩ <;> rw [hu, hv] <;>
      exact trivial
  · rcases (fits_unpack hlty).cases with ⟨_, s₂, hv⟩ | ⟨s₂, m₂, e₂, hm₂, hv, hlog₂, he₂, _⟩
    · rw [hu, hv]
      exact trivial
    · have hlog := log2_mul_le m₁ m₂
      rw [hu, hv]
      exact within_round (s₁ * s₂) _ (by omega) (by omega) hleast

/-! ## Significands and powers of ten -/

/-- A natural number of 64 bits is far from the largest double. -/
theorem within_ofNat {n : Nat} (h : n.log2 ≤ 63) :
    Within 12 (UnpackedFloat.ofNat Format.binary64 n) := by
  by_cases hzero : n = 0
  · subst hzero
    exact trivial
  · have hcompare : compare (n : Int) 0 = .gt := by
      rw [compare_gt_iff_gt]
      omega
    unfold UnpackedFloat.ofNat UnpackedFloat.ofInt UnpackedFloat.normalize
    rw [hcompare]
    dsimp only
    unfold UnpackedFloat.round decreaseExponent
    dsimp only
    refine within_round _ _ (by omega) ?_ (by decide)
    rw [Nat.shiftLeft_eq, Int.toNat_natCast, log2_mul_two_pow hzero]
    omega

/-- A number times a power of ten is rounded once. -/
theorem ofScientific_eq {n k : Nat} (hn : n ≠ 0) (hk : k ≤ 2048) :
    UnpackedFloat.ofScientific Format.binary64 n (Int.ofNat k) =
      roundWithAccuracy Format.binary64 .positive (n <<< 53 * 10 ^ k) (-53) .exact := by
  have hsmall : ¬(Int.ofNat k > 2 ^ Format.binary64.exponentBits) := by
    show ¬((2048 : Int) < (k : Int))
    omega
  have hlarge : ¬(Int.ofNat k < -((2 ^ Format.binary64.exponentBits : Int) + n.log2)) := by
    show ¬((k : Int) < -((2048 : Int) + n.log2))
    omega
  have hnonneg : 0 ≤ Int.ofNat k := Int.natCast_nonneg k
  unfold UnpackedFloat.ofScientific
  rw [dif_neg hn, if_neg hsmall, if_neg hlarge, if_pos hnonneg]
  rfl

/-- The double of a 64-bit word is far from the largest one. -/
theorem exponentOf_toFloat_le (n : UInt64) : exponentOf n.toFloat ≤ 1087 := by
  have hlog : n.toNat.log2 ≤ 63 := by
    have hle : n.toNat ≤ 2 ^ 64 - 1 := by
      have hlt := n.toNat_lt
      omega
    have hmono := log2_mono hle
    have hbits : (2 ^ 64 - 1).log2 = 63 := by decide
    omega
  have hle : (exponentOf n.toFloat : Int) ≤ 12 + 1075 :=
    exponentOf_pack_le (within_ofNat hlog) (by decide) (by decide)
  omega

/-- A significand is far from the largest double. -/
theorem exponentOf_ofNat_le {n : Nat} (h : n ≤ significandLimit) :
    exponentOf (Float.ofNat n) ≤ 1090 := by
  have hlog : n.log2 ≤ 63 := by
    have hle := log2_mono h
    have hlimit : significandLimit.log2 = 63 := by decide
    omega
  unfold Float.ofNat OfScientific.ofScientific instOfScientificFloat Float.ofScientific
  dsimp only
  split
  · -- a small number is multiplied by one
    show exponentOf (n.toUInt64.toFloat * Float.ofBits 0x3FF0000000000000) ≤ 1090
    have hone : exponentOf (Float.ofBits 0x3FF0000000000000) = 1023 := by decide
    have hexponent := exponentOf_toFloat_le n.toUInt64
    have hwithin : Within 15 (UnpackedFloat.mul Format.binary64 n.toUInt64.toFloat.toModel.unpack
        (Float.ofBits 0x3FF0000000000000).toModel.unpack) :=
      within_mul ((isFinite_iff _).mpr (by omega)) ((isFinite_iff _).mpr (by omega)) (by omega)
        (by decide)
    have hle : (exponentOf (n.toUInt64.toFloat * Float.ofBits 0x3FF0000000000000) : Int) ≤
        15 + 1075 := exponentOf_pack_le hwithin (by decide) (by decide)
    omega
  · by_cases hzero : n = 0
    · subst hzero
      decide
    · have hwithin : Within 12 (UnpackedFloat.ofScientific Format.binary64 n (Int.ofNat 0)) := by
        rw [ofScientific_eq hzero (by decide), Nat.shiftLeft_eq, Nat.pow_zero, Nat.mul_one]
        refine within_round _ _ (by decide) ?_ (by decide)
        rw [log2_mul_two_pow hzero]
        omega
      have hle : (exponentOf (.ofModel (Float.Model.pack
          (UnpackedFloat.ofScientific Format.binary64 n (Int.ofNat 0)))) : Int) ≤ 12 + 1075 :=
        exponentOf_pack_le hwithin (by decide) (by decide)
      show exponentOf (.ofModel (Float.Model.pack
        (UnpackedFloat.ofScientific Format.binary64 n (Int.ofNat 0)))) ≤ 1090
      omega

/-- A significand is a finite double. -/
theorem isFinite_ofNat {n : Nat} (h : n ≤ significandLimit) :
    (Float.ofNat n).isFinite = true := by
  have hle := exponentOf_ofNat_le h
  exact (isFinite_iff _).mpr (by omega)

/-- The powers of ten that are doubles reach two. -/
theorem reachesTwo_exactPower : ∀ n : Fin 22,
    ReachesTwo (powerOfTen (n + 1)).toModel.unpack := by
  decide

/-- A power of ten reaches two. -/
theorem reachesTwo_powerOfTen {n : Nat} (hpos : 1 ≤ n) (hn : n ≤ powerLimit) :
    ReachesTwo (powerOfTen n).toModel.unpack := by
  have hlimit : powerLimit = 308 := rfl
  by_cases hexact : n ≤ 22
  · obtain ⟨k, rfl⟩ := Nat.exists_eq_add_of_le' hpos
    exact reachesTwo_exactPower ⟨k, by omega⟩
  · have hslow : powerOfTen n = .ofModel (Float.Model.ofScientific 1 (Int.ofNat n)) := by
      unfold powerOfTen Float.ofScientific
      rw [dif_neg (by omega)]
      rfl
    have hlog : 54 ≤ (1 <<< 53 * 10 ^ n).log2 := by
      have hten : 10 ^ 1 ≤ 10 ^ n := Nat.pow_le_pow_right (by decide) hpos
      rw [Nat.shiftLeft_eq, Nat.one_mul, Nat.mul_comm, log2_mul_two_pow (by omega)]
      have hmono := log2_mono hten
      have hone : (10 ^ 1).log2 = 3 := by decide
      omega
    obtain ⟨m, e, hm, hround, hbits, he⟩ := round_normal .positive .exact (e := -53)
      (m := 1 <<< 53 * 10 ^ n) (by omega) (by decide)
    rw [hslow]
    show ReachesTwo (Float.Model.pack (UnpackedFloat.ofScientific Format.binary64 1
      (Int.ofNat n))).unpack
    rw [ofScientific_eq (by decide) (by omega), hround]
    exact reachesTwo_pack hbits (by omega)

theorem isFinite_div_powerOfTen {x : Float} (hx : x.isFinite = true) {n : Nat} (hpos : 1 ≤ n)
    (hn : n ≤ powerLimit) : (x / powerOfTen n).isFinite = true :=
  isFinite_div hx (reachesTwo_powerOfTen hpos hn)

/-! ## Numerals -/

theorem extendWhole_le {s : Nat} (h : s ≤ significandLimit) (digits : List (Fin 10)) :
    (extendWhole s digits).1 ≤ significandLimit := by
  induction digits generalizing s with
  | nil => exact h
  | cons d rest ih =>
      rw [extendWhole]
      split
      · next hfits => exact ih hfits
      · exact h

theorem extendFraction_le {s : Nat} (h : s ≤ significandLimit) (taken : Nat)
    (digits : List (Fin 10)) : (extendFraction s taken digits).1 ≤ significandLimit := by
  induction digits generalizing s taken with
  | nil => exact h
  | cons d rest ih =>
      rw [extendFraction]
      split
      · next hfits => exact ih hfits _
      · exact h

/-- A significand divided by a power of ten is finite. -/
theorem isFinite_scaleDown {significand n : Nat} (h : significand ≤ significandLimit)
    (hn : 1 ≤ n) : (scaleDown significand n).isFinite = true := by
  have hfirst : ∀ k, 1 ≤ k → k ≤ powerLimit →
      (Float.ofNat significand / powerOfTen k).isFinite = true :=
    fun k hpos hk => isFinite_div_powerOfTen (isFinite_ofNat h) hpos hk
  unfold scaleDown
  dsimp only
  split
  · next hone => exact hfirst n hn hone
  · split
    · next hone htwo =>
      exact isFinite_div_powerOfTen (hfirst powerLimit (by decide) (Nat.le_refl _)) (by omega)
        (by omega)
    · decide

/-- A significand multiplied by a power of ten has no reading, or is finite. -/
theorem isFinite_of_scaleUp {significand n : Nat} {x : Float}
    (h : scaleUp significand n = some x) : x.isFinite = true := by
  unfold scaleUp at h
  dsimp only at h
  split at h
  · split at h
    · next hfinite =>
      cases h
      exact hfinite
    · cases h
  · split at h
    · cases h
      decide
    · cases h

/-- The double that a numeral reads as is finite. -/
theorem isFinite_of_toFloat? {n : Numeral} {x : Float} (h : n.toFloat? = some x) :
    x.isFinite = true := by
  unfold Numeral.toFloat? at h
  dsimp only at h
  obtain ⟨scaled, hscale, rfl⟩ := Option.map_eq_some_iff.mp h
  have hfinite : scaled.isFinite = true := by
    have hsignificand := extendFraction_le (extendWhole_le (Nat.zero_le _) (digitsOf n.whole))
      0 n.fraction
    unfold scale at hscale
    split at hscale
    · exact isFinite_of_scaleUp hscale
    · cases hscale
      exact isFinite_scaleDown hsignificand (by omega)
  split
  · exact isFinite_neg hfinite
  · exact hfinite

/-! ## Numerals of natural numbers -/

theorem digitsOf_of_lt {n : Nat} (h : n < 10) : digitsOf n = [⟨n, h⟩] := by
  rw [digitsOf, Nat.toDigits_of_lt_base h]
  exact List.filterMap_cons_some (digit?_digitChar ⟨n, h⟩)

theorem digitsOf_of_le {n : Nat} (h : 10 ≤ n) :
    digitsOf n = digitsOf (n / 10) ++ [⟨n % 10, Nat.mod_lt _ (by decide)⟩] := by
  rw [digitsOf, Nat.toDigits_of_base_le (by decide) h, List.filterMap_append]
  exact congrArg _ (List.filterMap_cons_some (digit?_digitChar ⟨n % 10, _⟩))

/-- A significand that takes up some digits takes up one more if that fits. -/
theorem extendWhole_concat {s m : Nat} {digits : List (Fin 10)}
    (h : extendWhole s digits = (m, 0)) {d : Fin 10} (hfits : m * 10 + d.val ≤ significandLimit) :
    extendWhole s (digits ++ [d]) = (m * 10 + d.val, 0) := by
  induction digits generalizing s with
  | nil =>
      cases h
      exact if_pos hfits
  | cons first rest ih =>
      rw [extendWhole] at h
      rw [List.cons_append, extendWhole]
      split at h
      · next hfirst =>
        rw [if_pos hfirst]
        exact ih h
      · cases h

/-- A significand takes up all digits of a number that fits. -/
theorem extendWhole_digitsOf {n : Nat} (h : n ≤ significandLimit) :
    extendWhole 0 (digitsOf n) = (n, 0) := by
  induction n using Nat.strongRecOn with
  | ind n ih =>
      by_cases hsmall : n < 10
      · rw [digitsOf_of_lt hsmall, extendWhole, Nat.zero_mul, Nat.zero_add, if_pos h]
        rfl
      · have hbase : 10 ≤ n := Nat.le_of_not_lt hsmall
        have hn : n / 10 * 10 + n % 10 = n := Nat.div_add_mod' n 10
        have hinit := ih (n / 10) (by omega) (by omega)
        have hlast := extendWhole_concat hinit (d := ⟨n % 10, Nat.mod_lt _ (by decide)⟩)
          (hn.le.trans h)
        rw [digitsOf_of_le hbase, hlast, hn]

/-- The numeral of a natural number of 64 bits reads as a double. -/
theorem isSome_toFloat?_ofInt {n : Nat} (h : n ≤ significandLimit) :
    (Numeral.ofInt n).toFloat?.isSome = true := by
  have hone : exponentOf (powerOfTen 0) = 1023 := by decide
  have hexponent := exponentOf_ofNat_le h
  have hfinite : (Float.ofNat n * powerOfTen 0).isFinite = true :=
    isFinite_pack (within_mul ((isFinite_iff _).mpr (by omega)) ((isFinite_iff _).mpr (by omega))
      (by omega) (by decide))
  have hscale : scale n 0 = some (Float.ofNat n * powerOfTen 0) := by
    show scaleUp n 0 = _
    rw [scaleUp, if_pos (Nat.zero_le _)]
    exact if_pos hfinite
  have hread : (Numeral.ofInt n).toFloat? = (scale n 0).map fun f =>
      if (Numeral.ofInt n).negative then -f else f := by
    unfold Numeral.toFloat?
    rw [show (Numeral.ofInt n).whole = n from Int.natAbs_natCast n, extendWhole_digitsOf h]
    rfl
  rw [hread, hscale]
  rfl

/-! ## Numbers, and those that are not negative -/

theorem isNaN_of_isFinite {x : Float} (h : x.isFinite = true) : x.isNaN = false := by
  have hfinite : x.toModel.unpack.isFinite = true := h
  show x.toModel.unpack.isNaN = false
  generalize x.toModel.unpack = u at hfinite
  cases u with
  | notANumber => cases hfinite
  | _ => rfl

/-- A number that is not below zero is at least zero. -/
theorem zero_le_of_not_lt {x : Float} (hnan : x.isNaN = false) (h : ¬x < 0.0) : 0.0 ≤ x := by
  have hzero : (0.0 : Float).toModel.unpack = .zero .positive := rfl
  have hnan' : x.toModel.unpack.isNaN = false := hnan
  have hlt : ¬x.toModel.unpack.lt (0.0 : Float).toModel.unpack = true :=
    fun hlt => h (decide_eq_true hlt)
  refine decide_eq_true (p := (0.0 : Float).toModel ≤ x.toModel) ?_
  show (0.0 : Float).toModel.unpack.le x.toModel.unpack = true
  rw [hzero] at hlt ⊢
  generalize x.toModel.unpack = u at hnan' hlt ⊢
  cases u with
  | notANumber => cases hnan'
  | zero s => rfl
  | infinity s =>
      cases s with
      | positive => rfl
      | negative => exact absurd rfl hlt
  | finite s m e hm =>
      cases s with
      | positive => rfl
      | negative => exact absurd rfl hlt

end BenchDepot.Decimal
