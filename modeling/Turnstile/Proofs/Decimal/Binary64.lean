import Mathlib.Tactic.NormNum
import Mathlib.Tactic.Ring
import Turnstile.Decimal.Binary64
import Turnstile.Word

/-!
# Products of doubles that stay finite

Rounding a positive number to 53 bits adds at most one part in `2^52` to it.  So a whole number
and a double near a power of ten, both rounded, have a product that is finite as long as the exact
one stays a little below the largest double.

* `round_normal` — what rounding makes of a number that is not too small;
* `isFinite_mul` — a product that is not too large is finite.
-/

set_option autoImplicit false

namespace Turnstile.Decimal.Binary64

open Float.Model (Format totalExponent UnpackedFloat)
open Float.Model.UnpackedFloat

/-! ## Rounding -/

/-- Shifting bits out of a mantissa divides it. -/
theorem mantissa_shiftRight (em : ExtendedMantissa) (k : Nat) :
    (em >>> k).mantissa = em.mantissa / 2 ^ k := by
  show (k.repeat ExtendedMantissa.shiftRightOne em).mantissa = em.mantissa / 2 ^ k
  induction k with
  | zero =>
    rw [Nat.pow_zero, Nat.div_one]
    rfl
  | succ k ih =>
    show (k.repeat ExtendedMantissa.shiftRightOne em).mantissa / 2 = em.mantissa / 2 ^ (k + 1)
    rw [ih, Nat.div_div_eq_div_mul, Nat.pow_succ]

/-- A mantissa is rounded to itself or to the next one. -/
theorem roundedMantissa_bounds (em : ExtendedMantissa) :
    em.mantissa ≤ em.roundedMantissa ∧ em.roundedMantissa ≤ em.mantissa + 1 := by
  obtain ⟨m, r, s⟩ := em
  unfold ExtendedMantissa.roundedMantissa ExtendedMantissa.accuracy Accuracy.roundToNearestEven
  cases r <;> cases s <;> dsimp only <;> omega

/-- The exponent for a number that is not too small, by the place of its first bit. -/
theorem targetExponent_normal {m : Nat} {e : Int} (h : -1074 ≤ (m.log2 : Int) - 52 + e) :
    Format.binary64.targetExponent (totalExponent m e) = (m.log2 : Int) - 52 + e := by
  unfold Format.targetExponent totalExponent Format.mantissaBits Format.minExponent
  show max ((m.log2 : Int) + 1 + e - ((1 + 52 : Nat) : Int)) (3 - 2 ^ 10 - ((1 + 52 : Nat) : Int)) = _
  norm_num
  omega

/-- A mantissa of 53 bits stays as it is. -/
theorem shift_normal {m : Nat} {e : Int} (hlow : 2 ^ 52 ≤ m) (hhigh : m < 2 ^ 53)
    (he : -1074 ≤ e) :
    shiftToTargetExponent Format.binary64 m e .exact = (⟨m, false, false⟩, e) := by
  have hlog : m.log2 = 52 := (Nat.log2_eq_iff (by omega)).mpr ⟨hlow, hhigh⟩
  have htarget : Format.binary64.targetExponent (totalExponent m e) = e := by
    rw [targetExponent_normal (by omega), hlog]
    omega
  unfold shiftToTargetExponent shiftToExponent
  simp only [htarget, Int.sub_self, Int.toNat_zero]
  exact Prod.ext rfl (Int.add_zero e)

/-- One of 54 bits loses its last one. -/
theorem shift_carry {e : Int} (he : -1074 ≤ e) :
    shiftToTargetExponent Format.binary64 (2 ^ 53) e .exact =
      (⟨2 ^ 52, false, false⟩, e + 1) := by
  have hlog : Nat.log2 (2 ^ 53) = 53 := Nat.log2_two_pow
  have htarget : Format.binary64.targetExponent (totalExponent (2 ^ 53) e) = e + 1 := by
    rw [targetExponent_normal (by omega), hlog]
    omega
  have hone : (e + 1 - e).toNat = 1 := by omega
  unfold shiftToTargetExponent shiftToExponent
  simp only [htarget, hone]
  rfl

/-- A number of at least 53 bits that is not too small is rounded to 53 bits, and grows by at most
one part in `2^52`. -/
theorem round_normal (s : Sign) {m : Nat} {e : Int} (hm : 2 ^ 52 ≤ m)
    (he : -1074 ≤ (m.log2 : Int) - 52 + e) :
    ∃ m' k h, roundWithAccuracy Format.binary64 s m e .exact = .finite s m' (e + (k : Nat)) h ∧
      2 ^ 52 ≤ m' ∧ m' < 2 ^ 53 ∧ m.log2 ≤ k + 52 ∧ m' * 2 ^ k * 2 ^ 52 ≤ m * (2 ^ 52 + 1) := by
  have hne : m ≠ 0 := by omega
  have hlog : 52 ≤ m.log2 := (Nat.le_log2 hne).mpr hm
  obtain ⟨k, hk⟩ : ∃ k, m.log2 = k + 52 := ⟨m.log2 - 52, by omega⟩
  have htarget : Format.binary64.targetExponent (totalExponent m e) = e + k := by
    rw [targetExponent_normal he, hk]
    omega
  have hshift : (e + k - e).toNat = k := by omega
  -- The first 53 bits, and the number rounded there.
  have hself : 2 ^ (k + 52) ≤ m := hk ▸ Nat.log2_self_le hne
  have hlt : m < 2 ^ (k + 53) := by
    have hlt := @Nat.lt_log2_self m
    rw [hk] at hlt
    exact hlt
  have hq : m / 2 ^ k * 2 ^ k ≤ m := Nat.div_mul_le_self m (2 ^ k)
  have hpow : 2 ^ (k + 52) = 2 ^ k * 2 ^ 52 := Nat.pow_add 2 k 52
  have hqlow : 2 ^ 52 ≤ m / 2 ^ k := by
    rw [Nat.le_div_iff_mul_le (Nat.two_pow_pos k), Nat.mul_comm, ← hpow]
    exact hself
  have hqhigh : m / 2 ^ k < 2 ^ 53 := by
    rw [Nat.div_lt_iff_lt_mul (Nat.two_pow_pos k), Nat.mul_comm, ← Nat.pow_add]
    exact hlt
  obtain ⟨em, hem⟩ : ∃ em, em = (ExtendedMantissa.mk m false false) >>> k := ⟨_, rfl⟩
  have hfirst : shiftToTargetExponent Format.binary64 m e .exact = (em, e + k) := by
    unfold shiftToTargetExponent shiftToExponent
    simp only [htarget, hshift]
    rw [hem]
    rfl
  have hmantissa : em.mantissa = m / 2 ^ k := by
    rw [hem, mantissa_shiftRight]
  obtain ⟨hrlow, hrhigh⟩ := roundedMantissa_bounds em
  rw [hmantissa] at hrlow hrhigh
  have hgrown : em.roundedMantissa * 2 ^ k * 2 ^ 52 ≤ m * (2 ^ 52 + 1) := by
    have hstep : em.roundedMantissa * 2 ^ k ≤ (m / 2 ^ k + 1) * 2 ^ k :=
      Nat.mul_le_mul_right _ hrhigh
    have hround : em.roundedMantissa * 2 ^ k ≤ m + 2 ^ k := by
      rw [Nat.add_mul, Nat.one_mul] at hstep
      omega
    have hscaled := Nat.mul_le_mul_right (2 ^ 52) hround
    rw [Nat.add_mul, ← hpow] at hscaled
    rw [Nat.mul_add, Nat.mul_one]
    omega
  unfold roundWithAccuracy
  rw [hfirst]
  dsimp only
  by_cases hcarry : em.roundedMantissa < 2 ^ 53
  · rw [shift_normal (Nat.le_trans hqlow hrlow) hcarry (by omega)]
    refine ⟨em.roundedMantissa, k, by omega, ?_, by omega, hcarry, by omega, hgrown⟩
    rw [dif_neg (by dsimp only; omega)]
  · have hfull : em.roundedMantissa = 2 ^ 53 := by omega
    rw [hfull] at hgrown ⊢
    rw [shift_carry (by omega)]
    refine ⟨2 ^ 52, k + 1, by decide, ?_, Nat.le_refl _, by decide, by omega, ?_⟩
    · rw [dif_neg (by dsimp only; decide)]
      have hsum : e + (k : Int) + 1 = e + ((k + 1 : Nat) : Int) := by omega
      rw [hsum]
    · have hsame : 2 ^ 52 * 2 ^ (k + 1) = 2 ^ 53 * 2 ^ k := by ring
      rw [hsame]
      exact hgrown

/-! ## Bits -/

/-- The double is positive, with a mantissa of 53 bits. -/
def IsNormal (x : Float) (m : Nat) (e : Int) : Prop :=
  2 ^ 52 ≤ m ∧ m < 2 ^ 53 ∧ ∃ h, x.toModel.unpack = .finite .positive m e h

theorem packComponents_toNat (exponent : BitVec 11) (mantissa : BitVec 52) :
    (packComponents Format.binary64 .positive exponent mantissa).toNat =
      exponent.toNat * 2 ^ 52 + mantissa.toNat := by
  show (Sign.positive.toBitVec ++ exponent ++ mantissa).toNat = _
  have hsign : Sign.positive.toBitVec = 0#1 := rfl
  rw [hsign, BitVec.toNat_append, BitVec.toNat_append]
  have hzero : (0#1).toNat = 0 := rfl
  rw [hzero, Nat.zero_shiftLeft, Nat.zero_or, Nat.shiftLeft_eq,
    Nat.mul_comm exponent.toNat, ← Nat.two_pow_add_eq_or_of_lt mantissa.isLt]

/-- The last bit is the sign. -/
theorem unpackSign_packComponents (spec : Format) (sign : Sign)
    (exponent : BitVec spec.exponentBits) (mantissa : BitVec spec.mantissaBitsWithoutImplicit) :
    unpackSign (packComponents spec sign exponent mantissa) = sign.toBitVec := by
  refine BitVec.eq_of_getLsbD_eq fun i hi => ?_
  have hzero : i = 0 := by omega
  subst hzero
  show (BitVec.cast _ (BitVec.extractLsb (spec.mantissaBitsWithoutImplicit + spec.exponentBits)
    (spec.mantissaBitsWithoutImplicit + spec.exponentBits)
      (sign.toBitVec ++ exponent ++ mantissa))).getLsbD 0 = _
  simp [BitVec.getLsbD_append, BitVec.getElem_append]

/-- The bits of a double with a mantissa of 53 bits. -/
theorem pack_normal {m : Nat} {e : Int} (hlow : 2 ^ 52 ≤ m) (hhigh : m < 2 ^ 53)
    (he : -1074 ≤ e) (he' : e ≤ 971) (h : 0 < m) :
    UnpackedFloat.pack Format.binary64 (.finite .positive m e h) =
      packComponents Format.binary64 .positive (BitVec.ofNat 11 (e + 1075).toNat)
        (BitVec.ofNat 52 m) := by
  have hlog : m.log2 = 52 := (Nat.log2_eq_iff (by omega)).mpr ⟨hlow, hhigh⟩
  have hbias : (e + Format.binary64.exponentBias +
      Format.binary64.mantissaBitsWithoutImplicit).toNat = (e + 1075).toNat := by
    show (e + ((2 ^ 10 - 1 : Nat) : Int) + ((52 : Nat) : Int)).toNat = _
    norm_num
    omega
  have hfits : ¬ 2 ^ Format.binary64.exponentBits ≤ (e + 1075).toNat + 1 := by
    show ¬ 2 ^ 11 ≤ (e + 1075).toNat + 1
    omega
  have hbits : m.log2 + 1 = Format.binary64.mantissaBits := by
    rw [hlog]
    rfl
  unfold UnpackedFloat.pack
  dsimp only
  rw [hbias, if_neg hfits, if_pos hbits]

/-- What a double is taken apart into, if its exponent is neither the least nor the greatest. -/
theorem unpack_of_fields {spec : Format} {b : BitVec spec.numBits} {sign : Sign}
    {exponent : BitVec spec.exponentBits} {mantissa : BitVec spec.mantissaBitsWithoutImplicit}
    (hsign : Sign.ofBitVec (unpackSign b) = sign) (hexponent : unpackExponent b = exponent)
    (hmantissa : unpackMantissa b = mantissa) (hones : exponent ≠ -BitVec.ofNat _ 1)
    (hzero : exponent ≠ BitVec.ofNat _ 0) (hpos : 0 < (1#1 ++ mantissa).toNat) :
    UnpackedFloat.unpack spec b = .finite sign (1#1 ++ mantissa).toNat
      ((exponent.toNat : Int) - (spec.exponentBias + spec.mantissaBitsWithoutImplicit)) hpos := by
  subst hsign hexponent hmantissa
  unfold UnpackedFloat.unpack
  dsimp only
  rw [if_neg hones, if_neg hzero]

theorem finite_eq {s : Sign} {m m' : Nat} {e e' : Int} {h : 0 < m} {h' : 0 < m'} (hm : m = m')
    (he : e = e') : UnpackedFloat.finite s m e h = .finite s m' e' h' := by
  subst hm he
  rfl

/-- Such a double is taken apart into what it was made of. -/
theorem isNormal_pack {m : Nat} {e : Int} (hlow : 2 ^ 52 ≤ m) (hhigh : m < 2 ^ 53)
    (he : -1074 ≤ e) (he' : e ≤ 971) (h : 0 < m) :
    IsNormal (Float.ofModel (Float.Model.pack (.finite .positive m e h))) m e := by
  refine ⟨hlow, hhigh, h, ?_⟩
  show UnpackedFloat.unpack Format.binary64
    (UnpackedFloat.pack Format.binary64 (.finite .positive m e h)) = _
  rw [pack_normal hlow hhigh he he' h]
  have hexponent : (BitVec.ofNat 11 (e + 1075).toNat).toNat = (e + 1075).toNat := by
    rw [BitVec.toNat_ofNat]
    omega
  have hones : BitVec.ofNat 11 (e + 1075).toNat ≠ -1#11 := by
    intro heq
    have hnat := congrArg BitVec.toNat heq
    rw [hexponent] at hnat
    have hvalue : (-1#11).toNat = 2047 := rfl
    omega
  have hzero : BitVec.ofNat 11 (e + 1075).toNat ≠ 0#11 := by
    intro heq
    have hnat := congrArg BitVec.toNat heq
    rw [hexponent] at hnat
    have hvalue : (0#11).toNat = 0 := rfl
    omega
  have hmantissa : (1#1 ++ BitVec.ofNat 52 m).toNat = m := by
    rw [BitVec.toNat_append]
    show (1#1).toNat <<< 52 ||| m % 2 ^ 52 = m
    have hone : (1#1).toNat <<< 52 = 2 ^ 52 * 1 := rfl
    rw [hone, ← Nat.two_pow_add_eq_or_of_lt (Nat.mod_lt m (Nat.two_pow_pos 52))]
    omega
  have hbias : (((e + 1075).toNat : Int)) - (Format.binary64.exponentBias +
      Format.binary64.mantissaBitsWithoutImplicit) = e := by
    show ((e + 1075).toNat : Int) - (((2 ^ 10 - 1 : Nat) : Int) + ((52 : Nat) : Int)) = e
    norm_num
    omega
  have hsign := congrArg Sign.ofBitVec (unpackSign_packComponents Format.binary64 .positive
    (BitVec.ofNat 11 (e + 1075).toNat) (BitVec.ofNat 52 m))
  have hunpack := unpack_of_fields hsign unpackExponent_packComponents
    unpackMantissa_packComponents hones hzero (by rw [hmantissa]; exact h)
  exact hunpack.trans (finite_eq hmantissa (by rw [hexponent]; exact hbias))

theorem isFinite_pack {m : Nat} {e : Int} (hlow : 2 ^ 52 ≤ m) (hhigh : m < 2 ^ 53)
    (he : -1074 ≤ e) (he' : e ≤ 971) (h : 0 < m) :
    isFinite (Float.ofModel (Float.Model.pack (.finite .positive m e h))) = true := by
  have hbits : (Float.ofModel (Float.Model.pack (.finite .positive m e h))).toBits.toNat =
      (e + 1075).toNat * 2 ^ 52 + m % 2 ^ 52 := by
    show (UnpackedFloat.pack Format.binary64 (.finite .positive m e h)).toNat = _
    rw [pack_normal hlow hhigh he he' h, packComponents_toNat, BitVec.toNat_ofNat,
      BitVec.toNat_ofNat]
    have hmod : (e + 1075).toNat % 2 ^ 11 = (e + 1075).toNat := by omega
    rw [hmod]
  have hfield : ((e + 1075).toNat * 2 ^ 52 + m % 2 ^ 52) / Nat.pow 2 52 % 2048 =
      (e + 1075).toNat := by
    show ((e + 1075).toNat * 4503599627370496 + m % 4503599627370496) / 4503599627370496 % 2048 =
      (e + 1075).toNat
    omega
  unfold isFinite parts?
  dsimp only
  rw [hbits, hfield]
  have hlast : ((e + 1075).toNat == 2047) = false := by
    rw [beq_eq_false_iff_ne]
    omega
  rw [hlast]
  simp only [Bool.false_eq_true, if_false]
  split
  · rfl
  · rfl

/-! ## Whole numbers and products -/

theorem log2_mul_two_pow {n : Nat} (hn : n ≠ 0) (k : Nat) : (n * 2 ^ k).log2 = n.log2 + k := by
  induction k with
  | zero => rw [Nat.pow_zero, Nat.mul_one, Nat.add_zero]
  | succ k ih =>
    have hne : n * 2 ^ k ≠ 0 := Nat.mul_ne_zero hn (Nat.two_pow_pos k).ne'
    have hdouble : n * 2 ^ (k + 1) = 2 * (n * 2 ^ k) := by ring
    rw [hdouble, Nat.log2_two_mul hne, ih, Nat.add_assoc]

/-- The double of a whole number is the number rounded, once it was given 53 bits. -/
theorem toFloat_eq {n : Nat} (hpos : 0 < n) (hn : n ≤ Word.greatestUnsigned) :
    (UInt64.ofNat n).toFloat = Float.ofModel (Float.Model.pack
      (roundWithAccuracy Format.binary64 .positive (n * 2 ^ (52 - n.log2))
        (0 - ((52 - n.log2 : Nat) : Int)) .exact)) := by
  have hnat : (UInt64.ofNat n).toNat = n := by
    rw [UInt64.toNat_ofNat']
    unfold Word.greatestUnsigned at hn
    omega
  have htarget : Format.binary64.targetExponent (totalExponent n 0) = (n.log2 : Int) - 52 := by
    rw [targetExponent_normal (by omega)]
    omega
  have hcompare : compare ((n : Nat) : Int) 0 = .gt := Int.compare_eq_gt.mpr (by omega)
  have hshift : (0 - ((n.log2 : Int) - 52)).toNat = 52 - n.log2 := by omega
  show Float.ofModel (Float.Model.pack
    (UnpackedFloat.normalize Format.binary64 ((UInt64.ofNat n).toNat : Int) 0 .positive)) = _
  rw [hnat]
  unfold UnpackedFloat.normalize
  rw [hcompare]
  dsimp only
  unfold UnpackedFloat.round decreaseExponent
  rw [Int.toNat_natCast, htarget]
  dsimp only
  rw [hshift, Nat.shiftLeft_eq]

/-- A whole number as a double. -/
theorem isNormal_toFloat {n : Nat} (hpos : 0 < n) (hn : n ≤ Word.greatestUnsigned) :
    ∃ m e, IsNormal (UInt64.ofNat n).toFloat m e ∧ -52 ≤ e ∧
      m * 2 ^ (e + 52).toNat * 2 ^ 52 ≤ n * 2 ^ 52 * (2 ^ 52 + 1) := by
  have hne : n ≠ 0 := by omega
  have hlog64 : n.log2 < 64 := by
    apply (Nat.log2_lt hne).mpr
    unfold Word.greatestUnsigned at hn
    omega
  have hmodel := toFloat_eq hpos hn
  obtain ⟨k, hk⟩ : ∃ k, k = 52 - n.log2 := ⟨_, rfl⟩
  rw [← hk] at hmodel
  have hself : 2 ^ n.log2 ≤ n := Nat.log2_self_le hne
  have hwide : 2 ^ 52 ≤ n * 2 ^ k := by
    have hpow : 2 ^ 52 ≤ 2 ^ n.log2 * 2 ^ k := by
      rw [← Nat.pow_add]
      exact Nat.pow_le_pow_right (by decide) (by omega)
    exact Nat.le_trans hpow (Nat.mul_le_mul_right _ hself)
  have hlog := log2_mul_two_pow hne k
  obtain ⟨m, j, h, hround, hlow, hhigh, hj, hgrown⟩ := round_normal .positive (e := 0 - (k : Int))
    hwide (by omega)
  rw [hround] at hmodel
  -- What the mantissa is shifted by stays small, so the exponent fits.
  have hj64 : j < 65 := by
    have hleft : 2 ^ 52 * 2 ^ j * 2 ^ 52 ≤ m * 2 ^ j * 2 ^ 52 :=
      Nat.mul_le_mul_right _ (Nat.mul_le_mul_right _ hlow)
    have hk52 : 2 ^ k ≤ 2 ^ 52 := Nat.pow_le_pow_right (by decide) (by omega)
    have hright : n * 2 ^ k ≤ Word.greatestUnsigned * 2 ^ 52 := Nat.mul_le_mul hn hk52
    unfold Word.greatestUnsigned at hright
    have hpow : 2 ^ j < 2 ^ 65 := by omega
    exact (Nat.pow_lt_pow_iff_right (by decide)).mp hpow
  refine ⟨m, 0 - (k : Int) + (j : Nat), ?_, by omega, ?_⟩
  · rw [hmodel]
    exact isNormal_pack hlow hhigh (by omega) (by omega) h
  · have hexponent : (0 - (k : Int) + (j : Nat) + 52).toNat = j + (52 - k) := by omega
    have hscaled := Nat.mul_le_mul_right (2 ^ (52 - k)) hgrown
    have hsum : 2 ^ k * 2 ^ (52 - k) = 2 ^ 52 := by
      rw [← Nat.pow_add]
      congr 1
      omega
    rw [hexponent, Nat.pow_add]
    calc m * (2 ^ j * 2 ^ (52 - k)) * 2 ^ 52 = m * 2 ^ j * 2 ^ 52 * 2 ^ (52 - k) := by ring
      _ ≤ n * 2 ^ k * (2 ^ 52 + 1) * 2 ^ (52 - k) := hscaled
      _ = n * (2 ^ k * 2 ^ (52 - k)) * (2 ^ 52 + 1) := by ring
      _ = n * 2 ^ 52 * (2 ^ 52 + 1) := by rw [hsum]

/-- The greatest whole number whose product, rounded three times, surely stays finite. -/
def safeProduct : Nat := (2 ^ 54 - 11) * 2 ^ 970

/-- Three roundings do not make up for what is missing to the next power of two. -/
theorem product_gap {scale product value : Nat} (hscale : 0 < scale)
    (hleast : 2 ^ 52 * (scale * 2 ^ 106) * 2 ^ 157 ≤ value)
    (hgrown : value ≤ product * (2 ^ 104 * (2 ^ 52 + 1) * (2 ^ 52 + 1) * (2 ^ 53 + 1)))
    (hmost : product * (2 ^ 104 * (2 ^ 52 + 1) * (2 ^ 52 + 1) * (2 ^ 53 + 1)) ≤
      (2 ^ 54 - 11) * scale * (2 ^ 104 * (2 ^ 52 + 1) * (2 ^ 52 + 1) * (2 ^ 53 + 1))) : False := by
  have hboth := Nat.le_trans hleast (Nat.le_trans hgrown hmost)
  norm_num at hboth
  omega

/-- A whole number times a double close to another one: if the exact product is not too large, the
rounded one is finite. -/
theorem isFinite_mul {x y : Float} {m₁ m₂ : Nat} {e₁ e₂ : Int} {a b : Nat}
    (hx : IsNormal x m₁ e₁) (hy : IsNormal y m₂ e₂) (he₁ : -52 ≤ e₁) (he₂ : -52 ≤ e₂)
    (ha : m₁ * 2 ^ (e₁ + 52).toNat * 2 ^ 52 ≤ a * 2 ^ 52 * (2 ^ 52 + 1))
    (hb : m₂ * 2 ^ (e₂ + 52).toNat * 2 ^ 53 ≤ b * 2 ^ 52 * (2 ^ 53 + 1))
    (hab : a * b ≤ safeProduct) : isFinite (x * y) = true := by
  obtain ⟨hlow₁, -, h₁, hunpack₁⟩ := hx
  obtain ⟨hlow₂, -, h₂, hunpack₂⟩ := hy
  have hlarge : 2 ^ 52 * 2 ^ 52 ≤ m₁ * m₂ := Nat.mul_le_mul hlow₁ hlow₂
  rw [← Nat.pow_add] at hlarge
  have hlog : 104 ≤ (m₁ * m₂).log2 := (Nat.le_log2 (by omega)).mpr hlarge
  obtain ⟨m, k, h, hround, hlow, hhigh, hk, hgrown⟩ := round_normal .positive (e := e₁ + e₂)
    (m := m₁ * m₂) (by omega) (by omega)
  have hmodel : x * y =
      Float.ofModel (Float.Model.pack (.finite .positive m (e₁ + e₂ + (k : Nat)) h)) := by
    show Float.ofModel (Float.Model.pack
      (UnpackedFloat.mul Format.binary64 x.toModel.unpack y.toModel.unpack)) = _
    rw [hunpack₁, hunpack₂, ← hround]
    rfl
  rw [hmodel]
  refine isFinite_pack hlow hhigh (by omega) ?_ h
  by_contra hbig
  obtain ⟨j₁, hj₁⟩ : ∃ j₁ : Nat, e₁ + 52 = j₁ := ⟨(e₁ + 52).toNat, by omega⟩
  obtain ⟨j₂, hj₂⟩ : ∃ j₂ : Nat, e₂ + 52 = j₂ := ⟨(e₂ + 52).toNat, by omega⟩
  rw [hj₁, Int.toNat_natCast] at ha
  rw [hj₂, Int.toNat_natCast] at hb
  have hexponent : 970 + 106 ≤ k + j₁ + j₂ := by omega
  -- All roundings together, over a common power of two.
  have hproduct : m * 2 ^ (k + j₁ + j₂) * 2 ^ 157 ≤
      a * b * (2 ^ 104 * (2 ^ 52 + 1) * (2 ^ 52 + 1) * (2 ^ 53 + 1)) := by
    have hscaled := Nat.mul_le_mul_right (2 ^ j₁ * 2 ^ j₂ * 2 ^ 105) hgrown
    have hboth := Nat.mul_le_mul_right (2 ^ 52 + 1) (Nat.mul_le_mul ha hb)
    calc m * 2 ^ (k + j₁ + j₂) * 2 ^ 157
        = m * 2 ^ k * 2 ^ 52 * (2 ^ j₁ * 2 ^ j₂ * 2 ^ 105) := by rw [Nat.pow_add, Nat.pow_add]; ring
      _ ≤ m₁ * m₂ * (2 ^ 52 + 1) * (2 ^ j₁ * 2 ^ j₂ * 2 ^ 105) := hscaled
      _ = m₁ * 2 ^ j₁ * 2 ^ 52 * (m₂ * 2 ^ j₂ * 2 ^ 53) * (2 ^ 52 + 1) := by ring
      _ ≤ a * 2 ^ 52 * (2 ^ 52 + 1) * (b * 2 ^ 52 * (2 ^ 53 + 1)) * (2 ^ 52 + 1) := hboth
      _ = a * b * (2 ^ 104 * (2 ^ 52 + 1) * (2 ^ 52 + 1) * (2 ^ 53 + 1)) := by ring
  have hpow : 2 ^ 970 * 2 ^ 106 ≤ 2 ^ (k + j₁ + j₂) := by
    rw [← pow_add]
    exact pow_le_pow_right₀ (by decide) hexponent
  have hleast := Nat.mul_le_mul_right (2 ^ 157) (Nat.mul_le_mul hlow hpow)
  have hmost := Nat.mul_le_mul_right (2 ^ 104 * (2 ^ 52 + 1) * (2 ^ 52 + 1) * (2 ^ 53 + 1)) hab
  unfold safeProduct at hmost
  have hscale : 0 < 2 ^ 970 := by positivity
  exact product_gap hscale hleast hproduct hmost

end Turnstile.Decimal.Binary64
