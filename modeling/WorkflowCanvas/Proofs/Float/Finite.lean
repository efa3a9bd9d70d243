import Mathlib

/-! Which results of double precision arithmetic are finite. A result is rounded to 53 binary digits,
and is out of range from half a unit beyond the greatest number on, which is `2 ^ 1024 - 2 ^ 970`. -/
namespace WorkflowCanvas.Rounding
open Float.Model Float.Model.UnpackedFloat

/-! ### Packing -/

/-- The greatest exponent is kept for what is not finite. -/
theorem isFinite_iff_exponent (x : Float.Model) : x.isFinite = true ↔
    @unpackExponent .binary64 x.toBits.toBitVec ≠ -1#11 := by
  unfold Float.Model.isFinite Float.Model.unpack UnpackedFloat.unpack
  dsimp only
  split
  · next htop =>
    refine iff_of_false ?_ (not_not.mpr htop)
    split <;> simp [UnpackedFloat.isFinite]
  · next htop =>
    refine iff_of_true ?_ htop
    split
    · split <;> rfl
    · rfl

@[simp] theorem isFinite_pack_zero (s : Sign) : (pack (.zero s)).isFinite = true := by
  cases s <;> decide

@[simp] theorem isFinite_pack_infinity (s : Sign) : (pack (.infinity s)).isFinite = false := by
  cases s <;> decide

@[simp] theorem isFinite_pack_notANumber : (pack .notANumber).isFinite = false := by decide

@[simp] theorem isFinite_pack_finite {s : Sign} {m : Nat} {e : Int} (hm : 0 < m) :
    (pack (.finite s m e hm)).isFinite = true ↔ e ≤ 971 := by
  have hbias : (e + (Format.exponentBias .binary64 : Int) + (52 : Nat)).toNat = (e + 1075).toNat := by
    rw [show Format.exponentBias .binary64 = 1023 from rfl, add_assoc]
    rfl
  rw [isFinite_iff_exponent]
  unfold Float.Model.pack UnpackedFloat.pack
  simp only [hbias]
  by_cases htop : 2 ^ 11 ≤ (e + 1075).toNat + 1
  · rw [if_pos htop, packedInfinity, unpackExponent_packComponents]
    simp
    omega
  · rw [if_neg htop]
    have hlow : e ≤ 971 := by omega
    split
    · rw [unpackExponent_packComponents]
      simp [← BitVec.toNat_inj]
      omega
    · rw [unpackExponent_packComponents]
      simp [hlow]

/-! ### Rounding -/

theorem mantissa_shift (em : ExtendedMantissa) (k : Nat) :
    (em >>> k).mantissa = em.mantissa / 2 ^ k := by
  induction k with
  | zero => simp [HShiftRight.hShiftRight, Nat.repeat]
  | succ k ih =>
    show (em >>> k).mantissa / 2 = _
    rw [ih, Nat.div_div_eq_div_mul, Nat.pow_succ]

theorem roundBit_shift (em : ExtendedMantissa) (k : Nat) :
    (em >>> (k + 1)).roundBit = (em.mantissa / 2 ^ k % 2 != 0) := by
  show ((em >>> k).mantissa % 2 != 0) = _
  rw [mantissa_shift]

/-- Rounding goes down or up by less than one. -/
theorem roundedMantissa_bounds (em : ExtendedMantissa) :
    em.mantissa ≤ em.roundedMantissa ∧ em.roundedMantissa ≤ em.mantissa + 1 := by
  obtain ⟨m, r, s⟩ := em
  cases r <;> cases s <;>
    simp [ExtendedMantissa.roundedMantissa, ExtendedMantissa.accuracy, Accuracy.roundToNearestEven]
  omega

/-- Without a round bit, rounding goes down. -/
theorem roundedMantissa_of_not_roundBit {em : ExtendedMantissa} (h : em.roundBit = false) :
    em.roundedMantissa = em.mantissa := by
  obtain ⟨m, r, s⟩ := em
  obtain rfl : r = false := h
  cases s <;> rfl

/-- An odd number with a round bit is rounded up. -/
theorem roundedMantissa_of_roundBit {em : ExtendedMantissa} (h : em.roundBit = true)
    (hodd : em.mantissa % 2 = 1) : em.roundedMantissa = em.mantissa + 1 := by
  obtain ⟨m, r, s⟩ := em
  obtain rfl : r = true := h
  cases s
  · simpa [ExtendedMantissa.roundedMantissa, ExtendedMantissa.accuracy,
      Accuracy.roundToNearestEven] using hodd
  · rfl

/-- The exponent that a number is rounded to. -/
def target (m : Nat) (e : Int) : Int := max (m.log2 + e - 52) (-1074)

theorem targetExponent_eq (m : Nat) (e : Int) :
    Format.binary64.targetExponent (totalExponent m e) = target m e := by
  have htotal : totalExponent m e = m.log2 + 1 + e := rfl
  have hdigits : (Format.mantissaBits .binary64 : Int) = 53 := rfl
  have hmin : Format.minExponent .binary64 = -1074 := by decide
  unfold Format.targetExponent target
  omega

/-- How many digits are dropped when a number is rounded. -/
def dropped (m : Nat) (e : Int) : Nat := (target m e - e).toNat

/-- The significand after rounding; it may have one digit too many. -/
def rounded (m : Nat) (e : Int) : Nat :=
  (ExtendedMantissa.mk m false false >>> dropped m e).roundedMantissa

theorem shiftToTargetExponent_eq (m : Nat) (e : Int) :
    shiftToTargetExponent .binary64 m e .exact =
      (ExtendedMantissa.mk m false false >>> dropped m e, e + dropped m e) := by
  rw [shiftToTargetExponent, targetExponent_eq]
  rfl

theorem floor_rounded (m : Nat) (e : Int) : m / 2 ^ dropped m e ≤ rounded m e ∧
    rounded m e ≤ m / 2 ^ dropped m e + 1 := by
  have h := roundedMantissa_bounds (ExtendedMantissa.mk m false false >>> dropped m e)
  rwa [mantissa_shift] at h

theorem rounded_le (m : Nat) (e : Int) : rounded m e ≤ 2 ^ 53 := by
  have hlog : m.log2 + 1 ≤ 53 + dropped m e := by
    unfold dropped target
    omega
  have hm : m < 2 ^ 53 * 2 ^ dropped m e := by
    rw [← Nat.pow_add]
    exact Nat.lt_log2_self.trans_le (Nat.pow_le_pow_right (by decide) hlog)
  have hfloor : m / 2 ^ dropped m e < 2 ^ 53 := (Nat.div_lt_iff_lt_mul (by positivity)).mpr hm
  exact (floor_rounded m e).2.trans hfloor

/-- A significand of at most 53 digits is kept. -/
theorem dropped_of_lt {m : Nat} {e : Int} (hm : m < 2 ^ 53) (he : -1074 ≤ e) : dropped m e = 0 := by
  have hlog : m.log2 ≤ 52 := by
    by_cases hzero : m = 0
    · simp [hzero]
    · have := (Nat.log2_lt hzero).mpr hm
      omega
  unfold dropped target
  omega

/-- One digit is dropped from the least significand of 54 digits. -/
theorem dropped_two_pow {e : Int} (he : -1074 ≤ e) : dropped (2 ^ 53) e = 1 := by
  have hlog : (2 ^ 53 : Nat).log2 = 53 := Nat.log2_two_pow
  unfold dropped target
  omega

/-- A number that has been rounded. -/
def ofMantissa (s : Sign) (m : Nat) (e : Int) : UnpackedFloat :=
  if h : m = 0 then .zero s else .finite s m e (Nat.pos_of_ne_zero h)

theorem isFinite_pack_ofMantissa {s : Sign} {m : Nat} {e : Int} :
    (pack (ofMantissa s m e)).isFinite = true ↔ m = 0 ∨ e ≤ 971 := by
  by_cases h : m = 0
  · simp [ofMantissa, h]
  · simp [ofMantissa, h]

theorem roundWithAccuracy_of_shifts {s : Sign} {m : Nat} {e e' e'' : Int} {em em' : ExtendedMantissa}
    (hfirst : shiftToTargetExponent .binary64 m e .exact = (em, e'))
    (hsecond : shiftToTargetExponent .binary64 em.roundedMantissa e' .exact = (em', e'')) :
    roundWithAccuracy .binary64 s m e .exact = ofMantissa s em'.mantissa e'' := by
  unfold roundWithAccuracy
  rw [hfirst]
  dsimp only
  rw [hsecond]
  rfl

/-- A significand that has been rounded to 54 digits loses one more. -/
theorem roundWithAccuracy_eq (s : Sign) (m : Nat) (e : Int) :
    roundWithAccuracy .binary64 s m e .exact =
      if rounded m e < 2 ^ 53 then ofMantissa s (rounded m e) (e + dropped m e)
      else ofMantissa s (2 ^ 52) (e + dropped m e + 1) := by
  have hlow : -1074 ≤ e + dropped m e := by
    unfold dropped target
    omega
  rw [roundWithAccuracy_of_shifts (shiftToTargetExponent_eq m e) (shiftToTargetExponent_eq _ _)]
  show ofMantissa s (ExtendedMantissa.mk (rounded m e) false false
    >>> dropped (rounded m e) (e + dropped m e)).mantissa
    (e + dropped m e + dropped (rounded m e) (e + dropped m e)) = _
  rw [mantissa_shift]
  by_cases hsmall : rounded m e < 2 ^ 53
  · rw [if_pos hsmall, dropped_of_lt hsmall hlow]
    simp
  · have hfull : rounded m e = 2 ^ 53 := by
      have := rounded_le m e
      omega
    rw [if_neg hsmall, hfull, dropped_two_pow hlow]
    rfl

theorem isFinite_roundWithAccuracy {s : Sign} {m : Nat} {e : Int} :
    (pack (roundWithAccuracy .binary64 s m e .exact)).isFinite = true ↔
      rounded m e = 0 ∨ e + dropped m e ≤ 970 ∨ e + dropped m e = 971 ∧ rounded m e < 2 ^ 53 := by
  rw [roundWithAccuracy_eq]
  split <;> rw [isFinite_pack_ofMantissa] <;> omega

/-- The size from which on a number is rounded to an infinity. -/
def limit : Rat := (2 ^ 54 - 1) * 2 ^ 970

theorem two_pow_log2_le {m : Nat} (hm : m ≠ 0) : (2 : Rat) ^ m.log2 ≤ m := by
  exact_mod_cast Nat.log2_self_le hm

theorem lt_two_pow_log2 (m : Nat) : (m : Rat) < 2 ^ (m.log2 + 1) := by
  exact_mod_cast Nat.lt_log2_self

theorem size_lt (m : Nat) (e : Int) : (m : Rat) * 2 ^ e < 2 ^ (m.log2 + 1 + e) := by
  rw [zpow_add₀ two_ne_zero]
  exact mul_lt_mul_of_pos_right (lt_two_pow_log2 m) (by positivity)

theorem le_size {m : Nat} (hm : m ≠ 0) (e : Int) : (2 : Rat) ^ (m.log2 + e) ≤ m * 2 ^ e := by
  rw [zpow_add₀ two_ne_zero]
  exact mul_le_mul_of_nonneg_right (two_pow_log2_le hm) (by positivity)

theorem rounded_of_dropped_zero {m : Nat} {e : Int} (hk : dropped m e = 0) : rounded m e = m := by
  rw [rounded, hk]
  rfl

/-- Rounding at the greatest exponent goes up to 54 digits only from `2 ^ 54 - 1` halves on. -/
theorem rounded_lt_iff {m j : Nat} {e : Int} (hm : m < 2 ^ (54 + j)) (hk : dropped m e = j + 1) :
    rounded m e < 2 ^ 53 ↔ m / 2 ^ j < 2 ^ 54 - 1 := by
  have hq : m / 2 ^ j < 2 ^ 54 := by
    rw [Nat.div_lt_iff_lt_mul (by positivity), ← Nat.pow_add]
    exact hm
  have hfloor := floor_rounded m e
  rw [hk, Nat.pow_succ, ← Nat.div_div_eq_div_mul] at hfloor
  have hbit := roundBit_shift (ExtendedMantissa.mk m false false) j
  have hmantissa := mantissa_shift (ExtendedMantissa.mk m false false) (j + 1)
  rw [Nat.pow_succ, ← Nat.div_div_eq_div_mul] at hmantissa
  rw [← hk] at hbit hmantissa
  generalize m / 2 ^ j = q at hq hfloor hbit hmantissa
  obtain heven | hodd := Nat.mod_two_eq_zero_or_one q
  · have hdown : rounded m e = q / 2 := by
      rw [rounded, roundedMantissa_of_not_roundBit (by simp [hbit, heven]), hmantissa]
    omega
  · by_cases htop : q = 2 ^ 54 - 1
    · have hup : rounded m e = q / 2 + 1 := by
        rw [rounded, roundedMantissa_of_roundBit (by simp [hbit, hodd]) (by omega), hmantissa]
      omega
    · omega

/-- The same in numbers. -/
theorem div_lt_iff_lt_limit (m j : Nat) :
    m / 2 ^ j < 2 ^ 54 - 1 ↔ (m : Rat) * 2 ^ (970 - j : Int) < limit := by
  have hcast : m < (2 ^ 54 - 1) * 2 ^ j ↔ (m : Rat) < (2 ^ 54 - 1) * 2 ^ j := by
    rw [← Nat.cast_lt (α := Rat)]
    push_cast
    norm_num
  have hscale : (m : Rat) * 2 ^ (970 - j : Int) = m / 2 ^ j * 2 ^ 970 := by
    rw [zpow_sub₀ two_ne_zero, zpow_natCast, zpow_ofNat, mul_div_left_comm, mul_comm]
  rw [Nat.div_lt_iff_lt_mul (by positivity), hcast, hscale, limit,
    mul_lt_mul_iff_left₀ (by positivity), div_lt_iff₀ (by positivity)]

theorem le_limit : (2 : Rat) ^ (1023 : Int) ≤ limit := by
  rw [show (1023 : Int) = 53 + 970 by rfl, zpow_add₀ two_ne_zero]
  exact mul_le_mul_of_nonneg_right (by norm_num) (by positivity)

theorem limit_le : limit ≤ (2 : Rat) ^ (1024 : Int) := by
  rw [show (1024 : Int) = 54 + 970 by rfl, zpow_add₀ two_ne_zero]
  exact mul_le_mul_of_nonneg_right (by norm_num) (by positivity)

/-- A number is finite after rounding exactly if it is below the limit. -/
theorem isFinite_roundWithAccuracy_iff {s : Sign} {m : Nat} {e : Int} (hpos : m ≠ 0)
    (hm : 52 ≤ m.log2 ∨ e ≤ -1074) :
    (pack (roundWithAccuracy .binary64 s m e .exact)).isFinite = true ↔
      (m : Rat) * 2 ^ e < limit := by
  have htarget : e + dropped m e = target m e := by
    unfold dropped target
    omega
  have hcases : target m e = max (m.log2 + e - 52) (-1074) := rfl
  rw [isFinite_roundWithAccuracy]
  obtain hlow | hend | hhigh := lt_trichotomy (target m e) 971
  · have hsize : (m : Rat) * 2 ^ e < limit := by
      calc (m : Rat) * 2 ^ e < 2 ^ (m.log2 + 1 + e) := size_lt m e
        _ ≤ 2 ^ (1023 : Int) := zpow_le_zpow_right₀ one_le_two (by omega)
        _ ≤ limit := le_limit
    exact iff_of_true (.inr (.inl (by omega))) hsize
  · -- At the greatest exponent all depends on how the last digit is rounded.
    have hlog : m.log2 + e = 1023 := by omega
    have hlt : m < 2 ^ (m.log2 + 1) := Nat.lt_log2_self
    cases hk : dropped m e with
    | zero =>
      have he : e = 971 := by omega
      rw [show m.log2 + 1 = 53 by omega] at hlt
      have hsize : (m : Rat) * 2 ^ e < limit := by
        have hdouble := (div_lt_iff_lt_limit (2 * m) 0).mp (by omega)
        rw [he, show (971 : Int) = 1 + 970 by rfl, zpow_add₀ two_ne_zero]
        simpa [mul_comm, mul_assoc, mul_left_comm] using hdouble
      exact iff_of_true (.inr (.inr ⟨by omega, by rwa [rounded_of_dropped_zero hk]⟩)) hsize
    | succ j =>
      have he : e = 970 - j := by omega
      have hm : m < 2 ^ (54 + j) := by
        rwa [show m.log2 + 1 = 54 + j by omega] at hlt
      rw [he, ← div_lt_iff_lt_limit, ← he, ← rounded_lt_iff hm hk]
      omega
  · have hsize : limit ≤ (m : Rat) * 2 ^ e := by
      calc limit ≤ 2 ^ (1024 : Int) := limit_le
        _ ≤ 2 ^ (m.log2 + e) := zpow_le_zpow_right₀ one_le_two (by omega)
        _ ≤ m * 2 ^ e := le_size hpos e
    have hdropped : 2 ^ dropped m e ≤ m :=
      (Nat.pow_le_pow_right (by decide) (by omega)).trans (Nat.log2_self_le hpos)
    have hfloor := Nat.div_pos hdropped (by positivity)
    have hrounded := (floor_rounded m e).1
    exact iff_of_false (by omega) (not_lt.mpr hsize)

theorem shiftLeft_value (m d : Nat) (e : Int) :
    ((m <<< d : Nat) : Rat) * 2 ^ (e - d : Int) = m * 2 ^ e := by
  rw [Nat.shiftLeft_eq, zpow_sub₀ two_ne_zero, zpow_natCast]
  push_cast
  rw [mul_assoc, mul_div_cancel₀ _ (by positivity)]

theorem log2_shiftLeft {m : Nat} (hpos : m ≠ 0) (d : Nat) : (m <<< d).log2 = m.log2 + d := by
  rw [Nat.shiftLeft_eq, Nat.log2_eq_iff (by positivity)]
  constructor
  · rw [Nat.pow_add]
    exact Nat.mul_le_mul_right _ (Nat.log2_self_le hpos)
  · rw [Nat.add_right_comm, Nat.pow_add]
    exact Nat.mul_lt_mul_of_pos_right Nat.lt_log2_self (by positivity)

theorem isFinite_round_iff {s : Sign} {m : Nat} {e : Int} (hpos : m ≠ 0) :
    (pack (UnpackedFloat.round .binary64 s m e)).isFinite = true ↔ (m : Rat) * 2 ^ e < limit := by
  have hlog := log2_shiftLeft hpos (e - target m e).toNat
  have hcases : target m e = max (m.log2 + e - 52) (-1074) := rfl
  have hround : UnpackedFloat.round .binary64 s m e = roundWithAccuracy .binary64 s
      (m <<< (e - target m e).toNat) (e - (e - target m e).toNat) .exact := by
    rw [UnpackedFloat.round, targetExponent_eq]
    rfl
  rw [hround, isFinite_roundWithAccuracy_iff, shiftLeft_value]
  · rw [Nat.shiftLeft_eq]
    positivity
  · omega

/-! ### Values -/

/-- The number that is meant; what is not finite counts as nothing. -/
def value (x : Float) : Rat :=
  match x.toModel.unpack with
  | .finite s m e _ => s.apply m * 2 ^ e
  | _ => 0

/-- What a finite number is made of. -/
inductive Parts : UnpackedFloat → Rat → Prop
  | zero (s : Sign) : Parts (.zero s) 0
  | finite (s : Sign) (m : Nat) (e : Int) (hm : 0 < m) (hlt : m < 2 ^ 53) (he : e ≤ 971)
    (hcanonical : 52 ≤ m.log2 ∨ e = -1074) : Parts (.finite s m e hm) (s.apply m * 2 ^ e)

theorem parts_unpack {x : Float} (hx : x.isFinite = true) : Parts x.toModel.unpack (value x) := by
  have hexponent := (isFinite_iff_exponent x.toModel).mp hx
  have hm : (@unpackMantissa .binary64 x.toModel.toBits.toBitVec).toNat < 2 ^ 52 :=
    BitVec.isLt _
  have he : (@unpackExponent .binary64 x.toModel.toBits.toBitVec).toNat < 2 ^ 11 :=
    BitVec.isLt _
  have htop : (@unpackExponent .binary64 x.toModel.toBits.toBitVec).toNat ≠ 2 ^ 11 - 1 :=
    fun h => hexponent (BitVec.eq_of_toNat_eq h)
  have hbias : Format.exponentBias .binary64 = 1023 := rfl
  unfold value
  unfold Float.Model.unpack UnpackedFloat.unpack
  dsimp only
  rw [if_neg hexponent]
  split
  · next hzero =>
    split
    · exact .zero _
    · refine .finite _ _ _ _ (by omega) ?_ (.inr ?_) <;> rw [hzero, hbias] <;> simp
  · next hzero =>
    have hfull : (1#1 ++ @unpackMantissa .binary64 x.toModel.toBits.toBitVec).toNat =
        2 ^ 52 + (@unpackMantissa .binary64 x.toModel.toBits.toBitVec).toNat := by
      rw [BitVec.toNat_append, ← Nat.shiftLeft_add_eq_or_of_lt hm]
      rfl
    refine .finite _ _ _ _ (by omega) ?_ (.inl ?_)
    · rw [hbias]
      omega
    · rw [hfull, Nat.le_log2 (by omega)]
      omega

theorem Parts.isFinite {f : UnpackedFloat} {v : Rat} (h : Parts f v) : (pack f).isFinite = true := by
  cases h with
  | zero s => exact isFinite_pack_zero s
  | finite s m e hm hlt he hcanonical => exact (isFinite_pack_finite hm).mpr he

theorem abs_apply (s : Sign) (m : Nat) (e : Int) :
    |((s.apply m : Int) : Rat) * 2 ^ e| = m * 2 ^ e := by
  have hpos : (0 : Rat) ≤ m * 2 ^ e := by positivity
  cases s with
  | negative => simp [Sign.apply, abs_of_nonneg hpos]
  | positive => simp [Sign.apply, abs_of_nonneg hpos]

/-- The greatest finite number. -/
def greatest : Rat := (2 ^ 53 - 1) * 2 ^ 971

theorem greatest_add : greatest + 2 ^ 970 = limit := by
  rw [greatest, limit, show (2 : Rat) ^ 971 = 2 * 2 ^ 970 from pow_succ' 2 970]
  generalize (2 : Rat) ^ 970 = unit
  ring

theorem greatest_lt : greatest < limit := by
  rw [← greatest_add]
  exact lt_add_of_pos_right _ (by positivity)

theorem Parts.abs_le {f : UnpackedFloat} {v : Rat} (h : Parts f v) : |v| ≤ greatest := by
  cases h with
  | zero s =>
    rw [abs_zero, greatest]
    exact mul_nonneg (by norm_num) (by positivity)
  | finite s m e hm hlt he hcanonical =>
    have hcast : (m : Rat) ≤ 2 ^ 53 - 1 := by
      rw [le_sub_iff_add_le]
      exact_mod_cast hlt
    have hscale : (2 : Rat) ^ e ≤ 2 ^ 971 := by
      rw [← zpow_ofNat]
      exact zpow_le_zpow_right₀ one_le_two he
    rw [abs_apply, greatest]
    exact mul_le_mul hcast hscale (by positivity) (by norm_num)

/-! ### Sums -/

theorem isFinite_normalize_iff (m e : Int) (s : Sign) :
    (pack (UnpackedFloat.normalize .binary64 m e s)).isFinite = true ↔ |(m : Rat) * 2 ^ e| < limit := by
  have habs : |(m : Rat) * 2 ^ e| = (m.natAbs : Rat) * 2 ^ e := by
    rw [abs_mul, abs_of_nonneg (by positivity : (0 : Rat) ≤ 2 ^ e), Nat.cast_natAbs, Int.cast_abs]
  rw [habs]
  unfold UnpackedFloat.normalize
  split
  · next hneg =>
    have hlt := compare_lt_iff_lt.mp hneg
    rw [isFinite_round_iff (by omega), show (-m).toNat = m.natAbs by omega]
  · next hzero =>
    obtain rfl := compare_eq_iff_eq.mp hzero
    refine iff_of_true (isFinite_pack_zero s) ?_
    simpa using (by positivity : (0 : Rat) < 2 ^ (1023 : Int)).trans_le le_limit
  · next hpos =>
    have hlt := compare_gt_iff_gt.mp hpos
    rw [isFinite_round_iff (by omega), show m.toNat = m.natAbs by omega]

theorem apply_shiftLeft_value (s : Sign) (m : Nat) {e d : Int} (hd : d ≤ e) :
    ((s.apply (m <<< (e - d).toNat : Nat) : Int) : Rat) * 2 ^ d = s.apply m * 2 ^ e := by
  have hvalue := shiftLeft_value m (e - d).toNat e
  rw [show e - (e - d).toNat = d by omega] at hvalue
  cases s with
  | negative => simpa only [Sign.apply, Int.cast_neg, Int.cast_natCast, neg_mul, neg_inj] using hvalue
  | positive => simpa only [Sign.apply, Int.cast_natCast] using hvalue

theorem Parts.isFinite_add_iff {f g : UnpackedFloat} {v w : Rat} (hf : Parts f v) (hg : Parts g w) :
    (pack (add .binary64 f g)).isFinite = true ↔ |v + w| < limit := by
  cases hf with
  | zero s =>
    rw [zero_add]
    refine iff_of_true ?_ (hg.abs_le.trans_lt greatest_lt)
    cases hg with
    | zero t => cases s <;> cases t <;> decide
    | finite t m e hm hlt he hcanonical => exact (isFinite_pack_finite hm).mpr he
  | finite s m e hm hlt he hcanonical =>
    have hf : Parts (.finite s m e hm) (s.apply m * 2 ^ e) := .finite s m e hm hlt he hcanonical
    cases hg with
    | zero t =>
      rw [add_zero]
      exact iff_of_true hf.isFinite (hf.abs_le.trans_lt greatest_lt)
    | finite t n d hn hlt' hd hcanonical' =>
      show (pack (UnpackedFloat.normalize .binary64 (s.apply (m <<< (e - min e d).toNat : Nat)
        + t.apply (n <<< (d - min e d).toNat : Nat)) (min e d) .positive)).isFinite = true ↔ _
      rw [isFinite_normalize_iff, Int.cast_add, add_mul, apply_shiftLeft_value s m (min_le_left e d),
        apply_shiftLeft_value t n (min_le_right e d)]

/-- A sum is finite exactly if it is below the limit. -/
theorem isFinite_add_iff {x y : Float} (hx : x.isFinite = true) (hy : y.isFinite = true) :
    (x + y).isFinite = true ↔ |value x + value y| < limit :=
  (parts_unpack hx).isFinite_add_iff (parts_unpack hy)

theorem Parts.isFinite_of_add {f g : UnpackedFloat} {v : Rat} (hf : Parts f v)
    (h : (pack (add .binary64 f g)).isFinite = true) : g.isFinite = true := by
  cases g with
  | zero t => rfl
  | finite t n d hn => rfl
  | infinity t => cases hf <;> simp [UnpackedFloat.add] at h
  | notANumber => cases hf <;> simp [UnpackedFloat.add] at h

/-- So small that it can be added to every finite number. -/
structure Slight (d : Float) : Prop where
  isFinite : d.isFinite = true
  abs_lt : |value d| < 2 ^ 970

/-- The greatest finite number, as a float. -/
def top : Float := .ofBits 0x7FEFFFFFFFFFFFFF

/-- The least finite number, as a float. -/
def bottom : Float := .ofBits 0xFFEFFFFFFFFFFFFF

theorem isFinite_top : top.isFinite = true := by decide

theorem isFinite_bottom : bottom.isFinite = true := by decide

theorem value_top : value top = greatest := by
  show (((2 ^ 53 - 1 : Nat) : Int) : Rat) * 2 ^ (971 : Int) = greatest
  rw [greatest, zpow_ofNat]
  norm_num

theorem value_bottom : value bottom = -greatest := by
  show ((-((2 ^ 53 - 1 : Nat) : Int) : Int) : Rat) * 2 ^ (971 : Int) = -greatest
  rw [greatest, zpow_ofNat]
  norm_num

/-- The numbers that can be added to all finite numbers are those of size below `2 ^ 970`. -/
theorem forall_isFinite_add_iff (d : Float) :
    (∀ x : Float, x.isFinite = true → (x + d).isFinite = true) ↔ Slight d := by
  constructor
  · intro hall
    have hd : d.isFinite = true :=
      (parts_unpack isFinite_top).isFinite_of_add (hall top isFinite_top)
    have hup := (isFinite_add_iff isFinite_top hd).mp (hall top isFinite_top)
    have hdown := (isFinite_add_iff isFinite_bottom hd).mp (hall bottom isFinite_bottom)
    rw [value_top, ← greatest_add, abs_lt] at hup
    rw [value_bottom, ← greatest_add, abs_lt, neg_add] at hdown
    exact ⟨hd, abs_lt.mpr ⟨lt_of_add_lt_add_left hdown.1, lt_of_add_lt_add_left hup.2⟩⟩
  · rintro ⟨hd, hlt⟩ x hx
    rw [isFinite_add_iff hx hd, ← greatest_add]
    exact (abs_add_le _ _).trans_lt (add_lt_add_of_le_of_lt (parts_unpack hx).abs_le hlt)

theorem value_forty : value 40 = 40 := by
  have hbits : (40 : Float) = .ofBits 0x4044000000000000 := by decide
  rw [hbits]
  show (((5 * 2 ^ 50 : Nat) : Int) : Rat) * 2 ^ (-47 : Int) = 40
  norm_num

theorem slight_forty : Slight 40 := by
  refine ⟨by decide, ?_⟩
  rw [value_forty]
  calc |(40 : Rat)| < 2 ^ 6 := by norm_num
    _ ≤ 2 ^ 970 := pow_le_pow_right₀ one_le_two (by decide)

/-! ### Integers -/

theorem isFinite_neg {x : Float} (hx : x.isFinite = true) : (-x).isFinite = true := by
  have hparts := parts_unpack hx
  show (pack (UnpackedFloat.neg x.toModel.unpack)).isFinite = true
  generalize x.toModel.unpack = f at hparts
  generalize value x = v at hparts
  cases hparts with
  | zero s => exact isFinite_pack_zero _
  | finite s m e hm hlt he hcanonical => exact (isFinite_pack_finite hm).mpr he

theorem isFinite_mul_one {x : Float} (hx : x.isFinite = true) :
    (x * .ofBits 0x3FF0000000000000).isFinite = true := by
  have hparts := parts_unpack hx
  have hone : (Float.ofBits 0x3FF0000000000000).toModel.unpack =
    .finite .positive (2 ^ 52) (-52) (by decide) := rfl
  show (pack (UnpackedFloat.mul .binary64 x.toModel.unpack _)).isFinite = true
  rw [hone]
  generalize x.toModel.unpack = f at hparts
  generalize value x = v at hparts
  cases hparts with
  | zero s => exact isFinite_pack_zero _
  | finite s m e hm hlt he hcanonical =>
    have hvalue : ((m * 2 ^ 52 : Nat) : Rat) * 2 ^ (e + -52) = m * 2 ^ e := by
      rw [zpow_add₀ two_ne_zero]
      push_cast
      rw [mul_mul_mul_comm]
      norm_num
    have hlog : 52 ≤ (m * 2 ^ 52).log2 := by
      rw [Nat.le_log2 (by positivity)]
      exact Nat.le_mul_of_pos_left _ hm
    show (pack (roundWithAccuracy .binary64 _ (m * 2 ^ 52) (e + -52) .exact)).isFinite = true
    rw [isFinite_roundWithAccuracy_iff (by positivity) (.inl hlog), hvalue, ← abs_apply s]
    exact (Parts.finite s m e hm hlt he hcanonical).abs_le.trans_lt greatest_lt

theorem cast_lt_limit {n : Nat} (hn : n < 2 ^ 64) : (n : Rat) < limit := by
  have hcast : (n : Rat) < 2 ^ 64 := by exact_mod_cast hn
  calc (n : Rat) < 2 ^ 64 := hcast
    _ ≤ 2 ^ 1023 := pow_le_pow_right₀ one_le_two (by decide)
    _ ≤ limit := by
      rw [← zpow_ofNat]
      exact le_limit

theorem isFinite_ofNat {n : Nat} (hn : n < 2 ^ 64) : (Float.ofNat n).isFinite = true := by
  show (Float.ofScientific n false 0).isFinite = true
  unfold Float.ofScientific
  split
  · refine isFinite_mul_one ?_
    show (pack (UnpackedFloat.normalize .binary64 (n.toUInt64.toNat : Int) 0 .positive)).isFinite = true
    rw [isFinite_normalize_iff, Int.cast_natCast, zpow_zero, mul_one, Nat.abs_cast]
    exact cast_lt_limit n.toUInt64.toNat_lt
  · next h =>
    have hlarge : 2 ^ 53 ≤ n := by omega
    have hpos : n ≠ 0 := by omega
    have hvalue : ((n <<< 53 : Nat) : Rat) * 2 ^ (-53 : Int) = n := by
      calc ((n <<< 53 : Nat) : Rat) * 2 ^ (-53 : Int) = n * 2 ^ (0 : Int) := shiftLeft_value n 53 0
        _ = n := by rw [zpow_zero, mul_one]
    have hlog : (n <<< 53).log2 = n.log2 + 53 := log2_shiftLeft hpos 53
    show (pack (UnpackedFloat.ofScientific .binary64 n (Int.ofNat 0))).isFinite = true
    unfold UnpackedFloat.ofScientific
    rw [dif_neg hpos, if_neg (by decide), if_neg (by simp), if_pos (by decide)]
    have hbits : Format.mantissaBits .binary64 = 53 := rfl
    have hpower : 10 ^ (Int.ofNat 0).toNat = 1 := rfl
    simp only [UnpackedFloat.mul, hbits, hpower, Nat.mul_one]
    rw [isFinite_roundWithAccuracy_iff ?_ (.inl (by omega))]
    · rw [add_zero]
      exact hvalue.trans_lt (cast_lt_limit hn)
    · rw [Nat.shiftLeft_eq]
      positivity

/-- Integers of 64 bits have a finite float. -/
theorem isFinite_ofInt {i : Int} (hlow : -2 ^ 63 ≤ i) (hhigh : i < 2 ^ 64) :
    (Float.ofInt i).isFinite = true := by
  cases i with
  | ofNat n => exact isFinite_ofNat (Int.ofNat_lt.mp hhigh)
  | negSucc n => exact isFinite_neg (isFinite_ofNat (by omega))

end WorkflowCanvas.Rounding
