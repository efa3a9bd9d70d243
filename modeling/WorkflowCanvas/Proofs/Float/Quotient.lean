import WorkflowCanvas.Proofs.Float.Finite

/-! Quotients of double precision arithmetic. What is divided by a number of at least two stays finite, and
the powers of ten that are in range are such numbers. -/
namespace WorkflowCanvas.Rounding
open Float.Model Float.Model.UnpackedFloat

/-! ### Quotients -/

theorem mantissa_ofMantissaAndAccuracy (m : Nat) (accuracy : Accuracy) :
    (ExtendedMantissa.ofMantissaAndAccuracy m accuracy).mantissa = m := by
  rcases accuracy with _ | _ | _ | _ <;> rfl

/-- A result that is not near the limit is finite, exact or not. -/
theorem isFinite_roundWithAccuracy_of_le {s : Sign} {m : Nat} {e : Int} (accuracy : Accuracy)
    (hm : m.log2 + e ≤ 1022) (he : e ≤ 970) :
    (pack (roundWithAccuracy .binary64 s m e accuracy)).isFinite = true := by
  have hfirst : shiftToTargetExponent .binary64 m e accuracy =
      (ExtendedMantissa.ofMantissaAndAccuracy m accuracy >>> dropped m e, e + dropped m e) := by
    rw [shiftToTargetExponent, targetExponent_eq]
    rfl
  unfold roundWithAccuracy
  rw [hfirst]
  dsimp only
  generalize hem : ExtendedMantissa.ofMantissaAndAccuracy m accuracy >>> dropped m e = em
  have hmantissa : em.mantissa < 2 ^ 53 := by
    have hlog : m.log2 + 1 ≤ 53 + dropped m e := by
      unfold dropped target
      omega
    rw [← hem, mantissa_shift, mantissa_ofMantissaAndAccuracy, Nat.div_lt_iff_lt_mul (by positivity),
      ← Nat.pow_add]
    exact Nat.lt_log2_self.trans_le (Nat.pow_le_pow_right (by decide) hlog)
  have hrounded : em.roundedMantissa.log2 < 54 := by
    have hup := (roundedMantissa_bounds em).2
    by_cases hzero : em.roundedMantissa = 0
    · rw [hzero]
      decide
    · exact (Nat.log2_lt hzero).mpr (by omega)
  rw [shiftToTargetExponent_eq]
  refine isFinite_pack_ofMantissa.mpr (.inr ?_)
  unfold dropped target
  omega

theorem log2_div_add_log2_le {m n : Nat} (h : m / n ≠ 0) : (m / n).log2 + n.log2 ≤ m.log2 := by
  have hn : n ≠ 0 := by
    rintro rfl
    exact h m.div_zero
  have hle : m / n * n ≤ m := Nat.div_mul_le_self m n
  rw [Nat.le_log2 (by rintro rfl; exact h n.zero_div), Nat.pow_add]
  exact (Nat.mul_le_mul (Nat.log2_self_le h) (Nat.log2_self_le hn)).trans hle

theorem divCore_eq (m n : Nat) (e d : Int) : ∃ k accuracy, k ≤ e - d ∧
    k ≤ max ((m.log2 + e) - (n.log2 + d) - 53) (-1074) ∧
    divCore .binary64 m e n d = (m <<< (e - d - k).toNat / n, k, accuracy) := by
  refine ⟨_, _, min_le_left _ _, (min_le_right _ _).trans ?_, rfl⟩
  have htotal (m : Nat) (e : Int) : totalExponent m e = m.log2 + 1 + e := rfl
  have hdigits : (Format.mantissaBits .binary64 : Int) = 53 := rfl
  have hmin : Format.minExponent .binary64 = -1074 := by decide
  rw [htotal, htotal]
  unfold Format.targetExponent
  omega

/-- A number of at least two, or the opposite of one. -/
def Sizable : UnpackedFloat → Prop
  | .finite _ m e _ => 1 ≤ m.log2 + e
  | _ => False

instance : DecidablePred Sizable
  | .finite _ m e _ => inferInstanceAs (Decidable (1 ≤ m.log2 + e))
  | .zero _ => inferInstanceAs (Decidable False)
  | .infinity _ => inferInstanceAs (Decidable False)
  | .notANumber => inferInstanceAs (Decidable False)

theorem isFinite_div {x y : Float} (hx : x.isFinite = true) (hy : Sizable y.toModel.unpack) :
    (x / y).isFinite = true := by
  have hparts := parts_unpack hx
  show (pack (UnpackedFloat.div .binary64 x.toModel.unpack y.toModel.unpack)).isFinite = true
  generalize x.toModel.unpack = f at hparts
  generalize value x = v at hparts
  generalize y.toModel.unpack = g at hy
  cases g with
  | finite t n d hn =>
    have hsize : 1 ≤ n.log2 + d := hy
    cases hparts with
    | zero s => exact isFinite_pack_zero _
    | finite s m e hm hlt he hcanonical =>
      have hlog : m.log2 ≤ 52 := Nat.lt_succ_iff.mp ((Nat.log2_lt hm.ne').mpr hlt)
      obtain ⟨k, accuracy, hshift, htarget, hcore⟩ := divCore_eq m n e d
      rw [UnpackedFloat.div, hcore]
      refine isFinite_roundWithAccuracy_of_le accuracy ?_ (by omega)
      by_cases hq : m <<< (e - d - k).toNat / n = 0
      · rw [hq, Nat.log2_zero]
        omega
      · have hbound := log2_div_add_log2_le hq
        rw [log2_shiftLeft hm.ne'] at hbound
        omega
  | _ => cases hy

/-! ### Powers of ten -/

theorem sizable_pack {s : Sign} {m : Nat} {e : Int} (hm : 0 < m) (hlog : m.log2 = 52) (hlow : -51 ≤ e)
    (hhigh : e ≤ 971) : Sizable (Float.Model.pack (.finite s m e hm)).unpack := by
  have hbias : (e + (Format.exponentBias .binary64 : Int) + (52 : Nat)).toNat = (e + 1075).toNat := by
    rw [show Format.exponentBias .binary64 = 1023 from rfl, add_assoc]
    rfl
  have hbias' : Format.exponentBias .binary64 = 1023 := rfl
  have hbits : Format.mantissaBits .binary64 = 53 := rfl
  have hsmall : ¬2 ^ Format.exponentBits .binary64 ≤ (e + 1075).toNat + 1 := by
    show ¬2 ^ 11 ≤ _
    omega
  unfold Float.Model.pack UnpackedFloat.pack
  simp only [hbias, if_neg hsmall, hlog, hbits, if_true]
  unfold Float.Model.unpack UnpackedFloat.unpack
  simp only [unpackExponent_packComponents, unpackMantissa_packComponents]
  have hvalue : (BitVec.ofNat 11 (e + 1075).toNat).toNat = (e + 1075).toNat := Nat.mod_eq_of_lt (by omega)
  have htop : BitVec.ofNat 11 (e + 1075).toNat ≠ -1#11 := fun h => by
    have hnat := congrArg BitVec.toNat h
    rw [hvalue] at hnat
    simp at hnat
    omega
  have hzero : BitVec.ofNat 11 (e + 1075).toNat ≠ 0#11 := fun h => by
    have hnat := congrArg BitVec.toNat h
    rw [hvalue] at hnat
    simp at hnat
    omega
  rw [if_neg htop, if_neg hzero]
  have hfull : 52 ≤ (1#1 ++ BitVec.ofNat 52 m).toNat.log2 := by
    rw [BitVec.toNat_append, ← Nat.shiftLeft_add_eq_or_of_lt (BitVec.isLt _), Nat.le_log2 (by simp)]
    simp
  show (1 : Int) ≤ (1#1 ++ BitVec.ofNat 52 m).toNat.log2 + _
  rw [hvalue, hbias']
  omega

theorem sizable_ofMantissa {s : Sign} {m : Nat} {e : Int} (hlow : 2 ^ 52 ≤ m) (hhigh : m < 2 ^ 53)
    (he : -51 ≤ e) (hfinite : (Float.Model.pack (ofMantissa s m e)).isFinite = true) :
    Sizable (Float.Model.pack (ofMantissa s m e)).unpack := by
  have hm : m ≠ 0 := by omega
  have hlog : m.log2 = 52 := by
    have hle := (Nat.le_log2 hm).mpr hlow
    have hlt := (Nat.log2_lt hm).mpr hhigh
    omega
  have htop : e ≤ 971 := (isFinite_pack_ofMantissa.mp hfinite).resolve_left hm
  rw [ofMantissa, dif_neg hm]
  exact sizable_pack _ hlog he htop

theorem sizable_roundWithAccuracy {s : Sign} {m : Nat} {e : Int} (hm : 53 ≤ m.log2) (he : 1 ≤ m.log2 + e)
    (hfinite : (Float.Model.pack (roundWithAccuracy .binary64 s m e .exact)).isFinite = true) :
    Sizable (Float.Model.pack (roundWithAccuracy .binary64 s m e .exact)).unpack := by
  have hpos : m ≠ 0 := by
    rintro rfl
    exact absurd hm (by decide)
  have htarget : e + dropped m e ≥ m.log2 + e - 52 := by
    unfold dropped target
    omega
  have hrounded : 2 ^ 52 ≤ rounded m e := by
    have hdropped : dropped m e = m.log2 - 52 := by
      unfold dropped target
      omega
    refine Nat.le_trans ?_ (floor_rounded m e).1
    rw [hdropped, Nat.le_div_iff_mul_le (by positivity), ← Nat.pow_add,
      show 52 + (m.log2 - 52) = m.log2 by omega]
    exact Nat.log2_self_le hpos
  rw [roundWithAccuracy_eq] at hfinite ⊢
  split at hfinite
  · next hsmall =>
    rw [if_pos hsmall]
    exact sizable_ofMantissa hrounded hsmall (by omega) hfinite
  · next hlarge =>
    rw [if_neg hlarge]
    exact sizable_ofMantissa (Nat.le_refl _) (by decide) (by omega) hfinite

theorem sizable_ofScientific {n : Nat} (hpos : 1 ≤ n) (hn : n ≤ 308) :
    Sizable (Float.ofScientific 1 false n).toModel.unpack := by
  by_cases hsmall : n ≤ 22
  · have htable : ∀ n ≤ 22, 1 ≤ n → Sizable (Float.ofScientific 1 false n).toModel.unpack := by
      decide +kernel
    exact htable n hsmall hpos
  · have hshift : (1 <<< 53) * 10 ^ n = (10 ^ n) <<< 53 := by
      rw [Nat.shiftLeft_eq, Nat.shiftLeft_eq, Nat.one_mul, Nat.mul_comm]
    have hpower : 10 ^ n ≠ 0 := by positivity
    have hlog : 3 ≤ (10 ^ n).log2 := by
      rw [Nat.le_log2 hpower]
      exact Nat.le_trans (by decide) (Nat.pow_le_pow_right (by decide) hpos)
    have hvalue : ((10 ^ n <<< 53 : Nat) : Rat) * 2 ^ (-53 : Int) = 10 ^ n := by
      refine (shiftLeft_value (10 ^ n) 53 0).trans ?_
      rw [zpow_zero, mul_one]
      exact Nat.cast_pow 10 n
    have hlimit : (10 : Rat) ^ n < limit := by
      have hgreat : (10 : Nat) ^ 308 < 18014398509481983 * 2 ^ 970 := by decide +kernel
      calc (10 : Rat) ^ n ≤ 10 ^ 308 := pow_le_pow_right₀ (by norm_num) hn
        _ < 18014398509481983 * 2 ^ 970 := by exact_mod_cast hgreat
        _ = limit := by norm_num [limit]
    have hscientific : (Float.ofScientific 1 false n).toModel =
        Float.Model.pack (roundWithAccuracy .binary64 .positive (10 ^ n <<< 53) (-53) .exact) := by
      rw [Float.ofScientific, dif_neg (by omega), ← hshift]
      show Float.Model.pack (UnpackedFloat.ofScientific .binary64 1 (Int.ofNat n)) = _
      have hbits : Format.mantissaBits .binary64 = 53 := rfl
      have hexponent : Format.exponentBits .binary64 = 11 := rfl
      unfold UnpackedFloat.ofScientific
      rw [dif_neg (by decide), if_neg (by rw [hexponent]; simp; omega), if_neg (by simp; omega),
        if_pos (by simp)]
      simp only [UnpackedFloat.mul, hbits]
      rfl
    have hmantissa : 53 ≤ (10 ^ n <<< 53).log2 ∧ 1 ≤ ((10 ^ n <<< 53).log2 : Int) + -53 := by
      rw [log2_shiftLeft hpower]
      omega
    rw [hscientific]
    refine sizable_roundWithAccuracy hmantissa.1 hmantissa.2 ?_
    rw [isFinite_roundWithAccuracy_iff ?_ (.inl (by omega)), hvalue]
    · exact hlimit
    · rw [Nat.shiftLeft_eq]
      positivity

end WorkflowCanvas.Rounding
