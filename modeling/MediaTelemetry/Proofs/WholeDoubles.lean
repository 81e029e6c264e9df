import MediaTelemetry.Proofs.Doubles

/-!
# Whole numbers as doubles

Whole numbers of 64 bits are finite as doubles (`Double.isFinite_ofInt`). They are rounded and, if
they are small, multiplied by one. Both leave 53 bits of mantissa and an exponent that is at most
one above what the size of the exact result asks for (`Double.normal_roundWithAccuracy`), and with
such an exponent a form can be packed and comes back with the same exponent
(`Double.normal_unpack_pack`).
-/

namespace MediaTelemetry

namespace Double

open Float.Model UnpackedFloat

/-- The form is zero, or has 53 bits of mantissa and an exponent within bounds. -/
def Normal (low high : Int) : UnpackedFloat → Prop
  | .zero _ => True
  | .finite _ m e _ => 2 ^ 52 ≤ m ∧ m < 2 ^ 53 ∧ low ≤ e ∧ e ≤ high
  | _ => False

section Normal

variable {low high : Int} {u : UnpackedFloat}

theorem Normal.isFinite (h : Normal low high u) : u.isFinite = true := by
  cases u with
  | zero => rfl
  | finite => rfl
  | infinity => exact h.elim
  | notANumber => exact h.elim

theorem Normal.neg (h : Normal low high u) : Normal low high u.neg := by
  cases u with
  | zero => trivial
  | finite => exact h
  | infinity => exact h.elim
  | notANumber => exact h.elim

end Normal

/-! ### Rounding -/

theorem log2_mul_two_pow {m : Nat} (hm : 0 < m) (k : Nat) : (m * 2 ^ k).log2 = m.log2 + k := by
  induction k with
  | zero => rw [Nat.pow_zero, Nat.mul_one, Nat.add_zero]
  | succ k ih =>
    have hpos : m * 2 ^ k ≠ 0 := (Nat.mul_pos hm (Nat.two_pow_pos k)).ne'
    rw [Nat.pow_succ, ← Nat.mul_assoc, Nat.mul_comm _ 2, Nat.log2_two_mul hpos, ih, Nat.add_assoc]

theorem log2_eq_of_bounds {m : Nat} (hle : 2 ^ 52 ≤ m) (hlt : m < 2 ^ 53) : m.log2 = 52 := by
  have hne : m ≠ 0 := ((Nat.two_pow_pos 52).trans_le hle).ne'
  exact (Nat.log2_eq_iff hne).2 ⟨hle, hlt⟩

theorem exponent_shiftToTargetExponent (m : Nat) {e : Int} (he : -1074 ≤ e) (a : Accuracy) :
    (shiftToTargetExponent Format.binary64 m e a).2 = e + (m.log2 - 52 : Nat) := by
  rw [shiftToTargetExponent, shiftToExponent]
  exact congrArg (fun k : Nat ↦ e + (k : Int)) (shiftAmount_eq m he)

/-- Rounding adds one at most. -/
theorem roundToNearestEven_le (m : Nat) (a : Accuracy) : a.roundToNearestEven m ≤ m + 1 := by
  rcases a with _ | (_ | _ | _)
  · exact Nat.le_succ m
  · exact Nat.le_succ m
  · exact Nat.add_le_add_left (Nat.le_of_lt_succ (Nat.mod_lt _ (by decide))) m
  · exact Nat.le_refl _

/-- Of at least 53 bits a shift keeps 53. -/
theorem le_shifted {m : Nat} (hm : 2 ^ 52 ≤ m) : 2 ^ 52 ≤ m / 2 ^ (m.log2 - 52) := by
  have hne : m ≠ 0 := ((Nat.two_pow_pos 52).trans_le hm).ne'
  have hlog : 52 ≤ m.log2 := (Nat.le_log2 hne).2 hm
  rw [Nat.le_div_iff_mul_le (Nat.two_pow_pos _), ← Nat.pow_add, Nat.add_sub_cancel' hlog]
  exact Nat.log2_self_le hne

/-- A rounded form has the exponent that its size asks for, or the next one if it carried over. -/
theorem normal_roundWithAccuracy (s : Sign) {m : Nat} (hm : 2 ^ 52 ≤ m) {e low high : Int}
    (he : -1074 ≤ e) (a : Accuracy) (hlow : low ≤ e + (m.log2 - 52 : Nat))
    (hhigh : e + (m.log2 - 52 : Nat) + 1 ≤ high) :
    Normal low high (roundWithAccuracy Format.binary64 s m e a) := by
  rw [roundWithAccuracy]
  dsimp only
  set first := shiftToTargetExponent Format.binary64 m e a with hfirst
  have hmantissa : 2 ^ 52 ≤ first.1.mantissa ∧ first.1.mantissa < 2 ^ 53 := by
    rw [hfirst, mantissa_shiftToTargetExponent he]
    exact ⟨le_shifted hm, (shifted_bounds ((Nat.two_pow_pos 52).trans_le hm)).2⟩
  have hexponent : first.2 = e + (m.log2 - 52 : Nat) := exponent_shiftToTargetExponent m he a
  have hfirst : -1074 ≤ first.2 := he.trans (le_exponent_shiftToTargetExponent m e a)
  have hle : 2 ^ 52 ≤ first.1.roundedMantissa := hmantissa.1.trans (le_roundToNearestEven _ _)
  have hpos : 0 < first.1.roundedMantissa := (Nat.two_pow_pos 52).trans_le hle
  have hlog : first.1.roundedMantissa.log2 ≤ 53 := by
    refine Nat.le_of_lt_succ ((Nat.log2_lt hpos.ne').2 ?_)
    calc first.1.roundedMantissa ≤ first.1.mantissa + 1 := roundToNearestEven_le _ _
      _ ≤ 2 ^ 53 := Nat.succ_le_of_lt hmantissa.2
      _ < 2 ^ 54 := by decide
  split
  · trivial
  · refine ⟨?_, ?_, ?_, ?_⟩
    · rw [mantissa_shiftToTargetExponent hfirst]
      exact le_shifted hle
    · rw [mantissa_shiftToTargetExponent hfirst]
      exact (shifted_bounds hpos).2
    · exact hlow.trans (hexponent ▸ le_exponent_shiftToTargetExponent _ _ _)
    · rw [exponent_shiftToTargetExponent _ hfirst, hexponent]
      omega

/-- A positive whole number is brought to at least 53 bits before it is rounded. -/
theorem normal_round (s : Sign) {n : Nat} (hn : 0 < n) (hlog : n.log2 ≤ 64) :
    Normal (-52) 13 (UnpackedFloat.round Format.binary64 s n 0) := by
  have htarget : Format.binary64.targetExponent (totalExponent n 0) = (n.log2 : Int) - 52 := by
    show max ((n.log2 : Int) + 1 + 0 - 53) (-1074) = _
    omega
  rw [UnpackedFloat.round]
  dsimp only
  rw [htarget, decreaseExponent, Nat.shiftLeft_eq]
  dsimp only
  set k := (0 - ((n.log2 : Int) - 52)).toNat with hk
  have hlogShifted := log2_mul_two_pow hn k
  have hle : 2 ^ 52 ≤ n * 2 ^ k :=
    (Nat.le_log2 (Nat.mul_pos hn (Nat.two_pow_pos k)).ne').1 (by omega)
  exact normal_roundWithAccuracy s hle (by omega) .exact (by omega) (by omega)

/-! ### Packing -/

/-- Bits whose exponent is neither the least nor the greatest are those of a normal form. -/
theorem normal_unpack_packComponents (s : Sign) {e : BitVec Format.binary64.exponentBits}
    {m : BitVec Format.binary64.mantissaBitsWithoutImplicit} {low high : Int} (he : e ≠ -1#_)
    (hleast : -1074 < low) (hlow : low ≤ (e.toNat : Int) - 1075)
    (hhigh : (e.toNat : Int) - 1075 ≤ high) :
    Normal low high
      (UnpackedFloat.unpack Format.binary64 (packComponents Format.binary64 s e m)) := by
  have hbias : (Format.binary64.exponentBias : Int) +
      Format.binary64.mantissaBitsWithoutImplicit = 1075 := by decide
  have hzero : e ≠ 0#_ := by
    rintro rfl
    have htoNat : (BitVec.ofNat Format.binary64.exponentBits 0).toNat = 0 := rfl
    omega
  have hcanonical := canonical_unpack_bits (packComponents Format.binary64 s e m)
  rw [UnpackedFloat.unpack] at hcanonical ⊢
  simp only [unpackExponent_packComponents, unpackMantissa_packComponents, hbias, if_neg he,
    if_neg hzero] at hcanonical ⊢
  obtain ⟨hlt, -, hle | hleast'⟩ := hcanonical
  · exact ⟨hle, hlt, hlow, hhigh⟩
  · omega

/-- A normal form comes back from its bits with the same exponent. -/
theorem normal_unpack_pack {low high : Int} (hlow : -1074 < low) (hhigh : high ≤ 970)
    {u : UnpackedFloat} (h : Normal low high u) :
    Normal low high (Float.Model.pack u).unpack := by
  cases u with
  | infinity => exact h.elim
  | notANumber => exact h.elim
  | zero s =>
    show Normal low high (UnpackedFloat.unpack Format.binary64 (packedZero Format.binary64 s))
    rw [unpack_packedZero]
    trivial
  | finite s m e hpos =>
    obtain ⟨hle, hlt, he, he'⟩ := h
    have hbias : (e + Format.binary64.exponentBias +
        Format.binary64.mantissaBitsWithoutImplicit).toNat = (e + 1075).toNat :=
      congrArg Int.toNat (add_assoc ..)
    have hbits : ¬ 2 ^ Format.binary64.exponentBits ≤ (e + 1075).toNat + 1 := by
      show ¬ 2 ^ 11 ≤ _
      omega
    have hbiased : (BitVec.ofNat Format.binary64.exponentBits (e + 1075).toNat).toNat =
        (e + 1075).toNat :=
      Nat.mod_eq_of_lt (Nat.lt_of_succ_lt (Nat.lt_of_not_le hbits))
    have hlog : m.log2 + 1 = Format.binary64.mantissaBits :=
      congrArg (· + 1) (log2_eq_of_bounds hle hlt)
    show Normal low high
      (UnpackedFloat.unpack Format.binary64 (UnpackedFloat.pack Format.binary64 _))
    rw [UnpackedFloat.pack]
    dsimp only
    rw [hbias, if_neg hbits, if_pos hlog]
    refine normal_unpack_packComponents s (fun h ↦ ?_) hlow ?_ ?_
    · have hmax : (e + 1075).toNat = 2 ^ 11 - 1 := hbiased.symm.trans (congrArg BitVec.toNat h)
      exact hbits (by rw [hmax]; decide)
    · rw [hbiased]
      omega
    · rw [hbiased]
      omega

/-! ### Whole numbers -/

theorem normal_toFloat (n : UInt64) : Normal (-52) 13 n.toFloat.toModel.unpack := by
  refine normal_unpack_pack (by decide) (by decide) ?_
  show Normal (-52) 13 (UnpackedFloat.normalize Format.binary64 (n.toNat : Int) 0 .positive)
  rw [UnpackedFloat.normalize]
  rcases Nat.eq_zero_or_pos n.toNat with hzero | hpos
  · rw [hzero]
    trivial
  · rw [compare_gt_iff_gt.2 (Int.natCast_pos.2 hpos)]
    exact normal_round .positive hpos (Nat.le_of_lt ((Nat.log2_lt hpos.ne').2 n.toNat_lt))

/-- Multiplied by one, a normal form may be rounded up to the next exponent. -/
theorem normal_mul_one {high : Int} {u : UnpackedFloat} (h : Normal (-52) high u) :
    Normal (-52) (high + 1) (UnpackedFloat.mul Format.binary64 u (1.0 : Float).toModel.unpack) := by
  have hone : (1.0 : Float).toModel.unpack = .finite .positive (2 ^ 52) (-52) (by decide) := rfl
  rw [hone]
  cases u with
  | infinity => exact h.elim
  | notANumber => exact h.elim
  | zero s => trivial
  | finite s m e hpos =>
    obtain ⟨hle, hlt, he, he'⟩ := h
    have hlog : (m * 2 ^ 52).log2 = 104 := by
      rw [log2_mul_two_pow hpos, log2_eq_of_bounds hle hlt]
    have hlarge : 2 ^ 52 ≤ m * 2 ^ 52 := Nat.le_mul_of_pos_left _ hpos
    refine normal_roundWithAccuracy _ hlarge (by omega) .exact ?_ ?_
    · rw [hlog]
      omega
    · rw [hlog]
      omega

/-- A whole number of up to 64 bits, in one of the two ways in which it is read. -/
theorem normal_ofNat {n : Nat} (hn : n ≤ 2 ^ 64) :
    Normal (-52) 14 (Float.ofNat n).toModel.unpack := by
  show Normal (-52) 14 (Float.ofScientific n false 0).toModel.unpack
  rw [Float.ofScientific]
  split
  · exact normal_unpack_pack (by decide) (by decide) (normal_mul_one (normal_toFloat _))
  · rename_i hlarge
    have hle : 2 ^ 53 ≤ n := Nat.not_lt.1 fun hlt ↦ hlarge ⟨hlt, by decide⟩
    have hpos : 0 < n := (Nat.two_pow_pos 53).trans_le hle
    refine normal_unpack_pack (by decide) (by decide) ?_
    have hsmall : ¬ Int.ofNat 0 < -(2 ^ Format.binary64.exponentBits + (n.log2 : Int)) := by
      have hbits : (0 : Int) ≤ 2 ^ Format.binary64.exponentBits := by decide
      show ¬ (0 : Int) < _
      omega
    rw [if_neg Bool.false_ne_true, UnpackedFloat.ofScientific, dif_neg hpos.ne',
      if_neg (by decide), if_neg hsmall, if_pos (by decide)]
    have hwidth : Format.binary64.mantissaBits = 53 := rfl
    have hten : 10 ^ (Int.ofNat 0).toNat = 1 := rfl
    rw [UnpackedFloat.mul, hten, Nat.mul_one, hwidth, Nat.shiftLeft_eq]
    have hlog : n.log2 < 65 := (Nat.log2_lt hpos.ne').2 (hn.trans_lt (by decide))
    have hleast : 53 ≤ n.log2 := (Nat.le_log2 hpos.ne').2 hle
    have hshifted : (n * 2 ^ 53).log2 = n.log2 + 53 := log2_mul_two_pow hpos 53
    refine normal_roundWithAccuracy _ ?_ (by decide) .exact ?_ ?_
    · omega
    · rw [hshifted]
      omega
    · rw [hshifted]
      omega

theorem isFinite_ofInt {n : Int} (hlow : -2 ^ 64 ≤ n) (hhigh : n < 2 ^ 64) :
    (Float.ofInt n).isFinite = true := by
  cases n with
  | ofNat n => exact (normal_ofNat (Nat.le_of_lt (Int.ofNat_lt.1 hhigh))).isFinite
  | negSucc n =>
    have hnormal : Normal (-52) 14 (Float.ofNat n.succ).toModel.unpack := normal_ofNat (by omega)
    exact (normal_unpack_pack (by decide) (by decide) hnormal.neg).isFinite

end Double

end MediaTelemetry
